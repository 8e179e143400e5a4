import BranchingMovie.Dispatch.Handler
import BranchingMovie.Numeral

/-!
# The handler stack

Handlers in nested scopes, in one list for each kind of event.  A mark remembers the lengths of the
three lists; going back to it drops the handlers added since.  Handlers for buttons and for the end
of a clip are asked oldest first, handlers for clicks newest first, because later regions lie on top
of earlier ones.  Every handler is asked about every event of its kind, and all answers are
collected.
-/

namespace BranchingMovie

/-! ## Registered handlers -/

/-- A handler with the number it was registered under and the number of events it was asked
about. -/
structure Registered (ε : Type) where
  id : Nat
  calls : Nat
  handler : Handler ε

namespace Registered

variable {ε : Type}

/-- The answer of a handler to an event. -/
def answer (event : ε) (context : DispatchContext) (entry : Registered ε) : Option Transition :=
  entry.handler entry.calls event context

/-- The handler after one more event. -/
def called (entry : Registered ε) : Registered ε :=
  { entry with calls := entry.calls + 1 }

end Registered

/-- The lengths of the three lists at the start of a scope. -/
structure Checkpoint where
  control : Nat
  point : Nat
  endOfClip : Nat
  deriving DecidableEq, Repr

/-- There is no scope to leave. -/
inductive DispatchError where
  | stackUnderflow
  deriving DecidableEq, Repr

/-- The wording of the refusal. -/
def DispatchError.message : DispatchError → String
  | stackUnderflow => "pop_handler_state called without a matching push"

/-- The handlers in all scopes; the newest mark comes first. -/
structure HandlerStack where
  nextId : Nat := 0
  control : List (Registered Control) := []
  point : List (Registered Point) := []
  endOfClip : List (Registered Unit) := []
  checkpoints : List Checkpoint := []

namespace HandlerStack

/-! ## Adding -/

/-- Adds a handler for buttons and gives its number. -/
def addControl (stack : HandlerStack) (handler : Handler Control) : HandlerStack × Nat :=
  ({ stack with
      nextId := stack.nextId + 1
      control := stack.control ++ [⟨stack.nextId, 0, handler⟩] }, stack.nextId)

/-- Adds a handler for clicks and gives its number. -/
def addPoint (stack : HandlerStack) (handler : Handler Point) : HandlerStack × Nat :=
  ({ stack with
      nextId := stack.nextId + 1
      point := stack.point ++ [⟨stack.nextId, 0, handler⟩] }, stack.nextId)

/-- Adds a handler for the end of a clip and gives its number. -/
def addEndOfClip (stack : HandlerStack) (handler : Handler Unit) : HandlerStack × Nat :=
  ({ stack with
      nextId := stack.nextId + 1
      endOfClip := stack.endOfClip ++ [⟨stack.nextId, 0, handler⟩] }, stack.nextId)

/-! ## Scopes -/

/-- Drops all handlers and all scopes.  Numbers are not given out again. -/
def reset (stack : HandlerStack) : HandlerStack :=
  { nextId := stack.nextId }

/-- Opens a scope. -/
def push (stack : HandlerStack) : HandlerStack :=
  { stack with
    checkpoints :=
      ⟨stack.control.length, stack.point.length, stack.endOfClip.length⟩ :: stack.checkpoints }

/-- Leaves the newest scope: the handlers added in it are dropped. -/
def pop (stack : HandlerStack) : Except DispatchError HandlerStack :=
  match stack.checkpoints with
  | [] => .error .stackUnderflow
  | checkpoint :: checkpoints =>
    .ok { stack with
      control := stack.control.take checkpoint.control
      point := stack.point.take checkpoint.point
      endOfClip := stack.endOfClip.take checkpoint.endOfClip
      checkpoints }

/-! ## Events -/

/-- Asks the handlers for buttons, the oldest first. -/
def dispatchControl (stack : HandlerStack) (control : Control) (context : DispatchContext) :
    HandlerStack × List Transition :=
  ({ stack with control := stack.control.map Registered.called },
    stack.control.filterMap (Registered.answer control context))

/-- Asks the handlers for clicks, the newest first. -/
def dispatchPoint (stack : HandlerStack) (point : Point) (context : DispatchContext) :
    HandlerStack × List Transition :=
  ({ stack with point := stack.point.map Registered.called },
    stack.point.reverse.filterMap (Registered.answer point context))

/-- Asks the handlers for the end of a clip, the oldest first. -/
def dispatchEndOfClip (stack : HandlerStack) (context : DispatchContext) :
    HandlerStack × List Transition :=
  ({ stack with endOfClip := stack.endOfClip.map Registered.called },
    stack.endOfClip.filterMap (Registered.answer () context))

/-! ## Views -/

/-- The numbers of the handlers for buttons, the oldest first. -/
def controlIds (stack : HandlerStack) : List Nat := stack.control.map (·.id)

/-- The numbers of the handlers for clicks, the oldest first. -/
def pointIds (stack : HandlerStack) : List Nat := stack.point.map (·.id)

/-- The numbers of the handlers for the end of a clip, the oldest first. -/
def endOfClipIds (stack : HandlerStack) : List Nat := stack.endOfClip.map (·.id)

/-- The number of handlers of all kinds. -/
def size (stack : HandlerStack) : Nat :=
  stack.control.length + stack.point.length + stack.endOfClip.length

/-- The number of open scopes. -/
def depth (stack : HandlerStack) : Nat :=
  stack.checkpoints.length

/-- The sizes of the stack on one line. -/
def summary (stack : HandlerStack) : String :=
  String.join ["EventDispatchStack \x7b control: ", Numeral.writeNat stack.control.length,
    ", point: ", Numeral.writeNat stack.point.length,
    ", end_of_clip: ", Numeral.writeNat stack.endOfClip.length,
    ", checkpoints: ", Numeral.writeNat stack.depth, " \x7d"]

end HandlerStack
end BranchingMovie
