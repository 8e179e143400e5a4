import Mathlib.Data.List.Basic
import BranchingMovie.Dispatch.Stack

/-!
# Who listens

The listeners of a stack are its handlers by their kinds, without the numbers they were registered
under and without the counts of their calls.  Dispatching an event changes nothing but these counts
(`uncounted_dispatchControl`, `uncounted_dispatchPoint`, `uncounted_dispatchEndOfClip`), and so it
changes no listener (`listeners_of_uncounted`).  Where all listeners of a kind are steady, their
answers depend on nothing else (`filterMap_answer`).
-/

namespace BranchingMovie

/-- The handlers of a stack by their kinds, the oldest first, and the marks of its scopes. -/
structure Listeners where
  control : List (Handler Control) := []
  point : List (Handler Point) := []
  endOfClip : List (Handler Unit) := []
  checkpoints : List Checkpoint := []

namespace HandlerStack

/-- Who listens in a stack. -/
def listeners (stack : HandlerStack) : Listeners where
  control := stack.control.map (·.handler)
  point := stack.point.map (·.handler)
  endOfClip := stack.endOfClip.map (·.handler)
  checkpoints := stack.checkpoints

variable (stack : HandlerStack)

@[simp] theorem listeners_addControl (handler : Handler Control) :
    (stack.addControl handler).1.listeners =
      { stack.listeners with control := stack.listeners.control ++ [handler] } := by
  simp [listeners, addControl]

@[simp] theorem listeners_addPoint (handler : Handler Point) :
    (stack.addPoint handler).1.listeners =
      { stack.listeners with point := stack.listeners.point ++ [handler] } := by
  simp [listeners, addPoint]

@[simp] theorem listeners_addEndOfClip (handler : Handler Unit) :
    (stack.addEndOfClip handler).1.listeners =
      { stack.listeners with endOfClip := stack.listeners.endOfClip ++ [handler] } := by
  simp [listeners, addEndOfClip]

/-- Handlers that are added one after the other listen in this order. -/
theorem listeners_foldl_addControl {α : Type} (handlerOf : α → Handler Control) (items : List α) :
    (items.foldl (fun stack item => (stack.addControl (handlerOf item)).1) stack).listeners =
      { stack.listeners with control := stack.listeners.control ++ items.map handlerOf } := by
  induction items generalizing stack with
  | nil => simp
  | cons item items ih => rw [List.foldl_cons, ih, listeners_addControl]; simp

end HandlerStack

/-! ## Stacks up to the counts -/

/-- The handler as if it had been asked about no event yet. -/
def Registered.uncounted {ε : Type} (entry : Registered ε) : Registered ε :=
  { entry with calls := 0 }

namespace HandlerStack

variable (stack : HandlerStack)

/-- The stack as if its handlers had been asked about no event yet. -/
def uncounted : HandlerStack :=
  { stack with
    control := stack.control.map Registered.uncounted
    point := stack.point.map Registered.uncounted
    endOfClip := stack.endOfClip.map Registered.uncounted }

@[simp] theorem listeners_uncounted : stack.uncounted.listeners = stack.listeners := by
  simp [listeners, uncounted, Registered.uncounted]

/-- The counts say nothing about who listens. -/
theorem listeners_of_uncounted {stack other : HandlerStack}
    (h : other.uncounted = stack.uncounted) : other.listeners = stack.listeners := by
  rw [← listeners_uncounted, h, listeners_uncounted]

@[simp] theorem uncounted_dispatchControl (control : Control) (context : DispatchContext) :
    (stack.dispatchControl control context).1.uncounted = stack.uncounted := by
  simp [uncounted, dispatchControl, Registered.uncounted, Registered.called]

@[simp] theorem uncounted_dispatchPoint (point : Point) (context : DispatchContext) :
    (stack.dispatchPoint point context).1.uncounted = stack.uncounted := by
  simp [uncounted, dispatchPoint, Registered.uncounted, Registered.called]

@[simp] theorem uncounted_dispatchEndOfClip (context : DispatchContext) :
    (stack.dispatchEndOfClip context).1.uncounted = stack.uncounted := by
  simp [uncounted, dispatchEndOfClip, Registered.uncounted, Registered.called]

end HandlerStack

/-! ## Steady handlers -/

namespace Handler

variable {ε : Type}

/-- A handler that does not care how often it was asked before. -/
def IsSteady (handler : Handler ε) : Prop :=
  ∀ calls event context, handler calls event context = handler 0 event context

theorem isSteady_onControl (control : Control) (offset : Int32) :
    (onControl control offset).IsSteady :=
  fun _ _ _ => rfl

theorem isSteady_onControlWithin (window : Window) (control : Control) (offset : Int32) :
    (onControlWithin window control offset).IsSteady :=
  fun _ _ _ => rfl

theorem isSteady_always (offset : Int32) : (always offset : Handler ε).IsSteady :=
  fun _ _ _ => rfl

/-- The answers of handlers to an event, as far as they have one. -/
def answers (handlers : List (Handler ε)) (event : ε) (context : DispatchContext) :
    List Transition :=
  handlers.filterMap fun handler => handler 0 event context

end Handler

/-- Steady handlers answer whatever the counts of their calls are. -/
theorem filterMap_answer {ε : Type} {entries : List (Registered ε)}
    (h : ∀ handler ∈ entries.map (·.handler), handler.IsSteady) (event : ε)
    (context : DispatchContext) :
    entries.filterMap (Registered.answer event context) =
      Handler.answers (entries.map (·.handler)) event context := by
  rw [Handler.answers, List.filterMap_map]
  refine List.filterMap_congr fun entry hEntry => ?_
  exact h entry.handler (List.mem_map_of_mem hEntry) entry.calls event context

end BranchingMovie
