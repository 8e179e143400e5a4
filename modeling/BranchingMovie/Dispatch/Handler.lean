import BranchingMovie.Control
import BranchingMovie.HotZone.Rect

/-!
# Handlers

A handler is asked about each event of its kind and may answer with a jump.  It knows the frame on
display and how often it was asked before, so its answers may change in the course of time.
-/

namespace BranchingMovie

/-- A request to leave the current entry for the one `offset` entries further. -/
structure Transition where
  offset : Int32
  deriving DecidableEq, Repr

/-- What a handler gets to see of the moment in which an event arrives. -/
structure DispatchContext where
  /-- The frame on display; there is none before the first picture of a clip. -/
  currentFrame : Option Int32 := none
  deriving DecidableEq, Repr

/-- The answer to an event, given the number of events that were answered before. -/
def Handler (ε : Type) : Type :=
  Nat → ε → DispatchContext → Option Transition

namespace Handler

/-- Frames from a first to a last one. -/
structure Window where
  first : Int32
  last : Int32
  deriving DecidableEq, Repr

/-- The frame on display is known and lies in the window. -/
def Window.isOpen (window : Window) (context : DispatchContext) : Bool :=
  match context.currentFrame with
  | some frame => window.first ≤ frame && frame ≤ window.last
  | none => false

/-- Answers a button. -/
def onControl (control : Control) (offset : Int32) : Handler Control :=
  fun _ fired _ => if fired = control then some ⟨offset⟩ else none

/-- Answers a button while the frame on display lies in a window. -/
def onControlWithin (window : Window) (control : Control) (offset : Int32) : Handler Control :=
  fun _ fired context => if fired = control ∧ window.isOpen context then some ⟨offset⟩ else none

/-- Answers a click into a rectangle. -/
def onRect (rect : Rect) (offset : Int32) : Handler Point :=
  fun _ point _ => if rect.contains point.x point.y then some ⟨offset⟩ else none

/-- Answers every event. -/
def always {ε : Type} (offset : Int32) : Handler ε :=
  fun _ _ _ => some ⟨offset⟩

/-- Answers no event. -/
def never {ε : Type} : Handler ε :=
  fun _ _ _ => none

/-- Answers every event with the frame on display as the jump. -/
def toFrame {ε : Type} : Handler ε :=
  fun _ _ context => context.currentFrame.map Transition.mk

/-- Jumps one entry further for each event that came before. -/
def counting {ε : Type} (handler : Handler ε) : Handler ε :=
  fun calls event context =>
    (handler calls event context).map fun transition => ⟨transition.offset + Int32.ofNat calls⟩

end Handler
end BranchingMovie
