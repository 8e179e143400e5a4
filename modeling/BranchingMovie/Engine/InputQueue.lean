import BranchingMovie.Control

/-!
# Input queues

Input waits here for the next tick, in the order of its arrival, and is remembered once it is
delivered.
-/

namespace BranchingMovie

/-- Input that waits, and input that was delivered. -/
structure InputQueue where
  pending : List InputEvent := []
  history : List InputEvent := []
  deriving DecidableEq, Repr

namespace InputQueue

/-- Adds an event behind those that wait. -/
def push (queue : InputQueue) (event : InputEvent) : InputQueue :=
  { queue with pending := queue.pending ++ [event] }

/-- Delivers the event that has waited longest. -/
def next (queue : InputQueue) : Option InputEvent × InputQueue :=
  match queue.pending with
  | [] => (none, queue)
  | event :: pending => (some event, ⟨pending, queue.history ++ [event]⟩)

/-- The event that has waited longest. -/
def peek (queue : InputQueue) : Option InputEvent :=
  queue.pending.head?

/-- Delivers all events. -/
def drain (queue : InputQueue) : List InputEvent × InputQueue :=
  (queue.pending, ⟨[], queue.history ++ queue.pending⟩)

end InputQueue
end BranchingMovie
