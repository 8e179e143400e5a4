import BranchingMovie.Proofs.Dispatch.Listeners
import BranchingMovie.Proofs.Outcome

/-!
# Nested scopes

A handler stack remembers where a scope begins by the lengths of its lists, and leaves the scope by
cutting the lists.  Here the scopes themselves are kept, each with its own handlers (`Scopes`), and
leaving one is to forget it.  A stack shows the same lists as the scopes, whatever is done to it
(`uncounted_run`): every mark is the length that the lists had in the scopes around it, so a cut
never takes too much or too little (`pop_flatten`).

`run_scopes` has what follows from this.  In particular, a scope with anything in it that is nested
well (`WellNested`) leaves nothing behind.
-/

namespace BranchingMovie

/-! ## Operations -/

/-- What may be done to a stack of handlers. -/
inductive StackOp
  | addControl (handler : Handler Control)
  | addPoint (handler : Handler Point)
  | addEndOfClip (handler : Handler Unit)
  | push
  | pop
  | reset
  | dispatchControl (control : Control) (context : DispatchContext)
  | dispatchPoint (point : Point) (context : DispatchContext)
  | dispatchEndOfClip (context : DispatchContext)

namespace StackOp

/-- The operation stays in its scope: a handler is added, or an event comes in. -/
def IsLocal : StackOp → Prop
  | push | pop | reset => False
  | _ => True

/-- What there is after an operation.  One that is refused changes nothing. -/
def after {σ : Type} (step : σ → StackOp → Except DispatchError σ) (state : σ) (op : StackOp) : σ :=
  match step state op with
  | .ok next => next
  | .error _ => state

/-- When an operation does the same to two things as they are seen, they look alike after it. -/
theorem after_congr {σ τ α : Type} {f : σ → α} {g : τ → α}
    {step : σ → StackOp → Except DispatchError σ} {other : τ → StackOp → Except DispatchError τ}
    {state : σ} {twin : τ} {op : StackOp} (h : f state = g twin)
    (hStep : (step state op).map f = (other twin op).map g) :
    f (after step state op) = g (after other twin op) := by
  unfold after
  cases hState : step state op with
  | error fault =>
    cases hTwin : other twin op with
    | error cause => exact h
    | ok next =>
      rw [hState, hTwin] at hStep
      cases hStep
  | ok next =>
    cases hTwin : other twin op with
    | error cause =>
      rw [hState, hTwin] at hStep
      cases hStep
    | ok last =>
      rw [hState, hTwin] at hStep
      exact Except.ok.inj hStep

end StackOp

/-- Operations that leave every scope they open, and no other. -/
inductive WellNested : List StackOp → Prop
  | nil : WellNested []
  | step {op : StackOp} {ops : List StackOp} (hLocal : op.IsLocal) (h : WellNested ops) :
    WellNested (op :: ops)
  | scope {inner ops : List StackOp} (hInner : WellNested inner) (h : WellNested ops) :
    WellNested (.push :: (inner ++ .pop :: ops))

namespace HandlerStack

/-- One operation on a stack. -/
def step (stack : HandlerStack) : StackOp → Except DispatchError HandlerStack
  | .addControl handler => .ok (stack.addControl handler).1
  | .addPoint handler => .ok (stack.addPoint handler).1
  | .addEndOfClip handler => .ok (stack.addEndOfClip handler).1
  | .push => .ok stack.push
  | .pop => stack.pop
  | .reset => .ok stack.reset
  | .dispatchControl control context => .ok (stack.dispatchControl control context).1
  | .dispatchPoint point context => .ok (stack.dispatchPoint point context).1
  | .dispatchEndOfClip context => .ok (stack.dispatchEndOfClip context).1

/-- The stack after operations. -/
def run (stack : HandlerStack) (ops : List StackOp) : HandlerStack :=
  ops.foldl (StackOp.after step) stack

/-! ## Operations up to the counts -/

section Uncounted

variable (stack : HandlerStack)

@[simp] theorem uncounted_addControl (handler : Handler Control) :
    (stack.addControl handler).1.uncounted = (stack.uncounted.addControl handler).1 := by
  simp [uncounted, addControl, Registered.uncounted]

@[simp] theorem uncounted_addPoint (handler : Handler Point) :
    (stack.addPoint handler).1.uncounted = (stack.uncounted.addPoint handler).1 := by
  simp [uncounted, addPoint, Registered.uncounted]

@[simp] theorem uncounted_addEndOfClip (handler : Handler Unit) :
    (stack.addEndOfClip handler).1.uncounted = (stack.uncounted.addEndOfClip handler).1 := by
  simp [uncounted, addEndOfClip, Registered.uncounted]

@[simp] theorem uncounted_push : stack.push.uncounted = stack.uncounted.push := by
  simp [uncounted, push]

@[simp] theorem uncounted_reset : stack.reset.uncounted = stack.uncounted.reset := by
  simp [uncounted, reset]

theorem map_uncounted_pop : stack.pop.map uncounted = stack.uncounted.pop := by
  unfold pop
  rw [show stack.uncounted.checkpoints = stack.checkpoints from rfl]
  cases stack.checkpoints with
  | nil => rfl
  | cons checkpoint checkpoints => simp [uncounted, Except.map, List.map_take]

/-- Stacks that differ in counts and in the next number only have handlers of the same numbers, in
as many scopes. -/
theorem ids_of_uncounted {stack other : HandlerStack} {nextId : Nat}
    (h : other.uncounted = { stack.uncounted with nextId }) :
    other.controlIds = stack.controlIds ∧ other.pointIds = stack.pointIds ∧
      other.endOfClipIds = stack.endOfClipIds ∧ other.depth = stack.depth := by
  have hControl := congrArg controlIds h
  have hPoint := congrArg pointIds h
  have hEndOfClip := congrArg endOfClipIds h
  have hDepth := congrArg depth h
  simp only [controlIds, uncounted, List.map_map] at hControl
  simp only [pointIds, uncounted, List.map_map] at hPoint
  simp only [endOfClipIds, uncounted, List.map_map] at hEndOfClip
  exact ⟨hControl, hPoint, hEndOfClip, hDepth⟩

end Uncounted

end HandlerStack

/-! ## Scopes -/

/-- The handlers that were added in one scope. -/
structure Scope where
  control : List (Registered Control) := []
  point : List (Registered Point) := []
  endOfClip : List (Registered Unit) := []

/-- Scopes within scopes. -/
structure Scopes where
  /-- The number of the next handler. -/
  nextId : Nat := 0
  /-- The innermost scope. -/
  top : Scope := {}
  /-- The scopes around it, from the inside to the base. -/
  below : List Scope := []

namespace Scopes

variable (scopes : Scopes)

/-- Adds a handler for buttons to the innermost scope. -/
def addControl (handler : Handler Control) : Scopes :=
  { scopes with
    nextId := scopes.nextId + 1
    top := { scopes.top with control := scopes.top.control ++ [⟨scopes.nextId, 0, handler⟩] } }

/-- Adds a handler for clicks to the innermost scope. -/
def addPoint (handler : Handler Point) : Scopes :=
  { scopes with
    nextId := scopes.nextId + 1
    top := { scopes.top with point := scopes.top.point ++ [⟨scopes.nextId, 0, handler⟩] } }

/-- Adds a handler for the end of a clip to the innermost scope. -/
def addEndOfClip (handler : Handler Unit) : Scopes :=
  { scopes with
    nextId := scopes.nextId + 1
    top := { scopes.top with endOfClip := scopes.top.endOfClip ++ [⟨scopes.nextId, 0, handler⟩] } }

/-- Opens a scope without handlers. -/
def push : Scopes :=
  { scopes with top := {}, below := scopes.top :: scopes.below }

/-- Forgets the innermost scope, unless it is the base. -/
def pop : Except DispatchError Scopes :=
  match scopes.below with
  | [] => .error .stackUnderflow
  | scope :: below => .ok { scopes with top := scope, below }

/-- Leaves a base without handlers. -/
def reset : Scopes :=
  { nextId := scopes.nextId }

/-- One operation on scopes.  Events change nothing. -/
def step : StackOp → Except DispatchError Scopes
  | .addControl handler => .ok (scopes.addControl handler)
  | .addPoint handler => .ok (scopes.addPoint handler)
  | .addEndOfClip handler => .ok (scopes.addEndOfClip handler)
  | .push => .ok scopes.push
  | .pop => scopes.pop
  | .reset => .ok scopes.reset
  | .dispatchControl .. => .ok scopes
  | .dispatchPoint .. => .ok scopes
  | .dispatchEndOfClip .. => .ok scopes

/-- The scopes after operations. -/
def run (ops : List StackOp) : Scopes :=
  ops.foldl (StackOp.after step) scopes

/-! ## The lists of scopes -/

/-- The handlers of a kind in scopes, which are given from the inside: those of the outermost scope
come first. -/
def listed {ε : Type} (kind : Scope → List (Registered ε)) (scopes : List Scope) :
    List (Registered ε) :=
  scopes.reverse.flatMap kind

theorem listed_cons {ε : Type} (kind : Scope → List (Registered ε)) (scope : Scope)
    (scopes : List Scope) :
    listed kind (scope :: scopes) = listed kind scopes ++ kind scope := by
  simp [listed]

/-- The mark behind scopes: how many handlers of each kind there are in them. -/
def mark (scopes : List Scope) : Checkpoint where
  control := (listed (·.control) scopes).length
  point := (listed (·.point) scopes).length
  endOfClip := (listed (·.endOfClip) scopes).length

/-- The marks behind each of the scopes around a scope. -/
def marks : List Scope → List Checkpoint
  | [] => []
  | scope :: below => mark (scope :: below) :: marks below

theorem length_marks (scopes : List Scope) : (marks scopes).length = scopes.length := by
  induction scopes with
  | nil => rfl
  | cons scope below ih => rw [marks, List.length_cons, List.length_cons, ih]

/-- The stack with the handlers of all scopes. -/
def flatten : HandlerStack where
  nextId := scopes.nextId
  control := listed (·.control) (scopes.top :: scopes.below)
  point := listed (·.point) (scopes.top :: scopes.below)
  endOfClip := listed (·.endOfClip) (scopes.top :: scopes.below)
  checkpoints := marks scopes.below

theorem flatten_addControl (handler : Handler Control) :
    (scopes.addControl handler).flatten = (scopes.flatten.addControl handler).1 := by
  simp [flatten, addControl, HandlerStack.addControl, listed_cons]

theorem flatten_addPoint (handler : Handler Point) :
    (scopes.addPoint handler).flatten = (scopes.flatten.addPoint handler).1 := by
  simp [flatten, addPoint, HandlerStack.addPoint, listed_cons]

theorem flatten_addEndOfClip (handler : Handler Unit) :
    (scopes.addEndOfClip handler).flatten = (scopes.flatten.addEndOfClip handler).1 := by
  simp [flatten, addEndOfClip, HandlerStack.addEndOfClip, listed_cons]

theorem flatten_push : scopes.push.flatten = scopes.flatten.push := by
  simp [flatten, push, HandlerStack.push, listed_cons, marks, mark]

theorem flatten_reset : scopes.reset.flatten = scopes.flatten.reset := rfl

/-- Cutting the lists at the newest mark forgets the innermost scope. -/
theorem pop_flatten : scopes.flatten.pop = scopes.pop.map flatten := by
  obtain ⟨nextId, top, below⟩ := scopes
  cases below with
  | nil => rfl
  | cons scope below =>
    simp only [flatten, pop, HandlerStack.pop, marks, mark, listed_cons _ top, List.take_left,
      Except.map]

/-- **A stack and scopes take every operation alike.** -/
theorem map_uncounted_step {stack : HandlerStack} {scopes : Scopes}
    (h : stack.uncounted = scopes.flatten) (op : StackOp) :
    (stack.step op).map HandlerStack.uncounted = (scopes.step op).map flatten := by
  cases op with
  | addControl handler => simp [HandlerStack.step, step, Except.map, h, flatten_addControl]
  | addPoint handler => simp [HandlerStack.step, step, Except.map, h, flatten_addPoint]
  | addEndOfClip handler => simp [HandlerStack.step, step, Except.map, h, flatten_addEndOfClip]
  | push => simp [HandlerStack.step, step, Except.map, h, flatten_push]
  | pop => rw [HandlerStack.step, step, HandlerStack.map_uncounted_pop, h, pop_flatten]
  | reset => simp [HandlerStack.step, step, Except.map, h, flatten_reset]
  | dispatchControl control context => simp [HandlerStack.step, step, Except.map, h]
  | dispatchPoint point context => simp [HandlerStack.step, step, Except.map, h]
  | dispatchEndOfClip context => simp [HandlerStack.step, step, Except.map, h]

/-- A stack shows what there is in the scopes, whatever has been done to both. -/
theorem uncounted_run {stack : HandlerStack} {scopes : Scopes}
    (h : stack.uncounted = scopes.flatten) (ops : List StackOp) :
    (stack.run ops).uncounted = (scopes.run ops).flatten := by
  induction ops generalizing stack scopes with
  | nil => exact h
  | cons op ops ih => exact ih (StackOp.after_congr h (map_uncounted_step h op))

/-! ## Scopes that are left again -/

theorem below_after_of_isLocal {op : StackOp} (h : op.IsLocal) :
    (StackOp.after step scopes op).below = scopes.below := by
  cases op with
  | push => cases h
  | pop => cases h
  | reset => cases h
  | _ => rfl

/-- What is nested well leaves the scopes around alone. -/
theorem below_run_of_wellNested {ops : List StackOp} (h : WellNested ops) :
    (scopes.run ops).below = scopes.below := by
  induction h generalizing scopes with
  | nil => rfl
  | @step op ops hLocal _ ih =>
    rw [run, List.foldl_cons]
    exact (ih _).trans (scopes.below_after_of_isLocal hLocal)
  | @scope inner ops _ _ ihInner ih =>
    rw [run, List.foldl_cons, List.foldl_append, List.foldl_cons]
    have hBelow : (scopes.push.run inner).below = scopes.top :: scopes.below := ihInner scopes.push
    have hPop : (StackOp.after Scopes.step (scopes.push.run inner) .pop).below = scopes.below := by
      simp only [StackOp.after, Scopes.step, pop, hBelow]
    exact (ih _).trans hPop

/-- A scope is left for the one around it as it was.  Only the numbers of its handlers are gone. -/
theorem pop_run_push {inner : List StackOp} (h : WellNested inner) :
    ∃ nextId, (scopes.push.run inner).pop = .ok { scopes with nextId } := by
  have hBelow : (scopes.push.run inner).below = scopes.top :: scopes.below :=
    scopes.push.below_run_of_wellNested h
  exact ⟨_, by simp only [pop, hBelow]; rfl⟩

end Scopes

/-- **A handler stack is a stack of nested scopes.**  After any operations, on the stack and on
scopes:
* each list of the stack, up to the counts of calls, is made of the lists of the scopes, from the
  base to the innermost one, and the depth of the stack is the number of scopes above the base;
* the stack refuses an operation exactly when the scopes do;
* a scope that is opened now leaves nothing behind, when what happens in it is nested well: it can
  be left, and then the numbers of all handlers and the depth are what they were before. -/
theorem run_scopes (ops : List StackOp) :
    let stack := ({} : HandlerStack).run ops
    let scopes := ({} : Scopes).run ops
    let all := scopes.below.reverse ++ [scopes.top]
    stack.nextId = scopes.nextId ∧
    stack.control.map Registered.uncounted = all.flatMap (·.control) ∧
    stack.point.map Registered.uncounted = all.flatMap (·.point) ∧
    stack.endOfClip.map Registered.uncounted = all.flatMap (·.endOfClip) ∧
    stack.depth = scopes.below.length ∧
    (∀ op fault, stack.step op = .error fault ↔ scopes.step op = .error fault) ∧
    ∀ inner, WellNested inner → ∃ left, (stack.push.run inner).pop = .ok left ∧
      left.controlIds = stack.controlIds ∧ left.pointIds = stack.pointIds ∧
      left.endOfClipIds = stack.endOfClipIds ∧ left.depth = stack.depth := by
  intro stack scopes all
  have hStart : ({} : HandlerStack).uncounted = ({} : Scopes).flatten := rfl
  have hStack : stack.uncounted = scopes.flatten := Scopes.uncounted_run hStart ops
  have hAll : all = (scopes.top :: scopes.below).reverse := List.reverse_cons.symm
  rw [hAll]
  refine ⟨congrArg HandlerStack.nextId hStack, congrArg HandlerStack.control hStack,
    congrArg HandlerStack.point hStack, congrArg HandlerStack.endOfClip hStack, ?_, ?_, ?_⟩
  · rw [← Scopes.length_marks]
    exact congrArg HandlerStack.depth hStack
  · intro op fault
    rw [← Outcome.map_error, Scopes.map_uncounted_step hStack, Outcome.map_error]
  · intro inner hNested
    have hPush : stack.push.uncounted = scopes.push.flatten := by
      rw [HandlerStack.uncounted_push, hStack, Scopes.flatten_push]
    have hInner := Scopes.uncounted_run hPush inner
    obtain ⟨nextId, hPop⟩ := scopes.pop_run_push hNested
    have hMap : (stack.push.run inner).pop.map HandlerStack.uncounted =
        .ok { stack.uncounted with nextId } := by
      rw [HandlerStack.map_uncounted_pop, hInner, Scopes.pop_flatten, hPop, hStack]
      rfl
    obtain ⟨left, hLeft, hUncounted⟩ := Outcome.map_ok.1 hMap
    exact ⟨left, hLeft, HandlerStack.ids_of_uncounted hUncounted⟩

/-- A scope with another one in it, and with events while it is open. -/
theorem run_scopes_of_two :
    let stack := ({} : HandlerStack).run
      [.addControl (Handler.onControl .yes 1), .pop, .addPoint Handler.never]
    let inner : List StackOp := [.addControl (Handler.onControl .no 2), .push,
      .addPoint Handler.never, .dispatchPoint ⟨1, 1⟩ {}, .pop, .addEndOfClip (Handler.always 3)]
    (stack.push.run inner).size = 4 ∧
    ∃ left, (stack.push.run inner).pop = .ok left ∧ left.controlIds = [0] ∧ left.pointIds = [1] ∧
      left.endOfClipIds = [] ∧ left.depth = 0 := by
  intro stack inner
  have hScope : WellNested [.addPoint Handler.never, .dispatchPoint ⟨1, 1⟩ {}] :=
    .step trivial (.step trivial .nil)
  have hEnd : WellNested [.addEndOfClip (Handler.always 3)] := .step trivial .nil
  have hNested : WellNested inner := .step trivial (.scope hScope hEnd)
  exact ⟨rfl, (run_scopes _).2.2.2.2.2.2 inner hNested⟩

end BranchingMovie
