import Mathlib.Data.List.Nodup
import BranchingMovie.Proofs.Dispatch.Calls

/-!
# The numbers of handlers

A stack counts its additions and gives each handler the count as its number.  The count is never
taken back, neither where a scope is left nor where all handlers are dropped, while the three lists
that share it are cut and emptied.  So a number stands for one handler for good:

* **what is given out**: `numbers_eq` has the numbers that operations give out one after the other,
  and `number?_of_added?` shows each of them at the end of the list of its kind;
* **what is listed**: the lists ascend (`pairwise_ids`), stay below the count (`lt_nextId_of_mem`)
  and share no number (`kind_eq_of_mem`), because a number is that of one addition, and an addition
  is of one kind;
* **what is gone**: one operation lists nothing but the next number anew (`ids_after`), so an old
  number that is listed later has been in that list all the time (`mem_ids_of_run`).

`run_numbers` has all of it about the operations on a new stack.
-/

namespace BranchingMovie

/-! ## What is given out -/

namespace HandlerStack

/-- The number that an operation gives out, if it adds a handler. -/
def number? (stack : HandlerStack) : StackOp → Option Nat
  | .addControl handler => some (stack.addControl handler).2
  | .addPoint handler => some (stack.addPoint handler).2
  | .addEndOfClip handler => some (stack.addEndOfClip handler).2
  | _ => none

/-- The numbers that operations give out, in order. -/
def numbers (stack : HandlerStack) : List StackOp → List Nat
  | [] => []
  | op :: ops => (stack.number? op).toList ++ (StackOp.after step stack op).numbers ops

variable (stack : HandlerStack)

/-- Only additions give out a number, and it is the next one. -/
theorem number?_eq (op : StackOp) :
    stack.number? op = if op.adds then some stack.nextId else none := by
  cases op <;> rfl

/-- Operations give out as many numbers as there are additions, one after the other. -/
theorem numbers_eq (ops : List StackOp) :
    stack.numbers ops = List.range' stack.nextId (ops.countP StackOp.adds) := by
  induction ops generalizing stack with
  | nil => rfl
  | cons op ops ih =>
    rw [numbers, ih, number?_eq, nextId_after]
    by_cases hAdds : op.adds = true
    · rw [if_pos hAdds, if_pos hAdds, List.countP_cons_of_pos hAdds, List.range'_succ]
      rfl
    · rw [if_neg hAdds, if_neg hAdds, List.countP_cons_of_neg hAdds]
      rfl

theorem nodup_numbers (ops : List StackOp) : (stack.numbers ops).Nodup := by
  rw [numbers_eq]
  exact List.nodup_range'

theorem run_append (ops later : List StackOp) :
    stack.run (ops ++ later) = (stack.run ops).run later := by
  rw [run, run, run, List.foldl_append]

theorem nextId_le_after (op : StackOp) : stack.nextId ≤ (StackOp.after step stack op).nextId := by
  rw [nextId_after]
  split
  · exact Nat.le_succ _
  · exact Nat.le_refl _

theorem nextId_le_run (ops : List StackOp) : stack.nextId ≤ (stack.run ops).nextId := by
  induction ops generalizing stack with
  | nil => exact Nat.le_refl _
  | cons op ops ih => exact Nat.le_trans (stack.nextId_le_after op) (ih _)

end HandlerStack

/-! ## What is listed -/

namespace EventKind

/-- The numbers of the handlers for a kind of events, the oldest first. -/
def ids : EventKind → HandlerStack → List Nat
  | control, stack => stack.controlIds
  | point, stack => stack.pointIds
  | endOfClip, stack => stack.endOfClipIds

theorem ids_eq (kind : EventKind) (stack : HandlerStack) :
    kind.ids stack = (kind.handlers stack).map (·.id) := by
  cases kind <;> rfl

variable {kind other : EventKind} {stack : HandlerStack} {op : StackOp} {ops : List StackOp}
  {id : Nat}

theorem mem_ids : id ∈ kind.ids stack ↔ ∃ entry ∈ kind.handlers stack, entry.id = id := by
  rw [ids_eq, List.mem_map]

/-- An addition gives out the next number, and lists it last among those of its kind. -/
theorem number?_of_added? {handler : Handler kind.Event} (h : kind.added? op = some handler)
    (stack : HandlerStack) :
    stack.number? op = some stack.nextId ∧
      kind.ids (StackOp.after HandlerStack.step stack op) = kind.ids stack ++ [stack.nextId] := by
  refine ⟨?_, ?_⟩
  · rw [HandlerStack.number?_eq, if_pos (StackOp.adds_of_added? h)]
  · cases op with
    | addControl _ | addPoint _ | addEndOfClip _ =>
      cases kind <;> cases h
      exact List.map_append
    | _ => cases kind <;> cases h

/-- An operation adds handlers of one kind only. -/
theorem kind_eq_of_added? {handler : Handler kind.Event} {twin : Handler other.Event}
    (h : kind.added? op = some handler) (hTwin : other.added? op = some twin) : kind = other := by
  cases op with
  | addControl _ | addPoint _ | addEndOfClip _ =>
    cases kind <;> cases h
    cases other <;> cases hTwin
    rfl
  | _ => cases kind <;> cases h

/-- A number is that of one addition, so handlers of one number are of one kind. -/
theorem kind_eq_of_addedIn {entry : Registered kind.Event} {twin : Registered other.Event}
    (h : kind.AddedIn ops entry) (hTwin : other.AddedIn ops twin) (hId : entry.id = twin.id) :
    kind = other := by
  obtain ⟨earlier, op, hOps, hAdded, -⟩ := h
  obtain ⟨front, addition, hTwinOps, hTwinAdded, -⟩ := hTwin
  rw [hId] at hOps
  have hSplit := hOps.symm.trans hTwinOps
  -- what comes after the addition is the same, so the additions stand at the same place
  obtain ⟨-, hSame⟩ := List.append_inj' hSplit rfl
  obtain ⟨rfl, -⟩ := List.cons.inj hSame
  exact kind_eq_of_added? hAdded hTwinAdded

theorem kind_eq_of_mem (h : id ∈ kind.ids (({} : HandlerStack).run ops))
    (hOther : id ∈ other.ids (({} : HandlerStack).run ops)) : kind = other := by
  obtain ⟨entry, hEntry, hId⟩ := mem_ids.1 h
  obtain ⟨twin, hTwin, hTwinId⟩ := mem_ids.1 hOther
  exact kind_eq_of_addedIn (tallies_run hEntry).added (tallies_run hTwin).added
    (hId.trans hTwinId.symm)

theorem pairwise_ids (kind : EventKind) (ops : List StackOp) :
    (kind.ids (({} : HandlerStack).run ops)).Pairwise (· < ·) := by
  rw [ids_eq, List.pairwise_map]
  exact kind.pairwise_run ops

theorem lt_nextId_of_mem (h : id ∈ kind.ids (({} : HandlerStack).run ops)) :
    id < (({} : HandlerStack).run ops).nextId := by
  obtain ⟨entry, hEntry, rfl⟩ := mem_ids.1 h
  rw [HandlerStack.nextId_run]
  exact (tallies_run hEntry).added.id_lt

/-! ## What is gone -/

/-- After an operation, a list has the next number at its end, or it has nothing new. -/
theorem ids_after (kind : EventKind) (stack : HandlerStack) (op : StackOp) :
    kind.ids (StackOp.after HandlerStack.step stack op) = kind.ids stack ++ [stack.nextId] ∨
      kind.ids (StackOp.after HandlerStack.step stack op) <+: kind.ids stack := by
  rw [ids_eq, ids_eq]
  cases kind.change_after stack op with
  | added handler _ hNext =>
    left
    rw [hNext, List.map_append]
    rfl
  | called event context _ hNext =>
    right
    rw [hNext, List.map_map]
    exact List.prefix_rfl
  | kept _ hNext =>
    right
    exact hNext.map _

theorem mem_ids_of_after (hOld : id < stack.nextId)
    (h : id ∈ kind.ids (StackOp.after HandlerStack.step stack op)) : id ∈ kind.ids stack := by
  rcases kind.ids_after stack op with hAdded | hPrefix
  · rw [hAdded] at h
    rcases List.mem_append.1 h with hBefore | hNew
    · exact hBefore
    · exact absurd (List.mem_singleton.1 hNew) (Nat.ne_of_lt hOld)
  · exact hPrefix.subset h

/-- An old number that is listed after operations was listed before, in the same list. -/
theorem mem_ids_of_run (hOld : id < stack.nextId) (h : id ∈ kind.ids (stack.run ops)) :
    id ∈ kind.ids stack := by
  induction ops generalizing stack with
  | nil => exact h
  | cons op ops ih =>
    have hStillOld := Nat.lt_of_lt_of_le hOld (stack.nextId_le_after op)
    exact mem_ids_of_after hOld (ih hStillOld h)

/-- A number that is gone from its list is in no list any more. -/
theorem not_mem_ids_of_gone {earlier gone : List StackOp}
    (h : id ∈ kind.ids (({} : HandlerStack).run earlier))
    (hGone : id ∉ kind.ids (({} : HandlerStack).run (earlier ++ gone))) (later : List StackOp)
    (other : EventKind) :
    id ∉ other.ids (({} : HandlerStack).run (earlier ++ gone ++ later)) := by
  intro hBack
  have hGiven := lt_nextId_of_mem h
  have hStillGiven : id < (({} : HandlerStack).run (earlier ++ gone)).nextId := by
    rw [HandlerStack.run_append]
    exact Nat.lt_of_lt_of_le hGiven (HandlerStack.nextId_le_run _ gone)
  rw [HandlerStack.run_append] at hBack
  -- a list that has it back has had it all the time, so it is the list that it was gone from
  have hMiddle : id ∈ other.ids (({} : HandlerStack).run (earlier ++ gone)) :=
    mem_ids_of_run hStillGiven hBack
  have hFirst : id ∈ other.ids (({} : HandlerStack).run earlier) := by
    rw [HandlerStack.run_append] at hMiddle
    exact mem_ids_of_run hGiven hMiddle
  obtain rfl := kind_eq_of_mem h hFirst
  exact hGone hMiddle

end EventKind

/-- **A number stands for one handler, for good.**  After any operations on a new stack with fewer
additions than there are words of 64 bits:
* the count of the additions is such a word;
* the numbers in each list ascend, no number is in two lists, and all of them are below the next
  one;
* an addition gives out the next number, which stands last in the list of its kind then;
* no number has been given out twice, also where scopes were left or all handlers were dropped in
  between;
* a number that was once gone from its list has never come back, to this list or to another one. -/
theorem run_numbers (ops : List StackOp) (hFew : ops.countP StackOp.adds < UInt64.size) :
    let stack := ({} : HandlerStack).run ops
    stack.nextId < UInt64.size ∧
    (∀ kind : EventKind, (kind.ids stack).Pairwise (· < ·)) ∧
    (∀ kind other : EventKind, ∀ id ∈ kind.ids stack, id ∈ other.ids stack → kind = other) ∧
    (∀ kind : EventKind, ∀ id ∈ kind.ids stack, id < stack.nextId) ∧
    (∀ (kind : EventKind) op handler, kind.added? op = some handler →
      stack.number? op = some stack.nextId ∧
        kind.ids (stack.run [op]) = kind.ids stack ++ [stack.nextId]) ∧
    (({} : HandlerStack).numbers ops).Nodup ∧
    ∀ earlier gone later, ops = earlier ++ gone ++ later → ∀ kind : EventKind,
      ∀ id ∈ kind.ids (({} : HandlerStack).run earlier),
        id ∉ kind.ids (({} : HandlerStack).run (earlier ++ gone)) →
        ∀ other : EventKind, id ∉ other.ids stack := by
  intro stack
  refine ⟨?_, fun kind => kind.pairwise_ids ops, ?_, ?_, ?_, HandlerStack.nodup_numbers {} ops, ?_⟩
  · rw [HandlerStack.nextId_run]
    exact hFew
  · intro kind other id hMem hOther
    exact EventKind.kind_eq_of_mem hMem hOther
  · intro kind id hMem
    exact EventKind.lt_nextId_of_mem hMem
  · intro kind op handler hAdded
    exact EventKind.number?_of_added? hAdded stack
  · intro earlier gone later hOps kind id hMem hGone other
    subst hOps
    exact EventKind.not_mem_ids_of_gone hMem hGone later other

/-- The handlers of a scope are dropped with it, and all others with the whole stack.  Their numbers
are left out when more handlers come. -/
theorem run_numbers_of_scope_and_reset :
    let earlier : List StackOp := [.addControl (Handler.always 1), .push, .addPoint Handler.never]
    let gone : List StackOp := [.pop, .pop, .addControl (Handler.always 2)]
    let later : List StackOp := [.reset, .addPoint Handler.never, .addEndOfClip Handler.toFrame]
    let stack := ({} : HandlerStack).run (earlier ++ gone ++ later)
    ({} : HandlerStack).numbers (earlier ++ gone ++ later) = [0, 1, 2, 3, 4] ∧
    stack.controlIds = [] ∧ stack.pointIds = [3] ∧ stack.endOfClipIds = [4] ∧
    stack.nextId < UInt64.size ∧ 1 ∉ stack.pointIds := by
  intro earlier gone later stack
  have hFew : (earlier ++ gone ++ later).countP StackOp.adds < UInt64.size := by decide
  have hWas : 1 ∈ EventKind.point.ids (({} : HandlerStack).run earlier) := by decide
  have hGone : 1 ∉ EventKind.point.ids (({} : HandlerStack).run (earlier ++ gone)) := by decide
  obtain ⟨hWord, -, -, -, -, -, hNeverBack⟩ := run_numbers _ hFew
  exact ⟨rfl, rfl, rfl, rfl, hWord, hNeverBack earlier gone later rfl .point 1 hWas hGone .point⟩

end BranchingMovie
