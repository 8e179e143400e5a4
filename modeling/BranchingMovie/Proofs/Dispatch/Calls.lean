import Mathlib.Data.List.Induction
import BranchingMovie.Proofs.Dispatch.Scopes

/-!
# The calls of a handler

A handler may answer by how often it was called before, so one call too many or too few shows in
every later answer.  Additions are numbered from zero, and the number of a handler is that of its
addition.  Whatever is done to a stack, a handler that is left in it has been called once for each
event of its kind since its addition, in the order of these events, and nothing else has called it
(`run_calls`).  What one operation does to the handlers of a kind (`EventKind.Change`) carries the
proof.
-/

namespace BranchingMovie

/-! ## Kinds of events -/

/-- The kinds of events, each with handlers of its own. -/
inductive EventKind where
  | control
  | point
  | endOfClip
  deriving DecidableEq, Repr

/-- A handler is asked about an event. -/
structure Call (ε : Type) where
  /-- The handler as it is before the call. -/
  entry : Registered ε
  event : ε
  context : DispatchContext

/-- What the handler answers. -/
def Call.answer {ε : Type} (call : Call ε) : Option Transition :=
  call.entry.answer call.event call.context

/-- The calls of the handler of a number among all calls: the events, each with the number of calls
before. -/
def callsOf {ε : Type} (id : Nat) (calls : List (Call ε)) : List ((ε × DispatchContext) × Nat) :=
  (calls.filter fun call => call.entry.id = id).map fun call =>
    ((call.event, call.context), call.entry.calls)

theorem callsOf_append {ε : Type} (id : Nat) (calls others : List (Call ε)) :
    callsOf id (calls ++ others) = callsOf id calls ++ callsOf id others := by
  rw [callsOf, List.filter_append, List.map_append]
  rfl

namespace EventKind

/-- What there is to know of an event of a kind. -/
abbrev Event : EventKind → Type
  | control => Control
  | point => Point
  | endOfClip => Unit

/-- The handlers for a kind of events, the oldest first. -/
def handlers : (kind : EventKind) → HandlerStack → List (Registered kind.Event)
  | control, stack => stack.control
  | point, stack => stack.point
  | endOfClip, stack => stack.endOfClip

/-- Dispatches an event of a kind. -/
def dispatch : (kind : EventKind) → HandlerStack → kind.Event → DispatchContext →
    HandlerStack × List Transition
  | control, stack, event, context => stack.dispatchControl event context
  | point, stack, event, context => stack.dispatchPoint event context
  | endOfClip, stack, _, context => stack.dispatchEndOfClip context

/-- Puts handlers, given from the oldest on, into the order of their calls. -/
def inCallOrder {α : Type} : EventKind → List α → List α
  | point, entries => entries.reverse
  | control, entries | endOfClip, entries => entries

/-- The handler for a kind of events that an operation adds. -/
def added? : (kind : EventKind) → StackOp → Option (Handler kind.Event)
  | control, .addControl handler => some handler
  | point, .addPoint handler => some handler
  | endOfClip, .addEndOfClip handler => some handler
  | _, _ => none

/-- The event of a kind that an operation dispatches. -/
def event? : (kind : EventKind) → StackOp → Option (kind.Event × DispatchContext)
  | control, .dispatchControl event context => some (event, context)
  | point, .dispatchPoint event context => some (event, context)
  | endOfClip, .dispatchEndOfClip context => some ((), context)
  | _, _ => none

/-- The handlers for a kind of events in nested scopes, the oldest first. -/
def live (kind : EventKind) (scopes : Scopes) : List (Registered kind.Event) :=
  kind.handlers scopes.flatten

/-- The calls that an event makes, in order. -/
def asked (kind : EventKind) (stack : HandlerStack) (event : kind.Event)
    (context : DispatchContext) : List (Call kind.Event) :=
  (kind.inCallOrder (kind.handlers stack)).map fun entry => ⟨entry, event, context⟩

theorem handlers_uncounted (kind : EventKind) (stack : HandlerStack) :
    kind.handlers stack.uncounted = (kind.handlers stack).map Registered.uncounted := by
  cases kind <;> rfl

theorem map_inCallOrder {α β : Type} (kind : EventKind) (f : α → β) (entries : List α) :
    (kind.inCallOrder entries).map f = kind.inCallOrder (entries.map f) := by
  cases kind with
  | point => exact List.map_reverse
  | _ => rfl

theorem mem_inCallOrder {α : Type} {kind : EventKind} {entries : List α} {entry : α} :
    entry ∈ kind.inCallOrder entries ↔ entry ∈ entries := by
  cases kind with
  | point => exact List.mem_reverse
  | _ => exact Iff.rfl

theorem filter_inCallOrder {α : Type} (kind : EventKind) (p : α → Bool) (entries : List α) :
    (kind.inCallOrder entries).filter p = kind.inCallOrder (entries.filter p) := by
  cases kind with
  | point => exact List.filter_reverse
  | _ => rfl

/-- A dispatch has the answers of the calls that the event makes. -/
theorem dispatch_answers (kind : EventKind) (stack : HandlerStack) (event : kind.Event)
    (context : DispatchContext) :
    (kind.dispatch stack event context).2 =
      (kind.asked stack event context).filterMap Call.answer := by
  rw [asked, List.filterMap_map]
  cases kind <;> rfl

/-- It leaves the handlers of its own kind called once more. -/
theorem handlers_dispatch (kind : EventKind) (stack : HandlerStack) (event : kind.Event)
    (context : DispatchContext) :
    kind.handlers (kind.dispatch stack event context).1 =
      (kind.handlers stack).map Registered.called := by
  cases kind <;> rfl

/-- And it leaves those of other kinds alone. -/
theorem handlers_dispatch_of_ne {kind other : EventKind} (h : other ≠ kind) (stack : HandlerStack)
    (event : kind.Event) (context : DispatchContext) :
    other.handlers (kind.dispatch stack event context).1 = other.handlers stack := by
  cases kind with
  | control =>
    cases other with
    | control => exact absurd rfl h
    | point | endOfClip => rfl
  | point =>
    cases other with
    | point => exact absurd rfl h
    | control | endOfClip => rfl
  | endOfClip =>
    cases other with
    | endOfClip => exact absurd rfl h
    | control | point => rfl

/-- An operation that dispatches an event does so. -/
theorem step_of_event? {kind : EventKind} {op : StackOp} {event : kind.Event}
    {context : DispatchContext} (h : kind.event? op = some (event, context))
    (stack : HandlerStack) : stack.step op = .ok (kind.dispatch stack event context).1 := by
  cases op with
  | dispatchControl _ _ | dispatchPoint _ _ | dispatchEndOfClip _ =>
    cases kind <;> cases h
    rfl
  | _ => cases kind <;> cases h

/-! ## One operation -/

/-- What an operation may do to the handlers for a kind of events. -/
inductive Change (kind : EventKind) (stack : HandlerStack) (op : StackOp)
    (next : List (Registered kind.Event)) : Prop
  /-- A handler is added, with the next number and no calls. -/
  | added (handler : Handler kind.Event) (hAdded : kind.added? op = some handler)
    (hNext : next = kind.handlers stack ++ [⟨stack.nextId, 0, handler⟩])
  /-- All are called. -/
  | called (event : kind.Event) (context : DispatchContext)
    (hEvent : kind.event? op = some (event, context))
    (hNext : next = (kind.handlers stack).map Registered.called)
  /-- The oldest stay, and none is called. -/
  | kept (hEvent : kind.event? op = none) (hNext : next <+: kind.handlers stack)

theorem change_after (kind : EventKind) (stack : HandlerStack) (op : StackOp) :
    kind.Change stack op (kind.handlers (StackOp.after HandlerStack.step stack op)) := by
  cases op with
  | addControl handler =>
    cases kind with
    | control => exact .added handler rfl rfl
    | point | endOfClip => exact .kept rfl List.prefix_rfl
  | addPoint handler =>
    cases kind with
    | point => exact .added handler rfl rfl
    | control | endOfClip => exact .kept rfl List.prefix_rfl
  | addEndOfClip handler =>
    cases kind with
    | endOfClip => exact .added handler rfl rfl
    | control | point => exact .kept rfl List.prefix_rfl
  | push => cases kind <;> exact .kept rfl List.prefix_rfl
  | pop =>
    unfold StackOp.after HandlerStack.step HandlerStack.pop
    cases stack.checkpoints with
    | nil => cases kind <;> exact .kept rfl List.prefix_rfl
    | cons checkpoint checkpoints => cases kind <;> exact .kept rfl (List.take_prefix _ _)
  | reset => cases kind <;> exact .kept rfl List.nil_prefix
  | dispatchControl event context =>
    cases kind with
    | control => exact .called event context rfl rfl
    | point | endOfClip => exact .kept rfl List.prefix_rfl
  | dispatchPoint event context =>
    cases kind with
    | point => exact .called event context rfl rfl
    | control | endOfClip => exact .kept rfl List.prefix_rfl
  | dispatchEndOfClip context =>
    cases kind with
    | endOfClip => exact .called () context rfl rfl
    | control | point => exact .kept rfl List.prefix_rfl

end EventKind

/-! ## Numbers -/

namespace StackOp

/-- The operation adds a handler. -/
def adds : StackOp → Bool
  | addControl _ | addPoint _ | addEndOfClip _ => true
  | _ => false

/-- What comes after the addition of a number. -/
def since : Nat → List StackOp → List StackOp
  | _, [] => []
  | 0, op :: ops => if op.adds then ops else since 0 ops
  | id + 1, op :: ops => since (if op.adds then id else id + 1) ops

theorem adds_of_added? {kind : EventKind} {op : StackOp} {handler : Handler kind.Event}
    (h : kind.added? op = some handler) : op.adds = true := by
  cases op with
  | addControl _ | addPoint _ | addEndOfClip _ => rfl
  | _ => cases kind <;> cases h

theorem event?_of_adds (kind : EventKind) {op : StackOp} (h : op.adds = true) :
    kind.event? op = none := by
  cases op with
  | addControl _ | addPoint _ | addEndOfClip _ => cases kind <;> rfl
  | _ => cases h

theorem since_cons_of_not_adds {op : StackOp} (h : ¬ op.adds = true) (id : Nat)
    (ops : List StackOp) : since id (op :: ops) = since id ops := by
  cases id with
  | zero => rw [since, if_neg h]
  | succ id => rw [since, if_neg h]

/-- What comes at the end comes after each addition before it. -/
theorem since_append (id : Nat) (ops : List StackOp) (op : StackOp) :
    since id (ops ++ [op]) = if id < ops.countP adds then since id ops ++ [op] else [] := by
  induction ops generalizing id with
  | nil =>
    rw [List.countP_nil, if_neg (Nat.not_lt_zero id), List.nil_append]
    cases id with
    | zero => rw [since, since, ite_self]
    | succ id => rw [since, since]
  | cons first ops ih =>
    rw [List.cons_append]
    by_cases hAdds : first.adds = true
    · rw [List.countP_cons_of_pos hAdds]
      cases id with
      | zero => rw [since, since, if_pos hAdds, if_pos hAdds, if_pos (Nat.zero_lt_succ _)]
      | succ id =>
        rw [since, since, if_pos hAdds, ih]
        simp only [Nat.succ_lt_succ_iff]
    · rw [List.countP_cons_of_neg hAdds, since_cons_of_not_adds hAdds,
        since_cons_of_not_adds hAdds, ih]

/-- Before an addition, nothing comes after it. -/
theorem since_of_le {id : Nat} {ops : List StackOp} (h : ops.countP adds ≤ id) :
    since id ops = [] := by
  induction ops using List.reverseRecOn with
  | nil => rw [since]
  | append_singleton ops op _ =>
    have hSublist : ops.countP adds ≤ (ops ++ [op]).countP adds :=
      (List.sublist_append_left ops [op]).countP_le
    rw [since_append, if_neg (Nat.not_lt.2 (Nat.le_trans hSublist h))]

end StackOp

namespace HandlerStack

/-- The number of the next handler grows with each addition. -/
theorem nextId_after (stack : HandlerStack) (op : StackOp) :
    (StackOp.after step stack op).nextId =
      if op.adds then stack.nextId + 1 else stack.nextId := by
  cases op with
  | pop =>
    unfold StackOp.after step pop
    cases stack.checkpoints <;> rfl
  | _ => rfl

theorem run_append_singleton (stack : HandlerStack) (ops : List StackOp) (op : StackOp) :
    stack.run (ops ++ [op]) = StackOp.after step (stack.run ops) op := by
  rw [run, run, List.foldl_append]
  rfl

/-- Handlers are numbered by their additions. -/
theorem nextId_run (ops : List StackOp) :
    (({} : HandlerStack).run ops).nextId = ops.countP StackOp.adds := by
  induction ops using List.reverseRecOn with
  | nil => rfl
  | append_singleton ops op ih =>
    rw [run_append_singleton, nextId_after, ih, List.countP_append, List.countP_singleton]
    split
    · rfl
    · rfl

end HandlerStack

/-! ## The events since an addition -/

namespace EventKind

/-- The events of a kind that have come since the addition of a number. -/
def eventsSince (kind : EventKind) (id : Nat) (ops : List StackOp) :
    List (kind.Event × DispatchContext) :=
  (StackOp.since id ops).filterMap kind.event?

variable {kind : EventKind} {id : Nat} {ops : List StackOp} {op : StackOp}

/-- There is no event since an addition that has not been yet. -/
theorem eventsSince_of_le (h : ops.countP StackOp.adds ≤ id) : kind.eventsSince id ops = [] := by
  rw [eventsSince, StackOp.since_of_le h, List.filterMap_nil]

theorem eventsSince_append :
    kind.eventsSince id (ops ++ [op]) = kind.eventsSince id ops ++
      if id < ops.countP StackOp.adds then (kind.event? op).toList else [] := by
  rw [eventsSince, eventsSince, StackOp.since_append]
  by_cases hLater : id < ops.countP StackOp.adds
  · rw [if_pos hLater, if_pos hLater, List.filterMap_append]
    cases hEvent : kind.event? op with
    | none => rw [List.filterMap_cons_none hEvent]; rfl
    | some event => rw [List.filterMap_cons_some hEvent]; rfl
  · rw [if_neg hLater, if_neg hLater, StackOp.since_of_le (Nat.not_lt.1 hLater)]
    rfl

/-- What is no event of the kind adds none. -/
theorem eventsSince_append_none (h : kind.event? op = none) :
    kind.eventsSince id (ops ++ [op]) = kind.eventsSince id ops := by
  rw [eventsSince_append, h, Option.toList_none, ite_self, List.append_nil]

/-! ## Handlers and their additions -/

/-- A handler has come in by the addition of its number. -/
def AddedIn (kind : EventKind) (ops : List StackOp) (entry : Registered kind.Event) : Prop :=
  ∃ earlier op, ops = earlier ++ op :: StackOp.since entry.id ops ∧
    kind.added? op = some entry.handler ∧ (({} : HandlerStack).run earlier).nextId = entry.id

variable {entry : Registered kind.Event}

/-- The addition of a handler is among those that have been. -/
theorem AddedIn.id_lt (h : kind.AddedIn ops entry) : entry.id < ops.countP StackOp.adds := by
  obtain ⟨earlier, op, hOps, hAdded, hId⟩ := h
  rw [HandlerStack.nextId_run] at hId
  rw [hOps, List.countP_append, List.countP_cons_of_pos (StackOp.adds_of_added? hAdded), hId]
  omega

theorem AddedIn.append (h : kind.AddedIn ops entry) (op : StackOp) :
    kind.AddedIn (ops ++ [op]) entry := by
  have hLater := h.id_lt
  obtain ⟨earlier, addition, hOps, hAdded, hId⟩ := h
  refine ⟨earlier, addition, ?_, hAdded, hId⟩
  rw [StackOp.since_append, if_pos hLater, ← List.cons_append, ← List.append_assoc, ← hOps]

/-- An event comes after the addition of each handler there is. -/
theorem AddedIn.eventsSince_append (h : kind.AddedIn ops entry)
    {event : kind.Event × DispatchContext} (hEvent : kind.event? op = some event) :
    kind.eventsSince entry.id (ops ++ [op]) = kind.eventsSince entry.id ops ++ [event] := by
  rw [EventKind.eventsSince_append, if_pos h.id_lt, hEvent]
  rfl

theorem addedIn_last {handler : Handler kind.Event} (h : kind.added? op = some handler) :
    kind.AddedIn (ops ++ [op]) ⟨(({} : HandlerStack).run ops).nextId, 0, handler⟩ := by
  refine ⟨ops, op, ?_, h, rfl⟩
  rw [HandlerStack.nextId_run, StackOp.since_append, if_neg (Nat.lt_irrefl _)]

/-- A handler has come in by the addition of its number, and has been called once for each event of
its kind since then. -/
structure Tallies (kind : EventKind) (ops : List StackOp) (entry : Registered kind.Event) :
    Prop where
  added : kind.AddedIn ops entry
  calls : entry.calls = (kind.eventsSince entry.id ops).length

theorem Tallies.kept (h : kind.Tallies ops entry) (hEvent : kind.event? op = none) :
    kind.Tallies (ops ++ [op]) entry where
  added := h.added.append op
  calls := by
    rw [eventsSince_append_none hEvent]
    exact h.calls

theorem Tallies.called (h : kind.Tallies ops entry) {event : kind.Event × DispatchContext}
    (hEvent : kind.event? op = some event) : kind.Tallies (ops ++ [op]) entry.called where
  added := h.added.append op
  calls := by
    show entry.calls + 1 = (kind.eventsSince entry.id (ops ++ [op])).length
    rw [h.added.eventsSince_append hEvent, List.length_append, ← h.calls]
    rfl

theorem tallies_last {handler : Handler kind.Event} (h : kind.added? op = some handler) :
    kind.Tallies (ops ++ [op]) ⟨(({} : HandlerStack).run ops).nextId, 0, handler⟩ where
  added := addedIn_last h
  calls := by
    rw [eventsSince_append_none (StackOp.event?_of_adds kind (StackOp.adds_of_added? h)),
      eventsSince_of_le (Nat.le_of_eq (HandlerStack.nextId_run ops).symm), List.length_nil]

/-- **The handlers that are left in a stack** have come in by the additions of their numbers, and
have been called once for each event of their kind since then. -/
theorem tallies_run (h : entry ∈ kind.handlers (({} : HandlerStack).run ops)) :
    kind.Tallies ops entry := by
  induction ops using List.reverseRecOn generalizing entry with
  | nil => cases kind <;> cases h
  | append_singleton ops op ih =>
    rw [HandlerStack.run_append_singleton] at h
    cases kind.change_after (({} : HandlerStack).run ops) op with
    | added handler hAdded hNext =>
      have hEvent := StackOp.event?_of_adds kind (StackOp.adds_of_added? hAdded)
      rw [hNext] at h
      rcases List.mem_append.1 h with hOld | hNew
      · exact (ih hOld).kept hEvent
      · obtain rfl := List.mem_singleton.1 hNew
        exact tallies_last hAdded
    | called event context hEvent hNext =>
      rw [hNext] at h
      obtain ⟨before, hBefore, rfl⟩ := List.mem_map.1 h
      exact (ih hBefore).called hEvent
    | kept hEvent hNext => exact (ih (hNext.subset h)).kept hEvent

/-- The handlers of a kind stand in the order of their additions. -/
theorem pairwise_run (kind : EventKind) (ops : List StackOp) :
    (kind.handlers (({} : HandlerStack).run ops)).Pairwise fun a b => a.id < b.id := by
  induction ops using List.reverseRecOn with
  | nil => cases kind <;> exact .nil
  | append_singleton ops op ih =>
    rw [HandlerStack.run_append_singleton]
    cases kind.change_after (({} : HandlerStack).run ops) op with
    | added handler _ hNext =>
      rw [hNext, List.pairwise_append]
      refine ⟨ih, List.pairwise_singleton _ _, fun a hOld b hNew => ?_⟩
      obtain rfl := List.mem_singleton.1 hNew
      show a.id < (({} : HandlerStack).run ops).nextId
      rw [HandlerStack.nextId_run]
      exact (tallies_run hOld).added.id_lt
    | called _ _ _ hNext =>
      rw [hNext, List.pairwise_map]
      exact ih
    | kept _ hNext => exact ih.sublist hNext.sublist

/-! ## The calls of a run -/

/-- An event is among the operations as it is in a dispatch. -/
theorem handlers_run_event {event : kind.Event} {context : DispatchContext}
    (h : kind.event? op = some (event, context)) :
    kind.handlers (({} : HandlerStack).run (ops ++ [op])) =
      (kind.handlers (({} : HandlerStack).run ops)).map Registered.called := by
  rw [HandlerStack.run_append_singleton, StackOp.after, step_of_event? h]
  exact kind.handlers_dispatch _ event context

/-- The calls that an operation makes of handlers of a kind, in order. -/
def callsIn (kind : EventKind) (stack : HandlerStack) (op : StackOp) : List (Call kind.Event) :=
  match kind.event? op with
  | none => []
  | some (event, context) => kind.asked stack event context

/-- The calls that operations on a stack make of handlers of a kind, in order. -/
def calls (kind : EventKind) (stack : HandlerStack) : List StackOp → List (Call kind.Event)
  | [] => []
  | op :: ops =>
    kind.callsIn stack op ++ kind.calls (StackOp.after HandlerStack.step stack op) ops

theorem calls_append (kind : EventKind) (stack : HandlerStack) (ops : List StackOp)
    (op : StackOp) :
    kind.calls stack (ops ++ [op]) =
      kind.calls stack ops ++ kind.callsIn (stack.run ops) op := by
  induction ops generalizing stack with
  | nil => exact List.append_nil _
  | cons first ops ih =>
    rw [List.cons_append, calls, calls, ih, List.append_assoc]
    rfl

/-- An event calls the handlers of a number that are left, whatever their place in the order. -/
theorem callsOf_asked (kind : EventKind) (stack : HandlerStack) (event : kind.Event)
    (context : DispatchContext) (id : Nat) :
    callsOf id (kind.asked stack event context) =
      (kind.inCallOrder ((kind.handlers stack).filter fun entry => entry.id = id)).map
        fun entry => ((event, context), entry.calls) := by
  rw [callsOf, asked, List.filter_map, List.map_map, ← filter_inCallOrder]
  rfl

/-- There is one handler of the number of a handler that is left. -/
theorem filter_id_run (h : entry ∈ kind.handlers (({} : HandlerStack).run ops)) :
    ((kind.handlers (({} : HandlerStack).run ops)).filter fun other => other.id = entry.id) =
      [entry] := by
  have hOrder := kind.pairwise_run ops
  obtain ⟨front, back, hSplit⟩ := List.append_of_mem h
  rw [hSplit, List.pairwise_append, List.pairwise_cons] at hOrder
  obtain ⟨-, ⟨hBack, -⟩, hFront⟩ := hOrder
  have hNoneInFront : (front.filter fun other => other.id = entry.id) = [] := by
    refine List.filter_eq_nil_iff.2 fun other hMem => ?_
    have hLess := hFront other hMem entry List.mem_cons_self
    simp only [decide_eq_true_eq]
    omega
  have hNoneBehind : (back.filter fun other => other.id = entry.id) = [] := by
    refine List.filter_eq_nil_iff.2 fun other hMem => ?_
    have hLess := hBack other hMem
    simp only [decide_eq_true_eq]
    omega
  rw [hSplit, List.filter_append, hNoneInFront, List.nil_append, List.filter_cons, hNoneBehind,
    if_pos (decide_eq_true rfl)]

/-- An event calls each handler that is left once. -/
theorem callsOf_asked_of_mem (h : entry ∈ kind.handlers (({} : HandlerStack).run ops))
    (event : kind.Event) (context : DispatchContext) :
    callsOf entry.id (kind.asked (({} : HandlerStack).run ops) event context) =
      [((event, context), entry.calls)] := by
  rw [callsOf_asked, filter_id_run h]
  cases kind <;> rfl

/-- And it calls no other one. -/
theorem callsOf_asked_of_not_mem {stack : HandlerStack}
    (h : ∀ entry ∈ kind.handlers stack, entry.id ≠ id) (event : kind.Event)
    (context : DispatchContext) : callsOf id (kind.asked stack event context) = [] := by
  have hNone : ((kind.handlers stack).filter fun entry => entry.id = id) = [] := by
    refine List.filter_eq_nil_iff.2 fun entry hMem => ?_
    simp only [decide_eq_true_eq]
    exact h entry hMem
  rw [callsOf_asked, hNone]
  cases kind <;> rfl

theorem callsOf_append_none (h : kind.event? op = none) :
    callsOf id (kind.calls {} (ops ++ [op])) = callsOf id (kind.calls {} ops) := by
  rw [calls_append, callsIn, h]
  simp only [List.append_nil]

theorem callsOf_append_some {event : kind.Event} {context : DispatchContext}
    (h : kind.event? op = some (event, context)) :
    callsOf id (kind.calls {} (ops ++ [op])) = callsOf id (kind.calls {} ops) ++
      callsOf id (kind.asked (({} : HandlerStack).run ops) event context) := by
  rw [calls_append, callsOf_append, callsIn, h]

/-- Before its addition a handler is not called. -/
theorem callsOf_of_le (h : ops.countP StackOp.adds ≤ id) :
    callsOf id (kind.calls {} ops) = [] := by
  induction ops using List.reverseRecOn with
  | nil => rfl
  | append_singleton ops op ih =>
    rw [List.countP_append] at h
    have hEarlier : ops.countP StackOp.adds ≤ id := Nat.le_trans (Nat.le_add_right _ _) h
    cases hEvent : kind.event? op with
    | none => rw [callsOf_append_none hEvent, ih hEarlier]
    | some event =>
      rw [callsOf_append_some hEvent, ih hEarlier, List.nil_append]
      refine callsOf_asked_of_not_mem (fun entry hMem => ?_) _ _
      exact Nat.ne_of_lt (Nat.lt_of_lt_of_le (tallies_run hMem).added.id_lt hEarlier)

/-- **The calls of a handler that is left in the stack.**  They are at the events of its kind since
its addition, in order. -/
theorem callsOf_left (h : entry ∈ kind.handlers (({} : HandlerStack).run ops)) :
    callsOf entry.id (kind.calls {} ops) = (kind.eventsSince entry.id ops).zipIdx := by
  induction ops using List.reverseRecOn generalizing entry with
  | nil => cases kind <;> cases h
  | append_singleton ops op ih =>
    rw [HandlerStack.run_append_singleton] at h
    cases kind.change_after (({} : HandlerStack).run ops) op with
    | added handler hAdded hNext =>
      have hEvent := StackOp.event?_of_adds kind (StackOp.adds_of_added? hAdded)
      rw [callsOf_append_none hEvent, eventsSince_append_none hEvent]
      rw [hNext] at h
      rcases List.mem_append.1 h with hOld | hNew
      · exact ih hOld
      · obtain rfl := List.mem_singleton.1 hNew
        have hFirst : ops.countP StackOp.adds ≤ (({} : HandlerStack).run ops).nextId :=
          Nat.le_of_eq (HandlerStack.nextId_run ops).symm
        rw [callsOf_of_le hFirst, eventsSince_of_le hFirst, List.zipIdx_nil]
    | called event context hEvent hNext =>
      rw [hNext] at h
      obtain ⟨before, hBefore, rfl⟩ := List.mem_map.1 h
      obtain ⟨hAdded, hCalls⟩ := tallies_run hBefore
      show callsOf before.id _ = (kind.eventsSince before.id _).zipIdx
      rw [callsOf_append_some hEvent, hAdded.eventsSince_append hEvent, List.zipIdx_append,
        ih hBefore, callsOf_asked_of_mem hBefore, List.zipIdx_singleton, Nat.zero_add, hCalls]
    | kept hEvent hNext =>
      rw [callsOf_append_none hEvent, eventsSince_append_none hEvent]
      exact ih (hNext.subset h)

/-- And those of a handler that is gone are at the first of them. -/
theorem callsOf_prefix (kind : EventKind) (ops : List StackOp) (id : Nat) :
    callsOf id (kind.calls {} ops) <+: (kind.eventsSince id ops).zipIdx := by
  induction ops using List.reverseRecOn with
  | nil => exact List.nil_prefix
  | append_singleton ops op ih =>
    cases hEvent : kind.event? op with
    | none =>
      rw [callsOf_append_none hEvent, eventsSince_append_none hEvent]
      exact ih
    | some event =>
      by_cases hLeft : ∃ entry ∈ kind.handlers (({} : HandlerStack).run ops), entry.id = id
      · obtain ⟨entry, hMem, rfl⟩ := hLeft
        have hCalled : entry.called ∈ kind.handlers (({} : HandlerStack).run (ops ++ [op])) := by
          rw [handlers_run_event hEvent]
          exact List.mem_map_of_mem hMem
        have hAll := callsOf_left hCalled
        exact hAll ▸ List.prefix_rfl
      · have hGone : ∀ entry ∈ kind.handlers (({} : HandlerStack).run ops), entry.id ≠ id :=
          fun entry hMem hId => hLeft ⟨entry, hMem, hId⟩
        rw [callsOf_append_some hEvent, callsOf_asked_of_not_mem hGone, List.append_nil,
          eventsSince_append, List.zipIdx_append]
        exact ih.trans (List.prefix_append _ _)

end EventKind

/-- **Every handler that is left is called once by each event of its kind, and by nothing else.**
After any operations, for each kind of events:
* the handlers that are left are those of the scopes, numbered upwards by their additions, and each
  has been called as often as events of its kind have come since its addition;
* an event calls all of them, and has their answers, in the order of the calls, to the event, the
  context and the number of earlier calls; it leaves each of them called once more, and the handlers
  of other kinds as they were;
* the calls of a handler so far were at the events of its kind since its addition, the first call at
  the first of them and so on, up to the last of them as long as it is left. -/
theorem run_calls (ops : List StackOp) (kind : EventKind) :
    let stack := ({} : HandlerStack).run ops
    let live := kind.live (({} : Scopes).run ops)
    (live.Pairwise fun a b => a.id < b.id) ∧
    (∀ entry ∈ live, kind.AddedIn ops entry) ∧
    kind.handlers stack =
      (live.map fun entry => ⟨entry.id, (kind.eventsSince entry.id ops).length, entry.handler⟩) ∧
    (∀ event context,
      let next := kind.dispatch stack event context
      (∀ op, kind.event? op = some (event, context) → stack.step op = .ok next.1) ∧
      next.2 = (kind.asked stack event context).filterMap Call.answer ∧
      next.2 = ((kind.inCallOrder live).filterMap fun entry =>
        entry.handler (kind.eventsSince entry.id ops).length event context) ∧
      kind.handlers next.1 = (kind.handlers stack).map Registered.called ∧
      ∀ other, other ≠ kind → other.handlers next.1 = other.handlers stack) ∧
    ∀ id, callsOf id (kind.calls {} ops) <+: (kind.eventsSince id ops).zipIdx ∧
      ∀ entry ∈ live, entry.id = id →
        callsOf id (kind.calls {} ops) = (kind.eventsSince id ops).zipIdx := by
  intro stack live
  have hStack : stack.uncounted = (({} : Scopes).run ops).flatten := Scopes.uncounted_run rfl ops
  have hLive : live = (kind.handlers stack).map Registered.uncounted := by
    rw [← EventKind.handlers_uncounted, hStack]
    rfl
  rw [hLive]
  refine ⟨?_, ?_, ?_, ?_, ?_⟩
  · rw [List.pairwise_map]
    exact kind.pairwise_run ops
  · intro entry hMem
    obtain ⟨left, hLeft, rfl⟩ := List.mem_map.1 hMem
    exact (EventKind.tallies_run hLeft).added
  · rw [List.map_map]
    refine (List.map_id _).symm.trans (List.map_congr_left fun entry hMem => ?_)
    show entry = ⟨entry.id, (kind.eventsSince entry.id ops).length, entry.handler⟩
    rw [← (EventKind.tallies_run hMem).calls]
  · intro event context
    have hAnswers := kind.dispatch_answers stack event context
    refine ⟨fun op hEvent => EventKind.step_of_event? hEvent stack, hAnswers, ?_,
      kind.handlers_dispatch stack event context, fun other hOther =>
        EventKind.handlers_dispatch_of_ne hOther stack event context⟩
    rw [hAnswers, EventKind.asked, List.filterMap_map, ← EventKind.map_inCallOrder,
      List.filterMap_map]
    refine List.filterMap_congr fun entry hMem => ?_
    show entry.handler entry.calls event context =
      entry.handler (kind.eventsSince entry.id ops).length event context
    rw [(EventKind.tallies_run (EventKind.mem_inCallOrder.1 hMem)).calls]
  · intro id
    refine ⟨kind.callsOf_prefix ops id, fun entry hMem hId => ?_⟩
    obtain ⟨left, hLeft, rfl⟩ := List.mem_map.1 hMem
    obtain rfl : left.id = id := hId
    exact EventKind.callsOf_left hLeft

/-- The handler of a scope hears the one event that comes while the scope is open.  The one outside
of it has heard three when it answers the fourth. -/
theorem run_calls_of_scope :
    let ops : List StackOp := [.addControl (Handler.onControl .yes 1).counting,
      .dispatchControl .yes {}, .push, .addControl (Handler.always 10).counting,
      .dispatchPoint ⟨0, 0⟩ {}, .dispatchControl .no {}, .pop, .dispatchControl .yes {}]
    let stack := ({} : HandlerStack).run ops
    (EventKind.control.dispatch stack .yes {}).2 = [⟨4⟩] ∧
    callsOf 1 (EventKind.control.calls {} ops) = [((.no, {}), 0)] ∧
    callsOf 1 (EventKind.control.calls {} ops) <+:
      (EventKind.control.eventsSince 1 ops).zipIdx := by
  intro ops stack
  exact ⟨rfl, rfl, ((run_calls ops .control).2.2.2.2 1).1⟩

end BranchingMovie
