import Mathlib.Order.Interval.Finset.Nat
import BranchingMovie.Proofs.Engine.DisplayOrigin
import BranchingMovie.Proofs.Outcome
import BranchingMovie.Proofs.Simulation.Schedule

/-!
# The rounds of a simulated run

A simulated run is a list of rounds.  In round `k` the input that is due by tick `k`, and was not by
the tick before, comes in, and then there is tick `k`.  The tick times do not depend on what
happens, so all rounds can be written down beforehand (`Plan.round`); what happens decides only how
many of them there are.

A round leads on to the next one (`Plan.LeadsOn`) when its tick neither fails nor ends the run nor
stops the program by an overflow, when there is time left, and when the clock reaches as far as the
next tick.  `Plan.course` says that some round does not lead on, and what the run comes to for each
of the reasons.
-/

namespace BranchingMovie

/-- A film that waits at a still frame of one dot. -/
def Film.still : Film SyntheticDecoder :=
  (Film.ofEntries [.plain 2 "map.mov" 0 0]).restock
    (({ width := 1, height := 1 } : SyntheticProfile).library .ok)

namespace Simulation

/-! ## Tick times -/

/-- The time of tick `k`: `k` times the length of a tick, but no later than the end. -/
def tickTime (length durationMs : UInt64) (k : Nat) : UInt64 :=
  .ofNat (min (k * length.toNat) durationMs.toNat)

theorem toNat_tickLength (tickMs : UInt64) : (tickLength tickMs).toNat = max tickMs.toNat 1 := by
  unfold tickLength
  split
  · rename_i h
    rw [h]
    rfl
  · rename_i h
    have hPos := UInt64.lt_iff_toNat_lt.1 (UInt64.pos_iff_ne_zero.2 h)
    exact (Nat.max_eq_left hPos).symm

section TickTimes

variable (length durationMs : UInt64) (k : Nat)

theorem toNat_tickTime :
    (tickTime length durationMs k).toNat = min (k * length.toNat) durationMs.toNat := by
  have hDuration := durationMs.toNat_lt
  rw [tickTime, UInt64.toNat_ofNat']
  exact Nat.mod_eq_of_lt (by omega)

@[simp] theorem tickTime_zero : tickTime length durationMs 0 = 0 := by
  rw [tickTime, Nat.zero_mul, Nat.zero_min]
  rfl

theorem tickTime_le_duration : tickTime length durationMs k ≤ durationMs := by
  rw [UInt64.le_iff_toNat_le, toNat_tickTime]
  exact Nat.min_le_right _ _

/-- Before the end, tick times are multiples of the length of a tick. -/
theorem toNat_tickTime_of_lt {length durationMs : UInt64} {k : Nat}
    (h : tickTime length durationMs k < durationMs) :
    (tickTime length durationMs k).toNat = k * length.toNat := by
  rw [UInt64.lt_iff_toNat_lt, toNat_tickTime] at h
  rw [toNat_tickTime]
  omega

/-- The clock goes on from a tick before the end. -/
theorem tickTime_lt_succ {length durationMs : UInt64} {k : Nat} (hLength : 0 < length)
    (h : tickTime length durationMs k < durationMs) :
    tickTime length durationMs k < tickTime length durationMs (k + 1) := by
  have hTime := toNat_tickTime_of_lt h
  rw [UInt64.lt_iff_toNat_lt] at hLength h ⊢
  have hZero : (0 : UInt64).toNat = 0 := rfl
  rw [toNat_tickTime, toNat_tickTime, Nat.succ_mul] at *
  omega

/-- The tick after the one at a tick time is at the next tick time, if the clock reaches as far. -/
theorem nextTick_tickTime {length durationMs : UInt64} {k : Nat}
    (h : tickTime length durationMs k < durationMs) :
    nextTick length durationMs (tickTime length durationMs k) =
      if (tickTime length durationMs k).toNat + length.toNat < UInt64.size then
        .ok (tickTime length durationMs (k + 1))
      else .error .sum := by
  rw [nextTick, Overflow.ofSum?]
  by_cases hFits : (tickTime length durationMs k).toNat + length.toNat < UInt64.size
  · have hTime := toNat_tickTime_of_lt h
    have hSum : (tickTime length durationMs k + length).toNat = (k + 1) * length.toNat := by
      rw [UInt64.toNat_add, Nat.mod_eq_of_lt hFits, hTime, Nat.succ_mul]
    rw [if_pos hFits, if_pos hFits, Overflow.guard_none]
    refine congrArg Except.ok (UInt64.toNat_inj.1 ?_)
    rw [UInt64.toNat_min, toNat_tickTime, hSum]
  · rw [if_neg hFits, if_neg hFits, Overflow.guard_some]

end TickTimes

/-! ## Plans -/

/-- What a simulated run is asked for. -/
structure Plan (δ : Type) where
  engine : Engine δ
  inputs : List TimedInput
  durationMs : UInt64
  tickMs : UInt64

namespace Plan

variable {δ : Type} (plan : Plan δ)

/-- The length of a tick. -/
def length : UInt64 := tickLength plan.tickMs

theorem length_pos : 0 < plan.length :=
  tickLength_pos plan.tickMs

/-- The time of a tick by its number. -/
def time (k : Nat) : UInt64 := tickTime plan.length plan.durationMs k

/-- Tick `k` is the first one that is not before the input. -/
def IsFirst (k : Nat) (input : TimedInput) : Prop :=
  input.atMs ≤ plan.time k ∧ ∀ j < k, plan.time j < input.atMs

instance (k : Nat) : DecidablePred (plan.IsFirst k) := fun _ => instDecidableAnd

/-- The input of round `k`. -/
def due (k : Nat) : List TimedInput :=
  (schedule plan.inputs).filter fun input => plan.IsFirst k input

/-- The input that comes in round `k` or later. -/
def rest (k : Nat) : List TimedInput :=
  (schedule plan.inputs).filter fun input => ∀ j < k, plan.time j < input.atMs

/-- What comes in in round `k`. -/
def pushes (k : Nat) : List (Act δ) :=
  (plan.due k).map fun input => .push input.event

/-- What happens to the engine in round `k`. -/
def round (k : Nat) : List (Act δ) :=
  plan.pushes k ++ [.tick (plan.time k)]

/-- What happens to the engine in the first `n` rounds. -/
def acts (n : Nat) : List (Act δ) :=
  (List.range n).flatMap plan.round

theorem rest_zero : plan.rest 0 = schedule plan.inputs := by
  refine List.filter_eq_self.2 fun input _ => decide_eq_true ?_
  exact fun j hj => absurd hj (Nat.not_lt_zero j)

theorem pairwise_rest (k : Nat) : (plan.rest k).Pairwise fun a b => a.atMs ≤ b.atMs :=
  (pairwise_schedule plan.inputs).filter _

/-- What is due by tick `k` of the rest comes in round `k`. -/
theorem takeWhile_rest (k : Nat) :
    ((plan.rest k).takeWhile fun input => input.atMs ≤ plan.time k) = plan.due k := by
  rw [takeWhile_due (plan.pairwise_rest k), rest, List.filter_filter, due]
  refine List.filter_congr fun input _ => ?_
  rw [← Bool.decide_and, decide_eq_decide]
  exact Iff.rfl

/-- And what is not due by then comes later. -/
theorem dropWhile_rest (k : Nat) :
    ((plan.rest k).dropWhile fun input => input.atMs ≤ plan.time k) = plan.rest (k + 1) := by
  rw [dropWhile_due (plan.pairwise_rest k), rest, List.filter_filter, rest]
  refine List.filter_congr fun input _ => ?_
  rw [← Bool.decide_and, decide_eq_decide, Nat.forall_lt_succ_right, and_comm]

/-! ## What happens -/

variable [Decoder δ]

/-- The engine after the first `n` rounds. -/
def before (n : Nat) : Engine δ :=
  plan.engine.run (plan.acts n)

/-- What tick `k` comes to. -/
def outcome (k : Nat) : Except EngineError TickReport :=
  (((plan.before k).run (plan.pushes k)).tick (plan.time k)).1

/-- The overflow in tick `k` that stops the program, if there is one. -/
def overflow? (k : Nat) : Option Overflow :=
  (plan.before (k + 1)).session.player.overflow?

/-- Where the run was seen at the tick before tick `k`, and doing what. -/
def seen : Nat → Option (NodePointer × RunState)
  | 0 => none
  | k + 1 =>
    match plan.outcome k with
    | .error _ => none
    | .ok report => some (report.pointer, report.state)

/-- The lines that the input of round `k` leaves in the transcript. -/
def inputLines (k : Nat) : List TranscriptEntry :=
  (plan.due k).map fun input => .input (plan.time k) input.event

/-- The line that tick `k` leaves in the transcript, if it has moved the run. -/
def nodeLine (k : Nat) : List TranscriptEntry :=
  match plan.outcome k with
  | .error _ => []
  | .ok report => if hasMoved (plan.seen k) report then [.node (plan.time k) report] else []

/-- The lines of the first `n` rounds. -/
def lines (n : Nat) : List TranscriptEntry :=
  (List.range n).flatMap fun k => plan.inputLines k ++ plan.nodeLine k

/-- What the whole run comes to. -/
def result : Except Overflow (Except EngineError Transcript × Engine δ) :=
  simulate plan.engine plan.inputs plan.durationMs plan.tickMs

/-- What the run comes to from round `k` on. -/
def resultFrom (k : Nat) : Except Overflow (Except EngineError Transcript × Engine δ) :=
  runFrom plan.length plan.durationMs plan.length_pos (plan.before k) (plan.rest k)
    (plan.seen k) (plan.lines k).toArray (plan.time k)

/-- Tick `k` leaves the run waiting. -/
def Waits (k : Nat) : Prop :=
  plan.overflow? k = none ∧
    ∃ report, plan.outcome k = .ok report ∧ report.state = .awaitingEvent

/-- Round `k` leads on to the next one. -/
def LeadsOn (k : Nat) : Prop :=
  plan.overflow? k = none ∧
    ∃ report, plan.outcome k = .ok report ∧ (∀ ending, report.state ≠ .finished ending) ∧
      plan.time k < plan.durationMs ∧ (plan.time k).toNat + plan.length.toNat < UInt64.size

theorem result_eq_resultFrom_zero : plan.result = plan.resultFrom 0 := by
  unfold resultFrom
  rw [rest_zero, time, tickTime_zero]
  rfl

/-! ## One round -/

omit [Decoder δ] in
theorem acts_succ (n : Nat) : plan.acts (n + 1) = plan.acts n ++ plan.round n := by
  rw [acts, List.range_succ, List.flatMap_append, List.flatMap_singleton]
  rfl

theorem before_succ (n : Nat) :
    plan.before (n + 1) =
      (((plan.before n).run (plan.pushes n)).tick (plan.time n)).2 := by
  rw [before, acts_succ, round, Engine.run_append, Engine.run_append]
  rfl

/-- The tick of a round has its outcome and leaves its engine, unless an overflow stops it. -/
theorem tick_round (k : Nat) :
    tick ((plan.before k).run (plan.pushes k)) (plan.time k) =
      Overflow.guard (plan.overflow? k) (plan.outcome k, plan.before (k + 1)) := by
  rw [tick, overflow?, before_succ]
  rfl

theorem lines_succ (n : Nat) :
    plan.lines (n + 1) = plan.lines n ++ (plan.inputLines n ++ plan.nodeLine n) := by
  rw [lines, List.range_succ, List.flatMap_append, List.flatMap_singleton]
  rfl

variable {plan} {k : Nat} {report : TickReport}

theorem seen_succ (h : plan.outcome k = .ok report) :
    plan.seen (k + 1) = some (report.pointer, report.state) := by
  rw [seen, h]

/-- The input of a round is written down first, then the tick. -/
theorem toArray_lines_succ (h : plan.outcome k = .ok report) :
    (plan.lines (k + 1)).toArray =
      if hasMoved (plan.seen k) report then
        (plan.lines k ++ plan.inputLines k).toArray.push (.node (plan.time k) report)
      else (plan.lines k ++ plan.inputLines k).toArray := by
  have hLine : plan.nodeLine k =
      if hasMoved (plan.seen k) report then [.node (plan.time k) report] else [] := by
    rw [nodeLine, h]
  rw [lines_succ, hLine]
  split
  · rw [List.push_toArray, List.append_assoc]
  · rw [List.append_nil]

/-- What the run comes to once the tick of round `k` has neither failed nor ended it. -/
theorem resultFrom_onward (h : plan.outcome k = .ok report) :
    (if _hNow : plan.time k < plan.durationMs then
      match _hNext : nextTick plan.length plan.durationMs (plan.time k) with
      | .error overflow => .error overflow
      | .ok next =>
        runFrom plan.length plan.durationMs plan.length_pos (plan.before (k + 1))
          (plan.rest (k + 1)) (some (report.pointer, report.state))
          (plan.lines (k + 1)).toArray next
    else .ok (.ok ⟨(plan.lines (k + 1)).toArray, none, plan.time k⟩, plan.before (k + 1))) =
      if plan.time k < plan.durationMs then
        if (plan.time k).toNat + plan.length.toNat < UInt64.size then plan.resultFrom (k + 1)
        else .error .sum
      else .ok (.ok ⟨(plan.lines (k + 1)).toArray, none, plan.time k⟩, plan.before (k + 1)) := by
  by_cases hTime : plan.time k < plan.durationMs
  · have hNext : nextTick plan.length plan.durationMs (plan.time k) =
        if (plan.time k).toNat + plan.length.toNat < UInt64.size then .ok (plan.time (k + 1))
        else .error .sum := nextTick_tickTime hTime
    rw [dif_pos hTime, if_pos hTime]
    by_cases hFits : (plan.time k).toNat + plan.length.toNat < UInt64.size
    · rw [if_pos hFits] at hNext ⊢
      rw [resultFrom, seen_succ h]
      split
      · rename_i hStops
        cases hStops.symm.trans hNext
      · rename_i next hGoes
        obtain rfl : next = plan.time (k + 1) := Except.ok.inj (hGoes.symm.trans hNext)
        rfl
    · rw [if_neg hFits] at hNext ⊢
      split
      · rename_i overflow hStops
        obtain rfl : overflow = .sum := Except.error.inj (hStops.symm.trans hNext)
        rfl
      · rename_i next hGoes
        cases hGoes.symm.trans hNext
  · rw [dif_neg hTime, if_neg hTime]

/-- **What a run comes to from round `k` on.**  The input of the round comes in, there is the tick,
and overflows, its outcome, the time left and the range of the clock decide whether there is another
round. -/
theorem resultFrom_eq (plan : Plan δ) (k : Nat) :
    plan.resultFrom k =
      match plan.overflow? k, plan.outcome k with
      | some overflow, _ => .error overflow
      | none, .error fault => .ok (.error fault, plan.before (k + 1))
      | none, .ok report =>
        match report.state with
        | .finished ending =>
          .ok (.ok ⟨(plan.lines (k + 1)).toArray, some ending, plan.time k⟩, plan.before (k + 1))
        | _ =>
          if plan.time k < plan.durationMs then
            if (plan.time k).toNat + plan.length.toNat < UInt64.size then plan.resultFrom (k + 1)
            else .error .sum
          else
            .ok (.ok ⟨(plan.lines (k + 1)).toArray, none, plan.time k⟩, plan.before (k + 1)) := by
  have hPushed : (plan.due k).foldl (fun engine input => engine.pushInput input.event)
      (plan.before k) = (plan.before k).run (plan.pushes k) := by
    rw [pushes, Engine.run, List.foldl_map]
    rfl
  have hLines : (plan.due k).foldl
      (fun entries input => entries.push (.input (plan.time k) input.event))
      (plan.lines k).toArray = (plan.lines k ++ plan.inputLines k).toArray := by
    rw [List.foldl_push_eq_append]
    exact List.append_toArray _ _
  rw [resultFrom]
  unfold runFrom
  simp only [takeWhile_rest, dropWhile_rest, hPushed, hLines, tick_round]
  cases plan.overflow? k with
  | some overflow => rfl
  | none =>
    cases hOutcome : plan.outcome k with
    | error fault => rfl
    | ok report =>
      simp only [Overflow.guard_none, ← toArray_lines_succ hOutcome]
      have hOnward := resultFrom_onward hOutcome
      cases hState : report.state with
      | finished ending => rfl
      | _ =>
        rw [hState] at hOnward
        exact hOnward

/-- A round whose tick neither fails nor ends the run is the last one for lack of time only. -/
theorem resultFrom_of_unfinished (hNone : plan.overflow? k = none)
    (h : plan.outcome k = .ok report) (hState : ∀ ending, report.state ≠ .finished ending) :
    plan.resultFrom k =
      if plan.time k < plan.durationMs then
        if (plan.time k).toNat + plan.length.toNat < UInt64.size then plan.resultFrom (k + 1)
        else .error .sum
      else .ok (.ok ⟨(plan.lines (k + 1)).toArray, none, plan.time k⟩, plan.before (k + 1)) := by
  rw [resultFrom_eq, hNone, h]
  -- by `hState` the last branch applies
  simp only

/-! ## The course of a run -/

/-- How a run comes to its result in round `n`, which is the last. -/
inductive Course (plan : Plan δ) (n : Nat) : Prop
  /-- The tick stops the program by an overflow. -/
  | stopped (overflow : Overflow)
    (hOverflow : plan.overflow? n = some overflow)
    (hResult : plan.result = .error overflow)
  /-- The tick fails. -/
  | failed (fault : EngineError)
    (hNone : plan.overflow? n = none)
    (hOutcome : plan.outcome n = .error fault)
    (hResult : plan.result = .ok (.error fault, plan.before (n + 1)))
  /-- The tick ends the run. -/
  | finished (report : TickReport) (ending : Ending)
    (hNone : plan.overflow? n = none)
    (hOutcome : plan.outcome n = .ok report)
    (hState : report.state = .finished ending)
    (hResult : plan.result =
      .ok (.ok ⟨(plan.lines (n + 1)).toArray, some ending, plan.time n⟩, plan.before (n + 1)))
  /-- There is no time left. -/
  | expired (report : TickReport)
    (hNone : plan.overflow? n = none)
    (hOutcome : plan.outcome n = .ok report)
    (hState : ∀ ending, report.state ≠ .finished ending)
    (hTime : plan.time n = plan.durationMs)
    (hResult : plan.result =
      .ok (.ok ⟨(plan.lines (n + 1)).toArray, none, plan.time n⟩, plan.before (n + 1)))
  /-- The clock does not reach as far as the next tick, and that stops the program. -/
  | exhausted (report : TickReport)
    (hNone : plan.overflow? n = none)
    (hOutcome : plan.outcome n = .ok report)
    (hState : ∀ ending, report.state ≠ .finished ending)
    (hTime : plan.time n < plan.durationMs)
    (hOverflow : UInt64.size ≤ (plan.time n).toNat + plan.length.toNat)
    (hResult : plan.result = .error .sum)

variable {n : Nat}

/-- As long as the rounds lead on, nothing of the result is decided. -/
theorem result_eq_resultFrom (h : ∀ k < n, plan.LeadsOn k) : plan.result = plan.resultFrom n := by
  induction n with
  | zero => exact plan.result_eq_resultFrom_zero
  | succ n ih =>
    obtain ⟨hNone, report, hOutcome, hState, hTime, hFits⟩ := h n (Nat.lt_succ_self n)
    rw [ih fun k hk => h k (Nat.lt_succ_of_lt hk), resultFrom_of_unfinished hNone hOutcome hState,
      if_pos hTime, if_pos hFits]

/-- A round that does not lead on decides the result. -/
theorem course_of_last (h : ∀ k < n, plan.LeadsOn k) (hLast : ¬plan.LeadsOn n) :
    plan.Course n := by
  have hResult := result_eq_resultFrom h
  cases hNone : plan.overflow? n with
  | some overflow =>
    rw [resultFrom_eq, hNone] at hResult
    exact .stopped overflow hNone hResult
  | none =>
    cases hOutcome : plan.outcome n with
    | error fault =>
      rw [resultFrom_eq, hNone, hOutcome] at hResult
      exact .failed fault hNone hOutcome hResult
    | ok report =>
      by_cases hState : ∃ ending, report.state = .finished ending
      · obtain ⟨ending, hEnding⟩ := hState
        rw [resultFrom_eq, hNone, hOutcome] at hResult
        simp only [hEnding] at hResult
        exact .finished report ending hNone hOutcome hEnding hResult
      · have hGoes : ∀ ending, report.state ≠ .finished ending :=
          fun ending hEnding => hState ⟨ending, hEnding⟩
        rw [resultFrom_of_unfinished hNone hOutcome hGoes] at hResult
        by_cases hTime : plan.time n < plan.durationMs
        · have hOverflow : ¬(plan.time n).toNat + plan.length.toNat < UInt64.size :=
            fun hFits => hLast ⟨hNone, report, hOutcome, hGoes, hTime, hFits⟩
          rw [if_pos hTime, if_neg hOverflow] at hResult
          exact .exhausted report hNone hOutcome hGoes hTime (Nat.not_lt.1 hOverflow) hResult
        · rw [if_neg hTime] at hResult
          have hEnd : plan.time n = plan.durationMs :=
            UInt64.le_antisymm (tickTime_le_duration _ _ n) (UInt64.not_lt.1 hTime)
          exact .expired report hNone hOutcome hGoes hEnd hResult

/-- What there is to a transcript: the lines of all rounds, the time of the last tick, and the
ending if that tick ended the run.  Otherwise it was at the end of the duration. -/
theorem Course.of_transcript {transcript : Transcript} {after : Engine δ} (h : plan.Course n)
    (hResult : plan.result = .ok (.ok transcript, after)) :
    after = plan.before (n + 1) ∧
      transcript.entries = (plan.lines (n + 1)).toArray ∧ transcript.elapsedMs = plan.time n ∧
      ∃ report, plan.outcome n = .ok report ∧
        (∀ ending, transcript.ending = some ending ↔ report.state = .finished ending) ∧
        ((∃ ending, report.state = .finished ending) ∨ plan.time n = plan.durationMs) := by
  cases h with
  | finished report ending _ hOutcome hState hOwn =>
    cases hOwn.symm.trans hResult
    refine ⟨rfl, rfl, rfl, report, hOutcome, fun other => ?_, .inl ⟨ending, hState⟩⟩
    rw [hState, Option.some.injEq, RunState.finished.injEq]
  | expired report _ hOutcome hState hTime hOwn =>
    cases hOwn.symm.trans hResult
    refine ⟨rfl, rfl, rfl, report, hOutcome, fun other => ?_, .inr hTime⟩
    exact iff_of_false (Option.some_ne_none other).symm (hState other)
  | stopped overflow _ hOwn => cases hOwn.symm.trans hResult
  | failed fault _ _ hOwn => cases hOwn.symm.trans hResult
  | exhausted report _ _ _ _ _ hOwn => cases hOwn.symm.trans hResult

/-! ## Runs that wait -/

theorem Waits.of_state (h : plan.overflow? k = none ∧
    (plan.outcome k).toOption.map (·.state) = some .awaitingEvent) : plan.Waits k := by
  obtain ⟨hNone, hState⟩ := h
  obtain ⟨report, hReport, hWaits⟩ := Option.map_eq_some_iff.1 hState
  exact ⟨hNone, report, Outcome.toOption_eq_some.1 hReport, hWaits⟩

/-- A run that waits goes on while there is time. -/
theorem Waits.leadsOn (h : plan.Waits k) (hTime : plan.time k < plan.durationMs)
    (hFits : (plan.time k).toNat + plan.length.toNat < UInt64.size) : plan.LeadsOn k := by
  obtain ⟨hNone, report, hOutcome, hWaits⟩ := h
  refine ⟨hNone, report, hOutcome, fun ending => ?_, hTime, hFits⟩
  rw [hWaits]
  exact RunState.noConfusion

theorem Waits.resultFrom_eq (h : plan.Waits k) :
    plan.resultFrom k =
      if plan.time k < plan.durationMs then
        if (plan.time k).toNat + plan.length.toNat < UInt64.size then plan.resultFrom (k + 1)
        else .error .sum
      else .ok (.ok ⟨(plan.lines (k + 1)).toArray, none, plan.time k⟩, plan.before (k + 1)) := by
  obtain ⟨hNone, report, hOutcome, hWaits⟩ := h
  refine resultFrom_of_unfinished hNone hOutcome fun ending => ?_
  rw [hWaits]
  exact RunState.noConfusion

/-! ## The last round -/

/-- The clock goes on with every round. -/
theorem LeadsOn.time_lt_succ (h : plan.LeadsOn k) : plan.time k < plan.time (k + 1) := by
  obtain ⟨-, -, -, -, hTime, -⟩ := h
  exact tickTime_lt_succ plan.length_pos hTime

/-- After as many rounds there are as many milliseconds on the clock, or more. -/
theorem le_toNat_time (h : ∀ k < n, plan.LeadsOn k) : n ≤ (plan.time n).toNat := by
  induction n with
  | zero => exact Nat.zero_le _
  | succ n ih =>
    have hEarlier := ih fun k hk => h k (Nat.lt_succ_of_lt hk)
    have hStep := UInt64.lt_iff_toNat_lt.1 (h n (Nat.lt_succ_self n)).time_lt_succ
    omega

/-- **A run comes to its result.**  Some round does not lead on, because there are no more of them
that do than milliseconds in the duration. -/
theorem course (plan : Plan δ) : ∃ n, (∀ k < n, plan.LeadsOn k) ∧ plan.Course n := by
  classical
  have hLast : ∃ n, ¬plan.LeadsOn n := by
    by_contra hAll
    have hLeads : ∀ k, plan.LeadsOn k := fun k => not_not.1 fun hNot => hAll ⟨k, hNot⟩
    have hCount := le_toNat_time (n := plan.durationMs.toNat + 1) fun k _ => hLeads k
    have hBound := UInt64.le_iff_toNat_le.1
      (tickTime_le_duration plan.length plan.durationMs (plan.durationMs.toNat + 1))
    exact absurd (Nat.le_trans hCount hBound) (Nat.not_succ_le_self _)
  refine ⟨Nat.find hLast, ?_, course_of_last ?_ (Nat.find_spec hLast)⟩
  · exact fun k hk => not_not.1 (Nat.find_min hLast hk)
  · exact fun k hk => not_not.1 (Nat.find_min hLast hk)

end Plan
end Simulation
end BranchingMovie
