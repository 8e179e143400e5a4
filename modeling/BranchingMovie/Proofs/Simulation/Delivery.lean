import Mathlib.Data.List.Forall2
import BranchingMovie.Proofs.Simulation.Plan

/-!
# The delivery of timed input

A run that gives a transcript has delivered the input that was due by its last tick, all of it, in
the stable order of the times, and each in front of the first tick that is not before it
(`simulate_delivers`).  The rounds carry the proof: what is due in the first rounds, one after the
other, is the front of the schedule (`Plan.due_append_rest`).
-/

namespace BranchingMovie

variable {δ : Type}

/-- The input that a line of a transcript tells of, with the time of its delivery. -/
def TranscriptEntry.input? : TranscriptEntry → Option (UInt64 × InputEvent)
  | .input atMs event => some (atMs, event)
  | .node _ _ => none

/-- The input that was delivered in a run, with the times of its delivery. -/
def Transcript.delivered (transcript : Transcript) : List (UInt64 × InputEvent) :=
  transcript.entries.toList.filterMap TranscriptEntry.input?

namespace Simulation

theorem tickTime_mono (length durationMs : UInt64) {j k : Nat} (h : j ≤ k) :
    tickTime length durationMs j ≤ tickTime length durationMs k := by
  have hTimes : j * length.toNat ≤ k * length.toNat := Nat.mul_le_mul_right _ h
  rw [UInt64.le_iff_toNat_le, toNat_tickTime, toNat_tickTime]
  omega

namespace Plan

variable (plan : Plan δ)

/-! ## The input of the first rounds -/

/-- The input of the first rounds and the input of the later ones make up the schedule. -/
theorem due_append_rest (n : Nat) :
    (List.range n).flatMap plan.due ++ plan.rest n = schedule plan.inputs := by
  induction n with
  | zero => exact plan.rest_zero
  | succ n ih =>
    rw [List.range_succ, List.flatMap_append, List.flatMap_singleton, List.append_assoc,
      ← takeWhile_rest, ← dropWhile_rest, List.takeWhile_append_dropWhile, ih]

variable {plan}

theorem IsFirst.of_mem_due {k : Nat} {input : TimedInput} (h : input ∈ plan.due k) :
    plan.IsFirst k input :=
  of_decide_eq_true (List.mem_filter.1 h).2

/-- What a round has is due by the ticks after it, too. -/
theorem IsFirst.le_time {k n : Nat} {input : TimedInput} (h : plan.IsFirst k input) (hk : k ≤ n) :
    input.atMs ≤ plan.time n :=
  UInt64.le_trans h.1 (tickTime_mono _ _ hk)

variable (plan)

/-- The input of the rounds up to tick `n` is what is due by it. -/
theorem flatMap_due (n : Nat) :
    (List.range (n + 1)).flatMap plan.due =
      (schedule plan.inputs).filter fun input => input.atMs ≤ plan.time n := by
  have hDue : ∀ input ∈ (List.range (n + 1)).flatMap plan.due, input.atMs ≤ plan.time n := by
    intro input hMem
    obtain ⟨k, hk, hRound⟩ := List.mem_flatMap.1 hMem
    exact (IsFirst.of_mem_due hRound).le_time (Nat.lt_succ_iff.1 (List.mem_range.1 hk))
  have hLater : ∀ input ∈ plan.rest (n + 1), ¬input.atMs ≤ plan.time n := by
    intro input hMem
    have hEarlier := of_decide_eq_true (List.mem_filter.1 hMem).2
    exact UInt64.not_le.2 (hEarlier n (Nat.lt_succ_self n))
  rw [← plan.due_append_rest (n + 1), List.filter_append, List.filter_eq_self.2,
    List.filter_eq_nil_iff.2, List.append_nil]
  · intro input hMem
    rw [decide_eq_true_eq]
    exact hLater input hMem
  · intro input hMem
    exact decide_eq_true (hDue input hMem)

/-- A round has the input that it is the first for, out of all that is delivered. -/
theorem filter_isFirst {k n : Nat} (h : k ≤ n) :
    (((List.range (n + 1)).flatMap plan.due).filter fun input => plan.IsFirst k input) =
      plan.due k := by
  rw [flatMap_due, List.filter_filter, due]
  refine List.filter_congr fun input _ => ?_
  rw [← Bool.decide_and, decide_eq_decide, and_iff_left_iff_imp]
  exact fun hFirst => hFirst.le_time h

/-- Each line stands for its input, and has the time of the first tick that is not before it. -/
theorem forall₂_due (n : Nat) :
    List.Forall₂
      (fun input line => ∃ k < n, plan.IsFirst k input ∧ line = (plan.time k, input.event))
      ((List.range n).flatMap plan.due)
      ((List.range n).flatMap fun k =>
        (plan.due k).map fun input => (plan.time k, input.event)) := by
  induction n with
  | zero => exact .nil
  | succ n ih =>
    rw [List.range_succ, List.flatMap_append, List.flatMap_append, List.flatMap_singleton,
      List.flatMap_singleton]
    refine List.rel_append (ih.imp ?_) (List.forall₂_map_right_iff.2 (List.forall₂_same.2 ?_))
    · rintro input line ⟨k, hk, hLine⟩
      exact ⟨k, Nat.lt_succ_of_lt hk, hLine⟩
    · intro input hMem
      exact ⟨n, Nat.lt_succ_self n, IsFirst.of_mem_due hMem, rfl⟩

variable [Decoder δ]

/-! ## Lines and history -/

/-- The lines about input are those of the rounds, each with the time of its tick. -/
theorem delivered_lines (n : Nat) :
    (plan.lines n).filterMap TranscriptEntry.input? =
      (List.range n).flatMap fun k =>
        (plan.due k).map fun input => (plan.time k, input.event) := by
  rw [lines, List.filterMap_flatMap]
  refine List.flatMap_congr fun k _ => ?_
  have hNode : (plan.nodeLine k).filterMap TranscriptEntry.input? = [] := by
    unfold nodeLine
    split
    · rfl
    · split <;> rfl
  rw [List.filterMap_append, hNode, List.append_nil, inputLines, List.filterMap_map]
  rw [← List.filterMap_eq_map]
  rfl

/-- Input that comes in waits behind the input that waits. -/
theorem input_run_pushes (engine : Engine δ) (inputs : List TimedInput) :
    (engine.run (inputs.map fun input => .push input.event)).input =
      ⟨engine.input.pending ++ inputs.map (·.event), engine.input.history⟩ := by
  induction inputs generalizing engine with
  | nil => rw [List.map_nil, List.map_nil, List.append_nil]; rfl
  | cons input inputs ih =>
    refine (ih (engine.pushInput input.event)).trans ?_
    rw [List.map_cons, ← List.singleton_append, ← List.append_assoc]
    rfl

/-- After its tick a round has delivered what waited before it and its own input. -/
theorem input_before_succ (n : Nat) :
    (plan.before (n + 1)).input =
      ⟨[], (plan.before n).input.history ++
        ((plan.before n).input.pending ++ (plan.due n).map (·.event))⟩ := by
  have hPushed := input_run_pushes (plan.before n) (plan.due n)
  rw [before_succ]
  show InputQueue.mk [] (((plan.before n).run (plan.pushes n)).input.history ++
    ((plan.before n).run (plan.pushes n)).input.pending) = _
  rw [pushes, hPushed]

theorem input_before (n : Nat) :
    (plan.before (n + 1)).input =
      ⟨[], plan.engine.input.history ++ plan.engine.input.pending ++
        ((List.range (n + 1)).flatMap plan.due).map (·.event)⟩ := by
  induction n with
  | zero =>
    rw [input_before_succ, List.range_one, List.flatMap_singleton, List.append_assoc]
    rfl
  | succ n ih =>
    rw [input_before_succ, ih, List.range_succ (n := n + 1), List.flatMap_append,
      List.flatMap_singleton, List.map_append, List.nil_append]
    simp only [List.append_assoc]

/-! ## The delivery -/

/-- How a run that gives a transcript, and leaves the engine `after`, has delivered its input: the
list `sorted`, by tick `n`, which was the last. -/
structure Delivers (plan : Plan δ) (transcript : Transcript) (after : Engine δ) (n : Nat)
    (sorted : List TimedInput) : Prop where
  /-- The transcript ends with the last tick. -/
  elapsed : transcript.elapsedMs = plan.time n
  /-- What was due by then is delivered, in the stable order of the times. -/
  sorts : StablySorts sorted (plan.inputs.filter fun input => input.atMs ≤ transcript.elapsedMs)
  /-- The lines about input tell of it in that order, each at the time of the first tick that is not
  before the input. -/
  told : List.Forall₂
    (fun input line => ∃ k ≤ n, plan.IsFirst k input ∧ line = (plan.time k, input.event))
    sorted transcript.delivered
  /-- In front of each tick the engine was given the input that the tick is the first for. -/
  given : after = plan.engine.run ((List.range (n + 1)).flatMap fun k =>
    ((sorted.filter fun input => plan.IsFirst k input).map fun input => .push input.event) ++
      [.tick (plan.time k)])
  /-- The engine has heard the events in that order, after what it had heard before, and what
  waited for its first tick. -/
  heard : after.input.history =
    plan.engine.input.history ++ plan.engine.input.pending ++ transcript.delivered.map (·.2)

/-- The transcript of a run that has come as far as the last of its rounds. -/
theorem delivers_of_result {n : Nat} {transcript : Transcript}
    (hLines : transcript.entries = (plan.lines (n + 1)).toArray)
    (hElapsed : transcript.elapsedMs = plan.time n) :
    plan.Delivers transcript (plan.before (n + 1)) n ((List.range (n + 1)).flatMap plan.due) := by
  have hDelivered : transcript.delivered = (List.range (n + 1)).flatMap fun k =>
      (plan.due k).map fun input => (plan.time k, input.event) := by
    rw [Transcript.delivered, hLines]
    exact plan.delivered_lines (n + 1)
  refine ⟨hElapsed, ?_, ?_, ?_, ?_⟩
  · rw [hElapsed, flatMap_due]
    exact (stablySorts_schedule plan.inputs).filter _
  · rw [hDelivered]
    refine (plan.forall₂_due (n + 1)).imp ?_
    rintro input line ⟨k, hk, hLine⟩
    exact ⟨k, Nat.lt_succ_iff.1 hk, hLine⟩
  · rw [before, acts]
    refine congrArg plan.engine.run (List.flatMap_congr fun k hk => ?_)
    rw [plan.filter_isFirst (Nat.lt_succ_iff.1 (List.mem_range.1 hk))]
    rfl
  · rw [input_before, hDelivered, List.map_flatMap, List.map_flatMap]
    simp only [List.map_map]
    rfl

end Plan

/-- **The delivery of timed input.**  A run that gives a transcript has delivered exactly the input
that is due by its last tick, in the stable order of the times, each in front of the first tick
that is not before it and with the time of that tick.  The order of the input is of no account,
except among input of one time. -/
theorem simulate_delivers [Decoder δ] (engine : Engine δ) (inputs : List TimedInput)
    (durationMs tickMs : UInt64) {transcript : Transcript} {after : Engine δ}
    (h : simulate engine inputs durationMs tickMs = .ok (.ok transcript, after)) :
    (∃ n sorted, Plan.Delivers ⟨engine, inputs, durationMs, tickMs⟩ transcript after n sorted) ∧
      ∀ others : List TimedInput,
        (∀ time : UInt64, (others.filter fun input => input.atMs = time) =
          inputs.filter fun input => input.atMs = time) →
        simulate engine others durationMs tickMs = simulate engine inputs durationMs tickMs := by
  refine ⟨?_, fun others hOthers => ?_⟩
  · obtain ⟨n, -, hCourse⟩ := Plan.course ⟨engine, inputs, durationMs, tickMs⟩
    obtain ⟨rfl, hLines, hElapsed, -⟩ := hCourse.of_transcript h
    exact ⟨n, _, Plan.delivers_of_result _ hLines hElapsed⟩
  · rw [simulate, simulate, schedule_congr hOthers]

/-! ## An example -/

section Example

/-- Two ticks at a still frame, with input that is due in between, at the second tick, and after
it. -/
def Plan.fourInputs : Plan SyntheticDecoder where
  engine := .ofFilm .still
  inputs := [⟨45, .control .status⟩, ⟨40, .control .yes⟩, ⟨10, .control .no⟩, ⟨40, .control .no⟩]
  durationMs := 40
  tickMs := 40

theorem schedule_fourInputs : schedule Plan.fourInputs.inputs =
    [⟨10, .control .no⟩, ⟨40, .control .yes⟩, ⟨40, .control .no⟩, ⟨45, .control .status⟩] := by
  simp [schedule, Plan.fourInputs, List.mergeSort, List.MergeSort.Internal.splitInTwo]

theorem Plan.due_fourInputs : fourInputs.due 0 = [] ∧
    fourInputs.due 1 = [⟨10, .control .no⟩, ⟨40, .control .yes⟩, ⟨40, .control .no⟩] := by
  rw [due, due, schedule_fourInputs]
  decide +kernel

theorem Plan.waits_fourInputs {k : Nat} (h : k = 0 ∨ k = 1) : fourInputs.Waits k := by
  refine .of_state ?_
  rw [overflow?, outcome, before_succ, pushes]
  rcases h with rfl | rfl
  · rw [due_fourInputs.1]
    decide +kernel
  · rw [due_fourInputs.2, before_succ, pushes, due_fourInputs.1]
    decide +kernel

theorem Plan.result_fourInputs : fourInputs.result =
    .ok (.ok ⟨(fourInputs.lines 2).toArray, none, 40⟩, fourInputs.before 2) := by
  have hLeads : ∀ k < 1, fourInputs.LeadsOn k := by
    intro k hk
    obtain rfl : k = 0 := Nat.lt_one_iff.1 hk
    exact (waits_fourInputs (.inl rfl)).leadsOn (by decide) (by decide)
  have hLast : fourInputs.Waits 1 := waits_fourInputs (.inr rfl)
  rw [result_eq_resultFrom hLeads, hLast.resultFrom_eq, if_neg (by decide)]
  rfl

/-- The input of ten milliseconds comes first, the input of forty in the order in which it was
given, and the input after the last tick not at all. -/
theorem simulate_delivers_four_inputs :
    ∃ transcript after, simulate Plan.fourInputs.engine Plan.fourInputs.inputs
        Plan.fourInputs.durationMs Plan.fourInputs.tickMs = .ok (.ok transcript, after) ∧
      transcript.delivered =
        [(40, .control .no), (40, .control .yes), (40, .control .no)] ∧
      ∃ n sorted, Plan.fourInputs.Delivers transcript after n sorted := by
  refine ⟨_, _, Plan.result_fourInputs, ?_, (simulate_delivers _ _ _ _ Plan.result_fourInputs).1⟩
  show (Plan.fourInputs.lines 2).filterMap TranscriptEntry.input? = _
  rw [Plan.delivered_lines]
  show (Plan.fourInputs.due 0).map _ ++ ((Plan.fourInputs.due 1).map _ ++ []) = _
  rw [Plan.due_fourInputs.1, Plan.due_fourInputs.2]
  decide

end Example

end Simulation
end BranchingMovie
