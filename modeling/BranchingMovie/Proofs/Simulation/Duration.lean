import BranchingMovie.Proofs.Playback.SoundShift
import BranchingMovie.Proofs.Simulation.Plan

/-!
# The end of a simulated run

The ticks of a run are a whole number of tick lengths apart, and the last of them is at the end of
the duration, unless a tick fails or ends the run before (`simulate_ends`).  There are two more ways
for a run to stop, and both stop the program with it.  A tick may play a clip whose sound cannot be
shifted.  And the end of the duration caps the time of the next tick only after the length of a tick
has been added to the time of this one, and that sum may be beyond the range of the clock.
`not_forall_clock_in_range` has such a run.  It takes a duration and a tick length whose sum is
beyond the range.
-/

namespace BranchingMovie

variable {δ : Type}

/-- The time of an act, which only a tick has. -/
def Act.time? : Act δ → Option UInt64
  | .tick now => some now
  | _ => none

namespace Simulation

/-- The ticks of a run are at the tick times. -/
theorem Plan.times_acts (plan : Plan δ) (n : Nat) :
    (plan.acts n).filterMap Act.time? = (List.range n).map plan.time := by
  induction n with
  | zero => rfl
  | succ n ih =>
    have hPushes : (plan.pushes n).filterMap Act.time? = [] := by
      rw [List.filterMap_eq_nil_iff]
      intro a hMem
      obtain ⟨input, -, rfl⟩ := List.mem_map.1 hMem
      rfl
    have hRound : (plan.round n).filterMap Act.time? = [plan.time n] := by
      rw [Plan.round, List.filterMap_append, hPushes]
      rfl
    rw [plan.acts_succ, List.filterMap_append, ih, hRound, List.range_succ, List.map_append,
      List.map_singleton]

variable [Decoder δ]

/-- An overflow stops a tick when it plays a clip whose sound cannot be shifted in words. -/
theorem Plan.overflow?_eq_some {plan : Plan δ} {k : Nat} {overflow : Overflow}
    (h : plan.overflow? k = some overflow) :
    overflow = .product ∧ (plan.before (k + 1)).session.player.state = .playing ∧
      ∃ clip, (plan.before (k + 1)).session.player.clip = some clip ∧
        clip.info.shiftInWords? = none := by
  unfold Plan.overflow? Player.overflow? at h
  split at h
  · rename_i clip hState hClip
    obtain ⟨hProduct, hShift⟩ := ClipInfo.overflow?_eq_some_iff.1 h
    exact ⟨hProduct, hState, clip, hClip, hShift⟩
  · cases h

/-- The clock can run out only when the duration and the length of a tick together are beyond its
range. -/
theorem Plan.Course.size_lt {plan : Plan δ} {n : Nat} (h : plan.Course n)
    (hResult : plan.result = .error .sum) :
    UInt64.size < plan.durationMs.toNat + plan.length.toNat := by
  cases h with
  | exhausted report _ _ _ hTime hOverflow _ =>
    have hEarly := UInt64.lt_iff_toNat_lt.1 hTime
    exact Nat.lt_of_le_of_lt hOverflow (Nat.add_lt_add_right hEarly _)
  | stopped overflow hOverflow hOwn =>
    obtain ⟨rfl, -⟩ := Plan.overflow?_eq_some hOverflow
    cases hResult.symm.trans hOwn
  | failed fault _ _ hOwn => cases hResult.symm.trans hOwn
  | finished report ending _ _ _ hOwn => cases hResult.symm.trans hOwn
  | expired report _ _ _ _ hOwn => cases hResult.symm.trans hOwn

/-- **A simulated run ends, and when.**  Tick `n` is the last one.

* Tick `k` is at `k` tick lengths, a length being at least one millisecond, or at the end of the
  duration if that is earlier.  The times of the ticks grow strictly.
* The ticks before tick `n` neither fail nor end the run, nothing overflows in them, and the sum
  that gives the next tick is in the range of the clock.
* Tick `n` fails, and so does the run; or it ends the run; or it is at the end of the duration.  Or
  an overflow stops the program, and no engine is left: tick `n` plays a clip whose sound cannot be
  shifted in words, or the sum that gives the next tick is beyond the range of the clock.

The last can happen only if the duration and the tick length together are beyond that range. -/
theorem simulate_ends (engine : Engine δ) (inputs : List TimedInput) (durationMs tickMs : UInt64) :
    let plan : Plan δ := ⟨engine, inputs, durationMs, tickMs⟩
    let result := simulate engine inputs durationMs tickMs
    ∃ n, let after := engine.run (plan.acts (n + 1))
      (plan.acts (n + 1)).filterMap Act.time? = (List.range (n + 1)).map plan.time ∧
      (∀ k, (plan.time k).toNat = min (k * max tickMs.toNat 1) durationMs.toNat) ∧
      (∀ k < n, plan.time k < plan.time (k + 1) ∧
        (plan.time k).toNat + max tickMs.toNat 1 < UInt64.size ∧ plan.overflow? k = none ∧
        ∃ report, plan.outcome k = .ok report ∧ ∀ ending, report.state ≠ .finished ending) ∧
      ((∃ fault, plan.outcome n = .error fault ∧ result = .ok (.error fault, after)) ∨
        (∃ report ending transcript, plan.outcome n = .ok report ∧
          report.state = .finished ending ∧ result = .ok (.ok transcript, after) ∧
          transcript.ending = some ending ∧ transcript.elapsedMs = plan.time n) ∨
        (∃ transcript, plan.time n = durationMs ∧ result = .ok (.ok transcript, after) ∧
          transcript.ending = none ∧ transcript.elapsedMs = durationMs) ∨
        (∃ clip, after.session.player.state = .playing ∧ after.session.player.clip = some clip ∧
          clip.info.shiftInWords? = none ∧ result = .error .product) ∨
        (plan.time n < durationMs ∧ UInt64.size ≤ (plan.time n).toNat + max tickMs.toNat 1 ∧
          result = .error .sum)) ∧
      (result = .error .sum → UInt64.size < durationMs.toNat + max tickMs.toNat 1) := by
  intro plan result
  have hLength : plan.length.toNat = max tickMs.toNat 1 := toNat_tickLength tickMs
  obtain ⟨n, hEarlier, hCourse⟩ := plan.course
  have hTimes : ∀ k, (plan.time k).toNat = min (k * max tickMs.toNat 1) durationMs.toNat := by
    intro k
    rw [← hLength]
    exact toNat_tickTime _ _ k
  have hBefore : ∀ k < n, plan.time k < plan.time (k + 1) ∧
      (plan.time k).toNat + max tickMs.toNat 1 < UInt64.size ∧ plan.overflow? k = none ∧
      ∃ report, plan.outcome k = .ok report ∧ ∀ ending, report.state ≠ .finished ending := by
    intro k hk
    obtain ⟨hNone, report, hOutcome, hState, -, hFits⟩ := hEarlier k hk
    rw [hLength] at hFits
    exact ⟨(hEarlier k hk).time_lt_succ, hFits, hNone, report, hOutcome, hState⟩
  refine ⟨n, plan.times_acts (n + 1), hTimes, hBefore, ?_, ?_⟩
  · cases hCourse with
    | failed fault _ hOutcome hResult => exact .inl ⟨fault, hOutcome, hResult⟩
    | finished report ending _ hOutcome hState hResult =>
      exact .inr (.inl ⟨report, ending, _, hOutcome, hState, hResult, rfl, rfl⟩)
    | expired report _ _ _ hTime hResult =>
      exact .inr (.inr (.inl ⟨_, hTime, hResult, rfl, hTime⟩))
    | stopped overflow hOverflow hResult =>
      obtain ⟨rfl, hState, clip, hClip, hShift⟩ := Plan.overflow?_eq_some hOverflow
      exact .inr (.inr (.inr (.inl ⟨clip, hState, hClip, hShift, hResult⟩)))
    | exhausted report _ _ _ hTime hOverflow hResult =>
      rw [hLength] at hOverflow
      exact .inr (.inr (.inr (.inr ⟨hTime, hOverflow, hResult⟩)))
  · intro hSum
    rw [← hLength]
    exact hCourse.size_lt hSum

/-! ## A clock that runs out -/

section Example

/-- A run that waits at a still frame, asked for as many milliseconds as the clock has, with two
ticks. -/
def Plan.twoTicks : Plan SyntheticDecoder where
  engine := .ofFilm .still
  inputs := []
  durationMs := 18446744073709551615
  tickMs := 9223372036854775808

theorem Plan.pushes_twoTicks (k : Nat) : twoTicks.pushes k = [] := by
  have hSchedule : schedule twoTicks.inputs = [] := List.mergeSort_nil
  rw [pushes, due, hSchedule]
  rfl

/-- Both ticks leave the run waiting. -/
theorem Plan.waits_twoTicks {k : Nat} (h : k = 0 ∨ k = 1) : twoTicks.Waits k := by
  refine .of_state ?_
  rw [overflow?, outcome, before_succ, pushes_twoTicks]
  rcases h with rfl | rfl
  · decide +kernel
  · rw [before_succ, pushes_twoTicks]
    decide +kernel

/-- The sum of two tick lengths is more than the clock can show. -/
theorem Plan.result_twoTicks : twoTicks.result = .error .sum := by
  have hLeads : ∀ k < 1, twoTicks.LeadsOn k := by
    intro k hk
    obtain rfl : k = 0 := Nat.lt_one_iff.1 hk
    exact (waits_twoTicks (.inl rfl)).leadsOn (by decide) (by decide)
  have hLast : twoTicks.Waits 1 := waits_twoTicks (.inr rfl)
  rw [result_eq_resultFrom hLeads, hLast.resultFrom_eq, if_pos (by decide), if_neg (by decide)]

/-- The sum of the time and the tick length is not always in the range of the clock: after two ticks
of half the range each, the run has not come to the end of its duration, and the program stops. -/
theorem not_forall_clock_in_range :
    ¬ ∀ (engine : Engine SyntheticDecoder) (inputs : List TimedInput) (durationMs tickMs : UInt64),
      simulate engine inputs durationMs tickMs ≠ .error .sum := by
  intro hAll
  exact hAll Plan.twoTicks.engine Plan.twoTicks.inputs Plan.twoTicks.durationMs
    Plan.twoTicks.tickMs Plan.result_twoTicks

end Example

end Simulation
end BranchingMovie
