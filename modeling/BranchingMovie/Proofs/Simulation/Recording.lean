import BranchingMovie.Proofs.Simulation.Delivery

/-!
# What is written down of a run

A transcript tells of the ticks that changed something: it has a line for the first tick, and for
every later one that left the run elsewhere, or doing something else, than the tick before
(`Plan.IsNews`).  These lines stand in the order of the ticks, each behind the input that was
delivered in front of its tick, and the times never go back.  A transcript names an ending exactly
when the last tick ended the run, and then the line of that tick is the last one, and the only one
that tells of an end (`simulate_records`).
-/

namespace BranchingMovie

variable {δ : Type}

namespace TranscriptEntry

/-- The time of a line of a transcript. -/
def atMs : TranscriptEntry → UInt64
  | .input atMs _ | .node atMs _ => atMs

/-- The report that a line of a transcript gives, with the time of its tick. -/
def node? : TranscriptEntry → Option (UInt64 × TickReport)
  | .input _ _ => none
  | .node atMs report => some (atMs, report)

end TranscriptEntry

/-- The reports that are written down of a run, with the times of their ticks. -/
def Transcript.nodes (transcript : Transcript) : List (UInt64 × TickReport) :=
  transcript.entries.toList.filterMap TranscriptEntry.node?

namespace Simulation
namespace Plan

/-! ## News -/

/-- Tick `k` is the first one, or it left the run elsewhere, or doing something else, than the tick
before. -/
def IsNews (reports : Nat → TickReport) : Nat → Prop
  | 0 => True
  | k + 1 => (reports k).pointer ≠ (reports (k + 1)).pointer ∨
      (reports k).state ≠ (reports (k + 1)).state

instance (reports : Nat → TickReport) : DecidablePred (IsNews reports)
  | 0 => .isTrue trivial
  | _ + 1 => inferInstanceAs (Decidable (_ ∨ _))

variable {plan : Plan δ} {n : Nat} {reports : Nat → TickReport}

/-- The line of a tick, if it is news. -/
def newsLine (plan : Plan δ) (reports : Nat → TickReport) (k : Nat) : List TranscriptEntry :=
  if IsNews reports k then [.node (plan.time k) (reports k)] else []

/-- The lines of a round: one for each input that is delivered in front of the tick, and then, if
the tick is news, the line of the tick. -/
def roundLines (plan : Plan δ) (reports : Nat → TickReport) (k : Nat) : List TranscriptEntry :=
  plan.inputLines k ++ plan.newsLine reports k

/-- The lines of the first `n` rounds, one round after the other. -/
def record (plan : Plan δ) (reports : Nat → TickReport) (n : Nat) : List TranscriptEntry :=
  (List.range n).flatMap (plan.roundLines reports)

theorem record_succ (plan : Plan δ) (reports : Nat → TickReport) (n : Nat) :
    plan.record reports (n + 1) = plan.record reports n ++ plan.roundLines reports n := by
  rw [record, List.range_succ, List.flatMap_append, List.flatMap_singleton]
  rfl

/-- A run is over only once: a tick that ends it is news. -/
theorem isNews_of_finished {ending : Ending}
    (hEarlier : ∀ k < n, ∀ other, (reports k).state ≠ .finished other)
    (h : (reports n).state = .finished ending) : IsNews reports n := by
  cases n with
  | zero => exact trivial
  | succ n =>
    refine .inr fun hSame => ?_
    exact hEarlier n (Nat.lt_succ_self n) ending (hSame.trans h)

section Lines

variable [Decoder δ]

/-- What the run remembers of the tick before tells whether a tick is news. -/
theorem hasMoved_seen (h : ∀ k ≤ n, plan.outcome k = .ok (reports k)) :
    hasMoved (plan.seen n) (reports n) = decide (IsNews reports n) := by
  cases n with
  | zero => rfl
  | succ n =>
    rw [seen_succ (h n (Nat.le_succ n)), hasMoved, bne, Bool.eq_iff_iff, Bool.not_eq_true',
      beq_eq_false_iff_ne, decide_eq_true_eq, IsNews, Ne, Option.some.injEq, Prod.mk.injEq,
      not_and_or]

theorem nodeLine_eq_newsLine (h : ∀ k ≤ n, plan.outcome k = .ok (reports k)) :
    plan.nodeLine n = plan.newsLine reports n := by
  rw [nodeLine, h n (Nat.le_refl n)]
  simp only [hasMoved_seen h, decide_eq_true_eq, newsLine]

/-- The lines of the first rounds are those that their reports call for. -/
theorem lines_eq_record (h : ∀ k ≤ n, plan.outcome k = .ok (reports k)) :
    plan.lines (n + 1) = plan.record reports (n + 1) := by
  refine List.flatMap_congr fun k hk => ?_
  have hRound : k ≤ n := Nat.lt_succ_iff.1 (List.mem_range.1 hk)
  rw [roundLines, nodeLine_eq_newsLine fun j hj => h j (Nat.le_trans hj hRound)]

end Lines

/-! ## The lines of rounds -/

/-- A line has the time of the tick of its round. -/
theorem atMs_of_mem {k : Nat} {line : TranscriptEntry}
    (h : line ∈ plan.roundLines reports k) : line.atMs = plan.time k := by
  rcases List.mem_append.1 h with hInput | hNews
  · obtain ⟨input, -, rfl⟩ := List.mem_map.1 hInput
    rfl
  · rw [newsLine] at hNews
    split at hNews
    · obtain rfl := List.mem_singleton.1 hNews
      rfl
    · cases hNews

/-- Times never go back from one line to a later one. -/
theorem pairwise_atMs (n : Nat) :
    (plan.record reports n).Pairwise fun a b => a.atMs ≤ b.atMs := by
  rw [record, List.pairwise_flatMap]
  constructor
  · intro k _
    refine List.pairwise_of_forall_mem_list fun a ha b hb => ?_
    rw [atMs_of_mem ha, atMs_of_mem hb]
    exact UInt64.le_refl _
  · refine List.pairwise_lt_range.imp fun {j k} hLt a ha b hb => ?_
    rw [atMs_of_mem ha, atMs_of_mem hb]
    exact tickTime_mono _ _ (Nat.le_of_lt hLt)

/-- The reports among the lines of a round. -/
theorem node?_round (k : Nat) :
    (plan.roundLines reports k).filterMap TranscriptEntry.node? =
      if IsNews reports k then [(plan.time k, reports k)] else [] := by
  have hInput : (plan.inputLines k).filterMap TranscriptEntry.node? = [] := by
    rw [inputLines, List.filterMap_map]
    exact List.filterMap_eq_nil_iff.2 fun input _ => rfl
  rw [roundLines, List.filterMap_append, hInput, List.nil_append, newsLine]
  split
  · rfl
  · rfl

/-- The reports among the lines are those of the ticks that are news. -/
theorem node?_record (n : Nat) :
    (plan.record reports n).filterMap TranscriptEntry.node? =
      ((List.range n).filter (IsNews reports)).map fun k => (plan.time k, reports k) := by
  induction n with
  | zero => rfl
  | succ n ih =>
    rw [record_succ, List.filterMap_append, ih, node?_round, List.range_succ, List.filter_append,
      List.map_append, List.filter_singleton]
    by_cases hNews : IsNews reports n
    · rw [if_pos hNews, decide_eq_true hNews]
      rfl
    · rw [if_neg hNews, decide_eq_false hNews]
      rfl

/-- No line but that of the tick that ends the run tells of an end. -/
theorem unfinished_of_mem {atMs : UInt64} {report : TickReport}
    (hEarlier : ∀ k < n, ∀ ending, (reports k).state ≠ .finished ending)
    (h : .node atMs report ∈ plan.record reports n) (ending : Ending) :
    report.state ≠ .finished ending := by
  have hNode : (atMs, report) ∈ ((List.range n).filter (IsNews reports)).map fun k =>
      (plan.time k, reports k) := by
    rw [← node?_record]
    exact List.mem_filterMap.2 ⟨_, h, rfl⟩
  obtain ⟨k, hMem, hLine⟩ := List.mem_map.1 hNode
  obtain rfl : reports k = report := congrArg Prod.snd hLine
  exact hEarlier k (List.mem_range.1 (List.mem_of_mem_filter hMem)) ending

/-- The lines of a run that is over end with the one of its last tick. -/
theorem record_of_finished {ending : Ending}
    (hEarlier : ∀ k < n, ∀ other, (reports k).state ≠ .finished other)
    (h : (reports n).state = .finished ending) :
    ∃ front, plan.record reports (n + 1) = front ++ [.node (plan.time n) (reports n)] ∧
      ∀ atMs report, .node atMs report ∈ front → ∀ other, report.state ≠ .finished other := by
  refine ⟨plan.record reports n ++ plan.inputLines n, ?_, ?_⟩
  · have hLine : plan.newsLine reports n = [.node (plan.time n) (reports n)] :=
      if_pos (isNews_of_finished hEarlier h)
    rw [record_succ, roundLines, hLine, List.append_assoc]
  · intro atMs report hMem
    rcases List.mem_append.1 hMem with hRound | hInput
    · exact unfinished_of_mem hEarlier hRound
    · obtain ⟨input, -, hLine⟩ := List.mem_map.1 hInput
      cases hLine

/-! ## The record -/

variable [Decoder δ]

/-- How a transcript tells of a run with the ticks up to tick `n`, which have the given reports, and
which leave the engine `after`. -/
structure Records (plan : Plan δ) (transcript : Transcript) (after : Engine δ) (n : Nat)
    (reports : Nat → TickReport) : Prop where
  /-- The ticks up to tick `n` are those of the run, each behind the input of its round. -/
  ticks : after = plan.engine.run (plan.acts (n + 1))
  reported : ∀ k ≤ n, plan.outcome k = .ok (reports k)
  /-- The ticks before the last one leave time, and do not end the run. -/
  onward : ∀ k < n, plan.time k < plan.durationMs ∧
    ∀ ending, (reports k).state ≠ .finished ending
  /-- The last one ends the run, or is at the end of the duration. -/
  stops : (∃ ending, (reports n).state = .finished ending) ∨ plan.time n = plan.durationMs
  /-- Tick by tick there is a line for each input that was delivered in front of it, and then, if
  the tick is news, the line of the tick. -/
  lines : transcript.entries.toList = plan.record reports (n + 1)
  /-- What is written down of the ticks are the reports of those that are news. -/
  nodes : transcript.nodes =
    ((List.range (n + 1)).filter (IsNews reports)).map fun k => (plan.time k, reports k)
  /-- Times never go back. -/
  ordered : transcript.entries.toList.Pairwise fun a b => a.atMs ≤ b.atMs
  /-- The transcript ends with the last tick. -/
  elapsed : transcript.elapsedMs = plan.time n
  /-- It names an ending exactly when that tick ended the run. -/
  ending_iff : ∀ ending, transcript.ending = some ending ↔ (reports n).state = .finished ending
  /-- Then the line of that tick is the last one, and no other line tells of an end. -/
  ends : ∀ ending, transcript.ending = some ending →
    ∃ front, transcript.entries.toList = front ++ [.node (plan.time n) (reports n)] ∧
      ∀ atMs report, .node atMs report ∈ front → ∀ other, report.state ≠ .finished other

/-- The reports of a run whose rounds before round `n` lead on. -/
theorem exists_reports {last : TickReport} (h : ∀ k < n, plan.LeadsOn k)
    (hLast : plan.outcome n = .ok last) :
    ∃ reports : Nat → TickReport, reports n = last ∧
      ∀ k ≤ n, plan.outcome k = .ok (reports k) := by
  have hAll : ∀ k, ∃ report, k ≤ n → plan.outcome k = .ok report := by
    intro k
    rcases Nat.lt_trichotomy k n with hEarlier | rfl | hLater
    · obtain ⟨-, report, hOutcome, -⟩ := h k hEarlier
      exact ⟨report, fun _ => hOutcome⟩
    · exact ⟨last, fun _ => hLast⟩
    · exact ⟨last, fun hLe => absurd hLe (Nat.not_le.2 hLater)⟩
  choose reports hReported using hAll
  exact ⟨reports, Except.ok.inj ((hReported n (Nat.le_refl n)).symm.trans hLast), hReported⟩

/-- What leads on to the next round leaves time, and does not end the run. -/
theorem onward_of_leadsOn (hReported : ∀ k ≤ n, plan.outcome k = .ok (reports k))
    (h : ∀ k < n, plan.LeadsOn k) (k : Nat) (hk : k < n) :
    plan.time k < plan.durationMs ∧ ∀ ending, (reports k).state ≠ .finished ending := by
  obtain ⟨-, report, hOutcome, hState, hTime, -⟩ := h k hk
  obtain rfl : reports k = report :=
    Except.ok.inj ((hReported k (Nat.le_of_lt hk)).symm.trans hOutcome)
  exact ⟨hTime, hState⟩

/-- The transcript of a run that has come as far as tick `n`. -/
theorem records_of_result {transcript : Transcript}
    (hReported : ∀ k ≤ n, plan.outcome k = .ok (reports k)) (hLeads : ∀ k < n, plan.LeadsOn k)
    (hStops : (∃ ending, (reports n).state = .finished ending) ∨ plan.time n = plan.durationMs)
    (hLines : transcript.entries = (plan.lines (n + 1)).toArray)
    (hElapsed : transcript.elapsedMs = plan.time n)
    (hEnding : ∀ ending, transcript.ending = some ending ↔ (reports n).state = .finished ending) :
    plan.Records transcript (plan.before (n + 1)) n reports := by
  have hRecord : transcript.entries.toList = plan.record reports (n + 1) := by
    rw [hLines, lines_eq_record hReported]
  have hOnward := onward_of_leadsOn hReported hLeads
  refine ⟨rfl, hReported, hOnward, hStops, hRecord, ?_, ?_, hElapsed, hEnding, ?_⟩
  · rw [Transcript.nodes, hRecord, node?_record]
  · rw [hRecord]
    exact pairwise_atMs (n + 1)
  · intro ending hEnded
    rw [hRecord]
    exact record_of_finished (fun k hk => (hOnward k hk).2) ((hEnding ending).1 hEnded)

end Plan

/-- **The record of a run.**  A run that gives a transcript has had ticks up to some tick `n`, none
of which failed, and only the last of which may have ended it.  For each of them the transcript has
a line exactly when the tick is the first one or its place or state is not that of the tick before;
the line gives the report and the time of the tick, and stands behind the input that was delivered
in front of the tick.  Times never go back, and the transcript ends with tick `n`.  It names an
ending exactly when that tick ended the run; then the line of that tick is the last one, and no
other one tells of an end. -/
theorem simulate_records [Decoder δ] (engine : Engine δ) (inputs : List TimedInput)
    (durationMs tickMs : UInt64) {transcript : Transcript} {after : Engine δ}
    (h : simulate engine inputs durationMs tickMs = .ok (.ok transcript, after)) :
    ∃ n reports, Plan.Records ⟨engine, inputs, durationMs, tickMs⟩ transcript after n reports := by
  obtain ⟨n, hLeads, hCourse⟩ := Plan.course ⟨engine, inputs, durationMs, tickMs⟩
  obtain ⟨rfl, hLines, hElapsed, report, hOutcome, hEnding, hStops⟩ := hCourse.of_transcript h
  obtain ⟨reports, rfl, hReported⟩ := Plan.exists_reports hLeads hOutcome
  exact ⟨n, reports, Plan.records_of_result hReported hLeads hStops hLines hElapsed hEnding⟩

/-! ## An example -/

section Example

/-- Three ticks at a still frame, with the button that leads on to death in front of the third. -/
def Plan.fatalButton : Plan SyntheticDecoder where
  engine := .ofFilm ((Film.ofEntries
    [⟨0, "map.mov", #v[2, 0, 0, 0, 0, 0, 1, 1, 0, 0, 0, 0, 0, 0, 0, 0, 0, 0, 0, 0, 0, 0, 0, 0]⟩,
      .plain 5 "" 0 0]).restock (({ width := 1, height := 1 } : SyntheticProfile).library .ok))
  inputs := [⟨15, .control .analysis⟩]
  durationMs := 90
  tickMs := 10

/-- The first two ticks wait, and differ only in the frame on display.  The button ends the third
one, and with it the run. -/
def Plan.reportsOfFatalButton : Nat → TickReport
  | 0 => ⟨⟨"intro.nod", 0⟩, .awaitingEvent, some "map.mov", none⟩
  | 1 => ⟨⟨"intro.nod", 0⟩, .awaitingEvent, some "map.mov", some 0⟩
  | _ => ⟨⟨"intro.nod", 1⟩, .finished .death, some "map.mov", some 0⟩

theorem Plan.outcome_fatalButton {k : Nat} (h : k < 3) :
    fatalButton.outcome k = .ok (reportsOfFatalButton k) := by
  have hAll : (List.range 3).map (fun k => (fatalButton.outcome k).toOption) =
      (List.range 3).map fun k => some (reportsOfFatalButton k) := by
    decide +kernel
  exact Outcome.toOption_eq_some.1 (List.map_inj_left.1 hAll k (List.mem_range.2 h))

theorem Plan.overflow?_fatalButton : ∀ k < 3, fatalButton.overflow? k = none := by
  decide +kernel

theorem Plan.result_fatalButton : fatalButton.result =
    .ok (.ok ⟨(fatalButton.lines 3).toArray, some .death, 20⟩, fatalButton.before 3) := by
  have hLeads : ∀ k < 2, fatalButton.LeadsOn k := by
    intro k hk
    have hEarly : k < 3 := Nat.lt_trans hk (by decide)
    have hNone := overflow?_fatalButton k hEarly
    have hOutcome := outcome_fatalButton hEarly
    obtain rfl | rfl : k = 0 ∨ k = 1 := by omega
    · exact Waits.leadsOn ⟨hNone, _, hOutcome, rfl⟩ (by decide) (by decide)
    · exact Waits.leadsOn ⟨hNone, _, hOutcome, rfl⟩ (by decide) (by decide)
  rw [result_eq_resultFrom hLeads, resultFrom_eq, overflow?_fatalButton 2 (by decide),
    outcome_fatalButton (by decide)]
  rfl

/-- The second tick leaves no line, although there is a frame on display by then, and the button
stands in front of the tick that it ends. -/
theorem simulate_records_fatal_button :
    ∃ transcript after, simulate Plan.fatalButton.engine Plan.fatalButton.inputs
        Plan.fatalButton.durationMs Plan.fatalButton.tickMs = .ok (.ok transcript, after) ∧
      transcript.entries.toList =
        [.node 0 ⟨⟨"intro.nod", 0⟩, .awaitingEvent, some "map.mov", none⟩,
          .input 20 (.control .analysis),
          .node 20 ⟨⟨"intro.nod", 1⟩, .finished .death, some "map.mov", some 0⟩] ∧
      ∃ n reports, Plan.fatalButton.Records transcript after n reports := by
  refine ⟨_, _, Plan.result_fatalButton, ?_, simulate_records _ _ _ _ Plan.result_fatalButton⟩
  show Plan.fatalButton.lines 3 = _
  rw [Plan.lines_eq_record fun k hk => Plan.outcome_fatalButton (Nat.lt_succ_of_le hk)]
  decide +kernel

end Example

end Simulation
end BranchingMovie
