import Mathlib.Data.List.Perm.Basic
import BranchingMovie.Simulation.Run

/-!
# Input in the order of its times

A run takes its input in the order of the times, and input of one time in the order in which it was
given.  `StablySorts` says that of a list, `schedule` makes such a list (`stablySorts_schedule`),
and there is no other (`StablySorts.unique`).  So two lists of input with the same input at each
time, in the same order, have one schedule (`schedule_congr`).
-/

namespace BranchingMovie.Simulation

/-- The list has the input of the other in the order of its times, and input of one time in its
order there. -/
structure StablySorts (sorted inputs : List TimedInput) : Prop where
  ordered : sorted.Pairwise fun a b => a.atMs ≤ b.atMs
  stable : ∀ time : UInt64,
    (sorted.filter fun input => input.atMs = time) = inputs.filter fun input => input.atMs = time

namespace StablySorts

variable {sorted other inputs : List TimedInput}

/-- Nothing is lost and nothing is added. -/
theorem perm (h : StablySorts sorted inputs) : sorted.Perm inputs := by
  rw [List.perm_iff_count]
  intro input
  have hCount : ∀ list : List TimedInput, List.count input list =
      List.count input (list.filter fun later => later.atMs = input.atMs) := by
    intro list
    rw [List.count_filter]
    exact decide_eq_true rfl
  rw [hCount sorted, hCount inputs, h.stable input.atMs]

theorem mem_iff (h : StablySorts sorted inputs) {input : TimedInput} :
    input ∈ sorted ↔ input ∈ inputs :=
  h.perm.mem_iff

/-- A part of the input that is chosen by the inputs alone is sorted with the whole. -/
theorem filter (h : StablySorts sorted inputs) (p : TimedInput → Bool) :
    StablySorts (sorted.filter p) (inputs.filter p) where
  ordered := h.ordered.filter p
  stable time := by
    rw [List.filter_comm, h.stable time, List.filter_comm]

/-- The head of a sorted list is due no later than any of its members. -/
theorem head_le {input : TimedInput} {rest : List TimedInput}
    (h : StablySorts (input :: rest) inputs) {later : TimedInput} (hMem : later ∈ inputs) :
    input.atMs ≤ later.atMs := by
  rcases List.mem_cons.1 (h.mem_iff.2 hMem) with rfl | hRest
  · exact UInt64.le_refl _
  · exact (List.pairwise_cons.1 h.ordered).1 later hRest

/-- There is one way to sort a list. -/
theorem unique (h : StablySorts sorted inputs) (h' : StablySorts other inputs) :
    sorted = other := by
  induction sorted generalizing other inputs with
  | nil => exact (List.nil_perm.1 (h.perm.trans h'.perm.symm)).symm
  | cons a as ih =>
    cases other with
    | nil => exact absurd (h.perm.trans h'.perm.symm) (List.not_perm_cons_nil)
    | cons b bs =>
      -- the heads are of the same time, so they are the first input of that time
      have hTime : a.atMs = b.atMs :=
        UInt64.le_antisymm (h.head_le (h'.mem_iff.1 List.mem_cons_self))
          (h'.head_le (h.mem_iff.1 List.mem_cons_self))
      have hFirst := (h.stable a.atMs).trans (h'.stable a.atMs).symm
      rw [List.filter_cons_of_pos (by simp), List.filter_cons_of_pos (by simp [hTime])] at hFirst
      obtain ⟨rfl, hRest⟩ := List.cons.inj hFirst
      have hStable : StablySorts bs as := by
        refine ⟨(List.pairwise_cons.1 h'.ordered).2, fun time => ?_⟩
        have hAll := (h'.stable time).trans (h.stable time).symm
        by_cases hEq : a.atMs = time
        · subst hEq
          exact hRest.symm
        · rwa [List.filter_cons_of_neg (by simpa using hEq),
            List.filter_cons_of_neg (by simpa using hEq)] at hAll
      rw [ih ⟨(List.pairwise_cons.1 h.ordered).2, fun _ => rfl⟩ hStable]

end StablySorts

/-! ## Schedules -/

private theorem isNoLater_trans (a b c : TimedInput) (hab : decide (a.atMs ≤ b.atMs) = true)
    (hbc : decide (b.atMs ≤ c.atMs) = true) : decide (a.atMs ≤ c.atMs) = true := by
  rw [decide_eq_true_eq] at hab hbc ⊢
  exact UInt64.le_trans hab hbc

private theorem isNoLater_total (a b : TimedInput) :
    (decide (a.atMs ≤ b.atMs) || decide (b.atMs ≤ a.atMs)) = true := by
  rw [Bool.or_eq_true, decide_eq_true_eq, decide_eq_true_eq]
  exact UInt64.le_total a.atMs b.atMs

/-- A schedule is in the order of the times. -/
theorem pairwise_schedule (inputs : List TimedInput) :
    (schedule inputs).Pairwise fun a b => a.atMs ≤ b.atMs := by
  have hSorted : (schedule inputs).Pairwise fun a b => decide (a.atMs ≤ b.atMs) = true :=
    List.pairwise_mergeSort isNoLater_trans isNoLater_total inputs
  exact hSorted.imp of_decide_eq_true

/-- The input of one time is a sorted part of the list, which a stable sort leaves in its order. -/
theorem filter_schedule (inputs : List TimedInput) (time : UInt64) :
    ((schedule inputs).filter fun input => input.atMs = time) =
      inputs.filter fun input => input.atMs = time := by
  have hSorted : (inputs.filter fun input => input.atMs = time).Pairwise
      fun a b => decide (a.atMs ≤ b.atMs) = true := by
    rw [List.pairwise_iff_forall_sublist]
    intro a b hPair
    have hA := (List.mem_filter.1 (hPair.subset List.mem_cons_self)).2
    have hB := (List.mem_filter.1 (hPair.subset (List.mem_cons_of_mem a List.mem_cons_self))).2
    rw [decide_eq_true_eq] at hA hB ⊢
    exact UInt64.le_of_eq (hA.trans hB.symm)
  have hSublist : (inputs.filter fun input => input.atMs = time).Sublist (schedule inputs) :=
    List.sublist_mergeSort isNoLater_trans isNoLater_total hSorted List.filter_sublist
  have hKept := hSublist.filter fun input => input.atMs = time
  simp only [List.filter_filter, Bool.and_self] at hKept
  refine (hKept.eq_of_length ?_).symm
  exact ((List.mergeSort_perm inputs _).filter _).length_eq.symm

/-- **A schedule is the stable sort of the input by its times.** -/
theorem stablySorts_schedule (inputs : List TimedInput) :
    StablySorts (schedule inputs) inputs :=
  ⟨pairwise_schedule inputs, filter_schedule inputs⟩

/-- The order of the input counts only among input of one time. -/
theorem schedule_congr {inputs others : List TimedInput}
    (h : ∀ time : UInt64, (others.filter fun input => input.atMs = time) =
      inputs.filter fun input => input.atMs = time) : schedule others = schedule inputs := by
  refine StablySorts.unique ⟨pairwise_schedule others, fun time => ?_⟩
    (stablySorts_schedule inputs)
  rw [filter_schedule, h time]

/-! ## What is due -/

/-- In a list in the order of times, what is due by a time stands in front. -/
theorem takeWhile_due {list : List TimedInput}
    (hOrdered : list.Pairwise fun a b => a.atMs ≤ b.atMs) (now : UInt64) :
    (list.takeWhile fun input => input.atMs ≤ now) = list.filter fun input => input.atMs ≤ now := by
  induction list with
  | nil => rfl
  | cons input list ih =>
    obtain ⟨hFirst, hRest⟩ := List.pairwise_cons.1 hOrdered
    by_cases hDue : input.atMs ≤ now
    · rw [List.takeWhile_cons_of_pos (by simpa using hDue),
        List.filter_cons_of_pos (by simpa using hDue), ih hRest]
    · rw [List.takeWhile_cons_of_neg (by simpa using hDue), eq_comm, List.filter_eq_nil_iff]
      intro later hMem
      have hLater : input.atMs ≤ later.atMs := by
        rcases List.mem_cons.1 hMem with rfl | hList
        · exact UInt64.le_refl _
        · exact hFirst later hList
      rw [decide_eq_true_eq]
      exact fun hNow => hDue (UInt64.le_trans hLater hNow)

/-- The rest of it is not due yet. -/
theorem dropWhile_due {list : List TimedInput}
    (hOrdered : list.Pairwise fun a b => a.atMs ≤ b.atMs) (now : UInt64) :
    (list.dropWhile fun input => input.atMs ≤ now) = list.filter fun input => now < input.atMs := by
  induction list with
  | nil => rfl
  | cons input list ih =>
    obtain ⟨hFirst, hRest⟩ := List.pairwise_cons.1 hOrdered
    by_cases hDue : input.atMs ≤ now
    · rw [List.dropWhile_cons_of_pos (by simpa using hDue),
        List.filter_cons_of_neg (by simpa using hDue), ih hRest]
    · rw [List.dropWhile_cons_of_neg (by simpa using hDue), eq_comm, List.filter_eq_self]
      intro later hMem
      rw [UInt64.not_le] at hDue
      rw [decide_eq_true_eq]
      rcases List.mem_cons.1 hMem with rfl | hList
      · exact hDue
      · exact UInt64.lt_of_lt_of_le hDue (hFirst later hList)

end BranchingMovie.Simulation
