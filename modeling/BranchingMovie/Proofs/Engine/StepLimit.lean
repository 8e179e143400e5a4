import BranchingMovie.Proofs.Engine.Visits

/-!
# The limit of a walk

A walk makes its visits one after the other, so it is described by the sessions after its first,
second, third visit (`Session.afterVisits`) and by the visits among them that lead on
(`Session.Passes`).  It stops at the first visit that does not lead on, whatever comes of that
visit, and is a runaway when all the visits that it may make lead on.

`walk_of_passes` says that a walk takes up where its first visits have led.  A runaway therefore
loses nothing: to walk on later, with a limit of its own, is to walk with the sum of the limits.
-/

namespace BranchingMovie

variable {δ : Type}

/-- The same film with another limit for walks. -/
def Film.limited (film : Film δ) (limit : UInt64) : Film δ :=
  { film with config.maxStepsPerTick := limit }

namespace Session

variable [Decoder δ]

/-- The session after some visits in a row, whatever comes of them. -/
def afterVisits (film : Film δ) (now : UInt64) (session : Session δ) : Nat → Session δ
  | 0 => session
  | visits + 1 => afterVisits film now (session.visit film now).2 visits

/-- The first visits, `visits` of them, all lead on. -/
def Passes (film : Film δ) (now : UInt64) (session : Session δ) (visits : Nat) : Prop :=
  ∀ i < visits, film.LeadsOn (session.afterVisits film now i).pointer

instance (film : Film δ) (now : UInt64) (session : Session δ) (visits : Nat) :
    Decidable (session.Passes film now visits) :=
  inferInstanceAs (Decidable (∀ i < visits, _))

variable {film : Film δ} {now : UInt64} {session : Session δ} {visits limit : Nat}

/-! ## Visits in a row -/

theorem afterVisits_succ (film : Film δ) (now : UInt64) (session : Session δ) (visits : Nat) :
    session.afterVisits film now (visits + 1) =
      ((session.afterVisits film now visits).visit film now).2 := by
  induction visits generalizing session with
  | zero => rfl
  | succ visits ih => exact ih _

theorem passes_succ :
    session.Passes film now (visits + 1) ↔
      film.LeadsOn session.pointer ∧ (session.visit film now).2.Passes film now visits :=
  Nat.forall_lt_succ_left

theorem Passes.of_le (h : session.Passes film now limit) (hLe : visits ≤ limit) :
    session.Passes film now visits :=
  fun i hi => h i (Nat.lt_of_lt_of_le hi hLe)

/-- A visit that leads on succeeds, and it changes neither the player nor what the run is doing. -/
theorem visit_of_leadsOn (h : film.LeadsOn session.pointer) (now : UInt64) :
    (session.visit film now).1 = .ok () ∧
      (session.visit film now).2.state = session.state ∧
      (session.visit film now).2.player = session.player := by
  obtain ⟨place, hNext⟩ := Film.leadsOn_iff.1 h
  obtain ⟨surface, hVisit⟩ := visit_of_next? hNext now
  rw [hVisit]
  exact ⟨rfl, session.state_clear, session.player_clear⟩

theorem Passes.afterVisits (h : session.Passes film now visits) :
    (session.afterVisits film now visits).state = session.state ∧
      (session.afterVisits film now visits).player = session.player := by
  induction visits generalizing session with
  | zero => exact ⟨rfl, rfl⟩
  | succ visits ih =>
    obtain ⟨hLeads, hRest⟩ := passes_succ.1 h
    obtain ⟨-, hState, hPlayer⟩ := visit_of_leadsOn hLeads now
    obtain ⟨hStates, hPlayers⟩ := ih hRest
    exact ⟨hStates.trans hState, hPlayers.trans hPlayer⟩

/-- A visit that does not lead on fails, or leaves a run that walks no more. -/
theorem visit_of_not_leadsOn (h : ¬ film.LeadsOn session.pointer) (now : UInt64) :
    (session.visit film now).1 = .ok () → (session.visit film now).2.state ≠ .running := by
  rw [Film.not_leadsOn_iff] at h
  obtain ⟨fault, -, hVisit⟩ | ⟨place, surface, hNext, -⟩ | ⟨-, ending, hVisit⟩ |
    ⟨-, entry, kind, hEnters⟩ := session.visit_cases film now
  · rw [hVisit]
    exact fun hOk => nomatch hOk
  · rw [h] at hNext
    cases hNext
  · rw [hVisit]
    exact fun _ hRunning => RunState.noConfusion hRunning
  · obtain ⟨_, _, _, -, -, hVisit⟩ := hEnters.visit
    rw [hVisit]
    obtain ⟨cause, -, hAwait⟩ | ⟨-, hAwait⟩ := await_cases _ _
    · rw [hAwait]
      exact fun hOk => nomatch hOk
    · rw [hAwait]
      exact fun _ hRunning => RunState.noConfusion hRunning

/-- No visit fails for want of steps. -/
theorem visit_ne_runaway (film : Film δ) (now : UInt64) (session : Session δ) (steps : Nat)
    (place : NodePointer) : (session.visit film now).1 ≠ .error (.runaway steps place) := by
  intro hFails
  obtain hRefusal | ⟨cause, hCause⟩ := visit_error hFails
  · cases Film.isLogical_of_refusal? hRefusal
  · cases hCause

/-! ## Walks -/

theorem walk_of_idle (h : session.state ≠ .running) (limit remaining : Nat) :
    session.walk film now limit remaining = (.ok (), session) := by
  cases remaining with
  | zero => exact if_neg h
  | succ remaining => exact if_neg h

theorem walk_of_ok (hState : session.state = .running)
    (h : (session.visit film now).1 = .ok ()) (limit remaining : Nat) :
    session.walk film now limit (remaining + 1) =
      (session.visit film now).2.walk film now limit remaining := by
  simp only [walk, if_pos hState]
  split
  · rename_i hVisit
    rw [hVisit] at h
    cases h
  · rename_i hVisit
    rw [hVisit]

theorem walk_of_error {fault : EngineError} (hState : session.state = .running)
    (h : (session.visit film now).1 = .error fault) (limit remaining : Nat) :
    session.walk film now limit (remaining + 1) = (.error fault, (session.visit film now).2) := by
  simp only [walk, if_pos hState]
  split
  · rename_i hVisit
    rw [hVisit] at h ⊢
    cases h
    rfl
  · rename_i hVisit
    rw [hVisit] at h
    cases h

/-- **A walk takes up where its first visits have led.** -/
theorem walk_of_passes (hState : session.state = .running) (h : session.Passes film now visits)
    (limit remaining : Nat) :
    session.walk film now limit (visits + remaining) =
      (session.afterVisits film now visits).walk film now limit remaining := by
  induction visits generalizing session with
  | zero => rw [Nat.zero_add, afterVisits]
  | succ visits ih =>
    obtain ⟨hLeads, hRest⟩ := passes_succ.1 h
    obtain ⟨hOk, hStays, -⟩ := visit_of_leadsOn hLeads now
    rw [Nat.add_right_comm, walk_of_ok hState hOk, ih (hStays.trans hState) hRest]
    rfl

/-- A walk stops at a visit that does not lead on. -/
theorem walk_of_not_leadsOn (hState : session.state = .running)
    (h : ¬ film.LeadsOn session.pointer) (limit remaining : Nat) :
    session.walk film now limit (remaining + 1) = session.visit film now := by
  have hStops := visit_of_not_leadsOn h now
  cases hOutcome : (session.visit film now).1 with
  | error fault =>
    rw [walk_of_error hState hOutcome, ← hOutcome]
  | ok _ =>
    rw [walk_of_ok hState hOutcome, walk_of_idle (hStops hOutcome), ← hOutcome]

/-- Of visits that do not all lead on there is a first one that does not. -/
theorem exists_first_of_not_passes (h : ¬ session.Passes film now limit) :
    ∃ visits < limit, session.Passes film now visits ∧
      ¬ film.LeadsOn (session.afterVisits film now visits).pointer := by
  induction limit with
  | zero => exact absurd (fun _ hLess => absurd hLess (Nat.not_lt_zero _)) h
  | succ limit ih =>
    by_cases hPasses : session.Passes film now limit
    · refine ⟨limit, Nat.lt_succ_self limit, hPasses, fun hLeads => h fun i hi => ?_⟩
      rcases Nat.lt_succ_iff_lt_or_eq.1 hi with hLess | rfl
      · exact hPasses i hLess
      · exact hLeads
    · obtain ⟨visits, hLess, hFirst⟩ := ih hPasses
      exact ⟨visits, Nat.lt_succ_of_lt hLess, hFirst⟩

/-- A walk all of whose visits lead on is a runaway. -/
theorem update_of_passes (hState : session.state = .running)
    (hPasses : session.Passes film now film.config.maxStepsPerTick.toNat) :
    let last := session.afterVisits film now film.config.maxStepsPerTick.toNat
    session.update film now =
      (.error (.runaway film.config.maxStepsPerTick.toNat last.pointer), last) := by
  intro last
  have hRunning : last.state = .running := hPasses.afterVisits.1.trans hState
  have hWalk := walk_of_passes hState hPasses film.config.maxStepsPerTick.toNat 0
  exact hWalk.trans (if_pos hRunning)

-- an entry without effect that leads back to itself leads on as often as you like
example : (Session.start ⟨"intro.nod", 0⟩ : Session SyntheticDecoder).Passes
    (.ofEntries [.plain 0 "" 0 0]) 0 12 := by
  decide +kernel

/-- The first visit that does not lead on decides what comes of a walk. -/
theorem update_of_not_leadsOn (hState : session.state = .running)
    (hLess : visits < film.config.maxStepsPerTick.toNat)
    (hPasses : session.Passes film now visits)
    (hStops : ¬ film.LeadsOn (session.afterVisits film now visits).pointer) :
    session.update film now = (session.afterVisits film now visits).visit film now := by
  have hRunning : (session.afterVisits film now visits).state = .running :=
    hPasses.afterVisits.1.trans hState
  obtain ⟨remaining, hLimit⟩ := Nat.exists_eq_add_of_lt hLess
  rw [update, hLimit, Nat.add_assoc, walk_of_passes hState hPasses,
    walk_of_not_leadsOn hRunning hStops]

/-- Everything that a walk can come to: it is a runaway, or it stops at the first visit that does
not lead on. -/
theorem update_cases (film : Film δ) (now : UInt64) (hState : session.state = .running) :
    let limit := film.config.maxStepsPerTick.toNat
    (session.Passes film now limit ∧ session.update film now =
      (.error (.runaway limit (session.afterVisits film now limit).pointer),
        session.afterVisits film now limit)) ∨
    ∃ visits < limit, session.Passes film now visits ∧
      ¬ film.LeadsOn (session.afterVisits film now visits).pointer ∧
      session.update film now = (session.afterVisits film now visits).visit film now := by
  intro limit
  by_cases hPasses : session.Passes film now limit
  · exact .inl ⟨hPasses, update_of_passes hState hPasses⟩
  · obtain ⟨visits, hLess, hFirst, hStops⟩ := exists_first_of_not_passes hPasses
    exact .inr ⟨visits, hLess, hFirst, hStops, update_of_not_leadsOn hState hLess hFirst hStops⟩

/-! ## Other limits -/

/-- Visits do not ask for the limit. -/
theorem walk_limited (film : Film δ) (other : UInt64) (now : UInt64) (session : Session δ)
    (limit remaining : Nat) :
    session.walk (film.limited other) now limit remaining =
      session.walk film now limit remaining := by
  induction remaining generalizing session with
  | zero => rfl
  | succ remaining ih =>
    have hVisit : session.visit (film.limited other) now = session.visit film now := rfl
    simp only [walk, hVisit, ih]

/-- Nothing but the number that a runaway reports tells two limits apart. -/
theorem walk_other_limit (film : Film δ) (now : UInt64) (session : Session δ)
    (limit other remaining : Nat) :
    (session.walk film now limit remaining).2 = (session.walk film now other remaining).2 ∧
      ((session.walk film now limit remaining).1 = (session.walk film now other remaining).1 ∨
        ∃ place, (session.walk film now limit remaining).1 = .error (.runaway limit place) ∧
          (session.walk film now other remaining).1 = .error (.runaway other place)) := by
  induction remaining generalizing session with
  | zero =>
    simp only [walk]
    split
    · exact ⟨rfl, .inr ⟨_, rfl, rfl⟩⟩
    · exact ⟨rfl, .inl rfl⟩
  | succ remaining ih =>
    simp only [walk]
    split
    · split
      · exact ⟨rfl, .inl rfl⟩
      · exact ih _
    · exact ⟨rfl, .inl rfl⟩

/-- After a runaway, a walk with a limit of its own ends as one walk with the sum of the limits
does. -/
theorem update_after_passes (hState : session.state = .running)
    (hPasses : session.Passes film now limit) {more total : UInt64}
    (hTotal : total.toNat = limit + more.toNat) :
    let rest := (session.afterVisits film now limit).update (film.limited more) now
    let whole := session.update (film.limited total) now
    rest.2 = whole.2 ∧
      (rest.1 = whole.1 ∨
        ∃ last, rest.1 = .error (.runaway more.toNat last) ∧
          whole.1 = .error (.runaway total.toNat last)) := by
  intro rest whole
  have hRest : rest =
      (session.afterVisits film now limit).walk film now more.toNat more.toNat :=
    walk_limited film more now _ _ _
  have hWhole : whole =
      (session.afterVisits film now limit).walk film now total.toNat more.toNat := by
    rw [← walk_of_passes hState hPasses, ← hTotal]
    exact walk_limited film total now _ _ _
  rw [hRest, hWhole]
  exact walk_other_limit film now _ _ _ _

/-- **No walk makes more visits than its limit allows, and a runaway can be taken up again.**  Take
a run that walks, at any place of any film.  Its walk is made of visits, `visits` of them, and each
one but the last leads on.  It is a runaway exactly when all the visits that the limit allows lead
on, and otherwise the first visit that does not lead on decides what comes of it, be it the last one
that the limit allows.  After a runaway, a walk with a limit of its own ends as one walk with the
sum of the limits does, in the same session and with the same outcome, up to the number of steps
that a runaway reports. -/
theorem update_within_limit (film : Film δ) (now : UInt64) (session : Session δ)
    (hState : session.state = .running) :
    let limit := film.config.maxStepsPerTick.toNat
    let outcome := session.update film now
    (∃ visits ≤ limit, session.Passes film now (visits - 1) ∧
      outcome.2 = session.afterVisits film now visits) ∧
    ((∃ steps place, outcome.1 = .error (.runaway steps place)) ↔
      session.Passes film now limit) ∧
    (∀ visits < limit, session.Passes film now visits →
      ¬ film.LeadsOn (session.afterVisits film now visits).pointer →
      outcome = (session.afterVisits film now visits).visit film now ∧
        (outcome.1 = .ok () → outcome.2.state ≠ .running)) ∧
    ∀ steps place, outcome.1 = .error (.runaway steps place) →
      steps = limit ∧ place = outcome.2.pointer ∧
      outcome.2 = session.afterVisits film now limit ∧
      ∀ more total : UInt64, total.toNat = limit + more.toNat →
        let rest := outcome.2.update (film.limited more) now
        let whole := session.update (film.limited total) now
        rest.2 = whole.2 ∧
          (rest.1 = whole.1 ∨
            ∃ last, rest.1 = .error (.runaway more.toNat last) ∧
              whole.1 = .error (.runaway total.toNat last)) := by
  intro limit outcome
  have hRunaway : (∃ steps place, outcome.1 = .error (.runaway steps place)) ↔
      session.Passes film now limit := by
    constructor
    · rintro ⟨steps, place, hFails⟩
      obtain ⟨hPasses, -⟩ | ⟨visits, -, -, -, hUpdate⟩ := update_cases film now hState
      · exact hPasses
      · exact absurd ((congrArg Prod.fst hUpdate).symm.trans hFails) (visit_ne_runaway _ _ _ _ _)
    · intro hPasses
      exact ⟨_, _, congrArg Prod.fst (update_of_passes hState hPasses)⟩
  refine ⟨?_, hRunaway, ?_, ?_⟩
  · obtain ⟨hPasses, hUpdate⟩ | ⟨visits, hLess, hPasses, -, hUpdate⟩ :=
      update_cases film now hState
    · exact ⟨limit, Nat.le_refl limit, hPasses.of_le (Nat.sub_le limit 1),
        congrArg Prod.snd hUpdate⟩
    · refine ⟨visits + 1, hLess, hPasses, ?_⟩
      rw [afterVisits_succ, ← hUpdate]
  · intro visits hLess hPasses hStops
    have hOutcome : outcome = (session.afterVisits film now visits).visit film now :=
      update_of_not_leadsOn hState hLess hPasses hStops
    rw [hOutcome]
    exact ⟨rfl, visit_of_not_leadsOn hStops now⟩
  · intro steps place hFails
    have hPasses := hRunaway.1 ⟨steps, place, hFails⟩
    have hOutcome : outcome = (.error (.runaway limit (session.afterVisits film now limit).pointer),
        session.afterVisits film now limit) :=
      update_of_passes hState hPasses
    rw [hOutcome] at hFails ⊢
    cases hFails
    exact ⟨rfl, rfl, rfl, fun more total hTotal => update_after_passes hState hPasses hTotal⟩

/-- Three entries that lead on and a death: with two steps at a time it takes two walks to get to
the end, and they end as one walk of four steps does. -/
theorem update_within_limit_of_two_steps :
    let film := (Film.ofEntries
      [.plain 0 "" 0 1, .plain 6 "" 0 1, .plain 7 "" 0 1, .plain 5 "" 0 0]).limited 2
    let session : Session SyntheticDecoder := .start film.graph.start
    let outcome := session.update film 0
    session.state = .running ∧ outcome.1 = .error (.runaway 2 ⟨"intro.nod", 2⟩) ∧
    (outcome.2.update (film.limited 2) 0).2 = (session.update (film.limited 4) 0).2 ∧
    (outcome.2.update (film.limited 2) 0).2.state = .finished .death := by
  intro film session outcome
  have hFails : outcome.1 = .error (.runaway 2 ⟨"intro.nod", 2⟩) := by decide +kernel
  obtain ⟨-, -, -, hResumes⟩ := update_within_limit film 0 session rfl
  obtain ⟨-, -, -, hTogether⟩ := hResumes _ _ hFails
  exact ⟨rfl, hFails, (hTogether 2 4 rfl).1, by decide +kernel⟩

end Session
end BranchingMovie
