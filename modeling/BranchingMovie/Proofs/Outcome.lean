/-!
# Outcomes of a chain of steps

When a chain of steps that may be refused comes to an end, each of its steps did; when it is
refused, one of them was, and those in front of it were not.  Chains are compared by what is made of
their results (`map_bind_congr`).  Steps that leave a state behind agree when they leave the same
one and have the same outcome, up to the wording of a fault (`Agree`).
-/

namespace BranchingMovie.Outcome

variable {ε φ α β : Type}

/-- A step and what follows it both succeed, or the chain is refused. -/
theorem bind_ok {step : Except ε α} {next : α → Except ε β} {result : β} :
    (step >>= next) = .ok result ↔ ∃ value, step = .ok value ∧ next value = .ok result := by
  cases step with
  | error fault =>
    constructor
    · intro h
      cases h
    · rintro ⟨_, h, _⟩
      cases h
  | ok value =>
    constructor
    · intro h
      exact ⟨value, rfl, h⟩
    · rintro ⟨_, h, hNext⟩
      cases h
      exact hNext

/-- A chain is refused by its first step, or after it. -/
theorem bind_error {step : Except ε α} {next : α → Except ε β} {fault : ε} :
    (step >>= next) = .error fault ↔
      step = .error fault ∨ ∃ value, step = .ok value ∧ next value = .error fault := by
  cases step with
  | error cause =>
    constructor
    · intro h
      cases h
      exact .inl rfl
    · rintro (h | ⟨_, h, _⟩)
      · cases h
        rfl
      · cases h
  | ok value =>
    constructor
    · intro h
      exact .inr ⟨value, rfl, h⟩
    · rintro (h | ⟨_, h, hNext⟩)
      · cases h
      · cases h
        exact hNext

/-- Another wording of a refusal changes nothing for a step that succeeds. -/
theorem mapError_ok {step : Except ε α} {reword : ε → φ} {result : α} :
    step.mapError reword = .ok result ↔ step = .ok result := by
  cases step with
  | error fault =>
    constructor
    · intro h
      cases h
    · intro h
      cases h
  | ok value =>
    constructor
    · intro h
      cases h
      rfl
    · intro h
      cases h
      rfl

/-- What is made of the result of a step that may be refused. -/
theorem map_ok {step : Except ε α} {f : α → β} {result : β} :
    step.map f = .ok result ↔ ∃ value, step = .ok value ∧ f value = result := by
  cases step with
  | error fault =>
    constructor
    · intro h
      cases h
    · rintro ⟨_, h, _⟩
      cases h
  | ok value =>
    constructor
    · intro h
      cases h
      exact ⟨value, rfl, rfl⟩
    · rintro ⟨_, h, rfl⟩
      cases h
      rfl

/-- What is made of the result of a step is refused when the step is. -/
theorem map_error {step : Except ε α} {f : α → β} {fault : ε} :
    step.map f = .error fault ↔ step = .error fault := by
  cases step with
  | error cause =>
    constructor
    · intro h
      cases h
      rfl
    · intro h
      cases h
      rfl
  | ok value =>
    constructor
    · intro h
      cases h
    · intro h
      cases h

/-- What is kept of a step that may be refused. -/
theorem toOption_eq_some {step : Except ε α} {result : α} :
    step.toOption = some result ↔ step = .ok result := by
  cases step with
  | error fault =>
    constructor
    · intro h
      cases h
    · intro h
      cases h
  | ok value =>
    constructor
    · intro h
      cases h
      rfl
    · intro h
      cases h
      rfl

/-- Two steps of which the same is made are both refused for one reason, or both succeed, with
results of which the same is made. -/
theorem map_eq_map {first second : Except ε α} {f : α → β} (h : first.map f = second.map f) :
    (∃ fault, first = .error fault ∧ second = .error fault) ∨
      ∃ value other, first = .ok value ∧ second = .ok other ∧ f value = f other := by
  cases first with
  | error fault =>
    have hSecond := map_error.1 h.symm
    exact .inl ⟨fault, rfl, hSecond⟩
  | ok value =>
    obtain ⟨other, hSecond, hValue⟩ := map_ok.1 h.symm
    exact .inr ⟨value, other, rfl, hSecond, hValue.symm⟩

/-- Two steps that are the same in one wording both succeed with one result, or are both refused,
for reasons that are worded alike. -/
theorem mapError_eq_mapError {first second : Except ε α} {reword : ε → φ}
    (h : first.mapError reword = second.mapError reword) :
    (∃ result, first = .ok result ∧ second = .ok result) ∨
      ∃ fault cause, first = .error fault ∧ second = .error cause ∧
        reword fault = reword cause := by
  cases first with
  | ok result => exact .inl ⟨result, rfl, mapError_ok.1 h.symm⟩
  | error fault =>
    cases second with
    | ok result => cases h
    | error cause => exact .inr ⟨fault, cause, rfl, rfl, Except.error.inj h⟩

/-- Another wording of a refusal does not touch what is made of the result. -/
theorem map_mapError (step : Except ε α) (reword : ε → φ) (f : α → β) :
    (step.mapError reword).map f = (step.map f).mapError reword := by
  cases step with
  | error fault => rfl
  | ok value => rfl

/-- The same is made of two chains, when the same is made of their first steps and of what follows
them. -/
theorem map_bind_congr {α' β' : Type} {first second : Except ε α} {f : α → α'} {g : β → β'}
    {next later : α → Except ε β} (h : first.map f = second.map f)
    (hNext : ∀ value other, first = .ok value → second = .ok other → f value = f other →
      (next value).map g = (later other).map g) :
    (first >>= next).map g = (second >>= later).map g := by
  obtain ⟨fault, rfl, rfl⟩ | ⟨value, other, rfl, rfl, hValue⟩ := map_eq_map h
  · rfl
  · exact hNext value other rfl rfl hValue

/-! ## Steps that leave a state -/

/-- Steps with one outcome, which leave states that are related. -/
theorem exists_of_fst_eq {ω σ : Type} {r : σ → σ → Prop} {step other : ω × σ}
    (hOutcome : other.1 = step.1) (hState : r step.2 other.2) :
    ∃ outcome after after', step = (outcome, after) ∧ other = (outcome, after') ∧
      r after after' :=
  ⟨step.1, step.2, other.2, rfl, Prod.ext hOutcome rfl, hState⟩

section Agree

variable {σ τ : Type}

/-- The outcomes leave the same state, and are the same but for the wording of a fault. -/
def Agree (reword : ε → φ) (outcome other : Except ε α × σ) : Prop :=
  other.1.mapError reword = outcome.1.mapError reword ∧ other.2 = outcome.2

variable {reword : ε → φ} {outcome other : Except ε α × σ}

theorem Agree.refl (reword : ε → φ) (outcome : Except ε α × σ) : Agree reword outcome outcome :=
  ⟨rfl, rfl⟩

/-- Two faults that are worded alike. -/
theorem Agree.error {fault cause : ε} (h : reword cause = reword fault) (state : σ) :
    Agree reword ((.error fault, state) : Except ε α × σ) (.error cause, state) :=
  ⟨congrArg Except.error h, rfl⟩

/-- Either both outcomes are the same success, or both are faults that are worded alike. -/
theorem Agree.cases (h : Agree reword outcome other) :
    (∃ result state, outcome = (.ok result, state) ∧ other = (.ok result, state)) ∨
      ∃ fault cause state, outcome = (.error fault, state) ∧ other = (.error cause, state) ∧
        reword cause = reword fault := by
  obtain ⟨first, state⟩ := outcome
  obtain ⟨second, after⟩ := other
  obtain ⟨hWord, hState⟩ := h
  obtain rfl : after = state := hState
  obtain ⟨result, hSecond, hFirst⟩ | ⟨cause, fault, hSecond, hFirst, hSame⟩ :=
    mapError_eq_mapError hWord
  · exact .inl ⟨result, after, Prod.ext hFirst rfl, Prod.ext hSecond rfl⟩
  · exact .inr ⟨fault, cause, after, Prod.ext hFirst rfl, Prod.ext hSecond rfl, hSame⟩

end Agree

end BranchingMovie.Outcome
