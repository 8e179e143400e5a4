import BranchingMovie.Numeral
import BranchingMovie.Proofs.Outcome
import BranchingMovie.Proofs.Text.Words

/-!
# How whole numbers are spelled

A whole number is spelled with digits, one at least, and with a sign of either kind or none in front
of them; zeros in front change nothing (`Spells`).  A number of 32 or 64 bits is read from exactly
the spellings of it (`readInt32_ok_iff`, `readInt64_ok_iff`), and what is written for a number
spells it (`spells_writeInt`, `spells_writeNat`).  An unsigned number of 64 bits is read without a
minus sign (`readUInt64_ok_iff`).

A spelling is the number as it is written, but for zeros in front of it and a sign that it could do
without (`spells_iff`, `spellsUnsigned_iff`).
-/

namespace BranchingMovie.Numeral

/-! ## Digits -/

/-- Digits, one at least. -/
structure IsNumeral (digits : List Char) : Prop where
  ne_nil : digits ≠ []
  isDigit : ∀ c ∈ digits, c.isDigit = true

/-- The number that digits stand for. -/
def valueOf (digits : List Char) : Nat :=
  Nat.ofDigitChars 10 digits 0

/-- A text spells a whole number. -/
inductive Spells : List Char → Int → Prop
  | plain {digits : List Char} (h : IsNumeral digits) : Spells digits (valueOf digits)
  | plus {digits : List Char} (h : IsNumeral digits) : Spells ('+' :: digits) (valueOf digits)
  | minus {digits : List Char} (h : IsNumeral digits) : Spells ('-' :: digits) (-valueOf digits)

/-- A text spells a whole number without a minus sign. -/
inductive SpellsUnsigned : List Char → Nat → Prop
  | plain {digits : List Char} (h : IsNumeral digits) : SpellsUnsigned digits (valueOf digits)
  | plus {digits : List Char} (h : IsNumeral digits) :
    SpellsUnsigned ('+' :: digits) (valueOf digits)

theorem digit?_eq (c : Char) :
    digit? c = if c.isDigit then some (c.toNat - '0'.toNat) else none := by
  have hDigit : ('0' ≤ c ∧ c ≤ '9') ↔ c.isDigit = true := Char.isDigit_iff_toNat.symm
  simp only [digit?, hDigit]

/-- A number is no smaller than that of its first digits. -/
theorem le_ofDigitChars (digits : List Char) (value : Nat) :
    value ≤ Nat.ofDigitChars 10 digits value := by
  induction digits generalizing value with
  | nil => exact Nat.le_refl value
  | cons c digits ih =>
    rw [Nat.ofDigitChars_cons]
    have hRest := ih (10 * value + (c.toNat - '0'.toNat))
    omega

/-- Digits are read when they are digits and their number is within the limit.  It is enough to look
at the number as a whole, because it is no smaller than that of its first digits. -/
theorem readDigits_ok_iff {limit value number : Nat} {beyond : Fault} {cs : List Char}
    (h : value ≤ limit) :
    readDigits limit beyond value cs = .ok number ↔
      (∀ c ∈ cs, c.isDigit = true) ∧ Nat.ofDigitChars 10 cs value = number ∧ number ≤ limit := by
  induction cs generalizing value with
  | nil =>
    rw [readDigits, Nat.ofDigitChars_nil, Except.ok.injEq]
    constructor
    · rintro rfl
      exact ⟨List.forall_mem_nil _, rfl, h⟩
    · exact fun hNumber => hNumber.2.1
  | cons c cs ih =>
    rw [readDigits, digit?_eq, Nat.ofDigitChars_cons, Nat.mul_comm 10 value, List.forall_mem_cons]
    by_cases hDigit : c.isDigit = true
    · rw [if_pos hDigit]
      by_cases hLimit : value * 10 + (c.toNat - '0'.toNat) ≤ limit
      · simp only [if_pos hLimit, ih hLimit, hDigit, true_and]
      · have hBeyond := le_ofDigitChars cs (value * 10 + (c.toNat - '0'.toNat))
        simp only [if_neg hLimit, reduceCtorEq, false_iff]
        rintro ⟨-, hNumber, hFits⟩
        omega
    · simp [hDigit]

/-- Digits are read as a number when they are a numeral of it and it is within the limit. -/
theorem readDigits_numeral_iff {limit number : Nat} {beyond : Fault} {digits : List Char}
    (h : digits ≠ []) :
    readDigits limit beyond 0 digits = .ok number ↔
      IsNumeral digits ∧ valueOf digits ≤ limit ∧ valueOf digits = number := by
  rw [readDigits_ok_iff (Nat.zero_le limit)]
  constructor
  · rintro ⟨hDigits, rfl, hFits⟩
    exact ⟨⟨h, hDigits⟩, hFits, rfl⟩
  · rintro ⟨hNumeral, hFits, rfl⟩
    exact ⟨hNumeral.isDigit, rfl, hFits⟩

/-- Digits are read, and something made of them, when they are a numeral of a number within the
limit. -/
theorem map_readDigits_iff {limit : Nat} {beyond : Fault} {digits : List Char} {f : Nat → Int}
    {number : Int} (h : digits ≠ []) :
    (readDigits limit beyond 0 digits).map f = .ok number ↔
      IsNumeral digits ∧ valueOf digits ≤ limit ∧ f (valueOf digits) = number := by
  rw [Outcome.map_ok]
  constructor
  · rintro ⟨value, hRead, hNumber⟩
    obtain ⟨hNumeral, hFits, rfl⟩ := (readDigits_numeral_iff h).1 hRead
    exact ⟨hNumeral, hFits, hNumber⟩
  · rintro ⟨hNumeral, hFits, hNumber⟩
    exact ⟨_, (readDigits_numeral_iff h).2 ⟨hNumeral, hFits, rfl⟩, hNumber⟩

/-! ## Signs -/

/-- A numeral begins with a digit, and no sign is one. -/
theorem IsNumeral.ne_cons {digits rest : List Char} {c : Char} (h : IsNumeral digits)
    (hc : c.isDigit = false) : digits ≠ c :: rest := by
  rintro rfl
  rw [h.isDigit c List.mem_cons_self] at hc
  cases hc

section Signed

variable {least greatest : Int} {digits : List Char}

theorem readSigned_plus (h : digits ≠ []) :
    readSigned least greatest ('+' :: digits) =
      (readDigits greatest.toNat .tooLarge 0 digits).map Int.ofNat := by
  cases digits with
  | nil => exact absurd rfl h
  | cons c digits => rfl

theorem readSigned_minus (h : digits ≠ []) :
    readSigned least greatest ('-' :: digits) =
      (readDigits (-least).toNat .tooSmall 0 digits).map (-Int.ofNat ·) := by
  cases digits with
  | nil => exact absurd rfl h
  | cons c digits => rfl

theorem readSigned_plain (h : IsNumeral digits) :
    readSigned least greatest digits =
      (readDigits greatest.toNat .tooLarge 0 digits).map Int.ofNat := by
  unfold readSigned
  split
  · exact absurd rfl h.ne_nil
  · exact absurd rfl (h.ne_cons rfl)
  · exact absurd rfl (h.ne_cons rfl)
  · exact absurd rfl (h.ne_cons rfl)
  · exact absurd rfl (h.ne_cons rfl)
  · rfl

/-- **A number is read from exactly its spellings**, when it lies between the limits. -/
theorem readSigned_ok_iff {number : Int} (hLeast : least ≤ 0) (hGreatest : 0 ≤ greatest)
    {cs : List Char} :
    readSigned least greatest cs = .ok number ↔
      Spells cs number ∧ least ≤ number ∧ number ≤ greatest := by
  constructor
  · intro h
    unfold readSigned at h
    split at h
    · cases h
    · cases h
    · cases h
    · rename_i digits hDigits
      obtain ⟨hNumeral, hFits, rfl⟩ := (map_readDigits_iff fun hNil => hDigits (hNil ▸ rfl)).1 h
      exact ⟨.plus hNumeral, by grind, by grind⟩
    · rename_i digits hDigits
      obtain ⟨hNumeral, hFits, rfl⟩ := (map_readDigits_iff fun hNil => hDigits (hNil ▸ rfl)).1 h
      exact ⟨.minus hNumeral, by grind, by grind⟩
    · rename_i hNil _ _ _ _
      obtain ⟨hNumeral, hFits, rfl⟩ := (map_readDigits_iff hNil).1 h
      exact ⟨.plain hNumeral, by grind, by grind⟩
  · rintro ⟨hSpells, hLow, hHigh⟩
    cases hSpells with
    | plain hNumeral =>
      rw [readSigned_plain hNumeral, map_readDigits_iff hNumeral.ne_nil]
      exact ⟨hNumeral, by omega, rfl⟩
    | plus hNumeral =>
      rw [readSigned_plus hNumeral.ne_nil, map_readDigits_iff hNumeral.ne_nil]
      exact ⟨hNumeral, by omega, rfl⟩
    | minus hNumeral =>
      rw [readSigned_minus hNumeral.ne_nil, map_readDigits_iff hNumeral.ne_nil]
      exact ⟨hNumeral, by omega, rfl⟩

end Signed

section Unsigned

variable {greatest number : Nat}

theorem readUnsigned_plus {digits : List Char} (h : digits ≠ []) :
    readUnsigned greatest ('+' :: digits) = readDigits greatest .tooLarge 0 digits := by
  cases digits with
  | nil => exact absurd rfl h
  | cons c digits => rfl

theorem readUnsigned_plain {digits : List Char} (h : IsNumeral digits) :
    readUnsigned greatest digits = readDigits greatest .tooLarge 0 digits := by
  unfold readUnsigned
  split
  · exact absurd rfl h.ne_nil
  · exact absurd rfl (h.ne_cons rfl)
  · exact absurd rfl (h.ne_cons rfl)
  · rfl

/-- An unsigned number is read from exactly its spellings without a minus sign, when it is within
the limit. -/
theorem readUnsigned_ok_iff {cs : List Char} :
    readUnsigned greatest cs = .ok number ↔ SpellsUnsigned cs number ∧ number ≤ greatest := by
  constructor
  · intro h
    unfold readUnsigned at h
    split at h
    · cases h
    · cases h
    · rename_i digits hDigits
      obtain ⟨hNumeral, hFits, rfl⟩ := (readDigits_numeral_iff fun hNil => hDigits (hNil ▸ rfl)).1 h
      exact ⟨.plus hNumeral, hFits⟩
    · rename_i hNil _ _
      obtain ⟨hNumeral, hFits, rfl⟩ := (readDigits_numeral_iff hNil).1 h
      exact ⟨.plain hNumeral, hFits⟩
  · rintro ⟨hSpells, hFits⟩
    cases hSpells with
    | plain hNumeral =>
      rw [readUnsigned_plain hNumeral, readDigits_numeral_iff hNumeral.ne_nil]
      exact ⟨hNumeral, hFits, rfl⟩
    | plus hNumeral =>
      rw [readUnsigned_plus hNumeral.ne_nil, readDigits_numeral_iff hNumeral.ne_nil]
      exact ⟨hNumeral, hFits, rfl⟩

end Unsigned

/-! ## Widths -/

/-- A number of 32 bits is read from exactly its spellings. -/
theorem readInt32_ok_iff {cs : List Char} {value : Int32} :
    readInt32 cs = .ok value ↔ Spells cs value.toInt := by
  rw [readInt32, Outcome.map_ok]
  constructor
  · rintro ⟨number, hRead, rfl⟩
    obtain ⟨hSpells, hLow, hHigh⟩ := (readSigned_ok_iff (by decide) (by decide)).1 hRead
    rwa [Int32.toInt_ofInt_of_le hLow (Int.lt_of_le_sub_one hHigh)]
  · intro hSpells
    exact ⟨value.toInt, (readSigned_ok_iff (by decide) (by decide)).2
      ⟨hSpells, value.minValue_le_toInt, value.toInt_le⟩, value.ofInt_toInt⟩

/-- A number of 64 bits is read from exactly its spellings. -/
theorem readInt64_ok_iff {cs : List Char} {value : Int64} :
    readInt64 cs = .ok value ↔ Spells cs value.toInt := by
  rw [readInt64, Outcome.map_ok]
  constructor
  · rintro ⟨number, hRead, rfl⟩
    obtain ⟨hSpells, hLow, hHigh⟩ := (readSigned_ok_iff (by decide) (by decide)).1 hRead
    rwa [Int64.toInt_ofInt_of_le hLow (Int.lt_of_le_sub_one hHigh)]
  · intro hSpells
    exact ⟨value.toInt, (readSigned_ok_iff (by decide) (by decide)).2
      ⟨hSpells, value.minValue_le_toInt, value.toInt_le⟩, value.ofInt_toInt⟩

/-- An unsigned number of 64 bits is read from exactly its spellings without a minus sign. -/
theorem readUInt64_ok_iff {cs : List Char} {value : UInt64} :
    readUInt64 cs = .ok value ↔ SpellsUnsigned cs value.toNat := by
  rw [readUInt64, Outcome.map_ok]
  constructor
  · rintro ⟨number, hRead, rfl⟩
    obtain ⟨hSpells, hFits⟩ := readUnsigned_ok_iff.1 hRead
    have hSame : (UInt64.ofNat number).toNat = number :=
      UInt64.toNat_ofNat_of_lt' (Nat.lt_of_le_pred (by decide) hFits)
    rwa [hSame]
  · intro hSpells
    exact ⟨value.toNat, readUnsigned_ok_iff.2 ⟨hSpells, Nat.le_pred_of_lt value.toNat_lt⟩,
      UInt64.ofNat_toNat⟩

/-- A text that no number of 32 bits is read from spells none. -/
theorem readInt32_error {cs : List Char} {fault : Fault} (h : readInt32 cs = .error fault)
    (value : Int32) : ¬ Spells cs value.toInt := by
  rw [← readInt32_ok_iff, h]
  exact nofun

theorem readInt64_error {cs : List Char} {fault : Fault} (h : readInt64 cs = .error fault)
    (value : Int64) : ¬ Spells cs value.toInt := by
  rw [← readInt64_ok_iff, h]
  exact nofun

/-! ## Writing -/

theorem isNumeral_toDigits (n : Nat) : IsNumeral (Nat.toDigits 10 n) where
  ne_nil := Nat.toDigits_ne_nil
  isDigit _ := Nat.isDigit_of_mem_toDigits (by decide) (by decide)

theorem valueOf_toDigits (n : Nat) : valueOf (Nat.toDigits 10 n) = n :=
  Nat.ofDigitChars_toDigits (by decide) (by decide)

theorem toList_writeNat (n : Nat) : (writeNat n).toList = Nat.toDigits 10 n :=
  String.toList_ofList

/-- What is written for a number spells it. -/
theorem spells_writeNat (n : Nat) : Spells (writeNat n).toList n := by
  have h := Spells.plain (isNumeral_toDigits n)
  rwa [valueOf_toDigits, ← toList_writeNat] at h

theorem spells_writeInt (n : Int) : Spells (writeInt n).toList n := by
  unfold writeInt
  split
  · rename_i hNegative
    have h := Spells.minus (isNumeral_toDigits n.natAbs)
    rw [valueOf_toDigits, Int.ofNat_natAbs_of_nonpos (Int.le_of_lt hNegative), Int.neg_neg] at h
    rw [String.toList_append, toList_writeNat]
    exact h
  · rename_i hPositive
    have h := spells_writeNat n.natAbs
    rwa [Int.natAbs_of_nonneg (Int.not_lt.1 hPositive)] at h

/-! ## Zeros and signs that change nothing -/

/-- A digit is written for the number that it stands for. -/
theorem toDigits_digit {c : Char} (h : c.isDigit = true) :
    Nat.toDigits 10 (c.toNat - '0'.toNat) = [c] := by
  obtain ⟨hLow, hHigh⟩ := Char.isDigit_iff_toNat.1 h
  simp only [Char.reduceToNat] at *
  have hLess : c.toNat - 48 < 10 := by omega
  rw [Nat.toDigits_of_lt_base hLess, List.singleton_inj, ← Char.toNat_inj,
    Nat.toNat_digitChar_of_lt_ten hLess]
  omega

/-- Digits behind a number make a longer one of it, which is written as the number and the
digits. -/
theorem toDigits_append_digits {digits : List Char} (hDigits : ∀ c ∈ digits, c.isDigit = true)
    {n : Nat} (hn : 0 < n) :
    Nat.toDigits 10 n ++ digits = Nat.toDigits 10 (Nat.ofDigitChars 10 digits n) := by
  induction digits generalizing n with
  | nil => rw [List.append_nil, Nat.ofDigitChars_nil]
  | cons c digits ih =>
    obtain ⟨hDigit, hRest⟩ := List.forall_mem_cons.1 hDigits
    have hLess : c.toNat - '0'.toNat < 10 := by
      obtain ⟨-, hHigh⟩ := Char.isDigit_iff_toNat.1 hDigit
      simp only [Char.reduceToNat] at *
      omega
    have hLonger := Nat.toDigits_append_toDigits (by decide : 1 < 10) hn hLess
    rw [toDigits_digit hDigit] at hLonger
    rw [Nat.ofDigitChars_cons, ← ih hRest (by omega), ← hLonger, List.append_assoc,
      List.singleton_append]

theorem valueOf_zeros_append (zeros : Nat) (digits : List Char) :
    valueOf (List.replicate zeros '0' ++ digits) = valueOf digits := by
  induction zeros with
  | zero => rfl
  | succ zeros ih =>
    rw [List.replicate_succ, List.cons_append, ← ih]
    rfl

/-- **The numerals of a number** are its digits with zeros in front of them. -/
theorem isNumeral_iff {digits : List Char} {n : Nat} :
    IsNumeral digits ∧ valueOf digits = n ↔
      ∃ zeros, digits = List.replicate zeros '0' ++ Nat.toDigits 10 n := by
  constructor
  · rintro ⟨hNumeral, rfl⟩
    obtain ⟨hNil, hDigits⟩ := hNumeral
    induction digits with
    | nil => exact absurd rfl hNil
    | cons c digits ih =>
      obtain ⟨hDigit, hRest⟩ := List.forall_mem_cons.1 hDigits
      by_cases hZero : c = '0'
      · subst hZero
        by_cases hLast : digits = []
        · subst hLast
          exact ⟨0, rfl⟩
        · obtain ⟨zeros, hZeros⟩ := ih hLast hRest
          refine ⟨zeros + 1, ?_⟩
          rw [List.replicate_succ, List.cons_append, List.cons.injEq]
          exact ⟨rfl, hZeros⟩
      · -- a number that does not begin with zero is written as it stands
        have hPositive : 0 < c.toNat - '0'.toNat := by
          obtain ⟨hLow, -⟩ := Char.isDigit_iff_toNat.1 hDigit
          have hOther : c.toNat ≠ '0'.toNat := fun hSame => hZero (Char.toNat_inj.1 hSame)
          simp only [Char.reduceToNat] at *
          omega
        have hWritten := toDigits_append_digits hRest hPositive
        rw [toDigits_digit hDigit] at hWritten
        refine ⟨0, ?_⟩
        rw [List.replicate_zero, List.nil_append, valueOf, Nat.ofDigitChars_cons, Nat.mul_zero,
          Nat.zero_add, ← hWritten, List.singleton_append]
  · rintro ⟨zeros, rfl⟩
    refine ⟨⟨?_, fun c hc => ?_⟩, ?_⟩
    · exact List.append_ne_nil_of_right_ne_nil _ Nat.toDigits_ne_nil
    · rcases List.mem_append.1 hc with hZero | hDigit
      · rw [List.eq_of_mem_replicate hZero]
        rfl
      · exact (isNumeral_toDigits n).isDigit c hDigit
    · rw [valueOf_zeros_append, valueOf_toDigits]

/-- A sign that may stand in front of a number: a plus when it is not negative, and a minus when it
is not positive.  Only a negative number needs one. -/
inductive IsSignOf (n : Int) : List Char → Prop
  | none (h : 0 ≤ n) : IsSignOf n []
  | plus (h : 0 ≤ n) : IsSignOf n ['+']
  | minus (h : n ≤ 0) : IsSignOf n ['-']

/-- **A spelling of a number** is a sign and the digits of the number, with zeros between them. -/
theorem spells_iff {cs : List Char} {n : Int} :
    Spells cs n ↔ ∃ sign zeros, IsSignOf n sign ∧
      cs = sign ++ (List.replicate zeros '0' ++ Nat.toDigits 10 n.natAbs) := by
  constructor
  · intro h
    cases h with
    | plain hNumeral =>
      obtain ⟨zeros, hZeros⟩ := isNumeral_iff.1 ⟨hNumeral, rfl⟩
      exact ⟨[], zeros, .none (Int.natCast_nonneg _), hZeros⟩
    | plus hNumeral =>
      obtain ⟨zeros, hZeros⟩ := isNumeral_iff.1 ⟨hNumeral, rfl⟩
      exact ⟨['+'], zeros, .plus (Int.natCast_nonneg _), congrArg ('+' :: ·) hZeros⟩
    | minus hNumeral =>
      obtain ⟨zeros, hZeros⟩ := isNumeral_iff.1 ⟨hNumeral, rfl⟩
      refine ⟨['-'], zeros, .minus (by omega), ?_⟩
      rw [Int.natAbs_neg, Int.natAbs_natCast]
      exact congrArg ('-' :: ·) hZeros
  · rintro ⟨sign, zeros, hSign, rfl⟩
    obtain ⟨hNumeral, hValue⟩ := isNumeral_iff.2 ⟨zeros, rfl⟩
    cases hSign with
    | none h =>
      have hSpells := Spells.plain hNumeral
      rwa [hValue, Int.natAbs_of_nonneg h] at hSpells
    | plus h =>
      have hSpells := Spells.plus hNumeral
      rwa [hValue, Int.natAbs_of_nonneg h] at hSpells
    | minus h =>
      have hSpells := Spells.minus hNumeral
      rwa [hValue, Int.ofNat_natAbs_of_nonpos h, Int.neg_neg] at hSpells

/-- A spelling of a number that has no minus sign is the digits of the number, with zeros and
perhaps a plus sign in front of them. -/
theorem spellsUnsigned_iff {cs : List Char} {n : Nat} :
    SpellsUnsigned cs n ↔ ∃ sign zeros, (sign = [] ∨ sign = ['+']) ∧
      cs = sign ++ (List.replicate zeros '0' ++ Nat.toDigits 10 n) := by
  constructor
  · intro h
    cases h with
    | plain hNumeral =>
      obtain ⟨zeros, hZeros⟩ := isNumeral_iff.1 ⟨hNumeral, rfl⟩
      exact ⟨[], zeros, .inl rfl, hZeros⟩
    | plus hNumeral =>
      obtain ⟨zeros, hZeros⟩ := isNumeral_iff.1 ⟨hNumeral, rfl⟩
      exact ⟨['+'], zeros, .inr rfl, congrArg ('+' :: ·) hZeros⟩
  · rintro ⟨sign, zeros, rfl | rfl, rfl⟩
    · obtain ⟨hNumeral, hValue⟩ := isNumeral_iff.2 ⟨zeros, rfl⟩
      have hSpells := SpellsUnsigned.plain hNumeral
      rwa [hValue] at hSpells
    · obtain ⟨hNumeral, hValue⟩ := isNumeral_iff.2 ⟨zeros, rfl⟩
      have hSpells := SpellsUnsigned.plus hNumeral
      rwa [hValue] at hSpells

end BranchingMovie.Numeral
