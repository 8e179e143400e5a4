import BranchingMovie.Saturating

/-!
# Words of a machine

What a machine makes of whole numbers in words of 64 bits.  A result that does not fit into its word
is either replaced by the nearest one (`saturatingMul`, `saturatingSum`), or there is none (`mul?`,
`div?`, `narrow?`).  Every operation is described by the numbers that its words stand for.
-/

namespace BranchingMovie

/-! ## Unsigned words taken for signed ones -/

/-- An index that a signed number can hold is the same number when it is taken for signed. -/
theorem toInt_toInt64 {index : UInt64} (h : (index.toNat : Int) ≤ Int64.maxValue.toInt) :
    index.toInt64.toInt = index.toNat := by
  have hMax : Int64.maxValue.toInt = 9223372036854775807 := rfl
  show index.toBitVec.toInt = index.toNat
  rw [BitVec.toInt_eq_toNat_of_lt]
  · rfl
  · show 2 * index.toNat < 18446744073709551616
    omega

/-- An index that no signed number can hold is negative when it is taken for signed. -/
theorem toInt64_neg {index : UInt64} (h : Int64.maxValue.toInt < index.toNat) :
    index.toInt64 < 0 := by
  have hMax : Int64.maxValue.toInt = 9223372036854775807 := rfl
  have hBound := index.toNat_lt
  have hLarge : ¬ 2 * index.toBitVec.toNat < 18446744073709551616 := by
    show ¬ 2 * index.toNat < 18446744073709551616
    omega
  rw [Int64.lt_iff_toInt_lt]
  show index.toBitVec.toInt < 0
  rw [BitVec.toInt_eq_toNat_cond]
  refine Int.lt_of_le_of_lt (Int.le_of_eq (if_neg hLarge)) ?_
  show (index.toNat : Int) - 18446744073709551616 < 0
  omega

/-! ## Toward zero -/

/-- The word nearest to a number is not farther from zero than the number. -/
theorem clampInt64_le {n : Int} (h : 0 ≤ n) : clampInt64 n ≤ n := by
  have hMin : Int64.minValue.toInt = -9223372036854775808 := rfl
  unfold clampInt64
  omega

theorem le_clampInt64 {n : Int} (h : n ≤ 0) : n ≤ clampInt64 n := by
  have hMax : Int64.maxValue.toInt = 9223372036854775807 := rfl
  unfold clampInt64
  omega

theorem clampInt64_nonpos {n : Int} (h : n ≤ 0) : clampInt64 n ≤ 0 := by
  have hMin : Int64.minValue.toInt = -9223372036854775808 := rfl
  unfold clampInt64
  omega

/-- Division by a number that is not negative keeps the order. -/
theorem tdiv_mono {m n d : Int} (hd : 0 ≤ d) (h : m ≤ n) : m.tdiv d ≤ n.tdiv d := by
  by_cases hZero : d = 0
  · simp [hZero]
  · exact Int.tdiv_le_tdiv (by omega) h

namespace Word

/-- A word of 32 bits in a signed word of 64. -/
def widen (n : UInt32) : Int64 :=
  n.toUInt64.toInt64

@[simp] theorem toInt_widen (n : UInt32) : (widen n).toInt = n.toNat := by
  have hMax : Int64.maxValue.toInt = 9223372036854775807 := rfl
  have hBound := n.toNat_lt
  have hSame : n.toUInt64.toNat = n.toNat := n.toNat_toUInt64
  rw [widen, toInt_toInt64 (by omega), hSame]

/-! ## Results that fit -/

/-- A signed word of 64 bits can hold the number. -/
def Fits (n : Int) : Prop :=
  Int64.minValue.toInt ≤ n ∧ n ≤ Int64.maxValue.toInt

instance (n : Int) : Decidable (Fits n) :=
  inferInstanceAs (Decidable (_ ∧ _))

theorem toInt_ofInt_of_fits {n : Int} (h : Fits n) : (Int64.ofInt n).toInt = n := by
  have hMin : Int64.minValue.toInt = -9223372036854775808 := rfl
  have hMax : Int64.maxValue.toInt = 9223372036854775807 := rfl
  obtain ⟨hLow, hHigh⟩ := h
  rw [Int64.toInt_ofInt_of_le] <;> omega

theorem fits_clampInt64 (n : Int) : Fits (clampInt64 n) := by
  have hMin : Int64.minValue.toInt = -9223372036854775808 := rfl
  have hMax : Int64.maxValue.toInt = 9223372036854775807 := rfl
  unfold Fits clampInt64
  omega

/-- A number that fits is its own nearest word. -/
theorem clampInt64_of_fits {n : Int} (h : Fits n) : clampInt64 n = n := by
  obtain ⟨hLow, hHigh⟩ := h
  unfold clampInt64
  omega

/-! ## Nearest results -/

/-- The product, or the end of the range that it lies beyond. -/
def saturatingMul (a b : Int64) : Int64 :=
  Int64.ofInt (clampInt64 (a.toInt * b.toInt))

/-- The sum, or the end of the range that it lies beyond. -/
def saturatingSum (a b : Int64) : Int64 :=
  Int64.ofInt (clampInt64 (a.toInt + b.toInt))

@[simp] theorem toInt_saturatingMul (a b : Int64) :
    (saturatingMul a b).toInt = clampInt64 (a.toInt * b.toInt) :=
  toInt_ofInt_of_fits (fits_clampInt64 _)

@[simp] theorem toInt_saturatingSum (a b : Int64) :
    (saturatingSum a b).toInt = clampInt64 (a.toInt + b.toInt) :=
  toInt_ofInt_of_fits (fits_clampInt64 _)

/-- The smaller of two words. -/
def least (a b : Int64) : Int64 :=
  if b < a then b else a

/-- The larger of two words. -/
def greatest (a b : Int64) : Int64 :=
  if a < b then b else a

@[simp] theorem toInt_least (a b : Int64) : (least a b).toInt = min a.toInt b.toInt := by
  unfold least
  split
  · rename_i h
    rw [Int64.lt_iff_toInt_lt] at h
    omega
  · rename_i h
    rw [Int64.lt_iff_toInt_lt] at h
    omega

@[simp] theorem toInt_greatest (a b : Int64) :
    (greatest a b).toInt = max a.toInt b.toInt := by
  unfold greatest
  split
  · rename_i h
    rw [Int64.lt_iff_toInt_lt] at h
    omega
  · rename_i h
    rw [Int64.lt_iff_toInt_lt] at h
    omega

/-! ## Results or none -/

/-- The sum, none when it overflows. -/
def add? (a b : Int64) : Option Int64 :=
  if Fits (a.toInt + b.toInt) then some (a + b) else none

/-- The product, none when it overflows. -/
def mul? (a b : Int64) : Option Int64 :=
  if Fits (a.toInt * b.toInt) then some (a * b) else none

/-- The quotient rounded toward zero, none when the divisor is zero or the quotient overflows. -/
def div? (a b : Int64) : Option Int64 :=
  if b = 0 ∨ a = Int64.minValue ∧ b = -1 then none else some (a / b)

/-- The same number in 32 bits, none when digits would be lost. -/
def narrow? (a : Int64) : Option Int32 :=
  if a.toInt32.toInt64 = a then some a.toInt32 else none

/-- A sum that fits is not wrapped round. -/
theorem add?_of_fits {a b : Int64} (h : Fits (a.toInt + b.toInt)) :
    ∃ c, add? a b = some c ∧ c.toInt = a.toInt + b.toInt := by
  have hMin : Int64.minValue.toInt = -9223372036854775808 := rfl
  have hMax : Int64.maxValue.toInt = 9223372036854775807 := rfl
  refine ⟨a + b, if_pos h, ?_⟩
  obtain ⟨hLow, hHigh⟩ := h
  rw [Int64.toInt_add]
  exact Int.bmod_eq_of_le (by omega) (by omega)

/-- A product that fits is not wrapped round. -/
theorem toInt_mul_of_fits {a b : Int64} (h : Fits (a.toInt * b.toInt)) :
    (a * b).toInt = a.toInt * b.toInt := by
  have hMin : Int64.minValue.toInt = -9223372036854775808 := rfl
  have hMax : Int64.maxValue.toInt = 9223372036854775807 := rfl
  obtain ⟨hLow, hHigh⟩ := h
  rw [Int64.toInt_mul]
  exact Int.bmod_eq_of_le (by omega) (by omega)

/-- A product that is too large by less than the number of words is wrapped round to a negative
number. -/
theorem toInt_mul_neg {a b : Int64} (hLow : Int64.maxValue.toInt < a.toInt * b.toInt)
    (hHigh : a.toInt * b.toInt < 18446744073709551616) : (a * b).toInt < 0 := by
  have hMax : Int64.maxValue.toInt = 9223372036854775807 := rfl
  rw [Int64.toInt_mul, Int.bmod_def]
  split
  · omega
  · omega

theorem mul?_of_fits {a b : Int64} (h : Fits (a.toInt * b.toInt)) :
    ∃ c, mul? a b = some c ∧ c.toInt = a.toInt * b.toInt :=
  ⟨a * b, if_pos h, toInt_mul_of_fits h⟩

theorem mul?_eq_none_iff {a b : Int64} : mul? a b = none ↔ ¬ Fits (a.toInt * b.toInt) := by
  rw [mul?, ite_eq_right_iff]
  simp

/-- Division by a positive word gives the truncated quotient. -/
theorem div?_of_pos {a b : Int64} (h : 0 < b.toInt) :
    ∃ c, div? a b = some c ∧ c.toInt = a.toInt.tdiv b.toInt := by
  have hZero : b ≠ 0 := by
    rintro rfl
    exact absurd h (by decide)
  have hMinus : b ≠ -1 := by
    rintro rfl
    exact absurd h (by decide)
  refine ⟨a / b, if_neg ?_, Int64.toInt_div_of_ne_right a b hMinus⟩
  rintro (hIs | ⟨-, hIs⟩)
  · exact hZero hIs
  · exact hMinus hIs

/-- A number that a word of 32 bits can hold is narrowed to that word. -/
theorem narrow?_of_toInt {a : Int64} {b : Int32} (h : a.toInt = b.toInt) : narrow? a = some b := by
  have hWide : a = b.toInt64 := by
    rw [← Int64.toInt_inj, h, Int32.toInt_toInt64]
  rw [narrow?, hWide, Int32.toInt32_toInt64, if_pos rfl]

/-- The same number in 32 bits, or the end of the range that it lies beyond. -/
def nearest (a : Int64) : Int32 :=
  (narrow? a).getD (if a < 0 then Int32.minValue else Int32.maxValue)

theorem nearest_eq (a : Int64) : nearest a = nearestInt32 a.toInt := by
  have hMin : Int32.minValue.toInt = -2147483648 := rfl
  have hMax : Int32.maxValue.toInt = 2147483647 := rfl
  have hNearest := toInt_nearestInt32 a.toInt
  by_cases hFits : Int32.minValue.toInt ≤ a.toInt ∧ a.toInt ≤ Int32.maxValue.toInt
  · have hSame : a.toInt = (nearestInt32 a.toInt).toInt := by omega
    rw [nearest, narrow?_of_toInt hSame, Option.getD_some]
  · have hNone : narrow? a = none := by
      rw [narrow?, if_neg]
      intro hSame
      have hWide := a.toInt32.toInt_toInt64
      have hLow := a.toInt32.minValue_le_toInt
      have hHigh := a.toInt32.toInt_le
      rw [hSame] at hWide
      omega
    rw [nearest, hNone, Option.getD_none, ← Int32.toInt_inj, hNearest]
    have hZero : (0 : Int64).toInt = 0 := rfl
    split
    · rename_i hNegative
      rw [Int64.lt_iff_toInt_lt] at hNegative
      omega
    · rename_i hPositive
      rw [Int64.lt_iff_toInt_lt] at hPositive
      omega

end Word
end BranchingMovie
