import BranchingMovie.HotZone.Rect
import BranchingMovie.Proofs.Word

/-!
# Points between two corners

A rectangle is given by two corners and kept as the first one with an extent, a difference in words
of 32 bits that wraps round.  Which points lie in it is decided on each axis by itself, and there
are three cases (`covers_sub_iff`).

* The difference fits into 32 bits.  Then the points of the axis are those from the first corner on
  and before the second.
* The second corner is too far beyond the first.  The extent has become negative, and there are no
  points.
* The second corner is too far in front of the first.  The extent has become positive, and all
  points from the first corner on are in the rectangle, though none is between the corners.

`contains_ofCorners` puts the axes together.  `not_forall_contains_between_corners` has a rectangle
of the third kind.  No sum of a corner and an extent is beyond 64 bits (`containsInWords_eq`).
-/

namespace BranchingMovie

/-! ## Differences in 32 bits -/

/-- A difference is kept in 32 bits as it is, or 2 ^ 32 too small, or 2 ^ 32 too large. -/
theorem toInt_sub_cases (a b : Int32) :
    (b - a).toInt = b.toInt - a.toInt ∨
      (Int32.maxValue.toInt < b.toInt - a.toInt ∧
        (b - a).toInt = b.toInt - a.toInt - 4294967296) ∨
      (b.toInt - a.toInt < Int32.minValue.toInt ∧
        (b - a).toInt = b.toInt - a.toInt + 4294967296) := by
  have hMin : Int32.minValue.toInt = -2147483648 := rfl
  have hMax : Int32.maxValue.toInt = 2147483647 := rfl
  have hLowA := a.minValue_le_toInt
  have hHighA := a.toInt_le
  have hLowB := b.minValue_le_toInt
  have hHighB := b.toInt_le
  have hWrapped : (b - a).toInt = (b.toInt - a.toInt).bmod 4294967296 := Int32.toInt_sub b a
  rw [hWrapped, Int.bmod_def]
  split <;> omega

namespace Rect

/-! ## One axis -/

/-- The coordinate lies in the extent behind a corner. -/
def covers (corner extent n : Int32) : Bool :=
  corner.toInt ≤ n.toInt && n.toInt < corner.toInt + extent.toInt

/-- A rectangle contains the points that it covers on both axes. -/
theorem contains_eq (rect : Rect) (x y : Int32) :
    rect.contains x y = (covers rect.x rect.width x && covers rect.y rect.height y) := rfl

/-- The coordinate is not before the first corner and before the second. -/
def IsBetween (first second n : Int32) : Prop :=
  first ≤ n ∧ n < second

/-- The second corner is too far in front of the first for their difference to be kept. -/
def WrapsToRight (first second : Int32) : Prop :=
  second.toInt - first.toInt < Int32.minValue.toInt

/-- The second corner is too far beyond the first for their difference to be kept. -/
def WrapsToLeft (first second : Int32) : Prop :=
  Int32.maxValue.toInt < second.toInt - first.toInt

/-- **What is covered on an axis.**  These are the coordinates between the corners, but none when
the extent wraps to the left, and all from the first corner on when it wraps to the right. -/
theorem covers_sub_iff (first second n : Int32) :
    covers first (second - first) n = true ↔
      ¬ WrapsToLeft first second ∧ first ≤ n ∧ (WrapsToRight first second ∨ n < second) := by
  have hMin : Int32.minValue.toInt = -2147483648 := rfl
  have hMax : Int32.maxValue.toInt = 2147483647 := rfl
  have hLowFirst := first.minValue_le_toInt
  have hHighFirst := first.toInt_le
  have hLowSecond := second.minValue_le_toInt
  have hHighSecond := second.toInt_le
  have hLow := n.minValue_le_toInt
  have hHigh := n.toInt_le
  simp only [covers, Bool.and_eq_true, decide_eq_true_eq, WrapsToLeft, WrapsToRight,
    Int32.le_iff_toInt_le, Int32.lt_iff_toInt_lt]
  obtain hKept | ⟨hFar, hWrapped⟩ | ⟨hFar, hWrapped⟩ := toInt_sub_cases first second
  · have hLowExtent := (second - first).minValue_le_toInt
    have hHighExtent := (second - first).toInt_le
    omega
  · omega
  · omega

/-- Unless it wraps to the right, an extent covers nothing but what is between the corners. -/
theorem isBetween_of_covers {first second n : Int32} (hFits : ¬ WrapsToRight first second)
    (h : covers first (second - first) n = true) : IsBetween first second n := by
  obtain ⟨-, hFirst, hSecond⟩ := (covers_sub_iff first second n).1 h
  exact ⟨hFirst, hSecond.resolve_left hFits⟩

/-- An extent that does not wrap covers what is between the corners. -/
theorem covers_sub_iff_isBetween {first second n : Int32} (hLeft : ¬ WrapsToLeft first second)
    (hRight : ¬ WrapsToRight first second) :
    covers first (second - first) n = true ↔ IsBetween first second n := by
  refine ⟨isBetween_of_covers hRight, fun h => ?_⟩
  exact (covers_sub_iff first second n).2 ⟨hLeft, h.1, .inr h.2⟩

/-! ## In words of 64 bits -/

/-- Containment in words of 64 bits, none when a sum overflows. -/
def containsInWords (rect : Rect) (x y : Int32) : Option Bool := do
  let right ← Word.add? rect.x.toInt64 rect.width.toInt64
  let bottom ← Word.add? rect.y.toInt64 rect.height.toInt64
  return rect.x.toInt64 ≤ x.toInt64 && x.toInt64 < right &&
    (rect.y.toInt64 ≤ y.toInt64 && y.toInt64 < bottom)

/-- The sum of two words of 32 bits fits into 64. -/
theorem add?_toInt64 (a b : Int32) :
    ∃ c, Word.add? a.toInt64 b.toInt64 = some c ∧ c.toInt = a.toInt + b.toInt := by
  have hMin : Int32.minValue.toInt = -2147483648 := rfl
  have hMax : Int32.maxValue.toInt = 2147483647 := rfl
  have hMinWide : Int64.minValue.toInt = -9223372036854775808 := rfl
  have hMaxWide : Int64.maxValue.toInt = 9223372036854775807 := rfl
  have hLowA := a.minValue_le_toInt
  have hHighA := a.toInt_le
  have hLowB := b.minValue_le_toInt
  have hHighB := b.toInt_le
  have hFits : Word.Fits (a.toInt64.toInt + b.toInt64.toInt) := by
    rw [Word.Fits, Int32.toInt_toInt64, Int32.toInt_toInt64]
    omega
  obtain ⟨c, hSum, hValue⟩ := Word.add?_of_fits hFits
  rw [Int32.toInt_toInt64, Int32.toInt_toInt64] at hValue
  exact ⟨c, hSum, hValue⟩

/-- **No sum overflows**, and words of 64 bits come to the same as whole numbers. -/
theorem containsInWords_eq (rect : Rect) (x y : Int32) :
    rect.containsInWords x y = some (rect.contains x y) := by
  obtain ⟨right, hRight, hRightValue⟩ := add?_toInt64 rect.x rect.width
  obtain ⟨bottom, hBottom, hBottomValue⟩ := add?_toInt64 rect.y rect.height
  simp only [containsInWords, hRight, hBottom, Option.bind_eq_bind, Option.bind_some,
    Option.pure_def, contains, Int64.le_iff_toInt_le, Int64.lt_iff_toInt_lt,
    Int32.toInt_toInt64, hRightValue, hBottomValue]

/-! ## Both axes -/

/-- **The points of a rectangle between two corners.**
* A point is in the rectangle when it is covered on both axes: not before the first corner, and
  before the second unless the extent wraps to the right, and there are no points at all when an
  extent wraps to the left.
* Unless an extent wraps to the right, a point in the rectangle is between the corners, and there is
  none when the second corner is not beyond the first on some axis.
* When no extent wraps, the points in the rectangle are those between the corners.
* No sum overflows. -/
theorem contains_ofCorners (x1 y1 x2 y2 x y : Int32) :
    ((ofCorners x1 y1 x2 y2).contains x y = true ↔
      (¬ WrapsToLeft x1 x2 ∧ x1 ≤ x ∧ (WrapsToRight x1 x2 ∨ x < x2)) ∧
        (¬ WrapsToLeft y1 y2 ∧ y1 ≤ y ∧ (WrapsToRight y1 y2 ∨ y < y2))) ∧
    (¬ WrapsToRight x1 x2 → ¬ WrapsToRight y1 y2 →
      ((ofCorners x1 y1 x2 y2).contains x y = true → IsBetween x1 x2 x ∧ IsBetween y1 y2 y) ∧
      (x2 ≤ x1 ∨ y2 ≤ y1 → (ofCorners x1 y1 x2 y2).contains x y = false) ∧
      (¬ WrapsToLeft x1 x2 → ¬ WrapsToLeft y1 y2 →
        ((ofCorners x1 y1 x2 y2).contains x y = true ↔ IsBetween x1 x2 x ∧ IsBetween y1 y2 y))) ∧
    (ofCorners x1 y1 x2 y2).containsInWords x y = some ((ofCorners x1 y1 x2 y2).contains x y) := by
  have hAxes : (ofCorners x1 y1 x2 y2).contains x y = true ↔
      covers x1 (x2 - x1) x = true ∧ covers y1 (y2 - y1) y = true := by
    rw [contains_eq, Bool.and_eq_true]
    exact Iff.rfl
  refine ⟨?_, fun hRightX hRightY => ?_, containsInWords_eq _ x y⟩
  · rw [hAxes, covers_sub_iff, covers_sub_iff]
  · have hSound : (ofCorners x1 y1 x2 y2).contains x y = true →
        IsBetween x1 x2 x ∧ IsBetween y1 y2 y := by
      intro h
      obtain ⟨hX, hY⟩ := hAxes.1 h
      exact ⟨isBetween_of_covers hRightX hX, isBetween_of_covers hRightY hY⟩
    refine ⟨hSound, fun hEmpty => ?_, fun hLeftX hLeftY => ?_⟩
    · rw [Bool.eq_false_iff]
      intro h
      obtain ⟨⟨hX1, hX2⟩, hY1, hY2⟩ := hSound h
      rw [Int32.le_iff_toInt_le] at hX1 hY1
      rw [Int32.lt_iff_toInt_lt] at hX2 hY2
      simp only [Int32.le_iff_toInt_le] at hEmpty
      omega
    · rw [hAxes, covers_sub_iff_isBetween hLeftX hRightX, covers_sub_iff_isBetween hLeftY hRightY]

/-- Not every point in a rectangle is between its corners.  Here the second corner is four thousand
million in front of the first; their difference wraps round to a positive extent, and the first
corner itself is in the rectangle. -/
theorem not_forall_contains_between_corners :
    ¬ ∀ x1 y1 x2 y2 x y : Int32, (ofCorners x1 y1 x2 y2).contains x y = true →
      IsBetween x1 x2 x ∧ IsBetween y1 y2 y := by
  intro hAll
  have hContains :
      (ofCorners 2000000000 0 (-2000000000) 10).contains 2000000000 5 = true := by decide
  obtain ⟨⟨-, hBefore⟩, -⟩ := hAll 2000000000 0 (-2000000000) 10 2000000000 5 hContains
  exact absurd hBefore (by decide)

end Rect
end BranchingMovie
