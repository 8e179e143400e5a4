/-!
# Saturating arithmetic

A number that does not fit into a signed word is replaced by the end of the word's range that it
lies beyond.
-/

namespace BranchingMovie

/-- The number of 32 bits nearest to `n`. -/
def nearestInt32 (n : Int) : Int32 :=
  Int32.ofInt (max Int32.minValue.toInt (min n Int32.maxValue.toInt))

/-- The number of 64 bits nearest to `n`, as a whole number. -/
def clampInt64 (n : Int) : Int :=
  max Int64.minValue.toInt (min n Int64.maxValue.toInt)

/-- The sum, or the end of the range that it lies beyond. -/
def saturatingAdd (a b : Int32) : Int32 :=
  nearestInt32 (a.toInt + b.toInt)

theorem toInt_nearestInt32 (n : Int) :
    (nearestInt32 n).toInt = max Int32.minValue.toInt (min n Int32.maxValue.toInt) := by
  have hMin : Int32.minValue.toInt = -2147483648 := rfl
  have hMax : Int32.maxValue.toInt = 2147483647 := rfl
  rw [nearestInt32, Int32.toInt_ofInt_of_le] <;> omega

theorem toInt_saturatingAdd (a b : Int32) :
    (saturatingAdd a b).toInt =
      max Int32.minValue.toInt (min (a.toInt + b.toInt) Int32.maxValue.toInt) :=
  toInt_nearestInt32 _

end BranchingMovie
