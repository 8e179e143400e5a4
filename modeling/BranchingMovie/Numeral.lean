/-!
# Whole numbers in text

Decimal whole numbers are written with an optional sign and at least one ASCII digit.  Reading
checks them against the width of the number they are for, character by character from the left, and
says which of four things is wrong with a text that is refused.
-/

namespace BranchingMovie.Numeral

/-! ## Refusals -/

/-- Why a text is not a number of the wanted width. -/
inductive Fault where
  /-- There is no text. -/
  | empty
  /-- A character is no digit, or a sign stands alone. -/
  | invalidDigit
  /-- The value lies above the greatest number of the width. -/
  | tooLarge
  /-- The value lies below the least number of the width. -/
  | tooSmall
  deriving DecidableEq, Repr

/-- The wording of a refusal. -/
def Fault.message : Fault → String
  | .empty => "cannot parse integer from empty string"
  | .invalidDigit => "invalid digit found in string"
  | .tooLarge => "number too large to fit in target type"
  | .tooSmall => "number too small to fit in target type"

/-! ## Reading -/

/-- The value of an ASCII digit. -/
def digit? (c : Char) : Option Nat :=
  if '0' ≤ c ∧ c ≤ '9' then some (c.toNat - '0'.toNat) else none

/-- Reads digits behind those that already gave `value`.  The first character that is no digit, or
that takes the value beyond `limit`, decides the refusal. -/
def readDigits (limit : Nat) (beyond : Fault) (value : Nat) : List Char → Except Fault Nat
  | [] => .ok value
  | c :: cs =>
    match digit? c with
    | none => .error .invalidDigit
    | some d =>
      if value * 10 + d ≤ limit then readDigits limit beyond (value * 10 + d) cs
      else .error beyond

/-- Reads a number between `least` and `greatest`, with an optional sign of either kind. -/
def readSigned (least greatest : Int) : List Char → Except Fault Int
  | [] => .error .empty
  | ['+'] => .error .invalidDigit
  | ['-'] => .error .invalidDigit
  | '+' :: cs => (readDigits greatest.toNat .tooLarge 0 cs).map Int.ofNat
  | '-' :: cs => (readDigits (-least).toNat .tooSmall 0 cs).map (-Int.ofNat ·)
  | cs => (readDigits greatest.toNat .tooLarge 0 cs).map Int.ofNat

/-- Reads a number up to `greatest`, with an optional plus sign. -/
def readUnsigned (greatest : Nat) : List Char → Except Fault Nat
  | [] => .error .empty
  | ['+'] => .error .invalidDigit
  | '+' :: cs => readDigits greatest .tooLarge 0 cs
  | cs => readDigits greatest .tooLarge 0 cs

/-- Reads a signed number of 32 bits. -/
def readInt32 (cs : List Char) : Except Fault Int32 :=
  (readSigned Int32.minValue.toInt Int32.maxValue.toInt cs).map Int32.ofInt

/-- Reads a signed number of 64 bits. -/
def readInt64 (cs : List Char) : Except Fault Int64 :=
  (readSigned Int64.minValue.toInt Int64.maxValue.toInt cs).map Int64.ofInt

/-- Reads an unsigned number of 64 bits. -/
def readUInt64 (cs : List Char) : Except Fault UInt64 :=
  (readUnsigned (UInt64.size - 1) cs).map UInt64.ofNat

/-! ## Writing -/

/-- The digits of a number, none of them superfluous. -/
def writeNat (n : Nat) : String :=
  String.ofList (Nat.toDigits 10 n)

/-- A number with a minus sign in front of it when it is negative. -/
def writeInt (n : Int) : String :=
  if n < 0 then "-" ++ writeNat n.natAbs else writeNat n.natAbs

end BranchingMovie.Numeral
