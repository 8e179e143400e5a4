/-!
# Bytes as text

The UTF-8 form of a text and its two readers: a strict one, and a lossy one that writes one
replacement character for each maximal run of bytes that begins a character and does not finish it.
-/

namespace BranchingMovie.Text.Utf8

/-- The character that stands for bytes that are no text. -/
def replacement : Char := '\uFFFD'

/-- The bytes of a text. -/
def encode (cs : List Char) : List UInt8 :=
  cs.flatMap String.utf8EncodeChar

/-! ## One character -/

/-- An interval of bytes, both ends included. -/
structure ByteRange where
  low : UInt8
  high : UInt8
  deriving DecidableEq

/-- The byte lies in the interval. -/
def ByteRange.contains (range : ByteRange) (b : UInt8) : Bool :=
  range.low ≤ b && b ≤ range.high

/-- The bytes `10xxxxxx` that continue a character. -/
def continuation : ByteRange := ⟨0x80, 0xBF⟩

/-- The intervals in which the bytes after the leading byte `b` must lie, and `none` when `b` begins
no character.  The second byte is narrowed where the full interval would admit an overlong form
(after `E0`, `F0`), a surrogate (after `ED`) or a value beyond U+10FFFF (after `F4`). -/
def followers (b : UInt8) : Option (List ByteRange) :=
  if b < 0x80 then some []
  else if b < 0xC2 then none
  else if b < 0xE0 then some [continuation]
  else if b == 0xE0 then some [⟨0xA0, 0xBF⟩, continuation]
  else if b == 0xED then some [⟨0x80, 0x9F⟩, continuation]
  else if b < 0xF0 then some [continuation, continuation]
  else if b == 0xF0 then some [⟨0x90, 0xBF⟩, continuation, continuation]
  else if b < 0xF4 then some [continuation, continuation, continuation]
  else if b == 0xF4 then some [⟨0x80, 0x8F⟩, continuation, continuation]
  else none

/-- The share of the leading byte in the value of a character with so many bytes behind it: seven,
five, four or three bits. -/
def leadValue (b : UInt8) : Nat → Nat
  | 0 => b.toNat
  | 1 => b.toNat % 32
  | 2 => b.toNat % 16
  | _ => b.toNat % 8

/-- Reads the bytes that must lie in `ranges`, six bits each, on top of `value`.  Where one is
missing or out of place the value is lost and the reading stops in front of it. -/
def takeFollowers : List ByteRange → Nat → List UInt8 → Option Nat × List UInt8
  | [], value, bytes => (some value, bytes)
  | _ :: _, _, [] => (none, [])
  | range :: ranges, value, b :: bytes =>
    if range.contains b then takeFollowers ranges (value * 64 + b.toNat % 64) bytes
    else (none, b :: bytes)

theorem length_takeFollowers_le (ranges : List ByteRange) (value : Nat) (bytes : List UInt8) :
    (takeFollowers ranges value bytes).2.length ≤ bytes.length := by
  induction ranges generalizing value bytes with
  | nil => simp [takeFollowers]
  | cons range ranges ih =>
    cases bytes with
    | nil => simp [takeFollowers]
    | cons b bytes =>
      rw [takeFollowers]
      split
      · exact Nat.le_succ_of_le (ih _ _)
      · exact Nat.le_refl _

/-- The character that begins with the byte `b`, if its bytes are all there, and the bytes behind
what was read of it. -/
def nextChar (b : UInt8) (bytes : List UInt8) : Option Char × List UInt8 :=
  match followers b with
  | none => (none, bytes)
  | some ranges =>
    let (value, rest) := takeFollowers ranges (leadValue b ranges.length) bytes
    (value.map Char.ofNat, rest)

theorem length_nextChar_le (b : UInt8) (bytes : List UInt8) :
    (nextChar b bytes).2.length ≤ bytes.length := by
  unfold nextChar
  split
  · exact Nat.le_refl _
  · exact length_takeFollowers_le _ _ _

/-! ## Whole texts -/

/-- The characters of `bytes`, with `none` for each maximal run that begins a character and does not
finish it, appended to the reversed list `done`. -/
def charsFrom (done : List (Option Char)) : List UInt8 → List (Option Char)
  | [] => done.reverse
  | b :: bytes => charsFrom ((nextChar b bytes).1 :: done) (nextChar b bytes).2
termination_by bytes => bytes.length
decreasing_by exact Nat.lt_succ_of_le (length_nextChar_le b bytes)

/-- The characters of `bytes`, with `none` where the bytes are no text. -/
def chars? (bytes : List UInt8) : List (Option Char) :=
  charsFrom [] bytes

/-- The text of `bytes`, with the replacement character where they are no text. -/
def decodeLossy (bytes : List UInt8) : List Char :=
  (chars? bytes).map (·.getD replacement)

/-- The text of `bytes`, if all of them are text. -/
def decode? (bytes : List UInt8) : Option (List Char) :=
  (chars? bytes).mapM id

end BranchingMovie.Text.Utf8
