import BranchingMovie.Proofs.Text.ByteOrder

/-!
# What decoding makes of bytes

Bytes are decoded with a replacement character for each maximal run that begins a character and
does not finish it.  A byte that continues no character (`IsLead`) is never swallowed by what stands
in front of it, so what stands in front of it and what begins with it are decoded apart
(`decodeLossy_append`).  The bytes of a text are such a beginning, whatever precedes them, and they
are decoded to the text (`decodeLossy_append_encode`).
-/

namespace BranchingMovie.Text.Utf8

/-! ## Decoding in steps -/

theorem charsFrom_append (done earlier : List (Option Char)) (bytes : List UInt8) :
    charsFrom (done ++ earlier) bytes = earlier.reverse ++ charsFrom done bytes := by
  induction done, bytes using charsFrom.induct with
  | case1 done => simp [charsFrom]
  | case2 done b bytes ih =>
    rw [charsFrom, charsFrom, ← List.cons_append]
    exact ih

/-- Bytes are decoded one character after the other. -/
theorem chars?_cons (b : UInt8) (bytes : List UInt8) :
    chars? (b :: bytes) = (nextChar b bytes).1 :: chars? (nextChar b bytes).2 := by
  rw [chars?, charsFrom]
  exact charsFrom_append [] [(nextChar b bytes).1] (nextChar b bytes).2

@[simp] theorem decodeLossy_nil : decodeLossy [] = [] := by
  simp [decodeLossy, chars?, charsFrom]

theorem decodeLossy_cons (b : UInt8) (bytes : List UInt8) :
    decodeLossy (b :: bytes) =
      (nextChar b bytes).1.getD replacement :: decodeLossy (nextChar b bytes).2 := by
  rw [decodeLossy, chars?_cons, List.map_cons, decodeLossy]

/-! ## Bytes that continue no character -/

/-- The byte continues no character: it is one by itself, or it begins one, or it is no text at
all. -/
def IsLead (b : UInt8) : Prop :=
  b < 0x80 ∨ 0xC0 ≤ b

/-- The bytes that may follow a leading byte are all continuations. -/
theorem all_of_followers {b : UInt8} {ranges : List ByteRange} (h : followers b = some ranges) :
    ranges.all (fun range => 0x80 ≤ range.low && range.high < 0xC0) = true := by
  unfold followers at h
  repeat' split at h
  all_goals cases h <;> decide

theorem contains_of_followers {lead b : UInt8} {ranges : List ByteRange}
    (h : followers lead = some ranges) (hb : IsLead b) :
    ∀ range ∈ ranges, range.contains b = false := by
  intro range hRange
  have hBounds := List.all_eq_true.1 (all_of_followers h) range hRange
  simp only [Bool.and_eq_true, decide_eq_true_eq] at hBounds
  obtain ⟨hLow, hHigh⟩ := hBounds
  simp only [ByteRange.contains, Bool.and_eq_false_iff, decide_eq_false_iff_not, UInt8.not_le]
  rcases hb with hAscii | hBegins
  · exact .inl (UInt8.lt_of_lt_of_le hAscii hLow)
  · exact .inr (UInt8.lt_of_lt_of_le hHigh hBegins)

section Lead

variable {b : UInt8}

/-- The bytes of a character are sought in front of a byte that continues none. -/
theorem takeFollowers_append {ranges : List ByteRange}
    (h : ∀ range ∈ ranges, range.contains b = false) (value : Nat) (bytes rest : List UInt8) :
    takeFollowers ranges value (bytes ++ b :: rest) =
      ((takeFollowers ranges value bytes).1,
        (takeFollowers ranges value bytes).2 ++ b :: rest) := by
  induction ranges generalizing value bytes with
  | nil => simp [takeFollowers]
  | cons range ranges ih =>
    have hNot := h range List.mem_cons_self
    cases bytes with
    | nil => simp [takeFollowers, hNot]
    | cons first bytes =>
      rw [List.cons_append, takeFollowers, takeFollowers]
      by_cases hFirst : range.contains first = true
      · rw [if_pos hFirst, if_pos hFirst]
        exact ih (fun other hOther => h other (List.mem_cons_of_mem range hOther)) _ bytes
      · rw [if_neg hFirst, if_neg hFirst]
        rfl

theorem nextChar_append (hb : IsLead b) (lead : UInt8) (bytes rest : List UInt8) :
    nextChar lead (bytes ++ b :: rest) =
      ((nextChar lead bytes).1, (nextChar lead bytes).2 ++ b :: rest) := by
  unfold nextChar
  split
  · rfl
  · rename_i ranges hRanges
    rw [takeFollowers_append (contains_of_followers hRanges hb)]

/-- **What stands in front of a byte that continues no character is decoded by itself.** -/
theorem decodeLossy_append (hb : IsLead b) (front rest : List UInt8) :
    decodeLossy (front ++ b :: rest) = decodeLossy front ++ decodeLossy (b :: rest) := by
  match front with
  | [] => simp
  | lead :: front =>
    have hShorter := length_nextChar_le lead front
    rw [List.cons_append, decodeLossy_cons, decodeLossy_cons, nextChar_append hb,
      decodeLossy_append hb, List.cons_append]
termination_by front.length
decreasing_by exact Nat.lt_succ_of_le hShorter

end Lead

/-! ## Encoded texts -/

theorem toNat_ofNat {n : Nat} (h : n < 256) : (UInt8.ofNat n).toNat = n := by
  rw [UInt8.toNat_ofNat', Nat.mod_eq_of_lt h]

theorem contains_ofNat {n : Nat} (h : n < 256) (range : ByteRange) :
    range.contains (UInt8.ofNat n) = true ↔ range.low.toNat ≤ n ∧ n ≤ range.high.toNat := by
  simp only [ByteRange.contains, Bool.and_eq_true, decide_eq_true_eq, UInt8.le_iff_toNat_le,
    toNat_ofNat h]

/-- The intervals for the bytes behind a leading byte, by its number. -/
theorem followers_ofNat {n : Nat} (h : n < 256) :
    followers (UInt8.ofNat n) =
      if n < 128 then some []
      else if n < 194 then none
      else if n < 224 then some [continuation]
      else if n = 224 then some [⟨0xA0, 0xBF⟩, continuation]
      else if n = 237 then some [⟨0x80, 0x9F⟩, continuation]
      else if n < 240 then some [continuation, continuation]
      else if n = 240 then some [⟨0x90, 0xBF⟩, continuation, continuation]
      else if n < 244 then some [continuation, continuation, continuation]
      else if n = 244 then some [⟨0x80, 0x8F⟩, continuation, continuation]
      else none := by
  have hLess (m : Nat) (hm : m < 256) : UInt8.ofNat n < UInt8.ofNat m ↔ n < m := ofNat_lt_ofNat h hm
  have hSame (m : Nat) (hm : m < 256) : (UInt8.ofNat n == UInt8.ofNat m) = true ↔ n = m := by
    rw [beq_iff_eq, ofNat_eq_ofNat h hm]
  have hFollowers : followers (UInt8.ofNat n) =
      if UInt8.ofNat n < UInt8.ofNat 128 then some []
      else if UInt8.ofNat n < UInt8.ofNat 194 then none
      else if UInt8.ofNat n < UInt8.ofNat 224 then some [continuation]
      else if UInt8.ofNat n == UInt8.ofNat 224 then some [⟨0xA0, 0xBF⟩, continuation]
      else if UInt8.ofNat n == UInt8.ofNat 237 then some [⟨0x80, 0x9F⟩, continuation]
      else if UInt8.ofNat n < UInt8.ofNat 240 then some [continuation, continuation]
      else if UInt8.ofNat n == UInt8.ofNat 240 then some [⟨0x90, 0xBF⟩, continuation, continuation]
      else if UInt8.ofNat n < UInt8.ofNat 244 then some [continuation, continuation, continuation]
      else if UInt8.ofNat n == UInt8.ofNat 244 then some [⟨0x80, 0x8F⟩, continuation, continuation]
      else none := rfl
  rw [hFollowers]
  simp (disch := decide) only [hLess, hSame]

/-- A digit of six bits is a continuation. -/
theorem contains_continuation {digit : Nat} (h : digit < 64) :
    continuation.contains (UInt8.ofNat (digit + 128)) = true :=
  (contains_ofNat (by omega) continuation).2 ⟨Nat.le_add_left 128 digit, by
    show digit + 128 ≤ 191
    omega⟩

/-- The bytes behind a leading byte add their digits to the value. -/
theorem takeFollowers_digit {range : ByteRange} {digit : Nat} (hDigit : digit < 64)
    (h : range.contains (UInt8.ofNat (digit + 128)) = true) (ranges : List ByteRange)
    (value : Nat) (bytes : List UInt8) :
    takeFollowers (range :: ranges) value (UInt8.ofNat (digit + 128) :: bytes) =
      takeFollowers ranges (value * 64 + digit) bytes := by
  have hValue : (UInt8.ofNat (digit + 128)).toNat % 64 = digit := by
    rw [toNat_ofNat (by omega)]
    omega
  rw [takeFollowers, if_pos h, hValue]

theorem nextChar_of_followers {lead : UInt8} {ranges : List ByteRange} {value : Nat}
    {bytes rest : List UInt8} (h : followers lead = some ranges)
    (hTake : takeFollowers ranges (leadValue lead ranges.length) bytes = (some value, rest)) :
    nextChar lead bytes = (some (Char.ofNat value), rest) := by
  simp [nextChar, h, hTake]

section Widths

variable {n : Nat} (rest : List UInt8)

theorem nextChar_one (h : n ≤ 127) :
    nextChar (UInt8.ofNat n) rest = (some (Char.ofNat n), rest) := by
  have hFollowers : followers (UInt8.ofNat n) = some [] := by
    rw [followers_ofNat (by omega), if_pos (by omega)]
  refine nextChar_of_followers hFollowers ?_
  rw [takeFollowers, List.length_nil, leadValue, toNat_ofNat (by omega)]

theorem nextChar_two (hLow : 127 < n) (hHigh : n ≤ 2047) :
    nextChar (UInt8.ofNat (n / 64 + 192)) (UInt8.ofNat (n % 64 + 128) :: rest) =
      (some (Char.ofNat n), rest) := by
  have hFollowers : followers (UInt8.ofNat (n / 64 + 192)) = some [continuation] := by
    rw [followers_ofNat (by omega), if_neg (by omega), if_neg (by omega), if_pos (by omega)]
  have hDigit : n % 64 < 64 := by omega
  have hValue : (n / 64 + 192) % 32 * 64 + n % 64 = n := by omega
  refine nextChar_of_followers hFollowers ?_
  rw [takeFollowers_digit hDigit (contains_continuation hDigit), takeFollowers]
  show (some ((UInt8.ofNat (n / 64 + 192)).toNat % 32 * 64 + n % 64), rest) = _
  rw [toNat_ofNat (by omega), hValue]

/-- The second of three bytes keeps out of overlong forms and of surrogates. -/
theorem followers_three (hLow : 2047 < n) (hHigh : n ≤ 65535) (hValid : n < 55296 ∨ 57343 < n) :
    ∃ first, followers (UInt8.ofNat (n / 64 / 64 + 224)) = some [first, continuation] ∧
      first.contains (UInt8.ofNat (n / 64 % 64 + 128)) = true := by
  have hDigit : n / 64 % 64 < 64 := by omega
  rw [followers_ofNat (by omega), if_neg (by omega), if_neg (by omega), if_neg (by omega)]
  by_cases hFirst : n / 64 / 64 + 224 = 224
  · rw [if_pos hFirst]
    refine ⟨_, rfl, (contains_ofNat (by omega) _).2 ?_⟩
    show 160 ≤ n / 64 % 64 + 128 ∧ n / 64 % 64 + 128 ≤ 191
    omega
  · rw [if_neg hFirst]
    by_cases hSurrogates : n / 64 / 64 + 224 = 237
    · rw [if_pos hSurrogates]
      refine ⟨_, rfl, (contains_ofNat (by omega) _).2 ?_⟩
      show 128 ≤ n / 64 % 64 + 128 ∧ n / 64 % 64 + 128 ≤ 159
      omega
    · rw [if_neg hSurrogates, if_pos (by omega)]
      exact ⟨_, rfl, contains_continuation hDigit⟩

theorem nextChar_three (hLow : 2047 < n) (hHigh : n ≤ 65535) (hValid : n < 55296 ∨ 57343 < n) :
    nextChar (UInt8.ofNat (n / 64 / 64 + 224))
        (UInt8.ofNat (n / 64 % 64 + 128) :: UInt8.ofNat (n % 64 + 128) :: rest) =
      (some (Char.ofNat n), rest) := by
  obtain ⟨first, hFollowers, hFirst⟩ := followers_three hLow hHigh hValid
  have hDigit : n / 64 % 64 < 64 := by omega
  have hLast : n % 64 < 64 := by omega
  have hValue : ((n / 64 / 64 + 224) % 16 * 64 + n / 64 % 64) * 64 + n % 64 = n := by omega
  refine nextChar_of_followers hFollowers ?_
  rw [takeFollowers_digit hDigit hFirst,
    takeFollowers_digit hLast (contains_continuation hLast), takeFollowers]
  show (some (((UInt8.ofNat (n / 64 / 64 + 224)).toNat % 16 * 64 + n / 64 % 64) * 64 + n % 64),
    rest) = _
  rw [toNat_ofNat (by omega), hValue]

/-- The second of four bytes keeps out of overlong forms and of what lies beyond all characters. -/
theorem followers_four (hLow : 65535 < n) (hHigh : n ≤ 1114111) :
    ∃ first, followers (UInt8.ofNat (n / 64 / 64 / 64 + 240)) =
        some [first, continuation, continuation] ∧
      first.contains (UInt8.ofNat (n / 64 / 64 % 64 + 128)) = true := by
  have hDigit : n / 64 / 64 % 64 < 64 := by omega
  rw [followers_ofNat (by omega), if_neg (by omega), if_neg (by omega), if_neg (by omega),
    if_neg (by omega), if_neg (by omega), if_neg (by omega)]
  by_cases hFirst : n / 64 / 64 / 64 + 240 = 240
  · rw [if_pos hFirst]
    refine ⟨_, rfl, (contains_ofNat (by omega) _).2 ?_⟩
    show 144 ≤ n / 64 / 64 % 64 + 128 ∧ n / 64 / 64 % 64 + 128 ≤ 191
    omega
  · rw [if_neg hFirst]
    by_cases hMiddle : n / 64 / 64 / 64 + 240 < 244
    · rw [if_pos hMiddle]
      exact ⟨_, rfl, contains_continuation hDigit⟩
    · rw [if_neg hMiddle, if_pos (by omega)]
      refine ⟨_, rfl, (contains_ofNat (by omega) _).2 ?_⟩
      show 128 ≤ n / 64 / 64 % 64 + 128 ∧ n / 64 / 64 % 64 + 128 ≤ 143
      omega

theorem nextChar_four (hLow : 65535 < n) (hHigh : n ≤ 1114111) :
    nextChar (UInt8.ofNat (n / 64 / 64 / 64 + 240))
        (UInt8.ofNat (n / 64 / 64 % 64 + 128) :: UInt8.ofNat (n / 64 % 64 + 128) ::
          UInt8.ofNat (n % 64 + 128) :: rest) =
      (some (Char.ofNat n), rest) := by
  obtain ⟨first, hFollowers, hFirst⟩ := followers_four hLow hHigh
  have hSecond : n / 64 / 64 % 64 < 64 := by omega
  have hThird : n / 64 % 64 < 64 := by omega
  have hLast : n % 64 < 64 := by omega
  have hValue : (((n / 64 / 64 / 64 + 240) % 8 * 64 + n / 64 / 64 % 64) * 64 + n / 64 % 64) * 64 +
      n % 64 = n := by omega
  refine nextChar_of_followers hFollowers ?_
  rw [takeFollowers_digit hSecond hFirst,
    takeFollowers_digit hThird (contains_continuation hThird),
    takeFollowers_digit hLast (contains_continuation hLast), takeFollowers]
  show (some ((((UInt8.ofNat (n / 64 / 64 / 64 + 240)).toNat % 8 * 64 + n / 64 / 64 % 64) * 64 +
    n / 64 % 64) * 64 + n % 64), rest) = _
  rw [toNat_ofNat (by omega), hValue]

end Widths

theorem isLead_ofNat {n : Nat} (h : n < 128 ∨ 192 ≤ n) (hByte : n < 256) : IsLead (UInt8.ofNat n) :=
  h.imp (ofNat_lt_ofNat hByte (by decide)).2 fun hBegins =>
    UInt8.le_iff_toNat_le.2 (by rw [toNat_ofNat hByte]; exact hBegins)

/-- The bytes of a character are read as this character, whatever follows, and the first of them
continues no other character. -/
theorem nextChar_encodeChar (c : Char) (rest : List UInt8) :
    ∃ lead tail, String.utf8EncodeChar c = lead :: tail ∧ IsLead lead ∧
      nextChar lead (tail ++ rest) = (some c, rest) := by
  have hChar : Char.ofNat c.toNat = c := Char.ofNat_toNat c
  have hValid : c.toNat < 55296 ∨ 57343 < c.toNat ∧ c.toNat < 1114112 := c.valid
  rcases encodeChar_cases c with ⟨hHigh, hc⟩ | ⟨hLow, hHigh, hc⟩ | ⟨hLow, hHigh, hc⟩ |
    ⟨hLow, hHigh, hc⟩
  · refine ⟨_, _, hc, isLead_ofNat (by omega) (by omega), ?_⟩
    rw [List.nil_append, nextChar_one rest hHigh, hChar]
  · refine ⟨_, _, hc, isLead_ofNat (by omega) (by omega), ?_⟩
    rw [List.singleton_append, nextChar_two rest hLow hHigh, hChar]
  · refine ⟨_, _, hc, isLead_ofNat (by omega) (by omega), ?_⟩
    rw [List.cons_append, List.singleton_append, nextChar_three rest hLow hHigh (by omega), hChar]
  · refine ⟨_, _, hc, isLead_ofNat (by omega) (by omega), ?_⟩
    rw [List.cons_append, List.cons_append, List.singleton_append, nextChar_four rest hLow hHigh,
      hChar]

/-- The bytes of a text are decoded to the text, and what follows by itself. -/
theorem decodeLossy_encode_append (text : List Char) (rest : List UInt8) :
    decodeLossy (encode text ++ rest) = text ++ decodeLossy rest := by
  induction text with
  | nil => simp [encode]
  | cons c text ih =>
    obtain ⟨lead, tail, hc, -, hNext⟩ := nextChar_encodeChar c (encode text ++ rest)
    have hEncode : encode (c :: text) ++ rest = lead :: (tail ++ (encode text ++ rest)) := by
      simp [encode, hc]
    rw [hEncode, decodeLossy_cons, hNext, ih]
    rfl

/-- **The bytes of a text are decoded to the text.** -/
theorem decodeLossy_encode (text : List Char) : decodeLossy (encode text) = text := by
  have h := decodeLossy_encode_append text []
  simpa using h

/-- What stands in front of the bytes of a text is decoded by itself, and so is what follows. -/
theorem decodeLossy_append_encode (front : List UInt8) (c : Char) (text : List Char)
    (rest : List UInt8) :
    decodeLossy (front ++ (encode (c :: text) ++ rest)) =
      decodeLossy front ++ (c :: text ++ decodeLossy rest) := by
  obtain ⟨lead, tail, hc, hLead, -⟩ := nextChar_encodeChar c (encode text ++ rest)
  have hEncode : encode (c :: text) ++ rest = lead :: (tail ++ (encode text ++ rest)) := by
    simp [encode, hc]
  rw [hEncode, decodeLossy_append hLead, ← hEncode, decodeLossy_encode_append]

end BranchingMovie.Text.Utf8
