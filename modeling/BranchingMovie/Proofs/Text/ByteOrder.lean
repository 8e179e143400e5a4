import BranchingMovie.Text.Utf8

/-!
# The order of texts and the order of their bytes

Texts are compared character by character.  Their bytes in UTF-8 are in the same order
(`bytes_lt_iff`), because of two characters the greater has the greater bytes, at the first byte in
which they differ (`encodeChar_append_lt`).
-/

namespace BranchingMovie.Text

/-- The bytes of a text. -/
def bytes (text : String) : List UInt8 :=
  Utf8.encode text.toList

theorem ofNat_lt_ofNat {m n : Nat} (hm : m < 256) (hn : n < 256) :
    UInt8.ofNat m < UInt8.ofNat n ↔ m < n := by
  rw [UInt8.lt_iff_toNat_lt, UInt8.toNat_ofNat', UInt8.toNat_ofNat', Nat.mod_eq_of_lt hm,
    Nat.mod_eq_of_lt hn]

theorem ofNat_eq_ofNat {m n : Nat} (hm : m < 256) (hn : n < 256) :
    UInt8.ofNat m = UInt8.ofNat n ↔ m = n := by
  rw [← UInt8.toNat_inj, UInt8.toNat_ofNat', UInt8.toNat_ofNat', Nat.mod_eq_of_lt hm,
    Nat.mod_eq_of_lt hn]

/-- The bytes of a character, whose number is cut into digits of six bits. -/
theorem encodeChar_cases (c : Char) :
    let n := c.toNat
    n ≤ 127 ∧ String.utf8EncodeChar c = [UInt8.ofNat n] ∨
    127 < n ∧ n ≤ 2047 ∧
      String.utf8EncodeChar c = [UInt8.ofNat (n / 64 + 192), UInt8.ofNat (n % 64 + 128)] ∨
    2047 < n ∧ n ≤ 65535 ∧
      String.utf8EncodeChar c =
        [UInt8.ofNat (n / 64 / 64 + 224), UInt8.ofNat (n / 64 % 64 + 128),
          UInt8.ofNat (n % 64 + 128)] ∨
    65535 < n ∧ n ≤ 1114111 ∧
      String.utf8EncodeChar c =
        [UInt8.ofNat (n / 64 / 64 / 64 + 240), UInt8.ofNat (n / 64 / 64 % 64 + 128),
          UInt8.ofNat (n / 64 % 64 + 128), UInt8.ofNat (n % 64 + 128)] := by
  intro n
  have hBound : n ≤ 1114111 := by
    have hValid : n.isValidChar := c.valid
    unfold Nat.isValidChar at hValid
    omega
  have hTwice : n / 4096 = n / 64 / 64 := by omega
  have hThrice : n / 262144 = n / 64 / 64 / 64 := by omega
  have hEncode : String.utf8EncodeChar c =
      if n ≤ 127 then [UInt8.ofNat n]
      else if n ≤ 2047 then [UInt8.ofNat (n / 64 % 32 + 192), UInt8.ofNat (n % 64 + 128)]
      else if n ≤ 65535 then
        [UInt8.ofNat (n / 4096 % 16 + 224), UInt8.ofNat (n / 64 % 64 + 128),
          UInt8.ofNat (n % 64 + 128)]
      else
        [UInt8.ofNat (n / 262144 % 8 + 240), UInt8.ofNat (n / 4096 % 64 + 128),
          UInt8.ofNat (n / 64 % 64 + 128), UInt8.ofNat (n % 64 + 128)] := rfl
  rw [hEncode, hTwice, hThrice]
  split
  · exact .inl ⟨by assumption, rfl⟩
  · split
    · refine .inr (.inl ⟨by omega, by assumption, ?_⟩)
      rw [Nat.mod_eq_of_lt (show n / 64 < 32 by omega)]
    · split
      · refine .inr (.inr (.inl ⟨by omega, by assumption, ?_⟩))
        rw [Nat.mod_eq_of_lt (show n / 64 / 64 < 16 by omega)]
      · refine .inr (.inr (.inr ⟨by omega, hBound, ?_⟩))
        rw [Nat.mod_eq_of_lt (show n / 64 / 64 / 64 < 8 by omega)]

/-- The greater character has the greater bytes, whatever follows. -/
theorem encodeChar_append_lt {c d : Char} (h : c < d) (rest others : List UInt8) :
    String.utf8EncodeChar c ++ rest < String.utf8EncodeChar d ++ others := by
  have hLess : c.toNat < d.toNat := UInt32.lt_iff_toNat_lt.1 (Char.lt_def.1 h)
  -- characters of different lengths differ in the first byte, others in the first digit
  rcases encodeChar_cases c with ⟨_, hc⟩ | ⟨_, _, hc⟩ | ⟨_, _, hc⟩ | ⟨_, _, hc⟩ <;>
    rcases encodeChar_cases d with ⟨_, hd⟩ | ⟨_, _, hd⟩ | ⟨_, _, hd⟩ | ⟨_, _, hd⟩ <;>
    rw [hc, hd] <;>
    simp only [List.cons_append, List.nil_append, List.cons_lt_cons_iff] <;>
    simp (disch := omega) only [ofNat_lt_ofNat, ofNat_eq_ofNat] <;>
    omega

theorem encode_lt_encode {cs ds : List Char} (h : cs < ds) : Utf8.encode cs < Utf8.encode ds := by
  induction cs generalizing ds with
  | nil =>
    cases ds with
    | nil => exact absurd h (List.lt_irrefl _)
    | cons d ds =>
      cases hEncode : Utf8.encode (d :: ds) with
      | nil => simp [Utf8.encode, String.utf8EncodeChar_ne_nil] at hEncode
      | cons byte bytes => exact List.nil_lt_cons byte bytes
  | cons c cs ih =>
    cases ds with
    | nil => cases h
    | cons d ds =>
      rw [Utf8.encode, Utf8.encode, List.flatMap_cons, List.flatMap_cons]
      rcases List.cons_lt_cons_iff.1 h with hLess | ⟨rfl, hRest⟩
      · exact encodeChar_append_lt hLess _ _
      · exact List.append_left_lt (ih hRest)

/-- **The order of texts is the order of their bytes.** -/
theorem bytes_lt_iff {text other : String} : bytes text < bytes other ↔ text < other := by
  have hForward : ∀ {text other : String}, text < other → bytes text < bytes other :=
    fun h => encode_lt_encode h
  refine ⟨fun h => ?_, hForward⟩
  rcases Std.lt_trichotomy text other with hLess | rfl | hGreater
  · exact hLess
  · exact absurd h (List.lt_irrefl _)
  · exact absurd h (List.lt_asymm (hForward hGreater))

end BranchingMovie.Text
