import Mathlib.Data.List.TakeWhile
import BranchingMovie.Text.Fields

/-!
# Pieces of a text

What trimming, small letters and cutting do to the characters of a text.

* A text is trimmed when it neither begins nor ends with a blank: `trim` gives such a text
  (`trimmed_trim`) and changes no text that is one already (`trim_of_trimmed`).
* No piece of a text has a separator in it (`sep_of_mem_fields`), and a text without separators is
  its only piece (`fields_of_no_sep`).  The last piece is what follows the last separator
  (`getLastD_fields_cases`).
* There are no more words than characters (`length_words_le`).
-/

namespace BranchingMovie.Text

/-! ## Small letters -/

/-- Only the capitals have another small letter, 32 places further. -/
theorem toLower_cases (c : Char) :
    c.toLower = c ∨ (65 ≤ c.toNat ∧ c.toNat ≤ 90 ∧ c.toLower.toNat = c.toNat + 32) := by
  by_cases h : c.val ≥ 'A'.val ∧ c.val ≤ 'Z'.val
  · have hLow : 65 ≤ c.toNat := h.1
    have hHigh : c.toNat ≤ 90 := h.2
    refine .inr ⟨hLow, hHigh, ?_⟩
    unfold Char.toLower
    rw [dif_pos h]
    show (c.val + 32).toNat = c.toNat + 32
    rw [UInt32.toNat_add]
    show (c.toNat + 32) % 4294967296 = c.toNat + 32
    omega
  · exact .inl (dif_neg h)

theorem toLower_toLower (c : Char) : c.toLower.toLower = c.toLower := by
  rcases toLower_cases c with h | ⟨hLow, hHigh, h⟩
  · rw [h, h]
  · rcases toLower_cases c.toLower with h' | ⟨hLow', hHigh', -⟩
    · exact h'
    · omega

/-- No letter or digit, and nothing between them, is blank. -/
theorem isBlank_of_letter {c : Char} (hLow : 48 ≤ c.toNat) (hHigh : c.toNat ≤ 122) :
    isBlank c = false := by
  simp only [isBlank, Bool.or_eq_false_iff, Bool.and_eq_false_iff, decide_eq_false_iff_not,
    beq_eq_false_iff_ne]
  omega

theorem isBlank_of_isDigit {c : Char} (h : c.isDigit = true) : isBlank c = false := by
  obtain ⟨hLow, hHigh⟩ := Char.isDigit_iff_toNat.1 h
  simp only [Char.reduceToNat] at hLow hHigh
  exact isBlank_of_letter hLow (by omega)

@[simp] theorem isBlank_toLower (c : Char) : isBlank c.toLower = isBlank c := by
  rcases toLower_cases c with h | ⟨hLow, hHigh, h⟩
  · rw [h]
  · rw [isBlank_of_letter (by omega) (by omega), isBlank_of_letter (by omega) (by omega)]

@[simp] theorem lowerAscii_lowerAscii (cs : List Char) :
    lowerAscii (lowerAscii cs) = lowerAscii cs := by
  rw [lowerAscii, lowerAscii, List.map_map]
  exact List.map_congr_left fun c _ => toLower_toLower c

/-! ## Trimming -/

/-- A text that neither begins nor ends with a blank. -/
structure Trimmed (cs : List Char) : Prop where
  first : ∀ c ∈ cs.head?, isBlank c = false
  last : ∀ c ∈ cs.getLast?, isBlank c = false

theorem Trimmed.of_no_blank {cs : List Char} (h : ∀ c ∈ cs, isBlank c = false) : Trimmed cs where
  first c hc := h c (List.mem_of_mem_head? hc)
  last c hc := h c (List.mem_of_getLast? hc)

theorem Trimmed.lowerAscii {cs : List Char} (h : Trimmed cs) : Trimmed (lowerAscii cs) where
  first c hc := by
    rw [Text.lowerAscii, List.head?_map] at hc
    obtain ⟨d, hd, rfl⟩ := Option.map_eq_some_iff.1 hc
    rw [isBlank_toLower]
    exact h.first d hd
  last c hc := by
    rw [Text.lowerAscii, List.getLast?_map] at hc
    obtain ⟨d, hd, rfl⟩ := Option.map_eq_some_iff.1 hc
    rw [isBlank_toLower]
    exact h.last d hd

theorem dropWhile_of_head? {cs : List Char} (h : ∀ c ∈ cs.head?, isBlank c = false) :
    cs.dropWhile isBlank = cs := by
  cases cs with
  | nil => rfl
  | cons c cs =>
    refine List.dropWhile_cons_of_neg ?_
    rw [h c rfl]
    exact Bool.false_ne_true

/-- A trimmed text has nothing to trim. -/
theorem trim_of_trimmed {cs : List Char} (h : Trimmed cs) : trim cs = cs := by
  rw [trim, trimStart, dropWhile_of_head? h.first, trimEnd, dropWhile_of_head?,
    List.reverse_reverse]
  rw [List.head?_reverse]
  exact h.last

theorem isBlank_of_mem_head?_dropWhile {cs : List Char} :
    ∀ c ∈ (cs.dropWhile isBlank).head?, isBlank c = false := by
  intro c hc
  have h := List.head?_dropWhile_not isBlank cs
  rw [Option.mem_def.1 hc] at h
  exact h

/-- Trimming takes something from the end of a text that begins with no blank. -/
theorem trim_prefix_trimStart (cs : List Char) : trim cs <+: trimStart cs := by
  rw [← List.reverse_suffix, trim, trimEnd, List.reverse_reverse]
  exact List.dropWhile_suffix isBlank

/-- A trimmed text stands somewhere in the text. -/
theorem trim_infix (cs : List Char) : trim cs <:+: cs :=
  (trim_prefix_trimStart cs).isInfix.trans (List.dropWhile_suffix isBlank).isInfix

/-- Trimming trims. -/
theorem trimmed_trim (cs : List Char) : Trimmed (trim cs) where
  first c hc := by
    obtain ⟨rest, hRest⟩ := trim_prefix_trimStart cs
    have hFirst : c ∈ (cs.dropWhile isBlank).head? := by
      show (trimStart cs).head? = some c
      rw [← hRest, List.head?_append, Option.mem_def.1 hc]
      rfl
    exact isBlank_of_mem_head?_dropWhile c hFirst
  last c hc := by
    rw [trim, trimEnd, List.getLast?_reverse] at hc
    exact isBlank_of_mem_head?_dropWhile c hc

/-! ## Cutting -/

section Fields

variable {sep : Char → Bool}

/-- No piece has a separator in it. -/
theorem sep_of_mem_fields {cs piece : List Char} (h : piece ∈ fields sep cs) :
    ∀ c ∈ piece, sep c = false := by
  induction cs generalizing piece with
  | nil =>
    rw [fields_nil, List.mem_singleton] at h
    subst h
    exact fun c hc => absurd hc List.not_mem_nil
  | cons d cs ih =>
    rw [fields_cons] at h
    split at h
    · rcases List.mem_cons.1 h with rfl | hPiece
      · exact fun c hc => absurd hc List.not_mem_nil
      · exact ih hPiece
    · rename_i hSep
      obtain ⟨first, pieces, hFields⟩ := List.exists_cons_of_ne_nil (fields_ne_nil sep cs)
      rw [hFields, prependToFirst] at h
      intro c hc
      rcases List.mem_cons.1 h with rfl | hPiece
      · rcases List.mem_cons.1 hc with rfl | hRest
        · exact Bool.eq_false_iff.2 hSep
        · exact ih (hFields ▸ List.mem_cons_self) c hRest
      · exact ih (hFields ▸ List.mem_cons_of_mem first hPiece) c hc

/-- A text without separators is its only piece. -/
theorem fields_of_no_sep {cs : List Char} (h : ∀ c ∈ cs, sep c = false) : fields sep cs = [cs] := by
  induction cs with
  | nil => rfl
  | cons c cs ih =>
    have hSep : ¬ sep c = true := by
      rw [h c List.mem_cons_self]
      exact Bool.false_ne_true
    rw [fields_cons, if_neg hSep, ih fun d hd => h d (List.mem_cons_of_mem c hd)]
    rfl

/-- A separator ends the pieces in front of it. -/
theorem fields_append {s : Char} (h : sep s = true) (front tail : List Char) :
    fields sep (front ++ s :: tail) = fields sep front ++ fields sep tail := by
  induction front with
  | nil =>
    rw [List.nil_append, fields_cons, if_pos h]
    rfl
  | cons c front ih =>
    obtain ⟨first, pieces, hFields⟩ := List.exists_cons_of_ne_nil (fields_ne_nil sep front)
    rw [List.cons_append, fields_cons, fields_cons, ih, hFields]
    split
    · rfl
    · rfl

/-- A text has no separator, or it has a last one. -/
theorem last_sep_cases (sep : Char → Bool) (cs : List Char) :
    (∀ c ∈ cs, sep c = false) ∨
      ∃ front s tail, cs = front ++ s :: tail ∧ sep s = true ∧ ∀ c ∈ tail, sep c = false := by
  induction cs with
  | nil => exact .inl fun c hc => absurd hc List.not_mem_nil
  | cons d cs ih =>
    rcases ih with hNone | ⟨front, s, tail, rfl, hSep, hTail⟩
    · cases hd : sep d with
      | true => exact .inr ⟨[], d, cs, rfl, hd, hNone⟩
      | false => exact .inl (List.forall_mem_cons.2 ⟨hd, hNone⟩)
    · exact .inr ⟨d :: front, s, tail, rfl, hSep, hTail⟩

theorem getLastD_fields_mem (sep : Char → Bool) (cs : List Char) :
    (fields sep cs).getLastD [] ∈ fields sep cs := by
  rw [List.getLastD_eq_getLast?, List.getLast?_eq_some_getLast (fields_ne_nil sep cs)]
  exact List.getLast_mem (fields_ne_nil sep cs)

/-- The last piece is all of a text without separators, and else what follows the last one. -/
theorem getLastD_fields_cases (sep : Char → Bool) (cs : List Char) :
    (fields sep cs).getLastD [] = cs ∨
      ∃ front s, cs = front ++ s :: (fields sep cs).getLastD [] ∧ sep s = true := by
  rcases last_sep_cases sep cs with hNone | ⟨front, s, tail, rfl, hSep, hTail⟩
  · rw [fields_of_no_sep hNone]
    exact .inl rfl
  · rw [fields_append hSep, fields_of_no_sep hTail, List.getLastD_concat]
    exact .inr ⟨front, s, rfl, hSep⟩

/-! ## Counting -/

/-- The pieces of a text have no more characters than the text. -/
theorem length_flatten_fields_le (sep : Char → Bool) (cs : List Char) :
    (fields sep cs).flatten.length ≤ cs.length := by
  induction cs with
  | nil => rfl
  | cons c cs ih =>
    obtain ⟨first, pieces, hFields⟩ := List.exists_cons_of_ne_nil (fields_ne_nil sep cs)
    rw [fields_cons, hFields]
    rw [hFields] at ih
    split
    · rw [List.flatten_cons, List.nil_append]
      exact Nat.le_succ_of_le ih
    · exact Nat.succ_le_succ ih

end Fields

theorem length_filter_le_length_flatten (pieces : List (List Char)) :
    (pieces.filter (!·.isEmpty)).length ≤ pieces.flatten.length := by
  induction pieces with
  | nil => rfl
  | cons piece pieces ih =>
    cases piece with
    | nil => exact ih
    | cons c piece =>
      simp only [List.filter_cons, List.isEmpty_cons, Bool.not_false, if_true, List.length_cons,
        List.flatten_cons, List.length_append]
      omega

/-- There are no more words than characters. -/
theorem length_words_le (cs : List Char) : (words cs).length ≤ cs.length :=
  (length_filter_le_length_flatten _).trans (length_flatten_fields_le isBlank cs)

/-- No word has a blank in it. -/
theorem isBlank_of_mem_words {cs word : List Char} (h : word ∈ words cs) :
    ∀ c ∈ word, isBlank c = false :=
  sep_of_mem_fields (List.mem_filter.1 h).1

end BranchingMovie.Text
