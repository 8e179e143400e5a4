import Mathlib.Data.List.Forall2
import BranchingMovie.Proofs.Text.Pieces

/-!
# The words and the lines of a text

A text is made of its words in their order, with blanks between any two of them, and with blanks or
nothing in front of the first and behind the last (`Spaced`).  Every text is made of words in one
way only, and `words` gives them (`words_eq_iff`).

A text is its lines with line feeds between them (`intercalate_lines`).  A carriage return in front
of each line feed adds a blank to the end of a line (`forall₂_lines_withReturns`), and so no words
(`words_concat_return`).
-/

namespace BranchingMovie.Text

/-- Characters that are not blank, one at least. -/
structure IsWord (word : List Char) : Prop where
  ne_nil : word ≠ []
  isBlank : ∀ c ∈ word, Text.isBlank c = false

/-- A text is made of words: there are blanks between them, as many as one likes, and there may be
some around them. -/
inductive Spaced : List (List Char) → List Char → Prop
  | nil : Spaced [] []
  | blank {c : Char} {ws : List (List Char)} {text : List Char} (hc : isBlank c = true)
      (h : Spaced ws text) : Spaced ws (c :: text)
  | word {word : List Char} {ws : List (List Char)} {text : List Char} (hWord : IsWord word)
      (hEnd : ∀ c ∈ text.head?, isBlank c = true) (h : Spaced ws text) :
      Spaced (word :: ws) (word ++ text)

/-! ## Words in a text -/

theorem words_blank {c : Char} (hc : isBlank c = true) (text : List Char) :
    words (c :: text) = words text := by
  rw [words, fields_cons, if_pos hc]
  rfl

theorem words_of_isWord {word : List Char} (h : IsWord word) : words word = [word] := by
  have hKept : (!word.isEmpty) = true := by
    rw [List.isEmpty_eq_false_iff.2 h.ne_nil]
    rfl
  rw [words, fields_of_no_sep h.isBlank]
  exact List.filter_cons_of_pos hKept

/-- A blank ends the words in front of it. -/
theorem words_append {c : Char} (hc : isBlank c = true) (front text : List Char) :
    words (front ++ c :: text) = words front ++ words text := by
  rw [words, fields_append hc, List.filter_append]
  rfl

/-- A word in front of a text is its first word, when the text goes on with a blank. -/
theorem words_word {word text : List Char} (hWord : IsWord word)
    (hEnd : ∀ c ∈ text.head?, isBlank c = true) : words (word ++ text) = word :: words text := by
  cases text with
  | nil => rw [List.append_nil, words_of_isWord hWord]; rfl
  | cons c text =>
    have hc : isBlank c = true := hEnd c rfl
    rw [words_append hc, words_of_isWord hWord, words_blank hc]
    rfl

/-- The words of a text are those it is made of. -/
theorem Spaced.words_eq {ws : List (List Char)} {text : List Char} (h : Spaced ws text) :
    words text = ws := by
  induction h with
  | nil => rfl
  | blank hc _ ih => rw [words_blank hc, ih]
  | word hWord hEnd _ ih => rw [words_word hWord hEnd, ih]

/-! ## Texts made of words -/

/-- Every text is made of words: a blank in front belongs to none, and what is no blank begins a
word that goes on to the next blank. -/
theorem exists_spaced (text : List Char) : ∃ ws, Spaced ws text := by
  match text with
  | [] => exact ⟨[], .nil⟩
  | c :: text =>
    cases hc : isBlank c with
    | true =>
      obtain ⟨ws, h⟩ := exists_spaced text
      exact ⟨ws, .blank hc h⟩
    | false =>
      obtain ⟨ws, h⟩ := exists_spaced (text.dropWhile (!isBlank ·))
      have hWord : IsWord (c :: text.takeWhile (!isBlank ·)) := by
        refine ⟨List.cons_ne_nil _ _, List.forall_mem_cons.2 ⟨hc, fun d hd => ?_⟩⟩
        simpa using List.mem_takeWhile_imp hd
      have hEnd : ∀ d ∈ (text.dropWhile (!isBlank ·)).head?, isBlank d = true := by
        intro d hd
        have hHead := List.head?_dropWhile_not (!isBlank ·) text
        rw [Option.mem_def.1 hd] at hHead
        simpa using hHead
      have hSpaced := Spaced.word hWord hEnd h
      rw [List.cons_append, List.takeWhile_append_dropWhile] at hSpaced
      exact ⟨_, hSpaced⟩
termination_by text.length
decreasing_by
  · exact Nat.lt_succ_of_le (List.dropWhile_suffix _).length_le
  · exact Nat.lt_succ_self _

/-- **A text is made of its words, and of no others.** -/
theorem words_eq_iff {text : List Char} {ws : List (List Char)} :
    words text = ws ↔ Spaced ws text := by
  constructor
  · rintro rfl
    obtain ⟨ws, h⟩ := exists_spaced text
    rwa [h.words_eq]
  · exact Spaced.words_eq

theorem spaced_words (text : List Char) : Spaced (words text) text :=
  words_eq_iff.1 rfl

theorem Spaced.isBlank_of_nil {ws : List (List Char)} {text : List Char} (h : Spaced ws text)
    (hNone : ws = []) : ∀ c ∈ text, isBlank c = true := by
  induction h with
  | nil => exact List.forall_mem_nil _
  | blank hc _ ih => exact List.forall_mem_cons.2 ⟨hc, ih hNone⟩
  | word => cases hNone

/-- A text without words is blank. -/
theorem words_eq_nil_iff {text : List Char} : words text = [] ↔ ∀ c ∈ text, isBlank c = true := by
  constructor
  · intro hNone
    exact (words_eq_iff.1 hNone).isBlank_of_nil rfl
  · intro hBlank
    induction text with
    | nil => rfl
    | cons c text ih =>
      rw [words_blank (hBlank c List.mem_cons_self)]
      exact ih fun d hd => hBlank d (List.mem_cons_of_mem c hd)

/-! ## Lines -/

/-- No line has a line feed in it. -/
theorem not_mem_of_mem_lines {text line : List Char} (h : line ∈ lines text) : '\n' ∉ line := by
  intro hFeed
  have hSep := sep_of_mem_fields h '\n' hFeed
  cases hSep

/-- A text is its lines with line feeds between them. -/
theorem intercalate_lines (text : List Char) : ['\n'].intercalate (lines text) = text := by
  induction text with
  | nil => rfl
  | cons c text ih =>
    obtain ⟨first, others, hLines⟩ := List.exists_cons_of_ne_nil (fields_ne_nil (· == '\n') text)
    rw [lines, hLines] at ih
    rw [lines, fields_cons, hLines]
    split
    · rename_i hFeed
      rw [beq_iff_eq.1 hFeed, List.intercalate_cons_cons, ih]
      rfl
    · rw [prependToFirst, ← ih]
      cases others with
      | nil => rw [List.intercalate_singleton, List.intercalate_singleton]
      | cons second others =>
        rw [List.intercalate_cons_cons, List.intercalate_cons_cons]
        rfl

/-- The text with a carriage return in front of each line feed. -/
def withReturns (text : List Char) : List Char :=
  text.flatMap fun c => if c = '\n' then ['\r', '\n'] else [c]

/-- The lines of such a text are the lines of the text, each but the last with a carriage return at
its end. -/
theorem forall₂_lines_withReturns (text : List Char) :
    List.Forall₂ (fun line returned => returned = line ∨ returned = line ++ ['\r']) (lines text)
      (lines (withReturns text)) := by
  induction text with
  | nil => exact .cons (.inl rfl) .nil
  | cons c text ih =>
    by_cases hFeed : c = '\n'
    · subst hFeed
      exact .cons (.inr rfl) ih
    · have hSep : ¬ (c == '\n') = true := by simpa using hFeed
      have hKept : withReturns (c :: text) = c :: withReturns text := by
        rw [withReturns, List.flatMap_cons, if_neg hFeed]
        rfl
      obtain ⟨first, others, hLines⟩ := List.exists_cons_of_ne_nil
        (fields_ne_nil (· == '\n') text)
      obtain ⟨returned, rest, hReturned⟩ := List.exists_cons_of_ne_nil
        (fields_ne_nil (· == '\n') (withReturns text))
      rw [lines, lines, hLines, hReturned, List.forall₂_cons] at ih
      rw [hKept, lines, lines, fields_cons, fields_cons, if_neg hSep, if_neg hSep, hLines,
        hReturned]
      obtain ⟨rfl | rfl, hRest⟩ := ih
      · exact .cons (.inl rfl) hRest
      · exact .cons (.inr rfl) hRest

/-- A carriage return at the end of a line is a blank like any other. -/
theorem words_concat_return (line : List Char) : words (line ++ ['\r']) = words line := by
  have hBlank : isBlank '\r' = true := rfl
  rw [words_append hBlank]
  exact List.append_nil _

end BranchingMovie.Text
