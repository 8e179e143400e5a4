import BranchingMovie.Proofs.Text.Pieces

/-!
# Cutting a text once, and blanks around it

A text is cut at a separator into what stands before and behind it.  The cut at the first one leaves
no separator in front (`cutFirst_eq_some_iff`), the cut at the last one leaves none behind
(`cutLast_eq_some_iff`), and nothing else is lost.

Blanks around a text do not change what is left when it is trimmed (`trim_append`), and trimming
takes off nothing but blanks (`exists_padding`).  So a reader that trims its text reads it with any
blanks around it (`padded_iff`).
-/

namespace BranchingMovie.Text

/-! ## Cutting -/

section Cutting

variable {sep : Char} {cs front tail : List Char}

theorem bne_sep_of_mem (h : sep ∉ front) : ∀ c ∈ front, (c != sep) = true := by
  intro c hc
  refine bne_iff_ne.2 ?_
  rintro rfl
  exact h hc

theorem takeWhile_append_sep (h : sep ∉ front) :
    (front ++ sep :: tail).takeWhile (· != sep) = front := by
  rw [List.takeWhile_append_of_pos (bne_sep_of_mem h), List.takeWhile_cons_of_neg, List.append_nil]
  simp

theorem dropWhile_append_sep (h : sep ∉ front) :
    (front ++ sep :: tail).dropWhile (· != sep) = sep :: tail := by
  rw [List.dropWhile_append_of_pos (bne_sep_of_mem h), List.dropWhile_cons_of_neg]
  simp

theorem cutFirst_append_sep (h : sep ∉ front) :
    cutFirst sep (front ++ sep :: tail) = some (front, tail) := by
  have hMem : sep ∈ front ++ sep :: tail := by simp
  rw [cutFirst, if_pos hMem, takeWhile_append_sep h, dropWhile_append_sep h]
  rfl

/-- The cut at the first separator leaves none in front. -/
theorem cutFirst_eq_some_iff :
    cutFirst sep cs = some (front, tail) ↔ cs = front ++ sep :: tail ∧ sep ∉ front := by
  constructor
  · intro h
    by_cases hMem : sep ∈ cs
    · obtain ⟨before, behind, rfl, hBefore⟩ := List.eq_append_cons_of_mem hMem
      rw [cutFirst_append_sep hBefore] at h
      cases h
      exact ⟨rfl, hBefore⟩
    · rw [cutFirst, if_neg hMem] at h
      cases h
  · rintro ⟨rfl, hFront⟩
    exact cutFirst_append_sep hFront

/-- The cut at the last separator leaves none behind. -/
theorem cutLast_eq_some_iff :
    cutLast sep cs = some (front, tail) ↔ cs = front ++ sep :: tail ∧ sep ∉ tail := by
  -- the last separator of a text is the first one from its end
  have hEnds : cs.reverse = tail.reverse ++ sep :: front.reverse ↔ cs = front ++ sep :: tail := by
    rw [← List.reverse_inj]
    simp
  rw [← hEnds, ← List.mem_reverse, ← cutFirst_eq_some_iff, cutLast, Option.map_eq_some_iff]
  constructor
  · rintro ⟨⟨after, before⟩, hCut, hPair⟩
    cases hPair
    rwa [List.reverse_reverse, List.reverse_reverse]
  · intro hCut
    refine ⟨_, hCut, ?_⟩
    simp

theorem afterStart_eq_some_iff {start rest : List Char} :
    afterStart start cs = some rest ↔ cs = start ++ rest := by
  unfold afterStart
  constructor
  · intro h
    split at h
    · rename_i hStart
      cases h
      exact (List.prefix_iff_eq_append.1 (List.isPrefixOf_iff_prefix.1 hStart)).symm
    · cases h
  · rintro rfl
    rw [if_pos (List.isPrefixOf_iff_prefix.2 (List.prefix_append start rest)), List.drop_left]

end Cutting

/-! ## Blanks around a text -/

theorem trimStart_of_blank {cs : List Char} (h : ∀ c ∈ cs, isBlank c = true) :
    trimStart cs = [] :=
  List.dropWhile_eq_nil_iff.2 h

theorem trimEnd_append {back : List Char} (h : ∀ c ∈ back, isBlank c = true) (cs : List Char) :
    trimEnd (cs ++ back) = trimEnd cs := by
  have hBack : ∀ c ∈ back.reverse, isBlank c = true := fun c hc => h c (List.mem_reverse.1 hc)
  rw [trimEnd, trimEnd, List.reverse_append, List.dropWhile_append_of_pos hBack]

/-- Blanks around a text are trimmed with those that it has itself. -/
theorem trim_append {front back : List Char} (hFront : ∀ c ∈ front, isBlank c = true)
    (hBack : ∀ c ∈ back, isBlank c = true) (core : List Char) :
    trim (front ++ core ++ back) = trim core := by
  rw [trim, trim, List.append_assoc, trimStart, List.dropWhile_append_of_pos hFront,
    List.dropWhile_append]
  split
  · rename_i hCore
    have hStart : trimStart core = [] := List.isEmpty_iff.1 hCore
    rw [hStart]
    exact congrArg trimEnd (trimStart_of_blank hBack)
  · exact trimEnd_append hBack _

/-- What trimming takes off the end of a text is blank. -/
theorem exists_trimEnd_append (cs : List Char) :
    ∃ back, trimEnd cs ++ back = cs ∧ ∀ c ∈ back, isBlank c = true := by
  refine ⟨(cs.reverse.takeWhile isBlank).reverse, ?_, fun c hc => ?_⟩
  · rw [trimEnd, ← List.reverse_append, List.takeWhile_append_dropWhile, List.reverse_reverse]
  · exact List.mem_takeWhile_imp (List.mem_reverse.1 hc)

/-- A text is what is left of it when it is trimmed, with blanks around it. -/
theorem exists_padding (cs : List Char) :
    ∃ front back, cs = front ++ trim cs ++ back ∧ (∀ c ∈ front, isBlank c = true) ∧
      ∀ c ∈ back, isBlank c = true := by
  obtain ⟨back, hEnd, hBack⟩ := exists_trimEnd_append (trimStart cs)
  refine ⟨cs.takeWhile isBlank, back, ?_, fun c hc => List.mem_takeWhile_imp hc, hBack⟩
  have hStart : cs.takeWhile isBlank ++ trimStart cs = cs := List.takeWhile_append_dropWhile
  rw [List.append_assoc, trim, hEnd, hStart]

theorem trim_trimEnd (cs : List Char) : trim (trimEnd cs) = trim cs := by
  obtain ⟨back, hEnd, hBack⟩ := exists_trimEnd_append cs
  have hTrim := trim_append (List.forall_mem_nil _) hBack (trimEnd cs)
  rw [List.nil_append, hEnd] at hTrim
  exact hTrim.symm

/-- What stands up to a character that is not blank is not trimmed from the end of a text. -/
theorem trimEnd_append_cons {c : Char} (hc : isBlank c = false) (front tail : List Char) :
    trimEnd (front ++ c :: tail) = front ++ c :: trimEnd tail := by
  have hStays : (c :: front.reverse).dropWhile isBlank = c :: front.reverse :=
    List.dropWhile_cons_of_neg (by simp [hc])
  simp only [trimEnd, List.reverse_append, List.reverse_cons, List.append_assoc,
    List.singleton_append, List.dropWhile_append]
  split
  · rename_i hTail
    rw [hStays, List.isEmpty_iff.1 hTail]
    simp
  · simp

/-- The text is one of those that `p` describes, with blanks around it. -/
def Padded (p : List Char → Prop) (text : List Char) : Prop :=
  ∃ front core back, text = front ++ core ++ back ∧ (∀ c ∈ front, isBlank c = true) ∧
    (∀ c ∈ back, isBlank c = true) ∧ p core

variable {p q : List Char → Prop}

theorem Padded.of_trim {text : List Char} (h : p (trim text)) : Padded p text := by
  obtain ⟨front, back, hText, hFront, hBack⟩ := exists_padding text
  exact ⟨front, trim text, back, hText, hFront, hBack, h⟩

theorem Padded.imp {text : List Char} (h : Padded p text) (hImp : ∀ core, p core → q core) :
    Padded q text := by
  obtain ⟨front, core, back, hText, hFront, hBack, hCore⟩ := h
  exact ⟨front, core, back, hText, hFront, hBack, hImp core hCore⟩

/-- **A trimmed text is one of those that are described exactly when the text is one of them with
blanks around it**, if what is described is trimmed. -/
theorem padded_iff {text : List Char} (hTrimmed : ∀ core, p core → Trimmed core) :
    Padded p text ↔ p (trim text) := by
  constructor
  · rintro ⟨front, core, back, rfl, hFront, hBack, hCore⟩
    rw [trim_append hFront hBack, trim_of_trimmed (hTrimmed core hCore)]
    exact hCore
  · exact Padded.of_trim

/-- No character that is not blank is added to a text by the blanks around it. -/
theorem Padded.not_mem {text : List Char} {c : Char} (h : Padded p text)
    (hBlank : isBlank c = false) (hCore : ∀ core, p core → c ∉ core) : c ∉ text := by
  obtain ⟨front, core, back, rfl, hFront, hBack, hOwn⟩ := h
  have hNot : ∀ blanks : List Char, (∀ d ∈ blanks, isBlank d = true) → c ∉ blanks := by
    intro blanks hAll hMem
    rw [hAll c hMem] at hBlank
    cases hBlank
  simp [hNot front hFront, hNot back hBack, hCore core hOwn]

end BranchingMovie.Text
