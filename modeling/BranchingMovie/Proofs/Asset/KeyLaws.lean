import BranchingMovie.Asset.Key
import BranchingMovie.Proofs.Text.Pieces

/-!
# Keys of keys

The key of a key is the key itself, unless a blank stands behind a separator of the name: blanks are
trimmed before the path is cut, so such a blank begins the key and is lost when the key is taken for
a name again.

The key of a name is no more than the name in small letters when the name is plain: when it has no
blanks around it and no folders (`keyChars_eq_lowerAscii_iff`).
-/

namespace BranchingMovie.Asset

/-- No separator of the name has a blank behind it. -/
def NoBlankAfterSeparator (name : String) : Prop :=
  ∀ front s c tail, name.toList = front ++ s :: c :: tail → isSeparator s = true →
    Text.isBlank c = false

/-- No letter separates folders. -/
theorem isSeparator_of_letter {c : Char} (hLow : 65 ≤ c.toNat)
    (hHigh : c.toNat ≤ 90 ∨ 97 ≤ c.toNat) : isSeparator c = false := by
  have hSlash : c ≠ '/' := by
    rintro rfl
    exact absurd hLow (by decide)
  have hBackslash : c ≠ '\\' := by
    rintro rfl
    exact absurd hHigh (by decide)
  rw [isSeparator, beq_false_of_ne hSlash, beq_false_of_ne hBackslash]
  rfl

@[simp] theorem isSeparator_toLower (c : Char) : isSeparator c.toLower = isSeparator c := by
  rcases Text.toLower_cases c with h | ⟨hLow, hHigh, h⟩
  · rw [h]
  · rw [isSeparator_of_letter hLow (.inl hHigh), isSeparator_of_letter (by omega) (.inr (by omega))]

/-- A trimmed name without folders is reduced to its small letters. -/
theorem keyChars_of_trimmed {name : List Char} (hTrimmed : Text.Trimmed name)
    (hSep : ∀ c ∈ name, isSeparator c = false) : keyChars name = Text.lowerAscii name := by
  rw [keyChars, Text.trim_of_trimmed hTrimmed, Text.fields_of_no_sep hSep]
  rfl

/-- No key names a folder. -/
theorem isSeparator_of_mem_keyChars {name : List Char} {c : Char} (h : c ∈ keyChars name) :
    isSeparator c = false := by
  obtain ⟨d, hd, rfl⟩ := List.mem_map.1 h
  rw [isSeparator_toLower]
  exact Text.sep_of_mem_fields (Text.getLastD_fields_mem _ _) d hd

/-- The key of a key is the key itself, when what follows the last separator of the name has nothing
to trim. -/
theorem keyChars_keyChars {name : List Char}
    (h : Text.Trimmed ((Text.fields isSeparator (Text.trim name)).getLastD [])) :
    keyChars (keyChars name) = keyChars name := by
  have hTrimmed : Text.Trimmed (keyChars name) := h.lowerAscii
  rw [keyChars_of_trimmed hTrimmed fun c hc => isSeparator_of_mem_keyChars hc, keyChars,
    Text.lowerAscii_lowerAscii]

/-- The last folder of a name is trimmed, when no separator has a blank behind it. -/
theorem trimmed_lastPiece {name : String} (h : NoBlankAfterSeparator name) :
    Text.Trimmed ((Text.fields isSeparator (Text.trim name.toList)).getLastD []) := by
  have hTrimmed := Text.trimmed_trim name.toList
  obtain hAll | ⟨front, s, hFront, hSep⟩ :=
    Text.getLastD_fields_cases isSeparator (Text.trim name.toList)
  · rw [hAll]
    exact hTrimmed
  · generalize (Text.fields isSeparator (Text.trim name.toList)).getLastD [] = last at hFront ⊢
    refine ⟨fun c hc => ?_, fun c hc => ?_⟩
    · obtain ⟨tail, rfl⟩ := List.head?_eq_some_iff.1 hc
      obtain ⟨lead, trail, hName⟩ := Text.trim_infix name.toList
      refine h (lead ++ front) s c (tail ++ trail) ?_ hSep
      rw [← hName, hFront]
      simp only [List.append_assoc, List.cons_append]
    · refine hTrimmed.last c ?_
      rw [hFront, List.getLast?_append, List.getLast?_cons, Option.mem_def.1 hc]
      rfl

/-- **The key of a key is the key itself**, when no separator of the name has a blank behind it. -/
theorem key_key {name : String} (h : NoBlankAfterSeparator name) : key (key name) = key name := by
  rw [key, key, String.toList_ofList, keyChars_keyChars (trimmed_lastPiece h)]

/-- What is lost of a key is lost the next time: the key of a key stays what it is. -/
theorem key_key_key (name : String) : key (key (key name)) = key (key name) := by
  refine key_key fun front s c tail hName hSep => ?_
  have hMem : s ∈ keyChars name.toList := by
    rw [key, String.toList_ofList] at hName
    rw [hName]
    simp
  rw [isSeparator_of_mem_keyChars hMem] at hSep
  cases hSep

-- a blank behind a separator begins the key, and is lost the next time
example : key "FILM/ b.nod" = " b.nod" ∧ key " b.nod" = "b.nod" := by decide +kernel

/-- Names without blanks have none behind a separator. -/
theorem noBlankAfterSeparator_of_no_blank {name : String}
    (h : ∀ c ∈ name.toList, Text.isBlank c = false) : NoBlankAfterSeparator name := by
  intro front s c tail hName _
  refine h c ?_
  rw [hName]
  simp

/-! ## Names that are keys but for their capitals -/

/-- The name has no blanks around it and no folders. -/
structure IsPlain (name : List Char) : Prop where
  trimmed : Text.Trimmed name
  whole : ∀ c ∈ name, isSeparator c = false

/-- The key has no more characters than the trimmed name, and fewer when that has folders. -/
theorem length_keyChars_cases (name : List Char) :
    keyChars name = Text.lowerAscii (Text.trim name) ∨
      (keyChars name).length < (Text.trim name).length := by
  obtain hAll | ⟨front, s, hFront, -⟩ :=
    Text.getLastD_fields_cases isSeparator (Text.trim name)
  · left
    rw [keyChars, hAll]
  · right
    have hLength := congrArg List.length hFront
    rw [List.length_append, List.length_cons] at hLength
    rw [keyChars, Text.lowerAscii, List.length_map]
    omega

/-- **The key of a name is the name in small letters** exactly when the name is plain. -/
theorem keyChars_eq_lowerAscii_iff {name : List Char} :
    keyChars name = Text.lowerAscii name ↔ IsPlain name := by
  constructor
  · intro h
    have hLength : (keyChars name).length = name.length := by
      rw [h, Text.lowerAscii, List.length_map]
    have hTrim : (Text.trim name).length ≤ name.length := (Text.trim_infix name).length_le
    obtain hAll | hShorter := length_keyChars_cases name
    · -- nothing was trimmed, so the name is trimmed, and none of it is lost as a folder
      have hSame : (Text.trim name).length = name.length := by
        rw [hAll, Text.lowerAscii, List.length_map] at hLength
        exact hLength
      have hName : Text.trim name = name := (Text.trim_infix name).eq_of_length hSame
      refine ⟨hName ▸ Text.trimmed_trim name, fun c hc => ?_⟩
      have hLower : c.toLower ∈ keyChars name := by
        rw [h]
        exact List.mem_map_of_mem hc
      rw [← isSeparator_toLower]
      exact isSeparator_of_mem_keyChars hLower
    · omega
  · intro h
    exact keyChars_of_trimmed h.trimmed h.whole

end BranchingMovie.Asset
