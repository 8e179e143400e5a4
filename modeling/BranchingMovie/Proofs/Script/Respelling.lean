import BranchingMovie.Graph.Load
import BranchingMovie.Proofs.Script.Grammar
import BranchingMovie.Proofs.Script.Names

/-!
# Scripts in another spelling

The name of an entry may be spelled in many ways: in another case, with another folder in front.
`Script.Respells` says that two streams of words differ in the spelling of names only.  Such streams
are read alike: both are refused for the same reason, or both are scripts whose entries are the
same once each name is replaced by its key (`Script.readBytes_respelled`).  The scripts that the
entries name are the same, too (`Script.references_congr`).
-/

namespace BranchingMovie

/-! ## Entries with keys for names -/

/-- The entry with the key of its name in the place of the name. -/
def Entry.keyed (entry : Entry) : Entry :=
  { entry with name := Asset.key entry.name }

/-- The script with the keys of all names in the place of the names. -/
def Script.keyed (script : Script) : Script :=
  { script with entries := script.entries.map Entry.keyed }

namespace Entry

/-- Entries are the same up to spelling when they have the same numbers, and names with one key. -/
theorem keyed_eq_iff {entry other : Entry} :
    other.keyed = entry.keyed ↔
      other.index = entry.index ∧ Asset.key other.name = Asset.key entry.name ∧
        other.fields = entry.fields := by
  simp only [keyed, Entry.mk.injEq]

section Keyed

variable (entry : Entry)

@[simp] theorem index_keyed : entry.keyed.index = entry.index := by
  simp only [keyed]

@[simp] theorem fields_keyed : entry.keyed.fields = entry.fields := by
  simp only [keyed]

@[simp] theorem opcode_keyed : entry.keyed.opcode = entry.opcode := by
  rw [opcode, fields_keyed, opcode]

@[simp] theorem condition_keyed (slot : Fin conditionSlots) :
    entry.keyed.condition slot = entry.condition slot := by
  simp only [condition, fields_keyed]

@[simp] theorem conditions_keyed : entry.keyed.conditions = entry.conditions := by
  simp only [conditions, condition_keyed]

@[simp] theorem slotOffset?_keyed (slot : Nat) :
    entry.keyed.slotOffset? slot = entry.slotOffset? slot := by
  unfold slotOffset?
  simp only [condition_keyed]

@[simp] theorem isInteractive_keyed : entry.keyed.isInteractive = entry.isInteractive := by
  rw [isInteractive, opcode_keyed, isInteractive]

@[simp] theorem validate_keyed (script : String) :
    entry.keyed.validate script = entry.validate script := by
  simp only [validate, isInteractive_keyed, conditions_keyed, index_keyed]

end Keyed

end Entry

namespace Script

/-- The check of a script does not look at the names. -/
@[simp] theorem validate_keyed (script : Script) : script.keyed.validate = script.validate := by
  have hEntries : ∀ entries : List Entry,
      (entries.map Entry.keyed).forM (Entry.validate script.name) =
        entries.forM (Entry.validate script.name) := by
    intro entries
    induction entries with
    | nil => rfl
    | cons entry entries ih =>
      rw [List.map_cons, List.forM_eq_forM, List.forM_cons, List.forM_cons, Entry.validate_keyed,
        ← List.forM_eq_forM, ih]
  exact hEntries script.entries

/-! ## Streams -/

/-- The streams have the same words, except that a name may be replaced by another one with the same
key. -/
structure Respells (words others : List (List Char)) : Prop where
  length : others.length = words.length
  /-- Where no name stands, the words are the same. -/
  same : ∀ i, columnAt i ≠ none → others[i]? = words[i]?
  /-- Where a name stands, the words have one key. -/
  name : ∀ i word other, columnAt i = none → words[i]? = some word → others[i]? = some other →
    Asset.keyChars other = Asset.keyChars word

theorem Respells.refl (words : List (List Char)) : Respells words words where
  length := rfl
  same _ _ := rfl
  name i word other _ hWord hOther := by
    obtain rfl : word = other := Option.some.inj (hWord.symm.trans hOther)
    rfl

/-- The name of the first record may be replaced. -/
theorem Respells.of_name {name other : List Char}
    (h : Asset.keyChars other = Asset.keyChars name) (position : List Char)
    (words : List (List Char)) :
    Respells (position :: name :: words) (position :: other :: words) where
  length := rfl
  same i hColumn := by
    match i with
    | 0 => rfl
    | 1 => exact absurd rfl hColumn
    | _ + 2 => rfl
  name i word replaced hColumn hWord hOther := by
    match i with
    | 0 => cases hColumn
    | 1 =>
      obtain rfl := Option.some.inj hWord
      obtain rfl := Option.some.inj hOther
      exact h
    | _ + 2 =>
      obtain rfl : word = replaced := Option.some.inj (hWord.symm.trans hOther)
      rfl

theorem columnAt_add_recordLength (i : Nat) : columnAt (recordLength + i) = columnAt i := by
  rw [columnAt, columnAt, Nat.add_mod_left]

section Respells

variable {words others : List (List Char)}

theorem Respells.drop (h : Respells words others) :
    Respells (words.drop recordLength) (others.drop recordLength) where
  length := by rw [List.length_drop, List.length_drop, h.length]
  same i hColumn := by
    rw [List.getElem?_drop, List.getElem?_drop]
    exact h.same _ (by rwa [columnAt_add_recordLength])
  name i word other hColumn hWord hOther := by
    rw [List.getElem?_drop] at hWord hOther
    exact h.name _ word other (by rwa [columnAt_add_recordLength]) hWord hOther

theorem Respells.take (h : Respells words others) (n : Nat) :
    Respells (words.take n) (others.take n) where
  length := by rw [List.length_take, List.length_take, h.length]
  same i hColumn := by
    rw [List.getElem?_take, List.getElem?_take, h.same i hColumn]
  name i word other hColumn hWord hOther := by
    rw [List.getElem?_take] at hWord hOther
    split at hWord
    · rename_i hi
      rw [if_pos hi] at hOther
      exact h.name i word other hColumn hWord hOther
    · cases hWord

/-- A record and another spelling of it have at most one word that differs, the second. -/
theorem Respells.record_cases (h : Respells words others) (hRoom : words.length ≤ recordLength) :
    others = words ∨ ∃ position name other numbers, words = position :: name :: numbers ∧
      others = position :: other :: numbers ∧ Asset.keyChars other = Asset.keyChars name := by
  have hLength := h.length
  match words, others with
  | [], [] => exact .inl rfl
  | [word], [other] =>
    obtain rfl : other = word := Option.some.inj (h.same 0 (by decide))
    exact .inl rfl
  | position :: name :: numbers, first :: other :: rest =>
    obtain rfl : first = position := Option.some.inj (h.same 0 (by decide))
    have hNames : Asset.keyChars other = Asset.keyChars name :=
      h.name 1 name other (by decide) rfl rfl
    obtain rfl : rest = numbers := by
      refine List.ext_getElem? fun i => ?_
      by_cases hi : i < fieldCount
      · have hColumn : columnAt (i + 2) ≠ none := by
          have hField := columnAt_field 0 hi
          rw [Nat.mul_zero, Nat.zero_add] at hField
          rw [hField]
          exact Option.some_ne_none _
        exact h.same (i + 2) hColumn
      · -- a record has no words beyond its numbers
        simp only [List.length_cons, recordLength] at hLength hRoom
        rw [List.getElem?_eq_none (by omega), List.getElem?_eq_none (by omega)]
    exact .inr ⟨first, name, other, rest, rfl, rfl, hNames⟩

/-- The name of a record is taken as it is, so another name gives the same record but for that. -/
theorem readRecord_name {name other : List Char}
    (h : Asset.keyChars other = Asset.keyChars name) (record : Nat) (position : List Char)
    (numbers : List (List Char)) :
    (readRecord record (position :: other :: numbers)).map Entry.keyed =
      (readRecord record (position :: name :: numbers)).map Entry.keyed := by
  have hKey : Asset.key (String.ofList other) = Asset.key (String.ofList name) := by
    rw [Asset.key, Asset.key, String.toList_ofList, String.toList_ofList, h]
  simp only [readRecord]
  cases Numeral.readInt64 position with
  | error cause => rfl
  | ok found =>
    by_cases hOwn : found.toInt ≠ record
    · simp only [bind, Except.bind, if_pos hOwn]
      rfl
    · simp only [bind, Except.bind, if_neg hOwn]
      cases readFields record 0 numbers with
      | error fault => rfl
      | ok values =>
        simp only
        split
        · exact congrArg Except.ok (Entry.keyed_eq_iff.2 ⟨rfl, hKey, rfl⟩)
        · rfl

/-- A stream that is not at its end is read record by record. -/
theorem readRecords_of_ne_nil (record : Nat) (h : words ≠ []) :
    readRecords record words = (do
      let entry ← readRecord record (words.take recordLength)
      let entries ← readRecords (record + 1) (words.drop recordLength)
      return entry :: entries) := by
  rw [readRecords, dif_neg h]

theorem readRecords_respelled {record : Nat} (h : Respells words others) :
    (readRecords record others).map (List.map Entry.keyed) =
      (readRecords record words).map (List.map Entry.keyed) := by
  induction record, words using readRecords.induct generalizing others with
  | case1 record =>
    obtain rfl := List.length_eq_zero_iff.1 h.length
    rfl
  | case2 record words hWords ih =>
    have hOthers : others ≠ [] := by
      intro hNil
      rw [hNil] at h
      exact hWords (List.length_eq_zero_iff.1 h.length.symm)
    have hFirst : (readRecord record (others.take recordLength)).map Entry.keyed =
        (readRecord record (words.take recordLength)).map Entry.keyed := by
      obtain hSame | ⟨position, name, other, numbers, hWord, hOther, hName⟩ :=
        (h.take recordLength).record_cases (List.length_take_le _ _)
      · rw [hSame]
      · rw [hWord, hOther]
        exact readRecord_name hName record position numbers
    rw [readRecords_of_ne_nil record hOthers, readRecords_of_ne_nil record hWords]
    refine Outcome.map_bind_congr hFirst fun entry other _ _ hEntry => ?_
    refine Outcome.map_bind_congr (ih h.drop) fun entries rest _ _ hRest => ?_
    show Except.ok (entry.keyed :: entries.map Entry.keyed) =
      Except.ok (other.keyed :: rest.map Entry.keyed)
    rw [hEntry, hRest]

/-- **Spelling does not matter to a reader of scripts.** -/
theorem readBytes_respelled {bytes content : List UInt8}
    (h : Respells (Text.words (Text.Utf8.decodeLossy bytes))
      (Text.words (Text.Utf8.decodeLossy content))) :
    (readBytes content).map (List.map Entry.keyed) =
      (readBytes bytes).map (List.map Entry.keyed) :=
  readRecords_respelled h

end Respells

end Script

/-! ## The scripts that are named -/

/-- A text without a character ends a longer one when it ends what follows that character there. -/
theorem Text.suffix_of_not_mem {s : Char} {piece : List Char} (h : s ∉ piece)
    (front tail : List Char) : piece <:+ front ++ s :: tail ↔ piece <:+ tail := by
  induction front with
  | nil =>
    rw [List.nil_append, List.suffix_cons_iff]
    refine or_iff_right ?_
    rintro rfl
    exact h List.mem_cons_self
  | cons c front ih =>
    rw [List.cons_append, List.suffix_cons_iff, ih]
    refine or_iff_right ?_
    rintro rfl
    exact h (by simp)

/-- Names with one key have the same characters in it. -/
theorem Asset.keyChars_eq {name other : String} (h : key other = key name) :
    keyChars other.toList = keyChars name.toList := by
  have hChars := congrArg String.toList h
  rwa [key, key, String.toList_ofList, String.toList_ofList] at hChars

namespace Config

variable {config : Config}

/-- The key of a name without blanks decides whether it is that of a script, when the script suffix
names no folder. -/
theorem isScriptName_eq (hSuffix : ∀ c ∈ config.scriptSuffix.toList, Asset.isSeparator c = false)
    {name : String} (hName : ∀ c ∈ name.toList, Text.isBlank c = false) :
    config.isScriptName name =
      (Text.lowerAscii config.scriptSuffix.toList).isSuffixOf (Asset.keyChars name.toList) := by
  have hTrim : Text.trim name.toList = name.toList :=
    Text.trim_of_trimmed ⟨fun c hc => hName c (List.mem_of_mem_head? hc),
      fun c hc => hName c (List.mem_of_getLast? hc)⟩
  rw [isScriptName, Asset.keyChars, hTrim]
  obtain hWhole | ⟨front, s, hCut, hSep⟩ :=
    Text.getLastD_fields_cases Asset.isSeparator name.toList
  · rw [hWhole]
  · have hNot : s.toLower ∉ Text.lowerAscii config.scriptSuffix.toList := by
      intro hMem
      obtain ⟨c, hc, hLower⟩ := List.mem_map.1 hMem
      have hSame := hSuffix c hc
      rw [← Asset.isSeparator_toLower, hLower, Asset.isSeparator_toLower, hSep] at hSame
      cases hSame
    generalize (Text.fields Asset.isSeparator name.toList).getLastD [] = last at hCut ⊢
    have hLower : Text.lowerAscii (front ++ s :: last) =
        Text.lowerAscii front ++ s.toLower :: Text.lowerAscii last := List.map_append
    rw [hCut, hLower, Bool.eq_iff_iff, List.isSuffixOf_iff_suffix, List.isSuffixOf_iff_suffix]
    exact Text.suffix_of_not_mem hNot _ _

theorem isScriptName_congr
    (hSuffix : ∀ c ∈ config.scriptSuffix.toList, Asset.isSeparator c = false)
    {name other : String} (hName : ∀ c ∈ name.toList, Text.isBlank c = false)
    (hOther : ∀ c ∈ other.toList, Text.isBlank c = false)
    (h : Asset.key other = Asset.key name) :
    config.isScriptName other = config.isScriptName name := by
  rw [isScriptName_eq hSuffix hName, isScriptName_eq hSuffix hOther, Asset.keyChars_eq h]

/-- The gate is told by its key. -/
theorem isGate_congr {name other : String} (h : Asset.key other = Asset.key name) :
    config.isGate other = config.isGate name := by
  rw [isGate, isGate, Asset.keyChars_eq h]

end Config

namespace Script

/-- No name among the entries has a blank in it. -/
def HasPlainNames (entries : List Entry) : Prop :=
  ∀ entry ∈ entries, ∀ c ∈ entry.name.toList, Text.isBlank c = false

/-- Names are words. -/
theorem hasPlainNames_of_readBytes {bytes : List UInt8} {entries : List Entry}
    (h : readBytes bytes = .ok entries) : HasPlainNames entries :=
  fun _ hEntry => Text.isBlank_of_mem_words ((readRecords_ok h).2 _ hEntry)

/-- Scripts that differ in spelling only name the same scripts. -/
theorem references_congr {config : Config}
    (hSuffix : ∀ c ∈ config.scriptSuffix.toList, Asset.isSeparator c = false)
    {script other : Script} (hScript : HasPlainNames script.entries)
    (hOther : HasPlainNames other.entries)
    (h : other.entries.map Entry.keyed = script.entries.map Entry.keyed) :
    other.references config = script.references config := by
  obtain ⟨name, entries⟩ := script
  obtain ⟨otherName, others⟩ := other
  induction entries generalizing others with
  | nil =>
    obtain rfl : others = [] := List.map_eq_nil_iff.1 h
    rfl
  | cons entry entries ih =>
    obtain ⟨first, rest, rfl, hFirst, hRest⟩ := List.map_eq_cons_iff.1 h
    obtain ⟨-, hKey, -⟩ := Entry.keyed_eq_iff.1 hFirst
    have hTail := ih (fun e he => hScript e (List.mem_cons_of_mem _ he)) rest
      (fun e he => hOther e (List.mem_cons_of_mem _ he)) hRest
    have hNamed : config.isScriptName first.name = config.isScriptName entry.name :=
      Config.isScriptName_congr hSuffix (hScript entry List.mem_cons_self)
        (hOther first List.mem_cons_self) hKey
    have hGate : config.isGate first.name = config.isGate entry.name :=
      Config.isGate_congr hKey
    simp only [references] at hTail
    simp only [references, List.filter_cons, hNamed, hGate]
    split
    · rw [List.map_cons, List.map_cons, hTail, hKey]
    · exact hTail

end Script
end BranchingMovie
