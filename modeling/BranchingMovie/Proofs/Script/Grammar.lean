import Mathlib.Data.List.Forall2
import BranchingMovie.Proofs.Text.Spelling
import BranchingMovie.Script.Reader

/-!
# The grammar of scripts

A script is a stream of words, 26 to a record.  Each word is right or wrong by itself, given its
place in the stream: the first word of a record has to spell the number of the record (`IsRight`),
the second one is a name and never wrong, and the others have to spell numbers of 32 bits.

* A text is a script exactly when all its words are right and the last record is whole; its entries
  are what the words of the records spell (`IsRecord`).
* Otherwise the first wrong word decides the refusal (`IsWrong`), and if there is none, the record
  that breaks off.
* What is written for entries (`Entry.words`) is read as these entries, whatever the blanks between
  the words are.

`readText_grammar` says all of this.
-/

namespace BranchingMovie

/-- The words of an entry. -/
def Entry.words (entry : Entry) : List (List Char) :=
  (Numeral.writeNat entry.index).toList :: entry.name.toList ::
    entry.fields.toList.map fun value => (Numeral.writeInt value.toInt).toList

namespace Script

/-! ## Right and wrong words -/

/-- The column of the word at a place of the stream.  A name has none. -/
def columnAt (i : Nat) : Option Column :=
  match i % recordLength with
  | 0 => some .position
  | 1 => none
  | j + 2 => some (.field j)

/-- The word at the place `i` of the stream is right. -/
inductive IsRight (i : Nat) (word : List Char) : Prop
  | name (hColumn : columnAt i = none)
  | position (hColumn : columnAt i = some .position) {position : Int64}
    (hWord : Numeral.Spells word position.toInt)
    (hOwn : position.toInt = (i / recordLength : Nat))
  | field {j : Nat} (hColumn : columnAt i = some (.field j)) {value : Int32}
    (hWord : Numeral.Spells word value.toInt)

/-- What is wrong with the word at the place `i` of the stream. -/
inductive IsWrong (i : Nat) (word : List Char) : ScriptFault → Prop
  | notAPosition (hColumn : columnAt i = some .position)
    (hWord : ∀ position : Int64, ¬ Numeral.Spells word position.toInt) :
    IsWrong i word (.notANumber (i / recordLength) .position (String.ofList word))
  | otherPosition (hColumn : columnAt i = some .position) {position : Int64}
    (hWord : Numeral.Spells word position.toInt)
    (hOther : position.toInt ≠ (i / recordLength : Nat)) :
    IsWrong i word (.wrongPosition (i / recordLength) position.toInt)
  | notAField {j : Nat} (hColumn : columnAt i = some (.field j))
    (hWord : ∀ value : Int32, ¬ Numeral.Spells word value.toInt) :
    IsWrong i word (.notANumber (i / recordLength) (.field j) (String.ofList word))

/-- The fault of the word at the place `i` of the stream, if it has one. -/
def faultAt? (i : Nat) (word : List Char) : Option ScriptFault :=
  match columnAt i with
  | none => none
  | some .position =>
    match Numeral.readInt64 word with
    | .error _ => some (.notANumber (i / recordLength) .position (String.ofList word))
    | .ok position =>
      if position.toInt = (i / recordLength : Nat) then none
      else some (.wrongPosition (i / recordLength) position.toInt)
  | some (.field j) =>
    match Numeral.readInt32 word with
    | .error _ => some (.notANumber (i / recordLength) (.field j) (String.ofList word))
    | .ok _ => none

/-- A word has no fault and is right, or it has one and that is what is wrong with it. -/
theorem faultAt?_cases (i : Nat) (word : List Char) :
    faultAt? i word = none ∧ IsRight i word ∨
      ∃ fault, faultAt? i word = some fault ∧ IsWrong i word fault := by
  unfold faultAt?
  cases hColumn : columnAt i with
  | none => exact .inl ⟨rfl, .name hColumn⟩
  | some column =>
    cases column with
    | position =>
      cases hRead : Numeral.readInt64 word with
      | error fault =>
        exact .inr ⟨_, rfl, .notAPosition hColumn (Numeral.readInt64_error hRead)⟩
      | ok position =>
        have hWord := Numeral.readInt64_ok_iff.1 hRead
        by_cases hOwn : position.toInt = (i / recordLength : Nat)
        · exact .inl ⟨if_pos hOwn, .position hColumn hWord hOwn⟩
        · exact .inr ⟨_, if_neg hOwn, .otherPosition hColumn hWord hOwn⟩
    | field j =>
      cases hRead : Numeral.readInt32 word with
      | error fault =>
        exact .inr ⟨_, rfl, .notAField hColumn (Numeral.readInt32_error hRead)⟩
      | ok value => exact .inl ⟨rfl, .field hColumn (Numeral.readInt32_ok_iff.1 hRead)⟩

theorem faultAt?_eq_none_iff {i : Nat} {word : List Char} :
    faultAt? i word = none ↔ IsRight i word := by
  constructor
  · intro hNone
    obtain ⟨-, hRight⟩ | ⟨fault, hFault, -⟩ := faultAt?_cases i word
    · exact hRight
    · rw [hNone] at hFault
      cases hFault
  · intro hRight
    cases hRight with
    | name hColumn => rw [faultAt?, hColumn]
    | position hColumn hWord hOwn =>
      simp only [faultAt?, hColumn, Numeral.readInt64_ok_iff.2 hWord, if_pos hOwn]
    | field hColumn hWord => simp only [faultAt?, hColumn, Numeral.readInt32_ok_iff.2 hWord]

/-! ## The first wrong word -/

/-- The fault of the first wrong word, where the words stand in the stream from the place `i` on. -/
def firstFault? (i : Nat) : List (List Char) → Option ScriptFault
  | [] => none
  | word :: words => (faultAt? i word).or (firstFault? (i + 1) words)

theorem firstFault?_append (i : Nat) (words others : List (List Char)) :
    firstFault? i (words ++ others) =
      (firstFault? i words).or (firstFault? (i + words.length) others) := by
  induction words generalizing i with
  | nil => rfl
  | cons word words ih =>
    rw [List.cons_append, firstFault?, firstFault?, ih, Option.or_assoc, List.length_cons,
      Nat.add_assoc, Nat.add_comm 1]

/-- Where there is no fault, all words are right. -/
theorem firstFault?_eq_none_iff {i : Nat} {words : List (List Char)} :
    firstFault? i words = none ↔ ∀ j word, words[j]? = some word → IsRight (i + j) word := by
  induction words generalizing i with
  | nil => simp [firstFault?]
  | cons word words ih =>
    rw [firstFault?, Option.or_eq_none_iff, faultAt?_eq_none_iff, ih]
    constructor
    · rintro ⟨hWord, hWords⟩ j other hOther
      cases j with
      | zero =>
        cases hOther
        exact hWord
      | succ j =>
        rw [Nat.add_comm j, ← Nat.add_assoc]
        exact hWords j other hOther
    · intro h
      refine ⟨h 0 word rfl, fun j other hOther => ?_⟩
      rw [Nat.add_assoc, Nat.add_comm 1]
      exact h (j + 1) other hOther

/-- The first word that is not right has the fault. -/
theorem firstFault?_of_first {i j : Nat} {words : List (List Char)} {word : List Char}
    {fault : ScriptFault} (hWord : words[j]? = some word)
    (hFault : faultAt? (i + j) word = some fault)
    (hFirst : ∀ k other, k < j → words[k]? = some other → IsRight (i + k) other) :
    firstFault? i words = some fault := by
  obtain ⟨hLess, rfl⟩ := List.getElem?_eq_some_iff.1 hWord
  rw [← List.take_append_drop j words, firstFault?_append, firstFault?_eq_none_iff.2,
    List.drop_eq_getElem_cons hLess, firstFault?, List.length_take_of_le (Nat.le_of_lt hLess),
    hFault]
  · rfl
  · intro k other hOther
    rw [List.getElem?_take] at hOther
    split at hOther
    · exact hFirst k other ‹_› hOther
    · cases hOther

/-! ## Records -/

/-- The words from a place on begin with the record of an entry. -/
structure IsRecord (record : Nat) (words : List (List Char)) (entry : Entry) : Prop where
  index : entry.index = record
  position : ∃ word, words[0]? = some word ∧ Numeral.Spells word record
  name : words[1]? = some entry.name.toList
  fields : ∀ (i : Nat) (h : i < fieldCount),
    ∃ word, words[i + 2]? = some word ∧ Numeral.Spells word entry.fields[i].toInt

theorem recordLength_pos : 0 < recordLength := by decide

theorem columnAt_position (record : Nat) : columnAt (recordLength * record) = some .position := by
  rw [columnAt, Nat.mul_mod_right]

theorem columnAt_name (record : Nat) : columnAt (recordLength * record + 1) = none := by
  rw [columnAt, Nat.mul_add_mod]
  rfl

theorem columnAt_field (record : Nat) {i : Nat} (h : i < fieldCount) :
    columnAt (recordLength * record + (i + 2)) = some (.field i) := by
  have hLess : i + 2 < recordLength := Nat.add_lt_add_right h 2
  rw [columnAt, Nat.mul_add_mod, Nat.mod_eq_of_lt hLess]

theorem div_recordLength (record : Nat) {i : Nat} (h : i < recordLength) :
    (recordLength * record + i) / recordLength = record := by
  rw [Nat.mul_add_div recordLength_pos, Nat.div_eq_of_lt h, Nat.add_zero]

/-- The numbers of a record are read, or the first wrong one decides the refusal. -/
theorem readFields_cases (record : Nat) {i : Nat} {words : List (List Char)}
    (h : i + words.length ≤ fieldCount) :
    (∃ values, readFields record i words = .ok values ∧
      firstFault? (recordLength * record + (i + 2)) words = none ∧
      List.Forall₂ (fun word value => Numeral.Spells word value.toInt) words values) ∨
    ∃ fault, readFields record i words = .error fault ∧
      firstFault? (recordLength * record + (i + 2)) words = some fault := by
  induction words generalizing i with
  | nil => exact .inl ⟨[], rfl, rfl, .nil⟩
  | cons word words ih =>
    rw [List.length_cons] at h
    have hColumn := columnAt_field record (i := i) (by omega)
    have hRecord := div_recordLength record (i := i + 2) (by simp only [recordLength]; omega)
    rw [readFields, firstFault?, faultAt?, hColumn]
    cases hRead : Numeral.readInt32 word with
    | error cause =>
      refine .inr ⟨_, rfl, ?_⟩
      rw [hRecord]
      rfl
    | ok value =>
      have hRoom : i + 1 + words.length ≤ fieldCount := by omega
      obtain ⟨values, hValues, hNone, hSpells⟩ | ⟨fault, hFault, hSome⟩ := ih hRoom
      · refine .inl ⟨value :: values, ?_, hNone, .cons (Numeral.readInt32_ok_iff.1 hRead) hSpells⟩
        simp only [hValues]
        rfl
      · refine .inr ⟨fault, ?_, hSome⟩
        simp only [hFault]
        rfl

/-- Numbers that are spelled behind a name make a record. -/
theorem isRecord_of_spells {record : Nat} {position name : List Char} {numbers : List (List Char)}
    {values : List Int32} (hPosition : Numeral.Spells position record)
    (h : List.Forall₂ (fun word value => Numeral.Spells word value.toInt) numbers values)
    (hSize : values.toArray.size = fieldCount) :
    IsRecord record (position :: name :: numbers)
      ⟨record, String.ofList name, ⟨values.toArray, hSize⟩⟩ where
  index := rfl
  position := ⟨position, rfl, hPosition⟩
  name := by
    rw [String.toList_ofList]
    rfl
  fields i hi := by
    have hValue : i < values.length := by
      rw [← List.size_toArray, hSize]
      exact hi
    have hWord : i < numbers.length := by
      rw [h.length_eq]
      exact hValue
    exact ⟨numbers[i], List.getElem?_eq_getElem hWord, h.get hWord hValue⟩

/-- The words of one record are read, or the first wrong one decides the refusal, or there are too
few of them. -/
theorem readRecord_cases (record : Nat) {words : List (List Char)} (hNonempty : words ≠ [])
    (hRoom : words.length ≤ recordLength) :
    (∃ entry, readRecord record words = .ok entry ∧ words.length = recordLength ∧
      firstFault? (recordLength * record) words = none ∧ IsRecord record words entry) ∨
    (∃ fault, readRecord record words = .error fault ∧
      firstFault? (recordLength * record) words = some fault) ∨
    (readRecord record words = .error (.truncated record words.length) ∧
      words.length < recordLength ∧ firstFault? (recordLength * record) words = none) := by
  obtain ⟨position, words, rfl⟩ := List.exists_cons_of_ne_nil hNonempty
  have hOwn := div_recordLength record (i := 0) recordLength_pos
  rw [Nat.add_zero] at hOwn
  simp only [readRecord, bind, Except.bind, throw, throwThe, MonadExceptOf.throw, firstFault?,
    faultAt?, columnAt_position, hOwn]
  cases hRead : Numeral.readInt64 position with
  | error cause => exact .inr (.inl ⟨_, rfl, rfl⟩)
  | ok number =>
    by_cases hNumber : number.toInt = record
    · have hPosition := Numeral.readInt64_ok_iff.1 hRead
      rw [hNumber] at hPosition
      have hKept : ¬ number.toInt ≠ record := not_not_intro hNumber
      simp only [if_neg hKept, if_pos hNumber, Option.none_or]
      cases words with
      | nil => exact .inr (.inr ⟨rfl, Nat.succ_lt_succ (Nat.zero_lt_succ _), rfl⟩)
      | cons name numbers =>
        have hFew : 0 + numbers.length ≤ fieldCount := by
          simp only [List.length_cons, recordLength] at hRoom
          omega
        simp only [firstFault?, faultAt?, columnAt_name, Option.none_or, List.length_cons]
        obtain ⟨values, hValues, hNone, hSpells⟩ | ⟨fault, hFault, hSome⟩ :=
          readFields_cases record hFew
        · have hLength := hSpells.length_eq
          simp only [hValues]
          by_cases hSize : values.toArray.size = fieldCount
          · refine .inl ⟨_, dif_pos hSize, ?_, hNone, isRecord_of_spells hPosition hSpells hSize⟩
            rw [hLength, ← List.size_toArray, hSize, recordLength]
          · refine .inr (.inr ⟨?_, ?_, hNone⟩)
            · rw [dif_neg hSize, ← hLength]
            · rw [List.size_toArray, ← hLength] at hSize
              rw [recordLength]
              omega
        · rw [hFault]
          exact .inr (.inl ⟨fault, rfl, hSome⟩)
    · simp only [ne_eq, hNumber, not_false_eq_true, if_true, if_false]
      exact .inr (.inl ⟨_, rfl, rfl⟩)

/-! ## Streams of records -/

/-- What follows a record does not matter to it. -/
theorem IsRecord.append {record : Nat} {words : List (List Char)} {entry : Entry}
    (h : IsRecord record words entry) (others : List (List Char)) :
    IsRecord record (words ++ others) entry := by
  have hStays : ∀ {i : Nat} {word : List Char}, words[i]? = some word →
      (words ++ others)[i]? = some word := by
    intro i word hWord
    rw [List.getElem?_append_left (List.getElem?_eq_some_iff.1 hWord).1]
    exact hWord
  obtain ⟨position, hPosition, hOwn⟩ := h.position
  refine ⟨h.index, ⟨position, hStays hPosition, hOwn⟩, hStays h.name, fun i hi => ?_⟩
  obtain ⟨word, hWord, hSpells⟩ := h.fields i hi
  exact ⟨word, hStays hWord, hSpells⟩

/-- Everything that reading records can come to: all words are right and make whole records; or the
first wrong word decides; or there is none, and the last record breaks off. -/
theorem readRecords_cases (record : Nat) (words : List (List Char)) :
    (∃ entries, readRecords record words = .ok entries ∧
      firstFault? (recordLength * record) words = none ∧
      words.length = recordLength * entries.length ∧
      ∀ k entry, entries[k]? = some entry →
        IsRecord (record + k) (words.drop (recordLength * k)) entry) ∨
    (∃ fault, readRecords record words = .error fault ∧
      firstFault? (recordLength * record) words = some fault) ∨
    (readRecords record words = .error (.truncated (record + words.length / recordLength)
        (words.length % recordLength)) ∧
      firstFault? (recordLength * record) words = none ∧ ¬ recordLength ∣ words.length) := by
  induction record, words using readRecords.induct with
  | case1 record =>
    refine .inl ⟨[], ?_, rfl, rfl, fun k entry h => ?_⟩
    · rw [readRecords, dif_pos rfl]
    · cases h
  | case2 record words hWords ih =>
    have hSplit := firstFault?_append (recordLength * record) (words.take recordLength)
      (words.drop recordLength)
    rw [List.take_append_drop] at hSplit
    have hChunk : words.take recordLength ≠ [] := by
      rw [Ne, List.take_eq_nil_iff, not_or]
      exact ⟨Nat.ne_of_gt recordLength_pos, hWords⟩
    have hTake : (words.take recordLength).length = min recordLength words.length :=
      List.length_take
    rw [readRecords, dif_neg hWords]
    obtain ⟨entry, hRead, hWhole, hNone, hRecord⟩ | ⟨fault, hRead, hSome⟩ |
      ⟨hRead, hShort, hNone⟩ :=
      readRecord_cases record hChunk (List.length_take_le _ _)
    · have hLength : words.length = (words.drop recordLength).length + recordLength := by
        rw [List.length_drop]
        omega
      rw [hNone, hWhole, Option.none_or, ← Nat.mul_succ] at hSplit
      rw [hRead, hSplit, hLength]
      obtain ⟨entries, hEntries, hRest, hCount, hRecords⟩ | ⟨fault, hFails, hRest⟩ |
        ⟨hFails, hRest, hBroken⟩ := ih
      · refine .inl ⟨entry :: entries, ?_, hRest, ?_, fun k other hOther => ?_⟩
        · simp only [hEntries]
          rfl
        · rw [hCount, List.length_cons, Nat.mul_succ]
        · cases k with
          | zero =>
            cases hOther
            have hFirst := hRecord.append (words.drop recordLength)
            rwa [List.take_append_drop] at hFirst
          | succ k =>
            have hLater := hRecords k other hOther
            rwa [List.drop_drop, Nat.add_comm recordLength, ← Nat.mul_succ, Nat.add_assoc,
              Nat.add_comm 1] at hLater
      · refine .inr (.inl ⟨fault, ?_, hRest⟩)
        simp only [hFails]
        rfl
      · refine .inr (.inr ⟨?_, hRest, ?_⟩)
        · rw [Nat.add_div_right _ recordLength_pos, Nat.add_mod_right,
            Nat.add_comm (_ / recordLength), ← Nat.add_assoc]
          simp only [hFails]
          rfl
        · rwa [Nat.dvd_add_self_right]
    · rw [hRead, hSplit, hSome]
      exact .inr (.inl ⟨fault, rfl, rfl⟩)
    · have hAll : words.length < recordLength := by omega
      rw [List.take_of_length_le (Nat.le_of_lt hAll)] at hRead hNone
      rw [List.take_of_length_le (Nat.le_of_lt hAll), hRead, hNone, Nat.div_eq_of_lt hAll,
        Nat.mod_eq_of_lt hAll]
      refine .inr (.inr ⟨rfl, rfl, fun hWhole => ?_⟩)
      exact Nat.not_dvd_of_pos_of_lt (List.length_pos_iff.2 hWords) hAll hWhole

/-! ## Written entries -/

theorem readFields_of_spells {record i : Nat} {words : List (List Char)} {values : List Int32}
    (h : List.Forall₂ (fun word value => Numeral.Spells word value.toInt) words values) :
    readFields record i words = .ok values := by
  induction h generalizing i with
  | nil => rfl
  | cons hWord _ ih =>
    rw [readFields, Numeral.readInt32_ok_iff.2 hWord, ih]
    rfl

theorem length_words (entry : Entry) : entry.words.length = recordLength := by
  rw [Entry.words, List.length_cons, List.length_cons, List.length_map, Vector.length_toList,
    recordLength]

/-- The words of an entry are read as this entry. -/
theorem readRecord_words {record : Nat} {entry : Entry} (hIndex : entry.index = record)
    (hFits : (record : Int) ≤ Int64.maxValue.toInt) :
    readRecord record entry.words = .ok entry := by
  subst hIndex
  have hNumber : (Int64.ofInt entry.index).toInt = entry.index :=
    Int64.toInt_ofInt_of_le (by omega) (Int.lt_of_le_sub_one hFits)
  have hPosition : Numeral.readInt64 (Numeral.writeNat entry.index).toList =
      .ok (Int64.ofInt entry.index) := by
    rw [Numeral.readInt64_ok_iff, hNumber]
    exact Numeral.spells_writeNat entry.index
  have hFields : readFields entry.index 0
      (entry.fields.toList.map fun value => (Numeral.writeInt value.toInt).toList) =
      .ok entry.fields.toList := by
    refine readFields_of_spells ?_
    rw [List.forall₂_map_left_iff, List.forall₂_same]
    exact fun value _ => Numeral.spells_writeInt value.toInt
  have hOwn : ¬ (entry.index : Int) ≠ entry.index := not_not_intro rfl
  have hSize : entry.fields.toList.toArray.size = fieldCount := by
    rw [List.size_toArray, Vector.length_toList]
  simp only [readRecord, Entry.words, bind, Except.bind, throw, throwThe, MonadExceptOf.throw,
    hPosition, hFields, hNumber, if_neg hOwn, dif_pos hSize, String.ofList_toList]
  rfl

/-- The words of entries are read as these entries. -/
theorem readRecords_words {record : Nat} {entries : List Entry}
    (hIndex : ∀ k entry, entries[k]? = some entry → entry.index = record + k)
    (hFits : (record + entries.length : Int) ≤ Int64.maxValue.toInt) :
    readRecords record (entries.flatMap Entry.words) = .ok entries := by
  induction entries generalizing record with
  | nil => rw [List.flatMap_nil, readRecords, dif_pos rfl]
  | cons entry entries ih =>
    have hRecord : readRecord record entry.words = .ok entry :=
      readRecord_words (hIndex 0 entry rfl) (by omega)
    have hRest : readRecords (record + 1) (entries.flatMap Entry.words) = .ok entries := by
      refine ih (fun k other hOther => ?_) ?_
      · rw [hIndex (k + 1) other hOther, Nat.add_assoc, Nat.add_comm 1]
      · rw [List.length_cons] at hFits
        omega
    rw [List.flatMap_cons, readRecords, dif_neg (by simp [Entry.words]),
      List.take_left' (length_words entry), List.drop_left' (length_words entry), hRecord, hRest]
    rfl

/-! ## Texts -/

section Texts

variable {text : List Char}

/-- The same for a text, whose records are numbered from zero. -/
theorem readText_cases (text : List Char) :
    (∃ entries, readText text = .ok entries ∧ firstFault? 0 (Text.words text) = none ∧
      (Text.words text).length = recordLength * entries.length ∧
      ∀ k entry, entries[k]? = some entry →
        IsRecord k ((Text.words text).drop (recordLength * k)) entry) ∨
    (∃ fault, readText text = .error fault ∧ firstFault? 0 (Text.words text) = some fault) ∨
    (readText text = .error (.truncated ((Text.words text).length / recordLength)
        ((Text.words text).length % recordLength)) ∧
      firstFault? 0 (Text.words text) = none ∧ ¬ recordLength ∣ (Text.words text).length) := by
  have h := readRecords_cases 0 (Text.words text)
  simp only [Nat.mul_zero, Nat.zero_add] at h
  exact h

theorem readText_ok {entries : List Entry} (h : readText text = .ok entries) :
    firstFault? 0 (Text.words text) = none ∧
      (Text.words text).length = recordLength * entries.length ∧
      ∀ k entry, entries[k]? = some entry →
        IsRecord k ((Text.words text).drop (recordLength * k)) entry := by
  obtain ⟨others, hOthers, hRest⟩ | ⟨fault, hFails, -⟩ | ⟨hFails, -⟩ := readText_cases text
  · obtain rfl := Except.ok.inj (h.symm.trans hOthers)
    exact hRest
  · rw [hFails] at h
    cases h
  · rw [hFails] at h
    cases h

theorem readText_of_whole (hNone : firstFault? 0 (Text.words text) = none)
    (hWhole : recordLength ∣ (Text.words text).length) :
    ∃ entries, readText text = .ok entries := by
  obtain ⟨entries, hEntries, -⟩ | ⟨fault, -, hSome⟩ | ⟨-, -, hBroken⟩ := readText_cases text
  · exact ⟨entries, hEntries⟩
  · rw [hNone] at hSome
    cases hSome
  · exact absurd hWhole hBroken

theorem readText_of_fault {fault : ScriptFault}
    (h : firstFault? 0 (Text.words text) = some fault) : readText text = .error fault := by
  obtain ⟨entries, -, hNone, -⟩ | ⟨other, hFails, hSome⟩ | ⟨-, hNone, -⟩ := readText_cases text
  · rw [hNone] at h
    cases h
  · obtain rfl := Option.some.inj (h.symm.trans hSome)
    exact hFails
  · rw [hNone] at h
    cases h

theorem readText_of_broken (hNone : firstFault? 0 (Text.words text) = none)
    (hBroken : ¬ recordLength ∣ (Text.words text).length) :
    readText text = .error (.truncated ((Text.words text).length / recordLength)
      ((Text.words text).length % recordLength)) := by
  obtain ⟨entries, -, -, hLength, -⟩ | ⟨fault, -, hSome⟩ | ⟨hFails, -⟩ := readText_cases text
  · exact absurd ⟨entries.length, hLength⟩ hBroken
  · rw [hNone] at hSome
    cases hSome
  · exact hFails

end Texts

/-- **Scripts are read by their grammar.**  A text is made of its words.  It is a script exactly
when the number of its words is a multiple of 26 and all of them are right; then it has an entry for
each record, and the words of the record spell the entry.  Otherwise the first word that is not
right decides the refusal; and if all words are right, the record that breaks off does, with the
number of words that are there.  A text that is made of the words of entries, each with its own
position, is read as these entries, whatever the blanks between the words are, as long as the
positions fit in 64 bits. -/
theorem readText_grammar (text : List Char) :
    let words := Text.words text
    Text.Spaced words text ∧
    ((∃ entries, readText text = .ok entries) ↔
      recordLength ∣ words.length ∧ ∀ i word, words[i]? = some word → IsRight i word) ∧
    (∀ entries, readText text = .ok entries →
      words.length = recordLength * entries.length ∧
      ∀ k entry, entries[k]? = some entry → IsRecord k (words.drop (recordLength * k)) entry) ∧
    (∀ i word, words[i]? = some word → ¬ IsRight i word →
      (∀ j other, j < i → words[j]? = some other → IsRight j other) →
      ∃ fault, IsWrong i word fault ∧ readText text = .error fault) ∧
    ((∀ i word, words[i]? = some word → IsRight i word) → ¬ recordLength ∣ words.length →
      readText text =
        .error (.truncated (words.length / recordLength) (words.length % recordLength))) ∧
    ∀ entries : List Entry, (entries.length : Int) ≤ Int64.maxValue.toInt →
      (∀ (k : Nat) (entry : Entry), entries[k]? = some entry → entry.index = k) →
      Text.Spaced (entries.flatMap Entry.words) text → readText text = .ok entries := by
  intro words
  have hRight : firstFault? 0 words = none ↔ ∀ i word, words[i]? = some word → IsRight i word := by
    rw [firstFault?_eq_none_iff]
    simp only [Nat.zero_add]
  refine ⟨Text.spaced_words text, ⟨?_, ?_⟩, ?_, ?_, ?_, ?_⟩
  · rintro ⟨entries, hEntries⟩
    obtain ⟨hNone, hLength, -⟩ := readText_ok hEntries
    exact ⟨⟨entries.length, hLength⟩, hRight.1 hNone⟩
  · rintro ⟨hWhole, hAll⟩
    exact readText_of_whole (hRight.2 hAll) hWhole
  · intro entries hEntries
    exact (readText_ok hEntries).2
  · intro i word hWord hNot hFirst
    obtain ⟨-, hOwn⟩ | ⟨fault, hFault, hWrong⟩ := faultAt?_cases i word
    · exact absurd hOwn hNot
    · refine ⟨fault, hWrong, readText_of_fault (firstFault?_of_first hWord ?_ ?_)⟩
      · rwa [Nat.zero_add]
      · intro j other hLess hOther
        rw [Nat.zero_add]
        exact hFirst j other hLess hOther
  · intro hAll hBroken
    exact readText_of_broken (hRight.2 hAll) hBroken
  · intro entries hFits hEntries hWritten
    have hWords : words = entries.flatMap Entry.words := Text.words_eq_iff.2 hWritten
    show readRecords 0 words = .ok entries
    rw [hWords]
    refine readRecords_words (fun k entry hEntry => ?_) ?_
    · rw [Nat.zero_add]
      exact hEntries k entry hEntry
    · rwa [Int.natCast_zero, Int.zero_add]

/-- Two records with odd blanks between the words, a stream with a wrong word, and one that breaks
off. -/
theorem readText_grammar_of_streams :
    let zeros : Vector Int32 fieldCount := Vector.replicate fieldCount 0
    let entries : List Entry := [⟨0, "a.mov", zeros.set 0 1⟩, ⟨1, "b.nod", zeros.set 23 (-4)⟩]
    let written := " 0 a.mov\n1 0 0 0 0 0 0 0 0 0 0 0 0 0 0 0 0 0 0 0 0 0 0 0\t\r\n".toList ++
      "1\nb.nod 0 0 0 0 0 0 0 0 0 0 0 0 0 0 0 0 0 0 0 0 0 0 0 -4".toList
    let wrong := "+00 a.mov 1 2147483648 x".toList
    let broken := "-0 a.mov 1 2147483647".toList
    (Text.Spaced (entries.flatMap Entry.words) written ∧ readText written = .ok entries) ∧
    (∃ fault, IsWrong 3 "2147483648".toList fault ∧ readText wrong = .error fault) ∧
    readText broken = .error (.truncated 0 4) := by
  intro zeros entries written wrong broken
  have hSpaced : Text.Spaced (entries.flatMap Entry.words) written :=
    Text.words_eq_iff.1 (by decide +kernel)
  have hIndex : ∀ (k : Nat) (entry : Entry), entries[k]? = some entry → entry.index = k := by
    intro k entry hEntry
    match k with
    | 0 => cases hEntry; rfl
    | 1 => cases hEntry; rfl
  have hRight : ∀ words, firstFault? 0 words = none →
      ∀ i word, words[i]? = some word → IsRight i word := by
    intro words hNone i word hWord
    have h := firstFault?_eq_none_iff.1 hNone i word hWord
    rwa [Nat.zero_add] at h
  refine ⟨⟨hSpaced, ?_⟩, ?_, ?_⟩
  · exact (readText_grammar written).2.2.2.2.2 entries (by decide +kernel) hIndex hSpaced
  · have hWord : (Text.words wrong)[3]? = some "2147483648".toList := by decide +kernel
    refine (readText_grammar wrong).2.2.2.1 3 _ hWord ?_ fun j other hLess hOther => ?_
    · rw [← faultAt?_eq_none_iff]
      decide +kernel
    · refine hRight ((Text.words wrong).take 3) (by decide +kernel) j other ?_
      rwa [List.getElem?_take_of_lt hLess]
  · have hBroken := (readText_grammar broken).2.2.2.2.1 (hRight _ (by decide +kernel))
      (by decide +kernel)
    rwa [show (Text.words broken).length = 4 by decide +kernel] at hBroken

end Script
end BranchingMovie
