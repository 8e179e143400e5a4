import BranchingMovie.HotZone.Reader
import BranchingMovie.Proofs.Script.Grammar
import BranchingMovie.Proofs.Text.Decoding

/-!
# Names that are no text

The names of a script may be any bytes.  Its file is written with other names (`renamed`): each name
gives way to its bytes, and all else stays as it is.

* The words of such a file are the words of the script with each name decoded by itself
  (`words_renamed`), because no bytes of a name swallow the blank that ends it, and those of a blank
  go on with nothing in front of them.
* Records with other names are the same records with other names (`readRecords_withNames`).
-/

namespace BranchingMovie

/-- The entry under another name. -/
def Entry.withName (entry : Entry) (name : List Char) : Entry :=
  { entry with name := String.ofList name }

namespace Script

open Text.Utf8 (encode decodeLossy)

/-! ## Other names -/

section Places

variable {α β : Type}

/-- What stands at the place `i` of a stream that has other names: the next of them where the word
is a name, and else the word. -/
def writtenAt (i : Nat) (names : List α) (word : α) : α :=
  if columnAt i = none then names.headD word else word

/-- The names that are left behind the place `i`. -/
def namesAfter (i : Nat) (names : List α) : List α :=
  if columnAt i = none then names.tail else names

theorem writtenAt_map (f : α → β) (i : Nat) (names : List α) (word : α) :
    writtenAt i (names.map f) (f word) = f (writtenAt i names word) := by
  unfold writtenAt
  split
  · cases names <;> rfl
  · rfl

theorem namesAfter_map (f : α → β) (i : Nat) (names : List α) :
    namesAfter i (names.map f) = (namesAfter i names).map f := by
  unfold namesAfter
  split
  · rw [List.map_tail]
  · rfl

theorem mem_namesAfter {i : Nat} {names : List α} {name : α} (h : name ∈ namesAfter i names) :
    name ∈ names := by
  unfold namesAfter at h
  split at h
  · exact List.mem_of_mem_tail h
  · exact h

theorem writtenAt_eq_or_mem (i : Nat) (names : List α) (word : α) :
    writtenAt i names word = word ∨ writtenAt i names word ∈ names := by
  unfold writtenAt
  split
  · cases names with
    | nil => exact .inl rfl
    | cons name names => exact .inr List.mem_cons_self
  · exact .inl rfl

end Places

/-- The words of a stream with other names, from the place `i` on. -/
def withNames (i : Nat) (names : List (List Char)) : List (List Char) → List (List Char)
  | [] => []
  | word :: words => writtenAt i names word :: withNames (i + 1) (namesAfter i names) words

/-- The bytes of a stream with other names, which are bytes, from the place `i` on. -/
def renamed (i : Nat) (names : List (List UInt8)) : List Char → List UInt8
  | [] => []
  | c :: text =>
    if Text.isBlank c then encode [c] ++ renamed i names text
    else
      writtenAt i names (encode (c :: text.takeWhile (!Text.isBlank ·))) ++
        renamed (i + 1) (namesAfter i names) (text.dropWhile (!Text.isBlank ·))
termination_by text => text.length
decreasing_by
  · exact Nat.lt_succ_self _
  · exact Nat.lt_succ_of_le (List.dropWhile_suffix _).length_le

/-! ## The words of the bytes -/

section Words

variable {i : Nat} {names : List (List UInt8)}

-- The equation that covers all patterns is used here and below: to derive one for each pattern, the
-- test for blanks would be computed on a variable.
theorem renamed_nil : renamed i names [] = [] := by
  rw [renamed.eq_def]

theorem renamed_blank {c : Char} (hc : Text.isBlank c = true) (text : List Char) :
    renamed i names (c :: text) = encode [c] ++ renamed i names text := by
  rw [renamed.eq_def]
  exact if_pos hc

theorem renamed_word {word text : List Char} (hWord : Text.IsWord word)
    (hEnd : ∀ c ∈ text.head?, Text.isBlank c = true) :
    renamed i names (word ++ text) =
      writtenAt i names (encode word) ++ renamed (i + 1) (namesAfter i names) text := by
  obtain ⟨c, tail, rfl⟩ := List.exists_cons_of_ne_nil hWord.ne_nil
  have hKept : ∀ d ∈ tail, (!Text.isBlank d) = true := by
    intro d hd
    simp [hWord.isBlank d (List.mem_cons_of_mem c hd)]
  have hEnds : text.takeWhile (!Text.isBlank ·) = [] ∧ text.dropWhile (!Text.isBlank ·) = text := by
    cases text with
    | nil => exact ⟨rfl, rfl⟩
    | cons d text => simp [hEnd d rfl]
  rw [List.cons_append, renamed.eq_def]
  simp only [hWord.isBlank c List.mem_cons_self]
  rw [if_neg Bool.false_ne_true, List.takeWhile_append_of_pos hKept,
    List.dropWhile_append_of_pos hKept, hEnds.1, hEnds.2, List.append_nil]

example : renamed 0 [[0xE2, 0x82]] ['0', ' ', 'a', '\n', '1'] =
    [0x30, 0x20, 0xE2, 0x82, 0x0A, 0x31] := by decide +kernel

/-- Without other names a stream keeps its bytes. -/
theorem renamed_no_names {words : List (List Char)} {text : List Char}
    (hText : Text.Spaced words text) : renamed i [] text = encode text := by
  induction hText generalizing i with
  | nil => simp [renamed_nil, encode]
  | blank hc _ ih => simp [renamed_blank hc, ih, encode]
  | word hWord hEnd _ ih => simp [renamed_word hWord hEnd, writtenAt, namesAfter, ih, encode]

/-- Where a stream goes on with a blank, what stands in front of it is decoded by itself. -/
theorem decodeLossy_append_renamed (i : Nat) (names : List (List UInt8)) (front : List UInt8)
    {text : List Char} (hEnd : ∀ c ∈ text.head?, Text.isBlank c = true) :
    decodeLossy (front ++ renamed i names text) =
        decodeLossy front ++ decodeLossy (renamed i names text) ∧
      ∀ c ∈ (decodeLossy (renamed i names text)).head?, Text.isBlank c = true := by
  cases text with
  | nil => simp [renamed_nil]
  | cons c text =>
    have hc : Text.isBlank c = true := hEnd c rfl
    rw [renamed_blank hc, Text.Utf8.decodeLossy_append_encode,
      Text.Utf8.decodeLossy_encode_append]
    refine ⟨rfl, fun d hd => ?_⟩
    cases hd
    exact hc

/-- The words of the bytes are the words of the stream, with each name decoded by itself. -/
theorem words_renamed {words : List (List Char)} {text : List Char}
    (hText : Text.Spaced words text) (hNames : ∀ name ∈ names, Text.IsWord (decodeLossy name)) :
    Text.words (decodeLossy (renamed i names text)) =
      withNames i (names.map decodeLossy) words := by
  induction hText generalizing i names with
  | nil => simp [renamed_nil, withNames, Text.words_eq_iff, Text.Spaced.nil]
  | blank hc _ ih =>
    rw [renamed_blank hc, Text.Utf8.decodeLossy_encode_append, List.singleton_append,
      Text.words_blank hc, ih hNames]
  | @word word words text hWord hEnd _ ih =>
    have hWritten : decodeLossy (writtenAt i names (encode word)) =
        writtenAt i (names.map decodeLossy) word := by
      rw [← writtenAt_map decodeLossy, Text.Utf8.decodeLossy_encode]
    have hIsWord : Text.IsWord (decodeLossy (writtenAt i names (encode word))) := by
      obtain hOwn | hName := writtenAt_eq_or_mem i names (encode word)
      · rw [hOwn, Text.Utf8.decodeLossy_encode]
        exact hWord
      · exact hNames _ hName
    obtain ⟨hApart, hBlank⟩ := decodeLossy_append_renamed (i + 1) (namesAfter i names)
      (writtenAt i names (encode word)) hEnd
    rw [renamed_word hWord hEnd, hApart, Text.words_word hIsWord hBlank, hWritten,
      ih fun name hName => hNames name (mem_namesAfter hName), ← namesAfter_map, withNames]

end Words

/-! ## Records with other names -/

theorem withNames_numbers (record j : Nat) {numbers : List (List Char)}
    (hNumbers : j + numbers.length = fieldCount) (names words : List (List Char)) :
    withNames (recordLength * record + (j + 2)) names (numbers ++ words) =
      numbers ++ withNames (recordLength * (record + 1)) names words := by
  induction numbers generalizing j with
  | nil =>
    have hNext : recordLength * record + (j + 2) = recordLength * (record + 1) := by
      rw [List.length_nil, Nat.add_zero] at hNumbers
      rw [hNumbers, Nat.mul_succ, recordLength]
    rw [List.nil_append, List.nil_append, hNext]
  | cons number numbers ih =>
    rw [List.length_cons] at hNumbers
    have hColumn := columnAt_field record (i := j) (by omega)
    have hRest := ih (j + 1) (by omega)
    rw [List.cons_append, withNames, writtenAt, namesAfter, hColumn, if_neg (by simp),
      if_neg (by simp), List.cons_append, ← hRest]
    rfl

/-- The words of a record give away one name. -/
theorem withNames_record (record : Nat) {numbers : List (List Char)}
    (hNumbers : numbers.length = fieldCount) (position old name : List Char)
    (names words : List (List Char)) :
    withNames (recordLength * record) (name :: names) (position :: old :: numbers ++ words) =
      position :: name :: numbers ++ withNames (recordLength * (record + 1)) names words := by
  have hRest := withNames_numbers record 0 (by rw [hNumbers, Nat.zero_add]) names words
  simp only [List.cons_append, withNames, writtenAt, namesAfter, columnAt_position, columnAt_name]
  simp [hRest]

/-- The name of a record is never wrong, and taken as it is. -/
theorem readRecord_withName (record : Nat) (position old name : List Char)
    (numbers : List (List Char)) :
    readRecord record (position :: name :: numbers) =
      (readRecord record (position :: old :: numbers)).map (·.withName name) := by
  simp only [readRecord]
  cases Numeral.readInt64 position with
  | error cause => rfl
  | ok found =>
    by_cases hOwn : found.toInt ≠ record
    · simp only [bind, Except.bind, if_pos hOwn]
      rfl
    · simp only [bind, Except.bind, if_neg hOwn]
      cases readFields record 0 numbers with
      | error fault => rfl
      | ok values =>
        simp only
        split <;> rfl

/-- The words of a record that is read. -/
theorem exists_words_of_readRecord {record : Nat} {words : List (List Char)} {entry : Entry}
    (h : readRecord record words = .ok entry) (hNonempty : words ≠ [])
    (hRoom : words.length ≤ recordLength) :
    ∃ position name numbers, words = position :: name :: numbers ∧
      numbers.length = fieldCount := by
  obtain ⟨-, -, hLength, -⟩ | ⟨fault, hFails, -⟩ | ⟨hFails, -⟩ :=
    readRecord_cases record hNonempty hRoom
  · match words with
    | position :: name :: numbers =>
      refine ⟨position, name, numbers, rfl, ?_⟩
      simpa [recordLength] using hLength
  · rw [hFails] at h
    cases h
  · rw [hFails] at h
    cases h

/-- Records with other names are the same records with other names. -/
theorem readRecords_withNames {record : Nat} {words : List (List Char)} {entries : List Entry}
    (h : readRecords record words = .ok entries) {names : List (List Char)}
    (hNames : names.length = entries.length) :
    readRecords record (withNames (recordLength * record) names words) =
      .ok ((entries.zip names).map fun (entry, name) => entry.withName name) := by
  induction record, words using readRecords.induct generalizing entries names with
  | case1 record =>
    rw [readRecords, dif_pos rfl] at h
    cases h
    rw [withNames, readRecords, dif_pos rfl]
    rfl
  | case2 record words hWords ih =>
    rw [readRecords, dif_neg hWords] at h
    cases hFirst : readRecord record (words.take recordLength) with
    | error fault =>
      rw [hFirst] at h
      cases h
    | ok entry =>
      cases hRest : readRecords (record + 1) (words.drop recordLength) with
      | error fault =>
        simp only [hFirst, hRest] at h
        cases h
      | ok others =>
        simp only [hFirst, hRest] at h
        cases h
        obtain ⟨name, names, rfl⟩ := List.exists_cons_of_length_eq_add_one hNames
        have hLater := ih hRest (by simpa using hNames)
        have hChunk : words.take recordLength ≠ [] := by
          simp [hWords, recordLength, fieldCount]
        obtain ⟨position, old, numbers, hTake, hNumbers⟩ :=
          exists_words_of_readRecord hFirst hChunk (List.length_take_le _ _)
        have hSplit : words = position :: old :: numbers ++ words.drop recordLength := by
          rw [← hTake, List.take_append_drop]
        rw [hTake] at hFirst
        have hLength : (position :: name :: numbers).length = recordLength := by
          simp [hNumbers, recordLength]
        have hRecord := readRecord_withName record position old name numbers
        rw [hFirst] at hRecord
        rw [hSplit, withNames_record record hNumbers, readRecords,
          dif_neg (by simp), List.take_left' hLength, List.drop_left' hLength, hRecord, hLater]
        rfl

/-! ## Files -/

/-- A file with a text in it is read as the text. -/
theorem readBytes_encode (text : List Char) : readBytes (encode text) = readText text := by
  rw [readBytes, Text.Utf8.decodeLossy_encode]

theorem isWord_decodeLossy {name : List UInt8} (hNonempty : name ≠ [])
    (hBlank : ∀ c ∈ decodeLossy name, Text.isBlank c = false) : Text.IsWord (decodeLossy name) := by
  refine ⟨?_, hBlank⟩
  obtain ⟨b, bytes, rfl⟩ := List.exists_cons_of_ne_nil hNonempty
  simp [Text.Utf8.decodeLossy_cons]

/-- **Broken bytes in names never disturb the numbers.**  Let the names of a script, whatever the
blanks between its words are, be replaced by any bytes that are at least one and that do not decode
to a blank, one for each entry.  The file is a script again.  Its entries have the same positions
and the same numbers, and the name of each is what its own bytes decode to by themselves.  A file
with a text in it is read as the text, be it a script or a click map. -/
theorem readBytes_renamed :
    (∀ text : List Char,
      readBytes (encode text) = readText text ∧
        HotRecord.readBytes (encode text) = HotRecord.readText text) ∧
    ∀ (text : List Char) (entries : List Entry) (names : List (List UInt8)),
      readText text = .ok entries → names.length = entries.length →
      (∀ name ∈ names, name ≠ [] ∧ ∀ c ∈ decodeLossy name, Text.isBlank c = false) →
      ∃ others, readBytes (renamed 0 names text) = .ok others ∧
        others.length = entries.length ∧
        others.map (·.index) = entries.map (·.index) ∧
        others.map (·.fields) = entries.map (·.fields) ∧
        others.map (·.name) = names.map fun name => String.ofList (decodeLossy name) := by
  refine ⟨fun text => ⟨readBytes_encode text, ?_⟩, ?_⟩
  · rw [HotRecord.readBytes, Text.Utf8.decodeLossy_encode]
  · intro text entries names hRead hLength hNames
    have hWords : Text.words (decodeLossy (renamed 0 names text)) =
        withNames 0 (names.map decodeLossy) (Text.words text) :=
      words_renamed (Text.spaced_words text) fun name hName =>
        isWord_decodeLossy (hNames name hName).1 (hNames name hName).2
    have hOthers : readBytes (renamed 0 names text) = .ok
        ((entries.zip (names.map decodeLossy)).map fun (entry, name) => entry.withName name) := by
      rw [readBytes, readText, hWords]
      exact readRecords_withNames hRead (by rw [List.length_map, hLength])
    have hEntries : (entries.zip (names.map decodeLossy)).map Prod.fst = entries :=
      List.map_fst_zip (by rw [List.length_map, hLength])
    have hLast : (entries.zip (names.map decodeLossy)).map Prod.snd = names.map decodeLossy :=
      List.map_snd_zip (by rw [List.length_map, hLength])
    refine ⟨_, hOthers, ?_, ?_, ?_, ?_⟩
    · simp [hLength]
    · conv_rhs => rw [← hEntries]
      simp [Entry.withName]
    · conv_rhs => rw [← hEntries]
      simp [Entry.withName]
    · have hNamed : names.map (fun name => String.ofList (decodeLossy name)) =
          (names.map decodeLossy).map String.ofList := by
        simp
      rw [hNamed]
      conv_rhs => rw [← hLast]
      simp [Entry.withName, Function.comp_def]

/-- Two records, of which the first is named by a character that breaks off in front of a blank, and
the second by a byte that is no text in front of a letter. -/
theorem readBytes_renamed_of_broken :
    let zeros : Vector Int32 fieldCount := Vector.replicate fieldCount 0
    let entries : List Entry := [⟨0, "a.mov", zeros.set 0 1⟩, ⟨1, "b.nod", zeros.set 23 (-4)⟩]
    let text := ("0 a.mov 1 0 0 0 0 0 0 0 0 0 0 0 0 0 0 0 0 0 0 0 0 0 0 0\n" ++
      "1 b.nod 0 0 0 0 0 0 0 0 0 0 0 0 0 0 0 0 0 0 0 0 0 0 0 -4").toList
    let names : List (List UInt8) := [[0xE2, 0x82], [0xFF, 0x62]]
    readText text = .ok entries ∧
    ∃ others, readBytes (renamed 0 names text) = .ok others ∧
      others.map (·.fields) = entries.map (·.fields) ∧
      others.map (·.name) = ["\uFFFD", "\uFFFDb"] := by
  intro zeros entries text names
  have hRead : readText text = .ok entries := by
    have hWords : Text.words text = entries.flatMap Entry.words := by decide +kernel
    rw [readText, hWords]
    refine readRecords_words (fun k entry hEntry => ?_) (by decide +kernel)
    match k with
    | 0 => cases hEntry; rfl
    | 1 => cases hEntry; rfl
  have hBroken : decodeLossy [0xE2, 0x82] = ['\uFFFD'] := by
    rw [Text.Utf8.decodeLossy_cons]
    exact congrArg _ Text.Utf8.decodeLossy_nil
  have hNoText : decodeLossy [0xFF, 0x62] = ['\uFFFD', 'b'] := by
    rw [Text.Utf8.decodeLossy_cons]
    refine congrArg _ ?_
    rw [show (Text.Utf8.nextChar 0xFF [0x62]).2 = [0x62] from rfl, Text.Utf8.decodeLossy_cons]
    exact congrArg _ Text.Utf8.decodeLossy_nil
  have hNames : ∀ name ∈ names,
      name ≠ [] ∧ ∀ c ∈ decodeLossy name, Text.isBlank c = false := by
    simp [names, hBroken, hNoText, Text.isBlank]
  obtain ⟨others, hOthers, -, -, hFields, hOtherNames⟩ :=
    readBytes_renamed.2 text entries names hRead rfl hNames
  refine ⟨hRead, others, hOthers, hFields, ?_⟩
  rw [hOtherNames]
  simp [names, hBroken, hNoText]

end Script
end BranchingMovie
