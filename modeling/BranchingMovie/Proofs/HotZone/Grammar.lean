import BranchingMovie.Proofs.HotZone.Clicks
import BranchingMovie.Proofs.Text.Spelling

/-!
# The grammar of click maps

A click map is read line by line, and each line is right or wrong by itself.

* A line is blank, or it is the picture of a record: its words spell a frame number and the corners
  of rectangles, eight of them at most (`IsPicture`, `Draws`).
* Or there is something wrong with it: the first word that spells no number, else the rectangle that
  breaks off, else the number of rectangles (`IsFaulty`).

`readText_lines` says that a text is read when no line is wrong, and that the first wrong line
decides the refusal.  What place holders stand in a line does not matter, and neither does a
carriage return in front of each line feed.
-/

namespace BranchingMovie
namespace HotRecord

/-! ## Right and wrong lines -/

/-- The words of a line spell numbers. -/
def SpellsNumbers (line : List Char) (numbers : List Int32) : Prop :=
  List.Forall₂ (fun word number => Numeral.Spells word number.toInt) (Text.words line) numbers

/-- The words of a line spell a frame number and the corners of eight rectangles at most. -/
structure IsPicture (line : List Char) (frame : Int32) (corners : List Quad) : Prop where
  spells : SpellsNumbers line (frame :: corners.flatMap Quad.coordinates)
  few : corners.length ≤ maxZones

/-- A line draws a record: its rectangles, the place holders among them left out, are the zones in
the slots 0, 1, 2 and so on. -/
def Draws (line : List Char) (record : HotRecord) : Prop :=
  ∃ corners, IsPicture line record.frame corners ∧
    ∀ slot, record.zones[slot]? = (rectangles corners)[slot]?.map fun quad =>
      (⟨slot, ⟨quad.x1, quad.y1, quad.x2 - quad.x1, quad.y2 - quad.y1⟩⟩ : HotZone)

/-- What is wrong with a line. -/
inductive IsFaulty (line : List Char) : HotLineFault → Prop
  | notANumber {front behind : List (List Char)} {word : List Char}
    (hWords : Text.words line = front ++ word :: behind)
    (hFront : ∀ other ∈ front, ∃ number : Int32, Numeral.Spells other number.toInt)
    (hWord : ∀ number : Int32, ¬ Numeral.Spells word number.toInt) :
    IsFaulty line (.notANumber (String.ofList word))
  | partialRect {frame : Int32} {coordinates : List Int32}
    (hSpells : SpellsNumbers line (frame :: coordinates)) (hPart : ¬ 4 ∣ coordinates.length) :
    IsFaulty line (.partialRect coordinates.length)
  | tooManyRects {frame : Int32} {corners : List Quad}
    (hSpells : SpellsNumbers line (frame :: corners.flatMap Quad.coordinates))
    (hMany : maxZones < corners.length) : IsFaulty line (.tooManyRects corners.length)

theorem spellsNumbers_iff {line : List Char} {numbers : List Int32} :
    SpellsNumbers line numbers ↔ readNumbers (Text.words line) = .ok numbers := by
  simp only [SpellsNumbers, readNumbers_iff, Numeral.readInt32_ok_iff]

theorem isPicture_iff {line : List Char} {frame : Int32} {corners : List Quad} :
    IsPicture line frame corners ↔ IsLine line frame corners ∧ corners.length ≤ maxZones := by
  rw [isLine_iff, ← spellsNumbers_iff]
  exact ⟨fun h => ⟨h.spells, h.few⟩, fun h => ⟨h.1, h.2⟩⟩

/-- Zones are numbered rectangles. -/
theorem eq_zonesOf_iff {zones : List HotZone} {corners : List Quad} :
    zones = zonesOf (corners.flatMap Quad.coordinates) ↔
      ∀ slot, zones[slot]? = (rectangles corners)[slot]?.map fun quad =>
        (⟨slot, ⟨quad.x1, quad.y1, quad.x2 - quad.x1, quad.y2 - quad.y1⟩⟩ : HotZone) := by
  have hZones : ∀ slot, (zonesOf (corners.flatMap Quad.coordinates))[slot]? =
      (rectangles corners)[slot]?.map fun quad =>
        (⟨slot, ⟨quad.x1, quad.y1, quad.x2 - quad.x1, quad.y2 - quad.y1⟩⟩ : HotZone) := by
    intro slot
    rw [zonesOf, quads_flatMap_coordinates, List.getElem?_map, List.getElem?_zipIdx,
      Option.map_map, Nat.zero_add]
    rfl
  constructor
  · rintro rfl
    exact hZones
  · intro h
    exact List.ext_getElem? fun slot => (h slot).trans (hZones slot).symm

/-- A line is read as a record when it draws the record. -/
theorem readLine_record_iff {line : List Char} {record : HotRecord} :
    readLine line = .ok (some record) ↔ Draws line record := by
  simp only [readLine_some_iff, Draws, isPicture_iff, eq_zonesOf_iff, and_assoc]

theorem ofNumbers_none_iff {numbers : List Int32} :
    ofNumbers numbers = .ok none ↔ numbers = [] := by
  cases numbers with
  | nil => simp [ofNumbers]
  | cons frame coordinates =>
    rw [ofNumbers]
    split
    · simp
    · split <;> simp

/-- A line holds no record when it is blank. -/
theorem readLine_none_iff {line : List Char} :
    readLine line = .ok none ↔ ∀ c ∈ line, Text.isBlank c = true := by
  rw [readLine, Outcome.bind_ok, ← Text.words_eq_nil_iff]
  constructor
  · rintro ⟨numbers, hNumbers, hNone⟩
    obtain rfl := ofNumbers_none_iff.1 hNone
    exact List.forall₂_nil_right_iff.1 (readNumbers_iff.1 hNumbers)
  · intro hNil
    exact ⟨[], by rw [hNil]; rfl, rfl⟩

/-- A line can be read when it is blank or a picture. -/
theorem exists_readLine_iff {line : List Char} :
    (∃ record?, readLine line = .ok record?) ↔
      (∀ c ∈ line, Text.isBlank c = true) ∨ ∃ frame corners, IsPicture line frame corners := by
  constructor
  · rintro ⟨none | record, hRead⟩
    · exact .inl (readLine_none_iff.1 hRead)
    · obtain ⟨corners, hPicture, -⟩ := readLine_record_iff.1 hRead
      exact .inr ⟨record.frame, corners, hPicture⟩
  · rintro (hBlank | ⟨frame, corners, hPicture⟩)
    · exact ⟨none, readLine_none_iff.2 hBlank⟩
    · exact ⟨some ⟨frame, zonesOf (corners.flatMap Quad.coordinates)⟩,
        readLine_record_iff.2 ⟨corners, hPicture, eq_zonesOf_iff.1 rfl⟩⟩

/-! ## Refused lines -/

/-- One of the items is bad at its place, and those in front of it are good. -/
def HasFirst {α : Type} (good : α → Prop) (bad : Nat → α → Prop) (items : List α) : Prop :=
  ∃ earlier item later, items = earlier ++ item :: later ∧ (∀ other ∈ earlier, good other) ∧
    bad earlier.length item

theorem not_hasFirst_nil {α : Type} {good : α → Prop} {bad : Nat → α → Prop} :
    ¬ HasFirst good bad [] := by
  rintro ⟨earlier, item, later, hItems, -⟩
  simp at hItems

/-- The first bad item is the first of all, or it comes behind that one. -/
theorem hasFirst_cons {α : Type} {good : α → Prop} {bad : Nat → α → Prop} {first : α}
    {items : List α} :
    HasFirst good bad (first :: items) ↔
      bad 0 first ∨ good first ∧ HasFirst good (fun place => bad (place + 1)) items := by
  constructor
  · rintro ⟨earlier, item, later, hItems, hGood, hBad⟩
    cases earlier with
    | nil =>
      obtain ⟨rfl, rfl⟩ := List.cons.inj hItems
      exact .inl hBad
    | cons other earlier =>
      obtain ⟨rfl, rfl⟩ := List.cons.inj hItems
      obtain ⟨hFirst, hEarlier⟩ := List.forall_mem_cons.1 hGood
      exact .inr ⟨hFirst, earlier, item, later, rfl, hEarlier, hBad⟩
  · rintro (hBad | ⟨hFirst, earlier, item, later, rfl, hEarlier, hBad⟩)
    · exact ⟨[], first, items, rfl, List.forall_mem_nil _, hBad⟩
    · exact ⟨first :: earlier, item, later, rfl, List.forall_mem_cons.2 ⟨hFirst, hEarlier⟩, hBad⟩

/-- The first word that is no number decides. -/
theorem readNumbers_error_iff {words : List (List Char)} {reason : HotLineFault} :
    readNumbers words = .error reason ↔
      HasFirst (fun word => ∃ number, Numeral.readInt32 word = .ok number)
        (fun _ word => (∀ number, Numeral.readInt32 word ≠ .ok number) ∧
          reason = .notANumber (String.ofList word)) words := by
  induction words with
  | nil => simp [readNumbers, not_hasFirst_nil]
  | cons word words ih =>
    rw [readNumbers, hasFirst_cons]
    cases Numeral.readInt32 word with
    | error cause => simp [eq_comm]
    | ok value => simp [Outcome.map_error, ih]

/-- Numbers make no record when their rectangles break off, or are whole and too many. -/
theorem ofNumbers_error_iff {numbers : List Int32} {reason : HotLineFault} :
    ofNumbers numbers = .error reason ↔
      ∃ frame,
        (∃ coordinates, numbers = frame :: coordinates ∧ ¬ 4 ∣ coordinates.length ∧
          reason = .partialRect coordinates.length) ∨
        ∃ corners : List Quad, numbers = frame :: corners.flatMap Quad.coordinates ∧
          maxZones < corners.length ∧ reason = .tooManyRects corners.length := by
  cases numbers with
  | nil => simp [ofNumbers]
  | cons frame coordinates =>
    rw [ofNumbers]
    constructor
    · intro h
      split at h
      · rename_i hPart
        cases h
        exact ⟨frame, .inl ⟨coordinates, rfl, fun hWhole => hPart (Nat.mod_eq_zero_of_dvd hWhole),
          rfl⟩⟩
      · rename_i hWhole
        split at h
        · rename_i hMany
          cases h
          have hAll := flatMap_coordinates_quads (Decidable.not_not.1 hWhole)
          have hLength := length_flatMap_coordinates (quads coordinates)
          rw [hAll] at hLength
          have hCount : coordinates.length / 4 = (quads coordinates).length := by omega
          rw [hCount] at hMany ⊢
          exact ⟨frame, .inr ⟨quads coordinates, by rw [hAll], hMany, rfl⟩⟩
        · cases h
    · rintro ⟨frame, ⟨coordinates, hNumbers, hPart, rfl⟩ | ⟨corners, hNumbers, hMany, rfl⟩⟩
      · obtain ⟨rfl, rfl⟩ := List.cons.inj hNumbers
        exact if_pos fun hWhole => hPart (Nat.dvd_of_mod_eq_zero hWhole)
      · obtain ⟨rfl, rfl⟩ := List.cons.inj hNumbers
        have hLength := length_flatMap_coordinates corners
        have hWhole : ¬ (corners.flatMap Quad.coordinates).length % 4 ≠ 0 := by omega
        have hCount : (corners.flatMap Quad.coordinates).length / 4 = corners.length := by omega
        rw [if_neg hWhole, hCount, if_pos hMany]

/-- A line is refused for what is wrong with it. -/
theorem readLine_error_iff {line : List Char} {reason : HotLineFault} :
    readLine line = .error reason ↔ IsFaulty line reason := by
  rw [readLine, Outcome.bind_error, readNumbers_error_iff]
  simp only [Numeral.readInt32_ok_iff, ne_eq, ← spellsNumbers_iff, ofNumbers_error_iff]
  constructor
  · rintro (⟨front, word, behind, hWords, hFront, hWord, rfl⟩ |
      ⟨numbers, hSpells, frame, ⟨coordinates, rfl, hPart, rfl⟩ | ⟨corners, rfl, hMany, rfl⟩⟩)
    · exact .notANumber hWords hFront hWord
    · exact .partialRect hSpells hPart
    · exact .tooManyRects hSpells hMany
  · intro h
    cases h with
    | notANumber hWords hFront hWord => exact .inl ⟨_, _, _, hWords, hFront, hWord, rfl⟩
    | partialRect hSpells hPart =>
      exact .inr ⟨_, hSpells, _, .inl ⟨_, rfl, hPart, rfl⟩⟩
    | tooManyRects hSpells hMany =>
      exact .inr ⟨_, hSpells, _, .inr ⟨_, rfl, hMany, rfl⟩⟩

/-! ## Texts -/

/-- Lines are read when each of them can be read. -/
theorem exists_readLines_iff {number : Nat} {lines : List (List Char)} :
    (∃ records, readLines number lines = .ok records) ↔
      ∀ line ∈ lines, ∃ record?, readLine line = .ok record? := by
  constructor
  · rintro ⟨records, hRead⟩ line hLine
    exact exists_readLine hRead hLine
  · intro h
    induction lines generalizing number with
    | nil => exact ⟨[], rfl⟩
    | cons line lines ih =>
      obtain ⟨⟨record?, hLine⟩, hLines⟩ := List.forall_mem_cons.1 h
      obtain ⟨records, hRecords⟩ : ∃ records, readLines (number + 1) lines = .ok records :=
        ih hLines
      exact ⟨record?.toList ++ records, by rw [readLines, hLine, hRecords]; rfl⟩

/-- There is a record for each line that is not blank. -/
theorem forall₂_of_readLines {number : Nat} {lines : List (List Char)} {records : List HotRecord}
    (h : readLines number lines = .ok records) :
    List.Forall₂ Draws (lines.filter (!·.all Text.isBlank)) records := by
  induction lines generalizing number records with
  | nil =>
    cases h
    exact .nil
  | cons line lines ih =>
    obtain ⟨record?, others, hLine, hOthers, rfl⟩ := readLines_cons h
    cases record? with
    | none =>
      rw [List.filter_cons_of_neg (by simpa using readLine_none_iff.1 hLine)]
      exact ih hOthers
    | some record =>
      have hWords : ¬ line.all Text.isBlank = true := by
        rw [List.all_eq_true, ← readLine_none_iff, hLine]
        exact nofun
      rw [List.filter_cons_of_pos (by simpa using hWords)]
      exact .cons (readLine_record_iff.1 hLine) (ih hOthers)

/-- The first line that cannot be read decides. -/
theorem readLines_error_iff {number : Nat} {lines : List (List Char)} {fault : HotFault} :
    readLines number lines = .error fault ↔
      HasFirst (fun line => ∃ record?, readLine line = .ok record?)
        (fun place line => fault.line = number + place ∧ readLine line = .error fault.reason)
        lines := by
  induction lines generalizing number with
  | nil => simp [readLines, not_hasFirst_nil]
  | cons line lines ih =>
    rw [readLines, hasFirst_cons]
    cases readLine line with
    | error reason =>
      obtain ⟨faultLine, faultReason⟩ := fault
      simp [eq_comm]
    | ok record? => simp [Outcome.map_error, ih, Nat.add_assoc, Nat.add_comm 1]

/-- Texts whose lines are read alike are read alike. -/
theorem readLines_congr {number : Nat} {lines others : List (List Char)}
    (h : List.Forall₂ (fun line other => readLine other = readLine line) lines others) :
    readLines number others = readLines number lines := by
  induction h generalizing number with
  | nil => rfl
  | cons hLine _ ih => rw [readLines, readLines, hLine, ih]

/-- A line is read by its words. -/
theorem readLine_congr {line other : List Char} (h : Text.words other = Text.words line) :
    readLine other = readLine line := by
  rw [readLine, readLine, h]

/-- Pictures with the same rectangles are read alike. -/
theorem readLine_of_rectangles {line other : List Char} {frame : Int32} {corners others : List Quad}
    (hLine : IsPicture line frame corners) (hOther : IsPicture other frame others)
    (h : rectangles corners = rectangles others) : readLine other = readLine line := by
  have hZones := eq_zonesOf_iff.1 (rfl : zonesOf (corners.flatMap Quad.coordinates) = _)
  have hRead : readLine line = .ok (some ⟨frame, zonesOf (corners.flatMap Quad.coordinates)⟩) :=
    readLine_record_iff.2 ⟨corners, hLine, hZones⟩
  rw [h] at hZones
  rw [hRead]
  exact readLine_record_iff.2 ⟨others, hOther, hZones⟩

/-- **The grammar of click maps.**  The lines of a text are the pieces between its line feeds.
* The text is read exactly when each line is blank or a picture, and then the lines that are not
  blank draw the records.
* Otherwise the first line that is neither decides: the refusal has its number, counted from 1 with
  the blank lines, and what is wrong with it.
* Place holders may be put into the pictures and taken out of them, while there are not too many.
* A carriage return in front of each line feed changes nothing. -/
theorem readText_lines (text : List Char) :
    (['\n'].intercalate (Text.lines text) = text ∧ ∀ line ∈ Text.lines text, '\n' ∉ line) ∧
    ((∃ records, readText text = .ok records) ↔
      ∀ line ∈ Text.lines text,
        (∀ c ∈ line, Text.isBlank c = true) ∨ ∃ frame corners, IsPicture line frame corners) ∧
    (∀ records, readText text = .ok records →
      List.Forall₂ Draws ((Text.lines text).filter (!·.all Text.isBlank)) records) ∧
    (∀ fault, readText text = .error fault ↔
      ∃ earlier line later, Text.lines text = earlier ++ line :: later ∧
        (∀ other ∈ earlier,
          (∀ c ∈ other, Text.isBlank c = true) ∨ ∃ frame corners, IsPicture other frame corners) ∧
        fault.line = earlier.length + 1 ∧ IsFaulty line fault.reason) ∧
    (∀ other, List.Forall₂ (fun line changed => changed = line ∨
        ∃ frame corners others, IsPicture line frame corners ∧ IsPicture changed frame others ∧
          rectangles corners = rectangles others) (Text.lines text) (Text.lines other) →
      readText other = readText text) ∧
    readText (Text.withReturns text) = readText text := by
  refine ⟨⟨Text.intercalate_lines text, fun line => Text.not_mem_of_mem_lines⟩, ?_, ?_, ?_, ?_, ?_⟩
  · simp only [readText, exists_readLines_iff, exists_readLine_iff]
  · exact fun records => forall₂_of_readLines
  · intro fault
    simp only [readText, readLines_error_iff, HasFirst, exists_readLine_iff, readLine_error_iff,
      Nat.add_comm 1]
  · intro other hLines
    refine readLines_congr (hLines.imp ?_)
    rintro line changed (rfl | ⟨frame, corners, others, hLine, hChanged, hRectangles⟩)
    · rfl
    · exact readLine_of_rectangles hLine hChanged hRectangles
  · refine readLines_congr ((Text.forall₂_lines_withReturns text).imp ?_)
    rintro line returned (rfl | rfl)
    · rfl
    · exact readLine_congr (Text.words_concat_return line)

/-- A place holder that is put somewhere else, and a line with two things wrong with it behind a
blank one. -/
theorem readText_lines_of_texts :
    let text := "42 0 0 320 240 0 0 0 0\n \n7 1 2 4 6".toList
    let other := "42 0 0 0 0 0 0 320 240\n \n7 1 2 4 6".toList
    let records : List HotRecord := [⟨42, [⟨0, ⟨0, 0, 320, 240⟩⟩]⟩, ⟨7, [⟨0, ⟨1, 2, 3, 4⟩⟩]⟩]
    let wrong := "\t\r\n1 2 +2147483648\n1 x".toList
    (readText text = .ok records ∧
      List.Forall₂ Draws ((Text.lines text).filter (!·.all Text.isBlank)) records) ∧
    readText other = readText text ∧
    readText wrong = .error ⟨2, .notANumber "+2147483648"⟩ := by
  intro text other records wrong
  have hRead : readText text = .ok records := by decide +kernel
  have hPicture : ∀ {line frame corners}, corners.length ≤ maxZones →
      readNumbers (Text.words line) = .ok (frame :: corners.flatMap Quad.coordinates) →
      IsPicture line frame corners :=
    fun hFew hNumbers => ⟨spellsNumbers_iff.2 hNumbers, hFew⟩
  have hLines : Text.lines text =
      ["42 0 0 320 240 0 0 0 0".toList, " ".toList, "7 1 2 4 6".toList] := by decide +kernel
  have hOthers : Text.lines other =
      ["42 0 0 0 0 0 0 320 240".toList, " ".toList, "7 1 2 4 6".toList] := by decide +kernel
  have hWrong : Text.lines wrong =
      ["\t\r".toList, "1 2 +2147483648".toList, "1 x".toList] := by decide +kernel
  refine ⟨⟨hRead, (readText_lines text).2.2.1 records hRead⟩, ?_, ?_⟩
  · refine (readText_lines text).2.2.2.2.1 other ?_
    rw [hLines, hOthers]
    refine .cons (.inr ⟨42, [⟨0, 0, 320, 240⟩, ⟨0, 0, 0, 0⟩], [⟨0, 0, 0, 0⟩, ⟨0, 0, 320, 240⟩],
      ?_, ?_, ?_⟩) (.cons (.inl rfl) (.cons (.inl rfl) .nil))
    · exact hPicture (by decide) (by decide +kernel)
    · exact hPicture (by decide) (by decide +kernel)
    · decide
  · refine ((readText_lines wrong).2.2.2.1 _).2
      ⟨["\t\r".toList], "1 2 +2147483648".toList, ["1 x".toList], hWrong, ?_, rfl, ?_⟩
    · exact List.forall_mem_singleton.2 (.inl (List.all_eq_true.1 (by decide +kernel)))
    · exact readLine_error_iff.1 (by decide +kernel)

end HotRecord
end BranchingMovie
