import Mathlib.Data.List.Forall2
import BranchingMovie.HotZone.Index
import BranchingMovie.Proofs.Outcome

/-!
# The lines of a click map

A line of a click map is a frame number with the corners of rectangles behind it (`IsLine`), eight
of them at most (`readLine_some_iff`).  A text that can be read has a record for each of its lines
that is not blank, in their order, and so the record that counts for a frame is that of the last
line with the frame's number (`find?_reverse_iff`).
-/

namespace BranchingMovie
namespace HotRecord

/-! ## Words and numbers -/

/-- The four numbers of a quad. -/
def Quad.coordinates (quad : Quad) : List Int32 :=
  [quad.x1, quad.y1, quad.x2, quad.y2]

/-- The words of a line are a frame number and the corners of rectangles. -/
def IsLine (line : List Char) (frame : Int32) (corners : List Quad) : Prop :=
  List.Forall₂ (fun word value => Numeral.readInt32 word = .ok value) (Text.words line)
    (frame :: corners.flatMap Quad.coordinates)

theorem readNumbers_iff {words : List (List Char)} {values : List Int32} :
    readNumbers words = .ok values ↔
      List.Forall₂ (fun word value => Numeral.readInt32 word = .ok value) words values := by
  constructor
  · intro h
    induction words generalizing values with
    | nil =>
      cases h
      exact .nil
    | cons word words ih =>
      unfold readNumbers at h
      split at h
      · cases h
      · rename_i value hWord
        obtain ⟨others, hOthers, rfl⟩ := Outcome.map_ok.1 h
        exact .cons hWord (ih hOthers)
  · intro h
    induction h with
    | nil => rfl
    | cons hWord _ ih =>
      rw [readNumbers, hWord, ih]
      rfl

theorem isLine_iff {line : List Char} {frame : Int32} {corners : List Quad} :
    IsLine line frame corners ↔
      readNumbers (Text.words line) = .ok (frame :: corners.flatMap Quad.coordinates) :=
  readNumbers_iff.symm

/-! ## Numbers and quads -/

/-- Quads are read off their coordinates again. -/
theorem quads_flatMap_coordinates (corners : List Quad) :
    quads (corners.flatMap Quad.coordinates) = corners := by
  induction corners with
  | nil => rfl
  | cons quad corners ih =>
    rw [List.flatMap_cons, Quad.coordinates, List.cons_append, List.cons_append, List.cons_append,
      List.cons_append, List.nil_append, quads, ih]

/-- Whole rectangles are made of all their coordinates. -/
theorem flatMap_coordinates_quads {coordinates : List Int32} (h : coordinates.length % 4 = 0) :
    (quads coordinates).flatMap Quad.coordinates = coordinates := by
  induction coordinates using quads.induct with
  | case1 x1 y1 x2 y2 coordinates ih =>
    have hRest : coordinates.length % 4 = 0 := by
      simp only [List.length_cons] at h
      omega
    rw [quads, List.flatMap_cons, ih hRest]
    rfl
  | case2 coordinates hShort =>
    match coordinates, hShort with
    | [], _ => rfl
    | [_], _ => cases h
    | [_, _], _ => cases h
    | [_, _, _], _ => cases h
    | x1 :: y1 :: x2 :: y2 :: rest, hShort => exact absurd rfl (hShort x1 y1 x2 y2 rest)

theorem length_flatMap_coordinates (corners : List Quad) :
    (corners.flatMap Quad.coordinates).length = 4 * corners.length := by
  induction corners with
  | nil => rfl
  | cons quad corners ih =>
    rw [List.flatMap_cons, List.length_append, ih, Quad.coordinates]
    simp only [List.length_cons, List.length_nil]
    omega

/-! ## Lines -/

/-- The numbers of a record are a frame and whole rectangles, eight at most. -/
theorem ofNumbers_some_iff {numbers : List Int32} {record : HotRecord} :
    ofNumbers numbers = .ok (some record) ↔
      ∃ corners : List Quad, numbers = record.frame :: corners.flatMap Quad.coordinates ∧
        corners.length ≤ maxZones ∧
        record.zones = zonesOf (corners.flatMap Quad.coordinates) := by
  cases numbers with
  | nil => simp [ofNumbers]
  | cons frame coordinates =>
    constructor
    · intro h
      rw [ofNumbers] at h
      split at h
      · cases h
      · rename_i hWhole
        split at h
        · cases h
        · rename_i hFew
          obtain rfl := Option.some.inj (Except.ok.inj h)
          have hAll := flatMap_coordinates_quads (Decidable.not_not.1 hWhole)
          have hLength := length_flatMap_coordinates (quads coordinates)
          rw [hAll] at hLength
          exact ⟨quads coordinates, by rw [hAll], by omega, by rw [hAll]⟩
    · rintro ⟨corners, hNumbers, hFew, hZones⟩
      obtain ⟨rfl, rfl⟩ := List.cons.inj hNumbers
      have hLength := length_flatMap_coordinates corners
      have hWhole : ¬ (corners.flatMap Quad.coordinates).length % 4 ≠ 0 := by omega
      have hRoom : ¬ (corners.flatMap Quad.coordinates).length / 4 > maxZones := by omega
      rw [ofNumbers, if_neg hWhole, if_neg hRoom, ← hZones]

/-- A line holds a record when it is a frame number with the corners of eight rectangles at most. -/
theorem readLine_some_iff {line : List Char} {record : HotRecord} :
    readLine line = .ok (some record) ↔
      ∃ corners, IsLine line record.frame corners ∧ corners.length ≤ maxZones ∧
        record.zones = zonesOf (corners.flatMap Quad.coordinates) := by
  rw [readLine, Outcome.bind_ok]
  constructor
  · rintro ⟨numbers, hNumbers, hRecord⟩
    obtain ⟨corners, rfl, hFew, hZones⟩ := ofNumbers_some_iff.1 hRecord
    exact ⟨corners, isLine_iff.2 hNumbers, hFew, hZones⟩
  · rintro ⟨corners, hLine, hFew, hZones⟩
    exact ⟨_, isLine_iff.1 hLine, ofNumbers_some_iff.2 ⟨corners, rfl, hFew, hZones⟩⟩

/-- Where a line can be read, its frame number and its rectangles are those of its record. -/
theorem IsLine.of_readLine {line : List Char} {frame : Int32} {corners : List Quad}
    (hLine : IsLine line frame corners) {record? : Option HotRecord}
    (h : readLine line = .ok record?) :
    corners.length ≤ maxZones ∧
      record? = some ⟨frame, zonesOf (corners.flatMap Quad.coordinates)⟩ := by
  obtain ⟨numbers, hNumbers, hRecord⟩ := Outcome.bind_ok.1 h
  obtain rfl := Except.ok.inj (hNumbers.symm.trans (isLine_iff.1 hLine))
  rw [ofNumbers] at hRecord
  split at hRecord
  · cases hRecord
  · split at hRecord
    · cases hRecord
    · rename_i hFew
      have hLength := length_flatMap_coordinates corners
      exact ⟨by omega, (Except.ok.inj hRecord).symm⟩

/-! ## Texts -/

/-- A text that can be read has a first line that can be read, and lines behind it. -/
theorem readLines_cons {number : Nat} {line : List Char} {lines : List (List Char)}
    {records : List HotRecord} (h : readLines number (line :: lines) = .ok records) :
    ∃ record? others, readLine line = .ok record? ∧ readLines (number + 1) lines = .ok others ∧
      records = record?.toList ++ others := by
  rw [readLines] at h
  split at h
  · cases h
  · rename_i record? hLine
    obtain ⟨others, hOthers, rfl⟩ := Outcome.map_ok.1 h
    exact ⟨record?, others, hLine, hOthers, rfl⟩

/-- Every line of a text that can be read can be read. -/
theorem exists_readLine {number : Nat} {lines : List (List Char)} {records : List HotRecord}
    (h : readLines number lines = .ok records) {line : List Char} (hLine : line ∈ lines) :
    ∃ record?, readLine line = .ok record? := by
  induction lines generalizing number records with
  | nil => cases hLine
  | cons first lines ih =>
    obtain ⟨record?, others, hFirst, hOthers, -⟩ := readLines_cons h
    rcases List.mem_cons.1 hLine with rfl | hRest
    · exact ⟨record?, hFirst⟩
    · exact ih hOthers hRest

/-- The records of a text are those of its lines. -/
theorem mem_of_readLines {number : Nat} {lines : List (List Char)} {records : List HotRecord}
    (h : readLines number lines = .ok records) {record : HotRecord} :
    record ∈ records ↔ ∃ line ∈ lines, readLine line = .ok (some record) := by
  induction lines generalizing number records with
  | nil =>
    cases h
    simp
  | cons line lines ih =>
    obtain ⟨record?, others, hLine, hOthers, rfl⟩ := readLines_cons h
    rw [List.mem_append, Option.mem_toList, ih hOthers]
    simp [hLine]

/-- Of the lines that begin with a frame number, the last one has the rectangles. -/
def IsLastLine (lines : List (List Char)) (frame : Int32) (corners : List Quad) : Prop :=
  ∃ earlier line later, lines = earlier ++ line :: later ∧ IsLine line frame corners ∧
    ∀ other ∈ later, ∀ corners, ¬ IsLine other frame corners

theorem isLastLine_nil {frame : Int32} {corners : List Quad} : ¬ IsLastLine [] frame corners := by
  rintro ⟨earlier, line, later, hLines, -⟩
  simp at hLines

/-- The last line of a frame is behind the first line, or it is the first line and there is none
behind it. -/
theorem isLastLine_cons {line : List Char} {lines : List (List Char)} {frame : Int32}
    {corners : List Quad} :
    IsLastLine (line :: lines) frame corners ↔
      IsLastLine lines frame corners ∨
        IsLine line frame corners ∧ ∀ other ∈ lines, ∀ corners, ¬ IsLine other frame corners := by
  constructor
  · rintro ⟨earlier, last, later, hLines, hLast, hLater⟩
    cases earlier with
    | nil =>
      obtain ⟨rfl, rfl⟩ := List.cons.inj hLines
      exact .inr ⟨hLast, hLater⟩
    | cons first earlier =>
      obtain ⟨rfl, rfl⟩ := List.cons.inj hLines
      exact .inl ⟨earlier, last, later, rfl, hLast, hLater⟩
  · rintro (⟨earlier, last, later, rfl, hLast, hLater⟩ | ⟨hFirst, hNone⟩)
    · exact ⟨line :: earlier, last, later, rfl, hLast, hLater⟩
    · exact ⟨[], line, lines, rfl, hFirst, hNone⟩

theorem IsLastLine.exists_line {lines : List (List Char)} {frame : Int32} {corners : List Quad}
    (h : IsLastLine lines frame corners) : ∃ line ∈ lines, IsLine line frame corners := by
  obtain ⟨earlier, line, later, rfl, hLine, -⟩ := h
  exact ⟨line, by simp, hLine⟩

/-- A frame without a record is the number of no line. -/
theorem find?_reverse_eq_none_iff {number : Nat} {lines : List (List Char)}
    {records : List HotRecord} (h : readLines number lines = .ok records) (frame : Int32) :
    records.reverse.find? (·.frame == frame) = none ↔
      ∀ line ∈ lines, ∀ corners, ¬ IsLine line frame corners := by
  rw [List.find?_eq_none]
  constructor
  · intro hNone line hMem corners hLine
    obtain ⟨record?, hRead⟩ := exists_readLine h hMem
    obtain ⟨-, rfl⟩ := hLine.of_readLine hRead
    have hRecord := (mem_of_readLines h).2 ⟨line, hMem, hRead⟩
    exact hNone _ (List.mem_reverse.2 hRecord) (beq_self_eq_true frame)
  · intro hNone record hRecord hFrame
    obtain ⟨line, hMem, hRead⟩ := (mem_of_readLines h).1 (List.mem_reverse.1 hRecord)
    obtain ⟨corners, hLine, -⟩ := readLine_some_iff.1 hRead
    rw [beq_iff_eq.1 hFrame] at hLine
    exact hNone line hMem corners hLine

/-- **The record that counts for a frame is that of the last line with its number.** -/
theorem find?_reverse_iff {number : Nat} {lines : List (List Char)} {records : List HotRecord}
    (h : readLines number lines = .ok records) {frame : Int32} {zones : List HotZone} :
    (records.reverse.find? (·.frame == frame)).map (·.zones) = some zones ↔
      ∃ corners, IsLastLine lines frame corners ∧
        zones = zonesOf (corners.flatMap Quad.coordinates) := by
  induction lines generalizing number records with
  | nil =>
    cases h
    simp [isLastLine_nil]
  | cons line lines ih =>
    obtain ⟨record?, others, hLine, hOthers, rfl⟩ := readLines_cons h
    have hNone := find?_reverse_eq_none_iff hOthers frame
    rw [List.reverse_append, List.find?_append]
    simp only [isLastLine_cons]
    by_cases hLater : others.reverse.find? (·.frame == frame) = none
    · -- the first line is the only one that may count
      have hFirst : ∀ corners, ¬ IsLastLine lines frame corners := by
        intro corners hLast
        obtain ⟨other, hOther, hIsLine⟩ := hLast.exists_line
        exact hNone.1 hLater other hOther corners hIsLine
      rw [hLater, Option.none_or]
      constructor
      · intro hSome
        obtain ⟨record, hFind, rfl⟩ := Option.map_eq_some_iff.1 hSome
        have hMem := List.mem_of_find?_eq_some hFind
        have hMatches := List.find?_some hFind
        have hFrame : record.frame = frame := beq_iff_eq.1 hMatches
        rw [List.mem_reverse, Option.mem_toList] at hMem
        subst hMem
        obtain ⟨corners, hIsLine, -, hZones⟩ := readLine_some_iff.1 hLine
        rw [hFrame] at hIsLine
        exact ⟨corners, .inr ⟨hIsLine, hNone.1 hLater⟩, hZones⟩
      · rintro ⟨corners, hLast | ⟨hIsLine, -⟩, rfl⟩
        · exact absurd hLast (hFirst corners)
        · obtain ⟨-, rfl⟩ := hIsLine.of_readLine hLine
          simp
    · -- a line behind the first one has the frame's number
      have hBehind : ¬ ∀ other ∈ lines, ∀ corners, ¬ IsLine other frame corners :=
        fun hNo => hLater (hNone.2 hNo)
      obtain ⟨record, hRecord⟩ := Option.ne_none_iff_exists'.1 hLater
      rw [hRecord, Option.some_or, ← hRecord, ih hOthers]
      simp only [hBehind, and_false, or_false]

end HotRecord
end BranchingMovie
