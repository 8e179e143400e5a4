import BranchingMovie.Proofs.Engine.Answer
import BranchingMovie.Proofs.HotZone.Lines

/-!
# From a click map to a jump

Between the text of a click map and the jump that a click asks for stand a reader that leaves out
place holders, an index in which later records replace earlier ones, a search for the first
rectangle, and the slots of an entry.  `zoneTransition_iff_last_line` puts them together: a click
asks for the offset in the slot whose number is that of the first rectangle around the point, on the
last line of the frame on display.
-/

namespace BranchingMovie

/-! ## Rectangles -/

namespace HotRecord

/-- The point lies in the rectangle between the corners of the quad. -/
def Quad.surrounds (quad : Quad) (point : Point) : Bool :=
  (Rect.ofCorners quad.x1 quad.y1 quad.x2 quad.y2).contains point.x point.y

/-- The rectangles of a line, without the place holders among them. -/
def rectangles (corners : List Quad) : List Quad :=
  corners.filter (!·.isBlank)

theorem length_rectangles_le (corners : List Quad) :
    (rectangles corners).length ≤ corners.length :=
  List.length_filter_le ..

/-- The zones of numbered quads: the first one around a point has the number of the first quad
around it. -/
theorem find?_zipIdx (corners : List Quad) (first : Nat) (point : Point) :
    (((corners.zipIdx first).map fun (quad, slot) =>
        (⟨slot, Rect.ofCorners quad.x1 quad.y1 quad.x2 quad.y2⟩ : HotZone)).find?
          fun zone => zone.rect.contains point.x point.y).map (·.slot) =
      (corners.findIdx? (·.surrounds point)).map (· + first) := by
  induction corners generalizing first with
  | nil => rfl
  | cons quad corners ih =>
    rw [List.zipIdx_cons, List.map_cons, List.find?_cons, List.findIdx?_cons]
    by_cases hAround : quad.surrounds point
    · have hContains :
          (Rect.ofCorners quad.x1 quad.y1 quad.x2 quad.y2).contains point.x point.y = true :=
        hAround
      simp [hAround, hContains]
    · have hOutside :
          (Rect.ofCorners quad.x1 quad.y1 quad.x2 quad.y2).contains point.x point.y = false :=
        Bool.not_eq_true _ ▸ hAround
      simp only [hOutside, hAround, ih]
      simp [Option.map_map, Function.comp_def, Nat.add_right_comm, Nat.add_assoc]

/-- The first zone around a point is in the slot of the first rectangle around it. -/
theorem find?_zonesOf (corners : List Quad) (point : Point) :
    ((zonesOf (corners.flatMap Quad.coordinates)).find?
        fun zone => zone.rect.contains point.x point.y).map (·.slot) =
      (rectangles corners).findIdx? (·.surrounds point) := by
  rw [zonesOf, quads_flatMap_coordinates, find?_zipIdx]
  simp [rectangles]

end HotRecord

/-! ## The index -/

namespace HotZoneIndex

/-- Of several records for one frame the last one counts. -/
theorem get?_addRecords (name : String) (index : HotZoneIndex) (records : List HotRecord)
    (frame : Int32) :
    (addRecords name index records).1.frames.get? frame =
      ((records.reverse.find? (·.frame == frame)).map (·.zones)).or (index.frames.get? frame) := by
  induction records generalizing index with
  | nil => rfl
  | cons record records ih =>
    have hCons : (addRecords name index (record :: records)).1 =
        (addRecords name (index.addRecord record).1 records).1 := rfl
    rw [hCons, ih, addRecord, Table.get?_insert, List.reverse_cons, List.find?_append,
      List.find?_singleton]
    by_cases hFrame : record.frame = frame
    · cases records.reverse.find? (·.frame == frame) <;> simp [hFrame]
    · cases records.reverse.find? (·.frame == frame) <;> simp [hFrame]

theorem get?_ofRecords (name : String) (records : List HotRecord) (frame : Int32) :
    (ofRecords name records).1.frames.get? frame =
      (records.reverse.find? (·.frame == frame)).map (·.zones) := by
  rw [ofRecords, get?_addRecords, Table.get?_empty, Option.or_none]

end HotZoneIndex

/-! ## Jumps -/

namespace Entry

/-- A slot gives an offset when there is such a slot and its condition is used. -/
theorem slotOffset?_eq_some_iff {entry : Entry} {slot : Nat} {offset : Int32} :
    entry.slotOffset? slot = some offset ↔
      ∃ condition, entry.conditionAt slot = .ok condition ∧ condition.isEmpty = false ∧
        condition.offset = offset := by
  unfold slotOffset? conditionAt
  split
  · rename_i hSlot
    cases hEmpty : (entry.condition ⟨slot, hSlot⟩).isEmpty <;> simp [hEmpty]
  · simp

/-- A click asks for a jump when the frame on display has zones, one of them is around the point,
and the slot of the first such zone gives an offset. -/
theorem zoneTransition_eq_some_iff {entry : Entry} {index : HotZoneIndex} {point : Point}
    {frame offset : Int32} :
    entry.zoneTransition index point ⟨some frame⟩ = some ⟨offset⟩ ↔
      ∃ zones zone, index.frames.get? frame = some zones ∧
        zones.find? (fun zone => zone.rect.contains point.x point.y) = some zone ∧
        entry.slotOffset? zone.slot = some offset := by
  rw [zoneTransition_eq]
  simp only [Option.bind_eq_bind, Option.bind_some, Option.bind_eq_some_iff,
    Option.map_eq_some_iff, Transition.mk.injEq, exists_eq_right]
  constructor
  · rintro ⟨zones, hZones, zone, hZone, hOffset⟩
    exact ⟨zones, zone, hZones, hZone, hOffset⟩
  · rintro ⟨zones, zone, hZones, hZone, hOffset⟩
    exact ⟨zones, hZones, zone, hZone, hOffset⟩

/-- **From a click map to a jump.**  Take a text that is read as a click map, an entry, and a frame
on display.  A click asks for a jump exactly when the last line with the frame's number has a
rectangle around the point, place holders left out and not counted, and the condition in the slot
with the number of the first such rectangle is used; the jump is that condition's offset, whatever
its code.  There is a slot for every rectangle, and without a frame on display no click asks for
anything. -/
theorem zoneTransition_iff_last_line {text : List Char} {records : List HotRecord}
    (h : HotRecord.readText text = .ok records) (name : String) (entry : Entry) (frame : Int32)
    (point : Point) :
    let index := (HotZoneIndex.ofRecords name records).1
    (∀ offset, entry.zoneTransition index point ⟨some frame⟩ = some ⟨offset⟩ ↔
      ∃ corners slot condition, HotRecord.IsLastLine (Text.lines text) frame corners ∧
        (HotRecord.rectangles corners).findIdx? (·.surrounds point) = some slot ∧
        entry.conditionAt slot = .ok condition ∧ condition.isEmpty = false ∧
        condition.offset = offset) ∧
    (∀ corners slot, HotRecord.IsLastLine (Text.lines text) frame corners →
      (HotRecord.rectangles corners).findIdx? (·.surrounds point) = some slot →
      slot < conditionSlots ∧ ∃ condition, entry.conditionAt slot = .ok condition) ∧
    entry.zoneTransition index point ⟨none⟩ = none := by
  intro index
  have hZones : ∀ zones, index.frames.get? frame = some zones ↔
      ∃ corners, HotRecord.IsLastLine (Text.lines text) frame corners ∧
        zones = HotRecord.zonesOf (corners.flatMap HotRecord.Quad.coordinates) := by
    intro zones
    rw [HotZoneIndex.get?_ofRecords]
    exact HotRecord.find?_reverse_iff h
  refine ⟨fun offset => ?_, fun corners slot hLast hSlot => ?_, rfl⟩
  · rw [zoneTransition_eq_some_iff]
    constructor
    · rintro ⟨zones, zone, hGet, hZone, hOffset⟩
      obtain ⟨corners, hLast, rfl⟩ := (hZones zones).1 hGet
      have hSlot := HotRecord.find?_zonesOf corners point
      rw [hZone] at hSlot
      obtain ⟨condition, hCondition⟩ := slotOffset?_eq_some_iff.1 hOffset
      exact ⟨corners, zone.slot, condition, hLast, hSlot.symm, hCondition⟩
    · rintro ⟨corners, slot, condition, hLast, hSlot, hCondition⟩
      rw [← HotRecord.find?_zonesOf] at hSlot
      obtain ⟨zone, hZone, rfl⟩ := Option.map_eq_some_iff.1 hSlot
      exact ⟨_, zone, (hZones _).2 ⟨corners, hLast, rfl⟩, hZone,
        slotOffset?_eq_some_iff.2 ⟨condition, hCondition⟩⟩
  · obtain ⟨line, hMem, hLine⟩ := hLast.exists_line
    obtain ⟨record?, hRead⟩ := HotRecord.exists_readLine h hMem
    obtain ⟨hFew, -⟩ := hLine.of_readLine hRead
    have hIndex := (List.findIdx?_eq_some_iff_findIdx_eq.1 hSlot).1
    have hLength := HotRecord.length_rectangles_le corners
    have hBound : slot < conditionSlots := by
      simp only [maxZones, conditionSlots] at *
      omega
    exact ⟨hBound, _, dif_pos hBound⟩

/-- A frame that is listed twice: the second line counts, and its place holder takes no slot. -/
theorem zoneTransition_iff_last_line_of_two :
    let text := "42 0 0 320 240\n\n42 0 0 0 0 10 10 20 20 160 0 320 240\r\n".toList
    let records : List HotRecord :=
      [⟨42, [⟨0, ⟨0, 0, 320, 240⟩⟩]⟩, ⟨42, [⟨0, ⟨10, 10, 10, 10⟩⟩, ⟨1, ⟨160, 0, 160, 240⟩⟩]⟩]
    let entry : Entry := ⟨0, "map.mov", #v[2, 42, 0, 0, 0, 0, 100, 1, 100, 3, 0, 0, 0, 0, 0, 0, 0, 0,
      0, 0, 0, 0, 0, 0]⟩
    HotRecord.readText text = .ok records ∧
    ∀ offset, entry.zoneTransition (HotZoneIndex.ofRecords "map.hot" records).1 ⟨200, 10⟩
        ⟨some 42⟩ = some ⟨offset⟩ ↔
      ∃ corners slot condition, HotRecord.IsLastLine (Text.lines text) 42 corners ∧
        (HotRecord.rectangles corners).findIdx? (·.surrounds ⟨200, 10⟩) = some slot ∧
        entry.conditionAt slot = .ok condition ∧ condition.isEmpty = false ∧
        condition.offset = offset := by
  intro text records entry
  have hReads : HotRecord.readText text = .ok records := by decide +kernel
  exact ⟨hReads, (zoneTransition_iff_last_line hReads "map.hot" entry 42 ⟨200, 10⟩).1⟩

end Entry
end BranchingMovie
