import BranchingMovie.Proofs.HotZone.Catalog
import BranchingMovie.Proofs.HotZone.Clicks

/-!
# Dead slots

A rectangle of a click map belongs to a condition slot, and when the condition in the slot is not
used, the rectangle leads nowhere: its slot is dead (`HotZoneCatalog.HasDeadSlot`).  The catalog
warns of every dead slot of every still frame, and of no other (`load_warns_of_dead_slots`).  Where
it does not warn, every click into a rectangle leads somewhere.
-/

namespace BranchingMovie

/-! ## The slots of a click map -/

namespace HotRecord

/-- There is a condition slot for every zone that is read. -/
theorem slot_lt {text : List Char} {records : List HotRecord} (h : readText text = .ok records)
    {record : HotRecord} (hRecord : record ∈ records) {zone : HotZone}
    (hZone : zone ∈ record.zones) : zone.slot < conditionSlots := by
  obtain ⟨line, -, hLine⟩ := (mem_of_readLines h).1 hRecord
  obtain ⟨corners, -, hFew, hZones⟩ := readLine_some_iff.1 hLine
  rw [hZones, zonesOf, quads_flatMap_coordinates] at hZone
  obtain ⟨⟨quad, slot⟩, hQuad, rfl⟩ := List.mem_map.1 hZone
  have hSlot := List.snd_lt_of_mem_zipIdx hQuad
  have hLength := length_rectangles_le corners
  simp only [rectangles, maxZones, conditionSlots] at *
  omega

end HotRecord

namespace HotZoneIndex

/-- The zone is one of those on a frame. -/
def HasZone (index : HotZoneIndex) (frame : Int32) (zone : HotZone) : Prop :=
  ∃ zones, index.zonesOn frame = .ok zones ∧ zone ∈ zones

theorem zonesOn_ok_iff {index : HotZoneIndex} {frame : Int32} {zones : List HotZone} :
    index.zonesOn frame = .ok zones ↔ index.frames.get? frame = some zones := by
  unfold zonesOn
  cases index.frames.get? frame <;> simp

theorem isAscending_addRecords {index : HotZoneIndex} (h : index.frames.IsAscending)
    (name : String) (records : List HotRecord) :
    (addRecords name index records).1.frames.IsAscending := by
  induction records generalizing index with
  | nil => exact h
  | cons record records ih => exact ih (h.insert record.frame record.zones)

theorem isAscending_ofRecords (name : String) (records : List HotRecord) :
    (ofRecords name records).1.frames.IsAscending :=
  isAscending_addRecords Table.isAscending_empty name records

/-! ## Collecting slots -/

theorem mem_addSlot {slot other : Nat} {slots : List Nat} :
    other ∈ addSlot slot slots ↔ other = slot ∨ other ∈ slots := by
  induction slots with
  | nil => simp [addSlot]
  | cons first slots ih =>
    unfold addSlot
    split
    · simp
    · split
      · rename_i hSame
        simp [hSame]
      · simp only [List.mem_cons, ih]
        exact or_left_comm

theorem pairwise_addSlot {slots : List Nat} (h : slots.Pairwise (· < ·)) (slot : Nat) :
    (addSlot slot slots).Pairwise (· < ·) := by
  induction slots with
  | nil => exact List.pairwise_singleton ..
  | cons first slots ih =>
    obtain ⟨hFirst, hSlots⟩ := List.pairwise_cons.1 h
    unfold addSlot
    split
    · rename_i hBefore
      refine List.pairwise_cons.2 ⟨fun other hOther => ?_, h⟩
      rcases List.mem_cons.1 hOther with rfl | hRest
      · exact hBefore
      · exact Nat.lt_trans hBefore (hFirst other hRest)
    · split
      · exact h
      · refine List.pairwise_cons.2 ⟨fun other hOther => ?_, ih hSlots⟩
        rcases mem_addSlot.1 hOther with rfl | hRest
        · omega
        · exact hFirst other hRest

/-- Each used slot is listed once. -/
theorem nodup_usedSlots (index : HotZoneIndex) : index.usedSlots.Nodup := by
  have hAscending : ∀ slots : List Nat, (slots.foldr addSlot []).Pairwise (· < ·) := by
    intro slots
    induction slots with
    | nil => exact .nil
    | cons slot slots ih => exact pairwise_addSlot ih slot
  exact (hAscending _).imp Nat.ne_of_lt

/-- A slot is used when a zone on some frame is in it. -/
theorem mem_usedSlots_iff {index : HotZoneIndex} (h : index.frames.IsAscending) {slot : Nat} :
    slot ∈ index.usedSlots ↔ ∃ frame zone, index.HasZone frame zone ∧ zone.slot = slot := by
  have hMem : ∀ slots : List Nat, slot ∈ slots.foldr addSlot [] ↔ slot ∈ slots := by
    intro slots
    induction slots with
    | nil => exact Iff.rfl
    | cons first slots ih => rw [List.foldr_cons, mem_addSlot, ih, List.mem_cons]
  simp only [usedSlots, hMem, List.mem_flatMap, List.mem_map, h.mem_values_iff, HasZone,
    zonesOn_ok_iff]
  constructor
  · rintro ⟨zones, ⟨frame, hZones⟩, zone, hZone, hSlot⟩
    exact ⟨frame, zone, ⟨zones, hZones, hZone⟩, hSlot⟩
  · rintro ⟨frame, zone, ⟨zones, hZones, hZone⟩, hSlot⟩
    exact ⟨zones, ⟨frame, hZones⟩, zone, hZone, hSlot⟩

end HotZoneIndex

/-! ## Dead slots -/

/-- A slot without an offset has no condition in use, or there is no such slot. -/
theorem Entry.slotOffset?_eq_none_iff {entry : Entry} {slot : Nat} (h : slot < conditionSlots) :
    entry.slotOffset? slot = none ↔
      ∃ condition, entry.conditionAt slot = .ok condition ∧ condition.isEmpty = true := by
  rw [slotOffset?, conditionAt, dif_pos h, dif_pos h]
  cases hEmpty : (entry.condition ⟨slot, h⟩).isEmpty <;> simp [hEmpty]

namespace HotZoneCatalog

variable {config : Config} {store : AssetStore}

/-- A still frame has a rectangle in the slot, on some frame of its clip, and no condition in use
there. -/
def HasDeadSlot (catalog : HotZoneCatalog) (entry : Entry) (slot : Nat) : Prop :=
  Opcode.ofCode? entry.opcode = some .stillFrame ∧ ∃ index, catalog.get? entry.name = some index ∧
    (∃ frame zone, index.HasZone frame zone ∧ zone.slot = slot) ∧
    ∃ condition, entry.conditionAt slot = .ok condition ∧ condition.isEmpty = true

/-- The dead slots of an entry, in ascending order. -/
def deadSlotsOf (catalog : HotZoneCatalog) (entry : Entry) : List Nat :=
  if Opcode.ofCode? entry.opcode = some .stillFrame then
    match catalog.get? entry.name with
    | none => []
    | some index =>
      index.usedSlots.filter fun slot => slot < conditionSlots && (entry.slotOffset? slot).isNone
  else []

theorem nodup_deadSlotsOf (catalog : HotZoneCatalog) (entry : Entry) :
    (catalog.deadSlotsOf entry).Nodup := by
  unfold deadSlotsOf
  split
  · split
    · exact .nil
    · exact (HotZoneIndex.nodup_usedSlots _).filter _
  · exact .nil

theorem mem_deadSlotsOf_iff {catalog : HotZoneCatalog} {entry : Entry} {slot : Nat}
    (h : ∀ index, catalog.get? entry.name = some index → index.frames.IsAscending) :
    slot ∈ catalog.deadSlotsOf entry ↔ catalog.HasDeadSlot entry slot := by
  unfold deadSlotsOf HasDeadSlot
  split
  · rename_i hCode
    split
    · rename_i hNone
      simp [hNone]
    · rename_i index hIndex
      simp only [List.mem_filter, HotZoneIndex.mem_usedSlots_iff (h index hIndex),
        Bool.and_eq_true, decide_eq_true_eq, Option.isNone_iff_eq_none]
      constructor
      · rintro ⟨hUsed, hSlot, hNone⟩
        exact ⟨hCode, index, hIndex, hUsed, (Entry.slotOffset?_eq_none_iff hSlot).1 hNone⟩
      · rintro ⟨-, other, hOther, hUsed, hDead⟩
        obtain rfl := Option.some.inj (hIndex.symm.trans hOther)
        have hSlot : slot < conditionSlots := by
          obtain ⟨condition, hCondition, -⟩ := hDead
          by_contra hBeyond
          rw [Entry.conditionAt, dif_neg hBeyond] at hCondition
          cases hCondition
        exact ⟨hUsed, hSlot, (Entry.slotOffset?_eq_none_iff hSlot).2 hDead⟩
  · rename_i hCode
    simp [hCode]

/-- The warnings about a still frame name its dead slots. -/
theorem deadSlots_eq {catalog : HotZoneCatalog} {entry : Entry}
    (h : Opcode.ofCode? entry.opcode = some .stillFrame) (script : String) :
    catalog.deadSlots script entry (Asset.key entry.name) =
      (catalog.deadSlotsOf entry).map (deadSlot script entry (Asset.key entry.name)) := by
  rw [deadSlotsOf, if_pos h, deadSlots, get?]
  cases catalog.clips.get? (Asset.key entry.name) <;> rfl

/-- The warnings about a graph name the dead slots of its entries, one entry after the other. -/
theorem allDeadSlots_stillFrames (catalog : HotZoneCatalog) (graph : NodeGraph) :
    catalog.allDeadSlots graph.stillFrames = graph.scripts.flatMap fun script =>
      script.entries.flatMap fun entry =>
        (catalog.deadSlotsOf entry).map (deadSlot script.name entry (Asset.key entry.name)) := by
  rw [allDeadSlots, NodeGraph.stillFrames, List.flatMap_assoc]
  refine List.flatMap_congr fun script _ => ?_
  rw [List.flatMap_map]
  induction script.entries with
  | nil => rfl
  | cons entry entries ih =>
    rw [List.flatMap_cons, ← ih, List.filter_cons]
    split
    · rename_i hCode
      rw [List.flatMap_cons, deadSlots_eq (beq_iff_eq.1 hCode)]
    · rename_i hCode
      rw [deadSlotsOf, if_neg fun hStill => hCode (beq_iff_eq.2 hStill)]
      rfl

/-- The zones of a clip in a loaded catalog: its frames are in order, and there is a condition slot
for each of the zones. -/
theorem index_of_load {graph : NodeGraph} {catalog : HotZoneCatalog} {warnings : List String}
    (h : load config store graph = (.ok catalog, warnings)) {name : String} {index : HotZoneIndex}
    (hIndex : catalog.get? name = some index) :
    index.frames.IsAscending ∧
      ∀ frame zone, index.HasZone frame zone → zone.slot < conditionSlots := by
  rw [get?_of_load h] at hIndex
  split at hIndex
  · obtain ⟨records, ⟨_, bytes, -, -, hRecords⟩, rfl⟩ := AssetStore.zones?_eq_some_iff.1 hIndex
    refine ⟨HotZoneIndex.isAscending_ofRecords _ records, fun frame zone hZone => ?_⟩
    obtain ⟨zones, hZones, hMem⟩ := hZone
    rw [HotZoneIndex.zonesOn_ok_iff, HotZoneIndex.get?_ofRecords] at hZones
    obtain ⟨record, hRecord, rfl⟩ := Option.map_eq_some_iff.1 hZones
    have hListed := List.mem_reverse.1 (List.mem_of_find?_eq_some hRecord)
    exact HotRecord.slot_lt hRecords hListed hMem
  · cases hIndex

/-- A click into a rectangle leads somewhere when no zone of the frame is dead. -/
theorem exists_zoneTransition {entry : Entry} {index : HotZoneIndex} {frame : Int32}
    {zone : HotZone} {point : Point} (hZone : index.HasZone frame zone)
    (hAround : zone.rect.contains point.x point.y = true)
    (hAlive : ∀ other, index.HasZone frame other →
      ∃ offset, entry.slotOffset? other.slot = some offset) :
    ∃ offset, entry.zoneTransition index point ⟨some frame⟩ = some ⟨offset⟩ := by
  obtain ⟨zones, hZones, hMem⟩ := hZone
  have hFound : (zones.find? fun other => other.rect.contains point.x point.y).isSome = true :=
    List.find?_isSome.2 ⟨zone, hMem, hAround⟩
  obtain ⟨first, hFirst⟩ := Option.isSome_iff_exists.1 hFound
  obtain ⟨offset, hOffset⟩ := hAlive first ⟨zones, hZones, List.mem_of_find?_eq_some hFirst⟩
  exact ⟨offset, Entry.zoneTransition_eq_some_iff.2
    ⟨zones, first, HotZoneIndex.zonesOn_ok_iff.1 hZones, hFirst, hOffset⟩⟩

/-- **Dead slots are always reported.**  Take a graph whose click maps were loaded.
* If no warning is about a dead slot, every click into a rectangle leads somewhere: whatever still
  frame the run is at, whatever frame of its clip is on display.
* The warnings about dead slots are those about the dead slots of the entries, script by script and
  entry by entry, and none of them is repeated. -/
theorem load_warns_of_dead_slots {graph : NodeGraph} {catalog : HotZoneCatalog}
    {warnings : List String} (h : load config store graph = (.ok catalog, warnings)) :
    (warnings.filter isDeadSlot = [] →
      ∀ entry index, graph.HasStillFrame entry → catalog.get? entry.name = some index →
        ∀ frame zone point, index.HasZone frame zone →
          zone.rect.contains point.x point.y = true →
          ∃ offset, entry.zoneTransition index point ⟨some frame⟩ = some ⟨offset⟩) ∧
    ∃ slotsOf : Entry → List Nat,
      (∀ entry, (slotsOf entry).Nodup) ∧
      (∀ entry slot, slot ∈ slotsOf entry ↔ catalog.HasDeadSlot entry slot) ∧
      warnings.filter isDeadSlot = graph.scripts.flatMap fun script =>
        script.entries.flatMap fun entry =>
          (slotsOf entry).map (deadSlot script.name entry (Asset.key entry.name)) := by
  have hWarnings : warnings.filter isDeadSlot = graph.scripts.flatMap fun script =>
      script.entries.flatMap fun entry => (catalog.deadSlotsOf entry).map
        (deadSlot script.name entry (Asset.key entry.name)) := by
    obtain ⟨-, after, others, hLoad, hDead, -⟩ | ⟨-, fault, others, hLoad⟩ :=
      loadFrames_cases (@isRight_empty config store) graph.stillFrames
    · obtain ⟨hOk, rfl⟩ := Prod.mk.inj (hLoad.symm.trans h)
      obtain rfl := Except.ok.inj hOk
      rw [hDead, allDeadSlots_stillFrames]
    · cases hLoad.symm.trans h
  have hSlots : ∀ entry slot, slot ∈ catalog.deadSlotsOf entry ↔ catalog.HasDeadSlot entry slot :=
    fun entry slot => mem_deadSlotsOf_iff fun index hIndex => (index_of_load h hIndex).1
  refine ⟨fun hQuiet entry index hEntry hIndex frame zone point hZone hAround => ?_,
    catalog.deadSlotsOf, catalog.nodup_deadSlotsOf, hSlots, hWarnings⟩
  refine exists_zoneTransition hZone hAround fun other hOther => ?_
  by_contra hNone
  -- the slot of the zone would be dead, and there would be a warning about it
  have hOffset : entry.slotOffset? other.slot = none :=
    Option.eq_none_iff_forall_not_mem.2 fun offset hOffset => hNone ⟨offset, hOffset⟩
  have hSlot := (index_of_load h hIndex).2 frame other hOther
  obtain ⟨script, hScript, hListed, hCode⟩ := hEntry
  have hUnused := (Entry.slotOffset?_eq_none_iff hSlot).1 hOffset
  have hDead : catalog.HasDeadSlot entry other.slot :=
    ⟨hCode, index, hIndex, ⟨frame, other, hOther, rfl⟩, hUnused⟩
  have hTold : deadSlot script.name entry (Asset.key entry.name) other.slot ∈
      warnings.filter isDeadSlot := by
    rw [hWarnings]
    exact List.mem_flatMap.2 ⟨script, hScript, List.mem_flatMap.2 ⟨entry, hListed,
      List.mem_map.2 ⟨other.slot, (hSlots entry other.slot).2 hDead, rfl⟩⟩⟩
  rw [hQuiet] at hTold
  cases hTold

/-- Two still frames of one clip, and a warning about the second one only, whose second rectangle
leads nowhere.  Without that frame there is no warning, and a click into the second rectangle leads
somewhere. -/
theorem load_warns_of_dead_slots_of_shared_clip :
    let first := mapFrame 0 "CD1/Map.mov" 100 100
    let second := mapFrame 1 "MAP.MOV" 100 0
    (∃ (catalog : HotZoneCatalog) (slotsOf : Entry → List Nat),
      load {} mapFolder (mapRoom [first, second]) = (.ok catalog,
        ["hotzone: room.nod[1]: map.mov has rectangles in slot 1 but no condition there"]) ∧
      (∀ entry slot, slot ∈ slotsOf entry ↔ catalog.HasDeadSlot entry slot) ∧
      ["hotzone: room.nod[1]: map.mov has rectangles in slot 1 but no condition there"] =
        (slotsOf first).map (deadSlot "room.nod" first "map.mov") ++
          (slotsOf second).map (deadSlot "room.nod" second "map.mov")) ∧
    ∃ catalog index, load {} mapFolder (mapRoom [first]) = (.ok catalog, []) ∧
      catalog.get? first.name = some index ∧
      ∃ offset, first.zoneTransition index ⟨15, 15⟩ ⟨some 7⟩ = some ⟨offset⟩ := by
  intro first second
  let zones : List HotZone := [⟨0, ⟨0, 0, 9, 9⟩⟩, ⟨1, ⟨10, 10, 10, 10⟩⟩]
  let index : HotZoneIndex := ⟨⟨[(7, zones)]⟩⟩
  have hShared : load {} mapFolder (mapRoom [first, second]) = (.ok ⟨⟨[("map.mov", index)]⟩⟩,
      ["hotzone: room.nod[1]: map.mov has rectangles in slot 1 but no condition there"]) := by
    decide +kernel
  have hAlone : load {} mapFolder (mapRoom [first]) = (.ok ⟨⟨[("map.mov", index)]⟩⟩, []) := by
    decide +kernel
  have hKeys : Asset.key first.name = "map.mov" ∧ Asset.key second.name = "map.mov" := by
    decide +kernel
  have hScripts : (mapRoom [first, second]).scripts = [⟨"room.nod", [first, second]⟩] := rfl
  obtain ⟨-, slotsOf, -, hSlots, hWarnings⟩ := load_warns_of_dead_slots hShared
  have hLeads := (load_warns_of_dead_slots hAlone).1 rfl first index
    ⟨⟨"room.nod", [first]⟩, List.mem_singleton_self _, List.mem_singleton_self _, by decide⟩
    (by decide +kernel) 7 ⟨1, ⟨10, 10, 10, 10⟩⟩ ⟨15, 15⟩ ⟨zones, rfl, by decide⟩ (by decide)
  refine ⟨⟨_, slotsOf, hShared, hSlots, ?_⟩, _, index, hAlone, by decide +kernel, hLeads⟩
  rw [hScripts, List.filter_cons_of_pos (by decide +kernel)] at hWarnings
  simpa [hKeys.1, hKeys.2] using hWarnings

end HotZoneCatalog
end BranchingMovie
