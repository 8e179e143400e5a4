import Mathlib.Data.List.Basic
import BranchingMovie.HotZone.Catalog
import BranchingMovie.Proofs.Outcome

/-!
# What the catalog of click maps holds

The catalog is filled while the still frames of a graph are gone through, and a click map is read
when the first still frame of its clip is met.  Whatever the order, and however often a clip is met,
the catalog ends up as if the click map of each clip had been looked up by itself
(`loadFrames_cases`): `AssetStore.zones?` is what a clip has in the end, and `Reads` what it needs.

`load_finds` says the same of loading: it succeeds when every click map that is there can be read,
and a still frame finds its zones when there is a click map for it.
-/

namespace BranchingMovie

variable {config : Config} {store : AssetStore}

/-! ## One click map -/

namespace AssetStore

/-- There is a file for the click map of a clip. -/
def HasClickMap (config : Config) (store : AssetStore) (clip : String) : Prop :=
  store.data.contains (config.hotZoneName (Asset.key clip)) = true

/-- The click map of a clip is found and read, and these are its records. -/
def ReadsClickMap (config : Config) (store : AssetStore) (clip : String)
    (records : List HotRecord) : Prop :=
  ∃ path bytes, store.data.locate (config.hotZoneName (Asset.key clip)) = .ok path ∧
    store.read path = .ok bytes ∧ HotRecord.readBytes bytes = .ok records

/-- What the click map of a clip, given by its key, makes of the clip, if there is one and it can be
read. -/
def zones? (config : Config) (store : AssetStore) (key : String) : Option HotZoneIndex :=
  if store.data.contains (config.hotZoneName key) then
    (HotZoneCatalog.readIndex store (config.hotZoneName key)).1.toOption
  else none

/-- The click map of a clip, given by its key, can be read if there is one. -/
def Reads (config : Config) (store : AssetStore) (key : String) : Prop :=
  store.data.contains (config.hotZoneName key) = true →
    ∃ index, store.zones? config key = some index

/-- A click map is read when its file is found, read and understood. -/
theorem readIndex_ok {name : String} {index : HotZoneIndex} :
    (HotZoneCatalog.readIndex store name).1 = .ok index ↔
      ∃ path bytes records, store.data.locate name = .ok path ∧ store.read path = .ok bytes ∧
        HotRecord.readBytes bytes = .ok records ∧
        index = (HotZoneIndex.ofRecords name records).1 := by
  unfold HotZoneCatalog.readIndex fetch
  cases hPath : store.data.locate name with
  | error cause => simp
  | ok path =>
    cases hRead : store.read path with
    | error cause => simp [Except.mapError, hRead]
    | ok bytes =>
      cases hRecords : HotRecord.readBytes bytes with
      | error cause => simp [Except.mapError, hRead, hRecords]
      | ok records => simp [Except.mapError, hRead, hRecords, eq_comm]

/-- A clip has the zones that the records of its click map give. -/
theorem zones?_eq_some_iff {clip : String} {index : HotZoneIndex} :
    store.zones? config (Asset.key clip) = some index ↔
      ∃ records, store.ReadsClickMap config clip records ∧
        index = (HotZoneIndex.ofRecords (config.hotZoneName (Asset.key clip)) records).1 := by
  unfold zones? ReadsClickMap
  constructor
  · intro h
    split at h
    · obtain ⟨path, bytes, records, hPath, hRead, hRecords, hIndex⟩ :=
        readIndex_ok.1 (Outcome.toOption_eq_some.1 h)
      exact ⟨records, ⟨path, bytes, hPath, hRead, hRecords⟩, hIndex⟩
    · cases h
  · rintro ⟨records, ⟨path, bytes, hPath, hRead, hRecords⟩, hIndex⟩
    rw [if_pos (DataDir.contains_iff.2 ⟨path, hPath⟩)]
    exact Outcome.toOption_eq_some.2
      (readIndex_ok.2 ⟨path, bytes, records, hPath, hRead, hRecords, hIndex⟩)

/-- A click map that is there can be read when its records can. -/
theorem reads_iff {clip : String} :
    store.Reads config (Asset.key clip) ↔
      (store.HasClickMap config clip → ∃ records, store.ReadsClickMap config clip records) := by
  unfold Reads HasClickMap
  simp only [zones?_eq_some_iff]
  constructor
  · intro h hThere
    obtain ⟨_, records, hRecords, -⟩ := h hThere
    exact ⟨records, hRecords⟩
  · intro h hThere
    obtain ⟨records, hRecords⟩ := h hThere
    exact ⟨_, records, hRecords, rfl⟩

/-- Only a clip with a click map has zones. -/
theorem contains_of_zones? {key : String} {index : HotZoneIndex}
    (h : store.zones? config key = some index) :
    store.data.contains (config.hotZoneName key) = true := by
  unfold zones? at h
  split at h
  · assumption
  · cases h

/-- A clip without click map has no zones. -/
theorem zones?_of_missing {key : String}
    (h : ¬ store.data.contains (config.hotZoneName key) = true) :
    store.zones? config key = none :=
  if_neg h

end AssetStore

/-! ## Warnings -/

theorem Text.suffix_toList_append (front back : String) :
    back.toList <:+ (front ++ back).toList := by
  rw [String.toList_append]
  exact List.suffix_append ..

namespace HotZoneCatalog

/-- The text is a warning about a slot with a rectangle and without a condition. -/
def isDeadSlot (warning : String) : Bool :=
  " but no condition there".toList.isSuffixOf warning.toList

theorem isDeadSlot_deadSlot (script : String) (entry : Entry) (clip : String) (slot : Nat) :
    isDeadSlot (deadSlot script entry clip slot) = true := by
  have hEnd : " but no condition there".toList <:+ (deadSlot script entry clip slot).toList :=
    Text.suffix_toList_append _ _
  exact List.isSuffixOf_iff_suffix.2 hEnd

/-- That a click map lists a frame twice is another matter. -/
theorem isDeadSlot_repeatedFrame (name : String) (frame : Int32) :
    isDeadSlot (HotZoneIndex.repeatedFrame name frame) = false := by
  have hEnd : " listed twice; keeping the later record".toList <:+
      (HotZoneIndex.repeatedFrame name frame).toList := Text.suffix_toList_append _ _
  refine Bool.eq_false_iff.2 fun hDead => ?_
  -- two ends of one text: the shorter would be an end of the longer
  rcases List.suffix_or_suffix_of_suffix hEnd (List.isSuffixOf_iff_suffix.1 hDead) with h | h
  · exact absurd h (by decide)
  · exact absurd h (by decide)

theorem filter_addRecords (name : String) (index : HotZoneIndex) (records : List HotRecord) :
    (HotZoneIndex.addRecords name index records).2.filter isDeadSlot = [] := by
  induction records generalizing index with
  | nil => rfl
  | cons record records ih =>
    simp only [HotZoneIndex.addRecords]
    split
    · rw [List.filter_cons_of_neg, ih]
      rw [isDeadSlot_repeatedFrame]
      exact Bool.false_ne_true
    · exact ih _

/-- Reading a click map warns of no dead slot. -/
theorem filter_readIndex (store : AssetStore) (name : String) :
    (readIndex store name).2.filter isDeadSlot = [] := by
  unfold readIndex
  split
  · rfl
  · split
    · rfl
    · exact filter_addRecords _ _ _

theorem filter_deadSlots (catalog : HotZoneCatalog) (script : String) (entry : Entry)
    (clip : String) :
    (catalog.deadSlots script entry clip).filter isDeadSlot =
      catalog.deadSlots script entry clip := by
  refine List.filter_eq_self.2 fun warning hWarning => ?_
  unfold deadSlots at hWarning
  split at hWarning
  · cases hWarning
  · obtain ⟨slot, -, rfl⟩ := List.mem_map.1 hWarning
    exact isDeadSlot_deadSlot script entry clip slot

/-! ## Filling the catalog -/

/-- What the catalog holds is right. -/
def IsRight (config : Config) (store : AssetStore) (catalog : HotZoneCatalog) : Prop :=
  ∀ key index, catalog.clips.get? key = some index → store.zones? config key = some index

theorem isRight_empty : empty.IsRight config store := by
  intro key index h
  cases h

/-- What is asked for is in the catalog afterwards, if it can be read, and nothing else changes. -/
theorem require_cases {catalog : HotZoneCatalog} (h : catalog.IsRight config store)
    (key : String) :
    (store.Reads config key ∧ ∃ after warnings,
      catalog.require config store key = (.ok after, warnings) ∧
      warnings.filter isDeadSlot = [] ∧
      ∀ other, after.clips.get? other =
        if key = other then store.zones? config key else catalog.clips.get? other) ∨
    (¬ store.Reads config key ∧ ∃ fault warnings,
      catalog.require config store key = (.error fault, warnings)) := by
  unfold require
  split
  · rename_i index hGet
    have hZones := h key index hGet
    refine .inl ⟨fun _ => ⟨index, hZones⟩, catalog, [], rfl, rfl, fun other => ?_⟩
    split
    · rename_i hSame
      rw [← hSame, hGet, hZones]
    · rfl
  · rename_i hGet
    simp only
    split
    · rename_i hThere
      have hZones : store.zones? config key =
          (readIndex store (config.hotZoneName key)).1.toOption := if_pos hThere
      have hWarnings := filter_readIndex store (config.hotZoneName key)
      split
      · rename_i fault warnings hRead
        rw [hRead] at hZones
        refine .inr ⟨fun hReads => ?_, fault, warnings, rfl⟩
        obtain ⟨index, hIndex⟩ := hReads hThere
        rw [hZones] at hIndex
        cases hIndex
      · rename_i index warnings hRead
        rw [hRead] at hZones hWarnings
        refine .inl ⟨fun _ => ⟨index, hZones⟩, _, warnings, rfl, hWarnings, fun other => ?_⟩
        rw [Table.get?_insert, hZones]
        rfl
    · rename_i hMissing
      refine .inl ⟨fun hThere => absurd hThere hMissing, catalog, [], rfl, rfl, fun other => ?_⟩
      split
      · rename_i hSame
        rw [← hSame, hGet, AssetStore.zones?_of_missing hMissing]
      · rfl

theorem IsRight.of_require {catalog after : HotZoneCatalog} (h : catalog.IsRight config store)
    {key : String} (hAfter : ∀ other, after.clips.get? other =
      if key = other then store.zones? config key else catalog.clips.get? other) :
    after.IsRight config store := by
  intro other index hIndex
  rw [hAfter] at hIndex
  split at hIndex
  · rename_i hSame
    rwa [← hSame]
  · exact h other index hIndex

/-- The keys of the clips of still frames. -/
def clipKeys (frames : List (String × Entry)) : List String :=
  frames.map fun frame => Asset.key frame.2.name

/-- The warnings about still frames, one frame after the other. -/
def allDeadSlots (catalog : HotZoneCatalog) (frames : List (String × Entry)) : List String :=
  frames.flatMap fun frame => catalog.deadSlots frame.1 frame.2 (Asset.key frame.2.name)

theorem deadSlots_congr {catalog other : HotZoneCatalog} {clip : String}
    (h : other.clips.get? clip = catalog.clips.get? clip) (script : String) (entry : Entry) :
    other.deadSlots script entry clip = catalog.deadSlots script entry clip := by
  rw [deadSlots, deadSlots, h]

/-- **Going through still frames** comes to an end when each of their click maps can be read.  Then
the clips of the frames have the zones of their click maps, and the warnings about dead slots are
those about the frames, with the zones that the clips have in the end. -/
theorem loadFrames_cases {catalog : HotZoneCatalog} (h : catalog.IsRight config store)
    (frames : List (String × Entry)) :
    ((∀ key ∈ clipKeys frames, store.Reads config key) ∧ ∃ after warnings,
      catalog.loadFrames config store frames = (.ok after, warnings) ∧
      warnings.filter isDeadSlot = after.allDeadSlots frames ∧
      ∀ key, after.clips.get? key =
        if key ∈ clipKeys frames then store.zones? config key else catalog.clips.get? key) ∨
    ((∃ key ∈ clipKeys frames, ¬ store.Reads config key) ∧ ∃ fault warnings,
      catalog.loadFrames config store frames = (.error fault, warnings)) := by
  induction frames generalizing catalog with
  | nil =>
    refine .inl ⟨fun key hKey => absurd hKey List.not_mem_nil, catalog, [], rfl, rfl, fun key => ?_⟩
    exact (if_neg List.not_mem_nil).symm
  | cons frame frames ih =>
    obtain ⟨script, entry⟩ := frame
    have hKeys : clipKeys ((script, entry) :: frames) =
        Asset.key entry.name :: clipKeys frames := rfl
    rw [loadFrames, hKeys]
    obtain ⟨hReads, found, warnings, hRequire, hQuiet, hFound⟩ |
      ⟨hUnread, fault, warnings, hRequire⟩ := require_cases h (Asset.key entry.name)
    · simp only [hRequire]
      obtain ⟨hRest, after, later, hLoad, hLater, hAfter⟩ | ⟨⟨key, hKey, hUnread⟩, fault, later,
        hLoad⟩ := ih (h.of_require hFound)
      · rw [hLoad]
        -- the clip of the first frame keeps its zones while the others are loaded
        have hFirst : found.clips.get? (Asset.key entry.name) =
            after.clips.get? (Asset.key entry.name) := by
          rw [hAfter, hFound, if_pos rfl]
          split <;> rfl
        refine .inl ⟨List.forall_mem_cons.2 ⟨hReads, hRest⟩, after, _, rfl, ?_, fun key => ?_⟩
        · rw [List.filter_append, List.filter_append, hQuiet, hLater, filter_deadSlots,
            deadSlots_congr hFirst]
          rfl
        · rw [hAfter, hFound]
          by_cases hRestKey : key ∈ clipKeys frames
          · rw [if_pos hRestKey, if_pos (List.mem_cons_of_mem _ hRestKey)]
          · rw [if_neg hRestKey]
            by_cases hSame : Asset.key entry.name = key
            · rw [if_pos hSame, if_pos (hSame ▸ List.mem_cons_self), hSame]
            · have hNot : key ∉ Asset.key entry.name :: clipKeys frames := by
                rw [List.mem_cons]
                exact fun hMem => hMem.elim (fun hKey => hSame hKey.symm) hRestKey
              rw [if_neg hSame, if_neg hNot]
      · rw [hLoad]
        exact .inr ⟨⟨key, List.mem_cons_of_mem _ hKey, hUnread⟩, fault, _, rfl⟩
    · simp only [hRequire]
      exact .inr ⟨⟨_, List.mem_cons_self, hUnread⟩, fault, warnings, rfl⟩

end HotZoneCatalog

/-! ## The still frames of a graph -/

namespace NodeGraph

/-- The entry is a still frame in one of the scripts. -/
def HasStillFrame (graph : NodeGraph) (entry : Entry) : Prop :=
  ∃ script ∈ graph.scripts, entry ∈ script.entries ∧
    Opcode.ofCode? entry.opcode = some .stillFrame

theorem hasStillFrame_iff {graph : NodeGraph} {entry : Entry} :
    graph.HasStillFrame entry ↔ ∃ script, (script, entry) ∈ graph.stillFrames := by
  simp only [HasStillFrame, stillFrames, List.mem_flatMap, List.mem_map, List.mem_filter,
    beq_iff_eq]
  constructor
  · rintro ⟨script, hScript, hEntry, hCode⟩
    exact ⟨script.name, script, hScript, entry, ⟨hEntry, hCode⟩, rfl⟩
  · rintro ⟨_, script, hScript, other, ⟨hEntry, hCode⟩, hSame⟩
    obtain ⟨-, rfl⟩ := Prod.mk.inj hSame
    exact ⟨script, hScript, hEntry, hCode⟩

theorem mem_clipKeys {graph : NodeGraph} {key : String} :
    key ∈ HotZoneCatalog.clipKeys graph.stillFrames ↔
      ∃ entry, graph.HasStillFrame entry ∧ Asset.key entry.name = key := by
  simp only [HotZoneCatalog.clipKeys, List.mem_map, hasStillFrame_iff]
  constructor
  · rintro ⟨⟨script, entry⟩, hFrame, hKey⟩
    exact ⟨entry, ⟨script, hFrame⟩, hKey⟩
  · rintro ⟨entry, ⟨script, hFrame⟩, hKey⟩
    exact ⟨(script, entry), hFrame, hKey⟩

/-- A still frame under a pointer is one of the graph. -/
theorem hasStillFrame_of_lookup {graph : NodeGraph} {pointer : NodePointer} {entry : Entry}
    (h : graph.lookup pointer = .ok entry)
    (hCode : Opcode.ofCode? entry.opcode = some .stillFrame) :
    graph.HasStillFrame entry := by
  unfold lookup at h
  split at h
  · cases h
  · rename_i script hScript
    split at h
    · cases h
    · rename_i found hFound
      cases h
      unfold Script.get? at hFound
      split at hFound
      · cases hFound
      · exact ⟨script, Table.mem_values_of_get? hScript, List.mem_of_getElem? hFound, hCode⟩

end NodeGraph

/-! ## Loading -/

namespace HotZoneCatalog

/-- The click maps are loaded when every one that a still frame has can be read. -/
theorem load_ok_iff {graph : NodeGraph} :
    (∃ catalog warnings, load config store graph = (.ok catalog, warnings)) ↔
      ∀ key ∈ clipKeys graph.stillFrames, store.Reads config key := by
  obtain ⟨hReads, catalog, warnings, hLoad, -⟩ | ⟨⟨key, hKey, hUnread⟩, fault, warnings, hLoad⟩ :=
    loadFrames_cases (@isRight_empty config store) graph.stillFrames
  · exact ⟨fun _ => hReads, fun _ => ⟨catalog, warnings, hLoad⟩⟩
  · refine ⟨?_, fun hReads => absurd (hReads key hKey) hUnread⟩
    rintro ⟨catalog, others, hOk⟩
    cases hLoad.symm.trans hOk

/-- A clip is in the catalog when it has zones and a still frame. -/
theorem get?_of_load {graph : NodeGraph} {catalog : HotZoneCatalog} {warnings : List String}
    (h : load config store graph = (.ok catalog, warnings)) (clip : String) :
    catalog.get? clip = if Asset.key clip ∈ clipKeys graph.stillFrames then
      store.zones? config (Asset.key clip) else none := by
  obtain ⟨-, after, _, hLoad, -, hAfter⟩ | ⟨-, fault, _, hLoad⟩ :=
    loadFrames_cases (@isRight_empty config store) graph.stillFrames
  · rw [load, hLoad] at h
    cases h
    exact hAfter (Asset.key clip)
  · rw [load, hLoad] at h
    cases h

/-- The click maps that must be readable are those of the clips that have a still frame. -/
theorem reads_clipKeys_iff {graph : NodeGraph} :
    (∀ key ∈ clipKeys graph.stillFrames, store.Reads config key) ↔
      ∀ entry, graph.HasStillFrame entry → store.HasClickMap config entry.name →
        ∃ records, store.ReadsClickMap config entry.name records := by
  constructor
  · intro hAll entry hEntry
    exact AssetStore.reads_iff.1 (hAll _ (NodeGraph.mem_clipKeys.2 ⟨entry, hEntry, rfl⟩))
  · intro hAll key hKey
    obtain ⟨entry, hEntry, rfl⟩ := NodeGraph.mem_clipKeys.1 hKey
    exact AssetStore.reads_iff.2 (hAll entry hEntry)

/-- A name has zones when a still frame of its key has a click map. -/
theorem exists_get?_iff {graph : NodeGraph} {catalog : HotZoneCatalog} {warnings : List String}
    (h : load config store graph = (.ok catalog, warnings)) {name : String} :
    (∃ index, catalog.get? name = some index) ↔
      ∃ entry, graph.HasStillFrame entry ∧ Asset.key entry.name = Asset.key name ∧
        store.HasClickMap config entry.name := by
  rw [get?_of_load h]
  constructor
  · rintro ⟨index, hIndex⟩
    split at hIndex
    · rename_i hKey
      obtain ⟨entry, hEntry, hSame⟩ := NodeGraph.mem_clipKeys.1 hKey
      refine ⟨entry, hEntry, hSame, ?_⟩
      rw [AssetStore.HasClickMap, hSame]
      exact AssetStore.contains_of_zones? hIndex
    · cases hIndex
  · rintro ⟨entry, hEntry, hSame, hThere⟩
    have hKey := NodeGraph.mem_clipKeys.2 ⟨entry, hEntry, hSame⟩
    rw [AssetStore.HasClickMap, hSame] at hThere
    rw [if_pos hKey]
    exact load_ok_iff.1 ⟨catalog, warnings, h⟩ _ hKey hThere

/-- **A still frame finds its zones when there is a click map for it.**
* The click maps are loaded when every click map that a still frame has can be read.
* Then a name has zones in the catalog exactly when it has the key of a still frame, and the still
  frame has a click map.  The zones are those of its records.
* At run time the entry under a pointer, if it is a still frame, has zones exactly when it has a
  click map, in whatever way its name is spelled. -/
theorem load_finds (config : Config) (store : AssetStore) (graph : NodeGraph) :
    ((∃ catalog warnings, load config store graph = (.ok catalog, warnings)) ↔
      ∀ entry, graph.HasStillFrame entry → store.HasClickMap config entry.name →
        ∃ records, store.ReadsClickMap config entry.name records) ∧
    ∀ catalog warnings, load config store graph = (.ok catalog, warnings) →
      (∀ name, (∃ index, catalog.get? name = some index) ↔
        ∃ entry, graph.HasStillFrame entry ∧ Asset.key entry.name = Asset.key name ∧
          store.HasClickMap config entry.name) ∧
      (∀ name index, catalog.get? name = some index →
        ∃ records, store.ReadsClickMap config name records ∧
          index = (HotZoneIndex.ofRecords (config.hotZoneName (Asset.key name)) records).1) ∧
      ∀ pointer entry, graph.lookup pointer = .ok entry →
        Opcode.ofCode? entry.opcode = some .stillFrame →
        ((∃ index, catalog.get? entry.name = some index) ↔
          store.HasClickMap config entry.name) := by
  refine ⟨load_ok_iff.trans reads_clipKeys_iff, ?_⟩
  intro catalog warnings hLoad
  refine ⟨fun name => exists_get?_iff hLoad, ?_, ?_⟩
  · intro name index hIndex
    rw [get?_of_load hLoad] at hIndex
    split at hIndex
    · exact AssetStore.zones?_eq_some_iff.1 hIndex
    · cases hIndex
  · intro pointer entry hLookup hCode
    rw [exists_get?_iff hLoad]
    constructor
    · rintro ⟨other, -, hSame, hThere⟩
      rwa [AssetStore.HasClickMap, ← hSame]
    · intro hThere
      exact ⟨entry, NodeGraph.hasStillFrame_of_lookup hLookup hCode, rfl, hThere⟩

/-- A folder with a click map of two rectangles. -/
def mapFolder : AssetStore where
  data := ⟨[("map.hot", "film/MAP.HOT")]⟩
  read path :=
    if path = "film/MAP.HOT" then .ok (Text.Utf8.encode "7 0 0 9 9 10 10 20 20".toList)
    else .error .notFound

/-- A still frame with conditions in the first two slots; the code zero leaves a slot unused. -/
def mapFrame (index : Nat) (name : String) (first second : Int32) : Entry :=
  ⟨index, name, #v[2, 7, 0, 0, 0, 0, first, 1, second, 2, 0, 0, 0, 0, 0, 0, 0, 0, 0, 0, 0, 0, 0, 0]⟩

/-- A graph of one script. -/
def mapRoom (entries : List Entry) : NodeGraph :=
  NodeGraph.ofScripts [⟨"room.nod", entries⟩] ⟨"room.nod", 0⟩

/-- Two still frames of one clip, in two spellings, and one of a clip without click map. -/
theorem load_finds_two_spellings :
    let room := mapRoom
      [mapFrame 0 "CD1/Map.mov" 100 100, mapFrame 1 "MAP.MOV" 100 0, mapFrame 2 "bare.mov" 0 0]
    (∀ entry, room.HasStillFrame entry → mapFolder.HasClickMap {} entry.name →
      ∃ records, mapFolder.ReadsClickMap {} entry.name records) ∧
    ∃ catalog warnings, load {} mapFolder room = (.ok catalog, warnings) ∧
      (∃ index, catalog.get? "MAP.MOV" = some index) ∧
      ¬ ∃ index, catalog.get? "bare.mov" = some index := by
  intro room
  have hLoad : load {} mapFolder room =
      (.ok ⟨⟨[("map.mov", ⟨⟨[(7, [⟨0, ⟨0, 0, 9, 9⟩⟩, ⟨1, ⟨10, 10, 10, 10⟩⟩])]⟩⟩)]⟩⟩,
        ["hotzone: room.nod[1]: map.mov has rectangles in slot 1 but no condition there"]) := by
    decide +kernel
  obtain ⟨-, -, hRun⟩ := (load_finds {} mapFolder room).2 _ _ hLoad
  have hSecond := hRun ⟨"room.nod", 1⟩ (mapFrame 1 "MAP.MOV" 100 0) (by decide +kernel) (by decide)
  have hThird := hRun ⟨"room.nod", 2⟩ (mapFrame 2 "bare.mov" 0 0) (by decide +kernel) (by decide)
  have hThere : mapFolder.data.contains ((({} : Config)).hotZoneName (Asset.key "MAP.MOV")) =
      true := by decide +kernel
  have hMissing : mapFolder.data.contains ((({} : Config)).hotZoneName (Asset.key "bare.mov")) =
      false := by decide +kernel
  refine ⟨(load_finds {} mapFolder room).1.1 ⟨_, _, hLoad⟩, _, _, hLoad, hSecond.2 hThere,
    fun hFound => ?_⟩
  exact Bool.false_ne_true (hMissing.symm.trans (hThird.1 hFound))

end HotZoneCatalog
end BranchingMovie
