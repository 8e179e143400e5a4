import BranchingMovie.Graph.Load
import BranchingMovie.HotZone.Index

/-!
# The catalog of click maps

Every still frame of a graph whose clip has a click map finds its zones here, by the key of the
clip. The map is read when the first still frame of the clip is met.  A zone that leads nowhere,
because the condition in its slot is not used, is worth a warning for each still frame it belongs
to.
-/

namespace BranchingMovie

/-- Click maps by the keys of their clips. -/
structure HotZoneCatalog where
  clips : Table String HotZoneIndex
  deriving DecidableEq, Repr

namespace HotZoneCatalog

/-- The catalog without click maps. -/
def empty : HotZoneCatalog := ⟨Table.empty⟩

/-- The zones of a clip. -/
def get? (catalog : HotZoneCatalog) (clip : String) : Option HotZoneIndex :=
  catalog.clips.get? (Asset.key clip)

/-- The catalog with the zones of a clip. -/
def insert (catalog : HotZoneCatalog) (clip : String) (index : HotZoneIndex) : HotZoneCatalog :=
  ⟨catalog.clips.insert (Asset.key clip) index⟩

/-- The number of clips. -/
def size (catalog : HotZoneCatalog) : Nat :=
  catalog.clips.size

/-! ## Loading -/

/-- Reads a click map, with the warnings about it. -/
def readIndex (store : AssetStore) (name : String) : Except LoadError HotZoneIndex × List String :=
  match store.fetch name with
  | .error fault => (.error fault, [])
  | .ok bytes =>
    match HotRecord.readBytes bytes with
    | .error fault => (.error (.format name (.hotZones fault)), [])
    | .ok records =>
      let (index, warnings) := HotZoneIndex.ofRecords name records
      (.ok index, warnings)

/-- The catalog with the zones of a clip, given by its key, read now if they were not read before.
A clip without click map changes nothing. -/
def require (config : Config) (store : AssetStore) (catalog : HotZoneCatalog) (clip : String) :
    Except LoadError HotZoneCatalog × List String :=
  match catalog.clips.get? clip with
  | some _ => (.ok catalog, [])
  | none =>
    let name := config.hotZoneName clip
    if store.data.contains name then
      match readIndex store name with
      | (.error fault, warnings) => (.error fault, warnings)
      | (.ok index, warnings) => (.ok ⟨catalog.clips.insert clip index⟩, warnings)
    else (.ok catalog, [])

/-- The warning about a slot with a rectangle and without a condition. -/
def deadSlot (script : String) (entry : Entry) (clip : String) (slot : Nat) : String :=
  s!"hotzone: {script}[{entry.index}]: {clip} has rectangles in slot {slot} but no condition there"

/-- The warnings about the zones of a clip that lead nowhere from an entry, in slot order. -/
def deadSlots (catalog : HotZoneCatalog) (script : String) (entry : Entry) (clip : String) :
    List String :=
  match catalog.clips.get? clip with
  | none => []
  | some index =>
    let dead := index.usedSlots.filter fun slot =>
      slot < conditionSlots && (entry.slotOffset? slot).isNone
    dead.map (deadSlot script entry clip)

/-- Goes through still frames, each with the name of its script, and collects their click maps and
the warnings, up to the first click map that cannot be read. -/
def loadFrames (config : Config) (store : AssetStore) (catalog : HotZoneCatalog) :
    List (String × Entry) → Except LoadError HotZoneCatalog × List String
  | [] => (.ok catalog, [])
  | (script, entry) :: frames =>
    match catalog.require config store (Asset.key entry.name) with
    | (.error fault, warnings) => (.error fault, warnings)
    | (.ok catalog, warnings) =>
      let (outcome, later) := loadFrames config store catalog frames
      (outcome, warnings ++ catalog.deadSlots script entry (Asset.key entry.name) ++ later)

end HotZoneCatalog

namespace NodeGraph

/-- The still frames of a graph with the names of their scripts, in the order of the scripts'
keys. -/
def stillFrames (graph : NodeGraph) : List (String × Entry) :=
  graph.scripts.flatMap fun script =>
    (script.entries.filter fun entry => Opcode.ofCode? entry.opcode == some .stillFrame).map
      ((script.name, ·))

end NodeGraph

/-- Loads the click maps of all still frames of a graph, with the warnings about them. -/
def HotZoneCatalog.load (config : Config) (store : AssetStore) (graph : NodeGraph) :
    Except LoadError HotZoneCatalog × List String :=
  HotZoneCatalog.empty.loadFrames config store graph.stillFrames

end BranchingMovie
