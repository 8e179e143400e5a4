import BranchingMovie.Control
import BranchingMovie.HotZone.Reader
import BranchingMovie.Table

/-!
# The zones of a clip

The records of a click map by their exact frame.  Of two records for one frame the later one counts,
and a warning says so.
-/

namespace BranchingMovie

/-- The zones of one clip, frame by frame. -/
structure HotZoneIndex where
  frames : Table Int32 (List HotZone)
  deriving DecidableEq, Repr

/-- There is no picture for a frame. -/
structure FrameNotFound where
  frame : Int32
  deriving DecidableEq, Repr

/-- The wording of the refusal. -/
def FrameNotFound.message (fault : FrameNotFound) : String :=
  s!"no hot-zone record for frame {Numeral.writeInt fault.frame.toInt}"

namespace HotZoneIndex

/-- Adds a record to the index and says whether its frame was listed before. -/
def addRecord (index : HotZoneIndex) (record : HotRecord) : HotZoneIndex × Bool :=
  (⟨index.frames.insert record.frame record.zones⟩, (index.frames.get? record.frame).isSome)

/-- The warning about a frame that a click map lists twice. -/
def repeatedFrame (name : String) (frame : Int32) : String :=
  s!"hotzone: {name}: frame {Numeral.writeInt frame.toInt} listed twice; keeping the later record"

/-- Adds the records one after the other and collects the warnings. -/
def addRecords (name : String) (index : HotZoneIndex) :
    List HotRecord → HotZoneIndex × List String
  | [] => (index, [])
  | record :: records =>
    let (index, isRepeated) := index.addRecord record
    let (index, warnings) := addRecords name index records
    (index, if isRepeated then repeatedFrame name record.frame :: warnings else warnings)

/-- The index of a click map, and the warnings about frames that it lists twice. -/
def ofRecords (name : String) (records : List HotRecord) : HotZoneIndex × List String :=
  addRecords name ⟨Table.empty⟩ records

/-- The zones of a frame, in slot order. -/
def zonesOn (index : HotZoneIndex) (frame : Int32) : Except FrameNotFound (List HotZone) :=
  match index.frames.get? frame with
  | some zones => .ok zones
  | none => .error ⟨frame⟩

/-- The first zone of a frame with the point in it. -/
def zoneAt (index : HotZoneIndex) (frame : Int32) (point : Point) :
    Except FrameNotFound (Option HotZone) :=
  (index.zonesOn frame).map fun zones => zones.find? fun zone => zone.rect.contains point.x point.y

/-- The number of frames with a picture. -/
def frameCount (index : HotZoneIndex) : Nat :=
  index.frames.size

/-- Adds a slot to slots in ascending order, unless it is among them. -/
def addSlot (slot : Nat) : List Nat → List Nat
  | [] => [slot]
  | first :: slots =>
    if slot < first then slot :: first :: slots
    else if slot = first then first :: slots
    else first :: addSlot slot slots

/-- The slots with a rectangle on some frame, each once and in ascending order. -/
def usedSlots (index : HotZoneIndex) : List Nat :=
  (index.frames.values.flatMap fun zones => zones.map (·.slot)).foldr addSlot []

end HotZoneIndex
end BranchingMovie
