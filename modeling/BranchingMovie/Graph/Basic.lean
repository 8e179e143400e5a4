import BranchingMovie.Asset.Key
import BranchingMovie.Graph.Opcode
import BranchingMovie.Numeral
import BranchingMovie.Script.Entry
import BranchingMovie.Table

/-!
# Script graphs

The scripts of a film by their keys, and pointers into them.  The index of a pointer is signed,
because jumps are added to it before anyone asks whether an entry is there.
-/

namespace BranchingMovie

/-! ## Scripts and pointers -/

/-- A script under its key, with its entries in file order. -/
structure Script where
  name : String
  entries : List Entry
  deriving DecidableEq, Repr

namespace Script

/-- The script of a name, which is reduced to its key. -/
def ofName (name : String) (entries : List Entry) : Script :=
  ⟨Asset.key name, entries⟩

/-- The number of entries. -/
def size (script : Script) : Nat :=
  script.entries.length

/-- The entry at an index, if there is one. -/
def get? (script : Script) (index : Int64) : Option Entry :=
  if index < 0 then none else script.entries[index.toInt.toNat]?

end Script

/-- A position in the graph. -/
structure NodePointer where
  script : String
  index : Int64
  deriving DecidableEq, Repr

namespace NodePointer

/-- The pointer into the script of a name, which is reduced to its key. -/
def ofName (name : String) (index : Int64) : NodePointer :=
  ⟨Asset.key name, index⟩

/-- The pointer `offset` entries further.  From the index of an entry, the sum fits into a word. -/
def advance (pointer : NodePointer) (offset : Int32) : NodePointer :=
  { pointer with index := pointer.index + offset.toInt64 }

/-- A pointer as it is written in messages. -/
def text (pointer : NodePointer) : String :=
  s!"{pointer.script}[{Numeral.writeInt pointer.index.toInt}]"

end NodePointer

/-! ## Graphs -/

/-- Why a pointer names no entry. -/
inductive PointerFault where
  /-- There is no script of the name. -/
  | unknownScript (script : String)
  /-- The script has no entry at the index. -/
  | outOfRange (script : String) (index : Int64) (size : Nat)
  deriving DecidableEq, Repr

/-- The wording of a refusal. -/
def PointerFault.message : PointerFault → String
  | unknownScript script => s!"pointer references script '{script}' which was never loaded"
  | outOfRange script index size =>
    s!"pointer {(NodePointer.mk script index).text} is outside the script ({size} entries)"

/-- The scripts of a film, and where it starts. -/
structure NodeGraph where
  start : NodePointer
  table : Table String Script
  deriving DecidableEq, Repr

namespace NodeGraph

/-- The graph of some scripts.  Of several scripts with one key the last one counts. -/
def ofScripts (scripts : List Script) (start : NodePointer) : NodeGraph :=
  ⟨start, scripts.foldl (fun table script => table.insert script.name script) Table.empty⟩

/-- The script of a name. -/
def script? (graph : NodeGraph) (name : String) : Option Script :=
  graph.table.get? (Asset.key name)

/-- The scripts in the order of their keys. -/
def scripts (graph : NodeGraph) : List Script :=
  graph.table.values

/-- The number of entries of all scripts. -/
def entryCount (graph : NodeGraph) : Nat :=
  (graph.scripts.flatMap Script.entries).length

/-- The entry under a pointer. -/
def lookup (graph : NodeGraph) (pointer : NodePointer) : Except PointerFault Entry :=
  match graph.table.get? pointer.script with
  | none => .error (.unknownScript pointer.script)
  | some script =>
    match script.get? pointer.index with
    | none => .error (.outOfRange pointer.script pointer.index script.size)
    | some entry => .ok entry

/-- A pointer that was taken for sound names no entry. -/
structure InvalidPointer where
  pointer : NodePointer
  fault : PointerFault
  deriving DecidableEq, Repr

/-- The wording of the refusal. -/
def InvalidPointer.message (invalid : InvalidPointer) : String :=
  s!"invalid node pointer {invalid.pointer.text}: {invalid.fault.message}"

/-- The entry under a pointer that is taken for sound. -/
def entry (graph : NodeGraph) (pointer : NodePointer) : Except InvalidPointer Entry :=
  (graph.lookup pointer).mapError (⟨pointer, ·⟩)

end NodeGraph
end BranchingMovie
