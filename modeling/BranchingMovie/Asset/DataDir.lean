import BranchingMovie.Asset.Key
import BranchingMovie.Asset.Walk

/-!
# Data directories

The files below one or more root folders by their keys.  Of several files with one key the first in
the order of the walk counts, and a warning names each of the others.  A folder that cannot be
listed is worth a warning too.
-/

namespace BranchingMovie

/-- Files by their keys, in the order in which the keys were first seen. -/
structure DataDir where
  files : List (String × String)
  deriving DecidableEq, Repr

namespace DataDir

/-- The index without files. -/
def empty : DataDir := ⟨[]⟩

/-- The path of the first file with a key. -/
def pathOf (key : String) : List (String × String) → Option String
  | [] => none
  | (k, path) :: files => if k = key then some path else pathOf key files

/-- The path of the file that a name refers to. -/
def locate (data : DataDir) (name : String) : Except Asset.NotFound String :=
  match pathOf (Asset.key name) data.files with
  | some path => .ok path
  | none => .error ⟨name⟩

/-- The name refers to a file. -/
def contains (data : DataDir) (name : String) : Bool :=
  (pathOf (Asset.key name) data.files).isSome

theorem locate_ok_iff {data : DataDir} {name path : String} :
    data.locate name = .ok path ↔ pathOf (Asset.key name) data.files = some path := by
  unfold locate
  split
  · rename_i hPath
    rw [hPath, Except.ok.injEq, Option.some.injEq]
  · rename_i hNone
    simp [hNone]

theorem locate_error_iff {data : DataDir} {name : String} :
    data.locate name = .error ⟨name⟩ ↔ pathOf (Asset.key name) data.files = none := by
  unfold locate
  split
  · rename_i hPath
    simp [hPath]
  · rename_i hNone
    simp [hNone]

/-- A name refers to a file when it is located. -/
theorem contains_iff {data : DataDir} {name : String} :
    data.contains name = true ↔ ∃ path, data.locate name = .ok path := by
  simp only [contains, locate_ok_iff, Option.isSome_iff_exists]

/-- The number of keys. -/
def size (data : DataDir) : Nat :=
  data.files.length

/-! ## Scanning -/

/-- A root is no folder that can be read. -/
structure ScanFault where
  root : String
  deriving DecidableEq, Repr

/-- The wording of the refusal. -/
def ScanFault.message (fault : ScanFault) : String :=
  s!"cannot read data directory {fault.root}"

/-- The warning about a file whose key is taken. -/
def duplicate (key kept skipped : String) : String :=
  s!"assets: duplicate data file '{key}' (keeping {kept}, skipping {skipped})"

/-- Adds a file, unless its key is taken, and gives the warning in that case. -/
def addFile (data : DataDir) (name path : String) : DataDir × Option String :=
  match pathOf (Asset.key name) data.files with
  | some kept => (data, some (duplicate (Asset.key name) kept path))
  | none => (⟨data.files ++ [(Asset.key name, path)]⟩, none)

/-- The warning about a folder that cannot be listed. -/
def unlisted (root path : String) (cause : IoFault) : String :=
  s!"assets: failed to traverse {root}: IO error for operation on {path}: {cause.message}"

/-- Adds what the walk of a root meets, and gives the warning about it, if there is one. -/
def addSight (root : String) (data : DataDir) : Sight → DataDir × Option String
  | .file name path => data.addFile name path
  | .closedFolder path cause => (data, some (unlisted root path cause))

/-- Adds what the walk of a root meets, one after the other. -/
def addSights (root : String) (data : DataDir) : List Sight → DataDir × List String
  | [] => (data, [])
  | sight :: sights =>
    let (data, warning) := data.addSight root sight
    let (data, warnings) := addSights root data sights
    (data, warning.toList ++ warnings)

/-- Adds the files below a root folder, which is not skipped when it is hidden itself. -/
def addRoot (data : DataDir) (root : String) (tree : FileTree) : DataDir × List String :=
  data.addSights root (tree.walk "" root)

/-- Adds the files below several roots, each with its folder if it has one, up to the first root
that has none. -/
def addRoots (data : DataDir) :
    List (String × Option FileTree) → Except ScanFault DataDir × List String
  | [] => (.ok data, [])
  | (root, tree) :: roots =>
    match tree with
    | some (.folder items) =>
      let (data, warnings) := data.addRoot root (.folder items)
      let (outcome, later) := data.addRoots roots
      (outcome, warnings ++ later)
    | _ => (.error ⟨root⟩, [])

/-- The index of several root folders, and the warnings of the scan. -/
def ofRoots (roots : List (String × Option FileTree)) :
    Except ScanFault DataDir × List String :=
  empty.addRoots roots

/-- The index of the folders at several paths of a disc. -/
def scan (disc : Disc) (roots : List String) : Except ScanFault DataDir × List String :=
  ofRoots (roots.map fun root => (root, (disc.find root).toOption))

end DataDir

/-! ## Files to load from -/

/-- A data directory with access to the content of its files. -/
structure AssetStore where
  /-- The files by their keys. -/
  data : DataDir
  /-- The bytes of the file at a path. -/
  read : String → Except IoFault (List UInt8)

namespace AssetStore

/-- An index of files together with what became of reading them, by their paths. -/
def ofContents (data : DataDir) (contents : List (String × Except IoFault (List UInt8))) :
    AssetStore where
  data := data
  read path := (contents.lookup path).getD (.error .notFound)

end AssetStore

end BranchingMovie
