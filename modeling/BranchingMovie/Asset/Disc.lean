import BranchingMovie.Asset.FileTree
import BranchingMovie.Asset.Path

/-!
# Discs

A disc is a file tree together with the folder that relative paths start from.  Paths are followed
step by step, through folders only.  Reading, writing and making folders refuse what a file system
refuses, and of two faults in one path the one that is met first.
-/

namespace BranchingMovie

/-- A file tree, and the names that lead to the folder in which relative paths start. -/
structure Disc where
  root : FileTree
  here : List String := []

namespace Disc

/-! ## Following paths -/

/-- The greatest number of bytes in a name. -/
def longestName : Nat := 255

/-- The greatest number of bytes in a path. -/
def longestPath : Nat := 4095

/-- The names that lead to the place that the remaining steps reach from the place `here`.  A
missing item, a file with steps behind it, or a name that is too long ends the walk.  The top is
above itself. -/
def follow (root : FileTree) (here : List String) : List String → Except IoFault (List String)
  | [] =>
    match root.get? here with
    | none => .error .notFound
    | some _ => .ok here
  | step :: steps =>
    match root.get? here with
    | none => .error .notFound
    | some (.file _) => .error .notAFolder
    | some (.folder _) =>
      if Path.isIdle step then follow root here steps
      else if step == ".." then follow root here.dropLast steps
      else if longestName < step.utf8ByteSize then .error .nameTooLong
      else follow root (here ++ [step]) steps

/-- The names that lead to where a path starts. -/
def origin (disc : Disc) (path : String) : List String :=
  if Path.isAbsolute path then [] else disc.here

/-- Refuses the empty path, which names nothing, and a path that is too long. -/
def checkPath (path : String) : Except IoFault Unit :=
  if path.isEmpty then .error .notFound
  else if longestPath < path.utf8ByteSize then .error .nameTooLong
  else .ok ()

/-- The names that lead to what a path names. -/
def place (disc : Disc) (path : String) : Except IoFault (List String) := do
  checkPath path
  follow disc.root (disc.origin path) (Path.steps path)

/-- The tree at a path. -/
def find (disc : Disc) (path : String) : Except IoFault FileTree := do
  let names ← disc.place path
  match disc.root.get? names with
  | some tree => .ok tree
  | none => .error .notFound

/-- The path names a folder. -/
def isFolder (disc : Disc) (path : String) : Bool :=
  match disc.find path with
  | .ok tree => tree.isFolder
  | .error _ => false

/-- The bytes of the file at a path. -/
def read (disc : Disc) (path : String) : Except IoFault (List UInt8) := do
  match ← disc.find path with
  | .file content => .ok content
  | .folder _ => .error .isAFolder

/-! ## Changing a disc -/

/-- The folder that the last named step of a path is taken in, by the names that lead to it, with
its items. -/
def folderOf (disc : Disc) (path : String) :
    Except IoFault (List String × List (String × FileTree)) := do
  checkPath path
  let names ← follow disc.root (disc.origin path) (Path.namedSteps path).dropLast
  match disc.root.get? names with
  | some (.folder items) => .ok (names, items)
  | _ => .error .notAFolder

/-- The step does not name an item of the folder it is taken in. -/
def isMove (step : String) : Bool :=
  Path.isIdle step || step == ".."

/-- Makes one folder, in a folder that is there. -/
def makeFolder (disc : Disc) (path : String) : Except IoFault Disc := do
  let (names, items) ← disc.folderOf path
  let name := (Path.namedSteps path).getLastD ""
  if isMove name then .error .alreadyExists
  else if longestName < name.utf8ByteSize then .error .nameTooLong
  else if (FileTree.itemOf name items).isSome then .error .alreadyExists
  else .ok { disc with root := FileTree.set .empty (names ++ [name]) disc.root }

/-- Writes a file into a folder that is there, in the place of a file that is there.  A path that
ends in a slash, or in an idle or upward step, asks for a folder, whatever is there. -/
def write (disc : Disc) (path : String) (content : List UInt8) : Except IoFault Disc := do
  let (names, items) ← disc.folderOf path
  let name := (Path.steps path).getLastD ""
  if isMove name then .error .isAFolder
  else if longestName < name.utf8ByteSize then .error .nameTooLong
  else
    match FileTree.itemOf name items with
    | some (.folder _) => .error .isAFolder
    | _ => .ok { disc with root := FileTree.set (.file content) (names ++ [name]) disc.root }

/-- Takes the file at a path away. -/
def delete (disc : Disc) (path : String) : Except IoFault Disc := do
  let names ← disc.place path
  match disc.root.get? names with
  | some (.file _) => .ok { disc with root := FileTree.erase names disc.root }
  | some (.folder _) => .error .isAFolder
  | none => .error .notFound

end Disc
end BranchingMovie
