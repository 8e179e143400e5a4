import BranchingMovie.Asset.Disc

/-!
# Walking a folder

What lies below a folder is met depth first, the items of each folder in the order of their names.
Hidden items are passed over with all that is in them.  A folder whose path is refused, because it
has grown too long, is met and not entered.
-/

namespace BranchingMovie

/-- What a walk meets, by its path. -/
inductive Sight where
  | file (name path : String)
  /-- A folder that cannot be listed. -/
  | closedFolder (path : String) (cause : IoFault)
  deriving DecidableEq, Repr

namespace FileTree

/-- A name with a leading dot is hidden. -/
def isHidden (name : String) : Bool :=
  name.toList.head? == some '.'

mutual

/-- What a walk meets in a tree that has a name and is found at a path. -/
def walk (name path : String) : FileTree → List Sight
  | file _ => [.file name path]
  | folder items =>
    match Disc.checkPath path with
    | .error cause => [.closedFolder path cause]
    | .ok () =>
      ((walkItems path items).mergeSort fun a b => a.1 < b.1 || a.1 == b.1).flatMap (·.2)

/-- What a walk meets in each item that is not hidden, in the order of the items, below a path. -/
def walkItems (path : String) : List (String × FileTree) → List (String × List Sight)
  | [] => []
  | (name, tree) :: items =>
    if isHidden name then walkItems path items
    else (name, walk name (Path.join path name) tree) :: walkItems path items

end

end FileTree
end BranchingMovie
