/-!
# File trees

A folder with everything below it, as a value, and why a file system refuses a request.
-/

namespace BranchingMovie

/-! ## Faults -/

/-- Why the file system refuses a request. -/
inductive IoFault where
  | notFound
  | notAFolder
  | isAFolder
  | alreadyExists
  | nameTooLong
  /-- The content is not UTF-8 text. -/
  | notText
  /-- A refusal of another kind, in the words of the system. -/
  | other (text : String)
  deriving DecidableEq, Repr

/-- The wording of a fault. -/
def IoFault.message : IoFault → String
  | notFound => "No such file or directory (os error 2)"
  | notAFolder => "Not a directory (os error 20)"
  | isAFolder => "Is a directory (os error 21)"
  | alreadyExists => "File exists (os error 17)"
  | nameTooLong => "File name too long (os error 36)"
  | notText => "stream did not contain valid UTF-8"
  | other text => text

/-! ## Trees -/

/-- A file with its bytes, or a folder with its named items. -/
inductive FileTree where
  | file (content : List UInt8)
  | folder (items : List (String × FileTree))

namespace FileTree

/-- The folder without items. -/
def empty : FileTree := folder []

/-- The tree is a folder. -/
def isFolder : FileTree → Bool
  | file _ => false
  | folder _ => true

/-- The first item of a name. -/
def itemOf (name : String) : List (String × FileTree) → Option FileTree
  | [] => none
  | (n, tree) :: items => if n = name then some tree else itemOf name items

/-- The items in which `name` is `tree`. -/
def withItem (name : String) (tree : FileTree) : List (String × FileTree) → List (String × FileTree)
  | [] => [(name, tree)]
  | (n, t) :: items =>
    if n = name then (name, tree) :: items else (n, t) :: withItem name tree items

/-- The items without those of a name. -/
def withoutItem (name : String) (items : List (String × FileTree)) : List (String × FileTree) :=
  items.filter fun item => item.1 ≠ name

/-- The tree at the end of the steps, each of them the name of an item. -/
def get? (tree : FileTree) : List String → Option FileTree
  | [] => some tree
  | step :: steps =>
    match tree with
    | file _ => none
    | folder items =>
      match itemOf step items with
      | none => none
      | some item => item.get? steps

/-- The tree in which the end of the steps is `new`; folders on the way are made where nothing
is. -/
def set (new : FileTree) : List String → FileTree → FileTree
  | [], _ => new
  | step :: steps, folder items =>
    folder (withItem step (set new steps ((itemOf step items).getD empty)) items)
  | _ :: _, file content => file content

/-- The tree without what is at the end of the steps. -/
def erase : List String → FileTree → FileTree
  | [step], folder items => folder (withoutItem step items)
  | step :: steps, folder items =>
    match itemOf step items with
    | none => folder items
    | some item => folder (withItem step (erase steps item) items)
  | _, tree => tree

end FileTree
end BranchingMovie
