import BranchingMovie.CommandLine.Program

/-!
# The command line

The program on the files of this machine.
-/

namespace BranchingMovie.CommandLine

/-- The system's code is `expected`.  Some refusals carry the code negated. -/
def isCode (code expected : UInt32) : Bool :=
  code == expected || code == 0 - expected

/-- The fault that a refusal of the system stands for. -/
def faultOf (refusal : IO.Error) : IoFault :=
  match refusal with
  | .noFileOrDirectory .. => .notFound
  | .alreadyExists .. => .alreadyExists
  | .inappropriateType _ code _ => if isCode code 20 then .notAFolder else .isAFolder
  | .invalidArgument _ code _ =>
    if isCode code 36 then .nameTooLong else .other refusal.toString
  | _ => .other refusal.toString

/-- The outcome of an action that the system may refuse. -/
def attempt {α : Type} (action : IO α) : IO (Except IoFault α) := do
  try
    return .ok (← action)
  catch refusal =>
    return .error (faultOf refusal)

/-- A folder of some items with all that is below them, its files empty.  An item that cannot be
listed is an empty folder. -/
partial def folderOf (items : Array IO.FS.DirEntry) : IO FileTree := do
  let trees ← items.toList.mapM fun item => do
    if ← item.path.isDir then
      match ← attempt item.path.readDir with
      | .ok below => return (item.fileName, ← folderOf below)
      | .error _ => return (item.fileName, .empty)
    else return (item.fileName, .file [])
  return .folder trees

/-- The path names a folder. -/
def isFolderAt (path : String) : IO Bool :=
  let top : IO.FS.DirEntry := { root := path, fileName := "" }
  top.root.isDir

/-- The folder at a path, with its files empty, if there is one.  It is listed by its path from the
top without detours, so that the limits on paths are left to the walk through it. -/
def folderAt (path : String) : IO (Option FileTree) := do
  if ← isFolderAt path then
    let items ← attempt do (← IO.FS.realPath path).readDir
    return some (← folderOf (items.toOption.getD #[]))
  else return none

instance : Host IO where
  readFile path := attempt do return (← IO.FS.readBinFile path).toList
  readFolder path := folderAt path
  isFolder path := isFolderAt path
  makeFolder path := attempt (IO.FS.createDir path)
  writeFile path text := attempt (IO.FS.writeFile path text)
  putLine line := IO.println line
  putErrorLine line := IO.eprintln line

end BranchingMovie.CommandLine

/-- Runs the program on the arguments of the command line. -/
def main (arguments : List String) : IO UInt32 :=
  BranchingMovie.CommandLine.program arguments
