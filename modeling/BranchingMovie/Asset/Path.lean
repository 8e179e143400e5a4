import BranchingMovie.Text.Fields

/-!
# Paths

A path is a text of steps with slashes between them.  Empty steps and `.` stay in their folder, `..`
goes up, and a path that begins with a slash starts at the top.
-/

namespace BranchingMovie

namespace Path

/-- The steps of a path, empty ones included. -/
def steps (path : String) : List String :=
  (Text.fields (· == '/') path.toList).map String.ofList

/-- A step that stays in its folder. -/
def isIdle (step : String) : Bool :=
  step == "" || step == "."

/-- The path starts at the top, wherever one is. -/
def isAbsolute (path : String) : Bool :=
  path.toList.head? == some '/'

/-- The steps of a path without the empty ones at its end. -/
def namedSteps (path : String) : List String :=
  ((steps path).reverse.dropWhile (· == "")).reverse

/-- A path with a name behind it, and one slash between them. -/
def join (path name : String) : String :=
  if path.toList.getLast? == some '/' then path ++ name else path ++ "/" ++ name

/-- A reversed path without slashes and idle steps at its end. -/
def dropIdle : List Char → List Char
  | ['/'] => ['/']
  | '/' :: rest => dropIdle rest
  | ['.', '/'] => ['/']
  | '.' :: '/' :: rest => dropIdle rest
  | path => path

/-- The path of the folder that the end of a path is in; empty for a path of one step. -/
def parent (path : String) : String :=
  let rest := (dropIdle path.toList.reverse).dropWhile (· != '/')
  String.ofList (dropIdle rest).reverse

end Path

end BranchingMovie
