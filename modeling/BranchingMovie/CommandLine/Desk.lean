import BranchingMovie.CommandLine.Program

/-!
# Running the program in memory

A desk is a disc with two sheets of output, and the program runs on it like on the files of a
machine.
-/

namespace BranchingMovie.CommandLine

/-- A disc, and the lines printed so far. -/
structure Desk where
  disc : Disc
  output : Array String := #[]
  errors : Array String := #[]

/-- Keeps the new disc of a request that was granted. -/
def Desk.keep (desk : Desk) : Except IoFault Disc → Except IoFault Unit × Desk
  | .ok disc => (.ok (), { desk with disc })
  | .error fault => (.error fault, desk)

instance : Host (StateM Desk) where
  readFile path := do return (← get).disc.read path
  readFolder path := do
    match (← get).disc.find path with
    | .ok (.folder items) => return some (.folder items)
    | _ => return none
  isFolder path := do return (← get).disc.isFolder path
  makeFolder path := modifyGet fun desk => desk.keep (desk.disc.makeFolder path)
  writeFile path text := modifyGet fun desk =>
    desk.keep (desk.disc.write path (Text.Utf8.encode text.toList))
  putLine line := modify fun desk => { desk with output := desk.output.push line }
  putErrorLine line := modify fun desk => { desk with errors := desk.errors.push line }

/-- Runs the program on a disc and gives its exit code. -/
def runAtDesk (disc : Disc) (arguments : List String) : UInt32 × Desk :=
  (program arguments : StateM Desk UInt32).run { disc }

end BranchingMovie.CommandLine
