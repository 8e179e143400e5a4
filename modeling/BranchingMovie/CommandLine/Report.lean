import BranchingMovie.Overflow
import BranchingMovie.Simulation.Transcript

/-!
# Reports

What the program prints about a graph and about a run, line by line, and how it reports that it has
not come to its end.
-/

namespace BranchingMovie.CommandLine

/-! ## Graphs -/

/-- The lines about a graph: its size, its start and its scripts. -/
def graphReport (graph : NodeGraph) : List String :=
  s!"Loaded {graph.table.size} script(s), {graph.entryCount} entries; start {graph.start.text}" ::
    graph.scripts.map fun script =>
      "  " ++ Text.padRight 16 script.name ++ " " ++
        Text.padLeft 4 (Numeral.writeNat script.size) ++ " entries"

/-! ## Runs -/

/-- A time in a column of seven characters. -/
def timeColumn (ms : UInt64) : String :=
  "  " ++ Text.padLeft 7 (Numeral.writeNat ms.toNat) ++ "ms "

/-- An event in a printed transcript. -/
def eventText : InputEvent → String
  | .control control => s!"Control({control.title})"
  | .point point =>
    String.join ["Point(Point \x7b x: ", Numeral.writeInt point.x.toInt, ", y: ",
      Numeral.writeInt point.y.toInt, " \x7d)"]

/-- An ending in a printed transcript. -/
def endingText : Ending → String
  | .death => "Death"
  | .exitToMenu => "ExitToMenu"

/-- What a run is doing, in a printed transcript. -/
def stateText : RunState → String
  | .running => "Running"
  | .awaitingEvent => "AwaitingEvent"
  | .finished ending => s!"Finished({endingText ending})"

/-- A line of a printed transcript. -/
def entryLine : TranscriptEntry → String
  | .input atMs event => timeColumn atMs ++ "input " ++ eventText event
  | .node atMs report =>
    let frame :=
      match report.frame with
      | some frame => Numeral.writeInt frame.toInt
      | none => "-"
    timeColumn atMs ++ s!"{report.pointer.text} {stateText report.state} " ++
      "clip=" ++ report.clip.getD "-" ++ " frame=" ++ frame

/-- The lines about a run. -/
def transcriptReport (transcript : Transcript) : List String :=
  let ms := Numeral.writeNat transcript.elapsedMs.toNat
  let last :=
    match transcript.ending with
    | some ending => s!"Run ended ({endingText ending}) at {ms}ms"
    | none => s!"Still running after {ms}ms"
  "Simulation transcript:" :: transcript.entries.toList.map entryLine ++ [last]

/-! ## Failures -/

/-- A failure with its causes, the nearest first. -/
structure Failure where
  message : String
  causes : List String := []
  deriving DecidableEq, Repr

namespace Failure

/-- A text with its further lines moved to the right. -/
def indented (margin : Nat) (text : String) : String :=
  String.ofList <| text.toList.flatMap fun c =>
    if c = '\n' then '\n' :: List.replicate margin ' ' else [c]

/-- Numbered causes. -/
def numbered (causes : List String) : List String :=
  causes.zipIdx.map fun (cause, i) =>
    Text.padLeft 5 (Numeral.writeNat i) ++ ": " ++ indented 7 cause

/-- The text of a failure: a single cause is indented, several are numbered. -/
def report (failure : Failure) : List String :=
  let causes :=
    match failure.causes with
    | [] => []
    | [cause] => ["", "Caused by:", "    " ++ indented 4 cause]
    | causes => "" :: "Caused by:" :: numbered causes
  ("Error: " ++ failure.message) :: causes

end Failure

/-- Why the program does not come to its end: something failed, or an overflow stopped it. -/
inductive Abort where
  | failed (failure : Failure)
  | stopped (overflow : Overflow)
  deriving DecidableEq, Repr

namespace Abort

/-- The lines about it.  An overflow is not reported as a failure is. -/
def report : Abort → List String
  | failed failure => failure.report
  | stopped overflow => [overflow.message]

/-- The exit code. -/
def exitCode : Abort → UInt32
  | failed _ => 1
  | stopped _ => 101

end Abort
end BranchingMovie.CommandLine
