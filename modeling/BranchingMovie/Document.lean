import BranchingMovie.Json.Printer
import BranchingMovie.Simulation.Transcript

/-!
# Documents

The JSON forms in which a loaded graph and the transcript of a run are written down.
-/

namespace BranchingMovie

open Json (record)

namespace Json

/-- A whole number. -/
def int (n : Int) : Json :=
  number (Numeral.writeInt n)

/-- A value that may be missing. -/
def ofOption {α : Type} (document : α → Json) : Option α → Json
  | none => null
  | some a => document a

end Json

/-! ## Graphs -/

/-- A pointer with its members. -/
def NodePointer.document (pointer : NodePointer) : Json :=
  record [("script", .text pointer.script), ("index", .int pointer.index.toInt)]

/-- An entry with its numbers in a row. -/
def Entry.document (entry : Entry) : Json :=
  record [("index", .int entry.index), ("name", .text entry.name),
    ("fields", .array (entry.fields.toList.map fun n => .int n.toInt))]

/-- A script with its entries. -/
def Script.document (script : Script) : Json :=
  record [("name", .text script.name), ("entries", .array (script.entries.map Entry.document))]

/-- A graph: its start, and its scripts by their keys. -/
def NodeGraph.document (graph : NodeGraph) : Json :=
  record [("start", graph.start.document),
    ("scripts", record (graph.table.pairs.map fun (key, script) => (key, script.document)))]

/-! ## Transcripts -/

/-- An event, marked with its kind. -/
def InputEvent.document : InputEvent → Json
  | control button => record [("control", .text button.documentName)]
  | point p => record [("point", record [("x", .int p.x.toInt), ("y", .int p.y.toInt)])]

/-- The name of an ending in documents. -/
def Ending.documentName : Ending → String
  | death => "death"
  | exitToMenu => "exit_to_menu"

/-- What a run is doing; an ended run says how it ended. -/
def RunState.document : RunState → Json
  | running => .text "running"
  | awaitingEvent => .text "awaiting_event"
  | finished ending => record [("finished", .text ending.documentName)]

/-- A line of a transcript, marked with its kind. -/
def TranscriptEntry.document : TranscriptEntry → Json
  | input atMs event =>
    record [("kind", .text "input"), ("at_ms", .int atMs.toNat), ("event", event.document)]
  | node atMs report =>
    record [("kind", .text "node"), ("at_ms", .int atMs.toNat),
      ("pointer", report.pointer.document), ("state", report.state.document),
      ("clip", .ofOption Json.text report.clip),
      ("frame", .ofOption (fun frame => .int frame.toInt) report.frame)]

/-- A transcript. -/
def Transcript.document (transcript : Transcript) : Json :=
  record [("entries", .array (transcript.entries.toList.map TranscriptEntry.document)),
    ("ending", .ofOption (fun ending => .text ending.documentName) transcript.ending),
    ("elapsed_ms", .int transcript.elapsedMs.toNat)]

end BranchingMovie
