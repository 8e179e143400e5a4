import BranchingMovie.Engine.Basic

/-!
# Transcripts

What is written down of a simulated run: the input as it is delivered, and every entry that the run
settles on.
-/

namespace BranchingMovie

/-- A line of a transcript. -/
inductive TranscriptEntry where
  /-- Input was delivered. -/
  | input (atMs : UInt64) (event : InputEvent)
  /-- The run stands elsewhere, or does something else, than after the tick before. -/
  | node (atMs : UInt64) (report : TickReport)
  deriving DecidableEq, Repr

/-- What is written down of a run. -/
structure Transcript where
  entries : Array TranscriptEntry := #[]
  ending : Option Ending := none
  /-- The time of the last tick. -/
  elapsedMs : UInt64 := 0
  deriving DecidableEq, Repr

namespace Transcript

/-- The pointer of a line, if a run settled there. -/
def pointer? : TranscriptEntry → Option NodePointer
  | .input _ _ => none
  | .node _ report => some report.pointer

/-- The pointers that a run settled on, in order. -/
def visited (transcript : Transcript) : List NodePointer :=
  transcript.entries.toList.filterMap pointer?

end Transcript
end BranchingMovie
