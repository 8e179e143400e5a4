/-!
# Opcodes

What an entry of a script does.
-/

namespace BranchingMovie

/-- What an entry does. -/
inductive Opcode where
  | nop
  | playClip
  | stillFrame
  | gate
  | switchScript
  | death
  | enableInterface
  | hotZoneMarker
  /-- A code that the authoring tools keep for themselves and that does nothing. -/
  | reserved (code : Int32)
  deriving DecidableEq, Repr

namespace Opcode

/-- What a code stands for. -/
def ofCode? (code : Int32) : Option Opcode :=
  if code = 0 then some nop
  else if code = 1 then some playClip
  else if code = 2 then some stillFrame
  else if code = 3 then some gate
  else if code = 4 then some switchScript
  else if code = 5 then some death
  else if code = 6 then some enableInterface
  else if code = 7 then some hotZoneMarker
  else if code = 8 ∨ code = 9 then some (reserved code)
  else none

/-- The run waits at entries of this kind, and their conditions count. -/
def isInteractive : Opcode → Bool
  | playClip | stillFrame => true
  | _ => false

end Opcode
end BranchingMovie
