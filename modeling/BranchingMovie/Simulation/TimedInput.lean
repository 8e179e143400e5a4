import BranchingMovie.Control
import BranchingMovie.Numeral

/-!
# Timed input

Input for a simulated run is written as an event and a time in milliseconds: `yes@1500` presses a
button, `point:120,80@2000` clicks.  Blanks around the parts do not count.  The last `@` divides
event and time, and the first comma divides the coordinates.
-/

namespace BranchingMovie

/-- An event with the time at which it is due. -/
structure TimedInput where
  atMs : UInt64
  event : InputEvent
  deriving DecidableEq, Repr

namespace TimedInput

/-! ## Refusals -/

/-- Why a text is no timed input. -/
inductive Fault where
  | missingTime (text : String)
  | invalidTime (text : String) (cause : Numeral.Fault)
  | incompletePoint (text : String)
  | invalidX (cause : Numeral.Fault)
  | invalidY (cause : Numeral.Fault)
  | unknownControl (name : String)
  deriving DecidableEq, Repr

/-- The wording of a refusal. -/
def Fault.message : Fault → String
  | missingTime text => s!"input '{text}' is missing '@<ms>'"
  | invalidTime text _ => s!"input '{text}' has an invalid time"
  | incompletePoint text => s!"point input '{text}' needs 'x,y'"
  | invalidX _ => "point x"
  | invalidY _ => "point y"
  | unknownControl name => s!"unknown control '{name}'"

/-- The wordings of the causes of a refusal, the nearest first. -/
def Fault.causes : Fault → List String
  | invalidTime _ cause | invalidX cause | invalidY cause => [cause.message]
  | _ => []

/-! ## Reading -/

/-- What an event begins with when it is a click. -/
def pointMark : List Char := ['p', 'o', 'i', 'n', 't', ':']

/-- Reads the coordinates of a click in the timed input `text`. -/
def readPoint (text : String) (coordinates : List Char) : Except Fault InputEvent := do
  match Text.cutFirst ',' coordinates with
  | none => throw (.incompletePoint text)
  | some (x, y) =>
    let x ← (Numeral.readInt32 (Text.trim x)).mapError .invalidX
    let y ← (Numeral.readInt32 (Text.trim y)).mapError .invalidY
    return .point ⟨x, y⟩

/-- Reads the event in the timed input `text`. -/
def readEvent (text : String) (event : List Char) : Except Fault InputEvent :=
  match Text.afterStart pointMark (Text.trim event) with
  | some coordinates => readPoint text coordinates
  | none =>
    match Control.ofName? event with
    | some control => .ok (.control control)
    | none => .error (.unknownControl (String.ofList (Text.trim event)))

/-- Reads a timed input. -/
def read (text : String) : Except Fault TimedInput := do
  match Text.cutLast '@' text.toList with
  | none => throw (.missingTime text)
  | some (event, time) =>
    let atMs ← (Numeral.readUInt64 (Text.trim time)).mapError (.invalidTime text)
    let event ← readEvent text event
    return ⟨atMs, event⟩

end TimedInput
end BranchingMovie
