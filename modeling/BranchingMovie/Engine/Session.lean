import BranchingMovie.Dispatch.Stack
import BranchingMovie.HotZone.Catalog
import BranchingMovie.Playback.Player

/-!
# Sessions

A session is one run of a film: where it stands in the graph, whether it walks, waits or is over,
which handlers listen, what the player shows, and what was asked of the panel.
-/

namespace BranchingMovie

/-! ## Outcomes -/

/-- How a run ends. -/
inductive Ending where
  | death
  | exitToMenu
  deriving DecidableEq, Repr

/-- What a run is doing. -/
inductive RunState where
  /-- It walks through entries that need no input. -/
  | running
  /-- It waits at a clip or a still frame until a handler asks for a jump. -/
  | awaitingEvent
  | finished (ending : Ending)
  deriving DecidableEq, Repr

/-- Why a run cannot go on. -/
inductive EngineError where
  /-- The pointer names no entry. -/
  | pointer (fault : PointerFault)
  | unknownOpcode (script : String) (index : Nat) (opcode : Int32)
  /-- A condition of the entry stands for no trigger. -/
  | unknownCondition (script : String) (index : Nat) (code : Int32)
  /-- No entry waited or ended the run within the limit of one tick. -/
  | runaway (steps : Nat) (pointer : NodePointer)
  | playback (fault : PlaybackError)
  deriving DecidableEq, Repr

namespace EngineError

/-- The wording of a failure. -/
def message : EngineError → String
  | pointer fault => fault.message
  | unknownOpcode script index opcode =>
    s!"{script}[{index}]: unknown opcode {Numeral.writeInt opcode.toInt}"
  | unknownCondition script index code =>
    s!"{script}[{index}]: condition code {Numeral.writeInt code.toInt} is not a known trigger"
  | runaway steps place => s!"no node yielded after {steps} steps (last at {place.text})"
  | playback fault => fault.message

/-- The wordings of the causes of a failure, the nearest first. -/
def causes : EngineError → List String
  | playback fault => fault.causes
  | _ => []

end EngineError

/-! ## Films and sessions -/

/-- What does not change in the course of a run: the scripts, the click maps, the settings and the
clips. -/
structure Film (δ : Type) where
  graph : NodeGraph
  catalog : HotZoneCatalog
  config : Config
  clips : ClipLibrary δ

/-- The state of a run. -/
structure Session (δ : Type) where
  pointer : NodePointer
  state : RunState := .running
  handlers : HandlerStack := {}
  /-- The pointer for zones is shown. -/
  laserMode : Bool := false
  player : Player δ := {}
  /-- What was asked of the panel so far. -/
  surface : Array SurfaceEvent := #[]

namespace Session

variable {δ : Type}

/-- A run that stands at a pointer and has not begun. -/
def start (pointer : NodePointer) : Session δ :=
  { pointer }

/-- Asks something of the panel. -/
def notify (session : Session δ) (event : SurfaceEvent) : Session δ :=
  { session with surface := session.surface.push event }

/-- Shows or hides the pointer for zones; the panel hears of it only when something changes. -/
def setLaserMode (session : Session δ) (enabled : Bool) : Session δ :=
  if session.laserMode = enabled then session
  else { session.notify (.laserMode enabled) with laserMode := enabled }

/-- Ends the run. -/
def finish (session : Session δ) (ending : Ending) : Session δ :=
  { session.notify .exitToMenu with state := .finished ending }

/-- Goes some entries further. -/
def advance (session : Session δ) (offset : Int32) : Session δ :=
  { session with pointer := session.pointer.advance offset }

/-! ## Events -/

/-- Leaves the entry that the run waits at for the one `offset` entries further.  A run that does
not wait stays as it is, so the second of two jumps from one entry is lost. -/
def interrupt (session : Session δ) (offset : Int32) : Bool × Session δ :=
  if session.state = .awaitingEvent then
    (true, { session.advance offset with player := session.player.stop, state := .running })
  else (false, session)

/-- Follows the jumps that handlers ask for, which is to say the first of them.  The flag says
whether the run moved. -/
def follow (session : Session δ) : List Transition → Bool × Session δ
  | [] => (false, session)
  | transition :: transitions =>
    let (moved, session) := session.interrupt transition.offset
    let (later, session) := session.follow transitions
    (moved || later, session)

/-- What handlers get to see now. -/
def context (session : Session δ) : DispatchContext :=
  ⟨session.player.currentFrame⟩

/-- Offers a button to the handlers. -/
def handleControl (session : Session δ) (control : Control) : Bool × Session δ :=
  let (handlers, transitions) := session.handlers.dispatchControl control session.context
  { session with handlers }.follow transitions

/-- Offers a click to the handlers. -/
def handlePoint (session : Session δ) (point : Point) : Bool × Session δ :=
  let (handlers, transitions) := session.handlers.dispatchPoint point session.context
  { session with handlers }.follow transitions

/-- Offers the end of a clip to the handlers. -/
def handleEndOfClip (session : Session δ) : Bool × Session δ :=
  let (handlers, transitions) := session.handlers.dispatchEndOfClip session.context
  { session with handlers }.follow transitions

/-- Offers an event of either kind to the handlers. -/
def handle (session : Session δ) : InputEvent → Bool × Session δ
  | .control control => session.handleControl control
  | .point point => session.handlePoint point

end Session
end BranchingMovie
