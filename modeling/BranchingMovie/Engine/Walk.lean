import BranchingMovie.Engine.Session

/-!
# The walk

A run that does not wait goes from entry to entry until one has to wait, ends the run or fails.
Each entry first drops the handlers of the one before.  A clip listens to its buttons inside its
window and to its own end, a still frame to its buttons at any time and to clicks into its zones.
The number of entries in one walk is limited.
-/

namespace BranchingMovie

/-! ## Conditions -/

namespace Entry

/-- The jump that a click asks for: that of the condition in the slot of the first zone that
contains it, on the frame on display. -/
def zoneTransition (entry : Entry) (index : HotZoneIndex) (point : Point)
    (context : DispatchContext) : Option Transition :=
  match context.currentFrame with
  | none => none
  | some frame =>
    match index.zoneAt frame point with
    | .ok (some zone) => (entry.slotOffset? zone.slot).map Transition.mk
    | _ => none

/-- The buttons among conditions with the jumps they ask for, in the order of the conditions, up to
a condition that stands for no trigger. -/
def controlsOf (script : String) (index : Nat) :
    List Condition → Except EngineError (List (Control × Int32))
  | [] => .ok []
  | condition :: conditions =>
    match Trigger.ofCode? condition.code with
    | none => .error (.unknownCondition script index condition.code)
    | some .zone => controlsOf script index conditions
    | some (.control control) =>
      (controlsOf script index conditions).map ((control, condition.offset) :: ·)

/-- The buttons that the entry listens to. -/
def controls (entry : Entry) (script : String) : Except EngineError (List (Control × Int32)) :=
  controlsOf script entry.index (entry.conditions.map (·.2))

/-- The frames of a clip on which its buttons count. -/
def window (entry : Entry) : Handler.Window :=
  ⟨entry.actionStart, entry.actionEnd⟩

end Entry

/-! ## Entering -/

namespace Session

variable {δ : Type}

/-- Adds a handler for each of the buttons. -/
def listenTo (session : Session δ) (handlerOf : Control → Int32 → Handler Control)
    (controls : List (Control × Int32)) : Session δ :=
  { session with
    handlers := controls.foldl
      (fun handlers listed => (handlers.addControl (handlerOf listed.1 listed.2)).1)
      session.handlers }

/-- Waits, when the player does what it was asked for. -/
def await (session : Session δ) (outcome : Except PlaybackError Unit × Player δ) :
    Except EngineError Unit × Session δ :=
  match outcome with
  | (.error fault, player) => (.error (.playback fault), { session with player })
  | (.ok (), player) => (.ok (), { session with player, state := .awaitingEvent })

/-- Plays the clip of an entry and listens to its buttons and its end. -/
def enterPlayClip [Decoder δ] (film : Film δ) (now : UInt64) (session : Session δ) (entry : Entry) :
    Except EngineError Unit × Session δ :=
  match entry.controls session.pointer.script with
  | .error fault => (.error fault, session)
  | .ok controls =>
    let session := session.listenTo (Handler.onControlWithin entry.window) controls
    let session :=
      { session with handlers := (session.handlers.addEndOfClip (.always entry.defaultOffset)).1 }
    session.await
      (session.player.play film.clips entry.name entry.startFrame entry.endFrame now)

/-- Listens to clicks into the zones of an entry, if its clip has any, and shows the pointer for
them. -/
def openZones (film : Film δ) (session : Session δ) (entry : Entry) : Session δ :=
  match film.catalog.get? entry.name with
  | none => session
  | some index =>
    { session with
      handlers := (session.handlers.addPoint fun _ => entry.zoneTransition index).1 }.setLaserMode
        true

/-- Shows the still frame of an entry and listens to its buttons and zones. -/
def enterStillFrame [Decoder δ] (film : Film δ) (session : Session δ) (entry : Entry) :
    Except EngineError Unit × Session δ :=
  match entry.controls session.pointer.script with
  | .error fault => (.error fault, session)
  | .ok controls =>
    let session := (session.listenTo Handler.onControl controls).openZones film entry
    session.await (session.player.playSingleFrame film.clips entry.name entry.startFrame)

/-- Goes on in another script, or ends the run at the gate. -/
def switchScript (film : Film δ) (session : Session δ) (entry : Entry) : Session δ :=
  if film.config.isGate entry.name then session.finish .exitToMenu
  else { session with pointer := NodePointer.ofName entry.name entry.startFrame.toInt64 }

/-- Does what an entry asks for. -/
def perform [Decoder δ] (film : Film δ) (now : UInt64) (session : Session δ) (entry : Entry) :
    Opcode → Except EngineError Unit × Session δ
  | .nop | .gate | .hotZoneMarker | .reserved _ => (.ok (), session.advance entry.defaultOffset)
  | .enableInterface =>
    (.ok (), (session.notify (.navigation true)).advance entry.defaultOffset)
  | .playClip => session.enterPlayClip film now entry
  | .stillFrame => session.enterStillFrame film entry
  | .switchScript => (.ok (), session.switchScript film entry)
  | .death => (.ok (), session.finish .death)

/-! ## Walking -/

/-- Leaves the entry before behind: its handlers go, and so does the pointer for its zones. -/
def clear (session : Session δ) : Session δ :=
  { session with handlers := session.handlers.reset }.setLaserMode false

/-- Visits the entry under the pointer. -/
def visit [Decoder δ] (film : Film δ) (now : UInt64) (session : Session δ) :
    Except EngineError Unit × Session δ :=
  let session := session.clear
  match film.graph.lookup session.pointer with
  | .error fault => (.error (.pointer fault), session)
  | .ok entry =>
    match Opcode.ofCode? entry.opcode with
    | none => (.error (.unknownOpcode session.pointer.script entry.index entry.opcode), session)
    | some opcode => session.perform film now entry opcode

/-- Visits entries while the run does not wait, `remaining` of them at most; `limit` is the number
that is reported when they do not suffice. -/
def walk [Decoder δ] (film : Film δ) (now : UInt64) (limit : Nat) :
    Nat → Session δ → Except EngineError Unit × Session δ
  | 0, session =>
    if session.state = .running then (.error (.runaway limit session.pointer), session)
    else (.ok (), session)
  | remaining + 1, session =>
    if session.state = .running then
      match session.visit film now with
      | (.error fault, session) => (.error fault, session)
      | (.ok (), session) => walk film now limit remaining session
    else (.ok (), session)

/-- Goes on until the run waits or is over. -/
def update [Decoder δ] (film : Film δ) (now : UInt64) (session : Session δ) :
    Except EngineError Unit × Session δ :=
  let limit := film.config.maxStepsPerTick.toNat
  walk film now limit limit session

end Session
end BranchingMovie
