import BranchingMovie.Engine.Basic

/-!
# Scenes

A scene is a session without its handlers.  Entries can be visited on scenes alone: what a walk
does with the pointer, the player and the panel depends on no handler, because each visit drops
those that are there and asks none of those it installs.  `scene_visit`, `scene_walk` and
`scene_update` say so for the walk of a session, whatever its outcome.

What moves the pointer is written out here: `Scene.advance` adds to the index, and
`Scene.switchScript` goes to an index in another script.
-/

namespace BranchingMovie

variable {δ : Type}

/-- What there is to a run apart from who listens. -/
structure Scene (δ : Type) where
  pointer : NodePointer
  state : RunState
  laserMode : Bool
  player : Player δ
  surface : Array SurfaceEvent

namespace Scene

/-! ## The walk on scenes -/

/-- Asks something of the panel. -/
def notify (scene : Scene δ) (event : SurfaceEvent) : Scene δ :=
  { scene with surface := scene.surface.push event }

/-- Shows or hides the pointer for zones. -/
def setLaserMode (scene : Scene δ) (enabled : Bool) : Scene δ :=
  if scene.laserMode = enabled then scene
  else { scene.notify (.laserMode enabled) with laserMode := enabled }

/-- Ends the run. -/
def finish (scene : Scene δ) (ending : Ending) : Scene δ :=
  { scene.notify .exitToMenu with state := .finished ending }

/-- Goes some entries further: the script stays, and the offset is added to the index. -/
def advance (scene : Scene δ) (offset : Int32) : Scene δ :=
  { scene with pointer := ⟨scene.pointer.script, scene.pointer.index + offset.toInt64⟩ }

/-- Leaves the entry that the run waits at for the one `offset` entries further.  The player stops,
and the run walks. -/
def leave (scene : Scene δ) (offset : Int32) : Scene δ :=
  { scene.advance offset with
    player := { scene.player with state := .stopped }
    state := .running }

/-- Waits, when the player does what it was asked for. -/
def await (scene : Scene δ) (outcome : Except PlaybackError Unit × Player δ) :
    Except EngineError Unit × Scene δ :=
  match outcome with
  | (.error fault, player) => (.error (.playback fault), { scene with player })
  | (.ok (), player) => (.ok (), { scene with player, state := .awaitingEvent })

/-- Shows the pointer for zones when the clip of an entry has any. -/
def openZones (film : Film δ) (scene : Scene δ) (entry : Entry) : Scene δ :=
  if (film.catalog.get? entry.name).isSome then scene.setLaserMode true else scene

theorem player_openZones (film : Film δ) (scene : Scene δ) (entry : Entry) :
    (scene.openZones film entry).player = scene.player := by
  unfold openZones setLaserMode
  split
  · split <;> rfl
  · rfl

/-- Goes on in another script, at the entry whose index stands in the place of a first frame, or
ends the run at the gate. -/
def switchScript (film : Film δ) (scene : Scene δ) (entry : Entry) : Scene δ :=
  if film.config.isGate entry.name then scene.finish .exitToMenu
  else { scene with pointer := ⟨Asset.key entry.name, entry.startFrame.toInt64⟩ }

/-- Does what an entry asks for.  An entry that waits is refused when one of its conditions stands
for no trigger. -/
def perform [Decoder δ] (film : Film δ) (now : UInt64) (scene : Scene δ) (entry : Entry) :
    Opcode → Except EngineError Unit × Scene δ
  | .nop | .gate | .hotZoneMarker | .reserved _ => (.ok (), scene.advance entry.defaultOffset)
  | .enableInterface => (.ok (), (scene.notify (.navigation true)).advance entry.defaultOffset)
  | .playClip =>
    match entry.controls scene.pointer.script with
    | .error fault => (.error fault, scene)
    | .ok _ =>
      scene.await (scene.player.play film.clips entry.name entry.startFrame entry.endFrame now)
  | .stillFrame =>
    match entry.controls scene.pointer.script with
    | .error fault => (.error fault, scene)
    | .ok _ =>
      (scene.openZones film entry).await
        (scene.player.playSingleFrame film.clips entry.name entry.startFrame)
  | .switchScript => (.ok (), scene.switchScript film entry)
  | .death => (.ok (), scene.finish .death)

/-- Visits the entry under the pointer. -/
def visit [Decoder δ] (film : Film δ) (now : UInt64) (scene : Scene δ) :
    Except EngineError Unit × Scene δ :=
  let scene := scene.setLaserMode false
  match film.graph.lookup scene.pointer with
  | .error fault => (.error (.pointer fault), scene)
  | .ok entry =>
    match Opcode.ofCode? entry.opcode with
    | none => (.error (.unknownOpcode scene.pointer.script entry.index entry.opcode), scene)
    | some opcode => scene.perform film now entry opcode

/-- Visits entries while the run does not wait, `remaining` of them at most. -/
def walk [Decoder δ] (film : Film δ) (now : UInt64) (limit : Nat) :
    Nat → Scene δ → Except EngineError Unit × Scene δ
  | 0, scene =>
    if scene.state = .running then (.error (.runaway limit scene.pointer), scene)
    else (.ok (), scene)
  | remaining + 1, scene =>
    if scene.state = .running then
      match scene.visit film now with
      | (.error fault, scene) => (.error fault, scene)
      | (.ok (), scene) => walk film now limit remaining scene
    else (.ok (), scene)

/-- Goes on until the run waits or is over. -/
def update [Decoder δ] (film : Film δ) (now : UInt64) (scene : Scene δ) :
    Except EngineError Unit × Scene δ :=
  let limit := film.config.maxStepsPerTick.toNat
  walk film now limit limit scene

/-- What no visit takes away from a run that walks is not taken away by a walk, however far it
gets. -/
theorem walk_induction [Decoder δ] {film : Film δ} {now : UInt64} {P : Scene δ → Prop}
    (hVisit : ∀ scene, scene.state = .running → P scene → P (scene.visit film now).2)
    {scene : Scene δ} (h : P scene) (limit remaining : Nat) :
    P (scene.walk film now limit remaining).2 := by
  induction remaining generalizing scene with
  | zero =>
    unfold walk
    split <;> exact h
  | succ remaining ih =>
    unfold walk
    split
    · rename_i hState
      have hVisited := hVisit scene hState h
      split
      · rename_i hOutcome
        rw [hOutcome] at hVisited
        exact hVisited
      · rename_i hOutcome
        rw [hOutcome] at hVisited
        exact ih hVisited
    · exact h

end Scene

/-! ## Sessions seen as scenes -/

namespace Session

/-- A session without its handlers. -/
def scene (session : Session δ) : Scene δ :=
  ⟨session.pointer, session.state, session.laserMode, session.player, session.surface⟩

variable (film : Film δ) (session : Session δ)

@[simp] theorem scene_pointer : session.scene.pointer = session.pointer := rfl

@[simp] theorem scene_state : session.scene.state = session.state := rfl

@[simp] theorem scene_player : session.scene.player = session.player := rfl

theorem scene_setLaserMode (enabled : Bool) :
    (session.setLaserMode enabled).scene = session.scene.setLaserMode enabled := by
  unfold setLaserMode Scene.setLaserMode
  split
  · rename_i h
    exact (if_pos h).symm
  · rename_i h
    exact (if_neg h).symm

theorem scene_openZones (entry : Entry) :
    (session.openZones film entry).scene = session.scene.openZones film entry := by
  unfold openZones Scene.openZones
  split
  · rename_i h
    rw [h]
    rfl
  · rename_i index h
    rw [h, scene_setLaserMode]
    rfl

theorem scene_await (outcome : Except PlaybackError Unit × Player δ) :
    (session.await outcome).map id scene = session.scene.await outcome := by
  obtain ⟨result, player⟩ := outcome
  cases result <;> rfl

theorem scene_switchScript (entry : Entry) :
    (session.switchScript film entry).scene = session.scene.switchScript film entry := by
  unfold switchScript Scene.switchScript
  split <;> rfl

variable [Decoder δ] (now : UInt64)

/-- What an entry asks for is done with the scene alone. -/
theorem scene_perform (entry : Entry) (kind : Opcode) :
    (session.perform film now entry kind).map id scene =
      session.scene.perform film now entry kind := by
  cases kind with
  | playClip =>
    simp only [perform, enterPlayClip, Scene.perform, scene_pointer]
    cases entry.controls session.pointer.script with
    | error fault => rfl
    | ok controls => exact scene_await _ _
  | stillFrame =>
    simp only [perform, enterStillFrame, Scene.perform, scene_pointer]
    cases entry.controls session.pointer.script with
    | error fault => rfl
    | ok controls =>
      have hOpen := scene_openZones film (session.listenTo Handler.onControl controls) entry
      have hPlayer := congrArg Scene.player hOpen
      rw [Scene.player_openZones, scene_player] at hPlayer
      refine (scene_await _ _).trans ?_
      rw [hOpen, hPlayer]
      rfl
  | switchScript => exact congrArg (Prod.mk _) (session.scene_switchScript film entry)
  | _ => rfl

/-- A visit is a visit of the scene. -/
theorem scene_visit :
    (session.visit film now).map id scene = session.scene.visit film now := by
  have hClear : session.clear.scene = session.scene.setLaserMode false :=
    scene_setLaserMode _ false
  simp only [visit, Scene.visit, ← hClear, scene_pointer]
  cases film.graph.lookup session.clear.pointer with
  | error fault => rfl
  | ok entry =>
    simp only
    cases Opcode.ofCode? entry.opcode with
    | none => rfl
    | some kind => exact scene_perform film session.clear now entry kind

/-- **The walk of a session is the walk of its scene**, whether it comes to an end or fails. -/
theorem scene_walk (limit remaining : Nat) :
    (session.walk film now limit remaining).map id scene =
      session.scene.walk film now limit remaining := by
  induction remaining generalizing session with
  | zero =>
    unfold walk Scene.walk
    by_cases hState : session.state = .running
    · have hScene : session.scene.state = .running := hState
      rw [if_pos hState, if_pos hScene]
      rfl
    · have hScene : session.scene.state ≠ .running := hState
      rw [if_neg hState, if_neg hScene]
      rfl
  | succ remaining ih =>
    unfold walk Scene.walk
    by_cases hState : session.state = .running
    · have hScene : session.scene.state = .running := hState
      rw [if_pos hState, if_pos hScene, ← scene_visit]
      obtain ⟨result, visited⟩ := session.visit film now
      cases result with
      | error fault => rfl
      | ok _ => exact ih visited
    · have hScene : session.scene.state ≠ .running := hState
      rw [if_neg hState, if_neg hScene]
      rfl

theorem scene_update :
    (session.update film now).map id scene = session.scene.update film now :=
  session.scene_walk film now _ _

end Session
end BranchingMovie
