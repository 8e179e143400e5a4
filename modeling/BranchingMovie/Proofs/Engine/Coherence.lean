import BranchingMovie.Engine.Basic
import BranchingMovie.Proofs.Dispatch.Listeners
import BranchingMovie.Proofs.Playback.Setting

/-!
# Sessions stay coherent

A session and its player are two machines that have to stay in step.  `Session.Coherent` says how
they do: while the run does not wait, the player is stopped; while it waits, it waits at an entry
that waits, the player does what that entry asks for, and exactly the handlers of that entry listen
(`Session.WaitsAt`); when it is over, nobody listens any more.

Everything that can happen to a session keeps it coherent, whether it succeeds or fails: an event
(`Coherent.deliver`), the clock (`Coherent.updateFrame`), a walk (`Coherent.walk`), and so a whole
tick (`Coherent.tick`).
-/

namespace BranchingMovie

/-! ## What an entry asks for -/

/-- Answers a click into the zones of an entry. -/
def Handler.onZone (entry : Entry) (index : HotZoneIndex) : Handler Point :=
  fun _ => entry.zoneTransition index

theorem Handler.isSteady_onZone (entry : Entry) (index : HotZoneIndex) :
    (onZone entry index).IsSteady :=
  fun _ _ _ => rfl

/-- The handlers for clicks that an entry installs when it shows a still frame: one, if its clip has
zones. -/
def Film.zoneHandlers {δ : Type} (film : Film δ) (entry : Entry) : List (Handler Point) :=
  (film.catalog.get? entry.name).toList.map (Handler.onZone entry)

/-- The handlers that an entry of a kind installs, given its buttons. -/
def Film.listeners {δ : Type} (film : Film δ) (entry : Entry) (controls : List (Control × Int32)) :
    Opcode → Listeners
  | .playClip =>
    { control := controls.map fun listed => .onControlWithin entry.window listed.1 listed.2
      endOfClip := [.always entry.defaultOffset] }
  | .stillFrame =>
    { control := controls.map fun listed => .onControl listed.1 listed.2
      point := film.zoneHandlers entry }
  | _ => {}

/-- A player with the setting does what an entry of a kind asks for: it plays the frames of the
entry, shifted by the sound, or it shows the one frame of the entry. -/
def Setting.Serves (setting : Setting) (entry : Entry) : Opcode → Prop
  | .playClip =>
    setting.state = .playing ∧
      setting.startFrame = saturatingAdd entry.startFrame setting.shift ∧
      setting.endFrame = saturatingAdd entry.endFrame setting.shift
  | .stillFrame => setting.state = .singleFrame entry.startFrame
  | _ => False

namespace Session

variable {δ : Type} {film : Film δ} {session after : Session δ}

/-! ## Coherence -/

/-- The run waits at an entry of a kind, with the player and the handlers that the entry asks
for. -/
structure WaitsAt (film : Film δ) (session : Session δ) (entry : Entry) (kind : Opcode) :
    Prop where
  lookup : film.graph.lookup session.pointer = .ok entry
  decodes : Opcode.ofCode? entry.opcode = some kind
  clip : session.player.clipName = some (Asset.key entry.name)
  serves : session.player.setting.Serves entry kind
  listens : ∃ controls, entry.controls session.pointer.script = .ok controls ∧
    session.handlers.listeners = film.listeners entry controls kind
  laser : session.laserMode = !session.handlers.listeners.point.isEmpty

/-- The session and its player are in step. -/
structure Coherent (film : Film δ) (session : Session δ) : Prop where
  idle : session.state ≠ .awaitingEvent → session.player.state = .stopped
  waiting : session.state = .awaitingEvent → ∃ entry kind, session.WaitsAt film entry kind
  ended : ∀ ending, session.state = .finished ending →
    session.handlers.listeners = {} ∧ session.laserMode = false

/-- Waiting looks at nothing but the pointer, the listeners, the pointer for zones and the setting
of the player. -/
theorem WaitsAt.congr {entry : Entry} {kind : Opcode} (h : session.WaitsAt film entry kind)
    (hPointer : after.pointer = session.pointer)
    (hListeners : after.handlers.listeners = session.handlers.listeners)
    (hLaser : after.laserMode = session.laserMode)
    (hSetting : after.player.setting = session.player.setting) :
    after.WaitsAt film entry kind where
  lookup := by
    rw [hPointer]
    exact h.lookup
  decodes := h.decodes
  clip := by
    rw [← Player.clipName_setting, hSetting, Player.clipName_setting]
    exact h.clip
  serves := by
    rw [hSetting]
    exact h.serves
  listens := by
    rw [hPointer, hListeners]
    exact h.listens
  laser := by
    rw [hLaser, hListeners]
    exact h.laser

/-- Coherence looks at nothing but that and the state. -/
theorem Coherent.congr (h : session.Coherent film) (hPointer : after.pointer = session.pointer)
    (hState : after.state = session.state)
    (hListeners : after.handlers.listeners = session.handlers.listeners)
    (hLaser : after.laserMode = session.laserMode)
    (hSetting : after.player.setting = session.player.setting) : after.Coherent film where
  idle hIdle := by
    rw [← Player.setting_state, hSetting]
    exact h.idle (hState ▸ hIdle)
  waiting hWaits := by
    obtain ⟨entry, kind, hAt⟩ := h.waiting (hState ▸ hWaits)
    exact ⟨entry, kind, hAt.congr hPointer hListeners hLaser hSetting⟩
  ended ending hOver := by
    rw [hListeners, hLaser]
    exact h.ended ending (hState ▸ hOver)

/-- A run that walks is coherent when its player is stopped. -/
theorem Coherent.of_running (hState : session.state = .running)
    (hPlayer : session.player.state = .stopped) : session.Coherent film where
  idle _ := hPlayer
  waiting hWaits := by
    rw [hState] at hWaits
    cases hWaits
  ended _ hOver := by
    rw [hState] at hOver
    cases hOver

/-- A run that has not begun is coherent. -/
theorem Coherent.start (pointer : NodePointer) :
    (Session.start pointer : Session δ).Coherent film :=
  .of_running rfl rfl

/-! ## Events -/

theorem interrupt_of_waiting (h : session.state = .awaitingEvent) (offset : Int32) :
    session.interrupt offset =
      (true, { session.advance offset with player := session.player.stop, state := .running }) :=
  if_pos h

theorem interrupt_of_idle (h : session.state ≠ .awaitingEvent) (offset : Int32) :
    session.interrupt offset = (false, session) :=
  if_neg h

theorem follow_of_idle (h : session.state ≠ .awaitingEvent) (transitions : List Transition) :
    session.follow transitions = (false, session) := by
  induction transitions with
  | nil => rfl
  | cons transition transitions ih =>
    simp only [follow, interrupt_of_idle h, ih]
    rfl

/-- Of several jumps only the first one counts. -/
theorem follow_cons (session : Session δ) (transition : Transition)
    (transitions : List Transition) :
    session.follow (transition :: transitions) = session.interrupt transition.offset := by
  by_cases h : session.state = .awaitingEvent
  · have hIdle : (session.interrupt transition.offset).2.state ≠ .awaitingEvent := by
      rw [interrupt_of_waiting h]
      exact RunState.noConfusion
    simp only [follow, follow_of_idle hIdle, Bool.or_false]
  · simp only [follow, interrupt_of_idle h, follow_of_idle h, Bool.or_false]

/-- A jump stops the player, whatever it did. -/
theorem Coherent.of_interrupt (h : session.state = .awaitingEvent) (offset : Int32) :
    (session.interrupt offset).2.Coherent film := by
  rw [interrupt_of_waiting h]
  exact .of_running rfl rfl

theorem Coherent.interrupt (h : session.Coherent film) (offset : Int32) :
    (session.interrupt offset).2.Coherent film := by
  by_cases hWaits : session.state = .awaitingEvent
  · exact .of_interrupt hWaits offset
  · rw [interrupt_of_idle hWaits]
    exact h

theorem Coherent.follow (h : session.Coherent film) (transitions : List Transition) :
    (session.follow transitions).2.Coherent film := by
  cases transitions with
  | nil => exact h
  | cons transition transitions =>
    rw [follow_cons]
    exact h.interrupt transition.offset

/-- The jumps that the handlers ask for on an event. -/
def replies (session : Session δ) : InputEvent → List Transition
  | .control control => (session.handlers.dispatchControl control session.context).2
  | .point point => (session.handlers.dispatchPoint point session.context).2

/-- An event counts for the handlers, and then the run follows the replies to it. -/
theorem handle_eq_uncounted (session : Session δ) (event : InputEvent) :
    ∃ handlers : HandlerStack, handlers.uncounted = session.handlers.uncounted ∧
      session.handle event = { session with handlers }.follow (session.replies event) := by
  cases event with
  | control control =>
    exact ⟨_, session.handlers.uncounted_dispatchControl control session.context, rfl⟩
  | point point => exact ⟨_, session.handlers.uncounted_dispatchPoint point session.context, rfl⟩

/-- An event makes a run follow the replies to it; the listeners stay the same. -/
theorem handle_eq (session : Session δ) (event : InputEvent) :
    ∃ handlers : HandlerStack, handlers.listeners = session.handlers.listeners ∧
      session.handle event = { session with handlers }.follow (session.replies event) := by
  obtain ⟨handlers, hUncounted, hHandle⟩ := session.handle_eq_uncounted event
  exact ⟨handlers, HandlerStack.listeners_of_uncounted hUncounted, hHandle⟩

theorem Coherent.handle (h : session.Coherent film) (event : InputEvent) :
    (session.handle event).2.Coherent film := by
  obtain ⟨handlers, hListeners, hHandle⟩ := session.handle_eq event
  rw [hHandle]
  refine Coherent.follow ?_ _
  exact h.congr rfl rfl hListeners rfl rfl

theorem Coherent.deliver (h : session.Coherent film) (events : List InputEvent) :
    (session.deliver events).Coherent film := by
  induction events generalizing session with
  | nil => exact h
  | cons event events ih => exact ih (h.handle event)

/-! ## The clock -/

/-- The end of a clip moves a run that waits at the clip, by the default of the entry. -/
theorem handleEndOfClip_eq {entry : Entry} {controls : List (Control × Int32)}
    (h : session.handlers.listeners = film.listeners entry controls .playClip) :
    ∃ handlers : HandlerStack, handlers.listeners = session.handlers.listeners ∧
      session.handleEndOfClip = { session with handlers }.interrupt entry.defaultOffset := by
  have hEnd : session.handlers.endOfClip.map (·.handler) = [.always entry.defaultOffset] :=
    congrArg Listeners.endOfClip h
  have hReplies : (session.handlers.dispatchEndOfClip session.context).2 =
      [⟨entry.defaultOffset⟩] := by
    rw [HandlerStack.dispatchEndOfClip, filterMap_answer, hEnd]
    · rfl
    · rw [hEnd]
      exact List.forall_mem_singleton.2 (Handler.isSteady_always _)
  refine ⟨_, HandlerStack.listeners_of_uncounted
    (session.handlers.uncounted_dispatchEndOfClip session.context), ?_⟩
  rw [← follow_cons _ ⟨entry.defaultOffset⟩ [], ← hReplies]
  rfl

/-- Where the player plays, the entry is a clip. -/
theorem WaitsAt.eq_playClip {entry : Entry} {kind : Opcode} (h : session.WaitsAt film entry kind)
    (hPlaying : session.player.state = .playing) : kind = .playClip := by
  have hServes := h.serves
  cases kind with
  | playClip => rfl
  | stillFrame =>
    have hFrame : session.player.state = .singleFrame entry.startFrame := hServes
    rw [hPlaying] at hFrame
    cases hFrame
  | _ => exact hServes.elim

/-- Where the player plays, the run waits. -/
theorem Coherent.waits_of_playing (h : session.Coherent film)
    (hPlaying : session.player.state = .playing) : session.state = .awaitingEvent := by
  refine Decidable.byContradiction fun hIdle => ?_
  have hStopped := h.idle hIdle
  rw [hPlaying] at hStopped
  cases hStopped

/-! ## Entering -/

/-- A run that walks, with nobody who listens. -/
structure IsClear (session : Session δ) : Prop where
  running : session.state = .running
  stopped : session.player.state = .stopped
  silent : session.handlers.listeners = {}
  laser : session.laserMode = false

theorem IsClear.coherent (h : session.IsClear) : session.Coherent film :=
  .of_running h.running h.stopped

theorem setLaserMode_eq (session : Session δ) (enabled : Bool) :
    ∃ surface, session.setLaserMode enabled = { session with laserMode := enabled, surface } := by
  unfold setLaserMode
  split
  · rename_i h
    exact ⟨session.surface, by rw [← h]⟩
  · exact ⟨_, rfl⟩

/-- What an entry leaves behind is cleared away before the next one. -/
theorem isClear_clear (hState : session.state = .running)
    (hPlayer : session.player.state = .stopped) : session.clear.IsClear := by
  obtain ⟨surface, hLaser⟩ :=
    setLaserMode_eq { session with handlers := session.handlers.reset } false
  rw [clear, hLaser]
  exact ⟨hState, hPlayer, rfl, rfl⟩

theorem listeners_listenTo (session : Session δ) (handlerOf : Control → Int32 → Handler Control)
    (controls : List (Control × Int32)) :
    (session.listenTo handlerOf controls).handlers.listeners =
      { session.handlers.listeners with
        control := session.handlers.listeners.control ++
          controls.map fun listed => handlerOf listed.1 listed.2 } :=
  session.handlers.listeners_foldl_addControl
    (fun listed : Control × Int32 => handlerOf listed.1 listed.2) controls

/-- The zones of a clip bring their handler and the pointer for zones with them. -/
theorem openZones_eq (film : Film δ) (session : Session δ) (entry : Entry) :
    ∃ (handlers : HandlerStack) (surface : Array SurfaceEvent),
      handlers.listeners = { session.handlers.listeners with
        point := session.handlers.listeners.point ++ film.zoneHandlers entry } ∧
      session.openZones film entry = { session with
        handlers
        laserMode := session.laserMode || !(film.zoneHandlers entry).isEmpty
        surface } := by
  unfold openZones Film.zoneHandlers
  split
  · rename_i hNone
    refine ⟨session.handlers, session.surface, ?_, ?_⟩
    · rw [hNone, Option.toList_none, List.map_nil, List.append_nil]
    · rw [hNone, Option.toList_none, List.map_nil, List.isEmpty_nil, Bool.not_true, Bool.or_false]
  · rename_i index hIndex
    obtain ⟨surface, hLaser⟩ := setLaserMode_eq
      { session with handlers := (session.handlers.addPoint (.onZone entry index)).1 } true
    refine ⟨(session.handlers.addPoint (.onZone entry index)).1, surface, ?_, hLaser.trans ?_⟩
    · rw [HandlerStack.listeners_addPoint, hIndex]
      rfl
    · rw [hIndex, Option.toList_some, List.map_singleton, List.isEmpty_cons, Bool.not_false,
        Bool.or_true]

/-- A run that begins to wait is coherent when a refusal of the player leaves the player stopped,
and its consent is what the entry asks for. -/
theorem coherent_await {outcome : Except PlaybackError Unit × Player δ}
    (hState : session.state = .running)
    (hError : ∀ fault player, outcome = (.error fault, player) → player.state = .stopped)
    (hOk : ∀ player, outcome = (.ok (), player) → ∃ entry kind,
      ({ session with player, state := .awaitingEvent }).WaitsAt film entry kind) :
    (session.await outcome).2.Coherent film := by
  unfold await
  split
  · exact .of_running hState (hError _ _ rfl)
  · rename_i player
    refine ⟨fun hIdle => absurd rfl hIdle, fun _ => hOk player rfl, fun _ hOver => ?_⟩
    cases hOver

section Clock

variable [Decoder δ]

theorem IsClear.enterPlayClip (h : session.IsClear) {entry : Entry}
    (hLookup : film.graph.lookup session.pointer = .ok entry)
    (hKind : Opcode.ofCode? entry.opcode = some .playClip) (now : UInt64) :
    (session.enterPlayClip film now entry).2.Coherent film := by
  unfold Session.enterPlayClip
  split
  · exact h.coherent
  · rename_i controls hControls
    refine coherent_await h.running (fun fault player hPlay => ?_) (fun player hPlay => ?_)
    · obtain ⟨calls, rfl⟩ := Player.play_error hPlay
      exact h.stopped
    · obtain ⟨info, hSetting⟩ := Player.play_ok hPlay
      refine ⟨entry, .playClip, hLookup, hKind, ?_, ?_, ⟨controls, hControls, ?_⟩, ?_⟩
      · rw [← Player.clipName_setting, hSetting]
        rfl
      · rw [hSetting]
        exact ⟨rfl, rfl, rfl⟩
      · simp only [HandlerStack.listeners_addEndOfClip, listeners_listenTo, h.silent]
        rfl
      · simp only [HandlerStack.listeners_addEndOfClip, listeners_listenTo, h.silent]
        exact h.laser

theorem IsClear.enterStillFrame (h : session.IsClear) {entry : Entry}
    (hLookup : film.graph.lookup session.pointer = .ok entry)
    (hKind : Opcode.ofCode? entry.opcode = some .stillFrame) :
    (session.enterStillFrame film entry).2.Coherent film := by
  unfold Session.enterStillFrame
  split
  · exact h.coherent
  · rename_i controls hControls
    have hListen := session.listeners_listenTo Handler.onControl controls
    rw [h.silent] at hListen
    obtain ⟨handlers, surface, hHandlers, hOpen⟩ :=
      openZones_eq film (session.listenTo Handler.onControl controls) entry
    rw [hListen] at hHandlers
    simp only [hOpen]
    refine coherent_await h.running (fun fault player hPlay => ?_) (fun player hPlay => ?_)
    · obtain ⟨calls, rfl⟩ := Player.playSingleFrame_error hPlay
      exact h.stopped
    · obtain ⟨info, hSetting⟩ := Player.playSingleFrame_ok hPlay
      refine ⟨entry, .stillFrame, hLookup, hKind, ?_, ?_, ⟨controls, hControls, hHandlers⟩, ?_⟩
      · rw [← Player.clipName_setting, hSetting]
        rfl
      · rw [hSetting]
        rfl
      · have hOff : (session.listenTo Handler.onControl controls).laserMode = false := h.laser
        rw [hHandlers, hOff]
        rfl

/-- Whatever an entry asks for is done coherently. -/
theorem IsClear.perform (h : session.IsClear) {entry : Entry} {kind : Opcode}
    (hLookup : film.graph.lookup session.pointer = .ok entry)
    (hKind : Opcode.ofCode? entry.opcode = some kind) (now : UInt64) :
    (session.perform film now entry kind).2.Coherent film := by
  have hFinish : ∀ ending, (session.finish ending).Coherent film := fun ending =>
    ⟨fun _ => h.stopped, fun hWaits => RunState.noConfusion hWaits, fun _ _ => ⟨h.silent, h.laser⟩⟩
  cases kind with
  | playClip => exact h.enterPlayClip hLookup hKind now
  | stillFrame => exact h.enterStillFrame hLookup hKind
  | switchScript =>
    show (session.switchScript film entry).Coherent film
    unfold switchScript
    split
    · exact hFinish .exitToMenu
    · exact .of_running h.running h.stopped
  | death => exact hFinish .death
  | _ => exact .of_running h.running h.stopped

/-! ## Walking -/

/-- A visit leaves a coherent session behind, also when it fails. -/
theorem coherent_visit (hState : session.state = .running)
    (hPlayer : session.player.state = .stopped) (now : UInt64) :
    (session.visit film now).2.Coherent film := by
  have hClear := isClear_clear hState hPlayer
  simp only [visit]
  split
  · exact hClear.coherent
  · rename_i entry hLookup
    split
    · exact hClear.coherent
    · rename_i kind hKind
      exact hClear.perform hLookup hKind now

/-- A walk leaves a coherent session behind, however far it gets. -/
theorem Coherent.walk (h : session.Coherent film) (now : UInt64) (limit remaining : Nat) :
    (session.walk film now limit remaining).2.Coherent film := by
  -- a run that walks has a stopped player, which is what the next visit asks for
  induction remaining generalizing session with
  | zero =>
    unfold Session.walk
    split
    · exact h
    · exact h
  | succ remaining ih =>
    unfold Session.walk
    split
    · rename_i hState
      have hPlayer := h.idle (by rw [hState]; exact RunState.noConfusion)
      have hVisit : (session.visit film now).2.Coherent film :=
        coherent_visit hState hPlayer now
      split
      · rename_i hOutcome
        rw [hOutcome] at hVisit
        exact hVisit
      · rename_i hOutcome
        rw [hOutcome] at hVisit
        exact ih hVisit
    · exact h

/-! ## Ticks -/

/-- The clock keeps a session coherent: the end of a clip is never lost, because the handler of the
entry moves the run on in the same moment. -/
theorem Coherent.updateFrame (h : session.Coherent film) (now : UInt64) :
    (session.updateFrame now).2.Coherent film := by
  unfold Session.updateFrame
  obtain ⟨fault, player, hUpdate, hSetting⟩ | ⟨player, hUpdate, hSetting⟩ |
    ⟨ended, player, hUpdate, hPlaying, hSetting⟩ := session.player.updateFrame_cases now
  · rw [hUpdate]
    exact h.congr rfl rfl rfl rfl hSetting
  · rw [hUpdate]
    exact h.congr rfl rfl rfl rfl hSetting
  · rw [hUpdate]
    have hWaits := h.waits_of_playing hPlaying
    obtain ⟨entry, kind, hAt⟩ := h.waiting hWaits
    obtain rfl := hAt.eq_playClip hPlaying
    obtain ⟨controls, -, hListeners⟩ := hAt.listens
    have hNow : ({ session with player }).handlers.listeners =
        film.listeners entry controls .playClip := hListeners
    obtain ⟨handlers, -, hEnd⟩ := handleEndOfClip_eq hNow
    simp only [hEnd]
    refine Coherent.of_interrupt ?_ _
    exact hWaits

/-- A tick leaves a coherent session behind, also when it fails half-way. -/
theorem Coherent.tick (h : session.Coherent film) (now : UInt64) (events : List InputEvent) :
    (session.tick film now events).2.Coherent film := by
  have hUpdated := (h.deliver events).updateFrame now
  unfold Session.tick
  split
  · rename_i hOutcome
    rw [hOutcome] at hUpdated
    exact hUpdated
  · rename_i hOutcome
    rw [hOutcome] at hUpdated
    have hWalked := hUpdated.walk now film.config.maxStepsPerTick.toNat
      film.config.maxStepsPerTick.toNat
    rw [← Session.update] at hWalked
    split
    · rename_i hUpdate
      rw [hUpdate] at hWalked
      exact hWalked
    · rename_i hUpdate
      rw [hUpdate] at hWalked
      exact hWalked

end Clock
end Session
end BranchingMovie
