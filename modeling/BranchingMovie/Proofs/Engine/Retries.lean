import BranchingMovie.Proofs.Engine.TickCourse
import BranchingMovie.Proofs.Playback.Lookalikes

/-!
# Ticks that fail for a clip

A tick may fail because the player cannot show a frame or cannot load a clip.

* The clock fails only in a run that no input has moved, and it changes nothing then that a later
  tick could go by (`Session.IsKept`).
* An entry that the player refuses is entered again by the next tick.  What the refusal has left
  behind, handlers and the pointer for zones above all, is cleared away before that, and the player
  looks as it did.  So the next tick ends as though the run had just come to the entry
  (`Engine.next_tick_of_refused`).
-/

namespace BranchingMovie

variable {δ : Type}

/-! ## Entering -/

namespace Player

variable [Decoder δ] {player other : Player δ} {library : ClipLibrary δ} {now : UInt64}
  {entry : Entry} {kind : Opcode}

/-- A player that refuses an entry is as it was, apart from the list of calls. -/
theorem enter_error {cause : PlaybackError}
    (h : (player.enter library now entry kind).1 = .error cause) :
    ∃ calls, (player.enter library now entry kind).2 = { player with calls } := by
  cases kind with
  | playClip => exact play_error (Prod.ext h rfl)
  | stillFrame => exact playSingleFrame_error (Prod.ext h rfl)
  | _ => cases h

omit [Decoder δ] in
theorem stop_of_stopped (h : player.state = .stopped) : player.stop = player := by
  rw [stop, ← h]

/-- Players that resemble each other enter an entry in the same way. -/
theorem Resembles.enter (h : player.Resembles other) (library : ClipLibrary δ) (now : UInt64)
    (entry : Entry) (kind : Opcode) :
    (other.enter library now entry kind).1 = (player.enter library now entry kind).1 ∧
      (player.enter library now entry kind).2.Resembles
        (other.enter library now entry kind).2 := by
  cases kind with
  | playClip => exact h.play library entry.name entry.startFrame entry.endFrame now
  | stillFrame => exact h.playSingleFrame library entry.name entry.startFrame
  | _ => exact ⟨rfl, h⟩

end Player

namespace Session

/-- The runs stand at the same place in the same state, with the same listeners and with players
that resemble each other. -/
structure Resembles (session other : Session δ) : Prop where
  pointer : other.pointer = session.pointer
  state : other.state = session.state
  listeners : other.handlers.listeners = session.handlers.listeners
  laserMode : other.laserMode = session.laserMode
  player : session.player.Resembles other.player

/-- After a fault of the clock the run is where it was, with the handlers that it had, and its
player is set as it was, shows the frame that it showed and takes its decoder to be where it was;
nothing was asked of the panel. -/
structure IsKept (session after : Session δ) : Prop where
  pointer : after.pointer = session.pointer
  state : after.state = session.state
  handlers : after.handlers.uncounted = session.handlers.uncounted
  laserMode : after.laserMode = session.laserMode
  surface : after.surface = session.surface
  setting : after.player.setting = session.player.setting
  currentFrame : after.player.currentFrame = session.player.currentFrame
  nextFrame : after.player.nextFrame = session.player.nextFrame

variable [Decoder δ] {film : Film δ} {session other : Session δ} {now : UInt64} {entry : Entry}
  {kind : Opcode} {cause : PlaybackError}

/-- An entry that a run enters is entered by every run that comes to it, at any time, whichever
clips there are. -/
theorem Enters.again (h : session.Enters film now entry kind)
    (hPointer : other.pointer = session.pointer) (clips : ClipLibrary δ) (later : UInt64) :
    other.Enters (film.restock clips) later entry kind := by
  obtain ⟨controls, _, _, hControls, -, -⟩ := h.visit
  rw [← hPointer] at hControls
  have hLookup : (film.restock clips).graph.lookup other.pointer = .ok entry := by
    rw [hPointer]
    exact h.lookup
  exact enters_of_controls hLookup h.decodes h.interactive hControls later

theorem Enters.not_leadsOn (h : session.Enters film now entry kind) :
    ¬ film.LeadsOn session.pointer := by
  rw [Film.not_leadsOn_iff, Film.next?_of_lookup h.lookup h.decodes]
  obtain rfl | rfl := Opcode.isInteractive_iff.1 h.interactive
  · rfl
  · rfl

/-- What two runs make of an entry depends on their players alone, not on what went before. -/
theorem Enters.resembles (h : session.Enters film now entry kind)
    (hOther : other.Enters film now entry kind) (hPointer : other.pointer = session.pointer)
    (hState : other.state = session.state) (hPlayer : session.player.Resembles other.player) :
    (other.visit film now).1 = (session.visit film now).1 ∧
      (session.visit film now).2.Resembles (other.visit film now).2 := by
  obtain ⟨controls, handlers, surface, hControls, hListeners, hVisit⟩ := h.visit
  obtain ⟨controls', handlers', surface', hControls', hListeners', hVisit'⟩ := hOther.visit
  obtain rfl : controls = controls' := by
    rw [hPointer, hControls] at hControls'
    exact Except.ok.inj hControls'
  have hSame : handlers'.listeners = handlers.listeners := hListeners'.trans hListeners.symm
  have hEnter := hPlayer.enter film.clips now entry kind
  rw [hVisit, hVisit', hSame]
  revert hEnter
  obtain ⟨outcome, entered⟩ := session.player.enter film.clips now entry kind
  obtain ⟨outcome', entered'⟩ := other.player.enter film.clips now entry kind
  rintro ⟨hOutcome, hPlayers⟩
  obtain rfl : outcome' = outcome := hOutcome
  cases outcome' with
  | error fault => exact ⟨rfl, hPointer, hState, hSame, rfl, hPlayers⟩
  | ok _ => exact ⟨rfl, hPointer, rfl, hSame, rfl, hPlayers⟩

/-- A visit that fails for a clip has come to an entry that waits, and has left the run walking,
with its player as it was. -/
theorem visit_playback_error (h : (session.visit film now).1 = .error (.playback cause)) :
    ∃ entry kind handlers laserMode surface calls, session.Enters film now entry kind ∧
      (session.visit film now).2 =
        { session with handlers, laserMode, surface, player := { session.player with calls } } := by
  obtain ⟨fault, hRefusal, hVisit⟩ | ⟨_, _, -, hVisit⟩ | ⟨-, _, hVisit⟩ |
    ⟨-, entry, kind, hEnters⟩ := session.visit_cases film now
  · rw [hVisit] at h
    cases h
    cases Film.isLogical_of_refusal? hRefusal
  · rw [hVisit] at h
    cases h
  · rw [hVisit] at h
    cases h
  · obtain ⟨controls, handlers, surface, -, -, hVisit⟩ := hEnters.visit
    rw [hVisit] at h ⊢
    obtain ⟨fault, hEnter, hAwait⟩ | ⟨-, hAwait⟩ := await_cases
      { session with handlers, laserMode := !handlers.listeners.point.isEmpty, surface }
      (session.player.enter film.clips now entry kind)
    · obtain ⟨calls, hPlayer⟩ := Player.enter_error hEnter
      rw [hAwait, hPlayer]
      exact ⟨entry, kind, handlers, _, surface, calls, hEnters, rfl⟩
    · rw [hAwait] at h
      cases h

/-- The clock fails when the player does. -/
theorem updateFrame_error_iff :
    (session.updateFrame now).1 = .error (.playback cause) ↔
      (session.player.updateFrame now).1 = .error cause := by
  unfold updateFrame
  split
  · rename_i hUpdate
    simp [hUpdate]
  · rename_i hUpdate
    simp [hUpdate]
  · rename_i hUpdate
    simp [hUpdate]

/-- It succeeds when the player does. -/
theorem updateFrame_ok_iff :
    (session.updateFrame now).1 = .ok () ↔
      ∃ ended, (session.player.updateFrame now).1 = .ok ended := by
  unfold updateFrame
  split
  · rename_i hUpdate
    simp [hUpdate]
  · rename_i hUpdate
    simp [hUpdate]
  · rename_i hUpdate
    simp [hUpdate]

/-- The end of a clip does no more to the player than to stop it. -/
theorem stop_updateFrame (session : Session δ) (now : UInt64) :
    (session.updateFrame now).2.player.stop = (session.player.updateFrame now).2.stop := by
  unfold updateFrame
  split
  · rename_i hUpdate
    rw [hUpdate]
  · rename_i hUpdate
    rw [hUpdate]
  · rename_i player hUpdate
    rw [hUpdate]
    obtain hStays | ⟨-, offset, hMoves⟩ := follow_cases
      { session with
        player
        handlers := (session.handlers.dispatchEndOfClip ({ session with player }).context).1 }
      (session.handlers.dispatchEndOfClip ({ session with player }).context).2
    · exact congrArg (fun after : Session δ => after.player.stop) hStays
    · exact congrArg (fun after : Session δ => after.player.stop) hMoves

end Session

namespace Engine

variable [Decoder δ] {engine : Engine δ} {now : UInt64} {entry : Entry} {kind : Opcode}

/-! ## The next tick -/

/-- Between two ticks a run stays where it is, and its player looks the same. -/
theorem run_of_no_tick (engine : Engine δ) {acts : List (Act δ)} (h : ∀ time, .tick time ∉ acts) :
    ∃ clips player, (engine.run acts).film = engine.film.restock clips ∧
      (engine.run acts).session = { engine.session with player } ∧
      engine.session.player.Resembles player := by
  induction acts generalizing engine with
  | nil => exact ⟨engine.film.clips, engine.session.player, rfl, rfl, .refl _⟩
  | cons a acts ih =>
    have hRest : ∀ time, .tick time ∉ acts := fun time hMem => h time (List.mem_cons_of_mem a hMem)
    obtain ⟨clips, player, hFilm, hSession, hPlayer⟩ := ih (engine.act a) hRest
    show ∃ clips player, ((engine.act a).run acts).film = _ ∧
      ((engine.act a).run acts).session = _ ∧ _
    rw [hFilm, hSession]
    cases a with
    | tick time => exact absurd List.mem_cons_self (h time)
    | sound feed samples =>
      exact ⟨clips, player, rfl, rfl, (Player.resembles_fill _ feed samples).trans hPlayer⟩
    | _ => exact ⟨clips, player, rfl, rfl, hPlayer⟩

/-- No input moves a run that walks. -/
theorem deliver_of_no_tick (hState : engine.session.state = .running) {acts : List (Act δ)}
    (h : ∀ time, .tick time ∉ acts) (events : List InputEvent) :
    ((engine.run acts).session.deliver events).pointer = engine.session.pointer ∧
      ((engine.run acts).session.deliver events).state = .running := by
  obtain ⟨clips, player, -, hSession, -⟩ := engine.run_of_no_tick h
  rw [hSession]
  obtain ⟨handlers, -, hStays | ⟨hWaits, -⟩⟩ :=
    ({ engine.session with player } : Session δ).deliver_cases events
  · rw [hStays]
    exact ⟨rfl, hState⟩
  · rw [show ({ engine.session with player } : Session δ).state = .running from hState] at hWaits
    cases hWaits

/-- A tick of a run that walks, with its player stopped, comes to what the visit of the entry under
the pointer comes to, when that is an entry that waits. -/
theorem tick_of_enters (hState : engine.session.state = .running)
    (hPlayer : engine.session.player.state = .stopped)
    (hLimit : 0 < engine.film.config.maxStepsPerTick.toNat)
    (hEnters : engine.session.Enters engine.film now entry kind) :
    ∃ handlers : HandlerStack,
      (engine.tick now).1 = (({ engine.session with handlers } : Session δ).visit engine.film
        now).1.map (fun _ => (engine.tick now).2.session.report) ∧
      (engine.tick now).2.session =
        (({ engine.session with handlers } : Session δ).visit engine.film now).2 := by
  obtain ⟨handlers, -, hDelivered | ⟨hWaits, -⟩⟩ :=
    engine.session.deliver_cases engine.input.pending
  · have hClock : (engine.session.deliver engine.input.pending).updateFrame now =
        (.ok (), { engine.session with handlers }) := by
      rw [hDelivered, Session.updateFrame, Player.updateFrame_of_stopped hPlayer]
    have hRunning : ({ engine.session with handlers } : Session δ).state = .running := hState
    have hUpdate : ({ engine.session with handlers } : Session δ).update engine.film now =
        ({ engine.session with handlers } : Session δ).visit engine.film now :=
      Session.update_of_not_leadsOn hRunning hLimit
        (fun _ hLess => absurd hLess (Nat.not_lt_zero _)) hEnters.not_leadsOn
    obtain ⟨hOutcome, hSession⟩ := tick_of_clock (congrArg Prod.fst hClock)
    rw [settled, hClock, hUpdate] at hOutcome hSession
    exact ⟨handlers, hOutcome, hSession⟩
  · rw [hState] at hWaits
    cases hWaits

/-! ## Ticks that fail -/

/-- A fault of the clock leaves the run as it was. -/
theorem isKept_of_clock {cause : PlaybackError}
    (h : ((engine.session.deliver engine.input.pending).updateFrame now).1 =
      .error (.playback cause)) : engine.session.IsKept (engine.settled now) := by
  obtain ⟨handlers, player, hUncounted, ⟨fault, hPlayer, hSettled⟩ | hSettled | ⟨-, _, hSettled⟩⟩ :=
    engine.session.settle_cases engine.input.pending now
  · rw [settled, hSettled]
    exact ⟨rfl, rfl, hUncounted, rfl, rfl, Player.setting_of_error hPlayer,
      Player.currentFrame_of_error hPlayer, Player.nextFrame_of_error hPlayer⟩
  · rw [hSettled] at h
    cases h
  · rw [hSettled] at h
    cases h

/-- When a tick has failed because the player refused the entry that the run had come to by some
visits, the next tick ends as though the run had just come to the entry by these visits. -/
theorem next_tick_of_refused (hState : (engine.settled now).state = .running)
    (hStopped : (engine.settled now).player.state = .stopped) {visits : Nat}
    (hPasses : (engine.settled now).Passes engine.film now visits)
    (hLess : visits < engine.film.config.maxStepsPerTick.toNat)
    (hEnters : ((engine.settled now).afterVisits engine.film now visits).Enters engine.film now
      entry kind)
    {handlers : HandlerStack} {laserMode : Bool} {surface : Array SurfaceEvent}
    {calls : Array DecoderCall}
    (hFailed : (engine.tick now).2.session =
      { (engine.settled now).afterVisits engine.film now visits with
        handlers, laserMode, surface
        player := { (engine.settled now).player with calls } })
    {between : List (Act δ)} (hBetween : ∀ time, .tick time ∉ between) (later : UInt64) :
    let before := (engine.settled now).afterVisits engine.film now visits
    let next := (engine.tick now).2.run between
    (next.tick later).1 = (before.visit next.film later).1.map
        (fun _ => (next.tick later).2.session.report) ∧
      (before.visit next.film later).2.Resembles (next.tick later).2.session := by
  intro before next
  obtain ⟨hStates, hPlayers⟩ := hPasses.afterVisits
  obtain ⟨clips, player, hFilm, hSession, hPlayer⟩ :=
    (engine.tick now).2.run_of_no_tick hBetween
  rw [hFailed] at hSession hPlayer
  have hFilm : next.film = engine.film.restock clips := hFilm
  have hSession : next.session = { before with handlers, laserMode, surface, player } := hSession
  have hRunning : next.session.state = .running := by
    rw [hSession]
    exact hStates.trans hState
  have hStill : next.session.player.state = .stopped := by
    rw [hSession]
    exact hPlayer.state.trans hStopped
  have hLimit : 0 < next.film.config.maxStepsPerTick.toNat := by
    rw [hFilm]
    exact Nat.zero_lt_of_lt hLess
  have hPointer : next.session.pointer = before.pointer := by rw [hSession]
  have hNext : next.session.Enters next.film later entry kind := by
    rw [hFilm]
    exact hEnters.again hPointer clips later
  obtain ⟨others, hOutcome, hTicked⟩ := tick_of_enters hRunning hStill hLimit hNext
  have hLike : before.player.Resembles next.session.player := by
    rw [hSession, show before.player = (engine.settled now).player from hPlayers]
    exact ⟨hPlayer.view, hPlayer.nextFrame⟩
  have hBefore : before.Enters next.film later entry kind := by
    rw [hFilm]
    exact hEnters.again rfl clips later
  have hOther : ({ next.session with handlers := others } : Session δ).Enters next.film later
      entry kind := by
    have hThere : ({ next.session with handlers := others } : Session δ).pointer = before.pointer :=
      hPointer
    rw [hFilm]
    exact hEnters.again hThere clips later
  obtain ⟨hSame, hResembles⟩ := hBefore.resembles hOther hPointer
    (hRunning.trans (hStates.trans hState).symm) hLike
  rw [hSame] at hOutcome
  rw [← hTicked] at hResembles
  exact ⟨hOutcome, hResembles⟩

/-- **A tick that fails for a clip can be made up for.**  Take an engine to which anything has
happened, and a tick that fails for a fault of the player.

Either the clock has failed, and then the run is where it was, with the handlers that it had and
nothing asked of the panel, and the player is set as it was and shows what it showed.

Or the clock has not failed, and the run has come, by visits that lead on, to a clip or a still
frame that the player refused.  Then the pointer names that entry, the run walks, and the player is
stopped and as it was right after the clock, apart from the list of calls.  Whatever else happens
before the next tick, no input moves the run then; it enters the same entry, and the tick ends with
the outcome and in the place, the state, the listeners and the look of the player that a run ends in
which comes to the entry at the later time, without the earlier refusal. -/
theorem tick_with_playback_fault (film : Film δ) (acts : List (Act δ)) (now : UInt64)
    (cause : PlaybackError)
    (hFails : (((ofFilm film).run acts).tick now).1 = .error (.playback cause)) :
    let engine := (ofFilm film).run acts
    let shown := (engine.session.deliver engine.input.pending).player.updateFrame now
    let failed := (engine.tick now).2
    (shown.1 = .error cause ∧ engine.session.IsKept failed.session) ∨
    ((∃ ended, shown.1 = .ok ended) ∧ ∃ entry kind visits,
      let before := (engine.settled now).afterVisits engine.film now visits
      failed.film.graph.lookup failed.session.pointer = .ok entry ∧
      Opcode.ofCode? entry.opcode = some kind ∧ (kind = .playClip ∨ kind = .stillFrame) ∧
      failed.session.state = .running ∧
      failed.session.player =
        { shown.2 with state := .stopped, calls := failed.session.player.calls } ∧
      (engine.settled now).Passes engine.film now visits ∧
      before.pointer = failed.session.pointer ∧ before.state = .running ∧
      ∀ between : List (Act δ), (∀ time, .tick time ∉ between) →
        let next := failed.run between
        (∀ events, (next.session.deliver events).pointer = failed.session.pointer ∧
          (next.session.deliver events).state = .running) ∧
        ∀ later, (next.tick later).1 = (before.visit next.film later).1.map
            (fun _ => (next.tick later).2.session.report) ∧
          (before.visit next.film later).2.Resembles (next.tick later).2.session) := by
  intro engine shown failed
  have hCoherent : engine.session.Coherent engine.film := coherent_run_ofFilm film acts
  cases engine.course now with
  | clock fault hClock hOutcome hSession =>
    rw [hOutcome] at hFails
    cases hFails
    refine .inl ⟨Session.updateFrame_error_iff.1 hClock, ?_⟩
    rw [show failed.session = engine.settled now from hSession]
    exact isKept_of_clock hClock
  | still _ _ hOutcome _ =>
    rw [hOutcome] at hFails
    cases hFails
  | runaway _ _ _ hOutcome _ =>
    rw [hOutcome] at hFails
    cases hFails
  | stop visits hClock hState hLess hPasses _ hOutcome hSession =>
    rw [hOutcome] at hFails
    obtain ⟨entry, kind, handlers, laserMode, surface, calls, hEnters, hVisit⟩ :=
      Session.visit_playback_error (Outcome.map_error.1 hFails)
    obtain ⟨hStates, hPlayers⟩ := hPasses.afterVisits
    have hStopped : (engine.settled now).player.state = .stopped :=
      ((hCoherent.deliver _).updateFrame now).idle (by
        show (engine.settled now).state ≠ _
        rw [hState]
        exact RunState.noConfusion)
    have hShown : (engine.settled now).player = { shown.2 with state := .stopped } :=
      (Player.stop_of_stopped hStopped).symm.trans (Session.stop_updateFrame _ now)
    rw [hVisit, hPlayers] at hSession
    have hFailed : failed.session = { (engine.settled now).afterVisits engine.film now visits with
        handlers, laserMode, surface
        player := { (engine.settled now).player with calls } } := hSession
    have hRunning : failed.session.state = .running := by
      rw [hFailed]
      exact hStates.trans hState
    refine .inr ⟨Session.updateFrame_ok_iff.1 hClock, entry, kind, visits, ?_, hEnters.decodes,
      Opcode.isInteractive_iff.1 hEnters.interactive, hRunning, ?_, hPasses, ?_,
      hStates.trans hState, fun between hBetween => ⟨fun events => ?_, fun later => ?_⟩⟩
    · rw [hFailed]
      exact hEnters.lookup
    · rw [hFailed, hShown]
    · rw [hFailed]
    · exact deliver_of_no_tick hRunning hBetween events
    · exact next_tick_of_refused hState hStopped hPasses hLess hEnters hSession hBetween later

/-- A library in which no clip is found. -/
def noClips : ClipLibrary SyntheticDecoder :=
  ({} : SyntheticProfile).library fun name => .error ⟨name⟩

/-- A clip that is missing in one tick and there in the next, in spite of a button in between. -/
theorem tick_with_playback_fault_of_missing_clip :
    let film := Film.ofEntries [.plain 0 "" 0 1, .clipWithButton]
    let engine := (ofFilm film).run [.restock noClips]
    let failed := (engine.tick 0).2
    let next := failed.run [.push (.control .yes), .restock film.clips]
    (engine.tick 0).1 = .error (.playback (.missing "intro.mov" ⟨"intro.mov"⟩)) ∧
    (next.tick 40).2.session.state = .awaitingEvent ∧
    ∃ visits,
      let before := (engine.settled 0).afterVisits engine.film 0 visits
      before.pointer = failed.session.pointer ∧ failed.session.state = .running ∧
      (next.tick 40).1 = (before.visit next.film 40).1.map
          (fun _ => (next.tick 40).2.session.report) ∧
        (before.visit next.film 40).2.Resembles (next.tick 40).2.session := by
  intro film engine failed next
  have hFails : (engine.tick 0).1 =
      .error (.playback (.missing "intro.mov" ⟨"intro.mov"⟩)) := by
    decide +kernel
  have hNoTick : ∀ time, (.tick time : Act SyntheticDecoder) ∉
      [.push (.control .yes), .restock film.clips] := by
    simp only [List.mem_cons, reduceCtorEq, List.not_mem_nil, or_self, not_false_eq_true,
      implies_true]
  have hShown : ¬ ((engine.session.deliver engine.input.pending).player.updateFrame 0).1 =
      .error (.missing "intro.mov" ⟨"intro.mov"⟩) :=
    fun hClock => nomatch hClock
  obtain ⟨-, _, _, visits, -, -, -, hState, -, -, hPointer, -, hNext⟩ :=
    (tick_with_playback_fault film [.restock noClips] 0 _ hFails).resolve_left
      fun hClock => hShown hClock.1
  refine ⟨hFails, by decide +kernel, visits, hPointer, hState, ?_⟩
  simp only [next, failed, engine]
  exact (hNext _ hNoTick).2 40

end Engine
end BranchingMovie
