import BranchingMovie.Proofs.Engine.TickCourse

/-!
# Endings

Nothing more comes of a run that is over, and nothing more comes of a run at a place with which
something is wrong: `Session.Over` is about both.  In such a run nobody listens, the player is
stopped and the pointer for zones is hidden (`Session.IsDeaf`), so a tick leaves all of it as it is,
whatever comes in and whatever the time is (`Engine.AtRest.tick`), and so does everything else that
can happen to an engine, as far as the place and the panel go (`Engine.AtRest.run`).

The panel is told of the end once, when the run is over, and of nothing after that
(`Scene.ExitTold`).
-/

namespace BranchingMovie

variable {δ : Type}

/-- A stack in which nobody listens has nothing to drop. -/
theorem HandlerStack.reset_of_silent {stack : HandlerStack} (h : stack.listeners = {}) :
    stack.reset = stack := by
  obtain ⟨nextId, control, point, endOfClip, checkpoints⟩ := stack
  simp only [listeners, Listeners.mk.injEq, List.map_eq_nil_iff] at h
  obtain ⟨rfl, rfl, rfl, rfl⟩ := h
  rfl

/-! ## Runs that hear nothing -/

namespace Session

/-- Nobody listens, the player is stopped, and the pointer for zones is hidden. -/
structure IsDeaf (session : Session δ) : Prop where
  silent : session.handlers.listeners = {}
  stopped : session.player.state = .stopped
  dark : session.laserMode = false

variable {film : Film δ} {session : Session δ}

theorem IsClear.isDeaf (h : session.IsClear) : session.IsDeaf :=
  ⟨h.silent, h.stopped, h.laser⟩

/-- A run that is over hears nothing. -/
theorem Coherent.isDeaf (h : session.Coherent film) {ending : Ending}
    (hState : session.state = .finished ending) : session.IsDeaf where
  silent := (h.ended ending hState).1
  stopped := h.idle (by rw [hState]; exact RunState.noConfusion)
  dark := (h.ended ending hState).2

theorem IsDeaf.handle (h : session.IsDeaf) (event : InputEvent) :
    session.handle event = (false, session) := by
  have hReset : { session with handlers := session.handlers.reset } = session := by
    rw [HandlerStack.reset_of_silent h.silent]
  rw [← hReset]
  cases event <;> rfl

theorem IsDeaf.deliver (h : session.IsDeaf) (events : List InputEvent) :
    session.deliver events = session := by
  induction events with
  | nil => rfl
  | cons event events ih =>
    show (session.handle event).2.deliver events = session
    rw [h.handle event]
    exact ih

theorem IsDeaf.clear (h : session.IsDeaf) : session.clear = session := by
  rw [Session.clear, HandlerStack.reset_of_silent h.silent]
  exact if_pos h.dark

theorem IsDeaf.updateFrame [Decoder δ] (h : session.IsDeaf) (now : UInt64) :
    session.updateFrame now = (.ok (), session) := by
  rw [Session.updateFrame, Player.updateFrame_of_stopped h.stopped]

/-! ## Runs that come to nothing more -/

/-- Nothing more comes of a run than this outcome: it is over, or it is refused for what is wrong
with the place that it has come to. -/
inductive Over (film : Film δ) (session : Session δ) : Except EngineError Unit → Prop
  | finished (ending : Ending) (hState : session.state = .finished ending) :
    Over film session (.ok ())
  | refused {fault : EngineError} (hState : session.state = .running)
      (hRefusal : film.refusal? session.pointer = some fault)
      (hLimit : 0 < film.config.maxStepsPerTick.toNat) :
    Over film session (.error fault)

variable {after : Session δ} {outcome : Except EngineError Unit}

/-- That asks for nothing but the place and the state of the run, and for no clips. -/
theorem Over.congr (h : session.Over film outcome) (clips : ClipLibrary δ)
    (hPointer : after.pointer = session.pointer) (hState : after.state = session.state) :
    after.Over (film.restock clips) outcome := by
  cases h with
  | finished ending hOver => exact .finished ending (hState.trans hOver)
  | refused hRunning hRefusal hLimit =>
    rw [← hPointer] at hRefusal
    exact .refused (hState.trans hRunning) hRefusal hLimit

/-- A run that comes to nothing more walks nowhere. -/
theorem Over.update [Decoder δ] (h : session.Over film outcome) (hDeaf : session.IsDeaf)
    (now : UInt64) : session.update film now = (outcome, session) := by
  cases h with
  | finished ending hOver =>
    refine update_of_idle ?_ now
    rw [hOver]
    exact RunState.noConfusion
  | refused hRunning hRefusal hLimit =>
    have hVisit := visit_of_refusal? hRefusal now
    obtain ⟨steps, hSteps⟩ := Nat.exists_eq_succ_of_ne_zero (Nat.pos_iff_ne_zero.1 hLimit)
    rw [update, hSteps, walk_of_error hRunning (congrArg Prod.fst hVisit), hVisit, hDeaf.clear]

end Session

/-! ## Engines at rest -/

namespace Engine

/-- Ticks come to this outcome for good. -/
structure AtRest (engine : Engine δ) (outcome : Except EngineError Unit) : Prop where
  deaf : engine.session.IsDeaf
  lasts : engine.session.Over engine.film outcome

variable {engine : Engine δ} {outcome : Except EngineError Unit}

/-- A run that is over is at rest. -/
theorem atRest_of_finished (h : engine.session.Coherent engine.film) {ending : Ending}
    (hState : engine.session.state = .finished ending) : engine.AtRest (.ok ()) :=
  ⟨h.isDeaf hState, .finished ending hState⟩

variable [Decoder δ]

/-- A tick of an engine at rest leaves everything as it is. -/
theorem AtRest.tick (h : engine.AtRest outcome) (now : UInt64) :
    (engine.tick now).1 = outcome.map (fun _ => engine.session.report) ∧
      (engine.tick now).2.session = engine.session := by
  have hClock : (engine.session.deliver engine.input.pending).updateFrame now =
      (.ok (), engine.session) := by
    rw [h.deaf.deliver, h.deaf.updateFrame]
  have hSettled : engine.settled now = engine.session := congrArg Prod.snd hClock
  obtain ⟨hOutcome, hSession⟩ := tick_of_clock (congrArg Prod.fst hClock)
  rw [hSettled, h.lasts.update h.deaf] at hOutcome hSession
  rw [hSession] at hOutcome
  exact ⟨hOutcome, hSession⟩

/-- Whatever happens to an engine at rest, it stays so, and neither its place nor the panel
changes. -/
theorem AtRest.act (h : engine.AtRest outcome) (a : Act δ) :
    (engine.act a).AtRest outcome ∧ (engine.act a).session.report = engine.session.report ∧
      (engine.act a).session.surface = engine.session.surface := by
  cases a with
  | push event => exact ⟨⟨h.deaf, h.lasts⟩, rfl, rfl⟩
  | restock clips => exact ⟨⟨h.deaf, h.lasts.congr clips rfl rfl⟩, rfl, rfl⟩
  | tick now =>
    have hSession : (engine.act (.tick now)).session = engine.session := (h.tick now).2
    rw [hSession]
    refine ⟨⟨?_, ?_⟩, rfl, rfl⟩
    · rw [hSession]
      exact h.deaf
    · rw [hSession]
      exact h.lasts
  | sound feed samples =>
    have hSetting : (engine.session.player.fill feed samples).2.setting =
        engine.session.player.setting := Player.setting_fill _ _ _
    have hStopped : (engine.session.player.fill feed samples).2.state = .stopped :=
      (congrArg Setting.state hSetting).trans h.deaf.stopped
    have hName : (engine.session.player.fill feed samples).2.clipName =
        engine.session.player.clipName := by
      rw [← Player.clipName_setting, hSetting, Player.clipName_setting]
    have hFrame := engine.session.player.currentFrame_fill feed samples
    exact ⟨⟨⟨h.deaf.silent, hStopped, h.deaf.dark⟩, h.lasts.congr engine.film.clips rfl rfl⟩,
      congrArg₂ (TickReport.mk engine.session.pointer engine.session.state) hName hFrame, rfl⟩

theorem AtRest.run (h : engine.AtRest outcome) (acts : List (Act δ)) :
    (engine.run acts).AtRest outcome ∧ (engine.run acts).session.report = engine.session.report ∧
      (engine.run acts).session.surface = engine.session.surface := by
  induction acts generalizing engine with
  | nil => exact ⟨h, rfl, rfl⟩
  | cons a acts ih =>
    obtain ⟨hAct, hReport, hSurface⟩ := h.act a
    obtain ⟨hRun, hReports, hSurfaces⟩ := ih hAct
    exact ⟨hRun, hReports.trans hReport, hSurfaces.trans hSurface⟩

/-- A tick that fails for the film leaves an engine at rest. -/
theorem atRest_of_logical (h : engine.session.Coherent engine.film) {now : UInt64}
    {fault : EngineError} (hFails : (engine.tick now).1 = .error fault)
    (hLogical : fault.isLogical = true) : (engine.tick now).2.AtRest (.error fault) := by
  have hSettled : (engine.settled now).Coherent engine.film :=
    (h.deliver engine.input.pending).updateFrame now
  cases engine.course now with
  | clock cause _ hOutcome _ =>
    rw [hOutcome] at hFails
    cases hFails
    cases hLogical
  | still _ _ hOutcome _ =>
    rw [hOutcome] at hFails
    cases hFails
  | runaway _ _ _ hOutcome _ =>
    rw [hOutcome] at hFails
    cases hFails
    cases hLogical
  | stop visits _ hState hLess hPasses _ hOutcome hSession =>
    rw [hOutcome] at hFails
    obtain hRefusal | ⟨cause, rfl⟩ := Session.visit_error (Outcome.map_error.1 hFails)
    · have hVisit := Session.visit_of_refusal? hRefusal now
      obtain ⟨hStates, hPlayers⟩ := hPasses.afterVisits
      have hRunning := hStates.trans hState
      have hStopped : ((engine.settled now).afterVisits engine.film now visits).player.state =
          .stopped := by
        rw [hPlayers]
        exact hSettled.idle (by rw [hState]; exact RunState.noConfusion)
      rw [hVisit] at hSession
      refine ⟨?_, ?_⟩
      · rw [hSession]
        exact (Session.isClear_clear hRunning hStopped).isDeaf
      · rw [hSession]
        refine .refused ?_ ?_ (Nat.zero_lt_of_lt hLess)
        · rw [Session.state_clear]
          exact hRunning
        · rw [Session.pointer_clear]
          exact hRefusal
    · cases hLogical

end Engine

/-! ## What the panel is told -/

namespace Scene

/-- The panel was told of the end when the run is over, once, and of nothing after that. -/
structure ExitTold (scene : Scene δ) : Prop where
  before : (∀ ending, scene.state ≠ .finished ending) → .exitToMenu ∉ scene.surface
  after : ∀ ending, scene.state = .finished ending →
    ∃ earlier : Array SurfaceEvent,
      scene.surface = earlier.push .exitToMenu ∧ .exitToMenu ∉ earlier

variable {film : Film δ} {scene later : Scene δ}

theorem ExitTold.of_running (hState : scene.state = .running)
    (h : .exitToMenu ∉ scene.surface) : scene.ExitTold where
  before _ := h
  after ending hOver := by
    rw [hState] at hOver
    cases hOver

theorem ExitTold.not_mem_of_running (h : scene.ExitTold) (hState : scene.state = .running) :
    .exitToMenu ∉ scene.surface := by
  refine h.before fun ending => ?_
  rw [hState]
  exact RunState.noConfusion

theorem not_mem_setLaserMode (h : .exitToMenu ∉ scene.surface) (enabled : Bool) :
    .exitToMenu ∉ (scene.setLaserMode enabled).surface := by
  unfold setLaserMode
  split
  · exact h
  · simpa [notify] using h

theorem not_mem_openZones (h : .exitToMenu ∉ scene.surface) (entry : Entry) :
    .exitToMenu ∉ (scene.openZones film entry).surface := by
  unfold openZones
  split
  · exact not_mem_setLaserMode h true
  · exact h

theorem state_setLaserMode (scene : Scene δ) (enabled : Bool) :
    (scene.setLaserMode enabled).state = scene.state := by
  unfold setLaserMode
  split <;> rfl

theorem state_openZones (film : Film δ) (scene : Scene δ) (entry : Entry) :
    (scene.openZones film entry).state = scene.state := by
  unfold openZones
  split
  · exact scene.state_setLaserMode true
  · rfl

theorem exitTold_finish (h : .exitToMenu ∉ scene.surface) (ending : Ending) :
    (scene.finish ending).ExitTold where
  before hNot := absurd rfl (hNot ending)
  after _ _ := ⟨scene.surface, rfl, h⟩

theorem exitTold_await (hState : scene.state = .running) (h : .exitToMenu ∉ scene.surface)
    (outcome : Except PlaybackError Unit × Player δ) : (scene.await outcome).2.ExitTold := by
  unfold await
  split
  · exact .of_running hState h
  · exact ⟨fun _ => h, fun _ hOver => RunState.noConfusion hOver⟩

section Clock

variable [Decoder δ] {now : UInt64}

theorem exitTold_perform (hState : scene.state = .running) (h : .exitToMenu ∉ scene.surface)
    (entry : Entry) (kind : Opcode) : (scene.perform film now entry kind).2.ExitTold := by
  cases kind with
  | playClip =>
    simp only [perform]
    split
    · exact .of_running hState h
    · exact exitTold_await hState h _
  | stillFrame =>
    simp only [perform]
    split
    · exact .of_running hState h
    · exact exitTold_await ((scene.state_openZones film entry).trans hState)
        (not_mem_openZones h entry) _
  | switchScript =>
    simp only [perform, switchScript]
    split
    · exact exitTold_finish h .exitToMenu
    · exact .of_running hState h
  | death => exact exitTold_finish h .death
  | enableInterface =>
    refine .of_running hState ?_
    simpa [perform, advance, notify] using h
  | _ => exact .of_running hState h

theorem exitTold_visit (hState : scene.state = .running) (h : .exitToMenu ∉ scene.surface) :
    (scene.visit film now).2.ExitTold := by
  have hDark := not_mem_setLaserMode h false
  have hRunning := (scene.state_setLaserMode false).trans hState
  simp only [visit]
  split
  · exact .of_running hRunning hDark
  · split
    · exact .of_running hRunning hDark
    · exact exitTold_perform hRunning hDark _ _

/-- The panel is told of the end by the visit that ends the run, and by nothing before. -/
theorem isInvariant_exitTold : IsInvariant (ExitTold (δ := δ)) where
  player _ h := ⟨h.before, h.after⟩
  leave offset hWaits h := by
    refine .of_running rfl (h.before fun ending hOver => ?_)
    rw [hWaits] at hOver
    cases hOver
  visit _ hState h := exitTold_visit hState (h.not_mem_of_running hState)

end Clock
end Scene

namespace Engine

variable [Decoder δ] {engine : Engine δ}

theorem exitTold_run (h : engine.session.scene.ExitTold) (acts : List (Act δ)) :
    (engine.run acts).session.scene.ExitTold :=
  Scene.isInvariant_exitTold.run h acts

/-- **Endings are for good, and so are faults of the film.**  Take an engine to which anything has
happened.  The panel was told of the end exactly when the run is over, once, and of nothing after
that.  When the run is over, every later tick, whatever has happened to the engine in between,
succeeds with the same report and leaves the session as it is, its player with all the requests to
decoders included; the panel is as it was at the end.  When a tick fails for an unknown script, a
pointer out of range, an unknown opcode or an unknown condition, every later tick fails in the same
way, and leaves all of that as it is. -/
theorem endings_for_good (film : Film δ) (acts : List (Act δ)) :
    let engine := (ofFilm film).run acts
    ((.exitToMenu ∈ engine.session.surface ↔ ∃ ending, engine.session.state = .finished ending) ∧
      ∀ ending, engine.session.state = .finished ending → ∃ earlier : Array SurfaceEvent,
        engine.session.surface = earlier.push .exitToMenu ∧ .exitToMenu ∉ earlier) ∧
    (∀ ending, engine.session.state = .finished ending → ∀ (later : List (Act δ)) (now : UInt64),
      let after := engine.run later
      (after.tick now).1 = .ok engine.session.report ∧
        (after.tick now).2.session = after.session ∧
        after.session.surface = engine.session.surface) ∧
    ∀ (failing : UInt64) (fault : EngineError), (engine.tick failing).1 = .error fault →
      fault.isLogical = true → ∀ (later : List (Act δ)) (now : UInt64),
      let failed := (engine.tick failing).2
      let after := failed.run later
      (after.tick now).1 = .error fault ∧ (after.tick now).2.session = after.session ∧
        after.session.report = failed.session.report ∧
        after.session.surface = failed.session.surface := by
  intro engine
  have hCoherent : engine.session.Coherent engine.film := coherent_run_ofFilm film acts
  have hTold : engine.session.scene.ExitTold := by
    refine exitTold_run (.of_running rfl ?_) acts
    exact Array.not_mem_empty _
  refine ⟨⟨⟨fun hMem => ?_, ?_⟩, hTold.after⟩, ?_, ?_⟩
  · refine Classical.byContradiction fun hNot => ?_
    exact hTold.before (fun ending hOver => hNot ⟨ending, hOver⟩) hMem
  · rintro ⟨ending, hOver⟩
    obtain ⟨earlier, hSurface, -⟩ := hTold.after ending hOver
    have hLast : engine.session.surface = earlier.push .exitToMenu := hSurface
    rw [hLast]
    exact Array.mem_push_self
  · intro ending hOver later now after
    obtain ⟨hRest, hReport, hSurface⟩ := (atRest_of_finished hCoherent hOver).run later
    obtain ⟨hOutcome, hSession⟩ := hRest.tick now
    exact ⟨hOutcome.trans (congrArg Except.ok hReport), hSession, hSurface⟩
  · intro failing fault hFails hLogical later now failed after
    obtain ⟨hRest, hReport, hSurface⟩ := (atRest_of_logical hCoherent hFails hLogical).run later
    obtain ⟨hOutcome, hSession⟩ := hRest.tick now
    exact ⟨hOutcome, hSession, hReport, hSurface⟩

/-- A run that ends in a death, and one at an entry whose opcode means nothing. -/
theorem endings_for_good_of_death_and_unknown_opcode :
    let ended := (ofFilm (.ofEntries [.plain 5 "" 0 0])).run [.tick 0]
    let lost := (ofFilm (.ofEntries [.plain 42 "" 0 0])).run []
    (ended.session.state = .finished .death ∧
      ∀ (later : List (Act SyntheticDecoder)) (now : UInt64),
        ((ended.run later).tick now).1 = .ok ended.session.report ∧
          ((ended.run later).tick now).2.session = (ended.run later).session ∧
          (ended.run later).session.surface = #[.exitToMenu]) ∧
    (lost.tick 0).1 = .error (.unknownOpcode "intro.nod" 0 42) ∧
      ∀ (later : List (Act SyntheticDecoder)) (now : UInt64),
        (((lost.tick 0).2.run later).tick now).1 = .error (.unknownOpcode "intro.nod" 0 42) := by
  intro ended lost
  have hOver : ended.session.state = .finished .death := by decide +kernel
  have hSurface : ended.session.surface = #[.exitToMenu] := by decide +kernel
  have hFails : (lost.tick 0).1 = .error (.unknownOpcode "intro.nod" 0 42) := by decide +kernel
  refine ⟨⟨hOver, fun later now => ?_⟩, hFails, fun later now => ?_⟩
  · rw [← hSurface]
    exact (endings_for_good _ _).2.1 .death hOver later now
  · exact ((endings_for_good _ _).2.2 0 _ hFails rfl later now).1

end Engine
end BranchingMovie
