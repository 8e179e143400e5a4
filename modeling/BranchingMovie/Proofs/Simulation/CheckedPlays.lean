import BranchingMovie.Proofs.Engine.Retries
import BranchingMovie.Proofs.Engine.TickCourse
import BranchingMovie.Proofs.Simulation.Plan

/-!
# Plays in checked arithmetic

A simulated run goes through a tick, and asks after it whether a product has overflowed
(`Simulation.tick`).  Here the product is checked where it is computed, once the clip of a play is
in the player (`Player.playChecked`), and nothing more is done when it overflows.  Both come to the
same, for one tick (`Engine.tickChecked_eq`) and for each tick of a run (`Plan.tickChecked_round`).
A walk ends with the play that it starts (`Session.visit_of_play`), so the play is still on when the
tick is over; and nothing in a tick but a play puts a clip under the test that was not under it
before.
-/

namespace BranchingMovie

variable {δ : Type}

/-! ## Players -/

namespace Player

theorem overflow?_of_idle {player : Player δ} (h : player.state ≠ .playing) :
    player.overflow? = none := by
  unfold overflow?
  split
  · rename_i hState _
    exact absurd hState h
  · rfl

variable [Decoder δ]

/-- Plays a clip, in checked arithmetic. -/
def playChecked (library : ClipLibrary δ) (player : Player δ) (name : String)
    (first last : Int32) (now : UInt64) : Except Overflow (Except PlaybackError Unit × Player δ) :=
  match player.load library name with
  | (.error fault, player) => .ok (.error fault, player)
  | (.ok (), player) =>
    Overflow.guard (player.clip.bind (·.info.overflow?)) (.ok (), { player with
      startFrame := saturatingAdd first player.shift
      endFrame := saturatingAdd last player.shift
      startTime := now
      state := .playing })

variable {player : Player δ}

/-- A play overflows when the test after it says so. -/
theorem playChecked_eq (h : player.overflow? = none) (library : ClipLibrary δ) (name : String)
    (first last : Int32) (now : UInt64) :
    player.playChecked library name first last now =
      Overflow.guard (player.play library name first last now).2.overflow?
        (player.play library name first last now) := by
  unfold playChecked play
  cases hLoad : player.load library name with
  | mk outcome loaded =>
    cases outcome with
    | error fault =>
      obtain ⟨calls, rfl⟩ := load_error hLoad
      have hNone : ({ player with calls } : Player δ).overflow? = none := h
      simp only [hNone, Overflow.guard_none]
    | ok _ =>
      simp only [overflow?]
      cases loaded.clip <;> rfl

/-- An entry that the player refuses puts nothing under the test. -/
theorem overflow?_of_enter_error {library : ClipLibrary δ} {now : UInt64} {entry : Entry}
    {kind : Opcode} {cause : PlaybackError} (h : player.overflow? = none)
    (hCause : (player.enter library now entry kind).1 = .error cause) :
    (player.enter library now entry kind).2.overflow? = none := by
  obtain ⟨calls, hPlayer⟩ := enter_error hCause
  rw [hPlayer]
  exact h

/-- Neither does a frame that is shown by itself. -/
theorem overflow?_playSingleFrame (h : player.overflow? = none) (library : ClipLibrary δ)
    (name : String) (frame : Int32) :
    (player.playSingleFrame library name frame).2.overflow? = none := by
  unfold playSingleFrame
  cases hLoad : player.load library name with
  | mk outcome loaded =>
    cases outcome with
    | error fault =>
      obtain ⟨calls, rfl⟩ := load_error hLoad
      exact h
    | ok _ => exact overflow?_of_idle PlaybackState.noConfusion

/-- Neither does the clock. -/
theorem overflow?_updateFrame (h : player.overflow? = none) (now : UInt64) :
    (player.updateFrame now).2.overflow? = none := by
  obtain ⟨_, after, hUpdate, hSetting⟩ | ⟨after, hUpdate, hSetting⟩ |
    ⟨_, after, hUpdate, -, hSetting⟩ := player.updateFrame_cases now
  · rw [hUpdate, ← overflow?_setting, hSetting, overflow?_setting]
    exact h
  · rw [hUpdate, ← overflow?_setting, hSetting, overflow?_setting]
    exact h
  · have hStopped : after.state = .stopped := congrArg Setting.state hSetting
    rw [hUpdate]
    refine overflow?_of_idle ?_
    rw [hStopped]
    exact PlaybackState.noConfusion

end Player

namespace Session

/-- A step of a session, unless the play that is on after it overflows. -/
def guarded {α : Type} (step : α × Session δ) : Except Overflow (α × Session δ) :=
  Overflow.guard step.2.player.overflow? step

theorem guarded_of_none {α : Type} {step : α × Session δ} (h : step.2.player.overflow? = none) :
    guarded step = .ok step := by
  rw [guarded, h, Overflow.guard_none]

theorem player_await (session : Session δ) (outcome : Except PlaybackError Unit × Player δ) :
    (session.await outcome).2.player = outcome.2 := by
  obtain ⟨result, player⟩ := outcome
  cases result <;> rfl

theorem player_openZones (film : Film δ) (session : Session δ) (entry : Entry) :
    (session.openZones film entry).player = session.player := by
  obtain ⟨handlers, surface, -, hOpen⟩ := openZones_eq film session entry
  rw [hOpen]

/-! ## Before the walk -/

/-- A run that leaves its entry stops the player. -/
theorem overflow?_leave (session : Session δ) (offset : Int32) :
    (session.leave offset).player.overflow? = none :=
  Player.overflow?_of_idle PlaybackState.noConfusion

theorem overflow?_follow {session : Session δ} (h : session.player.overflow? = none)
    (transitions : List Transition) :
    (session.follow transitions).2.player.overflow? = none := by
  obtain hStays | ⟨-, offset, hMoves⟩ := session.follow_cases transitions
  · rw [hStays]
    exact h
  · rw [hMoves]
    exact overflow?_leave session offset

theorem overflow?_deliver {session : Session δ} (h : session.player.overflow? = none)
    (events : List InputEvent) : (session.deliver events).player.overflow? = none := by
  obtain ⟨handlers, -, hStays | ⟨-, offset, hMoves⟩⟩ := session.deliver_cases events
  · rw [hStays]
    exact h
  · rw [hMoves]
    exact overflow?_leave { session with handlers } offset

variable [Decoder δ]

/-- What happens in a tick before the walk puts nothing under the test. -/
theorem overflow?_settled {session : Session δ} (h : session.player.overflow? = none)
    (events : List InputEvent) (now : UInt64) :
    ((session.deliver events).updateFrame now).2.player.overflow? = none := by
  have hUpdate := Player.overflow?_updateFrame (overflow?_deliver h events) now
  unfold Session.updateFrame
  split
  · rename_i hFails
    rwa [hFails] at hUpdate
  · rename_i hShows
    rwa [hShows] at hUpdate
  · rename_i hEnds
    rw [hEnds] at hUpdate
    exact overflow?_follow hUpdate _

/-! ## Walks -/

/-- Plays the clip of an entry, in checked arithmetic. -/
def enterPlayClipChecked (film : Film δ) (now : UInt64) (session : Session δ) (entry : Entry) :
    Except Overflow (Except EngineError Unit × Session δ) :=
  match entry.controls session.pointer.script with
  | .error fault => .ok (.error fault, session)
  | .ok controls =>
    let session := session.listenTo (Handler.onControlWithin entry.window) controls
    let session :=
      { session with handlers := (session.handlers.addEndOfClip (.always entry.defaultOffset)).1 }
    (session.player.playChecked film.clips entry.name entry.startFrame entry.endFrame now).map
      session.await

/-- Does what an entry asks for, in checked arithmetic. -/
def performChecked (film : Film δ) (now : UInt64) (session : Session δ) (entry : Entry) :
    Opcode → Except Overflow (Except EngineError Unit × Session δ)
  | .playClip => session.enterPlayClipChecked film now entry
  | kind => .ok (session.perform film now entry kind)

/-- Visits the entry under the pointer, in checked arithmetic. -/
def visitChecked (film : Film δ) (now : UInt64) (session : Session δ) :
    Except Overflow (Except EngineError Unit × Session δ) :=
  let session := session.clear
  match film.graph.lookup session.pointer with
  | .error fault => .ok (.error (.pointer fault), session)
  | .ok entry =>
    match Opcode.ofCode? entry.opcode with
    | none =>
      .ok (.error (.unknownOpcode session.pointer.script entry.index entry.opcode), session)
    | some kind => session.performChecked film now entry kind

/-- Visits entries while the run does not wait, in checked arithmetic. -/
def walkChecked (film : Film δ) (now : UInt64) (limit : Nat) :
    Nat → Session δ → Except Overflow (Except EngineError Unit × Session δ)
  | 0, session => .ok (session.walk film now limit 0)
  | remaining + 1, session =>
    if session.state = .running then
      match session.visitChecked film now with
      | .error overflow => .error overflow
      | .ok (.error fault, session) => .ok (.error fault, session)
      | .ok (.ok (), session) => walkChecked film now limit remaining session
    else .ok (.ok (), session)

/-- Goes on until the run waits or is over, in checked arithmetic. -/
def updateChecked (film : Film δ) (now : UInt64) (session : Session δ) :
    Except Overflow (Except EngineError Unit × Session δ) :=
  let limit := film.config.maxStepsPerTick.toNat
  walkChecked film now limit limit session

/-- One tick of a run, in checked arithmetic. -/
def tickChecked (film : Film δ) (now : UInt64) (session : Session δ)
    (events : List InputEvent) : Except Overflow (Except EngineError TickReport × Session δ) :=
  match (session.deliver events).updateFrame now with
  | (.error fault, session) => .ok (.error fault, session)
  | (.ok (), session) =>
    match session.updateChecked film now with
    | .error overflow => .error overflow
    | .ok (.error fault, session) => .ok (.error fault, session)
    | .ok (.ok (), session) => .ok (.ok session.report, session)

variable {film : Film δ} {session : Session δ}

theorem enterPlayClipChecked_eq (h : session.player.overflow? = none) (now : UInt64)
    (entry : Entry) : session.enterPlayClipChecked film now entry =
      guarded (session.enterPlayClip film now entry) := by
  simp only [enterPlayClipChecked, enterPlayClip]
  cases entry.controls session.pointer.script with
  | error fault => exact (guarded_of_none h).symm
  | ok controls =>
    have hListening : ({ session.listenTo (Handler.onControlWithin entry.window) controls with
        handlers := ((session.listenTo (Handler.onControlWithin entry.window) controls).handlers
          |>.addEndOfClip (.always entry.defaultOffset)).1 } : Session δ).player.overflow? = none :=
      h
    simp only [Player.playChecked_eq hListening, Overflow.map_guard, guarded, player_await]

theorem performChecked_eq (h : session.player.overflow? = none) (now : UInt64) (entry : Entry)
    (kind : Opcode) : session.performChecked film now entry kind =
      guarded (session.perform film now entry kind) := by
  cases kind with
  | playClip => exact enterPlayClipChecked_eq h now entry
  | stillFrame =>
    refine (guarded_of_none ?_).symm
    simp only [perform, enterStillFrame]
    split
    · exact h
    · rw [player_await, player_openZones]
      exact Player.overflow?_playSingleFrame h _ _ _
  | switchScript =>
    refine (guarded_of_none ?_).symm
    simp only [perform, switchScript]
    split <;> exact h
  | _ => exact (guarded_of_none h).symm

theorem visitChecked_eq (h : session.player.overflow? = none) (now : UInt64) :
    session.visitChecked film now = guarded (session.visit film now) := by
  have hClear : session.clear.player.overflow? = none := by rwa [player_clear]
  simp only [visitChecked, visit]
  cases film.graph.lookup session.clear.pointer with
  | error fault => exact (guarded_of_none hClear).symm
  | ok entry =>
    simp only
    cases Opcode.ofCode? entry.opcode with
    | none => exact (guarded_of_none hClear).symm
    | some kind => exact performChecked_eq hClear now entry kind

/-- A visit that starts a play leaves the run waiting. -/
theorem visit_of_play (h : session.player.overflow? = none) {now : UInt64}
    (hPlay : (session.visit film now).2.player.overflow? ≠ none) :
    (session.visit film now).1 = .ok () ∧
      (session.visit film now).2.state = .awaitingEvent := by
  obtain ⟨fault, -, hVisit⟩ | ⟨place, surface, -, hVisit⟩ | ⟨-, ending, hVisit⟩ |
    ⟨-, entry, kind, hEnters⟩ := session.visit_cases film now
  · rw [hVisit, player_clear] at hPlay
    exact absurd h hPlay
  · rw [hVisit] at hPlay
    exact absurd (by rwa [← player_clear] at h) hPlay
  · rw [hVisit] at hPlay
    exact absurd (by rwa [← player_clear] at h) hPlay
  · obtain ⟨_, _, _, -, -, hVisit⟩ := hEnters.visit
    rw [hVisit] at hPlay ⊢
    obtain ⟨cause, hCause, hAwait⟩ | ⟨-, hAwait⟩ := await_cases _ _
    · rw [player_await] at hPlay
      exact absurd (Player.overflow?_of_enter_error h hCause) hPlay
    · rw [hAwait]
      exact ⟨rfl, rfl⟩

theorem walkChecked_eq (h : session.player.overflow? = none) (now : UInt64)
    (limit remaining : Nat) : session.walkChecked film now limit remaining =
      guarded (session.walk film now limit remaining) := by
  induction remaining generalizing session with
  | zero =>
    refine (guarded_of_none ?_).symm
    unfold walk
    split <;> exact h
  | succ remaining ih =>
    by_cases hState : session.state = .running
    · simp only [walkChecked, walk, if_pos hState, visitChecked_eq h, guarded]
      have hPlay : (session.visit film now).2.player.overflow? ≠ none →
          (session.visit film now).1 = .ok () ∧
            (session.visit film now).2.state = .awaitingEvent := visit_of_play h
      generalize session.visit film now = visit at hPlay ⊢
      obtain ⟨outcome, visited⟩ := visit
      cases hOverflow : visited.player.overflow? with
      | some overflow =>
        -- the walk is over, with the play on
        obtain ⟨rfl, hWaits⟩ := hPlay (by simp [hOverflow])
        have hIdle : visited.state ≠ .running := by
          rw [hWaits]
          exact RunState.noConfusion
        simp only [walk_of_idle hIdle, hOverflow, Overflow.guard_some]
      | none =>
        cases outcome with
        | error fault => simp only [hOverflow, Overflow.guard_none]
        | ok _ =>
          simp only [Overflow.guard_none]
          exact ih hOverflow
    · rw [walkChecked, walk, if_neg hState, if_neg hState]
      exact (guarded_of_none h).symm

theorem tickChecked_eq (h : session.player.overflow? = none) (now : UInt64)
    (events : List InputEvent) : session.tickChecked film now events =
      guarded (session.tick film now events) := by
  have hSettled := overflow?_settled h events now
  simp only [tickChecked, tick]
  generalize (session.deliver events).updateFrame now = step at hSettled ⊢
  obtain ⟨outcome, settled⟩ := step
  cases outcome with
  | error fault =>
    refine (guarded_of_none ?_).symm
    exact hSettled
  | ok _ =>
    have hWalk : settled.updateChecked film now = guarded (settled.update film now) :=
      walkChecked_eq hSettled now _ _
    simp only [hWalk, guarded]
    obtain ⟨result, walked⟩ := settled.update film now
    cases hOverflow : walked.player.overflow? <;> cases result <;> simp [hOverflow]

end Session

/-! ## Ticks -/

namespace Engine

variable [Decoder δ]

/-- One tick at the time `now`, in checked arithmetic. -/
def tickChecked (engine : Engine δ) (now : UInt64) :
    Except Overflow (Except EngineError TickReport × Engine δ) :=
  let (events, input) := engine.input.drain
  (engine.session.tickChecked engine.film now events).map fun (outcome, session) =>
    (outcome, { engine with session, input })

/-- **A tick is checked well enough when it is over.**  As long as no overflow has been passed over
so far, the tick of a simulated run is the tick in checked arithmetic. -/
theorem tickChecked_eq {engine : Engine δ} (h : engine.session.player.overflow? = none)
    (now : UInt64) : engine.tickChecked now = Simulation.tick engine now := by
  simp only [tickChecked, InputQueue.drain, Session.tickChecked_eq h, Session.guarded,
    Overflow.map_guard]
  rfl

end Engine

namespace Simulation

variable [Decoder δ]

theorem session_run_pushes (engine : Engine δ) (inputs : List TimedInput) :
    (engine.run (inputs.map fun input => .push input.event)).session = engine.session := by
  induction inputs generalizing engine with
  | nil => rfl
  | cons input inputs ih => exact ih (engine.pushInput input.event)

/-- **Each tick of a run is the tick in checked arithmetic**, as far as the rounds lead on. -/
theorem Plan.tickChecked_round {plan : Plan δ} {k : Nat}
    (h : plan.engine.session.player.overflow? = none) (hLeads : ∀ j < k, plan.LeadsOn j) :
    ((plan.before k).run (plan.pushes k)).tickChecked (plan.time k) =
      Overflow.guard (plan.overflow? k) (plan.outcome k, plan.before (k + 1)) := by
  have hBefore : (plan.before k).session.player.overflow? = none := by
    cases k with
    | zero => exact h
    | succ k => exact (hLeads k (Nat.lt_succ_self k)).1
  have hPushed : ((plan.before k).run (plan.pushes k)).session.player.overflow? = none := by
    rwa [pushes, session_run_pushes]
  rw [Engine.tickChecked_eq hPushed, tick_round]

end Simulation
end BranchingMovie
