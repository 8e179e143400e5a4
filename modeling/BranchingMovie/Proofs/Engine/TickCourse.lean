import BranchingMovie.Proofs.Engine.DisplayOrigin
import BranchingMovie.Proofs.Engine.StepLimit

/-!
# The course of a tick

A tick delivers input, brings the picture up to the time and walks.

* `settled_cases` says what the first two can do, for any engine: a run that waits may be moved to
  another entry of the same script, and apart from that only the player changes and the counts of
  calls.
* `Engine.course` says how a tick comes to its outcome, in the order in which it may end: the clock
  fails, nothing has to be walked, the walk is a runaway, or a visit ends it.
* `Scene.IsInvariant` is what a property of scenes has to withstand to hold as long as an engine
  runs: the player, jumps and visits.
-/

namespace BranchingMovie

variable {δ : Type}

/-! ## Before the walk -/

namespace Session

/-- A run that waits is on its way to the entry `offset` entries further. -/
def leave (session : Session δ) (offset : Int32) : Session δ :=
  { session.advance offset with player := session.player.stop, state := .running }

variable {session : Session δ}

/-- Jumps leave a run as it was, or a run that waited leaves its entry. -/
theorem follow_cases (session : Session δ) (transitions : List Transition) :
    (session.follow transitions).2 = session ∨
      session.state = .awaitingEvent ∧
        ∃ offset, (session.follow transitions).2 = session.leave offset := by
  cases transitions with
  | nil => exact .inl rfl
  | cons transition transitions =>
    rw [follow_cons]
    by_cases hWaits : session.state = .awaitingEvent
    · rw [interrupt_of_waiting hWaits]
      exact .inr ⟨hWaits, transition.offset, rfl⟩
    · rw [interrupt_of_idle hWaits]
      exact .inl rfl

/-- Events leave a run where it is, or a run that waited leaves its entry. -/
theorem deliver_cases (session : Session δ) (events : List InputEvent) :
    ∃ handlers : HandlerStack, handlers.uncounted = session.handlers.uncounted ∧
      (session.deliver events = { session with handlers } ∨
        session.state = .awaitingEvent ∧
          ∃ offset, session.deliver events = { session with handlers }.leave offset) := by
  induction events generalizing session with
  | nil => exact ⟨session.handlers, rfl, .inl rfl⟩
  | cons event events ih =>
    obtain ⟨handlers, hUncounted, hHandle⟩ := session.handle_eq_uncounted event
    show ∃ others : HandlerStack, _ ∧ ((session.handle event).2.deliver events = _ ∨
      _ ∧ ∃ offset, (session.handle event).2.deliver events = _)
    rw [hHandle]
    obtain hStays | ⟨hWaits, offset, hMoves⟩ :=
      follow_cases { session with handlers } (session.replies event)
    · rw [hStays]
      obtain ⟨others, hOthers, hRest⟩ := ih { session with handlers }
      exact ⟨others, hOthers.trans hUncounted, hRest⟩
    · -- a run that has been moved walks, so no further event can move it
      rw [hMoves]
      obtain ⟨others, hOthers, hRest | ⟨hAgain, -⟩⟩ := ih (leave { session with handlers } offset)
      · exact ⟨others, hOthers.trans hUncounted, .inr ⟨hWaits, offset, hRest⟩⟩
      · cases hAgain

variable [Decoder δ] {now : UInt64}

/-- The clock fails with the player, or it leaves a run where it is, or a run that waited leaves its
entry. -/
theorem clock_cases (session : Session δ) (now : UInt64) :
    (∃ cause player, session.player.updateFrame now = (.error cause, player) ∧
      session.updateFrame now = (.error (.playback cause), { session with player })) ∨
    ∃ handlers player, handlers.uncounted = session.handlers.uncounted ∧
      (session.updateFrame now = (.ok (), { session with handlers, player }) ∨
        session.state = .awaitingEvent ∧ ∃ offset,
          session.updateFrame now = (.ok (), { session with handlers, player }.leave offset)) := by
  unfold Session.updateFrame
  split
  · rename_i cause player hUpdate
    exact .inl ⟨cause, player, hUpdate, rfl⟩
  · rename_i player hUpdate
    exact .inr ⟨session.handlers, player, rfl, .inl rfl⟩
  · rename_i ended player hUpdate
    refine .inr ⟨_, player,
      session.handlers.uncounted_dispatchEndOfClip ({ session with player }).context, ?_⟩
    obtain hStays | ⟨hWaits, offset, hMoves⟩ := follow_cases
      { session with
        player
        handlers := (session.handlers.dispatchEndOfClip ({ session with player }).context).1 }
      (session.handlers.dispatchEndOfClip ({ session with player }).context).2
    · exact .inl (congrArg (Prod.mk _) hStays)
    · exact .inr ⟨hWaits, offset, congrArg (Prod.mk _) hMoves⟩

/-- **What happens in a tick before the walk.**  The clock fails, in a run that no event has moved;
or the run is where it was; or a run that waited has left its entry. -/
theorem settle_cases (session : Session δ) (events : List InputEvent) (now : UInt64) :
    ∃ handlers player, handlers.uncounted = session.handlers.uncounted ∧
      ((∃ cause, session.player.updateFrame now = (.error cause, player) ∧
          (session.deliver events).updateFrame now =
            (.error (.playback cause), { session with handlers, player })) ∨
        (session.deliver events).updateFrame now = (.ok (), { session with handlers, player }) ∨
        session.state = .awaitingEvent ∧ ∃ offset, (session.deliver events).updateFrame now =
          (.ok (), { session with handlers, player }.leave offset)) := by
  obtain ⟨handlers, hUncounted, hStays | ⟨hWaits, offset, hMoves⟩⟩ := session.deliver_cases events
  · rw [hStays]
    obtain ⟨cause, player, hPlayer, hUpdate⟩ | ⟨others, player, hOthers, hUpdate⟩ :=
      clock_cases { session with handlers } now
    · exact ⟨handlers, player, hUncounted, .inl ⟨cause, hPlayer, hUpdate⟩⟩
    · exact ⟨others, player, hOthers.trans hUncounted, .inr hUpdate⟩
  · -- a run that has left its entry has a stopped player, to which the clock means nothing
    refine ⟨handlers, session.player, hUncounted, .inr (.inr ⟨hWaits, offset, ?_⟩)⟩
    have hStopped : ({ session with handlers }.leave offset).player.updateFrame now =
        (.ok none, ({ session with handlers }.leave offset).player) :=
      Player.updateFrame_of_stopped rfl now
    rw [hMoves, updateFrame, hStopped]

end Session

namespace Engine

variable [Decoder δ]

/-! ## The walk -/

/-- How a tick comes to its outcome, and in which session it ends. -/
inductive Course (engine : Engine δ) (now : UInt64) : Prop
  /-- The clock fails. -/
  | clock (cause : PlaybackError)
    (hClock : ((engine.session.deliver engine.input.pending).updateFrame now).1 =
      .error (.playback cause))
    (hOutcome : (engine.tick now).1 = .error (.playback cause))
    (hSession : (engine.tick now).2.session = engine.settled now)
  /-- The run waits, or it is over. -/
  | still
    (hClock : ((engine.session.deliver engine.input.pending).updateFrame now).1 = .ok ())
    (hState : (engine.settled now).state ≠ .running)
    (hOutcome : (engine.tick now).1 = .ok (engine.settled now).report)
    (hSession : (engine.tick now).2.session = engine.settled now)
  /-- All visits lead on. -/
  | runaway
    (hClock : ((engine.session.deliver engine.input.pending).updateFrame now).1 = .ok ())
    (hState : (engine.settled now).state = .running)
    (hPasses : (engine.settled now).Passes engine.film now
      engine.film.config.maxStepsPerTick.toNat)
    (hOutcome : (engine.tick now).1 = .error (.runaway engine.film.config.maxStepsPerTick.toNat
      (engine.tick now).2.session.pointer))
    (hSession : (engine.tick now).2.session = (engine.settled now).afterVisits engine.film now
      engine.film.config.maxStepsPerTick.toNat)
  /-- A visit does not lead on. -/
  | stop (visits : Nat)
    (hClock : ((engine.session.deliver engine.input.pending).updateFrame now).1 = .ok ())
    (hState : (engine.settled now).state = .running)
    (hLess : visits < engine.film.config.maxStepsPerTick.toNat)
    (hPasses : (engine.settled now).Passes engine.film now visits)
    (hStops : ¬ engine.film.LeadsOn
      ((engine.settled now).afterVisits engine.film now visits).pointer)
    (hOutcome : (engine.tick now).1 =
      (((engine.settled now).afterVisits engine.film now visits).visit engine.film now).1.map
        fun _ => (engine.tick now).2.session.report)
    (hSession : (engine.tick now).2.session =
      (((engine.settled now).afterVisits engine.film now visits).visit engine.film now).2)

/-- When the clock does not fail, a tick comes to what the walk comes to. -/
theorem tick_of_clock {engine : Engine δ} {now : UInt64}
    (h : ((engine.session.deliver engine.input.pending).updateFrame now).1 = .ok ()) :
    (engine.tick now).1 = ((engine.settled now).update engine.film now).1.map
        (fun _ => (engine.tick now).2.session.report) ∧
      (engine.tick now).2.session = ((engine.settled now).update engine.film now).2 := by
  simp only [Engine.tick, InputQueue.drain, Session.tick, settled]
  split
  · rename_i hClock
    rw [hClock] at h
    cases h
  · rename_i settled hClock
    rw [hClock]
    obtain ⟨result, walked⟩ := settled.update engine.film now
    cases result <;> exact ⟨rfl, rfl⟩

/-- **A tick takes one of these courses.** -/
theorem course (engine : Engine δ) (now : UInt64) : engine.Course now := by
  obtain ⟨fault, hClock, hFails, hSession⟩ | ⟨hClock, -⟩ := engine.tick_cases now
  · obtain ⟨_, _, -, ⟨cause, -, hSettled⟩ | hSettled | ⟨-, _, hSettled⟩⟩ :=
      engine.session.settle_cases engine.input.pending now
    · rw [hSettled] at hClock
      cases hClock
      exact .clock cause (congrArg Prod.fst hSettled) hFails hSession
    · rw [hSettled] at hClock
      cases hClock
    · rw [hSettled] at hClock
      cases hClock
  · obtain ⟨hOutcome, hSession⟩ := tick_of_clock hClock
    by_cases hState : (engine.settled now).state = .running
    · obtain ⟨hPasses, hUpdate⟩ | ⟨visits, hLess, hPasses, hStops, hUpdate⟩ :=
        Session.update_cases engine.film now hState
      · refine .runaway hClock hState hPasses ?_ ?_
        · rw [hOutcome, hSession, hUpdate]
          rfl
        · rw [hSession, hUpdate]
      · refine .stop visits hClock hState hLess hPasses hStops ?_ ?_
        · rw [hOutcome, hUpdate]
        · rw [hSession, hUpdate]
    · have hUpdate : (engine.settled now).update engine.film now = (.ok (), engine.settled now) :=
        Session.update_of_idle hState now
      rw [hUpdate] at hOutcome hSession
      refine .still hClock hState ?_ hSession
      rw [hOutcome, hSession]
      rfl

end Engine

/-! ## Invariants -/

/-- What is true of a scene and stays so, whatever its player does, when the run leaves the entry it
waits at, and when it visits another one. -/
structure Scene.IsInvariant [Decoder δ] (P : Scene δ → Prop) : Prop where
  player {scene : Scene δ} (player : Player δ) (h : P scene) : P { scene with player }
  leave {scene : Scene δ} (offset : Int32) (hState : scene.state = .awaitingEvent) (h : P scene) :
    P (scene.leave offset)
  visit {film : Film δ} {scene : Scene δ} (now : UInt64) (hState : scene.state = .running)
    (h : P scene) : P (scene.visit film now).2

namespace Scene.IsInvariant

variable [Decoder δ] {P : Scene δ → Prop} {engine : Engine δ}

theorem settled (hP : IsInvariant P) (h : P engine.session.scene) (now : UInt64) :
    P (engine.settled now).scene := by
  obtain ⟨handlers, player, -, ⟨cause, -, hSettled⟩ | hSettled | ⟨hWaits, offset, hSettled⟩⟩ :=
    engine.session.settle_cases engine.input.pending now
  · rw [Engine.settled, hSettled]
    exact hP.player player h
  · rw [Engine.settled, hSettled]
    exact hP.player player h
  · rw [Engine.settled, hSettled]
    exact hP.leave offset hWaits (hP.player player h)

theorem act (hP : IsInvariant P) (h : P engine.session.scene) (a : Act δ) :
    P (engine.act a).session.scene := by
  cases a with
  | push event => exact h
  | restock clips => exact h
  | sound feed samples => exact hP.player _ h
  | tick now =>
    show P (engine.tick now).2.session.scene
    have hSettled := hP.settled h now
    obtain ⟨_, -, -, hSession⟩ | ⟨-, hSession⟩ := engine.tick_cases now
    · rw [hSession]
      exact hSettled
    · have hScene := congrArg Prod.snd ((engine.settled now).scene_update engine.film now)
      rw [hSession]
      show P (Prod.map id Session.scene _).2
      rw [hScene]
      exact walk_induction (fun _ => hP.visit now) hSettled _ _

/-- An invariant of scenes holds as long as an engine runs, also when ticks fail. -/
theorem run (hP : IsInvariant P) (h : P engine.session.scene) (acts : List (Act δ)) :
    P (engine.run acts).session.scene := by
  induction acts generalizing engine with
  | nil => exact h
  | cons a acts ih => exact ih (hP.act h a)

end Scene.IsInvariant
end BranchingMovie
