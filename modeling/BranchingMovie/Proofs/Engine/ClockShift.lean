import BranchingMovie.Proofs.Engine.Run
import BranchingMovie.Proofs.Outcome
import BranchingMovie.Proofs.Playback.Delay

/-!
# Runs at a later time

Nothing in a run depends on what time it is, only on the time that goes by.  A run that is told
every time later by the same delay differs from the run that is not in one number, the start of the
play that its player is in.  `Session.Delayed` is that relation between two sessions.  Each thing a
session does keeps it (`Delayed.handle`, `Delayed.updateFrame`, `Delayed.visit`), so a tick does
(`Delayed.tick`), and so does whatever happens to an engine (`sightings_later`).
-/

namespace BranchingMovie

variable {δ : Type} {delay now : UInt64}

namespace Session

/-- The other session is the same, except that the play of its player began later by a delay. -/
def Delayed (delay : UInt64) (session other : Session δ) : Prop :=
  ∃ player, other = { session with player } ∧ session.player.Delayed delay player

variable {session other : Session δ}

/-! ## What can be seen of delayed sessions -/

theorem Delayed.pointer (h : session.Delayed delay other) : other.pointer = session.pointer := by
  obtain ⟨player, rfl, -⟩ := h
  rfl

theorem Delayed.state (h : session.Delayed delay other) : other.state = session.state := by
  obtain ⟨player, rfl, -⟩ := h
  rfl

theorem Delayed.handlers (h : session.Delayed delay other) : other.handlers = session.handlers := by
  obtain ⟨player, rfl, -⟩ := h
  rfl

theorem Delayed.player (h : session.Delayed delay other) :
    session.player.Delayed delay other.player := by
  obtain ⟨player, rfl, hPlayer⟩ := h
  exact hPlayer

/-- Handlers do not get to see when a play began. -/
theorem Delayed.context (h : session.Delayed delay other) : other.context = session.context := by
  obtain ⟨player, rfl, time, rfl, -⟩ := h
  rfl

theorem Delayed.report (h : session.Delayed delay other) : other.report = session.report := by
  obtain ⟨player, rfl, time, rfl, -⟩ := h
  rfl

/-- Sessions of one delay may come to listen to other handlers. -/
theorem Delayed.withHandlers (h : session.Delayed delay other) (handlers : HandlerStack) :
    ({ session with handlers } : Session δ).Delayed delay { other with handlers } := by
  obtain ⟨player, rfl, hPlayer⟩ := h
  exact ⟨player, rfl, hPlayer⟩

/-! ## Events -/

/-- One of two delayed sessions leaves its entry when the other does. -/
theorem Delayed.interrupt (h : session.Delayed delay other) (offset : Int32) :
    (other.interrupt offset).1 = (session.interrupt offset).1 ∧
      (session.interrupt offset).2.Delayed delay (other.interrupt offset).2 := by
  obtain ⟨player, rfl, hPlayer⟩ := h
  unfold Session.interrupt
  by_cases hWaits : session.state = .awaitingEvent
  · rw [if_pos hWaits, if_pos hWaits]
    exact ⟨rfl, player.stop, rfl, hPlayer.stop⟩
  · rw [if_neg hWaits, if_neg hWaits]
    exact ⟨rfl, player, rfl, hPlayer⟩

theorem Delayed.follow (h : session.Delayed delay other) (transitions : List Transition) :
    (session.follow transitions).2.Delayed delay (other.follow transitions).2 := by
  induction transitions generalizing session other with
  | nil => exact h
  | cons transition transitions ih => exact ih (h.interrupt transition.offset).2

/-- The handlers of both give the same answers. -/
theorem Delayed.handle (h : session.Delayed delay other) (event : InputEvent) :
    (session.handle event).2.Delayed delay (other.handle event).2 := by
  cases event with
  | control control =>
    simp only [Session.handle, handleControl, h.context, h.handlers]
    exact (h.withHandlers _).follow _
  | point point =>
    simp only [Session.handle, handlePoint, h.context, h.handlers]
    exact (h.withHandlers _).follow _

theorem Delayed.handleEndOfClip (h : session.Delayed delay other) :
    session.handleEndOfClip.2.Delayed delay other.handleEndOfClip.2 := by
  simp only [Session.handleEndOfClip, h.context, h.handlers]
  exact (h.withHandlers _).follow _

theorem Delayed.deliver (h : session.Delayed delay other) (events : List InputEvent) :
    (session.deliver events).Delayed delay (other.deliver events) := by
  induction events generalizing session other with
  | nil => exact h
  | cons event events ih => exact ih (h.handle event)

/-! ## What an entry asks for -/

theorem Delayed.setLaserMode (h : session.Delayed delay other) (enabled : Bool) :
    (session.setLaserMode enabled).Delayed delay (other.setLaserMode enabled) := by
  obtain ⟨player, rfl, hPlayer⟩ := h
  unfold Session.setLaserMode
  by_cases hMode : session.laserMode = enabled
  · rw [if_pos hMode, if_pos hMode]
    exact ⟨player, rfl, hPlayer⟩
  · rw [if_neg hMode, if_neg hMode]
    exact ⟨player, rfl, hPlayer⟩

theorem Delayed.clear (h : session.Delayed delay other) :
    session.clear.Delayed delay other.clear := by
  unfold Session.clear
  rw [h.handlers]
  exact (h.withHandlers _).setLaserMode false

theorem Delayed.openZones (h : session.Delayed delay other) (film : Film δ) (entry : Entry) :
    (session.openZones film entry).Delayed delay (other.openZones film entry) := by
  unfold Session.openZones
  cases film.catalog.get? entry.name with
  | none => exact h
  | some index =>
    rw [h.handlers]
    exact (h.withHandlers _).setLaserMode true

theorem Delayed.switchScript (h : session.Delayed delay other) (film : Film δ) (entry : Entry) :
    (session.switchScript film entry).Delayed delay (other.switchScript film entry) := by
  obtain ⟨player, rfl, hPlayer⟩ := h
  unfold Session.switchScript
  split
  · exact ⟨player, rfl, hPlayer⟩
  · exact ⟨player, rfl, hPlayer⟩

/-- Both wait when their players obey. -/
theorem Delayed.await (h : session.Delayed delay other)
    {outcome : Except PlaybackError Unit × Player δ}
    {outcome' : Except PlaybackError Unit × Player δ}
    (hOutcome : outcome'.1 = outcome.1) (hPlayer : outcome.2.Delayed delay outcome'.2) :
    (other.await outcome').1 = (session.await outcome).1 ∧
      (session.await outcome).2.Delayed delay (other.await outcome').2 := by
  obtain ⟨before, rfl, -⟩ := h
  obtain ⟨result, player⟩ := outcome
  obtain ⟨result', player'⟩ := outcome'
  obtain rfl : result' = result := hOutcome
  cases result' with
  | error fault => exact ⟨rfl, player', rfl, hPlayer⟩
  | ok _ => exact ⟨rfl, player', rfl, hPlayer⟩

theorem Delayed.listenTo (h : session.Delayed delay other)
    (handlerOf : Control → Int32 → Handler Control) (controls : List (Control × Int32)) :
    (session.listenTo handlerOf controls).Delayed delay (other.listenTo handlerOf controls) := by
  unfold Session.listenTo
  rw [h.handlers]
  exact h.withHandlers _

section Players

variable [Decoder δ]

theorem Delayed.enterPlayClip (h : session.Delayed delay other)
    (hNow : now.toNat + delay.toNat < UInt64.size) (film : Film δ) (entry : Entry) :
    (other.enterPlayClip film (now + delay) entry).1 = (session.enterPlayClip film now entry).1 ∧
      (session.enterPlayClip film now entry).2.Delayed delay
        (other.enterPlayClip film (now + delay) entry).2 := by
  unfold Session.enterPlayClip
  rw [h.pointer]
  cases entry.controls session.pointer.script with
  | error fault => exact ⟨rfl, h⟩
  | ok controls =>
    have hListens := h.listenTo (Handler.onControlWithin entry.window) controls
    obtain ⟨hOutcome, hPlays⟩ :=
      hListens.player.play hNow film.clips entry.name entry.startFrame entry.endFrame
    simp only [hListens.handlers]
    exact (hListens.withHandlers _).await hOutcome hPlays

theorem Delayed.enterStillFrame (h : session.Delayed delay other) (film : Film δ) (entry : Entry) :
    (other.enterStillFrame film entry).1 = (session.enterStillFrame film entry).1 ∧
      (session.enterStillFrame film entry).2.Delayed delay
        (other.enterStillFrame film entry).2 := by
  unfold Session.enterStillFrame
  rw [h.pointer]
  cases entry.controls session.pointer.script with
  | error fault => exact ⟨rfl, h⟩
  | ok controls =>
    have hOpen := (h.listenTo Handler.onControl controls).openZones film entry
    obtain ⟨hOutcome, hShows⟩ :=
      hOpen.player.playSingleFrame film.clips entry.name entry.startFrame
    exact hOpen.await hOutcome hShows

/-- Both do what an entry asks for, or both fail to. -/
theorem Delayed.perform (h : session.Delayed delay other)
    (hNow : now.toNat + delay.toNat < UInt64.size) (film : Film δ) (entry : Entry)
    (kind : Opcode) :
    (other.perform film (now + delay) entry kind).1 = (session.perform film now entry kind).1 ∧
      (session.perform film now entry kind).2.Delayed delay
        (other.perform film (now + delay) entry kind).2 := by
  cases kind with
  | playClip => exact h.enterPlayClip hNow film entry
  | stillFrame => exact h.enterStillFrame film entry
  | switchScript =>
    simp only [Session.perform]
    exact ⟨trivial, h.switchScript film entry⟩
  | _ =>
    obtain ⟨player, rfl, hPlayer⟩ := h
    exact ⟨rfl, player, rfl, hPlayer⟩

/-! ## A tick -/

/-- The clock brings the same frame on display, and ends a play in both or in none. -/
theorem Delayed.updateFrame (h : session.Delayed delay other)
    (hNow : now.toNat + delay.toNat < UInt64.size) :
    (other.updateFrame (now + delay)).1 = (session.updateFrame now).1 ∧
      (session.updateFrame now).2.Delayed delay (other.updateFrame (now + delay)).2 := by
  obtain ⟨player, rfl, hPlayer⟩ := h
  obtain ⟨hOutcome, hState⟩ := hPlayer.updateFrame hNow
  obtain ⟨outcome, shown, others, hUpdate, hOther, hShown⟩ :=
    Outcome.exists_of_fst_eq hOutcome hState
  unfold Session.updateFrame
  simp only [hUpdate, hOther]
  match outcome with
  | .error fault => exact ⟨rfl, others, rfl, hShown⟩
  | .ok none => exact ⟨rfl, others, rfl, hShown⟩
  | .ok (some ended) =>
    have hBoth : ({ session with player := shown } : Session δ).Delayed delay
        { session with player := others } := ⟨others, rfl, hShown⟩
    exact ⟨rfl, hBoth.handleEndOfClip⟩

/-- Both visit the same entry, with the same outcome. -/
theorem Delayed.visit (h : session.Delayed delay other)
    (hNow : now.toNat + delay.toNat < UInt64.size) (film : Film δ) :
    (other.visit film (now + delay)).1 = (session.visit film now).1 ∧
      (session.visit film now).2.Delayed delay (other.visit film (now + delay)).2 := by
  have hClear := h.clear
  unfold Session.visit
  simp only [hClear.pointer]
  cases film.graph.lookup session.clear.pointer with
  | error fault => exact ⟨rfl, hClear⟩
  | ok entry =>
    simp only
    cases Opcode.ofCode? entry.opcode with
    | none => exact ⟨rfl, hClear⟩
    | some kind => exact hClear.perform hNow film entry kind

theorem Delayed.walk (h : session.Delayed delay other)
    (hNow : now.toNat + delay.toNat < UInt64.size) (film : Film δ) (limit remaining : Nat) :
    (other.walk film (now + delay) limit remaining).1 =
        (session.walk film now limit remaining).1 ∧
      (session.walk film now limit remaining).2.Delayed delay
        (other.walk film (now + delay) limit remaining).2 := by
  induction remaining generalizing session other with
  | zero =>
    unfold Session.walk
    rw [h.state, h.pointer]
    split
    · exact ⟨rfl, h⟩
    · exact ⟨rfl, h⟩
  | succ remaining ih =>
    obtain ⟨hOutcome, hAfter⟩ := h.visit hNow film
    obtain ⟨outcome, visited, others, hVisit, hOther, hVisited⟩ :=
      Outcome.exists_of_fst_eq hOutcome hAfter
    unfold Session.walk
    rw [h.state]
    by_cases hState : session.state = .running
    · rw [if_pos hState, if_pos hState, hVisit, hOther]
      cases outcome with
      | error fault => exact ⟨rfl, hVisited⟩
      | ok _ => exact ih hVisited
    · rw [if_neg hState, if_neg hState]
      exact ⟨rfl, h⟩

/-- **One tick, now or later.**  A tick of a delayed session at the delayed time has the outcome of
the tick of the other, and leaves the two sessions as they were to each other. -/
theorem Delayed.tick (h : session.Delayed delay other)
    (hNow : now.toNat + delay.toNat < UInt64.size) (film : Film δ) (events : List InputEvent) :
    (other.tick film (now + delay) events).1 = (session.tick film now events).1 ∧
      (session.tick film now events).2.Delayed delay
        (other.tick film (now + delay) events).2 := by
  obtain ⟨hUpdated, hAfter⟩ := (h.deliver events).updateFrame hNow
  obtain ⟨outcome, settled, others, hUpdate, hOther, hSettled⟩ :=
    Outcome.exists_of_fst_eq hUpdated hAfter
  unfold Session.tick
  rw [hUpdate, hOther]
  cases outcome with
  | error fault => exact ⟨rfl, hSettled⟩
  | ok _ =>
    obtain ⟨hWalked, hLater⟩ :=
      Delayed.walk hSettled hNow film film.config.maxStepsPerTick.toNat
        film.config.maxStepsPerTick.toNat
    obtain ⟨outcome, after, afterwards, hWalk, hOtherWalk, hAfter⟩ :=
      Outcome.exists_of_fst_eq hWalked hLater
    simp only [Session.update, hWalk, hOtherWalk]
    cases outcome with
    | error fault => exact ⟨rfl, hAfter⟩
    | ok _ => exact ⟨congrArg Except.ok hAfter.report, hAfter⟩

end Players

end Session

/-! ## Engines -/

/-- The same act at a later time. -/
def Act.later (delay : UInt64) : Act δ → Act δ
  | .tick now => .tick (now + delay)
  | act => act

/-- What an act brings to light: the outcome of a tick, the picture, and what was asked of the panel
and of the decoders so far. -/
structure Sighting where
  outcome : Option (Except EngineError TickReport)
  picture : FrameBuffer
  surface : Array SurfaceEvent
  calls : Array DecoderCall

namespace Engine

/-- The other engine is the same, except that the play of its player began later by a delay. -/
def Delayed (delay : UInt64) (engine other : Engine δ) : Prop :=
  ∃ session, other = { engine with session } ∧ engine.session.Delayed delay session

variable [Decoder δ]

/-- The outcome of an act, which only a tick has. -/
def outcome? (engine : Engine δ) : Act δ → Option (Except EngineError TickReport)
  | .tick now => some (engine.tick now).1
  | _ => none

/-- What one act brings to light. -/
def sighting (engine : Engine δ) (a : Act δ) : Sighting where
  outcome := engine.outcome? a
  picture := (engine.act a).session.player.picture
  surface := (engine.act a).session.surface
  calls := (engine.act a).session.player.calls

/-- What comes to light in the course of a list of acts, after each of them. -/
def sightings (engine : Engine δ) : List (Act δ) → List Sighting
  | [] => []
  | a :: acts => engine.sighting a :: (engine.act a).sightings acts

variable {engine other : Engine δ}

/-- Whatever happens to two engines that are delayed against each other, the same can be seen of
both, and they stay delayed. -/
theorem Delayed.act (h : engine.Delayed delay other) (a : Act δ)
    (hTime : ∀ now, a = .tick now → now.toNat + delay.toNat < UInt64.size) :
    other.outcome? (a.later delay) = engine.outcome? a ∧
      (engine.act a).Delayed delay (other.act (a.later delay)) := by
  obtain ⟨session, rfl, hSession⟩ := h
  cases a with
  | push event => exact ⟨rfl, session, rfl, hSession⟩
  | tick now =>
    obtain ⟨hOutcome, hTicked⟩ :=
      hSession.tick (hTime now rfl) engine.film engine.input.pending
    exact ⟨congrArg some hOutcome, _, rfl, hTicked⟩
  | sound feed samples =>
    obtain ⟨player, rfl, hPlayer⟩ := hSession
    exact ⟨rfl, _, rfl, _, rfl, (hPlayer.fill feed samples).2⟩
  | restock clips => exact ⟨rfl, session, rfl, hSession⟩

theorem Delayed.sighting (h : engine.Delayed delay other) (a : Act δ)
    (hTime : ∀ now, a = .tick now → now.toNat + delay.toNat < UInt64.size) :
    other.sighting (a.later delay) = engine.sighting a := by
  obtain ⟨hOutcome, session, hOther, player, hSession, time, hPlayer, -⟩ := h.act a hTime
  unfold Engine.sighting
  rw [hOutcome, hOther, hSession, hPlayer]
  rfl

theorem Delayed.sightings (h : engine.Delayed delay other) (acts : List (Act δ))
    (hTimes : ∀ now, .tick now ∈ acts → now.toNat + delay.toNat < UInt64.size) :
    other.sightings (acts.map (Act.later delay)) = engine.sightings acts := by
  induction acts generalizing engine other with
  | nil => rfl
  | cons a acts ih =>
    have hTime : ∀ now, a = .tick now → now.toNat + delay.toNat < UInt64.size := by
      rintro now rfl
      exact hTimes now List.mem_cons_self
    have hRest := ih (h.act a hTime).2 fun now hMem => hTimes now (List.mem_cons_of_mem a hMem)
    rw [List.map_cons, Engine.sightings, Engine.sightings, h.sighting a hTime, hRest]

/-- **A run does not depend on what time it is.**  The same things happen to an engine at the start
of a film, every tick of them later by the same delay, and no time leaves the range of the clock.
Then the same comes to light after each of them: the report or the failure of each tick, the
picture, and what was asked of the panel and of the decoders.  The ticks may come in any order of
their times, and sound may be taken and the clips may change in between. -/
theorem sightings_later (film : Film δ) (acts : List (Act δ)) (delay : UInt64)
    (hTimes : ∀ now, .tick now ∈ acts → now.toNat + delay.toNat < UInt64.size) :
    (ofFilm film).sightings (acts.map (Act.later delay)) = (ofFilm film).sightings acts := by
  have hStart : (ofFilm film).Delayed delay (ofFilm film) :=
    ⟨_, rfl, _, rfl, .of_not_playing PlaybackState.noConfusion delay⟩
  exact hStart.sightings acts hTimes

/-- A clip that is left by its button, with a clock that goes back once, half a second later. -/
theorem sightings_later_of_button :
    let acts := [.tick 100, .tick 300, .push (.control .analysis), .tick 200, .tick 400]
    (∀ now, .tick now ∈ acts → now.toNat + (500 : UInt64).toNat < UInt64.size) ∧
      (ofFilm (.ofEntries [.clipWithButton])).sightings (acts.map (Act.later 500)) =
        (ofFilm (.ofEntries [.clipWithButton])).sightings acts := by
  intro acts
  have hTimes : ∀ now, .tick now ∈ acts →
      now.toNat + (500 : UInt64).toNat < UInt64.size := by
    intro now hMem
    simp only [acts, List.mem_cons, Act.tick.injEq, reduceCtorEq, false_or, List.not_mem_nil,
      or_false] at hMem
    rcases hMem with rfl | rfl | rfl | rfl
    all_goals decide
  exact ⟨hTimes, sightings_later _ acts 500 hTimes⟩

end Engine
end BranchingMovie
