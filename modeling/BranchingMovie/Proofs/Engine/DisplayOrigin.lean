import Mathlib.Data.List.Induction
import BranchingMovie.Proofs.Engine.TickRule
import BranchingMovie.Proofs.Playback.KeptFrames

/-!
# Where the frame on display comes from

While a run waits at an entry, the frame on display need not be one that the entry asks for.
`Engine.own_or_left` says what else it can be: a frame of the same clip that was on display before
the run came to the entry, as long as every tick since then has failed (`Engine.LeftBehind`).  It
rests on three facts:

* an update without a fault shows a frame that the player is set to show
  (`Player.canShow_of_updateFrame`),
* a tick that fails leaves the frame as it was (`Session.settled_of_waiting`), and
* a walk keeps the frame on display or clears it (`Scene.keeps_walk`).
-/

namespace BranchingMovie

variable {δ : Type}

/-! ## Walks keep or clear the frame on display -/

namespace Scene

variable {film : Film δ} {now : UInt64}

theorem player_await (scene : Scene δ) (outcome : Except PlaybackError Unit × Player δ) :
    (scene.await outcome).2.player = outcome.2 := by
  obtain ⟨result, player⟩ := outcome
  cases result <;> rfl

theorem player_setLaserMode (scene : Scene δ) (enabled : Bool) :
    (scene.setLaserMode enabled).player = scene.player := by
  unfold setLaserMode
  split <;> rfl

variable [Decoder δ]

theorem keeps_perform (scene : Scene δ) (entry : Entry) (kind : Opcode) :
    scene.player.Keeps (scene.perform film now entry kind).2.player := by
  cases kind with
  | playClip =>
    simp only [perform]
    split
    · exact .refl _
    · rw [player_await]
      exact Player.keeps_play _ _ _ _ _ _
  | stillFrame =>
    simp only [perform]
    split
    · exact .refl _
    · rw [player_await]
      exact Player.keeps_playSingleFrame _ _ _ _
  | switchScript =>
    simp only [perform, switchScript]
    split <;> exact .refl _
  | _ => exact .refl _

theorem keeps_visit (scene : Scene δ) : scene.player.Keeps (scene.visit film now).2.player := by
  have hPlayer := scene.player_setLaserMode false
  simp only [visit]
  split
  · rw [hPlayer]
    exact .refl _
  · split
    · rw [hPlayer]
      exact .refl _
    · rw [← hPlayer]
      exact keeps_perform _ _ _

/-- A frame that is on display after a walk was on display before it, of the same clip. -/
theorem keeps_walk (scene : Scene δ) (limit remaining : Nat) :
    scene.player.Keeps (scene.walk film now limit remaining).2.player := by
  refine walk_induction (P := fun later => scene.player.Keeps later.player) ?_ (.refl _) _ _
  intro later _ hKeeps
  exact hKeeps.trans (keeps_visit later)

end Scene

/-! ## A run that waits -/

namespace Session

variable {film : Film δ} {session : Session δ} {entry : Entry} {kind : Opcode}

/-- Events after which a run waits have left it as it was. -/
theorem deliver_of_waiting (h : session.Coherent film) {events : List InputEvent}
    (hWaits : (session.deliver events).state = .awaitingEvent) :
    session.state = .awaitingEvent ∧
      ∃ handlers : HandlerStack, session.deliver events = { session with handlers } := by
  by_cases hState : session.state = .awaitingEvent
  · obtain ⟨entry, kind, hAt⟩ := h.waiting hState
    obtain ⟨offset, -, hMoved⟩ | ⟨-, handlers, -, hKept⟩ := scene_deliver hAt hState events
    · have hRunning : (session.deliver events).state = .running := congrArg Scene.state hMoved
      rw [hWaits] at hRunning
      cases hRunning
    · exact ⟨hState, handlers, hKept⟩
  · have hSame : (session.deliver events).state = session.state :=
      congrArg Scene.state (scene_deliver_of_idle hState events)
    exact absurd (hSame.symm.trans hWaits) hState

/-- A run that waits has a clip, and a player that does something with it. -/
theorem WaitsAt.player (h : session.WaitsAt film entry kind) :
    session.player.clip ≠ none ∧ session.player.state ≠ .stopped := by
  constructor
  · intro hNone
    have hClip := h.clip
    rw [Player.clipName, hNone] at hClip
    cases hClip
  · intro hStopped
    have hServes := h.serves
    cases kind with
    | playClip =>
      have hPlaying : session.player.state = .playing := hServes.1
      rw [hStopped] at hPlaying
      cases hPlaying
    | stillFrame =>
      have hFrame : session.player.state = .singleFrame entry.startFrame := hServes
      rw [hStopped] at hFrame
      cases hFrame
    | _ => exact hServes.elim

variable [Decoder δ]

/-- The clock fails, brings the picture up to the time, or moves the run at the end of a clip. -/
theorem updateFrame_cases (h : session.Coherent film) (now : UInt64) :
    (∃ fault player, session.player.updateFrame now = (.error fault, player) ∧
      session.updateFrame now = (.error (.playback fault), { session with player })) ∨
    (∃ player, session.player.updateFrame now = (.ok none, player) ∧
      session.updateFrame now = (.ok (), { session with player })) ∨
    ∃ moved, session.updateFrame now = (.ok (), moved) ∧ moved.state = .running := by
  unfold Session.updateFrame
  obtain ⟨fault, player, hUpdate, -⟩ | ⟨player, hUpdate, -⟩ |
    ⟨ended, player, hUpdate, hPlaying, -⟩ := session.player.updateFrame_cases now
  · exact .inl ⟨fault, player, hUpdate, by rw [hUpdate]⟩
  · exact .inr (.inl ⟨player, hUpdate, by rw [hUpdate]⟩)
  · have hWaits := h.waits_of_playing hPlaying
    obtain ⟨entry, kind, hAt⟩ := h.waiting hWaits
    obtain rfl := hAt.eq_playClip hPlaying
    obtain ⟨controls, -, hListens⟩ := hAt.listens
    have hNow : ({ session with player }).handlers.listeners =
        film.listeners entry controls .playClip := hListens
    obtain ⟨handlers, -, hEnd⟩ := handleEndOfClip_eq hNow
    have hMoves : ({ session with handlers, player } : Session δ).state = .awaitingEvent := hWaits
    rw [interrupt_of_waiting hMoves] at hEnd
    refine .inr (.inr ⟨_, by rw [hUpdate], ?_⟩)
    rw [hEnd]

/-- A walk of a session keeps the frame on display or clears it. -/
theorem keeps_update (film : Film δ) (now : UInt64) (session : Session δ) :
    session.player.Keeps (session.update film now).2.player := by
  have hScene : (session.update film now).2.scene = (session.scene.update film now).2 :=
    congrArg Prod.snd (session.scene_update film now)
  have hKeeps : session.player.Keeps (session.scene.update film now).2.player :=
    Scene.keeps_walk session.scene _ _
  rw [← hScene] at hKeeps
  exact hKeeps

/-- A run that waits after events and the clock is where it was.  The clock has failed, with the
frame on display as it was, or has brought a frame on display that the player is set to show. -/
theorem settled_of_waiting (h : session.Coherent film) {events : List InputEvent} {now : UInt64}
    {outcome : Except EngineError Unit} {settled : Session δ}
    (hSettled : (session.deliver events).updateFrame now = (outcome, settled))
    (hWaits : settled.state = .awaitingEvent) :
    session.state = .awaitingEvent ∧ settled.pointer = session.pointer ∧
      settled.player.setting = session.player.setting ∧
      ((∃ fault, outcome = .error fault) ∧
          settled.player.currentFrame = session.player.currentFrame ∨
        outcome = .ok () ∧ ∃ frame, settled.player.currentFrame = some frame ∧
          settled.player.setting.CanShow frame) := by
  obtain ⟨fault, player, hPlayer, hUpdate⟩ | ⟨player, hPlayer, hUpdate⟩ |
    ⟨moved, hUpdate, hMoved⟩ := updateFrame_cases (h.deliver events) now
  · rw [hUpdate] at hSettled
    cases hSettled
    obtain ⟨hState, handlers, hKept⟩ := deliver_of_waiting h hWaits
    rw [hKept] at hPlayer ⊢
    have hFrame : player.currentFrame = session.player.currentFrame :=
      Player.currentFrame_of_error hPlayer
    have hSetting : player.setting = session.player.setting := Player.setting_of_error hPlayer
    exact ⟨hState, rfl, hSetting, .inl ⟨⟨_, rfl⟩, hFrame⟩⟩
  · rw [hUpdate] at hSettled
    cases hSettled
    obtain ⟨hState, handlers, hKept⟩ := deliver_of_waiting h hWaits
    rw [hKept] at hPlayer ⊢
    obtain ⟨entry, kind, hAt⟩ := h.waiting hState
    obtain ⟨hClip, hBusy⟩ := hAt.player
    have hSetting : player.setting = session.player.setting := Player.setting_of_ok hPlayer
    obtain ⟨frame, hFrame, hShow⟩ := Player.canShow_of_updateFrame hClip hBusy hPlayer
    rw [← hSetting] at hShow
    exact ⟨hState, rfl, hSetting, .inr ⟨rfl, frame, hFrame, hShow⟩⟩
  · rw [hUpdate] at hSettled
    cases hSettled
    rw [hMoved] at hWaits
    cases hWaits

theorem update_of_idle (h : session.state ≠ .running) (now : UInt64) :
    session.update film now = (.ok (), session) := by
  unfold Session.update
  simp only
  cases film.config.maxStepsPerTick.toNat with
  | zero => exact if_neg h
  | succ remaining => exact if_neg h

end Session

namespace Engine

variable [Decoder δ] {film : Film δ} {acts : List (Act δ)} {key : String} {frame : Int32}

theorem run_append (engine : Engine δ) (acts later : List (Act δ)) :
    engine.run (acts ++ later) = (engine.run acts).run later :=
  List.foldl_append

/-! ## Ticks -/

/-- The session in a tick after the input and the clock, before the run walks on. -/
def settled (engine : Engine δ) (now : UInt64) : Session δ :=
  ((engine.session.deliver engine.input.pending).updateFrame now).2

/-- A tick stops at a fault of the clock, or walks on. -/
theorem tick_cases (engine : Engine δ) (now : UInt64) :
    (∃ fault, ((engine.session.deliver engine.input.pending).updateFrame now).1 = .error fault ∧
      (engine.tick now).1 = .error fault ∧ (engine.tick now).2.session = engine.settled now) ∨
    (((engine.session.deliver engine.input.pending).updateFrame now).1 = .ok () ∧
      (engine.tick now).2.session = ((engine.settled now).update engine.film now).2) := by
  simp only [Engine.tick, InputQueue.drain, Session.tick, settled]
  obtain ⟨outcome, session⟩ := (engine.session.deliver engine.input.pending).updateFrame now
  cases outcome with
  | error fault => exact .inl ⟨fault, rfl, rfl, rfl⟩
  | ok _ =>
    refine .inr ⟨rfl, ?_⟩
    simp only
    obtain ⟨result, walked⟩ := session.update engine.film now
    cases result <;> rfl

/-- The act is no tick, or a tick that fails. -/
def FailsAt (engine : Engine δ) (a : Act δ) : Prop :=
  ∀ now, a = .tick now → ∃ fault, (engine.tick now).1 = .error fault

/-- Every tick among the acts fails. -/
def AllTicksFail (engine : Engine δ) : List (Act δ) → Prop
  | [] => True
  | a :: acts => engine.FailsAt a ∧ (engine.act a).AllTicksFail acts

theorem AllTicksFail.concat {engine : Engine δ} (h : engine.AllTicksFail acts) {a : Act δ}
    (hLast : (engine.run acts).FailsAt a) : engine.AllTicksFail (acts ++ [a]) := by
  induction acts generalizing engine with
  | nil => exact ⟨hLast, trivial⟩
  | cons first acts ih => exact ⟨h.1, ih h.2 hLast⟩

/-! ## Where the frame on display comes from -/

/-- In the tick at a time the run walks to the entry that it waits at from then on, through acts
whose ticks all fail. -/
structure Arrives (engine : Engine δ) (now : UInt64) (since : List (Act δ)) : Prop where
  walks : (engine.settled now).state = .running
  waits : (engine.tick now).2.session.state = .awaitingEvent
  stays : ((engine.tick now).2.run since).session.pointer = (engine.tick now).2.session.pointer
  fails : (engine.tick now).2.AllTicksFail since

/-- The frame was on display, of the clip with the key, before the run came to the entry that it
waits at, and every tick since then has failed. -/
def LeftBehind (film : Film δ) (acts : List (Act δ)) (key : String) (frame : Int32) : Prop :=
  ∃ before now since, acts = before ++ .tick now :: since ∧
    ((ofFilm film).run before).Arrives now since ∧
    (((ofFilm film).run before).settled now).player.currentFrame = some frame ∧
    (((ofFilm film).run before).settled now).player.clipName = some key

/-- A run that waits has a frame on display that its player is set to show, or one that was left
behind. -/
def OwnOrLeft (film : Film δ) (acts : List (Act δ)) : Prop :=
  let session := ((ofFilm film).run acts).session
  session.state = .awaitingEvent → ∀ frame, session.player.currentFrame = some frame →
    session.player.setting.CanShow frame ∨
      ∃ key, session.player.clipName = some key ∧ LeftBehind film acts key frame

/-- What was left behind stays so as long as the run stays where it is. -/
theorem LeftBehind.concat (h : LeftBehind film acts key frame) {a : Act δ}
    (hPointer : (((ofFilm film).run acts).act a).session.pointer =
      ((ofFilm film).run acts).session.pointer)
    (hFails : ((ofFilm film).run acts).FailsAt a) : LeftBehind film (acts ++ [a]) key frame := by
  obtain ⟨before, now, since, rfl, hArrives, hFrame, hName⟩ := h
  have hRun : (ofFilm film).run (before ++ .tick now :: since) =
      (((ofFilm film).run before).tick now).2.run since := run_append _ _ _
  rw [hRun] at hPointer hFails
  refine ⟨before, now, since ++ [a], by simp, ⟨hArrives.walks, hArrives.waits, ?_, ?_⟩, hFrame,
    hName⟩
  · rw [run_append]
    exact hPointer.trans hArrives.stays
  · exact hArrives.fails.concat hFails

/-- An act that changes nothing to look at keeps what can be said of the frame on display. -/
theorem OwnOrLeft.concat (h : OwnOrLeft film acts) {a : Act δ}
    (hState : (((ofFilm film).run acts).act a).session.state =
      ((ofFilm film).run acts).session.state)
    (hPointer : (((ofFilm film).run acts).act a).session.pointer =
      ((ofFilm film).run acts).session.pointer)
    (hFrame : (((ofFilm film).run acts).act a).session.player.currentFrame =
      ((ofFilm film).run acts).session.player.currentFrame)
    (hSetting : (((ofFilm film).run acts).act a).session.player.setting =
      ((ofFilm film).run acts).session.player.setting)
    (hFails : ((ofFilm film).run acts).FailsAt a) : OwnOrLeft film (acts ++ [a]) := by
  have hRun : (ofFilm film).run (acts ++ [a]) = ((ofFilm film).run acts).act a := run_append _ _ _
  intro hWaits frame hShown
  rw [hRun] at hWaits hShown ⊢
  rw [hState] at hWaits
  rw [hFrame] at hShown
  rw [hSetting]
  rcases h hWaits frame hShown with hOwn | ⟨key, hName, hLeft⟩
  · exact .inl hOwn
  · refine .inr ⟨key, ?_, hLeft.concat hPointer hFails⟩
    rw [← Player.clipName_setting, hSetting, Player.clipName_setting]
    exact hName

/-- A tick shows a frame that the player is set to show, leaves the run where it was, or takes it to
an entry with the frame on display kept or cleared. -/
theorem OwnOrLeft.tick (h : OwnOrLeft film acts) (now : UInt64) :
    OwnOrLeft film (acts ++ [.tick now]) := by
  have hRun : (ofFilm film).run (acts ++ [.tick now]) = (((ofFilm film).run acts).tick now).2 :=
    run_append _ _ _
  have hCoherent : ((ofFilm film).run acts).session.Coherent ((ofFilm film).run acts).film :=
    coherent_run_ofFilm film acts
  obtain ⟨fault, hFault, hFails, hSession⟩ | ⟨hOk, hSession⟩ :=
    ((ofFilm film).run acts).tick_cases now
  · intro hWaits
    have hSettled : (((ofFilm film).run acts).settled now).state = .awaitingEvent := by
      rw [← hSession, ← hRun]
      exact hWaits
    obtain ⟨hState, hPointer, hSetting, ⟨-, hKept⟩ | ⟨hOk, -⟩⟩ :=
      Session.settled_of_waiting hCoherent (Prod.ext hFault rfl) hSettled
    · refine h.concat ?_ ?_ ?_ ?_ ?_ hWaits
      · exact (congrArg Session.state hSession).trans (hSettled.trans hState.symm)
      · exact (congrArg Session.pointer hSession).trans hPointer
      · exact (congrArg (·.player.currentFrame) hSession).trans hKept
      · exact (congrArg (·.player.setting) hSession).trans hSetting
      · rintro _ ⟨⟩
        exact ⟨fault, hFails⟩
    · cases hOk
  · intro hWaits frame hFrame
    rw [hRun, hSession] at hWaits hFrame ⊢
    by_cases hWalks : (((ofFilm film).run acts).settled now).state = .running
    · -- the walk has kept the frame on display, so it was there before the run came here
      obtain ⟨hBefore, hName⟩ := Session.keeps_update _ now _ frame hFrame
      have hArrived : (((ofFilm film).run acts).tick now).2.session.Coherent
          (((ofFilm film).run acts).tick now).2.film := coherent_act hCoherent (.tick now)
      rw [← hSession] at hWaits hName ⊢
      obtain ⟨entry, kind, hAt⟩ := hArrived.waiting hWaits
      rw [hAt.clip] at hName ⊢
      exact .inr ⟨_, rfl, acts, now, [], rfl, ⟨hWalks, hWaits, rfl, trivial⟩, hBefore, hName⟩
    · rw [Session.update_of_idle hWalks] at hWaits hFrame ⊢
      obtain ⟨-, -, -, ⟨⟨fault, hFault⟩, -⟩ | ⟨-, shown, hShown, hShow⟩⟩ :=
        Session.settled_of_waiting hCoherent (Prod.ext hOk rfl) hWaits
      · cases hFault
      · obtain rfl : shown = frame := Option.some.inj (hShown.symm.trans hFrame)
        exact .inl hShow

/-- **Whatever has happened to an engine, a run that waits has a frame on display that it asked for,
or one that was left behind.** -/
theorem own_or_left (film : Film δ) (acts : List (Act δ)) : OwnOrLeft film acts := by
  induction acts using List.reverseRecOn with
  | nil =>
    intro hWaits
    cases hWaits
  | append_singleton acts a ih =>
    cases a with
    | push event => exact ih.concat rfl rfl rfl rfl (fun _ h => by cases h)
    | tick now => exact ih.tick now
    | sound feed samples =>
      exact ih.concat rfl rfl (Player.currentFrame_fill _ _ _) (Player.setting_fill _ _ _)
        (fun _ h => by cases h)
    | restock clips => exact ih.concat rfl rfl rfl rfl (fun _ h => by cases h)

end Engine
end BranchingMovie
