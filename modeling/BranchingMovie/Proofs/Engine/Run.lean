import BranchingMovie.Playback.AudioFeed
import BranchingMovie.Playback.Synthetic
import BranchingMovie.Proofs.Engine.Coherence

/-!
# Runs of an engine

From outside an engine is given input and ticks, sound is taken from its clips, and the clips
themselves may change from one tick to the next.  Whatever happens in whatever order, ticks that
fail included, the session stays in step with its player (`coherent_run`).  `player_in_step` spells
out what that means: the player stands still unless the run waits, and a run that waits has the
player it waits for.
-/

namespace BranchingMovie

variable {δ : Type}

/-- What can happen to an engine from outside. -/
inductive Act (δ : Type) where
  /-- Input comes in. -/
  | push (event : InputEvent)
  | tick (now : UInt64)
  /-- Sound is taken through a feed. -/
  | sound (feed : AudioFeed) (samples : List Int16)
  /-- The clips are other ones from now on. -/
  | restock (clips : ClipLibrary δ)

/-- The same film with other clips. -/
def Film.restock (film : Film δ) (clips : ClipLibrary δ) : Film δ :=
  { film with clips }

/-- A film of one script, with synthetic clips and without zones. -/
def Film.ofEntries (entries : List Entry) : Film SyntheticDecoder where
  graph := .ofScripts [.ofName "intro.nod" entries] (.ofName "intro.nod" 0)
  catalog := .empty
  config := {}
  clips := ({} : SyntheticProfile).library .ok

/-- An entry without conditions, of one frame at most. -/
def Entry.plain (opcode : Int32) (name : String) (frame offset : Int32) : Entry :=
  ⟨0, name, #v[opcode, frame, frame, 0, 0, offset, 0, 0, 0, 0, 0, 0, 0, 0, 0, 0, 0, 0, 0, 0, 0, 0,
    0, 0]⟩

/-- A clip of eleven frames; on the frames 2 to 8 its first button leads one entry further. -/
def Entry.clipWithButton : Entry :=
  ⟨0, "intro.mov", #v[1, 0, 10, 2, 8, 2, 1, 1, 0, 0, 0, 0, 0, 0, 0, 0, 0, 0, 0, 0, 0, 0, 0, 0]⟩

/-- Coherence does not ask which clips there are. -/
theorem Session.Coherent.restock {film : Film δ} {session : Session δ} (h : session.Coherent film)
    (clips : ClipLibrary δ) : session.Coherent (film.restock clips) where
  idle := h.idle
  waiting hWaits := by
    obtain ⟨entry, kind, hAt⟩ := h.waiting hWaits
    exact ⟨entry, kind, hAt.lookup, hAt.decodes, hAt.clip, hAt.serves, hAt.listens, hAt.laser⟩
  ended := h.ended

namespace Engine

variable [Decoder δ]

/-- An engine after something has happened to it. -/
def act (engine : Engine δ) : Act δ → Engine δ
  | .push event => engine.pushInput event
  | .tick now => (engine.tick now).2
  | .sound feed samples =>
    { engine with session.player := (engine.session.player.fill feed samples).2 }
  | .restock clips => { engine with film := engine.film.restock clips }

/-- An engine after a list of things has happened to it. -/
def run (engine : Engine δ) (acts : List (Act δ)) : Engine δ :=
  acts.foldl act engine

/-- Only the clips of a film ever change. -/
theorem film_act (engine : Engine δ) (a : Act δ) :
    ∃ clips, (engine.act a).film = engine.film.restock clips := by
  cases a with
  | restock clips => exact ⟨clips, rfl⟩
  | _ => exact ⟨engine.film.clips, rfl⟩

theorem film_run (engine : Engine δ) (acts : List (Act δ)) :
    ∃ clips, (engine.run acts).film = engine.film.restock clips := by
  induction acts generalizing engine with
  | nil => exact ⟨engine.film.clips, rfl⟩
  | cons a acts ih =>
    obtain ⟨clips, hFilm⟩ := engine.film_act a
    obtain ⟨later, hLater⟩ := ih (engine.act a)
    refine ⟨later, hLater.trans ?_⟩
    rw [hFilm]
    rfl

/-- Nothing that happens from outside brings the session and its player out of step. -/
theorem coherent_act {engine : Engine δ} (h : engine.session.Coherent engine.film) (a : Act δ) :
    (engine.act a).session.Coherent (engine.act a).film := by
  cases a with
  | push event => exact h
  | tick now => exact h.tick now engine.input.pending
  | sound feed samples => exact h.congr rfl rfl rfl rfl (Player.setting_fill _ _ _)
  | restock clips => exact h.restock clips

theorem coherent_run {engine : Engine δ} (h : engine.session.Coherent engine.film)
    (acts : List (Act δ)) : (engine.run acts).session.Coherent (engine.run acts).film := by
  induction acts generalizing engine with
  | nil => exact h
  | cons a acts ih => exact ih (coherent_act h a)

/-- Whatever has happened to an engine since its start, its session is coherent. -/
theorem coherent_run_ofFilm (film : Film δ) (acts : List (Act δ)) :
    ((ofFilm film).run acts).session.Coherent ((ofFilm film).run acts).film :=
  coherent_run (.start film.graph.start) acts

/-- **The session and its player stay in step.**  Between any two things that happen to an engine,
the player is stopped unless the run waits.  A run that waits stands at an entry of the graph whose
clip is in the player: at a clip it plays the frames of the entry, shifted by the sound, and at a
still frame it shows that frame.  So no run waits at a clip that is not played any more. -/
theorem player_in_step (film : Film δ) (acts : List (Act δ)) :
    let session := ((ofFilm film).run acts).session
    ((session.state = .running ∨ ∃ ending, session.state = .finished ending) →
      session.player.state = .stopped) ∧
    (session.state = .awaitingEvent → ∃ entry clip,
      film.graph.lookup session.pointer = .ok entry ∧
      session.player.clip = some clip ∧ clip.name = Asset.key entry.name ∧
      (Opcode.ofCode? entry.opcode = some .playClip ∧ session.player.state = .playing ∧
          session.player.range =
            (saturatingAdd entry.startFrame clip.info.audioFrameShift,
              saturatingAdd entry.endFrame clip.info.audioFrameShift) ∨
        Opcode.ofCode? entry.opcode = some .stillFrame ∧
          session.player.state = .singleFrame entry.startFrame)) ∧
    ∀ entry, film.graph.lookup session.pointer = .ok entry →
      Opcode.ofCode? entry.opcode = some .playClip → session.player.state = .stopped →
      session.state ≠ .awaitingEvent := by
  intro session
  have hCoherent : session.Coherent ((ofFilm film).run acts).film := coherent_run_ofFilm film acts
  obtain ⟨clips, hFilm⟩ := (ofFilm film).film_run acts
  rw [hFilm] at hCoherent
  refine ⟨fun hIdle => hCoherent.idle ?_, fun hWaits => ?_, ?_⟩
  · rcases hIdle with hState | ⟨ending, hState⟩
    · rw [hState]
      exact RunState.noConfusion
    · rw [hState]
      exact RunState.noConfusion
  · obtain ⟨entry, kind, hAt⟩ := hCoherent.waiting hWaits
    obtain ⟨clip, hClip, hName⟩ := Option.map_eq_some_iff.1 hAt.clip
    refine ⟨entry, clip, hAt.lookup, hClip, hName, ?_⟩
    have hServes := hAt.serves
    have hShift : session.player.setting.shift = clip.info.audioFrameShift := by
      rw [Player.shift_setting, Player.shift, hClip]
    cases kind with
    | playClip =>
      obtain ⟨hState, hFirst, hLast⟩ := hServes
      rw [hShift] at hFirst hLast
      exact .inl ⟨hAt.decodes, hState, Prod.ext hFirst hLast⟩
    | stillFrame => exact .inr ⟨hAt.decodes, hServes⟩
    | _ => exact hServes.elim
  · intro entry hLookup hKind hStopped hWaits
    obtain ⟨found, kind, hAt⟩ := hCoherent.waiting hWaits
    obtain rfl : found = entry := Except.ok.inj (hAt.lookup.symm.trans hLookup)
    obtain rfl : kind = .playClip := Option.some.inj (hAt.decodes.symm.trans hKind)
    obtain ⟨hState, -, -⟩ := hAt.serves
    rw [Player.setting_state, hStopped] at hState
    cases hState

/-- A run that waits at a clip, and what its player does. -/
theorem player_in_step_at_clip :
    let session := ((ofFilm (.ofEntries [.clipWithButton])).run [.tick 0]).session
    session.state = .awaitingEvent ∧ ∃ entry clip,
      (Film.ofEntries [.clipWithButton]).graph.lookup session.pointer = .ok entry ∧
      session.player.clip = some clip ∧ clip.name = Asset.key entry.name ∧
      (Opcode.ofCode? entry.opcode = some .playClip ∧ session.player.state = .playing ∧
          session.player.range =
            (saturatingAdd entry.startFrame clip.info.audioFrameShift,
              saturatingAdd entry.endFrame clip.info.audioFrameShift) ∨
        Opcode.ofCode? entry.opcode = some .stillFrame ∧
          session.player.state = .singleFrame entry.startFrame) :=
  ⟨by decide +kernel, (player_in_step _ _).2.1 (by decide +kernel)⟩

end Engine
end BranchingMovie
