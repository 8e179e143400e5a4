import BranchingMovie.Proofs.Engine.Run
import BranchingMovie.Proofs.Graph.Respelling

/-!
# Runs in another spelling

A film does not depend on how its scripts spell names.  With another graph in which every name has
the same key (`NodeGraph.keyed`), a run does the same: each tick leaves the same session
(`Session.tick_respelled`), and a tick that fails does so for the same reason, except that the clip
in question may be named in another way (`EngineError.keyed`).
-/

namespace BranchingMovie

open Outcome

/-! ## Faults with keys for names -/

/-- The fault with the key of the clip in the place of its name. -/
def PlaybackError.keyed : PlaybackError → PlaybackError
  | missing clip cause => missing (Asset.key clip) ⟨Asset.key cause.name⟩
  | notOpened clip cause => notOpened (Asset.key clip) cause
  | noVideoTrack clip => noVideoTrack (Asset.key clip)
  | unsupportedVideo clip => unsupportedVideo (Asset.key clip)
  | unsupportedAudio clip => unsupportedAudio (Asset.key clip)
  | invalidTiming clip timeScale frameDuration =>
    invalidTiming (Asset.key clip) timeScale frameDuration
  | notDecoded clip frame cause => notDecoded (Asset.key clip) frame cause
  | noSamples cause => noSamples cause
  | decoderPoisoned => decoderPoisoned

/-- The fault with the key of a clip in the place of its name, if it names one. -/
def EngineError.keyed : EngineError → EngineError
  | playback fault => playback fault.keyed
  | fault => fault

/-! ## The player -/

variable {δ : Type}

/-- Clips are found by the keys of their names, and a name that is not found is told as it is. -/
def ClipLibrary.IsLoose (library : ClipLibrary δ) : Prop :=
  ∀ name other, Asset.key other = Asset.key name →
    (∃ path, library.locate name = .ok path ∧ library.locate other = .ok path) ∨
      library.locate name = .error ⟨name⟩ ∧ library.locate other = .error ⟨other⟩

/-- A folder finds its files by their keys. -/
theorem DataDir.isLoose_locate (data : DataDir) (openClip : String → Except String δ) :
    (ClipLibrary.mk data.locate openClip).IsLoose := by
  intro name other hKey
  simp only [locate, hKey]
  cases pathOf (Asset.key name) data.files with
  | none => exact .inr ⟨rfl, rfl⟩
  | some path => exact .inl ⟨path, rfl, rfl⟩

namespace Player

variable {library : ClipLibrary δ} {name other : String}

/-- The check of a clip does not look at its name. -/
theorem checkInfo_keyed (name : String) (info : ClipInfo) :
    (checkInfo name info).mapError PlaybackError.keyed = checkInfo (Asset.key name) info := by
  unfold checkInfo
  split
  · rfl
  · split
    · rfl
    · split
      · rfl
      · split
        · rfl
        · rfl

variable [Decoder δ]

/-- The clip that is loaded is the same one. -/
theorem load_respelled (hLoose : library.IsLoose) (hKey : Asset.key other = Asset.key name)
    (player : Player δ) :
    Agree PlaybackError.keyed (player.load library name) (player.load library other) := by
  have hLoaded : player.hasLoaded other = player.hasLoaded name := by
    rw [hasLoaded, hasLoaded, hKey]
  unfold load
  rw [hLoaded]
  by_cases hIn : player.hasLoaded name = true
  · rw [if_pos hIn, if_pos hIn]
    exact .refl _ _
  · rw [if_neg hIn, if_neg hIn]
    obtain ⟨path, hName, hOther⟩ | ⟨hName, hOther⟩ := hLoose name other hKey
    · rw [hName, hOther]
      simp only
      cases library.openClip path with
      | error cause =>
        have hSame : (PlaybackError.notOpened other cause).keyed =
            (PlaybackError.notOpened name cause).keyed := by
          simp only [PlaybackError.keyed, hKey]
        exact .error hSame _
      | ok decoder =>
        have hInfo : (checkInfo other (Decoder.info decoder)).mapError PlaybackError.keyed =
            (checkInfo name (Decoder.info decoder)).mapError PlaybackError.keyed := by
          rw [checkInfo_keyed, checkInfo_keyed, hKey]
        obtain ⟨_, hSecond, hFirst⟩ | ⟨cause, fault, hSecond, hFirst, hSame⟩ :=
          mapError_eq_mapError hInfo
        · simp only [hFirst, hSecond, hKey]
          exact .refl _ _
        · simp only [hFirst, hSecond]
          exact .error hSame _
    · rw [hName, hOther]
      have hSame : (PlaybackError.missing other ⟨other⟩).keyed =
          (PlaybackError.missing name ⟨name⟩).keyed := by
        simp only [PlaybackError.keyed, hKey]
      exact .error hSame _

theorem play_respelled (hLoose : library.IsLoose) (hKey : Asset.key other = Asset.key name)
    (player : Player δ) (first last : Int32) (now : UInt64) :
    Agree PlaybackError.keyed (player.play library name first last now)
      (player.play library other first last now) := by
  unfold play
  obtain ⟨_, loaded, hName, hOther⟩ | ⟨fault, cause, loaded, hName, hOther, hSame⟩ :=
    (load_respelled hLoose hKey player).cases
  · rw [hName, hOther]
    exact .refl _ _
  · rw [hName, hOther]
    exact .error hSame _

theorem playSingleFrame_respelled (hLoose : library.IsLoose)
    (hKey : Asset.key other = Asset.key name) (player : Player δ) (frame : Int32) :
    Agree PlaybackError.keyed (player.playSingleFrame library name frame)
      (player.playSingleFrame library other frame) := by
  unfold playSingleFrame
  obtain ⟨_, loaded, hName, hOther⟩ | ⟨fault, cause, loaded, hName, hOther, hSame⟩ :=
    (load_respelled hLoose hKey player).cases
  · rw [hName, hOther]
    exact .refl _ _
  · rw [hName, hOther]
    exact .error hSame _

end Player

/-! ## Sessions -/

/-- The same film with another graph. -/
def Film.withGraph (film : Film δ) (graph : NodeGraph) : Film δ :=
  { film with graph }

namespace Session

variable {film : Film δ} {graph : NodeGraph} {entry : Entry} {name : String}

/-- A run waits for players that agree, or fails with them. -/
theorem await_respelled {outcome other : Except PlaybackError Unit × Player δ}
    (h : Agree PlaybackError.keyed outcome other) (session : Session δ) :
    Agree EngineError.keyed (session.await outcome) (session.await other) := by
  obtain ⟨_, player, rfl, rfl⟩ | ⟨fault, cause, player, rfl, rfl, hSame⟩ := h.cases
  · exact .refl _ _
  · have hFault : (EngineError.playback cause).keyed = (EngineError.playback fault).keyed :=
      congrArg EngineError.playback hSame
    exact .error hFault _

/-- The click map of a clip is found by its key. -/
theorem openZones_respelled (hKey : Asset.key name = Asset.key entry.name) (film : Film δ)
    (session : Session δ) :
    session.openZones film { entry with name } = session.openZones film entry := by
  have hZones : film.catalog.get? name = film.catalog.get? entry.name := by
    rw [HotZoneCatalog.get?, hKey, HotZoneCatalog.get?]
  unfold openZones
  rw [hZones]
  rfl

/-- The gate and the next script are told by their keys. -/
theorem switchScript_respelled (hKey : Asset.key name = Asset.key entry.name) (film : Film δ)
    (session : Session δ) :
    session.switchScript film { entry with name } = session.switchScript film entry := by
  have hGate : film.config.isGate name = film.config.isGate entry.name :=
    Config.isGate_congr hKey
  unfold switchScript
  rw [hGate, NodePointer.ofName, hKey, NodePointer.ofName]
  rfl

variable [Decoder δ]

theorem enterPlayClip_respelled (hLoose : film.clips.IsLoose)
    (hKey : Asset.key name = Asset.key entry.name) (now : UInt64) (session : Session δ) :
    Agree EngineError.keyed (session.enterPlayClip film now entry)
      (session.enterPlayClip film now { entry with name }) := by
  have hControls : ({ entry with name } : Entry).controls session.pointer.script =
      entry.controls session.pointer.script := rfl
  unfold enterPlayClip
  rw [hControls]
  cases entry.controls session.pointer.script with
  | error fault => exact .refl _ _
  | ok controls => exact await_respelled (Player.play_respelled hLoose hKey _ _ _ _) _

theorem enterStillFrame_respelled (hLoose : film.clips.IsLoose)
    (hKey : Asset.key name = Asset.key entry.name) (session : Session δ) :
    Agree EngineError.keyed (session.enterStillFrame film entry)
      (session.enterStillFrame film { entry with name }) := by
  have hControls : ({ entry with name } : Entry).controls session.pointer.script =
      entry.controls session.pointer.script := rfl
  unfold enterStillFrame
  rw [hControls]
  cases entry.controls session.pointer.script with
  | error fault => exact .refl _ _
  | ok controls =>
    simp only [openZones_respelled hKey]
    exact await_respelled (Player.playSingleFrame_respelled hLoose hKey _ _) _

/-- An entry is done in the same way, however its name is spelled. -/
theorem perform_respelled (hLoose : film.clips.IsLoose)
    (hKey : Asset.key name = Asset.key entry.name) (now : UInt64) (session : Session δ)
    (opcode : Opcode) :
    Agree EngineError.keyed (session.perform film now entry opcode)
      (session.perform film now { entry with name } opcode) := by
  cases opcode with
  | playClip => exact enterPlayClip_respelled hLoose hKey now session
  | stillFrame => exact enterStillFrame_respelled hLoose hKey session
  | switchScript =>
    rw [perform, perform, switchScript_respelled hKey]
    exact .refl _ _
  | _ => exact .refl _ _

/-- What is done with an entry does not depend on the graph it is in. -/
theorem perform_withGraph (film : Film δ) (graph : NodeGraph) (now : UInt64) (session : Session δ)
    (entry : Entry) (opcode : Opcode) :
    session.perform (film.withGraph graph) now entry opcode =
      session.perform film now entry opcode := by
  cases opcode with
  | _ => rfl

theorem visit_respelled (hLoose : film.clips.IsLoose) (hGraph : graph.keyed = film.graph.keyed)
    (now : UInt64) (session : Session δ) :
    Agree EngineError.keyed (session.visit film now)
      (session.visit (film.withGraph graph) now) := by
  have hEntry : (graph.lookup session.clear.pointer).map Entry.keyed =
      (film.graph.lookup session.clear.pointer).map Entry.keyed := by
    rw [← NodeGraph.lookup_keyed, hGraph, NodeGraph.lookup_keyed]
  have hSame : (film.withGraph graph).graph.lookup session.clear.pointer =
      graph.lookup session.clear.pointer := rfl
  unfold visit
  simp only [hSame]
  obtain ⟨fault, hOther, hStore⟩ | ⟨other, entry, hOther, hStore, hKeyed⟩ := map_eq_map hEntry
  · simp only [hOther, hStore]
    exact .refl _ _
  · obtain ⟨index, name, fields⟩ := other
    obtain ⟨rfl, hKey, rfl⟩ := Entry.keyed_eq_iff.1 hKeyed
    have hOpcode : (⟨entry.index, name, entry.fields⟩ : Entry).opcode = entry.opcode := rfl
    simp only [hOther, hStore, hOpcode]
    cases Opcode.ofCode? entry.opcode with
    | none => exact .refl _ _
    | some opcode =>
      simp only [perform_withGraph]
      exact perform_respelled hLoose hKey now session.clear opcode

theorem walk_respelled (hLoose : film.clips.IsLoose) (hGraph : graph.keyed = film.graph.keyed)
    (now : UInt64) (limit remaining : Nat) (session : Session δ) :
    Agree EngineError.keyed (session.walk film now limit remaining)
      (session.walk (film.withGraph graph) now limit remaining) := by
  induction remaining generalizing session with
  | zero => exact .refl _ _
  | succ remaining ih =>
    unfold walk
    by_cases hState : session.state = .running
    · rw [if_pos hState, if_pos hState]
      obtain ⟨_, visited, hVisit, hOther⟩ | ⟨fault, cause, visited, hVisit, hOther, hSame⟩ :=
        (visit_respelled hLoose hGraph now session).cases
      · rw [hVisit, hOther]
        exact ih visited
      · rw [hVisit, hOther]
        exact .error hSame _
    · rw [if_neg hState, if_neg hState]
      exact .refl _ _

/-- **One tick in two spellings.**  The sessions after it are the same. -/
theorem tick_respelled (hLoose : film.clips.IsLoose) (hGraph : graph.keyed = film.graph.keyed)
    (now : UInt64) (session : Session δ) (events : List InputEvent) :
    Agree EngineError.keyed (session.tick film now events)
      (session.tick (film.withGraph graph) now events) := by
  unfold tick
  cases (session.deliver events).updateFrame now with
  | mk outcome shown =>
    cases outcome with
    | error fault => exact .refl _ _
    | ok _ =>
      obtain ⟨_, walked, hWalk, hOther⟩ | ⟨fault, cause, walked, hWalk, hOther, hSame⟩ :=
        (walk_respelled hLoose hGraph now film.config.maxStepsPerTick.toNat
          film.config.maxStepsPerTick.toNat shown).cases
      · have hUpdate : shown.update film now = (.ok (), walked) := hWalk
        have hLater : shown.update (film.withGraph graph) now = (.ok (), walked) := hOther
        simp only [hUpdate, hLater]
        exact .refl _ _
      · have hUpdate : shown.update film now = (.error fault, walked) := hWalk
        have hLater : shown.update (film.withGraph graph) now = (.error cause, walked) := hOther
        simp only [hUpdate, hLater]
        exact .error hSame _

end Session

/-! ## Engines -/

namespace Engine

/-- The same engine with another graph in its film. -/
def withGraph (engine : Engine δ) (graph : NodeGraph) : Engine δ :=
  { engine with film := engine.film.withGraph graph }

/-- The graph is that of the engine in another spelling, and clips are found in every spelling. -/
structure Respells (engine : Engine δ) (graph : NodeGraph) : Prop where
  clips : engine.film.clips.IsLoose
  keyed : graph.keyed = engine.film.graph.keyed

variable [Decoder δ] {engine : Engine δ} {graph : NodeGraph}

/-- A tick leaves engines that are the same but for their graphs. -/
theorem Respells.tick (h : engine.Respells graph) (now : UInt64) :
    ((engine.withGraph graph).tick now).1.mapError EngineError.keyed =
        (engine.tick now).1.mapError EngineError.keyed ∧
      ((engine.withGraph graph).tick now).2 = (engine.tick now).2.withGraph graph := by
  obtain ⟨hOutcome, hSession⟩ :=
    Session.tick_respelled h.clips h.keyed now engine.session engine.input.pending
  refine ⟨hOutcome, ?_⟩
  exact congrArg (fun session =>
    Engine.mk (engine.film.withGraph graph) session engine.input.drain.2) hSession

/-- One act, and the clips that it brings in are found in every spelling as well. -/
theorem Respells.act (h : engine.Respells graph) (a : Act δ)
    (hClips : ∀ clips, a = .restock clips → clips.IsLoose) :
    (engine.act a).Respells graph ∧
      (engine.withGraph graph).act a = (engine.act a).withGraph graph := by
  cases a with
  | tick now => exact ⟨⟨h.clips, h.keyed⟩, (h.tick now).2⟩
  | restock clips => exact ⟨⟨hClips clips rfl, h.keyed⟩, rfl⟩
  | _ => exact ⟨⟨h.clips, h.keyed⟩, rfl⟩

/-- **A run in two spellings.**  The engines stay the same but for their graphs. -/
theorem Respells.run (h : engine.Respells graph) (acts : List (Act δ))
    (hClips : ∀ clips, .restock clips ∈ acts → clips.IsLoose) :
    (engine.run acts).Respells graph ∧
      (engine.withGraph graph).run acts = (engine.run acts).withGraph graph := by
  induction acts generalizing engine with
  | nil => exact ⟨h, rfl⟩
  | cons a acts ih =>
    obtain ⟨hAct, hSame⟩ := h.act a fun clips hRestock =>
      hClips clips (hRestock ▸ List.mem_cons_self)
    have hRest := ih hAct fun clips hMem => hClips clips (List.mem_cons_of_mem a hMem)
    rw [← hSame] at hRest
    exact hRest

/-! ## Loading -/

omit [Decoder δ] in
/-- **A film is loaded alike in every spelling.**  The warnings are the same ones, and both films
are refused for one reason, or they are the same but for their graphs. -/
theorem load_respelled {config : Config} {store other : AssetStore} (h : store.Respells other)
    (hSuffix : ∀ c ∈ config.scriptSuffix.toList, Asset.isSeparator c = false)
    (hMaps : ∀ graph, NodeGraph.load config store = .ok graph →
      store.KeepsClickMaps config other graph.stillFrames)
    (openClip : String → Except String δ) :
    (load config other ⟨other.data.locate, openClip⟩).2 =
        (load config store ⟨store.data.locate, openClip⟩).2 ∧
      ((∃ fault, (load config store ⟨store.data.locate, openClip⟩).1 = .error fault ∧
          (load config other ⟨other.data.locate, openClip⟩).1 = .error fault) ∨
        ∃ engine graph, (load config store ⟨store.data.locate, openClip⟩).1 = .ok engine ∧
          (load config other ⟨other.data.locate, openClip⟩).1 = .ok (engine.withGraph graph) ∧
          engine.Respells graph) := by
  rw [h.data]
  obtain ⟨fault, hOther, hStore⟩ | ⟨respelled, graph, hOther, hStore, hKeyed⟩ :=
    map_eq_map (NodeGraph.load_respelled h hSuffix)
  · rw [load, load, hOther, hStore]
    exact ⟨rfl, .inl ⟨fault, rfl, rfl⟩⟩
  · have hCatalog := HotZoneCatalog.load_respelled h hKeyed (hMaps graph hStore)
    rw [load, load, hOther, hStore]
    simp only [hCatalog]
    refine ⟨trivial, ?_⟩
    cases hLoaded : (HotZoneCatalog.load config store graph).1 with
    | error fault => exact .inl ⟨fault, rfl, rfl⟩
    | ok catalog =>
      have hStart : respelled.start = graph.start := by
        rw [← NodeGraph.start_keyed, hKeyed, NodeGraph.start_keyed]
      refine .inr ⟨_, respelled, rfl, ?_, store.data.isLoose_locate openClip, hKeyed⟩
      -- both runs begin at the same entry
      simp only [Except.map, ofFilm, withGraph, Film.withGraph, hStart]

end Engine
end BranchingMovie
