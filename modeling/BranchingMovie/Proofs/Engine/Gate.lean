import BranchingMovie.Proofs.Asset.KeyLaws
import BranchingMovie.Proofs.Engine.LoadedFilm
import BranchingMovie.Proofs.Script.Respelling

/-!
# The gate

The gate is a script that is never loaded by reference and that ends a run which switches to it.
The key of a name is compared with the configured name of the gate in small letters, which is the
key of the gate only when the name is plain (`Config.HasPlainGate`).  So a gate that is configured
by a plain name is recognised in every spelling, and another one in none
(`Config.isGate_iff_hasPlainGate`).

* A plain gate is in a loaded graph only as the start script (`NodeGraph.start_of_gate`).
* No run comes to it, unless it begins there (`Engine.run_ne_gate`): no entry leads on to it
  (`Film.next?_ne_gate`), and a tick that comes to a switch to it ends the run
  (`Engine.WalksTo.tick_gate`).
* A gate that is not plain is a script like any other (`Engine.WalksTo.passes_gate`), as a film
  shows that dies there (`Engine.not_forall_gate_ends_run`).
-/

namespace BranchingMovie

variable {δ : Type} {config : Config} {name : String}

/-! ## Recognising the gate -/

namespace Config

/-- The gate is configured by a name without blanks around it and without folders. -/
def HasPlainGate (config : Config) : Prop :=
  Asset.IsPlain config.gateScript.toList

/-- A name with the key of the gate is taken for the gate when the gate is configured by a plain
name, and else it is not. -/
theorem isGate_iff_hasPlainGate (h : Asset.key name = Asset.key config.gateScript) :
    config.isGate name = true ↔ config.HasPlainGate := by
  rw [isGate_congr h, isGate, beq_iff_eq]
  exact Asset.keyChars_eq_lowerAscii_iff

/-- With a plain gate, a name that is not taken for the gate has another key. -/
theorem key_ne_of_not_isGate (h : config.HasPlainGate) (hGate : config.isGate name = false) :
    Asset.key name ≠ Asset.key config.gateScript := by
  intro hKey
  rw [(isGate_iff_hasPlainGate hKey).2 h] at hGate
  cases hGate

end Config

/-! ## Loading past the gate -/

/-- No script refers to a plain gate. -/
theorem Script.gate_not_mem_references (h : config.HasPlainGate) (script : Script) :
    Asset.key config.gateScript ∉ script.references config := by
  intro hMem
  obtain ⟨entry, -, -, hGate, hKey⟩ := Script.mem_references.1 hMem
  exact Config.key_ne_of_not_isGate h hGate hKey

namespace NodeGraph

variable {store : AssetStore} {graph : NodeGraph} {script : Script}

/-- The key of the start script, or one that is not the key of the gate. -/
structure PassesGate (config : Config) (key : String) : Prop where
  apart : key = Asset.key (Asset.key config.startScript) ∨ key ≠ Asset.key config.gateScript
  key : Asset.key key = key

theorem name_of_get?_ofScripts {scripts : List Script} {start : NodePointer} {key : String}
    (h : (ofScripts scripts start).table.get? key = some script) : script.name = key := by
  rw [get?_ofScripts] at h
  simpa using List.find?_some h

/-- A plain gate is in a loaded graph only as the start script. -/
theorem start_of_gate (h : config.HasPlainGate) (hLoad : load config store = .ok graph)
    (hGate : graph.table.get? (Asset.key config.gateScript) = some script) :
    graph.start.script = Asset.key config.gateScript := by
  obtain ⟨scripts, hSearch, hGraph⟩ := Outcome.bind_ok.1 hLoad
  have hStart : graph = ofScripts scripts
      (.ofName (Asset.key config.startScript) config.startIndex.toInt64) := by
    simp only at hGraph
    split at hGraph
    · exact (Except.ok.inj hGraph).symm
    · cases hGraph
  rw [hStart] at hGate ⊢
  have hFirst : ∀ key ∈ [Asset.key (Asset.key config.startScript)],
      PassesGate config key ∧ Asset.key key = key := by
    intro key hKey
    obtain rfl := List.mem_singleton.1 hKey
    exact ⟨⟨.inl rfl, Asset.key_key_key _⟩, Asset.key_key_key _⟩
  have hLinks : ∀ key script, PassesGate config key → Script.load store key = .ok script →
      ∀ link ∈ script.references config, PassesGate config link := by
    intro key script _ hScript link hLink
    refine ⟨.inr fun hIs => ?_, Script.key_of_mem_references hScript hLink⟩
    exact Script.gate_not_mem_references h script (hIs ▸ hLink)
  obtain ⟨key, hPasses, hScript⟩ := loadFrom_mem hFirst hLinks
    (loadFrom_key (Asset.key_key_key config.startScript) hSearch) script
    (mem_of_get?_ofScripts hGate)
  obtain ⟨entries, -, rfl, -⟩ := Script.load_ok.1 hScript
  have hKey : key = Asset.key config.gateScript := by
    rw [← name_of_get?_ofScripts hGate, Script.ofName, hPasses.key]
  obtain hIs | hApart := hPasses.apart
  · rw [← hKey, hIs]
    rfl
  · exact absurd hKey hApart

end NodeGraph

/-! ## Coming to the gate -/

variable {film : Film δ} {pointer place : NodePointer}

/-- No entry leads on to a plain gate. -/
theorem Film.next?_ne_gate (h : film.config.HasPlainGate)
    (hPointer : pointer.script ≠ Asset.key film.config.gateScript)
    (hNext : film.next? pointer = some place) :
    place.script ≠ Asset.key film.config.gateScript := by
  obtain ⟨entry, kind, -, -, hOnward⟩ := Film.next?_eq_some_iff.1 hNext
  obtain ⟨-, -, -, rfl⟩ | ⟨-, hGate, rfl⟩ := Film.onward?_eq_some_iff.1 hOnward
  · exact hPointer
  · exact Config.key_ne_of_not_isGate h hGate

namespace Session

variable [Decoder δ] {session : Session δ} {entry : Entry} {now : UInt64} {visits : Nat}

/-- A switch to a plain gate ends the run. -/
theorem visit_gate (h : film.config.HasPlainGate)
    (hLookup : film.graph.lookup session.pointer = .ok entry)
    (hKind : Opcode.ofCode? entry.opcode = some .switchScript)
    (hName : Asset.key entry.name = Asset.key film.config.gateScript) (now : UInt64) :
    session.visit film now = (.ok (), session.clear.finish .exitToMenu) := by
  rw [visit_of_lookup hLookup hKind, perform, switchScript,
    if_pos ((Config.isGate_iff_hasPlainGate hName).2 h)]

/-- A switch to a gate that is not plain leads on to it. -/
theorem visit_gate_of_not_plain (h : ¬ film.config.HasPlainGate)
    (hLookup : film.graph.lookup session.pointer = .ok entry)
    (hKind : Opcode.ofCode? entry.opcode = some .switchScript)
    (hName : Asset.key entry.name = Asset.key film.config.gateScript) (now : UInt64) :
    session.visit film now =
      (.ok (), { session.clear with
        pointer := .ofName film.config.gateScript entry.startFrame.toInt64 }) := by
  rw [visit_of_lookup hLookup hKind, perform, switchScript,
    if_neg (fun hGate => h ((Config.isGate_iff_hasPlainGate hName).1 hGate)), NodePointer.ofName,
    NodePointer.ofName, hName]

/-- No row of visits that lead on comes to a plain gate. -/
theorem Passes.ne_gate (h : film.config.HasPlainGate)
    (hPointer : session.pointer.script ≠ Asset.key film.config.gateScript)
    (hPasses : session.Passes film now visits) :
    (session.afterVisits film now visits).pointer.script ≠ Asset.key film.config.gateScript := by
  induction visits with
  | zero => exact hPointer
  | succ visits ih =>
    have hBefore := ih (hPasses.of_le (Nat.le_succ visits))
    obtain ⟨place, hNext⟩ := Film.leadsOn_iff.1 (hPasses visits (Nat.lt_succ_self visits))
    obtain ⟨surface, hVisit⟩ := visit_of_next? hNext now
    rw [afterVisits_succ, hVisit]
    exact Film.next?_ne_gate h hBefore hNext

end Session

namespace Engine

variable [Decoder δ] {engine : Engine δ}

/-- No tick comes to a plain gate. -/
theorem tick_ne_gate (h : engine.film.config.HasPlainGate)
    (hPointer : engine.session.pointer.script ≠ Asset.key engine.film.config.gateScript)
    (now : UInt64) :
    (engine.tick now).2.session.pointer.script ≠ Asset.key engine.film.config.gateScript := by
  have hSettled :
      (engine.settled now).pointer.script ≠ Asset.key engine.film.config.gateScript := by
    obtain ⟨hSame, -⟩ | ⟨-, hScript⟩ := engine.place_settled now
    · rwa [hSame]
    · rwa [hScript]
  cases engine.course now with
  | clock _ _ _ hSession =>
    rw [hSession]
    exact hSettled
  | still _ _ _ hSession =>
    rw [hSession]
    exact hSettled
  | runaway _ _ hPasses _ hSession =>
    rw [hSession]
    exact hPasses.ne_gate h hSettled
  | stop visits _ _ _ hPasses hStops _ hSession =>
    rw [hSession, Session.pointer_visit_of_not_leadsOn hStops]
    exact hPasses.ne_gate h hSettled

/-- No run comes to a plain gate, unless it begins there. -/
theorem run_ne_gate (h : engine.film.config.HasPlainGate)
    (hPointer : engine.session.pointer.script ≠ Asset.key engine.film.config.gateScript)
    (acts : List (Act δ)) :
    (engine.run acts).session.pointer.script ≠ Asset.key engine.film.config.gateScript := by
  induction acts generalizing engine with
  | nil => exact hPointer
  | cons a acts ih =>
    have hConfig : (engine.act a).film.config = engine.film.config := by
      obtain ⟨clips, hFilm⟩ := engine.film_act a
      rw [hFilm, Film.restock]
    have hAct : (engine.act a).session.pointer.script ≠
        Asset.key engine.film.config.gateScript := by
      cases a with
      | tick now => exact tick_ne_gate h hPointer now
      | _ => exact hPointer
    rw [← hConfig] at h hAct ⊢
    exact ih h hAct

/-- In the tick at a time the walk comes to the entry, after so many visits that lead on. -/
structure WalksTo (engine : Engine δ) (now : UInt64) (visits : Nat) (entry : Entry) : Prop where
  clock : ((engine.session.deliver engine.input.pending).updateFrame now).1 = .ok ()
  walks : (engine.settled now).state = .running
  limit : visits < engine.film.config.maxStepsPerTick.toNat
  passes : (engine.settled now).Passes engine.film now visits
  lookup : engine.film.graph.lookup
    ((engine.settled now).afterVisits engine.film now visits).pointer = .ok entry

variable {now : UInt64} {visits : Nat} {entry : Entry}

/-- A tick that comes to a switch to a plain gate ends the run. -/
theorem WalksTo.tick_gate (h : engine.film.config.HasPlainGate)
    (hWalks : engine.WalksTo now visits entry)
    (hKind : Opcode.ofCode? entry.opcode = some .switchScript)
    (hName : Asset.key entry.name = Asset.key engine.film.config.gateScript) :
    (engine.tick now).1 = .ok (engine.tick now).2.session.report ∧
      (engine.tick now).2.session.state = .finished .exitToMenu := by
  have hGate := (Config.isGate_iff_hasPlainGate hName).2 h
  have hStops : ¬ engine.film.LeadsOn
      ((engine.settled now).afterVisits engine.film now visits).pointer := by
    rw [Film.not_leadsOn_iff, Film.next?_of_lookup hWalks.lookup hKind]
    exact if_pos hGate
  obtain ⟨hOutcome, hSession⟩ := tick_of_clock hWalks.clock
  rw [Session.update_of_not_leadsOn hWalks.walks hWalks.limit hWalks.passes hStops,
    Session.visit_gate h hWalks.lookup hKind hName] at hOutcome hSession
  refine ⟨hOutcome, ?_⟩
  rw [hSession]
  rfl

/-- A walk that comes to a switch to a gate that is not plain goes on there. -/
theorem WalksTo.passes_gate (h : ¬ engine.film.config.HasPlainGate)
    (hWalks : engine.WalksTo now visits entry)
    (hKind : Opcode.ofCode? entry.opcode = some .switchScript)
    (hName : Asset.key entry.name = Asset.key engine.film.config.gateScript) :
    (engine.settled now).Passes engine.film now (visits + 1) ∧
      ((engine.settled now).afterVisits engine.film now (visits + 1)).pointer =
        .ofName engine.film.config.gateScript entry.startFrame.toInt64 := by
  have hGate : ¬ engine.film.config.isGate entry.name = true :=
    fun hIs => h ((Config.isGate_iff_hasPlainGate hName).1 hIs)
  constructor
  · intro i hi
    rcases Nat.lt_or_eq_of_le (Nat.le_of_lt_succ hi) with hLess | rfl
    · exact hWalks.passes i hLess
    · rw [Film.LeadsOn, Film.next?_of_lookup hWalks.lookup hKind, Film.onward?, if_neg hGate]
      rfl
  · rw [Session.afterVisits_succ, Session.visit_gate_of_not_plain h hWalks.lookup hKind hName]

/-- **The gate is recognised in every spelling or in none.**  Take any settings, and any name with
the key of the gate.

When the gate is configured by a plain name, in whatever capitals, the name is taken for it: no
script refers to it, so it is in a loaded graph only as the start script; no run of a loaded film
comes to it, unless it begins there; and every tick that comes to a switch to it ends the run.

When the gate is configured with blanks around it or with folders, the name is not taken for it: a
script that has it among its entries refers to it like to any other script, and every walk that
comes to a switch to it goes on there. -/
theorem gate_in_every_spelling_or_in_none (config : Config) (store : AssetStore)
    (clips : ClipLibrary δ) {name : String}
    (hName : Asset.key name = Asset.key config.gateScript) :
    (config.HasPlainGate →
      (∀ script : Script, Asset.key name ∉ script.references config) ∧
      (∀ graph script, NodeGraph.load config store = .ok graph →
        graph.table.get? (Asset.key name) = some script →
          graph.start.script = Asset.key name) ∧
      ∀ engine warnings, load config store clips = (.ok engine, warnings) →
        ∀ acts : List (Act δ), let reached := engine.run acts
        (engine.session.pointer.script ≠ Asset.key name →
          reached.session.pointer.script ≠ Asset.key name) ∧
        ∀ now visits entry, reached.WalksTo now visits entry →
          Opcode.ofCode? entry.opcode = some .switchScript → entry.name = name →
            (reached.tick now).1 = .ok (reached.tick now).2.session.report ∧
              (reached.tick now).2.session.state = .finished .exitToMenu) ∧
    (¬ config.HasPlainGate →
      (∀ (script : Script) (entry : Entry), entry ∈ script.entries → entry.name = name →
        config.isScriptName name = true → Asset.key name ∈ script.references config) ∧
      ∀ engine warnings, load config store clips = (.ok engine, warnings) →
        ∀ acts : List (Act δ), let reached := engine.run acts
        ∀ now visits entry, reached.WalksTo now visits entry →
          Opcode.ofCode? entry.opcode = some .switchScript → entry.name = name →
            (reached.settled now).Passes reached.film now (visits + 1) ∧
              ((reached.settled now).afterVisits reached.film now (visits + 1)).pointer =
                .ofName name entry.startFrame.toInt64) := by
  have hReached : ∀ (engine : Engine δ) (warnings : List String),
      load config store clips = (.ok engine, warnings) → ∀ acts : List (Act δ),
        engine.film.config = config ∧ (engine.run acts).film.config = config := by
    intro engine warnings hLoad acts
    obtain ⟨hConfig, -⟩ := isClosed_of_load hLoad
    obtain ⟨clips, hFilm⟩ := engine.film_run acts
    rw [hFilm]
    exact ⟨hConfig, hConfig⟩
  constructor
  · intro hPlain
    rw [hName]
    refine ⟨Script.gate_not_mem_references hPlain,
      fun graph script hLoad hGate => NodeGraph.start_of_gate hPlain hLoad hGate, ?_⟩
    intro engine warnings hLoad acts reached
    obtain ⟨hConfig, hAfter⟩ := hReached engine warnings hLoad acts
    constructor
    · intro hStart
      rw [← hConfig] at hPlain hStart ⊢
      exact run_ne_gate hPlain hStart acts
    · intro now visits entry hWalks hKind hEntry
      rw [← hAfter] at hPlain hName
      exact hWalks.tick_gate hPlain hKind (hEntry ▸ hName)
  · intro hFancy
    refine ⟨fun script entry hEntry hIs hScript => ?_, ?_⟩
    · have hGate : config.isGate name = false :=
        Bool.eq_false_iff.2 fun hIs => hFancy ((Config.isGate_iff_hasPlainGate hName).1 hIs)
      exact Script.mem_references.2 ⟨entry, hEntry, hIs ▸ hScript, hIs ▸ hGate, by rw [hIs]⟩
    · intro engine warnings hLoad acts reached now visits entry hWalks hKind hEntry
      obtain ⟨-, hAfter⟩ := hReached engine warnings hLoad acts
      rw [← hAfter] at hFancy hName
      obtain ⟨hPasses, hPointer⟩ := hWalks.passes_gate hFancy hKind (hEntry ▸ hName)
      refine ⟨hPasses, hPointer.trans ?_⟩
      rw [NodePointer.ofName, NodePointer.ofName, hName]

section Example

/-- A folder with two scripts: the first one switches to the second one, where the run dies. -/
def deathAtGate : AssetStore where
  data := ⟨[("a.nod", "film/a.nod"), ("gate.nod", "film/gate.nod")]⟩
  read path :=
    if path = "film/a.nod" then
      .ok (Text.Utf8.encode "0 gate.nod 4 0 0 0 0 0 0 0 0 0 0 0 0 0 0 0 0 0 0 0 0 0 0 0".toList)
    else if path = "film/gate.nod" then
      .ok (Text.Utf8.encode "0 death 5 0 0 0 0 0 0 0 0 0 0 0 0 0 0 0 0 0 0 0 0 0 0 0".toList)
    else .error .notFound

/-- The first script in it. -/
def toGate : Script :=
  ⟨"a.nod", [.plain 4 "gate.nod" 0 0]⟩

/-- The second one. -/
def atGate : Script :=
  ⟨"gate.nod", [.plain 5 "death" 0 0]⟩

/-- The gate by its plain name, in capitals. -/
def plainGate : Config :=
  { startScript := "a.nod", gateScript := "GATE.NOD" }

/-- The gate with a folder in front. -/
def gateInFolder : Config :=
  { startScript := "a.nod", gateScript := "scripts/gate.nod" }

/-- The film that is loaded when the scripts were found. -/
def gateFilm (config : Config) (scripts : List Script) : Film SyntheticDecoder where
  graph := .ofScripts scripts ⟨"a.nod", 0⟩
  catalog := .empty
  config := config
  clips := ({} : SyntheticProfile).library .ok

theorem key_toGate : Asset.key "a.nod" = "a.nod" := by
  decide

theorem load_toGate : Script.load deathAtGate "a.nod" = .ok toGate :=
  Outcome.toOption_eq_some.1 (by decide +kernel)

theorem load_atGate : Script.load deathAtGate "gate.nod" = .ok atGate :=
  Outcome.toOption_eq_some.1 (by decide +kernel)

theorem search_plainGate :
    NodeGraph.loadFrom plainGate deathAtGate ["a.nod", "gate.nod"] ["a.nod"] = .ok [toGate] := by
  have hLinks : toGate.references plainGate = [] := by decide
  exact NodeGraph.loadFrom_of_no_links key_toGate rfl List.mem_cons_self load_toGate hLinks

theorem search_gateInFolder :
    NodeGraph.loadFrom gateInFolder deathAtGate ["a.nod", "gate.nod"] ["a.nod"] =
      .ok [toGate, atGate] := by
  have hGate : Asset.key "gate.nod" = "gate.nod" := by decide
  have hLinks : toGate.references gateInFolder = ["gate.nod"] := by decide
  have hNone : atGate.references gateInFolder = [] := by decide
  rw [NodeGraph.loadFrom_of_unvisited key_toGate rfl List.mem_cons_self, load_toGate]
  refine Outcome.bind_ok.2 ⟨toGate, rfl, Outcome.bind_ok.2 ⟨[atGate], ?_, rfl⟩⟩
  rw [hLinks, List.nil_append,
    NodeGraph.loadFrom_of_unvisited hGate rfl (by decide), load_atGate]
  refine Outcome.bind_ok.2 ⟨atGate, rfl, Outcome.bind_ok.2 ⟨[], ?_, rfl⟩⟩
  rw [hNone, List.append_nil, NodeGraph.loadFrom]

/-- Whether the second script is found or not, the first one begins with the switch. -/
theorem lookup_toGate : ∀ scripts ∈ [[toGate], [toGate, atGate]],
    (NodeGraph.ofScripts scripts ⟨"a.nod", 0⟩).lookup ⟨"a.nod", 0⟩ =
      .ok (.plain 4 "gate.nod" 0 0) := by
  have hFound : ∀ scripts ∈ [[toGate], [toGate, atGate]],
      ((NodeGraph.ofScripts scripts ⟨"a.nod", 0⟩).lookup ⟨"a.nod", 0⟩).toOption =
        some (.plain 4 "gate.nod" 0 0) := by decide +kernel
  exact fun scripts hScripts => Outcome.toOption_eq_some.1 (hFound scripts hScripts)

/-- What a search of the folder finds makes a film, when it begins with an entry and has no click
maps. -/
theorem load_deathAtGate {config : Config} {scripts : List Script} {entry : Entry}
    (hStart : Asset.key config.startScript = "a.nod") (hIndex : config.startIndex.toInt64 = 0)
    (hSearch : NodeGraph.loadFrom config deathAtGate ["a.nod", "gate.nod"] ["a.nod"] =
      .ok scripts)
    (hLookup : (NodeGraph.ofScripts scripts ⟨"a.nod", 0⟩).lookup ⟨"a.nod", 0⟩ = .ok entry)
    (hMaps : HotZoneCatalog.load config deathAtGate (gateFilm config scripts).graph =
      (.ok .empty, [])) :
    load config deathAtGate (({} : SyntheticProfile).library .ok) =
      (.ok (ofFilm (gateFilm config scripts)), []) := by
  have hGraph : NodeGraph.load config deathAtGate = .ok (gateFilm config scripts).graph :=
    NodeGraph.load_of_loadFrom hStart hIndex key_toGate hSearch hLookup
  rw [load, hGraph]
  simp only [hMaps]
  rfl

theorem load_plainGate :
    load plainGate deathAtGate (({} : SyntheticProfile).library .ok) =
      (.ok (ofFilm (gateFilm plainGate [toGate])), []) :=
  load_deathAtGate key_toGate rfl search_plainGate (lookup_toGate _ (by simp)) rfl

theorem load_gateInFolder :
    load gateInFolder deathAtGate (({} : SyntheticProfile).library .ok) =
      (.ok (ofFilm (gateFilm gateInFolder [toGate, atGate])), []) :=
  load_deathAtGate key_toGate rfl search_gateInFolder (lookup_toGate _ (by simp)) rfl

/-- The first tick comes to the switch at once. -/
theorem walksTo_gate {config : Config} {scripts : List Script}
    (hLimit : 0 < config.maxStepsPerTick.toNat)
    (hLookup : (NodeGraph.ofScripts scripts ⟨"a.nod", 0⟩).lookup ⟨"a.nod", 0⟩ =
      .ok (.plain 4 "gate.nod" 0 0)) :
    (ofFilm (gateFilm config scripts)).WalksTo 0 0 (.plain 4 "gate.nod" 0 0) where
  clock := rfl
  walks := rfl
  limit := hLimit
  passes := fun _ hi => absurd hi (Nat.not_lt_zero _)
  lookup := hLookup

/-- By its plain name the gate is recognised: the second script is not loaded, and the first tick
ends the run. -/
theorem gate_in_every_spelling_or_in_none_of_plain_gate :
    Asset.key "gate.nod" = Asset.key plainGate.gateScript ∧
      Asset.key "gate.nod" ∉ toGate.references plainGate ∧
      ((ofFilm (gateFilm plainGate [toGate])).tick 0).2.session.state = .finished .exitToMenu := by
  have hName : Asset.key "gate.nod" = Asset.key plainGate.gateScript := by decide +kernel
  have hPlain : plainGate.HasPlainGate := Asset.keyChars_eq_lowerAscii_iff.1 (by decide +kernel)
  obtain ⟨hReferences, -, hRuns⟩ := (gate_in_every_spelling_or_in_none plainGate deathAtGate
    (({} : SyntheticProfile).library .ok) hName).1 hPlain
  obtain ⟨-, hTicks⟩ := hRuns _ [] load_plainGate []
  exact ⟨hName, hReferences toGate,
    (hTicks 0 0 _ (walksTo_gate (by decide) (lookup_toGate _ (by simp))) rfl rfl).2⟩

/-- With a folder in front of its name it is not: the second script is loaded, and the first tick
comes to the death in it. -/
theorem not_forall_gate_ends_run :
    ¬ ∀ (config : Config) (store : AssetStore) (clips : ClipLibrary SyntheticDecoder)
        (engine : Engine SyntheticDecoder) (warnings : List String) (now : UInt64) (visits : Nat)
        (entry : Entry),
      load config store clips = (.ok engine, warnings) → engine.WalksTo now visits entry →
      Opcode.ofCode? entry.opcode = some .switchScript →
      Asset.key entry.name = Asset.key config.gateScript →
      (engine.film.graph.start.script ≠ Asset.key config.gateScript →
        engine.film.graph.table.get? (Asset.key config.gateScript) = none) ∧
      (engine.tick now).2.session.state = .finished .exitToMenu := by
  intro hAll
  obtain ⟨-, hEnds⟩ := hAll gateInFolder deathAtGate _ _ [] 0 0 (.plain 4 "gate.nod" 0 0)
    load_gateInFolder (walksTo_gate (by decide) (lookup_toGate _ (by simp))) rfl (by decide +kernel)
  exact absurd hEnds (by decide +kernel)

end Example

end Engine
end BranchingMovie
