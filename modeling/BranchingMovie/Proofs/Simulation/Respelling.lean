import BranchingMovie.Proofs.Engine.Respelling
import BranchingMovie.Proofs.Graph.Loading
import BranchingMovie.Proofs.Simulation.Plan

/-!
# Films in another spelling, from the folder to the transcript

Two films whose graphs differ in the spelling of names have the same rounds in a simulated run, so
the transcripts are the same, or both runs fail in the same round for the same reason, or the same
overflow stops both (`Plan.result_respelled`).  With what is known of loading,
`same_film_in_every_spelling` goes all the way from two folders to two transcripts.  The exception
is a script that is read as a click map too: `not_forall_click_maps_alike` has one that is a click
map in one spelling only.
-/

namespace BranchingMovie

open Outcome

namespace Simulation

variable {δ : Type} [Decoder δ]

namespace Plan

/-- The same plan for a film with another graph. -/
def withGraph (plan : Plan δ) (graph : NodeGraph) : Plan δ :=
  { plan with engine := plan.engine.withGraph graph }

section Times

variable (plan : Plan δ) (graph : NodeGraph)

omit [Decoder δ]

@[simp] theorem time_withGraph (k : Nat) : (plan.withGraph graph).time k = plan.time k := rfl

@[simp] theorem length_withGraph : (plan.withGraph graph).length = plan.length := rfl

@[simp] theorem durationMs_withGraph :
    (plan.withGraph graph).durationMs = plan.durationMs := rfl

end Times

variable {plan : Plan δ} {graph : NodeGraph}

omit [Decoder δ] in
/-- The clips are the same ones throughout. -/
theorem restock_not_mem_round (plan : Plan δ) (k : Nat) (clips : ClipLibrary δ) :
    .restock clips ∉ plan.pushes k ∧ .restock clips ∉ plan.round k := by
  have hPushes : .restock clips ∉ plan.pushes k := by
    intro hMem
    obtain ⟨input, -, hInput⟩ := List.mem_map.1 hMem
    cases hInput
  refine ⟨hPushes, fun hMem => ?_⟩
  obtain hPush | hTick := List.mem_append.1 hMem
  · exact hPushes hPush
  · cases List.mem_singleton.1 hTick

/-- The engines in front of a round are the same but for their graphs. -/
theorem before_respelled (h : plan.engine.Respells graph) (n : Nat) :
    (plan.before n).Respells graph ∧
      (plan.withGraph graph).before n = (plan.before n).withGraph graph := by
  refine h.run (plan.acts n) fun clips hMem => ?_
  obtain ⟨k, -, hRound⟩ := List.mem_flatMap.1 hMem
  exact absurd hRound (plan.restock_not_mem_round k clips).2

/-- A tick comes to the same, but for the spelling of a clip in a fault. -/
theorem outcome_respelled (h : plan.engine.Respells graph) (k : Nat) :
    ((plan.withGraph graph).outcome k).mapError EngineError.keyed =
      (plan.outcome k).mapError EngineError.keyed := by
  obtain ⟨hBefore, hSame⟩ := before_respelled h k
  obtain ⟨hPushed, hPushes⟩ := hBefore.run (plan.pushes k) fun clips hMem =>
    absurd hMem (plan.restock_not_mem_round k clips).1
  have hTick := (hPushed.tick (plan.time k)).1
  rw [← hPushes, ← hSame] at hTick
  exact hTick

/-- A tick of the one film gives a report when that of the other does. -/
theorem outcome_ok_respelled (h : plan.engine.Respells graph) {k : Nat} {report : TickReport} :
    (plan.withGraph graph).outcome k = .ok report ↔ plan.outcome k = .ok report := by
  have hSame := outcome_respelled h k
  constructor
  · intro hOther
    rw [hOther] at hSame
    exact mapError_ok.1 hSame.symm
  · intro hOwn
    rw [hOwn] at hSame
    exact mapError_ok.1 hSame

theorem overflow?_respelled (h : plan.engine.Respells graph) (k : Nat) :
    (plan.withGraph graph).overflow? k = plan.overflow? k := by
  rw [overflow?, (before_respelled h (k + 1)).2]
  rfl

theorem leadsOn_respelled (h : plan.engine.Respells graph) (k : Nat) :
    (plan.withGraph graph).LeadsOn k ↔ plan.LeadsOn k := by
  unfold LeadsOn
  simp only [overflow?_respelled h, outcome_ok_respelled h]
  exact Iff.rfl

theorem seen_respelled (h : plan.engine.Respells graph) (k : Nat) :
    (plan.withGraph graph).seen k = plan.seen k := by
  cases k with
  | zero => rfl
  | succ k =>
    obtain ⟨report, hOther, hOwn⟩ | ⟨cause, fault, hOther, hOwn, -⟩ :=
      mapError_eq_mapError (outcome_respelled h k)
    · rw [seen, seen, hOther, hOwn]
    · rw [seen, seen, hOther, hOwn]

theorem lines_respelled (h : plan.engine.Respells graph) (n : Nat) :
    (plan.withGraph graph).lines n = plan.lines n := by
  refine List.flatMap_congr fun k _ => congrArg (plan.inputLines k ++ ·) ?_
  unfold nodeLine
  rw [seen_respelled h]
  obtain ⟨report, hOther, hOwn⟩ | ⟨cause, fault, hOther, hOwn, -⟩ :=
    mapError_eq_mapError (outcome_respelled h k)
  · rw [hOther, hOwn]
    rfl
  · rw [hOther, hOwn]

/-- **A simulated run in two spellings** gives the same transcript, or fails in the same round for
the same reason, or is stopped by the same overflow. -/
theorem result_respelled (h : plan.engine.Respells graph) :
    ((plan.withGraph graph).result.map fun run => run.1.mapError EngineError.keyed) =
      plan.result.map fun run => run.1.mapError EngineError.keyed := by
  obtain ⟨n, hLeads, hCourse⟩ := plan.course
  have hResult : (plan.withGraph graph).result = (plan.withGraph graph).resultFrom n :=
    result_eq_resultFrom fun k hk => (leadsOn_respelled h k).2 (hLeads k hk)
  have hUnfinished {report : TickReport} (hNone : plan.overflow? n = none)
      (hOutcome : plan.outcome n = .ok report) :=
    resultFrom_of_unfinished ((overflow?_respelled h n).trans hNone)
      ((outcome_ok_respelled h).2 hOutcome)
  cases hCourse with
  | stopped overflow hOverflow hOwn =>
    rw [resultFrom_eq, overflow?_respelled h, hOverflow] at hResult
    rw [hResult, hOwn]
  | failed fault hNone hOutcome hOwn =>
    obtain ⟨report, -, hReport⟩ | ⟨cause, own, hOther, hFault, hSame⟩ :=
      mapError_eq_mapError (outcome_respelled h n)
    · cases hReport.symm.trans hOutcome
    · obtain rfl : own = fault := Except.error.inj (hFault.symm.trans hOutcome)
      rw [resultFrom_eq, overflow?_respelled h, hNone, hOther] at hResult
      rw [hResult, hOwn]
      exact congrArg (fun fault => Except.ok (Except.error fault)) hSame
  | finished report ending hNone hOutcome hState hOwn =>
    rw [resultFrom_eq, overflow?_respelled h, hNone, (outcome_ok_respelled h).2 hOutcome,
      lines_respelled h] at hResult
    simp only [hState] at hResult
    rw [hResult, hOwn]
    rfl
  | expired report hNone hOutcome hState hTime hOwn =>
    have hLate : ¬plan.time n < plan.durationMs := UInt64.not_lt.2 (UInt64.le_of_eq hTime.symm)
    rw [hUnfinished hNone hOutcome hState, time_withGraph, durationMs_withGraph, if_neg hLate,
      lines_respelled h] at hResult
    rw [hResult, hOwn]
    rfl
  | exhausted report hNone hOutcome hState hTime hOverflow hOwn =>
    rw [hUnfinished hNone hOutcome hState, time_withGraph, length_withGraph, durationMs_withGraph,
      if_pos hTime, if_neg (Nat.not_lt.2 hOverflow)] at hResult
    rw [hResult, hOwn]

end Plan

/-! ## Two spellings of one clip -/

/-- A script that shows a still frame of the clip `12` under one of its names.  It can be read as a
click map, too, while the name is a number. -/
def numberedText (name : String) : List Char :=
  "0 ".toList ++ name.toList ++ " 2 0 0\n1 0 0 100 0 0 0 0 0 0 0 0 0 0 0 0 0 0 0 0 0".toList

/-- A folder with the script, with the clip, and with a click map of the clip. -/
def numbered (name : String) : AssetStore where
  data := ⟨[("12.hot", "12.hot"), ("12.map", "12.map"), ("12", "12")]⟩
  read path :=
    if path = "12.hot" then .ok (Text.Utf8.encode (numberedText name))
    else if path = "12.map" then .ok (Text.Utf8.encode "0 0 0 9 9".toList)
    else .error .notFound

/-- The settings of a film that starts with the script, where click maps have the given suffix. -/
def mapsIn (suffix : String) : Config :=
  { startScript := "12.hot", hotZoneSuffix := suffix }

theorem isSeparator_mapsIn (suffix : String) :
    ∀ c ∈ (mapsIn suffix).scriptSuffix.toList, Asset.isSeparator c = false := by
  have hAll : ".nod".toList.all (!Asset.isSeparator ·) = true := by decide +kernel
  intro c hc
  simpa using List.all_eq_true.1 hAll c hc

/-- The entry of the script. -/
def numberedFrame (name : String) : Entry :=
  ⟨0, name, #v[2, 0, 0, 1, 0, 0, 100, 0, 0, 0, 0, 0, 0, 0, 0, 0, 0, 0, 0, 0, 0, 0, 0, 0]⟩

/-- The graph of the script. -/
def numberedGraph (name : String) : NodeGraph :=
  .ofScripts [⟨"12.hot", [numberedFrame name]⟩] (.ofName "12.hot" 0)

theorem numbered_respells : (numbered "12").Respells (numbered "x/12") where
  data := rfl
  read path := by
    by_cases hScript : path = "12.hot"
    · subst hScript
      have hWords : ∀ name ∈ ["12", "x/12"],
          Text.words (Text.Utf8.decodeLossy (Text.Utf8.encode (numberedText name))) =
            ['0'] :: name.toList :: (Text.words (numberedText "12")).drop 2 := by
        decide +kernel
      refine .inr ⟨_, _, rfl, rfl, ?_⟩
      rw [hWords "12" (by simp), hWords "x/12" (by simp)]
      exact .of_name (by decide +kernel) _ _
    · have hSame : (numbered "x/12").read path = (numbered "12").read path := by
        simp only [numbered, if_neg hScript]
      rw [hSame]
      cases (numbered "12").read path with
      | error fault => exact .inl ⟨fault, rfl, rfl⟩
      | ok bytes => exact .inr ⟨bytes, bytes, rfl, rfl, .refl _⟩

/-- Both spellings give a graph of one script. -/
theorem load_numbered (suffix name : String) (hSuffix : suffix ∈ [".map", ".hot"])
    (hName : name ∈ ["12", "x/12"]) :
    NodeGraph.load (mapsIn suffix) (numbered name) = .ok (numberedGraph name) := by
  have hKey : Asset.key "12.hot" = "12.hot" := by decide +kernel
  have hLocate : (numbered name).data.locate "12.hot" = .ok "12.hot" := by
    rw [DataDir.locate, hKey]
    rfl
  have hFile : "12.hot" ∈ (numbered name).data.files.map (·.1) := List.mem_cons_self
  have hLoads : ∀ name ∈ ["12", "x/12"], (Script.load (numbered name) "12.hot").toOption =
      some ⟨"12.hot", [numberedFrame name]⟩ := by decide +kernel
  have hLinks : ∀ suffix ∈ [".map", ".hot"], ∀ name ∈ ["12", "x/12"],
      Script.references (mapsIn suffix) ⟨"12.hot", [numberedFrame name]⟩ = [] := by
    decide +kernel
  have hEntries : ∀ name ∈ ["12", "x/12"],
      ((numberedGraph name).lookup (.ofName "12.hot" 0)).toOption = some (numberedFrame name) := by
    decide +kernel
  have hEntry := toOption_eq_some.1 (hEntries name hName)
  have hPointer : NodePointer.ofName "12.hot" 0 = ⟨"12.hot", 0⟩ := by
    rw [NodePointer.ofName, hKey]
  rw [numberedGraph, hPointer] at hEntry ⊢
  exact NodeGraph.load_of_lone_script hKey rfl hKey hLocate hFile
    (toOption_eq_some.1 (hLoads name hName)) (hLinks suffix hSuffix name hName) hEntry

/-! ## From the folder to the transcript -/

/-- **The spelling of names does not matter.**  Let a folder be as another one, except that names in
its scripts are spelled in another way, let the script suffix name no folder, and let no click map
of a still frame be one of these scripts.  Then the graphs are the same but for the names, which
have the same keys, or both are refused for one reason.  So are the click maps.  And a run gives the
same transcript for the same input, or fails for the same reason, where the clip in question may be
named in another way; or the same overflow stops the program. -/
theorem same_film_in_every_spelling (config : Config) (store other : AssetStore)
    (hOther : store.Respells other)
    (hSuffix : ∀ c ∈ config.scriptSuffix.toList, Asset.isSeparator c = false)
    (hMaps : ∀ graph, NodeGraph.load config store = .ok graph →
      store.KeepsClickMaps config other graph.stillFrames)
    (openClip : String → Except String δ) :
    (NodeGraph.load config other).map NodeGraph.keyed =
        (NodeGraph.load config store).map NodeGraph.keyed ∧
      (∀ graph respelled, NodeGraph.load config store = .ok graph →
        NodeGraph.load config other = .ok respelled →
          HotZoneCatalog.load config other respelled = HotZoneCatalog.load config store graph) ∧
      (Engine.load config other ⟨other.data.locate, openClip⟩).2 =
        (Engine.load config store ⟨store.data.locate, openClip⟩).2 ∧
      ((∃ fault, (Engine.load config store ⟨store.data.locate, openClip⟩).1 = .error fault ∧
          (Engine.load config other ⟨other.data.locate, openClip⟩).1 = .error fault) ∨
        ∃ engine respelled,
          (Engine.load config store ⟨store.data.locate, openClip⟩).1 = .ok engine ∧
          (Engine.load config other ⟨other.data.locate, openClip⟩).1 = .ok respelled ∧
          ∀ inputs durationMs tickMs,
            ((simulate respelled inputs durationMs tickMs).map fun run =>
                run.1.mapError EngineError.keyed) =
              (simulate engine inputs durationMs tickMs).map fun run =>
                run.1.mapError EngineError.keyed) := by
  have hGraphs := NodeGraph.load_respelled hOther hSuffix
  refine ⟨hGraphs, fun graph respelled hGraph hRespelled => ?_, ?_⟩
  · rw [hGraph, hRespelled] at hGraphs
    exact HotZoneCatalog.load_respelled hOther (Except.ok.inj hGraphs) (hMaps graph hGraph)
  · obtain ⟨hWarnings, hLoads⟩ := Engine.load_respelled hOther hSuffix hMaps openClip
    refine ⟨hWarnings, ?_⟩
    obtain hRefused | ⟨engine, graph, hEngine, hRespelled, hSpelling⟩ := hLoads
    · exact .inl hRefused
    · refine .inr ⟨engine, engine.withGraph graph, hEngine, hRespelled, ?_⟩
      intro inputs durationMs tickMs
      have hPlan : (Plan.mk engine inputs durationMs tickMs).engine.Respells graph := hSpelling
      exact Plan.result_respelled hPlan

/-- The film whose clip is named `12` or `x/12`, with its click map in a file of its own. -/
theorem same_film_in_two_spellings :
    (numbered "12").Respells (numbered "x/12") ∧
      (∀ c ∈ (mapsIn ".map").scriptSuffix.toList, Asset.isSeparator c = false) ∧
      (∀ graph, NodeGraph.load (mapsIn ".map") (numbered "12") = .ok graph →
        (numbered "12").KeepsClickMaps (mapsIn ".map") (numbered "x/12") graph.stillFrames) ∧
      ∃ engine respelled : Engine SyntheticDecoder,
        (Engine.load (mapsIn ".map") (numbered "12")
          (({} : SyntheticProfile).library (numbered "12").data.locate)).1 = .ok engine ∧
        (Engine.load (mapsIn ".map") (numbered "x/12")
          (({} : SyntheticProfile).library (numbered "x/12").data.locate)).1 = .ok respelled ∧
        ∀ inputs durationMs tickMs,
          ((simulate respelled inputs durationMs tickMs).map fun run =>
              run.1.mapError EngineError.keyed) =
            (simulate engine inputs durationMs tickMs).map fun run =>
              run.1.mapError EngineError.keyed := by
  have hGraph := load_numbered ".map" "12" (by simp) (by simp)
  have hMaps : ∀ graph, NodeGraph.load (mapsIn ".map") (numbered "12") = .ok graph →
      (numbered "12").KeepsClickMaps (mapsIn ".map") (numbered "x/12") graph.stillFrames := by
    intro graph hLoad frame hFrame path hPath
    obtain rfl := Except.ok.inj (hGraph.symm.trans hLoad)
    have hFrames : (numberedGraph "12").stillFrames = [("12.hot", numberedFrame "12")] := by
      decide +kernel
    have hMap : (numbered "12").data.locate ((mapsIn ".map").hotZoneName (Asset.key "12")) =
        .ok "12.map" := toOption_eq_some.1 (by decide +kernel)
    rw [hFrames, List.mem_singleton] at hFrame
    subst hFrame
    obtain rfl : "12.map" = path := Except.ok.inj (hMap.symm.trans hPath)
    rfl
  refine ⟨numbered_respells, isSeparator_mapsIn ".map", hMaps, ?_⟩
  obtain ⟨-, -, -, ⟨fault, hFault, -⟩ | hRuns⟩ := same_film_in_every_spelling (mapsIn ".map")
    (numbered "12") (numbered "x/12") numbered_respells (isSeparator_mapsIn ".map") hMaps
    fun _ => .ok ({ profile := {} } : SyntheticDecoder)
  · -- neither the graph nor the click map is refused
    have hCatalog : (HotZoneCatalog.load (mapsIn ".map") (numbered "12")
        (numberedGraph "12")).1.isOk = true := by decide +kernel
    rw [Engine.load, hGraph] at hFault
    rw [map_error.1 hFault] at hCatalog
    cases hCatalog
  · exact hRuns

/-- When the script is read as the click map, the one spelling is refused and the other is not. -/
theorem not_forall_click_maps_alike :
    ¬∀ (config : Config) (store other : AssetStore), store.Respells other →
      (∀ c ∈ config.scriptSuffix.toList, Asset.isSeparator c = false) →
      ∀ graph respelled, NodeGraph.load config store = .ok graph →
        NodeGraph.load config other = .ok respelled →
          (HotZoneCatalog.load config other respelled).1.isOk =
            (HotZoneCatalog.load config store graph).1.isOk := by
  intro hAlike
  have hSame := hAlike (mapsIn ".hot") (numbered "12") (numbered "x/12") numbered_respells
    (isSeparator_mapsIn ".hot") (numberedGraph "12") (numberedGraph "x/12")
    (load_numbered ".hot" "12" (by simp) (by simp))
    (load_numbered ".hot" "x/12" (by simp) (by simp))
  have hStore : (HotZoneCatalog.load (mapsIn ".hot") (numbered "12")
      (numberedGraph "12")).1.isOk = true := by decide +kernel
  have hOther : (HotZoneCatalog.load (mapsIn ".hot") (numbered "x/12")
      (numberedGraph "x/12")).1.isOk = false := by decide +kernel
  rw [hStore, hOther] at hSame
  cases hSame

end Simulation
end BranchingMovie
