import BranchingMovie.Proofs.Engine.TickCourse
import BranchingMovie.Proofs.Graph.Closure

/-!
# Films that were loaded

What loading checks is enough for every run.  The graph of a loaded film is closed
(`NodeGraph.IsClosed`), so no condition is ever found unknown, and a run that switches to the name
of a script ends at the gate or gets to a script that is there.

There is one way to lose the way: an entry that switches to a name which is not that of a script,
because such names are not followed when a film is loaded (`Engine.Strays`).  `Engine.placed_run`
says that a run is in a script of the film, or has come where it is in that way.
-/

namespace BranchingMovie

variable {δ : Type}

/-! ## Places in a closed film -/

/-- The script under the pointer is in the film. -/
def Film.Holds (film : Film δ) (pointer : NodePointer) : Prop :=
  ∃ script, film.graph.table.get? pointer.script = some script

namespace Film

variable {film : Film δ} {pointer place : NodePointer} {entry : Entry} {kind : Opcode}

theorem holds_of_lookup (h : film.graph.lookup pointer = .ok entry) : film.Holds pointer := by
  obtain ⟨script, hScript, -⟩ := NodeGraph.script_of_lookup h
  exact ⟨script, hScript⟩

theorem Holds.of_script (h : film.Holds pointer) (hScript : place.script = pointer.script) :
    film.Holds place := by
  rw [Holds, hScript]
  exact h

theorem refusal?_of_not_holds (h : ¬ film.Holds pointer) :
    film.refusal? pointer = some (.pointer (.unknownScript pointer.script)) := by
  have hNone : film.graph.table.get? pointer.script = none :=
    Option.eq_none_iff_forall_ne_some.2 fun script hScript => h ⟨script, hScript⟩
  rw [refusal?, NodeGraph.lookup, hNone]

theorem not_holds_of_refusal? {script : String}
    (h : film.refusal? pointer = some (.pointer (.unknownScript script))) :
    ¬ film.Holds pointer ∧ pointer.script = script := by
  obtain ⟨cause, hLookup, hCause⟩ | ⟨_, -, ⟨-, hCode⟩ | ⟨_, -, -, hControls⟩⟩ :=
    refusal?_eq_some_iff.1 h
  · cases hCause
    unfold NodeGraph.lookup at hLookup
    split at hLookup
    · rename_i hNone
      cases hLookup
      refine ⟨?_, rfl⟩
      rintro ⟨found, hFound⟩
      rw [hNone] at hFound
      cases hFound
    · split at hLookup
      · cases hLookup
      · cases hLookup
  · cases hCode
  · obtain ⟨code, hCode⟩ := Entry.controls_error hControls
    cases hCode

theorem not_leadsOn_of_not_holds (h : ¬ film.Holds pointer) : ¬ film.LeadsOn pointer := by
  intro hLeads
  obtain ⟨place, hNext⟩ := leadsOn_iff.1 hLeads
  obtain ⟨entry, _, hLookup, -, -⟩ := next?_eq_some_iff.1 hNext
  exact h (holds_of_lookup hLookup)

/-- No place in a closed film has an unknown condition. -/
theorem refusal?_ne_unknownCondition (hClosed : film.graph.IsClosed film.config) (script : String)
    (index : Nat) (code : Int32) :
    film.refusal? pointer ≠ some (.unknownCondition script index code) := by
  intro h
  obtain ⟨cause, -, hCause⟩ | ⟨entry, hLookup, ⟨-, hCode⟩ | ⟨kind, hKind, hWaits, hControls⟩⟩ :=
    refusal?_eq_some_iff.1 h
  · cases hCause
  · cases hCode
  · obtain ⟨controls, hOk⟩ := hClosed.controls_ok hLookup hKind hWaits pointer.script
    rw [hOk] at hControls
    cases hControls

/-- The entry switches to a name that is not that of a script, nor that of the gate. -/
structure SwitchesAstray (film : Film δ) (entry : Entry) : Prop where
  switches : Opcode.ofCode? entry.opcode = some .switchScript
  gate : film.config.isGate entry.name = false
  name : film.config.isScriptName entry.name = false

/-- Where an entry of a closed film leads on to, there is a script, unless it switches astray. -/
theorem holds_or_astray (hClosed : film.graph.IsClosed film.config)
    (hLookup : film.graph.lookup pointer = .ok entry)
    (hKind : Opcode.ofCode? entry.opcode = some kind)
    (hOnward : film.onward? pointer entry kind = some place) :
    film.Holds place ∨
      film.SwitchesAstray entry ∧ place = .ofName entry.name entry.startFrame.toInt64 := by
  obtain ⟨-, -, -, rfl⟩ | ⟨rfl, hGate, rfl⟩ := onward?_eq_some_iff.1 hOnward
  · exact .inl ((holds_of_lookup hLookup).of_script rfl)
  · cases hName : film.config.isScriptName entry.name with
    | true => exact .inl (hClosed.get?_name hLookup hName hGate)
    | false => exact .inr ⟨⟨hKind, hGate, hName⟩, rfl⟩

end Film

namespace Session

variable [Decoder δ] {film : Film δ} {session : Session δ} {now : UInt64} {visits : Nat}

/-- A visit that does not lead on leaves the pointer where it is. -/
theorem pointer_visit_of_not_leadsOn (h : ¬ film.LeadsOn session.pointer) (now : UInt64) :
    (session.visit film now).2.pointer = session.pointer := by
  rw [Film.not_leadsOn_iff] at h
  obtain ⟨fault, -, hVisit⟩ | ⟨_, _, hNext, -⟩ | ⟨-, ending, hVisit⟩ | ⟨-, _, _, hEnters⟩ :=
    session.visit_cases film now
  · rw [hVisit, pointer_clear]
  · rw [h] at hNext
    cases hNext
  · rw [hVisit]
    exact session.pointer_clear
  · obtain ⟨_, _, _, -, -, hVisit⟩ := hEnters.visit
    rw [hVisit]
    obtain ⟨_, -, hAwait⟩ | ⟨-, hAwait⟩ := await_cases _ _
    · rw [hAwait]
    · rw [hAwait]

/-- By visits that lead on, a run in a script of a closed film gets to another one, or the last of
them has led it astray. -/
theorem Passes.holds_or_astray (hClosed : film.graph.IsClosed film.config)
    (hHolds : film.Holds session.pointer) (h : session.Passes film now visits) :
    film.Holds (session.afterVisits film now visits).pointer ∨
      ∃ last entry, visits = last + 1 ∧
        film.graph.lookup (session.afterVisits film now last).pointer = .ok entry ∧
        film.SwitchesAstray entry ∧ (session.afterVisits film now visits).pointer =
          .ofName entry.name entry.startFrame.toInt64 := by
  cases visits with
  | zero => exact .inl hHolds
  | succ last =>
    obtain ⟨place, hNext⟩ := Film.leadsOn_iff.1 (h last (Nat.lt_succ_self last))
    obtain ⟨entry, kind, hLookup, hKind, hOnward⟩ := Film.next?_eq_some_iff.1 hNext
    obtain ⟨surface, hVisit⟩ := visit_of_next? hNext now
    have hPointer : (session.afterVisits film now (last + 1)).pointer = place := by
      rw [afterVisits_succ, hVisit]
    rw [hPointer]
    obtain hThere | ⟨hAstray, rfl⟩ := Film.holds_or_astray hClosed hLookup hKind hOnward
    · exact .inl hThere
    · exact .inr ⟨last, entry, rfl, hLookup, hAstray, rfl⟩

end Session

/-! ## Runs of a closed film -/

namespace Engine

variable [Decoder δ] {start : Engine δ} {acts : List (Act δ)}

/-- In the tick at a time the run comes to the entry and is led astray by it, and it stays where the
entry has led it through the acts. -/
structure Strays (engine : Engine δ) (time : UInt64) (entry : Entry) (since : List (Act δ)) :
    Prop where
  clock : ((engine.session.deliver engine.input.pending).updateFrame time).1 = .ok ()
  walks : (engine.settled time).state = .running
  visit : ∃ visits < engine.film.config.maxStepsPerTick.toNat,
    (engine.settled time).Passes engine.film time visits ∧
    engine.film.graph.lookup
      ((engine.settled time).afterVisits engine.film time visits).pointer = .ok entry
  astray : engine.film.SwitchesAstray entry
  stays : ∀ count, ((engine.tick time).2.run (since.take count)).session.pointer =
    .ofName entry.name entry.startFrame.toInt64

/-- In the course of the acts the run was led astray, and it is where it was led. -/
def Lost (start : Engine δ) (acts : List (Act δ)) : Prop :=
  ∃ entry before time since, acts = before ++ .tick time :: since ∧
    (start.run before).Strays time entry since

theorem Lost.concat (h : Lost start acts) {a : Act δ}
    (hPointer : ((start.run acts).act a).session.pointer = (start.run acts).session.pointer) :
    Lost start (acts ++ [a]) := by
  obtain ⟨entry, before, time, since, rfl, hStrays⟩ := h
  have hRun : start.run (before ++ .tick time :: since) =
      ((start.run before).tick time).2.run since := run_append _ _ _
  rw [hRun] at hPointer
  refine ⟨entry, before, time, since ++ [a], by simp,
    ⟨hStrays.clock, hStrays.walks, hStrays.visit, hStrays.astray, fun count => ?_⟩⟩
  rcases Nat.lt_or_ge since.length count with hLess | hLe
  · have hAll : (since ++ [a]).length ≤ count := by
      rw [List.length_append]
      exact hLess
    have hSince := hStrays.stays since.length
    rw [List.take_length] at hSince
    rw [List.take_of_length_le hAll, run_append]
    exact hPointer.trans hSince
  · rw [List.take_append_of_le_length hLe]
    exact hStrays.stays count

/-- The run is in a script of the film, or it walks where it was led astray. -/
def Placed (start : Engine δ) (acts : List (Act δ)) : Prop :=
  (start.run acts).film.Holds (start.run acts).session.pointer ∨
    (start.run acts).session.state = .running ∧ Lost start acts

theorem isClosed_run (h : start.film.graph.IsClosed start.film.config) (acts : List (Act δ)) :
    (start.run acts).film.graph.IsClosed (start.run acts).film.config := by
  obtain ⟨clips, hFilm⟩ := start.film_run acts
  rw [hFilm]
  exact h

/-- An act that is no tick leaves the run where it is. -/
theorem place_of_no_tick (engine : Engine δ) {a : Act δ} (h : ∀ time, a ≠ .tick time) :
    (engine.act a).session.pointer = engine.session.pointer ∧
      (engine.act a).session.state = engine.session.state ∧
      (engine.act a).film.graph = engine.film.graph := by
  cases a with
  | tick time => exact absurd rfl (h time)
  | _ => exact ⟨rfl, rfl, rfl⟩

/-- Before the walk of a tick a run is where it was, or in the same script. -/
theorem place_settled (engine : Engine δ) (now : UInt64) :
    ((engine.settled now).pointer = engine.session.pointer ∧
        (engine.settled now).state = engine.session.state) ∨
      engine.session.state = .awaitingEvent ∧
        (engine.settled now).pointer.script = engine.session.pointer.script := by
  obtain ⟨_, _, -, ⟨_, -, hSettled⟩ | hSettled | ⟨hWaits, _, hSettled⟩⟩ :=
    engine.session.settle_cases engine.input.pending now
  · rw [settled, hSettled]
    exact .inl ⟨rfl, rfl⟩
  · rw [settled, hSettled]
    exact .inl ⟨rfl, rfl⟩
  · rw [settled, hSettled]
    exact .inr ⟨hWaits, rfl⟩

theorem Placed.settled (h : Placed start acts) (now : UInt64) :
    (start.run acts).film.Holds ((start.run acts).settled now).pointer ∨
      ((start.run acts).settled now).pointer = (start.run acts).session.pointer ∧
        ((start.run acts).settled now).state = .running ∧ Lost start acts := by
  obtain ⟨hPointer, hState⟩ | ⟨hWaits, hScript⟩ := (start.run acts).place_settled now
  · rcases h with hHolds | ⟨hRunning, hLost⟩
    · exact .inl (hHolds.of_script (congrArg NodePointer.script hPointer))
    · exact .inr ⟨hPointer, hState.trans hRunning, hLost⟩
  · rcases h with hHolds | ⟨hRunning, -⟩
    · exact .inl (hHolds.of_script hScript)
    · rw [hRunning] at hWaits
      cases hWaits

/-- A walk that gets to where there is no script has been led astray, now or before. -/
theorem Placed.lost_of_passes (h : Placed start acts)
    (hClosed : (start.run acts).film.graph.IsClosed (start.run acts).film.config) {now : UInt64}
    (hClock : (((start.run acts).session.deliver (start.run acts).input.pending).updateFrame
      now).1 = .ok ())
    (hState : ((start.run acts).settled now).state = .running) {visits : Nat}
    (hPasses : ((start.run acts).settled now).Passes (start.run acts).film now visits)
    (hLe : visits ≤ (start.run acts).film.config.maxStepsPerTick.toNat)
    (hPointer : ((start.run acts).tick now).2.session.pointer =
      (((start.run acts).settled now).afterVisits (start.run acts).film now visits).pointer)
    (hNot : ¬ (start.run acts).film.Holds ((start.run acts).tick now).2.session.pointer) :
    Lost start (acts ++ [.tick now]) := by
  rw [hPointer] at hNot
  by_cases hHolds : (start.run acts).film.Holds ((start.run acts).settled now).pointer
  · obtain hThere | ⟨last, entry, rfl, hLookup, hAstray, hPlace⟩ :=
      hPasses.holds_or_astray hClosed hHolds
    · exact absurd hThere hNot
    · refine ⟨entry, acts, now, [], rfl, hClock, hState,
        ⟨last, hLe, hPasses.of_le (Nat.le_succ last), hLookup⟩, hAstray, fun count => ?_⟩
      rw [List.take_nil]
      exact hPointer.trans hPlace
  · obtain ⟨hSame, -, hLost⟩ := (h.settled now).resolve_left hHolds
    -- a run that is lost already makes no visit that leads on
    cases visits with
    | zero => exact hLost.concat (hPointer.trans hSame)
    | succ visits =>
      exact absurd (hPasses 0 (Nat.zero_lt_succ visits)) (Film.not_leadsOn_of_not_holds hHolds)

theorem Placed.tick (h : Placed start acts)
    (hClosed : (start.run acts).film.graph.IsClosed (start.run acts).film.config) (now : UInt64) :
    Placed start (acts ++ [.tick now]) := by
  have hRun : start.run (acts ++ [.tick now]) = ((start.run acts).tick now).2 := run_append _ _ _
  rw [Placed, hRun]
  by_cases hNot : (start.run acts).film.Holds ((start.run acts).tick now).2.session.pointer
  · exact .inl hNot
  refine .inr ?_
  cases (start.run acts).course now with
  | clock _ hClock _ hSession =>
    rw [hSession] at hNot ⊢
    obtain ⟨hPointer, hState, hLost⟩ := (h.settled now).resolve_left hNot
    exact ⟨hState, hLost.concat ((congrArg Session.pointer hSession).trans hPointer)⟩
  | still _ hState _ hSession =>
    rw [hSession] at hNot
    exact absurd ((h.settled now).resolve_left hNot).2.1 hState
  | runaway hClock hState hPasses _ hSession =>
    refine ⟨?_, h.lost_of_passes hClosed hClock hState hPasses (Nat.le_refl _)
      (congrArg Session.pointer hSession) hNot⟩
    rw [hSession]
    exact hPasses.afterVisits.1.trans hState
  | stop visits hClock hState hLess hPasses hStops _ hSession =>
    have hPointer := (congrArg Session.pointer hSession).trans
      (Session.pointer_visit_of_not_leadsOn hStops now)
    refine ⟨?_, h.lost_of_passes hClosed hClock hState hPasses (Nat.le_of_lt hLess) hPointer hNot⟩
    -- without a script the visit is refused, and the run walks on in vain
    rw [hPointer] at hNot
    rw [hSession, Session.visit_of_refusal? (Film.refusal?_of_not_holds hNot), Session.state_clear]
    exact hPasses.afterVisits.1.trans hState

theorem Placed.of_no_tick (h : Placed start acts) {a : Act δ} (hAct : ∀ time, a ≠ .tick time) :
    Placed start (acts ++ [a]) := by
  have hRun : start.run (acts ++ [a]) = (start.run acts).act a := run_append _ _ _
  obtain ⟨hPointer, hState, hGraph⟩ := (start.run acts).place_of_no_tick hAct
  rw [Placed, hRun, hState, Film.Holds, hPointer, hGraph]
  exact h.imp_right fun ⟨hRunning, hLost⟩ => ⟨hRunning, hLost.concat hPointer⟩

/-- **In every run of a closed film, the run is in a script of the film, or it walks where it was
led astray.** -/
theorem placed_run (hClosed : start.film.graph.IsClosed start.film.config)
    (hStart : start.film.Holds start.session.pointer) (acts : List (Act δ)) :
    Placed start acts := by
  induction acts using List.reverseRecOn with
  | nil => exact .inl hStart
  | append_singleton acts a ih =>
    cases a with
    | tick now => exact ih.tick (isClosed_run hClosed acts) now
    | _ => exact ih.of_no_tick fun _ hTick => nomatch hTick

/-! ## What a run of a loaded film can come to -/

omit [Decoder δ] in
/-- Loading gives an engine at the start of a closed film. -/
theorem isClosed_of_load {config : Config} {store : AssetStore} {clips : ClipLibrary δ}
    {warnings : List String} (h : load config store clips = (.ok start, warnings)) :
    start.film.config = config ∧ start.film.graph.IsClosed config ∧
      start.film.Holds start.session.pointer := by
  unfold load at h
  split at h
  · cases h
  · rename_i graph hGraph
    have hClosed := NodeGraph.isClosed_of_load hGraph
    obtain ⟨catalog, -, rfl⟩ := Outcome.map_ok.1 (congrArg Prod.fst h)
    exact ⟨rfl, hClosed, hClosed.start⟩

/-- A tick fails for what is wrong with the place that it ends in. -/
theorem refusal?_of_tick {engine : Engine δ} {now : UInt64} {fault : EngineError}
    (hFails : (engine.tick now).1 = .error fault) (hLogical : fault.isLogical = true) :
    engine.film.refusal? (engine.tick now).2.session.pointer = some fault := by
  cases engine.course now with
  | clock cause _ hOutcome _ =>
    rw [hOutcome] at hFails
    cases hFails
    cases hLogical
  | still _ _ hOutcome _ =>
    rw [hOutcome] at hFails
    cases hFails
  | runaway _ _ _ hOutcome _ =>
    rw [hOutcome] at hFails
    cases hFails
    cases hLogical
  | stop visits _ _ _ _ hStops hOutcome hSession =>
    rw [hOutcome] at hFails
    rw [hSession, Session.pointer_visit_of_not_leadsOn hStops]
    obtain hRefusal | ⟨cause, rfl⟩ := Session.visit_error (Outcome.map_error.1 hFails)
    · exact hRefusal
    · cases hLogical

/-- **What loading has checked holds good in every run.**  Take an engine that was loaded, whatever
the settings and the files, and anything that happens to it.  No tick fails for an unknown
condition.  A tick that fails for an unknown script does so where the run was led by an entry that
switches to the name of no script, in this tick or in an earlier one, and the run has not moved
since.  And a visit of an entry that switches to the name of a script succeeds, and ends the run at
the gate or takes it to a script that is there. -/
theorem run_of_loaded (config : Config) (store : AssetStore) (clips : ClipLibrary δ)
    {engine : Engine δ} {warnings : List String}
    (hLoad : load config store clips = (.ok engine, warnings)) (acts : List (Act δ))
    (now : UInt64) :
    let reached := engine.run acts
    (∀ script index code, (reached.tick now).1 ≠ .error (.unknownCondition script index code)) ∧
    (∀ script, (reached.tick now).1 = .error (.pointer (.unknownScript script)) →
      ∃ entry before time since, acts ++ [.tick now] = before ++ .tick time :: since ∧
        (engine.run before).Strays time entry since ∧ script = Asset.key entry.name) ∧
    ∀ (session : Session δ) (entry : Entry),
      reached.film.graph.lookup session.pointer = .ok entry →
      Opcode.ofCode? entry.opcode = some .switchScript →
      config.isScriptName entry.name = true →
      let visited := session.visit reached.film now
      visited.1 = .ok () ∧
        (config.isGate entry.name = true ∧ visited.2.state = .finished .exitToMenu ∨
          config.isGate entry.name = false ∧ reached.film.Holds visited.2.pointer) := by
  intro reached
  obtain ⟨rfl, hClosed, hStart⟩ := isClosed_of_load hLoad
  have hReached : reached.film.graph.IsClosed reached.film.config := isClosed_run hClosed acts
  have hConfig : reached.film.config = engine.film.config := by
    obtain ⟨clips, hFilm⟩ := engine.film_run acts
    rw [show reached.film = engine.film.restock clips from hFilm, Film.restock]
  refine ⟨fun script index code hFails => ?_, fun script hFails => ?_,
    fun session entry hLookup hKind hName => ?_⟩
  · exact Film.refusal?_ne_unknownCondition hReached script index code
      (refusal?_of_tick hFails rfl)
  · obtain ⟨hNot, hScript⟩ := Film.not_holds_of_refusal? (refusal?_of_tick hFails rfl)
    have hRun : engine.run (acts ++ [.tick now]) = (reached.tick now).2 := run_append _ _ _
    have hPlaced := placed_run hClosed hStart (acts ++ [.tick now])
    rw [Placed, hRun] at hPlaced
    obtain ⟨-, entry, before, time, since, hActs, hStrays⟩ := hPlaced.resolve_left hNot
    refine ⟨entry, before, time, since, hActs, hStrays, ?_⟩
    have hPointer := hStrays.stays since.length
    rw [List.take_length] at hPointer
    have hSince : engine.run (before ++ .tick time :: since) =
        ((engine.run before).tick time).2.run since := run_append _ _ _
    rw [← hSince, ← hActs, hRun] at hPointer
    rw [← hScript, hPointer]
    rfl
  · rw [← hConfig] at hName ⊢
    have hVisit : session.visit reached.film now =
        (.ok (), session.clear.switchScript reached.film entry) :=
      Session.visit_of_lookup hLookup hKind now
    rw [hVisit, Session.switchScript]
    cases hGate : reached.film.config.isGate entry.name with
    | true => exact ⟨rfl, .inl ⟨rfl, rfl⟩⟩
    | false => exact ⟨rfl, .inr ⟨rfl, hReached.get?_name hLookup hName hGate⟩⟩

/-- A folder with one script, whose only entry switches to the name of no script. -/
def leadingAstray : AssetStore where
  data := ⟨[("encountr.nod", "film/ENCOUNTR.NOD")]⟩
  read path :=
    if path = "film/ENCOUNTR.NOD" then
      .ok (Text.Utf8.encode "0 lobby 4 0 0 0 0 0 0 0 0 0 0 0 0 0 0 0 0 0 0 0 0 0 0 0".toList)
    else .error .notFound

/-- The script in it. -/
def toLobby : Script :=
  ⟨"encountr.nod", [.plain 4 "lobby" 0 0]⟩

theorem load_leadingAstray (clips : ClipLibrary SyntheticDecoder) :
    load {} leadingAstray clips = (.ok (ofFilm
      { graph := .ofScripts [toLobby] ⟨"encountr.nod", 0⟩
        catalog := .empty
        config := {}
        clips }), []) := by
  have hKey : Asset.key "encountr.nod" = "encountr.nod" := by decide +kernel
  have hScript : Script.load leadingAstray "encountr.nod" = .ok toLobby :=
    Outcome.toOption_eq_some.1 (by decide +kernel)
  have hLinks : toLobby.references {} = [] := by decide +kernel
  have hEntry : (NodeGraph.ofScripts [toLobby] ⟨"encountr.nod", 0⟩).lookup ⟨"encountr.nod", 0⟩ =
      .ok (.plain 4 "lobby" 0 0) :=
    Outcome.toOption_eq_some.1 (by decide +kernel)
  have hGraph : NodeGraph.load {} leadingAstray =
      .ok (.ofScripts [toLobby] ⟨"encountr.nod", 0⟩) :=
    NodeGraph.load_of_lone_script hKey rfl hKey rfl List.mem_cons_self hScript hLinks hEntry
  have hCatalog : HotZoneCatalog.load {} leadingAstray
      (.ofScripts [toLobby] ⟨"encountr.nod", 0⟩) = (.ok .empty, []) := rfl
  rw [load, hGraph]
  simp only [hCatalog]
  rfl

/-- The first tick of the film in it is led astray. -/
theorem run_of_loaded_leadingAstray :
    ∃ (engine : Engine SyntheticDecoder) (warnings : List String),
      load {} leadingAstray (({} : SyntheticProfile).library .ok) = (.ok engine, warnings) ∧
      (engine.tick 0).1 = .error (.pointer (.unknownScript "lobby")) ∧
      ∃ entry before time since, [.tick 0] = before ++ .tick time :: since ∧
        (engine.run before).Strays time entry since ∧ "lobby" = Asset.key entry.name := by
  have hLoad := load_leadingAstray (({} : SyntheticProfile).library .ok)
  refine ⟨_, [], hLoad, ?_⟩
  have hFails : (tick (run (ofFilm
      { graph := .ofScripts [toLobby] ⟨"encountr.nod", 0⟩
        catalog := .empty
        config := {}
        clips := ({} : SyntheticProfile).library .ok }) []) 0).1 =
      .error (.pointer (.unknownScript "lobby")) := by
    decide +kernel
  exact ⟨hFails, (run_of_loaded {} leadingAstray _ hLoad [] 0).2.1 "lobby" hFails⟩

end Engine
end BranchingMovie
