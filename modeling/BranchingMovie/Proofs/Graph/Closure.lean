import BranchingMovie.Engine.Walk
import BranchingMovie.Proofs.Graph.Loading

/-!
# What a loaded graph promises

A graph that was loaded is closed (`NodeGraph.IsClosed`): the conditions of its scripts were
checked, whatever they lead to is in it, and so is the start script.  That holds for all settings,
also for a start script whose key is not the key of itself, because such a name is searched for as
the key of its key is (`loadFrom_key`).
-/

namespace BranchingMovie

/-! ## Names and their keys -/

/-- A file is found under the key of its name as well. -/
theorem DataDir.locate_key {data : DataDir} {name path : String}
    (hKey : Asset.key (Asset.key name) = Asset.key name) (h : data.locate name = .ok path) :
    data.locate (Asset.key name) = .ok path := by
  rw [locate_ok_iff, hKey, ← locate_ok_iff]
  exact h

/-- So is a script. -/
theorem Script.load_key {store : AssetStore} {name : String} {script : Script}
    (hKey : Asset.key (Asset.key name) = Asset.key name) (h : load store name = .ok script) :
    load store (Asset.key name) = .ok script := by
  obtain ⟨entries, ⟨path, bytes, hPath, hRead, hEntries⟩, rfl, hValid⟩ := load_ok.1 h
  have hName : ofName (Asset.key name) entries = ofName name entries := by
    rw [ofName, ofName, hKey]
  exact load_ok.2 ⟨entries, ⟨path, bytes, DataDir.locate_key hKey hPath, hRead, hEntries⟩,
    hName.symm, hValid⟩

/-! ## Checked conditions -/

/-- Conditions that were checked all stand for triggers. -/
theorem Entry.controlsOf_ok_of_checkConditions {name : String} {index : Nat} {seen : List Control}
    {conditions : List Condition} (h : checkConditions name index seen conditions = .ok ())
    (script : String) (position : Nat) :
    ∃ controls, controlsOf script position conditions = .ok controls := by
  induction conditions generalizing seen with
  | nil => exact ⟨[], rfl⟩
  | cons condition conditions ih =>
    rw [checkConditions] at h
    rw [controlsOf]
    cases hCode : Trigger.ofCode? condition.code with
    | none =>
      rw [hCode] at h
      cases h
    | some trigger =>
      cases trigger with
      | zone =>
        rw [hCode] at h
        exact ih h
      | control button =>
        simp only [hCode] at h
        by_cases hSeen : button ∈ seen
        · rw [if_pos hSeen] at h
          cases h
        · rw [if_neg hSeen] at h
          obtain ⟨controls, hControls⟩ := ih h
          exact ⟨(button, condition.offset) :: controls, by rw [hControls]; rfl⟩

/-- An entry that waits, and whose conditions were checked, has sound conditions. -/
theorem Entry.controls_ok_of_validate {entry : Entry} {name : String}
    (h : entry.validate name = .ok ()) (hWaits : entry.isInteractive = true) (script : String) :
    ∃ controls, entry.controls script = .ok controls := by
  rw [validate, if_pos hWaits] at h
  exact controlsOf_ok_of_checkConditions h script entry.index

/-- A script that was checked has checked entries. -/
theorem Script.validate_entry {script : Script} (h : script.validate = .ok ()) {entry : Entry}
    (hEntry : entry ∈ script.entries) : entry.validate script.name = .ok () := by
  unfold validate at h
  generalize script.entries = entries at h hEntry
  induction entries with
  | nil => cases hEntry
  | cons first entries ih =>
    obtain ⟨_, hFirst, hRest⟩ := Outcome.bind_ok.1 h
    rcases List.mem_cons.1 hEntry with rfl | hLater
    · exact hFirst
    · exact ih hRest hLater

namespace NodeGraph

variable {config : Config} {store : AssetStore}

/-- A name is searched for as its key is. -/
theorem loadFrom_key {unvisited : List String} {name : String} {scripts : List Script}
    (hKey : Asset.key (Asset.key name) = Asset.key name)
    (h : loadFrom config store unvisited [name] = .ok scripts) :
    loadFrom config store unvisited [Asset.key name] = .ok scripts := by
  unfold loadFrom at h ⊢
  split at h
  · cases h
  · rename_i path hPath
    rw [DataDir.locate_key hKey hPath]
    simp only [hKey]
    split at h
    · rename_i hUnvisited
      obtain ⟨script, hLoad, hRest⟩ := Outcome.bind_ok.1 h
      rw [dif_pos hUnvisited]
      exact Outcome.bind_ok.2 ⟨script, Script.load_key hKey hLoad, hRest⟩
    · rename_i hVisited
      rw [dif_neg hVisited]
      exact h

/-! ## Closed graphs -/

/-- The scripts of the graph were checked and lead to scripts of the graph, and the start script is
one of them. -/
structure IsClosed (config : Config) (graph : NodeGraph) : Prop where
  checked : ∀ key script, graph.table.get? key = some script → script.validate = .ok ()
  closed : ∀ key script, graph.table.get? key = some script →
    ∀ link ∈ script.references config, ∃ other, graph.table.get? link = some other
  start : ∃ script, graph.table.get? graph.start.script = some script

theorem mem_of_get?_ofScripts {scripts : List Script} {start : NodePointer} {key : String}
    {script : Script} (h : (ofScripts scripts start).table.get? key = some script) :
    script ∈ scripts := by
  rw [get?_ofScripts] at h
  exact List.mem_reverse.1 (List.mem_of_find?_eq_some h)

theorem exists_get?_ofScripts {scripts : List Script} {script : Script} (h : script ∈ scripts)
    (start : NodePointer) :
    ∃ other, (ofScripts scripts start).table.get? script.name = some other := by
  simp only [get?_ofScripts]
  exact Option.isSome_iff_exists.1
    (List.find?_isSome.2 ⟨script, List.mem_reverse.2 h, decide_eq_true rfl⟩)

/-- Whatever a search has loaded from a key makes a closed graph, if the start pointer is in it. -/
theorem isClosed_ofScripts {key : String} {scripts : List Script} {start : NodePointer}
    (hKey : Asset.key key = key)
    (hSearch : loadFrom config store (store.data.files.map (·.1)) [key] = .ok scripts)
    (hStart : ∃ script, (ofScripts scripts start).table.get? start.script = some script) :
    (ofScripts scripts start).IsClosed config := by
  have hPending : ∀ pending ∈ [key], Asset.key pending = pending := by
    intro pending hMem
    rw [List.mem_singleton.1 hMem, hKey]
  have hLoaded : ∀ script ∈ scripts, ∃ name, Script.load store name = .ok script := by
    intro script hScript
    have hCounts : ∀ pending ∈ [key], Asset.key pending = pending ∧ Asset.key pending = pending :=
      fun pending hMem => ⟨hPending pending hMem, hPending pending hMem⟩
    obtain ⟨name, -, hLoad⟩ := loadFrom_mem hCounts
      (fun _ _ _ hLoad _ hLink => Script.key_of_mem_references hLoad hLink) hSearch script hScript
    exact ⟨name, hLoad⟩
  obtain ⟨-, hLinks⟩ := loadFrom_closed (Searching.start hPending) hSearch
  refine ⟨fun name script hScript => ?_, fun name script hScript link hLink => ?_, hStart⟩
  · obtain ⟨_, hLoad⟩ := hLoaded script (mem_of_get?_ofScripts hScript)
    obtain ⟨_, -, -, hValid⟩ := Script.load_ok.1 hLoad
    exact hValid
  · have hMem := mem_of_get?_ofScripts hScript
    obtain ⟨_, hLoad⟩ := hLoaded script hMem
    obtain ⟨other, hOther, hOtherLoad⟩ :=
      (hLinks script hMem link hLink).resolve_left List.not_mem_nil
    have hName : other.name = link := by
      obtain ⟨entries, -, rfl, -⟩ := Script.load_ok.1 hOtherLoad
      exact Script.key_of_mem_references hLoad hLink
    rw [← hName]
    exact exists_get?_ofScripts hOther start

theorem script_of_lookup {graph : NodeGraph} {pointer : NodePointer} {entry : Entry}
    (h : graph.lookup pointer = .ok entry) :
    ∃ script, graph.table.get? pointer.script = some script ∧ entry ∈ script.entries := by
  unfold lookup at h
  split at h
  · cases h
  · rename_i script hScript
    split at h
    · cases h
    · rename_i found hFound
      cases h
      refine ⟨script, hScript, ?_⟩
      unfold Script.get? at hFound
      split at hFound
      · cases hFound
      · exact List.mem_of_getElem? hFound

/-- **A graph that was loaded is closed.** -/
theorem isClosed_of_load {graph : NodeGraph} (h : load config store = .ok graph) :
    graph.IsClosed config := by
  unfold load at h
  obtain ⟨scripts, hSearch, h⟩ := Outcome.bind_ok.1 h
  simp only at h
  split at h
  · rename_i entry hEntry
    obtain ⟨script, hScript, -⟩ := script_of_lookup hEntry
    have hClosed := isClosed_ofScripts (Asset.key_key_key config.startScript)
      (loadFrom_key (Asset.key_key_key config.startScript) hSearch) ⟨script, hScript⟩
    rw [← Except.ok.inj h]
    exact hClosed
  · cases h

/-! ## Entries of closed graphs -/

namespace IsClosed

variable {graph : NodeGraph} {pointer : NodePointer} {entry : Entry} {kind : Opcode}

/-- An entry that waits has sound conditions. -/
theorem controls_ok (h : graph.IsClosed config) (hLookup : graph.lookup pointer = .ok entry)
    (hKind : Opcode.ofCode? entry.opcode = some kind) (hWaits : kind.isInteractive = true)
    (name : String) : ∃ controls, entry.controls name = .ok controls := by
  obtain ⟨script, hScript, hEntry⟩ := script_of_lookup hLookup
  have hValid := Script.validate_entry (h.checked _ script hScript) hEntry
  exact Entry.controls_ok_of_validate hValid (by rw [Entry.isInteractive, hKind]; exact hWaits) name

/-- An entry with the name of a script, unless that is the gate, leads to a script of the graph. -/
theorem get?_name (h : graph.IsClosed config) (hLookup : graph.lookup pointer = .ok entry)
    (hName : config.isScriptName entry.name = true) (hGate : config.isGate entry.name = false) :
    ∃ other, graph.table.get? (Asset.key entry.name) = some other := by
  obtain ⟨script, hScript, hEntry⟩ := script_of_lookup hLookup
  exact h.closed _ script hScript _ (Script.mem_references.2 ⟨entry, hEntry, hName, hGate, rfl⟩)

end IsClosed
end NodeGraph
end BranchingMovie
