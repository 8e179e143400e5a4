import BranchingMovie.Graph.Load
import BranchingMovie.Proofs.Script.Names

/-!
# Breadth-first order

Which scripts there are, which of them lead where, and in which order they come, without any list of
visited files.

* `AssetStore.ParsesTo` is the script that stands behind a key, and `Referenced` the least set that
  holds the start script and all that its members lead to.
* `breadthFirst` lists the scripts level by level, those that come again included.
* `FirstFailure` is the fault of a queue that forgets what it has seen; it is the first fault in
  breadth-first order (`FirstFailure.findSome?_breadthFirst`).
-/

namespace BranchingMovie

/-! ## Scripts by their keys -/

namespace AssetStore

/-- The script behind a key: there is a file, it can be read, and it is a script. -/
def ParsesTo (store : AssetStore) (key : String) (entries : List Entry) : Prop :=
  ∃ path bytes, store.data.locate key = .ok path ∧ store.read path = .ok bytes ∧
    Script.readBytes bytes = .ok entries

theorem fetch_ok {store : AssetStore} {key : String} {bytes : List UInt8} :
    store.fetch key = .ok bytes ↔
      ∃ path, store.data.locate key = .ok path ∧ store.read path = .ok bytes := by
  unfold fetch
  cases store.data.locate key with
  | error cause =>
    constructor
    · intro h
      cases h
    · rintro ⟨_, h, _⟩
      cases h
  | ok path =>
    simp only [Outcome.mapError_ok]
    constructor
    · intro h
      exact ⟨path, rfl, h⟩
    · rintro ⟨_, h, hRead⟩
      cases h
      exact hRead

/-- The entries of the script behind a key. -/
def parse? (store : AssetStore) (key : String) : Option (List Entry) :=
  (store.fetch key).toOption.bind fun bytes => (Script.readBytes bytes).toOption

theorem parse?_eq_some {store : AssetStore} {key : String} {entries : List Entry} :
    store.parse? key = some entries ↔ store.ParsesTo key entries := by
  rw [parse?, Option.bind_eq_some_iff]
  constructor
  · rintro ⟨bytes, hBytes, hEntries⟩
    obtain ⟨path, hPath, hRead⟩ := fetch_ok.1 (Outcome.toOption_eq_some.1 hBytes)
    exact ⟨path, bytes, hPath, hRead, Outcome.toOption_eq_some.1 hEntries⟩
  · rintro ⟨path, bytes, hPath, hRead, hEntries⟩
    exact ⟨bytes, Outcome.toOption_eq_some.2 (fetch_ok.2 ⟨path, hPath, hRead⟩),
      Outcome.toOption_eq_some.2 hEntries⟩

/-- There is one script behind a key at most. -/
theorem ParsesTo.unique {store : AssetStore} {key : String} {entries others : List Entry}
    (h : store.ParsesTo key entries) (hOthers : store.ParsesTo key others) : entries = others := by
  rw [← parse?_eq_some] at h hOthers
  exact Option.some.inj (h.symm.trans hOthers)

/-- Every script behind a key has names whose keys stay what they are. -/
theorem ParsesTo.key_key_name {store : AssetStore} {key : String} {entries : List Entry}
    (h : store.ParsesTo key entries) {entry : Entry} (hEntry : entry ∈ entries) :
    Asset.key (Asset.key entry.name) = Asset.key entry.name := by
  obtain ⟨_, _, -, -, hEntries⟩ := h
  exact Script.key_key_name hEntries hEntry

end AssetStore

namespace Script

variable {config : Config} {store : AssetStore} {key : String}

/-- A script is loaded when it is there and its conditions are sound. -/
theorem load_ok {script : Script} :
    load store key = .ok script ↔
      ∃ entries, store.ParsesTo key entries ∧ script = ofName key entries ∧
        script.validate = .ok () := by
  unfold load
  constructor
  · intro h
    obtain ⟨bytes, hBytes, h⟩ := Outcome.bind_ok.1 h
    obtain ⟨entries, hEntries, h⟩ := Outcome.bind_ok.1 h
    obtain ⟨_, hValid, h⟩ := Outcome.bind_ok.1 h
    obtain ⟨path, hPath, hRead⟩ := AssetStore.fetch_ok.1 hBytes
    cases h
    exact ⟨entries, ⟨path, bytes, hPath, hRead, Outcome.mapError_ok.1 hEntries⟩, rfl, hValid⟩
  · rintro ⟨entries, ⟨path, bytes, hPath, hRead, hEntries⟩, rfl, hValid⟩
    refine Outcome.bind_ok.2 ⟨bytes, AssetStore.fetch_ok.2 ⟨path, hPath, hRead⟩, ?_⟩
    refine Outcome.bind_ok.2 ⟨entries, Outcome.mapError_ok.2 hEntries, ?_⟩
    exact Outcome.bind_ok.2 ⟨(), hValid, rfl⟩

/-- The scripts that the script behind a key leads to, in the order of its entries. -/
theorem mem_references {script : Script} {link : String} :
    link ∈ script.references config ↔
      ∃ entry ∈ script.entries, config.isScriptName entry.name = true ∧
        config.isGate entry.name = false ∧ Asset.key entry.name = link := by
  simp [references, and_assoc]

/-- What a loaded script leads to are keys that stay what they are. -/
theorem key_of_mem_references {script : Script} (h : load store key = .ok script) {link : String}
    (hLink : link ∈ script.references config) : Asset.key link = link := by
  obtain ⟨entries, hParses, rfl, -⟩ := load_ok.1 h
  obtain ⟨entry, hEntry, -, -, rfl⟩ := mem_references.1 hLink
  exact hParses.key_key_name hEntry

/-- What is wrong with the script of a key. -/
def fault? (store : AssetStore) (key : String) : Option LoadError :=
  match load store key with
  | .error fault => some fault
  | .ok _ => none

theorem fault?_of_ok {script : Script} (h : load store key = .ok script) :
    fault? store key = none := by
  rw [fault?, h]

theorem fault?_of_error {fault : LoadError} (h : load store key = .error fault) :
    fault? store key = some fault := by
  rw [fault?, h]

end Script

namespace NodeGraph

/-! ## Order -/

/-- What the script behind a key leads to; nothing, when there is none. -/
def links (config : Config) (store : AssetStore) (key : String) : List String :=
  match store.parse? key with
  | some entries => (Script.ofName key entries).references config
  | none => []

/-- The scripts in breadth-first order, from a level on through so many further levels. -/
def breadthFirst (config : Config) (store : AssetStore) : Nat → List String → List String
  | 0, level => level
  | levels + 1, level =>
    level ++ breadthFirst config store levels (level.flatMap (links config store))

/-- The scripts that count: the start script, and every script that an entry of one of them names,
the gate left out. -/
inductive Referenced (config : Config) (store : AssetStore) : String → Prop where
  | start : Referenced config store (Asset.key config.startScript)
  | follow {key : String} {entries : List Entry} {entry : Entry} (h : Referenced config store key)
    (hParses : store.ParsesTo key entries) (hEntry : entry ∈ entries)
    (hScript : config.isScriptName entry.name = true) (hGate : config.isGate entry.name = false) :
    Referenced config store (Asset.key entry.name)

/-- A queue that loads its first script and puts what it leads to behind the others, whether it has
seen it or not, meets a fault. -/
inductive FirstFailure (config : Config) (store : AssetStore) : List String → LoadError → Prop where
  | here {key : String} {queue : List String} {fault : LoadError}
    (h : Script.load store key = .error fault) : FirstFailure config store (key :: queue) fault
  | later {key : String} {queue : List String} {fault : LoadError} {script : Script}
    (h : Script.load store key = .ok script)
    (hLater : FirstFailure config store (queue ++ script.references config) fault) :
    FirstFailure config store (key :: queue) fault

variable {config : Config} {store : AssetStore}

theorem links_of_load {key : String} {script : Script} (h : Script.load store key = .ok script) :
    links config store key = script.references config := by
  obtain ⟨entries, hParses, rfl, -⟩ := Script.load_ok.1 h
  rw [links, AssetStore.parse?_eq_some.2 hParses]

/-- Scripts that are referenced lead to scripts that are referenced. -/
theorem Referenced.of_mem_links {key link : String} (h : Referenced config store key)
    (hLink : link ∈ links config store key) : Referenced config store link := by
  unfold links at hLink
  split at hLink
  · rename_i entries hParses
    obtain ⟨entry, hEntry, hScript, hGate, rfl⟩ := Script.mem_references.1 hLink
    exact h.follow (AssetStore.parse?_eq_some.1 hParses) hEntry hScript hGate
  · exact absurd hLink List.not_mem_nil

/-- Breadth-first order lists referenced scripts only. -/
theorem referenced_of_mem_breadthFirst {levels : Nat} {level : List String}
    (h : ∀ key ∈ level, Referenced config store key) :
    ∀ key ∈ breadthFirst config store levels level, Referenced config store key := by
  induction levels generalizing level with
  | zero => exact h
  | succ levels ih =>
    intro key hKey
    rcases List.mem_append.1 hKey with hHere | hLater
    · exact h key hHere
    · refine ih (fun link hLink => ?_) key hLater
      obtain ⟨source, hSource, hLink⟩ := List.mem_flatMap.1 hLink
      exact (h source hSource).of_mem_links hLink

/-- Referenced scripts have keys that stay what they are, if the start script has. -/
theorem Referenced.key_key {key : String} (h : Referenced config store key)
    (hStart : Asset.NoBlankAfterSeparator config.startScript) : Asset.key key = key := by
  cases h with
  | start => exact Asset.key_key hStart
  | follow _ hParses hEntry _ _ => exact hParses.key_key_name hEntry

/-- In the middle of a level, the queue holds the rest of the level and what the front of the level
leads to. -/
theorem FirstFailure.findSome?_append {queue : List String} {fault : LoadError}
    (h : FirstFailure config store queue fault) (rest next : List String)
    (hQueue : queue = rest ++ next) :
    ∃ levels, (rest ++ breadthFirst config store levels
      (next ++ rest.flatMap (links config store))).findSome? (Script.fault? store) =
        some fault := by
  -- along the queue; where the rest of a level is empty, the next level begins
  induction h generalizing rest next with
  | @here key queue fault hFault =>
    cases rest with
    | nil =>
      rw [List.nil_append] at hQueue
      subst hQueue
      refine ⟨0, ?_⟩
      show ((key :: queue) ++ []).findSome? (Script.fault? store) = some fault
      rw [List.append_nil, List.findSome?_cons, Script.fault?_of_error hFault]
    | cons first rest =>
      cases hQueue
      refine ⟨0, ?_⟩
      rw [List.cons_append, List.findSome?_cons, Script.fault?_of_error hFault]
  | @later key queue fault script hLoad _ ih =>
    have hLinks : links config store key = script.references config := links_of_load hLoad
    cases rest with
    | nil =>
      rw [List.nil_append] at hQueue
      subst hQueue
      obtain ⟨levels, hLevels⟩ := ih queue (script.references config) rfl
      refine ⟨levels + 1, ?_⟩
      rw [List.nil_append, List.flatMap_nil, List.append_nil, breadthFirst, List.flatMap_cons,
        hLinks, List.cons_append, List.findSome?_cons, Script.fault?_of_ok hLoad]
      exact hLevels
    | cons first rest =>
      cases hQueue
      obtain ⟨levels, hLevels⟩ :=
        ih rest (next ++ script.references config) (List.append_assoc _ _ _)
      refine ⟨levels, ?_⟩
      rw [List.cons_append, List.findSome?_cons, Script.fault?_of_ok hLoad, List.flatMap_cons,
        hLinks, ← List.append_assoc]
      exact hLevels

/-- **A queue meets the first fault in breadth-first order.** -/
theorem FirstFailure.findSome?_breadthFirst {queue : List String} {fault : LoadError}
    (h : FirstFailure config store queue fault) :
    ∃ levels, (breadthFirst config store levels queue).findSome? (Script.fault? store) =
      some fault := by
  obtain ⟨levels, hLevels⟩ := h.findSome?_append [] queue rfl
  refine ⟨levels, ?_⟩
  rwa [List.nil_append, List.flatMap_nil, List.append_nil] at hLevels

end NodeGraph
end BranchingMovie
