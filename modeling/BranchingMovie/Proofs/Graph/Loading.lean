import BranchingMovie.Proofs.Graph.Search
import BranchingMovie.Proofs.Word

/-!
# What loading a graph gives

`NodeGraph.load` either fails or gives the graph of exactly the scripts that are referenced.

* `search_ok_iff`: the search comes to an end exactly when every referenced script is sound.
* `get?_ofScripts`: of several scripts with one key the last one counts.
* `get?_toInt64`: the start index names an entry exactly when it is smaller than the size of the
  script, also where it is too large for a signed number.
* `load_spec` puts the parts together.
-/

namespace BranchingMovie

/-! ## Sound stores -/

namespace AssetStore

/-- Files are read into memory as a whole, where no list has more members than a signed number of 64
bits can count. -/
def FitsMemory (store : AssetStore) : Prop :=
  ∀ path bytes, store.read path = .ok bytes → (bytes.length : Int) ≤ Int64.maxValue.toInt

/-- There is a script behind the key, and its conditions are sound. -/
def Sound (store : AssetStore) (key : String) : Prop :=
  ∃ entries, store.ParsesTo key entries ∧ (Script.mk key entries).validate = .ok ()

variable {store : AssetStore} {key : String}

/-- Loading a key that stays what it is gives the script behind it, if that is sound. -/
theorem load_iff {script : Script} (hKey : Asset.key key = key) :
    Script.load store key = .ok script ↔ ∃ entries, store.ParsesTo key entries ∧
      script = ⟨key, entries⟩ ∧ script.validate = .ok () := by
  have hName : ∀ entries, Script.ofName key entries = ⟨key, entries⟩ := fun entries => by
    rw [Script.ofName, hKey]
  simp only [Script.load_ok, hName]

theorem sound_iff (hKey : Asset.key key = key) :
    store.Sound key ↔ ∃ script, Script.load store key = .ok script := by
  constructor
  · rintro ⟨entries, hParses, hValid⟩
    exact ⟨⟨key, entries⟩, (load_iff hKey).2 ⟨entries, hParses, rfl, hValid⟩⟩
  · rintro ⟨script, hLoad⟩
    obtain ⟨entries, hParses, rfl, hValid⟩ := (load_iff hKey).1 hLoad
    exact ⟨entries, hParses, hValid⟩

/-- No script behind a key has more entries than a signed number of 64 bits can count. -/
theorem FitsMemory.length_le (h : store.FitsMemory) {entries : List Entry}
    (hParses : store.ParsesTo key entries) : (entries.length : Int) ≤ Int64.maxValue.toInt := by
  obtain ⟨path, bytes, -, hRead, hEntries⟩ := hParses
  have hLength := Script.length_readBytes_le hEntries
  have hBytes := h path bytes hRead
  omega

end AssetStore

namespace NodeGraph

variable {config : Config} {store : AssetStore}

/-! ## The search from the start script -/

/-- The search that loading a graph begins with. -/
def search (config : Config) (store : AssetStore) : Except LoadError (List Script) :=
  loadFrom config store (store.data.files.map (·.1)) [Asset.key config.startScript]

theorem searching_start (hStart : Asset.NoBlankAfterSeparator config.startScript) :
    Searching config store (store.data.files.map (·.1)) [] [Asset.key config.startScript] :=
  .start fun key hKey => by
    rw [List.mem_singleton] at hKey
    rw [hKey, Asset.key_key hStart]

/-- A search that comes to an end has loaded every referenced script. -/
theorem Referenced.hasLoaded {scripts : List Script} {key : String}
    (h : Referenced config store key) (hStart : Asset.NoBlankAfterSeparator config.startScript)
    (hSearch : search config store = .ok scripts) : HasLoaded store scripts key := by
  obtain ⟨hPending, hLinks⟩ := loadFrom_closed (searching_start hStart) hSearch
  induction h with
  | start => exact (hPending _ (List.mem_singleton_self _)).resolve_left List.not_mem_nil
  | @follow key entries entry _ hParses hEntry hScript hGate ih =>
    obtain ⟨script, hMem, hLoad⟩ := ih
    refine (hLinks script hMem _ ?_).resolve_left List.not_mem_nil
    obtain ⟨others, hOthers, rfl, -⟩ := Script.load_ok.1 hLoad
    obtain rfl := hParses.unique hOthers
    exact Script.mem_references.2 ⟨entry, hEntry, hScript, hGate, rfl⟩

/-- A search that comes to an end has loaded referenced scripts only. -/
theorem exists_referenced {scripts : List Script} {script : Script}
    (hStart : Asset.NoBlankAfterSeparator config.startScript)
    (hSearch : search config store = .ok scripts) (hScript : script ∈ scripts) :
    ∃ key, Referenced config store key ∧ Script.load store key = .ok script := by
  refine loadFrom_mem (fun key hKey => ?_) (fun key other hKey hLoad link hLink => ?_) hSearch
    script hScript
  · rw [List.mem_singleton] at hKey
    subst hKey
    exact ⟨.start, Asset.key_key hStart⟩
  · rw [← links_of_load hLoad] at hLink
    exact hKey.of_mem_links hLink

/-- A search that fails meets the first fault in breadth-first order, and that is the fault of a
referenced script. -/
theorem findSome?_of_search_error {fault : LoadError}
    (hStart : Asset.NoBlankAfterSeparator config.startScript)
    (hSearch : search config store = .error fault) :
    ∃ levels, (breadthFirst config store levels [Asset.key config.startScript]).findSome?
      (Script.fault? store) = some fault :=
  (loadFrom_error (searching_start hStart) (.refl [] _) hSearch).findSome?_breadthFirst

/-- **The search comes to an end exactly when every referenced script is sound.** -/
theorem search_ok_iff (hStart : Asset.NoBlankAfterSeparator config.startScript) :
    (∃ scripts, search config store = .ok scripts) ↔
      ∀ key, Referenced config store key → store.Sound key := by
  constructor
  · rintro ⟨scripts, hSearch⟩ key hKey
    obtain ⟨script, -, hLoad⟩ := hKey.hasLoaded hStart hSearch
    exact (AssetStore.sound_iff (hKey.key_key hStart)).2 ⟨script, hLoad⟩
  · intro hSound
    cases hSearch : search config store with
    | ok scripts => exact ⟨scripts, rfl⟩
    | error fault =>
      obtain ⟨levels, hFault⟩ := findSome?_of_search_error hStart hSearch
      obtain ⟨key, hKey, hFails⟩ := List.exists_of_findSome?_eq_some hFault
      have hReferenced : Referenced config store key := by
        refine referenced_of_mem_breadthFirst (fun k hk => ?_) key hKey
        rw [List.mem_singleton.1 hk]
        exact .start
      obtain ⟨script, hLoad⟩ :=
        (AssetStore.sound_iff (hReferenced.key_key hStart)).1 (hSound key hReferenced)
      rw [Script.fault?_of_ok hLoad] at hFails
      cases hFails

/-! ## The table of scripts -/

theorem get?_foldl_insert (scripts : List Script) (table : Table String Script) (key : String) :
    (scripts.foldl (fun table script => table.insert script.name script) table).get? key =
      (scripts.reverse.find? fun script => script.name = key).or (table.get? key) := by
  induction scripts generalizing table with
  | nil => rfl
  | cons script scripts ih =>
    rw [List.foldl_cons, ih, Table.get?_insert, List.reverse_cons, List.find?_append,
      Option.or_assoc, List.find?_singleton]
    by_cases hName : script.name = key
    · rw [if_pos hName, if_pos (decide_eq_true hName), Option.some_or]
    · rw [if_neg hName, if_neg (by rwa [decide_eq_true_iff]), Option.none_or]

/-- Of several scripts with one key the last one counts. -/
theorem get?_ofScripts (scripts : List Script) (start : NodePointer) (key : String) :
    (ofScripts scripts start).table.get? key =
      scripts.reverse.find? fun script => script.name = key := by
  rw [ofScripts, get?_foldl_insert, Table.get?_empty, Option.or_none]

/-- The table of a search that came to an end holds the referenced scripts under their keys. -/
theorem get?_of_search {scripts : List Script}
    (hStart : Asset.NoBlankAfterSeparator config.startScript)
    (hSearch : search config store = .ok scripts) (start : NodePointer) (key : String)
    (script : Script) :
    (ofScripts scripts start).table.get? key = some script ↔
      Referenced config store key ∧
        ∃ entries, store.ParsesTo key entries ∧ script = ⟨key, entries⟩ := by
  have hListed : ∀ other ∈ scripts, ∃ k entries, Referenced config store k ∧
      store.ParsesTo k entries ∧ other = ⟨k, entries⟩ := by
    intro other hOther
    obtain ⟨k, hReferenced, hLoad⟩ := exists_referenced hStart hSearch hOther
    obtain ⟨entries, hParses, hSame, -⟩ :=
      (AssetStore.load_iff (hReferenced.key_key hStart)).1 hLoad
    exact ⟨k, entries, hReferenced, hParses, hSame⟩
  rw [get?_ofScripts]
  constructor
  · intro hFind
    obtain ⟨k, entries, hReferenced, hParses, rfl⟩ :=
      hListed script (List.mem_reverse.1 (List.mem_of_find?_eq_some hFind))
    have hName := List.find?_some hFind
    rw [decide_eq_true_iff] at hName
    obtain rfl : k = key := hName
    exact ⟨hReferenced, entries, hParses, rfl⟩
  · rintro ⟨hReferenced, entries, hParses, rfl⟩
    obtain ⟨loaded, hMem, hLoad⟩ := hReferenced.hasLoaded hStart hSearch
    obtain ⟨others, -, rfl, -⟩ := (AssetStore.load_iff (hReferenced.key_key hStart)).1 hLoad
    cases hFind : scripts.reverse.find? fun script => script.name = key with
    | none =>
      have hNone := List.find?_eq_none.1 hFind _ (List.mem_reverse.2 hMem)
      exact absurd (decide_eq_true rfl) hNone
    | some found =>
      obtain ⟨k, foundEntries, -, hFound, rfl⟩ :=
        hListed found (List.mem_reverse.1 (List.mem_of_find?_eq_some hFind))
      have hName := List.find?_some hFind
      rw [decide_eq_true_iff] at hName
      obtain rfl : k = key := hName
      rw [hFound.unique hParses]

/-! ## The start pointer -/

/-- A start index names an entry exactly when it is smaller than the size of the script. -/
theorem get?_toInt64 {script : Script}
    (hSize : (script.entries.length : Int) ≤ Int64.maxValue.toInt) (index : UInt64) :
    (∃ entry, script.get? index.toInt64 = some entry) ↔ index.toNat < script.entries.length := by
  unfold Script.get?
  by_cases hIndex : (index.toNat : Int) ≤ Int64.maxValue.toInt
  · have hInt := toInt_toInt64 hIndex
    have hPositive : ¬ index.toInt64 < 0 := by
      rw [Int64.lt_iff_toInt_lt, hInt, Int64.toInt_zero]
      omega
    rw [if_neg hPositive, hInt, Int.toNat_natCast]
    constructor
    · rintro ⟨entry, hEntry⟩
      exact (List.getElem?_eq_some_iff.1 hEntry).1
    · intro hLess
      exact ⟨script.entries[index.toNat], List.getElem?_eq_getElem hLess⟩
  · rw [if_pos (toInt64_neg (Int.not_le.1 hIndex))]
    constructor
    · rintro ⟨entry, hEntry⟩
      cases hEntry
    · intro hLess
      omega

theorem lookup_start {entries : List Entry} {graph : NodeGraph} {key : String}
    (hTable : graph.table.get? key = some ⟨key, entries⟩) (index : Int64) :
    (∃ entry, graph.lookup ⟨key, index⟩ = .ok entry) ↔
      ∃ entry, (Script.mk key entries).get? index = some entry := by
  rw [lookup]
  simp only [hTable]
  cases (Script.mk key entries).get? index with
  | none => simp
  | some entry => simp

/-- Loading a graph is the search, and then a look at the start pointer. -/
theorem load_eq (hStart : Asset.NoBlankAfterSeparator config.startScript) :
    load config store = (do
      let scripts ← search config store
      let start : NodePointer := ⟨Asset.key config.startScript, config.startIndex.toInt64⟩
      match (ofScripts scripts start).lookup start with
      | .ok _ => return ofScripts scripts start
      | .error _ => throw (.badStart start.script config.startIndex)) := by
  have hPointer : NodePointer.ofName (Asset.key config.startScript) config.startIndex.toInt64 =
      ⟨Asset.key config.startScript, config.startIndex.toInt64⟩ := by
    rw [NodePointer.ofName, Asset.key_key hStart]
  rw [← hPointer]
  rfl

/-- What the search finds is the graph, when there is an entry under the start pointer. -/
theorem load_of_loadFrom {scripts : List Script} {key : String} {index : Int64} {entry : Entry}
    (hStart : Asset.key config.startScript = key) (hIndex : config.startIndex.toInt64 = index)
    (hKey : Asset.key key = key)
    (hSearch : loadFrom config store (store.data.files.map (·.1)) [key] = .ok scripts)
    (hEntry : (ofScripts scripts ⟨key, index⟩).lookup ⟨key, index⟩ = .ok entry) :
    load config store = .ok (ofScripts scripts ⟨key, index⟩) := by
  have hPointer : NodePointer.ofName key index = ⟨key, index⟩ := by
    rw [NodePointer.ofName, hKey]
  unfold load
  rw [hStart]
  refine Outcome.bind_ok.2 ⟨scripts, hSearch, ?_⟩
  simp only [hIndex, hPointer, hEntry]
  rfl

/-- A start script that leads to no other is a graph of its own. -/
theorem load_of_lone_script {script : Script} {path : String} {index : Int64} {entry : Entry}
    (hStart : Asset.key config.startScript = script.name)
    (hIndex : config.startIndex.toInt64 = index) (hKey : Asset.key script.name = script.name)
    (hLocate : store.data.locate script.name = .ok path)
    (hFile : script.name ∈ store.data.files.map (·.1))
    (hLoad : Script.load store script.name = .ok script)
    (hLinks : script.references config = [])
    (hEntry : (ofScripts [script] ⟨script.name, index⟩).lookup ⟨script.name, index⟩ = .ok entry) :
    load config store = .ok (ofScripts [script] ⟨script.name, index⟩) :=
  load_of_loadFrom hStart hIndex hKey (loadFrom_of_no_links hKey hLocate hFile hLoad hLinks) hEntry

/-- The start pointer names an entry exactly when the start index is smaller than the size of the
start script. -/
theorem lookup_of_search {scripts : List Script} {entries : List Entry}
    (hStart : Asset.NoBlankAfterSeparator config.startScript) (hFits : store.FitsMemory)
    (hSearch : search config store = .ok scripts)
    (hParses : store.ParsesTo (Asset.key config.startScript) entries) :
    let start : NodePointer := ⟨Asset.key config.startScript, config.startIndex.toInt64⟩
    (∃ entry, (ofScripts scripts start).lookup start = .ok entry) ↔
      config.startIndex.toNat < entries.length := by
  intro start
  have hTable : (ofScripts scripts start).table.get? (Asset.key config.startScript) =
      some ⟨Asset.key config.startScript, entries⟩ :=
    (get?_of_search hStart hSearch start _ _).2 ⟨.start, entries, hParses, rfl⟩
  rw [lookup_start hTable]
  exact get?_toInt64 (hFits.length_le hParses) config.startIndex

/-- When loading succeeds, the search has come to an end and the start index is small enough. -/
theorem load_ok_iff (hStart : Asset.NoBlankAfterSeparator config.startScript)
    (hFits : store.FitsMemory) {graph : NodeGraph} :
    load config store = .ok graph ↔
      ∃ scripts entries, search config store = .ok scripts ∧
        store.ParsesTo (Asset.key config.startScript) entries ∧
        config.startIndex.toNat < entries.length ∧
        graph = ofScripts scripts ⟨Asset.key config.startScript, config.startIndex.toInt64⟩ := by
  rw [load_eq hStart]
  constructor
  · intro h
    obtain ⟨scripts, hSearch, h⟩ := Outcome.bind_ok.1 h
    obtain ⟨entries, hParses, -⟩ := (search_ok_iff hStart).1 ⟨scripts, hSearch⟩ _ .start
    have hLookup := lookup_of_search hStart hFits hSearch hParses
    simp only at h
    split at h
    · rename_i entry hEntry
      cases h
      exact ⟨scripts, entries, hSearch, hParses, hLookup.1 ⟨entry, hEntry⟩, rfl⟩
    · cases h
  · rintro ⟨scripts, entries, hSearch, hParses, hIndex, rfl⟩
    obtain ⟨entry, hEntry⟩ := (lookup_of_search hStart hFits hSearch hParses).2 hIndex
    refine Outcome.bind_ok.2 ⟨scripts, hSearch, ?_⟩
    simp only [hEntry]
    rfl

/-- **Loading a graph gives exactly the scripts that are referenced.**  Loading comes to an end for
every folder and all settings, however scripts name each other.  It succeeds exactly when there is
a sound script behind every referenced key and the start index is smaller than the size of the start
script.  Then the graph maps the referenced keys, and no others, to what stands behind them, and its
start pointer is the start script with the start index.  When some script is not sound, loading
fails with what is wrong with the first such script in breadth-first order. -/
theorem load_spec (hStart : Asset.NoBlankAfterSeparator config.startScript)
    (hFits : store.FitsMemory) :
    ((∃ graph, load config store = .ok graph) ↔
      (∀ key, Referenced config store key → store.Sound key) ∧
      ∃ entries, store.ParsesTo (Asset.key config.startScript) entries ∧
        config.startIndex.toNat < entries.length) ∧
    (∀ graph, load config store = .ok graph →
      (∀ key script, graph.table.get? key = some script ↔
        Referenced config store key ∧
          ∃ entries, store.ParsesTo key entries ∧ script = ⟨key, entries⟩) ∧
      graph.start.script = Asset.key config.startScript ∧
      graph.start.index.toInt = config.startIndex.toNat) ∧
    ((∃ key, Referenced config store key ∧ ¬ store.Sound key) →
      ∃ levels fault,
        (breadthFirst config store levels [Asset.key config.startScript]).findSome?
          (Script.fault? store) = some fault ∧
        load config store = .error fault) := by
  refine ⟨⟨?_, ?_⟩, ?_, ?_⟩
  · rintro ⟨graph, hLoad⟩
    obtain ⟨scripts, entries, hSearch, hParses, hIndex, -⟩ := (load_ok_iff hStart hFits).1 hLoad
    exact ⟨(search_ok_iff hStart).1 ⟨scripts, hSearch⟩, entries, hParses, hIndex⟩
  · rintro ⟨hSound, entries, hParses, hIndex⟩
    obtain ⟨scripts, hSearch⟩ := (search_ok_iff hStart).2 hSound
    exact ⟨_, (load_ok_iff hStart hFits).2 ⟨scripts, entries, hSearch, hParses, hIndex, rfl⟩⟩
  · intro graph hLoad
    obtain ⟨scripts, entries, hSearch, hParses, hIndex, rfl⟩ := (load_ok_iff hStart hFits).1 hLoad
    refine ⟨get?_of_search hStart hSearch _, rfl, toInt_toInt64 ?_⟩
    have hSize := hFits.length_le hParses
    omega
  · rintro ⟨key, hKey, hUnsound⟩
    rw [load_eq hStart]
    cases hSearch : search config store with
    | error fault =>
      obtain ⟨levels, hFault⟩ := findSome?_of_search_error hStart hSearch
      exact ⟨levels, fault, hFault, rfl⟩
    | ok scripts => exact absurd ((search_ok_iff hStart).1 ⟨scripts, hSearch⟩ key hKey) hUnsound

/-- A folder with one script, whose only entry switches to the script itself. -/
def selfNaming : AssetStore where
  data := ⟨[("intro.nod", "film/INTRO.NOD")]⟩
  read path :=
    if path = "film/INTRO.NOD" then
      .ok (Text.Utf8.encode "0 Intro.nod 4 0 0 0 0 0 0 0 0 0 0 0 0 0 0 0 0 0 0 0 0 0 0 0".toList)
    else .error .notFound

/-- The script that names itself is loaded. -/
theorem load_spec_selfNaming :
    let config : Config := { startScript := "Intro.nod" }
    Asset.NoBlankAfterSeparator config.startScript ∧ selfNaming.FitsMemory ∧
      ∃ graph, load config selfNaming = .ok graph := by
  intro config
  have hBlank : ("Intro.nod".toList.all fun c => !Text.isBlank c) = true := by decide +kernel
  have hStart : Asset.NoBlankAfterSeparator config.startScript :=
    Asset.noBlankAfterSeparator_of_no_blank fun c hc => by
      simpa using List.all_eq_true.1 hBlank c hc
  have hFits : selfNaming.FitsMemory := by
    intro path bytes h
    simp only [selfNaming] at h
    split at h
    · cases h
      decide +kernel
    · cases h
  let entry : Entry :=
    ⟨0, "Intro.nod", #v[4, 0, 0, 0, 0, 0, 0, 0, 0, 0, 0, 0, 0, 0, 0, 0, 0, 0, 0, 0, 0, 0, 0, 0]⟩
  have hKey : Asset.key config.startScript = "intro.nod" := by decide +kernel
  have hParses : selfNaming.ParsesTo "intro.nod" [entry] :=
    AssetStore.parse?_eq_some.1 (by decide +kernel)
  have hOnly : ∀ key, Referenced config selfNaming key → key = "intro.nod" := by
    intro key h
    induction h with
    | start => exact hKey
    | @follow key entries named _ hOthers hNamed _ _ ih =>
      subst ih
      obtain rfl := hParses.unique hOthers
      obtain rfl := List.mem_singleton.1 hNamed
      exact hKey
  refine ⟨hStart, hFits, (load_spec hStart hFits).1.2 ⟨fun key h => ?_, [entry], ?_, ?_⟩⟩
  · rw [hOnly key h]
    exact ⟨[entry], hParses, Outcome.toOption_eq_some.1 (by decide +kernel)⟩
  · rw [hKey]
    exact hParses
  · decide

end NodeGraph
end BranchingMovie
