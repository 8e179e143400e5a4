import BranchingMovie.HotZone.Catalog
import BranchingMovie.Proofs.Graph.BreadthFirst
import BranchingMovie.Proofs.Script.Respelling

/-!
# Films in another spelling

Two folders hold the same files, except that names in some scripts are spelled in another way
(`AssetStore.Respells`).  The graphs that are loaded from them are the same once every name is
replaced by its key (`NodeGraph.load_respelled`), or both are refused for the same reason.  So are
the click maps (`HotZoneCatalog.load_respelled`), as long as no click map is one of the scripts that
are spelled in another way.
-/

namespace BranchingMovie

/-! ## Tables -/

namespace Table

variable {κ ν μ : Type} [LT κ] [DecidableLT κ] [DecidableEq κ]

omit [LT κ] [DecidableLT κ] [DecidableEq κ] in
/-- The table with something made of each value. -/
def mapValues (f : ν → μ) (table : Table κ ν) : Table κ μ :=
  ⟨table.pairs.map fun pair => (pair.1, f pair.2)⟩

theorem mapValues_insert (f : ν → μ) (table : Table κ ν) (key : κ) (value : ν) :
    (table.insert key value).mapValues f = (table.mapValues f).insert key (f value) := by
  have hPairs : ∀ pairs : List (κ × ν),
      (insertPair key value pairs).map (fun pair => (pair.1, f pair.2)) =
        insertPair key (f value) (pairs.map fun pair => (pair.1, f pair.2)) := by
    intro pairs
    induction pairs with
    | nil => rfl
    | cons pair pairs ih =>
      simp only [insertPair, List.map_cons]
      split
      · rfl
      · split
        · rfl
        · rw [List.map_cons, ih]
  exact congrArg Table.mk (hPairs table.pairs)

omit [LT κ] [DecidableLT κ] in
@[simp] theorem get?_mapValues (f : ν → μ) (table : Table κ ν) (key : κ) :
    (table.mapValues f).get? key = (table.get? key).map f := by
  have hPairs : ∀ pairs : List (κ × ν),
      lookup key (pairs.map fun pair => (pair.1, f pair.2)) = (lookup key pairs).map f := by
    intro pairs
    induction pairs with
    | nil => rfl
    | cons pair pairs ih =>
      simp only [lookup, List.map_cons]
      split
      · rfl
      · exact ih
  exact hPairs table.pairs

omit [LT κ] [DecidableLT κ] [DecidableEq κ] in
theorem values_mapValues (f : ν → μ) (table : Table κ ν) :
    (table.mapValues f).values = table.values.map f := by
  rw [values, mapValues, List.map_map, values, List.map_map]
  rfl

end Table

/-! ## Graphs with keys for names -/

/-- The graph with the keys of all names in the place of the names. -/
def NodeGraph.keyed (graph : NodeGraph) : NodeGraph :=
  { graph with table := graph.table.mapValues Script.keyed }

theorem Script.get?_keyed (script : Script) (index : Int64) :
    script.keyed.get? index = (script.get? index).map Entry.keyed := by
  rw [get?, get?]
  split
  · rfl
  · exact List.getElem?_map

namespace NodeGraph

@[simp] theorem start_keyed (graph : NodeGraph) : graph.keyed.start = graph.start := rfl

theorem keyed_ofScripts (scripts : List Script) (start : NodePointer) :
    (ofScripts scripts start).keyed = ofScripts (scripts.map Script.keyed) start := by
  have hTable : ∀ table : Table String Script,
      (scripts.foldl (fun table script => table.insert script.name script) table).mapValues
          Script.keyed =
        (scripts.map Script.keyed).foldl (fun table script => table.insert script.name script)
          (table.mapValues Script.keyed) := by
    induction scripts with
    | nil => exact fun _ => rfl
    | cons script scripts ih =>
      intro table
      rw [List.foldl_cons, ih, Table.mapValues_insert]
      rfl
  exact congrArg (NodeGraph.mk start) (hTable Table.empty)

/-- The entry under a pointer is there in any spelling, or in none. -/
theorem lookup_keyed (graph : NodeGraph) (pointer : NodePointer) :
    graph.keyed.lookup pointer = (graph.lookup pointer).map Entry.keyed := by
  have hScript : graph.keyed.table.get? pointer.script =
      (graph.table.get? pointer.script).map Script.keyed := Table.get?_mapValues _ _ _
  rw [lookup, lookup, hScript]
  cases graph.table.get? pointer.script with
  | none => rfl
  | some script =>
    have hSize : script.keyed.size = script.size := List.length_map _
    simp only [Option.map_some, Script.get?_keyed, hSize]
    cases script.get? pointer.index <;> rfl

/-- The still frames are the same ones. -/
theorem stillFrames_keyed (graph : NodeGraph) :
    graph.keyed.stillFrames = graph.stillFrames.map (Prod.map id Entry.keyed) := by
  have hScripts : graph.keyed.scripts = graph.scripts.map Script.keyed :=
    Table.values_mapValues _ _
  rw [stillFrames, hScripts, List.flatMap_map, stillFrames, List.map_flatMap]
  refine List.flatMap_congr fun script _ => ?_
  have hOpcode : ((fun entry : Entry => Opcode.ofCode? entry.opcode == some .stillFrame) ∘
      Entry.keyed) = fun entry => Opcode.ofCode? entry.opcode == some .stillFrame := by
    funext entry
    rw [Function.comp_apply, Entry.opcode_keyed]
  show ((script.entries.map Entry.keyed).filter _).map _ = _
  rw [List.filter_map, hOpcode, List.map_map, List.map_map]
  rfl

end NodeGraph

/-! ## Folders in another spelling -/

/-- The folders have the same files, except that names in some scripts are spelled in another
way. -/
structure AssetStore.Respells (store other : AssetStore) : Prop where
  data : other.data = store.data
  /-- A file of the one cannot be read when that of the other cannot, or they have the same words,
  up to the spelling of names. -/
  read : ∀ path,
    (∃ fault, store.read path = .error fault ∧ other.read path = .error fault) ∨
      ∃ bytes content, store.read path = .ok bytes ∧ other.read path = .ok content ∧
        Script.Respells (Text.words (Text.Utf8.decodeLossy bytes))
          (Text.words (Text.Utf8.decodeLossy content))

variable {config : Config} {store other : AssetStore}

/-- What is fetched for a name is read alike. -/
theorem AssetStore.Respells.fetch (h : store.Respells other) (name : String) :
    (other.fetch name).map (fun bytes => (Script.readBytes bytes).map (List.map Entry.keyed)) =
      (store.fetch name).map fun bytes =>
        (Script.readBytes bytes).map (List.map Entry.keyed) := by
  rw [AssetStore.fetch, AssetStore.fetch, h.data]
  cases store.data.locate name with
  | error cause => rfl
  | ok path =>
    obtain ⟨fault, hStore, hOther⟩ | ⟨bytes, content, hStore, hOther, hWords⟩ := h.read path
    · simp only [hStore, hOther]
    · simp only [hStore, hOther]
      exact congrArg Except.ok (Script.readBytes_respelled hWords)

/-- A script is loaded alike. -/
theorem Script.load_respelled (h : store.Respells other) (name : String) :
    (Script.load other name).map Script.keyed = (Script.load store name).map Script.keyed := by
  refine Outcome.map_bind_congr (h.fetch name) fun content bytes _ _ hRead => ?_
  have hEntries : ((Script.readBytes content).mapError
        fun fault => LoadError.format name (.script fault)).map (List.map Entry.keyed) =
      ((Script.readBytes bytes).mapError
        fun fault => LoadError.format name (.script fault)).map (List.map Entry.keyed) := by
    rw [Outcome.map_mapError, Outcome.map_mapError, hRead]
  refine Outcome.map_bind_congr hEntries fun others entries _ _ hKeyed => ?_
  have hScript : (ofName name others).keyed = (ofName name entries).keyed :=
    congrArg (Script.mk (Asset.key name)) hKeyed
  have hValid : (ofName name others).validate = (ofName name entries).validate := by
    rw [← validate_keyed, hScript, validate_keyed]
  show ((ofName name others).validate >>= fun _ => pure (ofName name others)).map Script.keyed =
    ((ofName name entries).validate >>= fun _ => pure (ofName name entries)).map Script.keyed
  rw [hValid]
  cases (ofName name entries).validate with
  | error fault => rfl
  | ok _ => exact congrArg Except.ok hScript

/-- A loaded script has names without blanks. -/
theorem Script.hasPlainNames_of_load {name : String} {script : Script}
    (h : Script.load store name = .ok script) : HasPlainNames script.entries := by
  obtain ⟨entries, ⟨_, _, -, -, hEntries⟩, rfl, -⟩ := load_ok.1 h
  exact hasPlainNames_of_readBytes hEntries

namespace NodeGraph

/-- The search visits the same scripts. -/
theorem loadFrom_respelled (h : store.Respells other)
    (hSuffix : ∀ c ∈ config.scriptSuffix.toList, Asset.isSeparator c = false)
    (unvisited pending : List String) :
    (loadFrom config other unvisited pending).map (List.map Script.keyed) =
      (loadFrom config store unvisited pending).map (List.map Script.keyed) := by
  induction unvisited, pending using loadFrom.induct config store with
  | case1 unvisited => rw [loadFrom, loadFrom]
  | case2 unvisited name pending cause hMissing =>
    rw [loadFrom, loadFrom, h.data, hMissing]
  | case3 unvisited name pending path hFound hNew ih =>
    rw [loadFrom, loadFrom, h.data, hFound]
    simp only [dif_pos hNew]
    refine Outcome.map_bind_congr (Script.load_respelled h name)
      fun script first hScript hFirst hKeyed => ?_
    have hLinks : script.references config = first.references config :=
      Script.references_congr hSuffix (Script.hasPlainNames_of_load hFirst)
        (Script.hasPlainNames_of_load hScript) (congrArg Script.entries hKeyed)
    rw [hLinks]
    refine Outcome.map_bind_congr (ih first) fun scripts rest _ _ hRest => ?_
    show Except.ok (script.keyed :: scripts.map Script.keyed) =
      Except.ok (first.keyed :: rest.map Script.keyed)
    rw [hKeyed, hRest]
  | case4 unvisited name pending path hFound hOld ih =>
    rw [loadFrom, loadFrom, h.data, hFound]
    simp only [dif_neg hOld]
    exact ih

/-- **A graph is loaded alike in every spelling.** -/
theorem load_respelled (h : store.Respells other)
    (hSuffix : ∀ c ∈ config.scriptSuffix.toList, Asset.isSeparator c = false) :
    (load config other).map keyed = (load config store).map keyed := by
  rw [load, load, h.data]
  refine Outcome.map_bind_congr (loadFrom_respelled h hSuffix _ _)
    fun others scripts _ _ hScripts => ?_
  generalize NodePointer.ofName (Asset.key config.startScript) config.startIndex.toInt64 = start
  have hGraph : (ofScripts others start).keyed = (ofScripts scripts start).keyed := by
    rw [keyed_ofScripts, keyed_ofScripts, hScripts]
  have hEntry : ((ofScripts others start).lookup start).map Entry.keyed =
      ((ofScripts scripts start).lookup start).map Entry.keyed := by
    rw [← lookup_keyed, ← lookup_keyed, hGraph]
  obtain ⟨fault, hOther, hStore⟩ | ⟨entry, first, hOther, hStore, -⟩ := Outcome.map_eq_map hEntry
  · simp only [hOther, hStore]
  · simp only [hOther, hStore]
    exact congrArg Except.ok hGraph

end NodeGraph

/-! ## Click maps -/

/-- The click maps of still frames are the same files in both folders. -/
def AssetStore.KeepsClickMaps (config : Config) (store other : AssetStore)
    (frames : List (String × Entry)) : Prop :=
  ∀ frame ∈ frames, ∀ path,
    store.data.locate (config.hotZoneName (Asset.key frame.2.name)) = .ok path →
      other.read path = store.read path

namespace HotZoneCatalog

/-- A click map that is the same file in both folders is read alike. -/
theorem require_respelled (h : store.Respells other) (clip : String)
    (hMap : ∀ path, store.data.locate (config.hotZoneName clip) = .ok path →
      other.read path = store.read path) (catalog : HotZoneCatalog) :
    catalog.require config other clip = catalog.require config store clip := by
  have hFetch : other.fetch (config.hotZoneName clip) =
      store.fetch (config.hotZoneName clip) := by
    rw [AssetStore.fetch, AssetStore.fetch, h.data]
    cases hPath : store.data.locate (config.hotZoneName clip) with
    | error cause => rfl
    | ok path => simp only [hMap path hPath]
  simp only [require, readIndex, hFetch, h.data]

/-- A warning names the entry by its number and its clip by the key. -/
theorem deadSlots_keyed (catalog : HotZoneCatalog) (script : String) (entry : Entry)
    (clip : String) :
    catalog.deadSlots script entry.keyed clip = catalog.deadSlots script entry clip := by
  have hText : deadSlot script entry.keyed clip = deadSlot script entry clip := by
    funext slot
    unfold deadSlot
    rw [Entry.index_keyed]
  simp only [deadSlots, hText, Entry.slotOffset?_keyed]

/-- Click maps are collected alike, when none of them is spelled in another way. -/
theorem loadFrames_respelled (h : store.Respells other) {frames others : List (String × Entry)}
    (hFrames : others.map (Prod.map id Entry.keyed) = frames.map (Prod.map id Entry.keyed))
    (hMaps : store.KeepsClickMaps config other frames) (catalog : HotZoneCatalog) :
    catalog.loadFrames config other others = catalog.loadFrames config store frames := by
  induction frames generalizing others catalog with
  | nil =>
    obtain rfl := List.map_eq_nil_iff.1 hFrames
    rfl
  | cons frame frames ih =>
    obtain ⟨⟨script, first⟩, rest, rfl, hFirst, hRest⟩ := List.map_eq_cons_iff.1 hFrames
    obtain ⟨name, entry⟩ := frame
    obtain ⟨hName, hKeyed⟩ := Prod.mk.inj hFirst
    obtain rfl : script = name := hName
    obtain ⟨-, hKey, -⟩ := Entry.keyed_eq_iff.1 hKeyed
    have hTail := ih hRest fun frame hFrame => hMaps frame (List.mem_cons_of_mem _ hFrame)
    have hRequire := require_respelled h (Asset.key entry.name)
      (hMaps (script, entry) List.mem_cons_self) catalog
    have hSlots : ∀ found : HotZoneCatalog,
        found.deadSlots script first (Asset.key entry.name) =
          found.deadSlots script entry (Asset.key entry.name) := by
      intro found
      rw [← deadSlots_keyed, hKeyed, deadSlots_keyed]
    rw [loadFrames, loadFrames, hKey, hRequire]
    simp only [hSlots, hTail]

/-- **Click maps are loaded alike in every spelling**, when none of them is spelled in another
way. -/
theorem load_respelled (h : store.Respells other) {graph respelled : NodeGraph}
    (hGraph : respelled.keyed = graph.keyed)
    (hMaps : store.KeepsClickMaps config other graph.stillFrames) :
    load config other respelled = load config store graph := by
  refine loadFrames_respelled h ?_ hMaps empty
  rw [← NodeGraph.stillFrames_keyed, ← NodeGraph.stillFrames_keyed, hGraph]

end HotZoneCatalog
end BranchingMovie
