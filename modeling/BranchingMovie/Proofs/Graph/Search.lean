import BranchingMovie.Proofs.Graph.BreadthFirst

/-!
# The search

`NodeGraph.loadFrom` visits each file once.  `Searching` is what it keeps true of the keys that it
has visited: they are all loaded, and what they lead to was visited or waits.

* When the search comes to an end, it has loaded what it was asked for and what that leads to
  (`loadFrom_closed`), and nothing else (`loadFrom_mem`).
* When it fails, so does a queue that forgets what it has seen (`loadFrom_error`).  That queue is
  `Thinned` to the one of the search: it holds some keys more, which were visited before or come
  twice.
-/

namespace BranchingMovie.NodeGraph

variable {config : Config} {store : AssetStore}

/-! ## What the search keeps true -/

/-- The search is under way: keys that were visited, and keys that wait. -/
structure Searching (config : Config) (store : AssetStore)
    (unvisited visited pending : List String) : Prop where
  keys : ∀ key ∈ pending, Asset.key key = key
  seen : ∀ key path, Asset.key key = key → store.data.locate key = .ok path → key ∉ unvisited →
    key ∈ visited
  loaded : ∀ key ∈ visited, ∃ script, Script.load store key = .ok script ∧
    ∀ link ∈ script.references config, link ∈ visited ∨ link ∈ pending

/-- The first key that waits may be counted among those that were visited. -/
theorem mem_cons_or_mem {visited pending : List String} {key k : String}
    (h : k ∈ visited ∨ k ∈ key :: pending) : k ∈ key :: visited ∨ k ∈ pending := by
  rcases h with hVisited | hPending
  · exact .inl (List.mem_cons_of_mem key hVisited)
  · rcases List.mem_cons.1 hPending with rfl | hRest
    · exact .inl List.mem_cons_self
    · exact .inr hRest

theorem mem_of_pathOf {key path : String} {files : List (String × String)}
    (h : DataDir.pathOf key files = some path) : key ∈ files.map (·.1) := by
  induction files with
  | nil => cases h
  | cons file files ih =>
    rw [DataDir.pathOf] at h
    split at h
    · rename_i hKey
      exact hKey ▸ List.mem_cons_self
    · exact List.mem_cons_of_mem _ (ih h)

/-- At first no file was visited. -/
theorem Searching.start {pending : List String} (h : ∀ key ∈ pending, Asset.key key = key) :
    Searching config store (store.data.files.map (·.1)) [] pending where
  keys := h
  seen key path hKey hLocate hUnseen := by
    have hPath := DataDir.locate_ok_iff.1 hLocate
    rw [hKey] at hPath
    exact absurd (mem_of_pathOf hPath) hUnseen
  loaded key hKey := absurd hKey List.not_mem_nil

/-- A key that was visited is passed over. -/
theorem Searching.skip {unvisited visited pending : List String} {key : String}
    (h : Searching config store unvisited visited (key :: pending)) (hKey : key ∈ visited) :
    Searching config store unvisited visited pending where
  keys k hk := h.keys k (List.mem_cons_of_mem key hk)
  seen := h.seen
  loaded k hk := by
    obtain ⟨script, hLoad, hLinks⟩ := h.loaded k hk
    refine ⟨script, hLoad, fun link hLink => ?_⟩
    rcases hLinks link hLink with hVisited | hPending
    · exact .inl hVisited
    · rcases List.mem_cons.1 hPending with rfl | hRest
      · exact .inl hKey
      · exact .inr hRest

/-- A key that is visited moves from those that wait to those that were visited, and what it leads
to waits behind the others. -/
theorem Searching.visit {unvisited visited pending : List String} {key : String} {script : Script}
    (h : Searching config store unvisited visited (key :: pending))
    (hLoad : Script.load store key = .ok script) :
    Searching config store (unvisited.erase key) (key :: visited)
      (pending ++ script.references config) where
  keys k hk := by
    rcases List.mem_append.1 hk with hPending | hLink
    · exact h.keys k (List.mem_cons_of_mem key hPending)
    · exact Script.key_of_mem_references hLoad hLink
  seen k path hk hLocate hUnseen := by
    by_cases hSame : k = key
    · exact hSame ▸ List.mem_cons_self
    · refine List.mem_cons_of_mem key (h.seen k path hk hLocate fun hUnvisited => hUnseen ?_)
      exact (List.mem_erase_of_ne hSame).2 hUnvisited
  loaded k hk := by
    rcases List.mem_cons.1 hk with rfl | hVisited
    · exact ⟨script, hLoad, fun link hLink => .inr (List.mem_append_right pending hLink)⟩
    · obtain ⟨other, hOther, hLinks⟩ := h.loaded k hVisited
      exact ⟨other, hOther, fun link hLink =>
        (mem_cons_or_mem (hLinks link hLink)).imp_right (List.mem_append_left _)⟩

/-! ## Steps of the search -/

/-- A file that was not visited is loaded, and what it leads to waits behind the others. -/
theorem loadFrom_of_unvisited {unvisited pending : List String} {key path : String}
    (hKey : Asset.key key = key) (hLocate : store.data.locate key = .ok path)
    (hUnvisited : key ∈ unvisited) :
    loadFrom config store unvisited (key :: pending) = (do
      let script ← Script.load store key
      let scripts ←
        loadFrom config store (unvisited.erase key) (pending ++ script.references config)
      return script :: scripts) := by
  rw [loadFrom, hLocate]
  simp only [hKey, dif_pos hUnvisited]

theorem loadFrom_of_visited {unvisited pending : List String} {key path : String}
    (hKey : Asset.key key = key) (hLocate : store.data.locate key = .ok path)
    (hVisited : key ∉ unvisited) :
    loadFrom config store unvisited (key :: pending) = loadFrom config store unvisited pending := by
  rw [loadFrom, hLocate]
  simp only [hKey, dif_neg hVisited]

/-- A script that names no other is all that is found from it. -/
theorem loadFrom_of_no_links {unvisited : List String} {key path : String} {script : Script}
    (hKey : Asset.key key = key) (hLocate : store.data.locate key = .ok path)
    (hUnvisited : key ∈ unvisited) (hLoad : Script.load store key = .ok script)
    (hLinks : script.references config = []) :
    loadFrom config store unvisited [key] = .ok [script] := by
  rw [loadFrom_of_unvisited hKey hLocate hUnvisited, hLoad]
  refine Outcome.bind_ok.2 ⟨script, rfl, Outcome.bind_ok.2 ⟨[], ?_, rfl⟩⟩
  rw [hLinks, List.append_nil, loadFrom]

theorem loadFrom_of_missing {unvisited pending : List String} {key : String}
    {cause : Asset.NotFound} (hLocate : store.data.locate key = .error cause) :
    loadFrom config store unvisited (key :: pending) = .error (.missing key cause) := by
  rw [loadFrom, hLocate]

/-! ## A search that comes to an end -/

/-- Some script of a list was loaded under the key. -/
def HasLoaded (store : AssetStore) (scripts : List Script) (key : String) : Prop :=
  ∃ script ∈ scripts, Script.load store key = .ok script

theorem HasLoaded.cons {scripts : List Script} {visited : List String} {key k : String}
    {script : Script} (hLoad : Script.load store key = .ok script)
    (h : k ∈ key :: visited ∨ HasLoaded store scripts k) :
    k ∈ visited ∨ HasLoaded store (script :: scripts) k := by
  rcases h with hVisited | ⟨other, hOther, hLoaded⟩
  · rcases List.mem_cons.1 hVisited with rfl | hRest
    · exact .inr ⟨script, List.mem_cons_self, hLoad⟩
    · exact .inl hRest
  · exact .inr ⟨other, List.mem_cons_of_mem script hOther, hLoaded⟩

/-- **A search that comes to an end has loaded what waited and what that leads to.** -/
theorem loadFrom_closed {unvisited pending visited : List String} {scripts : List Script}
    (hSearching : Searching config store unvisited visited pending)
    (h : loadFrom config store unvisited pending = .ok scripts) :
    (∀ key ∈ pending, key ∈ visited ∨ HasLoaded store scripts key) ∧
    ∀ script ∈ scripts, ∀ link ∈ script.references config,
      link ∈ visited ∨ HasLoaded store scripts link := by
  induction unvisited, pending using loadFrom.induct config store generalizing visited scripts with
  | case1 unvisited =>
    rw [loadFrom] at h
    cases h
    exact ⟨fun key hKey => absurd hKey List.not_mem_nil,
      fun script hScript => absurd hScript List.not_mem_nil⟩
  | case2 unvisited key pending cause hLocate =>
    rw [loadFrom_of_missing hLocate] at h
    cases h
  | case3 unvisited key pending path hLocate hUnvisited ih =>
    have hKey := hSearching.keys key List.mem_cons_self
    rw [hKey] at hUnvisited ih
    rw [loadFrom_of_unvisited hKey hLocate hUnvisited] at h
    obtain ⟨script, hLoad, h⟩ := Outcome.bind_ok.1 h
    obtain ⟨rest, hRest, h⟩ := Outcome.bind_ok.1 h
    cases h
    obtain ⟨hPending, hLinks⟩ := ih script (hSearching.visit hLoad) hRest
    refine ⟨fun k hk => ?_, fun other hOther link hLink => ?_⟩
    · rcases List.mem_cons.1 hk with rfl | hWaits
      · exact .inr ⟨script, List.mem_cons_self, hLoad⟩
      · exact HasLoaded.cons hLoad (hPending k (List.mem_append_left _ hWaits))
    · rcases List.mem_cons.1 hOther with rfl | hLater
      · exact HasLoaded.cons hLoad (hPending link (List.mem_append_right _ hLink))
      · exact HasLoaded.cons hLoad (hLinks other hLater link hLink)
  | case4 unvisited key pending path hLocate hSeen ih =>
    have hKey := hSearching.keys key List.mem_cons_self
    rw [hKey] at hSeen
    have hVisited := hSearching.seen key path hKey hLocate hSeen
    rw [loadFrom_of_visited hKey hLocate hSeen] at h
    obtain ⟨hPending, hLinks⟩ := ih (hSearching.skip hVisited) h
    refine ⟨fun k hk => ?_, hLinks⟩
    rcases List.mem_cons.1 hk with rfl | hWaits
    · exact .inl hVisited
    · exact hPending k hWaits

/-- **A search loads nothing but what waited and what that leads to**: whatever holds of the keys
that wait, and of what loaded scripts lead to, holds of the key of each script. -/
theorem loadFrom_mem {unvisited pending : List String} {scripts : List Script}
    {Counts : String → Prop} (hPending : ∀ key ∈ pending, Counts key ∧ Asset.key key = key)
    (hLinks : ∀ key script, Counts key → Script.load store key = .ok script →
      ∀ link ∈ script.references config, Counts link)
    (h : loadFrom config store unvisited pending = .ok scripts) :
    ∀ script ∈ scripts, ∃ key, Counts key ∧ Script.load store key = .ok script := by
  induction unvisited, pending using loadFrom.induct config store generalizing scripts with
  | case1 unvisited =>
    rw [loadFrom] at h
    cases h
    exact fun script hScript => absurd hScript List.not_mem_nil
  | case2 unvisited key pending cause hLocate =>
    rw [loadFrom_of_missing hLocate] at h
    cases h
  | case3 unvisited key pending path hLocate hUnvisited ih =>
    obtain ⟨hCounts, hKey⟩ := hPending key List.mem_cons_self
    rw [hKey] at hUnvisited ih
    rw [loadFrom_of_unvisited hKey hLocate hUnvisited] at h
    obtain ⟨script, hLoad, h⟩ := Outcome.bind_ok.1 h
    obtain ⟨rest, hRest, h⟩ := Outcome.bind_ok.1 h
    cases h
    intro other hOther
    rcases List.mem_cons.1 hOther with rfl | hLater
    · exact ⟨key, hCounts, hLoad⟩
    · refine ih script (fun k hk => ?_) hRest other hLater
      rcases List.mem_append.1 hk with hWaits | hLink
      · exact hPending k (List.mem_cons_of_mem key hWaits)
      · exact ⟨hLinks key script hCounts hLoad k hLink, Script.key_of_mem_references hLoad hLink⟩
  | case4 unvisited key pending path hLocate hSeen ih =>
    obtain ⟨-, hKey⟩ := hPending key List.mem_cons_self
    rw [hKey] at hSeen
    rw [loadFrom_of_visited hKey hLocate hSeen] at h
    exact ih (fun k hk => hPending k (List.mem_cons_of_mem key hk)) h

/-! ## A search that fails -/

/-- A queue that holds the keys of another one in their order, and between them keys that were
visited before or stand further in front. -/
inductive Thinned : List String → List String → List String → Prop where
  | nil (visited : List String) : Thinned visited [] []
  | keep {visited pending queue : List String} {key : String}
    (h : Thinned (key :: visited) pending queue) : Thinned visited (key :: pending) (key :: queue)
  | extra {visited pending queue : List String} {key : String} (hKey : key ∈ visited)
    (h : Thinned visited pending queue) : Thinned visited pending (key :: queue)

namespace Thinned

variable {visited pending queue : List String} {key : String}

theorem refl (visited pending : List String) : Thinned visited pending pending := by
  induction pending generalizing visited with
  | nil => exact .nil visited
  | cons key pending ih => exact .keep (ih (key :: visited))

theorem mono {others : List String} (h : Thinned visited pending queue)
    (hSub : ∀ key ∈ visited, key ∈ others) : Thinned others pending queue := by
  induction h generalizing others with
  | nil => exact .nil others
  | keep _ ih => exact .keep (ih (List.forall_mem_cons.2
      ⟨List.mem_cons_self, fun k hk => List.mem_cons_of_mem _ (hSub k hk)⟩))
  | extra hKey _ ih => exact .extra (hSub _ hKey) (ih hSub)

/-- Both queues may get the same keys at their ends. -/
theorem append (h : Thinned visited pending queue) (keys : List String) :
    Thinned visited (pending ++ keys) (queue ++ keys) := by
  induction h with
  | nil visited => exact refl visited keys
  | keep _ ih => exact .keep ih
  | extra hKey _ ih => exact .extra hKey ih

/-- The longer queue may get keys at its end that were visited or wait already. -/
theorem append_extra {keys : List String} (h : Thinned visited pending queue)
    (hKeys : ∀ key ∈ keys, key ∈ visited ∨ key ∈ pending) :
    Thinned visited pending (queue ++ keys) := by
  induction h with
  | nil visited =>
    -- nothing waits any more, so all of the keys were visited
    induction keys with
    | nil => exact .nil visited
    | cons key keys ih =>
      obtain ⟨hKey, hRest⟩ := List.forall_mem_cons.1 hKeys
      exact .extra (hKey.resolve_right List.not_mem_nil) (ih hRest)
  | keep _ ih => exact .keep (ih fun k hk => mem_cons_or_mem (hKeys k hk))
  | extra hKey _ ih => exact .extra hKey (ih hKeys)

/-- A key that was visited may be dropped from the shorter queue. -/
theorem skip (h : Thinned visited (key :: pending) queue) (hKey : key ∈ visited) :
    Thinned visited pending queue := by
  induction queue with
  | nil => cases h
  | cons first queue ih =>
    cases h with
    | keep h => exact .extra hKey (h.mono (List.forall_mem_cons.2 ⟨hKey, fun k hk => hk⟩))
    | extra hFirst h => exact .extra hFirst (ih h)

/-- In front of the first key of the shorter queue, the longer one has only keys that were
visited. -/
theorem exists_append (h : Thinned visited (key :: pending) queue) :
    ∃ extras rest, queue = extras ++ key :: rest ∧ (∀ k ∈ extras, k ∈ visited) ∧
      Thinned (key :: visited) pending rest := by
  induction queue with
  | nil => cases h
  | cons first queue ih =>
    cases h with
    | keep h => exact ⟨[], queue, rfl, fun k hk => absurd hk List.not_mem_nil, h⟩
    | extra hFirst h =>
      obtain ⟨extras, rest, rfl, hExtras, hRest⟩ := ih h
      exact ⟨first :: extras, rest, rfl, List.forall_mem_cons.2 ⟨hFirst, hExtras⟩, hRest⟩

end Thinned

/-- A queue gets over keys that can be loaded, and puts what they lead to at its end. -/
theorem FirstFailure.of_append {extras rest : List String} {fault : LoadError}
    (hExtras : ∀ key ∈ extras, ∃ script, Script.load store key = .ok script)
    (h : FirstFailure config store (rest ++ extras.flatMap (links config store)) fault) :
    FirstFailure config store (extras ++ rest) fault := by
  induction extras generalizing rest with
  | nil => rwa [List.flatMap_nil, List.append_nil] at h
  | cons key extras ih =>
    obtain ⟨⟨script, hLoad⟩, hRest⟩ := List.forall_mem_cons.1 hExtras
    refine .later hLoad ?_
    show FirstFailure config store (extras ++ rest ++ script.references config) fault
    rw [List.append_assoc]
    refine ih hRest ?_
    rwa [List.flatMap_cons, links_of_load hLoad, ← List.append_assoc] at h

theorem Searching.load_of_visited {unvisited visited pending : List String} {key : String}
    (h : Searching config store unvisited visited pending) (hKey : key ∈ visited) :
    ∃ script, Script.load store key = .ok script := by
  obtain ⟨script, hLoad, -⟩ := h.loaded key hKey
  exact ⟨script, hLoad⟩

/-- What visited keys lead to was visited or waits. -/
theorem Searching.mem_of_mem_links {unvisited visited pending extras : List String}
    (h : Searching config store unvisited visited pending)
    (hExtras : ∀ key ∈ extras, key ∈ visited) :
    ∀ link ∈ extras.flatMap (links config store), link ∈ visited ∨ link ∈ pending := by
  intro link hLink
  obtain ⟨key, hKey, hLink⟩ := List.mem_flatMap.1 hLink
  obtain ⟨script, hLoad, hLinks⟩ := h.loaded key (hExtras key hKey)
  rw [links_of_load hLoad] at hLink
  exact hLinks link hLink

/-- **A search that fails meets the fault of every queue that it is thinned from.** -/
theorem loadFrom_error {unvisited pending visited queue : List String} {fault : LoadError}
    (hSearching : Searching config store unvisited visited pending)
    (hThinned : Thinned visited pending queue)
    (h : loadFrom config store unvisited pending = .error fault) :
    FirstFailure config store queue fault := by
  -- along the search; before each of its steps the longer queue gets over the extras in front
  induction unvisited, pending using loadFrom.induct config store
    generalizing visited queue with
  | case1 unvisited =>
    rw [loadFrom] at h
    cases h
  | case2 unvisited key pending cause hLocate =>
    rw [loadFrom_of_missing hLocate] at h
    cases h
    obtain ⟨extras, rest, rfl, hExtras, -⟩ := hThinned.exists_append
    refine .of_append (fun k hk => hSearching.load_of_visited (hExtras k hk)) (.here ?_)
    rw [Script.load, AssetStore.fetch, hLocate]
    rfl
  | case3 unvisited key pending path hLocate hUnvisited ih =>
    have hKey := hSearching.keys key List.mem_cons_self
    rw [hKey] at hUnvisited ih
    rw [loadFrom_of_unvisited hKey hLocate hUnvisited] at h
    obtain ⟨extras, rest, rfl, hExtras, hRest⟩ := hThinned.exists_append
    refine .of_append (fun k hk => hSearching.load_of_visited (hExtras k hk)) ?_
    rcases Outcome.bind_error.1 h with hFault | ⟨script, hLoad, h⟩
    · exact .here hFault
    · rcases Outcome.bind_error.1 h with hSearch | ⟨_, _, h⟩
      · -- what the extras lead to goes to the end of the longer queue, where it is extra again
        have hWaits : ∀ link ∈ extras.flatMap (links config store),
            link ∈ key :: visited ∨ link ∈ pending := fun link hLink =>
          mem_cons_or_mem (hSearching.mem_of_mem_links hExtras link hLink)
        exact .later hLoad
          (ih script (hSearching.visit hLoad) ((hRest.append_extra hWaits).append _) hSearch)
      · cases h
  | case4 unvisited key pending path hLocate hSeen ih =>
    have hKey := hSearching.keys key List.mem_cons_self
    rw [hKey] at hSeen
    have hVisited := hSearching.seen key path hKey hLocate hSeen
    rw [loadFrom_of_visited hKey hLocate hSeen] at h
    exact ih (hSearching.skip hVisited) (hThinned.skip hVisited) h

end BranchingMovie.NodeGraph
