import BranchingMovie.Asset.DataDir
import BranchingMovie.Proofs.Asset.Walking

/-!
# What a data directory finds

The scan of several roots visits every file that steps lead to (`IsVisited`), the roots in their
order and the files of each in the order of the bytes of their steps (`Visit.Before`).  A name is
located at the first visited file with the key of the name, every other file with that key is worth
a warning, and nothing that is located moves when further roots are added (`ofRoots_finds`).
-/

namespace BranchingMovie

/-! ## Visits -/

/-- A file below one of several roots, by the number and the path of the root and the steps that
lead to the file. -/
structure Visit where
  number : Nat
  root : String
  steps : List String
  deriving DecidableEq, Repr

namespace Visit

/-- The name of the file. -/
def name (visit : Visit) : String :=
  visit.steps.getLastD ""

/-- The path of the file. -/
def path (visit : Visit) : String :=
  FileTree.pathAlong visit.root visit.steps

/-- The root comes earlier, or the root is the same and the steps come earlier, byte by byte. -/
def Before (visit other : Visit) : Prop :=
  visit.number < other.number ∨ visit.number = other.number ∧
    visit.steps.map Text.bytes < other.steps.map Text.bytes

theorem Before.asymm {visit other : Visit} (h : visit.Before other) : ¬ other.Before visit := by
  intro hBack
  rcases h with hLess | ⟨hSame, hLess⟩
  · rcases hBack with hGreater | ⟨hSame, -⟩
    · omega
    · omega
  · rcases hBack with hGreater | ⟨-, hGreater⟩
    · omega
    · exact List.lt_asymm hLess hGreater

end Visit

/-- What begins a text begins a longer one. -/
theorem Text.prefix_toList_append {front : List Char} {text : String}
    (h : front <+: text.toList) (back : String) : front <+: (text ++ back).toList := by
  rw [String.toList_append]
  exact h.trans (List.prefix_append _ _)

namespace DataDir

/-- The steps of the visit lead to a file below one of the roots. -/
def IsVisited (roots : List (String × Option FileTree)) (visit : Visit) : Prop :=
  ∃ tree, roots[visit.number]? = some (visit.root, some tree) ∧
    tree.LeadsToFile visit.root visit.steps

/-- The visit is the first one of a file with a key. -/
def IsFirst (roots : List (String × Option FileTree)) (key : String) (visit : Visit) : Prop :=
  IsVisited roots visit ∧ Asset.key visit.name = key ∧
    ∀ other, IsVisited roots other → Asset.key other.name = key →
      other = visit ∨ visit.Before other

/-- The root is a folder. -/
def IsRoot (root : String × Option FileTree) : Prop :=
  ∃ items, root.2 = some (.folder items)

/-- The visits below a root with a number. -/
def visitsBelow : (String × Option FileTree) × Nat → List Visit
  | ((_, none), _) => []
  | ((root, some tree), number) => (FileTree.trails root tree).map (Visit.mk number root)

/-- The visits of a scan. -/
def visits (roots : List (String × Option FileTree)) : List Visit :=
  roots.zipIdx.flatMap visitsBelow

theorem mem_visitsBelow {root : String × Option FileTree} {number : Nat} {visit : Visit} :
    visit ∈ visitsBelow (root, number) ↔ visit.number = number ∧
      ∃ tree, root = (visit.root, some tree) ∧ tree.LeadsToFile visit.root visit.steps := by
  obtain ⟨path, tree?⟩ := root
  cases tree? with
  | none => simp [visitsBelow]
  | some tree =>
    rw [visitsBelow, List.mem_map]
    constructor
    · rintro ⟨steps, hSteps, rfl⟩
      exact ⟨rfl, tree, rfl, FileTree.mem_trails.1 hSteps⟩
    · rintro ⟨rfl, _, hRoot, hSteps⟩
      obtain ⟨rfl, hTree⟩ := Prod.mk.inj hRoot
      obtain rfl := Option.some.inj hTree
      exact ⟨visit.steps, FileTree.mem_trails.2 hSteps, rfl⟩

theorem mem_visits {roots : List (String × Option FileTree)} {visit : Visit} :
    visit ∈ visits roots ↔ IsVisited roots visit := by
  rw [visits, List.mem_flatMap, IsVisited]
  constructor
  · rintro ⟨⟨root, number⟩, hRoot, hVisit⟩
    obtain ⟨rfl, tree, rfl, hSteps⟩ := mem_visitsBelow.1 hVisit
    exact ⟨tree, List.mk_mem_zipIdx_iff_getElem?.1 hRoot, hSteps⟩
  · rintro ⟨tree, hRoot, hSteps⟩
    exact ⟨(_, visit.number), List.mk_mem_zipIdx_iff_getElem?.2 hRoot,
      mem_visitsBelow.2 ⟨rfl, tree, rfl, hSteps⟩⟩

/-- **The visits of a scan come one before the other.** -/
theorem pairwise_visits {roots : List (String × Option FileTree)}
    (h : ∀ root ∈ roots, ∀ tree, root.2 = some tree → tree.IsProper) :
    (visits roots).Pairwise Visit.Before := by
  have hNumbers : roots.zipIdx.Pairwise fun root other => root.2 < other.2 := by
    refine List.pairwise_map.1 ?_
    rw [List.zipIdx_map_snd]
    exact List.pairwise_lt_range'
  refine List.pairwise_flatMap.2 ⟨?_, hNumbers.imp ?_⟩
  · rintro ⟨⟨root, tree?⟩, number⟩ hRoot
    cases tree? with
    | none => exact .nil
    | some tree =>
      have hMem := List.mem_of_getElem? (List.mk_mem_zipIdx_iff_getElem?.1 hRoot)
      refine List.pairwise_map.2 ((FileTree.pairwise_trails (h _ hMem tree rfl) root).imp ?_)
      intro steps others hLess
      exact .inr ⟨rfl, List.map_lt (fun _ _ => Text.bytes_lt_iff.2) hLess⟩
  · rintro ⟨root, number⟩ ⟨other, later⟩ hLess visit hVisit visit' hVisit'
    obtain ⟨hNumber, -⟩ := mem_visitsBelow.1 hVisit
    obtain ⟨hLater, -⟩ := mem_visitsBelow.1 hVisit'
    refine .inl ?_
    rw [hNumber, hLater]
    exact hLess

/-- What a search through the visits finds is the first visit of a file with the key. -/
theorem isFirst_of_find?_visits {roots : List (String × Option FileTree)}
    (h : ∀ root ∈ roots, ∀ tree, root.2 = some tree → tree.IsProper) {key : String}
    {visit : Visit}
    (hFind : (visits roots).find? (fun visit => Asset.key visit.name == key) = some visit) :
    IsFirst roots key visit := by
  obtain ⟨hKey, front, back, hSplit, hFront⟩ := List.find?_eq_some_iff_append.1 hFind
  refine ⟨mem_visits.1 (List.mem_of_find?_eq_some hFind), beq_iff_eq.1 hKey, ?_⟩
  intro other hOther hSame
  have hOrder := pairwise_visits h
  rw [← mem_visits, hSplit] at hOther
  rw [hSplit] at hOrder
  rcases List.mem_append.1 hOther with hMem | hMem
  · have hDifferent := hFront other hMem
    simp [hSame] at hDifferent
  · rcases List.mem_cons.1 hMem with rfl | hMem
    · exact .inl rfl
    · have hBack := (List.pairwise_append.1 hOrder).2.1
      exact .inr ((List.pairwise_cons.1 hBack).1 other hMem)

/-- The first visit of a file with a key is found by a search through the visits. -/
theorem find?_visits {roots : List (String × Option FileTree)}
    (h : ∀ root ∈ roots, ∀ tree, root.2 = some tree → tree.IsProper) {key : String}
    {visit : Visit} :
    (visits roots).find? (fun visit => Asset.key visit.name == key) = some visit ↔
      IsFirst roots key visit := by
  refine ⟨isFirst_of_find?_visits h, ?_⟩
  rintro ⟨hVisited, hKey, hFirst⟩
  cases hFind : (visits roots).find? (fun visit => Asset.key visit.name == key) with
  | none =>
    have hMissing := List.find?_eq_none.1 hFind visit (mem_visits.2 hVisited)
    exact absurd (beq_iff_eq.2 hKey) hMissing
  | some other =>
    -- each of two first visits would come before the other
    obtain ⟨hOther, hSame, hEarlier⟩ := isFirst_of_find?_visits h hFind
    rcases hFirst other hOther hSame with rfl | hBefore
    · rfl
    · rcases hEarlier visit hVisited hKey with rfl | hAfter
      · rfl
      · exact absurd hAfter hBefore.asymm

/-! ## Files that are added -/

/-- The text is a warning about a file whose key is taken. -/
def isDuplicate (warning : String) : Bool :=
  "assets: duplicate data file '".toList.isPrefixOf warning.toList

theorem isDuplicate_duplicate (key kept skipped : String) :
    isDuplicate (duplicate key kept skipped) = true := by
  refine List.isPrefixOf_iff_prefix.2 ?_
  unfold duplicate
  iterate 6 refine Text.prefix_toList_append ?_ _
  exact List.prefix_refl _

theorem isDuplicate_unlisted (root path : String) (cause : IoFault) :
    isDuplicate (unlisted root path cause) = false := by
  have hStart : "assets: failed to traverse ".toList <+: (unlisted root path cause).toList := by
    unfold unlisted
    iterate 5 refine Text.prefix_toList_append ?_ _
    exact List.prefix_refl _
  refine Bool.eq_false_iff.2 fun hDuplicate => ?_
  -- two beginnings of one text: the shorter would begin the longer
  rcases List.prefix_or_prefix_of_prefix hStart (List.isPrefixOf_iff_prefix.1 hDuplicate) with h | h
  · exact absurd h (by decide)
  · exact absurd h (by decide)

theorem pathOf_append (key : String) (files more : List (String × String)) :
    pathOf key (files ++ more) = (pathOf key files).or (pathOf key more) := by
  induction files with
  | nil => rfl
  | cons file files ih =>
    rw [List.cons_append, pathOf, pathOf]
    split
    · rfl
    · exact ih

/-- The path of the first of several files, each with its name, that has a key. -/
def firstPath (key : String) (files : List (String × String)) : Option String :=
  (files.find? fun file => Asset.key file.1 == key).map (·.2)

theorem firstPath_append (key : String) (files more : List (String × String)) :
    firstPath key (files ++ more) = (firstPath key files).or (firstPath key more) := by
  rw [firstPath, firstPath, firstPath, List.find?_append]
  cases files.find? fun file => Asset.key file.1 == key <;> rfl

/-- Files were added to an index: what it had stays, a key that it had not has the path of the first
of the files that has the key, and every file but that one was worth a warning. -/
structure Adds (data : DataDir) (files : List (String × String)) (warnings : List String)
    (after : DataDir) : Prop where
  pathOf_eq : ∀ key, pathOf key after.files = (pathOf key data.files).or (firstPath key files)
  count : (warnings.filter isDuplicate).length + after.size = data.size + files.length

variable {data mid after : DataDir}

theorem Adds.nothing {warnings : List String} (h : warnings.filter isDuplicate = []) :
    data.Adds [] warnings data where
  pathOf_eq key := (Option.or_none).symm
  count := by rw [h, List.length_nil, List.length_nil, Nat.zero_add, Nat.add_zero]

theorem Adds.append {files more : List (String × String)} {warnings later : List String}
    (h : data.Adds files warnings mid) (h' : mid.Adds more later after) :
    data.Adds (files ++ more) (warnings ++ later) after where
  pathOf_eq key := by
    rw [h'.pathOf_eq, h.pathOf_eq, firstPath_append, Option.or_assoc]
  count := by
    have hCount := h.count
    have hCount' := h'.count
    rw [List.filter_append, List.length_append, List.length_append]
    omega

theorem adds_addFile (data : DataDir) (name path : String) :
    data.Adds [(name, path)] (data.addFile name path).2.toList (data.addFile name path).1 := by
  have hFirst : ∀ key, firstPath key [(name, path)] =
      if Asset.key name = key then some path else none := by
    intro key
    unfold firstPath
    by_cases hKey : Asset.key name = key <;> simp [hKey]
  unfold addFile
  split
  · rename_i kept hKept
    refine ⟨fun key => ?_, ?_⟩
    · rw [hFirst]
      split
      · rename_i hKey
        rw [← hKey, hKept]
        rfl
      · exact (Option.or_none).symm
    · simp [isDuplicate_duplicate, Nat.add_comm]
  · rename_i hFree
    refine ⟨fun key => ?_, ?_⟩
    · rw [hFirst, pathOf_append]
      rfl
    · simp [size]

theorem adds_addSight (root : String) (data : DataDir) (sight : Sight) :
    data.Adds sight.file?.toList (data.addSight root sight).2.toList
      (data.addSight root sight).1 := by
  cases sight with
  | file name path => exact data.adds_addFile name path
  | closedFolder path cause =>
    refine Adds.nothing ?_
    simp [addSight, isDuplicate_unlisted]

theorem adds_addSights (root : String) (data : DataDir) (sights : List Sight) :
    data.Adds (sights.filterMap Sight.file?) (data.addSights root sights).2
      (data.addSights root sights).1 := by
  induction sights generalizing data with
  | nil => exact Adds.nothing rfl
  | cons sight sights ih =>
    have hFiles : (sight :: sights).filterMap Sight.file? =
        sight.file?.toList ++ sights.filterMap Sight.file? := by
      rw [List.filterMap_cons]
      cases sight.file? <;> rfl
    rw [hFiles]
    exact (data.adds_addSight root sight).append (ih _)

/-- The files below roots, each with its name and its path. -/
def filesBelow (roots : List (String × Option FileTree)) : List (String × String) :=
  roots.flatMap fun
    | (_, none) => []
    | (root, some tree) => (FileTree.trails root tree).map (FileTree.fileAlong "" root)

theorem map_visits (roots : List (String × Option FileTree)) :
    (visits roots).map (fun visit => (visit.name, visit.path)) = filesBelow roots := by
  have hBelow : ∀ (root : String × Option FileTree) number,
      (visitsBelow (root, number)).map (fun visit => (visit.name, visit.path)) =
        filesBelow [root] := by
    rintro ⟨root, tree?⟩ number
    cases tree? with
    | none => rfl
    | some tree =>
      rw [visitsBelow, List.map_map, filesBelow, List.flatMap_singleton]
      rfl
  have hRoots : filesBelow roots =
      (roots.zipIdx.map (·.1)).flatMap fun root => filesBelow [root] := by
    rw [List.zipIdx_map_fst]
    simp only [filesBelow, List.flatMap_singleton]
  rw [hRoots, visits, List.map_flatMap, List.flatMap_map]
  exact congrArg (List.flatMap · _) (funext fun root => hBelow root.1 root.2)

theorem filesBelow_cons (root : String × Option FileTree)
    (roots : List (String × Option FileTree)) :
    filesBelow (root :: roots) = filesBelow [root] ++ filesBelow roots := by
  simp only [filesBelow, List.flatMap_cons, List.flatMap_nil, List.append_nil]

theorem adds_addRoot (data : DataDir) (root : String) (tree : FileTree) :
    data.Adds (filesBelow [(root, some tree)]) (data.addRoot root tree).2
      (data.addRoot root tree).1 := by
  have hAdds := data.adds_addSights root (tree.walk "" root)
  rw [FileTree.files_walk] at hAdds
  rw [filesBelow, List.flatMap_singleton]
  exact hAdds

/-- **Roots that are folders are added with all their files, and others are refused.** -/
theorem adds_addRoots (data : DataDir) (roots : List (String × Option FileTree)) :
    ((∀ root ∈ roots, IsRoot root) ∧ ∃ after, (data.addRoots roots).1 = .ok after ∧
      data.Adds (filesBelow roots) (data.addRoots roots).2 after) ∨
    ((∃ root ∈ roots, ¬ IsRoot root) ∧ ∃ fault, (data.addRoots roots).1 = .error fault) := by
  induction roots generalizing data with
  | nil => exact .inl ⟨by simp, data, rfl, Adds.nothing rfl⟩
  | cons first roots ih =>
    obtain ⟨root, tree?⟩ := first
    unfold addRoots
    split
    · rename_i items
      have hRoot : IsRoot (root, some (.folder items)) := ⟨items, rfl⟩
      have hFirst := data.adds_addRoot root (.folder items)
      rcases ih (data.addRoot root (.folder items)).1 with
        ⟨hRoots, after, hOk, hRest⟩ | ⟨⟨other, hOther, hNot⟩, fault, hError⟩
      · refine .inl ⟨List.forall_mem_cons.2 ⟨hRoot, hRoots⟩, after, hOk, ?_⟩
        rw [filesBelow_cons]
        exact hFirst.append hRest
      · exact .inr ⟨⟨other, List.mem_cons_of_mem _ hOther, hNot⟩, fault, hError⟩
    · rename_i hNone
      refine .inr ⟨⟨_, List.mem_cons_self .., ?_⟩, _, rfl⟩
      rintro ⟨items, hItems⟩
      exact hNone items hItems

/-! ## Locating files -/

/-- The index of several roots has the path of the first visit of a file with a key. -/
theorem Adds.pathOf_of_empty {roots : List (String × Option FileTree)} {warnings : List String}
    (h : empty.Adds (filesBelow roots) warnings after) (key : String) :
    pathOf key after.files =
      ((visits roots).find? fun visit => Asset.key visit.name == key).map Visit.path := by
  rw [h.pathOf_eq, firstPath, ← map_visits, List.find?_map, Option.map_map]
  rfl

/-- What is located stays where it is. -/
theorem locate_of_addRoots {data extended : DataDir} {more : List (String × Option FileTree)}
    {name path : String} (hMore : (data.addRoots more).1 = .ok extended)
    (h : data.locate name = .ok path) : extended.locate name = .ok path := by
  obtain ⟨-, after, hOk, hAdds⟩ | ⟨-, fault, hError⟩ := data.adds_addRoots more
  · obtain rfl := Except.ok.inj (hMore.symm.trans hOk)
    rw [locate_ok_iff, hAdds.pathOf_eq, locate_ok_iff.1 h]
    rfl
  · exact absurd (hMore.symm.trans hError) (by simp)

/-- **A name is located at the first file with its key.**  The scan of several roots, with items of
names of their own in each folder, fails exactly when one of the roots is no folder.  Otherwise

* a name is located at the path of the first visited file with the key of the name, the roots in
  their order and the files of each in the order of the bytes of their steps;
* it is not found exactly when no visited file has its key, and it is contained exactly when it is
  located;
* there are as many visited files as warnings about keys that are taken and keys together;
* what is located stays where it is when further roots are added. -/
theorem ofRoots_finds (roots : List (String × Option FileTree))
    (hProper : ∀ root ∈ roots, ∀ tree, root.2 = some tree → tree.IsProper) :
    let result := ofRoots roots
    ((∃ fault, result.1 = .error fault) ↔ ∃ root ∈ roots, ¬ IsRoot root) ∧
    ∀ data, result.1 = .ok data →
      (∀ name path, data.locate name = .ok path ↔
        ∃ visit, IsFirst roots (Asset.key name) visit ∧ visit.path = path) ∧
      (∀ name, data.locate name = .error ⟨name⟩ ↔
        ∀ visit, IsVisited roots visit → Asset.key visit.name ≠ Asset.key name) ∧
      (∀ name, data.contains name = true ↔ ∃ path, data.locate name = .ok path) ∧
      (∃ visits : List Visit, visits.Pairwise Visit.Before ∧
        (∀ visit, visit ∈ visits ↔ IsVisited roots visit) ∧
        (result.2.filter isDuplicate).length + data.size = visits.length) ∧
      ∀ more extended name path, (data.addRoots more).1 = .ok extended →
        data.locate name = .ok path → extended.locate name = .ok path := by
  intro result
  obtain ⟨hRoots, after, hOk, hAdds⟩ | ⟨hNone, fault, hError⟩ := empty.adds_addRoots roots
  · have hResult : result.1 = .ok after := hOk
    refine ⟨⟨?_, ?_⟩, ?_⟩
    · rintro ⟨fault, hFault⟩
      exact absurd (hFault.symm.trans hResult) (by simp)
    · rintro ⟨root, hRoot, hNot⟩
      exact absurd (hRoots root hRoot) hNot
    · intro data hData
      obtain rfl : after = data := Except.ok.inj (hResult.symm.trans hData)
      refine ⟨fun name path => ?_, fun name => ?_, fun name => contains_iff,
        ⟨visits roots, pairwise_visits hProper, fun visit => mem_visits, ?_⟩,
        fun more extended name path => locate_of_addRoots⟩
      · rw [locate_ok_iff, hAdds.pathOf_of_empty, Option.map_eq_some_iff]
        simp only [find?_visits hProper]
      · rw [locate_error_iff, hAdds.pathOf_of_empty, Option.map_eq_none_iff, List.find?_eq_none]
        simp only [mem_visits, beq_iff_eq, ne_eq]
      · have hCount := hAdds.count
        rw [← map_visits, List.length_map] at hCount
        exact hCount.trans (Nat.zero_add _)
  · have hResult : result.1 = .error fault := hError
    refine ⟨⟨fun _ => hNone, fun _ => ⟨fault, hResult⟩⟩, ?_⟩
    intro data hData
    exact absurd (hData.symm.trans hResult) (by simp)

/-- Two discs with one file under two spellings, one more file each, and a hidden folder. -/
def twoDiscs : List (String × Option FileTree) :=
  [("cd1", some (.folder [("b", .folder [("ROOM.NOD", .file [])]), ("a.mov", .file []),
      (".cache", .folder [("secret.nod", .file [])])])),
    ("cd2", some (.folder [("room.nod", .file []), ("Z.MOV", .file [])]))]

theorem isProper_twoDiscs :
    ∀ root ∈ twoDiscs, ∀ tree, root.2 = some tree → tree.IsProper := by
  have hFile : ∀ content, (FileTree.file content).IsProper := fun _ => .file
  intro root hRoot tree hTree
  simp only [twoDiscs, List.mem_cons, List.not_mem_nil, or_false] at hRoot
  rcases hRoot with rfl | rfl <;> obtain rfl := Option.some.inj hTree <;>
    refine .folder (by decide) ?_ <;>
    simp only [List.mem_cons, List.not_mem_nil, or_false, forall_eq_or_imp, forall_eq, hFile,
      true_and, and_true]
  exact ⟨.folder (by decide) (by simp [hFile]), .folder (by decide) (by simp [hFile])⟩

/-- The file on the first disc is the first one with its key. -/
theorem isFirst_twoDiscs : IsFirst twoDiscs "room.nod" ⟨0, "cd1", ["b", "ROOM.NOD"]⟩ := by
  have hBelow : FileTree.LeadsToFile "cd1/b" (.folder [("ROOM.NOD", .file [])]) ["ROOM.NOD"] :=
    .into rfl (List.mem_cons_self ..) rfl .here
  refine ⟨⟨_, rfl, .into rfl (List.mem_cons_self ..) rfl hBelow⟩, by decide +kernel, ?_⟩
  rintro ⟨number, root, steps⟩ ⟨tree, hRoot, hLeads⟩ hKey
  match number with
  | 0 =>
    obtain ⟨rfl, rfl⟩ : root = "cd1" ∧ tree = _ := by simpa [twoDiscs, eq_comm] using hRoot
    cases hLeads with
    | into _ hItem hShown hRest =>
      simp only [List.mem_cons, Prod.mk.injEq, List.not_mem_nil, or_false] at hItem
      rcases hItem with ⟨rfl, rfl⟩ | ⟨rfl, rfl⟩ | ⟨rfl, rfl⟩
      · cases hRest with
        | into _ hItem _ hRest =>
          obtain ⟨rfl, rfl⟩ : _ ∧ _ := by simpa using hItem
          cases hRest
          exact .inl rfl
      · cases hRest
        exact absurd hKey (by decide +kernel)
      · exact absurd hShown (by decide)
  | number + 1 => exact .inr (.inl (Nat.succ_pos number))

/-- The file on the first disc is located. -/
theorem ofRoots_finds_on_two_discs :
    ∃ data, (ofRoots twoDiscs).1 = .ok data ∧
      data.locate "images/Room.nod" = .ok "cd1/b/ROOM.NOD" ∧
      data.contains "images/Room.nod" = true := by
  obtain ⟨hFails, hFinds⟩ := ofRoots_finds twoDiscs isProper_twoDiscs
  cases hResult : (ofRoots twoDiscs).1 with
  | error fault =>
    obtain ⟨root, hRoot, hNot⟩ := hFails.1 ⟨fault, hResult⟩
    simp only [twoDiscs, List.mem_cons, List.not_mem_nil, or_false] at hRoot
    rcases hRoot with rfl | rfl <;> exact absurd ⟨_, rfl⟩ hNot
  | ok data =>
    obtain ⟨hLocate, -, hContains, -⟩ := hFinds data hResult
    have hFound : data.locate "images/Room.nod" = .ok "cd1/b/ROOM.NOD" := by
      refine (hLocate _ _).2 ⟨⟨0, "cd1", ["b", "ROOM.NOD"]⟩, ?_, by decide +kernel⟩
      have hKey : Asset.key "images/Room.nod" = "room.nod" := by decide +kernel
      rw [hKey]
      exact isFirst_twoDiscs
    exact ⟨data, rfl, hFound, (hContains _).2 ⟨_, hFound⟩⟩

end DataDir
end BranchingMovie
