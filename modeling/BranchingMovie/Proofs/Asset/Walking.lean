import BranchingMovie.Asset.Walk
import BranchingMovie.Proofs.Text.ByteOrder

/-!
# What a walk meets

Steps lead to a file when they go through folders that can be listed and past nothing hidden
(`FileTree.LeadsToFile`, `leadsToFile_iff`).  A walk meets the files at the ends of its trails, each
by its name and its path (`files_walk`).  The trails are the steps that lead to a file
(`mem_trails`), in their order (`pairwise_trails`).
-/

namespace BranchingMovie

/-- The name and the path of a file that a walk meets. -/
def Sight.file? : Sight → Option (String × String)
  | .file name path => some (name, path)
  | .closedFolder .. => none

namespace FileTree

/-- The steps lead from a tree at a path to a file. -/
inductive LeadsToFile : String → FileTree → List String → Prop
  | here {path : String} {content : List UInt8} : LeadsToFile path (.file content) []
  | into {path name : String} {items : List (String × FileTree)} {tree : FileTree}
      {steps : List String} (hListed : Disc.checkPath path = .ok ()) (hItem : (name, tree) ∈ items)
      (hShown : isHidden name = false) (hRest : LeadsToFile (Path.join path name) tree steps) :
      LeadsToFile path (.folder items) (name :: steps)

/-- The items of every folder have names of their own. -/
inductive IsProper : FileTree → Prop
  | file {content : List UInt8} : IsProper (.file content)
  | folder {items : List (String × FileTree)} (hNames : (items.map (·.1)).Nodup)
      (hItems : ∀ item ∈ items, IsProper item.2) : IsProper (.folder items)

/-- The path at the end of steps. -/
def pathAlong (path : String) (steps : List String) : String :=
  steps.foldl Path.join path

theorem itemOf_eq_some_iff {name : String} {tree : FileTree} {items : List (String × FileTree)}
    (h : (items.map (·.1)).Nodup) : itemOf name items = some tree ↔ (name, tree) ∈ items := by
  induction items with
  | nil => simp [itemOf]
  | cons item items ih =>
    obtain ⟨other, first⟩ := item
    rw [List.map_cons, List.nodup_cons] at h
    unfold itemOf
    split
    · rename_i hSame
      have hAbsent : (name, tree) ∉ items := by
        intro hMem
        exact h.1 (hSame ▸ List.mem_map_of_mem (f := (·.1)) hMem)
      simp [hSame, hAbsent, eq_comm]
    · rename_i hOther
      simp [ih h.2, Ne.symm hOther]

/-- Steps lead to a file when there is a file at their end, nothing on the way is hidden, and each
folder on the way can be listed. -/
theorem leadsToFile_iff {tree : FileTree} (h : tree.IsProper) {path : String}
    {steps : List String} :
    LeadsToFile path tree steps ↔ (∃ content, tree.get? steps = some (.file content)) ∧
      (∀ name ∈ steps, isHidden name = false) ∧
      ∀ front name back, steps = front ++ name :: back →
        Disc.checkPath (pathAlong path front) = .ok () := by
  induction steps generalizing path tree with
  | nil =>
    cases tree with
    | file content => exact ⟨fun _ => ⟨⟨content, rfl⟩, by simp, by simp⟩, fun _ => .here⟩
    | folder items =>
      constructor
      · intro h
        cases h
      · rintro ⟨⟨content, hFile⟩, -⟩
        cases hFile
  | cons step steps ih =>
    cases h with
    | file =>
      constructor
      · intro h
        cases h
      · rintro ⟨⟨content, hFile⟩, -⟩
        cases hFile
    | @folder items hNames hItems =>
      constructor
      · intro hLeads
        cases hLeads with
        | @into _ _ _ tree _ hListed hItem hShown hRest =>
          obtain ⟨⟨content, hFile⟩, hAll, hFolders⟩ := (ih (hItems _ hItem)).1 hRest
          refine ⟨⟨content, ?_⟩, List.forall_mem_cons.2 ⟨hShown, hAll⟩, ?_⟩
          · rw [get?, (itemOf_eq_some_iff hNames).2 hItem]
            exact hFile
          · intro front name back hSplit
            cases front with
            | nil => exact hListed
            | cons first front =>
              obtain ⟨rfl, hBack⟩ := List.cons.inj hSplit
              exact hFolders front name back hBack
      · rintro ⟨⟨content, hFile⟩, hAll, hFolders⟩
        rw [get?] at hFile
        cases hItem : itemOf step items with
        | none =>
          rw [hItem] at hFile
          cases hFile
        | some tree =>
          rw [hItem] at hFile
          have hMem := (itemOf_eq_some_iff hNames).1 hItem
          obtain ⟨hShown, hAll⟩ := List.forall_mem_cons.1 hAll
          refine .into (hFolders [] step steps rfl) hMem hShown ((ih (hItems _ hMem)).2 ?_)
          refine ⟨⟨content, hFile⟩, hAll, fun front name back hSplit => ?_⟩
          exact hFolders (step :: front) name back (congrArg (step :: ·) hSplit)

/-! ## Trails -/

/-- The order of items with names. -/
def byName {α : Type} (item other : String × α) : Bool :=
  item.1 < other.1 || item.1 == other.1

mutual

/-- The steps to the files that a walk meets in a tree at a path. -/
def trails (path : String) : FileTree → List (List String)
  | file _ => [[]]
  | folder items =>
    match Disc.checkPath path with
    | .error _ => []
    | .ok () => ((trailsOfItems path items).mergeSort byName).flatMap (·.2)

/-- The steps to the files in each item that is not hidden. -/
def trailsOfItems (path : String) : List (String × FileTree) → List (String × List (List String))
  | [] => []
  | (name, tree) :: items =>
    if isHidden name then trailsOfItems path items
    else (name, (trails (Path.join path name) tree).map (name :: ·)) :: trailsOfItems path items

end

theorem mem_trailsOfItems {path : String} {items : List (String × FileTree)}
    {entry : String × List (List String)} :
    entry ∈ trailsOfItems path items ↔ ∃ name tree, (name, tree) ∈ items ∧
      isHidden name = false ∧
      entry = (name, (trails (Path.join path name) tree).map (name :: ·)) := by
  induction items with
  | nil => simp [trailsOfItems]
  | cons item items ih =>
    obtain ⟨name, tree⟩ := item
    unfold trailsOfItems
    split
    · rename_i hHidden
      rw [ih]
      constructor
      · rintro ⟨name, tree, hItem, hRest⟩
        exact ⟨name, tree, List.mem_cons_of_mem _ hItem, hRest⟩
      · rintro ⟨other, tree, hItem, hShown, rfl⟩
        rcases List.mem_cons.1 hItem with hSame | hItem
        · obtain ⟨rfl, rfl⟩ := Prod.mk.inj hSame
          exact absurd (hHidden.symm.trans hShown) (by decide)
        · exact ⟨other, tree, hItem, hShown, rfl⟩
    · rename_i hShown
      rw [List.mem_cons, ih]
      constructor
      · rintro (rfl | ⟨name, tree, hItem, hRest⟩)
        · exact ⟨name, tree, List.mem_cons_self .., Bool.eq_false_iff.2 hShown, rfl⟩
        · exact ⟨name, tree, List.mem_cons_of_mem _ hItem, hRest⟩
      · rintro ⟨other, tree, hItem, hShown, rfl⟩
        rcases List.mem_cons.1 hItem with hSame | hItem
        · obtain ⟨rfl, rfl⟩ := Prod.mk.inj hSame
          exact .inl rfl
        · exact .inr ⟨other, tree, hItem, hShown, rfl⟩

/-- The trails of a folder that can be listed go into its items. -/
theorem mem_trails_folder {path : String} {items : List (String × FileTree)}
    {steps : List String} :
    steps ∈ trails path (.folder items) ↔ Disc.checkPath path = .ok () ∧
      ∃ name tree rest, (name, tree) ∈ items ∧ isHidden name = false ∧
        rest ∈ trails (Path.join path name) tree ∧ steps = name :: rest := by
  rw [trails]
  split
  · rename_i hRefused
    constructor
    · intro hMem
      cases hMem
    · rintro ⟨hListed, -⟩
      cases hRefused.symm.trans hListed
  · rename_i hListed
    rw [List.mem_flatMap]
    constructor
    · rintro ⟨entry, hEntry, hSteps⟩
      obtain ⟨name, tree, hItem, hShown, rfl⟩ :=
        mem_trailsOfItems.1 (List.mem_mergeSort.1 hEntry)
      obtain ⟨rest, hRest, rfl⟩ := List.mem_map.1 hSteps
      exact ⟨hListed, name, tree, rest, hItem, hShown, hRest, rfl⟩
    · rintro ⟨-, name, tree, rest, hItem, hShown, hRest, rfl⟩
      exact ⟨_, List.mem_mergeSort.2 (mem_trailsOfItems.2 ⟨name, tree, hItem, hShown, rfl⟩),
        List.mem_map.2 ⟨rest, hRest, rfl⟩⟩

/-- **The trails are the steps that lead to a file.** -/
theorem mem_trails {path : String} {tree : FileTree} {steps : List String} :
    steps ∈ trails path tree ↔ LeadsToFile path tree steps := by
  induction steps generalizing path tree with
  | nil =>
    cases tree with
    | file content => exact ⟨fun _ => .here, fun _ => by simp [trails]⟩
    | folder items =>
      constructor
      · intro hMem
        obtain ⟨-, _, _, _, -, -, -, hCons⟩ := mem_trails_folder.1 hMem
        cases hCons
      · intro h
        cases h
  | cons name steps ih =>
    cases tree with
    | file content =>
      constructor
      · intro hMem
        simp [trails] at hMem
      · intro h
        cases h
    | folder items =>
      rw [mem_trails_folder]
      constructor
      · rintro ⟨hListed, other, tree, rest, hItem, hShown, hRest, hCons⟩
        obtain ⟨rfl, rfl⟩ := List.cons.inj hCons
        exact .into hListed hItem hShown (ih.1 hRest)
      · intro h
        cases h with
        | into hListed hItem hShown hRest =>
          exact ⟨hListed, name, _, steps, hItem, hShown, ih.2 hRest, rfl⟩

/-! ## Their order -/

/-- Items with names of their own are sorted strictly. -/
theorem pairwise_byName {α : Type} {items : List (String × α)}
    (h : items.Pairwise fun item other => item.1 ≠ other.1) :
    (items.mergeSort byName).Pairwise fun item other => item.1 < other.1 := by
  have hOrder : ∀ item other : String × α, byName item other = true ↔ item.1 ≤ other.1 := by
    intro item other
    rw [byName, Bool.or_eq_true, decide_eq_true_iff, beq_iff_eq, Std.le_iff_lt_or_eq]
  have hSorted : (items.mergeSort byName).Pairwise fun item other => byName item other = true := by
    refine List.pairwise_mergeSort (fun a b c hab hbc => ?_) (fun a b => ?_) items
    · rw [hOrder] at *
      exact String.le_trans hab hbc
    · rw [Bool.or_eq_true, hOrder, hOrder]
      exact String.le_total a.1 b.1
  have hDistinct : (items.mergeSort byName).Pairwise fun item other => item.1 ≠ other.1 :=
    (List.mergeSort_perm items byName).symm.pairwise h Ne.symm
  refine (hSorted.and hDistinct).imp ?_
  rintro item other ⟨hLess, hOther⟩
  rcases Std.le_iff_lt_or_eq.1 ((hOrder item other).1 hLess) with hLess | hSame
  · exact hLess
  · exact absurd hSame hOther

theorem pairwise_trailsOfItems {path : String} {items : List (String × FileTree)}
    (h : (items.map (·.1)).Nodup) :
    (trailsOfItems path items).Pairwise fun entry other => entry.1 ≠ other.1 := by
  induction items with
  | nil => exact .nil
  | cons item items ih =>
    obtain ⟨name, tree⟩ := item
    rw [List.map_cons, List.nodup_cons] at h
    unfold trailsOfItems
    split
    · exact ih h.2
    · refine List.pairwise_cons.2 ⟨?_, ih h.2⟩
      rintro entry hEntry rfl
      obtain ⟨other, tree, hItem, -, rfl⟩ := mem_trailsOfItems.1 hEntry
      exact h.1 (List.mem_map_of_mem (f := (·.1)) hItem)

/-- **The trails are in the order of their steps.** -/
theorem pairwise_trails {tree : FileTree} (h : tree.IsProper) (path : String) :
    (trails path tree).Pairwise (· < ·) := by
  induction h generalizing path with
  | file => exact List.pairwise_singleton _ _
  | @folder items hNames _ ih =>
    unfold trails
    split
    · exact .nil
    · refine List.pairwise_flatMap.2 ⟨?_, ?_⟩
      · intro entry hEntry
        obtain ⟨name, tree, hItem, -, rfl⟩ := mem_trailsOfItems.1 (List.mem_mergeSort.1 hEntry)
        refine List.pairwise_map.2 ((ih (name, tree) hItem _).imp ?_)
        exact fun hLess => List.cons_lt_cons_iff.2 (.inr ⟨rfl, hLess⟩)
      · refine (pairwise_byName (pairwise_trailsOfItems hNames)).imp_of_mem ?_
        intro entry other hEntry hOther hLess steps hSteps steps' hSteps'
        obtain ⟨name, tree, -, -, rfl⟩ := mem_trailsOfItems.1 (List.mem_mergeSort.1 hEntry)
        obtain ⟨name', tree', -, -, rfl⟩ := mem_trailsOfItems.1 (List.mem_mergeSort.1 hOther)
        obtain ⟨rest, -, rfl⟩ := List.mem_map.1 hSteps
        obtain ⟨rest', -, rfl⟩ := List.mem_map.1 hSteps'
        exact List.cons_lt_cons_iff.2 (.inl hLess)

/-! ## The files of a walk -/

/-- The name and the path of the file at the end of steps. -/
def fileAlong (name path : String) (steps : List String) : String × String :=
  (steps.getLastD name, pathAlong path steps)

theorem fileAlong_cons (name path step : String) (steps : List String) :
    fileAlong name path (step :: steps) = fileAlong step (Path.join path step) steps := by
  rw [fileAlong, List.getLastD_cons]
  rfl

/-- Entries that are changed behind their names stay in order. -/
theorem map_mergeSort_byName {α β : Type} (change : α → β) (entries : List (String × α)) :
    (entries.mergeSort byName).map (Prod.map id change) =
      (entries.map (Prod.map id change)).mergeSort byName :=
  List.map_mergeSort fun _ _ _ _ => rfl

mutual

/-- **A walk meets the files at the ends of the trails.** -/
theorem files_walk (name path : String) :
    ∀ tree : FileTree,
      (walk name path tree).filterMap Sight.file? = (trails path tree).map (fileAlong name path)
  | file _ => rfl
  | folder items => by
    unfold walk trails
    cases Disc.checkPath path with
    | error cause => rfl
    | ok _ =>
      have hSorted := congrArg (List.mergeSort · byName) (files_walkItems name path items)
      simp only [← map_mergeSort_byName] at hSorted
      have hFlat := congrArg (List.flatMap (·.2)) hSorted
      simp only [List.flatMap_map] at hFlat
      rw [List.filterMap_flatMap, List.map_flatMap]
      exact hFlat

theorem files_walkItems (name path : String) :
    ∀ items : List (String × FileTree),
      (walkItems path items).map (Prod.map id (List.filterMap Sight.file?)) =
        (trailsOfItems path items).map (Prod.map id (List.map (fileAlong name path)))
  | [] => rfl
  | (step, tree) :: items => by
    unfold walkItems trailsOfItems
    split
    · exact files_walkItems name path items
    · rw [List.map_cons, List.map_cons, files_walkItems name path items]
      have hTree := files_walk step (Path.join path step) tree
      simp only [Prod.map, id, List.map_map, hTree]
      refine congrArg (fun files => (step, files) :: _) (List.map_congr_left fun steps _ => ?_)
      exact (fileAlong_cons name path step steps).symm

end

end FileTree
end BranchingMovie
