/-!
# Tables in key order

A finite map as a list of pairs in ascending order of their keys.  Scripts are listed in this order,
and so are the pictures of a click map.  Writing a key again replaces its value (`get?_insert`) and
keeps the keys in order (`IsAscending.insert`).
-/

namespace BranchingMovie

/-- A finite map whose pairs are listed in ascending order of their keys. -/
structure Table (κ : Type) (ν : Type) where
  pairs : List (κ × ν)
  deriving DecidableEq, Repr

namespace Table

variable {κ ν : Type} [LT κ] [DecidableLT κ] [DecidableEq κ]

/-- The table without keys. -/
def empty : Table κ ν := ⟨[]⟩

/-- The value of the first pair with the key. -/
def lookup (key : κ) : List (κ × ν) → Option ν
  | [] => none
  | (k, v) :: pairs => if k = key then some v else lookup key pairs

/-- The value of a key. -/
def get? (table : Table κ ν) (key : κ) : Option ν :=
  lookup key table.pairs

/-- The pairs with one more, in front of the first greater key and in the place of an equal one. -/
def insertPair (key : κ) (value : ν) : List (κ × ν) → List (κ × ν)
  | [] => [(key, value)]
  | (k, v) :: pairs =>
    if key < k then (key, value) :: (k, v) :: pairs
    else if k = key then (key, value) :: pairs
    else (k, v) :: insertPair key value pairs

/-- The table in which the key has the value. -/
def insert (table : Table κ ν) (key : κ) (value : ν) : Table κ ν :=
  ⟨insertPair key value table.pairs⟩

/-- The keys in ascending order. -/
def keys (table : Table κ ν) : List κ :=
  table.pairs.map (·.1)

/-- The values in the order of their keys. -/
def values (table : Table κ ν) : List ν :=
  table.pairs.map (·.2)

/-- The number of keys. -/
def size (table : Table κ ν) : Nat :=
  table.pairs.length

omit [LT κ] [DecidableLT κ] in
@[simp] theorem get?_empty (key : κ) : (empty : Table κ ν).get? key = none := rfl

theorem lookup_insertPair (key key' : κ) (value : ν) (pairs : List (κ × ν)) :
    lookup key' (insertPair key value pairs) =
      if key = key' then some value else lookup key' pairs := by
  induction pairs with
  | nil => rfl
  | cons pair pairs ih =>
    obtain ⟨k, v⟩ := pair
    rw [insertPair]
    split
    · rfl
    · split
      · rename_i h
        subst h
        by_cases hk : k = key' <;> simp [lookup, hk]
      · rename_i h
        by_cases hk : k = key'
        · subst hk
          simp [lookup, Ne.symm h]
        · simp [lookup, hk, ih]

/-- A key has the value last written to it. -/
theorem get?_insert (table : Table κ ν) (key key' : κ) (value : ν) :
    (table.insert key value).get? key' = if key = key' then some value else table.get? key' :=
  lookup_insertPair key key' value table.pairs

/-! ## The order of the keys -/

omit [DecidableLT κ] [DecidableEq κ] in
/-- The keys are listed in ascending order, each of them once. -/
def IsAscending (table : Table κ ν) : Prop :=
  table.pairs.Pairwise fun first second => first.1 < second.1

omit [DecidableLT κ] [DecidableEq κ] in
theorem isAscending_empty : (empty : Table κ ν).IsAscending :=
  .nil

theorem mem_of_mem_insertPair {key : κ} {value : ν} {pair : κ × ν} {pairs : List (κ × ν)}
    (h : pair ∈ insertPair key value pairs) : pair = (key, value) ∨ pair ∈ pairs := by
  induction pairs with
  | nil => exact .inl (List.mem_singleton.1 h)
  | cons first pairs ih =>
    rw [insertPair] at h
    split at h
    · exact List.mem_cons.1 h
    · split at h
      · rcases List.mem_cons.1 h with hNew | hRest
        · exact .inl hNew
        · exact .inr (List.mem_cons_of_mem _ hRest)
      · rcases List.mem_cons.1 h with rfl | hRest
        · exact .inr List.mem_cons_self
        · exact (ih hRest).imp_right (List.mem_cons_of_mem _)

omit [LT κ] [DecidableLT κ] in
/-- The value of a key is listed with it. -/
theorem mem_of_get? {table : Table κ ν} {key : κ} {value : ν} (h : table.get? key = some value) :
    (key, value) ∈ table.pairs := by
  obtain ⟨pairs⟩ := table
  change lookup key pairs = some value at h
  show (key, value) ∈ pairs
  induction pairs with
  | nil => cases h
  | cons first pairs ih =>
    rw [lookup] at h
    split at h
    · rename_i hSame
      obtain rfl := Option.some.inj h
      subst hSame
      exact List.mem_cons_self
    · exact List.mem_cons_of_mem _ (ih h)

omit [LT κ] [DecidableLT κ] in
/-- The value of a key is among the values. -/
theorem mem_values_of_get? {table : Table κ ν} {key : κ} {value : ν}
    (h : table.get? key = some value) : value ∈ table.values :=
  List.mem_map.2 ⟨(key, value), mem_of_get? h, rfl⟩

section Ordered

variable [LE κ] [Std.IsLinearOrder κ] [Std.LawfulOrderLT κ]

/-- Writing a key keeps the keys in order. -/
theorem IsAscending.insert {table : Table κ ν} (h : table.IsAscending) (key : κ) (value : ν) :
    (table.insert key value).IsAscending := by
  obtain ⟨pairs⟩ := table
  show (insertPair key value pairs).Pairwise _
  induction pairs with
  | nil => exact List.pairwise_singleton ..
  | cons first pairs ih =>
    obtain ⟨hFirst, hPairs⟩ := List.pairwise_cons.1 h
    rw [insertPair]
    split
    · rename_i hBefore
      refine List.pairwise_cons.2 ⟨fun pair hPair => ?_, h⟩
      rcases List.mem_cons.1 hPair with rfl | hRest
      · exact hBefore
      · exact Std.lt_trans hBefore (hFirst pair hRest)
    · split
      · rename_i hSame
        subst hSame
        exact List.pairwise_cons.2 ⟨hFirst, hPairs⟩
      · rename_i hNotBefore hOther
        refine List.pairwise_cons.2 ⟨fun pair hPair => ?_, ih hPairs⟩
        rcases mem_of_mem_insertPair hPair with rfl | hRest
        · exact Std.lt_of_le_of_ne (Std.not_lt.1 hNotBefore) hOther
        · exact hFirst pair hRest

omit [DecidableLT κ] [Std.IsLinearOrder κ] in
/-- A key has the value that is listed with it. -/
theorem IsAscending.get?_of_mem {table : Table κ ν} (h : table.IsAscending) {key : κ} {value : ν}
    (hMem : (key, value) ∈ table.pairs) : table.get? key = some value := by
  obtain ⟨pairs⟩ := table
  show lookup key pairs = some value
  induction pairs with
  | nil => cases hMem
  | cons first pairs ih =>
    obtain ⟨hFirst, hPairs⟩ := List.pairwise_cons.1 h
    rcases List.mem_cons.1 hMem with rfl | hRest
    · exact if_pos rfl
    · have hOther : first.1 ≠ key := fun hSame => Std.lt_irrefl (hSame ▸ hFirst _ hRest)
      rw [lookup, if_neg hOther]
      exact ih hPairs hRest

omit [DecidableLT κ] [Std.IsLinearOrder κ] in
/-- In a table in order, every value is that of some key. -/
theorem IsAscending.mem_values_iff {table : Table κ ν} (h : table.IsAscending) {value : ν} :
    value ∈ table.values ↔ ∃ key, table.get? key = some value := by
  constructor
  · intro hValue
    obtain ⟨⟨key, other⟩, hMem, rfl⟩ := List.mem_map.1 hValue
    exact ⟨key, h.get?_of_mem hMem⟩
  · rintro ⟨key, hKey⟩
    exact mem_values_of_get? hKey

end Ordered

end Table
end BranchingMovie
