import Vinctor.Foundation.Dict

/-!
# Tables with a second key

A table keeps its rows in the order of their insertion, under distinct primary
keys.  A second key, computed from a row and its primary key, is distinct as
well: the structure carries both facts, and an insertion that would break one
of them has no result.
-/

namespace Foundation

/-- Rows with distinct primary keys and distinct values of a second key. -/
structure Table {κ : Type u} {ν : Type v} {ι : Type w} (index : κ → ν → ι)
    extends Dict κ ν where
  indexDistinct : (entries.map fun entry => index entry.1 entry.2).Nodup

namespace Table

variable {κ : Type u} {ν : Type v} {ι : Type w} {index : κ → ν → ι}

/-- Table without rows. -/
def empty : Table index where
  toDict := Dict.empty
  indexDistinct := List.nodup_nil

instance : Inhabited (Table index) := ⟨empty⟩

variable [DecidableEq κ]

@[simp] theorem get?_empty (key : κ) : (empty : Table index).get? key = none := rfl

/-- Two rows with one value of the second key have one primary key. -/
theorem key_eq_of_index_eq
    (table : Table index)
    {first second : κ}
    {firstRow secondRow : ν}
    (firstFound : table.get? first = some firstRow)
    (secondFound : table.get? second = some secondRow)
    (sameIndex : index first firstRow = index second secondRow) :
    first = second := by
  rw [Dict.get?_eq_some_iff] at firstFound secondFound
  have sameEntry :=
    List.inj_on_of_nodup_map table.indexDistinct firstFound secondFound sameIndex
  exact congrArg Prod.fst sameEntry

/-! ## Insertion -/

/-- Append a row, unless one of its keys is taken. -/
def insert? [DecidableEq ι] (table : Table index) (key : κ) (row : ν) :
    Option (Table index) :=
  if absent : key ∉ table.entries.map Prod.fst ∧
      index key row ∉ table.entries.map (fun entry => index entry.1 entry.2) then
    some {
      entries := table.entries ++ [(key, row)]
      keysDistinct := by
        rw [List.map_append]
        exact table.keysDistinct.append (by simp) (by simpa using absent.1)
      indexDistinct := by
        rw [List.map_append]
        exact table.indexDistinct.append (by simp) (by simpa using absent.2) }
  else none

theorem get?_eq_none_iff (table : Table index) (key : κ) :
    table.get? key = none ↔ key ∉ table.entries.map Prod.fst := by
  rw [Dict.get?, List.lookup_eq_none_iff]
  simp only [List.mem_map, not_exists, not_and, bne_iff_ne]
  constructor
  · intro absent entry present same
    exact absent entry present same.symm
  · intro absent entry present same
    exact absent entry present same.symm

theorem insert?_eq_some
    [DecidableEq ι]
    {table inserted : Table index}
    {key : κ}
    {row : ν}
    (inserts : table.insert? key row = some inserted) :
    table.get? key = none ∧ inserted.entries = table.entries ++ [(key, row)] := by
  unfold insert? at inserts
  split at inserts
  · next absent =>
      refine ⟨(get?_eq_none_iff table key).mpr absent.1, ?_⟩
      rw [← Option.some.inj inserts]
  · cases inserts

/-- An inserted row is found under its key, and no other row changes. -/
theorem get?_insert?
    [DecidableEq ι]
    {table inserted : Table index}
    {key : κ}
    {row : ν}
    (inserts : table.insert? key row = some inserted)
    (other : κ) :
    inserted.get? other = if other = key then some row else table.get? other := by
  obtain ⟨absent, entries⟩ := insert?_eq_some inserts
  rw [Dict.get?, entries, List.lookup_append]
  by_cases same : other = key
  · subst same
    rw [if_pos rfl]
    change (table.get? other).or _ = _
    rw [absent]
    simp
  · rw [if_neg same, Dict.lookup_cons_eq_ite, if_neg same]
    simp [Dict.get?]

/-! ## Change and removal -/

/-- Change the row of a key, keeping its second key. -/
def modify
    (table : Table index)
    (key : κ)
    (change : ν → ν)
    (keepsIndex : ∀ row, index key (change row) = index key row) : Table index where
  entries := table.entries.map fun entry =>
    if entry.1 = key then (entry.1, change entry.2) else entry
  keysDistinct := by
    have keys : Prod.fst ∘ (fun entry : κ × ν =>
        if entry.1 = key then (entry.1, change entry.2) else entry) = Prod.fst := by
      funext entry
      simp only [Function.comp]
      split <;> rfl
    rw [List.map_map, keys]
    exact table.keysDistinct
  indexDistinct := by
    have indices : (fun entry : κ × ν => index entry.1 entry.2) ∘ (fun entry : κ × ν =>
        if entry.1 = key then (entry.1, change entry.2) else entry) =
          fun entry => index entry.1 entry.2 := by
      funext entry
      simp only [Function.comp]
      split
      · next same =>
          rw [same]
          exact keepsIndex entry.2
      · rfl
    rw [List.map_map, indices]
    exact table.indexDistinct

theorem get?_modify
    (table : Table index)
    (key : κ)
    (change : ν → ν)
    (keepsIndex : ∀ row, index key (change row) = index key row)
    (other : κ) :
    (table.modify key change keepsIndex).get? other =
      if other = key then (table.get? other).map change else table.get? other := by
  simp only [Dict.get?, modify]
  induction table.entries with
  | nil => simp
  | cons entry rest inductionHypothesis =>
      obtain ⟨entryKey, entryRow⟩ := entry
      by_cases same : entryKey = key
      · simp only [List.map_cons, if_pos same, Dict.lookup_cons_eq_ite, inductionHypothesis]
        grind
      · simp only [List.map_cons, if_neg same, Dict.lookup_cons_eq_ite, inductionHypothesis]
        grind

/-- A change takes no row away. -/
theorem isSome_get?_modify
    (table : Table index)
    (key : κ)
    (change : ν → ν)
    (keepsIndex : ∀ row, index key (change row) = index key row)
    (other : κ) :
    ((table.modify key change keepsIndex).get? other).isSome = (table.get? other).isSome := by
  rw [get?_modify]
  split
  · simp
  · rfl

/-- Remove the row of a key. -/
def erase (table : Table index) (key : κ) : Table index where
  toDict := table.toDict.filter fun other _ => other ≠ key
  indexDistinct := table.indexDistinct.sublist (List.filter_sublist.map _)

theorem get?_erase (table : Table index) (key other : κ) :
    (table.erase key).get? other = if other = key then none else table.get? other := by
  simp only [Dict.get?, erase, Dict.filter]
  induction table.entries with
  | nil => simp
  | cons entry rest inductionHypothesis =>
      obtain ⟨entryKey, entryRow⟩ := entry
      by_cases same : entryKey = key
      · simp only [List.filter_cons, same, ne_eq, not_true_eq_false, decide_false,
          Bool.false_eq_true, if_false, Dict.lookup_cons_eq_ite, inductionHypothesis]
        grind
      · simp only [List.filter_cons, same, ne_eq, not_false_eq_true, decide_true, if_true,
          Dict.lookup_cons_eq_ite, inductionHypothesis]
        grind

end Table
end Foundation
