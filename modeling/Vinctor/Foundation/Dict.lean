import Mathlib.Data.List.Nodup
import Mathlib.Data.List.Basic

/-!
# Insertion-ordered dictionaries

A dictionary is a list of entries in the order in which their keys were first
set.  No key occurs twice; the structure carries that fact, so that a lookup
never has to choose between two entries.  Setting a present key keeps its
position, setting an absent key appends.
-/

namespace Foundation

/-- Finite map whose keys stay in insertion order. -/
structure Dict (κ : Type u) (ν : Type v) where
  entries : List (κ × ν)
  keysDistinct : (entries.map Prod.fst).Nodup

namespace Dict

/-- Dictionary without entries. -/
def empty : Dict κ ν := ⟨[], List.nodup_nil⟩

instance : Inhabited (Dict κ ν) := ⟨empty⟩

/-- Values in insertion order of their keys. -/
def values (dict : Dict κ ν) : List ν :=
  dict.entries.map Prod.snd

/-- Entries whose key and value satisfy a test. -/
def filter (dict : Dict κ ν) (keep : κ → ν → Bool) : Dict κ ν where
  entries := dict.entries.filter fun entry => keep entry.1 entry.2
  keysDistinct :=
    dict.keysDistinct.sublist (List.filter_sublist.map Prod.fst)

/-- Number of entries. -/
def size (dict : Dict κ ν) : Nat := dict.entries.length

section Lookup

variable [DecidableEq κ]

/-- Value stored under a key. -/
def get? (dict : Dict κ ν) (key : κ) : Option ν :=
  dict.entries.lookup key

/-- Replace the value of a present key in place, or append the entry. -/
def setEntries (key : κ) (value : ν) : List (κ × ν) → List (κ × ν)
  | [] => [(key, value)]
  | entry :: rest =>
      if entry.1 = key then (key, value) :: rest
      else entry :: setEntries key value rest

theorem mem_keys_setEntries
    (key other : κ)
    (value : ν)
    (entries : List (κ × ν)) :
    other ∈ (setEntries key value entries).map Prod.fst ↔
      other = key ∨ other ∈ entries.map Prod.fst := by
  induction entries with
  | nil => simp [setEntries]
  | cons entry rest inductionHypothesis =>
      by_cases same : entry.1 = key
      · simp only [setEntries, same, if_true, List.map_cons, List.mem_cons]
        tauto
      · simp only [setEntries, same, if_false, List.map_cons, List.mem_cons,
          inductionHypothesis]
        tauto

theorem nodup_keys_setEntries
    (key : κ)
    (value : ν)
    {entries : List (κ × ν)}
    (distinct : (entries.map Prod.fst).Nodup) :
    ((setEntries key value entries).map Prod.fst).Nodup := by
  induction entries with
  | nil => simp [setEntries]
  | cons entry rest inductionHypothesis =>
      rw [List.map_cons, List.nodup_cons] at distinct
      by_cases same : entry.1 = key
      · subst same
        simpa [setEntries] using distinct
      · simp only [setEntries, same, if_false, List.map_cons, List.nodup_cons]
        refine ⟨?_, inductionHypothesis distinct.2⟩
        rw [mem_keys_setEntries]
        rintro (equal | inRest)
        · exact same equal
        · exact distinct.1 inRest

/-- Store a value under a key. -/
def set (dict : Dict κ ν) (key : κ) (value : ν) : Dict κ ν where
  entries := setEntries key value dict.entries
  keysDistinct := nodup_keys_setEntries key value dict.keysDistinct

@[simp] theorem get?_empty (key : κ) :
    (empty : Dict κ ν).get? key = none := rfl

/-- Lookup in a nonempty list, with propositional key equality. -/
theorem lookup_cons_eq_ite
    (key other : κ)
    (value : ν)
    (rest : List (κ × ν)) :
    ((key, value) :: rest).lookup other =
      if other = key then some value else rest.lookup other := by
  rw [List.lookup_cons]
  by_cases same : other = key
  · simp [same]
  · rw [beq_false_of_ne same, if_neg same]

theorem lookup_setEntries
    (key other : κ)
    (value : ν)
    (entries : List (κ × ν)) :
    (setEntries key value entries).lookup other =
      if other = key then some value else entries.lookup other := by
  induction entries with
  | nil => exact lookup_cons_eq_ite key other value []
  | cons entry rest inductionHypothesis =>
      obtain ⟨entryKey, entryValue⟩ := entry
      by_cases same : entryKey = key
      · subst same
        simp only [setEntries, if_true, lookup_cons_eq_ite]
        split <;> rfl
      · simp only [setEntries, same, if_false, lookup_cons_eq_ite,
          inductionHypothesis]
        by_cases found : other = entryKey
        · subst found
          simp [same]
        · simp [found]

/-- A stored value is read back under its key and nowhere else. -/
theorem get?_set
    (dict : Dict κ ν)
    (key other : κ)
    (value : ν) :
    (dict.set key value).get? other =
      if other = key then some value else dict.get? other :=
  lookup_setEntries key other value dict.entries

@[simp] theorem get?_set_self
    (dict : Dict κ ν)
    (key : κ)
    (value : ν) :
    (dict.set key value).get? key = some value := by
  simp [get?_set]

theorem get?_set_of_ne
    (dict : Dict κ ν)
    (value : ν)
    {key other : κ}
    (different : other ≠ key) :
    (dict.set key value).get? other = dict.get? other := by
  simp [get?_set, different]

/-- Lookup finds exactly the entries: keys are distinct. -/
theorem get?_eq_some_iff
    (dict : Dict κ ν)
    (key : κ)
    (value : ν) :
    dict.get? key = some value ↔ (key, value) ∈ dict.entries := by
  obtain ⟨entries, distinct⟩ := dict
  change entries.lookup key = some value ↔ (key, value) ∈ entries
  induction entries with
  | nil => simp
  | cons entry rest inductionHypothesis =>
      obtain ⟨entryKey, entryValue⟩ := entry
      rw [List.map_cons, List.nodup_cons] at distinct
      by_cases same : key = entryKey
      · subst same
        have absent : (key, value) ∉ rest := by
          intro inRest
          exact distinct.1 (List.mem_map.mpr ⟨(key, value), inRest, rfl⟩)
        simp [absent, eq_comm]
      · rw [lookup_cons_eq_ite, if_neg same, inductionHypothesis distinct.2]
        simp [same]

end Lookup

end Dict
end Foundation
