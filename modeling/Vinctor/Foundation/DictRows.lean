import Vinctor.Foundation.Dict
import Vinctor.Foundation.Fallible

/-!
# Statements over dictionaries

A dictionary as a table under its primary key: removal of the rows that satisfy
a test, a change of every row, insertion of a row whose key must be free, and
insertion of the encoded rows of a list.  Each statement has one lemma that says
what is found under a key afterwards.
-/

namespace Foundation
namespace Dict

open Fallible

variable {κ : Type u} {ν : Type v} [DecidableEq κ]

/-! ## Removal and change -/

/-- Setting a key adds an entry exactly when the key is absent. -/
theorem size_set (dict : Dict κ ν) (key : κ) (value : ν) :
    (dict.set key value).size =
      if (dict.get? key).isSome then dict.size else dict.size + 1 := by
  obtain ⟨entries, distinct⟩ := dict
  change (setEntries key value entries).length =
    if (entries.lookup key).isSome then entries.length else entries.length + 1
  clear distinct
  induction entries with
  | nil => rfl
  | cons entry rest inductionHypothesis =>
      obtain ⟨entryKey, entryValue⟩ := entry
      rw [lookup_cons_eq_ite]
      by_cases same : entryKey = key
      · simp [setEntries, same]
      · rw [setEntries, if_neg same, if_neg (Ne.symm same), List.length_cons,
          inductionHypothesis, List.length_cons]
        split <;> rfl

theorem get?_filter
    (dict : Dict κ ν)
    (keep : κ → ν → Bool)
    (key : κ) :
    (dict.filter keep).get? key = (dict.get? key).filter (keep key) := by
  apply Option.ext
  intro value
  rw [Option.filter_eq_some_iff, get?_eq_some_iff, get?_eq_some_iff]
  simp [filter]

/-- Change every row. -/
def mapValues (dict : Dict κ ν) (change : κ → ν → ν) : Dict κ ν where
  entries := dict.entries.map fun entry => (entry.1, change entry.1 entry.2)
  keysDistinct := by
    rw [List.map_map]
    exact dict.keysDistinct

theorem get?_mapValues
    (dict : Dict κ ν)
    (change : κ → ν → ν)
    (key : κ) :
    (dict.mapValues change).get? key = (dict.get? key).map (change key) := by
  simp only [get?, mapValues]
  induction dict.entries with
  | nil => rfl
  | cons entry rest inductionHypothesis =>
      obtain ⟨entryKey, entryValue⟩ := entry
      rw [List.map_cons, lookup_cons_eq_ite, lookup_cons_eq_ite, inductionHypothesis]
      by_cases same : key = entryKey
      · rw [if_pos same, if_pos same, same]
        rfl
      · rw [if_neg same, if_neg same]

/-- What is found under a key, read off the changed rows. -/
theorem map_get?
    (dict : Dict κ ν)
    (read : ν → ρ)
    (key : κ) :
    (dict.get? key).map read =
      (dict.entries.map fun entry => (entry.1, read entry.2)).lookup key := by
  rw [get?]
  induction dict.entries with
  | nil => rfl
  | cons entry rest inductionHypothesis =>
      obtain ⟨entryKey, entryValue⟩ := entry
      rw [List.map_cons, lookup_cons_eq_ite, lookup_cons_eq_ite, ← inductionHypothesis]
      by_cases same : key = entryKey
      · rw [if_pos same, if_pos same]
        rfl
      · rw [if_neg same, if_neg same]

theorem mem_values_iff {dict : Dict κ ν} {value : ν} :
    value ∈ dict.values ↔ ∃ key, dict.get? key = some value := by
  simp only [values, List.mem_map, get?_eq_some_iff]
  constructor
  · rintro ⟨entry, present, rfl⟩
    exact ⟨entry.1, present⟩
  · rintro ⟨key, present⟩
    exact ⟨(key, value), present, rfl⟩

/-! ## Insertion -/

/-- A property of all rows is kept where a row that has it is set. -/
theorem forall_get?_set
    {property : κ → ν → Prop}
    {dict : Dict κ ν}
    {key : κ}
    {value : ν}
    (held : ∀ key value, dict.get? key = some value → property key value)
    (holds : property key value)
    (other : κ)
    (row : ν)
    (found : (dict.set key value).get? other = some row) :
    property other row := by
  rw [get?_set] at found
  split at found
  · next same =>
      cases found
      exact same ▸ holds
  · exact held other row found

theorem get?_foldl_set_of_not_mem
    {list : List α}
    {key : α → κ}
    {row : α → ν}
    {searched : κ}
    (absent : searched ∉ list.map key)
    (dict : Dict κ ν) :
    (list.foldl (fun dict element => dict.set (key element) (row element)) dict).get? searched =
      dict.get? searched := by
  induction list generalizing dict with
  | nil => rfl
  | cons element rest inductionHypothesis =>
      rw [List.map_cons, List.mem_cons, not_or] at absent
      rw [List.foldl_cons, inductionHypothesis absent.2, get?_set_of_ne _ _ absent.1]

/-- Rows that are stored one after the other under distinct keys. -/
theorem get?_foldl_set
    {list : List α}
    {key : α → κ}
    {row : α → ν}
    (distinct : (list.map key).Nodup)
    (dict : Dict κ ν)
    {element : α}
    (present : element ∈ list) :
    (list.foldl (fun dict element => dict.set (key element) (row element)) dict).get?
      (key element) = some (row element) := by
  induction list generalizing dict with
  | nil => cases present
  | cons first rest inductionHypothesis =>
      obtain ⟨fresh, distinct⟩ := List.nodup_cons.mp distinct
      rw [List.foldl_cons]
      rcases List.mem_cons.mp present with rfl | later
      · rw [get?_foldl_set_of_not_mem fresh, get?_set_self]
      · exact inductionHypothesis distinct _ later

/-- Append a row, unless its key is taken. -/
def insert? (dict : Dict κ ν) (key : κ) (value : ν) : Option (Dict κ ν) :=
  if (dict.get? key).isSome then none else some (dict.set key value)

theorem insert?_eq_some_iff
    {dict inserted : Dict κ ν}
    {key : κ}
    {value : ν} :
    dict.insert? key value = some inserted ↔
      dict.get? key = none ∧ inserted = dict.set key value := by
  unfold insert?
  split
  · next taken =>
      constructor
      · intro impossible
        cases impossible
      · intro inserts
        rw [inserts.1] at taken
        cases taken
  · next free =>
      rw [Bool.not_eq_true, Option.isSome_eq_false_iff, Option.isNone_iff_eq_none] at free
      rw [Option.some.injEq]
      exact ⟨fun same => ⟨free, same.symm⟩, fun inserts => inserts.2.symm⟩

section InsertAll

variable {κ ν α ε : Type} [DecidableEq κ]

/-- Encode the rows of a list and insert them one after the other. -/
def insertAll
    (encode : α → Except ε (κ × ν))
    (taken : ε)
    (list : List α)
    (dict : Dict κ ν) : Except ε (Dict κ ν) :=
  list.foldlM (fun dict element => do
    let row ← encode element
    require (dict.insert? row.1 row.2) taken) dict

variable {encode : α → Except ε (κ × ν)} {taken : ε}

theorem insertAll_nil (dict : Dict κ ν) : insertAll encode taken [] dict = .ok dict := rfl

theorem insertAll_cons_eq_ok
    {element : α}
    {rest : List α}
    {before after : Dict κ ν} :
    insertAll encode taken (element :: rest) before = .ok after ↔
      ∃ row, encode element = .ok row ∧ before.get? row.1 = none ∧
        insertAll encode taken rest (before.set row.1 row.2) = .ok after := by
  simp only [insertAll, List.foldlM_cons, bind_eq_ok, require_eq_ok, insert?_eq_some_iff]
  constructor
  · rintro ⟨between, ⟨row, encoded, free, rfl⟩, inserts⟩
    exact ⟨row, encoded, free, inserts⟩
  · rintro ⟨row, encoded, free, inserts⟩
    exact ⟨_, ⟨row, encoded, free, rfl⟩, inserts⟩

/-- What is found after an insertion of encoded rows: the encoding of an element
of the list, or else what was there. -/
theorem insertAll_eq_ok
    {list : List α}
    {before after : Dict κ ν}
    (inserts : insertAll encode taken list before = .ok after) :
    (∀ element ∈ list, ∃ row, encode element = .ok row ∧ before.get? row.1 = none ∧
      after.get? row.1 = some row.2) ∧
    ∀ key, (∀ element ∈ list, ∀ row, encode element = .ok row → row.1 ≠ key) →
      after.get? key = before.get? key := by
  induction list generalizing before with
  | nil =>
      rw [insertAll_nil] at inserts
      cases inserts
      exact ⟨by simp, fun key _ => rfl⟩
  | cons element rest inductionHypothesis =>
      obtain ⟨row, encoded, free, restInserts⟩ := insertAll_cons_eq_ok.mp inserts
      obtain ⟨found, kept⟩ := inductionHypothesis restInserts
      have rowKept : after.get? row.1 = some row.2 := by
        rw [kept row.1, get?_set_self]
        intro other present otherRow otherEncoded same
        obtain ⟨stored, storedEncoded, storedFree, -⟩ := found other present
        rw [otherEncoded] at storedEncoded
        cases storedEncoded
        rw [same, get?_set_self] at storedFree
        cases storedFree
      constructor
      · intro other present
        rcases List.mem_cons.mp present with rfl | inRest
        · exact ⟨row, encoded, free, rowKept⟩
        · obtain ⟨stored, storedEncoded, storedFree, storedFound⟩ := found other inRest
          refine ⟨stored, storedEncoded, ?_, storedFound⟩
          by_cases same : stored.1 = row.1
          · rw [same, get?_set_self] at storedFree
            cases storedFree
          · rwa [get?_set_of_ne before row.2 same] at storedFree
      · intro key absent
        rw [kept key fun other present => absent other (List.mem_cons_of_mem element present)]
        exact get?_set_of_ne before row.2 (absent element List.mem_cons_self row encoded).symm

/-- What holds of the rows before an insertion and of the encoded rows holds of the
rows after it. -/
theorem forall_get?_insertAll
    {property : κ → ν → Prop}
    {list : List α}
    {before after : Dict κ ν}
    (inserts : insertAll encode taken list before = .ok after)
    (held : ∀ key value, before.get? key = some value → property key value)
    (encoded : ∀ element ∈ list, ∀ row, encode element = .ok row → property row.1 row.2)
    (key : κ)
    (value : ν)
    (found : after.get? key = some value) :
    property key value := by
  obtain ⟨inserted, kept⟩ := insertAll_eq_ok inserts
  by_cases listed : ∃ element ∈ list, ∃ row, encode element = .ok row ∧ row.1 = key
  · obtain ⟨element, present, row, encodes, rfl⟩ := listed
    obtain ⟨stored, storedEncodes, -, storedFound⟩ := inserted element present
    rw [encodes] at storedEncodes
    cases storedEncodes
    rw [found] at storedFound
    exact Option.some.inj storedFound ▸ encoded element present row encodes
  · rw [kept key fun element present row encodes same =>
      listed ⟨element, present, row, encodes, same⟩] at found
    exact held key value found

/-- An insertion of encoded rows succeeds when every element has an encoding,
the keys of two elements differ and no key is taken. -/
theorem insertAll_isOk_iff
    (encode : α → Except ε (κ × ν))
    (taken : ε)
    (key : α → κ)
    (keyed : ∀ element row, encode element = .ok row → row.1 = key element)
    (list : List α)
    (dict : Dict κ ν) :
    (∃ after, insertAll encode taken list dict = .ok after) ↔
      (∀ element ∈ list, ∃ row, encode element = .ok row) ∧
      (list.map key).Nodup ∧ ∀ element ∈ list, dict.get? (key element) = none := by
  induction list generalizing dict with
  | nil =>
      simp [insertAll_nil]
  | cons element rest inductionHypothesis =>
      constructor
      · rintro ⟨after, inserts⟩
        obtain ⟨row, encoded, free, restInserts⟩ := insertAll_cons_eq_ok.mp inserts
        obtain ⟨restEncoded, restDistinct, restFree⟩ :=
          (inductionHypothesis _).mp ⟨after, restInserts⟩
        rw [keyed element row encoded] at free restFree
        have different : ∀ other ∈ rest, key other ≠ key element := by
          intro other present same
          have otherFree := restFree other present
          rw [same, get?_set_self] at otherFree
          cases otherFree
        refine ⟨?_, ?_, ?_⟩
        · intro other present
          rcases List.mem_cons.mp present with rfl | inRest
          · exact ⟨row, encoded⟩
          · exact restEncoded other inRest
        · rw [List.map_cons, List.nodup_cons]
          refine ⟨?_, restDistinct⟩
          rw [List.mem_map]
          rintro ⟨other, present, same⟩
          exact different other present same
        · intro other present
          rcases List.mem_cons.mp present with rfl | inRest
          · exact free
          · rw [← get?_set_of_ne dict row.2 (different other inRest)]
            exact restFree other inRest
      · rintro ⟨encodings, distinct, free⟩
        obtain ⟨row, encoded⟩ := encodings element List.mem_cons_self
        have rowKey := keyed element row encoded
        rw [List.map_cons, List.nodup_cons] at distinct
        have restSucceeds : ∃ after,
            insertAll encode taken rest (dict.set row.1 row.2) = .ok after := by
          apply (inductionHypothesis _).mpr
          refine ⟨fun other present => encodings other (List.mem_cons_of_mem element present),
            distinct.2, ?_⟩
          intro other present
          have different : key other ≠ row.1 := by
            rw [rowKey]
            intro same
            exact distinct.1 (List.mem_map.mpr ⟨other, present, same⟩)
          rw [get?_set_of_ne dict row.2 different]
          exact free other (List.mem_cons_of_mem element present)
        obtain ⟨after, restInserts⟩ := restSucceeds
        refine ⟨after, insertAll_cons_eq_ok.mpr ⟨row, encoded, ?_, restInserts⟩⟩
        rw [rowKey]
        exact free element List.mem_cons_self

/-- Where the list saves the rows of a dictionary that satisfy a test, and each
encoding is the row that was saved, the insertion brings those rows back. -/
theorem get?_insertAll_saved
    (save : κ × ν → α)
    (saved : Dict κ ν)
    (mine : κ → ν → Bool)
    {cleared after : Dict κ ν}
    {list : List α}
    (lists : ∀ element, element ∈ list ↔
      ∃ entry ∈ saved.entries, mine entry.1 entry.2 = true ∧ save entry = element)
    (decodes : ∀ entry row, mine entry.1 entry.2 = true → encode (save entry) = .ok row →
      row = entry)
    (inserts : insertAll encode taken list cleared = .ok after)
    (key : κ) :
    after.get? key = ((saved.get? key).filter (mine key)).or (cleared.get? key) := by
  obtain ⟨inserted, kept⟩ := insertAll_eq_ok inserts
  cases found : (saved.get? key).filter (mine key) with
  | some value =>
      rw [Option.filter_eq_some_iff, get?_eq_some_iff] at found
      obtain ⟨row, encoded, -, stored⟩ :=
        inserted (save (key, value)) ((lists _).mpr ⟨(key, value), found.1, found.2, rfl⟩)
      rw [decodes (key, value) row found.2 encoded] at stored
      rw [stored]
      rfl
  | none =>
      rw [Option.none_or]
      apply kept
      intro element present row encoded same
      obtain ⟨entry, stored, isMine, rfl⟩ := (lists element).mp present
      rw [decodes entry row isMine encoded] at same
      subst same
      rw [(get?_eq_some_iff saved entry.1 entry.2).mpr stored, Option.filter_some,
        if_pos isMine] at found
      cases found

end InsertAll

end Dict
end Foundation
