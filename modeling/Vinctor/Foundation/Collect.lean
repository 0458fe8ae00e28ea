import Mathlib.Data.List.Induction
import Mathlib.Data.List.Nodup
import Mathlib.Data.List.Perm.Basic
import Vinctor.Foundation.Dict

/-!
# Collecting items under keys

A loop over items that reads what a dictionary holds under the key of the item, or a first
value, and writes it back with the item added.  What stands under a key is then decided by
the items of that key, and the keys are those of the items.
-/

namespace Foundation
namespace Dict

/-! ## Entries -/

/-- The keys in their order. -/
def keys (dict : Dict κ ν) : List κ := dict.entries.map Prod.fst

/-- Entries whose values are read off their keys. -/
theorem entries_eq_map_keys
    [DecidableEq κ]
    {dict : Dict κ ν}
    {value : κ → ν}
    (reads : ∀ key stored, dict.get? key = some stored → stored = value key) :
    dict.entries = dict.keys.map fun key => (key, value key) := by
  rw [keys, List.map_map]
  conv_lhs => rw [← List.map_id dict.entries]
  apply List.map_congr_left
  rintro ⟨key, stored⟩ member
  rw [id_eq, Function.comp_apply, reads key stored ((get?_eq_some_iff dict key stored).mpr member)]

/-! ## Collecting -/

section Collect

variable {α : Type u} {κ : Type v} {ν : Type w} [DecidableEq κ]
variable (key : α → κ) (first : ν) (add : ν → α → ν)

/-- Add each item to what is stored under its key. -/
def collect (items : List α) : Dict κ ν :=
  items.foldl
    (fun dict item => dict.set (key item) (add ((dict.get? (key item)).getD first) item)) empty

/-- What the items of a key add up to. -/
def gathered (items : List α) (wanted : κ) : ν :=
  (items.filter fun item => key item = wanted).foldl add first

theorem collect_concat
    (items : List α)
    (item : α) :
    collect key first add (items ++ [item]) =
      (collect key first add items).set (key item)
        (add (((collect key first add items).get? (key item)).getD first) item) := by
  rw [collect, List.foldl_concat, ← collect]

/-- What stands under a key is what its items add up to. -/
theorem getD_collect
    (items : List α)
    (wanted : κ) :
    ((collect key first add items).get? wanted).getD first =
      gathered key first add items wanted := by
  induction items using List.reverseRecOn with
  | nil => rfl
  | append_singleton items item rest =>
      rw [collect_concat, gathered, List.filter_append, List.foldl_append]
      by_cases same : key item = wanted
      · subst same
        rw [get?_set_self, rest, List.filter_cons_of_pos (by simp)]
        rfl
      · rw [get?_set_of_ne _ _ (Ne.symm same), rest,
          List.filter_cons_of_neg (by simpa using same)]
        rfl

theorem mem_keys_collect
    (items : List α)
    (wanted : κ) :
    wanted ∈ (collect key first add items).keys ↔ ∃ item ∈ items, key item = wanted := by
  induction items using List.reverseRecOn with
  | nil =>
      constructor
      · intro member
        cases member
      · rintro ⟨item, member, _⟩
        cases member
  | append_singleton items item rest =>
      rw [collect_concat]
      change wanted ∈ (setEntries _ _ _).map Prod.fst ↔ _
      rw [mem_keys_setEntries, ← keys, rest]
      constructor
      · rintro (same | ⟨earlier, member, same⟩)
        · exact ⟨item, List.mem_append_right _ List.mem_cons_self, same.symm⟩
        · exact ⟨earlier, List.mem_append_left _ member, same⟩
      · rintro ⟨found, member, same⟩
        rcases List.mem_append.mp member with earlier | last
        · exact Or.inr ⟨found, earlier, same⟩
        · rw [← List.mem_singleton.mp last]
          exact Or.inl same.symm

/-- The collection lists what was gathered under each key. -/
theorem entries_collect (items : List α) :
    (collect key first add items).entries =
      (collect key first add items).keys.map fun wanted =>
        (wanted, gathered key first add items wanted) := by
  apply entries_eq_map_keys
  intro wanted stored found
  rw [← getD_collect, found, Option.getD_some]

theorem nodup_keys_collect (items : List α) : (collect key first add items).keys.Nodup :=
  (collect key first add items).keysDistinct

variable {key first add}

/-- Reordered items have the same keys, up to their order. -/
theorem perm_keys_collect
    {items reordered : List α}
    (permuted : items.Perm reordered) :
    (collect key first add items).keys.Perm (collect key first add reordered).keys := by
  rw [List.perm_ext_iff_of_nodup (nodup_keys_collect ..) (nodup_keys_collect ..)]
  intro wanted
  simp only [mem_keys_collect, permuted.mem_iff]

/-- Where the order of additions does not matter, neither does the order of the items. -/
theorem gathered_perm
    (commutes : ∀ value item other, add (add value item) other = add (add value other) item)
    {items reordered : List α}
    (permuted : items.Perm reordered)
    (wanted : κ) :
    gathered key first add items wanted = gathered key first add reordered wanted := by
  apply (permuted.filter _).foldl_eq'
  intro item _ other _ value
  exact commutes value item other

end Collect

/-! ## Families -/

/-- The items under their keys are all the items. -/
theorem flatMap_families_perm
    [DecidableEq κ]
    {key : α → κ}
    {keys : List κ}
    {items : List α}
    (distinct : keys.Nodup)
    (distinctItems : items.Nodup)
    (named : ∀ item ∈ items, key item ∈ keys) :
    (keys.flatMap fun wanted => items.filter fun item => key item = wanted).Perm items := by
  rw [List.perm_ext_iff_of_nodup _ distinctItems]
  · intro item
    simp only [List.mem_flatMap, List.mem_filter, decide_eq_true_eq]
    constructor
    · rintro ⟨_, _, member, _⟩
      exact member
    · intro member
      exact ⟨key item, named item member, member, rfl⟩
  · rw [List.nodup_flatMap]
    refine ⟨fun wanted _ => distinctItems.filter _, distinct.imp ?_⟩
    intro first second different item inFirst inSecond
    rw [List.mem_filter, decide_eq_true_eq] at inFirst inSecond
    exact different (inFirst.2.symm.trans inSecond.2)

end Dict
end Foundation
