import Mathlib.Data.List.Basic
import Mathlib.Data.List.Induction

/-!
# Sequences cut into clusters

A sequence is read item by item.  An item joins the open cluster when a test
against that cluster's first item says so; otherwise it closes the cluster and opens
the next one.  Clusters are nonempty by construction.
-/

namespace Foundation

/-- Consecutive items that the first of them admitted. -/
structure Cluster (α : Type u) where
  first : α
  later : List α

namespace Cluster

/-- Items of a cluster in order. -/
def items (cluster : Cluster α) : List α := cluster.first :: cluster.later

/-- The item read last. -/
def last (cluster : Cluster α) : α := cluster.later.getLastD cluster.first

/-- Cluster of one item. -/
def single (item : α) : Cluster α := ⟨item, []⟩

/-- Cluster with one more item. -/
def extend (cluster : Cluster α) (item : α) : Cluster α :=
  ⟨cluster.first, cluster.later ++ [item]⟩

@[simp] theorem items_single (item : α) : (single item).items = [item] := rfl

@[simp] theorem first_single (item : α) : (single item).first = item := rfl

@[simp] theorem last_single (item : α) : (single item).last = item := rfl

@[simp] theorem first_extend (cluster : Cluster α) (item : α) :
    (cluster.extend item).first = cluster.first := rfl

@[simp] theorem items_extend (cluster : Cluster α) (item : α) :
    (cluster.extend item).items = cluster.items ++ [item] := rfl

@[simp] theorem last_extend (cluster : Cluster α) (item : α) :
    (cluster.extend item).last = item := by
  simp [last, extend, List.getLastD_eq_getLast?]

theorem first_mem_items (cluster : Cluster α) : cluster.first ∈ cluster.items :=
  List.mem_cons_self

theorem last_mem_items (cluster : Cluster α) : cluster.last ∈ cluster.items := by
  obtain ⟨first, later⟩ := cluster
  cases later using List.reverseRecOn with
  | nil => exact List.mem_cons_self
  | append_singleton rest item => simp [last, items, List.getLastD_eq_getLast?]

/-- A cluster of one item starts and ends with it. -/
theorem eq_single_of_length
    {cluster : Cluster α}
    (one : cluster.items.length = 1) :
    cluster = single cluster.first := by
  obtain ⟨first, later⟩ := cluster
  rw [items, List.length_cons, Nat.add_eq_right, List.length_eq_zero_iff] at one
  cases one
  rfl

theorem length_items_pos (cluster : Cluster α) : 0 < cluster.items.length :=
  Nat.succ_pos _

end Cluster

/-- Clusters of the items read so far: the closed ones in order, and the open
one once an item was read. -/
structure Clusters (α : Type u) where
  closed : List (Cluster α)
  current : Option (Cluster α)

namespace Clusters

/-- No item was read. -/
def empty : Clusters α := ⟨[], none⟩

variable (joins : α → α → Bool)

/-- Read one more item. -/
def add (clusters : Clusters α) (item : α) : Clusters α :=
  match clusters.current with
  | none => ⟨clusters.closed, some (Cluster.single item)⟩
  | some cluster =>
      if joins cluster.first item then ⟨clusters.closed, some (cluster.extend item)⟩
      else ⟨clusters.closed ++ [cluster], some (Cluster.single item)⟩

/-- Clusters of a sequence. -/
def ofList (items : List α) : Clusters α :=
  items.foldl (add joins) empty

/-- Every cluster, the open one last. -/
def opened (clusters : Clusters α) : List (Cluster α) :=
  clusters.closed ++ clusters.current.toList

@[simp] theorem ofList_nil : ofList joins [] = empty := rfl

theorem ofList_concat (items : List α) (item : α) :
    ofList joins (items ++ [item]) = add joins (ofList joins items) item := by
  rw [ofList, ofList, List.foldl_append, List.foldl_cons, List.foldl_nil]

/-- Reading an item appends it to the items of the clusters. -/
theorem flatMap_items_add (clusters : Clusters α) (item : α) :
    (add joins clusters item).opened.flatMap Cluster.items =
      clusters.opened.flatMap Cluster.items ++ [item] := by
  obtain ⟨closed, current⟩ := clusters
  cases current with
  | none => simp [add, opened]
  | some cluster =>
      simp only [add]
      split <;> simp [opened]

/-- The clusters hold every item of the sequence once and in order. -/
theorem flatMap_items_ofList (items : List α) :
    (ofList joins items).opened.flatMap Cluster.items = items := by
  induction items using List.reverseRecOn with
  | nil => rfl
  | append_singleton items item inductionHypothesis =>
      rw [ofList_concat, flatMap_items_add, inductionHypothesis]

end Clusters
end Foundation
