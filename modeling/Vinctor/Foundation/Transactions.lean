import Mathlib.Logic.Function.Basic
import Mathlib.Data.List.Basic

/-!
# A transactional store

A store that several connections share.  A connection reads and writes its own
copy of the contents from the start of a transaction to its end; savepoints
nest inside a transaction, and a savepoint outside of one opens it.  At most
one connection writes at a time: a transaction that starts as a writer takes
the write lock at once, another one with its first write, and only when nothing
was committed since it started.

A statement that the engine refuses has no result and no effect.
-/

namespace Foundation

/-- An open transaction. -/
structure Transaction (δ : Type u) where
  contents : δ
  /-- Names and contents of the savepoints, innermost first. -/
  savepoints : List (String × δ)
  /-- Whether a statement of its own opened the transaction. -/
  explicit : Bool
  /-- Version of the store that the transaction started from. -/
  base : Nat

/-- Committed contents, their version, the connection that holds the write
lock, and the open transaction of every connection. -/
structure Store (κ : Type u) (δ : Type v) where
  committed : δ
  version : Nat
  writer : Option κ
  transactions : κ → Option (Transaction δ)

namespace Store

variable {κ : Type u} {δ : Type v} [DecidableEq κ]

/-- A store without open transactions. -/
def initial (contents : δ) : Store κ δ where
  committed := contents
  version := 0
  writer := none
  transactions := fun _ => none

def inTransaction (store : Store κ δ) (connection : κ) : Bool :=
  (store.transactions connection).isSome

/-- Contents that a connection reads. -/
def view (store : Store κ δ) (connection : κ) : δ :=
  match store.transactions connection with
  | none => store.committed
  | some transaction => transaction.contents

/-- The store with another transaction of one connection. -/
def withTransaction
    (store : Store κ δ)
    (connection : κ)
    (transaction : Option (Transaction δ)) : Store κ δ :=
  { store with transactions := Function.update store.transactions connection transaction }

/-! ## Statements -/

/-- Open a transaction as a writer. -/
def beginImmediate (store : Store κ δ) (connection : κ) : Option (Store κ δ) :=
  if store.inTransaction connection ∨ store.writer.isSome then none
  else
    some
      { store.withTransaction connection
          (some
            { contents := store.committed
              savepoints := []
              explicit := true
              base := store.version }) with
        writer := some connection }

/-- Release the write lock if the connection holds it. -/
def unlocked (store : Store κ δ) (connection : κ) : Store κ δ :=
  if store.writer = some connection then { store with writer := none } else store

/-- End the transaction of a connection, if any, without its changes. -/
def rollback (store : Store κ δ) (connection : κ) : Store κ δ :=
  (store.withTransaction connection none).unlocked connection

/-- End the transaction of a connection, if any, with its changes.  A
transaction that never wrote has none. -/
def commit (store : Store κ δ) (connection : κ) : Store κ δ :=
  match store.transactions connection with
  | none => store
  | some transaction =>
      if store.writer = some connection then
        { store.rollback connection with
          committed := transaction.contents
          version := store.version + 1 }
      else store.rollback connection

/-- Set a savepoint. -/
def savepoint (store : Store κ δ) (connection : κ) (name : String) : Store κ δ :=
  match store.transactions connection with
  | none =>
      store.withTransaction connection
        (some
          { contents := store.committed
            savepoints := [(name, store.committed)]
            explicit := false
            base := store.version })
  | some transaction =>
      store.withTransaction connection
        (some
          { transaction with
            savepoints := (name, transaction.contents) :: transaction.savepoints })

/-- Savepoints from the innermost one with a name outwards. -/
def savepointsFrom (name : String) (savepoints : List (String × δ)) : List (String × δ) :=
  savepoints.dropWhile fun savepoint => savepoint.1 ≠ name

/-- Go back to the innermost savepoint with a name, which stays. -/
def rollbackTo (store : Store κ δ) (connection : κ) (name : String) : Option (Store κ δ) :=
  match store.transactions connection with
  | none => none
  | some transaction =>
      match savepointsFrom name transaction.savepoints with
      | [] => none
      | (saved, contents) :: outer =>
          some
            (store.withTransaction connection
              (some { transaction with contents, savepoints := (saved, contents) :: outer }))

/-- Give up the innermost savepoint with a name and keep the changes.  The
outermost savepoint of a transaction that it opened commits. -/
def release (store : Store κ δ) (connection : κ) (name : String) : Option (Store κ δ) :=
  match store.transactions connection with
  | none => none
  | some transaction =>
      match savepointsFrom name transaction.savepoints with
      | [] => none
      | _ :: outer =>
          if outer = [] ∧ transaction.explicit = false then some (store.commit connection)
          else
            some
              (store.withTransaction connection
                (some { transaction with savepoints := outer }))

/-- Change the contents of an open transaction. -/
def modify
    (store : Store κ δ)
    (connection : κ)
    (change : δ → Option δ) : Option (Store κ δ) :=
  match store.transactions connection with
  | none => none
  | some transaction =>
      if store.writer = some connection ∨
          store.writer = none ∧ transaction.base = store.version then
        match change transaction.contents with
        | none => none
        | some contents =>
            some
              { store.withTransaction connection (some { transaction with contents }) with
                writer := some connection }
      else none

end Store

/-! ## Invariants of the contents

A property of contents that every change keeps holds of everything that the
store holds: the committed contents, the copies of the open transactions and
their savepoints.
-/

/-- A property of everything that a transaction holds.  A transaction that a
savepoint opened has a savepoint as long as it is open. -/
structure Transaction.Holds (property : δ → Prop) (transaction : Transaction δ) : Prop where
  contents : property transaction.contents
  savepoints : ∀ saved ∈ transaction.savepoints, property saved.2
  opened : transaction.explicit = false → transaction.savepoints ≠ []

namespace Store

/-- A property of everything that a store holds. -/
structure Holds (property : δ → Prop) (store : Store κ δ) : Prop where
  committed : property store.committed
  transactions : ∀ connection transaction,
    store.transactions connection = some transaction → transaction.Holds property

theorem holds_initial
    {property : δ → Prop}
    {contents : δ}
    (holds : property contents) :
    (initial contents : Store κ δ).Holds property :=
  ⟨holds, by simp [initial]⟩

variable {κ : Type u} {δ : Type v} [DecidableEq κ] {property : δ → Prop} {store : Store κ δ}

theorem Holds.withOpen
    (holds : store.Holds property)
    (connection : κ)
    {transaction : Transaction δ}
    (transactionHolds : transaction.Holds property) :
    (store.withTransaction connection (some transaction)).Holds property := by
  refine ⟨holds.committed, ?_⟩
  intro other opened isOpen
  simp only [withTransaction, Function.update_apply] at isOpen
  split at isOpen
  · obtain rfl := Option.some.inj isOpen
    exact transactionHolds
  · exact holds.transactions other opened isOpen

theorem Holds.rollback (holds : store.Holds property) (connection : κ) :
    (store.rollback connection).Holds property := by
  have closed : (store.withTransaction connection none).Holds property := by
    refine ⟨holds.committed, ?_⟩
    intro other opened isOpen
    simp only [withTransaction, Function.update_apply] at isOpen
    split at isOpen
    · simp at isOpen
    · exact holds.transactions other opened isOpen
  unfold Store.rollback unlocked
  split
  · exact ⟨closed.committed, closed.transactions⟩
  · exact closed

theorem Holds.commit (holds : store.Holds property) (connection : κ) :
    (store.commit connection).Holds property := by
  have ended := holds.rollback connection
  unfold Store.commit
  split
  · exact holds
  · next transaction isOpen =>
      split
      · exact ⟨(holds.transactions connection transaction isOpen).contents, ended.transactions⟩
      · exact ended

theorem Holds.beginImmediate
    (holds : store.Holds property)
    {connection : κ}
    {begun : Store κ δ}
    (begins : store.beginImmediate connection = some begun) :
    begun.Holds property := by
  unfold Store.beginImmediate at begins
  split at begins
  · simp at begins
  · obtain rfl := Option.some.inj begins
    have opened := holds.withOpen connection
      (⟨holds.committed, by simp, by simp⟩ :
        (Transaction.mk store.committed [] true store.version).Holds property)
    exact ⟨opened.committed, opened.transactions⟩

theorem Holds.savepoint
    (holds : store.Holds property)
    (connection : κ)
    (name : String) :
    (store.savepoint connection name).Holds property := by
  unfold Store.savepoint
  split
  · apply holds.withOpen
    exact ⟨holds.committed, by simpa using holds.committed, by simp⟩
  · next transaction isOpen =>
      have inside := holds.transactions connection transaction isOpen
      apply holds.withOpen
      refine ⟨inside.contents, ?_, by simp⟩
      intro saved member
      rcases List.mem_cons.mp member with rfl | older
      · exact inside.contents
      · exact inside.savepoints saved older

theorem savepointsFrom_sublist (name : String) (savepoints : List (String × δ)) :
    (savepointsFrom name savepoints).Sublist savepoints :=
  List.dropWhile_sublist _

theorem Holds.rollbackTo
    (holds : store.Holds property)
    {connection : κ}
    {name : String}
    {restored : Store κ δ}
    (restores : store.rollbackTo connection name = some restored) :
    restored.Holds property := by
  unfold Store.rollbackTo at restores
  split at restores
  · simp at restores
  · next transaction isOpen =>
      have inside := holds.transactions connection transaction isOpen
      split at restores
      · simp at restores
      · next saved contents outer from_ =>
          obtain rfl := Option.some.inj restores
          have members : ∀ entry ∈ (saved, contents) :: outer, property entry.2 := by
            intro entry member
            rw [← from_] at member
            exact inside.savepoints entry ((savepointsFrom_sublist _ _).subset member)
          exact holds.withOpen connection ⟨members _ List.mem_cons_self, members, by simp⟩

theorem Holds.release
    (holds : store.Holds property)
    {connection : κ}
    {name : String}
    {released : Store κ δ}
    (releases : store.release connection name = some released) :
    released.Holds property := by
  unfold Store.release at releases
  split at releases
  · simp at releases
  · next transaction isOpen =>
      have inside := holds.transactions connection transaction isOpen
      split at releases
      · simp at releases
      · next innermost outer from_ =>
          split at releases
          · obtain rfl := Option.some.inj releases
            exact holds.commit connection
          · next stays =>
            obtain rfl := Option.some.inj releases
            refine holds.withOpen connection
              ⟨inside.contents, ?_, fun implicit empty => stays ⟨empty, implicit⟩⟩
            intro entry member
            have kept : entry ∈ savepointsFrom name transaction.savepoints := by
              rw [from_]
              exact List.mem_cons_of_mem innermost member
            exact inside.savepoints entry ((savepointsFrom_sublist _ _).subset kept)

theorem Holds.modify
    (holds : store.Holds property)
    {connection : κ}
    {change : δ → Option δ}
    (keeps : ∀ contents changed, property contents → change contents = some changed →
      property changed)
    {modified : Store κ δ}
    (modifies : store.modify connection change = some modified) :
    modified.Holds property := by
  unfold Store.modify at modifies
  split at modifies
  · simp at modifies
  · next transaction isOpen =>
      have inside := holds.transactions connection transaction isOpen
      split at modifies
      · split at modifies
        · simp at modifies
        · next changed changes =>
            obtain rfl := Option.some.inj modifies
            have opened := holds.withOpen connection
              (⟨keeps _ _ inside.contents changes, inside.savepoints, inside.opened⟩ :
                { transaction with contents := changed }.Holds property)
            exact ⟨opened.committed, opened.transactions⟩
      · simp at modifies

/-! ## Discarding a savepoint -/

/-- What two stores share when a connection has neither changed nor lost
anything in between. -/
structure Unchanged (connection : κ) (before after : Store κ δ) : Prop where
  committed : after.committed = before.committed
  view : after.view connection = before.view connection
  others : ∀ other, other ≠ connection → after.transactions other = before.transactions other

theorem transactions_rollback_of_ne
    {connection other : κ}
    (different : other ≠ connection)
    (store : Store κ δ) :
    (store.rollback connection).transactions other = store.transactions other := by
  unfold rollback unlocked
  split <;> simp [withTransaction, Function.update_of_ne different]

theorem transactions_rollback_self (connection : κ) (store : Store κ δ) :
    (store.rollback connection).transactions connection = none := by
  unfold rollback unlocked
  split <;> simp [withTransaction]

theorem committed_rollback (connection : κ) (store : Store κ δ) :
    (store.rollback connection).committed = store.committed := by
  unfold rollback unlocked
  split <;> rfl

/-- Committing what is committed already changes nothing. -/
theorem Unchanged.commit
    {connection : κ}
    {before after : Store κ δ}
    (same : Unchanged connection before after)
    (nothing : before.view connection = before.committed) :
    Unchanged connection before (after.commit connection) := by
  unfold Store.commit
  split
  · exact same
  · next transaction isOpen =>
      have contents : transaction.contents = before.committed := by
        have seen := same.view
        rwa [nothing, Store.view, isOpen] at seen
      have closed := transactions_rollback_self connection after
      have others : ∀ other, other ≠ connection →
          (after.rollback connection).transactions other = before.transactions other := by
        intro other different
        rw [transactions_rollback_of_ne different]
        exact same.others other different
      split
      · refine ⟨contents, ?_, others⟩
        rw [nothing, Store.view]
        simp only [closed, contents]
      · refine ⟨(committed_rollback connection after).trans same.committed, ?_, others⟩
        rw [nothing, Store.view]
        simp only [closed, committed_rollback, same.committed]

/-- The transaction in which a savepoint stands.  When the savepoint opened it,
its contents are the committed ones. -/
theorem transactions_savepoint
    (holds : store.Holds property)
    (connection : κ)
    (name : String) :
    ∃ outer explicit base,
      (store.savepoint connection name).transactions connection =
        some
          { contents := store.view connection
            savepoints := (name, store.view connection) :: outer
            explicit := explicit
            base := base } ∧
        (outer = [] ∧ explicit = false → store.view connection = store.committed) := by
  cases isOpen : store.transactions connection with
  | none =>
      refine ⟨[], false, store.version, ?_, ?_⟩
      · simp [savepoint, view, isOpen, withTransaction]
      · simp [view, isOpen]
  | some transaction =>
      have inside := holds.transactions connection transaction isOpen
      refine ⟨transaction.savepoints, transaction.explicit, transaction.base, ?_, ?_⟩
      · simp [savepoint, view, isOpen, withTransaction]
      · rintro ⟨empty, implicit⟩
        exact absurd empty (inside.opened implicit)

/-- Changes after a savepoint, discarded by going back to it, leave no trace,
whether or not the savepoint is then released. -/
theorem discard_unchanged
    (holds : store.Holds property)
    {connection : κ}
    {name : String}
    {changed : Store κ δ}
    (committed : changed.committed = store.committed)
    (others : ∀ other, other ≠ connection →
      changed.transactions other = store.transactions other)
    {contents : δ}
    (inside : changed.transactions connection =
      ((store.savepoint connection name).transactions connection).map
        fun transaction => { transaction with contents }) :
    ∃ restored, changed.rollbackTo connection name = some restored ∧
      Unchanged connection store restored ∧
      ∀ released, restored.release connection name = some released →
        Unchanged connection store released := by
  obtain ⟨outer, explicit, base, saved, opened⟩ :=
    transactions_savepoint holds connection name
  rw [saved, Option.map_some] at inside
  have innermost : savepointsFrom name ((name, store.view connection) :: outer) =
      (name, store.view connection) :: outer := by
    simp [savepointsFrom]
  have restored : changed.rollbackTo connection name =
      some
        (changed.withTransaction connection
          (some
            { contents := store.view connection
              savepoints := (name, store.view connection) :: outer
              explicit := explicit
              base := base })) := by
    simp only [rollbackTo, inside, innermost]
  have unchanged : Unchanged connection store
      (changed.withTransaction connection
        (some
          { contents := store.view connection
            savepoints := (name, store.view connection) :: outer
            explicit := explicit
            base := base })) := by
    refine ⟨committed, by simp [view, withTransaction], ?_⟩
    intro other different
    simpa [withTransaction, Function.update_of_ne different] using others other different
  refine ⟨_, restored, unchanged, ?_⟩
  intro released releases
  rw [release, show (changed.withTransaction connection (some _)).transactions connection =
    some _ from Function.update_self connection _ _] at releases
  simp only [innermost] at releases
  split at releases
  · next outermost =>
      obtain rfl := Option.some.inj releases
      exact unchanged.commit (opened outermost)
  · obtain rfl := Option.some.inj releases
    refine ⟨committed, by simp [view, withTransaction], ?_⟩
    intro other different
    simpa [withTransaction, Function.update_of_ne different] using others other different

end Store
end Foundation
