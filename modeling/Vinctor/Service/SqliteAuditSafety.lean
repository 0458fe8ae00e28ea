import Vinctor.Service.SqliteAudit

/-!
# The committed audit table is always a chain

Every copy of the audit table that the database holds, committed or not, is a
chain: the writer only appends to the copy of its transaction the row that
continues it, and scopes and savepoints only choose between copies.  A
best-effort write that gives up leaves what the connection reads as it was.
-/

namespace Vinctor
namespace SqliteAudit

open Foundation
open AuditChain

variable {κ : Type u} {α : Type v} [DecidableEq κ] {sha256 : Bytes → Bytes}

/-- The audit table of a database is a chain. -/
def ChainedDatabase (sha256 : Bytes → Bytes) (database : Database α) : Prop :=
  Chained sha256 genesisPrevHash 1 database.audit

/-- Every copy that a store holds is a chain. -/
def ChainedStore (sha256 : Bytes → Bytes) (store : Store κ (Database α)) : Prop :=
  store.Holds (ChainedDatabase sha256)

/-! ## Statements -/

theorem perform_chained
    {store : Store κ (Database α)}
    (chained : ChainedStore sha256 store)
    (outcome : Outcome)
    (connection : κ)
    {statement : Store κ (Database α) → Option (Store κ (Database α))}
    (keeps : ∀ next, statement store = some next → ChainedStore sha256 next) :
    ChainedStore sha256 (perform outcome connection statement store).2 := by
  cases outcome with
  | fails => exact chained
  | aborts => exact Store.Holds.rollback chained connection
  | succeeds =>
      unfold perform
      dsimp only
      split
      · exact chained
      · next store done => exact keeps store done

theorem insertEvent_chained
    {event : AuditEvent}
    {database changed : Database α}
    (chained : ChainedDatabase sha256 database)
    (inserts : insertEvent sha256 event database = some changed) :
    ChainedDatabase sha256 changed := by
  obtain ⟨audit, writes, rfl⟩ := Option.map_eq_some_iff.mp inserts
  exact (Chained.write chained writes).1

theorem writeEventStatements_chained
    {store : Store κ (Database α)}
    (chained : ChainedStore sha256 store)
    (select insert : Outcome)
    (event : AuditEvent)
    (connection : κ) :
    ChainedStore sha256
      (writeEventStatements sha256 select insert event connection store).2 := by
  have selected : ChainedStore sha256 (perform select connection some store).2 := by
    apply perform_chained chained
    intro next isRead
    rwa [← Option.some.inj isRead]
  unfold writeEventStatements
  split
  · exact chained
  · split
    · next refused =>
        rw [refused] at selected
        exact selected
    · next store isRead =>
        rw [isRead] at selected
        apply perform_chained selected
        intro next modifies
        exact Store.Holds.modify selected (fun _ _ => insertEvent_chained) modifies

/-! ## Scopes -/

theorem enterScope_chained
    {world entered : World κ α}
    (chained : ChainedStore sha256 world.store)
    {beginFails : Bool}
    {connection : κ}
    (enters : enterScope beginFails connection world = some entered) :
    ChainedStore sha256 entered.store := by
  unfold enterScope at enters
  split at enters
  · obtain rfl := Option.some.inj enters
    exact chained
  · split at enters
    · simp at enters
    · obtain ⟨store, begins, rfl⟩ := Option.map_eq_some_iff.mp enters
      exact Store.Holds.beginImmediate chained begins

theorem unwindScope_chained
    {world : World κ α}
    (chained : ChainedStore sha256 world.store)
    (connection : κ) :
    ChainedStore sha256 (unwindScope connection world).store := by
  unfold unwindScope
  split
  · exact chained
  · exact chained
  · exact Store.Holds.rollback chained connection

theorem leaveScope_chained
    {world : World κ α}
    (chained : ChainedStore sha256 world.store)
    (commit : Outcome)
    (connection : κ) :
    ChainedStore sha256 (leaveScope commit connection world).2.store := by
  unfold leaveScope
  split
  · exact chained
  · exact chained
  · split
    · exact Store.Holds.commit chained connection
    · exact unwindScope_chained chained connection

/-! ## Writes -/

theorem write_chained
    {world : World κ α}
    (chained : ChainedStore sha256 world.store)
    (faults : WriteFaults)
    (event : AuditEvent)
    (connection : κ) :
    ChainedStore sha256 (write sha256 faults event connection world).2.store := by
  unfold write
  split
  · exact chained
  · next entered enters =>
      have inside := writeEventStatements_chained (enterScope_chained chained enters)
        faults.select faults.insert event connection
      split
      · next store refused =>
          rw [refused] at inside
          have written : ChainedStore sha256 { entered with store }.store := inside
          exact unwindScope_chained written connection
      · next store done =>
          rw [done] at inside
          have written : ChainedStore sha256 { entered with store }.store := inside
          exact leaveScope_chained written faults.commit connection

omit [DecidableEq κ] in
/-- Two attempts leave the store or give what the statement gives. -/
theorem attemptTwice_cases
    (fails : Bool × Bool)
    (statement : Store κ (Database α) → Option (Store κ (Database α)))
    (store : Store κ (Database α)) :
    attemptTwice fails statement store = store ∨
      statement store = some (attemptTwice fails statement store) := by
  unfold attemptTwice
  cases done : statement store with
  | none => simp
  | some next => cases fails.1 <;> cases fails.2 <;> simp

omit [DecidableEq κ] in
/-- The second attempt succeeds if the statement does. -/
theorem attemptTwice_of_second
    {statement : Store κ (Database α) → Option (Store κ (Database α))}
    {store next : Store κ (Database α)}
    (done : statement store = some next)
    (firstFails : Bool) :
    attemptTwice (firstFails, false) statement store = next := by
  unfold attemptTwice
  cases firstFails <;> simp [done]

theorem discardBestEffortSavepoint_chained
    {store : Store κ (Database α)}
    (chained : ChainedStore sha256 store)
    (faults : BestEffortFaults)
    (connection : κ) :
    ChainedStore sha256 (discardBestEffortSavepoint faults connection store) := by
  have restored : ChainedStore sha256
      (attemptTwice (faults.rollbackToFails, false)
        (·.rollbackTo connection savepointName) store) := by
    rcases attemptTwice_cases (faults.rollbackToFails, false)
      (·.rollbackTo connection savepointName) store with same | done
    · rwa [same]
    · exact Store.Holds.rollbackTo chained done
  unfold discardBestEffortSavepoint
  rcases attemptTwice_cases faults.discardReleaseFails (·.release connection savepointName)
    (attemptTwice (faults.rollbackToFails, false)
      (·.rollbackTo connection savepointName) store) with same | done
  · rwa [same]
  · exact Store.Holds.release restored done

theorem writeBestEffort_chained
    {store : Store κ (Database α)}
    (chained : ChainedStore sha256 store)
    (faults : BestEffortFaults)
    (event : AuditEvent)
    (connection : κ) :
    ChainedStore sha256 (writeBestEffort sha256 faults event connection store).2 := by
  have inside := writeEventStatements_chained
    (Store.Holds.savepoint chained connection savepointName)
    (outcomeOf faults.selectFails) (outcomeOf faults.insertFails) event connection
  unfold writeBestEffort
  split
  · next refused =>
      rw [refused] at inside
      exact discardBestEffortSavepoint_chained inside faults connection
  · next written done =>
      rw [done] at inside
      have released : ChainedStore sha256
          (perform (outcomeOf faults.releaseFails) connection
            (·.release connection savepointName) written).2 := by
        apply perform_chained inside
        intro next releases
        exact Store.Holds.release inside releases
      split
      · next refused =>
          rw [refused] at released
          exact discardBestEffortSavepoint_chained released faults connection
      · next store succeeded =>
          rw [succeeded] at released
          exact released

/-! ## Runs -/

/-- One operation keeps every copy a chain. -/
theorem step_chained
    {world : World κ α}
    (chained : ChainedStore sha256 world.store)
    (operation : Operation κ α) :
    ChainedStore sha256 (step sha256 world operation).store := by
  cases operation with
  | enter connection beginFails =>
      cases enters : enterScope beginFails connection world with
      | none => simpa [step, enters] using chained
      | some entered => simpa [step, enters] using enterScope_chained chained enters
  | leave connection commit =>
      rw [step]
      exact leaveScope_chained chained commit connection
  | unwind connection =>
      rw [step]
      exact unwindScope_chained chained connection
  | change connection outcome statement =>
      rw [step]
      apply perform_chained chained
      intro next modifies
      refine Store.Holds.modify chained ?_ modifies
      intro database changed holds changes
      obtain ⟨rest, -, rfl⟩ := Option.map_eq_some_iff.mp changes
      exact holds
  | write connection event faults =>
      rw [step]
      exact write_chained chained faults event connection
  | writeBestEffort connection event faults =>
      simp only [step]
      exact writeBestEffort_chained chained faults event connection
  | close connection =>
      rw [step]
      exact Store.Holds.rollback chained connection

/-- Every world that a run reaches holds only chains. -/
theorem run_chained
    {world : World κ α}
    (chained : ChainedStore sha256 world.store)
    (operations : List (Operation κ α)) :
    ChainedStore sha256 (run sha256 world operations).store := by
  induction operations generalizing world with
  | nil => exact chained
  | cons operation rest inductionHypothesis =>
      exact inductionHypothesis (step_chained chained operation)

/-! ## Best-effort writes that give up -/

/-- A store that differs at most in the contents of one open transaction. -/
structure ChangedInside
    (connection : κ)
    (transaction : Transaction (Database α))
    (before after : Store κ (Database α)) : Prop where
  committed : after.committed = before.committed
  others : ∀ other, other ≠ connection → after.transactions other = before.transactions other
  inside : ∃ contents, after.transactions connection = some { transaction with contents }

omit [DecidableEq κ] in
theorem ChangedInside.refl
    {connection : κ}
    {transaction : Transaction (Database α)}
    {store : Store κ (Database α)}
    (isOpen : store.transactions connection = some transaction) :
    ChangedInside connection transaction store store :=
  ⟨rfl, fun _ _ => rfl, transaction.contents, isOpen⟩

theorem changedInside_modify
    {connection : κ}
    {transaction : Transaction (Database α)}
    {store modified : Store κ (Database α)}
    (isOpen : store.transactions connection = some transaction)
    {change : Database α → Option (Database α)}
    (modifies : store.modify connection change = some modified) :
    ChangedInside connection transaction store modified := by
  simp only [Store.modify, isOpen] at modifies
  split at modifies
  · split at modifies
    · simp at modifies
    · next contents changes =>
        obtain rfl := Option.some.inj modifies
        refine ⟨rfl, ?_, contents, by simp [Store.withTransaction]⟩
        intro other different
        simp [Store.withTransaction, Function.update_of_ne different]
  · simp at modifies

/-- Inside a transaction the statements of an event change at most the
contents that the connection reads. -/
theorem changedInside_writeEventStatements
    {connection : κ}
    {transaction : Transaction (Database α)}
    {store : Store κ (Database α)}
    (isOpen : store.transactions connection = some transaction)
    (selectFails insertFails : Bool)
    (event : AuditEvent) :
    ChangedInside connection transaction store
      (writeEventStatements sha256 (outcomeOf selectFails) (outcomeOf insertFails) event
        connection store).2 := by
  have same := ChangedInside.refl isOpen
  unfold writeEventStatements
  split
  · exact same
  · cases selectFails with
    | true => exact same
    | false =>
        cases insertFails with
        | true => exact same
        | false =>
            simp only [outcomeOf, perform, Bool.false_eq_true, if_false]
            split
            · exact same
            · next modified modifies => exact changedInside_modify isOpen modifies

/-- Discarding the savepoint of a best-effort write restores what the
connection reads, also when the savepoint cannot be released. -/
theorem discardBestEffortSavepoint_unchanged
    {store changed : Store κ (Database α)}
    (chained : ChainedStore sha256 store)
    {connection : κ}
    {transaction : Transaction (Database α)}
    (isOpen : (store.savepoint connection savepointName).transactions connection =
      some transaction)
    (changes : ChangedInside connection transaction
      (store.savepoint connection savepointName) changed)
    (faults : BestEffortFaults) :
    Store.Unchanged connection store
      (discardBestEffortSavepoint faults connection changed) := by
  obtain ⟨contents, inside⟩ := changes.inside
  have committed : changed.committed = store.committed := by
    rw [changes.committed, Store.savepoint]
    split <;> rfl
  have others : ∀ other, other ≠ connection →
      changed.transactions other = store.transactions other := by
    intro other different
    rw [changes.others other different, Store.savepoint]
    split <;> simp [Store.withTransaction, Function.update_of_ne different]
  have mapped : changed.transactions connection =
      ((store.savepoint connection savepointName).transactions connection).map
        fun transaction => { transaction with contents } := by
    rw [inside, isOpen, Option.map_some]
  obtain ⟨restored, restores, unchanged, released⟩ :=
    Store.discard_unchanged chained committed others mapped
  unfold discardBestEffortSavepoint
  rw [attemptTwice_of_second restores]
  rcases attemptTwice_cases faults.discardReleaseFails (·.release connection savepointName)
    restored with same | done
  · rwa [same]
  · exact released _ done

/-- A statement that fails alone leaves the store. -/
theorem perform_refused
    {fails : Bool}
    {connection : κ}
    {statement : Store κ (Database α) → Option (Store κ (Database α))}
    {store refused : Store κ (Database α)}
    (performs : perform (outcomeOf fails) connection statement store = (false, refused)) :
    refused = store := by
  cases fails with
  | true => exact (Prod.mk.inj performs).2.symm
  | false =>
      simp only [outcomeOf, perform, Bool.false_eq_true, if_false] at performs
      split at performs
      · exact (Prod.mk.inj performs).2.symm
      · simp at performs

/-- A best-effort write that gives up changes nothing. -/
theorem writeBestEffort_unchanged
    {store : Store κ (Database α)}
    (chained : ChainedStore sha256 store)
    {faults : BestEffortFaults}
    {event : AuditEvent}
    {connection : κ}
    (givesUp : (writeBestEffort sha256 faults event connection store).1 = false) :
    Store.Unchanged connection store
      (writeBestEffort sha256 faults event connection store).2 := by
  obtain ⟨outer, explicit, base, isOpen, -⟩ :=
    Store.transactions_savepoint chained connection savepointName
  have inside := @changedInside_writeEventStatements κ α _ sha256 connection _ _ isOpen
    faults.selectFails faults.insertFails event
  unfold writeBestEffort at givesUp ⊢
  split at givesUp
  · next changed refused =>
      rw [refused] at inside
      exact discardBestEffortSavepoint_unchanged chained isOpen inside faults
  · next written done =>
      rw [done] at inside
      split at givesUp
      · next changed refused =>
          rw [perform_refused refused]
          exact discardBestEffortSavepoint_unchanged chained isOpen inside faults
      · simp at givesUp

/-! ## The guarantee -/

/-- In every world that a run reaches from an empty audit table, the committed
table passes the verification with as many events as it has rows and the last
position equal to their number, and a best-effort write that gives up leaves
the committed contents, what its connection reads and the transactions of all
other connections as they were. -/
theorem committed_chain_verifies
    (sha256 : Bytes → Bytes)
    (rest : α)
    (operations : List (Operation κ α)) :
    (∃ headHash,
      verifyChain sha256 (run sha256 (World.empty rest) operations).store.committed.audit =
        some
          { ok := true
            count := (run sha256 (World.empty rest) operations).store.committed.audit.length
            headSeq := (run sha256 (World.empty rest) operations).store.committed.audit.length
            headHash }) ∧
      ∀ (connection : κ) (event : AuditEvent) (faults : BestEffortFaults),
        (writeBestEffort sha256 faults event connection
          (run sha256 (World.empty rest) operations).store).1 = false →
        Store.Unchanged connection (run sha256 (World.empty rest) operations).store
          (writeBestEffort sha256 faults event connection
            (run sha256 (World.empty rest) operations).store).2 := by
  have start : ChainedStore sha256 (World.empty rest : World κ α).store :=
    Store.holds_initial trivial
  have chained := run_chained start operations
  constructor
  · exact ⟨_, Chained.verifyChain_eq chained.committed⟩
  · intro connection event faults givesUp
    exact writeBestEffort_unchanged chained givesUp

end SqliteAudit
end Vinctor
