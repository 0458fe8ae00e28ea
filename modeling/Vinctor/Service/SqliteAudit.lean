import Vinctor.Foundation.Transactions
import Vinctor.Service.AuditWriting

/-!
# The SQLite audit writer

The writer over connections to one database.  A scope opens a transaction or
joins the open one, a write runs in a scope of its own, and a best-effort write
runs between a savepoint and its release.  Scopes nest, and each call of a
connection holds that connection's lock, so the calls of one connection do not
overlap; calls of several connections interleave.

Every statement may fail.  A failing statement may also make the engine give up
the whole transaction; inside a best-effort write it does not, since going back
to the savepoint is assumed to succeed at the second attempt at the latest.
-/

namespace Vinctor
namespace SqliteAudit

open Foundation
open AuditChain

/-- The audit table and everything else the database holds. -/
structure Database (α : Type u) where
  audit : AuditTable
  rest : α

/-- A scope owns the transaction it opened, or joins the one it found. -/
inductive Scope
  | owned
  | joined
  deriving DecidableEq, Repr

/-- The database and, for each connection, its open scopes, innermost first. -/
structure World (κ : Type u) (α : Type v) where
  store : Store κ (Database α)
  scopes : κ → List Scope

/-- How a statement ends. -/
inductive Outcome
  | succeeds
  | fails
  | aborts
  deriving DecidableEq, Repr

section Calls

variable {κ : Type u} {α : Type v} [DecidableEq κ]

/-- A database with an empty audit table and no open transaction. -/
def World.empty (rest : α) : World κ α where
  store := Store.initial { audit := [], rest }
  scopes := fun _ => []

def World.withScopes
    (world : World κ α)
    (connection : κ)
    (scopes : List Scope) : World κ α :=
  { world with scopes := Function.update world.scopes connection scopes }

/-- A statement with its outcome: whether it succeeded, and the store. -/
def perform
    (outcome : Outcome)
    (connection : κ)
    (statement : Store κ (Database α) → Option (Store κ (Database α)))
    (store : Store κ (Database α)) : Bool × Store κ (Database α) :=
  match outcome with
  | .fails => (false, store)
  | .aborts => (false, store.rollback connection)
  | .succeeds =>
      match statement store with
      | none => (false, store)
      | some store => (true, store)

/-! ## Scopes -/

/-- Entry of a scope. -/
def enterScope
    (beginFails : Bool)
    (connection : κ)
    (world : World κ α) : Option (World κ α) :=
  if world.store.inTransaction connection then
    some (world.withScopes connection (.joined :: world.scopes connection))
  else if beginFails then none
  else
    (world.store.beginImmediate connection).map fun store =>
      { world.withScopes connection (.owned :: world.scopes connection) with store }

/-- Exit of the innermost scope with an exception. -/
def unwindScope (connection : κ) (world : World κ α) : World κ α :=
  match world.scopes connection with
  | [] => world
  | .joined :: outer => world.withScopes connection outer
  | .owned :: outer =>
      { world.withScopes connection outer with store := world.store.rollback connection }

/-- Exit of the innermost scope without one, and whether its commit succeeded.
A failed commit is rolled back. -/
def leaveScope
    (commit : Outcome)
    (connection : κ)
    (world : World κ α) : Bool × World κ α :=
  match world.scopes connection with
  | [] => (true, world)
  | .joined :: outer => (true, world.withScopes connection outer)
  | .owned :: outer =>
      match commit with
      | .succeeds =>
          (true,
            { world.withScopes connection outer with store := world.store.commit connection })
      | _ => (false, unwindScope connection world)

/-! ## Writes -/

/-- The insertion of the row of an event after the head that the connection
reads. -/
def insertEvent
    (sha256 : Bytes → Bytes)
    (event : AuditEvent)
    (database : Database α) : Option (Database α) :=
  (writeEvent sha256 database.audit event).map fun audit => { database with audit }

/-- Read the head and insert the row of an event. -/
def writeEventStatements
    (sha256 : Bytes → Bytes)
    (select insert : Outcome)
    (event : AuditEvent)
    (connection : κ)
    (store : Store κ (Database α)) : Bool × Store κ (Database α) :=
  match event.toJson with
  | none => (false, store)
  | some _ =>
      match perform select connection some store with
      | (false, store) => (false, store)
      | (true, store) =>
          perform insert connection (·.modify connection (insertEvent sha256 event)) store

structure WriteFaults where
  beginFails : Bool := false
  select : Outcome := .succeeds
  insert : Outcome := .succeeds
  commit : Outcome := .succeeds
  deriving DecidableEq, Repr

/-- A write in a scope of its own, and whether it returned. -/
def write
    (sha256 : Bytes → Bytes)
    (faults : WriteFaults)
    (event : AuditEvent)
    (connection : κ)
    (world : World κ α) : Bool × World κ α :=
  match enterScope faults.beginFails connection world with
  | none => (false, world)
  | some entered =>
      match writeEventStatements sha256 faults.select faults.insert event connection
          entered.store with
      | (false, store) => (false, unwindScope connection { entered with store })
      | (true, store) => leaveScope faults.commit connection { entered with store }

/-- Statements of a best-effort write that fail: going back to the savepoint
fails at most at its first attempt. -/
structure BestEffortFaults where
  selectFails : Bool := false
  insertFails : Bool := false
  releaseFails : Bool := false
  rollbackToFails : Bool := false
  discardReleaseFails : Bool × Bool := (false, false)
  deriving DecidableEq, Repr

def savepointName : String := "vinctor_best_effort_audit"

def outcomeOf (fails : Bool) : Outcome := if fails then .fails else .succeeds

/-- Two attempts of a statement; failures of both are ignored. -/
def attemptTwice
    (fails : Bool × Bool)
    (statement : Store κ (Database α) → Option (Store κ (Database α)))
    (store : Store κ (Database α)) : Store κ (Database α) :=
  match (if fails.1 then none else statement store) with
  | some store => store
  | none => (if fails.2 then none else statement store).getD store

/-- Go back to the savepoint and release it. -/
def discardBestEffortSavepoint
    (faults : BestEffortFaults)
    (connection : κ)
    (store : Store κ (Database α)) : Store κ (Database α) :=
  attemptTwice faults.discardReleaseFails (·.release connection savepointName)
    (attemptTwice (faults.rollbackToFails, false) (·.rollbackTo connection savepointName) store)

/-- A best-effort write between a savepoint and its release. -/
def writeBestEffort
    (sha256 : Bytes → Bytes)
    (faults : BestEffortFaults)
    (event : AuditEvent)
    (connection : κ)
    (store : Store κ (Database α)) : Bool × Store κ (Database α) :=
  match writeEventStatements sha256 (outcomeOf faults.selectFails)
      (outcomeOf faults.insertFails) event connection
      (store.savepoint connection savepointName) with
  | (false, store) => (false, discardBestEffortSavepoint faults connection store)
  | (true, written) =>
      match perform (outcomeOf faults.releaseFails) connection
          (·.release connection savepointName) written with
      | (false, store) => (false, discardBestEffortSavepoint faults connection store)
      | (true, store) => (true, store)

/-! ## Runs -/

/-- What a connection can do.  Code inside a scope may catch an exception of
an inner call and go on, or leave the scope with it. -/
inductive Operation (κ : Type u) (α : Type v)
  | enter (connection : κ) (beginFails : Bool)
  | leave (connection : κ) (commit : Outcome)
  | unwind (connection : κ)
  | change (connection : κ) (outcome : Outcome) (statement : α → Option α)
  | write (connection : κ) (event : AuditEvent) (faults : WriteFaults)
  | writeBestEffort (connection : κ) (event : AuditEvent) (faults : BestEffortFaults)
  | close (connection : κ)

def step (sha256 : Bytes → Bytes) (world : World κ α) : Operation κ α → World κ α
  | .enter connection beginFails => (enterScope beginFails connection world).getD world
  | .leave connection commit => (leaveScope commit connection world).2
  | .unwind connection => unwindScope connection world
  | .change connection outcome statement =>
      { world with
        store := (perform outcome connection
          (·.modify connection fun database =>
            (statement database.rest).map fun rest => { database with rest })
          world.store).2 }
  | .write connection event faults => (write sha256 faults event connection world).2
  | .writeBestEffort connection event faults =>
      { world with
        store := (writeBestEffort sha256 faults event connection world.store).2 }
  -- The connection is closed or its process is killed.
  | .close connection =>
      { world.withScopes connection [] with store := world.store.rollback connection }

/-- World after a run. -/
def run (sha256 : Bytes → Bytes) (world : World κ α) (operations : List (Operation κ α)) :
    World κ α :=
  operations.foldl (step sha256) world

end Calls

end SqliteAudit
end Vinctor
