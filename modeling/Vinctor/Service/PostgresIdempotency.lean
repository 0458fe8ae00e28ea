import Vinctor.Foundation.Interleaving
import Vinctor.Service.IdempotencyRuns

/-!
# Idempotent execution over PostgreSQL

Executions of different sessions interleave statement by statement.  A statement sees what
was committed when it started and the writes of its own transaction.  A deleting statement
waits for a locked row, and a row that is gone by then is not deleted; a collection of
garbage passes over locked rows.  Locks are held to the end of a transaction, which
commits, or is rolled back, or ends in a commit of which the caller does not learn.

The ledger of nonces is not read here: reservations, claims and the checks of them have
any outcome.  Neither is anything assumed of the keys of the advisory locks.  Executions
and collections are numbered, and the number is that of their transactions.
-/

namespace Vinctor
namespace PostgresIdempotency

open Foundation
open Idempotency
open Fallible

/-! ## State -/

/-- A version of a row is told apart by its writer. -/
structure Row where
  record : CompletedResultRecord
  writer : Nat
  deriving DecidableEq, Repr

/-- A mutation that was committed, and the epoch of the database when it ran. -/
structure Commit where
  mutation : CommittedMutation
  ranAt : Int
  deriving DecidableEq, Repr

/-- One call of `execute`. -/
structure Execution where
  id : Nat
  invocation : IdempotencyInvocation
  deriving DecidableEq, Repr

structure Answer where
  execution : Execution
  response : PreSerializedHttpResponse
  deriving DecidableEq, Repr

/-- The committed rows, the locks, and what was committed and answered. -/
structure State where
  epoch : Int
  results : ResultIdentity → Option Row := fun _ => none
  rowLocks : ResultIdentity → Option Nat := fun _ => none
  inserting : ResultIdentity → Option Nat := fun _ => none
  advisory : Int → Option Nat := fun _ => none
  nextId : Nat := 0
  commits : List Commit := []
  answers : List Answer := []

/-! ## Tasks -/

structure PostgresCompletionAttempt where
  execution : Execution
  reservation : CryptoReservation
  deriving DecidableEq, Repr

abbrev PostgresCompletionAttempt.identity (attempt : PostgresCompletionAttempt) :
    ResultIdentity :=
  attempt.execution.invocation.resultIdentity

/-- The mutation of a completion, once it is committed. -/
def PostgresCompletionAttempt.committed
    (attempt : PostgresCompletionAttempt)
    (response : PreSerializedHttpResponse)
    (nowEpoch ranAt : Int)
    (stored : Option CompletedResultRecord) : Commit where
  mutation :=
    { execution := attempt.execution.id
      invocation := attempt.execution.invocation
      nowEpoch
      response
      expiresAtEpoch := stored.map CompletedResultRecord.expiresAtEpoch }
  ranAt

/-- What a completion has to commit. -/
inductive Work
  | replays (response : PreSerializedHttpResponse)
  | ran (response : PreSerializedHttpResponse) (nowEpoch ranAt : Int)
      (stored : Option CompletedResultRecord)
  deriving DecidableEq, Repr

/-- What deletes a row. -/
inductive Deleter
  | completion (attempt : PostgresCompletionAttempt) (nowEpoch : Int)
  | collection (id : Nat) (nowEpoch : Int) (rows : List (ResultIdentity × Row))
      (deletes : List ResultIdentity)
  deriving DecidableEq, Repr

/-- Where an execution or a collection stands. -/
inductive Task
  | ticking (seconds : Nat)
  | executing (invocation : IdempotencyInvocation)
  | lookingUp (execution : Execution) (nowEpoch : Int)
  | reserving (execution : Execution)
  | completing (attempt : PostgresCompletionAttempt)
  | reloading (attempt : PostgresCompletionAttempt) (nowEpoch : Int)
  | claiming (attempt : PostgresCompletionAttempt)
  | locking (attempt : PostgresCompletionAttempt)
  | authenticating (attempt : PostgresCompletionAttempt)
  | readingEpoch (attempt : PostgresCompletionAttempt)
  | loading (attempt : PostgresCompletionAttempt) (nowEpoch : Int)
  | classifying (attempt : PostgresCompletionAttempt) (nowEpoch : Int) (row : Option Row)
  | mutating (attempt : PostgresCompletionAttempt) (nowEpoch : Int)
      (deletes : List ResultIdentity)
  | storing (attempt : PostgresCompletionAttempt) (nowEpoch ranAt : Int)
      (deletes : List ResultIdentity) (response : PreSerializedHttpResponse)
      (record : CompletedResultRecord)
  | committing (attempt : PostgresCompletionAttempt) (deletes : List ResultIdentity)
      (work : Work)
  | deleting (deleter : Deleter) (identity : ResultIdentity)
  | awaiting (deleter : Deleter) (identity : ResultIdentity) (row : Row)
  | collecting (limit : Int)
  | selecting (id left : Nat) (rows : List (ResultIdentity × Row))
  | sweeping (id : Nat) (nowEpoch : Int) (rows : List (ResultIdentity × Row))
      (deletes : List ResultIdentity)
  deriving DecidableEq, Repr

/-- What a task meets. -/
inductive Choice
  | goes
  | raises
  | reserves (reservation : CryptoReservation)
  | mutates (outcome : CacheableTerminalOutcome)
  | selects (identity : ResultIdentity)
  | ambiguous (tookEffect : Bool)
  deriving DecidableEq, Repr

/-- The number of a task. -/
def Task.ids : Task → List Nat
  | .ticking _ | .executing _ | .collecting _ => []
  | .lookingUp execution _ | .reserving execution => [execution.id]
  | .completing attempt | .reloading attempt _ | .claiming attempt | .locking attempt
  | .authenticating attempt | .readingEpoch attempt | .loading attempt _
  | .classifying attempt _ _ | .mutating attempt _ _ | .storing attempt _ _ _ _ _
  | .committing attempt _ _ | .deleting (.completion attempt _) _
  | .awaiting (.completion attempt _) _ _ => [attempt.execution.id]
  | .deleting (.collection id _ _ _) _ | .awaiting (.collection id _ _ _) _ _
  | .selecting id _ _ | .sweeping id _ _ _ => [id]

def Deleter.id : Deleter → Nat
  | .completion attempt _ => attempt.execution.id
  | .collection id _ _ _ => id

/-- What is left of a task when the row was deleted, or there was none. -/
def Deleter.resume (deleted : List ResultIdentity) : Deleter → Task
  | .completion attempt nowEpoch => .mutating attempt nowEpoch deleted
  | .collection id nowEpoch rows deletes => .sweeping id nowEpoch rows (deletes ++ deleted)

/-! ## Statements -/

/-- PostgreSQL has no text with a NUL. -/
def storable (identity : ResultIdentity) (record : CompletedResultRecord) : Bool :=
  record.check identity &&
    [identity.workspaceId, identity.principal, identity.operation,
      record.cipherKeyVersion].all fun text => '\x00' ∉ text.toList

namespace State

/-- The locks of a transaction that has ended are free. -/
def release (state : State) (id : Nat) : State :=
  { state with
    rowLocks := fun identity =>
      if state.rowLocks identity = some id then none else state.rowLocks identity
    inserting := fun identity =>
      if state.inserting identity = some id then none else state.inserting identity
    advisory := fun key => if state.advisory key = some id then none else state.advisory key }

/-- The committed rows after a transaction. -/
def apply
    (state : State)
    (deletes : List ResultIdentity)
    (insert : Option (ResultIdentity × Row)) : State :=
  { state with
    results := fun identity =>
      match insert with
      | some (target, row) =>
          if identity = target then some row
          else if identity ∈ deletes then none
          else state.results identity
      | none => if identity ∈ deletes then none else state.results identity }

def answer
    (state : State)
    (execution : Execution)
    (response : PreSerializedHttpResponse) : State :=
  { state with answers := state.answers ++ [⟨execution, response⟩] }

/-- A transaction lock on a key. -/
def lockAdvisory (state : State) (key : Int) (id : Nat) : State :=
  { state with advisory := Function.update state.advisory key (some id) }

def lockRow (state : State) (identity : ResultIdentity) (id : Nat) : State :=
  { state with rowLocks := Function.update state.rowLocks identity (some id) }

def lockInsert (state : State) (identity : ResultIdentity) (id : Nat) : State :=
  { state with inserting := Function.update state.inserting identity (some id) }

end State

/-- Whether a lock is free for a transaction. -/
def isFree (holder : Option Nat) (id : Nat) : Bool :=
  match holder with
  | none => true
  | some other => other = id

/-- The record that a completion stores. -/
def sealOutcome
    (aead : Aead)
    (keyring : Option IdempotencyKeyring)
    (attempt : PostgresCompletionAttempt)
    (response : PreSerializedHttpResponse)
    (nowEpoch expiresAtEpoch : Int) : Except IdempotencyError CompletedResultRecord := do
  let (key, call) ← encryptOutcome keyring attempt.execution.invocation attempt.reservation
    response nowEpoch expiresAtEpoch
  let ciphertext ← require
    (aead.encrypt call.key call.nonce call.plaintext call.associatedData) .cipherUnavailable
  let envelope := sealedEnvelope key call ciphertext
  ensure (envelope.nonce = attempt.reservation.nonce ∧
    envelope.version = attempt.reservation.version) .cipherUnavailable
  return sealedRecord attempt.execution.invocation response envelope nowEpoch expiresAtEpoch

/-! ## Steps -/

section Steps

variable
    (aead : Aead)
    (keyring : Option IdempotencyKeyring)
    (advisoryKey : ResultIdentity → Int)

abbrev Outcome := Option (State × List Task)

/-- A lookup of its own transaction. -/
def lookUp
    (state : State)
    (execution : Execution)
    (nowEpoch : Int)
    (proceeds : Task) : State × List Task :=
  match classifyCompletedResult aead keyring execution.invocation
      ((state.results execution.invocation.resultIdentity).map Row.record) nowEpoch with
  | .error _ => (state, [])
  | .ok (.replayCandidate response) => (state.answer execution response, [])
  | .ok .proceedToReservation => (state, [proceeds])

/-- What a completion does with the row that it has loaded. -/
def classify
    (state : State)
    (attempt : PostgresCompletionAttempt)
    (nowEpoch : Int)
    (row : Option Row) : State × List Task :=
  match classifyCompletedResult aead keyring attempt.execution.invocation
      (row.map Row.record) nowEpoch with
  | .error _ => (state.release attempt.execution.id, [])
  | .ok (.replayCandidate response) => (state, [.committing attempt [] (.replays response)])
  | .ok .proceedToReservation =>
      match row with
      | none => (state, [.mutating attempt nowEpoch []])
      | some _ => (state, [.deleting (.completion attempt nowEpoch) attempt.identity])

/-- The mutation has run; its outcome is sealed if it has not expired. -/
def mutate
    (state : State)
    (attempt : PostgresCompletionAttempt)
    (nowEpoch : Int)
    (deletes : List ResultIdentity)
    (outcome : CacheableTerminalOutcome) : State × List Task :=
  let expiresAtEpoch :=
    terminalExpiryEpoch attempt.execution.invocation nowEpoch outcome.replayNotAfterEpoch
  if expiresAtEpoch ≤ nowEpoch then
    (state, [.committing attempt deletes (.ran outcome.response nowEpoch state.epoch none)])
  else
    match sealOutcome aead keyring attempt outcome.response nowEpoch expiresAtEpoch with
    | .error _ => (state.release attempt.execution.id, [])
    | .ok record =>
        (state, [.storing attempt nowEpoch state.epoch deletes outcome.response record])

/-- An insert waits for one of the same identity, and for the transaction that has locked a
row in its way. -/
def store
    (state : State)
    (attempt : PostgresCompletionAttempt)
    (nowEpoch ranAt : Int)
    (deletes : List ResultIdentity)
    (response : PreSerializedHttpResponse)
    (record : CompletedResultRecord) : Outcome :=
  let id := attempt.execution.id
  if !storable attempt.identity record then some (state.release id, [])
  else if !isFree (state.inserting attempt.identity) id then none
  else if (state.results attempt.identity).isSome && attempt.identity ∉ deletes then
    if isFree (state.rowLocks attempt.identity) id then some (state.release id, []) else none
  else
    some (state.lockInsert attempt.identity id,
      [.committing attempt deletes (.ran response nowEpoch ranAt (some record))])

/-- The changes of a completion take effect. -/
def takeEffect
    (state : State)
    (attempt : PostgresCompletionAttempt)
    (deletes : List ResultIdentity) : Work → State
  | .replays _ => state.release attempt.execution.id
  | .ran response nowEpoch ranAt stored =>
      { (state.apply deletes (stored.map fun record =>
          (attempt.identity, ⟨record, attempt.execution.id⟩))).release attempt.execution.id with
        commits := state.commits ++ [attempt.committed response nowEpoch ranAt stored] }

def Work.response : Work → PreSerializedHttpResponse
  | .replays response | .ran response _ _ _ => response

/-- The end of the transaction of a completion. -/
def commit
    (state : State)
    (choice : Choice)
    (attempt : PostgresCompletionAttempt)
    (deletes : List ResultIdentity)
    (work : Work) : State × List Task :=
  match choice with
  | .ambiguous true => (takeEffect state attempt deletes work, [])
  | .ambiguous false => (state.release attempt.execution.id, [])
  | _ => ((takeEffect state attempt deletes work).answer attempt.execution work.response, [])

/-- A row that was deleted meanwhile is not deleted, and one that was inserted is not
seen. -/
def delete
    (state : State)
    (deleter : Deleter)
    (identity : ResultIdentity)
    (row : Row) : Outcome :=
  if !isFree (state.rowLocks identity) deleter.id then none
  else if state.results identity = some row then
    some (state.lockRow identity deleter.id, [deleter.resume [identity]])
  else some (state, [deleter.resume []])

/-- One row of a garbage collection is locked. -/
def select
    (state : State)
    (id left : Nat)
    (rows : List (ResultIdentity × Row))
    (identity : ResultIdentity) : Outcome :=
  match left, state.results identity with
  | left + 1, some row =>
      if row.record.expiresAtEpoch ≤ state.epoch ∧ state.rowLocks identity = none then
        some (state.lockRow identity id, [.selecting id left (rows ++ [(identity, row)])])
      else none
  | _, _ => none

/-- The next row of a garbage collection, or its end. -/
def sweep
    (state : State)
    (choice : Choice)
    (id : Nat)
    (nowEpoch : Int)
    (rows : List (ResultIdentity × Row))
    (deletes : List ResultIdentity) : State × List Task :=
  match rows with
  | [] =>
      match choice with
      | .ambiguous false => (state.release id, [])
      | _ => ((state.apply deletes none).release id, [])
  | (identity, row) :: rows =>
      match classifyCompletedResult aead keyring (rowInvocation identity row.record)
          (some row.record) nowEpoch with
      | .error _ => (state.release id, [])
      | .ok (.replayCandidate _) => (state, [.sweeping id nowEpoch rows deletes])
      | .ok .proceedToReservation =>
          (state, [.deleting (.collection id nowEpoch rows deletes) identity])

/-- One statement.  Every transaction may raise, and is then rolled back. -/
def proceed (choice : Choice) (state : State) : Task → Outcome
  | .ticking seconds => some ({ state with epoch := state.epoch + seconds }, [])
  | .executing invocation =>
      some ({ state with nextId := state.nextId + 1 },
        [.lookingUp ⟨state.nextId, invocation⟩ state.epoch])
  | .lookingUp execution nowEpoch =>
      some (lookUp aead keyring state execution nowEpoch (.reserving execution))
  | .reserving execution =>
      match choice with
      | .reserves reservation => some (state, [.completing ⟨execution, reservation⟩])
      | _ => none
  | .completing attempt => some (state, [.reloading attempt state.epoch])
  | .reloading attempt nowEpoch =>
      some (lookUp aead keyring state attempt.execution nowEpoch (.claiming attempt))
  | .claiming attempt => some (state, [.locking attempt])
  | .locking attempt =>
      if isFree (state.advisory (advisoryKey attempt.identity)) attempt.execution.id then
        some (state.lockAdvisory (advisoryKey attempt.identity) attempt.execution.id,
          [.authenticating attempt])
      else none
  | .authenticating attempt => some (state, [.readingEpoch attempt])
  | .readingEpoch attempt => some (state, [.loading attempt state.epoch])
  | .loading attempt nowEpoch =>
      some (state, [.classifying attempt nowEpoch (state.results attempt.identity)])
  | .classifying attempt nowEpoch row => some (classify aead keyring state attempt nowEpoch row)
  | .mutating attempt nowEpoch deletes =>
      match choice with
      | .mutates outcome => some (mutate aead keyring state attempt nowEpoch deletes outcome)
      | _ => none
  | .storing attempt nowEpoch ranAt deletes response record =>
      store state attempt nowEpoch ranAt deletes response record
  | .committing attempt deletes work => some (commit state choice attempt deletes work)
  | .deleting deleter identity =>
      match state.results identity with
      | none => some (state, [deleter.resume []])
      | some row => some (state, [.awaiting deleter identity row])
  | .awaiting deleter identity row => delete state deleter identity row
  | .collecting limit =>
      some ({ state with nextId := state.nextId + 1 },
        [.selecting state.nextId (max 0 (min limit 100)).toNat []])
  | .selecting id left rows =>
      match choice with
      | .selects identity => select state id left rows identity
      | _ => some (state, [.sweeping id state.epoch rows []])
  | .sweeping id nowEpoch rows deletes =>
      some (sweep aead keyring state choice id nowEpoch rows deletes)

def step (choice : Choice) (state : State) (task : Task) : Outcome :=
  match choice, task.ids with
  | .raises, [id] => some (state.release id, [])
  | _, _ => proceed aead keyring advisoryKey choice state task

def system : Interleaving State Task Choice := ⟨step aead keyring advisoryKey⟩

/-! ## Runs -/

inductive Event
  | tick (seconds : Nat)
  | execute (invocation : IdempotencyInvocation)
  | gcExpiredResults (limit : Int)
  | advance (index : Nat) (choice : Choice)
  deriving DecidableEq, Repr

def Event.taskEvent : Event → TaskEvent Task Choice
  | .tick seconds => .start (.ticking seconds)
  | .execute invocation => .start (.executing invocation)
  | .gcExpiredResults limit => .start (.collecting limit)
  | .advance index choice => .advance index choice

/-- A database without results, after some events. -/
def run (epoch : Int) (events : List Event) : Tasks State Task :=
  (system aead keyring advisoryKey).run ⟨{ epoch }, []⟩ (events.map Event.taskEvent)

end Steps

end PostgresIdempotency
end Vinctor
