import Vinctor.Foundation.Interleaving
import Vinctor.Service.IdempotencyLifecycle
import Vinctor.Service.PostgresIdempotency

/-!
# Key versions over PostgreSQL

Services, lifecycle calls and garbage collections work on one database, and their
statements interleave.  A service has a shared session lock on its active version from its
start and takes it again on every connection that replaces a lost one.  A lifecycle call
needs the lock for itself; where the outcome of its commit is unknown it takes the lock
again in a session of its own, and gives it back before that session commits.  The locks of
a session last until they are given back or the session ends.

Of a completion this model has what concerns the version: the check of its reservation and
the result that it inserts when it commits.  A transaction of one statement is one step.
Calls are numbered, and so are the connections of each service.
-/

namespace Vinctor
namespace PostgresKeys

open Foundation
open Idempotency

/-! ## State -/

/-- A session of the database. -/
inductive Session
  | service (id number : Nat)
  | call (id : Nat)
  deriving DecidableEq, Repr

/-- A service and its connection.  A thread has the lock of the connection for a whole
transaction, and until a new connection was validated. -/
structure Service where
  version : String
  session : Option Nat
  registered : Bool := true
  locked : Bool := false
  closed : Bool := false
  deriving DecidableEq, Repr

/-- A result that was inserted, and what was recorded of its version then. -/
structure Insertion where
  record : CompletedResultRecord
  drainCompletedEpoch : Option Int
  deriving DecidableEq, Repr

/-- A result that a retirement deleted, and the epoch that it read. -/
structure Removal where
  record : CompletedResultRecord
  nowEpoch : Int
  deriving DecidableEq, Repr

/-- The committed tables, the locks of sessions and calls, and what was done. -/
structure State where
  epoch : Int
  tables : Tables := Tables.empty
  lost : List Session := []
  shared : Int → List Session := fun _ => []
  exclusive : Int → Option Nat := fun _ => none
  versionLocks : String → Option Nat := fun _ => none
  rowLocks : ResultIdentity → Option Nat := fun _ => none
  services : Nat → Option Service := fun _ => none
  nextId : Nat := 0
  insertions : List Insertion := []
  removals : List Removal := []
  startedLate : Bool := false

/-! ## Tasks -/

/-- What the next transaction of an execution is for. -/
inductive Goal
  | reserves (nowEpoch : Int)
  | claims (reservation : CryptoReservation)
  | completes (reservation : CryptoReservation)
  deriving DecidableEq, Repr

structure Execution where
  service : Nat
  version : String
  invocation : IdempotencyInvocation
  deriving DecidableEq, Repr

/-- A lifecycle call with the lock of its version, or its recovery. -/
structure Call where
  id : Nat
  version : String
  activeVersion : String
  recovers : Bool
  deriving DecidableEq, Repr

inductive Action
  | drain
  | retire
  deriving DecidableEq, Repr

/-- What a call has still to commit. -/
inductive Update
  | drain (nowEpoch : Int)
  | retire (nowEpoch : Int) (rows : List (ResultIdentity × CompletedResultRecord))
  deriving DecidableEq, Repr

def Update.action : Update → Action
  | .drain _ => .drain
  | .retire _ _ => .retire

inductive Task
  | ticking (seconds : Nat)
  | losing (session : Session)
  | collecting (identity : ResultIdentity)
  | constructing (keyring : IdempotencyKeyring)
  | attesting (keyring : IdempotencyKeyring) (service : Nat)
  | registering (keyring : IdempotencyKeyring) (service : Nat)
  | closing (service : Nat)
  | releasing (service : Nat)
  | disconnecting (service : Nat)
  | executing (service : Nat) (invocation : IdempotencyInvocation)
  | waiting (execution : Execution) (goal : Goal)
  | validating (execution : Execution) (goal : Goal) (number : Nat)
  | transacting (execution : Execution) (goal : Goal) (number : Nat)
  | storing (execution : Execution) (reservation : CryptoReservation) (number : Nat)
  | committing (execution : Execution) (record : CompletedResultRecord) (number : Nat)
  | checkingDisable (version : String) (reason : WriteDisabledReason)
  | disabling (version : String) (reason : WriteDisabledReason) (nowEpoch : Option Int)
  | redisabling (version : String) (reason : WriteDisabledReason) (nowEpoch : Int)
  | calling (version activeVersion : String) (action : Action)
  | guarding (call : Call) (action : Action)
  | checking (call : Call) (action : Action)
  | draining (call : Call)
  | readingWindow (call : Call) (drainCompletedEpoch : Int)
  | checkingActive (call : Call)
  | selecting (call : Call)
  | listing (call : Call) (nowEpoch : Int)
  | lockingRows (call : Call) (nowEpoch : Int)
      (rows found : List (ResultIdentity × CompletedResultRecord))
  | retiring (call : Call) (nowEpoch : Int)
      (rows : List (ResultIdentity × CompletedResultRecord))
  | ending (call : Call) (update : Update)
  | unlocking (call : Call) (pending : Option Update)
  deriving DecidableEq, Repr

/-- What a task meets.  The fate of a commit that is not reported says whether it took
effect. -/
structure Choice where
  raises : Bool := false
  unreported : Option Bool := none
  nonce : Option Bytes := none
  stores : Option CompletedResultRecord := none
  deriving DecidableEq, Repr

/-- The session that a task needs. -/
def Task.session : Task → Option Session
  | .attesting _ service | .registering _ service => some (.service service 0)
  | .validating execution _ number | .transacting execution _ number
  | .storing execution _ number | .committing execution _ number =>
      some (.service execution.service number)
  | .guarding call _ | .checking call _ | .draining call | .readingWindow call _
  | .checkingActive call | .selecting call | .listing call _ | .lockingRows call _ _ _
  | .retiring call _ _ | .ending call _ | .unlocking call _ => some (.call call.id)
  | _ => none

/-- The service whose connection a task has locked. -/
def Task.locks : Task → List Nat
  | .attesting _ service | .registering _ service => [service]
  | .validating execution _ _ | .transacting execution _ _ | .storing execution _ _
  | .committing execution _ _ => [execution.service]
  | _ => []

/-- The call that a task belongs to. -/
def Task.call : Task → Option Call
  | .guarding call _ | .checking call _ | .draining call | .readingWindow call _
  | .checkingActive call | .selecting call | .listing call _ | .lockingRows call _ _ _
  | .retiring call _ _ | .ending call _ | .unlocking call _ => some call
  | _ => none

/-! ## Changes -/

namespace State

def setService (state : State) (id : Nat) (service : Service) : State :=
  { state with services := Function.update state.services id (some service) }

/-- Change a service, if it is there. -/
def modifyService (state : State) (id : Nat) (change : Service → Service) : State :=
  match state.services id with
  | none => state
  | some service => state.setService id (change service)

def unlock (state : State) (service : Nat) : State :=
  state.modifyService service fun service => { service with locked := false }

/-- A connection that is not used again.  Its session ends sooner or later. -/
def quarantine (state : State) (service : Nat) : State :=
  state.modifyService service fun service => { service with locked := false, session := none }

/-- A service that is not used again. -/
def shut (state : State) (service : Nat) : State :=
  state.modifyService service fun service =>
    { service with locked := false, session := none, closed := true }

/-- A session gives its shared locks back. -/
def unshare (state : State) (session : Session) : State :=
  { state with shared := fun carrier => (state.shared carrier).filter (· ≠ session) }

def share (state : State) (carrier : Int) (session : Session) : State :=
  { state with
    shared := Function.update state.shared carrier (session :: state.shared carrier) }

/-- A call gives its advisory lock back. -/
def unlockExclusive (state : State) (id : Nat) : State :=
  { state with
    exclusive := fun carrier =>
      if state.exclusive carrier = some id then none else state.exclusive carrier }

def lockExclusive (state : State) (carrier : Int) (id : Nat) : State :=
  { state with exclusive := Function.update state.exclusive carrier (some id) }

/-- The transaction of a call has ended. -/
def unlockRows (state : State) (id : Nat) : State :=
  { state with
    versionLocks := fun version =>
      if state.versionLocks version = some id then none else state.versionLocks version
    rowLocks := fun identity =>
      if state.rowLocks identity = some id then none else state.rowLocks identity }

def lockVersion (state : State) (version : String) (id : Nat) : State :=
  { state with versionLocks := Function.update state.versionLocks version (some id) }

def lockRow (state : State) (identity : ResultIdentity) (id : Nat) : State :=
  { state with rowLocks := Function.update state.rowLocks identity (some id) }

/-- The end of a session frees all its locks. -/
def lose (state : State) (session : Session) : State :=
  let state := { state with lost := session :: state.lost }
  match session with
  | .service _ _ => state.unshare session
  | .call id => (state.unlockExclusive id).unlockRows id

end State

/-- A task that failed, and what it gives back. -/
def abandon (state : State) (task : Task) : State :=
  match task with
  | .attesting _ service | .registering _ service => state.shut service
  | .validating execution _ _ => state.quarantine execution.service
  | .transacting execution _ _ | .storing execution _ _ | .committing execution _ _ =>
      state.unlock execution.service
  | task =>
      match task.call with
      | none => state
      | some call => (state.unlockRows call.id).unlockExclusive call.id

/-! ## Tables -/

abbrev disabledAt (tables : Tables) (version : String) : Option Int :=
  (tables.keyVersions.get? version).bind KeyVersionRow.writeDisabledEpoch

abbrev drainedAt (tables : Tables) (version : String) : Option Int :=
  (tables.keyVersions.get? version).bind KeyVersionRow.drainCompletedEpoch

abbrev retiredAt (tables : Tables) (version : String) : Option Int :=
  (tables.keyVersions.get? version).bind KeyVersionRow.retiredEpoch

/-- Tables without some results. -/
def withoutRows
    (tables : Tables)
    (rows : List (ResultIdentity × CompletedResultRecord)) : Tables :=
  rows.foldl
    (fun tables row => { tables with results := tables.results.erase row.1 })
    tables

/-- How an update changes the row of its version. -/
def Update.change : Update → KeyVersionRow → KeyVersionRow
  | .drain nowEpoch => endDrain nowEpoch
  | .retire nowEpoch _ => endUse nowEpoch

/-- The results that an update deletes. -/
def Update.rows : Update → List (ResultIdentity × CompletedResultRecord)
  | .drain _ => []
  | .retire _ rows => rows

theorem Update.keepsCommitment (update : Update) (row : KeyVersionRow) :
    (update.change row).keyCommitment = row.keyCommitment := by
  cases update <;> rfl

/-- The tables after an update of a call. -/
def applyUpdate (tables : Tables) (version : String) (update : Update) : Tables :=
  { withoutRows tables update.rows with
    keyVersions := tables.keyVersions.modify version update.change update.keepsCommitment }

/-- The row that the `UPDATE` of a drain selects. -/
def drainable (version : String) (nowEpoch : Int) (row : KeyVersionRow) : Bool :=
  row.writeDisabledEpoch.isSome && row.retiredEpoch.isNone &&
    (endDrain nowEpoch row).check version

/-! ## Executions -/

section Steps

variable (carrier : String → Int)

abbrev Outcome := Option (State × List Task)

/-- A transaction starts on the connection of the service.  It is opened again if its
session has ended, and then takes the shared lock first. -/
def connect (state : State) (execution : Execution) (goal : Goal) : Outcome :=
  match state.services execution.service with
  | none => some (state, [])
  | some service =>
      if service.locked then none
      else
        match service.session.filter (.service execution.service · ∉ state.lost) with
        | some number =>
            some (state.setService execution.service { service with locked := true },
              [.transacting execution goal number])
        | none =>
            if service.closed then some (state, [])
            else
              some ({ state.setService execution.service
                    { service with session := some state.nextId, locked := true } with
                  nextId := state.nextId + 1 },
                [if service.registered then .validating execution goal state.nextId
                else .transacting execution goal state.nextId])

/-- A connection that replaces another is used once it has the shared lock. -/
def validate
    (state : State)
    (execution : Execution)
    (goal : Goal)
    (number : Nat) : Outcome :=
  if state.exclusive (carrier execution.version) = none then
    some (state.share (carrier execution.version) (.service execution.service number),
      [.transacting execution goal number])
  else none

/-- The end of a transaction of a service. -/
def finish
    (state : State)
    (choice : Choice)
    (service : Nat)
    (tables : Tables)
    (next : List Task) : State × List Task :=
  match choice.unreported with
  | none => ({ state with tables }.unlock service, next)
  | some tookEffect =>
      ({ state with tables := if tookEffect then tables else state.tables }.quarantine service,
        [])

def transact
    (state : State)
    (choice : Choice)
    (execution : Execution)
    (number : Nat) : Goal → Outcome
  | .reserves nowEpoch =>
      if (state.versionLocks execution.version).isSome then none
      else
        match reserveNonce execution.version execution.invocation nowEpoch choice.nonce
            state.tables with
        | .ok (reservation, tables) =>
            some (finish state choice execution.service tables
              [.waiting execution (.claims reservation)])
        | .error .hardLimitReached =>
            some (state.unlock execution.service,
              [.disabling execution.version .hardLimit (some nowEpoch)])
        | .error .nonceCollision =>
            some (state.unlock execution.service,
              [.disabling execution.version .nonceCollision (some nowEpoch)])
        | .error (.raised _) => some (state.unlock execution.service, [])
  | .claims reservation =>
      match (do
          let _ ← requireReservationAuthentic state.tables execution.invocation reservation
          claimReservation execution.invocation reservation state.epoch state.tables) with
      | .ok tables =>
          some (finish state choice execution.service tables
            [.waiting execution (.completes reservation)])
      | .error _ => some (state.unlock execution.service, [])
  | .completes reservation =>
      match requireReservationAuthentic state.tables execution.invocation reservation with
      | .ok (some _) => some (state, [.storing execution reservation number])
      | _ => some (state.unlock execution.service, [])

/-- A completion that ran its mutation, or found a response to replay. -/
def storeOrEnd
    (state : State)
    (choice : Choice)
    (execution : Execution)
    (reservation : CryptoReservation)
    (number : Nat) : State × List Task :=
  match choice.stores with
  | none => (state.unlock execution.service, [])
  | some record =>
      (state, [.committing execution
        { record with
          cipherKeyVersion := reservation.version
          responseNonce := reservation.nonce }
        number])

/-- The tables without the expired result of an identity. -/
def withoutExpired (state : State) (identity : ResultIdentity) : Tables :=
  if (state.tables.results.get? identity).any (·.expiresAtEpoch ≤ state.epoch) then
    { state.tables with results := state.tables.results.erase identity }
  else state.tables

/-- A completion commits its result. -/
def commitResult
    (state : State)
    (choice : Choice)
    (execution : Execution)
    (record : CompletedResultRecord) : Outcome :=
  let identity := execution.invocation.resultIdentity
  if (state.rowLocks identity).isSome then none
  else if !PostgresIdempotency.storable identity record then
    some (state.unlock execution.service, [])
  else
    match insertResult identity record (withoutExpired state identity) with
    | .error _ => some (state.unlock execution.service, [])
    | .ok tables =>
        let insertions :=
          if choice.unreported.getD true then
            state.insertions ++ [⟨record, drainedAt state.tables record.cipherKeyVersion⟩]
          else state.insertions
        some (finish { state with insertions } choice execution.service tables [])

/-! ## Services -/

def construct (state : State) (keyring : IdempotencyKeyring) : State × List Task :=
  ({ state.setService state.nextId
        { version := keyring.activeVersion, session := some 0, locked := true } with
      nextId := state.nextId + 1 },
    [.attesting keyring state.nextId])

def register (state : State) (keyring : IdempotencyKeyring) (service : Nat) : State :=
  match registerKeyring (some keyring) state.epoch state.tables with
  | .error _ => state.shut service
  | .ok tables => { state with tables }.unlock service

def unregister (state : State) (id : Nat) : State × List Task :=
  match state.services id with
  | none => (state, [])
  | some service => (state.setService id { service with registered := false }, [.releasing id])

/-- The lock of the connection is waited for. -/
def release (state : State) (id : Nat) : Outcome :=
  match state.services id with
  | none => some (state, [])
  | some service =>
      if service.locked then none
      else
        some (service.session.elim state fun number => state.unshare (.service id number),
          [.disconnecting id])

def disconnect (state : State) (id : Nat) : Outcome :=
  match state.services id with
  | none => some (state, [])
  | some service =>
      if service.locked then none
      else some (state.shut id, [])

/-! ## Lifecycle calls -/

def disable
    (state : State)
    (choice : Choice)
    (version : String)
    (reason : WriteDisabledReason)
    (nowEpoch : Int)
    (unreported : List Task) : Outcome :=
  if (state.versionLocks version).isSome then none
  else
    match writeDisable version reason nowEpoch state.tables with
    | .error _ => some (state, [])
    | .ok tables =>
        match choice.unreported with
        | none => some ({ state with tables }, [])
        | some tookEffect =>
            some ({ state with tables := if tookEffect then tables else state.tables },
              unreported)

/-- The advisory lock is tried, not waited for. -/
def guard (state : State) (call : Call) (action : Action) : State × List Task :=
  if state.shared (carrier call.version) = [] ∧ state.exclusive (carrier call.version) = none then
    (state.lockExclusive (carrier call.version) call.id, [.checking call action])
  else (state, [])

/-- A recovery only asks whether its update took effect. -/
def check (state : State) (call : Call) (action : Action) : State × List Task :=
  match status state.tables call.version with
  | .error _ => (abandon state (.checking call action), [])
  | .ok row =>
      match action with
      | .drain =>
          match (if call.recovers then .ok row.drainCompletedEpoch.isNone
            else checkCompleteDrain row) with
          | .error _ => (abandon state (.checking call action), [])
          | .ok true => (state, [.draining call])
          | .ok false => (state, [.unlocking call none])
      | .retire =>
          if call.recovers then
            if row.retiredEpoch.isSome then (state, [.unlocking call none])
            else (state, [.selecting call])
          else
            match checkRetire row with
            | .error _ => (abandon state (.checking call action), [])
            | .ok none => (state, [.unlocking call none])
            | .ok (some drained) => (state, [.readingWindow call drained])

/-- A recovery gives the advisory lock back before it commits. -/
def Call.afterUpdate (call : Call) (update : Update) : Task :=
  if call.recovers then .unlocking call (some update) else .ending call update

/-- An `UPDATE` of the version of a call, where a condition selects its row. -/
def updateVersion
    (state : State)
    (call : Call)
    (selects : KeyVersionRow → Bool)
    (update : Update) : Outcome :=
  if (state.versionLocks call.version).isSome then none
  else if (state.tables.keyVersions.get? call.version).any selects then
    some (state.lockVersion call.version call.id, [call.afterUpdate update])
  else some ((state.unlockRows call.id).unlockExclusive call.id, [])

/-- The next result of a retirement is locked, unless it is gone. -/
def lockRows
    (state : State)
    (call : Call)
    (nowEpoch : Int)
    (rows found : List (ResultIdentity × CompletedResultRecord)) : Outcome :=
  match rows with
  | [] =>
      if found.all (·.2.expiresAtEpoch ≤ nowEpoch) then
        some (state, [.retiring call nowEpoch found])
      else some ((state.unlockRows call.id).unlockExclusive call.id, [])
  | row :: rows =>
      if !PostgresIdempotency.isFree (state.rowLocks row.1) call.id then none
      else if state.tables.results.get? row.1 = some row.2 then
        some (state.lockRow row.1 call.id, [.lockingRows call nowEpoch rows (found ++ [row])])
      else some (state, [.lockingRows call nowEpoch rows found])

/-- What an update deletes of the tables. -/
def Update.removals (tables : Tables) : Update → List Removal
  | .drain _ => []
  | .retire nowEpoch rows => rows.filterMap fun row =>
      (tables.results.get? row.1).map fun record => ⟨record, nowEpoch⟩

/-- An update takes effect. -/
def State.update (state : State) (version : String) (update : Update) : State :=
  { state with
    tables := applyUpdate state.tables version update
    removals := state.removals ++ update.removals state.tables }

/-- A call commits its update, or recovers it. -/
def endUpdate (state : State) (choice : Choice) (call : Call) (update : Update) :
    State × List Task :=
  let state :=
    if choice.unreported.getD true then state.update call.version update else state
  let state := state.unlockRows call.id
  if call.recovers then (state, [])
  else if choice.unreported.isNone then (state, [.unlocking call none])
  else
    ({ state with nextId := state.nextId + 1 },
      [.guarding { call with id := state.nextId, recovers := true } update.action])

/-- An expired result that no retirement has locked is collected. -/
def collect (state : State) (identity : ResultIdentity) : State :=
  if (state.rowLocks identity).isNone then
    { state with tables := withoutExpired state identity }
  else state

/-! ## Steps -/

def proceed (choice : Choice) (state : State) : Task → Outcome
  | .ticking seconds => some ({ state with epoch := state.epoch + seconds }, [])
  | .losing session => some (state.lose session, [])
  | .collecting identity => some (collect state identity, [])
  | .constructing keyring => some (construct state keyring)
  | .attesting keyring service =>
      if state.exclusive (carrier keyring.activeVersion) = none then
        some (state.share (carrier keyring.activeVersion) (.service service 0),
          [.registering keyring service])
      else none
  | .registering keyring service => some (register state keyring service, [])
  | .closing id => some (unregister state id)
  | .releasing service => release state service
  | .disconnecting service => disconnect state service
  | .executing id invocation =>
      match state.services id with
      | none => some (state, [])
      | some service =>
          some (state,
            [.waiting ⟨id, service.version, invocation⟩ (.reserves state.epoch)])
  | .waiting execution goal => connect state execution goal
  | .validating execution goal number => validate carrier state execution goal number
  | .transacting execution goal number => transact state choice execution number goal
  | .storing execution reservation number =>
      some (storeOrEnd state choice execution reservation number)
  | .committing execution record _ => commitResult state choice execution record
  | .checkingDisable version reason =>
      match (do checkWriteDisable (← status state.tables version) reason) with
      | .ok true => some (state, [.disabling version reason none])
      | _ => some (state, [])
  | .disabling version reason none =>
      some (state, [.disabling version reason (some state.epoch)])
  | .disabling version reason (some nowEpoch) =>
      disable state choice version reason nowEpoch [.redisabling version reason nowEpoch]
  | .redisabling version reason nowEpoch =>
      if (disabledAt state.tables version).isSome then
        some (state, [])
      else disable state choice version reason nowEpoch []
  | .calling version activeVersion action =>
      some ({ state with nextId := state.nextId + 1 },
        [.guarding ⟨state.nextId, version, activeVersion, false⟩ action])
  | .guarding call action => some (guard carrier state call action)
  | .checking call action => some (check state call action)
  | .draining call =>
      updateVersion state call (drainable call.version state.epoch) (.drain state.epoch)
  | .readingWindow call drainCompletedEpoch =>
      match checkRemovalWindow drainCompletedEpoch state.epoch with
      | .ok _ => some (state, [.checkingActive call])
      | .error _ => some ((state.unlockRows call.id).unlockExclusive call.id, [])
  | .checkingActive call =>
      match (do checkActive (← status state.tables call.activeVersion)) with
      | .ok _ => some (state, [.selecting call])
      | .error _ => some ((state.unlockRows call.id).unlockExclusive call.id, [])
  | .selecting call => some (state, [.listing call state.epoch])
  | .listing call nowEpoch =>
      some (state, [.lockingRows call nowEpoch (state.tables.resultsUnder call.version) []])
  | .lockingRows call nowEpoch rows found => lockRows state call nowEpoch rows found
  | .retiring call nowEpoch rows =>
      updateVersion state call
        (fun row =>
          retirable call.version call.activeVersion nowEpoch (withoutRows state.tables rows) row &&
            (endUse nowEpoch row).check call.version)
        (.retire nowEpoch rows)
  | .ending call update => some (endUpdate state choice call update)
  | .unlocking call pending =>
      some (state.unlockExclusive call.id, pending.toList.map (.ending call))

/-- A completion that starts on a service that is being closed. -/
def startsLate (state : State) : Task → Bool
  | .waiting execution (.completes _) =>
      (state.services execution.service).any fun service => !service.registered
  | _ => false

/-- One step.  A task whose session has ended fails, and every other may. -/
def step (choice : Choice) (state : State) (task : Task) : Outcome :=
  let outcome :=
    if choice.raises || task.session.any (· ∈ state.lost) then some (abandon state task, [])
    else proceed carrier choice state task
  outcome.map fun (after, rest) =>
    ({ after with
      startedLate := state.startedLate || (startsLate state task && !rest.isEmpty) }, rest)

def system : Interleaving State Task Choice := ⟨step carrier⟩

/-! ## Runs -/

inductive Event
  | tick (seconds : Nat)
  | loseSession (session : Session)
  | collect (identity : ResultIdentity)
  | construct (keyring : IdempotencyKeyring)
  | close (service : Nat)
  | executeIdempotent (service : Nat) (invocation : IdempotencyInvocation)
  | writeDisable (version : String) (reason : WriteDisabledReason)
  | completeDrain (version : String)
  | retire (version activeVersion : String)
  | advance (index : Nat) (choice : Choice)

def Event.taskEvent : Event → TaskEvent Task Choice
  | .tick seconds => .start (.ticking seconds)
  | .loseSession session => .start (.losing session)
  | .collect identity => .start (.collecting identity)
  | .construct keyring => .start (.constructing keyring)
  | .close service => .start (.closing service)
  | .executeIdempotent service invocation => .start (.executing service invocation)
  | .writeDisable version reason => .start (.checkingDisable version reason)
  | .completeDrain version => .start (.calling version version .drain)
  | .retire version activeVersion => .start (.calling version activeVersion .retire)
  | .advance index choice => .advance index choice

/-- A database without key versions, after some events. -/
def run (epoch : Int) (events : List Event) : Tasks State Task :=
  (system carrier).run ⟨{ epoch }, []⟩ (events.map Event.taskEvent)

end Steps

end PostgresKeys
end Vinctor
