import Vinctor.Service.IdempotencyRuns

/-!
# Lifecycle of cipher key versions

An operator takes a key version out of use: its writes are disabled, its drain
is completed, and it is retired once no stored result needs it.  Each call reads
statuses first and changes the tables in one transaction at the end, so that
executions, garbage collection and other calls run in between.

The runs of this module interleave such calls with idempotent execution.  The
exclusive guard of a call is a file lock outside the database: it is granted or
refused by the surroundings.
-/

namespace Vinctor
namespace Idempotency

open Foundation
open Fallible

/-- Seconds between the end of the drain and the removal of a version. -/
def idempotencyRemovalWindowSeconds : Int := 86400 + 300

/-- Exceptions of a lifecycle call. -/
inductive LifecycleError
  | rejected (reason : String)
  | unavailable
  | activeWriters
  | raised (error : IdempotencyError)
  deriving DecidableEq, Repr

/-- Unavailable results of a stored row reach the caller as an unavailable
lifecycle. -/
def lifecycleError : IdempotencyError → LifecycleError
  | .resultUnavailable => .unavailable
  | error => .raised error

/-! ## Checks -/

def status (tables : Tables) (version : String) : Except LifecycleError KeyVersionRow :=
  require (tables.keyVersions.get? version) (.rejected "unknown_version")

/-- Whether there is something to disable. -/
def checkWriteDisable
    (state : KeyVersionRow)
    (reason : WriteDisabledReason) : Except LifecycleError Bool := do
  ensure (state.retiredEpoch = none) (.rejected "version_retired")
  if state.writeDisabledEpoch.isSome then
    ensure (state.writeDisabledReason = some reason)
      (.rejected "write_disable_reason_conflict")
    return false
  else return true

/-- Whether there is a drain to complete. -/
def checkCompleteDrain (state : KeyVersionRow) : Except LifecycleError Bool := do
  ensure state.writeDisabledEpoch.isSome (.rejected "write_disable_required")
  ensure (state.retiredEpoch = none) (.rejected "version_retired")
  return state.drainCompletedEpoch.isNone

/-- When the drain of a version was completed, unless it is retired already. -/
def checkRetire (state : KeyVersionRow) : Except LifecycleError (Option Int) :=
  if state.retiredEpoch.isSome then .ok none
  else
    match state.writeDisabledEpoch, state.drainCompletedEpoch with
    | some _, some drained => .ok (some drained)
    | _, _ => .error (.rejected "drain_completion_required")

def checkRemovalWindow (drainCompletedEpoch nowEpoch : Int) : Except LifecycleError Unit :=
  ensure (drainCompletedEpoch + idempotencyRemovalWindowSeconds ≤ nowEpoch)
    (.rejected "removal_window_not_elapsed")

/-- The version is in use. -/
def KeyVersionRow.writable (row : KeyVersionRow) : Bool :=
  row.writeDisabledEpoch.isNone && row.retiredEpoch.isNone

def checkActive (active : KeyVersionRow) : Except LifecycleError Unit :=
  ensure active.writable (.rejected "active_replacement_unavailable")

/-! ## Transactions -/

/-- `UPDATE` of the row of a label, where a condition selects it, with the
number of changed rows. -/
def updateKeyVersion
    (version : String)
    (selects : KeyVersionRow → Bool)
    (change : KeyVersionRow → KeyVersionRow)
    (keepsCommitment : ∀ row, (change row).keyCommitment = row.keyCommitment)
    (tables : Tables) : Except LifecycleError (Nat × Tables) :=
  match tables.keyVersions.get? version with
  | none => .ok (0, tables)
  | some row =>
      if selects row then do
        ensure ((change row).check version) .unavailable
        return (1,
          { tables with
            keyVersions := tables.keyVersions.modify version change keepsCommitment })
      else .ok (0, tables)

def startRotation
    (reason : WriteDisabledReason)
    (nowEpoch : Int)
    (row : KeyVersionRow) : KeyVersionRow :=
  { row with writeDisabledEpoch := some nowEpoch, writeDisabledReason := some reason }

def writeDisableUpdate
    (version : String)
    (reason : WriteDisabledReason)
    (nowEpoch : Int)
    (tables : Tables) : Except LifecycleError Tables := do
  let updated ← updateKeyVersion version KeyVersionRow.writable
    (startRotation reason nowEpoch) (fun _ => rfl) tables
  return updated.2

def endDrain (nowEpoch : Int) (row : KeyVersionRow) : KeyVersionRow :=
  { row with drainCompletedEpoch := row.drainCompletedEpoch.or (some nowEpoch) }

def completeDrainUpdate
    (version : String)
    (nowEpoch : Int)
    (tables : Tables) : Except LifecycleError Tables := do
  let updated ← updateKeyVersion version
    (fun row => row.writeDisabledEpoch.isSome && row.retiredEpoch.isNone)
    (endDrain nowEpoch) (fun _ => rfl) tables
  return updated.2

/-- Results that a version is needed for. -/
def Tables.resultsUnder (tables : Tables) (version : String) :
    List (ResultIdentity × CompletedResultRecord) :=
  tables.results.entries.filter fun entry => entry.2.cipherKeyVersion = version

/-- Deletion of a result that is read one last time. -/
def retireRow
    (aead : Aead)
    (keyring : IdempotencyKeyring)
    (tables : Tables)
    (row : ResultIdentity × CompletedResultRecord) : Except IdempotencyError Tables := do
  let _ ← authenticateCompletedResult aead (some keyring) (rowInvocation row.1 row.2) row.2
  return { tables with results := tables.results.erase row.1 }

/-- The row may be retired: it is drained for long enough, no result needs it
and another version is in use. -/
def retirable
    (version activeVersion : String)
    (nowEpoch : Int)
    (tables : Tables)
    (row : KeyVersionRow) : Bool :=
  row.writeDisabledEpoch.isSome &&
    row.drainCompletedEpoch.any (· + idempotencyRemovalWindowSeconds ≤ nowEpoch) &&
    (tables.resultsUnder version).isEmpty &&
    (tables.keyVersions.get? activeVersion).any KeyVersionRow.writable

def endUse (nowEpoch : Int) (row : KeyVersionRow) : KeyVersionRow :=
  { row with retiredEpoch := row.retiredEpoch.or (some nowEpoch) }

/-- The transaction of a retirement.  It reads the epoch before the results and
again with the update. -/
def retireLifecycleVersion
    (aead : Aead)
    (keyring : IdempotencyKeyring)
    (version : String)
    (nowEpoch updateEpoch : Int)
    (tables : Tables) : Except LifecycleError Tables := do
  let rows := tables.resultsUnder version
  ensure (∀ row ∈ rows, row.2.expiresAtEpoch ≤ nowEpoch) (.rejected "unexpired_results_remain")
  let swept ← (rows.foldlM (retireRow aead keyring) tables).mapError lifecycleError
  let updated ← updateKeyVersion version
    (retirable version keyring.activeVersion updateEpoch swept)
    (endUse updateEpoch) (fun _ => rfl) swept
  ensure (updated.1 = 1) .unavailable
  return updated.2

/-! ## Calls -/

/-- Calls of the lifecycle tool, and the barrier that a store completes by
itself. -/
inductive LifecycleAction
  | writeDisable (version : String) (reason : WriteDisabledReason)
  | completeDrain (version : String)
  | retire (version : String)
  | storeWriteDisable (version : String) (reason : WriteDisabledReason)
  deriving DecidableEq, Repr

/-- What a call does next, with the values it carries there. -/
inductive LifecycleStage
  | starting
  | readingEpoch (drainCompletedEpoch : Int)
  | checkingActive
  | updating
  | disabling (nowEpoch : Int)
  | finished (result : Except LifecycleError Unit)

structure LifecycleCall where
  keyring : IdempotencyKeyring
  action : LifecycleAction
  stage : LifecycleStage

/-- What the surroundings decide about one step of a call. -/
structure LifecycleSurroundings where
  guarded : Bool := true
  readFails : Bool := false
  elapsed : Nat := 0
  fate : Fate := .commits
  deriving DecidableEq, Repr

/-- The world of idempotent execution with lifecycle calls in it. -/
structure LifecycleWorld (β : Type u) extends World β where
  backends : List IdempotencyKeyring
  lifecycleCalls : Nat → Option LifecycleCall

inductive LifecycleOperation (β : Type u)
  | idempotent (operation : Operation β)
  | openBackend (keyring : IdempotencyKeyring) (fate : Fate)
  | reserve (execution : Nat) (keyring : IdempotencyKeyring)
      (invocation : IdempotencyInvocation) (mutation : IdempotencyMutation β)
      (nowEpoch : Int)
  | call (id : Nat) (keyring : IdempotencyKeyring) (action : LifecycleAction)
  | advance (id : Nat) (surroundings : LifecycleSurroundings)

section Steps

variable {β : Type u}

def LifecycleWorld.initial (epoch : Int) (rest : β) : LifecycleWorld β where
  toWorld := World.initial epoch rest
  backends := []
  lifecycleCalls := fun _ => none

/-- Set the stage of a call. -/
def LifecycleWorld.moveCall
    (world : LifecycleWorld β)
    (id : Nat)
    (call : LifecycleCall)
    (stage : LifecycleStage) : LifecycleWorld β :=
  { world with
    lifecycleCalls := Function.update world.lifecycleCalls id (some { call with stage }) }

def LifecycleWorld.finishCall
    (world : LifecycleWorld β)
    (id : Nat)
    (call : LifecycleCall)
    (result : Except LifecycleError Unit) : LifecycleWorld β :=
  world.moveCall id call (.finished result)

/-- End a call with a transaction. -/
def LifecycleWorld.transact
    (world : LifecycleWorld β)
    (id : Nat)
    (call : LifecycleCall)
    (surroundings : LifecycleSurroundings)
    (body : Tables → Except LifecycleError Tables) : LifecycleWorld β :=
  match body world.tables with
  | .error error => world.finishCall id call (.error error)
  | .ok tables =>
      { world with
        epoch := world.epoch + surroundings.elapsed
        tables := surroundings.fate.keep world.tables tables }.finishCall id call
        (match surroundings.fate with
        | .commits => .ok ()
        | _ => .error .unavailable)

/-- Go on after a check, or end the call. -/
def LifecycleWorld.checked
    (world : LifecycleWorld β)
    (id : Nat)
    (call : LifecycleCall)
    (check : Except LifecycleError α)
    (next : α → Option LifecycleStage) : LifecycleWorld β :=
  match check with
  | .error error => world.finishCall id call (.error error)
  | .ok value =>
      match next value with
      | none => world.finishCall id call (.ok ())
      | some stage => world.moveCall id call stage

/-- The stage after a check that says whether there is something to do. -/
def updatingIf (needed : Bool) : Option LifecycleStage :=
  if needed then some .updating else none

/-- One step of a call. -/
def LifecycleWorld.advanceCall
    (aead : Aead)
    (world : LifecycleWorld β)
    (id : Nat)
    (call : LifecycleCall)
    (surroundings : LifecycleSurroundings) : LifecycleWorld β :=
  match call.stage, call.action with
  | .finished _, _ => world
  | .starting, .writeDisable version reason =>
      if surroundings.readFails then
        world.finishCall id call (.error (.raised .sqliteError))
      else
        world.checked id call
          (do checkWriteDisable (← status world.tables version) reason) updatingIf
  | .starting, .completeDrain version =>
      if surroundings.guarded = false then
        world.finishCall id call (.error .activeWriters)
      else if surroundings.readFails then
        world.finishCall id call (.error (.raised .sqliteError))
      else
        world.checked id call
          (do checkCompleteDrain (← status world.tables version)) updatingIf
  | .starting, .retire version =>
      if surroundings.guarded = false then
        world.finishCall id call (.error .activeWriters)
      else if surroundings.readFails then
        world.finishCall id call (.error (.raised .sqliteError))
      else
        world.checked id call (do checkRetire (← status world.tables version))
          (Option.map .readingEpoch)
  | .starting, .storeWriteDisable _ _ =>
      if surroundings.readFails then
        world.finishCall id call (.error (.raised .resultUnavailable))
      else world.moveCall id call (.disabling world.epoch)
  | .readingEpoch drainCompletedEpoch, _ =>
      if surroundings.readFails then
        world.finishCall id call (.error (.raised .resultUnavailable))
      else
        world.checked id call (checkRemovalWindow drainCompletedEpoch world.epoch)
          fun _ => some .checkingActive
  | .checkingActive, _ =>
      if surroundings.readFails then
        world.finishCall id call (.error (.raised .sqliteError))
      else
        world.checked id call
          (do checkActive (← status world.tables call.keyring.activeVersion))
          fun _ => some .updating
  | .updating, .writeDisable version reason =>
      world.transact id call surroundings (writeDisableUpdate version reason world.epoch)
  | .updating, .completeDrain version =>
      world.transact id call surroundings (completeDrainUpdate version world.epoch)
  | .updating, .retire version =>
      world.transact id call surroundings
        (retireLifecycleVersion aead call.keyring version world.epoch
          (world.epoch + surroundings.elapsed))
  | .disabling nowEpoch, .storeWriteDisable version reason =>
      world.transact id call surroundings fun tables =>
        (writeDisable version reason nowEpoch tables).mapError fun error =>
          .raised (replyError error)
  -- No other stage is reached.
  | .updating, .storeWriteDisable _ _ => world
  | .disabling _, _ => world

/-- One step of the world with lifecycle calls. -/
def lifecycleStep
    (sha256 : Bytes → Bytes)
    (aead : Aead)
    (world : LifecycleWorld β) : LifecycleOperation β → LifecycleWorld β
  | .idempotent operation => { world with toWorld := step sha256 aead world.toWorld operation }
  | .openBackend keyring fate =>
      match registerKeyring (some keyring) world.epoch world.tables with
      | .error _ => world
      | .ok tables =>
          { world with
            tables := fate.keep world.tables tables
            backends :=
              if fate = .commits then keyring :: world.backends else world.backends }
  | .reserve id keyring invocation mutation nowEpoch =>
      if (some keyring ∈ world.opened ∨ keyring ∈ world.backends) ∧
          (world.executions id).isNone then
        { world with
          toWorld := world.toWorld.move id
            { keyring := some keyring, invocation, mutation, stage := .starting }
            (.reserving nowEpoch) }
      else world
  | .call id keyring action =>
      if (some keyring ∈ world.opened ∨ keyring ∈ world.backends) ∧
          (world.lifecycleCalls id).isNone then
        world.moveCall id { keyring, action, stage := .starting } .starting
      else world
  | .advance id surroundings =>
      match world.lifecycleCalls id with
      | none => world
      | some call => world.advanceCall aead id call surroundings

/-- World after a run with lifecycle calls. -/
def lifecycleRun
    (sha256 : Bytes → Bytes)
    (aead : Aead)
    (world : LifecycleWorld β)
    (operations : List (LifecycleOperation β)) : LifecycleWorld β :=
  operations.foldl (lifecycleStep sha256 aead) world

end Steps

end Idempotency
end Vinctor
