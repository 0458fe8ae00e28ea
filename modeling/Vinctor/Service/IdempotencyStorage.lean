import Vinctor.Foundation.Table
import Vinctor.Service.IdempotencyCrypto
import Vinctor.Service.IdempotencyKeyring

/-!
# Stored results of idempotent execution

The three tables behind idempotent execution: cipher key versions with their
encryption slots, reserved nonces and completed results.  Every statement keeps
the constraints of the schema or raises; the bodies of the transactions are
functions from tables to tables.
-/

namespace Vinctor
namespace Idempotency

open Foundation
open Fallible

/-! ## Rows -/

inductive WriteDisabledReason
  | rotation
  | hardLimit
  | nonceCollision
  deriving DecidableEq, Repr

structure KeyVersionRow where
  keyCommitment : Bytes
  reservedEncryptionSlots : Nat
  firstSeenEpoch : Int
  softLimitReportedEpoch : Option Int := none
  writeDisabledEpoch : Option Int := none
  writeDisabledReason : Option WriteDisabledReason := none
  drainCompletedEpoch : Option Int := none
  retiredEpoch : Option Int := none
  deriving DecidableEq, Repr

/-- Constraints of the schema on one key version. -/
def KeyVersionRow.check (version : String) (row : KeyVersionRow) : Bool :=
  matchesVersionLabel version &&
    row.keyCommitment.length = 32 &&
    row.reservedEncryptionSlots ≤ hardSlotLimit &&
    0 ≤ row.firstSeenEpoch &&
    row.softLimitReportedEpoch.all (row.firstSeenEpoch ≤ ·) &&
    row.writeDisabledEpoch.all (row.firstSeenEpoch ≤ ·) &&
    row.writeDisabledEpoch.isSome = row.writeDisabledReason.isSome &&
    row.drainCompletedEpoch.all (fun drained => row.writeDisabledEpoch.any (· ≤ drained)) &&
    row.retiredEpoch.all (fun retired => row.drainCompletedEpoch.any (· ≤ retired))

/-- Whom a nonce is reserved for. -/
structure ReservationOwner extends ResultIdentity where
  requestFingerprint : Bytes
  deriving DecidableEq, Repr

def IdempotencyInvocation.reservationOwnerIdentity (invocation : IdempotencyInvocation) :
    ReservationOwner :=
  { invocation.resultIdentity with requestFingerprint := invocation.requestFingerprint }

structure NonceRow where
  slot : Nat
  reservedAtEpoch : Int
  owner : ReservationOwner
  claimedAtEpoch : Option Int := none
  deriving DecidableEq, Repr

/-- Length of a text as the database counts it: up to the first NUL. -/
def sqliteLength (text : String) : Nat :=
  (text.toList.takeWhile (· ≠ '\x00')).length

/-- Constraints of the schema on the columns that name a result. -/
def ResultIdentity.check (identity : ResultIdentity) : Bool :=
  0 < sqliteLength identity.workspaceId &&
    0 < sqliteLength identity.principal &&
    0 < sqliteLength identity.operation &&
    identity.keyHash.length = 32

/-- Constraints of the schema on one nonce. -/
def NonceRow.check (nonce : Bytes) (row : NonceRow) : Bool :=
  1 ≤ row.slot && row.slot ≤ hardSlotLimit &&
    nonce.length = 12 &&
    0 ≤ row.reservedAtEpoch &&
    row.owner.toResultIdentity.check &&
    row.owner.requestFingerprint.length = 32 &&
    row.claimedAtEpoch.all (row.reservedAtEpoch ≤ ·)

structure CompletedResultRecord where
  requestFingerprint : Bytes
  formatVersion : Int
  statusCode : Int
  cipherKeyVersion : String
  responseNonce : Bytes
  responseCiphertext : Bytes
  createdAtEpoch : Int
  expiresAtEpoch : Int
  deriving DecidableEq, Repr

/-- Constraints of the schema on one result. -/
def CompletedResultRecord.check
    (identity : ResultIdentity)
    (record : CompletedResultRecord) : Bool :=
  identity.check &&
    record.requestFingerprint.length = 32 &&
    record.formatVersion = 1 &&
    200 ≤ record.statusCode && record.statusCode ≤ 499 &&
    record.responseNonce.length = 12 &&
    16 ≤ record.responseCiphertext.length &&
    0 ≤ record.createdAtEpoch &&
    record.createdAtEpoch < record.expiresAtEpoch

/-- The tables of the schema.  A commitment belongs to one label, a slot of a
version to one nonce, and a nonce of a version to one result. -/
structure Tables where
  keyVersions : Table fun (_ : String) (row : KeyVersionRow) => row.keyCommitment
  nonces : Table fun (key : String × Bytes) (row : NonceRow) => (key.1, row.slot)
  results : Table fun (_ : ResultIdentity) (record : CompletedResultRecord) =>
    (record.cipherKeyVersion, record.responseNonce)

def Tables.empty : Tables where
  keyVersions := Table.empty
  nonces := Table.empty
  results := Table.empty

/-! ## Reading results -/

def jsonContentType : String := "application/json"

def requireInvocation (invocation : IdempotencyInvocation) : Except IdempotencyError Unit :=
  ensure (invocation.workspaceId ≠ "" ∧ invocation.principal ≠ "" ∧
    invocation.operation ≠ "" ∧ invocation.keyHash.length = 32 ∧
    invocation.requestFingerprint.length = 32) .writeUnavailable

/-- The associated data of a stored result. -/
def recordAadInput (identity : ResultIdentity) (record : CompletedResultRecord) :
    ResponseAadInput where
  formatVersion := record.formatVersion
  workspaceId := identity.workspaceId
  principal := identity.principal
  operation := identity.operation
  keyHash := identity.keyHash
  requestFingerprint := record.requestFingerprint
  statusCode := record.statusCode
  contentType := jsonContentType
  cipherKeyVersion := record.cipherKeyVersion
  createdAtEpoch := record.createdAtEpoch
  expiresAtEpoch := record.expiresAtEpoch

def authenticateCompletedResult
    (aead : Aead)
    (keyring : Option IdempotencyKeyring)
    (invocation : IdempotencyInvocation)
    (record : CompletedResultRecord) : Except IdempotencyError Bytes := do
  requireInvocation invocation
  let keyring ← require keyring .resultUnavailable
  let key ← require (keyring.decryptionKey record.cipherKeyVersion) .resultUnavailable
  relabel .resultUnavailable do
    let aad ← buildResponseAad (recordAadInput invocation.resultIdentity record)
    decryptResponse aead
      (fun version => if version = record.cipherKeyVersion then some key.material else none)
      { formatVersion := record.formatVersion
        version := record.cipherKeyVersion
        nonce := record.responseNonce
        ciphertext := record.responseCiphertext }
      aad

/-- A stored result as an invocation sees it at an epoch.  The record is
authenticated before its expiry and its fingerprint are read. -/
def classifyCompletedResult
    (aead : Aead)
    (keyring : Option IdempotencyKeyring)
    (invocation : IdempotencyInvocation)
    (record : Option CompletedResultRecord)
    (nowEpoch : Int) : Except IdempotencyError IdempotencyLookupResult := do
  requireInvocation invocation
  match record with
  | none => return .proceedToReservation
  | some record =>
      let plaintext ← authenticateCompletedResult aead keyring invocation record
      if record.expiresAtEpoch ≤ nowEpoch then return .proceedToReservation
      else
        ensure (record.requestFingerprint = invocation.requestFingerprint) .conflict
        let response ← decodeResponsePlaintext record.statusCode plaintext
        return .replayCandidate response

def lookup
    (aead : Aead)
    (keyring : Option IdempotencyKeyring)
    (tables : Tables)
    (invocation : IdempotencyInvocation)
    (nowEpoch : Int) : Except IdempotencyError IdempotencyLookupResult :=
  classifyCompletedResult aead keyring invocation
    (tables.results.get? invocation.resultIdentity) nowEpoch

def terminalExpiryEpoch
    (invocation : IdempotencyInvocation)
    (nowEpoch : Int)
    (replayNotAfterEpoch : Option Int) : Int :=
  let ttlSeconds :=
    if invocation.maxTerminalTtlSeconds ≤ 0 then 86400 else invocation.maxTerminalTtlSeconds
  let expiresAtEpoch := nowEpoch + min ttlSeconds 86400
  match replayNotAfterEpoch with
  | none => expiresAtEpoch
  | some replayNotAfterEpoch => min expiresAtEpoch replayNotAfterEpoch

end Idempotency
end Vinctor
