import Vinctor.Service.IdempotencyStorage

/-!
# Transactions of idempotent execution

The bodies of the transactions over the idempotency tables: registration of a
keyring, reservation of a nonce, its claim, completion with the mutation, and
garbage collection.  A body that raises has no effect.
-/

namespace Vinctor
namespace Idempotency

open Foundation
open Fallible

/-! ## Registration -/

/-- The row a label starts with. -/
def firstSeen (registration : IdempotencyKeyRegistration) (nowEpoch : Int) : KeyVersionRow where
  keyCommitment := registration.commitment
  reservedEncryptionSlots := 0
  firstSeenEpoch := nowEpoch

/-- `INSERT … ON CONFLICT(version_label) DO NOTHING`. -/
def insertKeyVersion
    (nowEpoch : Int)
    (tables : Tables)
    (registration : IdempotencyKeyRegistration) : Except IdempotencyError Tables := do
  let row := firstSeen registration nowEpoch
  ensure (row.check registration.version) .integrityError
  match tables.keyVersions.get? registration.version with
  | some _ => return tables
  | none =>
      let keyVersions ← require (tables.keyVersions.insert? registration.version row)
        .integrityError
      return { tables with keyVersions }

/-- Labels and commitments of the recorded versions. -/
def Tables.registry (tables : Tables) : List IdempotencyKeyRegistration :=
  tables.keyVersions.entries.map fun entry =>
    { version := entry.1, commitment := entry.2.keyCommitment }

/-- Labels of the versions that stored results are sealed under. -/
def Tables.resultVersions (tables : Tables) : List String :=
  (tables.results.entries.map fun entry => entry.2.cipherKeyVersion).dedup

/-- Number of nonces reserved under a version. -/
def Tables.nonceCount (tables : Tables) (version : String) : Nat :=
  tables.nonces.entries.countP fun entry => entry.1.1 = version

def sqliteIdempotencyReady
    (tables : Tables)
    (keyring : Option IdempotencyKeyring)
    (exactNonceCounts : Bool) : Except IdempotencyError Bool := do
  validateStartupCompatibility keyring tables.registry tables.resultVersions
  return idempotencyReadiness
    (keyring.elim [] (·.versionLabels))
    tables.resultVersions
    (keyring.map (·.activeVersion))
    (tables.keyVersions.entries.map fun entry =>
      { version := entry.1
        writeDisabled := entry.2.writeDisabledEpoch.isSome
        retired := entry.2.retiredEpoch.isSome
        reservedEncryptionSlots := entry.2.reservedEncryptionSlots
        nonceCount :=
          if exactNonceCounts then tables.nonceCount entry.1
          else entry.2.reservedEncryptionSlots })
    false

/-- Registration of a keyring when a service starts. -/
def registerSqliteIdempotencyKeyring
    (keyring : Option IdempotencyKeyring)
    (exactNonceCounts : Bool)
    (nowEpoch : Int)
    (tables : Tables) : Except IdempotencyError Tables := do
  let registrations := keyring.elim [] (·.registrations)
  let tables ← relabel .keyringConfig (registrations.foldlM (insertKeyVersion nowEpoch) tables)
  validateStartupCompatibility keyring tables.registry tables.resultVersions
  let ready ← sqliteIdempotencyReady tables keyring exactNonceCounts
  ensure ready .keyringConfig
  return tables

/-- `INSERT OR IGNORE`, and the commitment that the label then has. -/
def insertOrIgnoreKeyVersion
    (nowEpoch : Int)
    (tables : Tables)
    (registration : IdempotencyKeyRegistration) : Except IdempotencyError Tables := do
  let row := firstSeen registration nowEpoch
  let keyVersions :=
    if row.check registration.version then
      (tables.keyVersions.insert? registration.version row).getD tables.keyVersions
    else tables.keyVersions
  let recorded ← require (keyVersions.get? registration.version) .writeUnavailable
  ensure (recorded.keyCommitment = registration.commitment) .writeUnavailable
  return { tables with keyVersions }

/-- Registration of a keyring when a store is opened. -/
def registerKeyring
    (keyring : Option IdempotencyKeyring)
    (nowEpoch : Int)
    (tables : Tables) : Except IdempotencyError Tables :=
  (keyring.elim [] (·.registrations)).foldlM (insertOrIgnoreKeyVersion nowEpoch) tables

/-! ## Reservation -/

def softSlotLimit : Nat := 8388608

def nonceBytes : Nat := 12

/-- How a reservation ends without a nonce. -/
inductive ReservationFailure
  | hardLimitReached
  | nonceCollision
  | raised (error : IdempotencyError)
  deriving DecidableEq, Repr

/-- A version with one more slot taken; the first slot at the soft limit is
reported. -/
def takeSlot (nowEpoch : Int) (row : KeyVersionRow) : KeyVersionRow :=
  let slots := row.reservedEncryptionSlots + 1
  { row with
    reservedEncryptionSlots := slots
    softLimitReportedEpoch :=
      if softSlotLimit ≤ slots then row.softLimitReportedEpoch.or (some nowEpoch)
      else row.softLimitReportedEpoch }

/-- Reservation of a slot of a version and of the nonce that the source gives;
the source may fail. -/
def reserveNonce
    (version : String)
    (invocation : IdempotencyInvocation)
    (nowEpoch : Int)
    (nonce : Option Bytes)
    (tables : Tables) : Except ReservationFailure (CryptoReservation × Tables) := do
  let row ← require (tables.keyVersions.get? version) (.raised .writeUnavailable)
  ensure (row.writeDisabledEpoch = none ∧ row.retiredEpoch = none) (.raised .writeUnavailable)
  ensure (row.reservedEncryptionSlots < hardSlotLimit) .hardLimitReached
  let updated := takeSlot nowEpoch row
  ensure (updated.check version) (.raised .writeUnavailable)
  let keyVersions := tables.keyVersions.modify version (takeSlot nowEpoch) fun _ => rfl
  let slot := updated.reservedEncryptionSlots
  let nonce ← require nonce (.raised .writeUnavailable)
  ensure (nonce.length = nonceBytes) (.raised .writeUnavailable)
  let reserved : NonceRow := {
    slot
    reservedAtEpoch := nowEpoch
    owner := invocation.reservationOwnerIdentity }
  ensure (reserved.check nonce) .nonceCollision
  let nonces ← require (tables.nonces.insert? (version, nonce) reserved) .nonceCollision
  return ({ version, slot, nonce, reservedAtEpoch := nowEpoch },
    { tables with keyVersions, nonces })

/-- A version whose writes are disabled; an earlier disabling stays. -/
def disableWrites
    (reason : WriteDisabledReason)
    (nowEpoch : Int)
    (row : KeyVersionRow) : KeyVersionRow :=
  { row with
    writeDisabledEpoch := row.writeDisabledEpoch.or (some nowEpoch)
    writeDisabledReason := row.writeDisabledReason.or (some reason) }

def writeDisable
    (version : String)
    (reason : WriteDisabledReason)
    (nowEpoch : Int)
    (tables : Tables) : Except IdempotencyError Tables :=
  match tables.keyVersions.get? version with
  | none => .ok tables
  | some row =>
      if row.retiredEpoch.isSome then .ok tables
      else do
        ensure ((disableWrites reason nowEpoch row).check version) .integrityError
        return { tables with
          keyVersions := tables.keyVersions.modify version (disableWrites reason nowEpoch)
            fun _ => rfl }

/-! ## Claim -/

def resultUsesReservationNonce (tables : Tables) (version : String) (nonce : Bytes) : Bool :=
  tables.results.entries.any fun entry =>
    entry.2.cipherKeyVersion = version ∧ entry.2.responseNonce = nonce

/-- The ledger row of a reservation, where every column agrees. -/
def findReservation
    (tables : Tables)
    (invocation : IdempotencyInvocation)
    (reservation : CryptoReservation) : Option NonceRow :=
  (tables.nonces.get? (reservation.version, reservation.nonce)).filter fun row =>
    row.slot = reservation.slot ∧ row.reservedAtEpoch = reservation.reservedAtEpoch ∧
      row.owner = invocation.reservationOwnerIdentity

def claimAt (nowEpoch : Int) (row : NonceRow) : NonceRow :=
  { row with claimedAtEpoch := some nowEpoch }

def claimReservation
    (invocation : IdempotencyInvocation)
    (reservation : CryptoReservation)
    (nowEpoch : Int)
    (tables : Tables) : Except IdempotencyError Tables := do
  let row ← require (findReservation tables invocation reservation) .writeUnavailable
  ensure (row.claimedAtEpoch = none) .writeUnavailable
  ensure (¬resultUsesReservationNonce tables reservation.version reservation.nonce)
    .writeUnavailable
  ensure ((claimAt nowEpoch row).check reservation.nonce) .integrityError
  return { tables with
    nonces := tables.nonces.modify (reservation.version, reservation.nonce)
      (claimAt nowEpoch) fun _ => rfl }

/-! ## Completion -/

/-- When the reservation was claimed; it must be in the ledger under a version
that is neither disabled nor retired. -/
def requireReservationAuthentic
    (tables : Tables)
    (invocation : IdempotencyInvocation)
    (reservation : CryptoReservation) : Except IdempotencyError (Option Int) := do
  let row ← require (findReservation tables invocation reservation) .writeUnavailable
  let version ← require (tables.keyVersions.get? reservation.version) .writeUnavailable
  ensure (version.writeDisabledEpoch = none ∧ version.retiredEpoch = none) .writeUnavailable
  return row.claimedAtEpoch

/-- What a completion does before the mutation: a stored response, or tables
without the expired result. -/
inductive Prepared
  | replay (response : PreSerializedHttpResponse)
  | proceed (tables : Tables)

def prepareCompletion
    (aead : Aead)
    (keyring : Option IdempotencyKeyring)
    (invocation : IdempotencyInvocation)
    (reservation : CryptoReservation)
    (nowEpoch : Int)
    (tables : Tables) : Except IdempotencyError Prepared := do
  let claimedAtEpoch ← requireReservationAuthentic tables invocation reservation
  ensure claimedAtEpoch.isSome .writeUnavailable
  let record := tables.results.get? invocation.resultIdentity
  ensure (¬resultUsesReservationNonce tables reservation.version reservation.nonce)
    .writeUnavailable
  match ← classifyCompletedResult aead keyring invocation record nowEpoch with
  | .replayCandidate response => return .replay response
  | .proceedToReservation =>
      return .proceed
        { tables with results := tables.results.erase invocation.resultIdentity }

/-- The key and the cipher call that seal an outcome. -/
def encryptOutcome
    (keyring : Option IdempotencyKeyring)
    (invocation : IdempotencyInvocation)
    (reservation : CryptoReservation)
    (response : PreSerializedHttpResponse)
    (nowEpoch expiresAtEpoch : Int) :
    Except IdempotencyError (IdempotencyKeyVersion × CipherCall) := do
  let keyring ← require keyring .writeUnavailable
  let key ← require (keyring.decryptionKey reservation.version) .writeUnavailable
  let aad ← buildResponseAad {
    formatVersion := envelopeFormatVersion
    workspaceId := invocation.workspaceId
    principal := invocation.principal
    operation := invocation.operation
    keyHash := invocation.keyHash
    requestFingerprint := invocation.requestFingerprint
    statusCode := response.statusCode
    contentType := jsonContentType
    cipherKeyVersion := reservation.version
    createdAtEpoch := nowEpoch
    expiresAtEpoch }
  let plaintext ← require (encodeResponsePlaintext response) .overflowError
  let call ← encryptReservedResponse key reservation plaintext aad
  return (key, call)

/-- The stored form of an outcome. -/
def sealedRecord
    (invocation : IdempotencyInvocation)
    (response : PreSerializedHttpResponse)
    (envelope : EncryptedResponseEnvelope)
    (nowEpoch expiresAtEpoch : Int) : CompletedResultRecord where
  requestFingerprint := invocation.requestFingerprint
  formatVersion := envelope.formatVersion
  statusCode := response.statusCode
  cipherKeyVersion := envelope.version
  responseNonce := envelope.nonce
  responseCiphertext := envelope.ciphertext
  createdAtEpoch := nowEpoch
  expiresAtEpoch := expiresAtEpoch

/-- `INSERT` of a result, whose version the registry must know. -/
def insertResult
    (identity : ResultIdentity)
    (record : CompletedResultRecord)
    (tables : Tables) : Except IdempotencyError Tables := do
  ensure (record.check identity) .integrityError
  ensure (tables.keyVersions.get? record.cipherKeyVersion).isSome .integrityError
  let results ← require (tables.results.insert? identity record) .integrityError
  return { tables with results }

/-- The rest of a completion once the cipher has answered. -/
def storeOutcome
    (invocation : IdempotencyInvocation)
    (reservation : CryptoReservation)
    (response : PreSerializedHttpResponse)
    (nowEpoch expiresAtEpoch : Int)
    (key : IdempotencyKeyVersion)
    (call : CipherCall)
    (ciphertext : Option Bytes)
    (tables : Tables) : Except IdempotencyError Tables := do
  let ciphertext ← require ciphertext .cipherUnavailable
  let envelope := sealedEnvelope key call ciphertext
  ensure (envelope.nonce = reservation.nonce ∧ envelope.version = reservation.version)
    .cipherUnavailable
  insertResult invocation.resultIdentity
    (sealedRecord invocation response envelope nowEpoch expiresAtEpoch) tables

/-- What a completion changed, had it committed. -/
inductive Completed (β : Type u)
  | replayed (response : PreSerializedHttpResponse)
  | unstored (response : PreSerializedHttpResponse) (tables : Tables) (rest : β)
  | stored (response : PreSerializedHttpResponse) (expiresAtEpoch : Int) (tables : Tables)
      (rest : β)

/-- A key version label with a cipher call under it. -/
structure Encryption where
  version : String
  call : CipherCall
  deriving DecidableEq, Repr

/-- The course of a completion: whether it called the mutation, the cipher call
it made and its result.  The first two happen even if the transaction is rolled
back. -/
structure Completion (β : Type u) where
  called : Bool := false
  encryption : Option Encryption := none
  result : Except IdempotencyError (Completed β)

/-- A mutation over the rest of the database; it may raise. -/
abbrev IdempotencyMutation (β : Type u) := β → Option (CacheableTerminalOutcome × β)

def completeInTransaction
    (aead : Aead)
    (keyring : Option IdempotencyKeyring)
    (invocation : IdempotencyInvocation)
    (reservation : CryptoReservation)
    (mutation : IdempotencyMutation β)
    (nowEpoch : Int)
    (tables : Tables)
    (rest : β) : Completion β :=
  match prepareCompletion aead keyring invocation reservation nowEpoch tables with
  | .error error => { result := .error error }
  | .ok (.replay response) => { result := .ok (.replayed response) }
  | .ok (.proceed tables) =>
      match mutation rest with
      | none => { called := true, result := .error .mutationFailed }
      | some (outcome, rest) =>
          let expiresAtEpoch :=
            terminalExpiryEpoch invocation nowEpoch outcome.replayNotAfterEpoch
          if expiresAtEpoch ≤ nowEpoch then
            { called := true, result := .ok (.unstored outcome.response tables rest) }
          else
            match encryptOutcome keyring invocation reservation outcome.response nowEpoch
                expiresAtEpoch with
            | .error error => { called := true, result := .error error }
            | .ok (key, call) =>
                let ciphertext :=
                  aead.encrypt call.key call.nonce call.plaintext call.associatedData
                { called := true
                  encryption := some { version := key.version, call }
                  result :=
                    (storeOutcome invocation reservation outcome.response nowEpoch
                      expiresAtEpoch key call ciphertext tables).map fun tables =>
                        .stored outcome.response expiresAtEpoch tables rest }

/-! ## Garbage collection -/

/-- The invocation that a stored result is classified under. -/
def rowInvocation (identity : ResultIdentity) (record : CompletedResultRecord) :
    IdempotencyInvocation :=
  { identity with
    requestFingerprint := record.requestFingerprint
    maxTerminalTtlSeconds := 86400 }

def collectRow
    (aead : Aead)
    (keyring : Option IdempotencyKeyring)
    (nowEpoch : Int)
    (tables : Tables)
    (row : ResultIdentity × CompletedResultRecord) : Except IdempotencyError Tables := do
  match ← classifyCompletedResult aead keyring (rowInvocation row.1 row.2) (some row.2)
      nowEpoch with
  | .proceedToReservation => return { tables with results := tables.results.erase row.1 }
  | .replayCandidate _ => return tables

def gcResults
    (aead : Aead)
    (keyring : Option IdempotencyKeyring)
    (limit : Int)
    (nowEpoch : Int)
    (tables : Tables) : Except IdempotencyError (Nat × Tables) := do
  let boundedLimit := (max 0 (min limit 100)).toNat
  let rows := (tables.results.entries.filter fun row =>
    row.2.expiresAtEpoch ≤ nowEpoch).take boundedLimit
  let tables ← rows.foldlM (collectRow aead keyring nowEpoch) tables
  return (rows.length, tables)

end Idempotency
end Vinctor
