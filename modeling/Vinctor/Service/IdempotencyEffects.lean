import Vinctor.Service.IdempotencyTransactions

/-!
# What the transactions change

No transaction takes a label from its commitment or a nonce from the ledger.
Registration, reservation and claim leave the stored results alone; a completion
stores one result and removes an expired one, and garbage collection removes
expired results.
-/

namespace Vinctor
namespace Idempotency

open Foundation
open Fallible

/-- Recorded labels keep their commitments and reserved nonces stay reserved. -/
structure Tables.Extends (before after : Tables) : Prop where
  labels : ∀ {version row}, before.keyVersions.get? version = some row →
    ∃ kept, after.keyVersions.get? version = some kept ∧
      kept.keyCommitment = row.keyCommitment
  ledger : ∀ {key}, (before.nonces.get? key).isSome → (after.nonces.get? key).isSome

theorem Tables.Extends.refl (tables : Tables) : tables.Extends tables where
  labels := fun {_ row} found => ⟨row, found, rfl⟩
  ledger := id

theorem Tables.Extends.trans
    {first second third : Tables}
    (earlier : first.Extends second)
    (later : second.Extends third) :
    first.Extends third where
  labels := by
    intro version row found
    obtain ⟨kept, keptFound, keptCommitment⟩ := earlier.labels found
    obtain ⟨last, lastFound, lastCommitment⟩ := later.labels keptFound
    exact ⟨last, lastFound, lastCommitment.trans keptCommitment⟩
  ledger := fun reserved => later.ledger (earlier.ledger reserved)

/-- The stored results are no part of what is kept. -/
theorem Tables.Extends.withResults
    {before after : Tables}
    (extend : before.Extends after)
    (results : Table fun (_ : ResultIdentity) (record : CompletedResultRecord) =>
      (record.cipherKeyVersion, record.responseNonce)) :
    before.Extends { after with results } where
  labels := extend.labels
  ledger := extend.ledger

/-- The tables are extended and the stored results are the same. -/
structure Tables.ExtendsLedger (before after : Tables) : Prop extends before.Extends after where
  results : after.results = before.results

theorem Tables.ExtendsLedger.refl (tables : Tables) : tables.ExtendsLedger tables where
  toExtends := Tables.Extends.refl tables
  results := rfl

theorem Tables.ExtendsLedger.trans
    {first second third : Tables}
    (earlier : first.ExtendsLedger second)
    (later : second.ExtendsLedger third) :
    first.ExtendsLedger third where
  toExtends := earlier.toExtends.trans later.toExtends
  results := later.results.trans earlier.results

/-- An inserted label takes nothing from the others. -/
theorem Tables.ExtendsLedger.insertLabel
    {tables : Tables}
    {version : String}
    {row : KeyVersionRow}
    {keyVersions : Table fun (_ : String) (row : KeyVersionRow) => row.keyCommitment}
    (inserts : tables.keyVersions.insert? version row = some keyVersions) :
    tables.ExtendsLedger { tables with keyVersions } where
  labels := by
    intro other kept found
    have different : other ≠ version := by
      rintro rfl
      rw [(Table.insert?_eq_some inserts).1] at found
      cases found
    refine ⟨kept, ?_, rfl⟩
    rw [Table.get?_insert? inserts, if_neg different]
    exact found
  ledger := id
  results := rfl

/-- A changed label keeps its commitment. -/
theorem Tables.ExtendsLedger.modifyLabel
    (tables : Tables)
    (version : String)
    (change : KeyVersionRow → KeyVersionRow)
    (keepsCommitment : ∀ row, (change row).keyCommitment = row.keyCommitment) :
    tables.ExtendsLedger
      { tables with
        keyVersions := tables.keyVersions.modify version change keepsCommitment } where
  labels := by
    intro other row found
    rw [Table.get?_modify]
    split
    · exact ⟨change row, by rw [found]; rfl, keepsCommitment row⟩
    · exact ⟨row, found, rfl⟩
  ledger := id
  results := rfl

/-! ## Registration -/

/-- A label is recorded for the first time. -/
def Tables.InsertsLabel (before after : Tables) : Prop :=
  ∃ registration nowEpoch keyVersions,
    (firstSeen registration nowEpoch).check registration.version = true ∧
    before.keyVersions.insert? registration.version (firstSeen registration nowEpoch) =
      some keyVersions ∧
    after = { before with keyVersions }

theorem insertKeyVersion_cases
    {nowEpoch : Int}
    {registration : IdempotencyKeyRegistration}
    {before after : Tables}
    (inserts : insertKeyVersion nowEpoch before registration = .ok after) :
    after = before ∨ before.InsertsLabel after := by
  simp only [insertKeyVersion, bind_eq_ok, ensure_eq_ok] at inserts
  obtain ⟨-, checked, inserts⟩ := inserts
  split at inserts
  · rw [pure_eq_ok] at inserts
    exact Or.inl inserts.symm
  · simp only [bind_eq_ok, require_eq_ok, pure_eq_ok] at inserts
    obtain ⟨keyVersions, inserted, stored⟩ := inserts
    exact Or.inr ⟨registration, nowEpoch, keyVersions, checked, inserted, stored.symm⟩

theorem insertOrIgnoreKeyVersion_cases
    {nowEpoch : Int}
    {registration : IdempotencyKeyRegistration}
    {before after : Tables}
    (inserts : insertOrIgnoreKeyVersion nowEpoch before registration = .ok after) :
    after = before ∨ before.InsertsLabel after := by
  simp only [insertOrIgnoreKeyVersion, bind_eq_ok, require_eq_ok, ensure_eq_ok, pure_eq_ok]
    at inserts
  obtain ⟨row, -, -, -, rfl⟩ := inserts
  split
  · next checked =>
      cases inserted : before.keyVersions.insert? registration.version
          (firstSeen registration nowEpoch) with
      | none => exact Or.inl rfl
      | some keyVersions =>
          exact Or.inr ⟨registration, nowEpoch, keyVersions, checked, inserted, rfl⟩
  · exact Or.inl rfl

section Registration

variable {relation : Tables → Tables → Prop}

/-- Registration at the start of a service is a sequence of insertions. -/
theorem registerSqliteIdempotencyKeyring_relates
    (reflexive : ∀ tables, relation tables tables)
    (transitive : ∀ {first second third}, relation first second → relation second third →
      relation first third)
    (inserts : ∀ {before after : Tables}, before.InsertsLabel after → relation before after)
    {keyring : Option IdempotencyKeyring}
    {exactNonceCounts : Bool}
    {nowEpoch : Int}
    {before after : Tables}
    (registers :
      registerSqliteIdempotencyKeyring keyring exactNonceCounts nowEpoch before = .ok after) :
    relation before after := by
  simp only [registerSqliteIdempotencyKeyring, bind_eq_ok, relabel_eq_ok, ensure_eq_ok,
    pure_eq_ok] at registers
  obtain ⟨inserted, folds, -, -, -, -, -, -, rfl⟩ := registers
  refine foldlM_relates relation reflexive transitive ?_ folds
  intro registration _ first second step
  rcases insertKeyVersion_cases step with unchanged | inserted
  · rw [unchanged]
    exact reflexive first
  · exact inserts inserted

/-- So is registration at the opening of a store. -/
theorem registerKeyring_relates
    (reflexive : ∀ tables, relation tables tables)
    (transitive : ∀ {first second third}, relation first second → relation second third →
      relation first third)
    (inserts : ∀ {before after : Tables}, before.InsertsLabel after → relation before after)
    {keyring : Option IdempotencyKeyring}
    {nowEpoch : Int}
    {before after : Tables}
    (registers : registerKeyring keyring nowEpoch before = .ok after) :
    relation before after := by
  refine foldlM_relates relation reflexive transitive ?_ registers
  intro registration _ first second step
  rcases insertOrIgnoreKeyVersion_cases step with unchanged | inserted
  · rw [unchanged]
    exact reflexive first
  · exact inserts inserted

end Registration

theorem Tables.InsertsLabel.extends
    {before after : Tables}
    (inserts : before.InsertsLabel after) :
    before.ExtendsLedger after := by
  obtain ⟨registration, nowEpoch, keyVersions, -, inserted, rfl⟩ := inserts
  exact .insertLabel inserted

theorem registerSqliteIdempotencyKeyring_extends
    {keyring : Option IdempotencyKeyring}
    {exactNonceCounts : Bool}
    {nowEpoch : Int}
    {before after : Tables}
    (registers :
      registerSqliteIdempotencyKeyring keyring exactNonceCounts nowEpoch before = .ok after) :
    before.ExtendsLedger after :=
  registerSqliteIdempotencyKeyring_relates .refl .trans Tables.InsertsLabel.extends registers

/-- A label is recorded with a commitment. -/
def Tables.Records (tables : Tables) (registration : IdempotencyKeyRegistration) : Prop :=
  ∃ row, tables.keyVersions.get? registration.version = some row ∧
    row.keyCommitment = registration.commitment

theorem Tables.Records.extend
    {before after : Tables}
    {registration : IdempotencyKeyRegistration}
    (records : before.Records registration)
    (extend : before.Extends after) :
    after.Records registration := by
  obtain ⟨row, found, commitment⟩ := records
  obtain ⟨kept, keptFound, keptCommitment⟩ := extend.labels found
  exact ⟨kept, keptFound, keptCommitment.trans commitment⟩

/-- A commitment is recorded under one label. -/
theorem Tables.Records.version_eq
    {tables : Tables}
    {first second : IdempotencyKeyRegistration}
    (firstRecorded : tables.Records first)
    (secondRecorded : tables.Records second)
    (sameCommitment : first.commitment = second.commitment) :
    first.version = second.version := by
  obtain ⟨firstRow, firstFound, firstCommitment⟩ := firstRecorded
  obtain ⟨secondRow, secondFound, secondCommitment⟩ := secondRecorded
  apply tables.keyVersions.key_eq_of_index_eq firstFound secondFound
  rw [firstCommitment, secondCommitment, sameCommitment]

theorem insertOrIgnoreKeyVersion_ok
    {nowEpoch : Int}
    {registration : IdempotencyKeyRegistration}
    {before after : Tables}
    (inserts : insertOrIgnoreKeyVersion nowEpoch before registration = .ok after) :
    before.ExtendsLedger after ∧ after.Records registration := by
  constructor
  · rcases insertOrIgnoreKeyVersion_cases inserts with unchanged | inserted
    · rw [unchanged]
      exact .refl before
    · exact inserted.extends
  · simp only [insertOrIgnoreKeyVersion, bind_eq_ok, require_eq_ok, ensure_eq_ok, pure_eq_ok]
      at inserts
    obtain ⟨row, found, -, commitment, rfl⟩ := inserts
    exact ⟨row, found, commitment⟩

/-- A store that opens has every key of its keyring recorded. -/
theorem registerKeyring_ok
    {keyring : Option IdempotencyKeyring}
    {nowEpoch : Int}
    {before after : Tables}
    (registers : registerKeyring keyring nowEpoch before = .ok after) :
    before.ExtendsLedger after ∧
      ∀ registration ∈ keyring.elim [] (·.registrations), after.Records registration := by
  unfold registerKeyring at registers
  generalize keyring.elim [] (·.registrations) = registrations at registers
  induction registrations generalizing before with
  | nil =>
      rw [List.foldlM_nil, pure_eq_ok] at registers
      subst registers
      exact ⟨.refl before, by simp⟩
  | cons registration rest inductionHypothesis =>
      rw [List.foldlM_cons, bind_eq_ok] at registers
      obtain ⟨between, inserts, registers⟩ := registers
      obtain ⟨extended, recorded⟩ := insertOrIgnoreKeyVersion_ok inserts
      obtain ⟨restExtended, restRecorded⟩ := inductionHypothesis registers
      refine ⟨extended.trans restExtended, ?_⟩
      intro other present
      rcases List.mem_cons.mp present with rfl | inRest
      · exact recorded.extend restExtended.toExtends
      · exact restRecorded other inRest

/-! ## Reservation and claim -/

/-- A reserved nonce is new in the ledger. -/
theorem reserveNonce_ok
    {version : String}
    {invocation : IdempotencyInvocation}
    {nowEpoch : Int}
    {nonce : Option Bytes}
    {reservation : CryptoReservation}
    {before after : Tables}
    (reserves : reserveNonce version invocation nowEpoch nonce before = .ok (reservation, after)) :
    before.ExtendsLedger after ∧
      before.nonces.get? (reservation.version, reservation.nonce) = none ∧
      (after.nonces.get? (reservation.version, reservation.nonce)).isSome := by
  simp only [reserveNonce, bind_eq_ok, require_eq_ok, ensure_eq_ok, pure_eq_ok,
    Prod.mk.injEq] at reserves
  obtain ⟨row, found, -, -, -, -, -, -, given, -, -, -, -, -, nonces, inserts, rfl, rfl⟩ :=
    reserves
  have inserted := Table.get?_insert? inserts
  refine ⟨⟨⟨?_, ?_⟩, rfl⟩, (Table.insert?_eq_some inserts).1, ?_⟩
  · exact (Tables.ExtendsLedger.modifyLabel before version (takeSlot nowEpoch)
      fun _ => rfl).labels
  · intro key reserved
    rw [inserted]
    split
    · rfl
    · exact reserved
  · rw [inserted, if_pos rfl]
    rfl

/-- Disabling changes nothing, or the row of a version that is not retired. -/
theorem writeDisable_cases
    {version : String}
    {reason : WriteDisabledReason}
    {nowEpoch : Int}
    {before after : Tables}
    (disables : writeDisable version reason nowEpoch before = .ok after) :
    after = before ∨
    ∃ row, before.keyVersions.get? version = some row ∧ row.retiredEpoch = none ∧
      (disableWrites reason nowEpoch row).check version = true ∧
      after = { before with
        keyVersions := before.keyVersions.modify version (disableWrites reason nowEpoch)
          fun _ => rfl } := by
  unfold writeDisable at disables
  split at disables
  · cases disables
    exact Or.inl rfl
  · next row found =>
      split at disables
      · cases disables
        exact Or.inl rfl
      · next unretired =>
          simp only [bind_eq_ok, ensure_eq_ok, pure_eq_ok] at disables
          obtain ⟨-, checked, rfl⟩ := disables
          exact Or.inr ⟨row, found, Option.not_isSome_iff_eq_none.mp unretired, checked, rfl⟩

theorem writeDisable_extends
    {version : String}
    {reason : WriteDisabledReason}
    {nowEpoch : Int}
    {before after : Tables}
    (disables : writeDisable version reason nowEpoch before = .ok after) :
    before.ExtendsLedger after := by
  rcases writeDisable_cases disables with unchanged | ⟨row, -, -, -, changes⟩
  · rw [unchanged]
    exact .refl before
  · rw [changes]
    exact .modifyLabel before version (disableWrites reason nowEpoch) fun _ => rfl

theorem claimReservation_extends
    {invocation : IdempotencyInvocation}
    {reservation : CryptoReservation}
    {nowEpoch : Int}
    {before after : Tables}
    (claims : claimReservation invocation reservation nowEpoch before = .ok after) :
    before.ExtendsLedger after := by
  simp only [claimReservation, bind_eq_ok, require_eq_ok, ensure_eq_ok, pure_eq_ok] at claims
  obtain ⟨row, found, -, -, -, -, -, -, rfl⟩ := claims
  refine ⟨⟨(Tables.Extends.refl before).labels, ?_⟩, rfl⟩
  intro key reserved
  exact (Table.isSome_get?_modify before.nonces (reservation.version, reservation.nonce)
    (claimAt nowEpoch) (fun _ => rfl) key).trans reserved

/-! ## Completion -/

/-- A classification that lets an invocation proceed saw no unexpired result. -/
theorem expired_of_classify
    {aead : Aead}
    {keyring : Option IdempotencyKeyring}
    {invocation : IdempotencyInvocation}
    {record : CompletedResultRecord}
    {nowEpoch : Int}
    (proceeds : classifyCompletedResult aead keyring invocation (some record) nowEpoch =
      .ok .proceedToReservation) :
    record.expiresAtEpoch ≤ nowEpoch := by
  simp only [classifyCompletedResult, bind_eq_ok] at proceeds
  obtain ⟨-, -, plaintext, -, proceeds⟩ := proceeds
  split at proceeds
  · assumption
  · simp only [bind_eq_ok, pure_eq_ok, reduceCtorEq, and_false, exists_false] at proceeds

/-- A completion goes on to its mutation only if the result it found, if any,
has expired; that result is removed. -/
theorem prepareCompletion_proceed
    {aead : Aead}
    {keyring : Option IdempotencyKeyring}
    {invocation : IdempotencyInvocation}
    {reservation : CryptoReservation}
    {nowEpoch : Int}
    {before after : Tables}
    (proceeds : prepareCompletion aead keyring invocation reservation nowEpoch before =
      .ok (.proceed after)) :
    (∀ record, before.results.get? invocation.resultIdentity = some record →
        record.expiresAtEpoch ≤ nowEpoch) ∧
      after = { before with results := before.results.erase invocation.resultIdentity } := by
  simp only [prepareCompletion, bind_eq_ok, ensure_eq_ok] at proceeds
  obtain ⟨-, -, -, -, -, -, classified, classifies, proceeds⟩ := proceeds
  cases classified with
  | replayCandidate response => simp [pure_eq_ok] at proceeds
  | proceedToReservation =>
      simp only [pure_eq_ok, Prepared.proceed.injEq] at proceeds
      refine ⟨?_, proceeds.symm⟩
      intro record found
      rw [found] at classifies
      exact expired_of_classify classifies

/-- The cipher call of a completion is under the key that the keyring has for
the reserved version, with the reserved nonce. -/
theorem encryptOutcome_ok
    {keyring : Option IdempotencyKeyring}
    {invocation : IdempotencyInvocation}
    {reservation : CryptoReservation}
    {response : PreSerializedHttpResponse}
    {nowEpoch expiresAtEpoch : Int}
    {key : IdempotencyKeyVersion}
    {call : CipherCall}
    (encrypts : encryptOutcome keyring invocation reservation response nowEpoch expiresAtEpoch =
      .ok (key, call)) :
    (∃ known, keyring = some known ∧ known.decryptionKey reservation.version = some key) ∧
      call.key = key.material ∧ call.nonce = reservation.nonce := by
  simp only [encryptOutcome, encryptReservedResponse, bind_eq_ok, require_eq_ok, ensure_eq_ok,
    pure_eq_ok, Prod.mk.injEq] at encrypts
  obtain ⟨known, rfl, found, keyFound, aad, -, plaintext, -, made, ⟨-, -, -, -, -, -,
    associatedData, -, rfl⟩, rfl, rfl⟩ := encrypts
  exact ⟨⟨known, rfl, keyFound⟩, rfl, rfl⟩

/-- The result row that a completion stores. -/
theorem storeOutcome_ok
    {invocation : IdempotencyInvocation}
    {reservation : CryptoReservation}
    {response : PreSerializedHttpResponse}
    {nowEpoch expiresAtEpoch : Int}
    {key : IdempotencyKeyVersion}
    {call : CipherCall}
    {ciphertext : Option Bytes}
    {before after : Tables}
    (stores : storeOutcome invocation reservation response nowEpoch expiresAtEpoch key call
      ciphertext before = .ok after) :
    ∃ sealedBytes results, ciphertext = some sealedBytes ∧
      after = { before with results } ∧
      let record := sealedRecord invocation response (sealedEnvelope key call sealedBytes)
        nowEpoch expiresAtEpoch
      record.check invocation.resultIdentity ∧
        before.results.insert? invocation.resultIdentity record = some results := by
  simp only [storeOutcome, insertResult, bind_eq_ok, require_eq_ok, ensure_eq_ok,
    pure_eq_ok] at stores
  obtain ⟨sealedBytes, sealedIs, -, -, -, checked, -, -, results, inserts, rfl⟩ := stores
  exact ⟨sealedBytes, results, sealedIs, rfl, checked, inserts⟩

/-! ## Garbage collection -/

/-- Results are only removed, and only after they expired. -/
structure Tables.Sweeps (nowEpoch : Int) (before after : Tables) : Prop
    extends before.Extends after where
  kept : ∀ {identity record}, after.results.get? identity = some record →
    before.results.get? identity = some record
  removed : ∀ {identity record}, before.results.get? identity = some record →
    after.results.get? identity = some record ∨ record.expiresAtEpoch ≤ nowEpoch

theorem Tables.Sweeps.refl (nowEpoch : Int) (tables : Tables) :
    tables.Sweeps nowEpoch tables where
  toExtends := .refl tables
  kept := id
  removed := .inl

theorem Tables.Sweeps.trans
    {nowEpoch : Int}
    {first second third : Tables}
    (earlier : first.Sweeps nowEpoch second)
    (later : second.Sweeps nowEpoch third) :
    first.Sweeps nowEpoch third where
  toExtends := earlier.toExtends.trans later.toExtends
  kept := fun found => earlier.kept (later.kept found)
  removed := by
    intro identity record found
    rcases earlier.removed found with still | expired
    · exact later.removed still
    · exact .inr expired

/-- Removing the result of an identity whose result has expired. -/
theorem Tables.Sweeps.erase
    {nowEpoch : Int}
    {tables : Tables}
    {identity : ResultIdentity}
    (expired : ∀ record, tables.results.get? identity = some record →
      record.expiresAtEpoch ≤ nowEpoch) :
    tables.Sweeps nowEpoch { tables with results := tables.results.erase identity } where
  toExtends := (Tables.Extends.refl tables).withResults _
  kept := by
    intro other record found
    rw [Table.get?_erase] at found
    split at found
    · cases found
    · exact found
  removed := by
    intro other record found
    rw [Table.get?_erase]
    split
    · next same =>
        subst same
        exact .inr (expired record found)
    · exact .inl found

/-- Collecting a row removes its result, or nothing. -/
theorem collectRow_cases
    {aead : Aead}
    {keyring : Option IdempotencyKeyring}
    {nowEpoch : Int}
    {before after : Tables}
    {row : ResultIdentity × CompletedResultRecord}
    (collects : collectRow aead keyring nowEpoch before row = .ok after) :
    after = before ∨
      (row.2.expiresAtEpoch ≤ nowEpoch ∧
        after = { before with results := before.results.erase row.1 }) := by
  simp only [collectRow, bind_eq_ok] at collects
  obtain ⟨classified, classifies, collects⟩ := collects
  cases classified with
  | replayCandidate response =>
      rw [pure_eq_ok] at collects
      exact Or.inl collects.symm
  | proceedToReservation =>
      rw [pure_eq_ok] at collects
      exact Or.inr ⟨expired_of_classify classifies, collects.symm⟩

/-- Collecting a row of the table at hand removes it only when it has expired. -/
theorem collectRow_sweeps
    {aead : Aead}
    {keyring : Option IdempotencyKeyring}
    {nowEpoch : Int}
    {start before after : Tables}
    {row : ResultIdentity × CompletedResultRecord}
    (present : start.results.get? row.1 = some row.2)
    (swept : start.Sweeps nowEpoch before)
    (collects : collectRow aead keyring nowEpoch before row = .ok after) :
    before.Sweeps nowEpoch after := by
  rcases collectRow_cases collects with unchanged | ⟨expired, erases⟩
  · rw [unchanged]
    exact .refl nowEpoch before
  · rw [erases]
    apply Tables.Sweeps.erase
    intro record found
    have same := (swept.kept found).symm.trans present
    rw [Option.some.injEq] at same
    rw [same]
    exact expired

/-- A collection is a sequence of removals. -/
theorem gcResults_relates
    {relation : Tables → Tables → Prop}
    (reflexive : ∀ tables, relation tables tables)
    (transitive : ∀ {first second third}, relation first second → relation second third →
      relation first third)
    (erases : ∀ (tables : Tables) identity,
      relation tables { tables with results := tables.results.erase identity })
    {aead : Aead}
    {keyring : Option IdempotencyKeyring}
    {limit nowEpoch : Int}
    {collected : Nat}
    {before after : Tables}
    (collects : gcResults aead keyring limit nowEpoch before = .ok (collected, after)) :
    relation before after := by
  simp only [gcResults, bind_eq_ok, pure_eq_ok, Prod.mk.injEq] at collects
  obtain ⟨swept, folds, -, rfl⟩ := collects
  refine foldlM_relates relation reflexive transitive ?_ folds
  intro row _ first second step
  rcases collectRow_cases step with unchanged | ⟨-, erased⟩
  · rw [unchanged]
    exact reflexive first
  · rw [erased]
    exact erases first row.1

theorem gcResults_sweeps
    {aead : Aead}
    {keyring : Option IdempotencyKeyring}
    {limit nowEpoch : Int}
    {collected : Nat}
    {before after : Tables}
    (collects : gcResults aead keyring limit nowEpoch before = .ok (collected, after)) :
    before.Sweeps nowEpoch after := by
  simp only [gcResults, bind_eq_ok, pure_eq_ok, Prod.mk.injEq] at collects
  obtain ⟨swept, collects, -, rfl⟩ := collects
  -- The rows were read before the first deletion, so each is related to the
  -- tables that the collection started from.
  have invariant := foldlM_relates
    (fun first second =>
      before.Sweeps nowEpoch first → before.Sweeps nowEpoch second)
    (fun _ => id)
    (fun earlier later start => later (earlier start))
    (fun row present first second collectsRow start => by
      have found : before.results.get? row.1 = some row.2 := by
        rw [Dict.get?_eq_some_iff]
        exact List.mem_of_mem_filter (List.mem_of_mem_take present)
      exact start.trans (collectRow_sweeps found start collectsRow))
    collects
  exact invariant (.refl nowEpoch before)

end Idempotency
end Vinctor
