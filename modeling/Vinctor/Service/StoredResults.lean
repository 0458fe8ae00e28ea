import Vinctor.Service.IdempotencySteps

/-!
# Stored results open to the responses they were made from

The row a completion stores authenticates under the keyring that sealed it, for
every invocation of its identity, and decodes to the response of the mutation.
An invocation that finds the row before its expiry therefore replays exactly that
response, or is a conflict when its fingerprint is another one.
-/

namespace Vinctor
namespace Idempotency

open Foundation
open Fallible

/-- A row holds the response of a committed mutation of its identity. -/
structure RecordOf
    (aead : Aead)
    (keyring : Option IdempotencyKeyring)
    (identity : ResultIdentity)
    (record : CompletedResultRecord)
    (mutation : CommittedMutation) : Prop where
  identity_eq : mutation.invocation.resultIdentity = identity
  fingerprint_eq : record.requestFingerprint = mutation.invocation.requestFingerprint
  expires_eq : mutation.expiresAtEpoch = some record.expiresAtEpoch
  checked : record.check identity
  opens : ∀ invocation : IdempotencyInvocation,
    invocation.resultIdentity = identity → requireInvocation invocation = .ok ⟨⟩ →
      ∃ plaintext, authenticateCompletedResult aead keyring invocation record = .ok plaintext ∧
        decodeResponsePlaintext record.statusCode plaintext = .ok mutation.response

/-! ## Sealing -/

/-- The row of a sealed response authenticates and decodes to that response. -/
theorem sealedRecord_opens
    {aead : Aead}
    (roundTrips : aead.RoundTrips)
    {keyring : Option IdempotencyKeyring}
    {invocation reader : IdempotencyInvocation}
    {reservation : CryptoReservation}
    {response : PreSerializedHttpResponse}
    {nowEpoch expiresAtEpoch : Int}
    {key : IdempotencyKeyVersion}
    {call : CipherCall}
    {ciphertext : Bytes}
    (encrypts : encryptOutcome keyring invocation reservation response nowEpoch expiresAtEpoch =
      .ok (key, call))
    (seals : aead.encrypt call.key call.nonce call.plaintext call.associatedData =
      some ciphertext)
    (tagged : gcmTagBytes ≤ ciphertext.length)
    (sameIdentity : reader.resultIdentity = invocation.resultIdentity)
    (admitted : requireInvocation reader = .ok ⟨⟩) :
    let record := sealedRecord invocation response (sealedEnvelope key call ciphertext)
      nowEpoch expiresAtEpoch
    ∃ plaintext, authenticateCompletedResult aead keyring reader record = .ok plaintext ∧
      decodeResponsePlaintext record.statusCode plaintext = .ok response := by
  simp only [encryptOutcome, bind_eq_ok, require_eq_ok, pure_eq_ok, Prod.mk.injEq] at encrypts
  obtain ⟨known, rfl, found, keyFound, aad, aadBuilt, plaintext, encodes, made, calls, rfl, rfl⟩ :=
    encrypts
  have sameVersion := (IdempotencyKeyring.of_decryptionKey_eq_some keyFound).2
  refine ⟨plaintext, ?_, decodeResponsePlaintext_encode encodes⟩
  simp only [authenticateCompletedResult, bind_eq_ok, require_eq_ok, relabel_eq_ok, sealedRecord,
    sealedEnvelope]
  refine ⟨⟨⟩, admitted, known, rfl, found, by rw [sameVersion]; exact keyFound, aad, ?_, ?_⟩
  · -- The row repeats every field of the associated data.
    rw [sameIdentity, ← aadBuilt]
    simp only [recordAadInput, sameVersion]
  · exact decryptResponse_sealedEnvelope roundTrips calls seals tagged (by simp)

theorem recordOf_stored
    {aead : Aead}
    (roundTrips : aead.RoundTrips)
    {keyring : Option IdempotencyKeyring}
    {invocation : IdempotencyInvocation}
    {reservation : CryptoReservation}
    {response : PreSerializedHttpResponse}
    {nowEpoch expiresAtEpoch : Int}
    {key : IdempotencyKeyVersion}
    {call : CipherCall}
    {ciphertext : Bytes}
    (id : Nat)
    (encrypts : encryptOutcome keyring invocation reservation response nowEpoch expiresAtEpoch =
      .ok (key, call))
    (seals : aead.encrypt call.key call.nonce call.plaintext call.associatedData =
      some ciphertext)
    (checked : (sealedRecord invocation response (sealedEnvelope key call ciphertext) nowEpoch
      expiresAtEpoch).check invocation.resultIdentity) :
    RecordOf aead keyring invocation.resultIdentity
      (sealedRecord invocation response (sealedEnvelope key call ciphertext) nowEpoch
        expiresAtEpoch)
      { execution := id, invocation, nowEpoch, response,
        expiresAtEpoch := some expiresAtEpoch } where
  identity_eq := rfl
  fingerprint_eq := rfl
  expires_eq := rfl
  checked := checked
  opens := by
    intro reader sameIdentity admitted
    have tagged : gcmTagBytes ≤ ciphertext.length := by
      simp only [CompletedResultRecord.check, Bool.and_eq_true, decide_eq_true_eq] at checked
      exact checked.1.1.2
    exact sealedRecord_opens roundTrips encrypts seals tagged sameIdentity admitted

/-! ## Classification -/

theorem ne_empty_of_sqliteLength {text : String} (nonempty : 0 < sqliteLength text) :
    text ≠ "" := by
  rintro rfl
  cases nonempty

/-- An invocation of the identity of a stored row with a fingerprint of the
right length is admitted. -/
theorem requireInvocation_of_check
    {identity : ResultIdentity}
    {record : CompletedResultRecord}
    {invocation : IdempotencyInvocation}
    (checked : record.check identity)
    (sameIdentity : invocation.resultIdentity = identity)
    (digest : invocation.requestFingerprint.length = 32) :
    requireInvocation invocation = .ok ⟨⟩ := by
  subst sameIdentity
  simp only [CompletedResultRecord.check, ResultIdentity.check, Bool.and_eq_true,
    decide_eq_true_eq] at checked
  obtain ⟨⟨⟨⟨⟨⟨⟨⟨⟨⟨⟨workspace, principal⟩, operation⟩, keyHash⟩, -⟩, -⟩, -⟩, -⟩, -⟩, -⟩, -⟩, -⟩ :=
    checked
  rw [requireInvocation, ensure_eq_ok]
  exact ⟨ne_empty_of_sqliteLength workspace, ne_empty_of_sqliteLength principal,
    ne_empty_of_sqliteLength operation, keyHash, digest⟩

/-- The classification of an unexpired row. -/
theorem RecordOf.classify
    {aead : Aead}
    {keyring : Option IdempotencyKeyring}
    {identity : ResultIdentity}
    {record : CompletedResultRecord}
    {mutation : CommittedMutation}
    (recordOf : RecordOf aead keyring identity record mutation)
    {invocation : IdempotencyInvocation}
    {nowEpoch : Int}
    (sameIdentity : invocation.resultIdentity = identity)
    (digest : invocation.requestFingerprint.length = 32)
    (unexpired : nowEpoch < record.expiresAtEpoch) :
    classifyCompletedResult aead keyring invocation (some record) nowEpoch =
      if record.requestFingerprint = invocation.requestFingerprint then
        .ok (.replayCandidate mutation.response)
      else .error .conflict := by
  have admitted := requireInvocation_of_check recordOf.checked sameIdentity digest
  obtain ⟨plaintext, authentic, decodes⟩ := recordOf.opens invocation sameIdentity admitted
  simp only [classifyCompletedResult, admitted, authentic, bind, Except.bind,
    if_neg (not_le.mpr unexpired), ensure]
  by_cases same : record.requestFingerprint = invocation.requestFingerprint
  · simp only [if_pos same, decodes]
    rfl
  · simp only [if_neg same]

/-- An invocation with a malformed fingerprint is refused. -/
theorem classify_malformed
    {aead : Aead}
    {keyring : Option IdempotencyKeyring}
    {record : Option CompletedResultRecord}
    {invocation : IdempotencyInvocation}
    {nowEpoch : Int}
    (malformed : invocation.requestFingerprint.length ≠ 32) :
    classifyCompletedResult aead keyring invocation record nowEpoch =
      .error .writeUnavailable := by
  have refused : requireInvocation invocation = .error .writeUnavailable := by
    rw [requireInvocation, ensure, if_neg]
    exact fun admitted => malformed admitted.2.2.2.2
  simp only [classifyCompletedResult, refused, bind, Except.bind]

end Idempotency
end Vinctor
