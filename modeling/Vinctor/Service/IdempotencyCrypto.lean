import Vinctor.Foundation.Fallible
import Vinctor.Service.IdempotencyModels

/-!
# Encryption of stored responses

A stored response is a plaintext of length-prefixed fields, sealed by AES-GCM
under a key, a reserved nonce and associated data that name the result, the key
version and the times of the row.  The cipher is a parameter.
-/

namespace Vinctor
namespace Idempotency

open Foundation
open Fallible

/-- AES-GCM of the cryptography package: either direction may raise. -/
structure Aead where
  encrypt : (key nonce plaintext associatedData : Bytes) → Option Bytes
  decrypt : (key nonce ciphertext associatedData : Bytes) → Option Bytes

/-- Under equal key, nonce and associated data a ciphertext opens to what was
sealed. -/
def Aead.RoundTrips (aead : Aead) : Prop :=
  ∀ key nonce plaintext associatedData ciphertext,
    aead.encrypt key nonce plaintext associatedData = some ciphertext →
      aead.decrypt key nonce ciphertext associatedData = some plaintext

def responseAadDomain : Bytes := Bytes.utf8 "vinctor:idempotency-response-aad:v1"

def envelopeAadDomain : Bytes := Bytes.utf8 "vinctor:idempotency-envelope:v1"

def envelopeFormatVersion : Int := 1

def gcmNonceBytes : Nat := 12

def gcmTagBytes : Nat := 16

/-! ## Associated data -/

/-- The joined fields, unless one of them overflows. -/
def joinFields (fields : List (Option Bytes)) : Option Bytes :=
  (fields.mapM id).map List.flatten

theorem joinFields_nil {joined : Bytes} : joinFields [] = some joined ↔ joined = [] := by
  simp [joinFields, eq_comm]

theorem joinFields_cons
    {field : Option Bytes}
    {fields : List (Option Bytes)}
    {joined : Bytes} :
    joinFields (field :: fields) = some joined ↔
      ∃ first rest, field = some first ∧ joinFields fields = some rest ∧
        joined = first ++ rest := by
  cases field with
  | none => simp [joinFields]
  | some first =>
      cases inner : fields.mapM id with
      | none => simp [joinFields, inner]
      | some rest => simp [joinFields, inner, eq_comm]

def buildResponseAad (metadata : ResponseAadInput) : Except IdempotencyError Bytes := do
  ensure (metadata.keyHash.length = 32 ∧ metadata.requestFingerprint.length = 32)
    .cipherUnavailable
  require (joinFields [
      some responseAadDomain,
      Bytes.int64 metadata.formatVersion,
      Bytes.lengthPrefix (Bytes.utf8 metadata.workspaceId),
      Bytes.lengthPrefix (Bytes.utf8 metadata.principal),
      Bytes.lengthPrefix (Bytes.utf8 metadata.operation),
      Bytes.lengthPrefix metadata.keyHash,
      Bytes.lengthPrefix metadata.requestFingerprint,
      Bytes.int64 metadata.statusCode,
      Bytes.lengthPrefix (Bytes.utf8 metadata.contentType),
      Bytes.lengthPrefix (Bytes.utf8 metadata.cipherKeyVersion),
      Bytes.int64 metadata.createdAtEpoch,
      Bytes.int64 metadata.expiresAtEpoch])
    .cipherUnavailable

def envelopeAad (formatVersion : Int) (version : String) (aad : Bytes) : Option Bytes :=
  joinFields [
    some envelopeAadDomain,
    Bytes.int64 formatVersion,
    Bytes.lengthPrefix (Bytes.utf8 version),
    Bytes.lengthPrefix aad]

/-! ## Sealing and opening -/

/-- One call of the cipher. -/
structure CipherCall where
  key : Bytes
  nonce : Bytes
  plaintext : Bytes
  associatedData : Bytes
  deriving DecidableEq, Repr

/-- The cipher call that seals a response under a key and a reservation. -/
def encryptReservedResponse
    (key : IdempotencyKeyVersion)
    (reservation : CryptoReservation)
    (plaintext aad : Bytes) : Except IdempotencyError CipherCall := do
  ensure (key.version = reservation.version) .cipherUnavailable
  ensure (key.material.length = 32) .cipherUnavailable
  ensure (key.version ≠ "" ∧ reservation.nonce.length = gcmNonceBytes) .cipherUnavailable
  let associatedData ← require (envelopeAad envelopeFormatVersion key.version aad)
    .cipherUnavailable
  return { key := key.material, nonce := reservation.nonce, plaintext, associatedData }

/-- The envelope around the ciphertext of a call. -/
def sealedEnvelope
    (key : IdempotencyKeyVersion)
    (call : CipherCall)
    (ciphertext : Bytes) : EncryptedResponseEnvelope where
  formatVersion := envelopeFormatVersion
  version := key.version
  nonce := call.nonce
  ciphertext := ciphertext

def decryptResponse
    (aead : Aead)
    (keys : String → Option Bytes)
    (envelope : EncryptedResponseEnvelope)
    (aad : Bytes) : Except IdempotencyError Bytes := do
  ensure (envelope.formatVersion = envelopeFormatVersion ∧ envelope.version ≠ "" ∧
    envelope.nonce.length = gcmNonceBytes ∧ gcmTagBytes ≤ envelope.ciphertext.length)
    .cipherUnavailable
  let key ← require (keys envelope.version) .cipherUnavailable
  ensure (key.length = 32) .cipherUnavailable
  let associatedData ← require (envelopeAad envelope.formatVersion envelope.version aad)
    .cipherUnavailable
  require (aead.decrypt key envelope.nonce envelope.ciphertext associatedData)
    .cipherUnavailable

/-- An envelope opens to the plaintext it was sealed around. -/
theorem decryptResponse_sealedEnvelope
    {aead : Aead}
    (roundTrips : aead.RoundTrips)
    {key : IdempotencyKeyVersion}
    {reservation : CryptoReservation}
    {plaintext aad ciphertext : Bytes}
    {call : CipherCall}
    {keys : String → Option Bytes}
    (calls : encryptReservedResponse key reservation plaintext aad = .ok call)
    (seals : aead.encrypt call.key call.nonce call.plaintext call.associatedData =
      some ciphertext)
    (tagged : gcmTagBytes ≤ ciphertext.length)
    (keyKnown : keys key.version = some key.material) :
    decryptResponse aead keys (sealedEnvelope key call ciphertext) aad = .ok plaintext := by
  simp only [encryptReservedResponse, bind_eq_ok, ensure_eq_ok, require_eq_ok, pure_eq_ok]
    at calls
  obtain ⟨-, -, -, keyLength, -, ⟨labelled, nonceLength⟩, associatedData, joins, rfl⟩ := calls
  simp only [decryptResponse, bind_eq_ok, ensure_eq_ok, require_eq_ok]
  refine ⟨⟨⟩, ⟨rfl, labelled, nonceLength, tagged⟩, key.material, keyKnown, ⟨⟩, keyLength,
    associatedData, joins, ?_⟩
  exact roundTrips _ _ _ _ _ seals

/-! ## Plaintexts -/

def responsePlaintextDomain : Bytes :=
  Bytes.utf8 "vinctor:idempotency-response-plaintext:v1"

def lengthPrefixBytes : Nat := 4

def encodeOptionalText : Option String → Option Bytes
  | none => some [0]
  | some text => (Bytes.lengthPrefix (Bytes.utf8 text)).map (1 :: ·)

def encodeResponsePlaintext (response : PreSerializedHttpResponse) : Option Bytes :=
  joinFields [
    some responsePlaintextDomain,
    Bytes.lengthPrefix response.body,
    encodeOptionalText response.observation.errorCode,
    encodeOptionalText response.observation.decision]

/-- A length-prefixed field and the payload behind it. -/
def readLengthPrefixed (payload : Bytes) : Except IdempotencyError (Bytes × Bytes) := do
  ensure (lengthPrefixBytes ≤ payload.length) .resultUnavailable
  let length := Bytes.fromBigEndian (payload.take lengthPrefixBytes)
  let rest := payload.drop lengthPrefixBytes
  ensure (length ≤ rest.length) .resultUnavailable
  return (rest.take length, rest.drop length)

def readOptionalText : Bytes → Except IdempotencyError (Option String × Bytes)
  | [] => .error .resultUnavailable
  | mark :: payload =>
      if mark = 0 then .ok (none, payload)
      else if mark = 1 then do
        let (encoded, rest) ← readLengthPrefixed payload
        let text ← require (Bytes.decodeUtf8 encoded) .resultUnavailable
        return (some text, rest)
      else .error .resultUnavailable

def decodeResponsePlaintext (statusCode : Int) (plaintext : Bytes) :
    Except IdempotencyError PreSerializedHttpResponse := do
  ensure (responsePlaintextDomain <+: plaintext) .resultUnavailable
  let (body, payload) ←
    readLengthPrefixed (plaintext.drop responsePlaintextDomain.length)
  let (errorCode, payload) ← readOptionalText payload
  let (decision, payload) ← readOptionalText payload
  ensure (payload = []) .resultUnavailable
  return {
    statusCode
    contentType := .applicationJson
    body
    observation := { errorCode, decision } }

theorem readLengthPrefixed_append
    {value encoded : Bytes}
    (encodes : Bytes.lengthPrefix value = some encoded)
    (rest : Bytes) :
    readLengthPrefixed (encoded ++ rest) = .ok (value, rest) := by
  obtain ⟨fits, rfl⟩ := Bytes.lengthPrefix_eq_some encodes
  have prefixed :
      (Bytes.bigEndian 4 value.length ++ value ++ rest).take lengthPrefixBytes =
        Bytes.bigEndian 4 value.length := by
    rw [List.append_assoc, List.take_left' (by simp [lengthPrefixBytes])]
  have remaining :
      (Bytes.bigEndian 4 value.length ++ value ++ rest).drop lengthPrefixBytes =
        value ++ rest := by
    rw [List.append_assoc, List.drop_left' (by simp [lengthPrefixBytes])]
  simp only [readLengthPrefixed, bind_eq_ok, ensure_eq_ok, pure_eq_ok, prefixed, remaining,
    Bytes.fromBigEndian_bigEndian fits]
  refine ⟨⟨⟩, ?_, ⟨⟩, ?_, ?_⟩
  · simp [lengthPrefixBytes]
  · simp
  · simp

theorem readOptionalText_append
    {text : Option String}
    {encoded : Bytes}
    (encodes : encodeOptionalText text = some encoded)
    (rest : Bytes) :
    readOptionalText (encoded ++ rest) = .ok (text, rest) := by
  cases text with
  | none =>
      obtain rfl : [0] = encoded := by simpa [encodeOptionalText] using encodes
      simp [readOptionalText]
  | some text =>
      simp only [encodeOptionalText, Option.map_eq_some_iff] at encodes
      obtain ⟨prefixed, prefixes, rfl⟩ := encodes
      have marked : readOptionalText (1 :: (prefixed ++ rest)) =
          (do
            let (encoded, rest) ← readLengthPrefixed (prefixed ++ rest)
            let text ← require (Bytes.decodeUtf8 encoded) .resultUnavailable
            return (some text, rest)) := rfl
      rw [List.cons_append, marked, readLengthPrefixed_append prefixes]
      simp only [bind_eq_ok, require_eq_ok, pure_eq_ok]
      exact ⟨_, rfl, text, Bytes.decodeUtf8_utf8 text, rfl⟩

/-- A response whose fields fit their length prefixes is read back. -/
theorem decodeResponsePlaintext_encode
    {response : PreSerializedHttpResponse}
    {plaintext : Bytes}
    (encodes : encodeResponsePlaintext response = some plaintext) :
    decodeResponsePlaintext response.statusCode plaintext = .ok response := by
  simp only [encodeResponsePlaintext, joinFields_cons, joinFields_nil] at encodes
  obtain ⟨domain, -, domainIs, ⟨body, -, bodyEncodes, ⟨errorCode, -, errorCodeEncodes,
    ⟨decision, -, decisionEncodes, rfl, rfl⟩, rfl⟩, rfl⟩, rfl⟩ := encodes
  obtain rfl : responsePlaintextDomain = domain := Option.some.inj domainIs
  simp only [decodeResponsePlaintext, bind_eq_ok, ensure_eq_ok, pure_eq_ok, List.drop_left]
  refine ⟨⟨⟩, List.prefix_append _ _, _, readLengthPrefixed_append bodyEncodes _,
    _, readOptionalText_append errorCodeEncodes _,
    _, readOptionalText_append decisionEncodes _, ⟨⟩, rfl, ?_⟩
  obtain ⟨statusCode, ⟨⟩, body, observation⟩ := response
  rfl

end Idempotency
end Vinctor
