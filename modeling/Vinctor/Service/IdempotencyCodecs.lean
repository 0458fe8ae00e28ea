import Vinctor.Foundation.PrefixCode
import Vinctor.Service.IdempotencyCrypto

/-!
# What the encodings of stored responses tell apart

The plaintext of a stored response is read back by taking field after field off its front,
and the reader accepts nothing but what the encoder writes.  The associated data and the
encoding of a fingerprint are never read; that their fields are prefix-free says that no two
different inputs share an encoding, and their domains say that no encoding is of two kinds.
-/

namespace Vinctor
namespace Idempotency

open Foundation
open Fallible

/-! ## Reading a field -/

theorem reads_readLengthPrefixed : Reads Bytes.lengthPrefix readLengthPrefixed := by
  intro payload value rest
  constructor
  · intro accepted
    simp only [readLengthPrefixed, bind_eq_ok, ensure_eq_ok, pure_eq_ok, Prod.mk.injEq]
      at accepted
    obtain ⟨_, wide, _, fits, isValue, isRest⟩ := accepted
    have split : payload = payload.take lengthPrefixBytes ++ (value ++ rest) := by
      rw [← isValue, ← isRest, List.take_append_drop, List.take_append_drop]
    refine ⟨payload.take lengthPrefixBytes ++ value, ?_, ?_⟩
    · apply Bytes.lengthPrefix_of_fromBigEndian (List.length_take_of_le wide)
      rw [← isValue, List.length_take_of_le fits]
      rfl
    · rw [List.append_assoc, ← split]
  · rintro ⟨encoded, encodes, rfl⟩
    exact readLengthPrefixed_append encodes rest

theorem reads_readOptionalText : Reads encodeOptionalText readOptionalText := by
  intro payload text rest
  constructor
  · intro accepted
    cases payload with
    | nil => cases accepted
    | cons mark payload =>
        unfold readOptionalText at accepted
        dsimp only at accepted
        split_ifs at accepted with absent present
        · obtain ⟨rfl, rfl⟩ := Prod.mk.inj (Except.ok.inj accepted)
          exact ⟨[0], rfl, by rw [absent]; rfl⟩
        · simp only [bind_eq_ok, require_eq_ok, pure_eq_ok, Prod.exists, Prod.mk.injEq] at accepted
          obtain ⟨encoded, rest', isField, decoded, decodes, rfl, rfl⟩ := accepted
          obtain ⟨prefixed, prefixes, rfl⟩ := (reads_readLengthPrefixed _ _ _).mp isField
          refine ⟨1 :: prefixed, ?_, by rw [present]; rfl⟩
          rw [encodeOptionalText, Bytes.utf8_of_decodeUtf8 decodes, prefixes]
          rfl
  · rintro ⟨encoded, encodes, rfl⟩
    exact readOptionalText_append encodes rest

/-! ## The codec of responses -/

/-- The reader accepts what the encoder writes, and returns the response it was written
for. -/
theorem decodeResponsePlaintext_eq_ok_iff
    (statusCode : Int)
    (plaintext : Bytes)
    (response : PreSerializedHttpResponse) :
    decodeResponsePlaintext statusCode plaintext = .ok response ↔
      response.statusCode = statusCode ∧ encodeResponsePlaintext response = some plaintext := by
  constructor
  · intro accepted
    simp only [decodeResponsePlaintext, bind_eq_ok, ensure_eq_ok, pure_eq_ok, Prod.exists]
      at accepted
    obtain ⟨_, ⟨payload, rfl⟩, body, payload', isBody, errorCode, payload'', isErrorCode, decision,
      payload''', isDecision, _, rfl, rfl⟩ := accepted
    rw [List.drop_left] at isBody
    obtain ⟨encodedBody, bodyEncodes, rfl⟩ := (reads_readLengthPrefixed _ _ _).mp isBody
    obtain ⟨encodedCode, codeEncodes, rfl⟩ := (reads_readOptionalText _ _ _).mp isErrorCode
    obtain ⟨encodedDecision, decisionEncodes, rfl⟩ := (reads_readOptionalText _ _ _).mp isDecision
    refine ⟨rfl, ?_⟩
    simp only [encodeResponsePlaintext, joinFields_cons, joinFields_nil]
    exact ⟨_, _, rfl, ⟨_, _, bodyEncodes, ⟨_, _, codeEncodes, ⟨_, _, decisionEncodes, rfl, rfl⟩,
      rfl⟩, rfl⟩, rfl⟩
  · rintro ⟨rfl, encodes⟩
    exact decodeResponsePlaintext_encode encodes

theorem failsOnlyWith_readLengthPrefixed (payload : Bytes) :
    FailsOnlyWith .resultUnavailable (readLengthPrefixed payload) :=
  failsOnlyWith_ensure.bind fun _ => failsOnlyWith_ensure.bind fun _ => failsOnlyWith_pure

theorem failsOnlyWith_readOptionalText (payload : Bytes) :
    FailsOnlyWith .resultUnavailable (readOptionalText payload) := by
  cases payload with
  | nil => exact failsOnlyWith_error
  | cons mark payload =>
      unfold readOptionalText
      dsimp only
      split_ifs
      · exact failsOnlyWith_pure
      · exact (failsOnlyWith_readLengthPrefixed payload).bind fun _ =>
          failsOnlyWith_require.bind fun _ => failsOnlyWith_pure
      · exact failsOnlyWith_error

theorem failsOnlyWith_decodeResponsePlaintext
    (statusCode : Int)
    (plaintext : Bytes) :
    FailsOnlyWith .resultUnavailable (decodeResponsePlaintext statusCode plaintext) :=
  failsOnlyWith_ensure.bind fun _ =>
    (failsOnlyWith_readLengthPrefixed _).bind fun body =>
      (failsOnlyWith_readOptionalText body.2).bind fun errorCode =>
        (failsOnlyWith_readOptionalText errorCode.2).bind fun _ =>
          failsOnlyWith_ensure.bind fun _ => failsOnlyWith_pure

theorem exists_lengthPrefix
    {value : Bytes}
    (fits : value.length < 2 ^ 32) :
    ∃ encoded, Bytes.lengthPrefix value = some encoded :=
  ⟨_, Bytes.lengthPrefix_eq_some_iff.mpr ⟨fits, rfl⟩⟩

theorem exists_encodeOptionalText
    {text : Option String}
    (fits : ∀ present ∈ text, (Bytes.utf8 present).length < 2 ^ 32) :
    ∃ encoded, encodeOptionalText text = some encoded := by
  cases text with
  | none => exact ⟨[0], rfl⟩
  | some present =>
      obtain ⟨encoded, encodes⟩ := exists_lengthPrefix (fits present rfl)
      rw [encodeOptionalText, encodes]
      exact ⟨_, rfl⟩

/-- The codec of stored responses: what is written is read back, what is read was written,
and anything else is an unavailable result. -/
theorem response_codec_is_exact :
    (∀ response : PreSerializedHttpResponse, response.body.length < 2 ^ 32 →
      (∀ text ∈ response.observation.errorCode, (Bytes.utf8 text).length < 2 ^ 32) →
      (∀ text ∈ response.observation.decision, (Bytes.utf8 text).length < 2 ^ 32) →
        ∃ plaintext, encodeResponsePlaintext response = some plaintext ∧
          decodeResponsePlaintext response.statusCode plaintext = .ok response) ∧
    (∀ statusCode plaintext response,
      decodeResponsePlaintext statusCode plaintext = .ok response →
        encodeResponsePlaintext response = some plaintext) ∧
    (∀ statusCode plaintext,
      (∀ response, decodeResponsePlaintext statusCode plaintext ≠ .ok response) →
        decodeResponsePlaintext statusCode plaintext = .error .resultUnavailable ∧
          ∀ response, encodeResponsePlaintext response ≠ some plaintext) := by
  refine ⟨?_, ?_, ?_⟩
  · intro response bodyFits errorCodeFits decisionFits
    obtain ⟨body, bodyEncodes⟩ := exists_lengthPrefix bodyFits
    obtain ⟨errorCode, errorCodeEncodes⟩ := exists_encodeOptionalText errorCodeFits
    obtain ⟨decision, decisionEncodes⟩ := exists_encodeOptionalText decisionFits
    have encodes : encodeResponsePlaintext response =
        some (responsePlaintextDomain ++ (body ++ (errorCode ++ (decision ++ [])))) := by
      simp only [encodeResponsePlaintext, joinFields_cons, joinFields_nil]
      exact ⟨_, _, rfl, ⟨_, _, bodyEncodes, ⟨_, _, errorCodeEncodes, ⟨_, _, decisionEncodes, rfl,
        rfl⟩, rfl⟩, rfl⟩, rfl⟩
    exact ⟨_, encodes, (decodeResponsePlaintext_eq_ok_iff _ _ _).mpr ⟨rfl, encodes⟩⟩
  · intro statusCode plaintext response accepted
    exact ((decodeResponsePlaintext_eq_ok_iff _ _ _).mp accepted).2
  · intro statusCode plaintext notAccepted
    constructor
    · cases outcome : decodeResponsePlaintext statusCode plaintext with
      | ok response => exact absurd outcome (notAccepted response)
      | error error =>
          rw [failsOnlyWith_decodeResponsePlaintext statusCode plaintext error outcome]
    · -- The response may be stored under any status.
      intro response encodes
      apply notAccepted { response with statusCode := statusCode }
      rw [decodeResponsePlaintext_eq_ok_iff]
      exact ⟨rfl, encodes⟩

theorem denial_round_trips :
    ∃ plaintext,
      encodeResponsePlaintext ⟨403, .applicationJson, Bytes.utf8 "\x7b\x7d", ⟨some "denied", none⟩⟩ =
        some plaintext ∧
      decodeResponsePlaintext 403 plaintext =
        .ok ⟨403, .applicationJson, Bytes.utf8 "\x7b\x7d", ⟨some "denied", none⟩⟩ :=
  response_codec_is_exact.1 _ (by decide) (by rintro _ ⟨⟩; decide) (by rintro _ ⟨⟩)

/-! ## Fields side by side -/

section Joined

variable {fields fields' : List (Option Bytes)} {joined : Bytes}

/-- The first of the joined fields can be told, and so can what is joined to it. -/
theorem joinFields_cons_inj
    {encode : α → Option Bytes}
    (prefixFree : PrefixFree encode)
    {first second : α}
    (isFirst : joinFields (encode first :: fields) = some joined)
    (isSecond : joinFields (encode second :: fields') = some joined) :
    first = second ∧ ∃ rest, joinFields fields = some rest ∧ joinFields fields' = some rest := by
  obtain ⟨encoded, rest, encodes, joins, split⟩ := joinFields_cons.mp isFirst
  obtain ⟨encoded', rest', encodes', joins', split'⟩ := joinFields_cons.mp isSecond
  obtain ⟨same, rfl⟩ := prefixFree ⟨encoded, encodes, split⟩ ⟨encoded', encodes', split'⟩
  exact ⟨same, rest, joins, joins'⟩

theorem joinFields_domain_inj
    {domain : Bytes}
    (isFirst : joinFields (some domain :: fields) = some joined)
    (isSecond : joinFields (some domain :: fields') = some joined) :
    ∃ rest, joinFields fields = some rest ∧ joinFields fields' = some rest := by
  obtain ⟨_, rest, isDomain, joins, split⟩ := joinFields_cons.mp isFirst
  obtain ⟨_, rest', isDomain', joins', split'⟩ := joinFields_cons.mp isSecond
  rw [← Option.some.inj isDomain] at split
  rw [← Option.some.inj isDomain'] at split'
  obtain rfl := List.append_cancel_left (split.symm.trans split')
  exact ⟨rest, joins, joins'⟩

theorem prefix_of_joinFields
    {domain : Bytes}
    (joins : joinFields (some domain :: fields) = some joined) :
    domain <+: joined := by
  obtain ⟨_, rest, isDomain, _, split⟩ := joinFields_cons.mp joins
  rw [split, ← Option.some.inj isDomain]
  exact List.prefix_append domain rest

/-- Encodings under domains neither of which starts with the other are different. -/
theorem ne_of_domains
    {domain domain' : Bytes}
    (apart : ¬ domain <+: domain' ∧ ¬ domain' <+: domain)
    (joins : joinFields (some domain :: fields) = some joined) :
    joinFields (some domain' :: fields') ≠ some joined := by
  intro joins'
  rcases List.prefix_or_prefix_of_prefix (prefix_of_joinFields joins)
    (prefix_of_joinFields joins') with within | within
  · exact apart.1 within
  · exact apart.2 within

end Joined

/-! ## Fingerprints -/

def fingerprintDomain : Bytes := Bytes.utf8 "vinctor:idempotency-fingerprint:v1"

def encodeLengthPrefixed (domain : Bytes) (fields : List Bytes) : Option Bytes :=
  joinFields (some domain :: fields.map Bytes.lengthPrefix)

def encodeFingerprintFields (fields : List Bytes) : Option Bytes :=
  encodeLengthPrefixed fingerprintDomain fields

/-- What a fingerprint is made from, with the body in its canonical form. -/
structure FingerprintInput where
  method : String
  path : String
  authenticatedWorkspaceId : String
  authenticatedPrincipal : String
  operation : String
  canonicalBody : Bytes
  deriving DecidableEq, Repr

def FingerprintInput.fields (input : FingerprintInput) : List Bytes :=
  [Bytes.utf8 input.method, Bytes.utf8 input.path, Bytes.utf8 input.authenticatedWorkspaceId,
    Bytes.utf8 input.authenticatedPrincipal, Bytes.utf8 input.operation, input.canonicalBody]

theorem FingerprintInput.fields_injective : Function.Injective FingerprintInput.fields := by
  intro first second same
  simp only [fields, List.cons.injEq, Bytes.utf8_injective.eq_iff, and_true] at same
  obtain ⟨method, path, workspace, principal, operation, body⟩ := same
  cases first
  cases second
  simp only [FingerprintInput.mk.injEq]
  exact ⟨method, path, workspace, principal, operation, body⟩

theorem lengthPrefix_ne_nil (value : Bytes) : Bytes.lengthPrefix value ≠ some [] := by
  intro encodes
  have empty := (Bytes.lengthPrefix_eq_some encodes).2
  have lengths := congrArg List.length empty
  rw [List.length_append, Bytes.length_bigEndian, List.length_nil] at lengths
  omega

/-- Fields are told from their joined prefixed encodings, also how many they are. -/
theorem joinFields_lengthPrefix_injective
    {first second : List Bytes}
    {joined : Bytes}
    (isFirst : joinFields (first.map Bytes.lengthPrefix) = some joined)
    (isSecond : joinFields (second.map Bytes.lengthPrefix) = some joined) :
    first = second := by
  have noMore : ∀ value (fields : List Bytes),
      joinFields (Bytes.lengthPrefix value :: fields.map Bytes.lengthPrefix) ≠ some [] := by
    intro value fields joins
    obtain ⟨encoded, rest, encodes, _, empty⟩ := joinFields_cons.mp joins
    rw [(List.append_eq_nil_iff.mp empty.symm).1] at encodes
    exact lengthPrefix_ne_nil value encodes
  induction first generalizing second joined with
  | nil =>
      obtain rfl := joinFields_nil.mp isFirst
      cases second with
      | nil => rfl
      | cons value second => exact absurd isSecond (noMore value second)
  | cons value first rest =>
      cases second with
      | nil =>
          obtain rfl := joinFields_nil.mp isSecond
          exact absurd isFirst (noMore value first)
      | cons other second =>
          rw [List.map_cons] at isFirst isSecond
          obtain ⟨same, behind, joins, joins'⟩ :=
            joinFields_cons_inj Bytes.prefixFree_lengthPrefix isFirst isSecond
          rw [same, rest joins joins']

theorem encodeFingerprintFields_injective
    {first second : List Bytes}
    {encoded : Bytes}
    (isFirst : encodeFingerprintFields first = some encoded)
    (isSecond : encodeFingerprintFields second = some encoded) :
    first = second := by
  obtain ⟨rest, joins, joins'⟩ := joinFields_domain_inj isFirst isSecond
  exact joinFields_lengthPrefix_injective joins joins'

/-! ## Associated data -/

theorem joinFields_of_buildResponseAad
    {metadata : ResponseAadInput}
    {aad : Bytes}
    (builds : buildResponseAad metadata = .ok aad) :
    joinFields [
      some responseAadDomain,
      Bytes.int64 metadata.formatVersion,
      Bytes.lengthPrefix (Bytes.utf8 metadata.workspaceId),
      Bytes.lengthPrefix (Bytes.utf8 metadata.principal),
      Bytes.lengthPrefix (Bytes.utf8 metadata.operation),
      Bytes.lengthPrefix metadata.keyHash,
      Bytes.lengthPrefix metadata.requestFingerprint,
      Bytes.int64 metadata.statusCode,
      Bytes.lengthPrefix (Bytes.utf8 metadata.contentType),
      Bytes.lengthPrefix (Bytes.utf8 metadata.cipherKeyVersion),
      Bytes.int64 metadata.createdAtEpoch,
      Bytes.int64 metadata.expiresAtEpoch] = some aad := by
  simp only [buildResponseAad, bind_eq_ok, ensure_eq_ok, require_eq_ok] at builds
  exact builds.choose_spec.2

theorem buildResponseAad_injective
    {first second : ResponseAadInput}
    {aad : Bytes}
    (isFirst : buildResponseAad first = .ok aad)
    (isSecond : buildResponseAad second = .ok aad) :
    first = second := by
  obtain ⟨rest, joins, joins'⟩ := joinFields_domain_inj (joinFields_of_buildResponseAad isFirst)
    (joinFields_of_buildResponseAad isSecond)
  obtain ⟨formatVersion, _, joins, joins'⟩ :=
    joinFields_cons_inj Bytes.prefixFree_int64 joins joins'
  obtain ⟨workspaceId, _, joins, joins'⟩ := joinFields_cons_inj Bytes.prefixFree_text joins joins'
  obtain ⟨principal, _, joins, joins'⟩ := joinFields_cons_inj Bytes.prefixFree_text joins joins'
  obtain ⟨operation, _, joins, joins'⟩ := joinFields_cons_inj Bytes.prefixFree_text joins joins'
  obtain ⟨keyHash, _, joins, joins'⟩ := joinFields_cons_inj Bytes.prefixFree_lengthPrefix joins joins'
  obtain ⟨requestFingerprint, _, joins, joins'⟩ :=
    joinFields_cons_inj Bytes.prefixFree_lengthPrefix joins joins'
  obtain ⟨statusCode, _, joins, joins'⟩ :=
    joinFields_cons_inj Bytes.prefixFree_int64 joins joins'
  obtain ⟨contentType, _, joins, joins'⟩ := joinFields_cons_inj Bytes.prefixFree_text joins joins'
  obtain ⟨cipherKeyVersion, _, joins, joins'⟩ := joinFields_cons_inj Bytes.prefixFree_text joins joins'
  obtain ⟨createdAtEpoch, _, joins, joins'⟩ :=
    joinFields_cons_inj Bytes.prefixFree_int64 joins joins'
  obtain ⟨expiresAtEpoch, _⟩ := joinFields_cons_inj Bytes.prefixFree_int64 joins joins'
  cases first
  cases second
  simp only [ResponseAadInput.mk.injEq]
  exact ⟨formatVersion, workspaceId, principal, operation, keyHash, requestFingerprint, statusCode,
    contentType, cipherKeyVersion, createdAtEpoch, expiresAtEpoch⟩

theorem envelopeAad_injective
    {formatVersion formatVersion' : Int}
    {version version' : String}
    {aad aad' encoded : Bytes}
    (isFirst : envelopeAad formatVersion version aad = some encoded)
    (isSecond : envelopeAad formatVersion' version' aad' = some encoded) :
    formatVersion = formatVersion' ∧ version = version' ∧ aad = aad' := by
  obtain ⟨_, joins, joins'⟩ := joinFields_domain_inj isFirst isSecond
  obtain ⟨sameFormat, _, joins, joins'⟩ := joinFields_cons_inj Bytes.prefixFree_int64 joins joins'
  obtain ⟨sameVersion, _, joins, joins'⟩ := joinFields_cons_inj Bytes.prefixFree_text joins joins'
  obtain ⟨sameAad, _⟩ := joinFields_cons_inj Bytes.prefixFree_lengthPrefix joins joins'
  exact ⟨sameFormat, sameVersion, sameAad⟩

/-- Encodings that authenticate tell their inputs apart, and no encoding is of two kinds. -/
theorem encodings_are_injective_and_separated :
    (∀ first second aad, buildResponseAad first = .ok aad → buildResponseAad second = .ok aad →
      first = second) ∧
    (∀ (first second : FingerprintInput) (encoded : Bytes),
      encodeFingerprintFields first.fields = some encoded →
        encodeFingerprintFields second.fields = some encoded → first = second) ∧
    (∀ formatVersion formatVersion' version version' aad aad' encoded,
      envelopeAad formatVersion version aad = some encoded →
        envelopeAad formatVersion' version' aad' = some encoded →
          formatVersion = formatVersion' ∧ version = version' ∧ aad = aad') ∧
    (∀ metadata encoded, buildResponseAad metadata = .ok encoded →
      (∀ fields, encodeFingerprintFields fields ≠ some encoded) ∧
      ∀ formatVersion version aad, envelopeAad formatVersion version aad ≠ some encoded) ∧
    (∀ fields encoded, encodeFingerprintFields fields = some encoded →
      ∀ formatVersion version aad, envelopeAad formatVersion version aad ≠ some encoded) := by
  refine ⟨?_, ?_, ?_, ?_, ?_⟩
  · intro first second aad isFirst isSecond
    exact buildResponseAad_injective isFirst isSecond
  · intro first second encoded isFirst isSecond
    exact FingerprintInput.fields_injective (encodeFingerprintFields_injective isFirst isSecond)
  · intro _ _ _ _ _ _ _ isFirst isSecond
    exact envelopeAad_injective isFirst isSecond
  · intro metadata encoded builds
    have joins := joinFields_of_buildResponseAad builds
    constructor
    · intro fields
      exact ne_of_domains (by decide) joins
    · intro formatVersion version aad
      exact ne_of_domains (by decide) joins
  · intro fields encoded encodes formatVersion version aad
    exact ne_of_domains (by decide) encodes

/-- A letter that moves from the method to the path is told. -/
theorem moved_letter_is_told :
    ∀ encoded,
      encodeFingerprintFields (FingerprintInput.fields ⟨"GET", "/a", "w", "p", "o", []⟩) =
        some encoded →
      encodeFingerprintFields (FingerprintInput.fields ⟨"GE", "T/a", "w", "p", "o", []⟩) ≠
        some encoded := by
  intro encoded isFirst isSecond
  exact absurd (encodings_are_injective_and_separated.2.1 _ _ encoded isFirst isSecond) (by decide)

end Idempotency
end Vinctor
