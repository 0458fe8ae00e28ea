import Vinctor.Foundation.Bytes

/-!
# Records of idempotent execution

Field for field the data classes that the idempotency modules exchange, and the
errors they raise.
-/

namespace Vinctor
namespace Idempotency

open Foundation

structure IdempotencyKeyVersion where
  version : String
  material : Bytes
  commitment : Bytes
  deriving DecidableEq, Repr

structure IdempotencyKeyRegistration where
  version : String
  commitment : Bytes
  deriving DecidableEq, Repr

structure ResponseAadInput where
  formatVersion : Int
  workspaceId : String
  principal : String
  operation : String
  keyHash : Bytes
  requestFingerprint : Bytes
  statusCode : Int
  contentType : String
  cipherKeyVersion : String
  createdAtEpoch : Int
  expiresAtEpoch : Int
  deriving DecidableEq, Repr

structure EncryptedResponseEnvelope where
  formatVersion : Int
  version : String
  nonce : Bytes
  ciphertext : Bytes
  deriving DecidableEq, Repr

/-- What one stored result answers. -/
structure ResultIdentity where
  workspaceId : String
  principal : String
  operation : String
  keyHash : Bytes
  deriving DecidableEq, Repr

structure IdempotencyInvocation extends ResultIdentity where
  requestFingerprint : Bytes
  maxTerminalTtlSeconds : Int
  deriving DecidableEq, Repr

/-- The identity an invocation looks its result up under. -/
abbrev IdempotencyInvocation.resultIdentity (invocation : IdempotencyInvocation) :
    ResultIdentity :=
  invocation.toResultIdentity

structure HttpResponseObservation where
  errorCode : Option String
  decision : Option String
  deriving DecidableEq, Repr

/-- The one content type of a stored response. -/
inductive ContentType
  | applicationJson
  deriving DecidableEq, Repr

structure PreSerializedHttpResponse where
  statusCode : Int
  contentType : ContentType
  body : Bytes
  observation : HttpResponseObservation
  deriving DecidableEq, Repr

structure CacheableTerminalOutcome where
  response : PreSerializedHttpResponse
  replayNotAfterEpoch : Option Int := none
  deriving DecidableEq, Repr

structure CryptoReservation where
  version : String
  slot : Nat
  nonce : Bytes
  reservedAtEpoch : Int
  deriving DecidableEq, Repr

inductive IdempotencyLookupResult
  | replayCandidate (response : PreSerializedHttpResponse)
  | proceedToReservation
  deriving DecidableEq, Repr

/-- Exceptions of the idempotency modules, of the database and of the mutation. -/
inductive IdempotencyError
  | conflict
  | resultUnavailable
  | writeUnavailable
  | cipherUnavailable
  | keyringConfig
  | integrityError
  | sqliteError
  | overflowError
  | mutationFailed
  deriving DecidableEq, Repr

end Idempotency
end Vinctor
