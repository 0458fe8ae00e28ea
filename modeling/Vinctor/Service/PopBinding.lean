import Vinctor.Foundation.Base64
import Vinctor.Foundation.PrefixCode
import Vinctor.Service.PopReplay

/-!
# What a proof of possession is bound to

Every field of the canonical bytes is written behind its length, so that no content of a field
moves the boundary to the next one.  Hence the canonical bytes of five fields are those of no
other five, and a proof that is accepted for one action, resource and token is not accepted
for another, as long as the keyed hash has no collisions.
-/

namespace Vinctor
namespace Pop

open Foundation

/-! ## Canonical bytes -/

/-- The fields that a proof binds. -/
structure BoundFields where
  action : String
  resource : String
  ts : Int
  nonce : String
  tokenId : String
  deriving DecidableEq, Repr

namespace BoundFields

def texts (fields : BoundFields) : List String :=
  [fields.action, fields.resource, toString fields.ts, fields.nonce, fields.tokenId]

def canonical (fields : BoundFields) : Option Bytes :=
  popCanonical fields.action fields.resource fields.ts fields.nonce fields.tokenId

/-- The length of every field is written in four bytes. -/
def Fits (fields : BoundFields) : Prop :=
  ∀ text ∈ fields.texts, (Bytes.utf8 text).length < 2 ^ 32

theorem texts_injective : Function.Injective texts := by
  intro first second same
  simp only [texts, List.cons.injEq, and_true] at same
  obtain ⟨action, resource, ts, nonce, tokenId⟩ := same
  cases first
  cases second
  simp only [mk.injEq]
  exact ⟨action, resource, Text.toString_int_injective ts, nonce, tokenId⟩

theorem canonical_inj
    {first second : BoundFields}
    {bytes : Bytes}
    (isFirst : first.canonical = some bytes)
    (isSecond : second.canonical = some bytes) :
    first = second :=
  texts_injective (Bytes.prefixFree_text.mapM_flatten_inj rfl isFirst isSecond)

theorem Fits.exists_canonical
    {fields : BoundFields}
    (fits : fields.Fits) :
    ∃ bytes, fields.canonical = some bytes := by
  have encodes : ∀ text ∈ fields.texts,
      Bytes.lengthPrefix (Bytes.utf8 text) =
        some (Bytes.bigEndian 4 (Bytes.utf8 text).length ++ Bytes.utf8 text) := by
    intro text member
    exact Bytes.lengthPrefix_eq_some_iff.mpr ⟨fits text member, rfl⟩
  simp only [texts, List.forall_mem_cons] at encodes
  obtain ⟨action, resource, ts, nonce, tokenId, _⟩ := encodes
  rw [canonical, popCanonical]
  simp only [List.mapM_cons, action, resource, ts, nonce, tokenId]
  exact ⟨_, rfl⟩

/-- The canonical bytes tell their fields. -/
theorem eq_of_canonical_eq
    {first second : BoundFields}
    (isFirst : first.Fits)
    (same : first.canonical = second.canonical) :
    first = second := by
  obtain ⟨bytes, isCanonical⟩ := isFirst.exists_canonical
  exact canonical_inj isCanonical (same ▸ isCanonical)

end BoundFields

/-! ## Accepted proofs -/

/-- No two messages have the same digest, under whatever keys. -/
def CollisionFree (hmac : KeyedHash) : Prop :=
  ∀ key key' message message', hmac key message = hmac key' message' → message = message'

variable {hmac : KeyedHash} {skew : Int}

theorem CollisionFree.canonical_eq
    (collisionFree : CollisionFree hmac)
    {secret secret' : String}
    {message message' : Bytes}
    (sameMac : popMac hmac secret message = popMac hmac secret' message') :
    message = message' :=
  collisionFree _ _ _ _ (Bytes.base64UrlDigits_injective (String.ofList_injective sameMac))

/-- The fields that a call binds with a proof. -/
def PopCall.bound (call : PopCall) (proof : PopProof) : BoundFields where
  action := call.action
  resource := call.resource
  ts := proof.ts
  nonce := proof.nonce
  tokenId := call.tokenId

/-- An admitted proof has the mac of the canonical bytes of its call. -/
theorem mac_of_admission
    {call : PopCall}
    {proof : PopProof}
    (admitted : admission hmac skew call = .ok (some proof)) :
    ∃ bytes, (call.bound proof).canonical = some bytes ∧
      popMac hmac call.popSecret bytes = proof.mac := by
  unfold admission at admitted
  split at admitted
  · cases admitted
  · next parsed _ =>
      split at admitted
      · cases admitted
      · split at admitted
        · cases admitted
        · next bytes isCanonical =>
            split at admitted
            · next isMac =>
                obtain rfl := Option.some.inj (Except.ok.inj admitted)
                exact ⟨bytes, isCanonical, isMac⟩
            · cases admitted

/-- Canonical bytes are injective, so that a proof is accepted for one action, resource and
token only, whatever the stores hold. -/
theorem proofs_are_bound
    (hmac : KeyedHash)
    (skew : Int) :
    (∀ first second : BoundFields, first.Fits → second.Fits →
      first.canonical = second.canonical → first = second) ∧
    (CollisionFree hmac → ∀ (call call' : PopCall) (store store' : ReplayStore),
      call.proof = call'.proof →
      (verifyPop hmac skew call store).1 = some true →
      (verifyPop hmac skew call' store').1 = some true →
        call.action = call'.action ∧ call.resource = call'.resource ∧
          call.tokenId = call'.tokenId) := by
  constructor
  · intro first second isFirst _ same
    exact BoundFields.eq_of_canonical_eq isFirst same
  · intro collisionFree call call' store store' sameProof accepted accepted'
    obtain ⟨proof, admitted, _⟩ := verifyPop_accepted accepted
    obtain ⟨proof', admitted', _⟩ := verifyPop_accepted accepted'
    have parsed := (admission_eq_some admitted).1
    have parsed' := (admission_eq_some admitted').1
    rw [← sameProof, parsed] at parsed'
    obtain rfl := Option.some.inj parsed'
    obtain ⟨bytes, isCanonical, isMac⟩ := mac_of_admission admitted
    obtain ⟨bytes', isCanonical', isMac'⟩ := mac_of_admission admitted'
    obtain rfl := collisionFree.canonical_eq (isMac.trans isMac'.symm)
    have same := BoundFields.canonical_inj isCanonical isCanonical'
    simp only [PopCall.bound, BoundFields.mk.injEq] at same
    exact ⟨same.1, same.2.1, same.2.2.2.2⟩

/-- The digest of HMAC-SHA256 for the captured proof, and elsewhere the message itself behind
a byte that the digest does not start with. -/
def tellingHmac : KeyedHash := fun key message =>
  if popCanonical "read" "file/a" 1700000000 "n1" "stk_a" = some message then
    sampleHmac key message
  else 0 :: message

theorem sampleHmac_ne_zero_cons (key message rest : Bytes) :
    sampleHmac key message ≠ 0 :: rest := by
  unfold sampleHmac
  split_ifs
  · simp
  · simp
  · simp

theorem collisionFree_tellingHmac : CollisionFree tellingHmac := by
  intro key key' message message' same
  unfold tellingHmac at same
  split_ifs at same with captured captured' captured'
  · exact Option.some.inj (captured.symm.trans captured')
  · exact absurd same (sampleHmac_ne_zero_cons key message message')
  · exact absurd same.symm (sampleHmac_ne_zero_cons key' message' message)
  · exact List.tail_eq_of_cons_eq same

/-- The captured proof is not accepted for another resource. -/
theorem captured_proof_is_bound :
    (verifyPop tellingHmac 30 { capturedCall 0 with resource := "file/b" } emptyReplayCache).1 ≠
      some true := by
  intro accepted
  have bound := (proofs_are_bound tellingHmac 30).2 collisionFree_tellingHmac (capturedCall 0)
    { capturedCall 0 with resource := "file/b" } emptyReplayCache emptyReplayCache rfl
    (by decide) accepted
  exact absurd bound.2.1 (by decide)

end Pop
end Vinctor
