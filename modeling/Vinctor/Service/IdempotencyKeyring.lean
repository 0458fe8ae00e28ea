import Mathlib.Data.List.Sort
import Vinctor.Foundation.Dict
import Vinctor.Foundation.Fallible
import Vinctor.Foundation.Json
import Vinctor.Foundation.Text
import Vinctor.Service.IdempotencyModels

/-!
# The idempotency keyring

A keyring is read from two settings: a JSON object of labelled AES-256 keys in
base64 and the label of the active one.  Before a service starts, the keyring
is compared with the labels and key commitments the database has recorded.
-/

namespace Vinctor
namespace Idempotency

open Foundation
open Fallible

structure IdempotencyKeyring where
  activeKey : IdempotencyKeyVersion
  decryptionKeys : List IdempotencyKeyVersion
  deriving DecidableEq, Repr

instance : LawfulBEq (Option IdempotencyKeyring) := inferInstance

namespace IdempotencyKeyring

def activeVersion (keyring : IdempotencyKeyring) : String :=
  keyring.activeKey.version

def versionLabels (keyring : IdempotencyKeyring) : List String :=
  keyring.decryptionKeys.map (·.version)

def registrations (keyring : IdempotencyKeyring) : List IdempotencyKeyRegistration :=
  keyring.decryptionKeys.map fun key =>
    { version := key.version, commitment := key.commitment }

def decryptionKey (keyring : IdempotencyKeyring) (version : String) :
    Option IdempotencyKeyVersion :=
  keyring.decryptionKeys.find? fun key => key.version = version

theorem of_decryptionKey_eq_some
    {keyring : IdempotencyKeyring}
    {version : String}
    {key : IdempotencyKeyVersion}
    (found : keyring.decryptionKey version = some key) :
    key ∈ keyring.decryptionKeys ∧ key.version = version := by
  unfold decryptionKey at found
  refine ⟨List.mem_of_find?_eq_some found, ?_⟩
  simpa using List.find?_some found

end IdempotencyKeyring

/-! ## Loading -/

def keyringEnv : String := "VINCTOR_IDEMPOTENCY_KEYRING_JSON"

def activeVersionEnv : String := "VINCTOR_IDEMPOTENCY_ACTIVE_KEY_VERSION"

def keyCommitmentDomain : Bytes :=
  Bytes.utf8 "vinctor.idempotency.key-commitment.v1" ++ [0]

def aes256KeyBytes : Nat := 32

def keyCommitment (sha256 : Bytes → Bytes) (material : Bytes) : Bytes :=
  sha256 (keyCommitmentDomain ++ material)

def isLabelHead (character : Char) : Bool :=
  ('A' ≤ character ∧ character ≤ 'Z') ∨ ('a' ≤ character ∧ character ≤ 'z') ∨
    ('0' ≤ character ∧ character ≤ '9')

def isLabelCharacter (character : Char) : Bool :=
  isLabelHead character || character = '.' || character = '_' || character = '-'

/-- The pattern `[A-Za-z0-9][A-Za-z0-9._-]` with at most 63 repetitions of its
second class. -/
def matchesVersionLabel (raw : String) : Bool :=
  match raw.toList with
  | [] => false
  | head :: tail => isLabelHead head && tail.all isLabelCharacter && tail.length ≤ 63

def parseVersionLabel (raw : String) : Except IdempotencyError String := do
  ensure (matchesVersionLabel raw) .keyringConfig
  return raw

/-- The members of an object whose values are all texts. -/
def textMembers : List (String × Json) → Option (List (String × String))
  | [] => some []
  | (label, .str encoded) :: rest =>
      (textMembers rest).map ((label, encoded) :: ·)
  | _ :: _ => none

def parseKeyringJson (raw : String) : Except IdempotencyError (List (String × String)) :=
  match Json.loads raw.toList with
  | some (.obj members) => do
      ensure (members.map Prod.fst).Nodup .keyringConfig
      require (textMembers members) .keyringConfig
  | _ => .error .keyringConfig

def parseKeyVersion (sha256 : Bytes → Bytes) (label encoded : String) :
    Except IdempotencyError IdempotencyKeyVersion := do
  let version ← parseVersionLabel label
  ensure (encoded.toList.all fun character =>
    character.toNat < 128 ∧ ¬Text.isSpace character) .keyringConfig
  let material ← require (Bytes.decodeBase64 encoded.toList) .keyringConfig
  ensure (material.length = aes256KeyBytes) .keyringConfig
  return { version, material, commitment := keyCommitment sha256 material }

/-- Order of keys by their labels. -/
def versionLE (left right : IdempotencyKeyVersion) : Prop :=
  Json.codePointsLE left.version.toList right.version.toList = true

instance : DecidableRel versionLE :=
  fun _ _ => inferInstanceAs (Decidable (Json.codePointsLE _ _ = true))

/-- The keyring of the settings, or none where neither is set. -/
def loadIdempotencyKeyring (sha256 : Bytes → Bytes) (env : Dict String String) :
    Except IdempotencyError (Option IdempotencyKeyring) :=
  match env.get? keyringEnv, env.get? activeVersionEnv with
  | none, none => .ok none
  | some rawKeyring, some rawActive => do
      let pairs ← parseKeyringJson rawKeyring
      let activeVersion ← parseVersionLabel rawActive
      let parsed ← pairs.mapM fun pair => parseKeyVersion sha256 pair.1 pair.2
      let versions := parsed.insertionSort versionLE
      ensure (versions ≠ []) .keyringConfig
      ensure (versions.map (·.material)).Nodup .keyringConfig
      let activeKey ← require (versions.find? fun key => key.version = activeVersion)
        .keyringConfig
      return some { activeKey, decryptionKeys := versions }
  | _, _ => .error .keyringConfig

/-! ## Start-up -/

/-- Whether a keyring, recorded labels and the labels of stored results fit
together. -/
def validateStartupCompatibility
    (keyring : Option IdempotencyKeyring)
    (registry : List IdempotencyKeyRegistration)
    (resultVersions : List String) : Except IdempotencyError Unit :=
  match keyring with
  | none => ensure (resultVersions = []) .keyringConfig
  | some keyring => do
      ensure (resultVersions.all (· ∈ keyring.versionLabels)) .keyringConfig
      ensure (registry.all fun registration => keyring.decryptionKeys.all fun key =>
        (registration.version == key.version) ==
          (registration.commitment == key.commitment)) .keyringConfig

structure KeyVersionReadinessState where
  version : String
  writeDisabled : Bool
  retired : Bool
  reservedEncryptionSlots : Nat
  nonceCount : Nat
  deriving DecidableEq, Repr

/-- Largest number of encryptions under one key. -/
def hardSlotLimit : Nat := 16777216

def idempotencyReadiness
    (configuredVersions unexpiredVersions : List String)
    (activeVersion : Option String)
    (keyVersions : List KeyVersionReadinessState)
    (allowActiveWriteDisabled : Bool) : Bool :=
  if unexpiredVersions.any (· ∉ configuredVersions) then false
  else if keyVersions.any fun state =>
      state.reservedEncryptionSlots ≠ state.nonceCount ∨
        hardSlotLimit < state.reservedEncryptionSlots then false
  else if configuredVersions = [] then unexpiredVersions = [] ∧ activeVersion = none
  else
    match activeVersion with
    | none => false
    | some activeVersion =>
        let active := keyVersions.find? (·.version = activeVersion)
        if activeVersion ∉ configuredVersions then false
        else if keyVersions ≠ [] ∧ active = none then false
        else if unexpiredVersions.any fun version =>
            keyVersions.any fun state => state.version = version ∧ state.retired then false
        else
          match active with
          | none => true
          | some active =>
              !active.retired && (allowActiveWriteDisabled || !active.writeDisabled)

/-! ## Loaded keys -/

/-- A key carries the commitment of its material. -/
def IdempotencyKeyVersion.Committed
    (sha256 : Bytes → Bytes)
    (key : IdempotencyKeyVersion) : Prop :=
  key.commitment = keyCommitment sha256 key.material

theorem committed_of_parseKeyVersion
    {sha256 : Bytes → Bytes}
    {label encoded : String}
    {key : IdempotencyKeyVersion}
    (parses : parseKeyVersion sha256 label encoded = .ok key) :
    key.Committed sha256 := by
  simp only [parseKeyVersion, bind_eq_ok, ensure_eq_ok, require_eq_ok, pure_eq_ok] at parses
  obtain ⟨version, -, -, -, material, -, -, -, rfl⟩ := parses
  rfl

/-- Every key of a loaded keyring carries the commitment of its material. -/
theorem committed_of_load
    {sha256 : Bytes → Bytes}
    {env : Dict String String}
    {keyring : IdempotencyKeyring}
    (loads : loadIdempotencyKeyring sha256 env = .ok (some keyring)) :
    ∀ key ∈ keyring.decryptionKeys, key.Committed sha256 := by
  unfold loadIdempotencyKeyring at loads
  split at loads
  · cases loads
  · next rawKeyring rawActive _ _ =>
      simp only [bind_eq_ok, ensure_eq_ok, require_eq_ok, pure_eq_ok, Option.some.injEq] at loads
      obtain ⟨pairs, -, activeVersion, -, parsed, parses, -, -, -, -, activeKey, -, rfl⟩ := loads
      intro key present
      have parsedKey : key ∈ parsed := (List.mem_insertionSort versionLE).mp present
      obtain ⟨pair, -, parsesPair⟩ := exists_of_mem_mapM parses parsedKey
      exact committed_of_parseKeyVersion parsesPair
  · cases loads

end Idempotency
end Vinctor
