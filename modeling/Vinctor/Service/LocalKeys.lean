import Vinctor.Foundation.Machine
import Vinctor.Service.ControlEvents

/-!
# Local keys

The repository of local keys as its callers use it: creation with or without a key
of the caller's own, seeding of a known key, lookup by the raw key, resolution to an
identity, and the audited operations.  A raw key is stored as its hash.
-/

namespace Vinctor
namespace Control

open Foundation
open Script

/-! ## Creation -/

/-- A key and an identifier that the caller may bring along. -/
structure KeyInput where
  rawKey : Option String := none
  keyId : Option String := none
  tokens : KeyTokens
  deriving DecidableEq, Repr

def validatePrefix (rawKey expectedPrefix : String) : Except ControlError Unit :=
  Fallible.ensure (expectedPrefix.toList <+: rawKey.toList)
    (.value ("key must start with " ++ expectedPrefix))

/-- Create a key of a type.  A fresh secret and a fresh identifier stand in for what
the caller left out. -/
def createLocalKey
    (config : Config)
    (keyType : KeyType)
    (rawPrefix workspaceId : String)
    (agentId : Option String)
    (input : KeyInput)
    (now : Instant) : Action CreatedLocalKey := do
  let rawKey := (presentText input.rawKey).getD (rawPrefix ++ input.tokens.secret)
  check (validatePrefix rawKey rawPrefix)
  let record : LocalKeyRecord :=
    { keyId := (presentText input.keyId).getD ("lkey_" ++ input.tokens.keyId)
      keyType
      workspaceId
      agentId
      keyHash := config.hashKey rawKey
      keyPrefix := keyPrefix rawKey
      status := .active
      createdAt := isoformat now }
  writeScope .operational do
    controlStatement fun control => do
      let keys ← insertKey control.keys record
      return ((), { control with keys })
  return { rawKey, record }

def createWorkspaceKey (config : Config) (workspaceId : String) :
    KeyInput → Instant → Action CreatedLocalKey :=
  createLocalKey config .workspace "wsk_" workspaceId none

def createAgentKey (config : Config) (workspaceId agentId : String) :
    KeyInput → Instant → Action CreatedLocalKey :=
  createLocalKey config .agent "aak_" workspaceId (some agentId)

def createAuditorKey (config : Config) (workspaceId : String) :
    KeyInput → Instant → Action CreatedLocalKey :=
  createLocalKey config .auditor "auk_" workspaceId none

def createServiceOperatorKey (config : Config) : KeyInput → Instant → Action CreatedLocalKey :=
  createLocalKey config .serviceOperator "sok_" "*" none

def createPepKey (config : Config) (workspaceId pepId : String) :
    KeyInput → Instant → Action CreatedLocalKey :=
  createLocalKey config .resourceServer "pep_" workspaceId (some pepId)

/-- Rotations create their key with nothing brought along. -/
theorem createLocalKey_eq_createKey
    (config : Config)
    (keyType : KeyType)
    (rawPrefix workspaceId : String)
    (agentId : Option String)
    (tokens : KeyTokens)
    (now : Instant) :
    createLocalKey config keyType rawPrefix workspaceId agentId { tokens } now =
      createKey config keyType rawPrefix workspaceId agentId tokens now := by
  have starts : rawPrefix.toList <+: (rawPrefix ++ tokens.secret).toList := by
    rw [String.toList_append]
    exact List.prefix_append _ _
  have valid : validatePrefix (rawPrefix ++ tokens.secret) rawPrefix = .ok () := if_pos starts
  simp only [createLocalKey, presentText, Option.getD_none, valid]
  rfl

/-! ## Lookup -/

/-- The row of a raw key. -/
def findByHash (keys : Dict String LocalKeyRecord) (keyHash : String) : Option LocalKeyRecord :=
  keys.values.find? fun record => record.keyHash = keyHash

/-- `UPDATE` of the last use of a key, if there is a row. -/
def markUsed (keyId : String) (now : Instant) (control : ControlState) : ControlState :=
  match control.keys.get? keyId with
  | none => control
  | some record =>
      { control with
        keys := control.keys.set keyId { record with lastUsedAt := some (isoformat now) } }

def getByRawKey
    (config : Config)
    (rawKey : String)
    (now : Instant)
    (touch : Bool) : Action (Option LocalKeyRecord) := do
  match ← controlQuery fun control => findByHash control.keys (config.hashKey rawKey) with
  | none => return none
  | some record =>
      if !touch || record.status ≠ .active then return some record
      else
        writeScope .operational (controlStatement fun control =>
          .ok ((), markUsed record.keyId now control))
        return some { record with lastUsedAt := some (isoformat now) }

/-! ## Seeding -/

def minSeededKeySecretLength : Nat := 32

def validateSeededKey (rawKey expectedPrefix : String) : Except ControlError Unit := do
  validatePrefix rawKey expectedPrefix
  let secret := rawKey.toList.drop expectedPrefix.toList.length
  Fallible.ensure (minSeededKeySecretLength ≤ secret.length)
    (.value ("seeded key secret must be at least " ++ toString minSeededKeySecretLength ++
      " characters"))

def requireCompatible
    (record : LocalKeyRecord)
    (keyType : KeyType)
    (workspaceId : String)
    (agentId : Option String) : Except ControlError Unit := do
  Fallible.ensure (record.status = .active) (.value "key is revoked")
  Fallible.ensure
    (record.keyType = keyType ∧ record.workspaceId = workspaceId ∧ record.agentId = agentId)
    (.value "key has incompatible identity")

/-- The key as it is stored, or as it is created now. -/
def ensureKey
    (config : Config)
    (keyType : KeyType)
    (rawPrefix workspaceId : String)
    (agentId : Option String)
    (rawKey : String)
    (tokens : KeyTokens)
    (now : Instant) : Action LocalKeyRecord := do
  check (validateSeededKey rawKey rawPrefix)
  match ← getByRawKey config rawKey now false with
  | some existing =>
      check (requireCompatible existing keyType workspaceId agentId)
      return existing
  | none =>
      let created ← createLocalKey config keyType rawPrefix workspaceId agentId
        { rawKey := some rawKey, tokens } now
      return created.record

def ensureWorkspaceKey (config : Config) (workspaceId : String) :
    String → KeyTokens → Instant → Action LocalKeyRecord :=
  ensureKey config .workspace "wsk_" workspaceId none

def ensureAgentKey (config : Config) (workspaceId agentId : String) :
    String → KeyTokens → Instant → Action LocalKeyRecord :=
  ensureKey config .agent "aak_" workspaceId (some agentId)

def ensurePepKey (config : Config) (workspaceId pepId : String) :
    String → KeyTokens → Instant → Action LocalKeyRecord :=
  ensureKey config .resourceServer "pep_" workspaceId (some pepId)

/-! ## Resolution -/

structure WorkspaceIdentity where
  workspaceId : String
  deriving DecidableEq, Repr

structure AgentIdentity where
  workspaceId : String
  agentId : String
  deriving DecidableEq, Repr

structure PepIdentity where
  workspaceId : String
  pepId : String
  deriving DecidableEq, Repr

/-- What the record of a raw key says, if the key is active and of a type. -/
def resolveAs
    (config : Config)
    (keyType : KeyType)
    (identify : LocalKeyRecord → Option ι)
    (rawKey : String)
    (now : Instant) : Action (Option ι) := do
  let record ← getByRawKey config rawKey now true
  return record.bind fun record =>
    if record.status ≠ .active || record.keyType ≠ keyType then none else identify record

def resolveWorkspaceIdentity (config : Config) :
    String → Instant → Action (Option WorkspaceIdentity) :=
  resolveAs config .workspace fun record => some ⟨record.workspaceId⟩

def resolveAuditorIdentity (config : Config) :
    String → Instant → Action (Option WorkspaceIdentity) :=
  resolveAs config .auditor fun record => some ⟨record.workspaceId⟩

/-- Service operators have no identity beyond being one. -/
def resolveServiceOperator (config : Config) (rawKey : String) (now : Instant) : Action Bool :=
  Option.isSome <$> resolveAs config .serviceOperator (fun _ => some ()) rawKey now

def resolveAgentIdentity (config : Config) :
    String → Instant → Action (Option AgentIdentity) :=
  resolveAs config .agent fun record => record.agentId.map fun agentId =>
    ⟨record.workspaceId, agentId⟩

def resolvePepIdentity (config : Config) :
    String → Instant → Action (Option PepIdentity) :=
  resolveAs config .resourceServer fun record => record.agentId.map fun pepId =>
    ⟨record.workspaceId, pepId⟩

/-! ## Operations -/

inductive KeyOperation
  | createWorkspaceKey (workspaceId : String) (input : KeyInput) (now : Instant)
  | createAgentKey (workspaceId agentId : String) (input : KeyInput) (now : Instant)
  | createAuditorKey (workspaceId : String) (input : KeyInput) (now : Instant)
  | createServiceOperatorKey (input : KeyInput) (now : Instant)
  | createPepKey (workspaceId pepId : String) (input : KeyInput) (now : Instant)
  | ensureWorkspaceKey (workspaceId rawKey : String) (tokens : KeyTokens) (now : Instant)
  | ensureAgentKey (workspaceId agentId rawKey : String) (tokens : KeyTokens) (now : Instant)
  | ensurePepKey (workspaceId pepId rawKey : String) (tokens : KeyTokens) (now : Instant)
  | rotateWorkspaceKey (workspaceId : String) (tokens : KeyTokens) (now : Instant)
      (enforcingPrincipal : Option String)
  | rotateAuditorKey (workspaceId : String) (tokens : KeyTokens) (now : Instant)
      (enforcingPrincipal : Option String)
  | rotateServiceOperatorKey (tokens : KeyTokens) (now : Instant)
      (enforcingPrincipal : Option String)
  | rotateAgentKey (workspaceId agentId : String) (tokens : KeyTokens) (now : Instant)
      (enforcingPrincipal : Option String)
  | rotatePepKey (workspaceId pepId : String) (tokens : KeyTokens) (now : Instant)
      (enforcingPrincipal : Option String)
  | revokeKey (keyId : String) (now : Instant)
  | revokeLocalKey (eventId keyId : String) (now : Instant) (enforcingPrincipal : Option String)
  | createPepLocalKey (tokens : KeyTokens) (workspaceId pepId : String) (now : Instant)
      (enforcingPrincipal : Option String)
  | resolveWorkspaceIdentity (rawKey : String) (now : Instant)
  | resolveAuditorIdentity (rawKey : String) (now : Instant)
  | resolveServiceOperator (rawKey : String) (now : Instant)
  | resolveAgentIdentity (rawKey : String) (now : Instant)
  | resolvePepIdentity (rawKey : String) (now : Instant)

inductive KeyReply
  | created (key : CreatedLocalKey)
  | record (record : Option LocalKeyRecord)
  | rotated (result : RotationResult)
  | workspace (identity : Option WorkspaceIdentity)
  | serviceOperator (isOperator : Bool)
  | agent (identity : Option AgentIdentity)
  | pep (identity : Option PepIdentity)
  deriving DecidableEq, Repr

def KeyOperation.script (config : Config) : KeyOperation → Action KeyReply
  | .createWorkspaceKey workspaceId input now =>
      .created <$> Control.createWorkspaceKey config workspaceId input now
  | .createAgentKey workspaceId agentId input now =>
      .created <$> Control.createAgentKey config workspaceId agentId input now
  | .createAuditorKey workspaceId input now =>
      .created <$> Control.createAuditorKey config workspaceId input now
  | .createServiceOperatorKey input now =>
      .created <$> Control.createServiceOperatorKey config input now
  | .createPepKey workspaceId pepId input now =>
      .created <$> Control.createPepKey config workspaceId pepId input now
  | .ensureWorkspaceKey workspaceId rawKey tokens now =>
      (.record ∘ some) <$> Control.ensureWorkspaceKey config workspaceId rawKey tokens now
  | .ensureAgentKey workspaceId agentId rawKey tokens now =>
      (.record ∘ some) <$> Control.ensureAgentKey config workspaceId agentId rawKey tokens now
  | .ensurePepKey workspaceId pepId rawKey tokens now =>
      (.record ∘ some) <$> Control.ensurePepKey config workspaceId pepId rawKey tokens now
  | .rotateWorkspaceKey workspaceId tokens now enforcingPrincipal =>
      .rotated <$> Control.rotateWorkspaceKey config workspaceId tokens now enforcingPrincipal
  | .rotateAuditorKey workspaceId tokens now enforcingPrincipal =>
      .rotated <$> Control.rotateAuditorKey config workspaceId tokens now enforcingPrincipal
  | .rotateServiceOperatorKey tokens now enforcingPrincipal =>
      .rotated <$> Control.rotateServiceOperatorKey config tokens now enforcingPrincipal
  | .rotateAgentKey workspaceId agentId tokens now enforcingPrincipal =>
      .rotated <$> Control.rotateAgentKey config workspaceId agentId tokens now enforcingPrincipal
  | .rotatePepKey workspaceId pepId tokens now enforcingPrincipal =>
      .rotated <$> Control.rotatePepKey config workspaceId pepId tokens now enforcingPrincipal
  | .revokeKey keyId now => .record <$> Control.revokeKey keyId now
  | .revokeLocalKey eventId keyId now enforcingPrincipal =>
      .record <$> Control.revokeLocalKey config eventId keyId now enforcingPrincipal
  | .createPepLocalKey tokens workspaceId pepId now enforcingPrincipal =>
      .created <$> Control.createPepLocalKey config tokens workspaceId pepId now enforcingPrincipal
  | .resolveWorkspaceIdentity rawKey now =>
      .workspace <$> Control.resolveWorkspaceIdentity config rawKey now
  | .resolveAuditorIdentity rawKey now =>
      .workspace <$> Control.resolveAuditorIdentity config rawKey now
  | .resolveServiceOperator rawKey now =>
      .serviceOperator <$> Control.resolveServiceOperator config rawKey now
  | .resolveAgentIdentity rawKey now =>
      .agent <$> Control.resolveAgentIdentity config rawKey now
  | .resolvePepIdentity rawKey now =>
      .pep <$> Control.resolvePepIdentity config rawKey now

/-- The repository as a machine that executes one operation after the other. -/
def keyMachine (config : Config) :
    Machine (Session Database Nat) KeyOperation (Except ControlError KeyReply) where
  step := fun operation session => (operation.script config).exec session

/-- The raw key that an operation resolves. -/
def KeyOperation.resolves : KeyOperation → Option String
  | .resolveWorkspaceIdentity rawKey _ | .resolveAuditorIdentity rawKey _
  | .resolveServiceOperator rawKey _ | .resolveAgentIdentity rawKey _
  | .resolvePepIdentity rawKey _ => some rawKey
  | _ => none

/-- The reply carries an identity. -/
def KeyReply.identifies : KeyReply → Bool
  | .workspace identity => identity.isSome
  | .serviceOperator isOperator => isOperator
  | .agent identity => identity.isSome
  | .pep identity => identity.isSome
  | _ => false

/-- The keys that a rotation replaces: one type of key of a workspace, and of one agent
or enforcement point where the rotation is for one. -/
structure RotationScope where
  keyType : KeyType
  workspaceId : String
  agentId : Option String
  deriving DecidableEq, Repr

/-- The key is in the scope, whatever its status. -/
def RotationScope.Covers (scope : RotationScope) (record : LocalKeyRecord) : Prop :=
  record.keyType = scope.keyType ∧ record.workspaceId = scope.workspaceId ∧
    ∀ agentId ∈ scope.agentId, record.agentId = some agentId

/-- The scope that an operation rotates. -/
def KeyOperation.rotates : KeyOperation → Option RotationScope
  | .rotateWorkspaceKey workspaceId _ _ _ => some ⟨.workspace, workspaceId, none⟩
  | .rotateAuditorKey workspaceId _ _ _ => some ⟨.auditor, workspaceId, none⟩
  | .rotateServiceOperatorKey _ _ _ => some ⟨.serviceOperator, "*", none⟩
  | .rotateAgentKey workspaceId agentId _ _ _ => some ⟨.agent, workspaceId, some agentId⟩
  | .rotatePepKey workspaceId pepId _ _ _ => some ⟨.resourceServer, workspaceId, some pepId⟩
  | _ => none

end Control
end Vinctor
