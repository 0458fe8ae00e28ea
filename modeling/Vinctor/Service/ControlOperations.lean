import Vinctor.Service.ControlAuditor

/-!
# Control operations

Registration and status of boundaries, revocation, creation and rotation of keys,
and application and rollback of a policy, over the audited repositories.  Key
operations must own their transaction; the application of a policy is a composite.
-/

namespace Vinctor
namespace Control

open Foundation
open AuditChain
open Script

/-! ## Boundaries -/

/-- `INSERT … ON CONFLICT(boundary_id) DO UPDATE`.  The name is unique within the
workspace of the new row. -/
def upsertBoundary (boundaries : Dict String Boundary) (boundary : Boundary) :
    Except ControlError (Dict String Boundary) :=
  if boundaries.entries.any fun entry => entry.1 ≠ boundary.boundaryId ∧
      entry.2.workspaceId = boundary.workspaceId ∧ entry.2.name = boundary.name then
    .error .integrity
  else .ok (boundaries.set boundary.boundaryId boundary)

inductive BoundaryOperation
  | register
  | enable
  | disable
  deriving DecidableEq, Repr

/-- Type and action of the event of a boundary operation. -/
def boundaryControlOperation : BoundaryOperation → String × String
  | .register => ("boundary_registered", "register_boundary")
  | .enable => ("boundary_status_changed", "enable_boundary")
  | .disable => ("boundary_status_changed", "disable_boundary")

def boundaryStatusText : BoundaryStatus → String
  | .active => "active"
  | .disabled => "disabled"

def addAudited
    (config : Config)
    (eventId : String)
    (boundary : Boundary)
    (operation : BoundaryOperation)
    (enforcingPrincipal : Option String) : Action Boundary := do
  match presentText enforcingPrincipal with
  | none => raise (.value "enforcing_principal is required for an audited boundary mutation")
  | some principal =>
      writeScope .operational do
        controlStatement fun control => do
          let boundaries ← upsertBoundary control.boundaries boundary
          return ((), { control with boundaries })
        record config
          { eventId
            eventType := (boundaryControlOperation operation).1
            workspaceId := boundary.workspaceId
            action := (boundaryControlOperation operation).2
            resource := "boundary/" ++ boundary.boundaryId
            reason := "status=" ++ boundaryStatusText boundary.status
            boundaryId := some boundary.boundaryId
            now := boundary.updatedAt
            enforcingPrincipal := some principal }
      return boundary

def registerBoundary
    (config : Config)
    (eventId : String)
    (registration : BoundaryRegistrationInput)
    (now : Instant)
    (boundaryId : Option String)
    (token : String)
    (enforcingPrincipal : Option String) : Action Boundary := do
  match Registry.parseMode registration.mode with
  | none => raise (.value "boundary mode must be fail_closed")
  | some mode =>
      match Registry.parseStatus registration.status with
      | none => raise (.value "boundary status must be active or disabled")
      | some status =>
          let taken ← controlQuery fun control =>
            Registry.hasBoundaryName control.boundaries registration.workspaceId
              registration.name
          if taken then
            raise (.value "boundary name must be unique within workspace")
          else
            addAudited config eventId
              { boundaryId := (presentText boundaryId).getD (Registry.newBoundaryId token)
                workspaceId := registration.workspaceId
                name := registration.name
                runtime := registration.runtime
                boundaryType := registration.boundaryType
                mode
                status
                createdAt := now
                updatedAt := now }
              .register enforcingPrincipal

/-- Change a boundary of the workspace, if there is one. -/
def changeBoundary
    (config : Config)
    (operation : BoundaryOperation)
    (change : Boundary → Boundary)
    (eventId boundaryId workspaceId : String)
    (enforcingPrincipal : Option String) : Action (Option Boundary) := do
  let found ← controlQuery fun control =>
    Registry.getBoundaryForWorkspace control.boundaries boundaryId workspaceId
  match found with
  | none => return none
  | some boundary =>
      let changed ← addAudited config eventId (change boundary) operation enforcingPrincipal
      return some changed

def disableBoundary
    (config : Config)
    (eventId boundaryId workspaceId : String)
    (now : Instant)
    (enforcingPrincipal : Option String) : Action (Option Boundary) :=
  changeBoundary config .disable (·.withStatus .disabled now) eventId boundaryId workspaceId
    enforcingPrincipal

/-- Enabling an active boundary writes it again as it is. -/
def enableBoundary
    (config : Config)
    (eventId boundaryId workspaceId : String)
    (now : Instant)
    (enforcingPrincipal : Option String) : Action (Option Boundary) :=
  changeBoundary config .enable
    (fun boundary =>
      if boundary.status = .active then boundary else boundary.withStatus .active now)
    eventId boundaryId workspaceId enforcingPrincipal

/-! ## Keys -/

/-- The text up to the first underscore, if there is one. -/
def keyPrefix (rawKey : String) : String :=
  match rawKey.toList.span (· ≠ '_') with
  | (_, []) => ""
  | (before, _ :: _) => String.ofList (before ++ ['_'])

structure CreatedLocalKey where
  rawKey : String
  record : LocalKeyRecord
  deriving DecidableEq, Repr

/-- `INSERT` of a key: its identifier and its hash are unique. -/
def insertKey (keys : Dict String LocalKeyRecord) (record : LocalKeyRecord) :
    Except ControlError (Dict String LocalKeyRecord) :=
  if (keys.get? record.keyId).isSome ∨
      keys.entries.any fun entry => entry.2.keyHash = record.keyHash then
    .error .integrity
  else .ok (keys.set record.keyId record)

/-- Random parts of an operation on keys. -/
structure KeyTokens where
  eventId : String
  keyId : String
  secret : String
  deriving DecidableEq, Repr

/-- Create a key of a type, from its prefix and a fresh secret. -/
def createKey
    (config : Config)
    (keyType : KeyType)
    (rawPrefix workspaceId : String)
    (agentId : Option String)
    (tokens : KeyTokens)
    (now : Instant) : Action CreatedLocalKey := do
  let rawKey := rawPrefix ++ tokens.secret
  let record : LocalKeyRecord :=
    { keyId := "lkey_" ++ tokens.keyId
      keyType
      workspaceId
      agentId
      keyHash := config.hashKey rawKey
      keyPrefix := keyPrefix rawKey
      status := .active
      createdAt := isoformat now }
  writeScope .operational do
    controlStatement fun control => do
      let keys ← insertKey control.keys record
      return ((), { control with keys })
  return { rawKey, record }

/-- Keys of a workspace by their creation and identifier. -/
def listForWorkspace (control : ControlState) (workspaceId : String) : List LocalKeyRecord :=
  (control.keys.values.filter fun record => record.workspaceId = workspaceId).insertionSort
    fun first second => first.createdAt < second.createdAt ∨
      first.createdAt = second.createdAt ∧ first.keyId ≤ second.keyId

def getById (keyId : String) : Action (Option LocalKeyRecord) :=
  controlQuery fun control => control.keys.get? keyId

def LocalKeyRecord.revoke (now : Instant) (record : LocalKeyRecord) : LocalKeyRecord :=
  { record with status := .revoked, revokedAt := some (isoformat now) }

/-- `UPDATE` of the row of a key, if there is one. -/
def markRevoked (keyId : String) (now : Instant) (control : ControlState) : ControlState :=
  match control.keys.get? keyId with
  | none => control
  | some record => { control with keys := control.keys.set keyId (record.revoke now) }

def revokeKey (keyId : String) (now : Instant) : Action (Option LocalKeyRecord) := do
  match ← getById keyId with
  | none => return none
  | some record =>
      if record.status = .revoked then return some record
      else
        writeScope .operational (controlStatement fun control =>
          .ok ((), markRevoked keyId now control))
        return some (record.revoke now)

/-- The transaction of a key operation, which refuses to join another one. -/
def keyTransaction (script : Action α) : Action α := do
  let isOpen ← inTransaction
  if isOpen then
    raise (.runtime ("key rotation cannot run inside an open transaction; it must own its " ++
      "transaction so the plaintext is returned only after commit"))
  else transaction .operational script

def revokeLocalKey
    (config : Config)
    (eventId keyId : String)
    (now : Instant)
    (enforcingPrincipal : Option String) : Action (Option LocalKeyRecord) :=
  keyTransaction do
    match ← getById keyId with
    | none => return none
    | some existing =>
        if existing.status = .revoked then return some existing
        else
          let revoked ← revokeKey keyId now
          record config
            { eventId
              eventType := "key_revoked"
              workspaceId := existing.workspaceId
              action := "revoke_key"
              resource := "key/" ++ existing.keyType.code ++ "/" ++ keyId
              reason := "status=revoked"
              now
              enforcingPrincipal }
          return revoked

def createPepLocalKey
    (config : Config)
    (tokens : KeyTokens)
    (workspaceId pepId : String)
    (now : Instant)
    (enforcingPrincipal : Option String) : Action CreatedLocalKey :=
  keyTransaction do
    let created ← createKey config .resourceServer "pep_" workspaceId (some pepId) tokens now
    record config
      { eventId := tokens.eventId
        eventType := "key_created"
        workspaceId
        agentId := pepId
        action := "create_pep_key"
        resource := "key/" ++ created.record.keyType.code ++ "/" ++ created.record.keyId
        reason := "status=active"
        now
        enforcingPrincipal }
    return created

structure RotationResult where
  rawKey : String
  newKeyId : String
  revokedKeyIds : List String
  deriving DecidableEq, Repr

/-- Active keys of the workspace other than the new one that a rotation replaces. -/
def priorKeys
    (control : ControlState)
    (workspaceId newKeyId : String)
    (keep : LocalKeyRecord → Bool) : List LocalKeyRecord :=
  (listForWorkspace control workspaceId).filter fun record =>
    record.keyId ≠ newKeyId && record.status = .active && keep record

def revokePrior
    (workspaceId newKeyId : String)
    (keep : LocalKeyRecord → Bool)
    (now : Instant) : Action (List String) := do
  let records ← controlQuery fun control => priorKeys control workspaceId newKeyId keep
  records.forM fun record => do
    let _ ← revokeKey record.keyId now
  return records.map (·.keyId)

/-- What sets one rotation apart from another. -/
structure Rotation where
  keyType : KeyType
  rawPrefix : String
  workspaceId : String
  agentId : Option String
  action : String
  deriving DecidableEq, Repr

/-- Mint a key and revoke the active keys of its type and agent. -/
def rotateKey
    (config : Config)
    (rotation : Rotation)
    (tokens : KeyTokens)
    (now : Instant)
    (enforcingPrincipal : Option String) : Action RotationResult :=
  keyTransaction do
    let created ← createKey config rotation.keyType rotation.rawPrefix rotation.workspaceId
      rotation.agentId tokens now
    let revoked ← revokePrior rotation.workspaceId created.record.keyId
      (fun record => record.keyType = rotation.keyType &&
        rotation.agentId.all fun agentId => record.agentId = some agentId) now
    record config
      { eventId := tokens.eventId
        eventType := "key_rotated"
        workspaceId := rotation.workspaceId
        agentId := rotation.agentId.getD ""
        action := rotation.action
        resource := "key/" ++ created.record.keyType.code ++ "/" ++ created.record.keyId
        reason := "revoked=" ++ toString revoked.length
        now
        enforcingPrincipal }
    return { rawKey := created.rawKey, newKeyId := created.record.keyId, revokedKeyIds := revoked }

def rotateWorkspaceKey (config : Config) (workspaceId : String) :
    KeyTokens → Instant → Option String → Action RotationResult :=
  rotateKey config
    { keyType := .workspace
      rawPrefix := "wsk_"
      workspaceId
      agentId := none
      action := "rotate_workspace_key" }

def rotateAuditorKey (config : Config) (workspaceId : String) :
    KeyTokens → Instant → Option String → Action RotationResult :=
  rotateKey config
    { keyType := .auditor
      rawPrefix := "auk_"
      workspaceId
      agentId := none
      action := "rotate_auditor_key" }

def rotateServiceOperatorKey (config : Config) :
    KeyTokens → Instant → Option String → Action RotationResult :=
  rotateKey config
    { keyType := .serviceOperator
      rawPrefix := "sok_"
      workspaceId := "*"
      agentId := none
      action := "rotate_service_operator_key" }

def rotateAgentKey (config : Config) (workspaceId agentId : String) :
    KeyTokens → Instant → Option String → Action RotationResult :=
  rotateKey config
    { keyType := .agent
      rawPrefix := "aak_"
      workspaceId
      agentId := some agentId
      action := "rotate_agent_key" }

def rotatePepKey (config : Config) (workspaceId pepId : String) :
    KeyTokens → Instant → Option String → Action RotationResult :=
  rotateKey config
    { keyType := .resourceServer
      rawPrefix := "pep_"
      workspaceId
      agentId := some pepId
      action := "rotate_pep_key" }

/-! ## Policies -/

/-- The rule of a document as it will be written. -/
def prepareRule
    (config : Config)
    (workspaceId appliedBy : String)
    (now : Instant)
    (parsed : Policy.ParsedRule) : Action (String × Policy.RuleRow String) := do
  parsed.allowedScopes.forM fun scope =>
    check (Fallible.ensure (Scope.isValidGrantScope scope)
      (.value ("invalid allowed scope: " ++ scope)))
  let ruleId := parsed.ruleId.getD (config.stableRuleId workspaceId parsed)
  let existing ← getRule ruleId
  return (ruleId,
    { workspaceId
      name := parsed.name
      targetAgentId := parsed.targetAgentId
      allowedScopes := parsed.allowedScopes
      maxTtlSeconds := parsed.maxTtlSeconds
      status := parsed.status
      createdBy := (existing.map (·.createdBy)).getD appliedBy
      createdAt := (existing.map (·.createdAt)).getD (isoformat now)
      updatedBy := existing.map fun _ => appliedBy
      updatedAt := existing.map fun _ => isoformat now })

def upsertAutoApprovalRule
    (config : Config)
    (now : Instant)
    (rule : String × Policy.RuleRow String) : Action Policy.UpsertAction := do
  check ((AutoApproval.validateRule (rule.2.untimed rule.1)).mapError .value)
  match ← getRule rule.1 with
  | none =>
      addRule config "" rule.1 rule.2 now
      return .created
  | some existing =>
      if existing.workspaceId ≠ rule.2.workspaceId then
        raise (.value "auto-approval rule_id belongs to another workspace")
      else
        updateRule config "" rule.1 rule.2 now
        return .updated

/-- The number of the next version, three reads for the snapshot, and its row. -/
def insertPolicyVersion
    (config : Config)
    (workspaceId : String)
    (action : Policy.PolicyAction)
    (sourceVersion : Option Nat)
    (appliedBy : String)
    (now : Instant) : Action Nat := do
  controlQuery fun _ => ()
  [(), (), ()].forM fun _ => controlQuery fun _ => ()
  controlStatement fun control => do
    let (version, policy) ← (Policy.insertPolicyVersion config.backend workspaceId action
      sourceVersion appliedBy (isoformat now) control.policy).mapError .policy
    return (version, { control with policy })

/-- The event identifiers of the parts are never used: their events are suppressed. -/
def applyPolicyDocument
    (config : Config)
    (document : Policy.PolicyDocument)
    (workspaceId appliedBy : String)
    (now : Instant) : Action Policy.PolicyApplyResult := do
  document.agentBounds.forM fun parsed =>
    check ((Grants.validateIssuableScopeBounds parsed.scopes
      parsed.maxTtlSeconds).mapError .value)
  let prepared ← document.autoApprovalRules.mapM (prepareRule config workspaceId appliedBy now)
  document.agentBounds.forM fun parsed =>
    setBounds config ""
      { workspaceId
        agentId := parsed.agentId
        scopes := parsed.scopes
        maxTtlSeconds := parsed.maxTtlSeconds
        clearMaxTtl := parsed.maxTtlDeclared && parsed.maxTtlSeconds.isNone }
      now (some appliedBy)
  let actions ← prepared.mapM (upsertAutoApprovalRule config now)
  document.requireBoundaryWorkspace.toList.forM fun required =>
    setRequireBoundary config "" workspaceId "" required now (some appliedBy)
  document.requireBoundaryAgents.forM fun agentId =>
    setRequireBoundary config "" workspaceId agentId true now (some appliedBy)
  let version ← insertPolicyVersion config workspaceId .apply none appliedBy now
  return {
    workspaceId
    boundsSet := document.agentBounds.length
    rulesCreated := actions.count .created
    rulesUpdated := actions.count .updated
    policyVersion := version }

/-- Apply a document that may name its workspace. -/
def applyPolicyFile
    (config : Config)
    (eventId : String)
    (documentWorkspaceId : Option String)
    (document : Policy.PolicyDocument)
    (workspaceId appliedBy : String)
    (now : Instant) : Action Policy.PolicyApplyResult := do
  check (Fallible.ensure (documentWorkspaceId.all (· = workspaceId))
    (.value "policy workspace_id does not match selected workspace"))
  transaction .operational (composite config do
    let result ← applyPolicyDocument config document workspaceId appliedBy now
    return (result, some
      { eventId
        eventType := "policy_applied"
        workspaceId
        action := "policy_apply"
        resource := "policy/version/" ++ toString result.policyVersion
        reason := "bounds_set=" ++ toString result.boundsSet ++
          " rules_created=" ++ toString result.rulesCreated ++
          " rules_updated=" ++ toString result.rulesUpdated
        now
        enforcingPrincipal := some appliedBy }))

/-- The statements of a restore. -/
def restorePolicySnapshot
    (config : Config)
    (workspaceId : String)
    (snapshot : Policy.PolicySnapshot)
    (now : Instant) : Action Unit := do
  policyStatement fun policy =>
    .ok { policy with bounds := policy.bounds.filter fun key _ => key.1 ≠ workspaceId }
  snapshot.agentBounds.forM fun entry => policyStatement fun policy => do
    let row ← Policy.restoredBound config.backend workspaceId entry
    let bounds ← Fallible.require (policy.bounds.insert? row.1 row.2) .integrity
    return { policy with bounds }
  policyStatement fun policy =>
    .ok { policy with rules := policy.rules.filter fun _ row => row.workspaceId ≠ workspaceId }
  snapshot.autoApprovalRules.forM fun entry => policyStatement fun policy => do
    let row ← Policy.restoredRule config.backend workspaceId entry
    let rules ← Fallible.require (policy.rules.insert? row.1 row.2) .integrity
    return { policy with rules }
  policyStatement fun policy =>
    .ok { policy with
      settings := policy.settings.mapValues
        (Policy.clearBoundarySetting workspaceId (isoformat now)) }
  policyStatement fun policy =>
    .ok { policy with
      settings := policy.settings.filter fun key row =>
        !Policy.removesSetting config.backend workspaceId
          (snapshot.requireBoundarySettings.map (·.agentId)) key row }
  snapshot.requireBoundarySettings.forM fun entry => policyStatement fun policy =>
    .ok { policy with
      settings := Policy.restoreSetting workspaceId (isoformat now) policy.settings entry }

def rollbackPolicyVersion
    (config : Config)
    (eventId workspaceId : String)
    (version : Nat)
    (appliedBy : String)
    (now : Instant) : Action Nat :=
  transaction .operational do
    match ← controlQuery fun control => control.policy.versions.get? (workspaceId, version) with
    | none => raise (.value ("unknown policy version: " ++ toString version))
    | some row =>
        let snapshot ← check ((Policy.validatedPolicySnapshot row.snapshot).mapError .policy)
        restorePolicySnapshot config workspaceId snapshot now
        let newVersion ← insertPolicyVersion config workspaceId .rollback (some version) appliedBy
          now
        record config
          { eventId
            eventType := "policy_rolled_back"
            workspaceId
            action := "policy_rollback"
            resource := "policy/version/" ++ toString newVersion
            reason := "restored_version=" ++ toString version
            now
            enforcingPrincipal := some appliedBy }
        return newVersion

/-! ## Operations -/

/-- Control operations with their arguments and the random parts of their events,
boundaries and keys. -/
inductive Operation
  | setBounds (eventId : String) (input : Grants.SetBoundsInput) (now : Instant)
      (enforcingPrincipal : Option String)
  | setRequireBoundary (eventId workspaceId agentId : String) (required : Bool) (now : Instant)
      (enforcingPrincipal : Option String)
  | setRequireSubjectToken (eventId workspaceId agentId : String) (required : Bool)
      (now : Instant) (enforcingPrincipal : Option String)
  | setRequirePop (eventId workspaceId agentId : String) (required : Bool) (now : Instant)
      (enforcingPrincipal : Option String)
  | addRule (eventId ruleId : String) (rule : Policy.RuleRow Instant)
  | updateRule (eventId ruleId : String) (rule : Policy.RuleRow Instant)
  | registerBoundary (eventId : String) (registration : BoundaryRegistrationInput)
      (now : Instant) (boundaryId : Option String) (token : String)
      (enforcingPrincipal : Option String)
  | enableBoundary (eventId boundaryId workspaceId : String) (now : Instant)
      (enforcingPrincipal : Option String)
  | disableBoundary (eventId boundaryId workspaceId : String) (now : Instant)
      (enforcingPrincipal : Option String)
  | applyPolicy (eventId : String) (documentWorkspaceId : Option String)
      (document : Policy.PolicyDocument) (workspaceId appliedBy : String) (now : Instant)
  | rollbackPolicy (eventId workspaceId : String) (version : Nat) (appliedBy : String)
      (now : Instant)
  | rotateWorkspaceKey (tokens : KeyTokens) (workspaceId : String) (now : Instant)
      (enforcingPrincipal : Option String)
  | rotateAuditorKey (tokens : KeyTokens) (workspaceId : String) (now : Instant)
      (enforcingPrincipal : Option String)
  | rotateServiceOperatorKey (tokens : KeyTokens) (now : Instant)
      (enforcingPrincipal : Option String)
  | rotateAgentKey (tokens : KeyTokens) (workspaceId agentId : String) (now : Instant)
      (enforcingPrincipal : Option String)
  | rotatePepKey (tokens : KeyTokens) (workspaceId pepId : String) (now : Instant)
      (enforcingPrincipal : Option String)
  | revokeLocalKey (eventId keyId : String) (now : Instant) (enforcingPrincipal : Option String)
  | createPepLocalKey (tokens : KeyTokens) (workspaceId pepId : String) (now : Instant)
      (enforcingPrincipal : Option String)

/-- Answers of the operations. -/
inductive Reply
  | done
  | boundary (boundary : Option Boundary)
  | applied (result : Policy.PolicyApplyResult)
  | rolledBack (version : Nat)
  | rotated (result : RotationResult)
  | key (record : Option LocalKeyRecord)
  | created (key : CreatedLocalKey)
  deriving DecidableEq, Repr

def Operation.script (config : Config) : Operation → Action Reply
  | .setBounds eventId input now enforcingPrincipal =>
      (fun _ => .done) <$> Control.setBounds config eventId input now enforcingPrincipal
  | .setRequireBoundary eventId workspaceId agentId required now enforcingPrincipal =>
      (fun _ => .done) <$> Control.setRequireBoundary config eventId workspaceId agentId required
        now enforcingPrincipal
  | .setRequireSubjectToken eventId workspaceId agentId required now enforcingPrincipal =>
      (fun _ => .done) <$> Control.setRequireSubjectToken config eventId workspaceId agentId required
        now enforcingPrincipal
  | .setRequirePop eventId workspaceId agentId required now enforcingPrincipal =>
      (fun _ => .done) <$> Control.setRequirePop config eventId workspaceId agentId required
        now enforcingPrincipal
  | .addRule eventId ruleId rule =>
      (fun _ => .done) <$> Control.addRule config eventId ruleId (rule.timed isoformat)
        rule.createdAt
  | .updateRule eventId ruleId rule =>
      (fun _ => .done) <$> Control.updateRule config eventId ruleId (rule.timed isoformat)
        (rule.updatedAt.getD rule.createdAt)
  | .registerBoundary eventId registration now boundaryId token enforcingPrincipal =>
      (fun boundary => .boundary (some boundary)) <$> Control.registerBoundary config eventId
        registration now boundaryId token enforcingPrincipal
  | .enableBoundary eventId boundaryId workspaceId now enforcingPrincipal =>
      .boundary <$> Control.enableBoundary config eventId boundaryId workspaceId now
        enforcingPrincipal
  | .disableBoundary eventId boundaryId workspaceId now enforcingPrincipal =>
      .boundary <$> Control.disableBoundary config eventId boundaryId workspaceId now
        enforcingPrincipal
  | .applyPolicy eventId documentWorkspaceId document workspaceId appliedBy now =>
      .applied <$> Control.applyPolicyFile config eventId documentWorkspaceId document workspaceId
        appliedBy now
  | .rollbackPolicy eventId workspaceId version appliedBy now =>
      .rolledBack <$> Control.rollbackPolicyVersion config eventId workspaceId version appliedBy now
  | .rotateWorkspaceKey tokens workspaceId now enforcingPrincipal =>
      .rotated <$> Control.rotateWorkspaceKey config workspaceId tokens now enforcingPrincipal
  | .rotateAuditorKey tokens workspaceId now enforcingPrincipal =>
      .rotated <$> Control.rotateAuditorKey config workspaceId tokens now enforcingPrincipal
  | .rotateServiceOperatorKey tokens now enforcingPrincipal =>
      .rotated <$> Control.rotateServiceOperatorKey config tokens now enforcingPrincipal
  | .rotateAgentKey tokens workspaceId agentId now enforcingPrincipal =>
      .rotated <$> Control.rotateAgentKey config workspaceId agentId tokens now enforcingPrincipal
  | .rotatePepKey tokens workspaceId pepId now enforcingPrincipal =>
      .rotated <$> Control.rotatePepKey config workspaceId pepId tokens now enforcingPrincipal
  | .revokeLocalKey eventId keyId now enforcingPrincipal =>
      .key <$> Control.revokeLocalKey config eventId keyId now enforcingPrincipal
  | .createPepLocalKey tokens workspaceId pepId now enforcingPrincipal =>
      .created <$> Control.createPepLocalKey config tokens workspaceId pepId now enforcingPrincipal

end Control
end Vinctor
