import Mathlib.Data.List.Sort
import Vinctor.Service.PolicyTables

/-!
# Versions of a policy

A policy file is applied in one transaction that ends with a snapshot of the
workspace under the next version.  A rollback restores the snapshot of a version
and records what it restored as a version of its own.  The restore deletes and
inserts bounds and rules; in the settings it takes the boundary flag from every
row, removes the rows that carry nothing else, and writes the saved flags back.

The document is modelled as parsed: the reader of the file and its checks on
types are not.
-/

namespace Vinctor
namespace Policy

open Foundation
open Fallible
open Scope

/-! ## Snapshots -/

/-- The rows of a workspace in the order of their agents. -/
def ofWorkspace
    (backend : Backend τ)
    (workspaceId : String)
    (table : Dict (String × String) ρ) : List ((String × String) × ρ) :=
  (table.entries.filter fun entry => entry.1.1 = workspaceId).insertionSort fun first second =>
    backend.textLe first.1.2 second.1.2

def boundEntry (backend : Backend τ) (entry : (String × String) × BoundsRow τ) :
    SnapshotBound where
  agentId := entry.1.2
  scopes := entry.2.scopes
  maxTtlSeconds := entry.2.maxTtlSeconds.map .int
  updatedAt := backend.timeText entry.2.updatedAt

def ruleEntry (backend : Backend τ) (entry : String × RuleRow τ) : SnapshotRule where
  ruleId := entry.1
  name := entry.2.name
  targetAgentId := entry.2.targetAgentId
  allowedScopes := entry.2.allowedScopes
  maxTtlSeconds := .int entry.2.maxTtlSeconds
  status := entry.2.status
  createdBy := entry.2.createdBy
  createdAt := backend.timeText entry.2.createdAt
  updatedBy := entry.2.updatedBy
  updatedAt := entry.2.updatedAt.map backend.timeText

def settingEntry (backend : Backend τ) (entry : (String × String) × SettingsRow τ) :
    SnapshotSetting where
  agentId := entry.1.2
  requireBoundary := entry.2.requireBoundary
  updatedAt := backend.timeText entry.2.updatedAt

/-- `ORDER BY created_at, rule_id`. -/
def rulesInOrder (backend : Backend τ) (first second : String × RuleRow τ) : Bool :=
  if backend.timeLe first.2.createdAt second.2.createdAt then
    if backend.timeLe second.2.createdAt first.2.createdAt then
      backend.textLe first.1 second.1
    else true
  else false

def snapshotPolicyState
    (backend : Backend τ)
    (workspaceId : String)
    (tables : Tables τ) : PolicySnapshot where
  agentBounds := (ofWorkspace backend workspaceId tables.bounds).map (boundEntry backend)
  autoApprovalRules :=
    ((tables.rules.entries.filter fun entry => entry.2.workspaceId = workspaceId).insertionSort
      fun first second => rulesInOrder backend first second).map (ruleEntry backend)
  requireBoundarySettings :=
    ((ofWorkspace backend workspaceId tables.settings).filter fun entry =>
      entry.2.requireBoundarySet).map (settingEntry backend)

/-- `COALESCE(MAX(version), 0)`. -/
def Tables.latestVersion (tables : Tables τ) (workspaceId : String) : Nat :=
  ((tables.versions.entries.filter fun entry => entry.1.1 = workspaceId).map
    fun entry => entry.1.2).foldr max 0

def insertPolicyVersion
    (backend : Backend τ)
    (workspaceId : String)
    (action : PolicyAction)
    (sourceVersion : Option Nat)
    (appliedBy : String)
    (now : τ)
    (tables : Tables τ) : Except PolicyError (Nat × Tables τ) := do
  let version := tables.latestVersion workspaceId + 1
  let snapshot := snapshotPolicyState backend workspaceId tables
  ensure (backend.admitsText appliedBy) .data
  return (version,
    { tables with
      versions := tables.versions.set (workspaceId, version)
        { action, sourceVersion, snapshot, appliedBy, createdAt := now } })

/-! ## Validation of a snapshot -/

def requiredString (field value : String) : Except PolicyError Unit :=
  ensure (value ≠ "") (.value (field ++ " must be a non-empty string"))

def requiredStringList (field : String) (values : List String) : Except PolicyError Unit := do
  ensure (values ≠ []) (.value (field ++ " must be a non-empty list"))
  ensure (∀ value ∈ values, value ≠ "")
    (.value (field ++ " must contain only non-empty strings"))

def validatedBound (entry : SnapshotBound) : Except PolicyError Unit := do
  requiredStringList "scopes" entry.scopes
  ensure (∀ cap ∈ entry.maxTtlSeconds, 0 < cap.value)
    (.value "invalid policy snapshot bound max_ttl_seconds")
  (Grants.validateIssuableScopeBounds entry.scopes
    (entry.maxTtlSeconds.map (·.value))).mapError .value
  requiredString "agent_id" entry.agentId
  requiredString "updated_at" entry.updatedAt

def validatedRule (entry : SnapshotRule) : Except PolicyError Unit := do
  requiredString "rule_id" entry.ruleId
  requiredString "name" entry.name
  requiredString "target_agent_id" entry.targetAgentId
  requiredString "created_by" entry.createdBy
  requiredString "created_at" entry.createdAt
  requiredStringList "allowed_scopes" entry.allowedScopes
  ensure (∀ scope ∈ entry.allowedScopes, isValidGrantScope scope = true)
    (.value "invalid policy snapshot rule scope")
  ensure (0 < entry.maxTtlSeconds.value) (.value "invalid policy snapshot rule max_ttl_seconds")
  entry.updatedBy.forM (requiredString "updated_by")
  entry.updatedAt.forM (requiredString "updated_at")

def validatedPolicySnapshot (snapshot : PolicySnapshot) :
    Except PolicyError PolicySnapshot := do
  ensure (snapshot.version = 1) (.value "unsupported policy snapshot version")
  snapshot.agentBounds.forM validatedBound
  snapshot.autoApprovalRules.forM validatedRule
  snapshot.requireBoundarySettings.forM fun entry => requiredString "updated_at" entry.updatedAt
  return snapshot

/-! ## Restore -/

/-- The row that a saved bound is inserted as. -/
def restoredBound
    (backend : Backend τ)
    (workspaceId : String)
    (entry : SnapshotBound) : Except PolicyError ((String × String) × BoundsRow τ) := do
  ensure (backend.admitsText entry.agentId ∧ entry.scopes.all backend.admitsText ∧
    entry.maxTtlSeconds.all backend.admitsInteger) .data
  let updatedAt ← require (backend.readTime entry.updatedAt) .data
  return ((workspaceId, entry.agentId),
    { scopes := entry.scopes
      maxTtlSeconds := entry.maxTtlSeconds.map (·.value)
      updatedAt })

/-- Input of an optional time. -/
def readOptionalTime (backend : Backend τ) : Option String → Except PolicyError (Option τ)
  | none => .ok none
  | some text => do return some (← require (backend.readTime text) .data)

/-- The row that a saved rule is inserted as. -/
def restoredRule
    (backend : Backend τ)
    (workspaceId : String)
    (entry : SnapshotRule) : Except PolicyError (String × RuleRow τ) := do
  ensure (backend.admitsText entry.ruleId ∧ backend.admitsText entry.name ∧
    backend.admitsText entry.targetAgentId ∧ entry.allowedScopes.all backend.admitsText ∧
    backend.admitsInteger entry.maxTtlSeconds ∧ backend.admitsText entry.createdBy ∧
    entry.updatedBy.all backend.admitsText) .data
  let createdAt ← require (backend.readTime entry.createdAt) .data
  let updatedAt ← readOptionalTime backend entry.updatedAt
  return (entry.ruleId,
    { workspaceId
      name := entry.name
      targetAgentId := entry.targetAgentId
      allowedScopes := entry.allowedScopes
      maxTtlSeconds := entry.maxTtlSeconds.value
      status := entry.status
      createdBy := entry.createdBy
      createdAt
      updatedBy := entry.updatedBy
      updatedAt })

/-- The boundary flag is taken from the rows of the workspace. -/
def clearBoundarySetting
    (workspaceId : String)
    (now : τ)
    (key : String × String)
    (row : SettingsRow τ) : SettingsRow τ :=
  if key.1 = workspaceId then { row with requireBoundarySet := false, updatedAt := now } else row

/-- Whether a restore deletes a row once the flag is taken: the values of the
other two mandates decide, not their flags. -/
def removesSetting
    (backend : Backend τ)
    (workspaceId : String)
    (savedAgentIds : List String)
    (key : String × String)
    (row : SettingsRow τ) : Bool :=
  key.1 = workspaceId && !(backend.sparesSaved && savedAgentIds.contains key.2) &&
    !row.requireBoundarySet && !row.requireSubjectToken && !row.requirePop

/-- The row of a saved boundary flag.  An existing row keeps its other columns;
the columns that an insertion leaves out have their defaults. -/
def restoredSetting
    (now : τ)
    (required : Bool)
    (existing : Option (SettingsRow τ)) : SettingsRow τ where
  requireBoundary := required
  requireBoundarySet := true
  requireSubjectToken := (existing.map (·.requireSubjectToken)).getD false
  requireSubjectTokenSet := (existing.map (·.requireSubjectTokenSet)).getD false
  requirePop := (existing.map (·.requirePop)).getD false
  requirePopSet := (existing.map (·.requirePopSet)).getD false
  updatedAt := now

/-- `INSERT … ON CONFLICT DO UPDATE` of a saved boundary flag. -/
def restoreSetting
    (workspaceId : String)
    (now : τ)
    (settings : Dict (String × String) (SettingsRow τ))
    (entry : SnapshotSetting) : Dict (String × String) (SettingsRow τ) :=
  settings.set (workspaceId, entry.agentId)
    (restoredSetting now entry.requireBoundary (settings.get? (workspaceId, entry.agentId)))

/-- The settings without the boundary flags of a workspace. -/
def clearedSettings
    (backend : Backend τ)
    (workspaceId : String)
    (savedAgentIds : List String)
    (now : τ)
    (settings : Dict (String × String) (SettingsRow τ)) :
    Dict (String × String) (SettingsRow τ) :=
  (settings.mapValues (clearBoundarySetting workspaceId now)).filter fun key row =>
    !removesSetting backend workspaceId savedAgentIds key row

def restoreSnapshot
    (backend : Backend τ)
    (workspaceId : String)
    (snapshot : PolicySnapshot)
    (now : τ)
    (tables : Tables τ) : Except PolicyError (Tables τ) := do
  let bounds ← Dict.insertAll (restoredBound backend workspaceId) .integrity
    snapshot.agentBounds (tables.bounds.filter fun key _ => key.1 ≠ workspaceId)
  let rules ← Dict.insertAll (restoredRule backend workspaceId) .integrity
    snapshot.autoApprovalRules (tables.rules.filter fun _ row => row.workspaceId ≠ workspaceId)
  ensure (snapshot.requireBoundarySettings.all fun entry => backend.admitsText entry.agentId)
    .data
  let savedAgentIds := snapshot.requireBoundarySettings.map (·.agentId)
  let settings := snapshot.requireBoundarySettings.foldl (restoreSetting workspaceId now)
    (clearedSettings backend workspaceId savedAgentIds now tables.settings)
  return { tables with bounds, rules, settings }

def rollbackPolicyVersion
    (backend : Backend τ)
    (workspaceId : String)
    (version : Nat)
    (appliedBy : String)
    (now : τ)
    (tables : Tables τ) : Except PolicyError (Nat × Tables τ) := do
  let row ← require (tables.versions.get? (workspaceId, version))
    (.value ("unknown policy version: " ++ toString version))
  let snapshot ← validatedPolicySnapshot row.snapshot
  let restored ← restoreSnapshot backend workspaceId snapshot now tables
  insertPolicyVersion backend workspaceId .rollback (some version) appliedBy now restored

/-! ## Application of a document -/

structure ParsedBounds where
  agentId : String
  scopes : List String
  maxTtlDeclared : Bool
  maxTtlSeconds : Option Int
  deriving DecidableEq, Repr

structure ParsedRule where
  ruleId : Option String
  name : String
  targetAgentId : String
  allowedScopes : List String
  maxTtlSeconds : Int
  status : ApprovalRuleStatus
  deriving DecidableEq, Repr

structure PolicyDocument where
  agentBounds : List ParsedBounds
  autoApprovalRules : List ParsedRule
  requireBoundaryWorkspace : Option Bool
  requireBoundaryAgents : List String
  deriving DecidableEq, Repr

structure PolicyApplyResult where
  workspaceId : String
  boundsSet : Nat
  rulesCreated : Nat
  rulesUpdated : Nat
  policyVersion : Nat
  deriving DecidableEq, Repr

/-- Identifier of a rule that the document leaves unnamed, from the workspace
and the rule. -/
abbrev StableRuleId := String → ParsedRule → String

/-- The rule as it will be written.  An existing rule keeps its creation. -/
def prepareRule
    (stableRuleId : StableRuleId)
    (workspaceId appliedBy : String)
    (now : τ)
    (tables : Tables τ)
    (parsed : ParsedRule) : Except PolicyError (String × RuleRow τ) := do
  parsed.allowedScopes.forM fun scope =>
    ensure (isValidGrantScope scope) (.value ("invalid allowed scope: " ++ scope))
  let ruleId := parsed.ruleId.getD (stableRuleId workspaceId parsed)
  let existing := tables.rules.get? ruleId
  return (ruleId,
    { workspaceId
      name := parsed.name
      targetAgentId := parsed.targetAgentId
      allowedScopes := parsed.allowedScopes
      maxTtlSeconds := parsed.maxTtlSeconds
      status := parsed.status
      createdBy := (existing.map (·.createdBy)).getD appliedBy
      createdAt := (existing.map (·.createdAt)).getD now
      updatedBy := existing.map fun _ => appliedBy
      updatedAt := existing.map fun _ => now })

def applyBounds
    (backend : Backend τ)
    (workspaceId : String)
    (now : τ)
    (tables : Tables τ)
    (parsed : ParsedBounds) : Except PolicyError (Tables τ) :=
  setBounds backend
    { workspaceId
      agentId := parsed.agentId
      scopes := parsed.scopes
      maxTtlSeconds := parsed.maxTtlSeconds
      clearMaxTtl := parsed.maxTtlDeclared && parsed.maxTtlSeconds.isNone } now tables

/-- Upsert a rule and count what was done. -/
def applyRule
    (backend : Backend τ)
    (state : (Nat × Nat) × Tables τ)
    (rule : String × RuleRow τ) : Except PolicyError ((Nat × Nat) × Tables τ) := do
  let (action, tables) ← upsertAutoApprovalRule backend rule.1 rule.2 state.2
  match action with
  | .created => return ((state.1.1 + 1, state.1.2), tables)
  | .updated => return ((state.1.1, state.1.2 + 1), tables)

/-- The mandate of the workspace itself, where the document has one. -/
def applyWorkspaceMandate
    (backend : Backend τ)
    (workspaceId : String)
    (required : Option Bool)
    (now : τ)
    (tables : Tables τ) : Except PolicyError (Tables τ) :=
  match required with
  | none => .ok tables
  | some required => setRequireBoundary backend workspaceId "" required now tables

/-- The writes of an application, before its version. -/
def applyWrites
    (backend : Backend τ)
    (stableRuleId : StableRuleId)
    (document : PolicyDocument)
    (workspaceId appliedBy : String)
    (now : τ)
    (tables : Tables τ) : Except PolicyError ((Nat × Nat) × Tables τ) := do
  document.agentBounds.forM fun parsed =>
    (Grants.validateIssuableScopeBounds parsed.scopes parsed.maxTtlSeconds).mapError .value
  let prepared ← document.autoApprovalRules.mapM
    (prepareRule stableRuleId workspaceId appliedBy now tables)
  let tables ← document.agentBounds.foldlM (applyBounds backend workspaceId now) tables
  let (counts, tables) ← prepared.foldlM (applyRule backend) ((0, 0), tables)
  let tables ← applyWorkspaceMandate backend workspaceId document.requireBoundaryWorkspace now
    tables
  let tables ← document.requireBoundaryAgents.foldlM
    (fun tables agentId => setRequireBoundary backend workspaceId agentId true now tables) tables
  return (counts, tables)

/-- Application of a policy file.  Nothing is written when any part raises. -/
def applyPolicyDocument
    (backend : Backend τ)
    (stableRuleId : StableRuleId)
    (document : PolicyDocument)
    (workspaceId appliedBy : String)
    (now : τ)
    (tables : Tables τ) : Except PolicyError (PolicyApplyResult × Tables τ) := do
  let (counts, tables) ←
    applyWrites backend stableRuleId document workspaceId appliedBy now tables
  let (version, tables) ←
    insertPolicyVersion backend workspaceId .apply none appliedBy now tables
  return ({
    workspaceId
    boundsSet := document.agentBounds.length
    rulesCreated := counts.1
    rulesUpdated := counts.2
    policyVersion := version }, tables)

/-! ## Runs -/

/-- Operations on the tables.  Each is one transaction, so one that raises
leaves them as they were. -/
inductive Operation (τ : Type)
  | setBounds (input : Grants.SetBoundsInput) (now : τ)
  | setRequireBoundary (workspaceId agentId : String) (required : Bool) (now : τ)
  | setRequireSubjectToken (workspaceId agentId : String) (required : Bool) (now : τ)
  | setRequirePop (workspaceId agentId : String) (required : Bool) (now : τ)
  | createRule (ruleId : String) (row : RuleRow τ)
  | updateRule (ruleId : String) (row : RuleRow τ)
  | apply (document : PolicyDocument) (workspaceId appliedBy : String) (now : τ)
  | rollback (workspaceId : String) (version : Nat) (appliedBy : String) (now : τ)

def attempt
    (backend : Backend τ)
    (stableRuleId : StableRuleId)
    (tables : Tables τ) : Operation τ → Except PolicyError (Tables τ)
  | .setBounds input now => setBounds backend input now tables
  | .setRequireBoundary workspaceId agentId required now =>
      setRequireBoundary backend workspaceId agentId required now tables
  | .setRequireSubjectToken workspaceId agentId required now =>
      setRequireSubjectToken backend workspaceId agentId required now tables
  | .setRequirePop workspaceId agentId required now =>
      setRequirePop backend workspaceId agentId required now tables
  | .createRule ruleId row => createAutoApprovalRule backend ruleId row tables
  | .updateRule ruleId row => updateRule backend ruleId row tables
  | .apply document workspaceId appliedBy now =>
      (applyPolicyDocument backend stableRuleId document workspaceId appliedBy now tables).map
        (·.2)
  | .rollback workspaceId version appliedBy now =>
      (rollbackPolicyVersion backend workspaceId version appliedBy now tables).map (·.2)

def step
    (backend : Backend τ)
    (stableRuleId : StableRuleId)
    (tables : Tables τ)
    (operation : Operation τ) : Tables τ :=
  match attempt backend stableRuleId tables operation with
  | .ok after => after
  | .error _ => tables

/-- Tables after a run. -/
def run
    (backend : Backend τ)
    (stableRuleId : StableRuleId)
    (tables : Tables τ)
    (operations : List (Operation τ)) : Tables τ :=
  operations.foldl (step backend stableRuleId) tables

end Policy
end Vinctor
