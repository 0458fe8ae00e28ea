import Vinctor.Foundation.DictRows
import Vinctor.Service.AutoApproval
import Vinctor.Service.Grants

/-!
# Tables of the control plane

The tables that a policy describes: issuable bounds, auto-approval rules and
enforcement settings.  Two databases hold them.  They differ in how a time is
stored and in what a column admits, so the tables are generic in the type of a
stored time and a `Backend` collects the differences.

The three mandates of an agent share one row.  Each has a value and a flag that
says whether the value is set: a mandate that is not set is inherited from the
workspace, whose own settings stand under the empty agent.
-/

namespace Vinctor
namespace Policy

open Foundation
open Fallible

/-- Errors of the policy operations: a refusal with its text, a broken
constraint, or a value that a column does not admit. -/
inductive PolicyError
  | value (text : String)
  | integrity
  | data
  deriving DecidableEq, Repr

/-! ## Rows -/

structure BoundsRow (τ : Type) where
  scopes : List String
  maxTtlSeconds : Option Int
  updatedAt : τ
  deriving DecidableEq, Repr

structure RuleRow (τ : Type) where
  workspaceId : String
  name : String
  targetAgentId : String
  allowedScopes : List String
  maxTtlSeconds : Int
  status : ApprovalRuleStatus
  createdBy : String
  createdAt : τ
  updatedBy : Option String
  updatedAt : Option τ
  deriving DecidableEq, Repr

/-- A rule with another form of its times. -/
def RuleRow.timed (change : τ → σ) (row : RuleRow τ) : RuleRow σ where
  workspaceId := row.workspaceId
  name := row.name
  targetAgentId := row.targetAgentId
  allowedScopes := row.allowedScopes
  maxTtlSeconds := row.maxTtlSeconds
  status := row.status
  createdBy := row.createdBy
  createdAt := change row.createdAt
  updatedBy := row.updatedBy
  updatedAt := row.updatedAt.map change

structure SettingsRow (τ : Type) where
  requireBoundary : Bool
  requireBoundarySet : Bool
  requireSubjectToken : Bool
  requireSubjectTokenSet : Bool
  requirePop : Bool
  requirePopSet : Bool
  updatedAt : τ
  deriving DecidableEq, Repr

/-- A number of a snapshot.  A truth value is an integer of the language. -/
inductive SnapshotInteger
  | int (value : Int)
  | bool (value : Bool)
  deriving DecidableEq, Repr

def SnapshotInteger.value : SnapshotInteger → Int
  | .int value => value
  | .bool value => if value then 1 else 0

structure SnapshotBound where
  agentId : String
  scopes : List String
  maxTtlSeconds : Option SnapshotInteger
  updatedAt : String
  deriving DecidableEq, Repr

structure SnapshotRule where
  ruleId : String
  name : String
  targetAgentId : String
  allowedScopes : List String
  maxTtlSeconds : SnapshotInteger
  status : ApprovalRuleStatus
  createdBy : String
  createdAt : String
  updatedBy : Option String
  updatedAt : Option String
  deriving DecidableEq, Repr

structure SnapshotSetting where
  agentId : String
  requireBoundary : Bool
  updatedAt : String
  deriving DecidableEq, Repr

/-- What a version of a policy records of its workspace. -/
structure PolicySnapshot where
  version : Int := 1
  agentBounds : List SnapshotBound
  autoApprovalRules : List SnapshotRule
  requireBoundarySettings : List SnapshotSetting
  deriving DecidableEq, Repr

inductive PolicyAction
  | apply
  | rollback
  deriving DecidableEq, Repr

structure PolicyVersionRow (τ : Type) where
  action : PolicyAction
  sourceVersion : Option Nat
  snapshot : PolicySnapshot
  appliedBy : String
  createdAt : τ
  deriving DecidableEq, Repr

/-- Bounds and settings by workspace and agent, rules by identifier, and
versions by workspace and number. -/
structure Tables (τ : Type) where
  bounds : Dict (String × String) (BoundsRow τ)
  rules : Dict String (RuleRow τ)
  settings : Dict (String × String) (SettingsRow τ)
  versions : Dict (String × Nat) (PolicyVersionRow τ)

def Tables.empty : Tables τ where
  bounds := Dict.empty
  rules := Dict.empty
  settings := Dict.empty
  versions := Dict.empty

/-! ## Backends -/

/-- What sets one database apart from the other. -/
structure Backend (τ : Type) where
  /-- Input of a text into a time column. -/
  readTime : String → Option τ
  /-- Text of a stored time. -/
  timeText : τ → String
  readTime_timeText : ∀ time, readTime (timeText time) = some time
  timeLe : τ → τ → Bool
  textLe : String → String → Bool
  admitsText : String → Bool
  admitsInteger : SnapshotInteger → Bool
  /-- Default of the column that holds the value of the boundary mandate. -/
  requireBoundaryDefault : Bool
  /-- Whether a restore spares the rows of the agents it saved. -/
  sparesSaved : Bool

/-- SQLite keeps times as text. -/
def sqlite (requireBoundaryDefault : Bool) : Backend String where
  readTime := some
  timeText := id
  readTime_timeText := fun _ => rfl
  timeLe := fun first second => decide (first ≤ second)
  textLe := fun first second => decide (first ≤ second)
  admitsText := fun _ => true
  admitsInteger := fun number =>
    decide (-9223372036854775808 ≤ number.value ∧ number.value ≤ 9223372036854775807)
  requireBoundaryDefault
  sparesSaved := true

/-- How the server reads and writes times, and how it compares texts. -/
structure Server where
  timestamptz : String → Option Instant
  isoformat : Instant → String
  timestamptz_isoformat : ∀ instant, timestamptz (isoformat instant) = some instant
  collate : String → String → Bool

/-- Postgres has typed columns: no NUL in a text, and integers of 32 bits. -/
def postgres (server : Server) (requireBoundaryDefault : Bool) : Backend Instant where
  readTime := server.timestamptz
  timeText := server.isoformat
  readTime_timeText := server.timestamptz_isoformat
  timeLe := fun first second => decide (first ≤ second)
  textLe := server.collate
  admitsText := fun text => decide ('\x00' ∉ text.toList)
  admitsInteger := fun number =>
    match number with
    | .int value => decide (-2147483648 ≤ value ∧ value ≤ 2147483647)
    | .bool _ => false
  requireBoundaryDefault
  sparesSaved := false

/-! ## Mandates -/

/-- The value and the flag of one mandate in a row. -/
structure Mandate where
  value : {τ : Type} → SettingsRow τ → Bool
  isSet : {τ : Type} → SettingsRow τ → Bool

def Mandate.boundary : Mandate where
  value := SettingsRow.requireBoundary
  isSet := SettingsRow.requireBoundarySet

def Mandate.subjectToken : Mandate where
  value := SettingsRow.requireSubjectToken
  isSet := SettingsRow.requireSubjectTokenSet

def Mandate.pop : Mandate where
  value := SettingsRow.requirePop
  isSet := SettingsRow.requirePopSet

/-- The explicit setting of a mandate in a row. -/
def Mandate.setting (mandate : Mandate) (row : Option (SettingsRow τ)) : Option Bool :=
  (row.filter fun row => mandate.isSet row).map fun row => mandate.value row

/-- The agent's setting, else the workspace's, else the default. -/
def Mandate.resolve
    (mandate : Mandate)
    (default : Bool)
    (agent workspace : Option (SettingsRow τ)) : Bool :=
  (mandate.setting agent).getD ((mandate.setting workspace).getD default)

/-- The effective mandate of an agent. -/
def Tables.isRequired
    (mandate : Mandate)
    (default : Bool)
    (tables : Tables τ)
    (workspaceId agentId : String) : Bool :=
  mandate.resolve default (tables.settings.get? (workspaceId, agentId))
    (tables.settings.get? (workspaceId, ""))

def isBoundaryRequired (backend : Backend τ) : Tables τ → String → String → Bool :=
  Tables.isRequired .boundary backend.requireBoundaryDefault

def isSubjectTokenRequired : Tables τ → String → String → Bool :=
  Tables.isRequired .subjectToken false

def isPopRequired : Tables τ → String → String → Bool :=
  Tables.isRequired .pop false

/-! ## Setters -/

/-- The row of an agent that no setter has written yet. -/
def SettingsRow.fresh (backend : Backend τ) (now : τ) : SettingsRow τ where
  requireBoundary := backend.requireBoundaryDefault
  requireBoundarySet := false
  requireSubjectToken := false
  requireSubjectTokenSet := false
  requirePop := false
  requirePopSet := false
  updatedAt := now

/-- `INSERT … ON CONFLICT DO UPDATE` of one mandate. -/
def Tables.upsertSetting
    (backend : Backend τ)
    (workspaceId agentId : String)
    (now : τ)
    (write : SettingsRow τ → SettingsRow τ)
    (tables : Tables τ) : Except PolicyError (Tables τ) := do
  ensure (backend.admitsText workspaceId ∧ backend.admitsText agentId) .data
  let row := (tables.settings.get? (workspaceId, agentId)).getD (.fresh backend now)
  return { tables with settings := tables.settings.set (workspaceId, agentId) (write row) }

def setRequireBoundary
    (backend : Backend τ)
    (workspaceId agentId : String)
    (required : Bool)
    (now : τ) : Tables τ → Except PolicyError (Tables τ) :=
  Tables.upsertSetting backend workspaceId agentId now fun row =>
    { row with requireBoundary := required, requireBoundarySet := true, updatedAt := now }

def setRequireSubjectToken
    (backend : Backend τ)
    (workspaceId agentId : String)
    (required : Bool)
    (now : τ) : Tables τ → Except PolicyError (Tables τ) :=
  Tables.upsertSetting backend workspaceId agentId now fun row =>
    { row with requireSubjectToken := required, requireSubjectTokenSet := true, updatedAt := now }

def setRequirePop
    (backend : Backend τ)
    (workspaceId agentId : String)
    (required : Bool)
    (now : τ) : Tables τ → Except PolicyError (Tables τ) :=
  Tables.upsertSetting backend workspaceId agentId now fun row =>
    { row with requirePop := required, requirePopSet := true, updatedAt := now }

/-- Replace the bounds of an agent.  A cap that is not declared keeps the stored
one, unless it is cleared. -/
def setBounds
    (backend : Backend τ)
    (input : Grants.SetBoundsInput)
    (now : τ)
    (tables : Tables τ) : Except PolicyError (Tables τ) := do
  (Grants.validateIssuableScopeBounds input.scopes input.maxTtlSeconds).mapError .value
  (Grants.validateClearMaxTtl input.maxTtlSeconds input.clearMaxTtl).mapError .value
  ensure (backend.admitsText input.workspaceId ∧ backend.admitsText input.agentId ∧
    input.scopes.all backend.admitsText ∧
    input.maxTtlSeconds.all fun cap => backend.admitsInteger (.int cap)) .data
  let stored := (tables.bounds.get? (input.workspaceId, input.agentId)).bind (·.maxTtlSeconds)
  return { tables with
    bounds := tables.bounds.set (input.workspaceId, input.agentId)
      { scopes := input.scopes
        maxTtlSeconds := if input.clearMaxTtl then none else input.maxTtlSeconds.or stored
        updatedAt := now } }

/-! ## Rules -/

/-- The rule of a row without its times, which validation does not read. -/
def RuleRow.untimed (ruleId : String) (row : RuleRow τ) : AutoApprovalRule where
  ruleId
  workspaceId := row.workspaceId
  name := row.name
  targetAgentId := row.targetAgentId
  allowedScopes := row.allowedScopes
  maxTtlSeconds := row.maxTtlSeconds
  status := row.status
  createdBy := row.createdBy
  createdAt := 0
  updatedBy := row.updatedBy

/-- Whether the columns of a rule admit its values. -/
def RuleRow.admitted (backend : Backend τ) (ruleId : String) (row : RuleRow τ) : Bool :=
  backend.admitsText ruleId && backend.admitsText row.workspaceId &&
    backend.admitsText row.name && backend.admitsText row.targetAgentId &&
    row.allowedScopes.all backend.admitsText &&
    backend.admitsInteger (.int row.maxTtlSeconds) &&
    backend.admitsText row.createdBy && row.updatedBy.all backend.admitsText

def addRule
    (backend : Backend τ)
    (ruleId : String)
    (row : RuleRow τ)
    (tables : Tables τ) : Except PolicyError (Tables τ) := do
  ensure (tables.rules.get? ruleId = none)
    (.value ("duplicate auto-approval rule_id: " ++ ruleId))
  ensure (row.admitted backend ruleId) .data
  return { tables with rules := tables.rules.set ruleId row }

def updateRule
    (backend : Backend τ)
    (ruleId : String)
    (row : RuleRow τ)
    (tables : Tables τ) : Except PolicyError (Tables τ) := do
  ensure (tables.rules.get? ruleId ≠ none)
    (.value ("unknown auto-approval rule_id: " ++ ruleId))
  ensure (row.admitted backend ruleId) .data
  return { tables with rules := tables.rules.set ruleId row }

def createAutoApprovalRule
    (backend : Backend τ)
    (ruleId : String)
    (row : RuleRow τ)
    (tables : Tables τ) : Except PolicyError (Tables τ) := do
  (AutoApproval.validateRule (row.untimed ruleId)).mapError .value
  addRule backend ruleId row tables

/-- The row of a rule with its status disabled. -/
def RuleRow.disable (disabledBy : String) (now : τ) (row : RuleRow τ) : RuleRow τ :=
  { row with status := .disabled, updatedBy := some disabledBy, updatedAt := some now }

/-- What upserting a rule did. -/
inductive UpsertAction
  | created
  | updated
  deriving DecidableEq, Repr

def upsertAutoApprovalRule
    (backend : Backend τ)
    (ruleId : String)
    (row : RuleRow τ)
    (tables : Tables τ) : Except PolicyError (UpsertAction × Tables τ) := do
  (AutoApproval.validateRule (row.untimed ruleId)).mapError .value
  match tables.rules.get? ruleId with
  | none => return (.created, ← addRule backend ruleId row tables)
  | some existing =>
      ensure (existing.workspaceId = row.workspaceId)
        (.value "auto-approval rule_id belongs to another workspace")
      return (.updated, ← updateRule backend ruleId row tables)

end Policy
end Vinctor
