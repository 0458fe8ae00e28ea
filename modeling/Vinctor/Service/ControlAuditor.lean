import Vinctor.Core.Registry
import Vinctor.Foundation.Script
import Vinctor.Service.AuditWriting
import Vinctor.Service.RuleEdits

/-!
# Control state and its auditor

The control state of the SQLite service and the auditor through which its changes
reach the audit table.  A repository writes a change and its event in one
transaction, or joins the one that is open.  A composite operation raises the depth
of the auditor, at which the events of its parts are suppressed, and writes one
event of its own.

The depth is memory of the thread.  Statements, queries, the start and the commit of
a transaction may fail.
-/

namespace Vinctor
namespace Control

open Foundation
open AuditChain
open Script

/-! ## State -/

inductive KeyType
  | workspace
  | auditor
  | serviceOperator
  | agent
  | resourceServer
  deriving DecidableEq, Repr

def KeyType.code : KeyType → String
  | .workspace => "workspace"
  | .auditor => "auditor"
  | .serviceOperator => "service_operator"
  | .agent => "agent"
  | .resourceServer => "resource_server"

inductive KeyStatus
  | active
  | revoked
  deriving DecidableEq, Repr

structure LocalKeyRecord where
  keyId : String
  keyType : KeyType
  workspaceId : String
  agentId : Option String
  keyHash : String
  keyPrefix : String
  status : KeyStatus
  createdAt : String
  lastUsedAt : Option String := none
  revokedAt : Option String := none
  deriving DecidableEq, Repr

/-- What the operations control: the policy tables, boundaries and keys. -/
structure ControlState where
  policy : Policy.Tables String
  boundaries : Dict String Boundary
  keys : Dict String LocalKeyRecord

structure Database where
  control : ControlState
  audit : AuditTable

inductive ControlError
  | policy (error : Policy.PolicyError)
  | value (text : String)
  | runtime (text : String)
  | integrity
  | operational
  deriving DecidableEq, Repr

/-- Scripts over the database, with the depth of the auditor beside it. -/
abbrev Action := Script Database Nat ControlError

/-- What the service is configured with. -/
structure Config where
  sha256 : Bytes → Bytes
  requireBoundaryDefault : Bool
  stableRuleId : Policy.StableRuleId
  hashKey : String → String

def Config.backend (config : Config) : Policy.Backend String :=
  Policy.sqlite config.requireBoundaryDefault

/-- A statement on the control state. -/
def controlStatement (change : ControlState → Except ControlError (α × ControlState)) : Action α :=
  statement .operational fun database => do
    let (result, control) ← change database.control
    return (result, { database with control })

/-- A statement on the policy tables. -/
def policyStatement
    (change : Policy.Tables String → Except Policy.PolicyError (Policy.Tables String)) :
    Action Unit :=
  controlStatement fun control => do
    let policy ← (change control.policy).mapError .policy
    return ((), { control with policy })

def controlQuery (read : ControlState → α) : Action α :=
  query .operational fun database => read database.control

def raise (error : ControlError) : Action α := check (.error error)

/-! ## Auditor -/

/-- What a control event says. -/
structure ControlEventInput where
  eventId : String
  eventType : String
  workspaceId : String
  action : String
  resource : String
  reason : String
  now : Instant
  agentId : String := ""
  scopeAttempted : String := ""
  boundaryId : Option String := none
  enforcingPrincipal : Option String := none
  deriving DecidableEq, Repr

def buildControlAuditEvent (input : ControlEventInput) : AuditEvent where
  eventId := input.eventId
  eventType := input.eventType
  decision := .permit
  reason := input.reason
  workspaceId := input.workspaceId
  agentId := input.agentId
  grantId := ""
  grantRef := ""
  action := input.action
  resource := input.resource
  scopeAttempted := input.scopeAttempted
  scopeMatched := none
  boundaryId := input.boundaryId
  runtime := none
  boundaryType := none
  createdAt := input.now
  enforcingPrincipal := input.enforcingPrincipal
  eventClass := "control"

/-- The audit writer: it reads the head of the chain and inserts a row, in a
transaction of its own unless one is open. -/
def auditWrite (config : Config) (event : AuditEvent) : Action Unit :=
  writeScope .operational do
    query .operational fun _ => ()
    statement .operational fun database =>
      match writeEvent config.sha256 database.audit event with
      | some audit => .ok ((), { database with audit })
      | none => .error .integrity

/-- Record an event, unless a composite operation is under way. -/
def record (config : Config) (input : ControlEventInput) : Action Unit := do
  let depth ← memory
  if depth = 0 then auditWrite config (buildControlAuditEvent input) else return ()

/-- A composite operation, which answers with its result and its one event. -/
def composite
    (config : Config)
    (operation : Action (α × Option ControlEventInput)) : Action α := do
  let depth ← memory
  if depth ≠ 0 then
    raise (.runtime ("composite control operations do not nest: the enclosing " ++
      "operation records the ONE control event for everything inside it"))
  else
    let isOpen ← inTransaction
    if isOpen then
      let (result, event) ← withMemory (· + 1) operation
      match event with
      | none =>
          raise (.runtime ("composite control operation finished without recording its " ++
            "control audit event; refusing to commit an un-audited rule change"))
      | some input =>
          auditWrite config (buildControlAuditEvent input)
          return result
    else
      raise (.runtime ("a composite control operation requires an open transaction " ++
        "on the audit connection; without one, suppressed inner mutations would commit " ++
        "individually with no audit record"))

/-! ## Repositories of the policy tables -/

def setBoundsAuditReason (input : Grants.SetBoundsInput) : String :=
  if input.clearMaxTtl then "max_ttl_seconds=cleared"
  else
    match input.maxTtlSeconds with
    | none => "max_ttl_seconds=preserved"
    | some seconds => "max_ttl_seconds=" ++ toString seconds

def setBounds
    (config : Config)
    (eventId : String)
    (input : Grants.SetBoundsInput)
    (now : Instant)
    (enforcingPrincipal : Option String) : Action Unit := do
  check ((Grants.validateIssuableScopeBounds input.scopes input.maxTtlSeconds).mapError .value)
  check ((Grants.validateClearMaxTtl input.maxTtlSeconds input.clearMaxTtl).mapError .value)
  writeScope .operational do
    policyStatement (Policy.setBounds config.backend input (isoformat now))
    record config
      { eventId
        eventType := "scope_bounds_set"
        workspaceId := input.workspaceId
        agentId := input.agentId
        action := "set_issuable_scope_bounds"
        resource := "issuable_scope_bounds/" ++ input.agentId
        reason := setBoundsAuditReason input
        scopeAttempted := " ".intercalate input.scopes
        now
        enforcingPrincipal }

/-- Set one mandate of an agent. -/
def setMandate
    (config : Config)
    (setting : String)
    (write : String → String → Bool → String → Policy.Tables String →
      Except Policy.PolicyError (Policy.Tables String))
    (eventId workspaceId agentId : String)
    (required : Bool)
    (now : Instant)
    (enforcingPrincipal : Option String) : Action Unit :=
  writeScope .operational do
    policyStatement (write workspaceId agentId required (isoformat now))
    record config
      { eventId
        eventType := "enforcement_setting_changed"
        workspaceId
        agentId
        action := "set_" ++ setting
        resource := "enforcement_setting/" ++ setting
        reason := setting ++ "=" ++ (if required then "true" else "false")
        now
        enforcingPrincipal }

def setRequireBoundary (config : Config) :
    String → String → String → Bool → Instant → Option String → Action Unit :=
  setMandate config "require_boundary" (Policy.setRequireBoundary config.backend)

def setRequireSubjectToken (config : Config) :
    String → String → String → Bool → Instant → Option String → Action Unit :=
  setMandate config "require_subject_token" (Policy.setRequireSubjectToken config.backend)

def setRequirePop (config : Config) :
    String → String → String → Bool → Instant → Option String → Action Unit :=
  setMandate config "require_pop" (Policy.setRequirePop config.backend)

def getRule (ruleId : String) : Action (Option (Policy.RuleRow String)) :=
  controlQuery fun control => control.policy.rules.get? ruleId

/-- Add a rule, given its row and the instant of its creation. -/
def addRule
    (config : Config)
    (eventId ruleId : String)
    (row : Policy.RuleRow String)
    (createdAt : Instant) : Action Unit := do
  match ← getRule ruleId with
  | some _ => raise (.value ("duplicate auto-approval rule_id: " ++ ruleId))
  | none =>
      writeScope .operational do
        policyStatement (Policy.insertRule config.backend ruleId row)
        record config
          { eventId
            eventType := "auto_approval_rule_created"
            workspaceId := row.workspaceId
            action := "create_auto_approval_rule"
            resource := "auto_approval_rule/" ++ ruleId
            reason := "status=" ++ Policy.statusText row.status
            now := createdAt
            enforcingPrincipal := presentText (some row.createdBy) }

/-- Update a rule, given its row and the instant of its update, or else of its
creation. -/
def updateRule
    (config : Config)
    (eventId ruleId : String)
    (row : Policy.RuleRow String)
    (updatedAt : Instant) : Action Unit :=
  writeScope .operational do
    match ← getRule ruleId with
    | none => raise (.value ("unknown auto-approval rule_id: " ++ ruleId))
    | some prior =>
        policyStatement (Policy.updateRule config.backend ruleId row)
        let control := Policy.autoApprovalUpdateControlEvent prior row
        record config
          { eventId
            eventType := control.eventType
            workspaceId := row.workspaceId
            action := control.action
            resource := "auto_approval_rule/" ++ ruleId
            reason := control.reason
            scopeAttempted := control.scopeAttempted
            now := updatedAt
            enforcingPrincipal := presentText row.updatedBy }

end Control
end Vinctor
