import Vinctor.Foundation.Json
import Vinctor.Service.MandateStorage
import Vinctor.Service.RuleEdits

/-!
# Policy files

A policy file is a mapping of agent bounds, auto-approval rules and a boundary block.
Every entry is parsed and checked before anything is written.  A lifetime is written as
a number with a unit or as seconds; a bound that is silent on its cap preserves the
stored one, and an explicit null clears it.

A file is modelled as the value that its reader loads.  Keys of mappings are texts, and
a number with a fraction is the text that the language prints for it.
-/

namespace Vinctor
namespace PolicyFiles

open Foundation
open Fallible
open Policy

/-- Errors of a file: those of the policy operations, and the type error of looking up a
list or a mapping in a set. -/
inductive FileError
  | policy (error : PolicyError)
  | unhashable
  deriving DecidableEq, Repr

/-- A refusal with its text. -/
abbrev refused (text : String) : FileError := .policy (.value text)

abbrev Members : Type := List (String × Json)

/-- Text that the language prints for a loaded value. -/
abbrev Printer : Type := Json → String

/-! ## Fields -/

def mapping (label : String) : Json → Except FileError Members
  | .obj members => .ok members
  | _ => .error (refused (label ++ " must be a mapping"))

/-- Keys that are not allowed, in order. -/
def extraFields (members : Members) (allowed : List String) : List String :=
  ((members.map Prod.fst).filter (· ∉ allowed)).insertionSort fun first second =>
    Json.codePointsLE first.toList second.toList

def rejectExtra (members : Members) (allowed : List String) (label : String) :
    Except FileError Unit :=
  match extraFields members allowed with
  | [] => .ok ()
  | field :: _ => .error (refused ("unexpected " ++ label ++ " field: " ++ field))

def declares (members : Members) (field : String) : Bool :=
  (Json.get? members field).isSome

def nonEmptyText? : Json → Option String
  | .str text => if text = "" then none else some text
  | _ => none

def requiredString (members : Members) (field : String) : Except FileError String :=
  require ((Json.get? members field).bind nonEmptyText?)
    (refused (field ++ " must be a non-empty string"))

def optionalString (members : Members) (field : String) : Except FileError (Option String) :=
  match Json.get? members field with
  | none | some .null => .ok none
  | some value => do
      let text ← require (nonEmptyText? value)
        (refused (field ++ " must be a non-empty string when provided"))
      return some text

def requiredStringList (members : Members) (field : String) :
    Except FileError (List String) :=
  match Json.get? members field with
  | some (.arr (element :: rest)) =>
      require ((element :: rest).mapM nonEmptyText?)
        (refused (field ++ " must contain only non-empty strings"))
  | _ => .error (refused (field ++ " must be a non-empty list"))

def requiredList (members : Members) (field : String) : Except FileError (List Json) :=
  match Json.get? members field with
  | none | some .null => .ok []
  | some (.arr elements) => .ok elements
  | some _ => .error (refused (field ++ " must be a list"))

/-! ## Lifetimes -/

def unitSeconds : Char → Option Int
  | 's' => some 1
  | 'm' => some 60
  | 'h' => some 3600
  | _ => none

/-- Conversion of a run of digits to a number.  A digit that is not decimal passes the
check before it and fails here; so does a run that is too long. -/
def decimalInteger (number : List Char) : Except FileError Int :=
  let run := number.takeWhile fun character => (Text.decimalValue character).isSome
  if Text.maxIntegerDigits < run.length then
    .error (refused ("Exceeds the limit (4300 digits) for integer string conversion: value has " ++
      toString run.length ++
      " digits; use sys.set_int_max_str_digits() to increase the limit"))
  else if run = number then .ok (Text.decimalNumber number)
  else
    .error (refused ("invalid literal for int() with base 10: " ++
      String.ofList ((['\''] ++ number ++ ['\'']).take 200)))

/-- A text that is not empty ends in the unit. -/
def durationStringSeconds (raw : String) : Except FileError Int := do
  let number := raw.toList.dropLast
  let seconds ← require (raw.toList.getLast?.bind unitSeconds)
    (refused ("invalid max_ttl duration: " ++ raw))
  ensure (number ≠ [] ∧ number.all Text.isDigit)
    (refused ("invalid max_ttl duration: " ++ raw))
  let value ← decimalInteger number
  return value * seconds

/-- A truth value is no number here. -/
def positiveInteger : Json → Except FileError Int
  | .int value => do
      ensure (0 < value) (refused "max_ttl_seconds must be a positive integer")
      return value
  | _ => .error (refused "max_ttl_seconds must be a positive integer")

def bothLifetimes (members : Members) : Bool :=
  declares members "max_ttl" && declares members "max_ttl_seconds"

/-- Whether an entry declares a cap, and the cap.  An absent key preserves the stored
cap, an explicit null clears it. -/
def boundsMaxTtl (printed : Printer) (members : Members) :
    Except FileError (Bool × Option Int) := do
  ensure (bothLifetimes members = false)
    (refused "agent_bounds entry must not set both max_ttl and max_ttl_seconds")
  match Json.get? members "max_ttl_seconds", Json.get? members "max_ttl" with
  | some .null, _ => return (true, none)
  | some value, _ => return (true, some (← positiveInteger value))
  | none, some .null => return (true, none)
  | none, some (.str raw) =>
      ensure (raw ≠ "") (refused ("invalid max_ttl duration: " ++ raw))
      return (true, some (← durationStringSeconds raw))
  | none, some value => .error (refused ("invalid max_ttl duration: " ++ printed value))
  | none, none => return (false, none)

/-- The lifetime of a rule, which must be there. -/
def durationSeconds (members : Members) : Except FileError Int :=
  match Json.get? members "max_ttl_seconds" with
  | some value => positiveInteger value
  | none => do
      let raw ← require ((Json.get? members "max_ttl").bind nonEmptyText?)
        (refused "rule must set max_ttl or max_ttl_seconds")
      durationStringSeconds raw

/-! ## Entries -/

def parseBoundsEntry (printed : Printer) (entry : Json) : Except FileError ParsedBounds := do
  let members ← mapping "agent_bounds entry" entry
  rejectExtra members ["agent_id", "scopes", "max_ttl", "max_ttl_seconds"] "agent_bounds entry"
  let agentId ← requiredString members "agent_id"
  let scopes ← requiredStringList members "scopes"
  let (maxTtlDeclared, maxTtlSeconds) ← boundsMaxTtl printed members
  return { agentId, scopes, maxTtlDeclared, maxTtlSeconds }

/-- A rule that is silent on its status is active. -/
def parseStatus : Option Json → Except FileError ApprovalRuleStatus
  | none | some (.str "active") => .ok .active
  | some (.str "disabled") => .ok .disabled
  | some (.arr _) | some (.obj _) => .error .unhashable
  | some _ => .error (refused "rule status must be active or disabled")

def parseRuleEntry (entry : Json) : Except FileError ParsedRule := do
  let members ← mapping "auto_approval_rules entry" entry
  rejectExtra members
    ["rule_id", "name", "target_agent_id", "allowed_scopes", "max_ttl", "max_ttl_seconds",
      "status"] "auto_approval_rules entry"
  ensure (bothLifetimes members = false)
    (refused "rule must not set both max_ttl and max_ttl_seconds")
  let status ← parseStatus (Json.get? members "status")
  let ruleId ← optionalString members "rule_id"
  let name ← requiredString members "name"
  let targetAgentId ← requiredString members "target_agent_id"
  let allowedScopes ← requiredStringList members "allowed_scopes"
  let maxTtlSeconds ← durationSeconds members
  return { ruleId, name, targetAgentId, allowedScopes, maxTtlSeconds, status }

/-- The mandate of the workspace itself, where the block has one. -/
def parseBoundaryWorkspace (members : Members) : Except FileError (Option Bool) :=
  match Json.get? members "workspace" with
  | none => .ok none
  | some (.bool required) => .ok (some required)
  | some _ => .error (refused "require_boundary workspace must be a boolean")

def parseBoundaryAgents (members : Members) : Except FileError (List String) :=
  match Json.get? members "agents" with
  | none => .ok []
  | some (.arr elements) =>
      require (elements.mapM nonEmptyText?)
        (refused "require_boundary agents must contain only non-empty strings")
  | some _ => .error (refused "require_boundary agents must be a list")

def parseRequireBoundary (document : Members) :
    Except FileError (Option Bool × List String) :=
  match Json.get? document "require_boundary" with
  | none | some .null => .ok (none, [])
  | some block => do
      let members ← mapping "require_boundary" block
      rejectExtra members ["workspace", "agents"] "require_boundary"
      let workspace ← parseBoundaryWorkspace members
      let agents ← parseBoundaryAgents members
      return (workspace, agents)

/-! ## Documents -/

/-- Values that equal the number one: a truth value is an integer. -/
def isOne : Json → Bool
  | .int value => value = 1
  | .bool value => value
  | .float literal => literal = ['1', '.', '0']
  | _ => false

/-- The checks of the reader of a file. -/
def loadPolicyDocument (loaded : Json) : Except FileError Members := do
  let members ← match loaded with
    | .obj members => .ok members
    | _ => .error (refused "policy file must contain a mapping")
  ensure (declares members "proposed" = false)
    (refused "this is a proposal document; review and author a policy file")
  rejectExtra members
    ["version", "workspace_id", "agent_bounds", "auto_approval_rules", "require_boundary"]
    "policy"
  ensure ((Json.get? members "version").any isOne) (refused "policy version must be 1")
  ensure (declares members "agent_bounds" ∨ declares members "auto_approval_rules" ∨
      declares members "require_boundary")
    (refused
      "policy file must contain agent_bounds, auto_approval_rules, or require_boundary")
  return members

/-- A document that names a workspace names the selected one. -/
def checkWorkspace (members : Members) (workspaceId : String) : Except FileError Unit :=
  match Json.get? members "workspace_id" with
  | none | some .null => .ok ()
  | some value =>
      ensure (value = .str workspaceId)
        (refused "policy workspace_id does not match selected workspace")

/-- Parse a document entry by entry, without its checks. -/
def parseDocument (printed : Printer) (members : Members) :
    Except FileError PolicyDocument := do
  let agentBounds ← (← requiredList members "agent_bounds").mapM (parseBoundsEntry printed)
  let autoApprovalRules ← (← requiredList members "auto_approval_rules").mapM parseRuleEntry
  let (requireBoundaryWorkspace, requireBoundaryAgents) ← parseRequireBoundary members
  return { agentBounds, autoApprovalRules, requireBoundaryWorkspace, requireBoundaryAgents }

/-! ## Application -/

/-- A file whose entries were parsed and checked. -/
structure PreparedPolicy (τ : Type) where
  bounds : List ParsedBounds
  rules : List (String × RuleRow τ)
  boundaryWorkspace : Option Bool
  boundaryAgents : List String

/-- Errors of a policy operation as errors of the file. -/
abbrev lifted (computation : Except PolicyError α) : Except FileError α :=
  computation.mapError .policy

section Application

variable (printed : Printer) (backend : Backend τ) (stableRuleId : StableRuleId)

/-- Each entry is checked as soon as it is parsed. -/
def preparePolicy
    (members : Members)
    (workspaceId appliedBy : String)
    (now : τ)
    (tables : Tables τ) : Except FileError (PreparedPolicy τ) := do
  let bounds ← (← requiredList members "agent_bounds").mapM fun entry => do
    let parsed ← parseBoundsEntry printed entry
    lifted ((Grants.validateIssuableScopeBounds parsed.scopes parsed.maxTtlSeconds).mapError .value)
    return parsed
  let rules ← (← requiredList members "auto_approval_rules").mapM fun entry => do
    let parsed ← parseRuleEntry entry
    lifted (prepareRule stableRuleId workspaceId appliedBy now tables parsed)
  let (boundaryWorkspace, boundaryAgents) ← parseRequireBoundary members
  return { bounds, rules, boundaryWorkspace, boundaryAgents }

/-- Every entry was checked: apply all writes. -/
def writePolicy
    (prepared : PreparedPolicy τ)
    (workspaceId : String)
    (now : τ)
    (tables : Tables τ) : Except PolicyError ((Nat × Nat) × Tables τ) := do
  let tables ← prepared.bounds.foldlM (applyBounds backend workspaceId now) tables
  let (counts, tables) ← prepared.rules.foldlM (applyRule backend) ((0, 0), tables)
  let tables ← applyWorkspaceMandate backend workspaceId prepared.boundaryWorkspace now tables
  let tables ← prepared.boundaryAgents.foldlM
    (fun tables agentId => setRequireBoundary backend workspaceId agentId true now tables) tables
  return (counts, tables)

def applyMembers
    (members : Members)
    (workspaceId appliedBy : String)
    (now : τ)
    (tables : Tables τ) : Except FileError (PolicyApplyResult × Tables τ) := do
  let prepared ← preparePolicy printed stableRuleId members workspaceId appliedBy now tables
  let (counts, tables) ← lifted (writePolicy backend prepared workspaceId now tables)
  let (version, tables) ←
    lifted (insertPolicyVersion backend workspaceId .apply none appliedBy now tables)
  return ({
    workspaceId
    boundsSet := prepared.bounds.length
    rulesCreated := counts.1
    rulesUpdated := counts.2
    policyVersion := version }, tables)

/-- Application of a loaded file.  It is one transaction: where it raises, nothing is
written. -/
def applyPolicyFile
    (loaded : Json)
    (workspaceId appliedBy : String)
    (now : τ)
    (tables : Tables τ) : Except FileError (PolicyApplyResult × Tables τ) := do
  let members ← loadPolicyDocument loaded
  checkWorkspace members workspaceId
  applyMembers printed backend stableRuleId members workspaceId appliedBy now tables

end Application

/-! ## A file that parses -/

section Parses

variable {printed : Printer} {backend : Backend τ} {stableRuleId : StableRuleId}
  {members : Members} {document : PolicyDocument} {workspaceId appliedBy : String} {now : τ}
  {before : Tables τ}

theorem parseDocument_eq_ok :
    parseDocument printed members = .ok document ↔
      ∃ bounds rules,
        requiredList members "agent_bounds" = .ok bounds ∧
        bounds.mapM (parseBoundsEntry printed) = .ok document.agentBounds ∧
        requiredList members "auto_approval_rules" = .ok rules ∧
        rules.mapM parseRuleEntry = .ok document.autoApprovalRules ∧
        parseRequireBoundary members =
          .ok (document.requireBoundaryWorkspace, document.requireBoundaryAgents) := by
  simp only [parseDocument, bind_eq_ok, pure_eq_ok]
  constructor
  · rintro ⟨bounds, isBounds, agentBounds, parsesBounds, rules, isRules, autoApprovalRules,
      parsesRules, ⟨workspace, agents⟩, parsesBoundary, rfl⟩
    exact ⟨bounds, rules, isBounds, parsesBounds, isRules, parsesRules, parsesBoundary⟩
  · rintro ⟨bounds, rules, isBounds, parsesBounds, isRules, parsesRules, parsesBoundary⟩
    exact ⟨bounds, isBounds, _, parsesBounds, rules, isRules, _, parsesRules, _, parsesBoundary,
      rfl⟩

/-- Checking each entry as it is parsed succeeds where checking all of them after the
parse does. -/
theorem preparePolicy_eq_ok
    (parses : parseDocument printed members = .ok document)
    {prepared : PreparedPolicy τ} :
    preparePolicy printed stableRuleId members workspaceId appliedBy now before = .ok prepared ↔
      (∀ parsed ∈ document.agentBounds,
        Grants.validateIssuableScopeBounds parsed.scopes parsed.maxTtlSeconds = .ok ()) ∧
      document.autoApprovalRules.mapM
        (prepareRule stableRuleId workspaceId appliedBy now before) = .ok prepared.rules ∧
      prepared.bounds = document.agentBounds ∧
      prepared.boundaryWorkspace = document.requireBoundaryWorkspace ∧
      prepared.boundaryAgents = document.requireBoundaryAgents := by
  obtain ⟨bounds, rules, isBounds, parsesBounds, isRules, parsesRules, parsesBoundary⟩ :=
    parseDocument_eq_ok.mp parses
  simp only [preparePolicy, isBounds, isRules, parsesBoundary, ok_bind, mapM_bind parsesBounds,
    mapM_bind parsesRules, bind_eq_ok, pure_eq_ok, mapM_check, mapM_mapError, mapError_eq_ok]
  constructor
  · rintro ⟨checked, ⟨valid, rfl⟩, prepares, isPrepared, rfl⟩
    exact ⟨valid, isPrepared, rfl, rfl, rfl⟩
  · rintro ⟨valid, prepares, isBounds, isWorkspace, isAgents⟩
    refine ⟨_, ⟨valid, rfl⟩, _, prepares, ?_⟩
    cases prepared
    cases isBounds
    cases isWorkspace
    cases isAgents
    rfl

/-- The writes of a document are those of its entries, once they are checked. -/
theorem applyWrites_eq_ok {written : (Nat × Nat) × Tables τ} :
    applyWrites backend stableRuleId document workspaceId appliedBy now before = .ok written ↔
      (∀ parsed ∈ document.agentBounds,
        Grants.validateIssuableScopeBounds parsed.scopes parsed.maxTtlSeconds = .ok ()) ∧
      ∃ rules,
        document.autoApprovalRules.mapM
          (prepareRule stableRuleId workspaceId appliedBy now before) = .ok rules ∧
        writePolicy backend
          { bounds := document.agentBounds
            rules
            boundaryWorkspace := document.requireBoundaryWorkspace
            boundaryAgents := document.requireBoundaryAgents } workspaceId now before =
          .ok written := by
  simp only [applyWrites, writePolicy, bind_eq_ok, mapError_eq_ok, forM_eq_ok_iff]
  constructor
  · rintro ⟨-, valid, rules, prepares, writes⟩
    exact ⟨valid, rules, prepares, writes⟩
  · rintro ⟨valid, rules, prepares, writes⟩
    exact ⟨⟨⟩, valid, rules, prepares, writes⟩

/-- A file whose entries parse is applied as its document is. -/
theorem applyMembers_eq_ok
    (parses : parseDocument printed members = .ok document)
    {result : PolicyApplyResult × Tables τ} :
    applyMembers printed backend stableRuleId members workspaceId appliedBy now before =
        .ok result ↔
      Policy.applyPolicyDocument backend stableRuleId document workspaceId appliedBy now before =
        .ok result := by
  simp only [applyMembers, Policy.applyPolicyDocument, bind_eq_ok, pure_eq_ok, mapError_eq_ok,
    preparePolicy_eq_ok parses, applyWrites_eq_ok]
  constructor
  · rintro ⟨⟨bounds, rules, workspace, agents⟩, ⟨valid, prepares, isBounds, isWorkspace, isAgents⟩,
      written, writes, recorded, records, isResult⟩
    cases isBounds
    cases isWorkspace
    cases isAgents
    exact ⟨written, ⟨valid, rules, prepares, writes⟩, recorded, records, isResult⟩
  · rintro ⟨written, ⟨valid, rules, prepares, writes⟩, recorded, records, isResult⟩
    exact ⟨_, ⟨valid, prepares, rfl, rfl, rfl⟩, written, writes, recorded, records, isResult⟩

end Parses

end PolicyFiles
end Vinctor
