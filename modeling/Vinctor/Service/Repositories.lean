import Vinctor.Service.Models

/-!
# Repositories

The in-memory repositories, each a dictionary with the operations of its class,
and the views of them that the endpoints read.  An insertion of a present key
and an update of an absent one raise: they return an error with its text.
-/

namespace Vinctor

open Foundation

/-! ## Grants -/

/-- Lookup of a grant by its reference; an error is a raised exception. -/
abbrev GrantLookup := String → Except Unit (Option Grant)

/-- Grants by reference. -/
abbrev GrantRepository := Dict String Grant

namespace GrantRepository

def getByRef (repository : GrantRepository) (grantRef : String) : Option Grant :=
  repository.get? grantRef

def insert (repository : GrantRepository) (grant : Grant) : Except String GrantRepository :=
  if (repository.get? grant.grantRef).isSome then
    .error ("duplicate grant_ref: " ++ grant.grantRef)
  else .ok (repository.set grant.grantRef grant)

/-- Revoke a grant of a workspace.  No grant is returned for an unknown or a
foreign reference. -/
def revoke (repository : GrantRepository) (grantRef workspaceId : String) :
    Option Grant × GrantRepository :=
  match repository.getByRef grantRef with
  | none => (none, repository)
  | some grant =>
      if grant.workspaceId ≠ workspaceId then (none, repository)
      else
        let revoked := { grant with status := .revoked }
        (some revoked, repository.set grantRef revoked)

/-- The repository as the endpoints see it: its lookups do not raise. -/
def lookup (repository : GrantRepository) : GrantLookup :=
  fun grantRef => .ok (repository.getByRef grantRef)

end GrantRepository

/-! ## Grant requests -/

/-- Grant requests by identifier. -/
abbrev GrantRequestRepository := Dict String GrantRequest

namespace GrantRequestRepository

def getRequest (repository : GrantRequestRepository) (requestId : String) :
    Option GrantRequest :=
  repository.get? requestId

def insertRequest (repository : GrantRequestRepository) (request : GrantRequest) :
    Except String GrantRequestRepository :=
  if (repository.get? request.requestId).isSome then
    .error ("duplicate grant request_id: " ++ request.requestId)
  else .ok (repository.set request.requestId request)

def updateRequest (repository : GrantRequestRepository) (request : GrantRequest) :
    Except String GrantRequestRepository :=
  if (repository.get? request.requestId).isNone then
    .error ("unknown grant request_id: " ++ request.requestId)
  else .ok (repository.set request.requestId request)

/-- Compare and set: store the decided request while the stored one is
pending. -/
def decideRequest (repository : GrantRequestRepository) (request : GrantRequest) :
    Bool × GrantRequestRepository :=
  match repository.getRequest request.requestId with
  | none => (false, repository)
  | some current =>
      if current.status ≠ .pending then (false, repository)
      else (true, repository.set request.requestId request)

end GrantRequestRepository

/-! ## Auto-approval rules -/

/-- Auto-approval rules by identifier. -/
abbrev AutoApprovalRuleRepository := Dict String AutoApprovalRule

namespace AutoApprovalRuleRepository

def addRule (repository : AutoApprovalRuleRepository) (rule : AutoApprovalRule) :
    Except String AutoApprovalRuleRepository :=
  if (repository.get? rule.ruleId).isSome then
    .error ("duplicate auto-approval rule_id: " ++ rule.ruleId)
  else .ok (repository.set rule.ruleId rule)

def getRule (repository : AutoApprovalRuleRepository) (ruleId : String) :
    Option AutoApprovalRule :=
  repository.get? ruleId

def listRulesForWorkspace (repository : AutoApprovalRuleRepository) (workspaceId : String) :
    List AutoApprovalRule :=
  repository.values.filter (·.workspaceId = workspaceId)

def updateRule (repository : AutoApprovalRuleRepository) (rule : AutoApprovalRule) :
    Except String AutoApprovalRuleRepository :=
  if (repository.get? rule.ruleId).isNone then
    .error ("unknown auto-approval rule_id: " ++ rule.ruleId)
  else .ok (repository.set rule.ruleId rule)

end AutoApprovalRuleRepository

/-! ## Subject tokens -/

/-- Lookup of a token by the hash of its text; an error is a raised exception. -/
abbrev SubjectTokenLookup := String → Except Unit (Option SubjectToken)

/-- Subject tokens by hash. -/
abbrev SubjectTokenRepository := Dict String SubjectToken

namespace SubjectTokenRepository

def insert (repository : SubjectTokenRepository) (token : SubjectToken) :
    Except String SubjectTokenRepository :=
  if (repository.get? token.tokenHash).isSome then
    .error ("duplicate subject token_hash: " ++ token.tokenHash)
  else .ok (repository.set token.tokenHash token)

/-- The first entry of a token identifier.  Entries are kept by hash, so the
identifier is searched for. -/
def findById (repository : SubjectTokenRepository) (tokenId : String) :
    Option (String × SubjectToken) :=
  repository.entries.find? fun entry => entry.2.tokenId = tokenId

/-- Revoke a token by its identifier.  The answer is false for an unknown
one. -/
def revoke (repository : SubjectTokenRepository) (tokenId : String) (now : Instant) :
    Bool × SubjectTokenRepository :=
  match repository.findById tokenId with
  | none => (false, repository)
  | some (tokenHash, token) =>
      (true, repository.set tokenHash { token with revokedAt := some now })

def lookup (repository : SubjectTokenRepository) : SubjectTokenLookup :=
  fun tokenHash => .ok (repository.get? tokenHash)

end SubjectTokenRepository

/-! ## Enforcement settings -/

/-- Mandates as the endpoints read them, by workspace and agent. -/
structure EnforcementSettings where
  isBoundaryRequired : String → String → Bool
  isSubjectTokenRequired : String → String → Bool
  isPopRequired : String → String → Bool

/-- Overrides of one mandate.  The workspace's own override is stored under
the empty agent. -/
abbrev MandateOverrides := Dict (String × String) Bool

/-- The agent's override, else the workspace's, else no mandate. -/
def MandateOverrides.isRequired (overrides : MandateOverrides)
    (workspaceId agentId : String) : Bool :=
  match overrides.get? (workspaceId, agentId) with
  | some required => required
  | none => (overrides.get? (workspaceId, "")).getD false

structure AgentEnforcementSettingsRepository where
  requireBoundary : MandateOverrides := Dict.empty
  requireSubjectToken : MandateOverrides := Dict.empty
  requirePop : MandateOverrides := Dict.empty

namespace AgentEnforcementSettingsRepository

def setRequireBoundary (repository : AgentEnforcementSettingsRepository)
    (workspaceId agentId : String) (required : Bool) :
    AgentEnforcementSettingsRepository :=
  { repository with
    requireBoundary := repository.requireBoundary.set (workspaceId, agentId) required }

def setRequireSubjectToken (repository : AgentEnforcementSettingsRepository)
    (workspaceId agentId : String) (required : Bool) :
    AgentEnforcementSettingsRepository :=
  { repository with
    requireSubjectToken := repository.requireSubjectToken.set (workspaceId, agentId) required }

def setRequirePop (repository : AgentEnforcementSettingsRepository)
    (workspaceId agentId : String) (required : Bool) :
    AgentEnforcementSettingsRepository :=
  { repository with requirePop := repository.requirePop.set (workspaceId, agentId) required }

def settings (repository : AgentEnforcementSettingsRepository) : EnforcementSettings where
  isBoundaryRequired := repository.requireBoundary.isRequired
  isSubjectTokenRequired := repository.requireSubjectToken.isRequired
  isPopRequired := repository.requirePop.isRequired

end AgentEnforcementSettingsRepository
end Vinctor
