import Vinctor.Core.Audit

/-!
# Requests, responses and records of the service

Field for field the data classes of the service package.  Responses to agents
carry a decision, coarse codes and an audit event identifier only.
-/

namespace Vinctor

structure V1EnforceRequest where
  workspaceId : String
  agentId : String
  grantRef : String
  action : String
  resource : String
  boundaryId : Option String := none
  deriving DecidableEq, Repr

/-- An on-behalf-of request of an enforcement point.  Every field is asserted
by the caller; the trusted workspace is not among them. -/
structure V1DelegatedEnforceRequest where
  pepId : String
  workspaceId : String
  agentId : String
  grantRef : String
  action : String
  resource : String
  boundaryId : Option String := none
  subjectToken : Option String := none
  subjectTokenProof : Option String := none
  deriving DecidableEq, Repr

structure V1EnforceResponse where
  statusCode : Nat
  decision : Option Decision := none
  error : Option String := none
  reason : Option String := none
  auditEventId : Option String := none
  deriving DecidableEq, Repr

structure V1SimulateRequest where
  workspaceId : String
  agentId : String
  grantRef : String
  action : String
  resource : String
  boundaryId : Option String := none
  deriving DecidableEq, Repr

structure V1SimulateResponse where
  statusCode : Nat
  wouldDecision : Option Decision := none
  error : Option String := none
  reason : Option String := none
  auditEventId : Option String := none
  deriving DecidableEq, Repr

inductive GrantIssueStatus
  | issued
  | rejected
  deriving DecidableEq, Repr

structure GrantIssueRequest where
  workspaceId : String
  targetAgentId : String
  requestedScopes : List String
  ttlSeconds : Int := 0
  grantId : Option String := none
  grantRef : Option String := none
  deriving DecidableEq, Repr

structure GrantIssueResult where
  status : GrantIssueStatus
  reason : String
  grant : Option Grant := none
  auditEventId : Option String := none
  detail : Option String := none
  deriving DecidableEq, Repr

/-- One snapshot of an agent's bounds: scopes and cap are read and written
together. -/
structure AgentIssuableBounds where
  scopes : List String
  maxTtlSeconds : Option Int
  deriving DecidableEq, Repr

inductive GrantRequestStatus
  | pending
  | approved
  | rejected
  | cancelled
  | expired
  deriving DecidableEq, Repr

structure GrantRequest where
  requestId : String
  workspaceId : String
  requesterAgentId : String
  targetAgentId : String
  requestedScopes : List String
  requestedTtlSeconds : Int
  reason : String
  status : GrantRequestStatus
  createdAt : Instant
  decidedAt : Option Instant := none
  decidedBy : Option String := none
  decisionReason : Option String := none
  issuedGrantRef : Option String := none
  taskId : Option String := none
  sessionId : Option String := none
  boundaryId : Option String := none
  requesterRuntime : Option String := none
  repo : Option String := none
  worktree : Option String := none
  deriving DecidableEq, Repr

structure GrantRequestCreateRequest where
  workspaceId : String
  requesterAgentId : String
  requestedScopes : List String
  requestedTtlSeconds : Int
  reason : String
  targetAgentId : Option String := none
  requestId : Option String := none
  taskId : Option String := none
  sessionId : Option String := none
  boundaryId : Option String := none
  requesterRuntime : Option String := none
  repo : Option String := none
  worktree : Option String := none
  deriving DecidableEq, Repr

inductive GrantRequestCreateStatus
  | created
  | rejected
  deriving DecidableEq, Repr

structure GrantRequestCreateResult where
  status : GrantRequestCreateStatus
  reason : String
  request : Option GrantRequest := none
  auditEventId : Option String := none
  deriving DecidableEq, Repr

inductive GrantRequestDecisionStatus
  | approved
  | rejected
  | failed
  deriving DecidableEq, Repr

structure GrantRequestDecisionResult where
  status : GrantRequestDecisionStatus
  reason : String
  request : Option GrantRequest := none
  grant : Option Grant := none
  auditEventId : Option String := none
  autoApprovalRuleId : Option String := none
  deriving DecidableEq, Repr

inductive ApprovalRuleStatus
  | active
  | disabled
  deriving DecidableEq, Repr

structure AutoApprovalRule where
  ruleId : String
  workspaceId : String
  name : String
  targetAgentId : String
  allowedScopes : List String
  maxTtlSeconds : Int
  status : ApprovalRuleStatus
  createdBy : String
  createdAt : Instant
  updatedBy : Option String := none
  updatedAt : Option Instant := none
  deriving DecidableEq, Repr

inductive AutoApprovalEvaluationDecision
  | wouldApprove
  | wouldNotApprove
  deriving DecidableEq, Repr

structure AutoApprovalEvaluationResult where
  decision : AutoApprovalEvaluationDecision
  reason : String
  request : GrantRequest
  rule : Option AutoApprovalRule := none
  deriving DecidableEq, Repr

/-- A minted token.  Only the hash of the raw token is stored. -/
structure SubjectToken where
  tokenId : String
  tokenHash : String
  workspaceId : String
  agentId : String
  grantRef : String
  audience : String
  issuedAt : Instant
  expiresAt : Instant
  createdBy : String
  revokedAt : Option Instant := none
  boundAction : Option String := none
  boundResource : Option String := none
  popSecret : Option String := none
  deriving DecidableEq, Repr

end Vinctor
