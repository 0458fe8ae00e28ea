import Vinctor.Core.Models

/-!
# Audit events

Builders of the events that record decisions and rejections, and the
coarsening of a denial reason before it is shown to an agent.  A builder takes
the random token from which a fresh event identifier is made.
-/

namespace Vinctor

/-- Types of the events the modelled operations write. -/
inductive EventType
  | actionPermitted
  | actionDenied
  | actionWouldPermit
  | actionWouldDeny
  | accessRejected
  | authFailed
  | grantIssueRejected
  | subjectTokenMinted
  | grantIssued
  | grantRevoked
  | grantRequested
  | grantRequestApproved
  | grantRequestAutoApproved
  | grantRequestRejected
  deriving DecidableEq, Repr

def EventType.code : EventType → String
  | .actionPermitted => "action_permitted"
  | .actionDenied => "action_denied"
  | .actionWouldPermit => "action_would_permit"
  | .actionWouldDeny => "action_would_deny"
  | .accessRejected => "access_rejected"
  | .authFailed => "auth_failed"
  | .grantIssueRejected => "grant_issue_rejected"
  | .subjectTokenMinted => "subject_token_minted"
  | .grantIssued => "grant_issued"
  | .grantRevoked => "grant_revoked"
  | .grantRequested => "grant_requested"
  | .grantRequestApproved => "grant_request_approved"
  | .grantRequestAutoApproved => "grant_request_auto_approved"
  | .grantRequestRejected => "grant_request_rejected"

theorem EventType.code_injective : Function.Injective EventType.code := by
  intro left right equal
  cases left <;> cases right <;> first | rfl | simp [EventType.code] at equal

/-- Coarse codes of rejections that precede the evaluation of a grant. -/
inductive ReasonCode
  | agentGrantMismatch
  | authFailed
  | scopeOutsideIssuableBounds
  | issuableBoundsNotFound
  | ttlExceedsIssuableMax
  | subjectTokenRequired
  | popRequired
  | subjectTokenNotFound
  | subjectTokenRevoked
  | subjectTokenExpired
  | subjectTokenMismatch
  | popProofInvalid
  deriving DecidableEq, Repr

def ReasonCode.code : ReasonCode → String
  | .agentGrantMismatch => "agent_grant_mismatch"
  | .authFailed => "auth_failed"
  | .scopeOutsideIssuableBounds => "scope_outside_issuable_bounds"
  | .issuableBoundsNotFound => "issuable_bounds_not_found"
  | .ttlExceedsIssuableMax => "ttl_exceeds_issuable_max"
  | .subjectTokenRequired => "subject_token_required"
  | .popRequired => "pop_required"
  | .subjectTokenNotFound => "subject_token_not_found"
  | .subjectTokenRevoked => "subject_token_revoked"
  | .subjectTokenExpired => "subject_token_expired"
  | .subjectTokenMismatch => "subject_token_mismatch"
  | .popProofInvalid => "pop_proof_invalid"

namespace Audit

/-- Random token drawn from the system's source. -/
abbrev Token := String

def newEventId (token : Token) : String := "evt_" ++ token

structure AuditEventInput where
  decision : DecisionResult
  eventId : Option String := none
  createdAt : Instant
  enforcingPrincipal : Option String := none
  subjectTokenVerified : Bool := false
  tokenId : Option String := none

/-- Event that records a decision. -/
def buildAuditEvent (input : AuditEventInput) (token : Token) : AuditEvent :=
  let decision := input.decision
  { eventId := (presentText input.eventId).getD (newEventId token)
    eventType :=
      if decision.decision = .permit then EventType.actionPermitted.code
      else EventType.actionDenied.code
    decision := decision.decision
    reason := decision.reason.code
    workspaceId := decision.workspaceId
    agentId := decision.agentId
    grantId := decision.grantId
    grantRef := decision.grantRef
    action := decision.action
    resource := decision.resource
    scopeAttempted := decision.scopeAttempted
    scopeMatched := decision.scopeMatched
    boundaryId :=
      match decision.boundary with
      | some boundary => some boundary.boundaryId
      | none => decision.attemptedBoundaryId
    runtime := decision.boundary.map (·.runtime)
    boundaryType := decision.boundary.map (·.boundaryType)
    createdAt := input.createdAt
    enforcingPrincipal := input.enforcingPrincipal
    subjectTokenVerified := input.subjectTokenVerified
    tokenId := input.tokenId }

/-- Reasons that tell whether a boundary exists and in which state. -/
def boundaryExistenceReasons : List String :=
  [EnforceReason.boundaryNotFound.code, EnforceReason.boundaryWrongWorkspace.code,
    EnforceReason.boundaryInactive.code]

def reasonBoundaryUnavailable : String := "boundary_unavailable"

/-- Coarsen a denial reason for an agent-facing response. -/
def agentFacingReason (reason : String) : String :=
  if boundaryExistenceReasons.contains reason then reasonBoundaryUnavailable
  else reason

/-- Fields of a rejection that its callers choose. -/
structure RejectionInput where
  reasonCode : ReasonCode
  workspaceId : String
  agentId : String
  createdAt : Instant
  eventType : EventType := .accessRejected
  action : String := ""
  resource : String := ""
  scopeAttempted : Option String := none
  boundaryId : Option String := none
  enforcingPrincipal : Option String := none
  occurrenceCount : Option Int := none
  firstSeenAt : Option Instant := none
  lastSeenAt : Option Instant := none

/-- Event of a request rejected before its grant was evaluated.  It names no
grant. -/
def buildRejectionAuditEvent (input : RejectionInput) (token : Token) : AuditEvent where
  eventId := newEventId token
  eventType := input.eventType.code
  decision := .deny
  reason := input.reasonCode.code
  workspaceId := input.workspaceId
  agentId := input.agentId
  grantId := ""
  grantRef := ""
  action := input.action
  resource := input.resource
  scopeAttempted := input.scopeAttempted.getD (input.action ++ ":" ++ input.resource)
  scopeMatched := none
  boundaryId := input.boundaryId
  runtime := none
  boundaryType := none
  createdAt := input.createdAt
  enforcingPrincipal := input.enforcingPrincipal
  reasonCode := some input.reasonCode.code
  occurrenceCount := input.occurrenceCount
  firstSeenAt := input.firstSeenAt
  lastSeenAt := input.lastSeenAt

/-! ## Decision events and rejection events -/

/-- Events that record a decision. -/
def IsDecisionEvent (event : AuditEvent) : Prop :=
  event.eventType = EventType.actionPermitted.code ∨
    event.eventType = EventType.actionDenied.code

instance (event : AuditEvent) : Decidable (IsDecisionEvent event) :=
  inferInstanceAs (Decidable (_ ∨ _))

theorem isDecisionEvent_buildAuditEvent
    (input : AuditEventInput)
    (token : Token) :
    IsDecisionEvent (buildAuditEvent input token) := by
  unfold IsDecisionEvent buildAuditEvent
  dsimp only
  split
  · exact Or.inl rfl
  · exact Or.inr rfl

/-- A rejection is not a decision event, whatever its own type says of the
access path. -/
theorem not_isDecisionEvent_buildRejectionAuditEvent
    {input : RejectionInput}
    (token : Token)
    (notPermitted : input.eventType ≠ .actionPermitted)
    (notDenied : input.eventType ≠ .actionDenied) :
    ¬ IsDecisionEvent (buildRejectionAuditEvent input token) := by
  rintro (permitted | denied)
  · exact notPermitted (EventType.code_injective permitted)
  · exact notDenied (EventType.code_injective denied)

end Audit
end Vinctor
