import Vinctor.Service.Grants

/-!
# Grant requests

An agent asks for a grant; a decider approves or rejects.  Approval first
claims the decision with a compare-and-set on the pending status, then issues
the grant under the reference the claim carries, and releases the claim when
issuance is refused.
-/

namespace Vinctor
namespace GrantRequests

open Foundation
open Scope
open Audit
open Grants

/-! ## Creation -/

def validateCreateRequest (request : GrantRequestCreateRequest) : Option String :=
  if request.workspaceId = "" then some "invalid_workspace_id"
  else if request.requesterAgentId = "" then some "invalid_requester_agent_id"
  else if request.targetAgentId = some "" then some "invalid_target_agent_id"
  else if request.requestedTtlSeconds ≤ 0 then some "invalid_ttl"
  else if request.requestedScopes.isEmpty then some "missing_requested_scopes"
  else if request.requestedScopes.any fun scope => !isValidGrantScope scope then
    some "invalid_requested_scope"
  else if request.reason = "" then some "missing_reason"
  else none

structure CreateDraws where
  requestId : Token
  event : Token
  deriving DecidableEq, Repr

def newGrantRequest
    (request : GrantRequestCreateRequest)
    (now : Instant)
    (draws : CreateDraws) : GrantRequest where
  requestId := (presentText request.requestId).getD (newId "grq" draws.requestId)
  workspaceId := request.workspaceId
  requesterAgentId := request.requesterAgentId
  targetAgentId := (presentText request.targetAgentId).getD request.requesterAgentId
  requestedScopes := request.requestedScopes
  requestedTtlSeconds := request.requestedTtlSeconds
  reason := request.reason
  status := .pending
  createdAt := now
  taskId := request.taskId
  sessionId := request.sessionId
  boundaryId := request.boundaryId
  requesterRuntime := request.requesterRuntime
  repo := request.repo
  worktree := request.worktree

/-- Event of a change in a request's life. -/
def requestLifecycleEvent
    (eventType : EventType)
    (decision : Decision)
    (request : GrantRequest)
    (action resource : String)
    (now : Instant)
    (token : Token) : AuditEvent where
  eventId := newId "evt" token
  eventType := eventType.code
  decision := decision
  reason := eventType.code
  workspaceId := request.workspaceId
  agentId := request.requesterAgentId
  grantId := request.requestId
  grantRef := request.requestId
  action := action
  resource := resource
  scopeAttempted := joinScopes "," request.requestedScopes
  scopeMatched := none
  boundaryId := request.boundaryId
  runtime := request.requesterRuntime
  boundaryType := none
  createdAt := now

/-- Result of a creation and what it changed; no result is an exception. -/
structure CreateOutcome where
  result : Option GrantRequestCreateResult
  requests : GrantRequestRepository
  writer : AuditWriter

def createGrantRequest
    (request : GrantRequestCreateRequest)
    (now : Instant)
    (requests : GrantRequestRepository)
    (writer : AuditWriter)
    (draws : CreateDraws) : CreateOutcome :=
  match validateCreateRequest request with
  | some reason =>
      { result := some { status := .rejected, reason := reason }
        requests := requests
        writer := writer }
  | none =>
      let grantRequest := newGrantRequest request now draws
      match requests.insertRequest grantRequest with
      | .error _ =>
          { result := some { status := .rejected, reason := "duplicate_request_id" }
            requests := requests
            writer := writer }
      | .ok inserted =>
          let auditEvent := requestLifecycleEvent .grantRequested .permit grantRequest
            "request_grant" ("agent/" ++ grantRequest.targetAgentId) now draws.event
          let written := writer.write auditEvent
          { result :=
              if written.1 then
                some
                  { status := .created
                    reason := "grant_requested"
                    request := some grantRequest
                    auditEventId := some auditEvent.eventId }
              else none
            requests := inserted
            writer := written.2 }

/-! ## Decisions -/

def lookupGrantRequest (requests : GrantRequestRepository) (requestId workspaceId : String) :
    Option GrantRequest :=
  (requests.getRequest requestId).filter fun request => request.workspaceId = workspaceId

/-- Who decides, why and when. -/
structure DecisionInput where
  requestId : String
  workspaceId : String
  decidedBy : String
  decisionReason : Option String
  deriving DecidableEq, Repr

/-- Names under which an approval is audited. -/
structure ApprovalAudit where
  eventType : EventType := .grantRequestApproved
  reason : String := "grant_request_approved"
  action : String := "approve_grant_request"
  deriving DecidableEq, Repr

structure ApprovalDraws where
  grantRef : Token
  issue : IssueDraws
  event : Token
  deriving DecidableEq, Repr

/-- The request as an approval claims it. -/
def approvedRequest
    (request : GrantRequest)
    (input : DecisionInput)
    (now : Instant)
    (grantRef : Token) : GrantRequest :=
  { request with
    status := .approved
    decidedAt := some now
    decidedBy := some input.decidedBy
    decisionReason := input.decisionReason
    issuedGrantRef := some (newId "grt" grantRef) }

/-- The issuance an approval asks for. -/
def issueRequestOf (request updated : GrantRequest) : GrantIssueRequest where
  workspaceId := request.workspaceId
  targetAgentId := request.targetAgentId
  requestedScopes := request.requestedScopes
  ttlSeconds := request.requestedTtlSeconds
  grantRef := updated.issuedGrantRef

def requestDecisionEvent
    (audit : ApprovalAudit)
    (request : GrantRequest)
    (grant : Grant)
    (now : Instant)
    (token : Token) : AuditEvent where
  eventId := newId "evt" token
  eventType := audit.eventType.code
  decision := .permit
  reason := audit.reason
  workspaceId := request.workspaceId
  agentId := request.targetAgentId
  grantId := grant.grantId
  grantRef := grant.grantRef
  action := audit.action
  resource := "grant_request/" ++ request.requestId
  scopeAttempted := joinScopes "," request.requestedScopes
  scopeMatched := none
  boundaryId := request.boundaryId
  runtime := request.requesterRuntime
  boundaryType := none
  createdAt := now

/-- Result of a decision and what it changed; no result is an exception. -/
structure DecisionOutcome where
  result : Option GrantRequestDecisionResult
  requests : GrantRequestRepository
  grants : GrantRepository
  writer : AuditWriter

def failedDecision (reason : String) : GrantRequestDecisionResult where
  status := .failed
  reason := reason

def approveGrantRequest
    (input : DecisionInput)
    (audit : ApprovalAudit)
    (bounds : ScopeBoundsRepository)
    (now : Instant)
    (requests : GrantRequestRepository)
    (grants : GrantRepository)
    (writer : AuditWriter)
    (draws : ApprovalDraws) : DecisionOutcome :=
  let unchanged := fun result =>
    { result := some result, requests := requests, grants := grants, writer := writer :
      DecisionOutcome }
  match lookupGrantRequest requests input.requestId input.workspaceId with
  | none => unchanged (failedDecision "grant_request_not_found")
  | some grantRequest =>
      if grantRequest.status ≠ .pending then
        unchanged (failedDecision "grant_request_not_pending")
      else
        let updated := approvedRequest grantRequest input now draws.grantRef
        -- The claim precedes the issuance, so that a losing decider issues nothing.
        match requests.decideRequest updated with
        | (false, _) => unchanged (failedDecision "grant_request_not_pending")
        | (true, claimed) =>
            let issued := issueGrant (issueRequestOf grantRequest updated) bounds now grants
              writer draws.issue
            match issued.result with
            | none =>
                { result := none
                  requests := claimed
                  grants := issued.grants
                  writer := issued.writer }
            | some result =>
                match result.status, result.grant with
                | .issued, some grant =>
                    let auditEvent := requestDecisionEvent audit updated grant now draws.event
                    let written := issued.writer.write auditEvent
                    { result :=
                        if written.1 then
                          some
                            { status := .approved
                              reason := audit.reason
                              request := some updated
                              grant := some grant
                              auditEventId := some auditEvent.eventId }
                        else none
                      requests := claimed
                      grants := issued.grants
                      writer := written.2 }
                | _, _ =>
                    -- Refused: release the claim.
                    match claimed.updateRequest grantRequest with
                    | .error _ =>
                        { result := none
                          requests := claimed
                          grants := issued.grants
                          writer := issued.writer }
                    | .ok released =>
                        { result := some (failedDecision result.reason)
                          requests := released
                          grants := issued.grants
                          writer := issued.writer }

/-- The request as a rejection stores it. -/
def rejectedRequest (request : GrantRequest) (input : DecisionInput) (now : Instant) :
    GrantRequest :=
  { request with
    status := .rejected
    decidedAt := some now
    decidedBy := some input.decidedBy
    decisionReason := input.decisionReason }

def rejectGrantRequest
    (input : DecisionInput)
    (now : Instant)
    (requests : GrantRequestRepository)
    (grants : GrantRepository)
    (writer : AuditWriter)
    (token : Token) : DecisionOutcome :=
  let unchanged := fun result =>
    { result := some result, requests := requests, grants := grants, writer := writer :
      DecisionOutcome }
  match lookupGrantRequest requests input.requestId input.workspaceId with
  | none => unchanged (failedDecision "grant_request_not_found")
  | some grantRequest =>
      if grantRequest.status ≠ .pending then
        unchanged (failedDecision "grant_request_not_pending")
      else
        let updated := rejectedRequest grantRequest input now
        match requests.decideRequest updated with
        | (false, _) => unchanged (failedDecision "grant_request_not_pending")
        | (true, decided) =>
            let auditEvent := requestLifecycleEvent .grantRequestRejected .deny updated
              "reject_grant_request" ("grant_request/" ++ updated.requestId) now token
            let written := writer.write auditEvent
            { result :=
                if written.1 then
                  some
                    { status := .rejected
                      reason := "grant_request_rejected"
                      request := some updated
                      auditEventId := some auditEvent.eventId }
                else none
              requests := decided
              grants := grants
              writer := written.2 }

/-! ## Grants of a decision -/

/-- A decision issues at most one grant, and answers it when the audit writes
succeed. -/
theorem approveGrantRequest_grants
    (input : DecisionInput)
    (audit : ApprovalAudit)
    (bounds : ScopeBoundsRepository)
    (now : Instant)
    (requests : GrantRequestRepository)
    (grants : GrantRepository)
    {writer : AuditWriter}
    (reliable : writer.Reliable)
    (draws : ApprovalDraws) :
    let outcome := approveGrantRequest input audit bounds now requests grants writer draws
    (outcome.grants = grants ∧
      ∀ result, outcome.result = some result → result.grant = none) ∨
    ∃ request grant issuable result,
      IssuedGrant request bounds now grant issuable ∧
      grants.get? grant.grantRef = none ∧
      outcome.grants = grants.set grant.grantRef grant ∧
      outcome.result = some result ∧ result.status = .approved ∧
      result.grant = some grant := by
  intro outcome
  simp only [outcome]
  unfold approveGrantRequest
  dsimp only
  split
  · exact Or.inl ⟨rfl, by simp [failedDecision]⟩
  · next grantRequest found =>
      split
      · exact Or.inl ⟨rfl, by simp [failedDecision]⟩
      · split
        · exact Or.inl ⟨rfl, by simp [failedDecision]⟩
        · next claimed claim =>
            set updated := approvedRequest grantRequest input now draws.grantRef
            rcases issueGrant_cases (issueRequestOf grantRequest updated) bounds now grants
                writer draws.issue with
              ⟨unchangedGrants, result, refused, status, noGrant⟩ |
              ⟨grant, issuable, issued, fresh, inserted, answered⟩
            · rw [refused]
              dsimp only
              rw [status]
              dsimp only
              split
              · exact Or.inl ⟨unchangedGrants, by simp⟩
              · exact Or.inl ⟨unchangedGrants, by simp [failedDecision]⟩
            · rw [if_pos (reliable.written _)] at answered
              rw [answered]
              dsimp only
              refine Or.inr ⟨_, grant, issuable, _, issued, fresh, inserted, if_pos ?_, rfl, rfl⟩
              exact (issueGrant_reliable reliable _ bounds now grants draws.issue).written _

end GrantRequests
end Vinctor
