import Mathlib.Logic.Relation
import Mathlib.Logic.Function.Basic
import Vinctor.Service.AutoApproval

/-!
# Concurrent decisions on grant requests

Calls interleave at single repository operations.  A call is its arguments
together with the point it has reached; advancing it performs one repository
operation on the shared state.  Audit writes succeed and touch nothing that a
decision reads.

The two storage backends differ in the compare-and-set: the in-memory one
replaces the record, the table one its decision columns.  The shared state
also records which grant was issued for which request; no call reads this.
-/

namespace Vinctor
namespace Decisions

open Foundation
open Audit
open Grants
open GrantRequests
open AutoApproval

/-! ## Shared state -/

structure Shared where
  requests : GrantRequestRepository
  grants : GrantRepository
  bounds : ScopeBoundsRepository
  rules : AutoApprovalRuleRepository
  issued : List (String × Grant)

inductive Backend
  | inMemory
  | sqlite
  deriving DecidableEq, Repr

/-- The record with the decision columns of another one. -/
def withDecisionOf (current request : GrantRequest) : GrantRequest :=
  { current with
    status := request.status
    decidedAt := request.decidedAt
    decidedBy := request.decidedBy
    decisionReason := request.decisionReason
    issuedGrantRef := request.issuedGrantRef }

/-- The update of a pending row, as the table executes it. -/
def decideColumns (requests : GrantRequestRepository) (request : GrantRequest) :
    Bool × GrantRequestRepository :=
  match requests.getRequest request.requestId with
  | none => (false, requests)
  | some current =>
      if current.status ≠ .pending then (false, requests)
      else (true, requests.set request.requestId (withDecisionOf current request))

def Backend.decideRequest (backend : Backend) (requests : GrantRequestRepository)
    (request : GrantRequest) : Bool × GrantRequestRepository :=
  match backend with
  | .inMemory => requests.decideRequest request
  | .sqlite => decideColumns requests request

/-! ## Calls -/

/-- Points of an approval, each before one repository operation. -/
inductive ApprovalStage
  | looking
  | claiming (request : GrantRequest)
  | claimed (request updated : GrantRequest)
  | issuing (request updated : GrantRequest)
  | releasing (request updated : GrantRequest) (reason : String)
  | finished (result : GrantRequestDecisionResult)
  deriving DecidableEq, Repr

inductive AutoStage
  | looking
  | evaluating (request : GrantRequest)
  | finished (result : GrantRequestDecisionResult)
  deriving DecidableEq, Repr

inductive RejectionStage
  | looking
  | rejecting (request : GrantRequest)
  | finished (result : GrantRequestDecisionResult)
  deriving DecidableEq, Repr

inductive IssueStage
  | checking
  | inserting
  | finished (result : GrantIssueResult)
  deriving DecidableEq, Repr

/-- An approval made by a rule carries the evaluated request and the rule. -/
inductive Call
  | approve (input : DecisionInput) (auto : Option (GrantRequest × AutoApprovalRule))
      (now : Instant) (stage : ApprovalStage)
  | autoApprove (requestId workspaceId decidedBy : String) (now : Instant) (stage : AutoStage)
  | reject (input : DecisionInput) (now : Instant) (stage : RejectionStage)
  | issue (request : GrantIssueRequest) (now : Instant) (stage : IssueStage)
  deriving DecidableEq, Repr

/-- A call that has not performed an operation yet. -/
inductive Call.Initial : Call → Prop
  | approve (input : DecisionInput) (now : Instant) :
      Call.Initial (.approve input none now .looking)
  | autoApprove (requestId workspaceId decidedBy : String) (now : Instant) :
      Call.Initial (.autoApprove requestId workspaceId decidedBy now .looking)
  | reject (input : DecisionInput) (now : Instant) :
      Call.Initial (.reject input now .looking)
  | issue (request : GrantIssueRequest) (now : Instant) :
      Call.Initial (.issue request now .checking)

/-- What a finished decision answers. -/
def Call.decision : Call → Option GrantRequestDecisionResult
  | .approve _ _ _ (.finished result) => some result
  | .autoApprove _ _ _ _ (.finished result) => some result
  | .reject _ _ (.finished result) => some result
  | _ => none

/-- The call has returned. -/
def Call.Finished : Call → Prop
  | .approve _ _ _ (.finished _) => True
  | .autoApprove _ _ _ _ (.finished _) => True
  | .reject _ _ (.finished _) => True
  | .issue _ _ (.finished _) => True
  | _ => False

/-- The pending record that a call has read and not yet decided. -/
def Call.reading : Call → Option GrantRequest
  | .approve _ _ _ (.claiming request) => some request
  | .reject _ _ (.rejecting request) => some request
  | _ => none

/-- The record that a call has claimed, with its claim. -/
def Call.holding : Call → Option (GrantRequest × GrantRequest)
  | .approve _ _ _ (.claimed request updated) => some (request, updated)
  | .approve _ _ _ (.issuing request updated) => some (request, updated)
  | .approve _ _ _ (.releasing request updated _) => some (request, updated)
  | _ => none

/-- Wrap the result of an approval that a rule made. -/
def wrapResult (auto : Option (GrantRequest × AutoApprovalRule))
    (result : GrantRequestDecisionResult) : GrantRequestDecisionResult :=
  match auto with
  | none => result
  | some (request, rule) => autoResult request rule result

def approvalAudit (auto : Option (GrantRequest × AutoApprovalRule)) : ApprovalAudit :=
  match auto with
  | none => {}
  | some _ => autoApprovalAudit

/-- One operation of an approval. -/
def approvalStep
    (backend : Backend)
    (input : DecisionInput)
    (auto : Option (GrantRequest × AutoApprovalRule))
    (now : Instant)
    (draws : ApprovalDraws)
    (shared : Shared) : ApprovalStage → Option (ApprovalStage × Shared)
  | .looking =>
      match lookupGrantRequest shared.requests input.requestId input.workspaceId with
      | none =>
          some (.finished (wrapResult auto (failedDecision "grant_request_not_found")), shared)
      | some request =>
          if request.status ≠ .pending then
            some (.finished (wrapResult auto (failedDecision "grant_request_not_pending")),
              shared)
          else some (.claiming request, shared)
  | .claiming request =>
      let updated := approvedRequest request input now draws.grantRef
      match backend.decideRequest shared.requests updated with
      | (false, _) =>
          some (.finished (wrapResult auto (failedDecision "grant_request_not_pending")),
            shared)
      | (true, requests) => some (.claimed request updated, { shared with requests := requests })
  | .claimed request updated =>
      let issueRequest := issueRequestOf request updated
      match validateIssueRequest issueRequest (appliedTtlSeconds issueRequest.ttlSeconds) with
      | some reason => some (.releasing request updated reason, shared)
      | none =>
          match checkIssuable issueRequest
              (shared.bounds.get? (issueRequest.workspaceId, issueRequest.targetAgentId)) with
          | .error refusal => some (.releasing request updated refusal.result.reason, shared)
          | .ok _ => some (.issuing request updated, shared)
  | .issuing request updated =>
      let grant := newGrant (issueRequestOf request updated) now draws.issue
      match shared.grants.insert grant with
      | .error _ => some (.releasing request updated "duplicate_grant_ref", shared)
      | .ok grants =>
          some
            (.finished (wrapResult auto
              { status := .approved
                reason := (approvalAudit auto).reason
                request := some updated
                grant := some grant
                auditEventId := some (newId "evt" draws.event) }),
            { shared with
              grants := grants
              issued := shared.issued ++ [(request.requestId, grant)] })
  | .releasing request _ reason =>
      match shared.requests.updateRequest request with
      | .error _ => none
      | .ok requests =>
          some (.finished (wrapResult auto (failedDecision reason)),
            { shared with requests := requests })
  | .finished _ => none

/-- One operation of a call.  A finished call performs none. -/
def Call.step
    (backend : Backend)
    (draws : ApprovalDraws)
    (call : Call)
    (shared : Shared) : Option (Call × Shared) :=
  match call with
  | .approve input auto now stage =>
      (approvalStep backend input auto now draws shared stage).map fun next =>
        (.approve input auto now next.1, next.2)
  | .autoApprove requestId workspaceId decidedBy now stage =>
      match stage with
      | .looking =>
          match lookupGrantRequest shared.requests requestId workspaceId with
          | none =>
              some (.autoApprove requestId workspaceId decidedBy now
                (.finished (failedDecision "grant_request_not_found")), shared)
          | some request =>
              some (.autoApprove requestId workspaceId decidedBy now (.evaluating request),
                shared)
      | .evaluating request =>
          let evaluation := evaluateAutoApproval request shared.rules
          match evaluation.decision, evaluation.rule with
          | .wouldApprove, some rule =>
              some (.approve (autoDecisionInput request rule decidedBy) (some (request, rule))
                now .looking, shared)
          | _, _ =>
              some (.autoApprove requestId workspaceId decidedBy now
                (.finished
                  { status := .failed
                    reason := evaluation.reason
                    request := some evaluation.request }), shared)
      | .finished _ => none
  | .reject input now stage =>
      match stage with
      | .looking =>
          match lookupGrantRequest shared.requests input.requestId input.workspaceId with
          | none =>
              some (.reject input now (.finished (failedDecision "grant_request_not_found")),
                shared)
          | some request =>
              if request.status ≠ .pending then
                some (.reject input now
                  (.finished (failedDecision "grant_request_not_pending")), shared)
              else some (.reject input now (.rejecting request), shared)
      | .rejecting request =>
          let updated := rejectedRequest request input now
          match backend.decideRequest shared.requests updated with
          | (false, _) =>
              some (.reject input now
                (.finished (failedDecision "grant_request_not_pending")), shared)
          | (true, requests) =>
              some
                (.reject input now
                  (.finished
                    { status := .rejected
                      reason := "grant_request_rejected"
                      request := some updated
                      auditEventId := some (newId "evt" draws.event) }),
                { shared with requests := requests })
      | .finished _ => none
  | .issue request now stage =>
      match stage with
      | .checking =>
          match validateIssueRequest request (appliedTtlSeconds request.ttlSeconds) with
          | some reason =>
              some (.issue request now
                (.finished { status := .rejected, reason := reason }), shared)
          | none =>
              match checkIssuable request
                  (shared.bounds.get? (request.workspaceId, request.targetAgentId)) with
              | .error refusal =>
                  some (.issue request now (.finished refusal.result), shared)
              | .ok _ => some (.issue request now .inserting, shared)
      | .inserting =>
          let grant := newGrant request now draws.issue
          match shared.grants.insert grant with
          | .error _ =>
              some (.issue request now
                (.finished { status := .rejected, reason := "duplicate_grant_ref" }), shared)
          | .ok grants =>
              some
                (.issue request now
                  (.finished
                    { status := .issued
                      reason := "grant_issued"
                      grant := some grant
                      auditEventId := some (newId "evt" draws.issue.event) }),
                { shared with grants := grants })
      | .finished _ => none

/-! ## Worlds -/

/-- The shared state and the calls, by call number. -/
structure World where
  shared : Shared
  calls : Nat → Option Call

/-- One step of the system: a call begins or advances, or a call that consists
of one repository operation runs. -/
inductive Step (backend : Backend) : World → World → Prop
  | begin
      (world : World) (id : Nat) (call : Call)
      (unused : world.calls id = none)
      (initial : call.Initial) :
      Step backend world { world with calls := Function.update world.calls id (some call) }
  | advance
      (world : World) (id : Nat) (call next : Call) (shared : Shared) (draws : ApprovalDraws)
      (running : world.calls id = some call)
      (moves : call.step backend draws world.shared = some (next, shared)) :
      Step backend world
        { shared := shared, calls := Function.update world.calls id (some next) }
  | setBounds
      (world : World) (input : SetBoundsInput) (bounds : ScopeBoundsRepository)
      (accepted : setBounds world.shared.bounds input = .ok bounds) :
      Step backend world { world with shared := { world.shared with bounds := bounds } }
  | revokeGrant
      (world : World) (grantRef workspaceId : String) :
      Step backend world
        { world with
          shared :=
            { world.shared with
              grants := (world.shared.grants.revoke grantRef workspaceId).2 } }
  | createGrantRequest
      (world : World) (request : GrantRequestCreateRequest) (now : Instant)
      (draws : CreateDraws) (requests : GrantRequestRepository)
      (valid : validateCreateRequest request = none)
      (inserted : world.shared.requests.insertRequest (newGrantRequest request now draws) =
        .ok requests) :
      Step backend world { world with shared := { world.shared with requests := requests } }
  | changeRules
      (world : World) (rules : AutoApprovalRuleRepository) :
      Step backend world { world with shared := { world.shared with rules := rules } }

/-- No requests, no grants, no calls. -/
structure World.Initial (world : World) : Prop where
  requests : world.shared.requests = Dict.empty
  grants : world.shared.grants = Dict.empty
  issued : world.shared.issued = []
  calls : ∀ id, world.calls id = none

/-- Worlds that a run can lead to. -/
def Reaches (backend : Backend) : World → World → Prop :=
  Relation.ReflTransGen (Step backend)

/-- No call is in progress. -/
def World.Quiescent (world : World) : Prop :=
  ∀ id call, world.calls id = some call → call.Finished

end Decisions
end Vinctor
