import Vinctor.Core.Enforce
import Vinctor.Service.Audit
import Vinctor.Service.Pop
import Vinctor.Service.Repositories

/-!
# The enforcement endpoints

An agent enforces its own grant; an enforcement point enforces a grant on
behalf of an agent.  Both look the grant up, check its ownership, and evaluate
and record the decision.  The delegated endpoint derives the workspace from the
authenticated enforcement point only, and checks the subject token and its
proof of possession in between.

A call builds at most one audit event, so it takes one random token.
-/

namespace Vinctor
namespace V1

open Foundation
open Scope
open Enforce
open Audit
open Pop

/-- One message for every grant that the caller may not use. -/
def grantForbiddenMessage : String := "grant is not accessible for this request"

def preAuditError (statusCode : Nat) (error reason : String) : V1EnforceResponse where
  statusCode := statusCode
  error := some error
  reason := some reason

def invalidActionReason (action : String) : String :=
  if action = "push" then
    "action 'push' is not a recognized v1 action verb; use 'write' for git push operations"
  else "action '" ++ action ++ "' is not a recognized v1 action verb"

def responseFromDecision (decision : DecisionResult) (auditEvent : AuditEvent) :
    V1EnforceResponse :=
  if decision.decision = .permit then
    { statusCode := 200
      decision := some .permit
      auditEventId := some auditEvent.eventId }
  else
    let agentReason := agentFacingReason decision.reason.code
    { statusCode := 403
      decision := some .deny
      error := some agentReason
      reason := some agentReason
      auditEventId := some auditEvent.eventId }

/-- What `evaluateAndRecord` is called with. -/
structure EvaluationInput where
  grant : Grant
  action : String
  resource : String
  boundaryId : Option String
  now : Instant
  boundaryRegistry : Option BoundaryLookup
  enforcingPrincipal : Option String := none
  subjectTokenVerified : Bool := false
  tokenId : Option String := none
  requireBoundary : Bool := false

namespace EvaluationInput

def enforceInput (input : EvaluationInput) : EnforceInput where
  grant := input.grant
  action := input.action
  resource := input.resource
  now := input.now
  boundaryId := input.boundaryId
  boundaryRegistry := input.boundaryRegistry
  requireBoundary := input.requireBoundary

/-- The event that records the decision. -/
def auditEvent (input : EvaluationInput) (token : Token) : AuditEvent :=
  buildAuditEvent
    { decision := evaluateEnforce input.enforceInput
      createdAt := input.now
      enforcingPrincipal := input.enforcingPrincipal
      subjectTokenVerified := input.subjectTokenVerified
      tokenId := input.tokenId }
    token

end EvaluationInput

def evaluateAndRecord (input : EvaluationInput) (writer : AuditWriter) (token : Token) :
    V1EnforceResponse × AuditWriter :=
  if isValidRequestedAction input.action = false then
    (preAuditError 400 "scope_invalid" (invalidActionReason input.action), writer)
  else if isValidRequestedResource input.resource = false then
    (preAuditError 400 "scope_invalid"
      ("resource '" ++ input.resource ++ "' is not a valid v1 resource path"), writer)
  else
    let written := writer.write (input.auditEvent token)
    if written.1 then
      (responseFromDecision (evaluateEnforce input.enforceInput) (input.auditEvent token),
        written.2)
    else
      (preAuditError 503 "service_unavailable"
        "audit write failed; no decision was recorded", written.2)

/-! ## The agent's endpoint -/

/-- What the agent's endpoint is wired to. -/
structure EnforceServices where
  getByRef : GrantLookup
  boundaryRegistry : Option BoundaryLookup := none
  settings : Option EnforcementSettings := none

/-- A mandate of the wired settings; without settings nothing is mandated. -/
def mandated
    (settings : Option EnforcementSettings)
    (mandate : EnforcementSettings → String → String → Bool)
    (workspaceId agentId : String) : Bool :=
  match settings with
  | some repository => mandate repository workspaceId agentId
  | none => false

def enforceV1Contract
    (services : EnforceServices)
    (request : V1EnforceRequest)
    (now : Instant)
    (writer : AuditWriter)
    (token : Token) : V1EnforceResponse × AuditWriter :=
  match services.getByRef request.grantRef with
  | .error _ =>
      (preAuditError 503 "service_unavailable"
        "grant lookup failed; no decision was recorded", writer)
  | .ok found =>
      match found.filter fun grant =>
          grant.workspaceId = request.workspaceId ∧ grant.agentId = request.agentId with
      | none =>
          -- Unknown and foreign references leave through this one exit.
          (preAuditError 403 "forbidden" grantForbiddenMessage,
            writer.recordRejection
              (buildRejectionAuditEvent
                { reasonCode := .agentGrantMismatch
                  workspaceId := request.workspaceId
                  agentId := request.agentId
                  action := request.action
                  resource := request.resource
                  createdAt := now
                  boundaryId := request.boundaryId }
                token))
      | some grant =>
          evaluateAndRecord
            { grant := grant
              action := request.action
              resource := request.resource
              boundaryId := request.boundaryId
              now := now
              boundaryRegistry := services.boundaryRegistry
              requireBoundary :=
                mandated services.settings EnforcementSettings.isBoundaryRequired
                  request.workspaceId request.agentId }
            writer token

/-! ## The delegated endpoint -/

/-- What the delegated endpoint is wired to.  The workspace of the enforcement
point comes from its key. -/
structure DelegatedServices extends EnforceServices where
  pepWorkspaceId : Option String := none
  getByHash : Option SubjectTokenLookup := none
  hashKey : String → String
  hmac : KeyedHash
  popSkewSeconds : Int := 30

/-- The token a request presents, when the repository knows it.  A lookup that
raises finds nothing. -/
def DelegatedServices.findToken (services : DelegatedServices) (subjectToken : String) :
    Option SubjectToken :=
  match services.getByHash with
  | none => none
  | some getByHash =>
      match getByHash (services.hashKey subjectToken) with
      | .error _ => none
      | .ok token => token

/-- No token, or a blank one. -/
def isBlankToken (subjectToken : Option String) : Bool :=
  match subjectToken with
  | none => true
  | some text => Text.isBlank text.toList

/-- Audience, identity or binding of the token disagree with the request or
with the grant. -/
def tokenMismatches
    (token : SubjectToken)
    (request : V1DelegatedEnforceRequest)
    (trustedWs : String)
    (grant : Grant) : Bool :=
  token.audience != request.pepId
    || token.workspaceId != trustedWs
    || token.agentId != request.agentId
    || token.workspaceId != request.workspaceId
    || token.grantRef != request.grantRef
    || token.agentId != grant.agentId
    || token.workspaceId != grant.workspaceId
    || token.grantRef != grant.grantRef
    || token.boundAction.any (· != request.action)
    || token.boundResource.any (· != request.resource)

/-- The verification of a request's proof against a token with a secret. -/
def popCallOf
    (token : SubjectToken)
    (popSecret : String)
    (request : V1DelegatedEnforceRequest)
    (now : Instant) : PopCall where
  proof := request.subjectTokenProof
  popSecret := popSecret
  tokenId := token.tokenId
  action := request.action
  resource := request.resource
  now := now

/-- Verify the proof in the wired store; with no store it fails. -/
def verifyTokenPop
    (services : DelegatedServices)
    (call : PopCall)
    (replay : Option ReplayStore) : Bool × Option ReplayStore :=
  match replay with
  | none => (false, none)
  | some store =>
      let outcome := verifyPop services.hmac services.popSkewSeconds call store
      (outcome.1.getD false, some outcome.2)

/-- The checks of a presented token, in the order of their audit codes. -/
def verifySubjectToken
    (services : DelegatedServices)
    (request : V1DelegatedEnforceRequest)
    (trustedWs : String)
    (grant : Grant)
    (isPopRequired : Bool)
    (now : Instant)
    (replay : Option ReplayStore)
    (subjectToken : String) : Except ReasonCode SubjectToken × Option ReplayStore :=
  match services.findToken subjectToken with
  | none => (.error .subjectTokenNotFound, replay)
  | some token =>
      if token.revokedAt.isSome then (.error .subjectTokenRevoked, replay)
      else if token.expiresAt ≤ now then (.error .subjectTokenExpired, replay)
      else if tokenMismatches token request trustedWs grant then
        (.error .subjectTokenMismatch, replay)
      else
        match token.popSecret with
        | none =>
            if isPopRequired then (.error .popRequired, replay) else (.ok token, replay)
        | some popSecret =>
            let verified :=
              verifyTokenPop services (popCallOf token popSecret request now) replay
            if verified.1 then (.ok token, verified.2)
            else (.error .popProofInvalid, verified.2)

structure DelegatedOutcome where
  response : V1EnforceResponse
  writer : AuditWriter
  replay : Option ReplayStore

/-- Rejection event of a delegated request, attributed to the trusted
workspace and to the enforcement point. -/
def delegatedRejection
    (request : V1DelegatedEnforceRequest)
    (trustedWs : String)
    (reasonCode : ReasonCode)
    (now : Instant)
    (token : Token) : AuditEvent :=
  buildRejectionAuditEvent
    { reasonCode := reasonCode
      workspaceId := trustedWs
      agentId := request.agentId
      action := request.action
      resource := request.resource
      createdAt := now
      boundaryId := request.boundaryId
      enforcingPrincipal := some request.pepId }
    token

/-- The evaluation of a delegated request, with the token that proved it. -/
def delegatedEvaluation
    (services : DelegatedServices)
    (request : V1DelegatedEnforceRequest)
    (trustedWs : String)
    (grant : Grant)
    (now : Instant)
    (proven : Option SubjectToken) : EvaluationInput where
  grant := grant
  action := request.action
  resource := request.resource
  boundaryId := request.boundaryId
  now := now
  boundaryRegistry := services.boundaryRegistry
  enforcingPrincipal := some request.pepId
  subjectTokenVerified := proven.isSome
  tokenId := proven.map (·.tokenId)
  requireBoundary :=
    mandated services.settings EnforcementSettings.isBoundaryRequired trustedWs request.agentId

/-- Record a rejection and answer it. -/
def rejectDelegated
    (request : V1DelegatedEnforceRequest)
    (trustedWs : String)
    (now : Instant)
    (writer : AuditWriter)
    (eventToken : Token)
    (reasonCode : ReasonCode)
    (reason : String)
    (replay : Option ReplayStore) : DelegatedOutcome where
  response := preAuditError 403 "forbidden" reason
  writer := writer.recordRejection
    (delegatedRejection request trustedWs reasonCode now eventToken)
  replay := replay

/-- Evaluate the request and record the decision. -/
def decideDelegated
    (services : DelegatedServices)
    (request : V1DelegatedEnforceRequest)
    (trustedWs : String)
    (grant : Grant)
    (now : Instant)
    (writer : AuditWriter)
    (eventToken : Token)
    (proven : Option SubjectToken)
    (replay : Option ReplayStore) : DelegatedOutcome :=
  let recorded := evaluateAndRecord
    (delegatedEvaluation services request trustedWs grant now proven) writer eventToken
  { response := recorded.1, writer := recorded.2, replay := replay }

/-- The part of the endpoint after the grant is known to belong to the
asserted agent in the trusted workspace: the mandates, the presented token and
the decision. -/
def enforceOwnedGrant
    (services : DelegatedServices)
    (request : V1DelegatedEnforceRequest)
    (trustedWs : String)
    (grant : Grant)
    (now : Instant)
    (writer : AuditWriter)
    (replay : Option ReplayStore)
    (eventToken : Token) : DelegatedOutcome :=
  let requireSubjectToken := mandated services.settings
    EnforcementSettings.isSubjectTokenRequired trustedWs request.agentId
  let isPopRequired := mandated services.settings
    EnforcementSettings.isPopRequired trustedWs request.agentId
  if (requireSubjectToken || isPopRequired) && isBlankToken request.subjectToken then
    rejectDelegated request trustedWs now writer eventToken
      (if requireSubjectToken then .subjectTokenRequired else .popRequired)
      "a subject token is required" replay
  else
    match request.subjectToken with
    | none =>
        decideDelegated services request trustedWs grant now writer eventToken none replay
    | some subjectToken =>
        match verifySubjectToken services request trustedWs grant isPopRequired now replay
            subjectToken with
        | (.error reasonCode, replay) =>
            rejectDelegated request trustedWs now writer eventToken reasonCode
              "subject token is not valid" replay
        | (.ok token, replay) =>
            decideDelegated services request trustedWs grant now writer eventToken
              (some token) replay

def delegatedEnforceV1Contract
    (services : DelegatedServices)
    (request : V1DelegatedEnforceRequest)
    (now : Instant)
    (writer : AuditWriter)
    (replay : Option ReplayStore)
    (eventToken : Token) : DelegatedOutcome :=
  match presentText services.pepWorkspaceId with
  | none =>
      -- Fail closed: the asserted workspace never stands in for the trusted one.
      { response := preAuditError 403 "forbidden"
          "delegated enforce requires a trusted PEP workspace identity"
        writer := writer
        replay := replay }
  | some trustedWs =>
      if request.workspaceId ≠ "" ∧ request.workspaceId ≠ trustedWs then
        rejectDelegated request trustedWs now writer eventToken .agentGrantMismatch
          grantForbiddenMessage replay
      else
        match services.getByRef request.grantRef with
        | .error _ =>
            { response := preAuditError 503 "service_unavailable"
                "grant lookup failed; no decision was recorded"
              writer := writer
              replay := replay }
        | .ok found =>
            match found.filter fun grant =>
                grant.workspaceId = trustedWs ∧ grant.agentId = request.agentId with
            | none =>
                rejectDelegated request trustedWs now writer eventToken .agentGrantMismatch
                  grantForbiddenMessage replay
            | some grant =>
                enforceOwnedGrant services request trustedWs grant now writer replay
                  eventToken

end V1
end Vinctor
