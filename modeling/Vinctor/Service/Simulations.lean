import Vinctor.Service.V1Enforce

/-!
# Simulation

The simulation endpoint computes and records what enforcement would decide,
without gating anything.  A reference that the caller may not use is itself a
simulated denial.
-/

namespace Vinctor
namespace V1

open Scope
open Enforce
open Audit

def simulationError (statusCode : Nat) (error reason : String) : V1SimulateResponse where
  statusCode := statusCode
  error := some error
  reason := some reason

/-- Write the event, and answer only what was recorded. -/
def recordSimulation
    (writer : AuditWriter)
    (event : AuditEvent)
    (response : V1SimulateResponse) : V1SimulateResponse × AuditWriter :=
  let written := writer.write event
  if written.1 then (response, written.2)
  else
    (simulationError 503 "service_unavailable"
      "audit write failed; no simulation was recorded", written.2)

/-- Event of a simulated decision. -/
def simulationEvent (decision : DecisionResult) (now : Instant) (token : Token) :
    AuditEvent :=
  { buildAuditEvent { decision := decision, createdAt := now } token with
    eventType :=
      if decision.decision = .permit then EventType.actionWouldPermit.code
      else EventType.actionWouldDeny.code }

def simulateV1Contract
    (services : EnforceServices)
    (request : V1SimulateRequest)
    (now : Instant)
    (writer : AuditWriter)
    (token : Token) : V1SimulateResponse × AuditWriter :=
  match services.getByRef request.grantRef with
  | .error _ =>
      (simulationError 503 "service_unavailable"
        "grant lookup failed; no simulation was recorded", writer)
  | .ok found =>
      match found.filter fun grant =>
          grant.workspaceId = request.workspaceId ∧ grant.agentId = request.agentId with
      | none =>
          let event := buildRejectionAuditEvent
            { reasonCode := .agentGrantMismatch
              workspaceId := request.workspaceId
              agentId := request.agentId
              action := request.action
              resource := request.resource
              createdAt := now
              boundaryId := request.boundaryId
              eventType := .actionWouldDeny }
            token
          recordSimulation writer event
            { statusCode := 200
              wouldDecision := some .deny
              error := some "forbidden"
              reason := some grantForbiddenMessage
              auditEventId := some event.eventId }
      | some grant =>
          if isValidRequestedAction request.action = false then
            (simulationError 400 "scope_invalid"
              ("action '" ++ request.action ++ "' is not valid"), writer)
          else if isValidRequestedResource request.resource = false then
            (simulationError 400 "scope_invalid"
              ("resource '" ++ request.resource ++ "' is not valid"), writer)
          else
            let decision := evaluateEnforce
              { grant := grant
                action := request.action
                resource := request.resource
                now := now
                boundaryId := request.boundaryId
                boundaryRegistry := services.boundaryRegistry
                requireBoundary :=
                  mandated services.settings EnforcementSettings.isBoundaryRequired
                    request.workspaceId request.agentId }
            let event := simulationEvent decision now token
            let agentReason :=
              if decision.decision = .permit then none
              else some (agentFacingReason decision.reason.code)
            recordSimulation writer event
              { statusCode := 200
                wouldDecision := some decision.decision
                error := agentReason
                reason := agentReason
                auditEventId := some event.eventId }

end V1
end Vinctor
