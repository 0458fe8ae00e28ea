import Vinctor.Service.Simulations

/-!
# Simulation agrees with enforcement

The two endpoints are written separately.  On one request, in one state and at
one time they nevertheless agree, as long as audit writes succeed: each answer
of one determines the answer of the other.  Simulation gates nothing, so its
only trace is the event of an answer.
-/

namespace Vinctor
namespace V1

open Scope
open Enforce
open Audit

/-- The request that a simulation stands for. -/
def simulatedRequest (request : V1SimulateRequest) : V1EnforceRequest where
  workspaceId := request.workspaceId
  agentId := request.agentId
  grantRef := request.grantRef
  action := request.action
  resource := request.resource
  boundaryId := request.boundaryId

/-- A simulation reports what enforcement answers. -/
structure Reports (simulated : V1SimulateResponse) (enforced : V1EnforceResponse) : Prop where
  permit : simulated.wouldDecision = some .permit ↔ enforced.decision = some .permit
  deny : enforced.decision = some .deny →
    simulated.wouldDecision = some .deny ∧ simulated.error = enforced.error ∧
      simulated.reason = enforced.reason
  forbidden :
    (enforced.statusCode = 403 ∧ enforced.error = some "forbidden" ∧
        enforced.decision = none) ↔
      (simulated.wouldDecision = some .deny ∧ simulated.error = some "forbidden")
  failure : ∀ statusCode ∈ [400, 503], ∀ error,
    (enforced.statusCode = statusCode ∧ enforced.error = error) ↔
      (simulated.statusCode = statusCode ∧ simulated.error = error)

/-- Simulation and enforcement both fail before they decide. -/
theorem reports_preAuditError
    (statusCode : Nat)
    (expected : statusCode ≠ 403)
    (error simulatedReason enforcedReason : String) :
    Reports (simulationError statusCode error simulatedReason)
      (preAuditError statusCode error enforcedReason) where
  permit := by simp [simulationError, preAuditError]
  deny := by simp [preAuditError]
  forbidden := by simp [simulationError, preAuditError, expected]
  failure := by simp [simulationError, preAuditError]

/-- The forbidden exit is simulated as a denial. -/
theorem reports_forbidden (eventId : String) :
    Reports
      { statusCode := 200
        wouldDecision := some .deny
        error := some "forbidden"
        reason := some grantForbiddenMessage
        auditEventId := some eventId }
      (preAuditError 403 "forbidden" grantForbiddenMessage) where
  permit := by simp [preAuditError]
  deny := by simp [preAuditError]
  forbidden := by simp [preAuditError]
  failure := by simp [preAuditError]

/-- No reason of a decision is shown as the error of the forbidden exit. -/
theorem agentFacingReason_ne_forbidden (reason : EnforceReason) :
    agentFacingReason reason.code ≠ "forbidden" := by
  cases reason <;> decide

/-- A decision is simulated with its coarse reason. -/
theorem reports_decision
    (decision : DecisionResult)
    (simulatedId : String)
    (event : AuditEvent) :
    Reports
      { statusCode := 200
        wouldDecision := some decision.decision
        error :=
          if decision.decision = .permit then none
          else some (agentFacingReason decision.reason.code)
        reason :=
          if decision.decision = .permit then none
          else some (agentFacingReason decision.reason.code)
        auditEventId := some simulatedId }
      (responseFromDecision decision event) := by
  have named := agentFacingReason_ne_forbidden decision.reason
  unfold responseFromDecision
  cases decided : decision.decision with
  | permit =>
      exact
        { permit := by simp
          deny := by simp
          forbidden := by simp
          failure := by simp }
  | deny =>
      exact
        { permit := by simp
          deny := by simp
          forbidden := by simp [named]
          failure := by simp }

/-! ## The trace of a simulation -/

/-- The writer gained one event exactly when the response is an answer. -/
def LeavesOneEvent
    (writer : AuditWriter)
    (outcome : V1SimulateResponse × AuditWriter) : Prop :=
  (outcome.1.statusCode = 200 →
    ∃ event, outcome.1.auditEventId = some event.eventId ∧
      outcome.2 = { writer with attempts := writer.attempts ++ [⟨event, true⟩] }) ∧
  (outcome.1.statusCode ≠ 200 → outcome.2 = writer)

theorem leavesOneEvent_error
    (writer : AuditWriter)
    {statusCode : Nat}
    (failing : statusCode ≠ 200)
    (error reason : String) :
    LeavesOneEvent writer (simulationError statusCode error reason, writer) :=
  ⟨fun answered => absurd answered failing, fun _ => rfl⟩

section Reliable

variable {writer : AuditWriter}

theorem recordSimulation_of_reliable
    (reliable : writer.Reliable)
    (event : AuditEvent)
    (response : V1SimulateResponse) :
    recordSimulation writer event response =
      (response, { writer with attempts := writer.attempts ++ [⟨event, true⟩] }) := by
  unfold recordSimulation AuditWriter.write
  simp only [reliable writer.attempts event, if_true]

theorem leavesOneEvent_recordSimulation
    (reliable : writer.Reliable)
    (event : AuditEvent)
    {response : V1SimulateResponse}
    (answers : response.statusCode = 200)
    (names : response.auditEventId = some event.eventId) :
    LeavesOneEvent writer (recordSimulation writer event response) := by
  rw [recordSimulation_of_reliable reliable]
  exact ⟨fun _ => ⟨event, names, rfl⟩, fun failed => absurd answers failed⟩

/-- Once the grant is known to be the caller's, enforcement fails to validate
what simulation fails to validate, and both decide alike. -/
theorem evaluateAndRecord_of_reliable
    (reliable : writer.Reliable)
    (input : EvaluationInput)
    (token : Token) :
    (evaluateAndRecord input writer token).1 =
      if isValidRequestedAction input.action = false then
        preAuditError 400 "scope_invalid" (invalidActionReason input.action)
      else if isValidRequestedResource input.resource = false then
        preAuditError 400 "scope_invalid"
          ("resource '" ++ input.resource ++ "' is not a valid v1 resource path")
      else responseFromDecision (evaluateEnforce input.enforceInput) (input.auditEvent token) := by
  unfold evaluateAndRecord
  dsimp only
  rw [reliable.written, if_pos rfl]
  split_ifs <;> rfl

/-- On one request, simulation and enforcement agree, and simulation leaves
nothing behind but the event of its answer. -/
theorem simulation_agrees_with_enforcement
    (services : EnforceServices)
    (request : V1SimulateRequest)
    (now : Instant)
    (reliable : writer.Reliable)
    (simulateToken enforceToken : Token) :
    Reports (simulateV1Contract services request now writer simulateToken).1
        (enforceV1Contract services (simulatedRequest request) now writer enforceToken).1 ∧
      LeavesOneEvent writer (simulateV1Contract services request now writer simulateToken) := by
  unfold simulateV1Contract enforceV1Contract simulatedRequest
  dsimp only
  cases services.getByRef request.grantRef with
  | error =>
      exact ⟨reports_preAuditError 503 (by decide) _ _ _,
        leavesOneEvent_error writer (by decide) _ _⟩
  | ok found =>
      dsimp only
      cases found.filter fun grant =>
          grant.workspaceId = request.workspaceId ∧ grant.agentId = request.agentId with
      | none =>
          refine ⟨?_, leavesOneEvent_recordSimulation reliable _ rfl rfl⟩
          dsimp only
          rw [recordSimulation_of_reliable reliable]
          apply reports_forbidden
      | some grant =>
          dsimp only
          rw [evaluateAndRecord_of_reliable reliable]
          dsimp only
          by_cases action : isValidRequestedAction request.action = false
          · rw [if_pos action, if_pos action]
            exact ⟨reports_preAuditError 400 (by decide) _ _ _,
              leavesOneEvent_error writer (by decide) _ _⟩
          · rw [if_neg action, if_neg action]
            by_cases resource : isValidRequestedResource request.resource = false
            · rw [if_pos resource, if_pos resource]
              exact ⟨reports_preAuditError 400 (by decide) _ _ _,
                leavesOneEvent_error writer (by decide) _ _⟩
            · rw [if_neg resource, if_neg resource]
              refine ⟨?_, leavesOneEvent_recordSimulation reliable _ rfl rfl⟩
              rw [recordSimulation_of_reliable reliable]
              apply reports_decision

end Reliable

/-- A service without grants. -/
def knowingNothing : EnforceServices where
  getByRef := fun _ => .ok none

/-- Both endpoints on a reference that nobody knows. -/
theorem simulation_agrees_on_unknown :
    AuditWriter.inMemory.Reliable ∧
      Reports
        (simulateV1Contract knowingNothing
          { workspaceId := "ws", agentId := "agent", grantRef := "grt", action := "read"
            resource := "file/a" } 5 AuditWriter.inMemory "a").1
        (enforceV1Contract knowingNothing
          { workspaceId := "ws", agentId := "agent", grantRef := "grt", action := "read"
            resource := "file/a" } 5 AuditWriter.inMemory "b").1 := by
  have reliable : AuditWriter.inMemory.Reliable := fun _ _ => rfl
  exact ⟨reliable,
    (simulation_agrees_with_enforcement knowingNothing
      { workspaceId := "ws", agentId := "agent", grantRef := "grt", action := "read"
        resource := "file/a" } 5 reliable "a" "b").1⟩

end V1
end Vinctor
