import Vinctor.Service.V1Enforce

/-!
# Exits of the enforcement endpoints

Every path of both endpoints leaves through one of four exits: without an audit
event, with a rejection event, with a decision event that could not be written,
or with a recorded decision.  What an answer says about the audit trail is read
off the exit it took.
-/

namespace Vinctor
namespace V1

open Foundation
open Scope
open Enforce
open Audit
open Pop

/-- The exits.  Every event satisfies the attribution that the endpoint
promises. -/
inductive Exit (attributed : AuditEvent → Prop) (writer : AuditWriter) :
    V1EnforceResponse → AuditWriter → Prop
  | unrecorded (statusCode : Nat) (error reason : String) :
      Exit attributed writer (preAuditError statusCode error reason) writer
  | rejected
      (statusCode : Nat) (error reason : String)
      (event : AuditEvent)
      (rejection : event.eventType = EventType.accessRejected.code)
      (attribution : attributed event) :
      Exit attributed writer (preAuditError statusCode error reason)
        (writer.recordRejection event)
  | lost
      (error reason : String)
      (event : AuditEvent)
      (decisionEvent : IsDecisionEvent event)
      (refused : (writer.write event).1 = false)
      (attribution : attributed event) :
      Exit attributed writer (preAuditError 503 error reason) (writer.write event).2
  | decided
      (decision : DecisionResult)
      (event : AuditEvent)
      (decisionEvent : IsDecisionEvent event)
      (agrees : event.decision = decision.decision)
      (appended : (writer.write event).1 = true)
      (attribution : attributed event) :
      Exit attributed writer (responseFromDecision decision event) (writer.write event).2

@[simp] theorem preAuditError_decision (statusCode : Nat) (error reason : String) :
    (preAuditError statusCode error reason).decision = none :=
  rfl

@[simp] theorem responseFromDecision_decision
    (decision : DecisionResult)
    (event : AuditEvent) :
    (responseFromDecision decision event).decision = some decision.decision := by
  unfold responseFromDecision
  cases decided : decision.decision <;> simp

@[simp] theorem responseFromDecision_auditEventId
    (decision : DecisionResult)
    (event : AuditEvent) :
    (responseFromDecision decision event).auditEventId = some event.eventId := by
  unfold responseFromDecision
  split <;> rfl

/-- Evaluation leaves through an exit when its event is attributed. -/
theorem evaluateAndRecord_exit
    {attributed : AuditEvent → Prop}
    (input : EvaluationInput)
    (writer : AuditWriter)
    (token : Token)
    (attribution : attributed (input.auditEvent token)) :
    Exit attributed writer (evaluateAndRecord input writer token).1
      (evaluateAndRecord input writer token).2 := by
  have decisionEvent : IsDecisionEvent (input.auditEvent token) :=
    isDecisionEvent_buildAuditEvent _ _
  unfold evaluateAndRecord
  dsimp only
  split_ifs with actionInvalid resourceInvalid written
  · exact .unrecorded ..
  · exact .unrecorded ..
  · exact .decided _ _ decisionEvent rfl written attribution
  · exact .lost _ _ _ decisionEvent (by simpa using written) attribution

/-- Exits of the agent's endpoint: every event is the agent's own. -/
theorem enforceV1Contract_exit
    (services : EnforceServices)
    (request : V1EnforceRequest)
    (now : Instant)
    (writer : AuditWriter)
    (token : Token) :
    Exit (fun event => event.workspaceId = request.workspaceId ∧
        event.agentId = request.agentId) writer
      (enforceV1Contract services request now writer token).1
      (enforceV1Contract services request now writer token).2 := by
  unfold enforceV1Contract
  split
  · exact .unrecorded ..
  · split
    · exact .rejected _ _ _ _ rfl ⟨rfl, rfl⟩
    · next grant owned =>
        obtain ⟨-, owner⟩ := Option.filter_eq_some_iff.mp owned
        have ownership := of_decide_eq_true owner
        apply evaluateAndRecord_exit
        have concerns := evaluateEnforce_concerns
        exact ⟨(concerns _).workspaceId.trans ownership.1,
          (concerns _).agentId.trans ownership.2⟩

/-- Attribution of a delegated event: trusted workspace, asserted agent and
the enforcement point itself. -/
structure Delegated
    (request : V1DelegatedEnforceRequest)
    (trustedWs : Option String)
    (event : AuditEvent) : Prop where
  workspace : some event.workspaceId = trustedWs
  agent : event.agentId = request.agentId
  principal : event.enforcingPrincipal = some request.pepId

theorem presentText_eq_some {text : Option String} {value : String} :
    presentText text = some value ↔ text = some value ∧ value ≠ "" := by
  unfold presentText
  cases text with
  | none => simp
  | some content =>
      simp only [Option.some.injEq]
      split_ifs with blank
      · simp [blank]
      · constructor
        · rintro ⟨⟩
          exact ⟨rfl, blank⟩
        · rintro ⟨rfl, -⟩
          rfl

/-- A delegated rejection is attributed to the trusted workspace. -/
theorem rejectDelegated_exit
    {services : DelegatedServices}
    {trustedWs : String}
    (trusted : services.pepWorkspaceId = some trustedWs)
    (request : V1DelegatedEnforceRequest)
    (now : Instant)
    (writer : AuditWriter)
    (eventToken : Token)
    (reasonCode : ReasonCode)
    (reason : String)
    (replay : Option ReplayStore) :
    Exit (Delegated request services.pepWorkspaceId) writer
      (rejectDelegated request trustedWs now writer eventToken reasonCode reason
        replay).response
      (rejectDelegated request trustedWs now writer eventToken reasonCode reason
        replay).writer :=
  .rejected _ _ _ _ rfl ⟨trusted.symm, rfl, rfl⟩

/-- A delegated decision is attributed to the trusted workspace, because its
grant belongs to it. -/
theorem decideDelegated_exit
    {services : DelegatedServices}
    {request : V1DelegatedEnforceRequest}
    {trustedWs : String}
    {grant : Grant}
    (trusted : services.pepWorkspaceId = some trustedWs)
    (owned : grant.workspaceId = trustedWs ∧ grant.agentId = request.agentId)
    (now : Instant)
    (writer : AuditWriter)
    (eventToken : Token)
    (proven : Option SubjectToken)
    (replay : Option ReplayStore) :
    Exit (Delegated request services.pepWorkspaceId) writer
      (decideDelegated services request trustedWs grant now writer eventToken proven
        replay).response
      (decideDelegated services request trustedWs grant now writer eventToken proven
        replay).writer := by
  apply evaluateAndRecord_exit
  have concerns := evaluateEnforce_concerns
    (delegatedEvaluation services request trustedWs grant now proven).enforceInput
  refine ⟨?_, concerns.agentId.trans owned.2, rfl⟩
  rw [trusted]
  exact congrArg some (concerns.workspaceId.trans owned.1)

theorem enforceOwnedGrant_exit
    {services : DelegatedServices}
    {request : V1DelegatedEnforceRequest}
    {trustedWs : String}
    {grant : Grant}
    (trusted : services.pepWorkspaceId = some trustedWs)
    (owned : grant.workspaceId = trustedWs ∧ grant.agentId = request.agentId)
    (now : Instant)
    (writer : AuditWriter)
    (replay : Option ReplayStore)
    (eventToken : Token) :
    Exit (Delegated request services.pepWorkspaceId) writer
      (enforceOwnedGrant services request trustedWs grant now writer replay
        eventToken).response
      (enforceOwnedGrant services request trustedWs grant now writer replay
        eventToken).writer := by
  unfold enforceOwnedGrant
  dsimp only
  split
  · exact rejectDelegated_exit trusted ..
  · split
    · exact decideDelegated_exit trusted owned ..
    · split
      · exact rejectDelegated_exit trusted ..
      · exact decideDelegated_exit trusted owned ..

/-- Exits of the delegated endpoint. -/
theorem delegatedEnforceV1Contract_exit
    (services : DelegatedServices)
    (request : V1DelegatedEnforceRequest)
    (now : Instant)
    (writer : AuditWriter)
    (replay : Option ReplayStore)
    (eventToken : Token) :
    Exit (Delegated request services.pepWorkspaceId) writer
      (delegatedEnforceV1Contract services request now writer replay eventToken).response
      (delegatedEnforceV1Contract services request now writer replay eventToken).writer := by
  unfold delegatedEnforceV1Contract
  split
  · exact .unrecorded ..
  · next trustedWs present =>
      have trusted := (presentText_eq_some.mp present).1
      split
      · exact rejectDelegated_exit trusted ..
      · split
        · exact .unrecorded ..
        · split
          · exact rejectDelegated_exit trusted ..
          · next grant found =>
              obtain ⟨-, owner⟩ := Option.filter_eq_some_iff.mp found
              exact enforceOwnedGrant_exit trusted (of_decide_eq_true owner) ..

/-! ## Answers and the audit trail -/

/-- What an answer says about the events written during its call. -/
structure AnswersAudited
    (before : AuditWriter)
    (response : V1EnforceResponse)
    (after : AuditWriter)
    (written : List WriteAttempt) : Prop where
  attempts : after.attempts = before.attempts ++ written
  /-- A decision is answered exactly when one decision event was appended. -/
  decided_iff : response.decision ≠ none ↔
    ∃ event, (AuditWriter.appendedEvents written).filter (fun event =>
      decide (IsDecisionEvent event)) = [event]
  /-- An appended decision event carries the decision and the identifier of
  the answer. -/
  recorded : ∀ event ∈ AuditWriter.appendedEvents written, IsDecisionEvent event →
    response.decision = some event.decision ∧ response.auditEventId = some event.eventId
  /-- A decision event whose write raised yields no decision. -/
  lost : ∀ attempt ∈ written, IsDecisionEvent attempt.event → attempt.appended = false →
    response.statusCode = 503 ∧ response.decision = none
  /-- A rejection event is appended only when no decision is answered. -/
  rejected : ∀ event ∈ AuditWriter.appendedEvents written,
    event.eventType = EventType.accessRejected.code → response.decision = none

theorem not_isDecisionEvent_of_rejected
    {event : AuditEvent}
    (rejection : event.eventType = EventType.accessRejected.code) :
    ¬ IsDecisionEvent event := by
  unfold IsDecisionEvent
  rw [rejection]
  decide

theorem Exit.answersAudited
    {attributed : AuditEvent → Prop}
    {before after : AuditWriter}
    {response : V1EnforceResponse}
    (exit : Exit attributed before response after) :
    ∃ written, AnswersAudited before response after written ∧
      ∀ event ∈ AuditWriter.appendedEvents written, attributed event := by
  cases exit with
  | unrecorded =>
      refine ⟨[], ?_, by simp [AuditWriter.appendedEvents]⟩
      constructor <;> simp [AuditWriter.appendedEvents]
  | rejected statusCode error reason event rejection attribution =>
      have notDecision := not_isDecisionEvent_of_rejected rejection
      refine ⟨_, ⟨AuditWriter.attempts_write before event, ?_, ?_, ?_, ?_⟩, ?_⟩
      · rw [AuditWriter.appendedEvents_singleton]
        split_ifs <;> simp [notDecision]
      · rw [AuditWriter.appendedEvents_singleton]
        split_ifs <;> simp [notDecision]
      · simp [notDecision]
      · simp
      · rw [AuditWriter.appendedEvents_singleton]
        split_ifs <;> simp [attribution]
  | lost error reason event decisionEvent refused attribution =>
      refine ⟨_, ⟨AuditWriter.attempts_write before event, ?_, ?_, ?_, ?_⟩, ?_⟩ <;>
        simp [AuditWriter.appendedEvents_singleton, refused, preAuditError]
  | decided decision event decisionEvent agrees appended attribution =>
      have notRejected : event.eventType ≠ EventType.accessRejected.code :=
        fun rejection => not_isDecisionEvent_of_rejected rejection decisionEvent
      refine ⟨_, ⟨AuditWriter.attempts_write before event, ?_, ?_, ?_, ?_⟩, ?_⟩ <;>
        simp [AuditWriter.appendedEvents_singleton, appended, decisionEvent, agrees,
          notRejected, attribution]

/-- No audit row, no decision: both endpoints, for every writer. -/
theorem decisions_are_audited
    (services : DelegatedServices)
    (request : V1EnforceRequest)
    (delegatedRequest : V1DelegatedEnforceRequest)
    (now : Instant)
    (writer : AuditWriter)
    (replay : Option ReplayStore)
    (token : Token) :
    (∃ written, AnswersAudited writer
      (enforceV1Contract services.toEnforceServices request now writer token).1
      (enforceV1Contract services.toEnforceServices request now writer token).2 written) ∧
    (∃ written, AnswersAudited writer
      (delegatedEnforceV1Contract services delegatedRequest now writer replay token).response
      (delegatedEnforceV1Contract services delegatedRequest now writer replay token).writer
      written) := by
  constructor
  · obtain ⟨written, audited, -⟩ :=
      (enforceV1Contract_exit services.toEnforceServices request now writer
        token).answersAudited
    exact ⟨written, audited⟩
  · obtain ⟨written, audited, -⟩ :=
      (delegatedEnforceV1Contract_exit services delegatedRequest now writer replay
        token).answersAudited
    exact ⟨written, audited⟩

end V1
end Vinctor
