import Vinctor.Service.DecisionSteps

/-!
# Decisions are unique and consistent

Every run is a run of each request's phase.  At most one grant is issued for a
request, a settled record never changes, a refused approval restores the
record, and between calls a record is approved exactly when its grant exists.
-/

namespace Vinctor
namespace Decisions

open Foundation
open Grants
open GrantRequests
open AutoApproval

variable {backend : Backend}

/-- Operations outside decisions keep every phase. -/
theorem Coherent.shared
    {world : World}
    {phases : String → Phase}
    (coherent : Coherent world phases)
    {shared : Shared}
    (requests : shared.requests = world.shared.requests)
    (issued : shared.issued = world.shared.issued)
    (kept : GrantsKept world.shared.grants shared.grants) :
    Coherent { world with shared := shared } phases where
  records := by
    intro requestId
    change shared.requests.get? requestId = _
    rw [requests, coherent.records]
  wellFormed := fun requestId => (coherent.wellFormed requestId).kept kept
  readers := coherent.readers
  holders := coherent.holders
  heldBy := coherent.heldBy
  issuedFor := by
    intro requestId grant
    change (requestId, grant) ∈ shared.issued ↔ _
    rw [issued]
    exact coherent.issuedFor requestId grant
  issuedOnce := by
    change (shared.issued.map Prod.fst).Nodup
    rw [issued]
    exact coherent.issuedOnce
  approvals := coherent.approvals
  rejections := coherent.rejections

/-- A creation opens a request that was absent. -/
theorem Coherent.create
    {world : World}
    {phases : String → Phase}
    (coherent : Coherent world phases)
    {request : GrantRequest}
    (opened : IsOpen request.requestId request)
    (absent : phases request.requestId = .absent) :
    Coherent
      { world with
        shared :=
          { world.shared with
            requests := world.shared.requests.set request.requestId request } }
      (Function.update phases request.requestId (.opened request)) := by
  have elsewhere : ∀ other, phases other ≠ .absent → other ≠ request.requestId := by
    rintro other present rfl
    exact present absent
  constructor
  case records =>
    intro other
    change (world.shared.requests.set request.requestId request).get? other = _
    rw [Dict.get?_set, Function.update_apply]
    split_ifs with same
    · rfl
    · exact coherent.records other
  case wellFormed =>
    intro other
    rw [Function.update_apply]
    split_ifs with same
    · rw [same]
      exact opened
    · exact coherent.wellFormed other
  case readers =>
    intro id call read present reading
    have created := coherent.readers id call read present reading
    rw [Function.update_of_ne, created]
    apply elsewhere
    intro missing
    simp [missing, Phase.original] at created
  case holders =>
    intro id call held claim present holding
    have phase := coherent.holders id call held claim present holding
    rw [Function.update_of_ne, phase]
    apply elsewhere
    simp [phase]
  case heldBy =>
    intro requestId holder held claim phase
    rw [Function.update_apply] at phase
    split_ifs at phase with same
    exact coherent.heldBy requestId holder held claim phase
  case issuedFor =>
    intro requestId grant
    refine (coherent.issuedFor requestId grant).trans ?_
    rw [Function.update_apply]
    split_ifs with same
    · simp [same, absent]
    · exact Iff.rfl
  case issuedOnce => exact coherent.issuedOnce
  case approvals =>
    intro id call result present answered approved
    obtain ⟨created, decided, grant, carried, phase⟩ :=
      coherent.approvals id call result present answered approved
    refine ⟨created, decided, grant, carried, ?_⟩
    rw [Function.update_of_ne, phase]
    apply elsewhere
    simp [phase]
  case rejections =>
    intro id call result present answered rejected
    obtain ⟨created, decided, carried, phase⟩ :=
      coherent.rejections id call result present answered rejected
    refine ⟨created, decided, carried, ?_⟩
    rw [Function.update_of_ne, phase]
    apply elsewhere
    simp [phase]

theorem Call.Initial.idle {call : Call} (initial : call.Initial) :
    call.holding = none ∧ call.reading = none ∧ call.decision = none := by
  cases initial <;> exact ⟨rfl, rfl, rfl⟩

/-- One step of the system is a step of every phase. -/
theorem Coherent.step
    {world next : World}
    {phases : String → Phase}
    (coherent : Coherent world phases)
    (step : Step backend world next) :
    ∃ phasesAfter, Coherent next phasesAfter ∧
      ∀ requestId, Phase.Step (phases requestId) (phasesAfter requestId) := by
  cases step with
  | begin id call unused initial =>
      obtain ⟨holding, reading, decision⟩ := initial.idle
      refine ⟨phases, ?_, fun _ => .stay _⟩
      apply coherent.quiet
      · simp [holding, unused]
      · rfl
      · rfl
      · exact .refl _
      · simp [reading]
      · simp [decision]
  | advance id call nextCall shared draws running moves =>
      exact coherent.effect running (step_effect coherent.keyed moves)
  | setBounds input bounds accepted =>
      exact ⟨phases, coherent.shared rfl rfl (.refl _), fun _ => .stay _⟩
  | revokeGrant grantRef workspaceId =>
      exact ⟨phases, coherent.shared rfl rfl (.revoke _ _ _), fun _ => .stay _⟩
  | changeRules rules =>
      exact ⟨phases, coherent.shared rfl rfl (.refl _), fun _ => .stay _⟩
  | createGrantRequest request now draws requests valid inserted =>
      unfold GrantRequestRepository.insertRequest at inserted
      split_ifs at inserted with duplicate
      simp only [Except.ok.injEq] at inserted
      subst inserted
      have absent : phases (newGrantRequest request now draws).requestId = .absent := by
        have record := coherent.records (newGrantRequest request now draws).requestId
        rw [Option.not_isSome_iff_eq_none.mp duplicate] at record
        cases phase : phases (newGrantRequest request now draws).requestId with
        | absent => rfl
        | _ => simp [phase, Phase.record] at record
      refine ⟨_, coherent.create ⟨rfl, rfl, rfl, rfl, rfl, rfl⟩ absent, ?_⟩
      intro other
      rw [Function.update_apply]
      split_ifs with same
      · rw [same, absent]
        exact .create _
      · exact .stay _

/-- A run of the system is a run of every phase. -/
theorem Coherent.run
    {world later : World}
    {phases : String → Phase}
    (coherent : Coherent world phases)
    (run : Reaches backend world later) :
    ∃ phasesAfter, Coherent later phasesAfter ∧
      ∀ requestId, Relation.ReflTransGen Phase.Step (phases requestId)
        (phasesAfter requestId) := by
  induction run with
  | refl => exact ⟨phases, coherent, fun _ => .refl⟩
  | tail _ step inductionHypothesis =>
      obtain ⟨between, coherentBetween, runs⟩ := inductionHypothesis
      obtain ⟨after, coherentAfter, steps⟩ := coherentBetween.step step
      exact ⟨after, coherentAfter, fun requestId =>
        (runs requestId).tail (steps requestId)⟩

/-! ## The four properties -/

/-- Between calls no request is held. -/
theorem Coherent.not_held
    {world : World}
    {phases : String → Phase}
    (coherent : Coherent world phases)
    (quiescent : world.Quiescent)
    (requestId : String)
    (holder : Nat)
    (request claim : GrantRequest) :
    phases requestId ≠ .held holder request claim := by
  intro held
  obtain ⟨call, present, holding⟩ := coherent.heldBy requestId holder request claim held
  have finished := quiescent holder call present
  cases call with
  | approve input auto now stage =>
      cases stage <;> simp_all [Call.holding, Call.Finished]
  | _ => simp [Call.holding] at holding

/-- Between calls, a record agrees with the grants. -/
theorem Coherent.consistent
    {world : World}
    {phases : String → Phase}
    (coherent : Coherent world phases)
    (quiescent : world.Quiescent)
    {requestId : String}
    {record : GrantRequest}
    (stored : world.shared.requests.get? requestId = some record) :
    (record.status = .approved ↔
      ∃ grantRef grant, record.issuedGrantRef = some grantRef ∧
        world.shared.grants.get? grantRef = some grant ∧
        grant.workspaceId = record.workspaceId ∧ grant.agentId = record.targetAgentId ∧
        grant.scopes = record.requestedScopes) ∧
    (record.status = .pending ∨ record.status = .rejected →
      record.issuedGrantRef = none ∧
        ∀ grant, (requestId, grant) ∉ world.shared.issued) := by
  have wellFormed := coherent.wellFormed requestId
  have issuedFor := coherent.issuedFor requestId
  rw [coherent.records] at stored
  cases phase : phases requestId with
  | absent => simp [phase, Phase.record] at stored
  | held holder request claim =>
      exact absurd phase (coherent.not_held quiescent requestId holder request claim)
  | opened request =>
      rw [phase] at stored wellFormed
      cases stored
      have pending := wellFormed.pending
      have noGrant := wellFormed.noGrant
      refine ⟨by simp [pending, noGrant], fun _ => ⟨noGrant, ?_⟩⟩
      simp [issuedFor, phase]
  | rejected request decided =>
      rw [phase] at stored wellFormed
      cases stored
      have status := wellFormed.2.status
      have noGrant := wellFormed.2.noGrant
      refine ⟨by simp [status, noGrant], fun _ => ⟨noGrant, ?_⟩⟩
      simp [issuedFor, phase]
  | approved request decided grant =>
      rw [phase] at stored wellFormed
      cases stored
      obtain ⟨-, claims, reference, workspace, agent, scopes, status, present⟩ := wellFormed
      constructor
      · refine ⟨fun _ => ?_, fun _ => claims.status⟩
        exact ⟨grant.grantRef, { grant with status := status }, reference, present, workspace,
          agent, scopes⟩
      · simp [claims.status]

/-- A call that answers a decision has settled its record for good. -/
theorem Coherent.settled_forever
    {world later : World}
    {phases : String → Phase}
    (coherent : Coherent world phases)
    {requestId : String}
    {decided : GrantRequest}
    (settled : (phases requestId).Settled)
    (record : (phases requestId).record = some decided)
    (run : Reaches backend world later) :
    later.shared.requests.get? requestId = some decided := by
  obtain ⟨after, coherentAfter, runs⟩ := coherent.run run
  rw [coherentAfter.records, Phase.run_eq_of_settled (runs requestId) settled, record]

/-- Decisions on grant requests under any interleaving: at most one grant for a
request; between calls, records and grants agree; a decided record never
changes; a refused approval restores the record and leaves it decidable. -/
theorem decisions_unique_and_consistent
    {start world : World}
    (initial : start.Initial)
    (reached : Reaches backend start world) :
    (world.shared.issued.map Prod.fst).Nodup ∧
    (world.Quiescent → ∀ requestId record,
      world.shared.requests.get? requestId = some record →
      (record.status = .approved ↔
        ∃ grantRef grant, record.issuedGrantRef = some grantRef ∧
          world.shared.grants.get? grantRef = some grant ∧
          grant.workspaceId = record.workspaceId ∧ grant.agentId = record.targetAgentId ∧
          grant.scopes = record.requestedScopes) ∧
      (record.status = .pending ∨ record.status = .rejected →
        record.issuedGrantRef = none ∧
          ∀ grant, (requestId, grant) ∉ world.shared.issued)) ∧
    (∀ id call result, world.calls id = some call → call.decision = some result →
      result.status = .approved ∨ result.status = .rejected →
      ∃ decided, result.request = some decided ∧
        ∀ later, Reaches backend world later →
          later.shared.requests.get? decided.requestId = some decided) ∧
    (∀ id input auto now request updated reason,
      world.calls id = some (.approve input auto now (.releasing request updated reason)) →
      ∀ draws, ∃ result shared,
        Call.step backend draws (.approve input auto now (.releasing request updated reason))
          world.shared = some (.approve input auto now (.finished result), shared) ∧
        result.status = .failed ∧
        shared.requests.get? request.requestId = some request ∧
        request.status = .pending ∧
        (∀ earlier record, Reaches backend start earlier → Reaches backend earlier world →
          earlier.shared.requests.get? request.requestId = some record →
          record.status = .pending → record = request) ∧
        ∀ decision : GrantRequest, decision.requestId = request.requestId →
          (backend.decideRequest shared.requests decision).1 = true) := by
  obtain ⟨phases, coherent, -⟩ := (coherent_initial initial).run reached
  refine ⟨coherent.issuedOnce, fun quiescent requestId record stored =>
    coherent.consistent quiescent stored, ?_, ?_⟩
  · intro id call result present answered status
    rcases status with approved | rejected
    · obtain ⟨request, decided, grant, carried, phase⟩ :=
        coherent.approvals id call result present answered approved
      refine ⟨decided, carried, fun later run => ?_⟩
      apply coherent.settled_forever _ _ run
      · simp [phase, Phase.Settled]
      · simp [phase, Phase.record]
    · obtain ⟨request, decided, carried, phase⟩ :=
        coherent.rejections id call result present answered rejected
      refine ⟨decided, carried, fun later run => ?_⟩
      apply coherent.settled_forever _ _ run
      · simp [phase, Phase.Settled]
      · simp [phase, Phase.record]
  · intro id input auto now request updated reason running draws
    have held := coherent.holders id _ request updated running rfl
    have wellFormed := coherent.wellFormed request.requestId
    have stored := coherent.records request.requestId
    rw [held] at wellFormed stored
    have present : world.shared.requests.get? request.requestId ≠ none := by
      rw [stored]
      simp [Phase.record]
    have pending := wellFormed.1.pending
    refine ⟨wrapResult auto (failedDecision reason),
      { world.shared with
        requests := world.shared.requests.set request.requestId request },
      ?_, by simp [failedDecision], Dict.get?_set_self _ _ _, pending, ?_, ?_⟩
    · simp [Call.step, approvalStep, GrantRequestRepository.updateRequest, present]
    · intro earlier record before between storedEarlier pendingEarlier
      obtain ⟨earlierPhases, earlierCoherent, -⟩ := (coherent_initial initial).run before
      obtain ⟨phasesNow, coherentNow, runs⟩ := earlierCoherent.run between
      have opened := earlierCoherent.opened_of_pending storedEarlier pendingEarlier
      have created := Phase.run_original_eq (runs request.requestId)
        (show (earlierPhases request.requestId).original = some record by rw [opened]; rfl)
      rw [coherentNow.holders id _ request updated running rfl] at created
      exact (Option.some.inj created).symm
    · intro decision sameId
      cases backend with
      | inMemory =>
          simp [Backend.decideRequest, GrantRequestRepository.decideRequest,
            GrantRequestRepository.getRequest, sameId, pending]
      | sqlite =>
          simp [Backend.decideRequest, decideColumns, GrantRequestRepository.getRequest, sameId,
            pending]

/-! ## Calls that run alone -/

/-- A call on its own: as many operations as it is given. -/
def Call.run (backend : Backend) (draws : ApprovalDraws) :
    Nat → Call → Shared → Call × Shared
  | 0, call, shared => (call, shared)
  | count + 1, call, shared =>
      match call.step backend draws shared with
      | none => (call, shared)
      | some (next, after) => run backend draws count next after

/-- The claim of a request can be released. -/
theorem updateRequest_claimed
    {requests claimed : GrantRequestRepository}
    {request updated : GrantRequest}
    (sameId : updated.requestId = request.requestId)
    (claim : requests.decideRequest updated = (true, claimed)) :
    claimed.updateRequest request = .ok (claimed.set request.requestId request) := by
  obtain ⟨current, stored, -, -, -, rfl⟩ :=
    @decideRequest_cases .inMemory requests claimed updated claim
  apply if_neg
  simp [sameId]

/-- An approval that runs alone does what the function computes. -/
theorem run_approve_alone
    (input : DecisionInput)
    (now : Instant)
    (draws : ApprovalDraws)
    (shared : Shared)
    {writer : AuditWriter}
    (reliable : writer.Reliable) :
    let outcome := approveGrantRequest input {} shared.bounds now shared.requests
      shared.grants writer draws
    let alone := Call.run .inMemory draws 5 (.approve input none now .looking) shared
    alone.1.decision = outcome.result ∧ alone.2.requests = outcome.requests ∧
      alone.2.grants = outcome.grants := by
  intro outcome alone
  simp only [outcome, alone]
  cases found : lookupGrantRequest shared.requests input.requestId input.workspaceId with
  | none =>
      simp [approveGrantRequest, Call.run, Call.step, approvalStep, found, Call.decision,
        wrapResult]
  | some request =>
      by_cases pending : request.status = .pending
      swap
      · simp [approveGrantRequest, Call.run, Call.step, approvalStep, found, pending,
          Call.decision, wrapResult]
      set updated := approvedRequest request input now draws.grantRef with isUpdated
      cases claim : shared.requests.decideRequest updated with
      | mk won claimed =>
          cases won with
          | false =>
              simp [approveGrantRequest, Call.run, Call.step, approvalStep, found, pending,
                claim, ← isUpdated, Backend.decideRequest, Call.decision, wrapResult]
          | true =>
              have release := updateRequest_claimed
                (show updated.requestId = request.requestId from rfl) claim
              set issueRequest := issueRequestOf request updated with isIssueRequest
              cases valid : validateIssueRequest issueRequest
                  (appliedTtlSeconds issueRequest.ttlSeconds) with
              | some reason =>
                  simp [approveGrantRequest, issueGrant, Call.run, Call.step, approvalStep,
                    found, pending, claim, ← isUpdated, ← isIssueRequest, valid, release,
                    Backend.decideRequest, Call.decision, wrapResult]
              | none =>
                  cases checked : checkIssuable issueRequest
                      (shared.bounds.get? (issueRequest.workspaceId, issueRequest.targetAgentId)) with
                  | error refusal =>
                      have status := (checkIssuable_error checked).1
                      simp [approveGrantRequest, issueGrant, Call.run, Call.step, approvalStep,
                        found, pending, claim, ← isUpdated, ← isIssueRequest, valid, checked,
                        release, status, Backend.decideRequest, Call.decision, wrapResult]
                  | ok issuable =>
                      cases insertion : shared.grants.insert
                          (newGrant issueRequest now draws.issue) with
                      | error text =>
                          simp [approveGrantRequest, issueGrant, Call.run, Call.step,
                            approvalStep, found, pending, claim, ← isUpdated, ← isIssueRequest,
                            valid, checked, insertion, release, Backend.decideRequest,
                            Call.decision, wrapResult]
                      | ok inserted =>
                          have answered := (reliable.write (grantIssuedEvent
                            (newGrant issueRequest now draws.issue) now
                            draws.issue.event)).written
                          simp [approveGrantRequest, issueGrant, Call.run, Call.step,
                            approvalStep, found, pending, claim, ← isUpdated, ← isIssueRequest,
                            valid, checked, insertion, Backend.decideRequest,
                            Call.decision, wrapResult, reliable.written, answered,
                            approvalAudit, requestDecisionEvent]

/-- A rejection that runs alone does what the function computes. -/
theorem run_reject_alone
    (input : DecisionInput)
    (now : Instant)
    (draws : ApprovalDraws)
    (shared : Shared)
    {writer : AuditWriter}
    (reliable : writer.Reliable) :
    let outcome := rejectGrantRequest input now shared.requests shared.grants writer
      draws.event
    let alone := Call.run .inMemory draws 2 (.reject input now .looking) shared
    alone.1.decision = outcome.result ∧ alone.2.requests = outcome.requests ∧
      alone.2.grants = outcome.grants := by
  intro outcome alone
  simp only [outcome, alone]
  cases found : lookupGrantRequest shared.requests input.requestId input.workspaceId with
  | none => simp [rejectGrantRequest, Call.run, Call.step, found, Call.decision]
  | some request =>
      by_cases pending : request.status = .pending
      · cases claim : shared.requests.decideRequest (rejectedRequest request input now) with
        | mk won decided =>
            cases won with
            | false =>
                simp [rejectGrantRequest, Call.run, Call.step, found, pending, claim,
                  Backend.decideRequest, Call.decision]
            | true =>
                simp [rejectGrantRequest, Call.run, Call.step, found, pending, claim,
                  Backend.decideRequest, Call.decision, reliable.written,
                  requestLifecycleEvent]
      · simp [rejectGrantRequest, Call.run, Call.step, found, pending, Call.decision]

/-! ## A refused approval -/

def sampleStart : World where
  shared :=
    { requests := Dict.empty
      grants := Dict.empty
      bounds := Dict.empty
      rules := Dict.empty
      issued := [] }
  calls := fun _ => none

def sampleCreation : GrantRequestCreateRequest where
  workspaceId := "ws"
  requesterAgentId := "agent_a"
  requestedScopes := ["read:repo/main/file"]
  requestedTtlSeconds := 60
  reason := "review"
  requestId := some "grq_1"

def sampleDecision : DecisionInput where
  requestId := "grq_1"
  workspaceId := "ws"
  decidedBy := "operator"
  decisionReason := none

def sampleDraws : ApprovalDraws where
  grantRef := "r"
  issue := ⟨"g", "r2", "e1"⟩
  event := "e2"

def sampleRequest : GrantRequest :=
  newGrantRequest sampleCreation 0 ⟨"q", "e0"⟩

/-- Without bounds the approval is refused after its claim, and releases it. -/
theorem sample_refusal_restores :
    ∃ world, Reaches .sqlite sampleStart world ∧
      ∃ result shared,
        Call.step .sqlite sampleDraws
          (.approve sampleDecision none 5
            (.releasing sampleRequest (approvedRequest sampleRequest sampleDecision 5 "r")
              "issuable_bounds_not_found"))
          world.shared = some (.approve sampleDecision none 5 (.finished result), shared) ∧
        shared.requests.get? "grq_1" = some sampleRequest := by
  have initial : sampleStart.Initial := ⟨rfl, rfl, rfl, fun _ => rfl⟩
  have created : Reaches .sqlite sampleStart _ :=
    Relation.ReflTransGen.refl.tail
      (Step.createGrantRequest _ sampleCreation 0 ⟨"q", "e0"⟩ _ (by decide) rfl)
  have begun := created.tail (Step.begin _ 0 _ rfl (.approve sampleDecision 5))
  have read := begun.tail (Step.advance _ 0 _ _ _ sampleDraws rfl rfl)
  have claimed := read.tail (Step.advance _ 0 _ _ _ sampleDraws rfl rfl)
  have refused := claimed.tail (Step.advance _ 0 _ _ _ sampleDraws rfl rfl)
  obtain ⟨result, shared, steps, -, restored, -⟩ :=
    (decisions_unique_and_consistent initial refused).2.2.2 0 sampleDecision none 5
      sampleRequest (approvedRequest sampleRequest sampleDecision 5 "r")
      "issuable_bounds_not_found" rfl sampleDraws
  exact ⟨_, refused, result, shared, steps, restored⟩

end Decisions
end Vinctor
