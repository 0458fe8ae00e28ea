import Vinctor.Service.Decisions

/-!
# Phases of a grant request

What the decisions are for, one request at a time: a request is created open,
a call may hold it, and it ends approved with one grant or rejected.  A world
is coherent with an assignment of phases when records, claims and issued grants
are the ones the phases say; every step of the system is a step of each phase.
-/

namespace Vinctor
namespace Decisions

open Foundation
open Grants
open GrantRequests
open AutoApproval

/-! ## The abstract life of a request -/

/-- Every phase after creation remembers the request as it was created. -/
inductive Phase
  | absent
  | opened (request : GrantRequest)
  | held (holder : Nat) (request claim : GrantRequest)
  | approved (request decided : GrantRequest) (grant : Grant)
  | rejected (request decided : GrantRequest)

namespace Phase

/-- The stored record. -/
def record : Phase → Option GrantRequest
  | .absent => none
  | .opened request => some request
  | .held _ _ claim => some claim
  | .approved _ decided _ => some decided
  | .rejected _ decided => some decided

/-- The request as it was created. -/
def original : Phase → Option GrantRequest
  | .absent => none
  | .opened request => some request
  | .held _ request _ => some request
  | .approved request _ _ => some request
  | .rejected request _ => some request

/-- A decided request. -/
def Settled : Phase → Prop
  | .approved _ _ _ => True
  | .rejected _ _ => True
  | _ => False

/-- Steps of a phase. -/
inductive Step : Phase → Phase → Prop
  | stay (phase : Phase) : Step phase phase
  | create (request : GrantRequest) : Step .absent (.opened request)
  | claim (holder : Nat) (request claim : GrantRequest) :
      Step (.opened request) (.held holder request claim)
  | release (holder : Nat) (request claim : GrantRequest) :
      Step (.held holder request claim) (.opened request)
  | approve (holder : Nat) (request claim : GrantRequest) (grant : Grant) :
      Step (.held holder request claim) (.approved request claim grant)
  | reject (request decided : GrantRequest) :
      Step (.opened request) (.rejected request decided)

theorem Step.eq_of_settled
    {before after : Phase}
    (step : Step before after)
    (settled : before.Settled) :
    after = before := by
  cases step with
  | stay => rfl
  | create => exact settled.elim
  | claim => exact settled.elim
  | release => exact settled.elim
  | approve => exact settled.elim
  | reject => exact settled.elim

/-- Nothing changes the request as it was created. -/
theorem Step.original_eq
    {before after : Phase}
    (step : Step before after)
    {request : GrantRequest}
    (created : before.original = some request) :
    after.original = some request := by
  cases step with
  | create => simp [original] at created
  | _ => exact created

theorem run_eq_of_settled
    {before after : Phase}
    (run : Relation.ReflTransGen Step before after)
    (settled : before.Settled) :
    after = before := by
  induction run with
  | refl => rfl
  | tail _ step inductionHypothesis =>
      subst inductionHypothesis
      exact step.eq_of_settled settled

theorem run_original_eq
    {before after : Phase}
    (run : Relation.ReflTransGen Step before after)
    {request : GrantRequest}
    (created : before.original = some request) :
    after.original = some request := by
  induction run with
  | refl => exact created
  | tail _ step inductionHypothesis => exact step.original_eq inductionHypothesis

end Phase

/-! ## Records of a phase -/

/-- A request without a decision. -/
structure IsOpen (requestId : String) (request : GrantRequest) : Prop where
  id : request.requestId = requestId
  pending : request.status = .pending
  undecidedAt : request.decidedAt = none
  undecidedBy : request.decidedBy = none
  noReason : request.decisionReason = none
  noGrant : request.issuedGrantRef = none

/-- A claim of a request: the request with an approval in its decision
columns. -/
structure IsClaim (request claim : GrantRequest) : Prop where
  columns : claim = withDecisionOf request claim
  status : claim.status = .approved
  reference : ∃ token, claim.issuedGrantRef = some (newId "grt" token)

structure IsRejection (request decided : GrantRequest) : Prop where
  columns : decided = withDecisionOf request decided
  status : decided.status = .rejected
  noGrant : decided.issuedGrantRef = none

/-- The grant that a decided request refers to is stored, for the requested
agent and scopes. -/
def RefersTo (grants : GrantRepository) (decided : GrantRequest) (grant : Grant) : Prop :=
  decided.issuedGrantRef = some grant.grantRef ∧
    grant.workspaceId = decided.workspaceId ∧ grant.agentId = decided.targetAgentId ∧
    grant.scopes = decided.requestedScopes ∧
    ∃ status, grants.get? grant.grantRef = some { grant with status := status }

def Phase.WellFormed (requestId : String) (grants : GrantRepository) : Phase → Prop
  | .absent => True
  | .opened request => IsOpen requestId request
  | .held _ request claim => IsOpen requestId request ∧ IsClaim request claim
  | .approved request decided grant =>
      IsOpen requestId request ∧ IsClaim request decided ∧ RefersTo grants decided grant
  | .rejected request decided => IsOpen requestId request ∧ IsRejection request decided

/-- A stored record is the created request with other decision columns. -/
theorem Phase.WellFormed.record_columns
    {requestId : String}
    {grants : GrantRepository}
    {phase : Phase}
    (wellFormed : phase.WellFormed requestId grants)
    {record : GrantRequest}
    (stored : phase.record = some record) :
    ∃ request, phase.original = some request ∧ IsOpen requestId request ∧
      record = withDecisionOf request record := by
  cases phase with
  | absent => simp [Phase.record] at stored
  | opened request =>
      cases stored
      exact ⟨record, rfl, wellFormed, rfl⟩
  | held holder request claim =>
      cases stored
      exact ⟨request, rfl, wellFormed.1, wellFormed.2.columns⟩
  | approved request decided grant =>
      cases stored
      exact ⟨request, rfl, wellFormed.1, wellFormed.2.1.columns⟩
  | rejected request decided =>
      cases stored
      exact ⟨request, rfl, wellFormed.1, wellFormed.2.columns⟩

/-- Only an open request is pending. -/
theorem Phase.WellFormed.opened_of_pending
    {requestId : String}
    {grants : GrantRepository}
    {phase : Phase}
    (wellFormed : phase.WellFormed requestId grants)
    {record : GrantRequest}
    (stored : phase.record = some record)
    (pending : record.status = .pending) :
    phase = .opened record := by
  cases phase with
  | absent => simp [Phase.record] at stored
  | opened request =>
      cases stored
      rfl
  | held holder request claim =>
      cases stored
      rw [wellFormed.2.status] at pending
      contradiction
  | approved request decided grant =>
      cases stored
      rw [wellFormed.2.1.status] at pending
      contradiction
  | rejected request decided =>
      cases stored
      rw [wellFormed.2.status] at pending
      contradiction

/-- Grants are never removed and keep everything but their status. -/
def GrantsKept (before after : GrantRepository) : Prop :=
  ∀ grantRef grant, before.get? grantRef = some grant →
    ∃ status, after.get? grantRef = some { grant with status := status }

theorem GrantsKept.refl (grants : GrantRepository) : GrantsKept grants grants :=
  fun _ grant present => ⟨grant.status, present⟩

theorem GrantsKept.insert
    {grants inserted : GrantRepository}
    {grant : Grant}
    (insertion : grants.insert grant = .ok inserted) :
    GrantsKept grants inserted ∧ inserted.get? grant.grantRef = some grant := by
  unfold GrantRepository.insert at insertion
  split_ifs at insertion with duplicate
  simp only [Except.ok.injEq] at insertion
  subst insertion
  refine ⟨?_, Dict.get?_set_self _ _ _⟩
  intro grantRef held present
  refine ⟨held.status, ?_⟩
  rw [Dict.get?_set_of_ne _ _ ?_, present]
  rintro rfl
  rw [present] at duplicate
  simp at duplicate

theorem GrantsKept.revoke (grants : GrantRepository) (grantRef workspaceId : String) :
    GrantsKept grants (grants.revoke grantRef workspaceId).2 := by
  unfold GrantRepository.revoke GrantRepository.getByRef
  split
  · exact .refl grants
  · next grant found =>
      split
      · exact .refl grants
      · intro otherRef held present
        dsimp only
        rw [Dict.get?_set]
        split_ifs with same
        · subst same
          rw [found, Option.some.injEq] at present
          subst present
          exact ⟨.revoked, rfl⟩
        · exact ⟨held.status, present⟩

theorem Phase.WellFormed.kept
    {requestId : String}
    {before after : GrantRepository}
    (kept : GrantsKept before after)
    {phase : Phase}
    (wellFormed : phase.WellFormed requestId before) :
    phase.WellFormed requestId after := by
  cases phase with
  | approved request decided grant =>
      obtain ⟨opened, claim, reference, workspace, agent, scopes, status, present⟩ := wellFormed
      obtain ⟨later, stored⟩ := kept _ _ present
      exact ⟨opened, claim, reference, workspace, agent, scopes, later, stored⟩
  | absent => exact wellFormed
  | opened => exact wellFormed
  | held => exact wellFormed
  | rejected => exact wellFormed

/-! ## Coherence -/

/-- The world is in the phases that are given for its requests. -/
structure Coherent (world : World) (phases : String → Phase) : Prop where
  records : ∀ requestId, world.shared.requests.get? requestId = (phases requestId).record
  wellFormed : ∀ requestId, (phases requestId).WellFormed requestId world.shared.grants
  readers : ∀ id call request, world.calls id = some call → call.reading = some request →
    (phases request.requestId).original = some request
  holders : ∀ id call request claim, world.calls id = some call →
    call.holding = some (request, claim) →
    phases request.requestId = .held id request claim
  heldBy : ∀ requestId id request claim, phases requestId = .held id request claim →
    ∃ call, world.calls id = some call ∧ call.holding = some (request, claim)
  issuedFor : ∀ requestId grant, (requestId, grant) ∈ world.shared.issued ↔
    ∃ request decided, phases requestId = .approved request decided grant
  issuedOnce : (world.shared.issued.map Prod.fst).Nodup
  approvals : ∀ id call result, world.calls id = some call → call.decision = some result →
    result.status = .approved →
    ∃ request decided grant, result.request = some decided ∧
      phases decided.requestId = .approved request decided grant
  rejections : ∀ id call result, world.calls id = some call → call.decision = some result →
    result.status = .rejected →
    ∃ request decided, result.request = some decided ∧
      phases decided.requestId = .rejected request decided

theorem coherent_initial {world : World} (initial : world.Initial) :
    Coherent world fun _ => .absent where
  records := by
    intro requestId
    rw [initial.requests]
    rfl
  wellFormed := fun _ => trivial
  readers := by simp [initial.calls]
  holders := by simp [initial.calls]
  heldBy := by simp
  issuedFor := by simp [initial.issued]
  issuedOnce := by simp [initial.issued]
  approvals := by simp [initial.calls]
  rejections := by simp [initial.calls]

end Decisions
end Vinctor
