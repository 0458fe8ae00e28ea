import Vinctor.Service.DecisionPhases

/-!
# Every operation is a step of a phase

The operations of a call fall into five kinds: quiet ones, a claim, a
rejection, a release and an issuance.  Each kind keeps the world coherent and
moves at most one request by one step.
-/

namespace Vinctor
namespace Decisions

open Foundation
open Grants
open GrantRequests
open AutoApproval

/-! ## Kinds of operations -/

/-- What the compare-and-set stores: the decided request, or the stored row
with its decision columns. -/
def Stored (current request stored : GrantRequest) : Prop :=
  stored = request ∨ stored = withDecisionOf current request

theorem decideRequest_cases
    {backend : Backend}
    {requests after : GrantRequestRepository}
    {request : GrantRequest}
    (decided : backend.decideRequest requests request = (true, after)) :
    ∃ current stored, requests.get? request.requestId = some current ∧
      current.status = .pending ∧ Stored current request stored ∧
      after = requests.set request.requestId stored := by
  cases backend with
  | inMemory =>
      unfold Backend.decideRequest GrantRequestRepository.decideRequest
        GrantRequestRepository.getRequest at decided
      dsimp only at decided
      split at decided
      · simp at decided
      · next current found =>
          split_ifs at decided with decidedBefore
          · simp at decided
          · simp only [Prod.mk.injEq, true_and] at decided
            exact ⟨current, request, found, by simpa using decidedBefore, Or.inl rfl,
              decided.symm⟩
  | sqlite =>
      unfold Backend.decideRequest decideColumns GrantRequestRepository.getRequest at decided
      dsimp only at decided
      split at decided
      · simp at decided
      · next current found =>
          split_ifs at decided with decidedBefore
          · simp at decided
          · simp only [Prod.mk.injEq, true_and] at decided
            exact ⟨current, _, found, by simpa using decidedBefore, Or.inr rfl, decided.symm⟩

/-- The kinds of operations of a call. -/
inductive Effect (call next : Call) (before after : Shared) : Prop
  | quiet
      (requests : after.requests = before.requests)
      (issued : after.issued = before.issued)
      (kept : GrantsKept before.grants after.grants)
      (holding : next.holding = call.holding)
      (reading : ∀ request, next.reading = some request →
        before.requests.get? request.requestId = some request ∧ request.status = .pending)
      (failed : ∀ result, next.decision = some result → result.status = .failed)
  | claim
      (request claim current stored : GrantRequest)
      (read : call.reading = some request)
      (claims : IsClaim request claim)
      (found : before.requests.get? request.requestId = some current)
      (pending : current.status = .pending)
      (stores : Stored current claim stored)
      (shared : after =
        { before with requests := before.requests.set request.requestId stored })
      (holding : next.holding = some (request, claim))
      (reading : next.reading = none)
      (undecided : next.decision = none)
  | rejection
      (request decided current stored : GrantRequest)
      (result : GrantRequestDecisionResult)
      (read : call.reading = some request)
      (columns : decided = withDecisionOf request decided)
      (status : decided.status = .rejected)
      (reference : decided.issuedGrantRef = request.issuedGrantRef)
      (found : before.requests.get? request.requestId = some current)
      (pending : current.status = .pending)
      (stores : Stored current decided stored)
      (shared : after =
        { before with requests := before.requests.set request.requestId stored })
      (holding : next.holding = none)
      (reading : next.reading = none)
      (answered : next.decision = some result)
      (resultStatus : result.status = .rejected)
      (resultRequest : result.request = some decided)
  | release
      (request claim : GrantRequest)
      (held : call.holding = some (request, claim))
      (shared : after =
        { before with requests := before.requests.set request.requestId request })
      (holding : next.holding = none)
      (reading : next.reading = none)
      (failed : ∀ result, next.decision = some result → result.status = .failed)
  | issuance
      (request claim : GrantRequest)
      (grant : Grant)
      (result : GrantRequestDecisionResult)
      (held : call.holding = some (request, claim))
      (requests : after.requests = before.requests)
      (kept : GrantsKept before.grants after.grants)
      (stored : after.grants.get? grant.grantRef = some grant)
      (issued : after.issued = before.issued ++ [(request.requestId, grant)])
      (workspace : grant.workspaceId = request.workspaceId)
      (agent : grant.agentId = request.targetAgentId)
      (scopes : grant.scopes = request.requestedScopes)
      (reference : ∀ token, claim.issuedGrantRef = some (newId "grt" token) →
        grant.grantRef = newId "grt" token)
      (holding : next.holding = none)
      (reading : next.reading = none)
      (answered : next.decision = some result)
      (resultStatus : result.status = .approved)
      (resultRequest : result.request = some claim)

theorem newId_ne_empty (kind token : String) : newId kind token ≠ "" := by
  intro empty
  have lengths := congrArg String.length empty
  simp [newId] at lengths

@[simp] theorem wrapResult_status
    (auto : Option (GrantRequest × AutoApprovalRule))
    (result : GrantRequestDecisionResult) :
    (wrapResult auto result).status = result.status := by
  cases auto <;> rfl

theorem wrapResult_request
    (auto : Option (GrantRequest × AutoApprovalRule))
    {result : GrantRequestDecisionResult}
    {request : GrantRequest}
    (present : result.request = some request) :
    (wrapResult auto result).request = some request := by
  cases auto with
  | none => exact present
  | some evaluated => simp [wrapResult, autoResult, present]

/-- A record that a lookup found is stored under its own identifier. -/
theorem lookupGrantRequest_found
    {requests : GrantRequestRepository}
    {requestId workspaceId : String}
    {request : GrantRequest}
    (found : lookupGrantRequest requests requestId workspaceId = some request) :
    requests.get? requestId = some request := by
  unfold lookupGrantRequest GrantRequestRepository.getRequest at found
  exact (Option.filter_eq_some_iff.mp found).1

/-- Records are stored under their own identifiers. -/
def KeyedById (requests : GrantRequestRepository) : Prop :=
  ∀ requestId request, requests.get? requestId = some request → request.requestId = requestId

theorem isClaim_approvedRequest
    (request : GrantRequest)
    (input : DecisionInput)
    (now : Instant)
    (token : Audit.Token) :
    IsClaim request (approvedRequest request input now token) :=
  ⟨rfl, rfl, token, rfl⟩

theorem newGrant_reference
    {request claim : GrantRequest}
    (now : Instant)
    (draws : IssueDraws)
    (token : Audit.Token)
    (claimed : claim.issuedGrantRef = some (newId "grt" token)) :
    (newGrant (issueRequestOf request claim) now draws).grantRef = newId "grt" token := by
  simp [newGrant, issueRequestOf, claimed, presentText, newId_ne_empty]

theorem approvalStep_effect
    {backend : Backend}
    {input : DecisionInput}
    {auto : Option (GrantRequest × AutoApprovalRule)}
    {now : Instant}
    {draws : ApprovalDraws}
    {before after : Shared}
    {stage next : ApprovalStage}
    (keyed : KeyedById before.requests)
    (moves : approvalStep backend input auto now draws before stage = some (next, after)) :
    Effect (.approve input auto now stage) (.approve input auto now next) before after := by
  cases stage with
  | looking =>
      simp only [approvalStep] at moves
      split at moves
      · cases moves
        exact .quiet rfl rfl (.refl _) rfl (by simp [Call.reading])
          (by simp [Call.decision, failedDecision])
      · next request found =>
          have present := lookupGrantRequest_found found
          split_ifs at moves with decidedBefore
          · cases moves
            exact .quiet rfl rfl (.refl _) rfl (by simp [Call.reading])
              (by simp [Call.decision, failedDecision])
          · cases moves
            refine .quiet rfl rfl (.refl _) rfl ?_ (by simp [Call.decision])
            intro read reading
            simp only [Call.reading, Option.some.injEq] at reading
            subst reading
            rw [keyed _ _ present]
            exact ⟨present, by simpa using decidedBefore⟩
  | claiming request =>
      simp only [approvalStep] at moves
      split at moves
      · cases moves
        exact .quiet rfl rfl (.refl _) rfl (by simp [Call.reading])
          (by simp [Call.decision, failedDecision])
      · next requests decided =>
          cases moves
          obtain ⟨current, stored, found, pending, stores, rfl⟩ := decideRequest_cases decided
          exact .claim request _ current stored rfl
            (isClaim_approvedRequest request input now draws.grantRef) found pending stores rfl
            rfl rfl rfl
  | claimed request updated =>
      simp only [approvalStep] at moves
      split at moves
      · cases moves
        exact .quiet rfl rfl (.refl _) rfl (by simp [Call.reading]) (by simp [Call.decision])
      · split at moves
        · cases moves
          exact .quiet rfl rfl (.refl _) rfl (by simp [Call.reading]) (by simp [Call.decision])
        · cases moves
          exact .quiet rfl rfl (.refl _) rfl (by simp [Call.reading]) (by simp [Call.decision])
  | issuing request updated =>
      simp only [approvalStep] at moves
      split at moves
      · cases moves
        exact .quiet rfl rfl (.refl _) rfl (by simp [Call.reading]) (by simp [Call.decision])
      · next grants insertion =>
          cases moves
          obtain ⟨kept, stored⟩ := GrantsKept.insert insertion
          exact .issuance request updated (newGrant (issueRequestOf request updated) now
            draws.issue) _ rfl rfl kept stored rfl rfl rfl rfl
            (newGrant_reference now draws.issue) rfl rfl rfl (by simp)
            (wrapResult_request auto rfl)
  | releasing request updated reason =>
      simp only [approvalStep] at moves
      split at moves
      · simp at moves
      · next requests released =>
          cases moves
          unfold GrantRequestRepository.updateRequest at released
          split_ifs at released
          simp only [Except.ok.injEq] at released
          subst released
          exact .release request updated rfl rfl rfl rfl
            (by simp [Call.decision, failedDecision])
  | finished result => simp [approvalStep] at moves

/-- A quiet operation that leaves the shared state alone and ends the call, or
moves it to a point where it has read nothing. -/
theorem Effect.unread
    {call next : Call}
    {shared : Shared}
    (holding : next.holding = call.holding)
    (reading : next.reading = none)
    (failed : ∀ result, next.decision = some result → result.status = .failed) :
    Effect call next shared shared :=
  .quiet rfl rfl (.refl _) holding (by simp [reading]) failed

/-- Every operation of a call is of one of the five kinds. -/
theorem step_effect
    {backend : Backend}
    {draws : ApprovalDraws}
    {call next : Call}
    {before after : Shared}
    (keyed : KeyedById before.requests)
    (moves : call.step backend draws before = some (next, after)) :
    Effect call next before after := by
  cases call with
  | approve input auto now stage =>
      simp only [Call.step, Option.map_eq_some_iff] at moves
      obtain ⟨⟨nextStage, shared⟩, advanced, moved⟩ := moves
      cases moved
      exact approvalStep_effect keyed advanced
  | autoApprove requestId workspaceId decidedBy now stage =>
      cases stage with
      | looking =>
          simp only [Call.step] at moves
          split at moves
          · cases moves
            exact .unread rfl rfl (by simp [Call.decision, failedDecision])
          · cases moves
            exact .unread rfl rfl (by simp [Call.decision])
      | evaluating request =>
          simp only [Call.step] at moves
          split at moves
          · cases moves
            exact .unread rfl rfl (by simp [Call.decision])
          · cases moves
            exact .unread rfl rfl (by simp [Call.decision])
      | finished result => simp [Call.step] at moves
  | reject input now stage =>
      cases stage with
      | looking =>
          simp only [Call.step] at moves
          split at moves
          · cases moves
            exact .unread rfl rfl (by simp [Call.decision, failedDecision])
          · next request found =>
              have present := lookupGrantRequest_found found
              split_ifs at moves with decidedBefore
              · cases moves
                exact .unread rfl rfl (by simp [Call.decision, failedDecision])
              · cases moves
                refine .quiet rfl rfl (.refl _) rfl ?_ (by simp [Call.decision])
                intro read reading
                simp only [Call.reading, Option.some.injEq] at reading
                subst reading
                rw [keyed _ _ present]
                exact ⟨present, by simpa using decidedBefore⟩
      | rejecting request =>
          simp only [Call.step] at moves
          split at moves
          · cases moves
            exact .unread rfl rfl (by simp [Call.decision, failedDecision])
          · next requests decided =>
              cases moves
              obtain ⟨current, stored, found, pending, stores, rfl⟩ :=
                decideRequest_cases decided
              exact .rejection request (rejectedRequest request input now) current stored _ rfl
                rfl rfl rfl found pending stores rfl rfl rfl rfl rfl rfl
      | finished result => simp [Call.step] at moves
  | issue request now stage =>
      cases stage with
      | checking =>
          simp only [Call.step] at moves
          split at moves
          · cases moves
            exact .unread rfl rfl (by simp [Call.decision])
          · split at moves
            · cases moves
              exact .unread rfl rfl (by simp [Call.decision])
            · cases moves
              exact .unread rfl rfl (by simp [Call.decision])
      | inserting =>
          simp only [Call.step] at moves
          split at moves
          · cases moves
            exact .unread rfl rfl (by simp [Call.decision])
          · next grants insertion =>
              cases moves
              exact .quiet rfl rfl (GrantsKept.insert insertion).1 rfl (by simp [Call.reading])
                (by simp [Call.decision])
      | finished result => simp [Call.step] at moves

/-! ## Coherence of each kind -/

section Kinds

variable
    {world : World}
    {phases : String → Phase}
    {id : Nat}
    {call next : Call}
    {shared : Shared}

/-- The world after a call has moved. -/
def World.moved (world : World) (id : Nat) (next : Call) (shared : Shared) : World where
  shared := shared
  calls := Function.update world.calls id (some next)

theorem moved_calls
    {otherId : Nat}
    {other : Call}
    (present : (world.moved id next shared).calls otherId = some other) :
    (otherId = id ∧ other = next) ∨ (otherId ≠ id ∧ world.calls otherId = some other) := by
  unfold World.moved at present
  dsimp only at present
  rw [Function.update_apply] at present
  split_ifs at present with same
  · exact Or.inl ⟨same, by simpa using present.symm⟩
  · exact Or.inr ⟨same, present⟩

/-- A pending record is an open request. -/
theorem Coherent.opened_of_pending
    (coherent : Coherent world phases)
    {requestId : String}
    {request : GrantRequest}
    (found : world.shared.requests.get? requestId = some request)
    (pending : request.status = .pending) :
    phases requestId = .opened request := by
  rw [coherent.records] at found
  exact (coherent.wellFormed requestId).opened_of_pending found pending

theorem Coherent.keyed (coherent : Coherent world phases) :
    KeyedById world.shared.requests := by
  intro requestId record found
  rw [coherent.records] at found
  obtain ⟨request, -, opened, columns⟩ :=
    (coherent.wellFormed requestId).record_columns found
  rw [columns]
  exact opened.id

/-- The decided request is what both backends store over an open one. -/
theorem Stored.eq
    {request decided stored : GrantRequest}
    (stores : Stored request decided stored)
    (columns : decided = withDecisionOf request decided) :
    stored = decided := by
  rcases stores with stored | stored
  · exact stored
  · rw [stored, ← columns]

/-- A call that has read a request holds none. -/
theorem Call.holding_eq_none
    {request : GrantRequest}
    (read : call.reading = some request) :
    call.holding = none := by
  cases call with
  | approve input auto now stage =>
      cases stage with
      | claiming => rfl
      | _ => simp [Call.reading] at read
  | reject => rfl
  | autoApprove => rfl
  | issue => rfl

/-- A quiet operation keeps every phase. -/
theorem Coherent.quiet
    (coherent : Coherent world phases)
    (running : ∀ request claim, next.holding = some (request, claim) ↔
      ∃ call, world.calls id = some call ∧ call.holding = some (request, claim))
    (requests : shared.requests = world.shared.requests)
    (issued : shared.issued = world.shared.issued)
    (kept : GrantsKept world.shared.grants shared.grants)
    (reading : ∀ request, next.reading = some request →
      world.shared.requests.get? request.requestId = some request ∧ request.status = .pending)
    (failed : ∀ result, next.decision = some result → result.status = .failed) :
    Coherent (world.moved id next shared) phases where
  records := by
    intro requestId
    change shared.requests.get? requestId = _
    rw [requests, coherent.records]
  wellFormed := fun requestId => (coherent.wellFormed requestId).kept kept
  readers := by
    intro otherId other request present read
    rcases moved_calls present with ⟨-, rfl⟩ | ⟨-, earlier⟩
    · obtain ⟨found, pending⟩ := reading request read
      rw [coherent.opened_of_pending found pending]
      rfl
    · exact coherent.readers otherId other request earlier read
  holders := by
    intro otherId other request claim present holds
    rcases moved_calls present with ⟨rfl, rfl⟩ | ⟨-, earlier⟩
    · obtain ⟨call, before, held⟩ := (running request claim).mp holds
      exact coherent.holders otherId call request claim before held
    · exact coherent.holders otherId other request claim earlier holds
  heldBy := by
    intro requestId holder request claim held
    obtain ⟨other, present, holds⟩ := coherent.heldBy requestId holder request claim held
    by_cases same : holder = id
    · subst same
      refine ⟨next, Function.update_self .., ?_⟩
      exact (running request claim).mpr ⟨other, present, holds⟩
    · exact ⟨other, (Function.update_of_ne same ..).trans present, holds⟩
  issuedFor := by
    intro requestId grant
    change (requestId, grant) ∈ shared.issued ↔ _
    rw [issued]
    exact coherent.issuedFor requestId grant
  issuedOnce := by
    change (shared.issued.map Prod.fst).Nodup
    rw [issued]
    exact coherent.issuedOnce
  approvals := by
    intro otherId other result present answered approved
    rcases moved_calls present with ⟨-, rfl⟩ | ⟨-, earlier⟩
    · rw [failed result answered] at approved
      contradiction
    · exact coherent.approvals otherId other result earlier answered approved
  rejections := by
    intro otherId other result present answered rejected
    rcases moved_calls present with ⟨-, rfl⟩ | ⟨-, earlier⟩
    · rw [failed result answered] at rejected
      contradiction
    · exact coherent.rejections otherId other result earlier answered rejected

/-- A call moves one request, which no other call holds, to a new phase. -/
structure Moves
    (world : World)
    (phases : String → Phase)
    (id : Nat)
    (call next : Call)
    (shared : Shared)
    (requestId : String)
    (phase : Phase) : Prop where
  running : world.calls id = some call
  unsettled : ¬ (phases requestId).Settled
  exclusive : ∀ holder request claim, phases requestId = .held holder request claim →
    holder = id
  onlyHeld : ∀ request claim, call.holding = some (request, claim) →
    request.requestId = requestId
  records : ∀ other, shared.requests.get? other =
    if other = requestId then phase.record else world.shared.requests.get? other
  wellFormed : phase.WellFormed requestId shared.grants
  kept : GrantsKept world.shared.grants shared.grants
  original : ∀ request, (phases requestId).original = some request →
    phase.original = some request
  holding : ∀ request claim, next.holding = some (request, claim) ↔
    phase = .held id request claim
  ownHold : ∀ holder request claim, phase = .held holder request claim → holder = id
  noReading : next.reading = none
  issued : shared.issued = world.shared.issued ∧ (∀ request decided grant,
      phase ≠ .approved request decided grant) ∨
    ∃ request decided grant, phase = .approved request decided grant ∧
      shared.issued = world.shared.issued ++ [(requestId, grant)]
  approval : ∀ result, next.decision = some result → result.status = .approved →
    ∃ request decided grant, result.request = some decided ∧ decided.requestId = requestId ∧
      phase = .approved request decided grant
  rejection : ∀ result, next.decision = some result → result.status = .rejected →
    ∃ request decided, result.request = some decided ∧ decided.requestId = requestId ∧
      phase = .rejected request decided

theorem Coherent.move
    (coherent : Coherent world phases)
    {requestId : String}
    {phase : Phase}
    (moves : Moves world phases id call next shared requestId phase) :
    Coherent (world.moved id next shared) (Function.update phases requestId phase) := by
  -- A settled request is not the one that moves.
  have settledElsewhere : ∀ other, (phases other).Settled → other ≠ requestId := by
    rintro other settled rfl
    exact moves.unsettled settled
  have unissued : ∀ grant, (requestId, grant) ∉ world.shared.issued := by
    intro grant member
    obtain ⟨request, decided, approved⟩ := (coherent.issuedFor requestId grant).mp member
    apply moves.unsettled
    rw [approved]
    trivial
  constructor
  case records =>
    intro other
    change shared.requests.get? other = _
    rw [moves.records, Function.update_apply]
    split_ifs with same
    · rfl
    · exact coherent.records other
  case wellFormed =>
    intro other
    rw [Function.update_apply]
    split_ifs with same
    · rw [same]
      exact moves.wellFormed
    · exact (coherent.wellFormed other).kept moves.kept
  case readers =>
    intro otherId other request present read
    rcases moved_calls present with ⟨-, rfl⟩ | ⟨-, earlier⟩
    · rw [moves.noReading] at read
      contradiction
    · have created := coherent.readers otherId other request earlier read
      rw [Function.update_apply]
      split_ifs with same
      · rw [same] at created
        exact moves.original request created
      · exact created
  case holders =>
    intro otherId other request claim present holds
    rcases moved_calls present with ⟨rfl, rfl⟩ | ⟨different, earlier⟩
    · have held := (moves.holding request claim).mp holds
      have wellFormed := moves.wellFormed
      rw [held] at wellFormed
      rw [wellFormed.1.id, Function.update_self, held]
    · have held := coherent.holders otherId other request claim earlier holds
      rw [Function.update_of_ne, held]
      intro same
      rw [same] at held
      exact different (moves.exclusive otherId request claim held)
  case heldBy =>
    intro other holder request claim held
    rw [Function.update_apply] at held
    split_ifs at held with same
    · have own : holder = id := moves.ownHold holder request claim held
      subst own
      exact ⟨next, Function.update_self .., (moves.holding request claim).mpr held⟩
    · obtain ⟨earlier, present, holds⟩ := coherent.heldBy other holder request claim held
      have wellFormed := coherent.wellFormed other
      rw [held] at wellFormed
      refine ⟨earlier, (Function.update_of_ne ?_ ..).trans present, holds⟩
      rintro rfl
      rw [moves.running, Option.some.injEq] at present
      subst present
      exact same (wellFormed.1.id.symm.trans (moves.onlyHeld request claim holds))
  case issuedFor =>
    intro other grant
    change (other, grant) ∈ shared.issued ↔ _
    rw [Function.update_apply]
    rcases moves.issued with ⟨unchanged, notApproved⟩ | ⟨request, decided, issuedGrant,
      approved, appended⟩
    · rw [unchanged]
      split_ifs with same
      · subst same
        constructor
        · intro member
          exact absurd member (unissued grant)
        · rintro ⟨request, decided, approved⟩
          exact absurd approved (notApproved request decided grant)
      · exact coherent.issuedFor other grant
    · rw [appended, List.mem_append, List.mem_singleton, Prod.mk.injEq]
      split_ifs with same
      · subst same
        rw [approved]
        constructor
        · rintro (member | ⟨-, rfl⟩)
          · exact absurd member (unissued grant)
          · exact ⟨request, decided, rfl⟩
        · rintro ⟨_, _, equal⟩
          cases equal
          exact Or.inr ⟨rfl, rfl⟩
      · rw [coherent.issuedFor other grant]
        simp [same]
  case issuedOnce =>
    change (shared.issued.map Prod.fst).Nodup
    rcases moves.issued with ⟨unchanged, -⟩ | ⟨request, decided, issuedGrant, approved,
      appended⟩
    · rw [unchanged]
      exact coherent.issuedOnce
    · rw [appended, List.map_append, List.map_singleton, List.nodup_append]
      refine ⟨coherent.issuedOnce, List.nodup_singleton _, ?_⟩
      intro other member last lastMember
      rw [List.mem_singleton] at lastMember
      subst lastMember
      rintro rfl
      obtain ⟨⟨found, grant⟩, inIssued, rfl⟩ := List.mem_map.mp member
      exact unissued grant inIssued
  case approvals =>
    intro otherId other result present answered status
    rcases moved_calls present with ⟨-, rfl⟩ | ⟨-, earlier⟩
    · obtain ⟨request, decided, grant, carried, decidedId, approved⟩ :=
        moves.approval result answered status
      refine ⟨request, decided, grant, carried, ?_⟩
      rw [decidedId, Function.update_self, approved]
    · obtain ⟨request, decided, grant, carried, approved⟩ :=
        coherent.approvals otherId other result earlier answered status
      refine ⟨request, decided, grant, carried, ?_⟩
      rw [Function.update_of_ne, approved]
      exact settledElsewhere _ (by rw [approved]; trivial)
  case rejections =>
    intro otherId other result present answered status
    rcases moved_calls present with ⟨-, rfl⟩ | ⟨-, earlier⟩
    · obtain ⟨request, decided, carried, decidedId, rejected⟩ :=
        moves.rejection result answered status
      refine ⟨request, decided, carried, ?_⟩
      rw [decidedId, Function.update_self, rejected]
    · obtain ⟨request, decided, carried, rejected⟩ :=
        coherent.rejections otherId other result earlier answered status
      refine ⟨request, decided, carried, ?_⟩
      rw [Function.update_of_ne, rejected]
      exact settledElsewhere _ (by rw [rejected]; trivial)

/-! ## Steps of the system -/

/-- The records after one of them is replaced. -/
theorem get?_set_record
    {requests : GrantRequestRepository}
    (requestId : String)
    (record : GrantRequest)
    {phase : Phase}
    (stored : phase.record = some record)
    (other : String) :
    (requests.set requestId record).get? other =
      if other = requestId then phase.record else requests.get? other := by
  rw [Dict.get?_set, stored]

/-- Every operation of a call keeps the world coherent and moves each request
by at most one step. -/
theorem Coherent.effect
    (coherent : Coherent world phases)
    (running : world.calls id = some call)
    (effect : Effect call next world.shared shared) :
    ∃ phasesAfter, Coherent (world.moved id next shared) phasesAfter ∧
      ∀ requestId, Phase.Step (phases requestId) (phasesAfter requestId) := by
  have stepAt : ∀ requestId phase, Phase.Step (phases requestId) phase →
      ∀ other, Phase.Step (phases other) (Function.update phases requestId phase other) := by
    intro requestId phase step other
    rw [Function.update_apply]
    split_ifs with same
    · rw [same]
      exact step
    · exact .stay _
  cases effect with
  | quiet requests issued kept holding reading failed =>
      refine ⟨phases, coherent.quiet ?_ requests issued kept reading failed,
        fun _ => .stay _⟩
      intro request claim
      rw [holding, running]
      simp
  | claim request claim current stored read claims found pending stores sharedAfter holding
      reading undecided =>
      have created := coherent.readers id call request running read
      have opened := coherent.opened_of_pending found pending
      rw [opened] at created
      cases created
      have wellFormed := coherent.wellFormed request.requestId
      rw [opened] at wellFormed
      rw [stores.eq claims.columns] at sharedAfter
      have moves : Moves world phases id call next shared request.requestId
          (.held id request claim) :=
        { running := running
          unsettled := by simp [opened, Phase.Settled]
          exclusive := by simp [opened]
          onlyHeld := by simp [Call.holding_eq_none read]
          records := by
            rw [sharedAfter]
            exact get?_set_record _ _ rfl
          wellFormed := ⟨wellFormed, claims⟩
          kept := by
            rw [sharedAfter]
            exact .refl _
          original := by simp [opened, Phase.original]
          holding := by simp [holding]
          ownHold := by simp +contextual
          noReading := reading
          issued := Or.inl ⟨by rw [sharedAfter], by simp⟩
          approval := by simp [undecided]
          rejection := by simp [undecided] }
      refine ⟨_, coherent.move moves, stepAt _ _ ?_⟩
      rw [opened]
      exact .claim id request claim
  | rejection request decided current stored result read columns status reference found
      pending stores sharedAfter holding reading answered resultStatus resultRequest =>
      have created := coherent.readers id call request running read
      have opened := coherent.opened_of_pending found pending
      rw [opened] at created
      cases created
      have wellFormed := coherent.wellFormed request.requestId
      rw [opened] at wellFormed
      have decidedId : decided.requestId = request.requestId := by
        rw [columns]
        rfl
      rw [stores.eq columns] at sharedAfter
      have moves : Moves world phases id call next shared request.requestId
          (.rejected request decided) :=
        { running := running
          unsettled := by simp [opened, Phase.Settled]
          exclusive := by simp [opened]
          onlyHeld := by simp [Call.holding_eq_none read]
          records := by
            rw [sharedAfter]
            exact get?_set_record _ _ rfl
          wellFormed := ⟨wellFormed, columns, status, reference.trans wellFormed.noGrant⟩
          kept := by
            rw [sharedAfter]
            exact .refl _
          original := by simp [opened, Phase.original]
          holding := by simp [holding]
          ownHold := by simp
          noReading := reading
          issued := Or.inl ⟨by rw [sharedAfter], by simp⟩
          approval := by
            intro other otherAnswered approved
            rw [answered, Option.some.injEq] at otherAnswered
            rw [← otherAnswered, resultStatus] at approved
            contradiction
          rejection := by
            intro other otherAnswered _
            rw [answered, Option.some.injEq] at otherAnswered
            rw [← otherAnswered]
            exact ⟨request, decided, resultRequest, decidedId, rfl⟩ }
      refine ⟨_, coherent.move moves, stepAt _ _ ?_⟩
      rw [opened]
      exact .reject request decided
  | release request claim held sharedAfter holding reading failed =>
      have heldPhase := coherent.holders id call request claim running held
      have wellFormed := coherent.wellFormed request.requestId
      rw [heldPhase] at wellFormed
      have moves : Moves world phases id call next shared request.requestId (.opened request) :=
        { running := running
          unsettled := by simp [heldPhase, Phase.Settled]
          exclusive := by simp +contextual [heldPhase]
          onlyHeld := by simp +contextual [held]
          records := by
            rw [sharedAfter]
            exact get?_set_record _ _ rfl
          wellFormed := wellFormed.1
          kept := by
            rw [sharedAfter]
            exact .refl _
          original := by simp [heldPhase, Phase.original]
          holding := by simp [holding]
          ownHold := by simp
          noReading := reading
          issued := Or.inl ⟨by rw [sharedAfter], by simp⟩
          approval := by
            intro result answered approved
            rw [failed result answered] at approved
            contradiction
          rejection := by
            intro result answered rejected
            rw [failed result answered] at rejected
            contradiction }
      refine ⟨_, coherent.move moves, stepAt _ _ ?_⟩
      rw [heldPhase]
      exact .release id request claim
  | issuance request claim grant result held requests kept stored issued workspace agent
      scopes reference holding reading answered resultStatus resultRequest =>
      have heldPhase := coherent.holders id call request claim running held
      have wellFormed := coherent.wellFormed request.requestId
      rw [heldPhase] at wellFormed
      obtain ⟨opened, claims⟩ := wellFormed
      obtain ⟨token, claimRef⟩ := claims.reference
      have refers : RefersTo shared.grants claim grant := by
        refine ⟨?_, ?_, ?_, ?_, grant.status, stored⟩
        · rw [claimRef, reference token claimRef]
        · rw [workspace, claims.columns]
          rfl
        · rw [agent, claims.columns]
          rfl
        · rw [scopes, claims.columns]
          rfl
      have claimId : claim.requestId = request.requestId := by
        rw [claims.columns]
        rfl
      have moves : Moves world phases id call next shared request.requestId
          (.approved request claim grant) :=
        { running := running
          unsettled := by simp [heldPhase, Phase.Settled]
          exclusive := by simp +contextual [heldPhase]
          onlyHeld := by simp +contextual [held]
          records := by
            intro other
            rw [requests]
            split_ifs with same
            · rw [same, coherent.records, heldPhase]
              rfl
            · rfl
          wellFormed := ⟨opened, claims, refers⟩
          kept := kept
          original := by simp [heldPhase, Phase.original]
          holding := by simp [holding]
          ownHold := by simp
          noReading := reading
          issued := Or.inr ⟨request, claim, grant, rfl, issued⟩
          approval := by
            intro other otherAnswered _
            rw [answered, Option.some.injEq] at otherAnswered
            rw [← otherAnswered]
            exact ⟨request, claim, grant, resultRequest, claimId, rfl⟩
          rejection := by
            intro other otherAnswered rejected
            rw [answered, Option.some.injEq] at otherAnswered
            rw [← otherAnswered, resultStatus] at rejected
            contradiction }
      refine ⟨_, coherent.move moves, stepAt _ _ ?_⟩
      rw [heldPhase]
      exact .approve id request claim grant

end Kinds

end Decisions
end Vinctor
