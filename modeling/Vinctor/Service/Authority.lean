import Vinctor.Service.InMemory
import Vinctor.Service.V1Exits

/-!
# Authority ceiling

A permitted request goes back to an issuance within the bounds of its time.
The invariant relates the stored grants to the history of the run: every grant
was issued by an earlier operation, and a revoked reference stays revoked.
-/

namespace Vinctor
namespace InMemory

open Foundation
open Scope
open Enforce
open Audit
open Grants
open GrantRequests
open AutoApproval
open SubjectTokens
open V1
open Pop

/-- One executed operation of the service. -/
abbrev Step := Executed Service Operation Reply

/-- Grant and time of an issuance, as its answer reports them. -/
def issuedBy (executed : Step) : Option (Grant × Instant) :=
  match executed.operation, executed.reply with
  | .issueGrant _ now _, .issue (some result) =>
      if result.status = .issued then result.grant.map (·, now) else none
  | .approveGrantRequest _ now _, .decision (some result) =>
      if result.status = .approved then result.grant.map (·, now) else none
  | .autoApproveGrantRequest _ _ _ now _, .decision (some result) =>
      if result.status = .approved then result.grant.map (·, now) else none
  | _, _ => none

/-- The operation revoked a reference in a workspace, and said so. -/
def Revokes (executed : Step) (grantRef workspaceId : String) : Prop :=
  ∃ now token answer, executed.operation = .revokeGrant grantRef workspaceId now token ∧
    executed.reply = .revocation (some (some answer))

/-- The operation issued a grant within a bounds record in force at the time. -/
structure IssuedWithin
    (executed : Step)
    (grant : Grant)
    (issuedAt : Instant)
    (appliedTtl : Int)
    (issuable : AgentIssuableBounds) : Prop where
  issued : issuedBy executed = some (grant, issuedAt)
  snapshot : executed.before.bounds.get? (grant.workspaceId, grant.agentId) = some issuable
  subsumed : ∀ scope ∈ grant.scopes,
    ∃ bound ∈ issuable.scopes, scopeSubsumes bound scope = true
  expiry : grant.expiresAt = some (issuedAt + seconds appliedTtl)
  capped : ∀ cap, issuable.maxTtlSeconds = some cap → appliedTtl ≤ cap
  ceiling : appliedTtl ≤ maxTtlSecondsCeiling

theorem issuedWithin_of_issuedGrant
    {executed : Step}
    {request : GrantIssueRequest}
    {now : Instant}
    {grant : Grant}
    {issuable : AgentIssuableBounds}
    (reported : issuedBy executed = some (grant, now))
    (issued : IssuedGrant request executed.before.bounds now grant issuable) :
    IssuedWithin executed grant now (appliedTtlSeconds request.ttlSeconds) issuable where
  issued := reported
  snapshot := by rw [issued.workspace, issued.agent, issued.snapshot]
  subsumed := by
    rw [issued.scopes]
    exact issued.within.subsumed
  expiry := issued.expiry
  capped := issued.within.capped
  ceiling := issued.ceiling

/-! ## What one operation does to the grants -/

/-- The grants after an operation: as before, with one new grant, or with one
grant revoked. -/
inductive GrantChange (executed : Step) : GrantRepository → Prop
  | unchanged
      (quiet : ∀ grantRef workspaceId, ¬ Revokes executed grantRef workspaceId) :
      GrantChange executed executed.before.grants
  | issued
      (grant : Grant)
      (issuedAt : Instant)
      (appliedTtl : Int)
      (issuable : AgentIssuableBounds)
      (within : IssuedWithin executed grant issuedAt appliedTtl issuable)
      (fresh : executed.before.grants.get? grant.grantRef = none)
      (quiet : ∀ grantRef workspaceId, ¬ Revokes executed grantRef workspaceId) :
      GrantChange executed (executed.before.grants.set grant.grantRef grant)
  | revoked
      (grantRef : String)
      (grant : Grant)
      (present : executed.before.grants.get? grantRef = some grant)
      (only : ∀ otherRef workspaceId, Revokes executed otherRef workspaceId →
        otherRef = grantRef) :
      GrantChange executed
        (executed.before.grants.set grantRef { grant with status := .revoked })

/-- An operation that is no revocation revokes nothing. -/
theorem quiet_of_operation
    {executed : Step}
    (other : ∀ grantRef workspaceId now token,
      executed.operation ≠ .revokeGrant grantRef workspaceId now token)
    (grantRef workspaceId : String) :
    ¬ Revokes executed grantRef workspaceId := by
  rintro ⟨now, token, answer, operation, -⟩
  exact other grantRef workspaceId now token operation

section Steps

variable (hashKey : String → String) (hmac : KeyedHash)

theorem issueGrant_change
    (service : Service)
    (request : GrantIssueRequest)
    (now : Instant)
    (draws : IssueDraws) :
    GrantChange ((machine hashKey hmac).execute (.issueGrant request now draws) service)
      (step hashKey hmac (.issueGrant request now draws) service).2.grants := by
  rcases issueGrant_cases request service.bounds now service.grants service.writer draws with
    ⟨unchanged, -⟩ | ⟨grant, issuable, issued, fresh, inserted, answered⟩
  · simp only [step]
    rw [unchanged]
    exact .unchanged (quiet_of_operation (by simp [Machine.execute]))
  · rw [if_pos (service.writer_reliable.written _)] at answered
    simp only [step]
    rw [inserted]
    refine .issued grant now _ issuable (issuedWithin_of_issuedGrant ?_ issued) fresh
      (quiet_of_operation (by simp [Machine.execute]))
    simp [issuedBy, Machine.execute, machine, step, answered]

theorem approveGrantRequest_change
    (service : Service)
    (input : DecisionInput)
    (now : Instant)
    (draws : ApprovalDraws) :
    GrantChange ((machine hashKey hmac).execute (.approveGrantRequest input now draws) service)
      (step hashKey hmac (.approveGrantRequest input now draws) service).2.grants := by
  rcases approveGrantRequest_grants input {} service.bounds now service.requests
      service.grants service.writer_reliable draws with
    ⟨unchanged, -⟩ |
    ⟨request, grant, issuable, result, issued, fresh, inserted, answered, approved, carried⟩
  · simp only [step]
    rw [unchanged]
    exact .unchanged (quiet_of_operation (by simp [Machine.execute]))
  · simp only [step]
    rw [inserted]
    refine .issued grant now _ issuable (issuedWithin_of_issuedGrant ?_ issued) fresh
      (quiet_of_operation (by simp [Machine.execute]))
    simp [issuedBy, Machine.execute, machine, step, answered, approved, carried]

theorem autoApproveGrantRequest_change
    (service : Service)
    (requestId workspaceId decidedBy : String)
    (now : Instant)
    (draws : ApprovalDraws) :
    GrantChange
      ((machine hashKey hmac).execute
        (.autoApproveGrantRequest requestId workspaceId decidedBy now draws) service)
      (step hashKey hmac (.autoApproveGrantRequest requestId workspaceId decidedBy now draws)
        service).2.grants := by
  rcases autoApproveGrantRequest_grants requestId workspaceId decidedBy service.rules
      service.bounds now service.requests service.grants service.writer_reliable draws with
    ⟨unchanged, -⟩ |
    ⟨request, grant, issuable, result, issued, fresh, inserted, answered, approved, carried⟩
  · simp only [step]
    rw [unchanged]
    exact .unchanged (quiet_of_operation (by simp [Machine.execute]))
  · simp only [step]
    rw [inserted]
    refine .issued grant now _ issuable (issuedWithin_of_issuedGrant ?_ issued) fresh
      (quiet_of_operation (by simp [Machine.execute]))
    simp [issuedBy, Machine.execute, machine, step, answered, approved, carried]

theorem revokeGrant_change
    (service : Service)
    (grantRef workspaceId : String)
    (now : Instant)
    (token : Token) :
    GrantChange
      ((machine hashKey hmac).execute (.revokeGrant grantRef workspaceId now token) service)
      (step hashKey hmac (.revokeGrant grantRef workspaceId now token) service).2.grants := by
  have only : ∀ otherRef otherWorkspace,
      Revokes ((machine hashKey hmac).execute (.revokeGrant grantRef workspaceId now token)
        service) otherRef otherWorkspace → otherRef = grantRef := by
    rintro otherRef otherWorkspace ⟨_, _, _, operation, -⟩
    simp only [Machine.execute, Operation.revokeGrant.injEq] at operation
    exact operation.1.symm
  simp only [step]
  unfold revokeGrant GrantRepository.revoke GrantRepository.getByRef
  cases found : service.grants.get? grantRef with
  | none =>
      refine .unchanged ?_
      rintro otherRef otherWorkspace ⟨_, _, answer, -, reply⟩
      simp [Machine.execute, machine, step, revokeGrant, GrantRepository.revoke,
        GrantRepository.getByRef, found] at reply
  | some grant =>
      by_cases owned : grant.workspaceId = workspaceId
      · subst owned
        simp only [ne_eq, not_true_eq_false, if_false]
        exact .revoked grantRef grant found only
      · simp only [owned, ne_eq, not_false_eq_true, if_true]
        refine .unchanged ?_
        rintro otherRef otherWorkspace ⟨_, _, answer, -, reply⟩
        simp [Machine.execute, machine, step, revokeGrant, GrantRepository.revoke,
          GrantRepository.getByRef, found, owned] at reply

/-- Every operation changes the grants in one of the three ways. -/
theorem step_change (operation : Operation) (service : Service) :
    GrantChange ((machine hashKey hmac).execute operation service)
      (step hashKey hmac operation service).2.grants := by
  cases operation with
  | issueGrant request now draws => exact issueGrant_change hashKey hmac service ..
  | approveGrantRequest input now draws =>
      exact approveGrantRequest_change hashKey hmac service ..
  | autoApproveGrantRequest requestId workspaceId decidedBy now draws =>
      exact autoApproveGrantRequest_change hashKey hmac service ..
  | revokeGrant grantRef workspaceId now token =>
      exact revokeGrant_change hashKey hmac service ..
  | setBounds | createAutoApprovalRule | disableAutoApprovalRule | registerBoundary =>
      simp only [step]
      split <;> exact .unchanged (quiet_of_operation (by simp [Machine.execute]))
  | _ => exact .unchanged (quiet_of_operation (by simp [Machine.execute]))

end Steps

/-! ## The invariant -/

/-- The stored grants are accounted for by the history. -/
structure Accounted (history : List Step) (service : Service) : Prop where
  origin : ∀ grantRef grant, service.grants.get? grantRef = some grant →
    ∃ issuing ∈ history, ∃ original issuedAt appliedTtl issuable,
      IssuedWithin issuing original issuedAt appliedTtl issuable ∧
      original.grantRef = grantRef ∧ grant = { original with status := grant.status }
  revoked : ∀ revoking ∈ history, ∀ grantRef workspaceId,
    Revokes revoking grantRef workspaceId →
    ∃ grant, service.grants.get? grantRef = some grant ∧ grant.status = .revoked

theorem accounted_nil {service : Service} (noGrants : service.grants = Dict.empty) :
    Accounted [] service := by
  constructor
  · intro grantRef grant present
    rw [noGrants, Dict.get?_empty] at present
    contradiction
  · simp

theorem accounted_step
    (hashKey : String → String)
    (hmac : KeyedHash)
    (history : List Step)
    (service : Service)
    (operation : Operation)
    (accounted : Accounted history service) :
    Accounted (history ++ [(machine hashKey hmac).execute operation service])
      ((machine hashKey hmac).step operation service).2 := by
  have change := step_change hashKey hmac operation service
  change Accounted _ (step hashKey hmac operation service).2
  generalize step hashKey hmac operation service = next at change ⊢
  have before : ((machine hashKey hmac).execute operation service).before = service := rfl
  generalize (machine hashKey hmac).execute operation service = executed at change before ⊢
  obtain ⟨reply, after⟩ := next
  subst before
  dsimp only at change ⊢
  generalize grantsAfter : after.grants = grants at change
  -- An origin in the history stays one when the history grows.
  have earlier : ∀ grantRef grant, executed.before.grants.get? grantRef = some grant →
      ∃ issuing ∈ history ++ [executed], ∃ original issuedAt appliedTtl issuable,
        IssuedWithin issuing original issuedAt appliedTtl issuable ∧
        original.grantRef = grantRef ∧ grant = { original with status := grant.status } := by
    intro grantRef grant present
    obtain ⟨issuing, member, rest⟩ := accounted.origin grantRef grant present
    exact ⟨issuing, List.mem_append_left _ member, rest⟩
  cases change with
  | unchanged quiet =>
      constructor
      · rw [grantsAfter]
        exact earlier
      · intro revoking member grantRef workspaceId revokes
        rw [grantsAfter]
        rcases List.mem_append.mp member with old | new
        · exact accounted.revoked revoking old grantRef workspaceId revokes
        · rw [List.mem_singleton.mp new] at revokes
          exact absurd revokes (quiet grantRef workspaceId)
  | issued grant issuedAt appliedTtl issuable within fresh quiet =>
      constructor
      · intro grantRef stored present
        rw [grantsAfter, Dict.get?_set] at present
        split_ifs at present with same
        · cases present
          exact ⟨executed, by simp, grant, issuedAt, appliedTtl, issuable, within, same.symm,
            rfl⟩
        · exact earlier grantRef stored present
      · intro revoking member grantRef workspaceId revokes
        rw [grantsAfter]
        rcases List.mem_append.mp member with old | new
        · obtain ⟨held, present, status⟩ :=
            accounted.revoked revoking old grantRef workspaceId revokes
          refine ⟨held, ?_, status⟩
          rw [Dict.get?_set_of_ne _ _ ?_, present]
          rintro rfl
          rw [fresh] at present
          contradiction
        · rw [List.mem_singleton.mp new] at revokes
          exact absurd revokes (quiet grantRef workspaceId)
  | revoked revokedRef grant present only =>
      constructor
      · intro grantRef stored storedPresent
        rw [grantsAfter, Dict.get?_set] at storedPresent
        split_ifs at storedPresent with same
        · cases storedPresent
          obtain ⟨issuing, member, original, issuedAt, appliedTtl, issuable, within, reference,
            identity⟩ := earlier revokedRef grant present
          refine ⟨issuing, member, original, issuedAt, appliedTtl, issuable, within,
            reference.trans same.symm, ?_⟩
          rw [identity]
        · exact earlier grantRef stored storedPresent
      · intro revoking member grantRef workspaceId revokes
        rw [grantsAfter, Dict.get?_set]
        split_ifs with same
        · exact ⟨_, rfl, rfl⟩
        · rcases List.mem_append.mp member with old | new
          · exact accounted.revoked revoking old grantRef workspaceId revokes
          · rw [List.mem_singleton.mp new] at revokes
            exact absurd (only grantRef workspaceId revokes) same

/-! ## The ceiling -/

/-- A permitted request of the agent's endpoint is permitted by a stored grant
of that agent. -/
theorem enforceV1Contract_permits
    {service : Service}
    {request : V1EnforceRequest}
    {now : Instant}
    {token : Token}
    (permitted : (enforceV1Contract service.enforceServices request now service.writer
      token).1.decision = some .permit) :
    ∃ grant, service.grants.get? request.grantRef = some grant ∧
      grant.workspaceId = request.workspaceId ∧ grant.agentId = request.agentId ∧
      GrantPermits grant request.action request.resource now := by
  unfold enforceV1Contract at permitted
  split at permitted
  · simp at permitted
  · next found lookup =>
      split at permitted
      · simp at permitted
      · next grant kept =>
          obtain ⟨rfl, owner⟩ := Option.filter_eq_some_iff.mp kept
          have owned := of_decide_eq_true owner
          simp only [Service.enforceServices, GrantRepository.lookup,
            GrantRepository.getByRef, Except.ok.injEq] at lookup
          refine ⟨grant, lookup, owned.1, owned.2, ?_⟩
          unfold evaluateAndRecord at permitted
          dsimp only at permitted
          split_ifs at permitted
          · simp at permitted
          · simp at permitted
          · rw [responseFromDecision_decision, Option.some.injEq] at permitted
            exact evaluateEnforce_permits permitted
          · simp at permitted

/-- In every run that starts without grants, a permitted request names a grant
that an earlier operation issued to the same workspace and agent, within the
bounds then in force, not yet expired and never revoked before. -/
theorem enforce_permits_within_issuable_bounds
    {hashKey : String → String}
    {hmac : KeyedHash}
    {service : Service}
    (noGrants : service.grants = Dict.empty)
    {operations : List Operation}
    {earlier later : List Step}
    {enforcing : Step}
    (position : (machine hashKey hmac).executions service operations =
      earlier ++ enforcing :: later)
    {request : V1EnforceRequest}
    {now : Instant}
    {token : Token}
    {response : V1EnforceResponse}
    (operation : enforcing.operation = .enforce request now token)
    (answer : enforcing.reply = .enforcement response)
    (permitted : response.decision = some .permit) :
    (∃ issuing ∈ earlier, ∃ grant issuedAt appliedTtl issuable,
      issuedBy issuing = some (grant, issuedAt) ∧
      grant.grantRef = request.grantRef ∧
      grant.workspaceId = request.workspaceId ∧
      grant.agentId = request.agentId ∧
      issuing.before.bounds.get? (request.workspaceId, request.agentId) = some issuable ∧
      (∃ bound ∈ issuable.scopes,
        matchScope [bound] request.action request.resource ≠ none) ∧
      grant.expiresAt = some (issuedAt + seconds appliedTtl) ∧
      now < issuedAt + seconds appliedTtl ∧
      (∀ cap, issuable.maxTtlSeconds = some cap → appliedTtl ≤ cap) ∧
      appliedTtl ≤ maxTtlSecondsCeiling) ∧
    ∀ revoking ∈ earlier, ¬ Revokes revoking request.grantRef request.workspaceId := by
  obtain ⟨accounted, executes⟩ := (machine hashKey hmac).executions_invariant
    (accounted_step hashKey hmac) (accounted_nil noGrants) position
  rw [List.nil_append] at accounted
  obtain ⟨before, executedOperation, reply⟩ := enforcing
  dsimp only at accounted executes operation answer
  subst operation
  have replied := congrArg Executed.reply executes
  rw [answer] at replied
  cases replied
  obtain ⟨grant, present, workspace, agent, permits⟩ := enforceV1Contract_permits permitted
  obtain ⟨issuing, member, original, issuedAt, appliedTtl, issuable, within, reference,
    identity⟩ := accounted.origin request.grantRef grant present
  have sameWorkspace : original.workspaceId = request.workspaceId := by
    rw [← workspace, identity]
  have sameAgent : original.agentId = request.agentId := by
    rw [← agent, identity]
  have sameExpiry : grant.expiresAt = original.expiresAt := by
    rw [identity]
  obtain ⟨scope, held, matching⟩ := permits.matched
  rw [identity] at held
  obtain ⟨bound, inBounds, subsumes⟩ := within.subsumed scope held
  constructor
  · refine ⟨issuing, member, original, issuedAt, appliedTtl, issuable, within.issued,
      reference, sameWorkspace, sameAgent, ?_, ?_, within.expiry, ?_, within.capped,
      within.ceiling⟩
    · rw [← sameWorkspace, ← sameAgent]
      exact within.snapshot
    · exact ⟨bound, inBounds, matches_of_scopeSubsumes subsumes matching⟩
    · exact permits.unexpired _ (sameExpiry.trans within.expiry)
  · intro revoking earlierStep revokes
    obtain ⟨held, heldPresent, status⟩ :=
      accounted.revoked revoking earlierStep _ _ revokes
    rw [present, Option.some.injEq] at heldPresent
    subst heldPresent
    rw [permits.active] at status
    contradiction

def sampleService : Service where
  popReplay := { seen := Dict.empty, maxEntries := 100000, maxPerToken := 10000 }

def sampleEnforcement : V1EnforceRequest where
  workspaceId := "ws"
  agentId := "agent_a"
  grantRef := "grt_1"
  action := "read"
  resource := "repo/main/file"

/-- Set bounds, issue a grant below them, enforce it. -/
def sampleOperations : List Operation :=
  [.setBounds
      { workspaceId := "ws", agentId := "agent_a", scopes := ["read:repo/main/*"]
        maxTtlSeconds := some 3600 },
    .issueGrant
      { workspaceId := "ws", targetAgentId := "agent_a"
        requestedScopes := ["read:repo/main/file"], ttlSeconds := 60
        grantRef := some "grt_1" }
      0 ⟨"g", "r", "e1"⟩,
    .enforce sampleEnforcement 5 "e2"]

/-- The state in which the sample request is enforced. -/
def sampleBefore (hashKey : String → String) (hmac : KeyedHash) : Service :=
  (sampleOperations.take 2).foldl (fun service operation =>
    (step hashKey hmac operation service).2) sampleService

/-- A run whose request is permitted: its grant was issued by the second
operation. -/
theorem sample_permits_within_bounds :
    ∃ issuing ∈ ((machine id (fun _ _ => [])).executions sampleService
        sampleOperations).take 2,
      ∃ grant issuedAt appliedTtl issuable,
        issuedBy issuing = some (grant, issuedAt) ∧
        grant.grantRef = sampleEnforcement.grantRef ∧
        issuing.before.bounds.get? ("ws", "agent_a") = some issuable ∧
        grant.expiresAt = some (issuedAt + seconds appliedTtl) ∧
        5 < issuedAt + seconds appliedTtl := by
  obtain ⟨⟨issuing, member, grant, issuedAt, appliedTtl, issuable, issued, reference, -, -,
      snapshot, -, expiry, unexpired, -, -⟩, -⟩ :=
    @enforce_permits_within_issuable_bounds id (fun _ _ => []) sampleService rfl
      sampleOperations
      (((machine id (fun _ _ => [])).executions sampleService sampleOperations).take 2) []
      ((machine id (fun _ _ => [])).execute (.enforce sampleEnforcement 5 "e2")
        (sampleBefore id (fun _ _ => [])))
      rfl sampleEnforcement 5 "e2" _ rfl rfl (by decide)
  exact ⟨issuing, member, grant, issuedAt, appliedTtl, issuable, issued, reference, snapshot,
    expiry, unexpired⟩

end InMemory
end Vinctor
