import Vinctor.Service.AutoApproval

/-!
# What auto-approval decides

The rules are searched for one that covers the request.  Where none does, the reason tells
what the rules of the target agent fell short of.  The search is characterised by what the
rules satisfy, so that their order shows only in the rule that is named.

An automatic approval passes two checks: the rule that covers the request, and the bounds
of the target agent at the issuance.
-/

namespace Vinctor
namespace AutoApproval

open Foundation
open Scope
open Grants
open GrantRequests

variable {request : GrantRequest} {rule : AutoApprovalRule} {rules rules' : List AutoApprovalRule}

/-! ## The search -/

/-- An active rule for the target agent of the request. -/
def addresses (request : GrantRequest) (rule : AutoApprovalRule) : Bool :=
  rule.status == .active && rule.targetAgentId == request.targetAgentId

/-- The scopes of the request go beyond the rule. -/
def fallsShortOfScopes (request : GrantRequest) (rule : AutoApprovalRule) : Bool :=
  addresses request rule && !scopesWithinRule request.requestedScopes rule.allowedScopes

/-- Only the lifetime of the request goes beyond the rule. -/
def fallsShortOfTtl (request : GrantRequest) (rule : AutoApprovalRule) : Bool :=
  addresses request rule && scopesWithinRule request.requestedScopes rule.allowedScopes &&
    decide (rule.maxTtlSeconds < request.requestedTtlSeconds)

def covers (request : GrantRequest) (rule : AutoApprovalRule) : Bool :=
  addresses request rule && scopesWithinRule request.requestedScopes rule.allowedScopes &&
    decide (request.requestedTtlSeconds ≤ rule.maxTtlSeconds)

theorem scopesWithinRule_iff
    (requestedScopes allowedScopes : List String) :
    scopesWithinRule requestedScopes allowedScopes = true ↔
      ∀ requested ∈ requestedScopes, ∃ allowed ∈ allowedScopes,
        scopeSubsumes allowed requested = true := by
  simp [scopesWithinRule]

theorem covers_iff :
    covers request rule = true ↔
      rule.status = .active ∧ rule.targetAgentId = request.targetAgentId ∧
      (∀ requested ∈ request.requestedScopes, ∃ allowed ∈ rule.allowedScopes,
        scopeSubsumes allowed requested = true) ∧
      request.requestedTtlSeconds ≤ rule.maxTtlSeconds := by
  rw [covers, addresses, Bool.and_eq_true, Bool.and_eq_true, Bool.and_eq_true, beq_iff_eq,
    beq_iff_eq, scopesWithinRule_iff, decide_eq_true_eq, and_assoc, and_assoc]

/-- The search finds the first rule that covers the request, or tells what was missed. -/
theorem searchRules_eq
    (request : GrantRequest)
    (rules : List AutoApprovalRule)
    (sawScopeCandidate sawTtlCandidate : Bool) :
    searchRules request rules sawScopeCandidate sawTtlCandidate =
      match rules.find? (covers request) with
      | some rule => .ok rule
      | none => .error (sawScopeCandidate || rules.any (fallsShortOfScopes request),
          sawTtlCandidate || rules.any (fallsShortOfTtl request)) := by
  induction rules generalizing sawScopeCandidate sawTtlCandidate with
  | nil => simp [searchRules]
  | cons rule rules rest =>
      unfold searchRules
      rw [List.find?_cons, List.any_cons, List.any_cons]
      by_cases addressed : addresses request rule = true
      · have isFor := addressed
        rw [addresses, Bool.and_eq_true, beq_iff_eq, beq_iff_eq] at isFor
        rw [if_neg (by simp [isFor])]
        cases within : scopesWithinRule request.requestedScopes rule.allowedScopes with
        | false =>
            have uncovered : covers request rule = false := by simp [covers, within]
            have inTime : fallsShortOfTtl request rule = false := by
              simp [fallsShortOfTtl, within]
            have outside : fallsShortOfScopes request rule = true := by
              simp [fallsShortOfScopes, addressed, within]
            rw [if_pos rfl, rest, uncovered, inTime, outside]
            cases rules.find? (covers request) <;> simp
        | true =>
            have inside : fallsShortOfScopes request rule = false := by
              simp [fallsShortOfScopes, within]
            rw [if_neg (by decide)]
            by_cases late : rule.maxTtlSeconds < request.requestedTtlSeconds
            · have uncovered : covers request rule = false := by simp [covers, late]
              have isLate : fallsShortOfTtl request rule = true := by
                simp [fallsShortOfTtl, addressed, within, late]
              rw [if_pos late, rest, uncovered, inside, isLate]
              cases rules.find? (covers request) <;> simp
            · have covered : covers request rule = true := by
                simp [covers, addressed, within, Int.not_lt.mp late]
              rw [if_neg late, covered]
      · have notFor : addresses request rule = false := by simpa using addressed
        have uncovered : covers request rule = false := by simp [covers, notFor]
        have inside : fallsShortOfScopes request rule = false := by
          simp [fallsShortOfScopes, notFor]
        have inTime : fallsShortOfTtl request rule = false := by simp [fallsShortOfTtl, notFor]
        rw [if_pos, rest, uncovered, inside, inTime]
        · cases rules.find? (covers request) <;> simp
        · rw [addresses, Bool.and_eq_false_iff, beq_eq_false_iff_ne, beq_eq_false_iff_ne] at notFor
          exact notFor

/-! ## The evaluation -/

/-- The decision and the reason for a pending request, by what the rules satisfy. -/
def verdictOf (request : GrantRequest) (rules : List AutoApprovalRule) :
    AutoApprovalEvaluationDecision × String :=
  if rules.any (covers request) then (.wouldApprove, "auto_approval_match")
  else if rules.any (fallsShortOfTtl request) then (.wouldNotApprove, "ttl_exceeds_rule")
  else if rules.any (fallsShortOfScopes request) then (.wouldNotApprove, "scope_outside_rule")
  else (.wouldNotApprove, "no_matching_rule")

theorem evaluateAutoApproval_verdict
    {repository : AutoApprovalRuleRepository}
    (pending : request.status = .pending) :
    ((evaluateAutoApproval request repository).decision,
        (evaluateAutoApproval request repository).reason) =
      verdictOf request (repository.listRulesForWorkspace request.workspaceId) := by
  unfold evaluateAutoApproval verdictOf
  rw [if_neg (by simp [pending]), searchRules_eq]
  cases found : (repository.listRulesForWorkspace request.workspaceId).find? (covers request) with
  | some rule =>
      have someCovers : (repository.listRulesForWorkspace request.workspaceId).any
          (covers request) = true :=
        List.any_eq_true.mpr ⟨rule, List.mem_of_find?_eq_some found, List.find?_some found⟩
      rw [if_pos someCovers]
  | none =>
      have noneCovers : ¬ (repository.listRulesForWorkspace request.workspaceId).any
          (covers request) = true := by
        rw [List.any_eq_true]
        rintro ⟨rule, member, isCovered⟩
        exact List.find?_eq_none.mp found rule member isCovered
      rw [if_neg noneCovers]
      dsimp only
      simp only [Bool.false_or]
      split_ifs <;> rfl

theorem evaluateAutoApproval_not_pending
    {repository : AutoApprovalRuleRepository}
    (decided : request.status ≠ .pending) :
    ((evaluateAutoApproval request repository).decision,
        (evaluateAutoApproval request repository).reason) =
      (.wouldNotApprove, "grant_request_not_pending") := by
  unfold evaluateAutoApproval
  rw [if_pos decided]

/-- The rule that is named covers the request. -/
theorem evaluateAutoApproval_rule
    {repository : AutoApprovalRuleRepository}
    (named : (evaluateAutoApproval request repository).rule = some rule) :
    request.status = .pending ∧
      rule ∈ repository.listRulesForWorkspace request.workspaceId ∧ covers request rule = true := by
  unfold evaluateAutoApproval at named
  split at named
  · cases named
  · next pending =>
      rw [searchRules_eq] at named
      cases found : (repository.listRulesForWorkspace request.workspaceId).find?
          (covers request) with
      | some first =>
          rw [found] at named
          obtain rfl := Option.some.inj named
          exact ⟨not_not.mp pending, List.mem_of_find?_eq_some found, List.find?_some found⟩
      | none =>
          rw [found] at named
          dsimp only at named
          split at named <;> cases named

/-! ## The approval -/

/-- Requests are stored under their identifiers. -/
def Filed (requests : GrantRequestRepository) : Prop :=
  ∀ requestId request, requests.get? requestId = some request → request.requestId = requestId

theorem Filed.set
    {requests : GrantRequestRepository}
    (filed : Filed requests)
    (request : GrantRequest) :
    Filed (requests.set request.requestId request) := by
  intro requestId stored found
  by_cases same : requestId = request.requestId
  · rw [same, Dict.get?_set_self] at found
    rw [← Option.some.inj found, same]
  · rw [Dict.get?_set_of_ne _ _ same] at found
    exact filed requestId stored found

section Approval

variable
  (bounds : ScopeBoundsRepository)
  (now : Instant)
  (requests : GrantRequestRepository)
  (grants : GrantRepository)
  (writer : AuditWriter)
  (draws : ApprovalDraws)

/-- The grants after an approval are those before it, or those of the issuance. -/
theorem approveGrantRequest_grants_cases
    (input : DecisionInput)
    (audit : ApprovalAudit) :
    (approveGrantRequest input audit bounds now requests grants writer draws).grants = grants ∨
    ∃ request updated,
      lookupGrantRequest requests input.requestId input.workspaceId = some request ∧
      (approveGrantRequest input audit bounds now requests grants writer draws).grants =
        (issueGrant (issueRequestOf request updated) bounds now grants writer draws.issue).grants := by
  cases found : lookupGrantRequest requests input.requestId input.workspaceId with
  | none =>
      left
      unfold approveGrantRequest
      rw [found]
  | some request =>
      by_cases pending : request.status = .pending
      · rcases claim : requests.decideRequest
          (approvedRequest request input now draws.grantRef) with ⟨won, claimed⟩
        cases won with
        | false =>
            left
            unfold approveGrantRequest
            rw [found]
            dsimp only
            rw [if_neg (not_not.mpr pending), claim]
        | true =>
            right
            refine ⟨request, approvedRequest request input now draws.grantRef, rfl, ?_⟩
            unfold approveGrantRequest
            rw [found]
            dsimp only
            rw [if_neg (not_not.mpr pending), claim]
            dsimp only
            split
            · rfl
            · split
              · rfl
              · split
                · rfl
                · rfl
      · left
        unfold approveGrantRequest
        rw [found]
        dsimp only
        rw [if_pos pending]

/-- A lookup answers with a request of the workspace that was asked for. -/
theorem lookupGrantRequest_again
    {requests : GrantRequestRepository}
    {requestId workspaceId : String}
    (filed : Filed requests)
    (found : lookupGrantRequest requests requestId workspaceId = some request) :
    lookupGrantRequest requests request.requestId request.workspaceId = some request := by
  have stored := found
  rw [lookupGrantRequest, Option.filter_eq_some_iff, decide_eq_true_eq] at stored
  rw [filed requestId request stored.1, stored.2]
  exact found

/-- What an automatic approval issues passed the rule and the bounds. -/
theorem autoApproveGrantRequest_issues
    (repository : AutoApprovalRuleRepository)
    (requestId workspaceId decidedBy : String)
    (filed : Filed requests) :
    (autoApproveGrantRequest requestId workspaceId decidedBy repository bounds now requests grants
      writer draws).grants = grants ∨
    ∃ request rule grant issuable updated,
      lookupGrantRequest requests requestId workspaceId = some request ∧
      (evaluateAutoApproval request repository).decision = .wouldApprove ∧
      (evaluateAutoApproval request repository).rule = some rule ∧
      IssuedGrant (issueRequestOf request updated) bounds now grant issuable ∧
      (autoApproveGrantRequest requestId workspaceId decidedBy repository bounds now requests grants
        writer draws).grants = grants.set grant.grantRef grant := by
  cases found : lookupGrantRequest requests requestId workspaceId with
  | none =>
      left
      unfold autoApproveGrantRequest
      rw [found]
  | some request =>
      cases decision : (evaluateAutoApproval request repository).decision with
      | wouldNotApprove =>
          left
          unfold autoApproveGrantRequest
          rw [found]
          dsimp only
          rw [decision]
      | wouldApprove =>
          cases named : (evaluateAutoApproval request repository).rule with
          | none =>
              left
              unfold autoApproveGrantRequest
              rw [found]
              dsimp only
              rw [decision, named]
          | some rule =>
              have sameGrants : (autoApproveGrantRequest requestId workspaceId decidedBy repository
                  bounds now requests grants writer draws).grants =
                    (approveGrantRequest (autoDecisionInput request rule decidedBy)
                      autoApprovalAudit bounds now requests grants writer draws).grants := by
                unfold autoApproveGrantRequest
                rw [found]
                dsimp only
                rw [decision, named]
              rw [sameGrants]
              rcases approveGrantRequest_grants_cases bounds now requests grants writer draws
                  (autoDecisionInput request rule decidedBy) autoApprovalAudit with
                unchanged | ⟨stored, updated, again, issues⟩
              · exact Or.inl unchanged
              · have same : some stored = some request :=
                  again.symm.trans (lookupGrantRequest_again filed found)
                obtain rfl := Option.some.inj same
                rw [issues]
                rcases issueGrant_cases (issueRequestOf stored updated) bounds now grants writer
                    draws.issue with
                  ⟨unchanged, _⟩ | ⟨grant, issuable, issued, _, inserted, _⟩
                · exact Or.inl unchanged
                · exact Or.inr ⟨stored, rule, grant, issuable, updated, rfl, decision, named,
                    issued, inserted⟩

end Approval

/-- Whatever the scopes of a request permit, a rule that covers it permits. -/
theorem matchScope_of_covers
    (covered : covers request rule = true)
    {action resource : String}
    (permitted : matchScope request.requestedScopes action resource ≠ none) :
    matchScope rule.allowedScopes action resource ≠ none := by
  rw [matchScope_ne_none_iff] at permitted ⊢
  obtain ⟨_, _, within, _⟩ := covers_iff.mp covered
  obtain ⟨scope, requested, matching⟩ := permitted
  obtain ⟨allowed, member, subsumes⟩ := within scope requested
  exact ⟨allowed, member, matches_of_scopeSubsumes subsumes matching⟩

/-- Auto-approval decides by the rules alone, in any order of them, and issues within the
rule it names and the bounds of the agent. -/
theorem auto_approval_is_exact
    (request : GrantRequest)
    (repository : AutoApprovalRuleRepository) :
    ((evaluateAutoApproval request repository).decision = .wouldApprove ↔
      request.status = .pending ∧
      ∃ rule ∈ repository.values, rule.workspaceId = request.workspaceId ∧
        rule.status = .active ∧ rule.targetAgentId = request.targetAgentId ∧
        (∀ requested ∈ request.requestedScopes, ∃ allowed ∈ rule.allowedScopes,
          scopeSubsumes allowed requested = true) ∧
        request.requestedTtlSeconds ≤ rule.maxTtlSeconds) ∧
    (∀ reordered : AutoApprovalRuleRepository,
      (reordered.listRulesForWorkspace request.workspaceId).Perm
        (repository.listRulesForWorkspace request.workspaceId) →
      (evaluateAutoApproval request reordered).decision =
          (evaluateAutoApproval request repository).decision ∧
        (evaluateAutoApproval request reordered).reason =
          (evaluateAutoApproval request repository).reason) ∧
    (∀ bounds now requests grants writer draws requestId workspaceId decidedBy,
      Filed requests →
      (autoApproveGrantRequest requestId workspaceId decidedBy repository bounds now requests grants
        writer draws).grants = grants ∨
      ∃ request rule grant issuable,
        lookupGrantRequest requests requestId workspaceId = some request ∧
        (evaluateAutoApproval request repository).decision = .wouldApprove ∧
        (evaluateAutoApproval request repository).rule = some rule ∧
        (autoApproveGrantRequest requestId workspaceId decidedBy repository bounds now requests
          grants writer draws).grants = grants.set grant.grantRef grant ∧
        bounds.get? (request.workspaceId, request.targetAgentId) = some issuable ∧
        (∀ requested ∈ request.requestedScopes, ∃ bound ∈ issuable.scopes,
          scopeSubsumes bound requested = true) ∧
        (∀ cap, issuable.maxTtlSeconds = some cap →
          appliedTtlSeconds request.requestedTtlSeconds ≤ cap) ∧
        ∀ action resource, matchScope grant.scopes action resource ≠ none →
          matchScope rule.allowedScopes action resource ≠ none) := by
  refine ⟨?_, ?_, ?_⟩
  · by_cases pending : request.status = .pending
    · have verdict := congrArg Prod.fst
        (@evaluateAutoApproval_verdict request repository pending)
      dsimp only at verdict
      rw [verdict]
      have someCovers : (repository.listRulesForWorkspace request.workspaceId).any
          (covers request) = true ↔
            ∃ rule ∈ repository.values, rule.workspaceId = request.workspaceId ∧
              covers request rule = true := by
        rw [List.any_eq_true]
        constructor
        · rintro ⟨rule, member, covered⟩
          obtain ⟨stored, sameWorkspace⟩ := List.mem_filter.mp member
          exact ⟨rule, stored, of_decide_eq_true sameWorkspace, covered⟩
        · rintro ⟨rule, stored, sameWorkspace, covered⟩
          exact ⟨rule, List.mem_filter.mpr ⟨stored, decide_eq_true sameWorkspace⟩, covered⟩
      simp only [covers_iff] at someCovers
      rw [← someCovers, verdictOf]
      split_ifs with isCovered
      · simp [pending, isCovered]
      · simp [isCovered]
      · simp [isCovered]
      · simp [isCovered]
    · have verdict := congrArg Prod.fst
        (@evaluateAutoApproval_not_pending request repository pending)
      dsimp only at verdict
      rw [verdict]
      simp [pending]
  · intro reordered perm
    have same : ((evaluateAutoApproval request reordered).decision,
        (evaluateAutoApproval request reordered).reason) =
          ((evaluateAutoApproval request repository).decision,
            (evaluateAutoApproval request repository).reason) := by
      by_cases pending : request.status = .pending
      · rw [evaluateAutoApproval_verdict pending, evaluateAutoApproval_verdict pending, verdictOf,
          verdictOf, perm.any_eq, perm.any_eq, perm.any_eq]
      · rw [evaluateAutoApproval_not_pending pending, evaluateAutoApproval_not_pending pending]
    exact Prod.mk.inj same
  · intro bounds now requests grants writer draws requestId workspaceId decidedBy filed
    rcases autoApproveGrantRequest_issues bounds now requests grants writer draws repository
        requestId workspaceId decidedBy filed with
      unchanged | ⟨stored, rule, grant, issuable, updated, found, decision, named, issued, inserted⟩
    · exact Or.inl unchanged
    · obtain ⟨_, _, covered⟩ := evaluateAutoApproval_rule named
      refine Or.inr ⟨stored, rule, grant, issuable, found, decision, named, inserted,
        issued.snapshot, issued.within.subsumed, issued.within.capped, ?_⟩
      intro action resource permitted
      rw [issued.scopes] at permitted
      exact matchScope_of_covers covered permitted

def docsRequest : GrantRequest where
  requestId := "greq_1"
  workspaceId := "ws"
  requesterAgentId := "agent"
  targetAgentId := "agent"
  requestedScopes := ["read:repo/docs/intro"]
  requestedTtlSeconds := 60
  reason := "read the introduction"
  status := .pending
  createdAt := 0

def docsRule : AutoApprovalRule where
  ruleId := "rule_1"
  workspaceId := "ws"
  name := "docs"
  targetAgentId := "agent"
  allowedScopes := ["read:repo/docs/*"]
  maxTtlSeconds := 600
  status := .active
  createdBy := "operator"
  createdAt := 0

def docsRules : AutoApprovalRuleRepository := Dict.empty.set docsRule.ruleId docsRule

def docsRequests : GrantRequestRepository := Dict.empty.set docsRequest.requestId docsRequest

/-- A request within a rule would be approved.  Without bounds nothing is issued. -/
theorem docs_request_would_be_approved :
    (evaluateAutoApproval docsRequest docsRules).decision = .wouldApprove ∧
    ∀ now grants writer draws,
      (autoApproveGrantRequest "greq_1" "ws" "operator" docsRules Dict.empty now docsRequests grants
        writer draws).grants = grants := by
  have filed : Filed docsRequests := by
    apply Filed.set
    intro requestId request found
    rw [Dict.get?_empty] at found
    cases found
  obtain ⟨approves, _, issues⟩ := auto_approval_is_exact docsRequest docsRules
  refine ⟨approves.mpr (by decide), fun now grants writer draws => ?_⟩
  rcases issues Dict.empty now docsRequests grants writer draws "greq_1" "ws" "operator" filed with
    unchanged | ⟨_, _, _, _, _, _, _, _, bounded, _⟩
  · exact unchanged
  · rw [Dict.get?_empty] at bounded
    cases bounded

end AutoApproval
end Vinctor
