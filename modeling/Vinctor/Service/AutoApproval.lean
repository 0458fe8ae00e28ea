import Vinctor.Service.GrantRequests

/-!
# Auto-approval

Rules of a workspace approve pending requests of a target agent whose scopes
and lifetime they cover.  An automatic approval is an ordinary approval under
its own audit names.
-/

namespace Vinctor
namespace AutoApproval

open Foundation
open Scope
open Audit
open Grants
open GrantRequests

/-! ## Rules -/

def validateRule (rule : AutoApprovalRule) : Except String Unit :=
  if rule.workspaceId = "" then .error "workspace_id must be non-empty"
  else if rule.ruleId = "" then .error "rule_id must be non-empty"
  else if rule.name = "" then .error "name must be non-empty"
  else if rule.targetAgentId = "" then .error "target_agent_id must be non-empty"
  else if rule.maxTtlSeconds ≤ 0 then .error "max_ttl_seconds must be positive"
  else if rule.allowedScopes.isEmpty then .error "at least one allowed scope is required"
  else
    match rule.allowedScopes.filter fun scope => !isValidGrantScope scope with
    | invalid :: _ => .error ("invalid allowed scope: " ++ invalid)
    | [] =>
        if rule.createdBy = "" then .error "created_by must be non-empty" else .ok ()

def createAutoApprovalRule (rules : AutoApprovalRuleRepository) (rule : AutoApprovalRule) :
    Except String AutoApprovalRuleRepository :=
  match validateRule rule with
  | .error text => .error text
  | .ok () => rules.addRule rule

def disableAutoApprovalRule
    (rules : AutoApprovalRuleRepository)
    (ruleId workspaceId disabledBy : String)
    (now : Instant) : Except String (Option AutoApprovalRule × AutoApprovalRuleRepository) :=
  match (rules.getRule ruleId).filter fun rule => rule.workspaceId = workspaceId with
  | none => .ok (none, rules)
  | some rule =>
      let disabled :=
        { rule with status := .disabled, updatedBy := some disabledBy, updatedAt := some now }
      match rules.updateRule disabled with
      | .error text => .error text
      | .ok updated => .ok (some disabled, updated)

/-! ## Evaluation -/

def scopesWithinRule (requestedScopes allowedScopes : List String) : Bool :=
  requestedScopes.all fun requested =>
    allowedScopes.any fun allowed => scopeSubsumes allowed requested

/-- First rule that covers the request, or the two flags of the rules passed
over. -/
def searchRules (request : GrantRequest) :
    List AutoApprovalRule → Bool → Bool → Except (Bool × Bool) AutoApprovalRule
  | [], sawScopeCandidate, sawTtlCandidate => .error (sawScopeCandidate, sawTtlCandidate)
  | rule :: rest, sawScopeCandidate, sawTtlCandidate =>
      if rule.status ≠ .active ∨ rule.targetAgentId ≠ request.targetAgentId then
        searchRules request rest sawScopeCandidate sawTtlCandidate
      else if scopesWithinRule request.requestedScopes rule.allowedScopes = false then
        searchRules request rest true sawTtlCandidate
      else if rule.maxTtlSeconds < request.requestedTtlSeconds then
        searchRules request rest sawScopeCandidate true
      else .ok rule

def evaluateAutoApproval (request : GrantRequest) (rules : AutoApprovalRuleRepository) :
    AutoApprovalEvaluationResult :=
  if request.status ≠ .pending then
    { decision := .wouldNotApprove, reason := "grant_request_not_pending", request := request }
  else
    match searchRules request (rules.listRulesForWorkspace request.workspaceId) false false with
    | .ok rule =>
        { decision := .wouldApprove
          reason := "auto_approval_match"
          request := request
          rule := some rule }
    | .error (sawScopeCandidate, sawTtlCandidate) =>
        if sawTtlCandidate then
          { decision := .wouldNotApprove, reason := "ttl_exceeds_rule", request := request }
        else
          { decision := .wouldNotApprove
            reason := if sawScopeCandidate then "scope_outside_rule" else "no_matching_rule"
            request := request }

/-! ## Automatic approval -/

def autoApprovalAudit : ApprovalAudit where
  eventType := .grantRequestAutoApproved
  reason := "grant_request_auto_approved"
  action := "auto_approve_grant_request"

/-- The decision that an evaluated request is approved with. -/
def autoDecisionInput (request : GrantRequest) (rule : AutoApprovalRule)
    (decidedBy : String) : DecisionInput where
  requestId := request.requestId
  workspaceId := request.workspaceId
  decidedBy := decidedBy
  decisionReason := some ("auto_approval_rule:" ++ rule.ruleId)

def autoResult (request : GrantRequest) (rule : AutoApprovalRule)
    (approved : GrantRequestDecisionResult) : GrantRequestDecisionResult where
  status := approved.status
  reason := approved.reason
  request := some (approved.request.getD request)
  grant := approved.grant
  auditEventId := approved.auditEventId
  autoApprovalRuleId := if approved.status = .approved then some rule.ruleId else none

def autoApproveGrantRequest
    (requestId workspaceId decidedBy : String)
    (rules : AutoApprovalRuleRepository)
    (bounds : ScopeBoundsRepository)
    (now : Instant)
    (requests : GrantRequestRepository)
    (grants : GrantRepository)
    (writer : AuditWriter)
    (draws : ApprovalDraws) : DecisionOutcome :=
  match lookupGrantRequest requests requestId workspaceId with
  | none =>
      { result := some (failedDecision "grant_request_not_found")
        requests := requests
        grants := grants
        writer := writer }
  | some request =>
      let evaluation := evaluateAutoApproval request rules
      match evaluation.decision, evaluation.rule with
      | .wouldApprove, some rule =>
          let approved := approveGrantRequest (autoDecisionInput request rule decidedBy)
            autoApprovalAudit bounds now requests grants writer draws
          { approved with result := approved.result.map (autoResult request rule) }
      | _, _ =>
          { result := some
              { status := .failed
                reason := evaluation.reason
                request := some evaluation.request }
            requests := requests
            grants := grants
            writer := writer }

/-- An automatic approval issues at most one grant, as an approval does. -/
theorem autoApproveGrantRequest_grants
    (requestId workspaceId decidedBy : String)
    (rules : AutoApprovalRuleRepository)
    (bounds : ScopeBoundsRepository)
    (now : Instant)
    (requests : GrantRequestRepository)
    (grants : GrantRepository)
    {writer : AuditWriter}
    (reliable : writer.Reliable)
    (draws : ApprovalDraws) :
    let outcome := autoApproveGrantRequest requestId workspaceId decidedBy rules bounds now
      requests grants writer draws
    (outcome.grants = grants ∧
      ∀ result, outcome.result = some result → result.grant = none) ∨
    ∃ request grant issuable result,
      IssuedGrant request bounds now grant issuable ∧
      grants.get? grant.grantRef = none ∧
      outcome.grants = grants.set grant.grantRef grant ∧
      outcome.result = some result ∧ result.status = .approved ∧
      result.grant = some grant := by
  intro outcome
  simp only [outcome]
  unfold autoApproveGrantRequest
  split
  · exact Or.inl ⟨rfl, by simp [failedDecision]⟩
  · next request found =>
      dsimp only
      split
      · next rule _ _ =>
          rcases approveGrantRequest_grants (autoDecisionInput request rule decidedBy)
              autoApprovalAudit bounds now requests grants reliable draws with
            ⟨unchanged, noGrant⟩ |
            ⟨issueRequest, grant, issuable, result, issued, fresh, inserted, answered, approved,
              carried⟩
          · refine Or.inl ⟨unchanged, ?_⟩
            intro result answered
            obtain ⟨inner, innerAnswered, rfl⟩ := Option.map_eq_some_iff.mp answered
            exact noGrant inner innerAnswered
          · refine Or.inr ⟨issueRequest, grant, issuable, autoResult request rule result,
              issued, fresh, inserted, ?_, approved, carried⟩
            rw [answered, Option.map_some]
      · exact Or.inl ⟨rfl, by simp⟩

end AutoApproval
end Vinctor
