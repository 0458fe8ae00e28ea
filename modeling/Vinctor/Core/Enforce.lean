import Vinctor.Core.Models
import Vinctor.Core.Scope

/-!
# Evaluation of one enforcement request

A request is decided against one grant.  The boundary is resolved first; then
the request is validated, the grant's status and expiry are checked, and the
scopes are matched.
-/

namespace Vinctor
namespace Enforce

open Scope

/-- A denial of the request, carrying the grant's identity. -/
def deny
    (input : EnforceInput)
    (reason : EnforceReason)
    (scopeAttempted : String)
    (boundary : Option Boundary := none)
    (attemptedBoundaryId : Option String := none) : DecisionResult where
  decision := .deny
  reason := reason
  grantId := input.grant.grantId
  grantRef := input.grant.grantRef
  workspaceId := input.grant.workspaceId
  agentId := input.grant.agentId
  action := input.action
  resource := input.resource
  scopeAttempted := scopeAttempted
  scopeMatched := none
  boundary := boundary
  attemptedBoundaryId := (presentText attemptedBoundaryId).orElse fun _ => input.boundaryId

/-- The boundary the request runs in, or the denial for an unusable one. -/
def resolveBoundary (input : EnforceInput) : Except DecisionResult (Option Boundary) :=
  let scopeAttempted := attemptedScope input.action input.resource
  match input.boundaryId with
  | none =>
      if input.requireBoundary then
        .error (deny input .boundaryRequired scopeAttempted)
      else .ok none
  | some boundaryId =>
      let found : Option Boundary :=
        match input.boundaryRegistry with
        | some registry => registry boundaryId
        | none => none
      match found with
      | none =>
          .error (deny input .boundaryNotFound scopeAttempted none (some boundaryId))
      | some boundary =>
          if boundary.workspaceId ≠ input.grant.workspaceId then
            .error (deny input .boundaryWrongWorkspace scopeAttempted none (some boundaryId))
          else if boundary.status ≠ .active then
            .error (deny input .boundaryInactive scopeAttempted (some boundary)
              (some boundaryId))
          else .ok (some boundary)

/-- Decide a request once its boundary is resolved. -/
def evaluateGrant (input : EnforceInput) (boundary : Option Boundary) : DecisionResult :=
  let grant := input.grant
  let scopeAttempted := attemptedScope input.action input.resource
  let refuse := fun reason => deny input reason scopeAttempted boundary
  if isValidRequestedAction input.action = false then refuse .invalidAction
  else if isValidRequestedResource input.resource = false then refuse .invalidResource
  else if grant.status = .revoked then refuse .grantRevoked
  else if grant.status = .expired then refuse .grantExpired
  else if grant.status ≠ .active then refuse .grantNotActive
  else if grant.expiresAt.any (fun expiry => decide (expiry ≤ input.now)) then
    refuse .grantExpired
  else if grant.scopes.any (fun scope => !isValidGrantScope scope) then
    refuse .invalidGrantScope
  else
    match matchScope grant.scopes input.action input.resource with
    | none => refuse .actionDenied
    | some matched =>
        { decision := .permit
          reason := .permitted
          grantId := grant.grantId
          grantRef := grant.grantRef
          workspaceId := grant.workspaceId
          agentId := grant.agentId
          action := input.action
          resource := input.resource
          scopeAttempted := scopeAttempted
          scopeMatched := some matched
          boundary := boundary
          attemptedBoundaryId := input.boundaryId }

def evaluateEnforce (input : EnforceInput) : DecisionResult :=
  match resolveBoundary input with
  | .error denial => denial
  | .ok boundary => evaluateGrant input boundary

/-! ## What a decision says -/

/-- Identity and request of a decision are those of its input. -/
structure Concerns (result : DecisionResult) (input : EnforceInput) : Prop where
  grantId : result.grantId = input.grant.grantId
  grantRef : result.grantRef = input.grant.grantRef
  workspaceId : result.workspaceId = input.grant.workspaceId
  agentId : result.agentId = input.grant.agentId
  action : result.action = input.action
  resource : result.resource = input.resource

theorem deny_concerns
    (input : EnforceInput)
    (reason : EnforceReason)
    (scopeAttempted : String)
    (boundary : Option Boundary)
    (attemptedBoundaryId : Option String) :
    Concerns (deny input reason scopeAttempted boundary attemptedBoundaryId) input :=
  ⟨rfl, rfl, rfl, rfl, rfl, rfl⟩

@[simp] theorem deny_decision
    (input : EnforceInput)
    (reason : EnforceReason)
    (scopeAttempted : String)
    (boundary : Option Boundary)
    (attemptedBoundaryId : Option String) :
    (deny input reason scopeAttempted boundary attemptedBoundaryId).decision = .deny :=
  rfl

theorem resolveBoundary_error
    {input : EnforceInput}
    {denial : DecisionResult}
    (unusable : resolveBoundary input = .error denial) :
    denial.decision = .deny ∧ Concerns denial input := by
  unfold resolveBoundary at unusable
  dsimp only at unusable
  split at unusable
  · split_ifs at unusable
    cases unusable
    exact ⟨rfl, deny_concerns ..⟩
  · split at unusable
    · cases unusable
      exact ⟨rfl, deny_concerns ..⟩
    · split_ifs at unusable <;>
        · cases unusable
          exact ⟨rfl, deny_concerns ..⟩

theorem evaluateGrant_concerns
    (input : EnforceInput)
    (boundary : Option Boundary) :
    Concerns (evaluateGrant input boundary) input := by
  unfold evaluateGrant
  dsimp only
  split_ifs <;> try exact deny_concerns ..
  split
  · exact deny_concerns ..
  · exact ⟨rfl, rfl, rfl, rfl, rfl, rfl⟩

theorem evaluateEnforce_concerns (input : EnforceInput) :
    Concerns (evaluateEnforce input) input := by
  unfold evaluateEnforce
  split
  · next denial unusable => exact (resolveBoundary_error unusable).2
  · exact evaluateGrant_concerns input _

/-- The conditions under which a grant permits a request at a time. -/
structure GrantPermits
    (grant : Grant)
    (action resource : String)
    (now : Instant) : Prop where
  active : grant.status = .active
  unexpired : ∀ expiry, grant.expiresAt = some expiry → now < expiry
  scopesValid : ∀ scope ∈ grant.scopes, isValidGrantScope scope = true
  actionValid : isValidRequestedAction action = true
  resourceValid : isValidRequestedResource resource = true
  matched : ∃ scope ∈ grant.scopes, Matches scope action resource

theorem evaluateGrant_permits
    {input : EnforceInput}
    {boundary : Option Boundary}
    (permits : (evaluateGrant input boundary).decision = .permit) :
    GrantPermits input.grant input.action input.resource input.now := by
  unfold evaluateGrant at permits
  dsimp only at permits
  split_ifs at permits with action resource revoked expired inactive elapsed invalid <;>
    try simp at permits
  split at permits
  · simp at permits
  · next matched found =>
      obtain ⟨member, matching⟩ := matches_of_matchScope found
      exact
        { active := by simpa using inactive
          unexpired := by
            intro expiry present
            simpa [present] using elapsed
          scopesValid := by simpa using invalid
          actionValid := by simpa using action
          resourceValid := by simpa using resource
          matched := ⟨matched, member, matching⟩ }

/-- A permitted request is permitted by its grant. -/
theorem evaluateEnforce_permits
    {input : EnforceInput}
    (permits : (evaluateEnforce input).decision = .permit) :
    GrantPermits input.grant input.action input.resource input.now := by
  unfold evaluateEnforce at permits
  split at permits
  · next denial unusable =>
      rw [(resolveBoundary_error unusable).1] at permits
      contradiction
  · exact evaluateGrant_permits permits

end Enforce
end Vinctor
