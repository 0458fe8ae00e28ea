import Vinctor.Core.Enforce

/-!
# Evaluation of a request against many grants

The grants of the agent in the workspace are tried in order.  The first one that permits
decides, and so does the first denial that is about the request, the boundary or a
malformed scope.

All of the tried grants share a workspace, so that the boundary is resolved in the same way
for each of them.  Hence only a malformed scope makes the order matter.
-/

namespace Vinctor
namespace PolicyEvaluation

open Scope
open Enforce

structure PolicyInput where
  workspaceId : String
  agentId : String
  grants : List Grant
  action : String
  resource : String
  now : Instant
  boundaryId : Option String := none
  boundaryRegistry : Option BoundaryLookup := none

/-- Reasons of a policy decision. -/
inductive PolicyReason
  | enforced (reason : EnforceReason)
  | noApplicableGrant
  deriving DecidableEq, Repr

def PolicyReason.code : PolicyReason → String
  | .enforced reason => reason.code
  | .noApplicableGrant => "no_applicable_grant"

structure PolicyResult where
  decision : Decision
  reason : PolicyReason
  workspaceId : String
  agentId : String
  action : String
  resource : String
  scopeAttempted : String
  scopeMatched : Option String
  grantId : Option String := none
  grantRef : Option String := none
  enforceResult : Option DecisionResult := none
  deriving DecidableEq, Repr

/-! ## Evaluation -/

def deny (input : PolicyInput) (reason : PolicyReason) (scopeAttempted : String) : PolicyResult where
  decision := .deny
  reason := reason
  workspaceId := input.workspaceId
  agentId := input.agentId
  action := input.action
  resource := input.resource
  scopeAttempted := scopeAttempted
  scopeMatched := none

def fromEnforceResult (input : PolicyInput) (result : DecisionResult) : PolicyResult where
  decision := result.decision
  reason := .enforced result.reason
  workspaceId := input.workspaceId
  agentId := input.agentId
  action := input.action
  resource := input.resource
  scopeAttempted := result.scopeAttempted
  scopeMatched := result.scopeMatched
  grantId := some result.grantId
  grantRef := some result.grantRef
  enforceResult := some result

def isCandidate (input : PolicyInput) (grant : Grant) : Bool :=
  grant.workspaceId == input.workspaceId && grant.agentId == input.agentId

def candidateGrants (input : PolicyInput) : List Grant :=
  input.grants.filter (isCandidate input)

/-- The request against one grant.  No boundary is required here. -/
def enforceInput (input : PolicyInput) (grant : Grant) : EnforceInput where
  grant := grant
  action := input.action
  resource := input.resource
  now := input.now
  boundaryId := input.boundaryId
  boundaryRegistry := input.boundaryRegistry

/-- The reasons of a denial that the loop stops at. -/
def stopsAt (reason : EnforceReason) : Bool :=
  "boundary_".toList.isPrefixOf reason.code.toList ||
    ["invalid_action", "invalid_resource", "invalid_grant_scope"].contains reason.code

/-- The decision of the first grant that decides. -/
def firstDecision (input : PolicyInput) : List Grant → Option DecisionResult
  | [] => none
  | grant :: grants =>
      let result := evaluateEnforce (enforceInput input grant)
      if result.decision = .permit then some result
      else if stopsAt result.reason then some result
      else firstDecision input grants

def evaluatePolicy (input : PolicyInput) : PolicyResult :=
  let scopeAttempted := attemptedScope input.action input.resource
  if isValidRequestedAction input.action = false then
    deny input (.enforced .invalidAction) scopeAttempted
  else if isValidRequestedResource input.resource = false then
    deny input (.enforced .invalidResource) scopeAttempted
  else
    match firstDecision input (candidateGrants input) with
    | some result => fromEnforceResult input result
    | none => deny input .noApplicableGrant scopeAttempted

/-! ## The boundary of the candidates -/

/-- Why a request from a workspace is denied for its boundary. -/
def boundaryDenial (input : PolicyInput) : Option EnforceReason :=
  match input.boundaryId with
  | none => none
  | some boundaryId =>
      match input.boundaryRegistry.bind fun registry => registry boundaryId with
      | none => some .boundaryNotFound
      | some boundary =>
          if boundary.workspaceId ≠ input.workspaceId then some .boundaryWrongWorkspace
          else if boundary.status ≠ .active then some .boundaryInactive
          else none

theorem stopsAt_of_boundaryDenial
    {input : PolicyInput}
    {reason : EnforceReason}
    (denied : boundaryDenial input = some reason) :
    stopsAt reason = true := by
  unfold boundaryDenial at denied
  split at denied
  · cases denied
  · split at denied
    · cases denied
      decide
    · split_ifs at denied
      · cases denied
        decide
      · cases denied
        decide

/-- Every grant of the workspace meets the same boundary. -/
theorem resolveBoundary_enforceInput
    {input : PolicyInput}
    {grant : Grant}
    (sameWorkspace : grant.workspaceId = input.workspaceId) :
    match boundaryDenial input with
    | some reason => ∃ denial, resolveBoundary (enforceInput input grant) = .error denial ∧
        denial.decision = .deny ∧ denial.reason = reason
    | none => ∃ boundary, resolveBoundary (enforceInput input grant) = .ok boundary := by
  unfold boundaryDenial resolveBoundary enforceInput
  cases input.boundaryId with
  | none => exact ⟨none, rfl⟩
  | some boundaryId =>
      cases input.boundaryRegistry with
      | none => exact ⟨_, rfl, rfl, rfl⟩
      | some registry =>
          dsimp only [Option.bind_some]
          cases registry boundaryId with
          | none => exact ⟨_, rfl, rfl, rfl⟩
          | some boundary =>
              dsimp only
              rw [sameWorkspace]
              split_ifs
              · exact ⟨_, rfl, rfl, rfl⟩
              · exact ⟨_, rfl, rfl, rfl⟩
              · exact ⟨_, rfl⟩

/-! ## One candidate -/

variable {input : PolicyInput} {grant : Grant}

def permits (input : PolicyInput) (grant : Grant) : Bool :=
  (evaluateEnforce (enforceInput input grant)).decision == .permit

/-- The grant is denied for a malformed scope. -/
def malformed (input : PolicyInput) (grant : Grant) : Bool :=
  (evaluateEnforce (enforceInput input grant)).reason == .invalidGrantScope

/-- The loop ends at the grant. -/
def decides (input : PolicyInput) (grant : Grant) : Bool :=
  permits input grant || stopsAt (evaluateEnforce (enforceInput input grant)).reason

/-- A permit, or a denial that the loop passes over unless a scope is malformed. -/
def Ordinary (result : DecisionResult) : Prop :=
  (result.decision = .permit ∧ result.reason = .permitted) ∨
    (result.decision = .deny ∧
      (stopsAt result.reason = true → result.reason = .invalidGrantScope))

theorem ordinary_deny
    {request : EnforceInput}
    {reason : EnforceReason}
    {scopeAttempted : String}
    {boundary : Option Boundary}
    {attemptedBoundaryId : Option String}
    (passable : stopsAt reason = true → reason = .invalidGrantScope) :
    Ordinary (Enforce.deny request reason scopeAttempted boundary attemptedBoundaryId) :=
  Or.inr ⟨rfl, passable⟩

/-- With the request valid and the boundary resolved, a grant is denied for its status, its
scopes or a mismatch. -/
theorem evaluateGrant_ordinary
    (actionValid : isValidRequestedAction input.action = true)
    (resourceValid : isValidRequestedResource input.resource = true)
    (boundary : Option Boundary) :
    Ordinary (evaluateGrant (enforceInput input grant) boundary) := by
  unfold evaluateGrant
  dsimp only
  split_ifs with invalidAction invalidResource
  · exact absurd (actionValid.symm.trans invalidAction) (by decide)
  · exact absurd (resourceValid.symm.trans invalidResource) (by decide)
  · exact ordinary_deny (by decide)
  · exact ordinary_deny (by decide)
  · exact ordinary_deny (by decide)
  · exact ordinary_deny (by decide)
  · exact ordinary_deny (by decide)
  · split
    · exact ordinary_deny (by decide)
    · exact Or.inl ⟨rfl, rfl⟩

theorem candidate_cases
    (actionValid : isValidRequestedAction input.action = true)
    (resourceValid : isValidRequestedResource input.resource = true)
    (candidate : grant.workspaceId = input.workspaceId) :
    match boundaryDenial input with
    | some reason =>
        (evaluateEnforce (enforceInput input grant)).decision = .deny ∧
          (evaluateEnforce (enforceInput input grant)).reason = reason
    | none => Ordinary (evaluateEnforce (enforceInput input grant)) := by
  have resolved := resolveBoundary_enforceInput candidate
  unfold evaluateEnforce
  cases denied : boundaryDenial input with
  | some reason =>
      rw [denied] at resolved
      obtain ⟨denial, isError, isDeny, because⟩ := resolved
      rw [isError]
      exact ⟨isDeny, because⟩
  | none =>
      rw [denied] at resolved
      obtain ⟨boundary, isOk⟩ := resolved
      rw [isOk]
      exact evaluateGrant_ordinary actionValid resourceValid boundary

/-- The loop returns the decision of the first grant that ends it. -/
theorem firstDecision_eq
    (input : PolicyInput)
    (grants : List Grant) :
    firstDecision input grants =
      (grants.find? (decides input)).map fun grant =>
        evaluateEnforce (enforceInput input grant) := by
  induction grants with
  | nil => rfl
  | cons grant grants rest =>
      unfold firstDecision
      rw [List.find?_cons]
      cases permitted : (evaluateEnforce (enforceInput input grant)).decision with
      | permit => simp [decides, permits, permitted]
      | deny =>
          cases stops : stopsAt (evaluateEnforce (enforceInput input grant)).reason with
          | true => simp [decides, permits, permitted, stops]
          | false =>
              have passed : decides input grant = false := by
                rw [decides, permits, permitted, stops]
                rfl
              simp [passed, permitted, stops, rest]

/-! ## All candidates -/

theorem workspaceId_of_mem_candidateGrants
    (member : grant ∈ candidateGrants input) :
    grant.workspaceId = input.workspaceId := by
  have candidate := (List.mem_filter.mp member).2
  rw [isCandidate, Bool.and_eq_true, beq_iff_eq] at candidate
  exact candidate.1

theorem evaluatePolicy_eq
    (actionValid : isValidRequestedAction input.action = true)
    (resourceValid : isValidRequestedResource input.resource = true) :
    evaluatePolicy input =
      match (candidateGrants input).find? (decides input) with
      | some grant => fromEnforceResult input (evaluateEnforce (enforceInput input grant))
      | none => deny input .noApplicableGrant (attemptedScope input.action input.resource) := by
  unfold evaluatePolicy
  dsimp only
  rw [if_neg (by simp [actionValid]), if_neg (by simp [resourceValid]), firstDecision_eq]
  cases (candidateGrants input).find? (decides input) <;> rfl

/-- A candidate that is permitted shows that no candidate is denied for the boundary. -/
theorem boundaryDenial_eq_none
    (actionValid : isValidRequestedAction input.action = true)
    (resourceValid : isValidRequestedResource input.resource = true)
    (member : grant ∈ candidateGrants input)
    (permitted : permits input grant = true) :
    boundaryDenial input = none := by
  have outcome := candidate_cases actionValid resourceValid
    (workspaceId_of_mem_candidateGrants member)
  cases denied : boundaryDenial input with
  | none => rfl
  | some reason =>
      rw [denied] at outcome
      rw [permits, outcome.1] at permitted
      cases permitted

/-- Without a boundary denial, a candidate that ends the loop permits or is malformed. -/
theorem permits_or_malformed
    (actionValid : isValidRequestedAction input.action = true)
    (resourceValid : isValidRequestedResource input.resource = true)
    (resolved : boundaryDenial input = none)
    (member : grant ∈ candidateGrants input)
    (ends : decides input grant = true) :
    permits input grant = true ∨ malformed input grant = true := by
  have outcome := candidate_cases actionValid resourceValid
    (workspaceId_of_mem_candidateGrants member)
  rw [resolved] at outcome
  rw [decides, Bool.or_eq_true] at ends
  rcases ends with permitted | stops
  · exact Or.inl permitted
  · rcases outcome with ⟨isPermit, _⟩ | ⟨_, onlyMalformed⟩
    · exact Or.inl (by rw [permits, isPermit]; rfl)
    · exact Or.inr (by rw [malformed, onlyMalformed stops]; rfl)

theorem decides_of_permits
    (permitted : permits input grant = true) :
    decides input grant = true := by
  rw [decides, permitted, Bool.true_or]

theorem decides_of_malformed
    (isMalformed : malformed input grant = true) :
    decides input grant = true := by
  rw [malformed, beq_iff_eq] at isMalformed
  rw [decides, isMalformed, Bool.or_eq_true]
  exact Or.inr (by decide)

/-- The first permitted candidate decides when nothing malformed comes before it. -/
theorem find?_decides_eq_find?_permits
    (actionValid : isValidRequestedAction input.action = true)
    (resourceValid : isValidRequestedResource input.resource = true)
    {before after : List Grant}
    (split : candidateGrants input = before ++ grant :: after)
    (permitted : permits input grant = true)
    (sound : ∀ earlier ∈ before, malformed input earlier = false) :
    ∃ first, (candidateGrants input).find? (permits input) = some first ∧
      (candidateGrants input).find? (decides input) = some first := by
  have member : grant ∈ candidateGrants input := by
    rw [split]
    exact List.mem_append_right _ List.mem_cons_self
  have resolved := boundaryDenial_eq_none actionValid resourceValid member permitted
  obtain ⟨first, found⟩ : ∃ first, (candidateGrants input).find? (permits input) = some first :=
    Option.isSome_iff_exists.mp (List.find?_isSome.mpr ⟨grant, member, permitted⟩)
  refine ⟨first, found, ?_⟩
  rw [List.find?_eq_some_iff_append] at found ⊢
  obtain ⟨firstPermitted, earlier, later, splitFirst, noneEarlier⟩ := found
  refine ⟨decides_of_permits firstPermitted, earlier, later, splitFirst, ?_⟩
  intro other isEarlier
  rw [Bool.not_eq_true']
  by_contra ends
  rw [Bool.not_eq_false] at ends
  have otherMember : other ∈ candidateGrants input := by
    rw [splitFirst]
    exact List.mem_append_left _ isEarlier
  have notPermitted := noneEarlier other isEarlier
  rcases permits_or_malformed actionValid resourceValid resolved otherMember ends with
    isPermitted | isMalformed
  · simp [isPermitted] at notPermitted
  · -- What comes before the first permitted grant comes before this one.
    have earlierThan : other ∈ before := by
      have isPrefix : earlier <+: before := by
        apply @List.prefix_of_prefix_length_le _ _ _ (candidateGrants input)
        · rw [splitFirst]
          exact List.prefix_append _ _
        · rw [split]
          exact List.prefix_append _ _
        · by_contra longer
          have inEarlier : grant ∈ earlier := by
            have beforePrefix : before ++ [grant] <+: earlier := by
              apply @List.prefix_of_prefix_length_le _ _ _ (candidateGrants input)
              · rw [split]
                exact ⟨after, by simp⟩
              · rw [splitFirst]
                exact List.prefix_append _ _
              · rw [List.length_append, List.length_singleton]
                omega
            exact beforePrefix.subset (List.mem_append_right _ List.mem_cons_self)
          have := noneEarlier grant inEarlier
          simp [permitted] at this
      exact isPrefix.subset isEarlier
    rw [sound other earlierThan] at isMalformed
    cases isMalformed

/-- The request is decided as the first permitted candidate decides it, unless one with a
malformed scope comes before. -/
theorem evaluatePolicy_permits_iff
    (actionValid : isValidRequestedAction input.action = true)
    (resourceValid : isValidRequestedResource input.resource = true) :
    ((evaluatePolicy input).decision = .permit ↔
      ∃ before grant after, candidateGrants input = before ++ grant :: after ∧
        permits input grant = true ∧ ∀ earlier ∈ before, malformed input earlier = false) ∧
    ((evaluatePolicy input).decision = .permit →
      ∃ first, (candidateGrants input).find? (permits input) = some first ∧
        evaluatePolicy input =
          fromEnforceResult input (evaluateEnforce (enforceInput input first))) := by
  have whole := evaluatePolicy_eq actionValid resourceValid
  have forth : (evaluatePolicy input).decision = .permit →
      ∃ before grant after, candidateGrants input = before ++ grant :: after ∧
        permits input grant = true ∧ ∀ earlier ∈ before, malformed input earlier = false := by
    intro permitted
    rw [whole] at permitted
    cases found : (candidateGrants input).find? (decides input) with
    | none =>
        rw [found] at permitted
        cases permitted
    | some grant =>
        rw [found] at permitted
        obtain ⟨_, before, after, split, passed⟩ := List.find?_eq_some_iff_append.mp found
        refine ⟨before, grant, after, split, ?_, ?_⟩
        · rw [permits, beq_iff_eq]
          exact permitted
        · intro earlier isEarlier
          rw [← Bool.not_eq_true]
          intro isMalformed
          have notDecided := passed earlier isEarlier
          rw [decides_of_malformed isMalformed] at notDecided
          cases notDecided
  have back : ∀ before grant after, candidateGrants input = before ++ grant :: after →
      permits input grant = true → (∀ earlier ∈ before, malformed input earlier = false) →
      ∃ first, (candidateGrants input).find? (permits input) = some first ∧
        evaluatePolicy input =
          fromEnforceResult input (evaluateEnforce (enforceInput input first)) := by
    intro before grant after split permitted sound
    obtain ⟨first, found, decided⟩ :=
      find?_decides_eq_find?_permits actionValid resourceValid split permitted sound
    refine ⟨first, found, ?_⟩
    rw [whole, decided]
  refine ⟨⟨forth, ?_⟩, ?_⟩
  · rintro ⟨before, grant, after, split, permitted, sound⟩
    obtain ⟨first, found, same⟩ := back before grant after split permitted sound
    rw [same]
    have firstPermitted := List.find?_some found
    rw [permits, beq_iff_eq] at firstPermitted
    exact firstPermitted
  · intro permitted
    obtain ⟨before, grant, after, split, isPermitted, sound⟩ := forth permitted
    exact back before grant after split isPermitted sound

/-- With nothing malformed, the decision and its reason are those of a permit, of the
boundary, or of no grant at all. -/
theorem evaluatePolicy_of_sound
    (actionValid : isValidRequestedAction input.action = true)
    (resourceValid : isValidRequestedResource input.resource = true)
    (sound : ∀ candidate ∈ candidateGrants input, malformed input candidate = false) :
    ((evaluatePolicy input).decision, (evaluatePolicy input).reason) =
      match boundaryDenial input with
      | some reason =>
          if candidateGrants input = [] then (.deny, .noApplicableGrant)
          else (.deny, .enforced reason)
      | none =>
          if (candidateGrants input).any (permits input) then (.permit, .enforced .permitted)
          else (.deny, .noApplicableGrant) := by
  rw [evaluatePolicy_eq actionValid resourceValid]
  cases denied : boundaryDenial input with
  | some reason =>
      dsimp only
      cases candidates : candidateGrants input with
      | nil => rfl
      | cons first later =>
          have outcome := candidate_cases actionValid resourceValid
            (workspaceId_of_mem_candidateGrants (candidates ▸ List.mem_cons_self))
          rw [denied] at outcome
          have ends : decides input first = true := by
            rw [decides, outcome.2, stopsAt_of_boundaryDenial denied, Bool.or_true]
          rw [List.find?_cons, ends, if_neg (List.cons_ne_nil _ _)]
          dsimp only [fromEnforceResult]
          rw [outcome.1, outcome.2]
  | none =>
      dsimp only
      cases found : (candidateGrants input).find? (decides input) with
      | none =>
          have noPermit : (candidateGrants input).any (permits input) = false := by
            rw [List.any_eq_false]
            intro candidate member permitted
            exact (List.find?_eq_none.mp found) candidate member (decides_of_permits permitted)
          rw [noPermit]
          rfl
      | some grant =>
          have member := List.mem_of_find?_eq_some found
          have permitted : permits input grant = true := by
            rcases permits_or_malformed actionValid resourceValid denied member
              (List.find?_some found) with isPermitted | isMalformed
            · exact isPermitted
            · rw [sound grant member] at isMalformed
              cases isMalformed
          have outcome := candidate_cases actionValid resourceValid
            (workspaceId_of_mem_candidateGrants member)
          rw [denied] at outcome
          rw [if_pos (List.any_eq_true.mpr ⟨grant, member, permitted⟩)]
          rw [permits, beq_iff_eq] at permitted
          dsimp only [fromEnforceResult]
          rcases outcome with ⟨_, because⟩ | ⟨isDeny, _⟩
          · rw [permitted, because]
          · rw [permitted] at isDeny
            cases isDeny

/-- The evaluation of many grants reduces to that of single ones. -/
theorem evaluatePolicy_reduces
    (input : PolicyInput)
    (actionValid : isValidRequestedAction input.action = true)
    (resourceValid : isValidRequestedResource input.resource = true) :
    ((evaluatePolicy input).decision = .permit ↔
      ∃ before grant after, candidateGrants input = before ++ grant :: after ∧
        permits input grant = true ∧ ∀ earlier ∈ before, malformed input earlier = false) ∧
    ((evaluatePolicy input).decision = .permit →
      ∃ first, (candidateGrants input).find? (permits input) = some first ∧
        evaluatePolicy input =
          fromEnforceResult input (evaluateEnforce (enforceInput input first))) ∧
    (∀ grants, grants.filter (isCandidate input) = candidateGrants input →
      evaluatePolicy { input with grants := grants } = evaluatePolicy input) ∧
    ((∀ candidate ∈ candidateGrants input, malformed input candidate = false) →
      ∀ grants, grants.Perm input.grants →
        (evaluatePolicy { input with grants := grants }).decision =
            (evaluatePolicy input).decision ∧
          (evaluatePolicy { input with grants := grants }).reason =
            (evaluatePolicy input).reason) := by
  obtain ⟨permitsIff, firstOne⟩ := evaluatePolicy_permits_iff actionValid resourceValid
  refine ⟨permitsIff, firstOne, ?_, ?_⟩
  · intro grants same
    have sameCandidates : candidateGrants { input with grants := grants } =
        candidateGrants input := same
    have sameDecision : firstDecision { input with grants := grants } =
        firstDecision input := by
      funext candidates
      rw [firstDecision_eq, firstDecision_eq]
      rfl
    unfold evaluatePolicy
    rw [sameCandidates, sameDecision]
    rfl
  · intro sound grants reordered
    have candidates : (candidateGrants { input with grants := grants }).Perm
        (candidateGrants input) := reordered.filter _
    have here := evaluatePolicy_of_sound actionValid resourceValid sound
    have there := @evaluatePolicy_of_sound { input with grants := grants } actionValid resourceValid
      fun candidate member => sound candidate (candidates.subset member)
    have same : ((evaluatePolicy { input with grants := grants }).decision,
        (evaluatePolicy { input with grants := grants }).reason) =
          ((evaluatePolicy input).decision, (evaluatePolicy input).reason) := by
      rw [here, there]
      have sameAny : (candidateGrants { input with grants := grants }).any
          (permits { input with grants := grants }) =
            (candidateGrants input).any (permits input) := candidates.any_eq
      have sameEmpty : candidateGrants { input with grants := grants } = [] ↔
          candidateGrants input = [] := ⟨fun empty => (empty ▸ candidates).nil_eq.symm,
            fun empty => (empty ▸ candidates).eq_nil⟩
      have sameDenial : boundaryDenial { input with grants := grants } =
          boundaryDenial input := rfl
      rw [sameAny, sameDenial]
      simp only [sameEmpty]
    exact Prod.mk.inj same

def revokedGrant : Grant where
  grantId := "grnt_1"
  grantRef := "grt_1"
  workspaceId := "ws"
  agentId := "agent"
  scopes := ["read:repo/main"]
  status := .revoked

def activeGrant : Grant :=
  { revokedGrant with grantId := "grnt_2", grantRef := "grt_2", status := .active }

def twoGrants : PolicyInput where
  workspaceId := "ws"
  agentId := "agent"
  grants := [revokedGrant, activeGrant]
  action := "read"
  resource := "repo/main"
  now := 0

theorem swapped_grants_decide_alike :
    (evaluatePolicy twoGrants).decision = .permit ∧
    (evaluatePolicy { twoGrants with grants := [activeGrant, revokedGrant] }).decision =
        (evaluatePolicy twoGrants).decision ∧
      (evaluatePolicy { twoGrants with grants := [activeGrant, revokedGrant] }).reason =
        (evaluatePolicy twoGrants).reason :=
  ⟨by decide, (evaluatePolicy_reduces twoGrants (by decide) (by decide)).2.2.2 (by decide) _
    (List.Perm.swap _ _ _)⟩

end PolicyEvaluation
end Vinctor
