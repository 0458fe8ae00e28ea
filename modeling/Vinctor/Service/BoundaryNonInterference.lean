import Vinctor.Service.NonInterference

/-!
# Boundary existence does not show

An agent that names a boundary learns whether it may run in it, and nothing
else.  An absent boundary, one of another workspace and a disabled one are
recorded under three reasons and answered under one; the boundary of a permit
is recorded and not answered.

Two registries in which the named boundary is available, or in neither of which
it is, therefore give the same answer.  The events differ, so the writer has to
be one whose failures do not depend on what the events say of the boundary.
-/

namespace Vinctor
namespace NonInterference

open Audit
open Enforce
open Pop
open V1

/-- The registry resolves the identifier to an active boundary of the
workspace. -/
def resolvesActive
    (registry : Option BoundaryLookup)
    (workspaceId boundaryId : String) : Bool :=
  match registry with
  | none => false
  | some lookup =>
      (lookup boundaryId).any fun boundary =>
        boundary.workspaceId = workspaceId ∧ boundary.status = .active

/-- The boundary that a request names is available to its grant in both
registries, or in neither. -/
def SameAvailability
    (getByRef : GrantLookup)
    (grantRef : String)
    (boundaryId : Option String)
    (left right : Option BoundaryLookup) : Prop :=
  ∀ grant, getByRef grantRef = .ok (some grant) →
    ∀ named, boundaryId = some named →
      resolvesActive left grant.workspaceId named =
        resolvesActive right grant.workspaceId named

/-! ## Decisions -/

/-- A decision without its boundary and its reason. -/
def forgetBoundary (decision : DecisionResult) : DecisionResult :=
  { decision with reason := .permitted, boundary := none, attemptedBoundaryId := none }

/-- Decisions that an agent cannot tell apart: they differ in the boundary, and
in a reason that is coarsened before it is shown. -/
structure SameToAgent (left right : DecisionResult) : Prop where
  answered : forgetBoundary left = forgetBoundary right
  coarse : agentFacingReason left.reason.code = agentFacingReason right.reason.code

theorem SameToAgent.decision
    {left right : DecisionResult}
    (same : SameToAgent left right) :
    left.decision = right.decision := by
  have answered := congrArg DecisionResult.decision same.answered
  exact answered

/-- Once a boundary is resolved, it decides nothing. -/
theorem evaluateGrant_sameToAgent
    (input : EnforceInput)
    (leftRegistry rightRegistry : Option BoundaryLookup)
    (left right : Option Boundary) :
    SameToAgent (evaluateGrant { input with boundaryRegistry := leftRegistry } left)
      (evaluateGrant { input with boundaryRegistry := rightRegistry } right) := by
  unfold evaluateGrant
  dsimp only
  split_ifs <;> try exact ⟨rfl, rfl⟩
  split
  · exact ⟨rfl, rfl⟩
  · exact ⟨rfl, rfl⟩

/-- Without a name the registry is not read. -/
theorem resolveBoundary_unnamed
    {input : EnforceInput}
    (unnamed : input.boundaryId = none) :
    resolveBoundary input =
      if input.requireBoundary then
        .error (deny input .boundaryRequired
          (Scope.attemptedScope input.action input.resource))
      else .ok none := by
  unfold resolveBoundary
  rw [unnamed]

/-- An available boundary is resolved; otherwise one of three reasons is
given. -/
theorem resolveBoundary_named
    {input : EnforceInput}
    {named : String}
    (naming : input.boundaryId = some named) :
    (resolvesActive input.boundaryRegistry input.grant.workspaceId named = true ∧
        ∃ boundary, resolveBoundary input = .ok (some boundary)) ∨
      (resolvesActive input.boundaryRegistry input.grant.workspaceId named = false ∧
        ∃ reason boundary, boundaryExistenceReasons.contains (EnforceReason.code reason) ∧
          resolveBoundary input =
            .error (deny input reason (Scope.attemptedScope input.action input.resource)
              boundary (some named))) := by
  unfold resolveBoundary resolvesActive
  rw [naming]
  dsimp only
  cases input.boundaryRegistry with
  | none => exact Or.inr ⟨rfl, .boundaryNotFound, none, by decide, rfl⟩
  | some lookup =>
      dsimp only
      cases found : lookup named with
      | none => exact Or.inr ⟨rfl, .boundaryNotFound, none, by decide, rfl⟩
      | some boundary =>
          dsimp only
          by_cases workspace : boundary.workspaceId = input.grant.workspaceId
          · by_cases active : boundary.status = .active
            · exact Or.inl ⟨by simp [workspace, active], boundary, by simp [workspace, active]⟩
            · exact Or.inr ⟨by simp [active], .boundaryInactive, some boundary, by decide,
                by simp [workspace, active]⟩
          · exact Or.inr ⟨by simp [workspace], .boundaryWrongWorkspace, none, by decide,
              by simp [workspace]⟩

/-- The three reasons are answered as one. -/
theorem agentFacingReason_existence
    {reason : EnforceReason}
    (existence : boundaryExistenceReasons.contains reason.code = true) :
    agentFacingReason reason.code = reasonBoundaryUnavailable := by
  unfold agentFacingReason
  rw [if_pos existence]

theorem evaluateEnforce_sameToAgent
    {input : EnforceInput}
    {left right : Option BoundaryLookup}
    (available : ∀ named, input.boundaryId = some named →
      resolvesActive left input.grant.workspaceId named =
        resolvesActive right input.grant.workspaceId named) :
    SameToAgent (evaluateEnforce { input with boundaryRegistry := left })
      (evaluateEnforce { input with boundaryRegistry := right }) := by
  obtain naming | ⟨named, naming⟩ := Option.eq_none_or_eq_some input.boundaryId
  · have onLeft := @resolveBoundary_unnamed { input with boundaryRegistry := left } naming
    have onRight := @resolveBoundary_unnamed { input with boundaryRegistry := right } naming
    unfold evaluateEnforce
    rw [onLeft, onRight]
    dsimp only
    split_ifs
    · exact ⟨rfl, rfl⟩
    · apply evaluateGrant_sameToAgent
  · have same := available named naming
    have onLeft := @resolveBoundary_named { input with boundaryRegistry := left } named naming
    have onRight :=
      @resolveBoundary_named { input with boundaryRegistry := right } named naming
    dsimp only at onLeft onRight
    rcases onLeft with ⟨leftHas, leftBoundary, leftOk⟩ |
      ⟨leftLacks, leftReason, leftBoundary, leftExistence, leftDenies⟩
    · rcases onRight with ⟨-, rightBoundary, rightOk⟩ | ⟨rightLacks, -⟩
      · unfold evaluateEnforce
        rw [leftOk, rightOk]
        apply evaluateGrant_sameToAgent
      · rw [leftHas, rightLacks] at same
        contradiction
    · rcases onRight with ⟨rightHas, -⟩ |
        ⟨-, rightReason, rightBoundary, rightExistence, rightDenies⟩
      · rw [leftLacks, rightHas] at same
        contradiction
      · unfold evaluateEnforce
        rw [leftDenies, rightDenies]
        refine ⟨rfl, ?_⟩
        change agentFacingReason leftReason.code = agentFacingReason rightReason.code
        rw [agentFacingReason_existence leftExistence,
          agentFacingReason_existence rightExistence]

/-! ## Events and writers -/

/-- An event without its generated identifier and without what it says of the
boundary. -/
def eraseBoundary (event : AuditEvent) : AuditEvent :=
  { event with
    eventId := ""
    reason := ""
    boundaryId := none
    runtime := none
    boundaryType := none }

/-- The writer does not tell events apart by their identifiers or by their
boundary. -/
def DecidesUpToBoundary (writer : AuditWriter) : Prop :=
  ∀ attempts left right, eraseBoundary left = eraseBoundary right →
    writer.accepts attempts left = writer.accepts attempts right

/-- The in-memory writer accepts every event. -/
theorem decidesUpToBoundary_inMemory : DecidesUpToBoundary AuditWriter.inMemory := by
  intro attempts left right same
  rfl

theorem eraseBoundary_buildAuditEvent
    {left right : DecisionResult}
    (same : SameToAgent left right)
    (input : AuditEventInput)
    (leftToken rightToken : Token) :
    eraseBoundary (buildAuditEvent { input with decision := left } leftToken) =
      eraseBoundary (buildAuditEvent { input with decision := right } rightToken) :=
  calc eraseBoundary (buildAuditEvent { input with decision := left } leftToken)
      = eraseBoundary
          (buildAuditEvent { input with decision := forgetBoundary left } "") := rfl
    _ = eraseBoundary
          (buildAuditEvent { input with decision := forgetBoundary right } "") := by
        rw [same.answered]
    _ = eraseBoundary (buildAuditEvent { input with decision := right } rightToken) := rfl

/-! ## Endpoints -/

section Endpoints

variable
    {writer : AuditWriter}
    {left right : Option BoundaryLookup}

theorem responseFromDecision_sameToAgent
    {leftDecision rightDecision : DecisionResult}
    (same : SameToAgent leftDecision rightDecision)
    (leftEvent rightEvent : AuditEvent) :
    eraseEnforce (responseFromDecision leftDecision leftEvent) =
      eraseEnforce (responseFromDecision rightDecision rightEvent) := by
  unfold responseFromDecision
  rw [same.decision]
  split
  · rfl
  · simp [eraseEnforce, same.coarse]

theorem evaluateAndRecord_boundary
    (ignores : DecidesUpToBoundary writer)
    {input : EvaluationInput}
    (available : ∀ named, input.boundaryId = some named →
      resolvesActive left input.grant.workspaceId named =
        resolvesActive right input.grant.workspaceId named)
    (leftToken rightToken : Token) :
    eraseEnforce
        (evaluateAndRecord { input with boundaryRegistry := left } writer leftToken).1 =
      eraseEnforce
        (evaluateAndRecord { input with boundaryRegistry := right } writer rightToken).1 := by
  have same := @evaluateEnforce_sameToAgent input.enforceInput left right available
  have alike : (writer.write
        (EvaluationInput.auditEvent { input with boundaryRegistry := left } leftToken)).1 =
      (writer.write
        (EvaluationInput.auditEvent { input with boundaryRegistry := right }
          rightToken)).1 := by
    apply ignores
    exact eraseBoundary_buildAuditEvent same
      { decision := evaluateEnforce input.enforceInput
        createdAt := input.now
        enforcingPrincipal := input.enforcingPrincipal
        subjectTokenVerified := input.subjectTokenVerified
        tokenId := input.tokenId }
      leftToken rightToken
  unfold evaluateAndRecord
  dsimp only
  rw [alike]
  split
  · rfl
  · split
    · rfl
    · split
      · exact responseFromDecision_sameToAgent same _ _
      · rfl

theorem enforceV1Contract_boundary
    (ignores : DecidesUpToBoundary writer)
    (services : EnforceServices)
    {request : V1EnforceRequest}
    (available :
      SameAvailability services.getByRef request.grantRef request.boundaryId left right)
    (now : Instant)
    (leftToken rightToken : Token) :
    eraseEnforce (enforceV1Contract { services with boundaryRegistry := left } request now
        writer leftToken).1 =
      eraseEnforce (enforceV1Contract { services with boundaryRegistry := right } request now
        writer rightToken).1 := by
  unfold enforceV1Contract
  dsimp only
  cases looked : services.getByRef request.grantRef with
  | error => rfl
  | ok found =>
      dsimp only
      split
      · rfl
      · next grant owned =>
          have known : services.getByRef request.grantRef = .ok (some grant) := by
            rw [looked, (Option.filter_eq_some_iff.mp owned).1]
          exact @evaluateAndRecord_boundary writer left right ignores
            { grant := grant
              action := request.action
              resource := request.resource
              boundaryId := request.boundaryId
              now := now
              boundaryRegistry := none
              requireBoundary := _ }
            (available grant known) leftToken rightToken

theorem recordSimulation_alike
    {leftEvent rightEvent : AuditEvent}
    (alike : (writer.write leftEvent).1 = (writer.write rightEvent).1)
    {leftResponse rightResponse : V1SimulateResponse}
    (same : eraseSimulate leftResponse = eraseSimulate rightResponse) :
    eraseSimulate (recordSimulation writer leftEvent leftResponse).1 =
      eraseSimulate (recordSimulation writer rightEvent rightResponse).1 := by
  unfold recordSimulation
  dsimp only
  rw [alike]
  split
  · exact same
  · rfl

/-- The event of a simulation differs from that of the decision in its type,
which the decision determines. -/
theorem eraseBoundary_simulationEvent
    {leftDecision rightDecision : DecisionResult}
    (same : SameToAgent leftDecision rightDecision)
    (now : Instant)
    (leftToken rightToken : Token) :
    eraseBoundary (simulationEvent leftDecision now leftToken) =
      eraseBoundary (simulationEvent rightDecision now rightToken) :=
  calc eraseBoundary (simulationEvent leftDecision now leftToken)
      = eraseBoundary (simulationEvent (forgetBoundary leftDecision) now "") := rfl
    _ = eraseBoundary (simulationEvent (forgetBoundary rightDecision) now "") := by
        rw [same.answered]
    _ = eraseBoundary (simulationEvent rightDecision now rightToken) := rfl

theorem simulateV1Contract_boundary
    (ignores : DecidesUpToBoundary writer)
    (services : EnforceServices)
    {request : V1SimulateRequest}
    (available :
      SameAvailability services.getByRef request.grantRef request.boundaryId left right)
    (now : Instant)
    (leftToken rightToken : Token) :
    eraseSimulate (simulateV1Contract { services with boundaryRegistry := left } request now
        writer leftToken).1 =
      eraseSimulate (simulateV1Contract { services with boundaryRegistry := right } request
        now writer rightToken).1 := by
  unfold simulateV1Contract
  dsimp only
  cases looked : services.getByRef request.grantRef with
  | error => rfl
  | ok found =>
      dsimp only
      split
      · apply recordSimulation_alike
        · apply ignores
          rfl
        · rfl
      · next grant owned =>
          have known : services.getByRef request.grantRef = .ok (some grant) := by
            rw [looked, (Option.filter_eq_some_iff.mp owned).1]
          split
          · rfl
          · split
            · rfl
            · have same := @evaluateEnforce_sameToAgent
                { grant := grant
                  action := request.action
                  resource := request.resource
                  now := now
                  boundaryId := request.boundaryId
                  requireBoundary :=
                    mandated services.settings EnforcementSettings.isBoundaryRequired
                      request.workspaceId request.agentId }
                left right (available grant known)
              apply recordSimulation_alike
              · apply ignores
                exact eraseBoundary_simulationEvent same now leftToken rightToken
              · simp [eraseSimulate, same.decision, same.coarse]

/-- The delegated endpoint with another boundary registry. -/
def withBoundaries
    (services : DelegatedServices)
    (registry : Option BoundaryLookup) : DelegatedServices :=
  { services with boundaryRegistry := registry }

/-- The checks of a token do not read the registry. -/
theorem verifySubjectToken_withBoundaries
    (services : DelegatedServices)
    (registry : Option BoundaryLookup) :
    verifySubjectToken (withBoundaries services registry) = verifySubjectToken services :=
  rfl

theorem enforceOwnedGrant_boundary
    (ignores : DecidesUpToBoundary writer)
    (services : DelegatedServices)
    {request : V1DelegatedEnforceRequest}
    {grant : Grant}
    (available : ∀ named, request.boundaryId = some named →
      resolvesActive left grant.workspaceId named =
        resolvesActive right grant.workspaceId named)
    (trustedWs : String)
    (now : Instant)
    (replay : Option ReplayStore)
    (leftToken rightToken : Token) :
    eraseEnforce (enforceOwnedGrant (withBoundaries services left) request trustedWs grant
        now writer replay leftToken).response =
      eraseEnforce (enforceOwnedGrant (withBoundaries services right) request trustedWs grant
        now writer replay rightToken).response := by
  have decided : ∀ proven, eraseEnforce (evaluateAndRecord
        (delegatedEvaluation (withBoundaries services left) request trustedWs grant now
          proven) writer leftToken).1 =
      eraseEnforce (evaluateAndRecord
        (delegatedEvaluation (withBoundaries services right) request trustedWs grant now
          proven) writer rightToken).1 := by
    intro proven
    exact @evaluateAndRecord_boundary writer left right ignores
      (delegatedEvaluation services request trustedWs grant now proven)
      available leftToken rightToken
  unfold enforceOwnedGrant
  rw [verifySubjectToken_withBoundaries, verifySubjectToken_withBoundaries]
  dsimp only [withBoundaries]
  split
  · rfl
  · split
    · exact decided none
    · split
      · rfl
      · next token _ _ => exact decided (some token)

theorem delegatedEnforceV1Contract_boundary
    (ignores : DecidesUpToBoundary writer)
    (services : DelegatedServices)
    {request : V1DelegatedEnforceRequest}
    (available :
      SameAvailability services.getByRef request.grantRef request.boundaryId left right)
    (now : Instant)
    (replay : Option ReplayStore)
    (leftToken rightToken : Token) :
    eraseEnforce (delegatedEnforceV1Contract (withBoundaries services left) request now
        writer replay leftToken).response =
      eraseEnforce (delegatedEnforceV1Contract (withBoundaries services right) request now
        writer replay rightToken).response := by
  unfold delegatedEnforceV1Contract
  dsimp only [withBoundaries]
  split
  · rfl
  · next trustedWs _ =>
      split
      · rfl
      · cases looked : services.getByRef request.grantRef with
        | error => rfl
        | ok found =>
            dsimp only
            split
            · rfl
            · next grant owned =>
                have known : services.getByRef request.grantRef = .ok (some grant) := by
                  rw [looked, (Option.filter_eq_some_iff.mp owned).1]
                exact enforceOwnedGrant_boundary ignores services (available grant known)
                  trustedWs now replay leftToken rightToken

end Endpoints

/-- A boundary of another workspace. -/
def foreignBoundary : Boundary where
  boundaryId := "bnd_1"
  workspaceId := "ws_other"
  name := "sandbox"
  runtime := "docker"
  boundaryType := "container"
  mode := .failClosed
  status := .active
  createdAt := 0
  updatedAt := 0

def ownGrant : Grant where
  grantId := "grn_1"
  grantRef := "grt_1"
  workspaceId := "ws"
  agentId := "agent_a"
  scopes := ["read:file/a"]
  status := .active

/-- A registry that knows one boundary. -/
def singleBoundary (boundary : Boundary) : BoundaryLookup := fun boundaryId =>
  if boundaryId = boundary.boundaryId then some boundary else none

end NonInterference
end Vinctor
