import Vinctor.Service.DelegatedControls
import Vinctor.Service.InMemory

/-!
# Runs with token revocation

An operator revokes a token in the repository, beside the operations of the
service.  The module extends the machine by that operation and says which
operations touch tokens and which leave events of a proven identity: only
minting adds a token, and only the delegated endpoint marks an event as proven.
-/

namespace Vinctor
namespace InMemory

open Foundation
open Enforce
open Audit
open Grants
open GrantRequests
open AutoApproval
open SubjectTokens
open V1
open Pop

inductive TokenOperation
  | service (operation : Operation)
  | revokeSubjectToken (tokenId : String) (now : Instant)

inductive TokenReply
  | service (reply : Reply)
  | revoked (found : Bool)

section Operations

variable (hashKey : String → String) (hmac : KeyedHash)

def tokenStep (operation : TokenOperation) (service : Service) : TokenReply × Service :=
  match operation with
  | .service operation =>
      let outcome := step hashKey hmac operation service
      (.service outcome.1, outcome.2)
  | .revokeSubjectToken tokenId now =>
      let outcome := service.tokens.revoke tokenId now
      (.revoked outcome.1, { service with tokens := outcome.2 })

/-- The service with its token repository open to an operator. -/
def tokenMachine : Machine Service TokenOperation TokenReply where
  step := tokenStep hashKey hmac

end Operations

/-! ## Events without a proven identity -/

/-- The event does not claim a proven identity. -/
def Unproven (event : AuditEvent) : Prop := event.subjectTokenVerified = false

theorem unproven_buildRejectionAuditEvent (input : RejectionInput) (token : Token) :
    Unproven (buildRejectionAuditEvent input token) :=
  rfl

theorem issueGrant_unproven
    (request : GrantIssueRequest)
    (bounds : ScopeBoundsRepository)
    (now : Instant)
    (grants : GrantRepository)
    (writer : AuditWriter)
    (draws : IssueDraws) :
    writer.Adds Unproven (issueGrant request bounds now grants writer draws).writer := by
  unfold issueGrant
  split
  · apply AuditWriter.Adds.refl
  · split
    · split
      · exact AuditWriter.adds_write writer (unproven_buildRejectionAuditEvent ..)
      · apply AuditWriter.Adds.refl
    · dsimp only
      split
      · apply AuditWriter.Adds.refl
      · exact AuditWriter.adds_write writer rfl

theorem revokeGrant_unproven
    (grantRef workspaceId : String)
    (now : Instant)
    (grants : GrantRepository)
    (writer : AuditWriter)
    (token : Token) :
    writer.Adds Unproven (revokeGrant grantRef workspaceId now grants writer token).writer := by
  unfold revokeGrant
  split
  · apply AuditWriter.Adds.refl
  · exact AuditWriter.adds_write writer rfl

theorem createGrantRequest_unproven
    (request : GrantRequestCreateRequest)
    (now : Instant)
    (requests : GrantRequestRepository)
    (writer : AuditWriter)
    (draws : CreateDraws) :
    writer.Adds Unproven (createGrantRequest request now requests writer draws).writer := by
  unfold createGrantRequest
  split
  · apply AuditWriter.Adds.refl
  · dsimp only
    split
    · apply AuditWriter.Adds.refl
    · exact AuditWriter.adds_write writer rfl

theorem approveGrantRequest_unproven
    (input : DecisionInput)
    (audit : ApprovalAudit)
    (bounds : ScopeBoundsRepository)
    (now : Instant)
    (requests : GrantRequestRepository)
    (grants : GrantRepository)
    (writer : AuditWriter)
    (draws : ApprovalDraws) :
    writer.Adds Unproven
      (approveGrantRequest input audit bounds now requests grants writer draws).writer := by
  have issues := fun request => issueGrant_unproven request bounds now grants writer draws.issue
  unfold approveGrantRequest
  dsimp only
  split
  · apply AuditWriter.Adds.refl
  · split
    · apply AuditWriter.Adds.refl
    · split
      · apply AuditWriter.Adds.refl
      · split
        · apply issues
        · split
          · exact (issues _).trans (AuditWriter.adds_write _ rfl)
          · split
            · apply issues
            · apply issues

theorem rejectGrantRequest_unproven
    (input : DecisionInput)
    (now : Instant)
    (requests : GrantRequestRepository)
    (grants : GrantRepository)
    (writer : AuditWriter)
    (token : Token) :
    writer.Adds Unproven
      (rejectGrantRequest input now requests grants writer token).writer := by
  unfold rejectGrantRequest
  dsimp only
  split
  · apply AuditWriter.Adds.refl
  · split
    · apply AuditWriter.Adds.refl
    · split
      · apply AuditWriter.Adds.refl
      · exact AuditWriter.adds_write writer rfl

theorem autoApproveGrantRequest_unproven
    (requestId workspaceId decidedBy : String)
    (rules : AutoApprovalRuleRepository)
    (bounds : ScopeBoundsRepository)
    (now : Instant)
    (requests : GrantRequestRepository)
    (grants : GrantRepository)
    (writer : AuditWriter)
    (draws : ApprovalDraws) :
    writer.Adds Unproven
      (autoApproveGrantRequest requestId workspaceId decidedBy rules bounds now requests
        grants writer draws).writer := by
  unfold autoApproveGrantRequest
  split
  · apply AuditWriter.Adds.refl
  · dsimp only
    split
    · apply approveGrantRequest_unproven
    · apply AuditWriter.Adds.refl

theorem mintSubjectToken_unproven
    (getByRef : GrantLookup)
    (hashKey : String → String)
    (transactional : Bool)
    (request : MintRequest)
    (now : Instant)
    (tokens : SubjectTokenRepository)
    (writer : AuditWriter)
    (draws : MintDraws) :
    writer.Adds Unproven
      (mintSubjectToken getByRef hashKey transactional request now tokens writer
        draws).writer := by
  unfold mintSubjectToken
  split
  · apply AuditWriter.Adds.refl
  · split
    · apply AuditWriter.Adds.refl
    · split
      · exact AuditWriter.adds_write writer (unproven_buildRejectionAuditEvent ..)
      · dsimp only
        split
        · apply AuditWriter.Adds.refl
        · split
          · exact AuditWriter.adds_write writer rfl
          · exact AuditWriter.adds_write writer rfl

theorem recordSimulation_adds
    {allowed : AuditEvent → Prop}
    (writer : AuditWriter)
    {event : AuditEvent}
    (permitted : allowed event)
    (response : V1SimulateResponse) :
    writer.Adds allowed (recordSimulation writer event response).2 := by
  unfold recordSimulation
  dsimp only
  split
  · exact AuditWriter.adds_write writer permitted
  · exact AuditWriter.adds_write writer permitted

theorem simulateV1Contract_unproven
    (services : EnforceServices)
    (request : V1SimulateRequest)
    (now : Instant)
    (writer : AuditWriter)
    (token : Token) :
    writer.Adds Unproven (simulateV1Contract services request now writer token).2 := by
  unfold simulateV1Contract
  split
  · apply AuditWriter.Adds.refl
  · split
    · exact recordSimulation_adds writer (unproven_buildRejectionAuditEvent ..) _
    · split
      · apply AuditWriter.Adds.refl
      · split
        · apply AuditWriter.Adds.refl
        · apply recordSimulation_adds
          rfl

theorem evaluateAndRecord_adds
    {allowed : AuditEvent → Prop}
    (input : EvaluationInput)
    (writer : AuditWriter)
    (token : Token)
    (permitted : allowed (input.auditEvent token)) :
    writer.Adds allowed (evaluateAndRecord input writer token).2 := by
  unfold evaluateAndRecord
  dsimp only
  split_ifs
  · apply AuditWriter.Adds.refl
  · apply AuditWriter.Adds.refl
  · exact AuditWriter.adds_write writer permitted
  · exact AuditWriter.adds_write writer permitted

theorem enforceV1Contract_unproven
    (services : EnforceServices)
    (request : V1EnforceRequest)
    (now : Instant)
    (writer : AuditWriter)
    (token : Token) :
    writer.Adds Unproven (enforceV1Contract services request now writer token).2 := by
  unfold enforceV1Contract
  split
  · apply AuditWriter.Adds.refl
  · split
    · exact AuditWriter.adds_write writer (unproven_buildRejectionAuditEvent ..)
    · apply evaluateAndRecord_adds
      rfl

/-! ## Events with a proven identity -/

/-- An event whose identity a token proved: the token passed its controls, and
the event names it, its holder and the enforcement point it was meant for. -/
structure ProvenBy
    (services : DelegatedServices)
    (request : V1DelegatedEnforceRequest)
    (now : Instant)
    (token : SubjectToken)
    (event : AuditEvent) : Prop where
  presented : ∃ subjectToken, request.subjectToken = some subjectToken ∧
    services.findToken subjectToken = some token
  unrevoked : token.revokedAt = none
  unexpired : now < token.expiresAt
  createdAt : event.createdAt = now
  tokenId : event.tokenId = some token.tokenId
  workspace : event.workspaceId = token.workspaceId
  agent : event.agentId = token.agentId
  grantRef : event.grantRef = token.grantRef
  audience : event.enforcingPrincipal = some token.audience
  boundAction : ∀ bound, token.boundAction = some bound → bound = event.action
  boundResource : ∀ bound, token.boundResource = some bound → bound = event.resource

/-- The event is unproven, or some token proves it. -/
def ProvenOrUnproven
    (services : DelegatedServices)
    (request : V1DelegatedEnforceRequest)
    (now : Instant)
    (event : AuditEvent) : Prop :=
  Unproven event ∨ ∃ token, ProvenBy services request now token event

/-- The decision event of a verified token names what the token was checked
for. -/
theorem provenBy_delegatedEvaluation
    {services : DelegatedServices}
    {request : V1DelegatedEnforceRequest}
    {grant : Grant}
    {isPopRequired : Bool}
    {now : Instant}
    {replay : Option ReplayStore}
    {subjectToken : String}
    {token : SubjectToken}
    (presented : request.subjectToken = some subjectToken)
    (controls : TokenControls services request grant isPopRequired now replay subjectToken
      token)
    (trustedWs : String)
    (eventToken : Token) :
    ProvenBy services request now token
      ((delegatedEvaluation services request trustedWs grant now (some token)).auditEvent
        eventToken) := by
  have concerns := evaluateEnforce_concerns
    (delegatedEvaluation services request trustedWs grant now (some token)).enforceInput
  exact
    { presented := ⟨subjectToken, presented, controls.known⟩
      unrevoked := controls.unrevoked
      unexpired := controls.unexpired
      createdAt := rfl
      tokenId := rfl
      workspace := concerns.workspaceId.trans controls.workspace.2.symm
      agent := concerns.agentId.trans controls.agent.2.symm
      grantRef := concerns.grantRef.trans controls.grantRef.2.symm
      audience := congrArg some controls.audience.symm
      boundAction := fun bound binds =>
        (controls.boundAction bound binds).trans concerns.action.symm
      boundResource := fun bound binds =>
        (controls.boundResource bound binds).trans concerns.resource.symm }

theorem enforceOwnedGrant_proven
    {services : DelegatedServices}
    {request : V1DelegatedEnforceRequest}
    {trustedWs : String}
    {grant : Grant}
    (owned : grant.workspaceId = trustedWs)
    (now : Instant)
    (writer : AuditWriter)
    (replay : Option ReplayStore)
    (eventToken : Token) :
    writer.Adds (ProvenOrUnproven services request now)
      (enforceOwnedGrant services request trustedWs grant now writer replay
        eventToken).writer := by
  unfold enforceOwnedGrant
  dsimp only
  split
  · exact AuditWriter.adds_write writer (Or.inl (unproven_buildRejectionAuditEvent ..))
  · split
    · apply evaluateAndRecord_adds
      exact Or.inl rfl
    · next subjectToken presented =>
        split
        · exact AuditWriter.adds_write writer
            (Or.inl (unproven_buildRejectionAuditEvent ..))
        · next token _ verified =>
            have controls := (verifySubjectToken_ok_iff owned _ now replay subjectToken
              token).mp (by rw [verified])
            apply evaluateAndRecord_adds
            exact Or.inr ⟨token,
              provenBy_delegatedEvaluation presented controls trustedWs eventToken⟩

/-- The delegated endpoint marks an event as proven only for a token that
passed its controls. -/
theorem delegatedEnforceV1Contract_proven
    (services : DelegatedServices)
    (request : V1DelegatedEnforceRequest)
    (now : Instant)
    (writer : AuditWriter)
    (replay : Option ReplayStore)
    (eventToken : Token) :
    writer.Adds (ProvenOrUnproven services request now)
      (delegatedEnforceV1Contract services request now writer replay eventToken).writer := by
  unfold delegatedEnforceV1Contract
  split
  · apply AuditWriter.Adds.refl
  · split
    · exact AuditWriter.adds_write writer (Or.inl (unproven_buildRejectionAuditEvent ..))
    · split
      · apply AuditWriter.Adds.refl
      · split
        · exact AuditWriter.adds_write writer
            (Or.inl (unproven_buildRejectionAuditEvent ..))
        · next grant found =>
            obtain ⟨-, owner⟩ := Option.filter_eq_some_iff.mp found
            exact enforceOwnedGrant_proven (of_decide_eq_true owner).1 now writer replay
              eventToken

/-! ## What one operation does -/

/-- What the delegated endpoint of the service reads. -/
def Service.delegatedServices
    (service : Service)
    (hashKey : String → String)
    (hmac : KeyedHash)
    (pepWorkspaceId : Option String)
    (popSkewSeconds : Int) : DelegatedServices :=
  { service.enforceServices with
    pepWorkspaceId := pepWorkspaceId
    getByHash := some service.tokens.lookup
    hashKey := hashKey
    hmac := hmac
    popSkewSeconds := popSkewSeconds }

section Steps

variable (hashKey : String → String) (hmac : KeyedHash)

/-- Operations other than minting leave the tokens alone. -/
theorem step_tokens
    {operation : Operation}
    (notMinting : ∀ request now draws,
      operation ≠ .mintSubjectToken request now draws)
    (service : Service) :
    (step hashKey hmac operation service).2.tokens = service.tokens := by
  cases operation with
  | mintSubjectToken request now draws => exact absurd rfl (notMinting request now draws)
  | setBounds | createAutoApprovalRule | disableAutoApprovalRule | registerBoundary =>
      simp only [step]
      split <;> rfl
  | _ => rfl

/-- Operations other than delegated enforcement leave unproven events. -/
theorem step_unproven
    {operation : Operation}
    (notDelegated : ∀ request now pepWorkspaceId popSkewSeconds token,
      operation ≠ .delegatedEnforce request now pepWorkspaceId popSkewSeconds token)
    (service : Service) :
    service.writer.Adds Unproven (step hashKey hmac operation service).2.writer := by
  cases operation with
  | delegatedEnforce request now pepWorkspaceId popSkewSeconds token =>
      exact absurd rfl (notDelegated request now pepWorkspaceId popSkewSeconds token)
  | issueGrant request now draws =>
      exact issueGrant_unproven request service.bounds now service.grants service.writer draws
  | revokeGrant grantRef workspaceId now token =>
      exact revokeGrant_unproven grantRef workspaceId now service.grants service.writer token
  | createGrantRequest request now draws =>
      exact createGrantRequest_unproven request now service.requests service.writer draws
  | approveGrantRequest input now draws =>
      exact approveGrantRequest_unproven input {} service.bounds now service.requests
        service.grants service.writer draws
  | rejectGrantRequest input now token =>
      exact rejectGrantRequest_unproven input now service.requests service.grants
        service.writer token
  | autoApproveGrantRequest requestId workspaceId decidedBy now draws =>
      exact autoApproveGrantRequest_unproven requestId workspaceId decidedBy service.rules
        service.bounds now service.requests service.grants service.writer draws
  | mintSubjectToken request now draws =>
      exact mintSubjectToken_unproven service.grants.lookup hashKey false request now
        service.tokens service.writer draws
  | simulate request now token =>
      exact simulateV1Contract_unproven service.enforceServices request now service.writer
        token
  | enforce request now token =>
      exact enforceV1Contract_unproven service.enforceServices request now service.writer
        token
  | setBounds | createAutoApprovalRule | disableAutoApprovalRule | registerBoundary =>
      simp only [step]
      split <;> exact AuditWriter.Adds.refl _ _
  | _ => exact AuditWriter.Adds.refl _ _

end Steps

end InMemory
end Vinctor
