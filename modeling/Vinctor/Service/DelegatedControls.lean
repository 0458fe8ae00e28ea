import Vinctor.Service.V1Exits

/-!
# Controls of the delegated endpoint

A delegated request is permitted exactly when every control passes.  The
controls are stated field by field; the endpoint checks them one after another
with an exit for each failure.
-/

namespace Vinctor
namespace V1

open Foundation
open Scope
open Enforce
open Audit
open Pop

/-- What a presented token must satisfy. -/
structure TokenControls
    (services : DelegatedServices)
    (request : V1DelegatedEnforceRequest)
    (grant : Grant)
    (isPopRequired : Bool)
    (now : Instant)
    (replay : Option ReplayStore)
    (subjectToken : String)
    (token : SubjectToken) : Prop where
  known : services.findToken subjectToken = some token
  unrevoked : token.revokedAt = none
  unexpired : now < token.expiresAt
  audience : token.audience = request.pepId
  workspace : token.workspaceId = request.workspaceId ∧ token.workspaceId = grant.workspaceId
  agent : token.agentId = request.agentId ∧ token.agentId = grant.agentId
  grantRef : token.grantRef = request.grantRef ∧ token.grantRef = grant.grantRef
  boundAction : ∀ bound, token.boundAction = some bound → bound = request.action
  boundResource : ∀ bound, token.boundResource = some bound → bound = request.resource
  popBound : isPopRequired = true → token.popSecret ≠ none
  popAccepted : ∀ popSecret, token.popSecret = some popSecret →
    ∃ store, replay = some store ∧
      (verifyPop services.hmac services.popSkewSeconds
        (popCallOf token popSecret request now) store).1 = some true

theorem tokenMismatches_eq_false_iff
    {token : SubjectToken}
    {request : V1DelegatedEnforceRequest}
    {trustedWs : String}
    {grant : Grant}
    (owned : grant.workspaceId = trustedWs) :
    tokenMismatches token request trustedWs grant = false ↔
      token.audience = request.pepId ∧
      (token.workspaceId = request.workspaceId ∧ token.workspaceId = grant.workspaceId) ∧
      (token.agentId = request.agentId ∧ token.agentId = grant.agentId) ∧
      (token.grantRef = request.grantRef ∧ token.grantRef = grant.grantRef) ∧
      (∀ bound, token.boundAction = some bound → bound = request.action) ∧
      (∀ bound, token.boundResource = some bound → bound = request.resource) := by
  subst owned
  unfold tokenMismatches
  simp only [Bool.or_eq_false_iff, bne_eq_false_iff_eq, Option.any_eq_false]
  constructor
  · rintro ⟨⟨⟨⟨⟨⟨⟨⟨⟨audience, -⟩, agent⟩, workspace⟩, grantRef⟩, grantAgent⟩, grantWorkspace⟩,
      grantGrantRef⟩, action⟩, resource⟩
    exact ⟨audience, ⟨workspace, grantWorkspace⟩, ⟨agent, grantAgent⟩,
      ⟨grantRef, grantGrantRef⟩, action, resource⟩
  · rintro ⟨audience, ⟨workspace, grantWorkspace⟩, ⟨agent, grantAgent⟩,
      ⟨grantRef, grantGrantRef⟩, action, resource⟩
    exact ⟨⟨⟨⟨⟨⟨⟨⟨⟨audience, grantWorkspace⟩, agent⟩, workspace⟩, grantRef⟩, grantAgent⟩,
      grantWorkspace⟩, grantGrantRef⟩, action⟩, resource⟩

theorem verifyTokenPop_accepted_iff
    (services : DelegatedServices)
    (call : PopCall)
    (replay : Option ReplayStore) :
    (verifyTokenPop services call replay).1 = true ↔
      ∃ store, replay = some store ∧
        (verifyPop services.hmac services.popSkewSeconds call store).1 = some true := by
  cases replay with
  | none => simp [verifyTokenPop]
  | some store =>
      simp only [verifyTokenPop, Option.some.injEq, exists_eq_left']
      cases (verifyPop services.hmac services.popSkewSeconds call store).1 <;> simp

/-- The token block accepts exactly the tokens that satisfy their controls. -/
theorem verifySubjectToken_ok_iff
    {services : DelegatedServices}
    {request : V1DelegatedEnforceRequest}
    {trustedWs : String}
    {grant : Grant}
    (owned : grant.workspaceId = trustedWs)
    (isPopRequired : Bool)
    (now : Instant)
    (replay : Option ReplayStore)
    (subjectToken : String)
    (token : SubjectToken) :
    (verifySubjectToken services request trustedWs grant isPopRequired now replay
        subjectToken).1 = .ok token ↔
      TokenControls services request grant isPopRequired now replay subjectToken token := by
  constructor
  · intro accepted
    unfold verifySubjectToken at accepted
    split at accepted
    · simp at accepted
    · next found known =>
        split at accepted
        · simp at accepted
        next revoked =>
        split at accepted
        · simp at accepted
        next expired =>
        split at accepted
        · simp at accepted
        next mismatched =>
        obtain ⟨audience, workspace, agent, grantRef, action, resource⟩ :=
          (tokenMismatches_eq_false_iff owned).mp (by simpa using mismatched)
        have popControls : found = token ∧
            (isPopRequired = true → found.popSecret ≠ none) ∧
            ∀ popSecret, found.popSecret = some popSecret →
              (verifyTokenPop services (popCallOf found popSecret request now) replay).1
                = true := by
          split at accepted
          · next unbound =>
              split at accepted
              · simp at accepted
              · next optional =>
                  exact ⟨by simpa using accepted, by simp [optional], by simp [unbound]⟩
          · next popSecret bound =>
              dsimp only at accepted
              split at accepted
              · next verified =>
                  refine ⟨by simpa using accepted, by simp [bound], ?_⟩
                  intro secret present
                  rw [bound, Option.some.injEq] at present
                  exact present ▸ verified
              · simp at accepted
        obtain ⟨rfl, popBound, popVerified⟩ := popControls
        exact
          { known := known
            unrevoked := by simpa using revoked
            unexpired := by simpa using expired
            audience := audience
            workspace := workspace
            agent := agent
            grantRef := grantRef
            boundAction := action
            boundResource := resource
            popBound := popBound
            popAccepted := fun popSecret present =>
              (verifyTokenPop_accepted_iff ..).mp (popVerified popSecret present) }
  · intro controls
    have matched : tokenMismatches token request trustedWs grant = false :=
      (tokenMismatches_eq_false_iff owned).mpr
        ⟨controls.audience, controls.workspace, controls.agent, controls.grantRef,
          controls.boundAction, controls.boundResource⟩
    unfold verifySubjectToken
    rw [controls.known]
    dsimp only
    rw [if_neg (by simp [controls.unrevoked]), if_neg (not_le.mpr controls.unexpired),
      if_neg (by simp [matched])]
    split
    · next unbound =>
        have notRequired : isPopRequired = false := by
          have popBound := controls.popBound
          simpa [unbound] using popBound
        simp [notRequired]
    · next popSecret bound =>
        have verified := (verifyTokenPop_accepted_iff ..).mpr
          (controls.popAccepted popSecret bound)
        simp [verified]

/-- The token that proves a request: the one it presents, if any. -/
def provenToken
    (services : DelegatedServices)
    (request : V1DelegatedEnforceRequest) : Option SubjectToken :=
  request.subjectToken.bind services.findToken

/-- Everything a delegated request must pass to be permitted. -/
structure DelegatedControls
    (services : DelegatedServices)
    (request : V1DelegatedEnforceRequest)
    (now : Instant)
    (writer : AuditWriter)
    (replay : Option ReplayStore)
    (eventToken : Token)
    (trustedWs : String)
    (grant : Grant) : Prop where
  trusted : services.pepWorkspaceId = some trustedWs ∧ trustedWs ≠ ""
  asserted : request.workspaceId = "" ∨ request.workspaceId = trustedWs
  found : services.getByRef request.grantRef = .ok (some grant)
  owned : grant.workspaceId = trustedWs ∧ grant.agentId = request.agentId
  tokenPresented :
    mandated services.settings EnforcementSettings.isSubjectTokenRequired trustedWs
        request.agentId = true ∨
      mandated services.settings EnforcementSettings.isPopRequired trustedWs
        request.agentId = true →
    ∃ subjectToken, request.subjectToken = some subjectToken ∧
      Text.isBlank subjectToken.toList = false
  token : ∀ subjectToken, request.subjectToken = some subjectToken →
    ∃ token, TokenControls services request grant
      (mandated services.settings EnforcementSettings.isPopRequired trustedWs request.agentId)
      now replay subjectToken token
  actionValid : isValidRequestedAction request.action = true
  resourceValid : isValidRequestedResource request.resource = true
  permitted :
    (evaluateEnforce
      { grant := grant
        action := request.action
        resource := request.resource
        now := now
        boundaryId := request.boundaryId
        boundaryRegistry := services.boundaryRegistry
        requireBoundary := mandated services.settings
          EnforcementSettings.isBoundaryRequired trustedWs request.agentId }).decision = .permit
  written :
    (writer.write ((delegatedEvaluation services request trustedWs grant now
      (provenToken services request)).auditEvent eventToken)).1 = true

theorem evaluateAndRecord_permits_iff
    (input : EvaluationInput)
    (writer : AuditWriter)
    (token : Token) :
    (evaluateAndRecord input writer token).1.decision = some .permit ↔
      isValidRequestedAction input.action = true ∧
      isValidRequestedResource input.resource = true ∧
      (evaluateEnforce input.enforceInput).decision = .permit ∧
      (writer.write (input.auditEvent token)).1 = true := by
  unfold evaluateAndRecord
  dsimp only
  split_ifs with actionInvalid resourceInvalid written
  · simp [actionInvalid]
  · simp [resourceInvalid]
  · simp [actionInvalid, resourceInvalid, written]
  · simp [written]

/-- No token or a blank one is the negation of a presented one. -/
theorem isBlankToken_eq_false_iff (subjectToken : Option String) :
    isBlankToken subjectToken = false ↔
      ∃ text, subjectToken = some text ∧ Text.isBlank text.toList = false := by
  cases subjectToken with
  | none => simp [isBlankToken]
  | some text => simp [isBlankToken]

/-- The owned part permits exactly when token, request, evaluation and write
are in order. -/
theorem enforceOwnedGrant_permits_iff
    {services : DelegatedServices}
    {request : V1DelegatedEnforceRequest}
    {trustedWs : String}
    {grant : Grant}
    (owned : grant.workspaceId = trustedWs)
    (now : Instant)
    (writer : AuditWriter)
    (replay : Option ReplayStore)
    (eventToken : Token) :
    (enforceOwnedGrant services request trustedWs grant now writer replay
        eventToken).response.decision = some .permit ↔
      (mandated services.settings EnforcementSettings.isSubjectTokenRequired trustedWs
          request.agentId = true ∨
        mandated services.settings EnforcementSettings.isPopRequired trustedWs
          request.agentId = true →
        isBlankToken request.subjectToken = false) ∧
      (∀ subjectToken, request.subjectToken = some subjectToken →
        ∃ token, TokenControls services request grant
          (mandated services.settings EnforcementSettings.isPopRequired trustedWs
            request.agentId) now replay subjectToken token) ∧
      (evaluateAndRecord (delegatedEvaluation services request trustedWs grant now
        (provenToken services request)) writer eventToken).1.decision = some .permit := by
  unfold enforceOwnedGrant
  dsimp only
  split
  · next unpresented =>
      simp only [Bool.and_eq_true, Bool.or_eq_true] at unpresented
      simp [rejectDelegated, unpresented]
  next unpresented =>
    simp only [Bool.and_eq_true, Bool.or_eq_true, not_and, Bool.not_eq_true] at unpresented
    have tokenOk := @verifySubjectToken_ok_iff services request trustedWs grant owned
      (mandated services.settings EnforcementSettings.isPopRequired trustedWs
        request.agentId) now replay
    split
    · next absent =>
        rw [absent] at unpresented
        simpa [decideDelegated, provenToken, absent] using fun _ => unpresented
    · next subjectToken presented =>
        rw [presented] at unpresented
        split
        · next reasonCode afterReplay refused =>
            constructor
            · simp [rejectDelegated]
            · rintro ⟨-, controls, -⟩
              obtain ⟨token, satisfied⟩ := controls subjectToken presented
              have accepted := (tokenOk subjectToken token).mpr satisfied
              rw [refused] at accepted
              simp at accepted
        · next token afterReplay accepted =>
            have satisfied := (tokenOk subjectToken token).mp (by rw [accepted])
            have proven : provenToken services request = some token := by
              rw [provenToken, presented]
              exact satisfied.known
            rw [proven, presented]
            constructor
            · intro permits
              refine ⟨unpresented, ?_, permits⟩
              rintro _ ⟨⟩
              exact ⟨token, satisfied⟩
            · rintro ⟨-, -, permits⟩
              exact permits

/-- Delegated enforcement permits exactly when every control passes, and every
event it appends stays in the trusted workspace. -/
theorem delegatedEnforceV1Contract_permits_iff
    (services : DelegatedServices)
    (request : V1DelegatedEnforceRequest)
    (now : Instant)
    (writer : AuditWriter)
    (replay : Option ReplayStore)
    (eventToken : Token) :
    ((delegatedEnforceV1Contract services request now writer replay
        eventToken).response.decision = some .permit ↔
      ∃ trustedWs grant,
        DelegatedControls services request now writer replay eventToken trustedWs grant) ∧
    ∃ written,
      (delegatedEnforceV1Contract services request now writer replay
        eventToken).writer.attempts = writer.attempts ++ written ∧
      ∀ event ∈ AuditWriter.appendedEvents written,
        some event.workspaceId = services.pepWorkspaceId ∧
        event.agentId = request.agentId ∧
        event.enforcingPrincipal = some request.pepId := by
  constructor
  · constructor
    · intro permits
      unfold delegatedEnforceV1Contract at permits
      split at permits
      · simp at permits
      · next trustedWs present =>
          have trusted := presentText_eq_some.mp present
          split at permits
          · simp [rejectDelegated] at permits
          · next asserted =>
              split at permits
              · simp at permits
              · next found lookup =>
                  split at permits
                  · simp [rejectDelegated] at permits
                  · next grant kept =>
                      obtain ⟨rfl, owner⟩ := Option.filter_eq_some_iff.mp kept
                      have owned := of_decide_eq_true owner
                      obtain ⟨presented, token, recorded⟩ :=
                        (enforceOwnedGrant_permits_iff owned.1 ..).mp permits
                      obtain ⟨actionValid, resourceValid, permitted, written⟩ :=
                        (evaluateAndRecord_permits_iff ..).mp recorded
                      exact ⟨trustedWs, grant,
                        { trusted := trusted
                          asserted := by
                            simp only [ne_eq, not_and, not_not] at asserted
                            exact Classical.or_iff_not_imp_left.mpr asserted
                          found := lookup
                          owned := owned
                          tokenPresented := fun required =>
                            (isBlankToken_eq_false_iff _).mp (presented required)
                          token := token
                          actionValid := actionValid
                          resourceValid := resourceValid
                          permitted := permitted
                          written := written }⟩
    · rintro ⟨trustedWs, grant, controls⟩
      have agreed : ¬ (request.workspaceId ≠ "" ∧ request.workspaceId ≠ trustedWs) := by
        rintro ⟨asserted, different⟩
        exact controls.asserted.elim asserted different
      have kept : Option.filter (fun grant : Grant => decide (grant.workspaceId = trustedWs ∧
          grant.agentId = request.agentId)) (some grant) = some grant :=
        Option.filter_eq_some_iff.mpr ⟨rfl, decide_eq_true controls.owned⟩
      unfold delegatedEnforceV1Contract
      rw [presentText_eq_some.mpr controls.trusted]
      dsimp only
      rw [if_neg agreed, controls.found]
      dsimp only
      rw [kept]
      exact (enforceOwnedGrant_permits_iff controls.owned.1 ..).mpr
        ⟨fun required => (isBlankToken_eq_false_iff _).mpr (controls.tokenPresented required),
          controls.token,
          (evaluateAndRecord_permits_iff ..).mpr
            ⟨controls.actionValid, controls.resourceValid, controls.permitted,
              controls.written⟩⟩
  · obtain ⟨written, audited, attributed⟩ :=
      (delegatedEnforceV1Contract_exit services request now writer replay
        eventToken).answersAudited
    refine ⟨written, audited.attempts, ?_⟩
    intro event appended
    have attribution := attributed event appended
    exact ⟨attribution.workspace, attribution.agent, attribution.principal⟩

end V1
end Vinctor
