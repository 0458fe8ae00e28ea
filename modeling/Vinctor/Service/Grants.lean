import Vinctor.Core.Scope
import Vinctor.Service.Audit
import Vinctor.Service.Repositories

/-!
# Issuable bounds and grants

An agent's bounds record caps what may be issued to it: a list of scopes and
an optional maximal lifetime, read and written as one value.  A grant is issued
when every requested scope is subsumed by a bound and the applied lifetime
respects the cap and the ceiling.
-/

namespace Vinctor
namespace Grants

open Foundation
open Scope
open Audit

/-- Lifetime applied when none is requested. -/
def defaultTtlSeconds : Int := 1800

/-- Upper bound on every lifetime. -/
def maxTtlSecondsCeiling : Int := 30 * 24 * 3600

/-- Bounds by workspace and agent. -/
abbrev ScopeBoundsRepository := Dict (String × String) AgentIssuableBounds

def newId (kind : String) (token : Token) : String := kind ++ "_" ++ token

/-! ## Bounds -/

def validateIssuableScopeBounds (scopes : List String) (maxTtlSeconds : Option Int) :
    Except String Unit :=
  if scopes.isEmpty then .error "at least one issuable scope bound is required"
  else
    match scopes.filter fun scope => !isValidGrantScope scope with
    | invalid :: _ => .error ("invalid issuable scope bound: " ++ invalid)
    | [] =>
        if maxTtlSeconds.any fun cap => decide (cap ≤ 0 ∨ maxTtlSecondsCeiling < cap) then
          .error "max_ttl_seconds must be a positive integer within the TTL ceiling"
        else .ok ()

def validateClearMaxTtl (maxTtlSeconds : Option Int) (clearMaxTtl : Bool) :
    Except String Unit :=
  if clearMaxTtl && maxTtlSeconds.isSome then
    .error "clear_max_ttl requires max_ttl_seconds to be None"
  else .ok ()

structure SetBoundsInput where
  workspaceId : String
  agentId : String
  scopes : List String
  maxTtlSeconds : Option Int := none
  clearMaxTtl : Bool := false
  deriving DecidableEq, Repr

/-- Replace the bounds of an agent.  A cap that is not declared keeps the
stored one, unless it is cleared. -/
def setBounds (repository : ScopeBoundsRepository) (input : SetBoundsInput) :
    Except String ScopeBoundsRepository :=
  match validateIssuableScopeBounds input.scopes input.maxTtlSeconds with
  | .error text => .error text
  | .ok () =>
      match validateClearMaxTtl input.maxTtlSeconds input.clearMaxTtl with
      | .error text => .error text
      | .ok () =>
          let key := (input.workspaceId, input.agentId)
          let cap :=
            if input.maxTtlSeconds.isNone && !input.clearMaxTtl then
              match repository.get? key with
              | some existing => existing.maxTtlSeconds
              | none => none
            else input.maxTtlSeconds
          .ok (repository.set key { scopes := input.scopes, maxTtlSeconds := cap })

/-! ## Issuance -/

/-- The lifetime a request is issued with. -/
def appliedTtlSeconds (ttlSeconds : Int) : Int :=
  if 0 < ttlSeconds then ttlSeconds else defaultTtlSeconds

def validateIssueRequest (request : GrantIssueRequest) (appliedTtl : Int) : Option String :=
  if request.workspaceId = "" then some "invalid_workspace_id"
  else if request.targetAgentId = "" then some "invalid_agent_id"
  else if request.ttlSeconds < 0 then some "invalid_ttl"
  else if maxTtlSecondsCeiling < appliedTtl then some "ttl_exceeds_max"
  else if request.requestedScopes.isEmpty then some "missing_requested_scopes"
  else if request.requestedScopes.any fun scope => !isValidGrantScope scope then
    some "invalid_requested_scope"
  else none

def scopesOutsideBounds (requestedScopes bounds : List String) : List String :=
  requestedScopes.filter fun requested => !bounds.any fun bound => scopeSubsumes bound requested

def joinScopes (separator : String) (scopes : List String) : String :=
  String.intercalate separator scopes

/-- A refused issuance: its result, and the code of its rejection event when
one is written. -/
structure IssueRefusal where
  result : GrantIssueResult
  recorded : Option ReasonCode
  deriving DecidableEq, Repr

/-- The checks of a request against one snapshot of the agent's bounds. -/
def checkIssuable (request : GrantIssueRequest) (issuable : Option AgentIssuableBounds) :
    Except IssueRefusal AgentIssuableBounds :=
  let appliedTtl := appliedTtlSeconds request.ttlSeconds
  match issuable with
  | none =>
      .error
        { result :=
            { status := .rejected
              reason := "issuable_bounds_not_found"
              detail := some ("no issuable scope bounds are configured for agent '" ++
                request.targetAgentId ++ "'") }
          recorded := some .issuableBoundsNotFound }
  | some snapshot =>
      let bounds := snapshot.scopes
      if bounds.any fun scope => !isValidGrantScope scope then
        .error
          { result := { status := .rejected, reason := "invalid_issuable_scope_bound" }
            recorded := none }
      else
        let outside := scopesOutsideBounds request.requestedScopes bounds
        if outside ≠ [] then
          .error
            { result :=
                { status := .rejected
                  reason := "scope_outside_issuable_bounds"
                  detail := some ("requested scope(s) " ++ joinScopes ", " outside ++
                    " are outside agent '" ++ request.targetAgentId ++
                    "' issuable bounds (" ++ joinScopes ", " bounds ++ ")") }
              recorded := some .scopeOutsideIssuableBounds }
        else if snapshot.maxTtlSeconds.any fun cap => decide (cap < appliedTtl) then
          .error
            { result :=
                { status := .rejected
                  reason := "ttl_exceeds_issuable_max"
                  detail := some ("requested TTL " ++ toString appliedTtl ++
                    "s exceeds the max issuable TTL " ++
                    toString (snapshot.maxTtlSeconds.getD 0) ++ "s for agent '" ++
                    request.targetAgentId ++ "'") }
              recorded := some .ttlExceedsIssuableMax }
        else .ok snapshot

/-- Random values of one issuance. -/
structure IssueDraws where
  grantId : Token
  grantRef : Token
  event : Token
  deriving DecidableEq, Repr

def newGrant (request : GrantIssueRequest) (now : Instant) (draws : IssueDraws) : Grant where
  grantId := (presentText request.grantId).getD (newId "grnt" draws.grantId)
  grantRef := (presentText request.grantRef).getD (newId "grt" draws.grantRef)
  workspaceId := request.workspaceId
  agentId := request.targetAgentId
  scopes := request.requestedScopes
  status := .active
  expiresAt := some (now + seconds (appliedTtlSeconds request.ttlSeconds))

/-- Event of a change in a grant's life. -/
def grantLifecycleEvent
    (eventType : EventType)
    (decision : Decision)
    (grant : Grant)
    (action resource : String)
    (now : Instant)
    (token : Token) : AuditEvent where
  eventId := newId "evt" token
  eventType := eventType.code
  decision := decision
  reason := eventType.code
  workspaceId := grant.workspaceId
  agentId := grant.agentId
  grantId := grant.grantId
  grantRef := grant.grantRef
  action := action
  resource := resource
  scopeAttempted := joinScopes "," grant.scopes
  scopeMatched := none
  boundaryId := none
  runtime := none
  boundaryType := none
  createdAt := now

def grantIssuedEvent (grant : Grant) (now : Instant) (token : Token) : AuditEvent :=
  grantLifecycleEvent .grantIssued .permit grant "issue_grant" ("agent/" ++ grant.agentId)
    now token

def issueRejectionEvent
    (request : GrantIssueRequest)
    (reasonCode : ReasonCode)
    (now : Instant)
    (token : Token) : AuditEvent :=
  buildRejectionAuditEvent
    { reasonCode := reasonCode
      workspaceId := request.workspaceId
      agentId := request.targetAgentId
      createdAt := now
      eventType := .grantIssueRejected
      action := "issue_grant"
      resource := "agent/" ++ request.targetAgentId
      scopeAttempted := some (joinScopes "," request.requestedScopes) }
    token

/-- Result of an issuance and what it changed.  No result means that the audit
write raised. -/
structure IssueOutcome where
  result : Option GrantIssueResult
  grants : GrantRepository
  writer : AuditWriter

def issueGrant
    (request : GrantIssueRequest)
    (bounds : ScopeBoundsRepository)
    (now : Instant)
    (grants : GrantRepository)
    (writer : AuditWriter)
    (draws : IssueDraws) : IssueOutcome :=
  match validateIssueRequest request (appliedTtlSeconds request.ttlSeconds) with
  | some reason =>
      { result := some { status := .rejected, reason := reason }
        grants := grants
        writer := writer }
  | none =>
      match checkIssuable request (bounds.get? (request.workspaceId, request.targetAgentId)) with
      | .error refusal =>
          { result := some refusal.result
            grants := grants
            writer :=
              match refusal.recorded with
              | some reasonCode =>
                  writer.recordRejection
                    (issueRejectionEvent request reasonCode now draws.event)
              | none => writer }
      | .ok _ =>
          let grant := newGrant request now draws
          match grants.insert grant with
          | .error _ =>
              { result := some { status := .rejected, reason := "duplicate_grant_ref" }
                grants := grants
                writer := writer }
          | .ok inserted =>
              let auditEvent := grantIssuedEvent grant now draws.event
              let written := writer.write auditEvent
              { result :=
                  if written.1 then
                    some
                      { status := .issued
                        reason := "grant_issued"
                        grant := some grant
                        auditEventId := some auditEvent.eventId }
                  else none
                grants := inserted
                writer := written.2 }

/-! ## Revocation -/

/-- Result of a revocation and what it changed: the outer option is an
exception, the inner one an unknown or foreign reference. -/
structure RevokeOutcome where
  result : Option (Option (Grant × String))
  grants : GrantRepository
  writer : AuditWriter

def grantRevokedEvent (grant : Grant) (now : Instant) (token : Token) : AuditEvent :=
  grantLifecycleEvent .grantRevoked .deny grant "revoke_grant" ("grant/" ++ grant.grantRef)
    now token

def revokeGrant
    (grantRef workspaceId : String)
    (now : Instant)
    (grants : GrantRepository)
    (writer : AuditWriter)
    (token : Token) : RevokeOutcome :=
  match grants.revoke grantRef workspaceId with
  | (none, grants) => { result := some none, grants := grants, writer := writer }
  | (some grant, grants) =>
      let auditEvent := grantRevokedEvent grant now token
      let written := writer.write auditEvent
      { result := if written.1 then some (some (grant, auditEvent.eventId)) else none
        grants := grants
        writer := written.2 }

/-! ## What an issuance establishes -/

/-- A request within one snapshot of the bounds. -/
structure WithinBounds (request : GrantIssueRequest) (issuable : AgentIssuableBounds) :
    Prop where
  subsumed : ∀ requested ∈ request.requestedScopes,
    ∃ bound ∈ issuable.scopes, scopeSubsumes bound requested = true
  capped : ∀ cap, issuable.maxTtlSeconds = some cap →
    appliedTtlSeconds request.ttlSeconds ≤ cap

theorem checkIssuable_ok
    {request : GrantIssueRequest}
    {found : Option AgentIssuableBounds}
    {issuable : AgentIssuableBounds}
    (checked : checkIssuable request found = .ok issuable) :
    found = some issuable ∧ WithinBounds request issuable := by
  unfold checkIssuable at checked
  dsimp only at checked
  split at checked
  · simp at checked
  · next snapshot =>
      split_ifs at checked with invalid outside capped
      simp only [Except.ok.injEq] at checked
      subst checked
      refine ⟨rfl, ?_, ?_⟩
      · intro requested member
        simp only [ne_eq, not_not] at outside
        have inside := List.filter_eq_nil_iff.mp outside requested member
        simpa using inside
      · intro cap present
        simpa [present] using capped

theorem validateIssueRequest_none
    {request : GrantIssueRequest}
    {appliedTtl : Int}
    (valid : validateIssueRequest request appliedTtl = none) :
    appliedTtl ≤ maxTtlSecondsCeiling := by
  unfold validateIssueRequest at valid
  split_ifs at valid with workspace agent negative ceiling
  omega

/-- A refusal does not carry a grant. -/
theorem checkIssuable_error
    {request : GrantIssueRequest}
    {found : Option AgentIssuableBounds}
    {refusal : IssueRefusal}
    (refused : checkIssuable request found = .error refusal) :
    refusal.result.status = .rejected ∧ refusal.result.grant = none := by
  unfold checkIssuable at refused
  dsimp only at refused
  split at refused
  · cases refused
    exact ⟨rfl, rfl⟩
  · split_ifs at refused <;>
      · cases refused
        exact ⟨rfl, rfl⟩

/-- What the stored grant of an issuance satisfies. -/
structure IssuedGrant
    (request : GrantIssueRequest)
    (bounds : ScopeBoundsRepository)
    (now : Instant)
    (grant : Grant)
    (issuable : AgentIssuableBounds) : Prop where
  snapshot : bounds.get? (request.workspaceId, request.targetAgentId) = some issuable
  within : WithinBounds request issuable
  ceiling : appliedTtlSeconds request.ttlSeconds ≤ maxTtlSecondsCeiling
  workspace : grant.workspaceId = request.workspaceId
  agent : grant.agentId = request.targetAgentId
  scopes : grant.scopes = request.requestedScopes
  active : grant.status = .active
  expiry : grant.expiresAt = some (now + seconds (appliedTtlSeconds request.ttlSeconds))
  reference : ∀ grantRef, presentText request.grantRef = some grantRef →
    grant.grantRef = grantRef

/-- The two ways an issuance ends: refused without a change, or with one new
grant within the bounds. -/
theorem issueGrant_cases
    (request : GrantIssueRequest)
    (bounds : ScopeBoundsRepository)
    (now : Instant)
    (grants : GrantRepository)
    (writer : AuditWriter)
    (draws : IssueDraws) :
    ((issueGrant request bounds now grants writer draws).grants = grants ∧
      ∃ result, (issueGrant request bounds now grants writer draws).result = some result ∧
        result.status = .rejected ∧ result.grant = none) ∨
    ∃ grant issuable, IssuedGrant request bounds now grant issuable ∧
      grants.get? grant.grantRef = none ∧
      (issueGrant request bounds now grants writer draws).grants =
        grants.set grant.grantRef grant ∧
      (issueGrant request bounds now grants writer draws).result =
        if (writer.write (grantIssuedEvent grant now draws.event)).1 then
          some
            { status := .issued
              reason := "grant_issued"
              grant := some grant
              auditEventId := some (grantIssuedEvent grant now draws.event).eventId }
        else none := by
  unfold issueGrant
  split
  · exact Or.inl ⟨rfl, _, rfl, rfl, rfl⟩
  · next valid =>
      split
      · next refusal refused =>
          exact Or.inl ⟨rfl, _, rfl, checkIssuable_error refused⟩
      · next issuable checked =>
          obtain ⟨snapshot, within⟩ := checkIssuable_ok checked
          dsimp only
          split
          · exact Or.inl ⟨rfl, _, rfl, rfl, rfl⟩
          · next inserted insertion =>
              unfold GrantRepository.insert at insertion
              split_ifs at insertion with duplicate
              simp only [Except.ok.injEq] at insertion
              refine Or.inr ⟨newGrant request now draws, issuable, ?_, ?_, insertion.symm, rfl⟩
              · exact
                  { snapshot := snapshot
                    within := within
                    ceiling := validateIssueRequest_none valid
                    workspace := rfl
                    agent := rfl
                    scopes := rfl
                    active := rfl
                    expiry := rfl
                    reference := fun grantRef present => by simp [newGrant, present] }
              · simpa using duplicate

theorem issueGrant_reliable
    {writer : AuditWriter}
    (reliable : writer.Reliable)
    (request : GrantIssueRequest)
    (bounds : ScopeBoundsRepository)
    (now : Instant)
    (grants : GrantRepository)
    (draws : IssueDraws) :
    (issueGrant request bounds now grants writer draws).writer.Reliable := by
  unfold issueGrant
  split
  · exact reliable
  · split
    · dsimp only
      split
      · exact reliable
      · exact reliable
    · dsimp only
      split
      · exact reliable
      · exact reliable

/-- A grant within the bounds matches nothing that the bounds do not match. -/
theorem IssuedGrant.bound_matches
    {request : GrantIssueRequest}
    {bounds : ScopeBoundsRepository}
    {now : Instant}
    {grant : Grant}
    {issuable : AgentIssuableBounds}
    (issued : IssuedGrant request bounds now grant issuable)
    {scope action resource : String}
    (member : scope ∈ grant.scopes)
    (matching : Matches scope action resource) :
    ∃ bound ∈ issuable.scopes, Matches bound action resource := by
  rw [issued.scopes] at member
  obtain ⟨bound, inBounds, subsumes⟩ := issued.within.subsumed scope member
  exact ⟨bound, inBounds, matches_of_scopeSubsumes subsumes matching⟩

end Grants
end Vinctor
