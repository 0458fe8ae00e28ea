import Vinctor.Service.Simulations
import Vinctor.Service.SubjectTokens

/-!
# Grant existence does not show

A caller learns nothing about grants that it does not own.  Two services whose
grants differ only in foreign ones answer alike and append alike events: the
endpoints read a grant only through the filter for the caller's own.

Answers and events contain freshly generated identifiers.  Runs are compared
after these are erased, for independent draws; a writer that told events apart
by such an identifier is compared on equal draws.
-/

namespace Vinctor
namespace NonInterference

open Foundation
open Audit
open Pop
open V1
open SubjectTokens

/-- The grant belongs to the agent in the workspace. -/
def ownedBy (workspaceId agentId : String) (grant : Grant) : Bool :=
  decide (grant.workspaceId = workspaceId ∧ grant.agentId = agentId)

/-- Two lookups raise alike and find the same grants among those that pass a
filter. -/
def AgreeOn (keep : Grant → Bool) (left right : GrantLookup) : Prop :=
  ∀ grantRef, (left grantRef).map (Option.filter keep) = (right grantRef).map (Option.filter keep)

/-- Lookups that differ only in grants not owned by the caller. -/
def AgreeOnOwned (workspaceId agentId : String) (left right : GrantLookup) : Prop :=
  AgreeOn (ownedBy workspaceId agentId) left right

theorem AgreeOn.cases
    {keep : Grant → Bool}
    {left right : GrantLookup}
    (agree : AgreeOn keep left right)
    (grantRef : String) :
    (left grantRef = .error () ∧ right grantRef = .error ()) ∨
      ∃ leftFound rightFound, left grantRef = .ok leftFound ∧
        right grantRef = .ok rightFound ∧
        leftFound.filter keep = rightFound.filter keep := by
  have same := agree grantRef
  cases leftCase : left grantRef with
  | error =>
      cases rightCase : right grantRef with
      | error => exact Or.inl ⟨rfl, rfl⟩
      | ok => simp [leftCase, rightCase, Except.map] at same
  | ok leftFound =>
      cases rightCase : right grantRef with
      | error => simp [leftCase, rightCase, Except.map] at same
      | ok rightFound =>
          refine Or.inr ⟨leftFound, rightFound, rfl, rfl, ?_⟩
          simpa [leftCase, rightCase, Except.map] using same

/-- A grant that is usable for minting is the caller's own. -/
theorem filter_isUsable (workspaceId agentId : String) (now : Instant)
    (found : Option Grant) :
    found.filter (isUsable workspaceId agentId now) =
      (found.filter (ownedBy workspaceId agentId)).filter
        (isUsable workspaceId agentId now) := by
  rw [Option.filter_filter]
  congr 1
  funext grant
  unfold isUsable ownedBy
  by_cases agent : grant.agentId = agentId <;>
    by_cases workspace : grant.workspaceId = workspaceId <;>
    simp [agent, workspace]

theorem AgreeOnOwned.usable
    {workspaceId agentId : String}
    {left right : GrantLookup}
    (agree : AgreeOnOwned workspaceId agentId left right)
    (now : Instant) :
    AgreeOn (isUsable workspaceId agentId now) left right := by
  intro grantRef
  rcases agree.cases grantRef with ⟨leftRaises, rightRaises⟩ |
    ⟨leftFound, rightFound, leftOk, rightOk, same⟩
  · rw [leftRaises, rightRaises]
  · rw [leftOk, rightOk]
    simp only [Except.map]
    rw [filter_isUsable, filter_isUsable workspaceId agentId now rightFound, same]

/-! ## Equal draws -/

section EqualDraws

variable {left right : GrantLookup}

theorem enforceV1Contract_agree
    (services : EnforceServices)
    {request : V1EnforceRequest}
    (agree : AgreeOnOwned request.workspaceId request.agentId left right)
    (now : Instant)
    (writer : AuditWriter)
    (token : Token) :
    enforceV1Contract { services with getByRef := left } request now writer token =
      enforceV1Contract { services with getByRef := right } request now writer token := by
  unfold enforceV1Contract
  dsimp only
  rcases agree.cases request.grantRef with ⟨leftRaises, rightRaises⟩ |
    ⟨leftFound, rightFound, leftOk, rightOk, same⟩
  · rw [leftRaises, rightRaises]
  · rw [leftOk, rightOk]
    unfold ownedBy at same
    simp only [same]

theorem simulateV1Contract_agree
    (services : EnforceServices)
    {request : V1SimulateRequest}
    (agree : AgreeOnOwned request.workspaceId request.agentId left right)
    (now : Instant)
    (writer : AuditWriter)
    (token : Token) :
    simulateV1Contract { services with getByRef := left } request now writer token =
      simulateV1Contract { services with getByRef := right } request now writer token := by
  unfold simulateV1Contract
  dsimp only
  rcases agree.cases request.grantRef with ⟨leftRaises, rightRaises⟩ |
    ⟨leftFound, rightFound, leftOk, rightOk, same⟩
  · rw [leftRaises, rightRaises]
  · rw [leftOk, rightOk]
    unfold ownedBy at same
    simp only [same]

/-- The delegated endpoint with another grant lookup. -/
def withGrants (services : DelegatedServices) (getByRef : GrantLookup) : DelegatedServices :=
  { services with getByRef := getByRef }

theorem delegatedEnforceV1Contract_agree
    (services : DelegatedServices)
    {request : V1DelegatedEnforceRequest}
    (agree : ∀ trustedWs, services.pepWorkspaceId = some trustedWs →
      AgreeOnOwned trustedWs request.agentId left right)
    (now : Instant)
    (writer : AuditWriter)
    (replay : Option ReplayStore)
    (token : Token) :
    delegatedEnforceV1Contract (withGrants services left) request now writer replay token =
      delegatedEnforceV1Contract (withGrants services right) request now writer replay
        token := by
  unfold delegatedEnforceV1Contract withGrants
  dsimp only
  cases trusted : presentText services.pepWorkspaceId with
  | none => rfl
  | some trustedWs =>
      have workspace : services.pepWorkspaceId = some trustedWs := by
        unfold presentText at trusted
        split at trusted
        · simp at trusted
        · next value present =>
            split_ifs at trusted
            rw [present, trusted]
      dsimp only
      congr 1
      rcases (agree trustedWs workspace).cases request.grantRef with
        ⟨leftRaises, rightRaises⟩ | ⟨leftFound, rightFound, leftOk, rightOk, same⟩
      · rw [leftRaises, rightRaises]
      · rw [leftOk, rightOk]
        unfold ownedBy at same
        simp only [same]
        rfl

theorem mintSubjectToken_agree
    (hashKey : String → String)
    (transactional : Bool)
    {request : MintRequest}
    {now : Instant}
    (agree : AgreeOn (isUsable request.workspaceId request.agentId now) left right)
    (tokens : SubjectTokenRepository)
    (writer : AuditWriter)
    (draws : MintDraws) :
    mintSubjectToken left hashKey transactional request now tokens writer draws =
      mintSubjectToken right hashKey transactional request now tokens writer draws := by
  unfold mintSubjectToken
  congr 1
  rcases agree.cases request.grantRef with ⟨leftRaises, rightRaises⟩ |
    ⟨leftFound, rightFound, leftOk, rightOk, same⟩
  · rw [leftRaises, rightRaises]
  · rw [leftOk, rightOk]
    simp only [same]

end EqualDraws

/-! ## Independent draws -/

/-- The event without the identifiers that its writer generates. -/
def eraseFresh (event : AuditEvent) : AuditEvent := { event with eventId := "" }

/-- A mint also generates the identifier of its token. -/
def eraseMinted (event : AuditEvent) : AuditEvent :=
  { event with eventId := "", tokenId := event.tokenId.map fun _ => "" }

def eraseEnforce (response : V1EnforceResponse) : V1EnforceResponse :=
  { response with auditEventId := response.auditEventId.map fun _ => "" }

def eraseSimulate (response : V1SimulateResponse) : V1SimulateResponse :=
  { response with auditEventId := response.auditEventId.map fun _ => "" }

def eraseMint (result : Except MintError SubjectTokenMintResult) :
    Except MintError SubjectTokenMintResult :=
  result.map fun minted =>
    { minted with
      token := minted.token.map fun _ => ""
      tokenId := minted.tokenId.map fun _ => ""
      popSecret := minted.popSecret.map fun _ => "" }

/-- The writer does not tell events apart by generated identifiers. -/
def DecidesUpToIds (writer : AuditWriter) : Prop :=
  ∀ attempts left right, eraseMinted left = eraseMinted right →
    writer.accepts attempts left = writer.accepts attempts right

/-- Two trails that agree after an erasure. -/
def SameTrail (erase : AuditEvent → AuditEvent) (left right : AuditWriter) : Prop :=
  left.events.map erase = right.events.map erase

theorem eraseMinted_of_eraseFresh
    {left right : AuditEvent}
    (same : eraseFresh left = eraseFresh right) :
    eraseMinted left = eraseMinted right :=
  calc eraseMinted left = eraseMinted (eraseFresh left) := rfl
    _ = eraseMinted (eraseFresh right) := by rw [same]
    _ = eraseMinted right := rfl

/-- Writing two events that agree after an erasure. -/
theorem write_same
    {erase : AuditEvent → AuditEvent}
    {writer : AuditWriter}
    {left right : AuditEvent}
    (same : erase left = erase right)
    (alike : (writer.write left).1 = (writer.write right).1) :
    SameTrail erase (writer.write left).2 (writer.write right).2 := by
  unfold SameTrail AuditWriter.events
  rw [AuditWriter.attempts_write, AuditWriter.attempts_write, alike,
    AuditWriter.appendedEvents_append, AuditWriter.appendedEvents_append,
    AuditWriter.appendedEvents_singleton, AuditWriter.appendedEvents_singleton]
  dsimp only
  split
  · simp [same]
  · simp

/-- Draws are equal, or the writer ignores them. -/
def Coupled (writer : AuditWriter) (left right : Token) : Prop :=
  left = right ∨ DecidesUpToIds writer

/-- Events built from coupled draws are accepted alike. -/
theorem Coupled.write_alike
    {writer : AuditWriter}
    {leftToken rightToken : Token}
    (coupled : Coupled writer leftToken rightToken)
    (event : Token → AuditEvent)
    (same : eraseFresh (event leftToken) = eraseFresh (event rightToken)) :
    (writer.write (event leftToken)).1 = (writer.write (event rightToken)).1 ∧
      SameTrail eraseFresh (writer.write (event leftToken)).2
        (writer.write (event rightToken)).2 := by
  have alike : (writer.write (event leftToken)).1 = (writer.write (event rightToken)).1 := by
    rcases coupled with rfl | ignoresIds
    · rfl
    · exact ignoresIds _ _ _ (eraseMinted_of_eraseFresh same)
  exact ⟨alike, write_same same alike⟩

section IndependentDraws

variable
    {writer : AuditWriter}
    {leftToken rightToken : Token}

theorem responseFromDecision_same
    (decision : DecisionResult)
    (left right : AuditEvent) :
    eraseEnforce (responseFromDecision decision left) =
      eraseEnforce (responseFromDecision decision right) := by
  unfold responseFromDecision
  split <;> rfl

theorem evaluateAndRecord_same
    (coupled : Coupled writer leftToken rightToken)
    (input : EvaluationInput) :
    eraseEnforce (evaluateAndRecord input writer leftToken).1 =
        eraseEnforce (evaluateAndRecord input writer rightToken).1 ∧
      SameTrail eraseFresh (evaluateAndRecord input writer leftToken).2
        (evaluateAndRecord input writer rightToken).2 := by
  obtain ⟨alike, trail⟩ := coupled.write_alike input.auditEvent rfl
  unfold evaluateAndRecord
  dsimp only
  rw [alike]
  split
  · exact ⟨rfl, rfl⟩
  · split
    · exact ⟨rfl, rfl⟩
    · split
      · exact ⟨responseFromDecision_same _ _ _, trail⟩
      · exact ⟨rfl, trail⟩

theorem enforceV1Contract_same
    (coupled : Coupled writer leftToken rightToken)
    (services : EnforceServices)
    (request : V1EnforceRequest)
    (now : Instant) :
    eraseEnforce (enforceV1Contract services request now writer leftToken).1 =
        eraseEnforce (enforceV1Contract services request now writer rightToken).1 ∧
      SameTrail eraseFresh (enforceV1Contract services request now writer leftToken).2
        (enforceV1Contract services request now writer rightToken).2 := by
  unfold enforceV1Contract
  split
  · exact ⟨rfl, rfl⟩
  · split
    · exact ⟨rfl, (coupled.write_alike (buildRejectionAuditEvent _) rfl).2⟩
    · exact evaluateAndRecord_same coupled _

theorem recordSimulation_same
    (coupled : Coupled writer leftToken rightToken)
    (event : Token → AuditEvent)
    (response : Token → V1SimulateResponse)
    (sameEvent : eraseFresh (event leftToken) = eraseFresh (event rightToken))
    (sameResponse :
      eraseSimulate (response leftToken) = eraseSimulate (response rightToken)) :
    eraseSimulate (recordSimulation writer (event leftToken) (response leftToken)).1 =
        eraseSimulate
          (recordSimulation writer (event rightToken) (response rightToken)).1 ∧
      SameTrail eraseFresh
        (recordSimulation writer (event leftToken) (response leftToken)).2
        (recordSimulation writer (event rightToken) (response rightToken)).2 := by
  obtain ⟨alike, trail⟩ := coupled.write_alike event sameEvent
  unfold recordSimulation
  dsimp only
  rw [alike]
  split
  · exact ⟨sameResponse, trail⟩
  · exact ⟨rfl, trail⟩

theorem simulateV1Contract_same
    (coupled : Coupled writer leftToken rightToken)
    (services : EnforceServices)
    (request : V1SimulateRequest)
    (now : Instant) :
    eraseSimulate (simulateV1Contract services request now writer leftToken).1 =
        eraseSimulate (simulateV1Contract services request now writer rightToken).1 ∧
      SameTrail eraseFresh (simulateV1Contract services request now writer leftToken).2
        (simulateV1Contract services request now writer rightToken).2 := by
  unfold simulateV1Contract
  split
  · exact ⟨rfl, rfl⟩
  · split
    · exact recordSimulation_same coupled (buildRejectionAuditEvent _)
        (fun token =>
          { statusCode := 200
            wouldDecision := some .deny
            error := some "forbidden"
            reason := some grantForbiddenMessage
            auditEventId := some (newEventId token) })
        rfl rfl
    · split
      · exact ⟨rfl, rfl⟩
      · split
        · exact ⟨rfl, rfl⟩
        · exact recordSimulation_same coupled (simulationEvent _ now)
            (fun token =>
              { statusCode := 200
                wouldDecision := some _
                error := _
                reason := _
                auditEventId := some (simulationEvent _ now token).eventId })
            rfl rfl

theorem delegatedEnforceV1Contract_same
    (coupled : Coupled writer leftToken rightToken)
    (services : DelegatedServices)
    (request : V1DelegatedEnforceRequest)
    (now : Instant)
    (replay : Option ReplayStore) :
    eraseEnforce (delegatedEnforceV1Contract services request now writer replay
        leftToken).response =
        eraseEnforce (delegatedEnforceV1Contract services request now writer replay
          rightToken).response ∧
      SameTrail eraseFresh
        (delegatedEnforceV1Contract services request now writer replay leftToken).writer
        (delegatedEnforceV1Contract services request now writer replay
          rightToken).writer := by
  have rejection : ∀ trustedWs reasonCode reason after,
      eraseEnforce (rejectDelegated request trustedWs now writer leftToken reasonCode reason
        after).response =
        eraseEnforce (rejectDelegated request trustedWs now writer rightToken reasonCode
          reason after).response ∧
      SameTrail eraseFresh
        (rejectDelegated request trustedWs now writer leftToken reasonCode reason
          after).writer
        (rejectDelegated request trustedWs now writer rightToken reasonCode reason
          after).writer := by
    intro trustedWs reasonCode reason after
    exact ⟨rfl,
      (coupled.write_alike (delegatedRejection request trustedWs reasonCode now) rfl).2⟩
  unfold delegatedEnforceV1Contract
  split
  · exact ⟨rfl, rfl⟩
  · split
    · exact rejection ..
    · split
      · exact ⟨rfl, rfl⟩
      · split
        · exact rejection ..
        · unfold enforceOwnedGrant
          dsimp only
          split
          · exact rejection ..
          · split
            · exact evaluateAndRecord_same coupled _
            · split
              · exact rejection ..
              · exact evaluateAndRecord_same coupled _

end IndependentDraws

/-- Draws of two mints: equal, or both fresh for the token table and ignored
by the writer. -/
def CoupledMint
    (hashKey : String → String)
    (tokens : SubjectTokenRepository)
    (writer : AuditWriter)
    (left right : MintDraws) : Prop :=
  left = right ∨
    (DecidesUpToIds writer ∧
      tokens.get? (hashKey ("vat_" ++ left.rawToken)) = none ∧
      tokens.get? (hashKey ("vat_" ++ right.rawToken)) = none)

theorem mintSubjectToken_same
    {hashKey : String → String}
    {tokens : SubjectTokenRepository}
    {writer : AuditWriter}
    {leftDraws rightDraws : MintDraws}
    (coupled : CoupledMint hashKey tokens writer leftDraws rightDraws)
    (getByRef : GrantLookup)
    (transactional : Bool)
    (request : MintRequest)
    (now : Instant) :
    eraseMint (mintSubjectToken getByRef hashKey transactional request now tokens writer
        leftDraws).result =
        eraseMint (mintSubjectToken getByRef hashKey transactional request now tokens writer
          rightDraws).result ∧
      SameTrail eraseMinted
        (mintSubjectToken getByRef hashKey transactional request now tokens writer
          leftDraws).writer
        (mintSubjectToken getByRef hashKey transactional request now tokens writer
          rightDraws).writer := by
  rcases coupled with rfl | ⟨ignoresIds, leftFresh, rightFresh⟩
  · exact ⟨rfl, rfl⟩
  · unfold mintSubjectToken
    split
    · exact ⟨rfl, rfl⟩
    · split
      · exact ⟨rfl, rfl⟩
      · split
        · have same : eraseMinted (mintRejection request now leftDraws.event) =
              eraseMinted (mintRejection request now rightDraws.event) := rfl
          exact ⟨rfl, write_same same (ignoresIds _ _ _ same)⟩
        · next grant _ =>
            have same : eraseMinted
                (mintedEvent (newToken hashKey request grant now leftDraws) now
                  leftDraws.event) =
                eraseMinted (mintedEvent (newToken hashKey request grant now rightDraws) now
                  rightDraws.event) := rfl
            have alike := ignoresIds writer.attempts _ _ same
            have trail := write_same same alike
            have sameSecret : (newToken hashKey request grant now leftDraws).popSecret.map
                  (fun _ => "") =
                (newToken hashKey request grant now rightDraws).popSecret.map
                  (fun _ => "") := by
              unfold newToken
              dsimp only
              split <;> rfl
            have sameExpiry : (newToken hashKey request grant now leftDraws).expiresAt =
                (newToken hashKey request grant now rightDraws).expiresAt := rfl
            have leftInserted : tokens.insert (newToken hashKey request grant now leftDraws) =
                .ok _ := if_neg (by simp [newToken, leftFresh])
            have rightInserted :
                tokens.insert (newToken hashKey request grant now rightDraws) = .ok _ :=
              if_neg (by simp [newToken, rightFresh])
            dsimp only
            rw [leftInserted, rightInserted]
            dsimp only
            change (writer.write _).1 = (writer.write _).1 at alike
            rw [alike]
            split
            · exact ⟨by simp [eraseMint, Except.map, sameSecret, sameExpiry], trail⟩
            · exact ⟨rfl, trail⟩

/-! ## The four endpoints -/

/-- Services whose grants differ only in foreign ones answer alike and append
alike events, at every endpoint.  For minting, a grant of the caller that is
revoked or expired is as good as absent. -/
theorem grantExistence_noninterference
    (services : DelegatedServices)
    (left right : GrantLookup)
    (transactional : Bool)
    (now : Instant)
    (writer : AuditWriter)
    (replay : Option ReplayStore)
    (tokens : SubjectTokenRepository) :
    (∀ request : V1EnforceRequest,
      AgreeOnOwned request.workspaceId request.agentId left right →
      ∀ leftToken rightToken, Coupled writer leftToken rightToken →
        let onLeft := enforceV1Contract
          (withGrants services left).toEnforceServices request now writer leftToken
        let onRight := enforceV1Contract
          (withGrants services right).toEnforceServices request now writer rightToken
        eraseEnforce onLeft.1 = eraseEnforce onRight.1 ∧
          SameTrail eraseFresh onLeft.2 onRight.2) ∧
    (∀ request : V1DelegatedEnforceRequest,
      (∀ trustedWs, services.pepWorkspaceId = some trustedWs →
        AgreeOnOwned trustedWs request.agentId left right) →
      ∀ leftToken rightToken, Coupled writer leftToken rightToken →
        let onLeft := delegatedEnforceV1Contract (withGrants services left) request now
          writer replay leftToken
        let onRight := delegatedEnforceV1Contract (withGrants services right) request now
          writer replay rightToken
        eraseEnforce onLeft.response = eraseEnforce onRight.response ∧
          SameTrail eraseFresh onLeft.writer onRight.writer) ∧
    (∀ request : V1SimulateRequest,
      AgreeOnOwned request.workspaceId request.agentId left right →
      ∀ leftToken rightToken, Coupled writer leftToken rightToken →
        let onLeft := simulateV1Contract
          (withGrants services left).toEnforceServices request now writer leftToken
        let onRight := simulateV1Contract
          (withGrants services right).toEnforceServices request now writer rightToken
        eraseSimulate onLeft.1 = eraseSimulate onRight.1 ∧
          SameTrail eraseFresh onLeft.2 onRight.2) ∧
    (∀ request : MintRequest,
      AgreeOnOwned request.workspaceId request.agentId left right ∨
        AgreeOn (isUsable request.workspaceId request.agentId now) left right →
      ∀ leftDraws rightDraws,
        CoupledMint services.hashKey tokens writer leftDraws rightDraws →
        let onLeft := mintSubjectToken left services.hashKey transactional request now
          tokens writer leftDraws
        let onRight := mintSubjectToken right services.hashKey transactional request now
          tokens writer rightDraws
        eraseMint onLeft.result = eraseMint onRight.result ∧
          SameTrail eraseMinted onLeft.writer onRight.writer) := by
  refine ⟨?_, ?_, ?_, ?_⟩
  · intro request agree leftToken rightToken coupled
    have exchanged := enforceV1Contract_agree services.toEnforceServices agree now writer
      leftToken
    change enforceV1Contract (withGrants services left).toEnforceServices _ _ _ _ =
      enforceV1Contract (withGrants services right).toEnforceServices _ _ _ _ at exchanged
    rw [exchanged]
    exact enforceV1Contract_same coupled _ request now
  · intro request agree leftToken rightToken coupled
    rw [delegatedEnforceV1Contract_agree services agree now writer replay leftToken]
    exact delegatedEnforceV1Contract_same coupled _ request now replay
  · intro request agree leftToken rightToken coupled
    have exchanged := simulateV1Contract_agree services.toEnforceServices agree now writer
      leftToken
    change simulateV1Contract (withGrants services left).toEnforceServices _ _ _ _ =
      simulateV1Contract (withGrants services right).toEnforceServices _ _ _ _ at exchanged
    rw [exchanged]
    exact simulateV1Contract_same coupled _ request now
  · intro request agree leftDraws rightDraws coupled
    have usable : AgreeOn (isUsable request.workspaceId request.agentId now) left right :=
      agree.elim (fun owned => owned.usable now) id
    rw [mintSubjectToken_agree services.hashKey transactional usable tokens writer
      leftDraws]
    exact mintSubjectToken_same coupled right transactional request now

/-- A lookup that knows no grant. -/
def unknownGrant : GrantLookup := fun _ => .ok none

/-- A lookup that knows one grant. -/
def singleGrant (grant : Grant) : GrantLookup := fun grantRef =>
  .ok (if grantRef = grant.grantRef then some grant else none)

/-- A grant of another agent, and one of the caller past its expiry. -/
def foreignGrant : Grant where
  grantId := "grn_1"
  grantRef := "grt_1"
  workspaceId := "ws_other"
  agentId := "agent_b"
  scopes := ["read:file/a"]
  status := .active

def expiredGrant : Grant where
  grantId := "grn_1"
  grantRef := "grt_1"
  workspaceId := "ws"
  agentId := "agent_a"
  scopes := ["read:file/a"]
  status := .active
  expiresAt := some 0

/-- The SHA-256 digests of the two raw tokens below. -/
def sampleHashKey (text : String) : String :=
  if text = "vat_r1" then
    "84cebd0d2cd0b301d1a0daf3ddd9fe58c12237af63f2f71841c88b4da49980e5"
  else if text = "vat_r2" then
    "f53a9b8c1bded8b6c0787ffd922ea303eac88b6655bea6806cb25d6e5069c3c3"
  else ""

theorem agreeOn_unknown_single
    {keep : Grant → Bool}
    {grant : Grant}
    (hidden : keep grant = false) :
    AgreeOn keep unknownGrant (singleGrant grant) := by
  intro grantRef
  unfold unknownGrant singleGrant
  split
  · simp [Except.map, Option.filter, hidden]
  · rfl

def sampleServices : DelegatedServices where
  getByRef := unknownGrant
  pepWorkspaceId := some "ws"
  hashKey := sampleHashKey
  hmac := fun _ _ => []

def sampleProbe : V1EnforceRequest where
  workspaceId := "ws"
  agentId := "agent_a"
  grantRef := "grt_1"
  action := "read"
  resource := "file/a"

def sampleMint : MintRequest where
  workspaceId := "ws"
  agentId := "agent_a"
  grantRef := "grt_1"
  audience := "pep"
  ttlSeconds := 60

/-- Probing an absent reference and a foreign one, and minting from an absent
reference and an expired grant, with independent draws. -/
theorem noninterference_absent_foreign :
    eraseEnforce (enforceV1Contract
        (withGrants sampleServices unknownGrant).toEnforceServices sampleProbe 5
        AuditWriter.inMemory "a").1 =
      eraseEnforce (enforceV1Contract
        (withGrants sampleServices (singleGrant foreignGrant)).toEnforceServices sampleProbe
        5 AuditWriter.inMemory "b").1 ∧
    eraseMint (mintSubjectToken unknownGrant sampleHashKey false sampleMint 5 Dict.empty
        AuditWriter.inMemory ⟨"r1", "t1", "p1", "e1"⟩).result =
      eraseMint (mintSubjectToken (singleGrant expiredGrant) sampleHashKey false sampleMint
        5 Dict.empty AuditWriter.inMemory ⟨"r2", "t2", "p2", "e2"⟩).result := by
  have ignoresIds : DecidesUpToIds AuditWriter.inMemory := fun _ _ _ _ => rfl
  constructor
  · exact ((grantExistence_noninterference sampleServices unknownGrant
      (singleGrant foreignGrant) false 5 AuditWriter.inMemory none Dict.empty).1 sampleProbe
      (agreeOn_unknown_single (by decide)) "a" "b" (Or.inr ignoresIds)).1
  · exact ((grantExistence_noninterference sampleServices unknownGrant
      (singleGrant expiredGrant) false 5 AuditWriter.inMemory none Dict.empty).2.2.2
      sampleMint (Or.inr (agreeOn_unknown_single (by decide))) ⟨"r1", "t1", "p1", "e1"⟩
      ⟨"r2", "t2", "p2", "e2"⟩ (Or.inr ⟨ignoresIds, rfl, rfl⟩)).1

end NonInterference
end Vinctor
