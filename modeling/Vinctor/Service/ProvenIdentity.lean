import Mathlib.Data.List.Pairwise
import Vinctor.Service.NonInterference
import Vinctor.Service.TokenRuns

/-!
# Proven identity comes from minted tokens

An event that claims a proven identity goes back to a token minted earlier in
the run, for the same workspace, agent and grant, while the grant was valid.
The invariant accounts for the stored tokens: each was minted, and of each
revoked identifier a revoked token is stored.

Identifiers of tokens are drawn at random.  The repository finds a token to
revoke by its identifier, so that a revocation of the token of an event is only
excluded when no two mints drew the same one.
-/

namespace Vinctor
namespace InMemory

open Foundation
open Audit
open SubjectTokens
open V1
open Pop

/-- One executed operation, token revocations included. -/
abbrev TokenStep := Executed Service TokenOperation TokenReply

/-- The step minted a token from a valid grant of the caller, and answered
it. -/
structure MintedAs
    (hashKey : String → String)
    (minting : TokenStep)
    (request : MintRequest)
    (mintedAt : Instant)
    (draws : MintDraws)
    (grant : Grant) : Prop where
  operation : minting.operation = .service (.mintSubjectToken request mintedAt draws)
  answered : ∃ result, minting.reply = .service (.mint (.ok result)) ∧
    result.status = .minted ∧
    result.tokenId = some (newToken hashKey request grant mintedAt draws).tokenId ∧
    result.expiresAt = some (newToken hashKey request grant mintedAt draws).expiresAt
  known : minting.before.grants.get? request.grantRef = some grant
  usable : isUsable request.workspaceId request.agentId mintedAt grant = true
  paired : request.boundAction.isNone = request.boundResource.isNone

/-- The step revoked a token of the identifier, and said so. -/
def RevokesToken (executed : TokenStep) (tokenId : String) : Prop :=
  (∃ now, executed.operation = .revokeSubjectToken tokenId now) ∧
    executed.reply = .revoked true

/-- The identifier that an operation draws for a token. -/
def drawnTokenId : TokenOperation → Option Token
  | .service (.mintSubjectToken _ _ draws) => some draws.tokenId
  | _ => none

/-! ## What one operation does to the tokens -/

/-- The tokens after an operation: as before, with one minted token, or with
one token revoked. -/
inductive TokenChange (hashKey : String → String) (executed : TokenStep) :
    SubjectTokenRepository → Prop
  | unchanged (quiet : ∀ tokenId, ¬ RevokesToken executed tokenId) :
      TokenChange hashKey executed executed.before.tokens
  | minted
      (request : MintRequest)
      (mintedAt : Instant)
      (draws : MintDraws)
      (grant : Grant)
      (minting : MintedAs hashKey executed request mintedAt draws grant)
      (fresh : executed.before.tokens.get? (hashKey ("vat_" ++ draws.rawToken)) = none) :
      TokenChange hashKey executed
        (executed.before.tokens.set (hashKey ("vat_" ++ draws.rawToken))
          (newToken hashKey request grant mintedAt draws))
  | revoked
      (tokenHash : String)
      (token : SubjectToken)
      (now : Instant)
      (present : executed.before.tokens.get? tokenHash = some token)
      (only : ∀ tokenId, RevokesToken executed tokenId → tokenId = token.tokenId) :
      TokenChange hashKey executed
        (executed.before.tokens.set tokenHash { token with revokedAt := some now })

/-- An operation of the service revokes no token. -/
theorem not_revokesToken_service
    {executed : TokenStep}
    {operation : Operation}
    (served : executed.operation = .service operation)
    (tokenId : String) :
    ¬ RevokesToken executed tokenId := by
  rintro ⟨⟨now, revoking⟩, -⟩
  rw [served] at revoking
  contradiction

/-- A token that is found by its identifier is stored under its hash. -/
theorem get?_of_findById
    {tokens : SubjectTokenRepository}
    {tokenId tokenHash : String}
    {token : SubjectToken}
    (found : tokens.findById tokenId = some (tokenHash, token)) :
    tokens.get? tokenHash = some token ∧ token.tokenId = tokenId := by
  unfold SubjectTokenRepository.findById at found
  refine ⟨?_, by simpa using List.find?_some found⟩
  rw [Dict.get?_eq_some_iff]
  exact List.mem_of_find?_eq_some found

section Steps

variable (hashKey : String → String) (hmac : KeyedHash)

theorem mintSubjectToken_change
    (service : Service)
    (request : MintRequest)
    (now : Instant)
    (draws : MintDraws) :
    TokenChange hashKey
      ((tokenMachine hashKey hmac).execute
        (.service (.mintSubjectToken request now draws)) service)
      (step hashKey hmac (.mintSubjectToken request now draws) service).2.tokens := by
  simp only [step]
  rcases mintSubjectToken_cases service.grants.lookup hashKey false request now service.tokens
      service.writer_reliable draws with
    unchanged | ⟨grant, found, usable, paired, fresh, inserted, answered⟩
  · rw [unchanged]
    exact .unchanged (not_revokesToken_service rfl)
  · rw [inserted]
    refine .minted request now draws grant ?_ fresh
    exact
      { operation := rfl
        answered :=
          ⟨_, congrArg (fun result => TokenReply.service (.mint result)) answered, rfl, rfl,
            rfl⟩
        known := Except.ok.inj found
        usable := usable
        paired := paired }

theorem revokeSubjectToken_change
    (service : Service)
    (tokenId : String)
    (now : Instant) :
    TokenChange hashKey
      ((tokenMachine hashKey hmac).execute (.revokeSubjectToken tokenId now) service)
      (service.tokens.revoke tokenId now).2 := by
  set executed :=
    (tokenMachine hashKey hmac).execute (.revokeSubjectToken tokenId now) service
  have reply : executed.reply = .revoked (service.tokens.revoke tokenId now).1 := rfl
  unfold SubjectTokenRepository.revoke at reply ⊢
  cases found : service.tokens.findById tokenId with
  | none =>
      rw [found] at reply
      refine .unchanged ?_
      rintro other ⟨-, answered⟩
      rw [reply] at answered
      simp at answered
  | some entry =>
      obtain ⟨tokenHash, token⟩ := entry
      obtain ⟨present, named⟩ := get?_of_findById found
      refine .revoked tokenHash token now present ?_
      rintro other ⟨⟨otherNow, operation⟩, -⟩
      have same : TokenOperation.revokeSubjectToken tokenId now =
        .revokeSubjectToken other otherNow := operation
      rw [TokenOperation.revokeSubjectToken.injEq] at same
      rw [named, same.1]

/-- Every operation changes the tokens in one of the three ways. -/
theorem tokenStep_change (operation : TokenOperation) (service : Service) :
    TokenChange hashKey ((tokenMachine hashKey hmac).execute operation service)
      (tokenStep hashKey hmac operation service).2.tokens := by
  cases operation with
  | revokeSubjectToken tokenId now =>
      exact revokeSubjectToken_change hashKey hmac service tokenId now
  | service operation =>
      by_cases minting : ∃ request now draws, operation = .mintSubjectToken request now draws
      · obtain ⟨request, now, draws, rfl⟩ := minting
        exact mintSubjectToken_change hashKey hmac service request now draws
      · push Not at minting
        have same := step_tokens hashKey hmac minting service
        simp only [tokenStep]
        rw [same]
        exact .unchanged (not_revokesToken_service rfl)

end Steps

/-! ## The stored tokens -/

/-- The stored tokens are accounted for by the history. -/
structure TokensAccounted
    (hashKey : String → String)
    (history : List TokenStep)
    (service : Service) : Prop where
  origin : ∀ tokenHash token, service.tokens.get? tokenHash = some token →
    ∃ minting ∈ history, ∃ request mintedAt draws grant,
      MintedAs hashKey minting request mintedAt draws grant ∧
      tokenHash = hashKey ("vat_" ++ draws.rawToken) ∧
      token = { newToken hashKey request grant mintedAt draws with
        revokedAt := token.revokedAt }
  revoked : ∀ revoking ∈ history, ∀ tokenId, RevokesToken revoking tokenId →
    ∃ tokenHash token, service.tokens.get? tokenHash = some token ∧
      token.tokenId = tokenId ∧ token.revokedAt ≠ none

theorem tokensAccounted_nil
    (hashKey : String → String)
    {service : Service}
    (noTokens : service.tokens = Dict.empty) :
    TokensAccounted hashKey [] service := by
  constructor
  · intro tokenHash token present
    rw [noTokens, Dict.get?_empty] at present
    contradiction
  · simp

/-- The account of the tokens survives every change of them. -/
theorem TokensAccounted.change
    {hashKey : String → String}
    {history : List TokenStep}
    {executed : TokenStep}
    (accounted : TokensAccounted hashKey history executed.before)
    {after : Service}
    (change : TokenChange hashKey executed after.tokens) :
    TokensAccounted hashKey (history ++ [executed]) after := by
  have earlier : ∀ tokenHash token, executed.before.tokens.get? tokenHash = some token →
      ∃ minting ∈ history ++ [executed], ∃ request mintedAt draws grant,
        MintedAs hashKey minting request mintedAt draws grant ∧
        tokenHash = hashKey ("vat_" ++ draws.rawToken) ∧
        token = { newToken hashKey request grant mintedAt draws with
          revokedAt := token.revokedAt } := by
    intro tokenHash token present
    obtain ⟨minting, member, rest⟩ := accounted.origin tokenHash token present
    exact ⟨minting, List.mem_append_left _ member, rest⟩
  generalize isTokens : after.tokens = tokens at change
  cases change with
  | unchanged quiet =>
      constructor
      · rw [isTokens]
        exact earlier
      · intro revoking member tokenId revokes
        rw [isTokens]
        rcases List.mem_append.mp member with old | new
        · exact accounted.revoked revoking old tokenId revokes
        · rw [List.mem_singleton.mp new] at revokes
          exact absurd revokes (quiet tokenId)
  | minted request mintedAt draws grant minting fresh =>
      constructor
      · intro tokenHash token present
        rw [isTokens, Dict.get?_set] at present
        split_ifs at present with same
        · cases present
          exact ⟨executed, by simp, request, mintedAt, draws, grant, minting, same, rfl⟩
        · exact earlier tokenHash token present
      · intro revoking member tokenId revokes
        rcases List.mem_append.mp member with old | new
        · obtain ⟨tokenHash, token, present, named, revoked⟩ :=
            accounted.revoked revoking old tokenId revokes
          refine ⟨tokenHash, token, ?_, named, revoked⟩
          rw [isTokens, Dict.get?_set_of_ne _ _ ?_, present]
          rintro rfl
          rw [fresh] at present
          contradiction
        · rw [List.mem_singleton.mp new] at revokes
          exact absurd revokes (not_revokesToken_service minting.operation tokenId)
  | revoked revokedHash revokedToken now present only =>
      constructor
      · intro tokenHash token stored
        rw [isTokens, Dict.get?_set] at stored
        split_ifs at stored with same
        · cases stored
          obtain ⟨minting, member, request, mintedAt, draws, grant, mintedAs, hash, identity⟩ :=
            earlier revokedHash revokedToken present
          refine ⟨minting, member, request, mintedAt, draws, grant, mintedAs,
            same.trans hash, ?_⟩
          rw [identity]
        · exact earlier tokenHash token stored
      · intro revoking member tokenId revokes
        rw [isTokens]
        rcases List.mem_append.mp member with old | new
        · obtain ⟨tokenHash, token, stored, named, revoked⟩ :=
            accounted.revoked revoking old tokenId revokes
          by_cases same : tokenHash = revokedHash
          · subst same
            rw [present, Option.some.injEq] at stored
            subst stored
            exact ⟨tokenHash, _, Dict.get?_set_self .., named, by simp⟩
          · exact ⟨tokenHash, token, by rw [Dict.get?_set_of_ne _ _ same, stored], named,
              revoked⟩
        · rw [List.mem_singleton.mp new] at revokes
          exact ⟨revokedHash, _, Dict.get?_set_self .., (only tokenId revokes).symm, by simp⟩

/-! ## The proven events -/

/-- The step minted the token of an event: for the event's workspace, agent,
grant and enforcement point, from a grant that was valid then. -/
structure MintedFor
    (minting : TokenStep)
    (request : MintRequest)
    (mintedAt : Instant)
    (grant : Grant)
    (expiresAt : Instant)
    (event : AuditEvent)
    (tokenId : String) : Prop where
  operation : ∃ draws, minting.operation = .service (.mintSubjectToken request mintedAt draws)
  answered : ∃ result, minting.reply = .service (.mint (.ok result)) ∧
    result.status = .minted ∧ result.tokenId = some tokenId ∧
    result.expiresAt = some expiresAt
  workspace : request.workspaceId = event.workspaceId
  agent : request.agentId = event.agentId
  grantRef : request.grantRef = event.grantRef
  known : minting.before.grants.get? request.grantRef = some grant
  owned : grant.workspaceId = event.workspaceId ∧ grant.agentId = event.agentId
  valid : grantIsValid grant mintedAt = true
  audience : event.enforcingPrincipal = some request.audience
  binding :
    (request.boundAction = none ∧ request.boundResource = none) ∨
      (request.boundAction = some event.action ∧ request.boundResource = some event.resource)
  unexpired : event.createdAt < expiresAt
  capped : ∀ grantExpiry, grant.expiresAt = some grantExpiry → expiresAt ≤ grantExpiry

theorem newToken_expiresAt_le
    (hashKey : String → String)
    (request : MintRequest)
    {grant : Grant}
    {grantExpiry : Instant}
    (expires : grant.expiresAt = some grantExpiry)
    (now : Instant)
    (draws : MintDraws) :
    (newToken hashKey request grant now draws).expiresAt ≤ grantExpiry := by
  unfold newToken
  rw [expires]
  dsimp only
  split
  · exact le_refl grantExpiry
  · next reached => exact not_lt.mp reached

/-- A pair of bindings, each absent or equal to what the event says. -/
theorem binding_cases
    {boundAction boundResource : Option String}
    {action resource : String}
    (paired : boundAction.isNone = boundResource.isNone)
    (actionAgrees : ∀ bound, boundAction = some bound → bound = action)
    (resourceAgrees : ∀ bound, boundResource = some bound → bound = resource) :
    (boundAction = none ∧ boundResource = none) ∨
      (boundAction = some action ∧ boundResource = some resource) := by
  cases boundAction with
  | none =>
      cases boundResource with
      | none => exact Or.inl ⟨rfl, rfl⟩
      | some bound => simp at paired
  | some bound =>
      cases boundResource with
      | none => simp at paired
      | some other =>
          rw [actionAgrees bound rfl, resourceAgrees other rfl]
          exact Or.inr ⟨rfl, rfl⟩

theorem MintedAs.mintedFor
    {hashKey : String → String}
    {minting : TokenStep}
    {mintRequest : MintRequest}
    {mintedAt : Instant}
    {draws : MintDraws}
    {grant : Grant}
    (mintedAs : MintedAs hashKey minting mintRequest mintedAt draws grant)
    {token : SubjectToken}
    (identity : token = { newToken hashKey mintRequest grant mintedAt draws with
      revokedAt := token.revokedAt })
    {services : DelegatedServices}
    {request : V1DelegatedEnforceRequest}
    {now : Instant}
    {event : AuditEvent}
    (proven : ProvenBy services request now token event) :
    MintedFor minting mintRequest mintedAt grant token.expiresAt event token.tokenId := by
  have usable := mintedAs.usable
  unfold isUsable at usable
  simp only [Bool.and_eq_true, decide_eq_true_eq] at usable
  obtain ⟨⟨ownAgent, ownWorkspace⟩, valid⟩ := usable
  have workspace : mintRequest.workspaceId = event.workspaceId := by
    rw [proven.workspace, identity]
    rfl
  have agent : mintRequest.agentId = event.agentId := by
    rw [proven.agent, identity]
    rfl
  exact
    { operation := ⟨draws, mintedAs.operation⟩
      answered := by
        rw [identity]
        exact mintedAs.answered
      workspace := workspace
      agent := agent
      grantRef := by
        rw [proven.grantRef, identity]
        rfl
      known := mintedAs.known
      owned := ⟨ownWorkspace.trans workspace, ownAgent.trans agent⟩
      valid := valid
      audience := by
        rw [proven.audience, identity]
        rfl
      binding := by
        apply binding_cases mintedAs.paired
        · intro bound binds
          apply proven.boundAction
          rw [identity]
          exact binds
        · intro bound binds
          apply proven.boundResource
          rw [identity]
          exact binds
      unexpired := by
        rw [proven.createdAt]
        exact proven.unexpired
      capped := by
        intro grantExpiry expires
        rw [identity]
        exact newToken_expiresAt_le hashKey mintRequest expires mintedAt draws }

/-- Where a proven event comes from: an enforcement at its time, and a mint
before it of a token that was not revoked. -/
structure ProvenIdentity
    (earlier : List TokenStep)
    (enforcing : TokenStep)
    (event : AuditEvent)
    (tokenId : String) : Prop where
  enforced : ∃ request pepWorkspaceId popSkewSeconds token, enforcing.operation =
    .service (.delegatedEnforce request event.createdAt pepWorkspaceId popSkewSeconds token)
  minted : ∃ minting ∈ earlier, ∃ request mintedAt grant expiresAt,
    MintedFor minting request mintedAt grant expiresAt event tokenId
  live : ∃ tokenHash token, enforcing.before.tokens.get? tokenHash = some token ∧
    token.tokenId = tokenId ∧ token.revokedAt = none
  unrevoked : (earlier.filterMap fun step => drawnTokenId step.operation).Nodup →
    ∀ revoking ∈ earlier, ¬ RevokesToken revoking tokenId

/-- Two members that draw the same value from a list without repeated draws are
one. -/
theorem eq_of_nodup_filterMap
    {draw : α → Option β}
    {members : List α}
    (distinct : (members.filterMap draw).Nodup)
    {left right : α}
    (leftMember : left ∈ members)
    (rightMember : right ∈ members)
    {value : β}
    (leftDraws : draw left = some value)
    (rightDraws : draw right = some value) :
    left = right := by
  by_contra different
  have symmetric : Std.Symm fun first second : α => ∀ value, draw first = some value →
      ∀ other, draw second = some other → value ≠ other :=
    ⟨fun _ _ apart value drawn other otherDrawn =>
      (apart other otherDrawn value drawn).symm⟩
  have apart := (List.pairwise_filterMap.mp distinct).forall leftMember rightMember different
  exact apart value leftDraws value rightDraws rfl

/-- While no two mints draw the same identifier, a token that is not revoked
has an identifier that was not revoked. -/
theorem TokensAccounted.unrevoked
    {hashKey : String → String}
    {history : List TokenStep}
    {service : Service}
    (accounted : TokensAccounted hashKey history service)
    (distinct : (history.filterMap fun step => drawnTokenId step.operation).Nodup)
    {tokenHash : String}
    {token : SubjectToken}
    (present : service.tokens.get? tokenHash = some token)
    (live : token.revokedAt = none)
    {revoking : TokenStep}
    (member : revoking ∈ history) :
    ¬ RevokesToken revoking token.tokenId := by
  intro revokes
  obtain ⟨otherHash, other, otherPresent, named, revoked⟩ :=
    accounted.revoked revoking member token.tokenId revokes
  obtain ⟨minting, minted, request, mintedAt, draws, grant, mintedAs, hash, identity⟩ :=
    accounted.origin tokenHash token present
  obtain ⟨otherMinting, otherMinted, otherRequest, otherMintedAt, otherDraws, otherGrant,
    otherMintedAs, otherHashed, otherIdentity⟩ :=
    accounted.origin otherHash other otherPresent
  rw [identity, otherIdentity] at named
  have sameDraw : otherDraws.tokenId = draws.tokenId := by
    change "vtk_" ++ otherDraws.tokenId = "vtk_" ++ draws.tokenId at named
    exact String.append_right_inj "vtk_" |>.mp named
  have sameStep : minting = otherMinting := by
    apply @eq_of_nodup_filterMap _ _ (fun step => drawnTokenId step.operation) history
      distinct minting otherMinting minted otherMinted draws.tokenId
    · simp only [mintedAs.operation, drawnTokenId]
    · simp only [otherMintedAs.operation, drawnTokenId, sameDraw]
  subst sameStep
  have sameOperation := mintedAs.operation.symm.trans otherMintedAs.operation
  simp only [TokenOperation.service.injEq, Operation.mintSubjectToken.injEq] at sameOperation
  obtain ⟨-, -, rfl⟩ := sameOperation
  rw [otherHashed, ← hash, present, Option.some.injEq] at otherPresent
  subst otherPresent
  exact revoked live

/-- Every proven event of the trail has its origin in the history. -/
def EventsProven (history : List TokenStep) (service : Service) : Prop :=
  ∀ event ∈ service.writer.events, event.subjectTokenVerified = true →
    ∀ tokenId, event.tokenId = some tokenId →
      ∃ earlier enforcing later, history = earlier ++ enforcing :: later ∧
        ProvenIdentity earlier enforcing event tokenId

section Steps

variable (hashKey : String → String) (hmac : KeyedHash)

/-- An operation leaves unproven events, or it is a delegated enforcement whose
events a token proves. -/
theorem tokenStep_adds (operation : TokenOperation) (service : Service) :
    service.writer.Adds Unproven (tokenStep hashKey hmac operation service).2.writer ∨
    ∃ request now pepWorkspaceId popSkewSeconds token,
      operation = .service (.delegatedEnforce request now pepWorkspaceId popSkewSeconds token) ∧
      service.writer.Adds
        (ProvenOrUnproven
          (service.delegatedServices hashKey hmac pepWorkspaceId popSkewSeconds) request now)
        (tokenStep hashKey hmac operation service).2.writer := by
  cases operation with
  | revokeSubjectToken tokenId now => exact Or.inl (AuditWriter.Adds.refl _ _)
  | service operation =>
      by_cases delegated : ∃ request now pepWorkspaceId popSkewSeconds token,
          operation = .delegatedEnforce request now pepWorkspaceId popSkewSeconds token
      · obtain ⟨request, now, pepWorkspaceId, popSkewSeconds, token, rfl⟩ := delegated
        refine Or.inr ⟨request, now, pepWorkspaceId, popSkewSeconds, token, rfl, ?_⟩
        exact delegatedEnforceV1Contract_proven
          (service.delegatedServices hashKey hmac pepWorkspaceId popSkewSeconds) request now
          service.writer (some (.process service.popReplay)) token
      · push Not at delegated
        exact Or.inl (step_unproven hashKey hmac delegated service)

/-- An event proven at a step has its origin in the history before the step. -/
theorem provenIdentity_of_provenBy
    {history : List TokenStep}
    {service : Service}
    (accounted : TokensAccounted hashKey history service)
    {request : V1DelegatedEnforceRequest}
    {now : Instant}
    {pepWorkspaceId : Option String}
    {popSkewSeconds : Int}
    {eventToken : Token}
    {enforcing : TokenStep}
    (before : enforcing.before = service)
    (operation : enforcing.operation =
      .service (.delegatedEnforce request now pepWorkspaceId popSkewSeconds eventToken))
    {token : SubjectToken}
    {event : AuditEvent}
    (proven : ProvenBy
      (service.delegatedServices hashKey hmac pepWorkspaceId popSkewSeconds) request now token
      event) :
    ProvenIdentity history enforcing event token.tokenId := by
  obtain ⟨subjectToken, -, found⟩ := proven.presented
  have present : service.tokens.get? (hashKey subjectToken) = some token := found
  obtain ⟨minting, member, mintRequest, mintedAt, draws, grant, mintedAs, -, identity⟩ :=
    accounted.origin _ token present
  exact
    { enforced := by
        rw [proven.createdAt]
        exact ⟨request, pepWorkspaceId, popSkewSeconds, eventToken, operation⟩
      minted := ⟨minting, member, mintRequest, mintedAt, grant, token.expiresAt,
        mintedAs.mintedFor identity proven⟩
      live := by
        rw [before]
        exact ⟨hashKey subjectToken, token, present, rfl, proven.unrevoked⟩
      unrevoked := by
        intro distinct revoking revokingMember
        exact accounted.unrevoked distinct present proven.unrevoked revokingMember }

theorem eventsProven_step
    {history : List TokenStep}
    {service : Service}
    (accounted : TokensAccounted hashKey history service)
    (proven : EventsProven history service)
    (operation : TokenOperation) :
    EventsProven (history ++ [(tokenMachine hashKey hmac).execute operation service])
      (tokenStep hashKey hmac operation service).2 := by
  intro event recorded verified tokenId named
  have earlier : event ∈ service.writer.events →
      ∃ earlier enforcing later,
        history ++ [(tokenMachine hashKey hmac).execute operation service] =
          earlier ++ enforcing :: later ∧
        ProvenIdentity earlier enforcing event tokenId := by
    intro old
    obtain ⟨earlier, enforcing, later, position, identity⟩ :=
      proven event old verified tokenId named
    refine ⟨earlier, enforcing,
      later ++ [(tokenMachine hashKey hmac).execute operation service], ?_, identity⟩
    rw [position, List.append_assoc, List.cons_append]
  rcases tokenStep_adds hashKey hmac operation service with
    adds | ⟨request, now, pepWorkspaceId, popSkewSeconds, eventToken, delegated, adds⟩
  · rcases adds.mem_events recorded with old | unproven
    · exact earlier old
    · rw [unproven] at verified
      contradiction
  · rcases adds.mem_events recorded with old | unproven | ⟨token, provenBy⟩
    · exact earlier old
    · rw [unproven] at verified
      contradiction
    · have isToken : token.tokenId = tokenId := by
        rw [provenBy.tokenId, Option.some.injEq] at named
        exact named
      rw [← isToken]
      exact ⟨history, _, [], rfl,
        provenIdentity_of_provenBy hashKey hmac accounted rfl delegated provenBy⟩

/-- Tokens and events together, along one operation. -/
theorem provenance_step
    (history : List TokenStep)
    (service : Service)
    (operation : TokenOperation)
    (holds : TokensAccounted hashKey history service ∧ EventsProven history service) :
    TokensAccounted hashKey
        (history ++ [(tokenMachine hashKey hmac).execute operation service])
        ((tokenMachine hashKey hmac).step operation service).2 ∧
      EventsProven (history ++ [(tokenMachine hashKey hmac).execute operation service])
        ((tokenMachine hashKey hmac).step operation service).2 := by
  constructor
  · have accounted : TokensAccounted hashKey history
        ((tokenMachine hashKey hmac).execute operation service).before := holds.1
    exact accounted.change (tokenStep_change hashKey hmac operation service)
  · exact eventsProven_step hashKey hmac holds.1 holds.2 operation

end Steps

/-- In every run of a service that starts without tokens and events, an event
that claims a proven identity was written by a delegated enforcement at its
time, and its token was minted before, as the event says, and not revoked
since. -/
theorem proven_events_come_from_minted_tokens
    {hashKey : String → String}
    {hmac : KeyedHash}
    {service : Service}
    (noTokens : service.tokens = Dict.empty)
    (noEvents : service.attempts = [])
    (operations : List TokenOperation)
    {event : AuditEvent}
    (recorded :
      event ∈ ((tokenMachine hashKey hmac).final service operations).writer.events)
    (verified : event.subjectTokenVerified = true)
    {tokenId : String}
    (named : event.tokenId = some tokenId) :
    ∃ earlier enforcing later,
      (tokenMachine hashKey hmac).executions service operations =
        earlier ++ enforcing :: later ∧
      ProvenIdentity earlier enforcing event tokenId := by
  have start : TokensAccounted hashKey [] service ∧ EventsProven [] service := by
    refine ⟨tokensAccounted_nil hashKey noTokens, ?_⟩
    intro event recorded
    unfold Service.writer AuditWriter.events at recorded
    simp [noEvents, AuditWriter.appendedEvents] at recorded
  have reached := (tokenMachine hashKey hmac).final_invariant
    (@provenance_step hashKey hmac) start operations
  rw [List.nil_append] at reached
  exact reached.2 event recorded verified tokenId named

def tokenGrant : Grant where
  grantId := "grn_1"
  grantRef := "grt_1"
  workspaceId := "ws"
  agentId := "agent_a"
  scopes := ["read:file/a"]
  status := .active
  expiresAt := some 100

/-- A service with one grant. -/
def serviceWithGrant : Service where
  grants := Dict.empty.set "grt_1" tokenGrant
  popReplay := { seen := Dict.empty, maxEntries := 100000, maxPerToken := 10000 }

/-- Mint a token, enforce with it, revoke it. -/
def tokenOperations : List TokenOperation :=
  [.service (.mintSubjectToken NonInterference.sampleMint 1 ⟨"r1", "t1", "p1", "e1"⟩),
    .service (.delegatedEnforce
      { pepId := "pep", workspaceId := "ws", agentId := "agent_a", grantRef := "grt_1"
        action := "read", resource := "file/a", subjectToken := some "vat_r1" }
      5 (some "ws") 30 "e2"),
    .revokeSubjectToken "vtk_t1" 6]

/-- The event that the enforcement leaves. -/
def tokenEvent : AuditEvent where
  eventId := "evt_e2"
  eventType := "action_permitted"
  decision := .permit
  reason := "permitted"
  workspaceId := "ws"
  agentId := "agent_a"
  grantId := "grn_1"
  grantRef := "grt_1"
  action := "read"
  resource := "file/a"
  scopeAttempted := "read:file/a"
  scopeMatched := some "read:file/a"
  boundaryId := none
  runtime := none
  boundaryType := none
  createdAt := 5
  enforcingPrincipal := some "pep"
  subjectTokenVerified := true
  tokenId := some "vtk_t1"

/-- A run whose event claims a proven identity. -/
theorem token_event_comes_from_mint :
    tokenEvent ∈ ((tokenMachine NonInterference.sampleHashKey (fun _ _ => [])).final
        serviceWithGrant tokenOperations).writer.events ∧
      ∃ earlier enforcing later,
        (tokenMachine NonInterference.sampleHashKey (fun _ _ => [])).executions
          serviceWithGrant tokenOperations = earlier ++ enforcing :: later ∧
        ProvenIdentity earlier enforcing tokenEvent "vtk_t1" := by
  have recorded : tokenEvent ∈ ((tokenMachine NonInterference.sampleHashKey
      (fun _ _ => [])).final serviceWithGrant tokenOperations).writer.events := by
    decide +kernel
  exact ⟨recorded, proven_events_come_from_minted_tokens rfl rfl tokenOperations recorded rfl
    rfl⟩

end InMemory
end Vinctor
