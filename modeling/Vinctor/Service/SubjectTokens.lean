import Vinctor.Service.Audit
import Vinctor.Service.Repositories

/-!
# Minting of subject tokens

A token is minted for a usable grant of the caller.  Every other reference is
refused with one answer and one audit event, built from the request alone.
-/

namespace Vinctor
namespace SubjectTokens

open Audit

inductive MintStatus
  | minted
  | forbidden
  deriving DecidableEq, Repr

structure SubjectTokenMintResult where
  status : MintStatus
  token : Option String := none
  tokenId : Option String := none
  expiresAt : Option Instant := none
  popSecret : Option String := none
  deriving DecidableEq, Repr

structure MintRequest where
  workspaceId : String
  agentId : String
  grantRef : String
  audience : String
  ttlSeconds : Int
  boundAction : Option String := none
  boundResource : Option String := none
  pop : Bool := false
  deriving DecidableEq, Repr

/-- Random values of one call: raw token, token identifier, secret, event. -/
structure MintDraws where
  rawToken : Token
  tokenId : Token
  popSecret : Token
  event : Token
  deriving DecidableEq, Repr

/-- Exceptions that leave the function. -/
inductive MintError
  | halfBinding
  | lookupFailed
  | duplicateToken (text : String)
  | auditFailed
  deriving DecidableEq, Repr

/-- The grant is active and not past its expiry. -/
def grantIsValid (grant : Grant) (now : Instant) : Bool :=
  decide (grant.status = .active) &&
    !grant.expiresAt.any (fun expiry => decide (expiry ≤ now))

/-- The caller's own grant, and valid. -/
def isUsable (workspaceId agentId : String) (now : Instant) (grant : Grant) : Bool :=
  decide (grant.agentId = agentId) && decide (grant.workspaceId = workspaceId) &&
    grantIsValid grant now

def mintedEvent (token : SubjectToken) (now : Instant) (event : Token) : AuditEvent where
  eventId := newEventId event
  eventType := EventType.subjectTokenMinted.code
  decision := .permit
  reason := EventType.subjectTokenMinted.code
  workspaceId := token.workspaceId
  agentId := token.agentId
  grantId := ""
  grantRef := token.grantRef
  action := ""
  resource := ""
  scopeAttempted := ""
  scopeMatched := none
  boundaryId := none
  runtime := none
  boundaryType := none
  createdAt := now
  tokenId := some token.tokenId

def mintRejection (request : MintRequest) (now : Instant) (event : Token) : AuditEvent :=
  buildRejectionAuditEvent
    { reasonCode := .agentGrantMismatch
      workspaceId := request.workspaceId
      agentId := request.agentId
      createdAt := now
      action := "mint_subject_token"
      resource := "audience/" ++ request.audience
      scopeAttempted := some
        (match request.boundAction, request.boundResource with
        | some action, some resource => action ++ ":" ++ resource
        | some action, none => action ++ ":None"
        | none, _ => "") }
    event

/-- The token record of a mint: it never outlives its grant. -/
def newToken
    (hashKey : String → String)
    (request : MintRequest)
    (grant : Grant)
    (now : Instant)
    (draws : MintDraws) : SubjectToken :=
  let expiresAt := now + seconds request.ttlSeconds
  { tokenId := "vtk_" ++ draws.tokenId
    tokenHash := hashKey ("vat_" ++ draws.rawToken)
    workspaceId := request.workspaceId
    agentId := request.agentId
    grantRef := request.grantRef
    audience := request.audience
    issuedAt := now
    expiresAt :=
      match grant.expiresAt with
      | some grantExpiry => if grantExpiry < expiresAt then grantExpiry else expiresAt
      | none => expiresAt
    createdBy := request.agentId
    boundAction := request.boundAction
    boundResource := request.boundResource
    popSecret := if request.pop then some draws.popSecret else none }

structure MintOutcome where
  result : Except MintError SubjectTokenMintResult
  tokens : SubjectTokenRepository
  writer : AuditWriter

/-- Mint a token.  The insertion and its audit event share one transaction
when the service has one; without it a failed write leaves the token behind. -/
def mintSubjectToken
    (getByRef : GrantLookup)
    (hashKey : String → String)
    (transactional : Bool)
    (request : MintRequest)
    (now : Instant)
    (tokens : SubjectTokenRepository)
    (writer : AuditWriter)
    (draws : MintDraws) : MintOutcome :=
  if request.boundAction.isNone ≠ request.boundResource.isNone then
    { result := .error .halfBinding, tokens := tokens, writer := writer }
  else
    match getByRef request.grantRef with
    | .error _ => { result := .error .lookupFailed, tokens := tokens, writer := writer }
    | .ok found =>
        match found.filter (isUsable request.workspaceId request.agentId now) with
        | none =>
            { result := .ok { status := .forbidden }
              tokens := tokens
              writer := writer.recordRejection (mintRejection request now draws.event) }
        | some grant =>
            let token := newToken hashKey request grant now draws
            match tokens.insert token with
            | .error text =>
                { result := .error (.duplicateToken text), tokens := tokens, writer := writer }
            | .ok inserted =>
                let written := writer.write (mintedEvent token now draws.event)
                if written.1 then
                  { result := .ok
                      { status := .minted
                        token := some ("vat_" ++ draws.rawToken)
                        tokenId := some token.tokenId
                        expiresAt := some token.expiresAt
                        popSecret := token.popSecret }
                    tokens := inserted
                    writer := written.2 }
                else
                  { result := .error .auditFailed
                    tokens := if transactional then tokens else inserted
                    writer := written.2 }

/-- A mint stores nothing, or one new token of a usable grant of the caller,
which it answers when the audit write succeeds. -/
theorem mintSubjectToken_cases
    (getByRef : GrantLookup)
    (hashKey : String → String)
    (transactional : Bool)
    (request : MintRequest)
    (now : Instant)
    (tokens : SubjectTokenRepository)
    {writer : AuditWriter}
    (reliable : writer.Reliable)
    (draws : MintDraws) :
    let outcome := mintSubjectToken getByRef hashKey transactional request now tokens writer
      draws
    outcome.tokens = tokens ∨
    ∃ grant, getByRef request.grantRef = .ok (some grant) ∧
      isUsable request.workspaceId request.agentId now grant = true ∧
      request.boundAction.isNone = request.boundResource.isNone ∧
      tokens.get? (hashKey ("vat_" ++ draws.rawToken)) = none ∧
      outcome.tokens = tokens.set (hashKey ("vat_" ++ draws.rawToken))
        (newToken hashKey request grant now draws) ∧
      outcome.result = .ok
        { status := .minted
          token := some ("vat_" ++ draws.rawToken)
          tokenId := some (newToken hashKey request grant now draws).tokenId
          expiresAt := some (newToken hashKey request grant now draws).expiresAt
          popSecret := (newToken hashKey request grant now draws).popSecret } := by
  intro outcome
  simp only [outcome]
  unfold mintSubjectToken
  split
  · exact Or.inl rfl
  · next paired =>
      split
      · exact Or.inl rfl
      · next found lookup =>
          split
          · exact Or.inl rfl
          · next grant kept =>
              obtain ⟨rfl, usable⟩ := Option.filter_eq_some_iff.mp kept
              dsimp only
              split
              · exact Or.inl rfl
              · next inserted insertion =>
                  rw [reliable.written, if_pos rfl]
                  unfold SubjectTokenRepository.insert at insertion
                  split at insertion
                  · contradiction
                  · next fresh =>
                      cases insertion
                      exact Or.inr ⟨grant, lookup, usable, by simpa using paired,
                        Option.not_isSome_iff_eq_none.mp fresh, rfl, rfl⟩

end SubjectTokens
end Vinctor
