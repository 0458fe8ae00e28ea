import Vinctor.Core.Registry
import Vinctor.Foundation.Machine
import Vinctor.Service.AutoApproval
import Vinctor.Service.Simulations
import Vinctor.Service.SubjectTokens

/-!
# The in-memory service

One service object with its repositories, and its operations as a machine.
Every operation carries the time of the call and the random values it draws;
nothing is assumed about either.
-/

namespace Vinctor
namespace InMemory

open Foundation
open Audit
open Grants
open GrantRequests
open AutoApproval
open Registry
open SubjectTokens
open V1
open Pop

/-- The service's repositories.  Its writer appends every event, so the log of
attempts is all there is to it. -/
structure Service where
  grants : GrantRepository := Dict.empty
  requests : GrantRequestRepository := Dict.empty
  rules : AutoApprovalRuleRepository := Dict.empty
  tokens : SubjectTokenRepository := Dict.empty
  settings : AgentEnforcementSettingsRepository := {}
  bounds : ScopeBoundsRepository := Dict.empty
  boundaries : BoundaryRegistry := Dict.empty
  attempts : List WriteAttempt := []
  popReplay : PopReplayCache

/-- The in-memory writer of the service. -/
def Service.writer (service : Service) : AuditWriter where
  accepts := fun _ _ => true
  attempts := service.attempts

theorem Service.writer_reliable (service : Service) : service.writer.Reliable :=
  fun _ _ => rfl

/-- What the agent's endpoints of the service read. -/
def Service.enforceServices (service : Service) : EnforceServices where
  getByRef := service.grants.lookup
  boundaryRegistry := some service.boundaries.get?
  settings := some service.settings.settings

inductive Operation
  | setBounds (input : SetBoundsInput)
  | issueGrant (request : GrantIssueRequest) (now : Instant) (draws : IssueDraws)
  | revokeGrant (grantRef workspaceId : String) (now : Instant) (token : Token)
  | createGrantRequest (request : GrantRequestCreateRequest) (now : Instant)
      (draws : CreateDraws)
  | approveGrantRequest (input : DecisionInput) (now : Instant) (draws : ApprovalDraws)
  | rejectGrantRequest (input : DecisionInput) (now : Instant) (token : Token)
  | createAutoApprovalRule (rule : AutoApprovalRule)
  | disableAutoApprovalRule (ruleId workspaceId disabledBy : String) (now : Instant)
  | autoApproveGrantRequest (requestId workspaceId decidedBy : String) (now : Instant)
      (draws : ApprovalDraws)
  | registerBoundary (registration : BoundaryRegistrationInput) (now : Instant)
      (boundaryId : Option String) (token : Token)
  | enableBoundary (boundaryId workspaceId : String) (now : Instant)
  | disableBoundary (boundaryId workspaceId : String) (now : Instant)
  | setRequireBoundary (workspaceId agentId : String) (required : Bool)
  | setRequireSubjectToken (workspaceId agentId : String) (required : Bool)
  | setRequirePop (workspaceId agentId : String) (required : Bool)
  | mintSubjectToken (request : MintRequest) (now : Instant) (draws : MintDraws)
  | simulate (request : V1SimulateRequest) (now : Instant) (token : Token)
  | enforce (request : V1EnforceRequest) (now : Instant) (token : Token)
  | delegatedEnforce (request : V1DelegatedEnforceRequest) (now : Instant)
      (pepWorkspaceId : Option String) (popSkewSeconds : Int) (token : Token)

/-- Answers, by the kind of operation.  An absent result is an exception. -/
inductive Reply
  | acknowledged (result : Except String Unit)
  | issue (result : Option GrantIssueResult)
  | revocation (result : Option (Option (Grant × String)))
  | creation (result : Option GrantRequestCreateResult)
  | decision (result : Option GrantRequestDecisionResult)
  | rule (result : Except String (Option AutoApprovalRule))
  | boundary (result : Except String (Option Boundary))
  | mint (result : Except MintError SubjectTokenMintResult)
  | simulation (response : V1SimulateResponse)
  | enforcement (response : V1EnforceResponse)

section Operations

variable (hashKey : String → String) (hmac : KeyedHash)

/-- Answer an operation.  The hashes are those of the standard library. -/
def step (operation : Operation) (service : Service) : Reply × Service :=
  match operation with
  | .setBounds input =>
      match setBounds service.bounds input with
      | .error text => (.acknowledged (.error text), service)
      | .ok bounds => (.acknowledged (.ok ()), { service with bounds := bounds })
  | .issueGrant request now draws =>
      let outcome := issueGrant request service.bounds now service.grants service.writer draws
      (.issue outcome.result,
        { service with grants := outcome.grants, attempts := outcome.writer.attempts })
  | .revokeGrant grantRef workspaceId now token =>
      let outcome := revokeGrant grantRef workspaceId now service.grants service.writer token
      (.revocation outcome.result,
        { service with grants := outcome.grants, attempts := outcome.writer.attempts })
  | .createGrantRequest request now draws =>
      let outcome := createGrantRequest request now service.requests service.writer draws
      (.creation outcome.result,
        { service with requests := outcome.requests, attempts := outcome.writer.attempts })
  | .approveGrantRequest input now draws =>
      let outcome := approveGrantRequest input {} service.bounds now service.requests
        service.grants service.writer draws
      (.decision outcome.result,
        { service with
          requests := outcome.requests
          grants := outcome.grants
          attempts := outcome.writer.attempts })
  | .rejectGrantRequest input now token =>
      let outcome := rejectGrantRequest input now service.requests service.grants
        service.writer token
      (.decision outcome.result,
        { service with requests := outcome.requests, attempts := outcome.writer.attempts })
  | .createAutoApprovalRule rule =>
      match createAutoApprovalRule service.rules rule with
      | .error text => (.rule (.error text), service)
      | .ok rules => (.rule (.ok (some rule)), { service with rules := rules })
  | .disableAutoApprovalRule ruleId workspaceId disabledBy now =>
      match disableAutoApprovalRule service.rules ruleId workspaceId disabledBy now with
      | .error text => (.rule (.error text), service)
      | .ok (disabled, rules) => (.rule (.ok disabled), { service with rules := rules })
  | .autoApproveGrantRequest requestId workspaceId decidedBy now draws =>
      let outcome := autoApproveGrantRequest requestId workspaceId decidedBy service.rules
        service.bounds now service.requests service.grants service.writer draws
      (.decision outcome.result,
        { service with
          requests := outcome.requests
          grants := outcome.grants
          attempts := outcome.writer.attempts })
  | .registerBoundary registration now boundaryId token =>
      match registerBoundary service.boundaries registration now boundaryId token with
      | .error text => (.boundary (.error text), service)
      | .ok (boundary, boundaries) =>
          (.boundary (.ok (some boundary)), { service with boundaries := boundaries })
  | .enableBoundary boundaryId workspaceId now =>
      let outcome := enableBoundary service.boundaries boundaryId workspaceId now
      (.boundary (.ok outcome.1), { service with boundaries := outcome.2 })
  | .disableBoundary boundaryId workspaceId now =>
      let outcome := disableBoundary service.boundaries boundaryId workspaceId now
      (.boundary (.ok outcome.1), { service with boundaries := outcome.2 })
  | .setRequireBoundary workspaceId agentId required =>
      (.acknowledged (.ok ()),
        { service with
          settings := service.settings.setRequireBoundary workspaceId agentId required })
  | .setRequireSubjectToken workspaceId agentId required =>
      (.acknowledged (.ok ()),
        { service with
          settings := service.settings.setRequireSubjectToken workspaceId agentId required })
  | .setRequirePop workspaceId agentId required =>
      (.acknowledged (.ok ()),
        { service with
          settings := service.settings.setRequirePop workspaceId agentId required })
  | .mintSubjectToken request now draws =>
      let outcome := mintSubjectToken service.grants.lookup hashKey false request now
        service.tokens service.writer draws
      (.mint outcome.result,
        { service with tokens := outcome.tokens, attempts := outcome.writer.attempts })
  | .simulate request now token =>
      let outcome := simulateV1Contract service.enforceServices request now service.writer
        token
      (.simulation outcome.1, { service with attempts := outcome.2.attempts })
  | .enforce request now token =>
      let outcome := enforceV1Contract service.enforceServices request now service.writer
        token
      (.enforcement outcome.1, { service with attempts := outcome.2.attempts })
  | .delegatedEnforce request now pepWorkspaceId popSkewSeconds token =>
      let outcome := delegatedEnforceV1Contract
        { service.enforceServices with
          pepWorkspaceId := pepWorkspaceId
          getByHash := some service.tokens.lookup
          hashKey := hashKey
          hmac := hmac
          popSkewSeconds := popSkewSeconds }
        request now service.writer (some (.process service.popReplay)) token
      (.enforcement outcome.response,
        { service with
          attempts := outcome.writer.attempts
          popReplay :=
            match outcome.replay with
            | some (.process cache) => cache
            | _ => service.popReplay })

/-- The service as a machine. -/
def machine : Machine Service Operation Reply where
  step := step hashKey hmac

end Operations

end InMemory
end Vinctor
