import Vinctor.Foundation.Dict

/-!
# Data model of the decision core

Records of the core package.  Closed sets of codes are inductive types with
their text as a function; identifiers and free text stay strings.  An instant
is a number of microseconds since the epoch: the service only compares
instants and adds durations to them.
-/

namespace Vinctor

/-- Microseconds since the epoch, in coordinated universal time. -/
abbrev Instant := Int

/-- Duration of a whole number of seconds, in microseconds. -/
def seconds (count : Int) : Int := count * 1000000

/-- An optional text that is present and nonempty: the truth value the
services test with `or` and `not`. -/
def presentText (text : Option String) : Option String :=
  match text with
  | none => none
  | some value => if value = "" then none else some value

inductive Decision
  | permit
  | deny
  deriving DecidableEq, Repr

/-- Text of a decision as it is stored and answered. -/
def Decision.code : Decision → String
  | .permit => "permit"
  | .deny => "deny"

/-- Status of a grant.  The field is free text; the core compares it with
three names and refuses every other. -/
inductive GrantStatus
  | active
  | revoked
  | expired
  | other (name : String)
  deriving DecidableEq, Repr

structure Grant where
  grantId : String
  grantRef : String
  workspaceId : String
  agentId : String
  scopes : List String
  status : GrantStatus
  expiresAt : Option Instant := none
  deriving DecidableEq, Repr

inductive BoundaryMode
  | failClosed
  deriving DecidableEq, Repr

inductive BoundaryStatus
  | active
  | disabled
  deriving DecidableEq, Repr

structure Boundary where
  boundaryId : String
  workspaceId : String
  name : String
  runtime : String
  boundaryType : String
  mode : BoundaryMode
  status : BoundaryStatus
  createdAt : Instant
  updatedAt : Instant
  deriving DecidableEq, Repr

/-- The boundary in another status, with its update time. -/
def Boundary.withStatus
    (boundary : Boundary)
    (status : BoundaryStatus)
    (updatedAt : Instant) : Boundary :=
  { boundary with status := status, updatedAt := updatedAt }

/-- Registration form of a boundary, with mode and status still unchecked
text. -/
structure BoundaryRegistrationInput where
  workspaceId : String
  name : String
  runtime : String
  boundaryType : String
  mode : String := "fail_closed"
  status : String := "active"
  deriving DecidableEq, Repr

/-- Lookup of a boundary by its identifier. -/
abbrev BoundaryLookup := String → Option Boundary

structure EnforceInput where
  grant : Grant
  action : String
  resource : String
  now : Instant
  boundaryId : Option String := none
  boundaryRegistry : Option BoundaryLookup := none
  requireBoundary : Bool := false

/-- Reasons of an enforcement decision. -/
inductive EnforceReason
  | permitted
  | invalidAction
  | invalidResource
  | grantRevoked
  | grantExpired
  | grantNotActive
  | invalidGrantScope
  | actionDenied
  | boundaryRequired
  | boundaryNotFound
  | boundaryWrongWorkspace
  | boundaryInactive
  deriving DecidableEq, Repr

def EnforceReason.code : EnforceReason → String
  | .permitted => "permitted"
  | .invalidAction => "invalid_action"
  | .invalidResource => "invalid_resource"
  | .grantRevoked => "grant_revoked"
  | .grantExpired => "grant_expired"
  | .grantNotActive => "grant_not_active"
  | .invalidGrantScope => "invalid_grant_scope"
  | .actionDenied => "action_denied"
  | .boundaryRequired => "boundary_required"
  | .boundaryNotFound => "boundary_not_found"
  | .boundaryWrongWorkspace => "boundary_wrong_workspace"
  | .boundaryInactive => "boundary_inactive"

structure DecisionResult where
  decision : Decision
  reason : EnforceReason
  grantId : String
  grantRef : String
  workspaceId : String
  agentId : String
  action : String
  resource : String
  scopeAttempted : String
  scopeMatched : Option String
  boundary : Option Boundary := none
  attemptedBoundaryId : Option String := none
  deriving DecidableEq, Repr

/-- One event of the audit trail. -/
structure AuditEvent where
  eventId : String
  eventType : String
  decision : Decision
  reason : String
  workspaceId : String
  agentId : String
  grantId : String
  grantRef : String
  action : String
  resource : String
  scopeAttempted : String
  scopeMatched : Option String
  boundaryId : Option String
  runtime : Option String
  boundaryType : Option String
  createdAt : Instant
  enforcingPrincipal : Option String := none
  reasonCode : Option String := none
  occurrenceCount : Option Int := none
  firstSeenAt : Option Instant := none
  lastSeenAt : Option Instant := none
  subjectTokenVerified : Bool := false
  tokenId : Option String := none
  eventClass : String := "decision"
  deriving DecidableEq, Repr

end Vinctor
