import Vinctor.Foundation.Fallible
import Vinctor.Service.AuditChain

/-!
# Filtered reads of the audit table

A filter is a conjunction of SQL clauses.  Most clauses read the columns that
mirror fields of the canonical JSON; two fields have no column and are read from
the JSON text by the database.  The events that are returned are decoded from
the JSON text by the service.

The database and the service each have a reader of JSON.  They differ where a
member is repeated: the database takes the first, the service the last.  The
database also has a text for arrays and objects.  This text is a parameter.
-/

namespace Vinctor
namespace AuditChain

open Foundation

/-! ## Decoding -/

/-- An event as it is decoded: a field is what the JSON text has for it. -/
structure DecodedEvent where
  eventId : Json
  eventType : Json
  decision : Json
  reason : Json
  workspaceId : Json
  agentId : Json
  grantId : Json
  grantRef : Json
  action : Json
  resource : Json
  scopeAttempted : Json
  scopeMatched : Json
  boundaryId : Json
  runtime : Json
  boundaryType : Json
  createdAt : Datetime
  enforcingPrincipal : Json
  reasonCode : Json
  occurrenceCount : Json
  firstSeenAt : Option Datetime
  lastSeenAt : Option Datetime
  subjectTokenVerified : Bool
  tokenId : Json
  eventClass : Json

/-- Date and time from a value, which has to be a text. -/
def datetimeFromJson : Json → Option Datetime
  | .str text => Datetime.fromisoformat text.toList
  | _ => none

def optionalDatetime : Json → Option (Option Datetime)
  | .null => some none
  | value => (datetimeFromJson value).map some

def subjectTokenVerifiedFromJson (data : List (String × Json)) : Bool :=
  (eventJsonValue data "subject_token_verified").truthy

def auditEventFromData (data : List (String × Json)) : Option DecodedEvent := do
  let get (name : String) : Json := (Json.get? data name).getD .null
  let eventId ← Json.get? data "event_id"
  let eventType ← Json.get? data "event_type"
  let decision ← Json.get? data "decision"
  let reason ← Json.get? data "reason"
  let workspaceId ← Json.get? data "workspace_id"
  let agentId ← Json.get? data "agent_id"
  let grantId ← Json.get? data "grant_id"
  let grantRef ← Json.get? data "grant_ref"
  let action ← Json.get? data "action"
  let resource ← Json.get? data "resource"
  let scopeAttempted ← Json.get? data "scope_attempted"
  let scopeMatched ← Json.get? data "scope_matched"
  let boundaryId ← Json.get? data "boundary_id"
  let runtime ← Json.get? data "runtime"
  let boundaryType ← Json.get? data "boundary_type"
  let createdAtText ← Json.get? data "created_at"
  let createdAt ← datetimeFromJson createdAtText
  let firstSeenAt ← optionalDatetime (get "first_seen_at")
  let lastSeenAt ← optionalDatetime (get "last_seen_at")
  some
    { eventId, eventType, decision, reason, workspaceId, agentId, grantId, grantRef, action,
      resource, scopeAttempted, scopeMatched, boundaryId, runtime, boundaryType, createdAt,
      enforcingPrincipal := get "enforcing_principal"
      reasonCode := get "reason_code"
      occurrenceCount := get "occurrence_count"
      firstSeenAt, lastSeenAt
      subjectTokenVerified := subjectTokenVerifiedFromJson data
      tokenId := get "token_id"
      eventClass := (Json.get? data "event_class").getD (.str "decision") }

/-- Event of a JSON text.  There is none where the reader of the service
raises: the text is not an object, a field is missing, or an instant is not one. -/
def auditEventFromJson (eventJson : String) : Option DecodedEvent :=
  match Json.loads eventJson.toList with
  | some (.obj data) => auditEventFromData data
  | _ => none

/-! ## The JSON function of the database -/

/-- Value of a JSON path.  A number or a truth value equals no text. -/
inductive ExtractedValue
  | null
  | number
  | text (value : String)
  deriving DecidableEq, Repr

/-- Value of the first member with a key. -/
def firstMember (data : List (String × Json)) (key : String) : Option Json :=
  (data.find? fun member => member.1 = key).map Prod.snd

/-- Value of the path to a member, or none when the text is malformed.  The
parameter is the text of an array or object. -/
def jsonExtract
    (containerText : String → String → String)
    (eventJson name : String) : Option ExtractedValue :=
  (Json.loads eventJson.toList).map fun value =>
    match value with
    | .obj data =>
        match firstMember data name with
        | none | some .null => .null
        | some (.bool _) | some (.int _) | some (.float _) => .number
        | some (.str text) => .text text
        | some (.arr _) | some (.obj _) => .text (containerText eventJson name)
    | _ => .null

/-! ## Filters -/

def auditEventClasses : List String := ["control", "decision"]

/-- Filters of a read, each of which may be left out. -/
structure AuditFilters where
  workspaceId : String
  eventClass : Option String := none
  eventType : Option String := none
  grantRef : Option String := none
  boundaryId : Option String := none
  agentId : Option String := none
  requestId : Option String := none
  reasonCode : Option String := none
  enforcingPrincipal : Option String := none
  subjectTokenVerified : Option Bool := none
  limit : Option Nat := none
  deriving DecidableEq, Repr

/-- Events that bound the positions of a page. -/
structure AuditCursors where
  snapshotEventId : Option String := none
  beforeEventId : Option String := none
  deriving DecidableEq, Repr

inductive AuditQueryError
  | invalidEventClass (message : String)
  | invalidAuditCursor
  | malformedJson
  | undecodableEvent
  deriving DecidableEq, Repr

def validateAuditEventClass (eventClass : Option String) : Except AuditQueryError Unit :=
  Fallible.ensure (∀ value ∈ eventClass, value ∈ auditEventClasses)
    (.invalidEventClass ("event_class must be one of: " ++ ", ".intercalate auditEventClasses))

/-- Position of the event of a cursor. -/
def cursorSeq
    (table : AuditTable)
    (workspaceId : String) :
    Option String → Except AuditQueryError (Option Int)
  | none => .ok none
  | some eventId =>
      match table.find? fun row => row.eventId = eventId && row.workspaceId = workspaceId with
      | none => .error .invalidAuditCursor
      | some row => .ok row.seq

/-- Bounds of the positions of a page. -/
def cursorBounds
    (table : AuditTable)
    (workspaceId : String)
    (cursors : AuditCursors) : Except AuditQueryError (Option Int × Option Int) := do
  Fallible.ensure (cursors.beforeEventId.isSome → cursors.snapshotEventId.isSome)
    .invalidAuditCursor
  let snapshotSeq ← cursorSeq table workspaceId cursors.snapshotEventId
  let beforeSeq ← cursorSeq table workspaceId cursors.beforeEventId
  Fallible.ensure (∀ snapshot ∈ snapshotSeq, ∀ before ∈ beforeSeq, before ≤ snapshot)
    .invalidAuditCursor
  return (snapshotSeq, beforeSeq)

/-- Clauses on the columns of a row.  A comparison with a null does not hold. -/
def columnClauses
    (filters : AuditFilters)
    (bounds : Option Int × Option Int)
    (row : AuditRow) : Bool :=
  row.workspaceId = filters.workspaceId &&
    bounds.1.all (fun snapshot => row.seq.any (· ≤ snapshot)) &&
    bounds.2.all (fun before => row.seq.any (· < before)) &&
    filters.eventClass.all (row.eventClass = ·) &&
    filters.eventType.all (row.eventType = ·) &&
    filters.grantRef.all (row.grantRef = ·) &&
    filters.boundaryId.all (row.boundaryId = some ·) &&
    filters.agentId.all (row.agentId = ·) &&
    filters.requestId.all (fun requestId =>
      row.resource = "grant_request/" ++ requestId || row.grantRef = requestId) &&
    filters.subjectTokenVerified.all (fun verified => row.subjectTokenVerified = verified.toNat)

/-- A clause on a member of the JSON text. -/
def extractClause
    (containerText : String → String → String)
    (name : String)
    (wanted : Option String)
    (row : AuditRow) : Except AuditQueryError Bool :=
  match wanted with
  | none => .ok true
  | some value =>
      match jsonExtract containerText row.eventJson name with
      | none => .error .malformedJson
      | some extracted => .ok (extracted = .text value)

/-- Whether the query selects a row. -/
def selects
    (containerText : String → String → String)
    (filters : AuditFilters)
    (bounds : Option Int × Option Int)
    (row : AuditRow) : Except AuditQueryError Bool := do
  if columnClauses filters bounds row then
    let reason ← extractClause containerText "reason_code" filters.reasonCode row
    let principal ←
      extractClause containerText "enforcing_principal" filters.enforcingPrincipal row
    return reason && principal
  else
    return false

/-- The first rows by descending position, or all of them. -/
def mostRecentFirst (limit : Option Nat) (rows : List AuditRow) : List AuditRow :=
  match limit with
  | none => (orderedBySeq rows).reverse
  | some limit => (orderedBySeq rows).reverse.take limit

def listFiltered
    (containerText : String → String → String)
    (table : AuditTable)
    (filters : AuditFilters)
    (cursors : AuditCursors := {}) : Except AuditQueryError (List DecodedEvent) := do
  validateAuditEventClass filters.eventClass
  let bounds ← cursorBounds table filters.workspaceId cursors
  let selected ← table.filterM (selects containerText filters bounds)
  let rows := mostRecentFirst filters.limit selected
  rows.reverse.mapM fun row =>
    Fallible.require (auditEventFromJson row.eventJson) .undecodableEvent

end AuditChain
end Vinctor
