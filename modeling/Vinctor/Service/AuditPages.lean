import Vinctor.Foundation.DictRows
import Vinctor.Foundation.Text
import Vinctor.Service.FilterAgreement

/-!
# Pages of audit events

The endpoint that lists audit events.  A request for a page asks for one event more
than the page holds, to see whether there are more.  The answer names the newest
event of the first page as the snapshot, and the oldest event of this page as the
bound of the next one.
-/

namespace Vinctor
namespace AuditPages

open Foundation
open AuditChain
open AuditReference

/-! ## Requests -/

structure HttpError where
  statusCode : Nat
  error : String
  reason : String
  deriving DecidableEq, Repr

def invalidRequest (reason : String) : HttpError where
  statusCode := 400
  error := "invalid_request"
  reason

/-- Values of the parameters of a request, by name. -/
abbrev Params := Dict String (List String)

/-- Names of parameters that the endpoint has. -/
def allowed : List String :=
  ["agent_id", "event_class", "event_type", "grant_ref", "boundary_id", "request_id",
    "reason_code", "enforcing_principal", "subject_token_verified", "page",
    "snapshot_event_id", "before_event_id", "limit"]

structure AuditEventFilters where
  agentId : Option String := none
  eventClass : Option String := none
  eventType : Option String := none
  grantRef : Option String := none
  boundaryId : Option String := none
  requestId : Option String := none
  reasonCode : Option String := none
  enforcingPrincipal : Option String := none
  subjectTokenVerified : Option Bool := none
  paginate : Bool := false
  snapshotEventId : Option String := none
  beforeEventId : Option String := none
  limit : Nat := 20
  deriving DecidableEq, Repr

/-- A parameter that was given has one value, which is not empty. -/
def checkValue (params : Params) (key : String) : Except HttpError Unit :=
  match params.get? key with
  | none => .ok ()
  | some values =>
      Fallible.ensure (values.length = 1 ∧ values.head? ≠ some "")
        (invalidRequest (key ++ " must be a single non-empty value"))

def value (params : Params) (key : String) : Option String :=
  (params.get? key).bind List.head?

def parseLimit : Option String → Except HttpError Nat
  | none => .ok 20
  | some text => do
      let limit ← Fallible.require (Text.parseInteger text.toList)
        (invalidRequest "limit must be a positive integer")
      Fallible.ensure (0 < limit ∧ limit ≤ 100) (invalidRequest "limit must be between 1 and 100")
      return limit.toNat

def parseSubjectTokenVerified : Option String → Except HttpError (Option Bool)
  | none => .ok none
  | some text =>
      let normalized := String.ofList ((Text.strip text.toList).map Char.toLower)
      if normalized = "true" then .ok (some true)
      else if normalized = "false" then .ok (some false)
      else .error (invalidRequest "subject_token_verified must be true or false")

/-- Reason of an error of the class of an event. -/
def eventClassError : AuditQueryError → HttpError
  | .invalidEventClass message => invalidRequest message
  | _ => invalidRequest ""

def parseFilters (params : Params) : Except HttpError AuditEventFilters := do
  let extra := ((params.entries.map Prod.fst).filter (· ∉ allowed)).insertionSort (· ≤ ·)
  match extra with
  | name :: _ => .error (invalidRequest ("unexpected query parameter: " ++ name))
  | [] => .ok ()
  -- The source walks through a set: which of several errors is answered is open there.
  allowed.forM (checkValue params)
  let limit ← parseLimit (value params "limit")
  Fallible.ensure (∀ page ∈ value params "page", page = "true")
    (invalidRequest "page must be true")
  let paginate := decide (value params "page" = some "true")
  let snapshotEventId := value params "snapshot_event_id"
  let beforeEventId := value params "before_event_id"
  Fallible.ensure (paginate = false → snapshotEventId = none ∧ beforeEventId = none)
    (invalidRequest "snapshot_event_id and before_event_id require page=true")
  Fallible.ensure (beforeEventId.isSome → snapshotEventId.isSome)
    (invalidRequest "invalid cursor")
  let subjectTokenVerified ←
    parseSubjectTokenVerified (value params "subject_token_verified")
  (validateAuditEventClass (value params "event_class")).mapError eventClassError
  return {
    agentId := value params "agent_id"
    eventClass := value params "event_class"
    eventType := value params "event_type"
    grantRef := value params "grant_ref"
    boundaryId := value params "boundary_id"
    requestId := value params "request_id"
    reasonCode := value params "reason_code"
    enforcingPrincipal := value params "enforcing_principal"
    subjectTokenVerified, paginate, snapshotEventId, beforeEventId, limit }

/-! ## Answers -/

/-- Body of an event. -/
def auditEventBody (event : AuditEvent) : List (String × Json) :=
  [("event_id", .str event.eventId),
    ("event_type", .str event.eventType),
    ("decision", .str event.decision.code),
    ("reason", .str event.reason),
    ("workspace_id", .str event.workspaceId),
    ("agent_id", .str event.agentId),
    ("grant_id", .str event.grantId),
    ("grant_ref", .str event.grantRef),
    ("action", .str event.action),
    ("resource", .str event.resource),
    ("scope_attempted", .str event.scopeAttempted),
    ("scope_matched", AuditEvent.nullableText event.scopeMatched),
    ("boundary_id", AuditEvent.nullableText event.boundaryId),
    ("runtime", AuditEvent.nullableText event.runtime),
    ("boundary_type", AuditEvent.nullableText event.boundaryType),
    ("created_at", .str (isoformat event.createdAt)),
    ("enforcing_principal", AuditEvent.nullableText event.enforcingPrincipal),
    ("reason_code", AuditEvent.nullableText event.reasonCode),
    ("occurrence_count", (event.occurrenceCount.map Json.int).getD .null),
    ("first_seen_at", AuditEvent.nullableText (event.firstSeenAt.map isoformat)),
    ("last_seen_at", AuditEvent.nullableText (event.lastSeenAt.map isoformat)),
    ("subject_token_verified", .bool event.subjectTokenVerified),
    ("token_id", AuditEvent.nullableText event.tokenId),
    ("event_class", .str event.eventClass)]

/-- The body of an event with its position in the log. -/
def sequencedBody (entry : AuditEvent × Nat) : List (String × Json) :=
  auditEventBody entry.1 ++ [("sequence", .int entry.2)]

structure AuditPage where
  auditEvents : List (List (String × Json))
  snapshotEventId : Option String
  nextBeforeEventId : Option String

/-- How a request ends without an answer of events: with an error response, or with
an exception of the handler. -/
inductive RequestError
  | response (error : HttpError)
  | query (error : AuditQueryError)
  | key (eventId : String)
  deriving DecidableEq, Repr

/-- A refusal of the cursors is answered; other errors of a read are not caught. -/
def readError : AuditQueryError → RequestError
  | .invalidAuditCursor => .response (invalidRequest "invalid cursor")
  | error => .query error

inductive AuditResponse
  | page (page : AuditPage)
  | events (events : List (List (String × Json)))

/-- The read that the filters ask for. -/
def AuditEventFilters.read (filters : AuditEventFilters) (workspaceId : String) (limit : Nat) :
    AuditFilters where
  workspaceId
  eventClass := filters.eventClass
  eventType := filters.eventType
  grantRef := filters.grantRef
  boundaryId := filters.boundaryId
  agentId := filters.agentId
  requestId := filters.requestId
  reasonCode := filters.reasonCode
  enforcingPrincipal := filters.enforcingPrincipal
  subjectTokenVerified := filters.subjectTokenVerified
  limit := some limit

/-- The page that was read, from the events of the read. -/
def pageResponse
    (log : List AuditEvent)
    (workspaceId : String)
    (filters : AuditEventFilters)
    (events : List AuditEvent) : Except RequestError AuditPage := do
  let hasMore := decide (filters.limit < events.length)
  let pageEvents := if hasMore then lastSlice (some filters.limit) events else events
  let sequences := auditEventSequences log workspaceId (pageEvents.map (·.eventId))
  let bodies ← pageEvents.mapM fun event => do
    let sequence ← Fallible.require (sequences.get? event.eventId) (.key event.eventId)
    return sequencedBody (event, sequence)
  return {
    auditEvents := bodies
    snapshotEventId := filters.snapshotEventId <|> (pageEvents.getLast?.map (·.eventId))
    nextBeforeEventId := if hasMore then pageEvents.head?.map (·.eventId) else none }

/-- Listing the events of a workspace. -/
def handleAuditEvents
    (log : List AuditEvent)
    (workspaceId : String)
    (params : Params) : Except RequestError AuditResponse := do
  let filters ← (parseFilters params).mapError .response
  let limit := if filters.paginate then filters.limit + 1 else filters.limit
  let cursors : AuditCursors :=
    { snapshotEventId := filters.snapshotEventId, beforeEventId := filters.beforeEventId }
  let events ← (listFiltered log (filters.read workspaceId limit)
    (if filters.paginate then cursors else {})).mapError readError
  if filters.paginate then
    return .page (← pageResponse log workspaceId filters events)
  else
    return .events (events.map auditEventBody)

/-! ## What a client sends -/

/-- Parameters by name, where there is a value. -/
def named (pairs : List (String × Option String)) : List (String × List String) :=
  pairs.filterMap fun pair => pair.2.map fun text => (pair.1, [text])

theorem keys_named_sublist (pairs : List (String × Option String)) :
    ((named pairs).map Prod.fst).Sublist (pairs.map Prod.fst) := by
  induction pairs with
  | nil => exact .slnil
  | cons pair rest inductionHypothesis =>
      obtain ⟨name, value⟩ := pair
      cases value with
      | none => exact inductionHypothesis.cons _
      | some text => exact inductionHypothesis.cons_cons _

/-- A parameter is sent with its value, or not at all. -/
theorem lookup_named
    {pairs : List (String × Option String)}
    (distinct : (pairs.map Prod.fst).Nodup)
    {name : String}
    {value : Option String}
    (present : (name, value) ∈ pairs) :
    (named pairs).lookup name = value.map fun text => [text] := by
  induction pairs with
  | nil => cases present
  | cons pair rest inductionHypothesis =>
      obtain ⟨first, other⟩ := pair
      obtain ⟨fresh, distinct⟩ := List.nodup_cons.mp distinct
      rcases List.mem_cons.mp present with isFirst | later
      · obtain ⟨rfl, rfl⟩ := Prod.mk.inj isFirst
        cases value with
        | none =>
            have absent : name ∉ (named rest).map Prod.fst :=
              fun sent => fresh ((keys_named_sublist rest).subset sent)
            refine List.lookup_eq_none_iff.mpr fun entry isSent => bne_iff_ne.mpr ?_
            rintro rfl
            exact absent (List.mem_map_of_mem isSent)
        | some text => simp [named]
      · have isOther : name ≠ first := by
          rintro rfl
          exact fresh (List.mem_map.mpr ⟨_, later, rfl⟩)
        have skipped : (named ((first, other) :: rest)).lookup name = (named rest).lookup name := by
          cases other with
          | none => rfl
          | some text =>
              change ((first, [text]) :: named rest).lookup name = _
              rw [List.lookup_cons, beq_false_of_ne isOther]
        rw [skipped]
        exact inductionHypothesis distinct later

/-- Parameters of a request with filters. -/
def requestPairs (filters : AuditEventFilters) : List (String × Option String) :=
  [("agent_id", filters.agentId),
    ("event_class", filters.eventClass),
    ("event_type", filters.eventType),
    ("grant_ref", filters.grantRef),
    ("boundary_id", filters.boundaryId),
    ("request_id", filters.requestId),
    ("reason_code", filters.reasonCode),
    ("enforcing_principal", filters.enforcingPrincipal),
    ("page", if filters.paginate then some "true" else none),
    ("snapshot_event_id", filters.snapshotEventId),
    ("before_event_id", filters.beforeEventId),
    ("subject_token_verified", filters.subjectTokenVerified.map fun verified =>
      if verified then "true" else "false"),
    ("limit", some (toString filters.limit))]

theorem keys_requestPairs_perm (filters : AuditEventFilters) :
    ((requestPairs filters).map Prod.fst).Perm allowed := by
  change ["agent_id", "event_class", "event_type", "grant_ref", "boundary_id", "request_id",
    "reason_code", "enforcing_principal", "page", "snapshot_event_id", "before_event_id",
    "subject_token_verified", "limit"].Perm allowed
  decide

theorem keys_requestPairs_nodup (filters : AuditEventFilters) :
    ((requestPairs filters).map Prod.fst).Nodup :=
  (keys_requestPairs_perm filters).nodup_iff.mpr (by decide)

def requestParams (filters : AuditEventFilters) : Params where
  entries := named (requestPairs filters)
  keysDistinct := (keys_requestPairs_nodup filters).sublist (keys_named_sublist _)

/-- Filters that the endpoint accepts. -/
structure Accepted (filters : AuditEventFilters) : Prop where
  texts : ∀ pair ∈ requestPairs filters, pair.2 ≠ some ""
  eventClass : ∀ value ∈ filters.eventClass, value ∈ auditEventClasses
  limit : 1 ≤ filters.limit ∧ filters.limit ≤ 100
  paginate : filters.paginate = true
  cursors : filters.beforeEventId.isSome → filters.snapshotEventId.isSome

/-- What is sent is parsed as it was. -/
theorem parseFilters_requestParams
    {filters : AuditEventFilters}
    (accepted : Accepted filters) :
    parseFilters (requestParams filters) = .ok filters := by
  have found : ∀ pair ∈ requestPairs filters,
      (requestParams filters).get? pair.1 = pair.2.map fun text => [text] :=
    fun pair present => lookup_named (keys_requestPairs_nodup filters) present
  have values : ∀ pair ∈ requestPairs filters, value (requestParams filters) pair.1 = pair.2 := by
    intro pair present
    rw [value, found pair present]
    cases pair.2 <;> rfl
  have expected : ((requestParams filters).entries.map Prod.fst).filter (· ∉ allowed) = [] := by
    rw [List.filter_eq_nil_iff]
    intro name isSent
    have listed : name ∈ allowed :=
      (keys_requestPairs_perm filters).mem_iff.mp ((keys_named_sublist _).subset isSent)
    simpa using listed
  have single : allowed.forM (checkValue (requestParams filters)) = .ok () := by
    apply Fallible.forM_eq_ok
    intro name isAllowed
    obtain ⟨pair, present, rfl⟩ :=
      List.mem_map.mp ((keys_requestPairs_perm filters).mem_iff.mpr isAllowed)
    have filled := accepted.texts pair present
    rw [checkValue, found pair present]
    cases sent : pair.2 with
    | none => rfl
    | some text =>
        rw [sent] at filled
        simpa [Fallible.ensure] using fun empty => filled (congrArg some empty)
  have limit : parseLimit (some (toString filters.limit)) = .ok filters.limit := by
    have small : ∀ limit ≤ 100, 1 ≤ limit → parseLimit (some (toString limit)) = .ok limit := by
      decide
    exact small filters.limit accepted.limit.2 accepted.limit.1
  have verified : parseSubjectTokenVerified (filters.subjectTokenVerified.map fun verified =>
      if verified then "true" else "false") = .ok filters.subjectTokenVerified := by
    rcases filters.subjectTokenVerified with _ | _ | _
    · rfl
    · rfl
    · rfl
  simp only [requestPairs, List.forall_mem_cons] at values
  have valid : (validateAuditEventClass filters.eventClass).mapError eventClassError = .ok () := by
    rw [validateAuditEventClass, Fallible.ensure, if_pos accepted.eventClass]
    rfl
  have bounded : Fallible.ensure (filters.beforeEventId.isSome = true →
      filters.snapshotEventId.isSome = true) (invalidRequest "invalid cursor") = .ok () :=
    if_pos accepted.cursors
  have paged := accepted.paginate
  obtain ⟨⟩ := filters
  subst paged
  simp only [parseFilters, expected, single, values, limit, verified, valid, bounded]
  rfl

end AuditPages
end Vinctor
