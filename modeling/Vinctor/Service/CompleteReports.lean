import Vinctor.Service.AuditPagination

/-!
# Complete reports

The client of the endpoint that reports on a grant, a boundary or a request.  It
follows the cursors and checks every answer: the events of a page one by one, that no
event and no cursor comes twice, that the snapshot stays, and at the end that the
positions ascend.  Against the endpoint no check fails.
-/

namespace Vinctor
namespace CompleteReports

open Foundation
open AuditChain
open AuditReference
open AuditPages
open AuditPagination
open FilterAgreement (Entry)

/-! ## Fields of a report -/

def auditEventSafeFields : List String :=
  ["event_id", "event_type", "event_class", "decision", "reason", "workspace_id", "agent_id",
    "grant_id", "grant_ref", "action", "resource", "boundary_id", "runtime", "boundary_type",
    "created_at", "sequence", "subject_token_verified", "enforcing_principal", "reason_code",
    "occurrence_count", "first_seen_at", "last_seen_at"]

def auditEventDiagnosticFields : List String := ["scope_attempted", "scope_matched", "token_id"]

inductive OutputMode
  | safe
  | diagnostic
  deriving DecidableEq, Repr

def fieldsForMode (safe diagnostic : List String) : OutputMode → List String
  | .safe => safe
  | .diagnostic => safe ++ diagnostic

def auditFields : OutputMode → List String :=
  fieldsForMode auditEventSafeFields auditEventDiagnosticFields

def listOfStringFields : List String := ["allowed_scopes", "requested_scopes", "scopes"]

def integerFields : List String :=
  ["max_ttl_seconds", "occurrence_count", "requested_ttl_seconds", "sequence"]

def booleanFields : List String := ["subject_token_verified"]

def isText : Json → Bool
  | .str _ => true
  | _ => false

/-- The value of a field, unless its type is not the type of the field. -/
def allowlistedValue (field : String) (value : Json) : Option Json :=
  if field ∈ listOfStringFields then
    match value with
    | .arr items => some (.arr (items.filter isText))
    | _ => none
  else if field ∈ integerFields then
    match value with
    | .int _ => some value
    | _ => none
  else if field ∈ booleanFields then
    match value with
    | .bool _ => some value
    | _ => none
  else
    match value with
    | .null | .str _ => some value
    | _ => none

def allowlistObject (data : List (String × Json)) (fields : List String) : List (String × Json) :=
  fields.filterMap fun field => do
    let value ← Json.get? data field
    let allowed ← allowlistedValue field value
    return (field, allowed)

/-! ## Answers -/

structure AuditReportEvent where
  payload : List (String × Json)
  eventId : String
  eventType : String
  eventClass : String
  decision : String
  workspaceId : String
  agentId : String
  grantId : String
  grantRef : String
  boundaryId : Option String
  createdAt : Datetime
  sequence : Int

/-- Errors of a report: of the request, and of an answer. -/
inductive ReportError
  | request (error : RequestError)
  | pagination (message : String)

def invalidEvents : ReportError := .pagination "service returned invalid audit events"

def requiredAuditString
    (event : List (String × Json))
    (field : String)
    (nonempty : Bool := false) : Except ReportError String :=
  match Json.get? event field with
  | some (.str text) => if nonempty && text = "" then .error invalidEvents else .ok text
  | _ => .error invalidEvents

/-- A text that may be null or missing. -/
def optionalAuditString (event : List (String × Json)) (field : String) :
    Except ReportError (Option String) :=
  match (Json.get? event field).getD .null with
  | .null => .ok none
  | .str text => .ok (some text)
  | _ => .error invalidEvents

/-- The position of an event, which is an integer from one on. -/
def auditSequence (event : List (String × Json)) : Except ReportError Int :=
  match Json.get? event "sequence" with
  | some (.int sequence) => if sequence < 1 then .error invalidEvents else .ok sequence
  | _ => .error invalidEvents

def parseAuditReportEvent
    (fields : List String)
    (rawEvent : List (String × Json)) : Except ReportError AuditReportEvent := do
  let eventId ← requiredAuditString rawEvent "event_id" true
  let eventType ← requiredAuditString rawEvent "event_type" true
  let eventClass ← requiredAuditString rawEvent "event_class" true
  Fallible.ensure (eventClass ∈ ["control", "decision"]) invalidEvents
  let decision ← requiredAuditString rawEvent "decision" true
  Fallible.ensure (decision ∈ ["permit", "deny"]) invalidEvents
  let workspaceId ← requiredAuditString rawEvent "workspace_id"
  let agentId ← requiredAuditString rawEvent "agent_id"
  let grantId ← requiredAuditString rawEvent "grant_id"
  let grantRef ← requiredAuditString rawEvent "grant_ref"
  let boundaryId ← optionalAuditString rawEvent "boundary_id"
  let createdAtText ← requiredAuditString rawEvent "created_at" true
  let createdAt ← Fallible.require (Datetime.fromisoformat createdAtText.toList) invalidEvents
  Fallible.ensure createdAt.offset.isSome invalidEvents
  let sequence ← auditSequence rawEvent
  return {
    payload := allowlistObject rawEvent fields
    eventId, eventType, eventClass, decision, workspaceId, agentId, grantId, grantRef, boundaryId
    createdAt := createdAt.asUtc
    sequence }

def parseAuditCursor : Option String → Except ReportError (Option String)
  | none => .ok none
  | some text =>
      if text = "" then .error (.pagination "service returned an invalid audit page cursor")
      else .ok (some text)

structure AuditReportPage where
  events : List AuditReportEvent
  snapshotEventId : Option String
  nextBeforeEventId : Option String

def parseAuditReportPage
    (fields : List String) : AuditResponse → Except ReportError AuditReportPage
  | .events events => do
      let _ ← events.mapM (parseAuditReportEvent fields)
      .error (.pagination "service omitted audit pagination metadata")
  | .page page => do
      let events ← page.auditEvents.mapM (parseAuditReportEvent fields)
      let snapshotEventId ← parseAuditCursor page.snapshotEventId
      let nextBeforeEventId ← parseAuditCursor page.nextBeforeEventId
      return { events, snapshotEventId, nextBeforeEventId }

/-! ## The loop -/

structure ReportState where
  pages : List (List AuditReportEvent) := []
  snapshotEventId : Option String := none
  beforeEventId : Option String := none
  seenCursors : List String := []
  seenEventIds : List String := []

/-- Identifiers seen after those of the events, each for the first time. -/
def seeEvents (seen : List String) (events : List AuditReportEvent) :
    Except ReportError (List String) :=
  events.foldlM (fun seen event => do
    Fallible.ensure (event.eventId ∉ seen)
      (.pagination "service returned a duplicate audit event")
    return event.eventId :: seen) seen

/-- The snapshot after a page. -/
def checkSnapshot
    (current : Option String)
    (page : AuditReportPage) : Except ReportError (Option String) :=
  match current with
  | none => do
      Fallible.ensure (page.events = [] → page.snapshotEventId = none)
        (.pagination "service returned an incoherent audit snapshot cursor")
      Fallible.ensure (∀ last ∈ page.events.getLast?, page.snapshotEventId = some last.eventId)
        (.pagination "service returned an incoherent audit snapshot cursor")
      return page.snapshotEventId
  | some snapshot => do
      Fallible.ensure (page.snapshotEventId = some snapshot)
        (.pagination "service changed the audit snapshot cursor")
      return some snapshot

/-- Take in a page.  The answer says whether it was the last one. -/
def receivePage (state : ReportState) (page : AuditReportPage) :
    Except ReportError (Bool × ReportState) := do
  Fallible.ensure (state.beforeEventId.isSome → page.events ≠ [])
    (.pagination "service returned an empty audit continuation page")
  let seenEventIds ← seeEvents state.seenEventIds page.events
  let snapshotEventId ← checkSnapshot state.snapshotEventId page
  let pages := state.pages ++ [page.events]
  match page.nextBeforeEventId with
  | none => return (true, { state with pages, seenEventIds, snapshotEventId })
  | some nextBefore =>
      Fallible.ensure (nextBefore ≠ "" ∧ snapshotEventId.isSome ∧
          nextBefore ∉ state.seenCursors ∧
          page.events.head?.map (·.eventId) = some nextBefore)
        (.pagination "service returned an invalid audit page cursor")
      return (false,
        { pages, seenEventIds, snapshotEventId
          beforeEventId := some nextBefore
          seenCursors := nextBefore :: state.seenCursors })

/-- The loop over the pages, with fuel. -/
def collectPages
    (fields : List String)
    (fetch : Nat → AuditCursors → Except RequestError AuditResponse) :
    Nat → Nat → ReportState → Option (Except ReportError ReportState)
  | 0, _, _ => none
  | fuel + 1, index, state =>
      let received := do
        let body ← (fetch index
          { snapshotEventId := state.snapshotEventId
            beforeEventId := state.beforeEventId }).mapError ReportError.request
        let page ← parseAuditReportPage fields body
        receivePage state page
      match received with
      | .error error => some (.error error)
      | .ok (true, after) => some (.ok after)
      | .ok (false, after) => collectPages fields fetch fuel (index + 1) after

/-- All events of the pages, oldest first, with ascending positions. -/
def joinPages (state : ReportState) : Except ReportError (List AuditReportEvent) := do
  let complete := state.pages.reverse.flatten
  Fallible.ensure (∀ pair ∈ complete.zip complete.tail, pair.1.sequence < pair.2.sequence)
    (.pagination "service returned inconsistent audit chronology")
  return complete

/-- What a report is about. -/
structure ReportSubject where
  grantRef : Option String := none
  boundaryId : Option String := none
  requestId : Option String := none
  deriving DecidableEq, Repr

def ReportSubject.filters (subject : ReportSubject) : AuditEventFilters where
  grantRef := subject.grantRef
  boundaryId := subject.boundaryId
  requestId := subject.requestId
  paginate := true
  limit := 100

/-- There is no result when the fuel runs out. -/
def completeAuditEvents
    (fields : List String)
    (logs : Nat → List AuditEvent)
    (workspaceId : String)
    (subject : ReportSubject)
    (fuel : Nat) : Option (Except ReportError (List AuditReportEvent)) :=
  (collectPages fields (fetchPage logs workspaceId subject.filters) fuel 0 {}).map
    fun outcome => outcome.bind joinPages

/-! ## The events of a page are accepted -/

/-- An entry of the log as it is reported. -/
def reportEvent (fields : List String) (entry : Entry) : AuditReportEvent where
  payload := allowlistObject (sequencedBody entry) fields
  eventId := entry.1.eventId
  eventType := entry.1.eventType
  eventClass := entry.1.eventClass
  decision := entry.1.decision.code
  workspaceId := entry.1.workspaceId
  agentId := entry.1.agentId
  grantId := entry.1.grantId
  grantRef := entry.1.grantRef
  boundaryId := entry.1.boundaryId
  createdAt := Datetime.ofInstant entry.1.createdAt
  sequence := entry.2

@[simp] theorem sequence_reportEvent (fields : List String) (entry : Entry) :
    (reportEvent fields entry).sequence = entry.2 :=
  rfl

theorem get?_sequencedBody
    {entry : Entry}
    {field : String}
    {value : Json}
    (present : (field, value) ∈ sequencedBody entry) :
    Json.get? (sequencedBody entry) field = some value := by
  refine Json.get?_of_mem ?_ present
  change ["event_id", "event_type", "decision", "reason", "workspace_id", "agent_id", "grant_id",
    "grant_ref", "action", "resource", "scope_attempted", "scope_matched", "boundary_id",
    "runtime", "boundary_type", "created_at", "enforcing_principal", "reason_code",
    "occurrence_count", "first_seen_at", "last_seen_at", "subject_token_verified", "token_id",
    "event_class", "sequence"].Nodup
  decide

theorem requiredAuditString_eq
    {entry : Entry}
    {field text : String}
    (present : (field, Json.str text) ∈ sequencedBody entry)
    {nonempty : Bool}
    (filled : nonempty = true → text ≠ "") :
    requiredAuditString (sequencedBody entry) field nonempty = .ok text := by
  rw [requiredAuditString, get?_sequencedBody present]
  dsimp only
  rw [if_neg]
  intro refused
  obtain ⟨required, empty⟩ := Bool.and_eq_true_iff.mp refused
  exact filled required (of_decide_eq_true empty)

/-- Texts that a report requires of an event, and whether they may be empty. -/
def requiredTexts (entry : Entry) : List (String × String × Bool) :=
  [("event_id", entry.1.eventId, true), ("event_type", entry.1.eventType, true),
    ("event_class", entry.1.eventClass, true), ("decision", entry.1.decision.code, true),
    ("created_at", isoformat entry.1.createdAt, true),
    ("workspace_id", entry.1.workspaceId, false), ("agent_id", entry.1.agentId, false),
    ("grant_id", entry.1.grantId, false), ("grant_ref", entry.1.grantRef, false)]

theorem parseAuditReportEvent_eq
    (fields : List String)
    {entry : Entry}
    (loggable : Loggable entry.1)
    (positive : 1 ≤ entry.2) :
    parseAuditReportEvent fields (sequencedBody entry) = .ok (reportEvent fields entry) := by
  have read := Datetime.fromisoformat_ofInstant loggable.dated
  have dated : isoformat entry.1.createdAt ≠ "" := by
    intro empty
    rw [isoformat, String.ofList_eq_empty_iff] at empty
    rw [empty] at read
    cases read
  have boundary : optionalAuditString (sequencedBody entry) "boundary_id" =
      .ok entry.1.boundaryId := by
    have present : ("boundary_id", AuditEvent.nullableText entry.1.boundaryId) ∈
        sequencedBody entry := by simp [sequencedBody, auditEventBody]
    rw [optionalAuditString, get?_sequencedBody present]
    cases entry.1.boundaryId <;> rfl
  have sequence : auditSequence (sequencedBody entry) = .ok (entry.2 : Int) := by
    have present : ("sequence", Json.int entry.2) ∈ sequencedBody entry := by simp [sequencedBody]
    rw [auditSequence, get?_sequencedBody present]
    dsimp only
    rw [if_neg (by omega)]
  have decided : entry.1.decision.code ≠ "" ∧ entry.1.decision.code ∈ ["permit", "deny"] := by
    cases entry.1.decision <;> decide
  have classed : entry.1.eventClass ≠ "" := by
    intro empty
    have listed := loggable.classed
    rw [empty] at listed
    exact absurd listed (by decide)
  have texts : ∀ required ∈ requiredTexts entry,
      requiredAuditString (sequencedBody entry) required.1 required.2.2 = .ok required.2.1 := by
    simp only [requiredTexts, List.forall_mem_cons, List.not_mem_nil, false_imp_iff,
      implies_true, and_true]
    refine ⟨?_, ?_, ?_, ?_, ?_, ?_, ?_, ?_, ?_⟩
    all_goals refine requiredAuditString_eq (by simp [sequencedBody, auditEventBody]) ?_
    · exact fun _ => loggable.identified
    · exact fun _ => loggable.typed
    · exact fun _ => classed
    · exact fun _ => decided.1
    · exact fun _ => dated
    all_goals exact fun absent => absurd absent Bool.false_ne_true
  simp only [requiredTexts, List.forall_mem_cons] at texts
  have inClass : Fallible.ensure (entry.1.eventClass ∈ ["control", "decision"]) invalidEvents =
      .ok () := if_pos loggable.classed
  have inDecision : Fallible.ensure (entry.1.decision.code ∈ ["permit", "deny"]) invalidEvents =
      .ok () := if_pos decided.2
  have parsed : Fallible.require (Datetime.fromisoformat (isoformat entry.1.createdAt).toList)
      invalidEvents = .ok (Datetime.ofInstant entry.1.createdAt) := by
    rw [isoformat, String.toList_ofList, read]
    rfl
  simp only [parseAuditReportEvent, texts, boundary, sequence, inClass, inDecision, parsed,
    Fallible.ok_bind, Datetime.asUtc_ofInstant loggable.dated]
  rfl

/-! ## The pages are accepted -/

/-- The entries of a page as they are reported. -/
def reportPage (fields : List String) (page : AuditPage) (entries : List Entry) :
    AuditReportPage where
  events := entries.map (reportEvent fields)
  snapshotEventId := page.snapshotEventId
  nextBeforeEventId := page.nextBeforeEventId

theorem parseAuditCursor_eq {cursor : Option String} (filled : cursor ≠ some "") :
    parseAuditCursor cursor = .ok cursor := by
  cases cursor with
  | none => rfl
  | some text =>
      rw [parseAuditCursor, if_neg]
      intro empty
      exact filled (congrArg some empty)

theorem parseAuditReportPage_eq
    (fields : List String)
    {snapshotEventId : Option String}
    {limit : Nat}
    {remaining : List Entry}
    (accepted : ∀ entry ∈ remaining, Loggable entry.1 ∧ 1 ≤ entry.2)
    (filled : snapshotEventId ≠ some "") :
    parseAuditReportPage fields (.page (pageOf snapshotEventId limit remaining)) =
      .ok (reportPage fields (pageOf snapshotEventId limit remaining)
        (lastOnes (some limit) remaining)) := by
  have events : ((lastOnes (some limit) remaining).map sequencedBody).mapM
      (parseAuditReportEvent fields) =
        .ok ((lastOnes (some limit) remaining).map (reportEvent fields)) := by
    rw [List.mapM_map]
    apply Fallible.mapM_eq_ok
    intro entry present
    obtain ⟨loggable, positive⟩ := accepted entry (mem_of_mem_lastOnes present)
    exact parseAuditReportEvent_eq fields loggable positive
  have identified : ∀ {entry : Option Entry}, (∀ found ∈ entry, found ∈ remaining) →
      entry.map (·.1.eventId) ≠ some "" := by
    intro entry listed isEmpty
    obtain ⟨found, isFound, empty⟩ := Option.map_eq_some_iff.mp isEmpty
    exact (accepted found (listed found isFound)).1.identified empty
  have snapshot : (pageOf snapshotEventId limit remaining).snapshotEventId ≠ some "" := by
    unfold pageOf
    cases snapshotEventId with
    | none => exact identified fun found isLast => List.mem_of_getLast? isLast
    | some snapshot => exact filled
  have before : (pageOf snapshotEventId limit remaining).nextBeforeEventId ≠ some "" := by
    unfold pageOf
    dsimp only
    split
    · exact identified fun found isHead =>
        mem_of_mem_lastOnes (List.mem_of_mem_head? isHead)
    · exact nofun
  simp only [parseAuditReportPage, parseAuditCursor_eq snapshot, parseAuditCursor_eq before]
  rw [show (pageOf snapshotEventId limit remaining).auditEvents =
    (lastOnes (some limit) remaining).map sequencedBody from rfl, events]
  rfl

/-- Events that were not seen before, each once, are seen. -/
theorem seeEvents_eq
    {seen : List String}
    {events : List AuditReportEvent}
    (distinct : (events.map (·.eventId)).Nodup)
    (fresh : ∀ event ∈ events, event.eventId ∉ seen) :
    seeEvents seen events = .ok ((events.map (·.eventId)).reverse ++ seen) := by
  induction events generalizing seen with
  | nil => rfl
  | cons event rest inductionHypothesis =>
      obtain ⟨unique, distinct⟩ := List.nodup_cons.mp distinct
      have later := @inductionHypothesis (event.eventId :: seen) distinct (by
        intro other present
        rw [List.mem_cons, not_or]
        refine ⟨?_, fresh other (List.mem_cons_of_mem event present)⟩
        intro same
        exact unique (List.mem_map.mpr ⟨other, present, same⟩))
      rw [seeEvents, List.foldlM_cons, Fallible.ensure, if_pos (fresh event List.mem_cons_self)]
      rw [List.map_cons, List.reverse_cons, List.append_assoc]
      exact later

/-- The state of the client after it fetched these entries. -/
structure Collected (fields : List String) (fetched : List Entry) (state : ReportState) : Prop where
  pages : state.pages.reverse.flatten = fetched.map (reportEvent fields)
  snapshotEventId : state.snapshotEventId = (cursorsAfter fetched).snapshotEventId
  beforeEventId : state.beforeEventId = (cursorsAfter fetched).beforeEventId
  seenCursors : ∀ eventId ∈ state.seenCursors, ∃ entry ∈ fetched, entry.1.eventId = eventId
  seenEventIds : ∀ eventId ∈ state.seenEventIds, ∃ entry ∈ fetched, entry.1.eventId = eventId

theorem collected_nil (fields : List String) : Collected fields [] {} where
  pages := rfl
  snapshotEventId := rfl
  beforeEventId := rfl
  seenCursors := nofun
  seenEventIds := nofun

theorem checkSnapshot_eq
    (fields : List String)
    {limit : Nat}
    (positive : 0 < limit)
    (remaining fetched : List Entry) :
    checkSnapshot (cursorsAfter fetched).snapshotEventId
        (reportPage fields (pageOf (cursorsAfter fetched).snapshotEventId limit remaining)
          (lastOnes (some limit) remaining)) =
      .ok (pageOf (cursorsAfter fetched).snapshotEventId limit remaining).snapshotEventId := by
  cases (cursorsAfter fetched).snapshotEventId with
  | some snapshot =>
      have kept : Fallible.ensure
          ((reportPage fields (pageOf (some snapshot) limit remaining)
            (lastOnes (some limit) remaining)).snapshotEventId = some snapshot)
          (ReportError.pagination "service changed the audit snapshot cursor") = .ok () := if_pos rfl
      rw [checkSnapshot, kept]
      rfl
  | none =>
      have last : ((lastOnes (some limit) remaining).map (reportEvent fields)).getLast? =
          remaining.getLast?.map (reportEvent fields) := by
        rw [List.getLast?_map, getLast?_lastOnes positive]
      have coherent : ∀ event ∈ ((lastOnes (some limit) remaining).map
          (reportEvent fields)).getLast?,
          (pageOf none limit remaining).snapshotEventId = some event.eventId := by
        intro event isLast
        rw [last] at isLast
        obtain ⟨newest, isNewest, rfl⟩ := Option.map_eq_some_iff.mp isLast
        rw [pageOf, isNewest]
        rfl
      have empty : (lastOnes (some limit) remaining).map (reportEvent fields) = [] →
          (pageOf none limit remaining).snapshotEventId = none := by
        intro isEmpty
        rw [isEmpty] at last
        rw [pageOf, Option.map_eq_none_iff.mp last.symm]
        rfl
      have noEvents : Fallible.ensure
          ((reportPage fields (pageOf none limit remaining)
            (lastOnes (some limit) remaining)).events = [] →
              (reportPage fields (pageOf none limit remaining)
                (lastOnes (some limit) remaining)).snapshotEventId = none)
          (ReportError.pagination "service returned an incoherent audit snapshot cursor") = .ok () :=
        if_pos empty
      have newest : Fallible.ensure
          (∀ last ∈ (reportPage fields (pageOf none limit remaining)
            (lastOnes (some limit) remaining)).events.getLast?,
              (reportPage fields (pageOf none limit remaining)
                (lastOnes (some limit) remaining)).snapshotEventId = some last.eventId)
          (ReportError.pagination "service returned an incoherent audit snapshot cursor") = .ok () :=
        if_pos coherent
      rw [checkSnapshot, noEvents, newest]
      rfl

/-- A page that passes the checks and names no next one is the last. -/
theorem receivePage_last
    {state : ReportState}
    {page : AuditReportPage}
    {seenEventIds : List String}
    {snapshotEventId : Option String}
    (continued : state.beforeEventId.isSome → page.events ≠ [])
    (seen : seeEvents state.seenEventIds page.events = .ok seenEventIds)
    (snapshot : checkSnapshot state.snapshotEventId page = .ok snapshotEventId)
    (last : page.nextBeforeEventId = none) :
    receivePage state page =
      .ok (true, { state with
        pages := state.pages ++ [page.events]
        seenEventIds
        snapshotEventId }) := by
  have notEmpty : Fallible.ensure (state.beforeEventId.isSome = true → page.events ≠ [])
      (ReportError.pagination "service returned an empty audit continuation page") = .ok () :=
    if_pos continued
  simp only [receivePage, notEmpty, seen, snapshot, last, bind, Except.bind]
  rfl

/-- A page that passes the checks and names its oldest event is followed by another. -/
theorem receivePage_next
    {state : ReportState}
    {page : AuditReportPage}
    {seenEventIds : List String}
    {snapshotEventId : Option String}
    {nextBefore : String}
    (continued : state.beforeEventId.isSome → page.events ≠ [])
    (seen : seeEvents state.seenEventIds page.events = .ok seenEventIds)
    (snapshot : checkSnapshot state.snapshotEventId page = .ok snapshotEventId)
    (next : page.nextBeforeEventId = some nextBefore)
    (valid : nextBefore ≠ "" ∧ snapshotEventId.isSome ∧ nextBefore ∉ state.seenCursors ∧
      page.events.head?.map (·.eventId) = some nextBefore) :
    receivePage state page =
      .ok (false,
        { pages := state.pages ++ [page.events]
          seenEventIds
          snapshotEventId
          beforeEventId := some nextBefore
          seenCursors := nextBefore :: state.seenCursors }) := by
  have notEmpty : Fallible.ensure (state.beforeEventId.isSome = true → page.events ≠ [])
      (ReportError.pagination "service returned an empty audit continuation page") = .ok () :=
    if_pos continued
  have isValid : Fallible.ensure (nextBefore ≠ "" ∧ snapshotEventId.isSome = true ∧
      nextBefore ∉ state.seenCursors ∧ page.events.head?.map (·.eventId) = some nextBefore)
      (ReportError.pagination "service returned an invalid audit page cursor") = .ok () :=
    if_pos valid
  simp only [receivePage, notEmpty, seen, snapshot, next, bind, Except.bind, isValid]
  rfl

section Receive

variable {fields : List String} {remaining fetched : List Entry} {state : ReportState} {limit : Nat}

/-- A page of the endpoint passes every check of the client. -/
theorem receivePage_eq
    (positive : 0 < limit)
    (collected : Collected fields fetched state)
    (distinct : ((remaining ++ fetched).map (·.1.eventId)).Nodup)
    (identified : ∀ entry ∈ remaining, entry.1.eventId ≠ "")
    (more : fetched ≠ [] → remaining ≠ []) :
    ∃ after, receivePage state (reportPage fields
        (pageOf (cursorsAfter fetched).snapshotEventId limit remaining)
        (lastOnes (some limit) remaining)) = .ok (decide (remaining.length ≤ limit), after) ∧
      after.pages.reverse.flatten =
        (lastOnes (some limit) remaining ++ fetched).map (reportEvent fields) ∧
      (limit < remaining.length →
        Collected fields (lastOnes (some limit) remaining ++ fetched) after) := by
  have continued : state.beforeEventId.isSome = true →
      (lastOnes (some limit) remaining).map (reportEvent fields) ≠ [] := by
    intro isSome isEmpty
    have length := length_lastOnes limit remaining
    rw [List.map_eq_nil_iff.mp isEmpty, List.length_nil] at length
    rw [collected.beforeEventId, cursorsAfter] at isSome
    have nonempty : fetched ≠ [] := by
      rintro rfl
      cases isSome
    have := List.length_pos_iff.mpr (more nonempty)
    omega
  have apart : ∀ entry ∈ remaining, ∀ other ∈ fetched, entry.1.eventId ≠ other.1.eventId := by
    intro entry isEntry other isOther same
    rw [List.map_append] at distinct
    exact (List.nodup_append.mp distinct).2.2 _ (List.mem_map_of_mem isEntry) _
      (List.mem_map_of_mem isOther) same
  have seen : seeEvents state.seenEventIds
      ((lastOnes (some limit) remaining).map (reportEvent fields)) =
        .ok (((lastOnes (some limit) remaining).map (·.1.eventId)).reverse ++
          state.seenEventIds) := by
    have ids : ((lastOnes (some limit) remaining).map (reportEvent fields)).map (·.eventId) =
        (lastOnes (some limit) remaining).map (·.1.eventId) := by
      rw [List.map_map]
      rfl
    rw [← ids]
    apply seeEvents_eq
    · rw [ids]
      rw [List.map_append] at distinct
      exact (List.nodup_append.mp distinct).1.sublist ((List.drop_sublist _ _).map _)
    · intro event present wasSeen
      obtain ⟨entry, isEntry, rfl⟩ := List.mem_map.mp present
      obtain ⟨other, isOther, same⟩ := collected.seenEventIds _ wasSeen
      exact apart entry (mem_of_mem_lastOnes isEntry) other isOther same.symm
  have snapshot := checkSnapshot_eq fields positive remaining fetched
  rw [← collected.snapshotEventId] at snapshot
  have flattened : (state.pages ++ [(lastOnes (some limit) remaining).map
      (reportEvent fields)]).reverse.flatten =
        (lastOnes (some limit) remaining ++ fetched).map (reportEvent fields) := by
    rw [List.reverse_append, List.reverse_singleton, List.singleton_append, List.flatten_cons,
      collected.pages, List.map_append]
  rw [← collected.snapshotEventId]
  by_cases following : limit < remaining.length
  · have cursors := @cursors_pageOf remaining fetched limit positive following
    rw [← collected.snapshotEventId] at cursors
    obtain ⟨sameSnapshot, sameBefore, isSome⟩ := cursors
    obtain ⟨before, isBefore⟩ := Option.isSome_iff_exists.mp isSome
    have isNext := sameBefore.trans isBefore
    have oldest : (lastOnes (some limit) remaining).head?.map (·.1.eventId) = some before := by
      rw [pageOf, if_pos following] at isNext
      exact isNext
    obtain ⟨entry, isOldest, rfl⟩ := Option.map_eq_some_iff.mp oldest
    have onPage := List.mem_of_mem_head? isOldest
    have isRemaining := mem_of_mem_lastOnes onPage
    have valid : entry.1.eventId ≠ "" ∧
        (pageOf state.snapshotEventId limit remaining).snapshotEventId.isSome ∧
        entry.1.eventId ∉ state.seenCursors ∧
        ((lastOnes (some limit) remaining).map (reportEvent fields)).head?.map (·.eventId) =
          some entry.1.eventId := by
      refine ⟨identified entry isRemaining, ?_, ?_, ?_⟩
      · rw [sameSnapshot, cursorsAfter, Option.isSome_map, Option.isSome_iff_ne_none, ne_eq,
          List.getLast?_eq_none_iff]
        exact List.ne_nil_of_mem (List.mem_append_left _ onPage)
      · intro wasSeen
        obtain ⟨other, isOther, same⟩ := collected.seenCursors _ wasSeen
        exact apart entry isRemaining other isOther same.symm
      · rw [List.head?_map, isOldest]
        rfl
    have received := receivePage_next continued seen snapshot isNext valid
    rw [← decide_eq_false (Nat.not_le_of_lt following)] at received
    refine ⟨_, received, flattened, fun _ => ⟨flattened, sameSnapshot, isBefore.symm, ?_, ?_⟩⟩
    · intro eventId present
      rcases List.mem_cons.mp present with rfl | earlier
      · exact ⟨entry, List.mem_append_left _ onPage, rfl⟩
      · obtain ⟨other, isOther, same⟩ := collected.seenCursors _ earlier
        exact ⟨other, List.mem_append_right _ isOther, same⟩
    · intro eventId present
      rcases List.mem_append.mp present with onThis | earlier
      · obtain ⟨other, isOther, same⟩ := List.mem_map.mp (List.mem_reverse.mp onThis)
        exact ⟨other, List.mem_append_left _ isOther, same⟩
      · obtain ⟨other, isOther, same⟩ := collected.seenEventIds _ earlier
        exact ⟨other, List.mem_append_right _ isOther, same⟩
  · have received := receivePage_last continued seen snapshot (if_neg following)
    rw [← decide_eq_true (Nat.le_of_not_lt following)] at received
    exact ⟨_, received, flattened, fun isMore => absurd isMore following⟩

end Receive

/-! ## The whole loop -/

/-- Entries that a request matches are events that the client accepts. -/
theorem accepted_of_mem_matching
    (logs : GrowingLog)
    {filters : AuditFilters}
    {entry : Entry}
    (present : entry ∈ matching filters (logs.at_ 0)) :
    Loggable entry.1 ∧ 1 ≤ entry.2 := by
  have inLog := (mem_matching present).1
  exact ⟨(logs.logged 0).loggable entry.1 (List.fst_mem_of_mem_zipIdx inLog),
    (position_of_mem_positioned inLog).1⟩

theorem nodup_eventId_matching
    (logs : GrowingLog)
    (filters : AuditFilters) :
    ((matching filters (logs.at_ 0)).map (·.1.eventId)).Nodup := by
  have distinct := (logs.logged 0).distinct
  rw [← map_eventId_positioned] at distinct
  exact distinct.sublist (List.filter_sublist.map _)

/-- The loop ends, with the pages of all entries that matched at the first request. -/
theorem collectPages_eq
    (logs : GrowingLog)
    (request : PageRequest)
    (fields : List String)
    {fuel : Nat}
    {remaining fetched : List Entry}
    {state : ReportState}
    (isSplit : matching request.read (logs.at_ 0) = remaining ++ fetched)
    (collected : Collected fields fetched state)
    (more : fetched ≠ [] → remaining ≠ [])
    {index : Nat}
    (start : fetched = [] → index = 0)
    (enough : remaining.length < fuel) :
    ∃ after, collectPages fields (fetchPage logs.at_ request.workspaceId request.filters) fuel
        index state = some (.ok after) ∧
      after.pages.reverse.flatten =
        (matching request.read (logs.at_ 0)).map (reportEvent fields) := by
  induction fuel generalizing remaining fetched state index with
  | zero => omega
  | succ fuel inductionHypothesis =>
      have accepted : ∀ entry ∈ remaining ++ fetched, Loggable entry.1 ∧ 1 ≤ entry.2 := by
        intro entry present
        rw [← isSplit] at present
        exact accepted_of_mem_matching logs present
      have distinct := nodup_eventId_matching logs request.read
      rw [isSplit] at distinct
      have filled : (cursorsAfter fetched).snapshotEventId ≠ some "" := by
        intro isEmpty
        obtain ⟨newest, isNewest, empty⟩ := Option.map_eq_some_iff.mp isEmpty
        have isFetched := List.mem_append_right remaining (List.mem_of_getLast? isNewest)
        exact (accepted newest isFetched).1.identified empty
      have positive := request.accepted.limit.1
      have fetches := fetchPage_eq logs request isSplit start
      have parsed := @parseAuditReportPage_eq fields _ request.filters.limit remaining
        (fun entry present => accepted entry (List.mem_append_left fetched present)) filled
      obtain ⟨after, received, flattened, goesOn⟩ := receivePage_eq positive collected distinct
        (fun entry present => (accepted entry (List.mem_append_left fetched present)).1.identified)
        more
      have cursors : ({ snapshotEventId := state.snapshotEventId
                        beforeEventId := state.beforeEventId } : AuditCursors) =
          cursorsAfter fetched := by
        rw [collected.snapshotEventId, collected.beforeEventId]
      have receives : (do
          let body ← (fetchPage logs.at_ request.workspaceId request.filters index
            { snapshotEventId := state.snapshotEventId
              beforeEventId := state.beforeEventId }).mapError ReportError.request
          let page ← parseAuditReportPage fields body
          receivePage state page) =
            .ok (decide (remaining.length ≤ request.filters.limit), after) := by
        rw [cursors, fetches]
        refine Eq.trans ?_ received
        change (parseAuditReportPage fields _).bind _ = _
        rw [parsed]
        rfl
      rw [collectPages, receives]
      have split := split_lastOnes request.filters.limit remaining
      by_cases following : request.filters.limit < remaining.length
      · rw [decide_eq_false (Nat.not_le_of_lt following)]
        have shorter : (remaining.take (remaining.length - request.filters.limit)).length =
            remaining.length - request.filters.limit := by
          rw [List.length_take]
          omega
        refine @inductionHypothesis (remaining.take (remaining.length - request.filters.limit)) _ _
          ?_ (goesOn following) ?_ _ ?_ ?_
        · rw [← List.append_assoc, split, isSplit]
        · intro _ isEmpty
          rw [isEmpty, List.length_nil] at shorter
          omega
        · intro isEmpty
          have length := length_lastOnes request.filters.limit remaining
          rw [(List.append_eq_nil_iff.mp isEmpty).1, List.length_nil] at length
          omega
        · omega
      · have isShort := Nat.le_of_not_lt following
        rw [decide_eq_true isShort]
        refine ⟨after, rfl, ?_⟩
        rw [flattened, lastOnes_eq_self isShort, isSplit]

/-- Positions that ascend pass the last check of the client. -/
theorem joinPages_eq
    {fields : List String}
    {entries : List Entry}
    {state : ReportState}
    (flattened : state.pages.reverse.flatten = entries.map (reportEvent fields))
    (sorted : entries.Pairwise fun first second => first.2 < second.2) :
    joinPages state = .ok (entries.map (reportEvent fields)) := by
  have ascends : ∀ pair ∈ (entries.map (reportEvent fields)).zip
      (entries.map (reportEvent fields)).tail, pair.1.sequence < pair.2.sequence := by
    clear flattened
    induction entries with
    | nil =>
        rw [List.map_nil, List.zip_nil_left]
        exact List.forall_mem_nil _
    | cons first rest inductionHypothesis =>
        obtain ⟨below, sorted⟩ := List.pairwise_cons.mp sorted
        cases rest with
        | nil =>
            rw [List.map_singleton, List.tail_cons, List.zip_nil_right]
            exact List.forall_mem_nil _
        | cons second others =>
            have next := inductionHypothesis sorted
            rw [List.map_cons, List.tail_cons] at next
            rw [List.map_cons, List.map_cons, List.tail_cons, List.zip_cons_cons,
              List.forall_mem_cons, sequence_reportEvent, sequence_reportEvent]
            exact ⟨Int.ofNat_lt.mpr (below second List.mem_cons_self), next⟩
  have ordered : Fallible.ensure (∀ pair ∈ state.pages.reverse.flatten.zip
      state.pages.reverse.flatten.tail, pair.1.sequence < pair.2.sequence)
      (ReportError.pagination "service returned inconsistent audit chronology") = .ok () := by
    rw [flattened, Fallible.ensure, if_pos ascends]
  rw [joinPages, ordered, ← flattened]
  rfl

/-- A subject of a report.  The report reads it under its name first, which is refused
when it is empty. -/
structure NamedSubject extends ReportSubject where
  named : ∀ pair ∈ requestPairs toReportSubject.filters, pair.2 ≠ some ""

/-- The request for the first page about a subject. -/
def NamedSubject.request (subject : NamedSubject) (workspaceId : String) : PageRequest where
  workspaceId
  filters := subject.filters
  accepted :=
    { texts := subject.named
      eventClass := nofun
      limit := ⟨Nat.le_of_ble_eq_true rfl, Nat.le_refl 100⟩
      paginate := rfl
      cursors := nofun }
  isFirst := ⟨rfl, rfl⟩

theorem completeAuditEvents_eq
    (logs : GrowingLog)
    (workspaceId : String)
    (fields : List String)
    (subject : NamedSubject)
    {fuel : Nat}
    (enough : (matching (subject.request workspaceId).read (logs.at_ 0)).length < fuel) :
    completeAuditEvents fields logs.at_ workspaceId subject.toReportSubject fuel =
      some (.ok ((matching (subject.request workspaceId).read (logs.at_ 0)).map
        (reportEvent fields))) := by
  obtain ⟨after, collects, flattened⟩ := collectPages_eq logs (subject.request workspaceId) fields
    (List.append_nil _).symm (collected_nil fields) (fun nonempty => absurd rfl nonempty)
    (fun _ => rfl) enough
  have joined := joinPages_eq flattened (sorted_matching _ _)
  change (collectPages fields (fetchPage logs.at_ workspaceId subject.filters) fuel 0 {}) =
    some (.ok after) at collects
  rw [completeAuditEvents, collects]
  exact congrArg some joined

/-- Following the cursors ends.  The pages, last one first, are the events that match up
to the newest one of the first request, in the order of their positions and each once,
whatever was appended meanwhile; and a report about a subject has the same events. -/
theorem pages_are_complete
    (logs : GrowingLog)
    (request : PageRequest)
    (index : Nat) :
    (matchingUpTo request.read (logs.at_ 0) (logs.at_ index)).Pairwise
        (fun first second => first.2 < second.2) ∧
      ((matchingUpTo request.read (logs.at_ 0) (logs.at_ index)).map (·.1.eventId)).Nodup ∧
      (∃ bound, ∀ fuel, bound < fuel →
        ∃ pages, followPages (fetchPage logs.at_ request.workspaceId request.filters) fuel 0 {} =
            some pages ∧
          pages.reverse.flatMap (·.auditEvents) =
            (matchingUpTo request.read (logs.at_ 0) (logs.at_ index)).map sequencedBody) ∧
      (∀ (fields : List String) (subject : NamedSubject),
        ∃ bound, ∀ fuel, bound < fuel →
          completeAuditEvents fields logs.at_ request.workspaceId subject.toReportSubject fuel =
            some (.ok ((matchingUpTo (subject.request request.workspaceId).read (logs.at_ 0)
              (logs.at_ index)).map (reportEvent fields)))) := by
  have growth := logs.prefix_start index
  rw [matchingUpTo_eq growth]
  refine ⟨sorted_matching _ _, nodup_eventId_matching logs _,
    ⟨(matching request.read (logs.at_ 0)).length, fun fuel enough => ?_⟩, ?_⟩
  · exact followPages_eq logs request (List.append_nil _).symm (fun _ => rfl) enough
  · intro fields subject
    rw [matchingUpTo_eq growth]
    exact ⟨_, fun fuel enough =>
      completeAuditEvents_eq logs request.workspaceId fields subject enough⟩

def earlierToken : AuditEvent := { tokenEvent with eventId := "evt_0" }

/-- A log that an event is appended to after the first request. -/
def growingTokens : GrowingLog where
  at_ index := earlierToken :: if index = 0 then [] else [tokenEvent]
  grows index := by
    rcases Nat.eq_zero_or_pos index with rfl | later
    · exact ⟨[tokenEvent], rfl⟩
    · have same : (if index = 0 then [] else [tokenEvent]) =
          if index + 1 = 0 then [] else [tokenEvent] := by
        rw [if_neg later.ne', if_neg (Nat.succ_ne_zero index)]
      exact ⟨[], by rw [List.append_nil, same]⟩
  logged index := by
    have earlier : Loggable earlierToken :=
      ⟨by decide, by decide, by decide, Datetime.representable_epoch⟩
    have later : Loggable tokenEvent :=
      ⟨by decide, by decide, by decide, Datetime.representable_epoch⟩
    split
    · exact ⟨by decide, by simpa using earlier⟩
    · exact ⟨by decide, by simpa using ⟨earlier, later⟩⟩

/-- The page of the only event that matched first. -/
example :
    (matchingUpTo ({ workspaceId := "ws" } : AuditFilters) (growingTokens.at_ 0)
      (growingTokens.at_ 1)).map (·.2) = [1] := by
  decide

end CompleteReports
end Vinctor
