import Vinctor.Service.CompleteReports

/-!
# Reports of any service

The client checks every answer, so what it reports is coherent even when the
service is not the one of this repository.  A service is any answer to each
request, with a JSON body of any shape; a report that the client returns is then
the pages of the answers, newest page last, under one snapshot.
-/

namespace Vinctor
namespace CompleteReports

open Foundation
open AuditChain
open AuditReference
open AuditPages
open AuditPagination

/-! ## Bodies of any shape -/

def parseRawAuditReportEvent (fields : List String) : Json → Except ReportError AuditReportEvent
  | .obj rawEvent => parseAuditReportEvent fields rawEvent
  | _ => .error invalidEvents

def parseRawAuditCursor : Json → Except ReportError (Option String)
  | .null => .ok none
  | .str text => parseAuditCursor (some text)
  | _ => .error (.pagination "service returned an invalid audit page cursor")

def omittedMetadata : ReportError := .pagination "service omitted audit pagination metadata"

/-- Cursors of the metadata of a page. -/
def parsePageMetadata (body : List (String × Json)) :
    Except ReportError (Option String × Option String) :=
  match Json.get? body "page" with
  | some (.obj page) =>
      match Json.get? page "snapshot_event_id", Json.get? page "next_before_event_id" with
      | some snapshot, some nextBefore => do
          let snapshotEventId ← parseRawAuditCursor snapshot
          let nextBeforeEventId ← parseRawAuditCursor nextBefore
          return (snapshotEventId, nextBeforeEventId)
      | _, _ => .error omittedMetadata
  | _ => .error omittedMetadata

def parseAuditReportBody (fields : List String) : Json → Except ReportError AuditReportPage
  | .obj body =>
      match Json.get? body "audit_events" with
      | some (.arr rawEvents) => do
          let events ← rawEvents.mapM (parseRawAuditReportEvent fields)
          let (snapshotEventId, nextBeforeEventId) ← parsePageMetadata body
          return { events, snapshotEventId, nextBeforeEventId }
      | _ => .error invalidEvents
  | _ => .error invalidEvents

/-- The loop over the pages of any service, with fuel. -/
def collectReport
    (fields : List String)
    (fetch : Nat → AuditCursors → Except ReportError Json) :
    Nat → Nat → ReportState → Option (Except ReportError ReportState)
  | 0, _, _ => none
  | fuel + 1, index, state =>
      let received := do
        let body ← fetch index
          { snapshotEventId := state.snapshotEventId
            beforeEventId := state.beforeEventId }
        let page ← parseAuditReportBody fields body
        receivePage state page
      match received with
      | .error error => some (.error error)
      | .ok (true, after) => some (.ok after)
      | .ok (false, after) => collectReport fields fetch fuel (index + 1) after

/-- What the client returns against a service; nothing while it still asks for
pages. -/
def completeReport
    (fields : List String)
    (fetch : Nat → AuditCursors → Except ReportError Json)
    (fuel : Nat) : Option (Except ReportError (List AuditReportEvent)) :=
  (collectReport fields fetch fuel 0 {}).map fun outcome => outcome.bind joinPages

/-! ## The endpoint as one of the services -/

/-- Body of an answer of the endpoint. -/
def auditResponseBody : AuditResponse → Json
  | .page page =>
      .obj [("audit_events", .arr (page.auditEvents.map .obj)),
        ("page", .obj [("snapshot_event_id", AuditEvent.nullableText page.snapshotEventId),
          ("next_before_event_id", AuditEvent.nullableText page.nextBeforeEventId)])]
  | .events events => .obj [("audit_events", .arr (events.map .obj))]

theorem parseRawAuditCursor_nullableText (cursor : Option String) :
    parseRawAuditCursor (AuditEvent.nullableText cursor) = parseAuditCursor cursor := by
  cases cursor with
  | none => rfl
  | some text => rfl

theorem mapM_parseRaw_obj (fields : List String) (events : List (List (String × Json))) :
    (events.map Json.obj).mapM (parseRawAuditReportEvent fields) =
      events.mapM (parseAuditReportEvent fields) := by
  rw [List.mapM_map]
  rfl

/-- The client reads an answer of the endpoint from its body. -/
theorem parseAuditReportBody_auditResponseBody
    (fields : List String)
    (response : AuditResponse) :
    parseAuditReportBody fields (auditResponseBody response) =
      parseAuditReportPage fields response := by
  cases response with
  | page page =>
      have metadata : parsePageMetadata
          [("audit_events", .arr (page.auditEvents.map .obj)),
            ("page", .obj [("snapshot_event_id", AuditEvent.nullableText page.snapshotEventId),
              ("next_before_event_id", AuditEvent.nullableText page.nextBeforeEventId)])] =
          (do
            let snapshotEventId ← parseAuditCursor page.snapshotEventId
            let nextBeforeEventId ← parseAuditCursor page.nextBeforeEventId
            return (snapshotEventId, nextBeforeEventId)) := by
        rw [← parseRawAuditCursor_nullableText, ← parseRawAuditCursor_nullableText]
        rfl
      have body : parseAuditReportBody fields (auditResponseBody (.page page)) =
          (do
            let events ← (page.auditEvents.map Json.obj).mapM (parseRawAuditReportEvent fields)
            let (snapshotEventId, nextBeforeEventId) ← parsePageMetadata
              [("audit_events", .arr (page.auditEvents.map .obj)),
                ("page", .obj [("snapshot_event_id", AuditEvent.nullableText page.snapshotEventId),
                  ("next_before_event_id", AuditEvent.nullableText page.nextBeforeEventId)])]
            return { events, snapshotEventId, nextBeforeEventId }) := rfl
      rw [body, mapM_parseRaw_obj, metadata, parseAuditReportPage]
      simp only [bind_assoc, pure_bind]
  | events events =>
      have body : parseAuditReportBody fields (auditResponseBody (.events events)) =
          ((events.map Json.obj).mapM (parseRawAuditReportEvent fields) >>= fun _ =>
            .error omittedMetadata) := rfl
      rw [body, mapM_parseRaw_obj, parseAuditReportPage]
      rfl

/-- Answers of an endpoint as those of a service. -/
def bodiesOf (fetch : Nat → AuditCursors → Except RequestError AuditResponse) :
    Nat → AuditCursors → Except ReportError Json :=
  fun index cursors => ((fetch index cursors).mapError ReportError.request).map auditResponseBody

/-- The loop against the endpoint is the loop against a service. -/
theorem collectPages_eq_collectReport
    (fields : List String)
    (fetch : Nat → AuditCursors → Except RequestError AuditResponse)
    (fuel index : Nat)
    (state : ReportState) :
    collectPages fields fetch fuel index state =
      collectReport fields (bodiesOf fetch) fuel index state := by
  induction fuel generalizing index state with
  | zero => rfl
  | succ fuel inductionHypothesis =>
      rw [collectPages, collectReport, bodiesOf]
      cases fetch index ⟨state.snapshotEventId, state.beforeEventId⟩ with
      | error error => rfl
      | ok response =>
          have read : (do
              let page ← parseAuditReportBody fields (auditResponseBody response)
              receivePage state page) =
                (do
                  let page ← parseAuditReportPage fields response
                  receivePage state page) := by
            rw [parseAuditReportBody_auditResponseBody]
          simp only [Except.mapError, Except.map, Fallible.ok_bind, inductionHypothesis]
          exact read ▸ rfl

/-- The report against the endpoint is the report against a service. -/
theorem completeAuditEvents_eq_completeReport
    (fields : List String)
    (logs : Nat → List AuditEvent)
    (workspaceId : String)
    (subject : ReportSubject)
    (fuel : Nat) :
    completeAuditEvents fields logs workspaceId subject fuel =
      completeReport fields (bodiesOf (fetchPage logs workspaceId subject.filters)) fuel := by
  rw [completeAuditEvents, collectPages_eq_collectReport]
  rfl

/-! ## One page -/

/-- Events that pass the check for duplicates are distinct and new. -/
theorem seeEvents_eq_ok
    {seen after : List String}
    {events : List AuditReportEvent}
    (sees : seeEvents seen events = .ok after) :
    (events.map (·.eventId)).Nodup ∧
      (∀ eventId ∈ events.map (·.eventId), eventId ∉ seen) ∧
      ∀ eventId, eventId ∈ after ↔ eventId ∈ seen ∨ eventId ∈ events.map (·.eventId) := by
  induction events generalizing seen with
  | nil =>
      cases sees
      simp
  | cons event rest inductionHypothesis =>
      rw [seeEvents, List.foldlM_cons, Fallible.bind_eq_ok] at sees
      obtain ⟨next, step, sees⟩ := sees
      obtain ⟨_, fresh, step⟩ := Fallible.bind_eq_ok.mp step
      cases step
      have isFresh : event.eventId ∉ seen := Fallible.ensure_eq_ok.mp fresh
      obtain ⟨distinct, apart, members⟩ := inductionHypothesis sees
      refine ⟨?_, ?_, ?_⟩
      · rw [List.map_cons, List.nodup_cons]
        exact ⟨fun again => apart _ again List.mem_cons_self, distinct⟩
      · intro eventId present
        rcases List.mem_cons.mp present with rfl | later
        · exact isFresh
        · exact fun wasSeen => apart eventId later (List.mem_cons_of_mem _ wasSeen)
      · intro eventId
        rw [members, List.mem_cons, List.map_cons, List.mem_cons]
        tauto

/-- The snapshot that a page may announce: the one that stands, and the newest
event of the first page. -/
theorem checkSnapshot_eq_ok
    {current snapshot : Option String}
    {page : AuditReportPage}
    (checks : checkSnapshot current page = .ok snapshot) :
    page.snapshotEventId = snapshot ∧
      (current = none → snapshot = page.events.getLast?.map (·.eventId)) ∧
      (current.isSome → snapshot = current) := by
  cases current with
  | none =>
      obtain ⟨_, empty, checks⟩ := Fallible.bind_eq_ok.mp checks
      obtain ⟨_, newest, checks⟩ := Fallible.bind_eq_ok.mp checks
      cases checks
      have isNone := Fallible.ensure_eq_ok.mp empty
      have isNewest := Fallible.ensure_eq_ok.mp newest
      refine ⟨rfl, fun _ => ?_, fun absent => by cases absent⟩
      cases found : page.events.getLast? with
      | none => exact isNone (List.getLast?_eq_none_iff.mp found)
      | some last => exact isNewest last found
  | some standing =>
      obtain ⟨_, same, checks⟩ := Fallible.bind_eq_ok.mp checks
      cases checks
      exact ⟨Fallible.ensure_eq_ok.mp same, fun absent => (by cases absent), fun _ => rfl⟩

/-- What a page that passes the checks is, and the state after it. -/
structure Accepts
    (state : ReportState)
    (page : AuditReportPage)
    (done : Bool)
    (after : ReportState) : Prop where
  seen : seeEvents state.seenEventIds page.events = .ok after.seenEventIds
  snapshot : checkSnapshot state.snapshotEventId page = .ok after.snapshotEventId
  pages : after.pages = state.pages ++ [page.events]
  last : done = true → page.nextBeforeEventId = none
  next : done = false →
    page.nextBeforeEventId = after.beforeEventId ∧ after.snapshotEventId.isSome

theorem receivePage_eq_ok
    {state after : ReportState}
    {page : AuditReportPage}
    {done : Bool}
    (receives : receivePage state page = .ok (done, after)) :
    Accepts state page done after := by
  obtain ⟨_, -, receives⟩ := Fallible.bind_eq_ok.mp receives
  obtain ⟨seenEventIds, seen, receives⟩ := Fallible.bind_eq_ok.mp receives
  obtain ⟨snapshotEventId, snapshot, receives⟩ := Fallible.bind_eq_ok.mp receives
  dsimp only at receives
  cases next : page.nextBeforeEventId with
  | none =>
      rw [next] at receives
      cases receives
      exact ⟨seen, snapshot, rfl, fun _ => next, fun absent => by cases absent⟩
  | some nextBefore =>
      rw [next] at receives
      obtain ⟨_, valid, receives⟩ := Fallible.bind_eq_ok.mp receives
      cases receives
      exact ⟨seen, snapshot, rfl, fun absent => (by cases absent),
        fun _ => ⟨next, (Fallible.ensure_eq_ok.mp valid).2.1⟩⟩

/-! ## All pages of a report -/

/-- Cursors that the client sends after these pages. -/
def cursorsOf (pages : List AuditReportPage) : AuditCursors where
  snapshotEventId := pages.head?.bind (·.snapshotEventId)
  beforeEventId := pages.getLast?.bind (·.nextBeforeEventId)

/-- Every page is what the service answered to the cursors of those before it. -/
def Fetched
    (fields : List String)
    (fetch : Nat → AuditCursors → Except ReportError Json)
    (pages : List AuditReportPage) : Prop :=
  ∀ earlier page later, pages = earlier ++ page :: later →
    ∃ body, fetch earlier.length (cursorsOf earlier) = .ok body ∧
      parseAuditReportBody fields body = .ok page

/-- Events of the pages, those of the last page first. -/
def reported (pages : List AuditReportPage) : List AuditReportEvent :=
  pages.reverse.flatMap (·.events)

theorem reported_concat (pages : List AuditReportPage) (page : AuditReportPage) :
    reported (pages ++ [page]) = page.events ++ reported pages := by
  rw [reported, List.reverse_append, List.reverse_singleton, List.singleton_append,
    List.flatMap_cons, ← reported]

/-- Pages that the client accepted, and its state after them. -/
structure Received
    (fields : List String)
    (fetch : Nat → AuditCursors → Except ReportError Json)
    (pages : List AuditReportPage)
    (state : ReportState) : Prop where
  fetched : Fetched fields fetch pages
  kept : state.pages = pages.map (·.events)
  distinct : ((reported pages).map (·.eventId)).Nodup
  seen : ∀ eventId, eventId ∈ state.seenEventIds ↔ eventId ∈ (reported pages).map (·.eventId)
  announced : ∀ page ∈ pages, page.snapshotEventId = state.snapshotEventId
  newest : state.snapshotEventId = (reported pages).getLast?.map (·.eventId)

/-- The client asks for the page after those that it accepted. -/
structure Continues (pages : List AuditReportPage) (state : ReportState) : Prop where
  cursors : ⟨state.snapshotEventId, state.beforeEventId⟩ = cursorsOf pages
  started : pages ≠ [] → state.snapshotEventId.isSome

theorem received_nil
    (fields : List String)
    (fetch : Nat → AuditCursors → Except ReportError Json) :
    Received fields fetch [] {} where
  fetched earlier page later isSplit := by simp at isSplit
  kept := rfl
  distinct := List.nodup_nil
  seen eventId := Iff.rfl
  announced page absent := by cases absent
  newest := rfl

theorem continues_nil : Continues [] {} where
  cursors := rfl
  started nonempty := absurd rfl nonempty

variable {fields : List String} {fetch : Nat → AuditCursors → Except ReportError Json}
variable {pages : List AuditReportPage} {state after : ReportState} {page : AuditReportPage}

theorem Fetched.concat
    (fetched : Fetched fields fetch pages)
    {body : Json}
    (answers : fetch pages.length (cursorsOf pages) = .ok body)
    (parses : parseAuditReportBody fields body = .ok page) :
    Fetched fields fetch (pages ++ [page]) := by
  intro earlier found later isSplit
  rcases List.eq_nil_or_concat' later with rfl | ⟨rest, last, rfl⟩
  · obtain ⟨rfl, same⟩ := List.append_inj' isSplit rfl
    cases same
    exact ⟨body, answers, parses⟩
  · rw [← List.cons_append, ← List.append_assoc] at isSplit
    exact fetched earlier found rest (List.append_inj' isSplit rfl).1

/-- A page that the client accepts joins the pages before it. -/
theorem Received.concat
    (received : Received fields fetch pages state)
    (continues : Continues pages state)
    {body : Json}
    (answers : fetch pages.length ⟨state.snapshotEventId, state.beforeEventId⟩ = .ok body)
    (parses : parseAuditReportBody fields body = .ok page)
    {done : Bool}
    (accepts : Accepts state page done after) :
    Received fields fetch (pages ++ [page]) after := by
  obtain ⟨distinct, apart, members⟩ := seeEvents_eq_ok accepts.seen
  obtain ⟨same, first, later⟩ := checkSnapshot_eq_ok accepts.snapshot
  rw [continues.cursors] at answers
  have ids : (reported (pages ++ [page])).map (·.eventId) =
      page.events.map (·.eventId) ++ (reported pages).map (·.eventId) := by
    rw [reported_concat, List.map_append]
  refine ⟨received.fetched.concat answers parses, ?_, ?_, ?_, ?_, ?_⟩
  · rw [accepts.pages, received.kept, List.map_append, List.map_singleton]
  · rw [ids, List.nodup_append]
    refine ⟨distinct, received.distinct, ?_⟩
    rintro eventId onPage _ before rfl
    exact apart eventId onPage ((received.seen eventId).mpr before)
  · intro eventId
    rw [members, received.seen, ids, List.mem_append, or_comm]
  · intro other present
    rcases List.mem_append.mp present with earlier | last
    · have standing := continues.started (List.ne_nil_of_mem earlier)
      rw [received.announced other earlier, later standing]
    · rw [List.mem_singleton.mp last, same]
  · rw [reported_concat]
    cases standing : state.snapshotEventId with
    | none =>
        have empty : pages = [] := by
          by_contra nonempty
          have := continues.started nonempty
          rw [standing] at this
          cases this
        rw [first standing, empty]
        simp [reported]
    | some snapshot =>
        have newest := received.newest
        rw [later (by rw [standing]; rfl), newest]
        rw [standing] at newest
        obtain ⟨last, isLast, -⟩ := Option.map_eq_some_iff.mp newest.symm
        rw [List.getLast?_append, isLast]
        rfl

theorem Continues.concat
    (received : Received fields fetch pages state)
    (continues : Continues pages state)
    (accepts : Accepts state page false after) :
    Continues (pages ++ [page]) after := by
  obtain ⟨next, isSome⟩ := accepts.next rfl
  obtain ⟨same, -, later⟩ := checkSnapshot_eq_ok accepts.snapshot
  refine ⟨?_, fun _ => isSome⟩
  have snapshot : after.snapshotEventId = (cursorsOf (pages ++ [page])).snapshotEventId := by
    cases pages with
    | nil => exact same.symm
    | cons head rest =>
        rw [later (continues.started (List.cons_ne_nil head rest))]
        exact (received.announced head List.mem_cons_self).symm
  have before : after.beforeEventId = (cursorsOf (pages ++ [page])).beforeEventId := by
    rw [cursorsOf, List.getLast?_concat, ← next]
    rfl
  rw [snapshot, before]

/-- The loop returns the state after pages that the client accepted, of which the
last names no next one. -/
theorem collectReport_eq_ok
    {fuel : Nat}
    (received : Received fields fetch pages state)
    (continues : Continues pages state)
    (collects : collectReport fields fetch fuel pages.length state = some (.ok after)) :
    ∃ all, Received fields fetch all after ∧ ∃ earlier last,
      all = earlier ++ [last] ∧ last.nextBeforeEventId = none := by
  induction fuel generalizing pages state with
  | zero => cases collects
  | succ fuel inductionHypothesis =>
      rw [collectReport] at collects
      split at collects
      · cases collects
      · next returned step =>
          cases collects
          obtain ⟨body, answers, step⟩ := Fallible.bind_eq_ok.mp step
          obtain ⟨page, parses, step⟩ := Fallible.bind_eq_ok.mp step
          have accepts := receivePage_eq_ok step
          exact ⟨_, received.concat continues answers parses accepts, pages, page, rfl,
            accepts.last rfl⟩
      · next returned step =>
          obtain ⟨body, answers, step⟩ := Fallible.bind_eq_ok.mp step
          obtain ⟨page, parses, step⟩ := Fallible.bind_eq_ok.mp step
          have accepts := receivePage_eq_ok step
          have length : (pages ++ [page]).length = pages.length + 1 := by
            rw [List.length_append, List.length_singleton]
          rw [← length] at collects
          exact inductionHypothesis (received.concat continues answers parses accepts)
            (Continues.concat received continues accepts) collects

/-- Neighbours in order are all in order. -/
theorem pairwise_of_zip_tail
    {events : List AuditReportEvent}
    (ascends : ∀ pair ∈ events.zip events.tail, pair.1.sequence < pair.2.sequence) :
    events.Pairwise fun first second => first.sequence < second.sequence := by
  rw [← List.isChain_iff_pairwise]
  induction events with
  | nil => exact List.IsChain.nil
  | cons event rest inductionHypothesis =>
      cases rest with
      | nil => exact List.IsChain.singleton event
      | cons following rest =>
          rw [List.tail_cons, List.zip_cons_cons] at ascends
          refine List.isChain_cons_cons.mpr ⟨ascends _ List.mem_cons_self, ?_⟩
          exact inductionHypothesis fun pair present =>
            ascends pair (List.mem_cons_of_mem _ present)

/-- What a returned report is: distinct events in ascending positions, which are
those of all fetched pages, under the one snapshot that every page announced. -/
structure Coherent
    (fields : List String)
    (fetch : Nat → AuditCursors → Except ReportError Json)
    (events : List AuditReportEvent) : Prop where
  distinct : (events.map (·.eventId)).Nodup
  ascending : events.Pairwise fun first second => first.sequence < second.sequence
  pages : ∃ earlier last, Fetched fields fetch (earlier ++ [last]) ∧
    last.nextBeforeEventId = none ∧
    events = reported (earlier ++ [last]) ∧
    ∀ page ∈ earlier ++ [last], page.snapshotEventId = events.getLast?.map (·.eventId)

/-- Whatever a service answers, a report that the client returns is coherent. -/
theorem coherent_of_completeReport
    {fuel : Nat}
    {events : List AuditReportEvent}
    (returns : completeReport fields fetch fuel = some (.ok events)) :
    Coherent fields fetch events := by
  obtain ⟨outcome, collects, returned⟩ := Option.map_eq_some_iff.mp returns
  change outcome >>= joinPages = .ok events at returned
  obtain ⟨after, isOk, joins⟩ := Fallible.bind_eq_ok.mp returned
  rw [isOk] at collects
  unfold joinPages at joins
  obtain ⟨_, ascends, joins⟩ := Fallible.bind_eq_ok.mp joins
  obtain ⟨_, received, earlier, last, rfl, isLast⟩ :=
    collectReport_eq_ok (received_nil fields fetch) continues_nil collects
  cases joins
  have joined : after.pages.reverse.flatten = reported (earlier ++ [last]) := by
    rw [received.kept, reported, ← List.map_reverse, List.flatMap_def]
  rw [joined] at ascends ⊢
  refine ⟨received.distinct, pairwise_of_zip_tail (Fallible.ensure_eq_ok.mp ascends),
    earlier, last, received.fetched, isLast, rfl, ?_⟩
  intro page present
  rw [received.announced page present, received.newest]

end CompleteReports
end Vinctor
