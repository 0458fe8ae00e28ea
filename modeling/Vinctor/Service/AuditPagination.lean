import Vinctor.Core.Audit
import Vinctor.Service.AuditPages

/-!
# Following the cursors

A client that follows the cursors of the endpoint, while events are appended to the
log between its requests.  What was not fetched yet is a prefix of the events that
matched at the first request: the events of a page are the last of them, and the
oldest of these bounds what is left.
-/

namespace Vinctor
namespace AuditPagination

open Foundation
open AuditChain
open AuditReference
open AuditPages
open FilterAgreement (Entry selected)

/-! ## The log -/

/-- An event as the service builds it. -/
structure Loggable (event : AuditEvent) : Prop where
  identified : event.eventId ≠ ""
  typed : event.eventType ≠ ""
  classed : event.eventClass ∈ auditEventClasses
  dated : Datetime.Representable event.createdAt

/-- The event of a decision, under an identifier that it is given or a fresh one. -/
theorem loggable_buildAuditEvent
    (input : Audit.AuditEventInput)
    (token : Audit.Token)
    (dated : Datetime.Representable input.createdAt) :
    Loggable (Audit.buildAuditEvent input token) where
  identified := by
    change (presentText input.eventId).getD ("evt_" ++ token) ≠ ""
    unfold presentText
    split
    · simp
    · split
      · simp
      · next given => exact given
  typed := by
    change (if _ then _ else _ : String) ≠ ""
    split
    · decide
    · decide
  classed := by
    change "decision" ∈ auditEventClasses
    decide
  dated := dated

/-- A log as the service writes it: every event has an identifier of its own. -/
structure Logged (log : List AuditEvent) : Prop where
  distinct : (log.map (·.eventId)).Nodup
  loggable : ∀ event ∈ log, Loggable event

theorem map_eventId_positioned (log : List AuditEvent) :
    (positioned log).map (·.1.eventId) = log.map (·.eventId) := by
  have firsts := congrArg (List.map AuditEvent.eventId) (List.zipIdx_map_fst 1 log)
  rw [List.map_map] at firsts
  exact firsts

theorem Logged.entry_eq
    {log : List AuditEvent}
    (logged : Logged log)
    {first second : Entry}
    (isFirst : first ∈ positioned log)
    (isSecond : second ∈ positioned log)
    (same : first.1.eventId = second.1.eventId) :
    first = second := by
  have distinct : ((positioned log).map (·.1.eventId)).Nodup := by
    rw [map_eventId_positioned]
    exact logged.distinct
  exact List.inj_on_of_nodup_map distinct isFirst isSecond same

/-- A cursor stands at the position of its event. -/
theorem Logged.cursorPosition_eq
    {log : List AuditEvent}
    (logged : Logged log)
    {workspaceId : String}
    {entry : Entry}
    (present : entry ∈ positioned log ∧ entry.1.workspaceId = workspaceId) :
    cursorPosition log workspaceId (some entry.1.eventId) = .ok (some entry.2) := by
  obtain ⟨present, rfl⟩ := present
  unfold cursorPosition
  dsimp only
  cases found : (positioned log).find? fun other =>
      decide (other.1.eventId = entry.1.eventId) &&
        decide (other.1.workspaceId = entry.1.workspaceId) with
  | none =>
      have missed := List.find?_eq_none.mp found entry present
      simp at missed
  | some other =>
      have sameId : other.1.eventId = entry.1.eventId := by
        have tested := List.find?_some found
        simp only [Bool.and_eq_true, decide_eq_true_eq] at tested
        exact tested.1
      rw [logged.entry_eq (List.mem_of_find?_eq_some found) present sameId]

theorem Logged.get?_auditEventSequences
    {log : List AuditEvent}
    (logged : Logged log)
    {eventIds : List String}
    {entry : Entry}
    (present : entry ∈ positioned log)
    (requested : entry.1.eventId ∈ eventIds) :
    (auditEventSequences log entry.1.workspaceId eventIds).get? entry.1.eventId =
      some entry.2 := by
  unfold auditEventSequences
  apply Dict.get?_foldl_set
  · have kept : (((positioned log).filter fun other =>
        decide (other.1.workspaceId = entry.1.workspaceId) &&
          decide (other.1.eventId ∈ eventIds)).map (·.1.eventId)).Sublist
        ((positioned log).map (·.1.eventId)) := List.filter_sublist.map _
    rw [map_eventId_positioned] at kept
    exact logged.distinct.sublist kept
  · exact List.mem_filter.mpr ⟨present, by simp [requested]⟩

/-! ## One page -/

/-- The page of a window of entries. -/
def pageOf (snapshotEventId : Option String) (limit : Nat) (window : List Entry) : AuditPage where
  auditEvents := (lastOnes (some limit) window).map sequencedBody
  snapshotEventId := snapshotEventId <|> (window.getLast?.map (·.1.eventId))
  nextBeforeEventId :=
    if limit < window.length then
      (lastOnes (some limit) window).head?.map (·.1.eventId)
    else none

theorem lastOnes_eq_self
    {limit : Nat}
    {list : List α}
    (short : list.length ≤ limit) :
    lastOnes (some limit) list = list := by
  rw [lastOnes, Nat.sub_eq_zero_of_le short, List.drop_zero]

theorem length_lastOnes (limit : Nat) (list : List α) :
    (lastOnes (some limit) list).length = min limit list.length := by
  rw [lastOnes, List.length_drop]
  omega

theorem lastOnes_lastOnes
    {limit : Nat}
    (list : List α) :
    lastOnes (some limit) (lastOnes (some (limit + 1)) list) = lastOnes (some limit) list := by
  simp only [lastOnes, List.length_drop, List.drop_drop]
  congr 1
  omega

theorem getLast?_lastOnes
    {limit : Nat}
    (positive : 0 < limit)
    (list : List α) :
    (lastOnes (some limit) list).getLast? = list.getLast? := by
  rw [lastOnes, List.getLast?_drop]
  cases list with
  | nil => simp
  | cons head rest =>
      rw [if_neg]
      rw [List.length_cons]
      omega

/-- One event more than the page holds tells whether there are more. -/
theorem pageResponse_eq
    {log : List AuditEvent}
    (logged : Logged log)
    {workspaceId : String}
    {filters : AuditEventFilters}
    (positive : 0 < filters.limit)
    {window : List Entry}
    (within : ∀ entry ∈ window, entry ∈ positioned log ∧ entry.1.workspaceId = workspaceId) :
    pageResponse log workspaceId filters
        ((lastOnes (some (filters.limit + 1)) window).map Prod.fst) =
      .ok (pageOf filters.snapshotEventId filters.limit window) := by
  have more : decide (filters.limit <
      ((lastOnes (some (filters.limit + 1)) window).map Prod.fst).length) =
        decide (filters.limit < window.length) := by
    rw [List.length_map, length_lastOnes]
    congr 1
    rw [eq_iff_iff]
    omega
  have onPage : (if decide (filters.limit < window.length) = true then
      lastSlice (some filters.limit)
        ((lastOnes (some (filters.limit + 1)) window).map Prod.fst)
      else (lastOnes (some (filters.limit + 1)) window).map Prod.fst) =
        (lastOnes (some filters.limit) window).map Prod.fst := by
    split
    · rw [lastSlice_eq_lastOnes (by simpa using positive.ne'), lastOnes_map, lastOnes_lastOnes]
    · next short =>
        have isShort : window.length ≤ filters.limit := by simpa using short
        rw [lastOnes_eq_self isShort, lastOnes_eq_self (isShort.trans (Nat.le_succ _))]
  have bodies : ((lastOnes (some filters.limit) window).map Prod.fst).mapM (fun event => do
      let sequence ← Fallible.require
        ((auditEventSequences log workspaceId
          (((lastOnes (some filters.limit) window).map Prod.fst).map AuditEvent.eventId)).get?
            event.eventId) (RequestError.key event.eventId)
      return sequencedBody (event, sequence)) =
        .ok ((lastOnes (some filters.limit) window).map sequencedBody) := by
    rw [List.mapM_map]
    apply Fallible.mapM_eq_ok
    intro entry present
    obtain ⟨inLog, rfl⟩ := within entry (mem_of_mem_lastOnes present)
    rw [Function.comp_apply, logged.get?_auditEventSequences inLog
      (List.mem_map_of_mem (List.mem_map_of_mem present))]
    rfl
  simp only [pageResponse, more, onPage, bodies]
  refine congrArg Except.ok ?_
  simp only [pageOf, List.getLast?_map, getLast?_lastOnes positive, List.head?_map,
    Option.map_map, decide_eq_true_eq]
  rfl

/-- A request for a page whose cursors stand in the log. -/
theorem handleAuditEvents_eq
    {log : List AuditEvent}
    (logged : Logged log)
    (workspaceId : String)
    {filters : AuditEventFilters}
    (accepted : Accepted filters)
    {bounds : Option Nat × Option Nat}
    (bounded : cursorBounds log workspaceId
      { snapshotEventId := filters.snapshotEventId
        beforeEventId := filters.beforeEventId } = .ok bounds) :
    handleAuditEvents log workspaceId (requestParams filters) =
      .ok (.page (pageOf filters.snapshotEventId filters.limit
        ((positioned log).filter
          (selected (filters.read workspaceId (filters.limit + 1)) bounds)))) := by
  have valid : validateAuditEventClass filters.eventClass = .ok () := if_pos accepted.eventClass
  have reads : listFiltered log (filters.read workspaceId (filters.limit + 1))
      { snapshotEventId := filters.snapshotEventId, beforeEventId := filters.beforeEventId } =
      .ok ((lastOnes (some (filters.limit + 1)) ((positioned log).filter
        (selected (filters.read workspaceId (filters.limit + 1)) bounds))).map Prod.fst) := by
    rw [FilterAgreement.reference_listFiltered log (by simp [AuditEventFilters.read])]
    dsimp only [AuditEventFilters.read]
    rw [valid, bounded]
    rfl
  have pages := pageResponse_eq logged accepted.limit.1
    (fun entry (present : entry ∈ (positioned log).filter
      (selected (filters.read workspaceId (filters.limit + 1)) bounds)) => by
      obtain ⟨inLog, chosen⟩ := List.mem_filter.mp present
      simp only [selected, Bool.and_eq_true, decide_eq_true_eq] at chosen
      exact ⟨inLog, chosen.1.2⟩)
  simp only [handleAuditEvents, parseFilters_requestParams accepted, Except.mapError, bind,
    Except.bind, accepted.paginate, if_true, reads]
  dsimp only [AuditEventFilters.read] at pages ⊢
  rw [pages]
  rfl

/-! ## Growing logs -/

/-- A log to which events are appended between requests. -/
structure GrowingLog where
  at_ : Nat → List AuditEvent
  grows : ∀ index, at_ index <+: at_ (index + 1)
  logged : ∀ index, Logged (at_ index)

theorem GrowingLog.prefix_start (logs : GrowingLog) (index : Nat) : logs.at_ 0 <+: logs.at_ index := by
  induction index with
  | zero => exact List.prefix_rfl
  | succ index inductionHypothesis => exact inductionHypothesis.trans (logs.grows index)

theorem selected_eq_and
    (filters : AuditFilters)
    (bounds : Option Nat × Option Nat)
    (entry : Entry) :
    selected filters bounds entry =
      (bounds.1.all (entry.2 ≤ ·) && bounds.2.all (entry.2 < ·) &&
        selected filters (none, none) entry) := by
  simp only [selected, Option.all_none, Bool.true_and, Bool.and_assoc]

/-- Entries that the filters match. -/
def matching (filters : AuditFilters) (log : List AuditEvent) : List Entry :=
  (positioned log).filter (selected filters (none, none))

/-- The positions of the entries of a log ascend. -/
theorem sorted_positioned (log : List AuditEvent) :
    (positioned log).Pairwise fun first second => first.2 < second.2 := by
  have positions : ((positioned log).map Prod.snd).Pairwise (· < ·) := by
    rw [positioned, List.zipIdx_map_snd]
    exact List.pairwise_lt_range'
  exact List.pairwise_map.mp positions

theorem sorted_matching (filters : AuditFilters) (log : List AuditEvent) :
    (matching filters log).Pairwise fun first second => first.2 < second.2 :=
  (sorted_positioned log).filter _

theorem mem_matching
    {filters : AuditFilters}
    {log : List AuditEvent}
    {entry : Entry}
    (present : entry ∈ matching filters log) :
    entry ∈ positioned log ∧ entry.1.workspaceId = filters.workspaceId := by
  obtain ⟨inLog, chosen⟩ := List.mem_filter.mp present
  simp only [selected, Bool.and_eq_true, decide_eq_true_eq] at chosen
  exact ⟨inLog, chosen.1.2⟩

/-- Entries of a longer log: those of the log, and later ones. -/
theorem positioned_of_prefix
    {log longer : List AuditEvent}
    (isPrefix : log <+: longer) :
    ∃ later, positioned longer = positioned log ++ later ∧
      ∀ entry ∈ later, log.length < entry.2 := by
  obtain ⟨appended, rfl⟩ := isPrefix
  refine ⟨appended.zipIdx (1 + log.length), ?_, ?_⟩
  · rw [positioned, List.zipIdx_append]
    rfl
  · intro entry present
    have := (List.mem_zipIdx present).1
    omega

/-- Positions of matching entries in a longer log, up to the newest of those matching in
the log. -/
theorem filter_bounded
    {log longer : List AuditEvent}
    (isPrefix : log <+: longer)
    {filters : AuditFilters}
    {newest : Entry}
    (isNewest : (matching filters log).getLast? = some newest)
    (before : Option Nat) :
    (positioned longer).filter (selected filters (some newest.2, before)) =
      (matching filters log).filter fun entry => before.all (entry.2 < ·) := by
  obtain ⟨later, isLonger, beyond⟩ := positioned_of_prefix isPrefix
  have present : newest ∈ matching filters log := List.mem_of_getLast? isNewest
  have newestBound := (position_of_mem_positioned (mem_matching present).1).2
  have noneLater : later.filter (selected filters (some newest.2, before)) = [] := by
    rw [List.filter_eq_nil_iff]
    intro entry isLater chosen
    have := beyond entry isLater
    simp only [selected, Option.all_some, Bool.and_eq_true, decide_eq_true_eq] at chosen
    omega
  have upTo : ∀ entry ∈ matching filters log, entry.2 ≤ newest.2 := by
    intro entry isMatching
    obtain ⟨others, isLast⟩ := List.getLast?_eq_some_iff.mp isNewest
    have sorted := sorted_matching filters log
    rw [isLast] at sorted isMatching
    rcases List.mem_append.mp isMatching with earlier | last
    · exact ((List.pairwise_append.mp sorted).2.2 entry earlier newest (by simp)).le
    · rw [List.mem_singleton.mp last]
  rw [isLonger, List.filter_append, noneLater, List.append_nil, matching, List.filter_filter]
  refine List.filter_congr fun entry inLog => ?_
  rw [selected_eq_and]
  cases chosen : selected filters (none, none) entry with
  | false => rw [Bool.and_false, Bool.and_false]
  | true =>
      have bound : decide (entry.2 ≤ newest.2) = true :=
        decide_eq_true (upTo entry (List.mem_filter.mpr ⟨inLog, chosen⟩))
      rw [Option.all_some, bound, Bool.true_and]

/-- Entries of a log that match, up to the newest one that matched earlier. -/
def matchingUpTo (filters : AuditFilters) (earlier log : List AuditEvent) : List Entry :=
  (matching filters log).filter fun entry =>
    (matching filters earlier).getLast?.any fun newest => entry.2 ≤ newest.2

/-- What is appended later is not among them. -/
theorem matchingUpTo_eq
    {earlier log : List AuditEvent}
    (isPrefix : earlier <+: log)
    (filters : AuditFilters) :
    matchingUpTo filters earlier log = matching filters earlier := by
  cases newest : (matching filters earlier).getLast? with
  | none =>
      rw [matchingUpTo, newest, List.getLast?_eq_none_iff.mp newest]
      exact List.filter_eq_nil_iff.mpr fun _ _ => Bool.false_ne_true
  | some last =>
      have bounded := filter_bounded isPrefix newest none
      simp only [Option.all_none, List.filter_true] at bounded
      rw [← bounded, matchingUpTo, newest, matching, List.filter_filter]
      refine List.filter_congr fun entry _ => ?_
      rw [selected_eq_and filters (some last.2, none), Option.all_none, Bool.and_true]
      rfl

/-! ## Fetches -/

/-- The cursors of a request when these entries were fetched. -/
def cursorsAfter (fetched : List Entry) : AuditCursors where
  snapshotEventId := fetched.getLast?.map (·.1.eventId)
  beforeEventId := fetched.head?.map (·.1.eventId)

/-- Request the page that the cursors bound. -/
def fetchPage
    (logs : Nat → List AuditEvent)
    (workspaceId : String)
    (filters : AuditEventFilters)
    (index : Nat)
    (cursors : AuditCursors) : Except RequestError AuditResponse :=
  handleAuditEvents (logs index) workspaceId (requestParams
    { filters with
      snapshotEventId := cursors.snapshotEventId
      beforeEventId := cursors.beforeEventId })

/-- Filters without cursors that the endpoint accepts. -/
structure PageRequest where
  workspaceId : String
  filters : AuditEventFilters
  accepted : Accepted filters
  isFirst : filters.snapshotEventId = none ∧ filters.beforeEventId = none

/-- The events that a request is for. -/
def PageRequest.read (request : PageRequest) : AuditFilters :=
  request.filters.read request.workspaceId (request.filters.limit + 1)

theorem PageRequest.accepted_with
    (request : PageRequest)
    (cursors : AuditCursors)
    (snapshot : cursors.snapshotEventId ≠ some "")
    (before : cursors.beforeEventId ≠ some "")
    (bounded : cursors.beforeEventId.isSome → cursors.snapshotEventId.isSome) :
    Accepted
      { request.filters with
        snapshotEventId := cursors.snapshotEventId
        beforeEventId := cursors.beforeEventId } where
  texts := by
    have texts := request.accepted.texts
    simp only [requestPairs, List.forall_mem_cons] at texts ⊢
    obtain ⟨agent, eventClass, eventType, grant, boundary, requestId, reason, principal, page, -,
      -, verified, limit⟩ := texts
    exact ⟨agent, eventClass, eventType, grant, boundary, requestId, reason, principal, page,
      snapshot, before, verified, limit⟩
  eventClass := request.accepted.eventClass
  limit := request.accepted.limit
  paginate := request.accepted.paginate
  cursors := bounded

/-- Below the oldest of the fetched entries are the remaining ones. -/
theorem filter_lt_head
    {remaining rest : List Entry}
    {head : Entry}
    (sorted : (remaining ++ head :: rest).Pairwise fun first second => first.2 < second.2) :
    ((remaining ++ head :: rest).filter fun entry => entry.2 < head.2) = remaining := by
  obtain ⟨-, sortedFetched, below⟩ := List.pairwise_append.mp sorted
  have first : (remaining.filter fun entry => decide (entry.2 < head.2)) = remaining :=
    List.filter_eq_self.mpr fun entry present =>
      decide_eq_true (below entry present head List.mem_cons_self)
  have second : ((head :: rest).filter fun entry => decide (entry.2 < head.2)) = [] := by
    rw [List.filter_eq_nil_iff]
    intro entry present isBelow
    have less := of_decide_eq_true isBelow
    rcases List.mem_cons.mp present with rfl | later
    · omega
    · have := (List.pairwise_cons.mp sortedFetched).1 entry later
      omega
  rw [List.filter_append, first, second, List.append_nil]

/-- A fetch answers with the last of the remaining entries. -/
theorem fetchPage_eq
    (logs : GrowingLog)
    (request : PageRequest)
    {remaining fetched : List Entry}
    (isSplit : matching request.read (logs.at_ 0) = remaining ++ fetched)
    {index : Nat}
    (start : fetched = [] → index = 0) :
    fetchPage logs.at_ request.workspaceId request.filters index (cursorsAfter fetched) =
      .ok (.page (pageOf (cursorsAfter fetched).snapshotEventId request.filters.limit
        remaining)) := by
  cases fetched with
  | nil =>
      obtain rfl := start rfl
      have accepted := request.accepted_with (cursorsAfter []) nofun nofun nofun
      have handled := handleAuditEvents_eq (logs.logged 0) request.workspaceId accepted rfl
      rw [List.append_nil] at isSplit
      rw [← isSplit]
      exact handled
  | cons head rest =>
      have growth := logs.prefix_start index
      obtain ⟨newest, isNewest⟩ : ∃ newest, (head :: rest).getLast? = some newest :=
        Option.isSome_iff_exists.mp (by simp)
      have matched : ∀ entry ∈ head :: rest,
          entry ∈ positioned (logs.at_ index) ∧ entry.1.workspaceId = request.workspaceId := by
        intro entry present
        have isMatching : entry ∈ matching request.read (logs.at_ 0) := by
          rw [isSplit]
          exact List.mem_append_right _ present
        obtain ⟨inLog, isWorkspace⟩ := mem_matching isMatching
        obtain ⟨later, isLonger, -⟩ := positioned_of_prefix growth
        exact ⟨by rw [isLonger]; exact List.mem_append_left _ inLog, isWorkspace⟩
      have sorted := sorted_matching request.read (logs.at_ 0)
      rw [isSplit] at sorted
      have isLast := List.mem_of_getLast? isNewest
      have ordered : head.2 ≤ newest.2 := by
        rcases List.mem_cons.mp isLast with same | later
        · rw [same]
        · have sortedFetched := (List.pairwise_append.mp sorted).2.1
          exact ((List.pairwise_cons.mp sortedFetched).1 newest later).le
      have identified : ∀ entry ∈ head :: rest, entry.1.eventId ≠ "" := by
        intro entry present
        exact ((logs.logged index).loggable entry.1
          (List.fst_mem_of_mem_zipIdx (matched entry present).1)).identified
      have accepted := request.accepted_with (cursorsAfter (head :: rest))
        (by simpa [cursorsAfter, isNewest] using identified newest isLast)
        (by simpa [cursorsAfter] using identified head List.mem_cons_self)
        (by simp [cursorsAfter, isNewest])
      have bounded : cursorBounds (logs.at_ index) request.workspaceId
          (cursorsAfter (head :: rest)) = .ok (some newest.2, some head.2) := by
        have atNewest := (logs.logged index).cursorPosition_eq (matched newest isLast)
        have atHead := (logs.logged index).cursorPosition_eq (matched head List.mem_cons_self)
        simp only [AuditReference.cursorBounds, cursorsAfter, isNewest, List.head?_cons, Option.map_some,
          atNewest, atHead, Fallible.ensure, Option.isSome_some, implies_true, if_true, bind,
          Except.bind, Option.mem_def, Option.some.injEq, forall_eq', ordered]
        rfl
      have handled := handleAuditEvents_eq (logs.logged index) request.workspaceId accepted bounded
      have isWhole : (matching request.read (logs.at_ 0)).getLast? = some newest := by
        rw [isSplit, List.getLast?_append, isNewest]
        rfl
      have window := filter_bounded growth isWhole (some head.2)
      rw [isSplit] at window
      simp only [Option.all_some] at window
      rw [filter_lt_head sorted] at window
      rw [← window]
      exact handled

/-! ## All pages -/

/-- Follow the cursors until there is no next page.  There is no result when the fuel
runs out or a request is not answered with a page. -/
def followPages (fetch : Nat → AuditCursors → Except RequestError AuditResponse) :
    Nat → Nat → AuditCursors → Option (List AuditPage)
  | 0, _, _ => none
  | fuel + 1, index, cursors =>
      match fetch index cursors with
      | .ok (.page page) =>
          match page.nextBeforeEventId with
          | none => some [page]
          | some before =>
              (followPages fetch fuel (index + 1)
                { snapshotEventId := page.snapshotEventId
                  beforeEventId := some before }).map (page :: ·)
      | _ => none

/-- What remains is what the next page leaves, and its entries. -/
theorem split_lastOnes (limit : Nat) (list : List α) :
    list.take (list.length - limit) ++ lastOnes (some limit) list = list :=
  List.take_append_drop _ list

/-- The cursors of a page that leaves entries are those after its entries. -/
theorem cursors_pageOf
    {remaining fetched : List Entry}
    {limit : Nat}
    (positive : 0 < limit)
    (more : limit < remaining.length) :
    (pageOf (cursorsAfter fetched).snapshotEventId limit remaining).snapshotEventId =
      (cursorsAfter (lastOnes (some limit) remaining ++ fetched)).snapshotEventId ∧
    (pageOf (cursorsAfter fetched).snapshotEventId limit remaining).nextBeforeEventId =
      (cursorsAfter (lastOnes (some limit) remaining ++ fetched)).beforeEventId ∧
    (cursorsAfter (lastOnes (some limit) remaining ++ fetched)).beforeEventId.isSome := by
  have nonempty : lastOnes (some limit) remaining ≠ [] := by
    intro empty
    have length := length_lastOnes limit remaining
    rw [empty, List.length_nil] at length
    omega
  obtain ⟨head, rest, isPage⟩ := List.exists_cons_of_ne_nil nonempty
  refine ⟨?_, ?_, ?_⟩
  · rw [pageOf, ← getLast?_lastOnes positive, cursorsAfter, cursorsAfter, List.getLast?_append]
    cases fetched.getLast? with
    | none => rfl
    | some newest => rfl
  · rw [pageOf, if_pos more, cursorsAfter, isPage]
    rfl
  · rw [cursorsAfter, isPage]
    rfl

theorem followPages_eq
    (logs : GrowingLog)
    (request : PageRequest)
    {fuel : Nat}
    {remaining fetched : List Entry}
    (isSplit : matching request.read (logs.at_ 0) = remaining ++ fetched)
    {index : Nat}
    (start : fetched = [] → index = 0)
    (enough : remaining.length < fuel) :
    ∃ pages, followPages (fetchPage logs.at_ request.workspaceId request.filters) fuel index
        (cursorsAfter fetched) = some pages ∧
      pages.reverse.flatMap (·.auditEvents) = remaining.map sequencedBody := by
  induction fuel generalizing remaining fetched index with
  | zero => omega
  | succ fuel inductionHypothesis =>
      have fetches := fetchPage_eq logs request isSplit start
      have positive := request.accepted.limit.1
      rw [followPages, fetches]
      dsimp only
      by_cases more : request.filters.limit < remaining.length
      · -- The page leaves a shorter prefix, and its entries join the fetched ones.
        obtain ⟨sameSnapshot, sameBefore, isSome⟩ := @cursors_pageOf remaining fetched _ positive more
        obtain ⟨before, isBefore⟩ := Option.isSome_iff_exists.mp isSome
        have split := split_lastOnes request.filters.limit remaining
        have shorter : (remaining.take (remaining.length - request.filters.limit)).length < fuel := by
          rw [List.length_take]
          omega
        have later := inductionHypothesis
          (show matching request.read (logs.at_ 0) =
            remaining.take (remaining.length - request.filters.limit) ++
              (lastOnes (some request.filters.limit) remaining ++ fetched) by
            rw [← List.append_assoc, split, isSplit])
          (show lastOnes (some request.filters.limit) remaining ++ fetched = [] → index + 1 = 0 by
            intro empty
            rw [empty] at isBefore
            cases isBefore)
          shorter
        obtain ⟨pages, follows, concatenated⟩ := later
        have cursors : cursorsAfter (lastOnes (some request.filters.limit) remaining ++ fetched) =
            { snapshotEventId := (pageOf (cursorsAfter fetched).snapshotEventId
                request.filters.limit remaining).snapshotEventId
              beforeEventId := some before } := by
          rw [sameSnapshot, ← isBefore]
        rw [sameBefore, isBefore]
        dsimp only
        rw [← cursors, follows]
        refine ⟨_, rfl, ?_⟩
        rw [List.reverse_cons, List.flatMap_append, concatenated, List.flatMap_singleton, pageOf,
          ← List.map_append, split]
      · have last : (pageOf (cursorsAfter fetched).snapshotEventId request.filters.limit
            remaining).nextBeforeEventId = none := if_neg more
        rw [last]
        refine ⟨_, rfl, ?_⟩
        rw [List.reverse_singleton, List.flatMap_singleton, pageOf,
          lastOnes_eq_self (Nat.le_of_not_lt more)]

end AuditPagination
end Vinctor
