import Vinctor.Service.ReportCoherence
import Vinctor.Foundation.DictRows

/-!
# Streams of report events

A report on a request joins the events of the request and those of its grant.
The merge keeps every event once and orders them by position, and it refuses
streams in which two events contradict one another; so its result depends on
the events alone, not on the streams or their order.
-/

namespace Vinctor
namespace CompleteReports

open Foundation
open AuditChain

deriving instance DecidableEq for AuditReportEvent

/-! ## The merge -/

structure MergedEvents where
  eventsById : Dict String AuditReportEvent
  eventIdsBySequence : Dict Int String

/-- Take in one event. -/
def mergeEvent (merged : MergedEvents) (event : AuditReportEvent) :
    Except ReportError MergedEvents := do
  Fallible.ensure (∀ existing ∈ merged.eventsById.get? event.eventId, existing = event)
    (.pagination "service returned inconsistent overlapping audit events")
  Fallible.ensure
    (∀ eventId ∈ merged.eventIdsBySequence.get? event.sequence, eventId = event.eventId)
    (.pagination "service returned inconsistent audit chronology")
  return {
    eventsById := merged.eventsById.set event.eventId event
    eventIdsBySequence := merged.eventIdsBySequence.set event.sequence event.eventId }

/-- Order of events by their positions. -/
def sequenceLE (first second : AuditReportEvent) : Prop := first.sequence ≤ second.sequence

instance : DecidableRel sequenceLE :=
  fun first second => inferInstanceAs (Decidable (first.sequence ≤ second.sequence))

instance : Std.Total sequenceLE := ⟨fun first second => Int.le_total first.sequence second.sequence⟩

instance : IsTrans AuditReportEvent sequenceLE := ⟨fun _ _ _ => Int.le_trans⟩

def mergeAuditEventStreams (streams : List (List AuditReportEvent)) :
    Except ReportError (List AuditReportEvent) := do
  let merged ← streams.foldlM (fun merged stream => stream.foldlM mergeEvent merged)
    ⟨Dict.empty, Dict.empty⟩
  return merged.eventsById.values.insertionSort sequenceLE

/-! ## Events without contradiction -/

/-- Two events share an identifier but differ, or share a position but have
different identifiers. -/
def Contradict (first second : AuditReportEvent) : Prop :=
  (first.eventId = second.eventId ∧ first ≠ second) ∨
    (first.sequence = second.sequence ∧ first.eventId ≠ second.eventId)

def Consistent (events : List AuditReportEvent) : Prop :=
  ∀ first ∈ events, ∀ second ∈ events, ¬ Contradict first second

/-- What the tables hold after some events. -/
structure Merged (merged : MergedEvents) (events : List AuditReportEvent) : Prop where
  byId : ∀ eventId event, merged.eventsById.get? eventId = some event ↔
    event ∈ events ∧ event.eventId = eventId
  bySequence : ∀ sequence eventId, merged.eventIdsBySequence.get? sequence = some eventId ↔
    ∃ event ∈ events, event.sequence = sequence ∧ event.eventId = eventId

theorem merged_nil : Merged ⟨Dict.empty, Dict.empty⟩ [] where
  byId eventId event := by simp
  bySequence sequence eventId := by simp

variable {merged after : MergedEvents} {events rest : List AuditReportEvent}
variable {event : AuditReportEvent}

theorem contradict_comm {first second : AuditReportEvent} :
    Contradict first second ↔ Contradict second first := by
  unfold Contradict
  rw [eq_comm (a := first.eventId), eq_comm (a := first.sequence), ne_comm (a := first),
    ne_comm (a := first.eventId)]

theorem not_contradict_self (event : AuditReportEvent) : ¬ Contradict event event := by
  rintro (⟨-, differ⟩ | ⟨-, differ⟩)
  · exact differ rfl
  · exact differ rfl

theorem consistent_concat :
    Consistent (events ++ [event]) ↔
      Consistent events ∧ ∀ other ∈ events, ¬ Contradict other event := by
  constructor
  · intro consistent
    refine ⟨fun first isFirst second isSecond => ?_, fun other present => ?_⟩
    · exact consistent first (List.mem_append_left _ isFirst) second
        (List.mem_append_left _ isSecond)
    · exact consistent other (List.mem_append_left _ present) event
        (List.mem_append_right _ (List.mem_singleton_self event))
  · rintro ⟨consistent, apart⟩ first isFirst second isSecond
    rcases List.mem_append.mp isFirst with firstBefore | firstLast
    · rcases List.mem_append.mp isSecond with secondBefore | secondLast
      · exact consistent first firstBefore second secondBefore
      · rw [List.mem_singleton.mp secondLast]
        exact apart first firstBefore
    · rw [List.mem_singleton.mp firstLast]
      rcases List.mem_append.mp isSecond with secondBefore | secondLast
      · exact fun contradicts => apart second secondBefore (contradict_comm.mp contradicts)
      · rw [List.mem_singleton.mp secondLast]
        exact not_contradict_self event

/-- What the checks of one event test, and what is stored. -/
theorem mergeEvent_eq_ok :
    mergeEvent merged event = .ok after ↔
      (∀ existing ∈ merged.eventsById.get? event.eventId, existing = event) ∧
        (∀ eventId ∈ merged.eventIdsBySequence.get? event.sequence, eventId = event.eventId) ∧
        MergedEvents.mk (merged.eventsById.set event.eventId event)
          (merged.eventIdsBySequence.set event.sequence event.eventId) = after := by
  rw [mergeEvent, Fallible.bind_eq_ok]
  simp only [Fallible.bind_eq_ok, Fallible.ensure_eq_ok, Fallible.pure_eq_ok, exists_and_left,
    exists_const]

/-- An event passes the checks exactly when it contradicts no event before it. -/
theorem exists_mergeEvent_iff (holds : Merged merged events) :
    (∃ after, mergeEvent merged event = .ok after) ↔
      ∀ other ∈ events, ¬ Contradict other event := by
  simp only [mergeEvent_eq_ok]
  constructor
  · rintro ⟨_, sameId, sameSequence, -⟩ other present (⟨same, differ⟩ | ⟨same, differ⟩)
    · exact differ (sameId other ((holds.byId _ other).mpr ⟨present, same⟩))
    · exact differ (sameSequence _ ((holds.bySequence _ _).mpr ⟨other, present, same, rfl⟩))
  · intro apart
    refine ⟨_, ?_, ?_, rfl⟩
    · intro existing found
      obtain ⟨present, same⟩ := (holds.byId _ existing).mp found
      by_contra differ
      exact apart existing present (Or.inl ⟨same, differ⟩)
    · intro eventId found
      obtain ⟨other, present, same, rfl⟩ := (holds.bySequence _ eventId).mp found
      by_contra differ
      exact apart other present (Or.inr ⟨same, differ⟩)

/-- An event that passes the checks is held with those before it. -/
theorem Merged.concat
    (holds : Merged merged events)
    (merges : mergeEvent merged event = .ok after) :
    Merged after (events ++ [event]) := by
  obtain ⟨sameId, sameSequence, rfl⟩ := mergeEvent_eq_ok.mp merges
  refine ⟨fun eventId other => ?_, fun sequence eventId => ?_⟩
  · rw [Dict.get?_set, List.mem_append, List.mem_singleton]
    by_cases own : eventId = event.eventId
    · subst own
      rw [if_pos rfl, Option.some.injEq]
      constructor
      · rintro rfl
        exact ⟨Or.inr rfl, rfl⟩
      · rintro ⟨earlier | rfl, same⟩
        · exact (sameId other ((holds.byId _ other).mpr ⟨earlier, same⟩)).symm
        · rfl
    · rw [if_neg own, holds.byId]
      constructor
      · rintro ⟨earlier, same⟩
        exact ⟨Or.inl earlier, same⟩
      · rintro ⟨earlier | rfl, same⟩
        · exact ⟨earlier, same⟩
        · exact absurd same.symm own
  · rw [Dict.get?_set]
    simp only [List.mem_append, List.mem_singleton]
    by_cases own : sequence = event.sequence
    · subst own
      rw [if_pos rfl, Option.some.injEq]
      constructor
      · rintro rfl
        exact ⟨event, Or.inr rfl, rfl, rfl⟩
      · rintro ⟨other, earlier | rfl, same, rfl⟩
        · exact (sameSequence _ ((holds.bySequence _ _).mpr ⟨other, earlier, same, rfl⟩)).symm
        · rfl
    · rw [if_neg own, holds.bySequence]
      constructor
      · rintro ⟨other, earlier, same⟩
        exact ⟨other, Or.inl earlier, same⟩
      · rintro ⟨other, earlier | rfl, same⟩
        · exact ⟨other, earlier, same⟩
        · exact absurd same.1.symm own

/-! ## The events of all streams -/

/-- Further events pass the checks exactly when all are consistent. -/
theorem foldlM_mergeEvent
    (holds : Merged merged events)
    (consistent : Consistent events) :
    ((∃ after, rest.foldlM mergeEvent merged = .ok after) ↔ Consistent (events ++ rest)) ∧
      ∀ after, rest.foldlM mergeEvent merged = .ok after → Merged after (events ++ rest) := by
  induction rest generalizing merged events with
  | nil =>
      rw [List.append_nil]
      refine ⟨iff_of_true ⟨merged, rfl⟩ consistent, ?_⟩
      rintro after ⟨⟩
      exact holds
  | cons event rest inductionHypothesis =>
      rw [List.append_cons, List.foldlM_cons]
      simp only [Fallible.bind_eq_ok]
      constructor
      · constructor
        · rintro ⟨after, next, merges, folds⟩
          have further := consistent_concat.mpr
            ⟨consistent, (exists_mergeEvent_iff holds).mp ⟨next, merges⟩⟩
          exact (inductionHypothesis (holds.concat merges) further).1.mp ⟨after, folds⟩
        · intro all
          have further : Consistent (events ++ [event]) := fun first isFirst second isSecond =>
            all first (List.mem_append_left _ isFirst) second (List.mem_append_left _ isSecond)
          obtain ⟨next, merges⟩ :=
            (exists_mergeEvent_iff holds).mpr (consistent_concat.mp further).2
          obtain ⟨after, folds⟩ :=
            (inductionHypothesis (holds.concat merges) further).1.mpr all
          exact ⟨after, next, merges, folds⟩
      · rintro after ⟨next, merges, folds⟩
        have further := consistent_concat.mpr
          ⟨consistent, (exists_mergeEvent_iff holds).mp ⟨next, merges⟩⟩
        exact (inductionHypothesis (holds.concat merges) further).2 after folds

/-- From empty tables, events pass the checks exactly when they are consistent. -/
theorem foldlM_fresh (all : List AuditReportEvent) :
    ((∃ after, all.foldlM mergeEvent ⟨Dict.empty, Dict.empty⟩ = .ok after) ↔ Consistent all) ∧
      ∀ after, all.foldlM mergeEvent ⟨Dict.empty, Dict.empty⟩ = .ok after → Merged after all :=
  foldlM_mergeEvent merged_nil fun _ absent => by cases absent

/-- The loop over the streams is the loop over their events. -/
theorem foldlM_streams (merged : MergedEvents) (streams : List (List AuditReportEvent)) :
    streams.foldlM (fun merged stream => stream.foldlM mergeEvent merged) merged =
      streams.flatten.foldlM mergeEvent merged := by
  induction streams generalizing merged with
  | nil => rfl
  | cons stream rest inductionHypothesis =>
      rw [List.foldlM_cons, List.flatten_cons, List.foldlM_append]
      simp only [inductionHypothesis]

/-- Values of the table in the order of their positions. -/
theorem pairwise_sorted
    (holds : Merged merged events)
    (consistent : Consistent events) :
    (merged.eventsById.values.insertionSort sequenceLE).Pairwise
      fun first second => first.sequence < second.sequence := by
  have distinct : (merged.eventsById.values.insertionSort sequenceLE).Nodup := by
    refine (List.perm_insertionSort sequenceLE _).nodup_iff.mpr ?_
    have ids : merged.eventsById.values.map (·.eventId) =
        merged.eventsById.entries.map Prod.fst := by
      rw [Dict.values, List.map_map]
      apply List.map_congr_left
      intro entry present
      exact ((holds.byId entry.1 entry.2).mp ((Dict.get?_eq_some_iff _ _ _).mpr present)).2
    have keys := merged.eventsById.keysDistinct
    rw [← ids] at keys
    exact keys.of_map _
  refine ((List.pairwise_insertionSort sequenceLE _).and distinct).imp_of_mem ?_
  rintro first second isFirst isSecond ⟨ordered, differ⟩
  have held : ∀ event ∈ merged.eventsById.values.insertionSort sequenceLE, event ∈ events := by
    intro event present
    obtain ⟨eventId, found⟩ := Dict.mem_values_iff.mp ((List.mem_insertionSort _).mp present)
    exact ((holds.byId eventId event).mp found).1
  refine lt_of_le_of_ne ordered fun same => ?_
  have apart := consistent first (held first isFirst) second (held second isSecond)
  exact apart (by
    by_cases identified : first.eventId = second.eventId
    · exact Or.inl ⟨identified, differ⟩
    · exact Or.inr ⟨same, identified⟩)

/-- The merge of consistent streams: every event once, in ascending positions. -/
def IsMerge (streams : List (List AuditReportEvent)) (events : List AuditReportEvent) : Prop :=
  (events.Pairwise fun first second => first.sequence < second.sequence) ∧
    ∀ event, event ∈ events ↔ event ∈ streams.flatten

theorem isMerge_of_eq_ok
    {streams : List (List AuditReportEvent)}
    (merges : mergeAuditEventStreams streams = .ok events) :
    IsMerge streams events := by
  obtain ⟨merged, folds, sorted⟩ := Fallible.bind_eq_ok.mp merges
  cases sorted
  rw [foldlM_streams] at folds
  obtain ⟨consistentIff, held⟩ := foldlM_fresh streams.flatten
  have consistent := consistentIff.mp ⟨merged, folds⟩
  have holds := held merged folds
  refine ⟨pairwise_sorted holds consistent, fun event => ?_⟩
  rw [List.mem_insertionSort, Dict.mem_values_iff]
  constructor
  · rintro ⟨eventId, found⟩
    exact ((holds.byId eventId event).mp found).1
  · intro present
    exact ⟨event.eventId, (holds.byId _ event).mpr ⟨present, rfl⟩⟩

/-- The merge returns exactly where no two events contradict one another. -/
theorem exists_mergeAuditEventStreams_iff (streams : List (List AuditReportEvent)) :
    (∃ events, mergeAuditEventStreams streams = .ok events) ↔ Consistent streams.flatten := by
  have folded := (foldlM_fresh streams.flatten).1
  rw [← foldlM_streams] at folded
  rw [← folded]
  constructor
  · rintro ⟨events, merges⟩
    obtain ⟨merged, folds, -⟩ := Fallible.bind_eq_ok.mp merges
    exact ⟨merged, folds⟩
  · rintro ⟨merged, folds⟩
    exact ⟨_, Fallible.bind_eq_ok.mpr ⟨merged, folds, rfl⟩⟩

theorem IsMerge.unique
    {streams other : List (List AuditReportEvent)}
    {first second : List AuditReportEvent}
    (isFirst : IsMerge streams first)
    (isSecond : IsMerge other second)
    (same : ∀ event, event ∈ streams.flatten ↔ event ∈ other.flatten) :
    first = second := by
  have antisymmetric : Std.Antisymm fun first second : AuditReportEvent =>
      first.sequence < second.sequence :=
    ⟨fun _ _ before after => absurd after (Int.not_lt.mpr (Int.le_of_lt before))⟩
  have irreflexive : Std.Irrefl fun first second : AuditReportEvent =>
      first.sequence < second.sequence :=
    ⟨fun _ => Int.lt_irrefl _⟩
  refine isFirst.1.eq_of_mem_iff isSecond.1 fun event => ?_
  rw [isFirst.2, isSecond.2, same]

/-- Whatever a service answers, a report that the client returns has distinct
events in ascending positions, which are those of all fetched pages under the
snapshot that names the last of them.  A merge of streams raises exactly when two
events contradict one another, and returns otherwise every event once in ascending
positions, in whatever order the streams and their events come. -/
theorem reports_are_coherent
    (fields : List String)
    (fetch : Nat → AuditCursors → Except ReportError Json)
    (fuel : Nat) :
    (∀ events, completeReport fields fetch fuel = some (.ok events) →
      Coherent fields fetch events) ∧
      ∀ streams : List (List AuditReportEvent),
        ((∃ error, mergeAuditEventStreams streams = .error error) ↔
          ∃ first ∈ streams.flatten, ∃ second ∈ streams.flatten, Contradict first second) ∧
        (∀ events, mergeAuditEventStreams streams = .ok events → IsMerge streams events) ∧
        ∀ other events, other.flatten.Perm streams.flatten →
          mergeAuditEventStreams streams = .ok events →
          mergeAuditEventStreams other = .ok events := by
  refine ⟨fun events returns => coherent_of_completeReport returns, fun streams => ⟨?_, ?_, ?_⟩⟩
  · have returnsIff := exists_mergeAuditEventStreams_iff streams
    cases outcome : mergeAuditEventStreams streams with
    | error error =>
        refine iff_of_true ⟨error, rfl⟩ ?_
        by_contra none
        obtain ⟨events, merges⟩ := returnsIff.mpr fun first isFirst second isSecond contradicts =>
          none ⟨first, isFirst, second, isSecond, contradicts⟩
        rw [outcome] at merges
        cases merges
    | ok events =>
        refine iff_of_false (fun ⟨_, raises⟩ => by cases raises) ?_
        rintro ⟨first, isFirst, second, isSecond, contradicts⟩
        exact returnsIff.mp ⟨events, outcome⟩ first isFirst second isSecond contradicts
  · exact fun events merges => isMerge_of_eq_ok merges
  · intro other events shuffled merges
    have consistent := (exists_mergeAuditEventStreams_iff streams).mp ⟨events, merges⟩
    obtain ⟨found, merged⟩ := (exists_mergeAuditEventStreams_iff other).mpr
      fun first isFirst second isSecond =>
        consistent first (shuffled.mem_iff.mp isFirst) second (shuffled.mem_iff.mp isSecond)
    rw [merged, (isMerge_of_eq_ok merged).unique (isMerge_of_eq_ok merges)
      fun event => shuffled.mem_iff]

/-- An event as a service writes it. -/
def rawEvent (eventId : String) (sequence : Int) : Json :=
  .obj [("event_id", .str eventId), ("event_type", .str "action_permitted"),
    ("event_class", .str "decision"), ("decision", .str "permit"),
    ("workspace_id", .str "ws_1"), ("agent_id", .str "agent_1"),
    ("grant_id", .str "grt_1"), ("grant_ref", .str "ref_1"),
    ("created_at", .str "2026-01-01T00:00:00+00:00"), ("sequence", .int sequence)]

/-- A service of two pages with one event each. -/
def twoPages (_ : Nat) (cursors : AuditCursors) : Except ReportError Json :=
  .ok (.obj [
    ("audit_events", .arr [
      if cursors.beforeEventId = none then rawEvent "evt_2" 2 else rawEvent "evt_1" 1]),
    ("page", .obj [("snapshot_event_id", .str "evt_2"),
      ("next_before_event_id", if cursors.beforeEventId = none then .str "evt_2" else .null)])])

theorem two_pages_are_coherent :
    ∃ events, completeReport (auditFields .safe) twoPages 2 = some (.ok events) ∧
      events.map (·.eventId) = ["evt_1", "evt_2"] ∧
      Coherent (auditFields .safe) twoPages events := by
  have returned : (completeReport (auditFields .safe) twoPages 2).map
      (fun outcome => outcome.toOption.map fun events => events.map (·.eventId)) =
        some (some ["evt_1", "evt_2"]) := by
    decide +kernel
  obtain ⟨outcome, returns, ids⟩ := Option.map_eq_some_iff.mp returned
  cases outcome with
  | error error => cases ids
  | ok events =>
      exact ⟨events, returns, Option.some.inj ids,
        (reports_are_coherent (auditFields .safe) twoPages 2).1 events returns⟩

end CompleteReports
end Vinctor
