import Vinctor.Service.BoundReads

/-!
# The reads agree

The three filtered reads return the same events.  A list of events that was written
to both databases stands there row by row, each row at the position of its event in
the log.  So a clause on a row holds exactly when the filter holds of the event, a
cursor has the same position everywhere, and every row decodes to its event.
-/

namespace Vinctor
namespace FilterAgreement

open Foundation
open AuditChain
open AuditReference (positioned auditEventMatches)
open PostgresAudit (RecordedEvent)

/-! ## Events as they are decoded -/

/-- An event as a reader of its canonical JSON has it. -/
def decoded (event : AuditEvent) : DecodedEvent where
  eventId := .str event.eventId
  eventType := .str event.eventType
  decision := .str event.decision.code
  reason := .str event.reason
  workspaceId := .str event.workspaceId
  agentId := .str event.agentId
  grantId := .str event.grantId
  grantRef := .str event.grantRef
  action := .str event.action
  resource := .str event.resource
  scopeAttempted := .str event.scopeAttempted
  scopeMatched := AuditEvent.nullableText event.scopeMatched
  boundaryId := AuditEvent.nullableText event.boundaryId
  runtime := AuditEvent.nullableText event.runtime
  boundaryType := AuditEvent.nullableText event.boundaryType
  createdAt := Datetime.ofInstant event.createdAt
  enforcingPrincipal := AuditEvent.nullableText event.enforcingPrincipal
  reasonCode := AuditEvent.nullableText event.reasonCode
  occurrenceCount := (event.occurrenceCount.map Json.int).getD .null
  firstSeenAt := event.firstSeenAt.map Datetime.ofInstant
  lastSeenAt := event.lastSeenAt.map Datetime.ofInstant
  subjectTokenVerified := event.subjectTokenVerified
  tokenId := AuditEvent.nullableText event.tokenId
  eventClass := .str event.eventClass

section Decoding

variable {event : AuditEvent}

theorem get?_toDict {field : String} {value : Json} (member : (field, value) ∈ event.toDict) :
    Json.get? event.toDict field = some value :=
  Json.get?_of_mem event.keys_toDict_nodup member

/-- A member that is left out where there is no value. -/
theorem get?_optional
    {field : String}
    {value : Option Json}
    (present : ∀ found ∈ value, (field, found) ∈ event.toDict)
    (absent : value = none → field ∉ event.toDict.map Prod.fst) :
    Json.get? event.toDict field = value := by
  cases value with
  | none => exact Json.get?_of_not_mem (absent rfl)
  | some found => exact get?_toDict (present found rfl)

/-- Members that every event has. -/
def requiredFields (event : AuditEvent) : List (String × Json) :=
  [("event_id", .str event.eventId), ("event_type", .str event.eventType),
    ("decision", .str event.decision.code), ("reason", .str event.reason),
    ("workspace_id", .str event.workspaceId), ("agent_id", .str event.agentId),
    ("grant_id", .str event.grantId), ("grant_ref", .str event.grantRef),
    ("action", .str event.action), ("resource", .str event.resource),
    ("scope_attempted", .str event.scopeAttempted),
    ("scope_matched", AuditEvent.nullableText event.scopeMatched),
    ("boundary_id", AuditEvent.nullableText event.boundaryId),
    ("runtime", AuditEvent.nullableText event.runtime),
    ("boundary_type", AuditEvent.nullableText event.boundaryType),
    ("created_at", .str (isoformat event.createdAt))]

theorem get?_requiredFields :
    ∀ entry ∈ requiredFields event, Json.get? event.toDict entry.1 = some entry.2 := by
  intro entry present
  apply get?_toDict
  simp only [AuditEvent.toDict, List.append_assoc]
  exact List.mem_append_left _ present

/-- Members that an event may leave out. -/
def optionalFields (event : AuditEvent) : List (String × Option Json) :=
  [("enforcing_principal", event.enforcingPrincipal.map Json.str),
    ("reason_code", event.reasonCode.map Json.str),
    ("occurrence_count", event.occurrenceCount.map Json.int),
    ("first_seen_at", event.firstSeenAt.map fun at_ => .str (isoformat at_)),
    ("last_seen_at", event.lastSeenAt.map fun at_ => .str (isoformat at_)),
    ("token_id", event.tokenId.map Json.str),
    ("event_class", if event.eventClass ≠ "decision" then some (.str event.eventClass) else none)]

theorem get?_optionalFields :
    ∀ entry ∈ optionalFields event, Json.get? event.toDict entry.1 = entry.2 := by
  simp only [optionalFields, List.forall_mem_cons, List.not_mem_nil, false_imp_iff,
    implies_true, and_true]
  refine ⟨?_, ?_, ?_, ?_, ?_, ?_, ?_⟩
  all_goals
    apply get?_optional
    · intro found isFound
      simp only [Option.mem_def] at isFound
      simp [AuditEvent.toDict, AuditEvent.optionalMember, isFound]
    · intro isNone
      simp only [Option.map_eq_none_iff, ite_eq_right_iff, reduceCtorEq, imp_false, not_not]
        at isNone
      simp [AuditEvent.toDict, AuditEvent.mem_keys_optionalMember, isNone, -List.mem_map]

theorem optionalDatetime_isoformat
    {instant : Option Instant}
    (representable : ∀ value ∈ instant, Datetime.Representable value) :
    optionalDatetime ((instant.map fun at_ => Json.str (isoformat at_)).getD .null) =
      some (instant.map Datetime.ofInstant) := by
  cases instant with
  | none => rfl
  | some value =>
      simp only [optionalDatetime, datetimeFromJson, Option.map_some, Option.getD_some, isoformat,
        String.toList_ofList, Datetime.fromisoformat_ofInstant (representable value rfl)]

/-- The canonical JSON of an event decodes to the event. -/
theorem auditEventFromJson_toJson
    (recorded : RecordedEvent)
    {text : String}
    (rendered : recorded.event.toJson = some text) :
    auditEventFromJson text = some (decoded recorded.event) := by
  obtain ⟨event, createdAt, firstSeenAt, lastSeenAt⟩ := recorded
  dsimp only at rendered ⊢
  have required := @get?_requiredFields event
  have optional := @get?_optionalFields event
  simp only [requiredFields, List.forall_mem_cons] at required
  simp only [optionalFields, List.forall_mem_cons] at optional
  have eventClass : (if event.eventClass ≠ "decision" then some (Json.str event.eventClass)
      else none).getD (.str "decision") = .str event.eventClass := by
    by_cases isDecision : event.eventClass = "decision" <;> simp [isDecision]
  have created : datetimeFromJson (.str (isoformat event.createdAt)) =
      some (Datetime.ofInstant event.createdAt) := by
    rw [datetimeFromJson, isoformat, String.toList_ofList,
      Datetime.fromisoformat_ofInstant createdAt]
  have verified : subjectTokenVerifiedFromJson (event.toDict.insertionSort Json.keyLE) =
      event.subjectTokenVerified := by
    rw [subjectTokenVerifiedFromJson, eventJsonValue_insertionSort event.keys_toDict_nodup,
      truthy_subjectTokenVerified]
  rw [auditEventFromJson, AuditEvent.loads_toJson rendered]
  simp only [auditEventFromData, verified, Json.get?_insertionSort event.keys_toDict_nodup,
    required, optional, created, optionalDatetime_isoformat firstSeenAt,
    optionalDatetime_isoformat lastSeenAt, eventClass, bind, Option.bind_some]
  rfl

end Decoding

/-! ## Rows of written events -/

/-- An event at its position. -/
abbrev Entry := AuditEvent × Nat

/-- The row of an event in SQLite, at its position. -/
structure Placed (row : AuditRow) (entry : Entry) : Prop where
  rendered : entry.1.toJson = some row.eventJson
  columns : ∃ prevHash hash, row = eventRow entry.1 row.eventJson entry.2 prevHash hash

/-- The row of an event in Postgres, at its position. -/
structure ServerPlaced (row : PostgresAudit.PostgresAuditRow) (entry : Entry) : Prop where
  rendered : entry.1.toJson = some row.eventJson
  columns : ∃ prevHash hash,
    row = PostgresAudit.eventRow entry.1 row.eventJson entry.2 prevHash hash

theorem positioned_append (events : List AuditEvent) (event : AuditEvent) :
    positioned (events ++ [event]) = positioned events ++ [(event, events.length + 1)] := by
  rw [positioned, List.zipIdx_append, Nat.add_comm]
  rfl

/-- What a row does that is written after the others. -/
theorem placed_writeEvent
    {sha256 : Bytes → Bytes}
    {table after : AuditTable}
    {events : List AuditEvent}
    {event : AuditEvent}
    (chained : Chained sha256 genesisPrevHash 1 table)
    (placed : List.Forall₂ Placed table (positioned events))
    (writes : writeEvent sha256 table event = some after) :
    Chained sha256 genesisPrevHash 1 after ∧
      List.Forall₂ Placed after (positioned (events ++ [event])) := by
  refine ⟨(chained.write writes).1, ?_⟩
  have head : (chainHead table).1 = some (table.length : Int) := by
    have ordered : Chained sha256 genesisPrevHash 1 (orderedBySeq table) := by
      rwa [chained.ordered]
    rw [ordered.chainHead_eq]
  obtain ⟨row, isRow, inserts⟩ := Option.bind_eq_some_iff.mp writes
  simp only [nextRow, head, bind, Option.bind_eq_some_iff, Option.some.injEq] at isRow
  obtain ⟨eventJson, rendered, _, rfl, rfl⟩ := isRow
  unfold insertRow at inserts
  split at inserts
  · cases inserts
  · have sameLength : table.length = events.length := by
      rw [placed.length_eq, positioned, List.length_zipIdx]
    rw [← Option.some.inj inserts, positioned_append]
    refine List.rel_append placed (.cons ⟨rendered, ?_⟩ .nil)
    rw [← sameLength]
    exact ⟨_, _, rfl⟩

theorem placed_writeEvents
    {sha256 : Bytes → Bytes}
    {events : List AuditEvent}
    {table : AuditTable}
    (writes : SqliteReads.writeEvents sha256 events = some table) :
    Chained sha256 genesisPrevHash 1 table ∧
      List.Forall₂ Placed table (positioned events) := by
  induction events using List.reverseRecOn generalizing table with
  | nil =>
      obtain rfl := Option.some.inj writes
      exact ⟨trivial, .nil⟩
  | append_singleton events event inductionHypothesis =>
      rw [SqliteReads.writeEvents, List.foldlM_append] at writes
      obtain ⟨before, earlier, last⟩ := Option.bind_eq_some_iff.mp writes
      rw [List.foldlM_cons] at last
      obtain ⟨after, written, isTable⟩ := Option.bind_eq_some_iff.mp last
      obtain rfl := Option.some.inj isTable
      obtain ⟨chained, placed⟩ := inductionHypothesis earlier
      exact placed_writeEvent chained placed written

theorem serverPlaced_writeEvents
    {sha256 : Bytes → Bytes}
    {events : List RecordedEvent}
    {table : PostgresAudit.PostgresAuditTable}
    (writes : PostgresReads.writeEvents sha256 (events.map (·.event)) = some table) :
    PostgresAudit.Chained sha256 table ∧
      List.Forall₂ ServerPlaced table (positioned (events.map (·.event))) := by
  induction events using List.reverseRecOn generalizing table with
  | nil =>
      obtain rfl := Option.some.inj writes
      exact ⟨.nil, .nil⟩
  | append_singleton events recorded inductionHypothesis =>
      rw [PostgresReads.writeEvents, List.map_append, List.foldlM_append] at writes
      obtain ⟨before, earlier, last⟩ := Option.bind_eq_some_iff.mp writes
      rw [List.map_singleton, List.foldlM_cons] at last
      obtain ⟨after, written, isTable⟩ := Option.bind_eq_some_iff.mp last
      obtain rfl := Option.some.inj isTable
      obtain ⟨chained, placed⟩ := inductionHypothesis earlier
      simp only [PostgresReads.writeEvent, bind, Option.bind_eq_some_iff] at written
      obtain ⟨eventJson, rendered, written⟩ := written
      split at written
      · rw [← Option.some.inj written, List.map_append, List.map_singleton, positioned_append]
        refine ⟨chained.append_nextRow recorded rendered, ?_⟩
        have sameLength : before.length = (events.map (·.event)).length := by
          rw [placed.length_eq, positioned, List.length_zipIdx]
        refine List.rel_append placed (.cons ⟨rendered, ?_⟩ .nil)
        rw [PostgresAudit.nextRow, chained.chainHead_eq, ← sameLength]
        exact ⟨_, _, rfl⟩
      · cases written

/-! ## Pages -/

/-- Whether an event at a position is selected within bounds. -/
def selected (filters : AuditFilters) (bounds : Option Nat × Option Nat) (entry : Entry) : Bool :=
  bounds.1.all (entry.2 ≤ ·) && bounds.2.all (entry.2 < ·) &&
    entry.1.workspaceId = filters.workspaceId && auditEventMatches filters entry.1

def page (filters : AuditFilters) (bounds : Option Nat × Option Nat) (entries : List Entry) :
    List Entry :=
  lastOnes filters.limit (entries.filter (selected filters bounds))

/-- Every position is within the bounds that stand in for a missing cursor. -/
theorem onPage_eq_selected
    (filters : AuditFilters)
    (bounds : Option Nat × Option Nat)
    {events : List AuditEvent}
    {entry : Entry}
    (present : entry ∈ positioned events) :
    AuditReference.onPage filters (bounds.1.getD events.length)
      (bounds.2.getD (events.length + 1)) entry = selected filters bounds entry := by
  obtain ⟨-, upper⟩ := AuditReference.position_of_mem_positioned present
  have first : decide (entry.2 ≤ bounds.1.getD events.length) =
      bounds.1.all (entry.2 ≤ ·) := by
    cases bounds.1 with
    | none => simpa using upper
    | some snapshot => rfl
  have second : decide (entry.2 < bounds.2.getD (events.length + 1)) =
      bounds.2.all (entry.2 < ·) := by
    cases bounds.2 with
    | none => simpa [Nat.lt_succ_iff] using upper
    | some before => rfl
  rw [AuditReference.onPage, selected, first, second]

theorem reference_listFiltered
    (events : List AuditEvent)
    {filters : AuditFilters}
    (limited : filters.limit ≠ some 0)
    (cursors : AuditCursors) :
    AuditReference.listFiltered events filters cursors = do
      validateAuditEventClass filters.eventClass
      let bounds ← AuditReference.cursorBounds events filters.workspaceId cursors
      return (page filters bounds (positioned events)).map Prod.fst := by
  unfold AuditReference.listFiltered
  refine bind_congr fun _ => bind_congr fun bounds => ?_
  have same : (positioned events).filter (AuditReference.onPage filters
      (bounds.1.getD events.length) (bounds.2.getD (events.length + 1))) =
      (positioned events).filter (selected filters bounds) :=
    List.filter_congr fun entry present => onPage_eq_selected filters bounds present
  dsimp only
  rw [same, AuditReference.lastSlice_eq_lastOnes limited, AuditReference.lastOnes_map]
  rfl

theorem exists_of_mem_related
    {relates : α → β → Prop}
    {lefts : List α}
    {rights : List β}
    (related : List.Forall₂ relates lefts rights)
    {left : α}
    (present : left ∈ lefts) :
    ∃ right ∈ rights, relates left right := by
  induction related with
  | nil => cases present
  | cons head rest inductionHypothesis =>
      rcases List.mem_cons.mp present with rfl | later
      · exact ⟨_, List.mem_cons_self, head⟩
      · obtain ⟨right, isRight, holds⟩ := inductionHypothesis later
        exact ⟨right, List.mem_cons_of_mem _ isRight, holds⟩

/-- Searches for what related lists agree on. -/
theorem find?_related
    {relates : α → β → Prop}
    {left : α → Bool}
    {right : β → Bool}
    (agree : ∀ first second, relates first second → left first = right second)
    {lefts : List α}
    {rights : List β}
    (related : List.Forall₂ relates lefts rights) :
    lefts.find? left = none ∧ rights.find? right = none ∨
      ∃ first second, relates first second ∧ lefts.find? left = some first ∧
        rights.find? right = some second := by
  induction related with
  | nil => exact .inl ⟨rfl, rfl⟩
  | cons head rest inductionHypothesis =>
      have same := agree _ _ head
      rw [List.find?_cons, List.find?_cons, same]
      split
      · exact .inr ⟨_, _, head, rfl, rfl⟩
      · exact inductionHypothesis

theorem lastOnes_related
    {relates : α → β → Prop}
    {lefts : List α}
    {rights : List β}
    (limit : Option Nat)
    (related : List.Forall₂ relates lefts rights) :
    List.Forall₂ relates (lastOnes limit lefts) (lastOnes limit rights) := by
  cases limit with
  | none => exact related
  | some limit =>
      rw [lastOnes, lastOnes, related.length_eq]
      exact List.forall₂_drop _ related

/-- The page of rows whose clauses say what the filters say. -/
theorem page_related
    {relates : ρ → Entry → Prop}
    {filters : AuditFilters}
    {bounds : Option Nat × Option Nat}
    {clauses : ρ → Bool}
    (agree : ∀ row entry, relates row entry → clauses row = selected filters bounds entry)
    {rows : List ρ}
    {entries : List Entry}
    (related : List.Forall₂ relates rows entries) :
    List.Forall₂ relates (lastOnes filters.limit (rows.filter clauses))
      (page filters bounds entries) := by
  refine lastOnes_related _ ?_
  refine List.rel_filter ?_ related
  intro row entry placed
  exact iff_of_eq (congrArg (· = true) (agree row entry placed))

/-! ## SQLite -/

/-- Bounds as the columns compare them. -/
def integerBounds (bounds : Option Nat × Option Nat) : Option Int × Option Int :=
  (bounds.1.map Int.ofNat, bounds.2.map Int.ofNat)

/-- Where a member of the canonical JSON may be left out, the database reads what the
event has. -/
theorem extractedText_toJson
    (containerText : String → String → String)
    {event : AuditEvent}
    {text name : String}
    {value : Option String}
    (rendered : event.toJson = some text)
    (listed : (name, value.map Json.str) ∈ optionalFields event) :
    extractedText containerText text name = value := by
  have found : Json.get? event.toDict name = value.map Json.str :=
    get?_optionalFields (name, value.map Json.str) listed
  have first : firstMember (event.toDict.insertionSort Json.keyLE) name =
      value.map Json.str := by
    have reversed := (List.reverse_perm (event.toDict.insertionSort Json.keyLE)).trans
      (List.perm_insertionSort Json.keyLE event.toDict)
    rw [← found, ← Json.get?_of_perm event.keys_toDict_nodup reversed name, firstMember,
      Json.get?, List.reverse_reverse]
  rw [extractedText, jsonExtract, AuditEvent.loads_toJson rendered, Option.map_some]
  dsimp only
  rw [first]
  cases value with
  | none => rfl
  | some value => rfl

/-- All the clauses on a row. -/
def rowClauses
    (containerText : String → String → String)
    (filters : AuditFilters)
    (bounds : Option Int × Option Int)
    (row : AuditRow) : Bool :=
  columnClauses filters bounds row &&
    (filters.reasonCode.all (fun value =>
      extractedText containerText row.eventJson "reason_code" = some value) &&
    filters.enforcingPrincipal.all (fun value =>
      extractedText containerText row.eventJson "enforcing_principal" = some value))

/-- The clauses on a row say what the filters say of its event. -/
theorem rowClauses_placed
    (containerText : String → String → String)
    (filters : AuditFilters)
    (bounds : Option Nat × Option Nat)
    {row : AuditRow}
    {entry : Entry}
    (placed : Placed row entry) :
    rowClauses containerText filters (integerBounds bounds) row =
      selected filters bounds entry := by
  obtain ⟨rendered, prevHash, hash, columns⟩ := placed
  obtain ⟨snapshotBound, beforeBound⟩ := bounds
  have reason : extractedText containerText row.eventJson "reason_code" =
      entry.1.reasonCode :=
    extractedText_toJson containerText rendered (by simp [optionalFields])
  have principal : extractedText containerText row.eventJson "enforcing_principal" =
      entry.1.enforcingPrincipal :=
    extractedText_toJson containerText rendered (by simp [optionalFields])
  have snapshot : (snapshotBound.map Int.ofNat).all (fun snapshot => row.seq.any (· ≤ snapshot)) =
      snapshotBound.all (entry.2 ≤ ·) := by
    rw [columns]
    cases snapshotBound <;> simp [eventRow]
  have before : (beforeBound.map Int.ofNat).all (fun before => row.seq.any (· < before)) =
      beforeBound.all (entry.2 < ·) := by
    rw [columns]
    cases beforeBound <;> simp [eventRow]
  have verified : filters.subjectTokenVerified.all
        (fun verified => row.subjectTokenVerified = verified.toNat) =
      filters.subjectTokenVerified.all (entry.1.subjectTokenVerified = ·) := by
    rw [columns]
    cases filters.subjectTokenVerified with
    | none => rfl
    | some verified =>
        cases verified <;> cases isVerified : entry.1.subjectTokenVerified <;>
          simp [eventRow, isVerified]
  rw [rowClauses, reason, principal, columnClauses, integerBounds]
  dsimp only
  rw [snapshot, before, verified, columns, selected, auditEventMatches]
  dsimp only [eventRow]
  ac_rfl

/-- Bounds from cursors that have the same positions. -/
theorem cursorBounds_related
    {ε : Type}
    (lift : AuditQueryError → ε)
    (condition : Prop)
    [Decidable condition]
    (snapshotPosition beforePosition : Except AuditQueryError (Option Nat)) :
    (do
      Fallible.ensure condition (lift .invalidAuditCursor)
      let snapshotSeq ← (snapshotPosition.map (Option.map Int.ofNat)).mapError lift
      let beforeSeq ← (beforePosition.map (Option.map Int.ofNat)).mapError lift
      Fallible.ensure (∀ snapshot ∈ snapshotSeq, ∀ before ∈ beforeSeq, before ≤ snapshot)
        (lift .invalidAuditCursor)
      return (snapshotSeq, beforeSeq)) =
    ((do
      Fallible.ensure condition AuditQueryError.invalidAuditCursor
      let snapshot ← snapshotPosition
      let before ← beforePosition
      Fallible.ensure (∀ bound ∈ snapshot, ∀ position ∈ before, position ≤ bound)
        .invalidAuditCursor
      return (snapshot, before)).map integerBounds).mapError lift := by
  by_cases holds : condition
  · cases snapshotPosition with
    | error error => simp [Fallible.ensure, holds, bind, Except.bind, Except.map, Except.mapError]
    | ok snapshot =>
        cases beforePosition with
        | error error =>
            simp [Fallible.ensure, holds, bind, Except.bind, Except.map, Except.mapError]
        | ok before =>
            have same : (∀ bound ∈ snapshot.map Int.ofNat, ∀ position ∈ before.map Int.ofNat,
                position ≤ bound) ↔ ∀ bound ∈ snapshot, ∀ position ∈ before, position ≤ bound := by
              cases snapshot <;> cases before <;> simp
            by_cases ordered : ∀ bound ∈ snapshot, ∀ position ∈ before, position ≤ bound
            · have orderedSeqs := same.mpr ordered
              simp only [Fallible.ensure, holds, if_true, bind, Except.bind, Except.map,
                Except.mapError, if_pos ordered, if_pos orderedSeqs]
              rfl
            · have unordered := mt same.mp ordered
              simp only [Fallible.ensure, holds, if_true, bind, Except.bind, Except.map,
                Except.mapError, if_neg ordered, if_neg unordered]
  · simp [Fallible.ensure, holds, bind, Except.bind, Except.map, Except.mapError]

theorem cursorSeq_placed
    {table : AuditTable}
    {events : List AuditEvent}
    (placed : List.Forall₂ Placed table (positioned events))
    (workspaceId : String)
    (cursor : Option String) :
    cursorSeq table workspaceId cursor =
      (AuditReference.cursorPosition events workspaceId cursor).map (Option.map Int.ofNat) := by
  cases cursor with
  | none => rfl
  | some eventId =>
      have agree : ∀ row entry, Placed row entry →
          (decide (row.eventId = eventId) && decide (row.workspaceId = workspaceId)) =
            (decide (entry.1.eventId = eventId) && decide (entry.1.workspaceId = workspaceId)) := by
        intro row entry placed
        obtain ⟨prevHash, hash, columns⟩ := placed.columns
        rw [columns]
        rfl
      simp only [cursorSeq, AuditReference.cursorPosition]
      rcases find?_related agree placed with ⟨noRow, noEntry⟩ | ⟨row, entry, isPlaced, isRow, isEntry⟩
      · rw [noRow, noEntry]
        rfl
      · obtain ⟨prevHash, hash, columns⟩ := isPlaced.columns
        rw [isRow, isEntry]
        dsimp only
        rw [columns]
        rfl

theorem cursorBounds_placed
    {table : AuditTable}
    {events : List AuditEvent}
    (placed : List.Forall₂ Placed table (positioned events))
    (workspaceId : String)
    (cursors : AuditCursors) :
    AuditChain.cursorBounds table workspaceId cursors =
      (AuditReference.cursorBounds events workspaceId cursors).map integerBounds := by
  have related := cursorBounds_related id
    (cursors.beforeEventId.isSome → cursors.snapshotEventId.isSome)
    (AuditReference.cursorPosition events workspaceId cursors.snapshotEventId)
    (AuditReference.cursorPosition events workspaceId cursors.beforeEventId)
  have unlifted : ∀ {α : Type} (outcome : Except AuditQueryError α),
      outcome.mapError id = outcome := by
    intro α outcome
    cases outcome <;> rfl
  simp only [unlifted] at related
  rw [AuditChain.cursorBounds, cursorSeq_placed placed, cursorSeq_placed placed]
  exact related

/-- An event on a page is one of the log. -/
theorem recorded_of_mem_page
    {filters : AuditFilters}
    {bounds : Option Nat × Option Nat}
    {events : List RecordedEvent}
    {entry : Entry}
    (present : entry ∈ page filters bounds (positioned (events.map (·.event)))) :
    ∃ recorded : RecordedEvent, recorded.event = entry.1 := by
  have inLog := List.mem_of_mem_filter (mem_of_mem_lastOnes present)
  have isEvent := List.fst_mem_of_mem_zipIdx inLog
  obtain ⟨recorded, -, same⟩ := List.mem_map.mp isEvent
  exact ⟨recorded, same⟩

/-- The rows that are selected decode to the events of the page. -/
theorem decodes_page
    {relates : ρ → Entry → Prop}
    {eventJson : ρ → String}
    (rendered : ∀ row entry, relates row entry → entry.1.toJson = some (eventJson row))
    {filters : AuditFilters}
    {bounds : Option Nat × Option Nat}
    {clauses : ρ → Bool}
    (agree : ∀ row entry, relates row entry → clauses row = selected filters bounds entry)
    {rows : List ρ}
    {events : List RecordedEvent}
    (related : List.Forall₂ relates rows (positioned (events.map (·.event))))
    {ε : Type}
    (error : ε) :
    (lastOnes filters.limit (rows.filter clauses)).mapM (fun row =>
        Fallible.require (auditEventFromJson (eventJson row)) error) =
      .ok ((page filters bounds (positioned (events.map (·.event)))).map
        fun entry => decoded entry.1) := by
  have onPage := page_related agree related
  have recorded : ∀ entry ∈ page filters bounds (positioned (events.map (·.event))),
      ∃ recorded : RecordedEvent, recorded.event = entry.1 :=
    fun entry present => recorded_of_mem_page present
  rw [mapM_require_eq_ok, List.map_map]
  generalize page filters bounds (positioned (events.map (·.event))) = entries at onPage recorded ⊢
  generalize lastOnes filters.limit (rows.filter clauses) = rows at onPage ⊢
  induction onPage with
  | nil => rfl
  | cons head rest inductionHypothesis =>
      obtain ⟨event, same⟩ := recorded _ List.mem_cons_self
      have isRendered := rendered _ _ head
      rw [← same] at isRendered
      rw [List.map_cons, List.map_cons, auditEventFromJson_toJson event isRendered,
        inductionHypothesis fun entry present => recorded entry (List.mem_cons_of_mem _ present),
        Function.comp_apply, same]

/-- The outcome of a read of the log, as a reader of a database has it. -/
def Outcome (outcome : Except AuditQueryError (List AuditEvent)) :
    Except ReadError (List DecodedEvent) :=
  (outcome.map (List.map decoded)).mapError .query

section Written

variable {sha256 : Bytes → Bytes} {events : List RecordedEvent} {filters : AuditFilters}

theorem sqlite_listFiltered
    (containerText : String → String → String)
    {table : AuditTable}
    (writes : SqliteReads.writeEvents sha256 (events.map (·.event)) = some table)
    (limited : filters.limit ≠ some 0)
    (fits : limitFits filters.limit = true)
    (cursors : AuditCursors) :
    SqliteReads.listFiltered containerText table filters cursors =
      Outcome (AuditReference.listFiltered (events.map (·.event)) filters cursors) := by
  obtain ⟨chained, placed⟩ := placed_writeEvents writes
  rw [reference_listFiltered _ limited]
  unfold SqliteReads.listFiltered AuditChain.listFiltered
  rw [cursorBounds_placed placed]
  cases validateAuditEventClass filters.eventClass with
  | error error => rfl
  | ok _ =>
      cases AuditReference.cursorBounds (events.map (·.event)) filters.workspaceId cursors with
      | error error => rfl
      | ok bounds =>
          have selects : table.filterM (selects containerText filters (integerBounds bounds)) =
              .ok (table.filter (rowClauses containerText filters (integerBounds bounds))) := by
            apply filterM_eq_ok
            intro row present
            obtain ⟨entry, -, isPlaced⟩ := exists_of_mem_related placed present
            exact selects_eq_clauses (AuditEvent.loads_toJson isPlaced.rendered) filters _
          have decodes := decodes_page (fun _ _ isPlaced => Placed.rendered isPlaced)
            (fun _ _ isPlaced => rowClauses_placed containerText filters bounds isPlaced) placed
            AuditQueryError.undecodableEvent
          have ordered : orderedBySeq table = table := chained.ordered
          have rows : (mostRecentFirst filters.limit
              (table.filter (rowClauses containerText filters (integerBounds bounds)))).reverse =
              lastOnes filters.limit
                (table.filter (rowClauses containerText filters (integerBounds bounds))) := by
            rw [reverse_mostRecentFirst, orderedBySeq_filter, ordered]
          simp only [bind, Except.bind, Except.map, Except.mapError, Fallible.ensure, fits,
            if_true, selects, rows, decodes, Outcome, pure, Except.pure, List.map_map,
            Function.comp_def]

/-- Texts that Postgres can be sent, and a limit of 64 bits. -/
structure Sendable (filters : AuditFilters) (cursors : AuditCursors) : Prop where
  texts : ∀ text ∈ PostgresReads.boundTexts filters, PostgresReads.admitsText text = true
  snapshot : ∀ eventId ∈ cursors.snapshotEventId, PostgresReads.admitsText eventId = true
  before : ∀ eventId ∈ cursors.beforeEventId, PostgresReads.admitsText eventId = true
  limit : limitFits filters.limit = true

theorem postgres_columnClauses_placed
    (filters : AuditFilters)
    (bounds : Option Nat × Option Nat)
    {row : PostgresAudit.PostgresAuditRow}
    {entry : Entry}
    (placed : ServerPlaced row entry) :
    PostgresReads.columnClauses filters (integerBounds bounds) row =
      selected filters bounds entry := by
  obtain ⟨prevHash, hash, columns⟩ := placed.columns
  obtain ⟨snapshotBound, beforeBound⟩ := bounds
  have snapshot : (snapshotBound.map Int.ofNat).all (row.seq ≤ ·) =
      snapshotBound.all (entry.2 ≤ ·) := by
    rw [columns]
    cases snapshotBound <;> simp [PostgresAudit.eventRow]
  have before : (beforeBound.map Int.ofNat).all (row.seq < ·) =
      beforeBound.all (entry.2 < ·) := by
    rw [columns]
    cases beforeBound <;> simp [PostgresAudit.eventRow]
  rw [PostgresReads.columnClauses, integerBounds]
  dsimp only
  rw [snapshot, before, columns, selected, auditEventMatches]
  dsimp only [PostgresAudit.eventRow]
  ac_rfl

theorem postgres_cursorSeq_placed
    {table : PostgresAudit.PostgresAuditTable}
    {events : List AuditEvent}
    (placed : List.Forall₂ ServerPlaced table (positioned events))
    {workspaceId : String}
    (workspace : PostgresReads.admitsText workspaceId = true)
    {cursor : Option String}
    (sendable : ∀ eventId ∈ cursor, PostgresReads.admitsText eventId = true) :
    PostgresReads.cursorSeq table workspaceId cursor =
      ((AuditReference.cursorPosition events workspaceId cursor).map
        (Option.map Int.ofNat)).mapError .query := by
  cases cursor with
  | none => rfl
  | some eventId =>
      have agree : ∀ row entry, ServerPlaced row entry →
          (decide (row.eventId = eventId) && decide (row.workspaceId = workspaceId)) =
            (decide (entry.1.eventId = eventId) && decide (entry.1.workspaceId = workspaceId)) := by
        intro row entry placed
        obtain ⟨prevHash, hash, columns⟩ := placed.columns
        rw [columns]
        rfl
      simp only [PostgresReads.cursorSeq, AuditReference.cursorPosition, sendable eventId rfl,
        workspace, Bool.and_self, Fallible.ensure, if_true, bind, Except.bind]
      rcases find?_related agree placed with ⟨noRow, noEntry⟩ | ⟨row, entry, isPlaced, isRow, isEntry⟩
      · rw [noRow, noEntry]
        rfl
      · obtain ⟨prevHash, hash, columns⟩ := isPlaced.columns
        rw [isRow, isEntry]
        dsimp only
        rw [columns]
        rfl

theorem postgres_reverse_mostRecentFirst
    (limit : Option Nat)
    (rows : List PostgresAudit.PostgresAuditRow) :
    (PostgresReads.mostRecentFirst limit rows).reverse =
      lastOnes limit (PostgresAudit.orderedBySeq rows) := by
  cases limit with
  | none => exact List.reverse_reverse _
  | some limit =>
      simp only [PostgresReads.mostRecentFirst, lastOnes]
      rw [List.take_reverse, List.reverse_reverse]

theorem postgres_listFiltered
    {table : PostgresAudit.PostgresAuditTable}
    (writes : PostgresReads.writeEvents sha256 (events.map (·.event)) = some table)
    (limited : filters.limit ≠ some 0)
    {cursors : AuditCursors}
    (sendable : Sendable filters cursors) :
    PostgresReads.listFiltered table filters cursors =
      Outcome (AuditReference.listFiltered (events.map (·.event)) filters cursors) := by
  obtain ⟨chained, placed⟩ := serverPlaced_writeEvents writes
  have workspace : PostgresReads.admitsText filters.workspaceId = true :=
    sendable.texts _ List.mem_cons_self
  have cursorBounds : PostgresReads.cursorBounds table filters.workspaceId cursors =
      ((AuditReference.cursorBounds (events.map (·.event)) filters.workspaceId cursors).map
        integerBounds).mapError .query := by
    rw [PostgresReads.cursorBounds, postgres_cursorSeq_placed placed workspace sendable.snapshot,
      postgres_cursorSeq_placed placed workspace sendable.before]
    exact cursorBounds_related ReadError.query _ _ _
  have sends : ((PostgresReads.boundTexts filters).all PostgresReads.admitsText &&
      limitFits filters.limit) = true := by
    rw [sendable.limit, Bool.and_true]
    exact List.all_eq_true.mpr sendable.texts
  rw [reference_listFiltered _ limited]
  unfold PostgresReads.listFiltered
  rw [cursorBounds]
  cases validateAuditEventClass filters.eventClass with
  | error error => rfl
  | ok _ =>
      cases AuditReference.cursorBounds (events.map (·.event)) filters.workspaceId cursors with
      | error error => rfl
      | ok bounds =>
          have decodes := decodes_page (fun _ _ isPlaced => ServerPlaced.rendered isPlaced)
            (fun _ _ isPlaced => postgres_columnClauses_placed filters bounds isPlaced) placed
            (ReadError.query .undecodableEvent)
          have rows : (PostgresReads.mostRecentFirst filters.limit
              (table.filter (PostgresReads.columnClauses filters (integerBounds bounds)))).reverse =
              lastOnes filters.limit
                (table.filter (PostgresReads.columnClauses filters (integerBounds bounds))) := by
            rw [postgres_reverse_mostRecentFirst, PostgresAudit.orderedBySeq, filter_insertionSort]
            exact congrArg (fun sorted => lastOnes filters.limit (List.filter _ sorted))
              chained.ordered
          simp only [bind, Except.bind, Except.map, Except.mapError, Fallible.ensure, sends,
            if_true, rows, decodes, Outcome, pure, Except.pure, List.map_map, Function.comp_def]

end Written

/-! ## The three reads -/

/-- The three reads return the same events in the same order, or all of them refuse
the cursors. -/
def ReturnOrRefuse
    (containerText : String → String → String)
    (events : List AuditEvent)
    (liteTable : AuditTable)
    (serverTable : PostgresAudit.PostgresAuditTable)
    (filters : AuditFilters)
    (cursors : AuditCursors) : Prop :=
  (∃ returned, AuditReference.listFiltered events filters cursors = .ok returned ∧
    SqliteReads.listFiltered containerText liteTable filters cursors =
      .ok (returned.map decoded) ∧
    PostgresReads.listFiltered serverTable filters cursors = .ok (returned.map decoded)) ∨
  AuditReference.listFiltered events filters cursors = .error .invalidAuditCursor ∧
    SqliteReads.listFiltered containerText liteTable filters cursors =
      .error (.query .invalidAuditCursor) ∧
    PostgresReads.listFiltered serverTable filters cursors =
      .error (.query .invalidAuditCursor)

theorem cursorPosition_error
    {events : List AuditEvent}
    {workspaceId : String}
    {cursor : Option String}
    {error : AuditQueryError}
    (raises : AuditReference.cursorPosition events workspaceId cursor = .error error) :
    error = .invalidAuditCursor := by
  unfold AuditReference.cursorPosition at raises
  split at raises
  · cases raises
  · split at raises
    · exact (Except.error.inj raises).symm
    · cases raises

/-- Cursors are refused with one error. -/
theorem cursorBounds_error
    {events : List AuditEvent}
    {workspaceId : String}
    {cursors : AuditCursors}
    {error : AuditQueryError}
    (raises : AuditReference.cursorBounds events workspaceId cursors = .error error) :
    error = .invalidAuditCursor := by
  have refusal : ∀ {condition : Prop} [Decidable condition] {error : AuditQueryError},
      Fallible.ensure condition AuditQueryError.invalidAuditCursor = .error error →
        error = .invalidAuditCursor := by
    intro condition decidable error raises
    unfold Fallible.ensure at raises
    split at raises
    · cases raises
    · exact (Except.error.inj raises).symm
  unfold AuditReference.cursorBounds at raises
  rcases Fallible.bind_eq_error.mp raises with refused | ⟨_, -, raises⟩
  · exact refusal refused
  rcases Fallible.bind_eq_error.mp raises with refused | ⟨snapshot, -, raises⟩
  · exact cursorPosition_error refused
  rcases Fallible.bind_eq_error.mp raises with refused | ⟨before, -, raises⟩
  · exact cursorPosition_error refused
  rcases Fallible.bind_eq_error.mp raises with refused | ⟨_, -, returned⟩
  · exact refusal refused
  · cases returned

/-- An event of the log that stands in both databases. -/
def recordedToken : RecordedEvent where
  event := tokenEvent
  createdAt := ⟨by decide, by decide⟩
  firstSeenAt := nofun
  lastSeenAt := nofun

end FilterAgreement
end Vinctor
