import Vinctor.Foundation.DatetimeRoundTrip
import Vinctor.Foundation.HashChain
import Vinctor.Service.AuditWriting

/-!
# The audit chain of the Postgres store

The table of audit events of the Postgres store has columns of its own for
every field of an event, with the types of the database: instants and truth
values are not texts or numbers.  The verification compares each column with
the canonical JSON as the SQLite store does.
-/

namespace Vinctor
namespace PostgresAudit

open Foundation
open AuditChain

/-! ## Rows -/

structure PostgresAuditRow where
  eventId : String
  eventType : String
  decision : String
  reason : String
  workspaceId : String
  agentId : String
  grantId : String
  grantRef : String
  action : String
  resource : String
  scopeAttempted : String
  scopeMatched : Option String
  boundaryId : Option String
  runtime : Option String
  boundaryType : Option String
  createdAt : Instant
  enforcingPrincipal : Option String
  reasonCode : Option String
  occurrenceCount : Option Int
  firstSeenAt : Option Instant
  lastSeenAt : Option Instant
  subjectTokenVerified : Bool
  tokenId : Option String
  eventClass : String
  eventJson : String
  seq : Int
  prevHash : String
  rowHash : String
  deriving DecidableEq, Repr

/-- Rows in the order in which they were inserted. -/
abbrev PostgresAuditTable := List PostgresAuditRow

def orderedBySeq (table : PostgresAuditTable) : List PostgresAuditRow :=
  table.insertionSort fun left right => left.seq ≤ right.seq

/-- Position and hash of the last row, or those before the first row. -/
def chainHead (table : PostgresAuditTable) : Int × String :=
  match (orderedBySeq table).getLast? with
  | none => (0, genesisPrevHash)
  | some row => (row.seq, row.rowHash)

/-! ## Comparison of columns with the canonical JSON -/

/-- Value of a column as the driver returns it. -/
inductive PostgresValue
  | null
  | text (value : String)
  | integer (value : Int)
  | boolean (value : Bool)
  | timestamp (value : Instant)

namespace PostgresValue

def nullableText (text : Option String) : PostgresValue :=
  (text.map PostgresValue.text).getD .null

def nullableInteger (value : Option Int) : PostgresValue :=
  (value.map PostgresValue.integer).getD .null

def nullableTimestamp (value : Option Instant) : PostgresValue :=
  (value.map PostgresValue.timestamp).getD .null

/-- The same value in JSON, where there is one. -/
def toJson : PostgresValue → Option Json
  | .null => some .null
  | .text value => some (.str value)
  | .integer value => some (.int value)
  | .boolean value => some (.bool value)
  | .timestamp _ => none

/-- A timestamp has a zone and is brought to coordinated universal time. -/
def canonicalInstant : PostgresValue → Option Json
  | .timestamp value => some (.str (isoformat value))
  | value => value.toJson.map AuditChain.canonicalInstant

def truthy : PostgresValue → Bool
  | .timestamp _ => true
  | value => value.toJson.any Json.truthy

end PostgresValue

/-- Equality of a field and a column. -/
def sameColumn (jsonValue : Json) (column : Option Json) : Bool :=
  column.any (sameValue jsonValue)

/-- Whether a column agrees with its field of the canonical JSON. -/
def crosscheckValuesMatch
    (column : String)
    (jsonValue : Json)
    (columnValue : PostgresValue) : Bool :=
  if datetimeCrosscheckFields.contains column then
    sameColumn (canonicalInstant jsonValue) columnValue.canonicalInstant
  else if booleanCrosscheckFields.contains column then
    jsonValue.truthy == columnValue.truthy
  else if column = "event_class" then
    let value := match jsonValue with
      | .null => .str "decision"
      | value => value
    sameColumn value columnValue.toJson
  else sameColumn jsonValue columnValue.toJson

/-- Columns that mirror a field of the canonical JSON, in the order in which
they are compared: those that both stores have, then those of this one. -/
def crosscheckColumns (row : PostgresAuditRow) : List (String × PostgresValue) :=
  [ ("event_id", .text row.eventId),
    ("event_type", .text row.eventType),
    ("decision", .text row.decision),
    ("reason", .text row.reason),
    ("workspace_id", .text row.workspaceId),
    ("agent_id", .text row.agentId),
    ("grant_id", .text row.grantId),
    ("grant_ref", .text row.grantRef),
    ("action", .text row.action),
    ("resource", .text row.resource),
    ("scope_attempted", .text row.scopeAttempted),
    ("scope_matched", .nullableText row.scopeMatched),
    ("boundary_id", .nullableText row.boundaryId),
    ("runtime", .nullableText row.runtime),
    ("boundary_type", .nullableText row.boundaryType),
    ("created_at", .timestamp row.createdAt),
    ("subject_token_verified", .boolean row.subjectTokenVerified),
    ("event_class", .text row.eventClass),
    ("enforcing_principal", .nullableText row.enforcingPrincipal),
    ("reason_code", .nullableText row.reasonCode),
    ("occurrence_count", .nullableInteger row.occurrenceCount),
    ("first_seen_at", .nullableTimestamp row.firstSeenAt),
    ("last_seen_at", .nullableTimestamp row.lastSeenAt),
    ("token_id", .nullableText row.tokenId) ]

/-- Whether the columns of a row agree with its canonical JSON.  There is no
answer when the text is not JSON or not an object. -/
def rowColumnsMatch (row : PostgresAuditRow) : Option Bool :=
  match Json.loads row.eventJson.toList with
  | some (.obj data) =>
      some ((crosscheckColumns row).all fun (name, value) =>
        crosscheckValuesMatch name (eventJsonValue data name) value)
  | _ => none

/-! ## Verification of the chain -/

/-- The loop of the verification.  There is no result when the comparison of
the columns of a row has none. -/
def verifyRows
    (sha256 : Bytes → Bytes)
    (count : Nat)
    (prev : String)
    (expectedSeq : Int)
    (headSeq : Int)
    (headHash : String) :
    List PostgresAuditRow → Option ChainVerification
  | [] => some { ok := true, count, headSeq, headHash }
  | row :: rest =>
      let broken (seq : Int) (kind : BreakKind) : Option ChainVerification :=
        some
          { ok := false, count, headSeq, headHash
            breakSeq := some seq
            breakEventId := some row.eventId
            breakKind := some kind }
      if row.seq ≠ expectedSeq then broken expectedSeq .deleted
      else if row.prevHash ≠ prev then broken row.seq .reordered
      else if row.rowHash ≠ AuditChain.rowHash sha256 row.seq row.eventJson row.prevHash then
        broken row.seq .modified
      else
        match rowColumnsMatch row with
        | none => none
        | some false => broken row.seq .columnMismatch
        | some true =>
            verifyRows sha256 count row.rowHash (expectedSeq + 1) row.seq row.rowHash rest

def verifyChain
    (sha256 : Bytes → Bytes)
    (table : PostgresAuditTable) : Option ChainVerification :=
  let rows := orderedBySeq table
  verifyRows sha256 rows.length genesisPrevHash 1 0 genesisPrevHash rows

/-! ## Writing -/

/-- Columns of the row of an event. -/
def eventRow
    (event : AuditEvent)
    (eventJson : String)
    (seq : Int)
    (prevHash hash : String) : PostgresAuditRow where
  eventId := event.eventId
  eventType := event.eventType
  decision := event.decision.code
  reason := event.reason
  workspaceId := event.workspaceId
  agentId := event.agentId
  grantId := event.grantId
  grantRef := event.grantRef
  action := event.action
  resource := event.resource
  scopeAttempted := event.scopeAttempted
  scopeMatched := event.scopeMatched
  boundaryId := event.boundaryId
  runtime := event.runtime
  boundaryType := event.boundaryType
  createdAt := event.createdAt
  enforcingPrincipal := event.enforcingPrincipal
  reasonCode := event.reasonCode
  occurrenceCount := event.occurrenceCount
  firstSeenAt := event.firstSeenAt
  lastSeenAt := event.lastSeenAt
  subjectTokenVerified := event.subjectTokenVerified
  tokenId := event.tokenId
  eventClass := event.eventClass
  eventJson := eventJson
  seq := seq
  prevHash := prevHash
  rowHash := hash

/-- The row after a head that was read. -/
def nextRow
    (sha256 : Bytes → Bytes)
    (event : AuditEvent)
    (eventJson : String)
    (head : Int × String) : PostgresAuditRow :=
  eventRow event eventJson (head.1 + 1) head.2
    (AuditChain.rowHash sha256 (head.1 + 1) eventJson head.2)

/-- Whether the identifier or the position of a row is taken. -/
def violatesUniqueness (table : PostgresAuditTable) (row : PostgresAuditRow) : Bool :=
  table.any fun other => other.eventId = row.eventId || other.seq = row.seq

/-! ## The columns agree -/

/-- An event with instants that a date shows. -/
structure RecordedEvent where
  event : AuditEvent
  createdAt : Datetime.Representable event.createdAt
  firstSeenAt : ∀ instant ∈ event.firstSeenAt, Datetime.Representable instant
  lastSeenAt : ∀ instant ∈ event.lastSeenAt, Datetime.Representable instant

theorem canonicalInstant_isoformat
    {instant : Instant}
    (representable : Datetime.Representable instant) :
    AuditChain.canonicalInstant (.str (isoformat instant)) = .str (isoformat instant) := by
  unfold AuditChain.canonicalInstant
  dsimp only
  rw [isoformat, String.toList_ofList, Datetime.fromisoformat_ofInstant representable]
  dsimp only
  rw [Datetime.asUtc_ofInstant representable]

/-- A field that is compared directly. -/
theorem crosscheckValuesMatch_direct
    {field : String}
    {value : Json}
    {column : PostgresValue}
    (direct : field ∉ datetimeCrosscheckFields ++ booleanCrosscheckFields ++ ["event_class"])
    (same : sameColumn value column.toJson = true) :
    crosscheckValuesMatch field value column = true := by
  simp only [List.mem_append, List.mem_singleton, not_or] at direct
  unfold crosscheckValuesMatch
  rw [if_neg (by simpa using direct.1.1), if_neg (by simpa using direct.1.2),
    if_neg direct.2]
  exact same

/-- A field that the canonical JSON always has. -/
theorem crosscheck_stored
    {event : AuditEvent}
    {field : String}
    {value : Json}
    {column : PostgresValue}
    (member : (field, value) ∈ event.toDict)
    (direct : field ∉ datetimeCrosscheckFields ++ booleanCrosscheckFields ++ ["event_class"])
    (same : sameColumn value column.toJson = true) :
    crosscheckValuesMatch field (eventJsonValue event.toDict field) column = true := by
  rw [eventJsonValue_of_mem member]
  exact crosscheckValuesMatch_direct direct same

theorem sameColumn_text (text : String) :
    sameColumn (.str text) (PostgresValue.text text).toJson = true := by
  simp [sameColumn, PostgresValue.toJson, sameValue]

theorem sameColumn_nullableText (text : Option String) :
    sameColumn (AuditEvent.nullableText text) (PostgresValue.nullableText text).toJson =
      true := by
  cases text <;>
    simp [sameColumn, AuditEvent.nullableText, PostgresValue.nullableText,
      PostgresValue.toJson, sameValue]

/-- A field that the canonical JSON leaves out when it has no value. -/
theorem eventJsonValue_optional
    {event : AuditEvent}
    {field : String}
    {value : Option Json}
    (present : ∀ found ∈ value, (field, found) ∈ event.toDict)
    (absent : value = none → field ∉ event.toDict.map Prod.fst) :
    eventJsonValue event.toDict field = value.getD .null := by
  cases value with
  | none => exact eventJsonValue_of_not_mem (absent rfl)
  | some found => exact eventJsonValue_of_mem (present found rfl)

/-- A text that the canonical JSON leaves out when there is none. -/
theorem crosscheck_optionalText
    {event : AuditEvent}
    {field : String}
    {text : Option String}
    (direct : field ∉ datetimeCrosscheckFields ++ booleanCrosscheckFields ++ ["event_class"])
    (present : ∀ found ∈ text.map Json.str, (field, found) ∈ event.toDict)
    (absent : text.map Json.str = none → field ∉ event.toDict.map Prod.fst) :
    crosscheckValuesMatch field (eventJsonValue event.toDict field)
      (PostgresValue.nullableText text) = true := by
  rw [eventJsonValue_optional present absent]
  exact crosscheckValuesMatch_direct direct (sameColumn_nullableText text)

/-- An instant that the canonical JSON leaves out when there is none. -/
theorem crosscheck_optionalInstant
    {event : AuditEvent}
    {field : String}
    {instant : Option Instant}
    (isInstant : field ∈ datetimeCrosscheckFields)
    (representable : ∀ found ∈ instant, Datetime.Representable found)
    (present : ∀ found ∈ instant.map (fun at_ => Json.str (isoformat at_)),
      (field, found) ∈ event.toDict)
    (absent : instant.map (fun at_ => Json.str (isoformat at_)) = none →
      field ∉ event.toDict.map Prod.fst) :
    crosscheckValuesMatch field (eventJsonValue event.toDict field)
      (PostgresValue.nullableTimestamp instant) = true := by
  rw [eventJsonValue_optional present absent]
  unfold crosscheckValuesMatch
  rw [if_pos (by simpa using isInstant)]
  cases instant with
  | none => rfl
  | some at_ =>
      simp [PostgresValue.nullableTimestamp, PostgresValue.canonicalInstant, sameColumn,
        canonicalInstant_isoformat (representable at_ rfl), sameValue]

theorem crosscheck_subjectTokenVerified (event : AuditEvent) :
    crosscheckValuesMatch "subject_token_verified"
      (eventJsonValue event.toDict "subject_token_verified")
      (.boolean event.subjectTokenVerified) = true := by
  simp only [crosscheckValuesMatch, datetimeCrosscheckFields, booleanCrosscheckFields,
    truthy_subjectTokenVerified]
  cases event.subjectTokenVerified <;> rfl

theorem crosscheck_eventClass (event : AuditEvent) :
    crosscheckValuesMatch "event_class" (eventJsonValue event.toDict "event_class")
      (.text event.eventClass) = true := by
  have field := eventJsonValue_eventClass event
  by_cases decision : event.eventClass = "decision"
  · rw [if_pos decision] at field
    rw [field, decision]
    rfl
  · rw [if_neg decision] at field
    rw [field]
    simp [crosscheckValuesMatch, datetimeCrosscheckFields, booleanCrosscheckFields,
      sameColumn, PostgresValue.toJson, sameValue]

theorem crosscheck_occurrenceCount (event : AuditEvent) :
    crosscheckValuesMatch "occurrence_count" (eventJsonValue event.toDict "occurrence_count")
      (PostgresValue.nullableInteger event.occurrenceCount) = true := by
  have field : eventJsonValue event.toDict "occurrence_count" =
      (event.occurrenceCount.map Json.int).getD .null := by
    apply eventJsonValue_optional
    · intro found isFound
      simp [AuditEvent.toDict, AuditEvent.optionalMember, Option.mem_def.mp isFound]
    · intro none
      simp_all [AuditEvent.toDict, AuditEvent.mem_keys_optionalMember, -List.mem_map]
  rw [field]
  apply crosscheckValuesMatch_direct (by decide)
  cases event.occurrenceCount <;>
    simp [sameColumn, PostgresValue.nullableInteger, PostgresValue.toJson, sameValue]

/-- The columns that the writer stores agree with the event. -/
theorem rowColumnsMatch_eventRow
    (recorded : RecordedEvent)
    {eventJson : String}
    (rendered : recorded.event.toJson = some eventJson)
    (seq : Int)
    (prevHash hash : String) :
    rowColumnsMatch (eventRow recorded.event eventJson seq prevHash hash) = some true := by
  obtain ⟨event, createdAt, firstSeenAt, lastSeenAt⟩ := recorded
  dsimp only at rendered ⊢
  simp only [rowColumnsMatch, eventRow, AuditEvent.loads_toJson rendered,
    eventJsonValue_insertionSort event.keys_toDict_nodup, Option.some.injEq, crosscheckColumns,
    List.all_cons, List.all_nil, Bool.and_eq_true, and_true]
  refine ⟨?_, ?_, ?_, ?_, ?_, ?_, ?_, ?_, ?_, ?_, ?_, ?_, ?_, ?_, ?_, ?createdAt,
    crosscheck_subjectTokenVerified event, crosscheck_eventClass event, ?principal,
    ?reasonCode, crosscheck_occurrenceCount event, ?firstSeenAt, ?lastSeenAt, ?tokenId⟩
  case createdAt =>
    have member : ("created_at", Json.str (isoformat event.createdAt)) ∈ event.toDict := by
      simp [AuditEvent.toDict]
    rw [eventJsonValue_of_mem member]
    simp [crosscheckValuesMatch, datetimeCrosscheckFields, PostgresValue.canonicalInstant,
      sameColumn, canonicalInstant_isoformat createdAt, sameValue]
  case principal | reasonCode | tokenId =>
    apply crosscheck_optionalText (by decide)
    · intro found isFound
      simp [AuditEvent.toDict, AuditEvent.optionalMember, Option.mem_def.mp isFound]
    · intro none
      simp_all [AuditEvent.toDict, AuditEvent.mem_keys_optionalMember, -List.mem_map]
  case firstSeenAt =>
    apply crosscheck_optionalInstant (by decide) firstSeenAt
    · intro found isFound
      simp [AuditEvent.toDict, AuditEvent.optionalMember, Option.mem_def.mp isFound]
    · intro none
      simp_all [AuditEvent.toDict, AuditEvent.mem_keys_optionalMember, -List.mem_map]
  case lastSeenAt =>
    apply crosscheck_optionalInstant (by decide) lastSeenAt
    · intro found isFound
      simp [AuditEvent.toDict, AuditEvent.optionalMember, Option.mem_def.mp isFound]
    · intro none
      simp_all [AuditEvent.toDict, AuditEvent.mem_keys_optionalMember, -List.mem_map]
  all_goals
    first
    | exact crosscheck_stored (by simp [AuditEvent.toDict]) (by decide) (sameColumn_text _)
    | exact crosscheck_stored (by simp [AuditEvent.toDict]) (by decide)
        (sameColumn_nullableText _)

/-! ## Chains -/

def PostgresAuditRow.link (row : PostgresAuditRow) : HashChain.Link String String where
  position := row.seq
  previous := row.prevHash
  digest := row.rowHash
  body := row.eventJson

/-- Rows in the order of their chain from the genesis hash, each with columns
that agree with its canonical JSON. -/
structure Chained (sha256 : Bytes → Bytes) (rows : List PostgresAuditRow) : Prop where
  linked : HashChain.Linked (AuditChain.rowHash sha256) genesisPrevHash 1
    (rows.map PostgresAuditRow.link)
  matched : ∀ row ∈ rows, rowColumnsMatch row = some true

namespace Chained

variable {sha256 : Bytes → Bytes} {rows : List PostgresAuditRow}

theorem nil : Chained sha256 [] where
  linked := trivial
  matched := by simp

theorem of_prefix
    (chained : Chained sha256 rows)
    {earlier : List PostgresAuditRow}
    (first : earlier <+: rows) :
    Chained sha256 earlier := by
  have taken : earlier = rows.take earlier.length := List.prefix_iff_eq_take.mp first
  refine ⟨?_, fun row present => chained.matched row (first.subset present)⟩
  rw [taken, List.map_take]
  exact chained.linked.take _

/-- The positions of a chain are one, two and so on. -/
theorem map_seq (chained : Chained sha256 rows) :
    rows.map (·.seq) = (List.range rows.length).map fun index : Nat => (index : Int) + 1 := by
  have positions := chained.linked.map_position
  rw [List.map_map, List.length_map] at positions
  simpa [Int.add_comm, Function.comp_def, PostgresAuditRow.link] using positions

theorem seq_of_getElem?
    (chained : Chained sha256 rows)
    {index : Nat}
    {row : PostgresAuditRow}
    (placed : rows[index]? = some row) :
    row.seq = (index : Int) + 1 := by
  have bound : index < rows.length := (List.getElem?_eq_some_iff.mp placed).1
  have found := congrArg (fun seqs : List Int => seqs[index]?) chained.map_seq
  simp only [List.getElem?_map, placed, List.getElem?_range bound, Option.map_some,
    Option.some.injEq] at found
  exact found

/-- Rows stored in the order of their chain are read in that order. -/
theorem ordered (chained : Chained sha256 rows) : orderedBySeq rows = rows := by
  have sorted : rows.Pairwise fun left right => left.seq ≤ right.seq := by
    rw [List.pairwise_iff_getElem]
    intro first second firstBound secondBound before
    rw [chained.seq_of_getElem? (List.getElem?_eq_getElem firstBound),
      chained.seq_of_getElem? (List.getElem?_eq_getElem secondBound)]
    omega
  exact sorted.insertionSort_eq

/-- The head of a chain is its length and its last hash. -/
theorem chainHead_eq (chained : Chained sha256 rows) :
    chainHead rows =
      ((rows.length : Int),
        HashChain.headDigest genesisPrevHash (rows.map PostgresAuditRow.link)) := by
  rw [chainHead, chained.ordered]
  cases rows using List.reverseRecOn with
  | nil => rfl
  | append_singleton earlier last =>
      have placed : last.seq = (earlier.length : Int) + 1 :=
        chained.seq_of_getElem? (by simp)
      rw [List.getLast?_append, List.map_append, List.map_singleton,
        HashChain.headDigest_append_singleton]
      simp [placed, PostgresAuditRow.link]

/-- The row after the head of a chain continues it. -/
theorem append_nextRow
    (chained : Chained sha256 rows)
    (recorded : RecordedEvent)
    {eventJson : String}
    (rendered : recorded.event.toJson = some eventJson) :
    Chained sha256 (rows ++ [nextRow sha256 recorded.event eventJson (chainHead rows)]) := by
  rw [chained.chainHead_eq]
  constructor
  · rw [List.map_append, List.map_singleton, HashChain.linked_append_singleton]
    refine ⟨chained.linked, ?_, rfl, rfl⟩
    rw [List.length_map, Int.add_comm]
    rfl
  · intro row present
    rcases List.mem_append.mp present with earlier | last
    · exact chained.matched row earlier
    · obtain rfl := List.mem_singleton.mp last
      exact rowColumnsMatch_eventRow recorded rendered _ _ _

/-- On a chain the loop of the verification reaches its end. -/
theorem verifyRows_eq
    {prev : String}
    {seq : Int}
    {rows : List PostgresAuditRow}
    (linked : HashChain.Linked (AuditChain.rowHash sha256) prev seq
      (rows.map PostgresAuditRow.link))
    (matched : ∀ row ∈ rows, rowColumnsMatch row = some true)
    (count : Nat) :
    verifyRows sha256 count prev seq (seq - 1) prev rows =
      some
        { ok := true, count
          headSeq := seq - 1 + rows.length
          headHash := HashChain.headDigest prev (rows.map PostgresAuditRow.link) } := by
  induction rows generalizing prev seq with
  | nil => simp [verifyRows]
  | cons row rest inductionHypothesis =>
      obtain ⟨placed, joined, hashed, linkedRest⟩ := linked
      obtain ⟨matchedRow, matchedRest⟩ := List.forall_mem_cons.mp matched
      have later := inductionHypothesis linkedRest matchedRest
      rw [Int.add_sub_cancel] at later
      have position : seq + (rest.length : Int) = seq - 1 + ((row :: rest).length : Int) := by
        rw [List.length_cons]
        omega
      dsimp only [PostgresAuditRow.link] at placed joined hashed later
      rw [← position, List.map_cons, HashChain.headDigest_cons, verifyRows]
      dsimp only [PostgresAuditRow.link]
      rw [if_neg (not_not.mpr placed), if_neg (not_not.mpr joined),
        if_neg (not_not.mpr hashed), matchedRow, placed]
      exact later

theorem verifyChain_eq (chained : Chained sha256 rows) :
    verifyChain sha256 rows =
      some
        { ok := true
          count := rows.length
          headSeq := rows.length
          headHash := HashChain.headDigest genesisPrevHash (rows.map PostgresAuditRow.link) } := by
  have verified := verifyRows_eq chained.linked chained.matched rows.length
  rw [verifyChain, chained.ordered]
  simpa using verified

end Chained

end PostgresAudit
end Vinctor
