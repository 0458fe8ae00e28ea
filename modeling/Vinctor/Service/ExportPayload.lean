import Vinctor.Foundation.JsonNested
import Vinctor.Service.DatedEvents
import Vinctor.Service.ExportQueueSafety

/-!
# Payload of the OTLP export

The data of a batch is a JSON text with one log record for each event.  A collector that
reads the records of a text gets back exactly the events of the batch.
-/

namespace Vinctor
namespace AuditExport

open Foundation AuditChain

/-! ## Writing -/

def stringValue (text : String) : Json := .obj [("stringValue", .str text)]

def logAttribute (key value : String) : Json :=
  .obj [("key", .str key), ("value", stringValue value)]

/-- The members of a log record. -/
def recordMembers (event : DatedEvent) (seconds : Int) (line : String) : List (String × Json) :=
  [ ("timeUnixNano",
      .str (toString (seconds * 1000000000 + event.createdAt.1.microsecond * 1000))),
    ("body", stringValue line),
    ("attributes", .arr
      [ logAttribute "vinctor.event_id" event.eventId,
        logAttribute "vinctor.event_type" event.eventType,
        logAttribute "vinctor.event_class" event.eventClass,
        logAttribute "vinctor.decision" event.decision.code,
        logAttribute "vinctor.workspace_id" event.workspaceId,
        logAttribute "vinctor.agent_id" event.agentId,
        logAttribute "vinctor.runtime" (event.runtime.getD "") ]) ]

/-- A log record.  The clock of the platform gives the whole seconds since the epoch and
may refuse a time. -/
def otlpRecord (timestamp : Timestamp → Option Int) (event : DatedEvent) : Option Json := do
  let seconds ← timestamp event.createdAt
  let line ← event.toJson
  some (.obj (recordMembers event seconds line))

def scopeMembers (records : List Json) : List (String × Json) :=
  [ ("scope", .obj [("name", .str "vinctor.audit")]),
    ("logRecords", .arr records) ]

def resourceMembers (records : List Json) : List (String × Json) :=
  [ ("resource", .obj [("attributes", .arr [logAttribute "service.name" "vinctor"])]),
    ("scopeLogs", .arr [.obj (scopeMembers records)]) ]

def payloadMembers (records : List Json) : List (String × Json) :=
  [("resourceLogs", .arr [.obj (resourceMembers records)])]

/-- The data of a batch, unless a record of it cannot be written. -/
def otlpJson
    (timestamp : Timestamp → Option Int)
    (events : List DatedEvent) : Option (List Char) := do
  let records ← events.mapM (otlpRecord timestamp)
  Json.dumps (.obj (payloadMembers records))

/-! ## Reading -/

def member? (key : String) : Json → Option Json
  | .obj members => Json.get? members key
  | _ => none

def elements? : Json → Option (List Json)
  | .arr elements => some elements
  | _ => none

def text? : Json → Option String
  | .str text => some text
  | _ => none

/-- The event of a log record. -/
def readRecord (record : Json) : Option DecodedEvent := do
  let body ← member? "body" record
  let value ← member? "stringValue" body
  let line ← text? value
  auditEventFromJson line

def readScope (scope : Json) : Option (List DecodedEvent) := do
  let records ← member? "logRecords" scope
  let records ← elements? records
  records.mapM readRecord

def readResource (resource : Json) : Option (List DecodedEvent) := do
  let scopes ← member? "scopeLogs" resource
  let scopes ← elements? scopes
  let events ← scopes.mapM readScope
  some events.flatten

/-- The events of all log records of a payload. -/
def readPayload (data : List Char) : Option (List DecodedEvent) := do
  let payload ← Json.loads data
  let resources ← member? "resourceLogs" payload
  let resources ← elements? resources
  let events ← resources.mapM readResource
  some events.flatten

/-! ## What is written is read -/

theorem get?_canonicalMembers (members : List (String × Json)) (key : String) :
    Json.get? (Json.canonicalMembers members) key =
      (Json.get? members key).map Json.canonical := by
  unfold Json.get?
  rw [Json.canonicalMembers_eq_map, ← List.map_reverse, List.find?_map, Option.map_map,
    Option.map_map]
  rfl

theorem member?_canonical
    {members : List (String × Json)}
    (distinct : (members.map Prod.fst).Nodup)
    (key : String) :
    member? key (Json.canonical (.obj members)) = (Json.get? members key).map Json.canonical := by
  have keys : (Json.canonicalMembers members).map Prod.fst = members.map Prod.fst := by
    rw [Json.canonicalMembers_eq_map, List.map_map]
    rfl
  rw [Json.canonical_obj, member?, Json.get?_insertionSort (keys ▸ distinct),
    get?_canonicalMembers]

section Reading

variable {timestamp : Timestamp → Option Int} {events : List DatedEvent}

theorem otlpRecord_eq_some
    {event : DatedEvent}
    {record : Json}
    (written : otlpRecord timestamp event = some record) :
    ∃ seconds line, event.toJson = some line ∧
      record = .obj (recordMembers event seconds line) := by
  simp only [otlpRecord, Option.bind_eq_bind, Option.bind_eq_some_iff, Option.some.injEq]
    at written
  obtain ⟨seconds, -, line, rendered, rfl⟩ := written
  exact ⟨seconds, line, rendered, rfl⟩

theorem isPlain_otlpRecord
    {event : DatedEvent}
    {record : Json}
    (written : otlpRecord timestamp event = some record) : Json.isPlain record = true := by
  obtain ⟨seconds, line, -, rfl⟩ := otlpRecord_eq_some written
  rfl

theorem readRecord_otlpRecord
    {event : DatedEvent}
    {record : Json}
    (written : otlpRecord timestamp event = some record) :
    readRecord (Json.canonical record) = some event.decoded := by
  obtain ⟨seconds, line, rendered, rfl⟩ := otlpRecord_eq_some written
  have body := member?_canonical
    (show ((recordMembers event seconds line).map Prod.fst).Nodup by simp [recordMembers]) "body"
  have value := member?_canonical
    (show (([("stringValue", Json.str line)]).map Prod.fst).Nodup by simp) "stringValue"
  rw [show Json.get? (recordMembers event seconds line) "body" = some (stringValue line) by
    simp [Json.get?, recordMembers]] at body
  rw [show Json.get? [("stringValue", Json.str line)] "stringValue" = some (.str line) by
    simp [Json.get?]] at value
  simp only [readRecord, body, Option.map_some, Option.bind_eq_bind, Option.bind_some]
  rw [stringValue, value]
  exact DatedEvent.auditEventFromJson_toJson rendered

theorem mapM_readRecord
    {records : List Json}
    (written : events.mapM (otlpRecord timestamp) = some records) :
    (records.map Json.canonical).mapM readRecord = some (events.map DatedEvent.decoded) ∧
      ∀ record ∈ records, Json.isPlain record = true := by
  induction events generalizing records with
  | nil =>
      obtain rfl : [] = records := by simpa using written
      exact ⟨rfl, nofun⟩
  | cons event rest inductionHypothesis =>
      simp only [List.mapM_cons, Option.bind_eq_bind, Option.bind_eq_some_iff, Option.pure_def,
        Option.some.injEq] at written
      obtain ⟨record, recordWritten, others, othersWritten, rfl⟩ := written
      obtain ⟨read, plain⟩ := inductionHypothesis othersWritten
      constructor
      · simp [readRecord_otlpRecord recordWritten, read]
      · intro found present
        rcases List.mem_cons.mp present with rfl | later
        · exact isPlain_otlpRecord recordWritten
        · exact plain found later

theorem readScope_scopeMembers
    {records : List Json}
    (read : (records.map Json.canonical).mapM readRecord = some (events.map DatedEvent.decoded)) :
    readScope (Json.canonical (.obj (scopeMembers records))) =
      some (events.map DatedEvent.decoded) := by
  have held := member?_canonical
    (show ((scopeMembers records).map Prod.fst).Nodup by simp [scopeMembers]) "logRecords"
  rw [show Json.get? (scopeMembers records) "logRecords" = some (.arr records) by
    simp [Json.get?, scopeMembers]] at held
  simp only [readScope, held, Option.map_some, Json.canonical_arr, elements?,
    Json.canonicalElements_eq_map, Option.bind_eq_bind, Option.bind_some]
  exact read

theorem readResource_resourceMembers
    {records : List Json}
    (read : (records.map Json.canonical).mapM readRecord = some (events.map DatedEvent.decoded)) :
    readResource (Json.canonical (.obj (resourceMembers records))) =
      some (events.map DatedEvent.decoded) := by
  have held := member?_canonical
    (show ((resourceMembers records).map Prod.fst).Nodup by simp [resourceMembers]) "scopeLogs"
  rw [show Json.get? (resourceMembers records) "scopeLogs" =
      some (.arr [.obj (scopeMembers records)]) by simp [Json.get?, resourceMembers]] at held
  simp only [readResource, held, Option.map_some, Json.canonical_arr, elements?,
    Json.canonicalElements_eq_map, Option.bind_eq_bind, Option.bind_some, List.map_cons,
    List.map_nil, List.mapM_cons, List.mapM_nil, readScope_scopeMembers read, Option.pure_def,
    List.flatten_cons, List.flatten_nil, List.append_nil]

/-- A collector reads the events of a batch from its data. -/
theorem readPayload_otlpJson
    {data : List Char}
    (written : otlpJson timestamp events = some data) :
    readPayload data = some (events.map DatedEvent.decoded) := by
  simp only [otlpJson, Option.bind_eq_bind, Option.bind_eq_some_iff] at written
  obtain ⟨records, recordsWritten, rendered⟩ := written
  obtain ⟨read, plain⟩ := mapM_readRecord recordsWritten
  have payloadPlain : Json.isPlain (.obj (payloadMembers records)) = true := by
    have all := (Json.arePlain_iff records).mpr plain
    simp [payloadMembers, resourceMembers, scopeMembers, logAttribute, stringValue,
      Json.isPlain, Json.membersPlain, Json.arePlain, all]
  have loaded := Json.loads_dumps payloadPlain rendered
  have held := member?_canonical
    (show ((payloadMembers records).map Prod.fst).Nodup by simp [payloadMembers]) "resourceLogs"
  rw [show Json.get? (payloadMembers records) "resourceLogs" =
      some (.arr [.obj (resourceMembers records)]) by simp [Json.get?, payloadMembers]] at held
  simp only [readPayload, loaded, held, Option.map_some, Json.canonical_arr, elements?,
    Json.canonicalElements_eq_map, Option.bind_eq_bind, Option.bind_some, List.map_cons,
    List.map_nil, List.mapM_cons, List.mapM_nil, readResource_resourceMembers read,
    Option.pure_def, List.flatten_cons, List.flatten_nil, List.append_nil]

end Reading

/-! ## What a collector receives -/

/-- The batches of the calls with a shipment, as a collector reads them. -/
def Shipment.received (shipment : Shipment DatedEvent) : List (List DecodedEvent) :=
  List.replicate shipment.calls (shipment.batch.map DatedEvent.decoded)

theorem mapM_readPayload_requests
    {timestamp : Timestamp → Option Int}
    {shipment : Shipment DatedEvent}
    (encoded : 0 < shipment.calls → (otlpJson timestamp shipment.batch).isSome) :
    (shipment.requests (otlpJson timestamp)).mapM readPayload = some shipment.received := by
  unfold Shipment.requests Shipment.received
  cases calls : shipment.calls with
  | zero => rfl
  | succ count =>
      obtain ⟨data, written⟩ := Option.isSome_iff_exists.mp (encoded (by omega))
      rw [written, List.filterMap_replicate_of_some (show id (some data) = some data from rfl)]
      induction count + 1 with
      | zero => rfl
      | succ count inductionHypothesis =>
          simp [List.replicate_succ, readPayload_otlpJson written, inductionHypothesis]

/-- The batches of a run that the worker has dealt with or has in hand. -/
def State.shipments (state : State ε π) : List (Shipment ε) :=
  state.handled.map Handled.shipment ++ state.worker.shipment?.toList

theorem mapM_flatMap
    {requests : α → List β}
    {received : α → List γ}
    {read : β → Option γ}
    {items : List α}
    (each : ∀ item ∈ items, (requests item).mapM read = some (received item)) :
    (items.flatMap requests).mapM read = some (items.flatMap received) := by
  induction items with
  | nil => rfl
  | cons item rest inductionHypothesis =>
      rw [List.flatMap_cons, List.mapM_append, each item List.mem_cons_self,
        inductionHypothesis fun other inRest => each other (List.mem_cons_of_mem _ inRest)]
      rfl

/-- The events of a shipment in hand are in the hands of the worker. -/
theorem Worker.inHand_of_shipment
    {worker : Worker ε}
    {shipment : Shipment ε}
    (holds : worker.shipment? = some shipment) : worker.inHand = shipment.batch := by
  cases worker <;> cases holds <;> rfl

section Received

variable
    {settings : Settings}
    {otlpJson : List ε → Option π}
    {state : State ε π}

theorem Sound.shipped
    (sound : Sound settings otlpJson state)
    {shipment : Shipment ε}
    (present : shipment ∈ state.shipments) :
    Sized settings shipment.batch ∧ shipment.calls ≤ settings.maxAttempts ∧
      (0 < shipment.calls → (otlpJson shipment.batch).isSome) := by
  rcases List.mem_append.mp present with dealtWith | held
  · obtain ⟨handled, inHandled, rfl⟩ := List.mem_map.mp dealtWith
    have settled := sound.settled handled inHandled
    exact ⟨settled.sized, settled.calls, settled.encoded⟩
  · have proper := sound.proper
    cases stands : state.worker with
    | waiting | collecting | stopped | died => rw [stands] at held; cases held
    | encoding other =>
        rw [stands] at held proper
        obtain rfl := List.mem_singleton.mp held
        exact ⟨proper.1, by rw [proper.2.1]; exact Nat.zero_le _, fun called => by
          rw [proper.2.1] at called
          cases called⟩
    | sending other | napping other =>
        rw [stands] at held proper
        obtain rfl := List.mem_singleton.mp held
        exact ⟨proper.sized, Nat.le_of_lt proper.within, fun _ => proper.encodes⟩
    | finishing other verdict =>
        rw [stands] at held proper
        obtain rfl := List.mem_singleton.mp held
        exact ⟨proper.sized, proper.calls, proper.encoded⟩

theorem Sound.requests_eq (sound : Sound settings otlpJson state) :
    state.requests = state.shipments.flatMap (Shipment.requests otlpJson) := by
  rw [sound.requested, State.shipments, List.flatMap_append, List.flatMap_map]

/-- The batches shipped are the events that were queued first. -/
theorem Sound.shipped_prefix (sound : Sound settings otlpJson state) :
    state.shipments.flatMap Shipment.batch <+: state.accepted := by
  rw [sound.accounted, State.shipments, List.flatMap_append, List.flatMap_map]
  refine List.prefix_append_right_inj _ |>.mpr ?_
  cases holds : state.worker.shipment? with
  | none => exact List.nil_prefix
  | some shipment =>
      rw [Worker.inHand_of_shipment holds]
      simp

end Received

end AuditExport
end Vinctor
