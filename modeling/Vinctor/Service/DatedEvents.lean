import Vinctor.Service.FilterAgreement

/-!
# Events of any date and zone

An audit event whose times carry a zone of their own, or none.  Its canonical JSON is read
back as the event, under the present name of its flag and under the former one.
-/

namespace Vinctor

open Foundation

/-- A date and time that can be built. -/
abbrev Timestamp := {datetime : Datetime // datetime.WellFormed}

def Timestamp.isoformat (time : Timestamp) : String := String.ofList time.1.isoformat

structure DatedEvent where
  eventId : String
  eventType : String
  decision : Decision
  reason : String
  workspaceId : String
  agentId : String
  grantId : String
  grantRef : String
  action : String
  resource : String
  scopeAttempted : String
  scopeMatched : Option String
  boundaryId : Option String
  runtime : Option String
  boundaryType : Option String
  createdAt : Timestamp
  enforcingPrincipal : Option String := none
  reasonCode : Option String := none
  occurrenceCount : Option Int := none
  firstSeenAt : Option Timestamp := none
  lastSeenAt : Option Timestamp := none
  subjectTokenVerified : Bool := false
  tokenId : Option String := none
  eventClass : String := "decision"

namespace DatedEvent

open AuditChain
open AuditEvent (nullableText)

/-! ## The canonical JSON -/

/-- The fields under their stored names; a field without a value is left out. -/
def fields (event : DatedEvent) : List (String × Option Json) :=
  [ ("event_id", some (.str event.eventId)),
    ("event_type", some (.str event.eventType)),
    ("decision", some (.str event.decision.code)),
    ("reason", some (.str event.reason)),
    ("workspace_id", some (.str event.workspaceId)),
    ("agent_id", some (.str event.agentId)),
    ("grant_id", some (.str event.grantId)),
    ("grant_ref", some (.str event.grantRef)),
    ("action", some (.str event.action)),
    ("resource", some (.str event.resource)),
    ("scope_attempted", some (.str event.scopeAttempted)),
    ("scope_matched", some (nullableText event.scopeMatched)),
    ("boundary_id", some (nullableText event.boundaryId)),
    ("runtime", some (nullableText event.runtime)),
    ("boundary_type", some (nullableText event.boundaryType)),
    ("created_at", some (.str event.createdAt.isoformat)),
    ("enforcing_principal", event.enforcingPrincipal.map Json.str),
    ("reason_code", event.reasonCode.map Json.str),
    ("occurrence_count", event.occurrenceCount.map Json.int),
    ("first_seen_at", event.firstSeenAt.map fun time => .str time.isoformat),
    ("last_seen_at", event.lastSeenAt.map fun time => .str time.isoformat),
    ("subject_token_verified", if event.subjectTokenVerified then some (.bool true) else none),
    ("token_id", event.tokenId.map Json.str),
    ("event_class",
      if event.eventClass ≠ "decision" then some (.str event.eventClass) else none) ]

def toDict (event : DatedEvent) : List (String × Json) := Json.present event.fields

/-- The fields as they were stored when the flag had its former name. -/
def legacyFields (event : DatedEvent) : List (String × Option Json) :=
  event.fields.map fun field =>
    (if field.1 = "subject_token_verified" then legacySubjectTokenVerifiedField else field.1,
      field.2)

def legacyDict (event : DatedEvent) : List (String × Json) := Json.present event.legacyFields

/-- JSON text of the members with their keys sorted, unless a number is too long. -/
def jsonText (members : List (String × Json)) : Option String :=
  (Json.dumps (.obj members)).map String.ofList

def toJson (event : DatedEvent) : Option String := jsonText event.toDict

def ofInstant (instant : Instant) (representable : Datetime.Representable instant) : Timestamp :=
  ⟨Datetime.ofInstant instant, (Datetime.inRange_ofInstant representable).wellFormed⟩

/-- An event at an instant is an event of coordinated universal time. -/
def ofEvent (recorded : PostgresAudit.RecordedEvent) : DatedEvent where
  eventId := recorded.event.eventId
  eventType := recorded.event.eventType
  decision := recorded.event.decision
  reason := recorded.event.reason
  workspaceId := recorded.event.workspaceId
  agentId := recorded.event.agentId
  grantId := recorded.event.grantId
  grantRef := recorded.event.grantRef
  action := recorded.event.action
  resource := recorded.event.resource
  scopeAttempted := recorded.event.scopeAttempted
  scopeMatched := recorded.event.scopeMatched
  boundaryId := recorded.event.boundaryId
  runtime := recorded.event.runtime
  boundaryType := recorded.event.boundaryType
  createdAt := ofInstant recorded.event.createdAt recorded.createdAt
  enforcingPrincipal := recorded.event.enforcingPrincipal
  reasonCode := recorded.event.reasonCode
  occurrenceCount := recorded.event.occurrenceCount
  firstSeenAt := recorded.event.firstSeenAt.pmap ofInstant recorded.firstSeenAt
  lastSeenAt := recorded.event.lastSeenAt.pmap ofInstant recorded.lastSeenAt
  subjectTokenVerified := recorded.event.subjectTokenVerified
  tokenId := recorded.event.tokenId
  eventClass := recorded.event.eventClass

theorem present_cons (key : String) (value : Option Json) (fields : List (String × Option Json)) :
    Json.present ((key, value) :: fields) =
      AuditEvent.optionalMember key value ++ Json.present fields := by
  cases value <;> rfl

theorem present_nil : Json.present [] = [] := rfl

theorem map_isoformat_pmap
    (instant : Option Instant)
    (representable : ∀ value, instant = some value → Datetime.Representable value) :
    ((instant.pmap ofInstant representable).map fun time => Json.str time.isoformat) =
      instant.map fun value => .str (isoformat value) := by
  cases instant <;> rfl

/-- The canonical JSON of both kinds of events is the same. -/
theorem toDict_ofEvent (recorded : PostgresAudit.RecordedEvent) :
    (ofEvent recorded).toDict = recorded.event.toDict := by
  simp only [toDict, fields, ofEvent, map_isoformat_pmap, present_cons, present_nil,
    AuditEvent.toDict, List.append_assoc, List.cons_append, List.nil_append, List.append_nil]
  rfl

theorem keys_fields_nodup (event : DatedEvent) : (event.fields.map Prod.fst).Nodup := by
  have distinct : AuditEvent.fieldNames.Nodup := by decide
  exact distinct

theorem isScalar_fields (event : DatedEvent) :
    ∀ field ∈ event.fields, ∀ value ∈ field.2, value.IsScalar := by
  have nullable : ∀ text, (nullableText text).IsScalar := AuditEvent.isScalar_nullableText
  simp only [fields, List.forall_mem_cons, List.not_mem_nil, false_imp_iff, implies_true, and_true,
    Option.mem_def, Option.some.injEq, forall_eq', Json.isScalar_str, nullable, true_and]
  refine ⟨?_, ?_, ?_, ?_, ?_, ?_, ?_, ?_⟩
  all_goals
    intro value isValue
    first
    | (obtain ⟨_, _, rfl⟩ := Option.map_eq_some_iff.mp isValue
       trivial)
    | (split at isValue
       · obtain rfl := Option.some.inj isValue
         trivial
       · cases isValue)

/-! ## Reading -/

/-- The event as a reader of its JSON has it. -/
def decoded (event : DatedEvent) : DecodedEvent where
  eventId := .str event.eventId
  eventType := .str event.eventType
  decision := .str event.decision.code
  reason := .str event.reason
  workspaceId := .str event.workspaceId
  agentId := .str event.agentId
  grantId := .str event.grantId
  grantRef := .str event.grantRef
  action := .str event.action
  resource := .str event.resource
  scopeAttempted := .str event.scopeAttempted
  scopeMatched := nullableText event.scopeMatched
  boundaryId := nullableText event.boundaryId
  runtime := nullableText event.runtime
  boundaryType := nullableText event.boundaryType
  createdAt := event.createdAt.1
  enforcingPrincipal := nullableText event.enforcingPrincipal
  reasonCode := nullableText event.reasonCode
  occurrenceCount := (event.occurrenceCount.map Json.int).getD .null
  firstSeenAt := event.firstSeenAt.map Subtype.val
  lastSeenAt := event.lastSeenAt.map Subtype.val
  subjectTokenVerified := event.subjectTokenVerified
  tokenId := nullableText event.tokenId
  eventClass := .str event.eventClass

theorem nullableText_injective : Function.Injective nullableText := by
  intro first second same
  cases first <;> cases second
  · rfl
  · cases same
  · cases same
  · cases same
    rfl

theorem code_injective : Function.Injective Decision.code := by
  intro first second same
  cases first <;> cases second
  · rfl
  · exact absurd same (by decide)
  · exact absurd same (by decide)
  · rfl

theorem nullableInt_injective :
    Function.Injective fun number : Option Int => (number.map Json.int).getD .null := by
  intro first second same
  cases first <;> cases second
  · rfl
  · cases same
  · cases same
  · cases same
    rfl

/-- Nothing of an event is lost in what a reader has. -/
theorem decoded_injective : Function.Injective decoded := by
  intro first second same
  have times := Option.map_injective (@Subtype.val_injective Datetime Datetime.WellFormed)
  cases first
  cases second
  simp only [decoded, DecodedEvent.mk.injEq, Json.str.injEq, code_injective.eq_iff,
    nullableText_injective.eq_iff, nullableInt_injective.eq_iff, Subtype.val_injective.eq_iff,
    times.eq_iff] at same
  simp only [DatedEvent.mk.injEq]
  exact same

theorem datetimeFromJson_isoformat (time : Timestamp) :
    datetimeFromJson (.str time.isoformat) = some time.1 := by
  rw [datetimeFromJson, Timestamp.isoformat, String.toList_ofList,
    Datetime.fromisoformat_isoformat time.2]

theorem optionalDatetime_isoformat (time : Option Timestamp) :
    optionalDatetime ((time.map fun time => Json.str time.isoformat).getD .null) =
      some (time.map Subtype.val) := by
  cases time with
  | none => rfl
  | some time =>
      change (datetimeFromJson (.str time.isoformat)).map some = _
      rw [datetimeFromJson_isoformat]
      rfl

/-- Members with the fields of an event, under any name of the flag, decode to the event. -/
theorem auditEventFromData_of_get?
    {event : DatedEvent}
    {data : List (String × Json)}
    (reads : ∀ field ∈ event.fields, field.1 ≠ "subject_token_verified" →
      Json.get? data field.1 = field.2)
    (verified : subjectTokenVerifiedFromJson data = event.subjectTokenVerified) :
    auditEventFromData data = some event.decoded := by
  have eventClass : (if event.eventClass ≠ "decision" then some (Json.str event.eventClass)
      else none).getD (.str "decision") = .str event.eventClass := by
    by_cases isDecision : event.eventClass = "decision" <;> simp [isDecision]
  simp only [fields, List.forall_mem_cons, List.not_mem_nil, false_imp_iff, implies_true,
    and_true] at reads
  simp only [ne_eq, String.reduceEq, not_false_eq_true, not_true_eq_false, true_imp_iff,
    false_imp_iff, true_and] at reads
  simp only [auditEventFromData, verified, reads, datetimeFromJson_isoformat,
    optionalDatetime_isoformat, ← ne_eq, eventClass, bind, Option.bind_some]
  rfl

theorem isScalar_present
    {fields : List (String × Option Json)}
    (scalars : ∀ field ∈ fields, ∀ value ∈ field.2, value.IsScalar) :
    ∀ member ∈ Json.present fields, member.2.IsScalar := by
  rintro ⟨key, value⟩ member
  exact scalars (key, some value) (Json.mem_present.mp member) value rfl

theorem loads_jsonText
    {members : List (String × Json)}
    (scalars : ∀ member ∈ members, member.2.IsScalar)
    {text : String}
    (rendered : jsonText members = some text) :
    Json.loads text.toList = some (.obj (members.insertionSort Json.keyLE)) := by
  obtain ⟨characters, dumped, rfl⟩ := Option.map_eq_some_iff.mp rendered
  rw [String.toList_ofList]
  exact Json.loads_dumps_obj scalars dumped

/-- The flag reads the same under both of its names. -/
theorem verified_of_get?
    {event : DatedEvent}
    {data : List (String × Json)}
    (flag : Json.get? data "subject_token_verified" =
        (if event.subjectTokenVerified then some (.bool true) else none) ∧
          Json.get? data legacySubjectTokenVerifiedField = none ∨
      Json.get? data "subject_token_verified" = none ∧
        Json.get? data legacySubjectTokenVerifiedField =
          if event.subjectTokenVerified then some (.bool true) else none) :
    subjectTokenVerifiedFromJson data = event.subjectTokenVerified := by
  unfold subjectTokenVerifiedFromJson eventJsonValue
  rcases flag with ⟨current, former⟩ | ⟨current, former⟩
  · rw [current]
    cases event.subjectTokenVerified
    · rw [former]
      rfl
    · rfl
  · rw [current]
    dsimp only
    rw [if_pos rfl, former]
    cases event.subjectTokenVerified <;> rfl

section Reading

variable {event : DatedEvent} {text : String}

theorem get?_toDict {key : String} {value : Option Json} (member : (key, value) ∈ event.fields) :
    Json.get? event.toDict key = value :=
  Json.get?_present event.keys_fields_nodup member

theorem keys_toDict_nodup (event : DatedEvent) : (event.toDict.map Prod.fst).Nodup :=
  event.keys_fields_nodup.sublist (Json.keys_present_sublist event.fields)

theorem isScalar_toDict (event : DatedEvent) : ∀ member ∈ event.toDict, member.2.IsScalar :=
  isScalar_present event.isScalar_fields

/-- The canonical JSON of an event decodes to the event. -/
theorem auditEventFromJson_toJson (rendered : event.toJson = some text) :
    auditEventFromJson text = some event.decoded := by
  rw [auditEventFromJson, loads_jsonText event.isScalar_toDict rendered]
  apply auditEventFromData_of_get?
  · intro field member _
    rw [Json.get?_insertionSort event.keys_toDict_nodup]
    exact get?_toDict member
  · apply verified_of_get?
    left
    rw [Json.get?_insertionSort event.keys_toDict_nodup,
      Json.get?_insertionSort event.keys_toDict_nodup]
    refine ⟨get?_toDict (by simp [fields]), ?_⟩
    exact Json.get?_present_of_not_mem (by simp [fields, legacySubjectTokenVerifiedField])

theorem keys_legacyFields_nodup (event : DatedEvent) :
    (event.legacyFields.map Prod.fst).Nodup := by
  have distinct : (AuditEvent.fieldNames.map fun name =>
      if name = "subject_token_verified" then legacySubjectTokenVerifiedField else name).Nodup := by
    decide
  rw [legacyFields, List.map_map]
  exact distinct

theorem auditEventFromJson_legacy (rendered : jsonText event.legacyDict = some text) :
    auditEventFromJson text = some event.decoded := by
  have distinct : (event.legacyDict.map Prod.fst).Nodup :=
    event.keys_legacyFields_nodup.sublist (Json.keys_present_sublist event.legacyFields)
  have scalars : ∀ member ∈ event.legacyDict, member.2.IsScalar := by
    apply isScalar_present
    intro field member
    obtain ⟨former, isFormer, rfl⟩ := List.mem_map.mp member
    exact event.isScalar_fields former isFormer
  have reads : ∀ field ∈ event.fields, Json.get? event.legacyDict
      (if field.1 = "subject_token_verified" then legacySubjectTokenVerifiedField
        else field.1) = field.2 := by
    intro field member
    exact Json.get?_present event.keys_legacyFields_nodup (List.mem_map_of_mem member)
  rw [auditEventFromJson, loads_jsonText scalars rendered]
  apply auditEventFromData_of_get?
  · intro field member other
    have read := reads field member
    rw [if_neg other] at read
    rw [Json.get?_insertionSort distinct]
    exact read
  · apply verified_of_get?
    right
    rw [Json.get?_insertionSort distinct, Json.get?_insertionSort distinct]
    constructor
    · apply Json.get?_present_of_not_mem
      rw [legacyFields, List.map_map]
      have absent : "subject_token_verified" ∉ AuditEvent.fieldNames.map fun name =>
          if name = "subject_token_verified" then legacySubjectTokenVerifiedField else name := by
        decide
      exact absent
    · have flag : ("subject_token_verified",
          if event.subjectTokenVerified then some (Json.bool true) else none) ∈ event.fields := by
        simp [fields]
      have read := reads _ flag
      rw [if_pos rfl] at read
      exact read

end Reading

end DatedEvent
end Vinctor
