import Vinctor.Service.DatedEvents

/-!
# Stored events of any date and zone

The columns that the writer stores for an event agree with its canonical JSON, as far as
there is an answer: a number that is too long has no JSON text, and the comparison of times
goes by coordinated universal time, where the calendar may have no such date.
-/

namespace Vinctor

open Foundation

namespace DatedEvent

open AuditChain
open AuditEvent (nullableText)

/-! ## The columns -/

/-- Columns of the row of an event. -/
def row
    (event : DatedEvent)
    (eventJson : String)
    (seq : Int)
    (prevHash : Option String)
    (hash : String) : AuditRow where
  eventId := event.eventId
  eventType := event.eventType
  decision := event.decision.code
  reason := event.reason
  workspaceId := event.workspaceId
  agentId := event.agentId
  grantId := event.grantId
  grantRef := event.grantRef
  action := event.action
  resource := event.resource
  scopeAttempted := event.scopeAttempted
  scopeMatched := event.scopeMatched
  boundaryId := event.boundaryId
  runtime := event.runtime
  boundaryType := event.boundaryType
  createdAt := event.createdAt.isoformat
  subjectTokenVerified := event.subjectTokenVerified.toNat
  eventClass := event.eventClass
  eventJson := eventJson
  seq := some seq
  prevHash := prevHash
  rowHash := some hash

theorem row_ofEvent
    (recorded : PostgresAudit.RecordedEvent)
    (eventJson : String)
    (seq : Int)
    (prevHash : Option String)
    (hash : String) :
    (ofEvent recorded).row eventJson seq prevHash hash =
      eventRow recorded.event eventJson seq prevHash hash :=
  rfl

/-- In coordinated universal time the date and time is one of the calendar. -/
def InCalendar (datetime : Datetime) : Prop :=
  ∀ offset ∈ datetime.offset, Datetime.Representable (datetime.wallClock - offset)

instance (instant : Int) : Decidable (Datetime.Representable instant) :=
  inferInstanceAs (Decidable (_ ∧ _))

instance (datetime : Datetime) : Decidable (InCalendar datetime) :=
  inferInstanceAs (Decidable (∀ offset ∈ datetime.offset, _))

/-- Texts that denote instants are brought to coordinated universal time, which raises where
the calendar has no such date. -/
def canonicalInstant? : Json → Option Json
  | .str text =>
      match Datetime.fromisoformat text.toList with
      | none => some (.str text)
      | some datetime =>
          if InCalendar datetime then some (.str (String.ofList datetime.asUtc.isoformat))
          else none
  | value => some value

/-- The comparison of a column with its field, when it has an answer. -/
def crosscheck (column : String) (jsonValue : Json) (columnValue : ColumnValue) : Option Bool :=
  if datetimeCrosscheckFields.contains column then do
    let first ← canonicalInstant? jsonValue
    let second ← canonicalInstant? columnValue.toJson
    return sameValue first second
  else some (crosscheckValuesMatch column jsonValue columnValue)

theorem canonicalInstant_of_canonicalInstant?
    {value canonical : Json}
    (found : canonicalInstant? value = some canonical) :
    canonicalInstant value = canonical := by
  cases value with
  | str text =>
      unfold canonicalInstant? at found
      unfold canonicalInstant
      dsimp only at found ⊢
      cases read : Datetime.fromisoformat text.toList with
      | none =>
          rw [read] at found
          exact Option.some.inj found
      | some datetime =>
          rw [read] at found
          dsimp only at found
          split at found
          · exact Option.some.inj found
          · cases found
  | _ => exact Option.some.inj found

/-- An answer is the one of the comparison that knows every date. -/
theorem crosscheckValuesMatch_of_crosscheck
    {column : String}
    {jsonValue : Json}
    {columnValue : ColumnValue}
    {answer : Bool}
    (found : crosscheck column jsonValue columnValue = some answer) :
    crosscheckValuesMatch column jsonValue columnValue = answer := by
  unfold crosscheck at found
  split at found
  · next isDatetime =>
      simp only [Option.bind_eq_bind, Option.bind_eq_some_iff, Option.pure_def, Option.some.injEq]
        at found
      obtain ⟨first, isFirst, second, isSecond, rfl⟩ := found
      unfold crosscheckValuesMatch
      rw [if_pos isDatetime, canonicalInstant_of_canonicalInstant? isFirst,
        canonicalInstant_of_canonicalInstant? isSecond]
  · exact Option.some.inj found

theorem canonicalInstant?_isoformat (time : Timestamp) :
    canonicalInstant? (.str time.isoformat) =
      if InCalendar time.1 then some (.str (String.ofList time.1.asUtc.isoformat)) else none := by
  rw [canonicalInstant?, Timestamp.isoformat, String.toList_ofList,
    Datetime.fromisoformat_isoformat time.2]

/-- Equal texts of times agree where there is an answer. -/
theorem crosscheck_createdAt (time : Timestamp) :
    crosscheck "created_at" (.str time.isoformat) (.text time.isoformat) =
      if InCalendar time.1 then some true else none := by
  unfold crosscheck
  rw [if_pos (by decide), ColumnValue.toJson, canonicalInstant?_isoformat]
  split
  · change some (sameValue (.str _) (.str _)) = some true
    simp [sameValue]
  · rfl

theorem crosscheck_direct
    {column : String}
    (direct : column ∉ datetimeCrosscheckFields ++ booleanCrosscheckFields ++ ["event_class"])
    {jsonValue : Json}
    {columnValue : ColumnValue}
    (same : sameValue jsonValue columnValue.toJson = true) :
    crosscheck column jsonValue columnValue = some true := by
  simp only [List.mem_append, List.mem_singleton, not_or] at direct
  unfold crosscheck crosscheckValuesMatch
  rw [if_neg (by simpa using direct.1.1), if_neg (by simpa using direct.1.1),
    if_neg (by simpa using direct.1.2), if_neg direct.2, same]

theorem eventJsonValue_of_mem
    {event : DatedEvent}
    {key : String}
    {value : Option Json}
    (member : (key, value) ∈ event.fields)
    (other : key ≠ "subject_token_verified") :
    eventJsonValue event.toDict key = value.getD .null := by
  unfold eventJsonValue
  rw [get?_toDict member]
  cases value with
  | none => exact if_neg other
  | some value => rfl

theorem truthy_verified (event : DatedEvent) :
    (eventJsonValue event.toDict "subject_token_verified").truthy = event.subjectTokenVerified := by
  apply verified_of_get?
  left
  refine ⟨get?_toDict (by simp [fields]), ?_⟩
  exact Json.get?_present_of_not_mem (by simp [fields, legacySubjectTokenVerifiedField])

theorem crosscheck_verified (event : DatedEvent) :
    crosscheck "subject_token_verified" (eventJsonValue event.toDict "subject_token_verified")
      (.integer event.subjectTokenVerified.toNat) = some true := by
  unfold crosscheck crosscheckValuesMatch
  rw [if_neg (by decide), if_neg (by decide), if_pos (by decide), truthy_verified]
  cases event.subjectTokenVerified <;> rfl

/-- A class that is left out is that of decisions. -/
theorem crosscheck_eventClass (eventClass : String) :
    crosscheck "event_class"
      ((if ¬ eventClass = "decision" then some (Json.str eventClass) else none).getD .null)
      (.text eventClass) = some true := by
  unfold crosscheck crosscheckValuesMatch
  rw [if_neg (by decide), if_neg (by decide), if_neg (by decide), if_pos rfl]
  by_cases isDecision : eventClass = "decision"
  · rw [isDecision]
    rfl
  · rw [if_pos isDecision]
    simp [sameValue, ColumnValue.toJson]

/-- The columns of a row agree with the members of the event. -/
theorem crosscheck_row
    {event : DatedEvent}
    (inCalendar : InCalendar event.createdAt.1)
    (eventJson : String)
    (seq : Int)
    (prevHash : Option String)
    (hash : String) :
    ∀ column ∈ crosscheckColumns (event.row eventJson seq prevHash hash),
      crosscheck column.1 (eventJsonValue event.toDict column.1) column.2 = some true := by
  have created := crosscheck_createdAt event.createdAt
  rw [if_pos inCalendar] at created
  have reads : ∀ field ∈ event.fields, field.1 ≠ "subject_token_verified" →
      eventJsonValue event.toDict field.1 = field.2.getD .null := by
    intro field member other
    exact eventJsonValue_of_mem member other
  simp only [fields, List.forall_mem_cons, List.not_mem_nil, false_imp_iff, implies_true,
    and_true, ne_eq, String.reduceEq, not_false_eq_true, true_imp_iff, Option.getD_some] at reads
  simp only [crosscheckColumns, row, List.forall_mem_cons, List.not_mem_nil, false_imp_iff,
    implies_true, and_true, reads]
  refine ⟨?_, ?_, ?_, ?_, ?_, ?_, ?_, ?_, ?_, ?_, ?_, ?_, ?_, ?_, ?_, created,
    crosscheck_verified event, crosscheck_eventClass event.eventClass⟩
  all_goals
    first
    | exact crosscheck_direct (by decide) (sameValue_text _)
    | exact crosscheck_direct (by decide) (sameValue_nullable _)

theorem crosscheck_eventJson
    {event : DatedEvent}
    {text : String}
    (rendered : event.toJson = some text)
    (inCalendar : InCalendar event.createdAt.1)
    (seq : Int)
    (prevHash : Option String)
    (hash : String) :
    ∃ data, Json.loads text.toList = some (.obj data) ∧
      ∀ column ∈ crosscheckColumns (event.row text seq prevHash hash),
        crosscheck column.1 (eventJsonValue data column.1) column.2 = some true := by
  refine ⟨_, loads_jsonText event.isScalar_toDict rendered, ?_⟩
  intro column member
  rw [eventJsonValue_insertionSort event.keys_toDict_nodup]
  exact crosscheck_row inCalendar text seq prevHash hash column member

/-! ## Numbers that are too long -/

theorem forall_mem_present
    {property : Json → Prop}
    (fields : List (String × Option Json)) :
    (∀ member ∈ Json.present fields, property member.2) ↔
      ∀ held ∈ fields.map Prod.snd, ∀ value ∈ held, property value := by
  simp only [List.forall_mem_map, Prod.forall, Json.mem_present]
  constructor
  · rintro all key held member value rfl
    exact all key value member
  · intro all key value member
    exact all key (some value) member value rfl

theorem isSome_dumps_nullableText (text : Option String) :
    (Json.dumps (nullableText text)).isSome := by
  cases text <;> rfl

/-- An event has a JSON text, under any names of its fields, unless its count is too long. -/
theorem isSome_jsonText_iff
    (event : DatedEvent)
    {fields : List (String × Option Json)}
    (sameValues : fields.map Prod.snd = event.fields.map Prod.snd) :
    (jsonText (Json.present fields)).isSome ↔
      ∀ count ∈ event.occurrenceCount, count.natAbs < 10 ^ Json.maxDigits := by
  have required : ∀ {value : Json}, (Json.dumps value).isSome →
      ∀ held ∈ some value, (Json.dumps held).isSome := by
    rintro value isWritten _ ⟨⟩
    exact isWritten
  have texts : ∀ held : Option String, ∀ value ∈ held.map Json.str, (Json.dumps value).isSome := by
    rintro (_ | held) value isValue <;> cases isValue
    rfl
  have times : ∀ held : Option Timestamp,
      ∀ value ∈ held.map fun time => Json.str time.isoformat, (Json.dumps value).isSome := by
    rintro (_ | held) value isValue <;> cases isValue
    rfl
  have conditional : ∀ (condition : Prop) [Decidable condition] {value : Json},
      (Json.dumps value).isSome → ∀ held ∈ (if condition then some value else none),
        (Json.dumps held).isSome := by
    intro condition _ value isWritten held isHeld
    split at isHeld <;> cases isHeld
    exact isWritten
  have counts : (∀ value ∈ event.occurrenceCount.map Json.int, (Json.dumps value).isSome) ↔
      ∀ count ∈ event.occurrenceCount, count.natAbs < 10 ^ Json.maxDigits := by
    simp only [← Json.isSome_renderInt_iff, Option.mem_map, forall_exists_index, and_imp,
      forall_apply_eq_imp_iff₂]
    rfl
  rw [jsonText, Option.isSome_map, Json.isSome_dumps_obj_iff, ← counts]
  apply (@forall_mem_present (fun value => (Json.dumps value).isSome = true) fields).trans
  rw [sameValues]
  constructor
  · intro all
    exact all _ (by simp [DatedEvent.fields])
  · intro short
    simp only [DatedEvent.fields, List.map_cons, List.map_nil, List.forall_mem_cons]
    refine ⟨?_, ?_, ?_, ?_, ?_, ?_, ?_, ?_, ?_, ?_, ?_, ?_, ?_, ?_, ?_, ?_, texts _, texts _, short,
      times _, times _, conditional _ rfl, texts _, conditional _ rfl, ?_⟩
    case refine_17 =>
      intro held member
      cases member
    all_goals
      first
      | exact required rfl
      | exact required (isSome_dumps_nullableText _)

theorem exists_toJson_iff (event : DatedEvent) :
    (∃ text, event.toJson = some text) ↔
      ∀ count ∈ event.occurrenceCount, count.natAbs < 10 ^ Json.maxDigits := by
  rw [← Option.isSome_iff_exists]
  exact isSome_jsonText_iff event rfl

theorem exists_legacyText_iff (event : DatedEvent) :
    (∃ text, jsonText event.legacyDict = some text) ↔
      ∀ count ∈ event.occurrenceCount, count.natAbs < 10 ^ Json.maxDigits := by
  rw [← Option.isSome_iff_exists]
  apply isSome_jsonText_iff event
  rw [legacyFields, List.map_map]
  rfl

/-- The first moment of the calendar, an hour ahead of coordinated universal time. -/
def earliest : Timestamp :=
  ⟨⟨1, 1, 1, 0, 0, 0, 0, some 3600000000⟩,
    ⟨by decide, by decide, by decide, by decide, by decide, by rintro _ ⟨⟩; decide⟩⟩

def earlyEvent : DatedEvent where
  eventId := "evt_1"
  eventType := "action_permitted"
  decision := .permit
  reason := "grant_active"
  workspaceId := "ws_1"
  agentId := "agent_1"
  grantId := "grant_1"
  grantRef := "ref_1"
  action := "read"
  resource := "repo/main"
  scopeAttempted := "read:repo/main"
  scopeMatched := some "read:repo/main"
  boundaryId := none
  runtime := none
  boundaryType := none
  createdAt := earliest
  subjectTokenVerified := true

def longCount : Int := 10 ^ Json.maxDigits

def countedEvent : DatedEvent := { earlyEvent with occurrenceCount := some longCount }

theorem not_inCalendar_earliest : ¬ InCalendar earliest.1 := by decide

def naiveEvent : DatedEvent :=
  { earlyEvent with
    createdAt := ⟨⟨2026, 7, 12, 9, 30, 0, 5, none⟩,
      ⟨by decide, by decide, by decide, by decide, by decide, by rintro _ ⟨⟩⟩⟩ }

end DatedEvent
end Vinctor
