import Vinctor.Foundation.JsonRoundTrip
import Vinctor.Service.AuditVerification

/-!
# Writing keeps the chain

The columns that the writer stores agree with the canonical JSON of the event,
and a row that it adds continues the chain.
-/

namespace Vinctor

open Foundation

/-! ## The canonical JSON of an event is read back -/

namespace AuditEvent

/-- Names of all fields. -/
def fieldNames : List String :=
  ["event_id", "event_type", "decision", "reason", "workspace_id", "agent_id",
    "grant_id", "grant_ref", "action", "resource", "scope_attempted", "scope_matched",
    "boundary_id", "runtime", "boundary_type", "created_at", "enforcing_principal",
    "reason_code", "occurrence_count", "first_seen_at", "last_seen_at",
    "subject_token_verified", "token_id", "event_class"]

theorem mem_keys_optionalMember (name key : String) (value : Option Json) :
    name ∈ (optionalMember key value).map Prod.fst ↔ name = key ∧ value.isSome = true := by
  cases value <;> simp [optionalMember]

theorem keys_optionalMember_sublist (key : String) (value : Option Json) :
    ((optionalMember key value).map Prod.fst).Sublist [key] := by
  cases value with
  | none => exact List.nil_sublist [key]
  | some value => exact List.Sublist.refl [key]

/-- Every name occurs at most once. -/
theorem keys_toDict_nodup (event : AuditEvent) :
    (event.toDict.map Prod.fst).Nodup := by
  have sublist : (event.toDict.map Prod.fst).Sublist fieldNames := by
    simp only [toDict, List.map_append]
    exact (((((((List.Sublist.refl _).append
      (keys_optionalMember_sublist _ _)).append
      (keys_optionalMember_sublist _ _)).append
      (keys_optionalMember_sublist _ _)).append
      (keys_optionalMember_sublist _ _)).append
      (keys_optionalMember_sublist _ _)).append
      (keys_optionalMember_sublist _ _)).append
      (keys_optionalMember_sublist _ _) |>.append
      (keys_optionalMember_sublist _ _)
  have distinct : fieldNames.Nodup := by decide
  exact distinct.sublist sublist

theorem isScalar_nullableText (text : Option String) :
    (nullableText text).IsScalar := by
  cases text <;> trivial

theorem isScalar_optionalMember
    {key : String}
    {value : Option Json}
    (scalar : ∀ present ∈ value, present.IsScalar) :
    ∀ member ∈ optionalMember key value, member.2.IsScalar := by
  cases value with
  | none => simp [optionalMember]
  | some value => simpa [optionalMember] using scalar

theorem isScalar_toDict (event : AuditEvent) :
    ∀ member ∈ event.toDict, member.2.IsScalar := by
  simp only [toDict, List.forall_mem_append, List.forall_mem_cons, List.not_mem_nil,
    false_imp_iff, implies_true, isScalar_nullableText, Json.isScalar_str, and_true, true_and]
  refine ⟨⟨⟨⟨⟨⟨⟨?_, ?_⟩, ?_⟩, ?_⟩, ?_⟩, ?_⟩, ?_⟩, ?_⟩ <;>
    apply isScalar_optionalMember <;>
    intro present isPresent <;>
    first
    | (obtain ⟨value, -, rfl⟩ := Option.map_eq_some_iff.mp isPresent
       trivial)
    | (split at isPresent
       · obtain rfl := Option.some.inj isPresent
         trivial
       · simp at isPresent)

/-- The canonical JSON text is read back as the fields in sorted order. -/
theorem loads_toJson
    {event : AuditEvent}
    {text : String}
    (rendered : event.toJson = some text) :
    Json.loads text.toList = some (.obj (event.toDict.insertionSort Json.keyLE)) := by
  obtain ⟨characters, dumped, rfl⟩ := Option.map_eq_some_iff.mp rendered
  rw [String.toList_ofList]
  exact Json.loads_dumps_obj event.isScalar_toDict dumped

end AuditEvent

/-! ## The columns agree -/

namespace AuditChain

theorem eventJsonValue_insertionSort
    {data : List (String × Json)}
    (distinct : (data.map Prod.fst).Nodup)
    (field : String) :
    eventJsonValue (data.insertionSort Json.keyLE) field = eventJsonValue data field := by
  simp only [eventJsonValue, Json.get?_insertionSort distinct]

theorem eventJsonValue_of_mem
    {event : AuditEvent}
    {field : String}
    {value : Json}
    (member : (field, value) ∈ event.toDict) :
    eventJsonValue event.toDict field = value := by
  simp only [eventJsonValue, Json.get?_of_mem event.keys_toDict_nodup member]

theorem eventJsonValue_of_not_mem
    {event : AuditEvent}
    {field : String}
    (absent : field ∉ event.toDict.map Prod.fst) :
    eventJsonValue event.toDict field = .null := by
  have noLegacy : legacySubjectTokenVerifiedField ∉ event.toDict.map Prod.fst := by
    simp [AuditEvent.toDict, AuditEvent.mem_keys_optionalMember,
      legacySubjectTokenVerifiedField, -List.mem_map]
  simp [eventJsonValue, Json.get?_of_not_mem absent, Json.get?_of_not_mem noLegacy]

theorem truthy_subjectTokenVerified (event : AuditEvent) :
    (eventJsonValue event.toDict "subject_token_verified").truthy =
      event.subjectTokenVerified := by
  cases verified : event.subjectTokenVerified with
  | true =>
      have member : ("subject_token_verified", Json.bool true) ∈ event.toDict := by
        simp [AuditEvent.toDict, AuditEvent.optionalMember, verified]
      rw [eventJsonValue_of_mem member]
      rfl
  | false =>
      have absent : "subject_token_verified" ∉ event.toDict.map Prod.fst := by
        simp [AuditEvent.toDict, AuditEvent.mem_keys_optionalMember, verified, -List.mem_map]
      rw [eventJsonValue_of_not_mem absent]
      rfl

/-- The class of an event, which the canonical JSON leaves out for decisions. -/
theorem eventJsonValue_eventClass (event : AuditEvent) :
    eventJsonValue event.toDict "event_class" =
      if event.eventClass = "decision" then .null else .str event.eventClass := by
  split
  · next decision =>
      apply eventJsonValue_of_not_mem
      simp [AuditEvent.toDict, AuditEvent.mem_keys_optionalMember, decision, -List.mem_map]
  · next control =>
      apply eventJsonValue_of_mem
      simp [AuditEvent.toDict, AuditEvent.optionalMember, control]

theorem sameValue_nullable (text : Option String) :
    sameValue (AuditEvent.nullableText text) (nullableColumn text).toJson = true := by
  cases text <;> simp [AuditEvent.nullableText, nullableColumn, ColumnValue.toJson, sameValue]

theorem sameValue_text (text : String) :
    sameValue (.str text) (ColumnValue.text text).toJson = true := by
  simp [ColumnValue.toJson, sameValue]

/-- A field of an event against a column that is compared directly. -/
theorem crosscheck_direct
    {event : AuditEvent}
    {field : String}
    {value : Json}
    {column : ColumnValue}
    (member : (field, value) ∈ event.toDict)
    (direct : field ∉ datetimeCrosscheckFields ++ booleanCrosscheckFields ++ ["event_class"])
    (same : sameValue value column.toJson = true) :
    crosscheckValuesMatch field (eventJsonValue event.toDict field) column = true := by
  simp only [List.mem_append, List.mem_singleton, not_or] at direct
  unfold crosscheckValuesMatch
  rw [eventJsonValue_of_mem member, if_neg (by simpa using direct.1.1),
    if_neg (by simpa using direct.1.2), if_neg direct.2]
  exact same

theorem canonicalInstant_str (text : String) :
    ∃ canonical, canonicalInstant (.str text) = .str canonical := by
  unfold canonicalInstant
  dsimp only
  split
  · exact ⟨text, rfl⟩
  · exact ⟨_, rfl⟩

theorem crosscheck_createdAt (event : AuditEvent) :
    crosscheckValuesMatch "created_at" (eventJsonValue event.toDict "created_at")
      (.text (isoformat event.createdAt)) = true := by
  have member : ("created_at", Json.str (isoformat event.createdAt)) ∈ event.toDict := by
    simp [AuditEvent.toDict]
  obtain ⟨canonical, instant⟩ := canonicalInstant_str (isoformat event.createdAt)
  rw [eventJsonValue_of_mem member]
  simp [crosscheckValuesMatch, datetimeCrosscheckFields, ColumnValue.toJson, instant, sameValue]

theorem crosscheck_subjectTokenVerified (event : AuditEvent) :
    crosscheckValuesMatch "subject_token_verified"
      (eventJsonValue event.toDict "subject_token_verified")
      (.integer event.subjectTokenVerified.toNat) = true := by
  simp only [crosscheckValuesMatch, datetimeCrosscheckFields, booleanCrosscheckFields,
    truthy_subjectTokenVerified]
  cases event.subjectTokenVerified <;> rfl

theorem crosscheck_eventClass (event : AuditEvent) :
    crosscheckValuesMatch "event_class" (eventJsonValue event.toDict "event_class")
      (.text event.eventClass) = true := by
  have field := eventJsonValue_eventClass event
  by_cases decision : event.eventClass = "decision"
  · rw [if_pos decision] at field
    rw [field, decision]
    rfl
  · rw [if_neg decision] at field
    rw [field]
    simp [crosscheckValuesMatch, datetimeCrosscheckFields, booleanCrosscheckFields,
      ColumnValue.toJson, sameValue]

/-- The columns that the writer stores agree with the event. -/
theorem rowColumnsMatch_eventRow
    {event : AuditEvent}
    {eventJson : String}
    (rendered : event.toJson = some eventJson)
    (seq : Int)
    (prevHash : Option String)
    (hash : String) :
    rowColumnsMatch (eventRow event eventJson seq prevHash hash) = some true := by
  simp only [rowColumnsMatch, eventRow, AuditEvent.loads_toJson rendered,
    eventJsonValue_insertionSort event.keys_toDict_nodup, Option.some.injEq, crosscheckColumns,
    List.all_cons, List.all_nil, Bool.and_eq_true, and_true]
  refine ⟨?_, ?_, ?_, ?_, ?_, ?_, ?_, ?_, ?_, ?_, ?_, ?_, ?_, ?_, ?_,
    crosscheck_createdAt event, crosscheck_subjectTokenVerified event,
    crosscheck_eventClass event⟩
  all_goals
    first
    | exact crosscheck_direct (by simp [AuditEvent.toDict]) (by decide) (sameValue_text _)
    | exact crosscheck_direct (by simp [AuditEvent.toDict]) (by decide) (sameValue_nullable _)

/-! ## The chain grows by one row -/

variable {sha256 : Bytes → Bytes}

/-- A chain and one more row. -/
theorem chained_append_singleton
    {prev : String}
    {seq : Int}
    {rows : List AuditRow}
    {row : AuditRow}
    (chained : Chained sha256 prev seq rows)
    (placed : row.seq = some (seq + rows.length))
    (joined : row.prevHash = some (headHash prev rows))
    (hashed : row.rowHash =
      some (rowHash sha256 (seq + rows.length) row.eventJson (headHash prev rows)))
    (matched : rowColumnsMatch row = some true) :
    Chained sha256 prev seq (rows ++ [row]) := by
  induction rows generalizing prev seq with
  | nil =>
      simp only [List.length_nil, Nat.cast_zero, Int.add_zero] at placed hashed
      exact ⟨placed, joined, hashed, matched, trivial⟩
  | cons first rest inductionHypothesis =>
      obtain ⟨firstPlaced, firstJoined, firstHashed, firstMatched, chainedRest⟩ := chained
      have shifted : seq + ((first :: rest).length : Int) = seq + 1 + rest.length := by
        rw [List.length_cons]
        omega
      rw [headHash_cons firstHashed] at joined hashed
      rw [shifted] at placed hashed
      exact ⟨firstPlaced, firstJoined, firstHashed, firstMatched,
        inductionHypothesis chainedRest placed joined hashed⟩

theorem Chained.hashed_of_mem
    {prev : String}
    {seq : Int}
    {rows : List AuditRow}
    (chained : Chained sha256 prev seq rows)
    {row : AuditRow}
    (member : row ∈ rows) :
    ∃ hash, row.rowHash = some hash := by
  induction rows generalizing prev seq with
  | nil => simp at member
  | cons first rest inductionHypothesis =>
      obtain ⟨-, -, hashed, -, chainedRest⟩ := chained
      rcases List.mem_cons.mp member with rfl | inRest
      · exact ⟨_, hashed⟩
      · exact inductionHypothesis chainedRest inRest

/-- The head of a chain is its length and its last hash. -/
theorem Chained.chainHead_eq
    {table : AuditTable}
    (chained : Chained sha256 genesisPrevHash 1 (orderedBySeq table)) :
    chainHead table =
      (some (table.length : Int), some (headHash genesisPrevHash (orderedBySeq table))) := by
  have sameLength : (orderedBySeq table).length = table.length :=
    List.length_insertionSort _ table
  unfold chainHead headRow
  cases last : (orderedBySeq table).getLast? with
  | none =>
      have empty := List.getLast?_eq_none_iff.mp last
      rw [empty] at sameLength ⊢
      rw [← sameLength]
      rfl
  | some row =>
      obtain ⟨hash, hashed⟩ := chained.hashed_of_mem (List.mem_of_getLast? last)
      have atIndex :
          (orderedBySeq table)[(orderedBySeq table).length - 1]? =
            some row := by
        rw [← List.getLast?_eq_getElem?, last]
      have placed := chained.seq_getElem? atIndex
      have positive := (List.getElem?_eq_some_iff.mp atIndex).1
      have position : (1 : Int) + ((table.length - 1 : Nat) : Int) = table.length := by
        omega
      have head : headHash genesisPrevHash (orderedBySeq table) = hash := by
        simp [headHash, HashChain.headDigest, links, last, AuditRow.digest_link hashed]
      rw [sameLength, position] at placed
      dsimp only
      rw [placed, hashed, head]

/-- The row of a written event stands at the end of the chain. -/
theorem Chained.write
    {table : AuditTable}
    (chained : Chained sha256 genesisPrevHash 1 table)
    {event : AuditEvent}
    {written : AuditTable}
    (writes : writeEvent sha256 table event = some written) :
    Chained sha256 genesisPrevHash 1 written ∧
      ∃ row, written = table ++ [row] ∧ event.toJson = some row.eventJson := by
  have head : chainHead table =
      (some (table.length : Int), some (headHash genesisPrevHash table)) := by
    have ordered : Chained sha256 genesisPrevHash 1 (orderedBySeq table) := by
      rwa [chained.ordered]
    rw [ordered.chainHead_eq, chained.ordered]
  simp only [writeEvent, nextRow, head, Option.bind_eq_bind,
    Option.bind_eq_some_iff, Option.some.injEq] at writes
  obtain ⟨_, ⟨eventJson, rendered, _, rfl, rfl⟩, inserted⟩ := writes
  unfold insertRow at inserted
  split at inserted
  · simp at inserted
  · obtain rfl := Option.some.inj inserted
    refine ⟨?_, _, rfl, rendered⟩
    apply chained_append_singleton chained
    · simp [eventRow, Int.add_comm]
    · rfl
    · simp [eventRow, Int.add_comm]
    · exact rowColumnsMatch_eventRow rendered _ _ _

end AuditChain
end Vinctor
