import Vinctor.Service.AuditQueries
import Vinctor.Service.AuditVerification
import Vinctor.Service.AuditWriting

/-!
# Reads of a verified table

The verification compares columns with the canonical JSON so that a filter on a
column selects what the JSON says.  On a table that passes it, every filtered
read returns the events of the rows whose JSON satisfies the filters exactly
when the rows are plain: the truth value is stored as zero or one, the two
readers of JSON find the same text under the two names without a column, and
every row decodes.  The verification does not establish this: it compares truth
values, the database compares numbers.
-/

namespace Vinctor
namespace AuditChain

open Foundation

variable {sha256 : Bytes → Bytes} {containerText : String → String → String}

/-! ## What a read should return -/

/-- Text of a value. -/
def textOf : Json → Option String
  | .str text => some text
  | _ => none

/-- Class of an event in its JSON text; decisions leave it out. -/
def classOf (data : List (String × Json)) : Json :=
  match eventJsonValue data "event_class" with
  | .null => .str "decision"
  | value => value

/-- Filters read from the JSON text. -/
def satisfies (filters : AuditFilters) (data : List (String × Json)) : Bool :=
  let text (name : String) : Option String := textOf (eventJsonValue data name)
  text "workspace_id" = some filters.workspaceId &&
    filters.eventClass.all (fun value => textOf (classOf data) = some value) &&
    filters.eventType.all (fun value => text "event_type" = some value) &&
    filters.grantRef.all (fun value => text "grant_ref" = some value) &&
    filters.boundaryId.all (fun value => text "boundary_id" = some value) &&
    filters.agentId.all (fun value => text "agent_id" = some value) &&
    filters.requestId.all (fun requestId =>
      text "resource" = some ("grant_request/" ++ requestId) ||
        text "grant_ref" = some requestId) &&
    filters.subjectTokenVerified.all (subjectTokenVerifiedFromJson data = ·) &&
    filters.reasonCode.all (fun value => text "reason_code" = some value) &&
    filters.enforcingPrincipal.all (fun value => text "enforcing_principal" = some value)

def rowSatisfies (filters : AuditFilters) (row : AuditRow) : Bool :=
  match Json.loads row.eventJson.toList with
  | some (.obj data) => satisfies filters data
  | _ => false

/-- The last elements of a list, or all of them. -/
def lastOnes (limit : Option Nat) (list : List α) : List α :=
  match limit with
  | none => list
  | some limit => list.drop (list.length - limit)

theorem mem_of_mem_lastOnes
    {limit : Option Nat}
    {list : List α}
    {element : α}
    (present : element ∈ lastOnes limit list) :
    element ∈ list := by
  cases limit with
  | none => exact present
  | some limit => exact List.mem_of_mem_drop present

/-- Rows whose JSON satisfies the filters, by position, cut to the last ones. -/
def satisfyingRows (table : AuditTable) (filters : AuditFilters) : List AuditRow :=
  lastOnes filters.limit ((orderedBySeq table).filter (rowSatisfies filters))

/-- Every read returns the events of the rows whose JSON satisfies its
filters. -/
def ReadsFaithfully
    (containerText : String → String → String)
    (table : AuditTable) : Prop :=
  ∀ filters : AuditFilters, (∀ value ∈ filters.eventClass, value ∈ auditEventClasses) →
    ∃ events, listFiltered containerText table filters = .ok events ∧
      (satisfyingRows table filters).map (fun row => auditEventFromJson row.eventJson) =
        events.map some

/-! ## Plain rows -/

/-- Text that the database finds under a name. -/
def extractedText
    (containerText : String → String → String)
    (eventJson name : String) : Option String :=
  match jsonExtract containerText eventJson name with
  | some (.text text) => some text
  | _ => none

/-- Text that the service finds under a name. -/
def loadedText (eventJson name : String) : Option String :=
  match Json.loads eventJson.toList with
  | some (.obj data) => textOf (eventJsonValue data name)
  | _ => none

/-- Both readers find nothing where there is no member. -/
theorem extractedText_eq_loadedText_of_absent
    {eventJson name : String}
    {data : List (String × Json)}
    (loaded : Json.loads eventJson.toList = some (.obj data))
    (absent : name ∉ data.map Prod.fst ∧ legacySubjectTokenVerifiedField ∉ data.map Prod.fst) :
    extractedText containerText eventJson name = loadedText eventJson name := by
  have first : firstMember data name = none := by
    unfold firstMember
    rw [Option.map_eq_none_iff, List.find?_eq_none]
    intro member present same
    have keyed : member.1 = name := by simpa using same
    exact absent.1 (keyed ▸ List.mem_map_of_mem present)
  have value : eventJsonValue data name = .null := by
    simp [eventJsonValue, Json.get?_of_not_mem absent.1, Json.get?_of_not_mem absent.2]
  simp only [extractedText, jsonExtract, loadedText, loaded, Option.map_some, first, value,
    textOf]

structure AuditRow.Plain
    (containerText : String → String → String)
    (row : AuditRow) : Prop where
  boolean : row.subjectTokenVerified = 0 ∨ row.subjectTokenVerified = 1
  members : ∀ name ∈ ["reason_code", "enforcing_principal"],
    extractedText containerText row.eventJson name = loadedText row.eventJson name
  decodes : (auditEventFromJson row.eventJson).isSome

/-! ## Columns of a verified row -/

/-- The columns that filters read, against the fields of the JSON. -/
structure Mirrors (row : AuditRow) (data : List (String × Json)) : Prop where
  workspaceId : textOf (eventJsonValue data "workspace_id") = some row.workspaceId
  eventClass : textOf (classOf data) = some row.eventClass
  eventType : textOf (eventJsonValue data "event_type") = some row.eventType
  grantRef : textOf (eventJsonValue data "grant_ref") = some row.grantRef
  boundaryId : textOf (eventJsonValue data "boundary_id") = row.boundaryId
  agentId : textOf (eventJsonValue data "agent_id") = some row.agentId
  resource : textOf (eventJsonValue data "resource") = some row.resource
  verified : subjectTokenVerifiedFromJson data = decide (row.subjectTokenVerified ≠ 0)

/-- A value that equals a column has the text of the column. -/
theorem textOf_of_sameValue
    {value : Json}
    {text : String}
    (same : sameValue value (ColumnValue.text text).toJson = true) :
    textOf value = some text := by
  cases value with
  | str value =>
      simp only [ColumnValue.toJson, sameValue, decide_eq_true_eq] at same
      rw [textOf, same]
  | null | bool | int | float | arr | obj => simp [ColumnValue.toJson, sameValue] at same

theorem textOf_of_sameValue_nullable
    {value : Json}
    {text : Option String}
    (same : sameValue value (nullableColumn text).toJson = true) :
    textOf value = text := by
  cases text with
  | some text => exact textOf_of_sameValue same
  | none =>
      cases value with
      | null => rfl
      | bool | int | float | str | arr | obj =>
          simp [nullableColumn, ColumnValue.toJson, sameValue] at same

theorem Mirrors.of_rowColumnsMatch
    {row : AuditRow}
    (matched : rowColumnsMatch row = some true) :
    ∃ data, Json.loads row.eventJson.toList = some (.obj data) ∧ Mirrors row data := by
  unfold rowColumnsMatch at matched
  split at matched
  · next data loaded =>
      refine ⟨data, loaded, ?_⟩
      rw [Option.some.injEq, List.all_eq_true] at matched
      have direct : ∀ {name : String} {value : ColumnValue},
          (name, value) ∈ crosscheckColumns row →
          name ∉ datetimeCrosscheckFields ++ booleanCrosscheckFields ++ ["event_class"] →
          sameValue (eventJsonValue data name) value.toJson = true := by
        intro name value present compared
        have agrees := matched (name, value) present
        simp only [List.mem_append, List.mem_singleton, not_or] at compared
        unfold crosscheckValuesMatch at agrees
        dsimp only at agrees
        rwa [if_neg (by simpa using compared.1.1), if_neg (by simpa using compared.1.2),
          if_neg compared.2] at agrees
      have verified := matched ("subject_token_verified", .integer row.subjectTokenVerified)
        (by simp [crosscheckColumns])
      have eventClass := matched ("event_class", .text row.eventClass)
        (by simp [crosscheckColumns])
      constructor
      · exact textOf_of_sameValue (direct (by simp [crosscheckColumns]) (by decide))
      · apply textOf_of_sameValue
        unfold classOf
        exact eventClass
      · exact textOf_of_sameValue (direct (by simp [crosscheckColumns]) (by decide))
      · exact textOf_of_sameValue (direct (by simp [crosscheckColumns]) (by decide))
      · exact textOf_of_sameValue_nullable (direct (by simp [crosscheckColumns]) (by decide))
      · exact textOf_of_sameValue (direct (by simp [crosscheckColumns]) (by decide))
      · exact textOf_of_sameValue (direct (by simp [crosscheckColumns]) (by decide))
      · exact eq_of_beq verified
  · cases matched

/-! ## The query -/

/-- Whether a row is selected, read without errors. -/
def rowSelected
    (containerText : String → String → String)
    (filters : AuditFilters)
    (row : AuditRow) : Bool :=
  columnClauses filters (none, none) row &&
    (filters.reasonCode.all (fun value =>
      extractedText containerText row.eventJson "reason_code" = some value) &&
    filters.enforcingPrincipal.all (fun value =>
      extractedText containerText row.eventJson "enforcing_principal" = some value))

theorem extractClause_eq_ok
    {row : AuditRow}
    {data : List (String × Json)}
    (loaded : Json.loads row.eventJson.toList = some (.obj data))
    (name : String)
    (wanted : Option String) :
    extractClause containerText name wanted row =
      .ok (wanted.all fun value =>
        extractedText containerText row.eventJson name = some value) := by
  cases wanted with
  | none => rfl
  | some value =>
      obtain ⟨extracted, extracts⟩ :
          ∃ extracted, jsonExtract containerText row.eventJson name = some extracted := by
        rw [jsonExtract, loaded]
        exact ⟨_, rfl⟩
      simp only [extractClause, extractedText, extracts, Option.all_some]
      cases extracted <;> simp

/-- A row whose JSON can be read is selected by all its clauses. -/
theorem selects_eq_clauses
    {row : AuditRow}
    {data : List (String × Json)}
    (loaded : Json.loads row.eventJson.toList = some (.obj data))
    (filters : AuditFilters)
    (bounds : Option Int × Option Int) :
    selects containerText filters bounds row =
      .ok (columnClauses filters bounds row &&
        (filters.reasonCode.all (fun value =>
          extractedText containerText row.eventJson "reason_code" = some value) &&
        filters.enforcingPrincipal.all (fun value =>
          extractedText containerText row.eventJson "enforcing_principal" = some value))) := by
  unfold selects
  cases columnClauses filters bounds row with
  | false => rfl
  | true =>
      rw [extractClause_eq_ok loaded, extractClause_eq_ok loaded]
      rfl

theorem selects_eq_ok
    {row : AuditRow}
    {data : List (String × Json)}
    (loaded : Json.loads row.eventJson.toList = some (.obj data))
    (filters : AuditFilters) :
    selects containerText filters (none, none) row =
      .ok (rowSelected containerText filters row) :=
  selects_eq_clauses loaded filters (none, none)

/-- A filter that raises nowhere is a plain filter. -/
theorem filterM_eq_ok
    {ε : Type u}
    {raising : α → Except ε Bool}
    {predicate : α → Bool}
    {list : List α}
    (succeeds : ∀ element ∈ list, raising element = .ok (predicate element)) :
    list.filterM raising = .ok (list.filter predicate) := by
  have accumulates : ∀ selected : List α, list.filterAuxM raising selected =
      .ok ((list.filter predicate).reverse ++ selected) := by
    induction list with
    | nil =>
        intro selected
        rfl
    | cons head rest inductionHypothesis =>
        intro selected
        have later := inductionHypothesis fun element present =>
          succeeds element (List.mem_cons_of_mem head present)
        rw [List.filterAuxM, succeeds head List.mem_cons_self]
        change rest.filterAuxM raising _ = _
        rw [later]
        cases holds : predicate head with
        | false => rw [List.filter_cons_of_neg (by simp [holds])]; rfl
        | true => simp [List.filter_cons_of_pos holds, cond]
  rw [List.filterM, accumulates]
  simp [bind, Except.bind, pure, Except.pure]

theorem filter_orderedInsert
    {order : α → α → Prop}
    [DecidableRel order]
    [IsTrans α order]
    (predicate : α → Bool)
    (element : α)
    {list : List α}
    (sorted : list.Pairwise order) :
    (list.orderedInsert order element).filter predicate =
      if predicate element then (list.filter predicate).orderedInsert order element
      else list.filter predicate := by
  induction list with
  | nil => cases holds : predicate element <;> simp [holds]
  | cons head rest inductionHypothesis =>
      rw [List.pairwise_cons] at sorted
      by_cases below : order element head
      · -- The new element is below every later one, selected or not.
        rw [List.orderedInsert_cons_of_le order rest below, List.filter_cons]
        split
        · symm
          cases selected : (head :: rest).filter predicate with
          | nil => rfl
          | cons first others =>
              apply List.orderedInsert_cons_of_le
              have present : first ∈ head :: rest := by
                apply List.mem_of_mem_filter
                rw [selected]
                exact List.mem_cons_self
              rcases List.mem_cons.mp present with rfl | later
              · exact below
              · exact IsTrans.trans element head first below (sorted.1 first later)
        · rfl
      · rw [List.orderedInsert_of_not_le order rest below, List.filter_cons,
          inductionHypothesis sorted.2, List.filter_cons]
        cases predicate head with
        | false => rfl
        | true =>
            simp only [if_true]
            split
            · rw [List.orderedInsert_of_not_le order _ below]
            · rfl

/-- Sorting keeps the order of what a predicate selects. -/
theorem filter_insertionSort
    {order : α → α → Prop}
    [DecidableRel order]
    [IsTrans α order]
    [Std.Total order]
    (predicate : α → Bool)
    (list : List α) :
    (list.filter predicate).insertionSort order =
      (list.insertionSort order).filter predicate := by
  induction list with
  | nil => rfl
  | cons head rest inductionHypothesis =>
      rw [List.insertionSort_cons, filter_orderedInsert predicate head
        (List.pairwise_insertionSort order rest), List.filter_cons]
      split
      · rw [List.insertionSort_cons, inductionHypothesis]
      · exact inductionHypothesis

instance : IsTrans AuditRow fun left right => seqLE left right = true where
  trans := by
    intro first second third earlier later
    unfold seqLE at earlier later ⊢
    cases firstSeq : first.seq with
    | none => rfl
    | some left =>
        cases secondSeq : second.seq with
        | none => simp [firstSeq, secondSeq] at earlier
        | some middle =>
            cases thirdSeq : third.seq with
            | none => simp [secondSeq, thirdSeq] at later
            | some right =>
                simp only [firstSeq, secondSeq, thirdSeq, decide_eq_true_eq] at earlier later ⊢
                exact le_trans earlier later

instance : Std.Total fun left right : AuditRow => seqLE left right = true where
  total := by
    intro left right
    unfold seqLE
    cases left.seq <;> cases right.seq <;> simp [Int.le_total]

theorem mem_orderedBySeq {row : AuditRow} {table : AuditTable} :
    row ∈ orderedBySeq table ↔ row ∈ table :=
  List.mem_insertionSort _

theorem orderedBySeq_filter (predicate : AuditRow → Bool) (table : AuditTable) :
    orderedBySeq (table.filter predicate) = (orderedBySeq table).filter predicate :=
  filter_insertionSort predicate table

theorem reverse_mostRecentFirst (limit : Option Nat) (rows : List AuditRow) :
    (mostRecentFirst limit rows).reverse = lastOnes limit (orderedBySeq rows) := by
  cases limit with
  | none => exact List.reverse_reverse _
  | some limit =>
      simp only [mostRecentFirst, lastOnes]
      rw [List.take_reverse, List.reverse_reverse]

theorem mapM_require_eq_ok
    {ε : Type u}
    {error : ε}
    {decode : α → Option β}
    {list : List α}
    {results : List β} :
    list.mapM (fun element => Fallible.require (decode element) error) = .ok results ↔
      list.map decode = results.map some := by
  induction list generalizing results with
  | nil =>
      rw [List.mapM_nil, Fallible.pure_eq_ok]
      cases results <;> simp
  | cons head rest inductionHypothesis =>
      rw [List.mapM_cons, List.map_cons]
      simp only [Fallible.bind_eq_ok, Fallible.require_eq_ok, Fallible.pure_eq_ok]
      constructor
      · rintro ⟨first, decoded, later, decodesRest, rfl⟩
        rw [decoded, inductionHypothesis.mp decodesRest]
        rfl
      · intro decodes
        cases results with
        | nil => cases decodes
        | cons first later =>
            rw [List.map_cons, List.cons.injEq] at decodes
            exact ⟨first, decodes.1, later, inductionHypothesis.mpr decodes.2, rfl⟩

theorem exists_map_eq_map_some
    {decode : α → Option β}
    {list : List α}
    (decodes : ∀ element ∈ list, ∃ result, decode element = some result) :
    ∃ results : List β, list.map decode = results.map some := by
  induction list with
  | nil => exact ⟨[], rfl⟩
  | cons head rest inductionHypothesis =>
      obtain ⟨first, decoded⟩ := decodes head List.mem_cons_self
      obtain ⟨later, decodedRest⟩ := inductionHypothesis fun element present =>
        decodes element (List.mem_cons_of_mem head present)
      exact ⟨first :: later, by rw [List.map_cons, decoded, decodedRest]; rfl⟩

/-- Rows that the query selects, by position, cut to the last ones. -/
def selectedRows
    (containerText : String → String → String)
    (table : AuditTable)
    (filters : AuditFilters) : List AuditRow :=
  lastOnes filters.limit ((orderedBySeq table).filter (rowSelected containerText filters))

theorem listFiltered_eq_ok
    {table : AuditTable}
    (loads : ∀ row ∈ table, ∃ data, Json.loads row.eventJson.toList = some (.obj data))
    {filters : AuditFilters}
    (valid : ∀ value ∈ filters.eventClass, value ∈ auditEventClasses)
    {events : List DecodedEvent} :
    listFiltered containerText table filters = .ok events ↔
      (selectedRows containerText table filters).map
        (fun row => auditEventFromJson row.eventJson) = events.map some := by
  have bounds : cursorBounds table filters.workspaceId {} = .ok (none, none) := rfl
  have selected : table.filterM (selects containerText filters (none, none)) =
      .ok (table.filter (rowSelected containerText filters)) := by
    apply filterM_eq_ok
    intro row present
    obtain ⟨data, loaded⟩ := loads row present
    exact selects_eq_ok loaded filters
  simp only [listFiltered, validateAuditEventClass, Fallible.bind_eq_ok, Fallible.ensure_eq_ok,
    bounds, Except.ok.injEq, exists_eq_left', selected, mapM_require_eq_ok,
    reverse_mostRecentFirst, orderedBySeq_filter]
  constructor
  · rintro ⟨-, -, decodes⟩
    exact decodes
  · intro decodes
    exact ⟨(), valid, decodes⟩

/-! ## Selected and satisfying rows -/

/-- The fields other than the truth value and the two without a column. -/
theorem rowSelected_eq
    {row : AuditRow}
    {data : List (String × Json)}
    (loaded : Json.loads row.eventJson.toList = some (.obj data))
    (mirrors : Mirrors row data)
    (plain : row.Plain containerText)
    (filters : AuditFilters) :
    rowSelected containerText filters row = rowSatisfies filters row := by
  have reason := plain.members "reason_code" (by simp)
  have principal := plain.members "enforcing_principal" (by simp)
  have verified : filters.subjectTokenVerified.all
        (fun value => decide (row.subjectTokenVerified = (value.toNat : Int))) =
      filters.subjectTokenVerified.all (subjectTokenVerifiedFromJson data = ·) := by
    rw [mirrors.verified]
    rcases plain.boolean with zero | one
    · rw [zero]
      rcases filters.subjectTokenVerified with _ | _ | _ <;> rfl
    · rw [one]
      rcases filters.subjectTokenVerified with _ | _ | _ <;> rfl
  simp only [rowSelected, columnClauses, rowSatisfies, loaded, satisfies, mirrors.workspaceId,
    mirrors.eventClass, mirrors.eventType, mirrors.grantRef, mirrors.boundaryId,
    mirrors.agentId, mirrors.resource, reason, principal, loadedText, verified,
    Option.some.injEq, Option.all_none, Bool.and_true, Bool.and_assoc]

/-- Where the images of two selections are the same and an image tells whether
the second selects, both select the same. -/
theorem selections_eq_of_map_eq
    {image : α → β}
    {first second : α → Bool}
    {reflected : β → Bool}
    {list : List α}
    (reflects : ∀ element ∈ list, second element = reflected (image element))
    (same : (list.filter first).map image = (list.filter second).map image) :
    ∀ element ∈ list, first element = second element := by
  have included : ∀ element ∈ list, first element = true → second element = true := by
    intro element present selected
    have listed : image element ∈ (list.filter second).map image := by
      rw [← same]
      exact List.mem_map_of_mem (List.mem_filter.mpr ⟨present, selected⟩)
    obtain ⟨other, otherSelected, sameImage⟩ := List.mem_map.mp listed
    rw [List.mem_filter] at otherSelected
    rw [reflects element present, ← sameImage, ← reflects other otherSelected.1]
    exact otherSelected.2
  -- The first selection is part of the second and is as long.
  have nested : list.filter first = (list.filter second).filter first := by
    rw [List.filter_filter]
    apply List.filter_congr
    intro element present
    cases selected : first element with
    | false => rfl
    | true => rw [included element present selected]; rfl
  have asLong : ((list.filter second).filter first).length = (list.filter second).length := by
    rw [← nested]
    simpa using congrArg List.length same
  rw [List.length_filter_eq_length_iff] at asLong
  intro element present
  cases selected : second element with
  | true => exact asLong element (List.mem_filter.mpr ⟨present, selected⟩)
  | false =>
      cases other : first element with
      | false => rfl
      | true => rw [included element present other] at selected; cases selected

/-- Fields of a decoded event that filters ask for. -/
structure Decodes (data : List (String × Json)) (event : DecodedEvent) : Prop where
  workspaceId : event.workspaceId = eventJsonValue data "workspace_id"
  reasonCode : event.reasonCode = eventJsonValue data "reason_code"
  enforcingPrincipal : event.enforcingPrincipal = eventJsonValue data "enforcing_principal"
  verified : event.subjectTokenVerified = subjectTokenVerifiedFromJson data

theorem eventJsonValue_eq_getD
    (data : List (String × Json))
    {name : String}
    (current : name ≠ "subject_token_verified") :
    eventJsonValue data name = (Json.get? data name).getD .null := by
  unfold eventJsonValue
  cases Json.get? data name with
  | some value => rfl
  | none => rw [if_neg current]; rfl

theorem Decodes.of_auditEventFromData
    {data : List (String × Json)}
    {event : DecodedEvent}
    (decoded : auditEventFromData data = some event) :
    Decodes data event := by
  unfold auditEventFromData at decoded
  iterate 4 obtain ⟨_, -, decoded⟩ := Option.bind_eq_some_iff.mp decoded
  obtain ⟨workspace, found, decoded⟩ := Option.bind_eq_some_iff.mp decoded
  iterate 14 obtain ⟨_, -, decoded⟩ := Option.bind_eq_some_iff.mp decoded
  obtain rfl := Option.some.inj decoded
  constructor
  · rw [eventJsonValue_eq_getD data (by decide), found]
    rfl
  · rw [eventJsonValue_eq_getD data (by decide)]
  · rw [eventJsonValue_eq_getD data (by decide)]
  · rfl

/-! ## Faithful reads of a verified table -/

section Verified

variable {table : AuditTable}

theorem VerifiesChain.mirrors
    (verifies : VerifiesChain sha256 table)
    {row : AuditRow}
    (present : row ∈ table) :
    ∃ data, Json.loads row.eventJson.toList = some (.obj data) ∧ Mirrors row data := by
  apply Mirrors.of_rowColumnsMatch
  exact verifies.chained.matches_of_mem (mem_orderedBySeq.mpr present)

theorem VerifiesChain.loads
    (verifies : VerifiesChain sha256 table) :
    ∀ row ∈ table, ∃ data, Json.loads row.eventJson.toList = some (.obj data) := by
  intro row present
  obtain ⟨data, loaded, -⟩ := verifies.mirrors present
  exact ⟨data, loaded⟩

/-- Plain rows are read as their JSON says. -/
theorem readsFaithfully_of_plain
    (verifies : VerifiesChain sha256 table)
    (plain : ∀ row ∈ table, row.Plain containerText) :
    ReadsFaithfully containerText table := by
  intro filters valid
  have same : selectedRows containerText table filters = satisfyingRows table filters := by
    unfold selectedRows satisfyingRows
    congr 1
    apply List.filter_congr
    intro row listed
    have present := mem_orderedBySeq.mp listed
    obtain ⟨data, loaded, mirrors⟩ := verifies.mirrors present
    exact rowSelected_eq loaded mirrors (plain row present) filters
  have kept : ∀ row ∈ satisfyingRows table filters, row ∈ table := by
    intro row listed
    apply mem_orderedBySeq.mp
    apply List.mem_of_mem_filter
    exact mem_of_mem_lastOnes listed
  have decodes : ∀ row ∈ satisfyingRows table filters,
      ∃ event, auditEventFromJson row.eventJson = some event := by
    intro row listed
    exact Option.isSome_iff_exists.mp (plain row (kept row listed)).decodes
  obtain ⟨events, decoded⟩ := exists_map_eq_map_some decodes
  refine ⟨events, (listFiltered_eq_ok verifies.loads valid).mpr ?_, decoded⟩
  rw [same]
  exact decoded

/-- A read of a workspace decodes its rows. -/
theorem ReadsFaithfully.decodes
    (faithful : ReadsFaithfully containerText table)
    (verifies : VerifiesChain sha256 table) :
    ∀ row ∈ table, ∃ event, auditEventFromJson row.eventJson = some event := by
  intro row present
  obtain ⟨data, loaded, mirrors⟩ := verifies.mirrors present
  obtain ⟨events, -, decoded⟩ := faithful { workspaceId := row.workspaceId } (by simp)
  have satisfying : row ∈ satisfyingRows table { workspaceId := row.workspaceId } := by
    refine List.mem_filter.mpr ⟨mem_orderedBySeq.mpr present, ?_⟩
    simp [rowSatisfies, loaded, satisfies, mirrors.workspaceId]
  have listed : auditEventFromJson row.eventJson ∈ events.map some := by
    rw [← decoded]
    exact List.mem_map.mpr ⟨row, satisfying, rfl⟩
  obtain ⟨event, -, found⟩ := List.mem_map.mp listed
  exact ⟨event, found.symm⟩

/-- A read selects as the JSON says, provided that a decoded event tells whether
it satisfies the filters. -/
theorem ReadsFaithfully.selects
    (faithful : ReadsFaithfully containerText table)
    (verifies : VerifiesChain sha256 table)
    (filters : AuditFilters)
    (unlimited : filters.limit = none)
    (unclassed : filters.eventClass = none)
    (reflected : DecodedEvent → Bool)
    (reflects : ∀ data event, Decodes data event → satisfies filters data = reflected event) :
    ∀ row ∈ table, rowSelected containerText filters row = rowSatisfies filters row := by
  have valid : ∀ value ∈ filters.eventClass, value ∈ auditEventClasses := by
    rw [unclassed]
    intro value present
    cases present
  obtain ⟨events, reads, satisfying⟩ := faithful filters valid
  have selected := (listFiltered_eq_ok verifies.loads valid).mp reads
  have same := selected.trans satisfying.symm
  simp only [selectedRows, satisfyingRows, unlimited, lastOnes] at same
  have tells : ∀ row ∈ orderedBySeq table,
      rowSatisfies filters row = (auditEventFromJson row.eventJson).any reflected := by
    intro row listed
    have present := mem_orderedBySeq.mp listed
    obtain ⟨data, loaded⟩ := verifies.loads row present
    obtain ⟨event, decoded⟩ := faithful.decodes verifies row present
    rw [decoded, Option.any_some, rowSatisfies, loaded]
    simp only [auditEventFromJson, loaded] at decoded
    exact reflects data event (.of_auditEventFromData decoded)
  intro row present
  exact selections_eq_of_map_eq tells same row (mem_orderedBySeq.mpr present)

/-- The rows of a table that is read faithfully are plain: each requirement is
one that some read makes visible. -/
theorem ReadsFaithfully.plain
    (faithful : ReadsFaithfully containerText table)
    (verifies : VerifiesChain sha256 table)
    {row : AuditRow}
    (present : row ∈ table) :
    row.Plain containerText := by
  obtain ⟨data, loaded, mirrors⟩ := verifies.mirrors present
  have boolean : row.subjectTokenVerified = 0 ∨ row.subjectTokenVerified = 1 := by
    have same := faithful.selects verifies
      { workspaceId := row.workspaceId, subjectTokenVerified := some true } rfl rfl
      (fun event => textOf event.workspaceId = some row.workspaceId &&
        event.subjectTokenVerified)
      (by
        intro data event fields
        simp [satisfies, fields.workspaceId, fields.verified])
      row present
    have agree : decide (row.subjectTokenVerified = 1) =
        !decide (row.subjectTokenVerified = 0) := by
      simpa [rowSelected, columnClauses, rowSatisfies, loaded, satisfies, mirrors.workspaceId,
        mirrors.verified] using same
    by_cases zero : row.subjectTokenVerified = 0
    · exact Or.inl zero
    · simp only [zero, decide_false, Bool.not_false, decide_eq_true_eq] at agree
      exact Or.inr agree
  have reasonCode : extractedText containerText row.eventJson "reason_code" =
      loadedText row.eventJson "reason_code" := by
    ext value
    have same := faithful.selects verifies
      { workspaceId := row.workspaceId, reasonCode := some value } rfl rfl
      (fun event => textOf event.workspaceId = some row.workspaceId &&
        textOf event.reasonCode = some value)
      (by
        intro data event fields
        simp [satisfies, fields.workspaceId, fields.reasonCode])
      row present
    simpa [rowSelected, columnClauses, rowSatisfies, loaded, satisfies, mirrors.workspaceId,
      loadedText] using same
  have enforcingPrincipal : extractedText containerText row.eventJson "enforcing_principal" =
      loadedText row.eventJson "enforcing_principal" := by
    ext value
    have same := faithful.selects verifies
      { workspaceId := row.workspaceId, enforcingPrincipal := some value } rfl rfl
      (fun event => textOf event.workspaceId = some row.workspaceId &&
        textOf event.enforcingPrincipal = some value)
      (by
        intro data event fields
        simp [satisfies, fields.workspaceId, fields.enforcingPrincipal])
      row present
    simpa [rowSelected, columnClauses, rowSatisfies, loaded, satisfies, mirrors.workspaceId,
      loadedText] using same
  refine ⟨boolean, ?_, Option.isSome_iff_exists.mpr (faithful.decodes verifies row present)⟩
  intro name listed
  simp only [List.mem_cons, List.not_mem_nil, or_false] at listed
  rcases listed with rfl | rfl
  · exact reasonCode
  · exact enforcingPrincipal

end Verified

/-! ### An edited column -/

def tokenEvent : AuditEvent where
  eventId := "evt_1"
  eventType := "action_permitted"
  decision := .permit
  reason := "scope_match"
  workspaceId := "ws"
  agentId := "a"
  grantId := "g"
  grantRef := "r"
  action := "read"
  resource := "repo/x"
  scopeAttempted := "read:repo/x"
  scopeMatched := some "read:repo/*"
  boundaryId := none
  runtime := none
  boundaryType := none
  createdAt := 0
  subjectTokenVerified := true
  tokenId := some "stk_1"

def tokenJson : String := tokenEvent.toJson.getD ""

def tokenDigest : Bytes :=
  [244, 176, 160, 39, 243, 227, 12, 126, 105, 176, 100, 204, 19, 3, 189, 5, 245, 133,
    94, 188, 53, 219, 252, 222, 161, 36, 68, 70, 55, 169, 106, 114]

/-- SHA-256 on the payload of the row of the event. -/
def tokenSha256 (payload : Bytes) : Bytes :=
  if payload = Bytes.utf8 (rowPayload 1 tokenJson genesisPrevHash) then tokenDigest else []

/-- The row of the event, with a truth value that may have been edited. -/
def tokenRow (verified : Int) : AuditRow :=
  { eventRow tokenEvent tokenJson 1 (some genesisPrevHash)
      (String.ofList (Bytes.hexDigits tokenDigest)) with
    subjectTokenVerified := verified }

theorem loads_tokenRow (verified : Int) :
    Json.loads (tokenRow verified).eventJson.toList =
      some (.obj (tokenEvent.toDict.insertionSort Json.keyLE)) := by
  have rendered : tokenEvent.toJson.isSome = true := by decide +kernel
  obtain ⟨text, isText⟩ := Option.isSome_iff_exists.mp rendered
  have same : (tokenRow verified).eventJson = text := by
    change tokenEvent.toJson.getD "" = text
    rw [isText, Option.getD_some]
  rw [same]
  exact AuditEvent.loads_toJson isText

theorem verifiesChain_tokenRow
    {verified : Int}
    (matched : rowColumnsMatch (tokenRow verified) = some true) :
    VerifiesChain tokenSha256 [tokenRow verified] := by
  have hashed : rowHash tokenSha256 1 tokenJson genesisPrevHash =
      String.ofList (Bytes.hexDigits tokenDigest) := by
    unfold rowHash tokenSha256
    rw [if_pos rfl]
  have chained : Chained tokenSha256 genesisPrevHash 1 [tokenRow verified] :=
    ⟨rfl, rfl, congrArg some hashed.symm, matched, trivial⟩
  exact ⟨_, chained.verifyChain_eq, rfl⟩

end AuditChain
end Vinctor
