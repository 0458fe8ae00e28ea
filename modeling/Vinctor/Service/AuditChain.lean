import Vinctor.Core.Models
import Vinctor.Foundation.Datetime
import Vinctor.Foundation.Json

/-!
# The audit hash chain

The table of audit events of the SQLite store.  Every row holds the canonical
JSON text of its event, the columns that mirror fields of it, its position in
the chain, the hash of the row before it and its own hash.  The hash function
is a parameter: a function from byte strings to digests.
-/

namespace Vinctor

open Foundation

/-- Text of an instant as the event and its row store it. -/
def isoformat (instant : Instant) : String :=
  String.ofList (Datetime.ofInstant instant).isoformat

/-! ## Canonical JSON of an event -/

namespace AuditEvent

def optionalMember (key : String) (value : Option Json) : List (String × Json) :=
  (value.map fun value => (key, value)).toList

def nullableText (text : Option String) : Json :=
  (text.map Json.str).getD .null

/-- Fields of an event under their stored names.  A field that has its default
is left out when older rows do not have it. -/
def toDict (event : AuditEvent) : List (String × Json) :=
  [ ("event_id", .str event.eventId),
    ("event_type", .str event.eventType),
    ("decision", .str event.decision.code),
    ("reason", .str event.reason),
    ("workspace_id", .str event.workspaceId),
    ("agent_id", .str event.agentId),
    ("grant_id", .str event.grantId),
    ("grant_ref", .str event.grantRef),
    ("action", .str event.action),
    ("resource", .str event.resource),
    ("scope_attempted", .str event.scopeAttempted),
    ("scope_matched", nullableText event.scopeMatched),
    ("boundary_id", nullableText event.boundaryId),
    ("runtime", nullableText event.runtime),
    ("boundary_type", nullableText event.boundaryType),
    ("created_at", .str (isoformat event.createdAt)) ] ++
  optionalMember "enforcing_principal" (event.enforcingPrincipal.map Json.str) ++
  optionalMember "reason_code" (event.reasonCode.map Json.str) ++
  optionalMember "occurrence_count" (event.occurrenceCount.map Json.int) ++
  optionalMember "first_seen_at" (event.firstSeenAt.map fun at_ => .str (isoformat at_)) ++
  optionalMember "last_seen_at" (event.lastSeenAt.map fun at_ => .str (isoformat at_)) ++
  optionalMember "subject_token_verified"
    (if event.subjectTokenVerified then some (.bool true) else none) ++
  optionalMember "token_id" (event.tokenId.map Json.str) ++
  optionalMember "event_class"
    (if event.eventClass ≠ "decision" then some (.str event.eventClass) else none)

/-- Canonical JSON text of an event, unless a number in it is too long. -/
def toJson (event : AuditEvent) : Option String :=
  (Json.dumps (.obj event.toDict)).map String.ofList

end AuditEvent

namespace AuditChain

/-! ## Row hashes -/

def genesisPrevHash : String := String.ofList (List.replicate 64 '0')

/-- Text that a row hash is computed from. -/
def rowPayload (seq : Int) (eventJson prevHash : String) : String :=
  toString seq ++ "\n" ++ eventJson ++ "\n" ++ prevHash

def rowHash
    (sha256 : Bytes → Bytes)
    (seq : Int)
    (eventJson prevHash : String) : String :=
  String.ofList (Bytes.hexDigits (sha256 (Bytes.utf8 (rowPayload seq eventJson prevHash))))

/-! ## Rows -/

/-- A row of the table of audit events.  The three columns of the chain were
added to an existing table and may be null. -/
structure AuditRow where
  eventId : String
  eventType : String
  decision : String
  reason : String
  workspaceId : String
  agentId : String
  grantId : String
  grantRef : String
  action : String
  resource : String
  scopeAttempted : String
  scopeMatched : Option String
  boundaryId : Option String
  runtime : Option String
  boundaryType : Option String
  createdAt : String
  subjectTokenVerified : Int
  eventClass : String
  eventJson : String
  seq : Option Int
  prevHash : Option String
  rowHash : Option String
  deriving DecidableEq, Repr

/-- Rows in the order in which they were inserted. -/
abbrev AuditTable := List AuditRow

/-- Order of positions; a null comes first. -/
def seqLE (left right : AuditRow) : Bool :=
  match left.seq, right.seq with
  | none, _ => true
  | some _, none => false
  | some left, some right => left ≤ right

/-- Rows by position. -/
def orderedBySeq (table : AuditTable) : List AuditRow := table.insertionSort fun left right => seqLE left right = true

/-- Row with the greatest position. -/
def headRow (table : AuditTable) : Option AuditRow := (orderedBySeq table).getLast?

/-- Position and hash of the last row, or those before the first row.  They
are null when they are null in the row. -/
def chainHead (table : AuditTable) : Option Int × Option String :=
  match headRow table with
  | none => (some 0, some genesisPrevHash)
  | some row => (row.seq, row.rowHash)

/-! ## Comparison of columns with the canonical JSON -/

/-- Value of a column. -/
inductive ColumnValue
  | null
  | text (value : String)
  | integer (value : Int)

def ColumnValue.toJson : ColumnValue → Json
  | .null => .null
  | .text value => .str value
  | .integer value => .int value

def nullableColumn (text : Option String) : ColumnValue :=
  (text.map ColumnValue.text).getD .null

/-- Columns that mirror a field of the canonical JSON, in the order in which
they are compared. -/
def crosscheckColumns (row : AuditRow) : List (String × ColumnValue) :=
  [ ("event_id", .text row.eventId),
    ("event_type", .text row.eventType),
    ("decision", .text row.decision),
    ("reason", .text row.reason),
    ("workspace_id", .text row.workspaceId),
    ("agent_id", .text row.agentId),
    ("grant_id", .text row.grantId),
    ("grant_ref", .text row.grantRef),
    ("action", .text row.action),
    ("resource", .text row.resource),
    ("scope_attempted", .text row.scopeAttempted),
    ("scope_matched", nullableColumn row.scopeMatched),
    ("boundary_id", nullableColumn row.boundaryId),
    ("runtime", nullableColumn row.runtime),
    ("boundary_type", nullableColumn row.boundaryType),
    ("created_at", .text row.createdAt),
    ("subject_token_verified", .integer row.subjectTokenVerified),
    ("event_class", .text row.eventClass) ]

def legacySubjectTokenVerifiedField : String := "identity_proven"

/-- A field of the canonical JSON; a missing one reads as null. -/
def eventJsonValue (data : List (String × Json)) (field : String) : Json :=
  match Json.get? data field with
  | some value => value
  | none =>
      if field = "subject_token_verified" then
        (Json.get? data legacySubjectTokenVerifiedField).getD .null
      else .null

/-- Texts that denote instants are brought to coordinated universal time. -/
def canonicalInstant : Json → Json
  | .str text =>
      match Datetime.fromisoformat text.toList with
      | none => .str text
      | some datetime => .str (String.ofList datetime.asUtc.isoformat)
  | value => value

/-- Equality of values of which one comes from a column: a column holds no
list, no object and no fraction. -/
def sameValue : Json → Json → Bool
  | .null, .null => true
  | .str left, .str right => left = right
  | .int left, .int right => left = right
  | .bool left, .bool right => left = right
  | .int left, .bool right => left = right.toNat
  | .bool left, .int right => left.toNat = right
  | _, _ => false

def datetimeCrosscheckFields : List String := ["created_at", "first_seen_at", "last_seen_at"]

def booleanCrosscheckFields : List String := ["subject_token_verified"]

/-- Whether a column agrees with its field of the canonical JSON. -/
def crosscheckValuesMatch
    (column : String)
    (jsonValue : Json)
    (columnValue : ColumnValue) : Bool :=
  if datetimeCrosscheckFields.contains column then
    sameValue (canonicalInstant jsonValue) (canonicalInstant columnValue.toJson)
  else if booleanCrosscheckFields.contains column then
    jsonValue.truthy == columnValue.toJson.truthy
  else if column = "event_class" then
    let value := match jsonValue with
      | .null => .str "decision"
      | value => value
    sameValue value columnValue.toJson
  else sameValue jsonValue columnValue.toJson

/-- Whether the columns of a row agree with its canonical JSON.  There is no
answer when the text is not JSON or not an object. -/
def rowColumnsMatch (row : AuditRow) : Option Bool :=
  match Json.loads row.eventJson.toList with
  | some (.obj data) =>
      some ((crosscheckColumns row).all fun (name, value) =>
        crosscheckValuesMatch name (eventJsonValue data name) value)
  | _ => none

/-! ## Verification of the chain -/

inductive BreakKind
  | modified
  | deleted
  | reordered
  | columnMismatch
  deriving DecidableEq, Repr

structure ChainVerification where
  ok : Bool
  count : Nat
  headSeq : Int
  headHash : String
  breakSeq : Option Int := none
  breakEventId : Option String := none
  breakKind : Option BreakKind := none
  deriving DecidableEq, Repr

/-- The loop of the verification.  There is no result when the comparison of
the columns of a row has none. -/
def verifyRows
    (sha256 : Bytes → Bytes)
    (count : Nat)
    (prev : String)
    (expectedSeq : Int)
    (headSeq : Int)
    (headHash : String) :
    List AuditRow → Option ChainVerification
  | [] => some { ok := true, count, headSeq, headHash }
  | row :: rest =>
      let broken (seq : Int) (kind : BreakKind) : Option ChainVerification :=
        some
          { ok := false, count, headSeq, headHash
            breakSeq := some seq
            breakEventId := some row.eventId
            breakKind := some kind }
      if row.seq ≠ some expectedSeq then broken expectedSeq .deleted
      else if row.prevHash ≠ some prev then broken expectedSeq .reordered
      else
        let expectedHash := rowHash sha256 expectedSeq row.eventJson prev
        if row.rowHash ≠ some expectedHash then broken expectedSeq .modified
        else
          match rowColumnsMatch row with
          | none => none
          | some false => broken expectedSeq .columnMismatch
          | some true =>
              verifyRows sha256 count expectedHash (expectedSeq + 1) expectedSeq
                expectedHash rest

def verifyChain (sha256 : Bytes → Bytes) (table : AuditTable) : Option ChainVerification :=
  let rows := orderedBySeq table
  verifyRows sha256 rows.length genesisPrevHash 1 0 genesisPrevHash rows

/-! ## Comparison with the anchor -/

structure AnchorRecord where
  seq : Int
  rowHash : String
  deriving DecidableEq, Repr

inductive DivergenceKind
  | missing
  | mismatch
  | uncovered
  deriving DecidableEq, Repr

structure AnchorVerification where
  ok : Bool
  checked : Int
  coveredMaxSeq : Int
  headSeq : Int
  divergenceSeq : Option Int := none
  divergenceKind : Option DivergenceKind := none
  deriving DecidableEq, Repr

/-- The loop over the records of the anchor. -/
def verifyRecords
    (table : AuditTable)
    (headSeq : Int)
    (total : Nat)
    (covered : Int) :
    List AnchorRecord → AnchorVerification
  | [] =>
      if covered < headSeq then
        { ok := false, checked := total, coveredMaxSeq := covered, headSeq
          divergenceSeq := some (covered + 1)
          divergenceKind := some .uncovered }
      else { ok := true, checked := total, coveredMaxSeq := covered, headSeq }
  | record :: rest =>
      match table.find? fun row => row.seq = some record.seq with
      | none =>
          { ok := false, checked := covered, coveredMaxSeq := covered, headSeq
            divergenceSeq := some record.seq
            divergenceKind := some .missing }
      | some row =>
          if row.rowHash ≠ some record.rowHash then
            { ok := false, checked := covered, coveredMaxSeq := covered, headSeq
              divergenceSeq := some record.seq
              divergenceKind := some .mismatch }
          else verifyRecords table headSeq total (max covered record.seq) rest

/-- There is no result when the head has a null position: a number is not
compared with null. -/
def verifyAgainstAnchor
    (table : AuditTable)
    (records : List AnchorRecord) : Option AnchorVerification :=
  (chainHead table).1.map fun headSeq =>
    verifyRecords table headSeq records.length 0 records

/-! ## Writing -/

/-- Columns of the row of an event. -/
def eventRow
    (event : AuditEvent)
    (eventJson : String)
    (seq : Int)
    (prevHash : Option String)
    (hash : String) : AuditRow where
  eventId := event.eventId
  eventType := event.eventType
  decision := event.decision.code
  reason := event.reason
  workspaceId := event.workspaceId
  agentId := event.agentId
  grantId := event.grantId
  grantRef := event.grantRef
  action := event.action
  resource := event.resource
  scopeAttempted := event.scopeAttempted
  scopeMatched := event.scopeMatched
  boundaryId := event.boundaryId
  runtime := event.runtime
  boundaryType := event.boundaryType
  createdAt := isoformat event.createdAt
  subjectTokenVerified := event.subjectTokenVerified.toNat
  eventClass := event.eventClass
  eventJson := eventJson
  seq := some seq
  prevHash := prevHash
  rowHash := some hash

/-- Row that the writer adds to a table for an event.  There is none when the
event has no JSON text or the head of the table has a null position. -/
def nextRow
    (sha256 : Bytes → Bytes)
    (table : AuditTable)
    (event : AuditEvent) : Option AuditRow := do
  let eventJson ← event.toJson
  let prevSeq ← (chainHead table).1
  let prevHash := (chainHead table).2
  let seq := prevSeq + 1
  -- A null is formatted as the word the language prints for it.
  let hash := rowHash sha256 seq eventJson (prevHash.getD "None")
  some (eventRow event eventJson seq prevHash hash)

/-- Insertion of a row; the identifier and the position are unique. -/
def insertRow (table : AuditTable) (row : AuditRow) : Option AuditTable :=
  if table.any fun other =>
      other.eventId = row.eventId || (row.seq.isSome && other.seq = row.seq) then none
  else some (table ++ [row])

/-- The table after an event was written to it. -/
def writeEvent
    (sha256 : Bytes → Bytes)
    (table : AuditTable)
    (event : AuditEvent) : Option AuditTable :=
  (nextRow sha256 table event).bind (insertRow table)

end AuditChain
end Vinctor
