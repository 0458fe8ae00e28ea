import Vinctor.Service.AuditReference
import Vinctor.Service.PostgresChain

/-!
# Filtered reads of the databases

The filtered reads of both databases with the values that they bind.  SQLite binds
integers of 64 bits.  Postgres binds texts without NUL and limits its rows by an
integer of 64 bits.  The checks that the service makes come first.

Postgres has a column for every field that a filter names, and stores an event only
where its columns admit it.
-/

namespace Vinctor

open Foundation
open AuditChain

/-- Errors of a read: of the query, of a value that cannot be sent, and of an integer
that is too large to bind. -/
inductive ReadError
  | query (error : AuditQueryError)
  | data
  | overflow
  deriving DecidableEq, Repr

/-- Limits that an integer of 64 bits holds. -/
def limitFits (limit : Option Nat) : Bool := limit.all (· < 2 ^ 63)

/-! ## SQLite -/

namespace SqliteReads

def listFiltered
    (containerText : String → String → String)
    (table : AuditTable)
    (filters : AuditFilters)
    (cursors : AuditCursors := {}) : Except ReadError (List DecodedEvent) := do
  -- The class and the cursors are checked before the query with its limit is sent.
  (validateAuditEventClass filters.eventClass).mapError .query
  let _ ← (cursorBounds table filters.workspaceId cursors).mapError .query
  Fallible.ensure (limitFits filters.limit) .overflow
  (AuditChain.listFiltered containerText table filters cursors).mapError .query

/-- The table that a list of events leaves. -/
def writeEvents (sha256 : Bytes → Bytes) (events : List AuditEvent) : Option AuditTable :=
  events.foldlM (AuditChain.writeEvent sha256) []

end SqliteReads

/-! ## Postgres -/

namespace PostgresReads

open PostgresAudit (PostgresAuditRow PostgresAuditTable)

/-- Texts that a column or a parameter admits. -/
def admitsText (text : String) : Bool := decide ('\x00' ∉ text.toList)

/-- Texts of the columns of an event. -/
def columnTexts (event : AuditEvent) : List String :=
  [event.eventId, event.eventType, event.reason, event.workspaceId, event.agentId,
    event.grantId, event.grantRef, event.action, event.resource, event.scopeAttempted,
    event.eventClass] ++
  [event.scopeMatched, event.boundaryId, event.runtime, event.boundaryType,
    event.enforcingPrincipal, event.reasonCode, event.tokenId].filterMap id

/-- Events that the columns admit: no NUL, and counts of 32 bits. -/
def storesEvent (event : AuditEvent) : Bool :=
  (columnTexts event).all admitsText &&
    event.occurrenceCount.all fun count => decide (-2 ^ 31 ≤ count ∧ count < 2 ^ 31)

def writeEvent
    (sha256 : Bytes → Bytes)
    (table : PostgresAuditTable)
    (event : AuditEvent) : Option PostgresAuditTable := do
  let eventJson ← event.toJson
  let row := PostgresAudit.nextRow sha256 event eventJson (PostgresAudit.chainHead table)
  if storesEvent event = true ∧ PostgresAudit.violatesUniqueness table row = false then
    some (table ++ [row])
  else none

/-- The table that a list of events leaves. -/
def writeEvents (sha256 : Bytes → Bytes) (events : List AuditEvent) :
    Option PostgresAuditTable :=
  events.foldlM (writeEvent sha256) []

/-- Position of the event of a cursor. -/
def cursorSeq
    (table : PostgresAuditTable)
    (workspaceId : String) :
    Option String → Except ReadError (Option Int)
  | none => .ok none
  | some eventId => do
      Fallible.ensure (admitsText eventId && admitsText workspaceId) .data
      match table.find? fun row => row.eventId = eventId && row.workspaceId = workspaceId with
      | none => .error (.query .invalidAuditCursor)
      | some row => .ok (some row.seq)

def cursorBounds
    (table : PostgresAuditTable)
    (workspaceId : String)
    (cursors : AuditCursors) : Except ReadError (Option Int × Option Int) := do
  Fallible.ensure (cursors.beforeEventId.isSome → cursors.snapshotEventId.isSome)
    (.query .invalidAuditCursor)
  let snapshotSeq ← cursorSeq table workspaceId cursors.snapshotEventId
  let beforeSeq ← cursorSeq table workspaceId cursors.beforeEventId
  Fallible.ensure (∀ snapshot ∈ snapshotSeq, ∀ before ∈ beforeSeq, before ≤ snapshot)
    (.query .invalidAuditCursor)
  return (snapshotSeq, beforeSeq)

/-- Clauses on the columns of a row.  A comparison with a null does not hold. -/
def columnClauses
    (filters : AuditFilters)
    (bounds : Option Int × Option Int)
    (row : PostgresAuditRow) : Bool :=
  row.workspaceId = filters.workspaceId &&
    bounds.1.all (row.seq ≤ ·) &&
    bounds.2.all (row.seq < ·) &&
    filters.eventClass.all (row.eventClass = ·) &&
    filters.eventType.all (row.eventType = ·) &&
    filters.grantRef.all (row.grantRef = ·) &&
    filters.boundaryId.all (row.boundaryId = some ·) &&
    filters.agentId.all (row.agentId = ·) &&
    filters.reasonCode.all (row.reasonCode = some ·) &&
    filters.enforcingPrincipal.all (row.enforcingPrincipal = some ·) &&
    filters.subjectTokenVerified.all (row.subjectTokenVerified = ·) &&
    filters.requestId.all (fun requestId =>
      row.resource = "grant_request/" ++ requestId || row.grantRef = requestId)

/-- Texts that the query binds. -/
def boundTexts (filters : AuditFilters) : List String :=
  filters.workspaceId ::
    [filters.eventClass, filters.eventType, filters.grantRef, filters.boundaryId,
      filters.agentId, filters.reasonCode, filters.enforcingPrincipal,
      filters.requestId].filterMap id

/-- The first rows by descending position, or all of them. -/
def mostRecentFirst (limit : Option Nat) (rows : List PostgresAuditRow) :
    List PostgresAuditRow :=
  match limit with
  | none => (PostgresAudit.orderedBySeq rows).reverse
  | some limit => (PostgresAudit.orderedBySeq rows).reverse.take limit

def listFiltered
    (table : PostgresAuditTable)
    (filters : AuditFilters)
    (cursors : AuditCursors := {}) : Except ReadError (List DecodedEvent) := do
  (validateAuditEventClass filters.eventClass).mapError .query
  let bounds ← cursorBounds table filters.workspaceId cursors
  Fallible.ensure ((boundTexts filters).all admitsText && limitFits filters.limit) .data
  let rows := mostRecentFirst filters.limit (table.filter (columnClauses filters bounds))
  rows.reverse.mapM fun row =>
    Fallible.require (auditEventFromJson row.eventJson) (.query .undecodableEvent)

end PostgresReads
end Vinctor
