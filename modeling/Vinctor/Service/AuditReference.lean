import Mathlib.Data.List.Forall2
import Vinctor.Service.FaithfulReads

/-!
# The reference filter

Filtered reads of the service in memory.  It keeps the events in the order in which
they were written and filters them by the fields of the events themselves.  The
position of an event in the log, counted from one, is what the cursors bound.
-/

namespace Vinctor
namespace AuditReference

open Foundation
open AuditChain

/-! ## Reads -/

/-- Events of the log with their positions. -/
def positioned (events : List AuditEvent) : List (AuditEvent × Nat) := events.zipIdx 1

def auditEventMatches (filters : AuditFilters) (event : AuditEvent) : Bool :=
  filters.eventClass.all (event.eventClass = ·) &&
    filters.agentId.all (event.agentId = ·) &&
    filters.eventType.all (event.eventType = ·) &&
    filters.grantRef.all (event.grantRef = ·) &&
    filters.boundaryId.all (event.boundaryId = some ·) &&
    filters.reasonCode.all (event.reasonCode = some ·) &&
    filters.enforcingPrincipal.all (event.enforcingPrincipal = some ·) &&
    filters.subjectTokenVerified.all (event.subjectTokenVerified = ·) &&
    filters.requestId.all (fun requestId =>
      event.resource = "grant_request/" ++ requestId || event.grantRef = requestId)

/-- Position of the event of a cursor, which has to be of the workspace. -/
def cursorPosition
    (events : List AuditEvent)
    (workspaceId : String) :
    Option String → Except AuditQueryError (Option Nat)
  | none => .ok none
  | some eventId =>
      match (positioned events).find? fun entry =>
        entry.1.eventId = eventId && entry.1.workspaceId = workspaceId with
      | none => .error .invalidAuditCursor
      | some entry => .ok (some entry.2)

/-- Bounds of the positions of a page. -/
def cursorBounds
    (events : List AuditEvent)
    (workspaceId : String)
    (cursors : AuditCursors) : Except AuditQueryError (Option Nat × Option Nat) := do
  Fallible.ensure (cursors.beforeEventId.isSome → cursors.snapshotEventId.isSome)
    .invalidAuditCursor
  let snapshotPosition ← cursorPosition events workspaceId cursors.snapshotEventId
  let beforePosition ← cursorPosition events workspaceId cursors.beforeEventId
  Fallible.ensure (∀ snapshot ∈ snapshotPosition, ∀ before ∈ beforePosition, before ≤ snapshot)
    .invalidAuditCursor
  return (snapshotPosition, beforePosition)

/-- The slice from the end.  A slice of no elements from the end is the whole list. -/
def lastSlice (limit : Option Nat) (list : List α) : List α :=
  match limit with
  | none | some 0 => list
  | some limit => list.drop (list.length - limit)

/-- Whether an event at a position is on the page. -/
def onPage
    (filters : AuditFilters)
    (snapshotBound beforeBound : Nat)
    (entry : AuditEvent × Nat) : Bool :=
  entry.2 ≤ snapshotBound && entry.2 < beforeBound &&
    entry.1.workspaceId = filters.workspaceId && auditEventMatches filters entry.1

def listFiltered
    (events : List AuditEvent)
    (filters : AuditFilters)
    (cursors : AuditCursors := {}) : Except AuditQueryError (List AuditEvent) := do
  validateAuditEventClass filters.eventClass
  let bounds ← cursorBounds events filters.workspaceId cursors
  let snapshotBound := bounds.1.getD events.length
  let beforeBound := bounds.2.getD (events.length + 1)
  let matched := (positioned events).filter (onPage filters snapshotBound beforeBound)
  return lastSlice filters.limit (matched.map Prod.fst)

/-- Positions of the events of the workspace that were asked for. -/
def auditEventSequences
    (events : List AuditEvent)
    (workspaceId : String)
    (eventIds : List String) : Dict String Nat :=
  ((positioned events).filter fun entry =>
    entry.1.workspaceId = workspaceId && decide (entry.1.eventId ∈ eventIds)).foldl
      (fun sequences entry => sequences.set entry.1.eventId entry.2) Dict.empty

/-! ## What a page holds -/

theorem lastSlice_eq_lastOnes
    {limit : Option Nat}
    (positive : limit ≠ some 0)
    (list : List α) :
    lastSlice limit list = lastOnes limit list := by
  unfold lastSlice lastOnes
  cases limit with
  | none => rfl
  | some limit =>
      cases limit with
      | zero => exact absurd rfl positive
      | succ limit => rfl

theorem lastOnes_map
    (limit : Option Nat)
    (change : α → β)
    (list : List α) :
    lastOnes limit (list.map change) = (lastOnes limit list).map change := by
  cases limit with
  | none => rfl
  | some limit => simp only [lastOnes, List.length_map, List.map_drop]

theorem position_of_mem_positioned
    {events : List AuditEvent}
    {entry : AuditEvent × Nat}
    (present : entry ∈ positioned events) :
    1 ≤ entry.2 ∧ entry.2 ≤ events.length := by
  obtain ⟨lower, upper, -⟩ := List.mem_zipIdx present
  omega

end AuditReference
end Vinctor
