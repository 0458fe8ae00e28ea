import Vinctor.Core.Audit

/-!
# Audit writers

A writer either appends an event or raises and appends nothing.  Which of the
two happens may depend on the event and on everything attempted before, so the
writer carries that choice as a function together with the log of attempts.
-/

namespace Vinctor

/-- One write, with whether its event was appended. -/
structure WriteAttempt where
  event : AuditEvent
  appended : Bool
  deriving DecidableEq, Repr

structure AuditWriter where
  accepts : List WriteAttempt → AuditEvent → Bool
  attempts : List WriteAttempt

namespace AuditWriter

/-- Events of the log that were appended. -/
def appendedEvents (attempts : List WriteAttempt) : List AuditEvent :=
  (attempts.filter (·.appended)).map (·.event)

/-- The audit trail: the appended events, oldest first. -/
def events (writer : AuditWriter) : List AuditEvent := appendedEvents writer.attempts

/-- Write an event.  The answer is false when the write raised. -/
def write (writer : AuditWriter) (event : AuditEvent) : Bool × AuditWriter :=
  let appended := writer.accepts writer.attempts event
  (appended, { writer with attempts := writer.attempts ++ [⟨event, appended⟩] })

/-- Best-effort write of a rejection: a failure is swallowed. -/
def recordRejection (writer : AuditWriter) (event : AuditEvent) : AuditWriter :=
  (writer.write event).2

/-- The in-memory writer, which appends every event. -/
def inMemory : AuditWriter where
  accepts := fun _ _ => true
  attempts := []

/-- The writer never raises. -/
def Reliable (writer : AuditWriter) : Prop :=
  ∀ attempts event, writer.accepts attempts event = true

theorem Reliable.written {writer : AuditWriter} (reliable : writer.Reliable)
    (event : AuditEvent) :
    (writer.write event).1 = true :=
  reliable writer.attempts event

theorem Reliable.write {writer : AuditWriter} (reliable : writer.Reliable)
    (event : AuditEvent) :
    (writer.write event).2.Reliable :=
  reliable

theorem attempts_write (writer : AuditWriter) (event : AuditEvent) :
    (writer.write event).2.attempts =
      writer.attempts ++ [⟨event, (writer.write event).1⟩] :=
  rfl

theorem appendedEvents_singleton (attempt : WriteAttempt) :
    appendedEvents [attempt] = if attempt.appended then [attempt.event] else [] := by
  obtain ⟨event, appended⟩ := attempt
  cases appended with
  | false => rfl
  | true => rfl

theorem appendedEvents_append (earlier later : List WriteAttempt) :
    appendedEvents (earlier ++ later) = appendedEvents earlier ++ appendedEvents later := by
  simp [appendedEvents]

/-- A call left only events of a kind in the trail. -/
def Adds (allowed : AuditEvent → Prop) (before after : AuditWriter) : Prop :=
  ∃ written, after.attempts = before.attempts ++ written ∧
    ∀ event ∈ appendedEvents written, allowed event

theorem Adds.refl (allowed : AuditEvent → Prop) (writer : AuditWriter) :
    Adds allowed writer writer :=
  ⟨[], by simp, by simp [appendedEvents]⟩

theorem Adds.trans
    {allowed : AuditEvent → Prop}
    {first second third : AuditWriter}
    (earlier : Adds allowed first second)
    (later : Adds allowed second third) :
    Adds allowed first third := by
  obtain ⟨earlierWritten, earlierAttempts, earlierAllowed⟩ := earlier
  obtain ⟨laterWritten, laterAttempts, laterAllowed⟩ := later
  refine ⟨earlierWritten ++ laterWritten, ?_, ?_⟩
  · rw [laterAttempts, earlierAttempts, List.append_assoc]
  · rw [appendedEvents_append]
    intro event member
    rcases List.mem_append.mp member with early | late
    · exact earlierAllowed event early
    · exact laterAllowed event late

theorem adds_write
    {allowed : AuditEvent → Prop}
    (writer : AuditWriter)
    {event : AuditEvent}
    (permitted : allowed event) :
    Adds allowed writer (writer.write event).2 := by
  refine ⟨_, attempts_write writer event, ?_⟩
  rw [appendedEvents_singleton]
  split
  · simp [permitted]
  · simp

/-- An event of the later trail is an earlier one or of the kind. -/
theorem Adds.mem_events
    {allowed : AuditEvent → Prop}
    {before after : AuditWriter}
    (adds : Adds allowed before after)
    {event : AuditEvent}
    (recorded : event ∈ after.events) :
    event ∈ before.events ∨ allowed event := by
  obtain ⟨written, attempts, permitted⟩ := adds
  unfold events at recorded
  rw [attempts, appendedEvents_append] at recorded
  rcases List.mem_append.mp recorded with old | new
  · exact Or.inl old
  · exact Or.inr (permitted event new)

end AuditWriter
end Vinctor
