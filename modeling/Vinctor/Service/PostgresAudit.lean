import Vinctor.Foundation.GuardedLog
import Vinctor.Service.PostgresChain

/-!
# The Postgres audit writer across sessions

The sessions of one database, each of which runs transactions with nested
scopes.  A write opens a scope of its own, takes the lock of the chain, reads
the head and inserts the next row, one statement at a time; statements of
several sessions interleave.  Whether the caller sees the error of a write, as
after `write`, or not, as after `write_best_effort`, the scope of the write is
rolled back first, and what the caller does then is open.

A lost session has no transaction left.  The code in its scopes can only leave
them, which changes nothing in the database.
-/

namespace Vinctor
namespace PostgresAudit

open Foundation
open Foundation.GuardedLog
open AuditChain

/-- An event with its canonical JSON. -/
structure Rendered where
  recorded : RecordedEvent
  eventJson : String
  rendered : recorded.event.toJson = some eventJson

/-- Progress of the write of a session. -/
inductive Stage
  | idle
  | locking (rendered : Rendered)
  | reading (rendered : Rendered)
  | selecting (rendered : Rendered) (snapshot : PostgresAuditTable)
  | inserting (rendered : Rendered) (head : Int × String)
  | leaving
  | unwinding

def Stage.isIdle : Stage → Bool
  | .idle => true
  | _ => false

structure World (κ : Type u) where
  store : GuardedLog.Store κ PostgresAuditRow
  stages : κ → Stage

section Calls

variable {κ : Type u} [DecidableEq κ]

/-- An empty table and sessions without transactions. -/
def World.empty : World κ where
  store := .empty
  stages := fun _ => .idle

/-- One session goes on. -/
def World.moveTo
    (world : World κ)
    (store : GuardedLog.Store κ PostgresAuditRow)
    (session : κ)
    (stage : Stage) : World κ where
  store := store
  stages := Function.update world.stages session stage

/-- A statement of a write.  When it fails, the scope of the write is rolled
back next. -/
def perform
    (world : World κ)
    (session : κ)
    (ending : Ending)
    (success : World κ) : World κ :=
  match ending with
  | .succeeds => success
  | .fails => world.moveTo (world.store.cross session .fail) session .unwinding
  | .lost _ => world.moveTo (world.store.cross session .lose) session .idle

/-- Start of a write: its scope is entered and the event is rendered. -/
def startWrite
    (world : World κ)
    (session : κ)
    (recorded : RecordedEvent)
    (ending : Ending) : World κ :=
  let entered := world.store.cross session (.enter ending)
  if ending = .succeeds ∧ (world.store.sessions session).failed = false then
    match rendered : recorded.event.toJson with
    | none => world.moveTo entered session .unwinding
    | some eventJson => world.moveTo entered session (.locking ⟨recorded, eventJson, rendered⟩)
  else world.moveTo entered session .idle

/-- The next statement of the write of a session. -/
def advance
    (sha256 : Bytes → Bytes)
    (world : World κ)
    (session : κ)
    (ending : Ending) : World κ :=
  match world.stages session with
  | .idle => world
  | .locking rendered =>
      perform world session ending
        (match world.store.lock? session with
        -- Another session has the lock, and the statement waits for it.
        | none => world
        | some store => world.moveTo store session (.reading rendered))
  | .reading rendered =>
      -- The statement that reads the head starts and sees what is committed now.
      world.moveTo world.store session (.selecting rendered (world.store.visible session))
  | .selecting rendered snapshot =>
      perform world session ending
        (world.moveTo world.store session (.inserting rendered (chainHead snapshot)))
  | .inserting rendered head =>
      let row := nextRow sha256 rendered.recorded.event rendered.eventJson head
      if violatesUniqueness (world.store.visible session) row then
        perform world session .fails world
      else
        perform world session ending
          (world.moveTo (world.store.append session row) session .leaving)
  | .leaving => world.moveTo (world.store.cross session (.leave ending)) session .idle
  | .unwinding => world.moveTo (world.store.cross session (.unwind ending)) session .idle

/-! ## Runs -/

/-- What a session can do: change its scopes or fail at a statement of its own
outside of a write, start a write, and go on with it.  It may be lost at any
time. -/
inductive Operation (κ : Type u)
  | cross (session : κ) (change : ScopeChange)
  | write (session : κ) (recorded : RecordedEvent) (ending : Ending)
  | advance (session : κ) (ending : Ending)

def step (sha256 : Bytes → Bytes) (world : World κ) : Operation κ → World κ
  | .cross session change =>
      if (world.stages session).isIdle ∨ change = .lose then
        world.moveTo (world.store.cross session change) session .idle
      else world
  | .write session recorded ending =>
      if (world.stages session).isIdle then startWrite world session recorded ending
      else world
  | .advance session ending => advance sha256 world session ending

/-- World after a run. -/
def run (sha256 : Bytes → Bytes) (world : World κ) (operations : List (Operation κ)) :
    World κ :=
  operations.foldl (step sha256) world

/-! ## What every step keeps -/

/-- What a stage of a write relies on. -/
def Stage.Ready (store : GuardedLog.Store κ PostgresAuditRow) (session : κ) : Stage → Prop
  | .idle | .leaving | .unwinding => True
  | .locking _ => (store.sessions session).scopes ≠ []
  | .reading _ => (store.sessions session).holdsLock = true
  | .selecting _ snapshot =>
      (store.sessions session).holdsLock = true ∧ snapshot = store.visible session
  | .inserting _ head =>
      (store.sessions session).holdsLock = true ∧ head = chainHead (store.visible session)

structure Sound (sha256 : Bytes → Bytes) (world : World κ) : Prop where
  consistent : GuardedLog.Store.Consistent (Chained sha256) world.store
  ready : ∀ session, (world.stages session).Ready world.store session

variable {sha256 : Bytes → Bytes} {world : World κ}

omit [DecidableEq κ] in
theorem Sound.empty : Sound sha256 (World.empty : World κ) where
  consistent := .empty .nil
  ready := fun _ => trivial

omit [DecidableEq κ] in
/-- A stage relies on the session itself and, while it has the lock, on what it
sees. -/
theorem Stage.Ready.of_frame
    {store changed : GuardedLog.Store κ PostgresAuditRow}
    {session : κ}
    {stage : Stage}
    (ready : stage.Ready store session)
    (same : changed.sessions session = store.sessions session)
    (sees : (store.sessions session).holdsLock = true →
      changed.visible session = store.visible session) :
    stage.Ready changed session := by
  cases stage with
  | idle | leaving | unwinding => trivial
  | locking rendered | reading rendered =>
      unfold Stage.Ready at ready ⊢
      rwa [same]
  | selecting rendered snapshot | inserting rendered head =>
      unfold Stage.Ready at ready ⊢
      rw [same, sees ready.1]
      exact ready

/-- One session goes on to a stage that has what it relies on. -/
theorem Sound.moveTo
    (sound : Sound sha256 world)
    {store : GuardedLog.Store κ PostgresAuditRow}
    {session : κ}
    {stage : Stage}
    (consistent : GuardedLog.Store.Consistent (Chained sha256) store)
    (ready : stage.Ready store session)
    (same : ∀ other, other ≠ session → store.sessions other = world.store.sessions other)
    (sees : ∀ other, other ≠ session → (world.store.sessions other).holdsLock = true →
      store.visible other = world.store.visible other) :
    Sound sha256 (world.moveTo store session stage) where
  consistent := consistent
  ready := by
    intro other
    by_cases isSession : other = session
    · subst isSession
      simpa [World.moveTo] using ready
    · simpa [World.moveTo, isSession] using
        (sound.ready other).of_frame (same other isSession) (sees other isSession)

theorem Sound.cross
    (sound : Sound sha256 world)
    (session : κ)
    (change : ScopeChange)
    {stage : Stage}
    (ready : stage.Ready (world.store.cross session change) session) :
    Sound sha256 (world.moveTo (world.store.cross session change) session stage) := by
  apply sound.moveTo _ ready
  · intro other different
    exact GuardedLog.Store.sessions_cross_of_ne different _ _
  · intro other different holds
    exact sound.consistent.visible_cross_of_holds holds different change
  · exact sound.consistent.cross (fun chained first => chained.of_prefix first) session change

theorem Sound.perform
    (sound : Sound sha256 world)
    {session : κ}
    {success : World κ}
    (succeeds : Sound sha256 success)
    (ending : Ending) :
    Sound sha256 (perform world session ending success) := by
  cases ending with
  | succeeds => exact succeeds
  | fails => exact sound.cross session .fail trivial
  | lost takesEffect => exact sound.cross session .lose trivial

theorem Sound.startWrite
    (sound : Sound sha256 world)
    (session : κ)
    (recorded : RecordedEvent)
    (ending : Ending) :
    Sound sha256 (startWrite world session recorded ending) := by
  unfold PostgresAudit.startWrite
  dsimp only
  split
  · next entered =>
      obtain ⟨rfl, working⟩ := entered
      split
      · exact sound.cross session _ trivial
      · apply sound.cross session
        simp [Stage.Ready, Session.cross, working, Session.enter]
  · exact sound.cross session _ trivial

theorem Sound.advance
    (sound : Sound sha256 world)
    (session : κ)
    (ending : Ending) :
    Sound sha256 (advance sha256 world session ending) := by
  have ready := sound.ready session
  unfold PostgresAudit.advance
  cases stage : world.stages session with
  | idle => exact sound
  | locking rendered =>
      rw [stage] at ready
      apply sound.perform
      cases locks : world.store.lock? session with
      | none => exact sound
      | some store =>
          have consistent := sound.consistent.lock locks
          unfold GuardedLog.Store.lock? at locks
          split at locks
          · obtain rfl := Option.some.inj locks
            apply sound.moveTo consistent
            · obtain ⟨scope, outer, scopes⟩ := List.exists_cons_of_ne_nil ready
              simp [Stage.Ready, Session.lock, scopes, Session.holdsLock]
            · intro other different
              exact GuardedLog.Store.sessions_update_of_ne different _ _
            · intro other different _
              rw [GuardedLog.Store.visible, GuardedLog.Store.sessions_update_of_ne different]
              rfl
          · simp at locks
  | reading rendered =>
      rw [stage] at ready
      exact sound.moveTo sound.consistent ⟨ready, rfl⟩ (fun _ _ => rfl) (fun _ _ _ => rfl)
  | selecting rendered snapshot =>
      rw [stage] at ready
      obtain ⟨holds, rfl⟩ := ready
      apply sound.perform
      exact sound.moveTo sound.consistent ⟨holds, rfl⟩ (fun _ _ => rfl) (fun _ _ _ => rfl)
  | inserting rendered head =>
      rw [stage] at ready
      obtain ⟨holds, rfl⟩ := ready
      dsimp only
      split
      · exact sound.perform sound .fails
      · apply sound.perform
        have chained := (sound.consistent.visible session).append_nextRow rendered.recorded
          rendered.rendered
        apply sound.moveTo (sound.consistent.append holds chained)
        · trivial
        · intro other different
          exact GuardedLog.Store.sessions_update_of_ne different _ _
        · intro other different _
          rw [GuardedLog.Store.visible, GuardedLog.Store.append,
            GuardedLog.Store.sessions_update_of_ne different]
          rfl
  | leaving => exact sound.cross session _ trivial
  | unwinding => exact sound.cross session _ trivial

theorem Sound.step
    (sound : Sound sha256 world)
    (operation : Operation κ) :
    Sound sha256 (step sha256 world operation) := by
  cases operation with
  | cross session change =>
      dsimp only [PostgresAudit.step]
      split
      · exact sound.cross session change trivial
      · exact sound
  | write session recorded ending =>
      dsimp only [PostgresAudit.step]
      split
      · exact sound.startWrite session recorded ending
      · exact sound
  | advance session ending => exact sound.advance session ending

theorem Sound.run
    (sound : Sound sha256 world)
    (operations : List (Operation κ)) :
    Sound sha256 (run sha256 world operations) := by
  induction operations generalizing world with
  | nil => exact sound
  | cons operation rest inductionHypothesis => exact inductionHypothesis (sound.step operation)

/-! ## The committed table only grows -/

theorem committed_perform
    {session : κ}
    {success : World κ}
    (succeeds : world.store.committed <+: success.store.committed)
    (ending : Ending) :
    world.store.committed <+: (perform world session ending success).store.committed := by
  cases ending with
  | succeeds => exact succeeds
  | fails => exact List.prefix_append _ _
  | lost takesEffect => exact List.prefix_append _ _

theorem committed_step (operation : Operation κ) :
    world.store.committed <+: (step sha256 world operation).store.committed := by
  cases operation with
  | cross session change =>
      dsimp only [step]
      split
      · exact List.prefix_append _ _
      · exact List.prefix_rfl
  | write session recorded ending =>
      dsimp only [step]
      split
      · unfold startWrite
        dsimp only
        split
        · split <;> exact List.prefix_append _ _
        · exact List.prefix_append _ _
      · exact List.prefix_rfl
  | advance session ending =>
      dsimp only [step]
      unfold advance
      split
      · exact List.prefix_rfl
      · apply committed_perform
        split
        · exact List.prefix_rfl
        · next store locks =>
            unfold GuardedLog.Store.lock? at locks
            split at locks
            · obtain rfl := Option.some.inj locks
              exact List.prefix_rfl
            · simp at locks
      · exact List.prefix_rfl
      · apply committed_perform
        exact List.prefix_rfl
      · dsimp only
        split
        · exact @committed_perform κ _ world session world List.prefix_rfl .fails
        · apply committed_perform
          exact List.prefix_rfl
      · exact List.prefix_append _ _
      · exact List.prefix_append _ _

theorem committed_run (operations : List (Operation κ)) :
    world.store.committed <+: (run sha256 world operations).store.committed := by
  induction operations generalizing world with
  | nil => exact List.prefix_rfl
  | cons operation rest inductionHypothesis =>
      exact (committed_step operation).trans inductionHypothesis

/-! ## The chain stays contiguous -/

/-- A table that passes the verification and whose positions, in order, are one,
two and so on. -/
def Contiguous (sha256 : Bytes → Bytes) (table : PostgresAuditTable) : Prop :=
  (∃ result, verifyChain sha256 table = some result ∧ result.ok = true) ∧
    (orderedBySeq table).map (·.seq) =
      (List.range table.length).map fun index : Nat => (index : Int) + 1

theorem Chained.contiguous
    {table : PostgresAuditTable}
    (chained : Chained sha256 table) :
    Contiguous sha256 table := by
  refine ⟨⟨_, chained.verifyChain_eq, rfl⟩, ?_⟩
  rw [chained.ordered]
  exact chained.map_seq

/-- After every run from the empty table, the committed table and what any
session sees of it pass the verification with positions one to their length,
and whatever runs later only adds rows above those committed. -/
theorem chain_contiguous_across_sessions
    (sha256 : Bytes → Bytes)
    (operations later : List (Operation κ)) :
    let world := run sha256 World.empty operations
    Contiguous sha256 world.store.committed ∧
      (∀ session, Contiguous sha256 (world.store.visible session)) ∧
      ∃ added, (run sha256 world later).store.committed = world.store.committed ++ added ∧
        ∀ row ∈ added, ∀ earlier ∈ world.store.committed, earlier.seq < row.seq := by
  intro world
  have sound : Sound sha256 world := Sound.empty.run operations
  obtain ⟨added, grown⟩ := @committed_run κ _ sha256 world later
  refine ⟨sound.consistent.committed.contiguous,
    fun session => (sound.consistent.visible session).contiguous, added, grown.symm, ?_⟩
  intro row isAdded earlier isEarlier
  have chained := (sound.run later).consistent.committed
  rw [← grown] at chained
  obtain ⟨index, bound, rfl⟩ := List.getElem_of_mem isAdded
  obtain ⟨earlierIndex, earlierBound, rfl⟩ := List.getElem_of_mem isEarlier
  have earlierSeq := sound.consistent.committed.seq_of_getElem?
    (List.getElem?_eq_getElem earlierBound)
  have addedSeq := chained.seq_of_getElem?
    (@List.getElem?_append_right _ world.store.committed added
      (world.store.committed.length + index) (Nat.le_add_right _ _) |>.trans
        (by rw [Nat.add_sub_cancel_left, List.getElem?_eq_getElem bound]))
  rw [earlierSeq, addedSeq]
  omega

end Calls

end PostgresAudit
end Vinctor
