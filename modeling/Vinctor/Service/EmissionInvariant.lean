import Vinctor.Service.PostgresConnection

/-!
# What the threads of a connection keep

The invariant of the connection that its threads share: which rows each open
scope may still roll back, and that every row carries its emissions either in
the scope that would roll it back or in the hands of the thread that writes it.
-/

namespace Vinctor
namespace PostgresConnection

open Foundation.GuardedLog

/-! ## Emissions in the open scopes -/

/-- Emissions that the current write of a thread has not handed over. -/
def Activity.due : Activity → List Emission
  | .running => []
  | .writing call _ => emissionsOf call.row call.row.sinks
  | .emitting call _ sinks => emissionsOf call.row sinks
  | .emittingInline call _ sink sinks => (call.row, sink) :: emissionsOf call.row sinks

/-- Each scope holds exactly the emissions of the rows that it alone would roll
back; those that are due may be missing from the innermost one.  Nothing is said
about the innermost scope of a transaction that failed. -/
def Settled (due : List Emission) (failed : Bool) :
    List (List Emission) → List (Scope Row) → List Row → Prop
  | scope :: scopes, level :: levels, rows =>
      (failed = false →
        (∀ emission ∈ scope, emission.1 ∈ rows) ∧
          ∀ row ∈ rows, row ∉ level.saved → ∀ sink ∈ row.sinks,
            (row, sink) ∈ scope ∨ (row, sink) ∈ due) ∧
        Settled [] false scopes levels level.saved
  | _, _, _ => True

namespace Settled

variable
    {due : List Emission}
    {failed : Bool}
    {scope parent : List Emission}
    {scopes : List (List Emission)}
    {level above : Scope Row}
    {levels : List (Scope Row)}
    {rows : List Row}

/-- Only the innermost scope depends on what is due. -/
theorem mono
    (settled : Settled [] false scopes levels rows) :
    Settled due failed scopes levels rows := by
  cases scopes with
  | nil => trivial
  | cons scope scopes =>
      cases levels with
      | nil => trivial
      | cons level levels =>
          refine ⟨fun _ => ⟨(settled.1 rfl).1, ?_⟩, settled.2⟩
          intro row present unsaved sink wanted
          exact ((settled.1 rfl).2 row present unsaved sink wanted).imp_right
            fun none => (List.not_mem_nil none).elim

theorem enter
    (settled : Settled [] false scopes levels rows) :
    Settled due false ([] :: scopes) ({ saved := rows, locked := false } :: levels) rows := by
  refine ⟨fun _ => ⟨?_, ?_⟩, settled⟩
  · intro emission none
    exact (List.not_mem_nil none).elim
  · intro row present unsaved
    exact (unsaved present).elim

/-- A statement failed in the innermost scope. -/
theorem fail
    (settled : Settled due failed (scope :: scopes) (level :: levels) rows)
    (locked : Bool)
    (left : List Row) :
    Settled due true (scope :: scopes) ({ level with locked } :: levels) left :=
  ⟨fun working => by simp at working, settled.2⟩

/-- A savepoint was released. -/
theorem merge
    (settled : Settled due false (scope :: parent :: scopes) (level :: above :: levels) rows)
    (within : level.saved <+: rows)
    (locked : Bool) :
    Settled due false ((parent ++ scope) :: scopes) ({ above with locked } :: levels) rows := by
  obtain ⟨inner, outer⟩ := settled
  obtain ⟨held, covered⟩ := inner rfl
  obtain ⟨outerHeld, outerCovered⟩ := outer.1 rfl
  refine ⟨fun _ => ⟨?_, ?_⟩, outer.2⟩
  · intro emission present
    rcases List.mem_append.mp present with inParent | inScope
    · exact within.subset (outerHeld emission inParent)
    · exact held emission inScope
  · intro row present unsaved sink wanted
    by_cases saved : row ∈ level.saved
    · rcases outerCovered row saved unsaved sink wanted with inParent | none
      · exact .inl (List.mem_append_left _ inParent)
      · exact (List.not_mem_nil none).elim
    · exact (covered row present saved sink wanted).imp_left (List.mem_append_right _)

/-- The statement that ends a savepoint failed after another had failed. -/
theorem abandon
    (settled : Settled due failed (scope :: parent :: scopes) (level :: above :: levels) rows)
    (locked : Bool)
    (left : List Row) :
    Settled [] true (parent :: scopes) ({ above with locked } :: levels) left :=
  ⟨fun working => by simp at working, settled.2.2⟩

theorem more_due
    (settled : Settled due failed scopes levels rows)
    {more : List Emission}
    (subset : due ⊆ more) :
    Settled more failed scopes levels rows := by
  cases scopes with
  | nil => trivial
  | cons scope scopes =>
      cases levels with
      | nil => trivial
      | cons level levels =>
          refine ⟨fun working => ⟨(settled.1 working).1, ?_⟩, settled.2⟩
          intro row present unsaved sink wanted
          exact ((settled.1 working).2 row present unsaved sink wanted).imp_right
            fun isDue => subset isDue

/-- A row is written whose emissions are due. -/
theorem append
    (settled : Settled due false scopes levels rows)
    {row : Row}
    (open_ : ∀ sink ∈ row.sinks, (row, sink) ∈ due) :
    Settled due false scopes levels (rows ++ [row]) := by
  cases scopes with
  | nil => trivial
  | cons scope scopes =>
      cases levels with
      | nil => trivial
      | cons level levels =>
          obtain ⟨inner, outer⟩ := settled
          obtain ⟨held, covered⟩ := inner rfl
          refine ⟨fun _ => ⟨?_, ?_⟩, outer⟩
          · exact fun emission present => List.mem_append_left _ (held emission present)
          · intro other present unsaved sink wanted
            rcases List.mem_append.mp present with earlier | last
            · exact covered other earlier unsaved sink wanted
            · obtain rfl := List.mem_singleton.mp last
              exact .inr (open_ sink wanted)

/-- An emission that was due waits in the innermost scope. -/
theorem defer
    {emission : Emission}
    (settled : Settled (emission :: due) false (scope :: scopes) levels rows)
    (present : emission.1 ∈ rows) :
    Settled due false ((scope ++ [emission]) :: scopes) levels rows := by
  cases levels with
  | nil => trivial
  | cons level levels =>
      obtain ⟨inner, outer⟩ := settled
      obtain ⟨held, covered⟩ := inner rfl
      refine ⟨fun _ => ⟨?_, ?_⟩, outer⟩
      · intro other waiting
        rcases List.mem_append.mp waiting with earlier | last
        · exact held other earlier
        · obtain rfl := List.mem_singleton.mp last
          exact present
      · intro row written unsaved sink wanted
        rcases covered row written unsaved sink wanted with inScope | isDue
        · exact .inl (List.mem_append_left _ inScope)
        · rcases List.mem_cons.mp isDue with same | later
          · exact .inl (List.mem_append_right _ (List.mem_singleton.mpr same))
          · exact .inr later

end Settled

/-! ## The connection -/

/-- What holds of the driver's connection while scopes are open on it: there is
a savepoint or the transaction for each of them, below them at most a
transaction that no scope tracks, and the outermost scope is a boundary when
there is none. -/
structure LinkSound
    (frames : List Frame)
    (scopes : List (List Emission))
    (due : List Emission)
    (link : Link) : Prop where
  broken : link.broken = true → link.session = .idle
  guarded : link.session.IsGuarded
  deep : link.broken = false → scopes.length ≤ link.session.scopes.length
  shallow : link.session.scopes.length ≤ scopes.length + 1
  outermost : link.broken = false → ∀ frame ∈ frames.getLast?,
    (frame.boundary = true ↔ link.session.scopes.length = scopes.length)
  settled : link.broken = false →
    Settled due link.session.failed scopes link.session.scopes link.session.pending

theorem length_scopes_fail (session : Session Row) :
    session.fail.scopes.length = session.scopes.length := by
  unfold Session.fail
  split
  · next scopes => rw [scopes]
  · next scope outer scopes => split <;> simp [scopes]

namespace LinkSound

variable
    {frames : List Frame}
    {scopes : List (List Emission)}
    {due : List Emission}
    {link : Link}

theorem lost : LinkSound frames scopes due .lost where
  broken := fun _ => rfl
  guarded := Session.isGuarded_idle
  deep := by simp [Link.lost]
  shallow := by simp [Link.lost, Session.idle]
  outermost := by simp [Link.lost]
  settled := by simp [Link.lost]

theorem fresh : LinkSound [] [] due .fresh where
  broken := by simp [Link.fresh]
  guarded := Session.isGuarded_idle
  deep := by simp
  shallow := by simp [Link.fresh, Session.idle]
  outermost := by simp
  settled := fun _ => trivial

theorem fail
    (sound : LinkSound frames scopes due link) :
    LinkSound frames scopes due { link with session := link.session.fail } := by
  have sameLength := length_scopes_fail link.session
  refine
    { broken := ?_
      guarded := sound.guarded.fail
      deep := fun working => by
        dsimp only
        rw [sameLength]
        exact sound.deep working
      shallow := by
        dsimp only
        rw [sameLength]
        exact sound.shallow
      outermost := fun working => by
        dsimp only
        rw [sameLength]
        exact sound.outermost working
      settled := ?_ }
  · intro broken
    dsimp only
    rw [sound.broken broken]
    rfl
  · intro working
    have settled := sound.settled working
    dsimp only
    unfold Session.fail
    split
    · exact settled
    · next scope outer isOpen =>
        split
        · exact settled
        · rw [isOpen] at settled
          cases scopes with
          | nil => trivial
          | cons first rest => exact settled.fail false scope.saved

/-- A statement leaves the connection sound when its success does. -/
theorem statement
    (sound : LinkSound frames scopes due link)
    {success : Session Row}
    (succeeds : link.refuses = false →
      LinkSound frames scopes due { link with session := success })
    (ending : Ending) :
    LinkSound frames scopes due (link.statement ending success) := by
  cases ending with
  | succeeds =>
      dsimp only [Link.statement]
      split
      · exact sound
      · next accepts => exact succeeds (by simpa using accepts)
  | fails =>
      dsimp only [Link.statement]
      split
      · exact sound
      · exact sound.fail
  | lost takesEffect => exact .lost

end LinkSound

/-! ## The threads -/

/-- The row that a thread writes. -/
def Activity.row? : Activity → Option Row
  | .running => none
  | .writing call _ | .emitting call _ _ | .emittingInline call _ _ _ => some call.row

theorem Activity.row?_of_mem_due
    {activity : Activity}
    {emission : Emission}
    (due : emission ∈ activity.due) :
    activity.row? = some emission.1 := by
  cases activity with
  | running => exact (List.not_mem_nil due).elim
  | writing call written | emitting call boundary sinks =>
      obtain ⟨sink, -, rfl⟩ := List.mem_map.mp due
      rfl
  | emittingInline call boundary sink sinks =>
      rcases List.mem_cons.mp due with rfl | later
      · rfl
      · obtain ⟨sink, -, rfl⟩ := List.mem_map.mp later
        rfl

section Invariant

variable {τ : Type u}

namespace World

def openFrames (world : World τ) : List Frame :=
  match world.owner with
  | none => []
  | some thread => world.frames thread

/-- Emissions due in the hands of the thread that has open scopes. -/
def openDue (world : World τ) : List Emission :=
  match world.owner with
  | none => []
  | some thread => (world.activity thread).due

/-- Rows of the open transaction. -/
def pending (world : World τ) : List Row :=
  match world.connection with
  | none => []
  | some link => link.session.pending

/-- Emissions that wait for open scopes. -/
def waiting (world : World τ) : List Emission := world.deferralScopes.flatten

/-- The connection is there and takes statements. -/
def Working (world : World τ) : Prop :=
  ∃ link, world.connection = some link ∧ link.refuses = false

/-- A row is not in the open transaction, or no scope tracks that transaction. -/
def Untracked (world : World τ) (row : Row) : Prop :=
  ∀ link, world.connection = some link → row ∈ link.session.pending →
    world.deferralScopes.length < link.session.scopes.length

/-- The innermost scope would roll a row back. -/
def Unsaved (world : World τ) (row : Row) : Prop :=
  ∀ link level levels, world.connection = some link →
    link.session.scopes = level :: levels → row ∉ level.saved

/-- No transaction committed a row, and none can any more unless it is pending. -/
def Uncommitted (world : World τ) (row : Row) : Prop :=
  row ∉ world.record.committed ∧ row ∉ world.record.ambiguous

def Unraised (world : World τ) (row : Row) : Prop :=
  ∀ failure, (row, failure) ∉ world.record.raised

end World

/-- What holds of the write of a thread. -/
def PhaseSound (world : World τ) (thread : τ) : Activity → Prop
  | .running => True
  | .writing call written =>
      world.frames thread ≠ [] ∧ world.Unraised call.row ∧ world.Uncommitted call.row ∧
        (written = false → call.row ∉ world.pending) ∧
        (written = true → world.Working ∧ call.row ∈ world.pending ∧ world.Unsaved call.row)
  | .emitting call boundary _ =>
      world.Unraised call.row ∧
        (boundary = true → call.row ∈ world.record.committed ∧ world.frames thread = []) ∧
        (boundary = false → world.Uncommitted call.row ∧
          (world.frames thread = [] → world.Untracked call.row) ∧
          (world.frames thread ≠ [] → world.Working ∧ call.row ∈ world.pending))
  | .emittingInline call boundary _ _ =>
      world.Unraised call.row ∧ boundary = true ∧ call.row ∈ world.record.committed ∧
        world.frames thread = []

/-- Rows that occur anywhere. -/
def World.Knows (world : World τ) (row : Row) : Prop :=
  row ∈ world.pending ∨ row ∈ world.record.committed ∨ row ∈ world.record.ambiguous ∨
    (∃ failure, (row, failure) ∈ world.record.raised) ∨
    (∃ sink, (row, sink) ∈ world.record.emitted ++ world.waiting) ∨
    ∃ thread, (world.activity thread).row? = some row

/-- What the record says. -/
structure Accounted (world : World τ) : Prop where
  bounded : ∀ row, world.Knows row → row.number < world.record.calls
  distinct : ∀ thread other, thread ≠ other → ∀ row,
    (world.activity thread).row? = some row → (world.activity other).row? ≠ some row
  once : (world.record.emitted ++ world.waiting).Nodup
  dueOnce : ∀ thread, (world.activity thread).due.Nodup
  dueNew : ∀ thread, ∀ emission ∈ (world.activity thread).due,
    emission ∉ world.record.emitted ++ world.waiting
  afterCommit : ∀ emission ∈ world.record.emitted, emission.1 ∈ world.record.committed
  complete : ∀ row ∈ world.record.committed, ∀ sink ∈ row.sinks,
    (row, sink) ∈ world.record.emitted ∨
      ∃ thread, (row, sink) ∈ (world.activity thread).due
  lost : ∀ row failure, (row, failure) ∈ world.record.raised →
    row ∉ world.pending ∧ row ∉ world.record.committed ∧
      (row ∈ world.record.ambiguous → failure = .ambiguousCommit)
  uncommitted : ∀ row ∈ world.pending, world.Uncommitted row

/-- The invariant of the shared connection. -/
structure Sound (world : World τ) : Prop where
  owned : ∀ thread, world.owner = some thread ↔ world.frames thread ≠ []
  depth : world.deferralScopes.length = world.openFrames.length
  connected : world.connection = none → world.openFrames = []
  nested : ∀ frame ∈ world.openFrames.dropLast, frame.boundary = false
  linked : ∀ link, world.connection = some link →
    LinkSound world.openFrames world.deferralScopes world.openDue link
  phases : ∀ thread, PhaseSound world thread (world.activity thread)
  accounted : Accounted world

theorem Sound.initial : Sound (World.initial : World τ) where
  owned := by simp [World.initial, World.frames]
  depth := rfl
  connected := fun _ => rfl
  nested := by simp [World.initial, World.openFrames]
  linked := by
    intro link isLink
    obtain rfl := Option.some.inj isLink
    exact .fresh
  phases := fun _ => trivial
  accounted :=
    { bounded := by
        rintro row (pending | known | known | ⟨_, known⟩ | ⟨_, known⟩ | ⟨_, known⟩)
        · cases pending
        · cases known
        · cases known
        · cases known
        · cases known
        · cases known
      distinct := by
        intro thread other _ row known
        cases known
      once := List.nodup_nil
      dueOnce := fun _ => List.nodup_nil
      dueNew := fun _ _ due => (List.not_mem_nil due).elim
      afterCommit := fun _ ran => (List.not_mem_nil ran).elim
      complete := fun _ committed => (List.not_mem_nil committed).elim
      lost := fun _ _ raised => (List.not_mem_nil raised).elim
      uncommitted := fun _ pending => (List.not_mem_nil pending).elim }

end Invariant

/-! ## A step of one thread -/

section Steps

variable {τ : Type u} [DecidableEq τ]

/-- A thread that has the lock leaves the world so. -/
def World.put
    (world : World τ)
    (thread : τ)
    (state : Thread)
    (connection : Option Link)
    (scopes : List (List Emission))
    (record : Record) : World τ :=
  { world with
    connection
    deferralScopes := scopes
    owner := if state.frames.isEmpty then none else some thread
    threads := Function.update world.threads thread state
    record }

namespace World

variable
    {world : World τ}
    {thread : τ}
    {state : Thread}
    {connection : Option Link}
    {scopes : List (List Emission)}
    {record : Record}

@[simp] theorem frames_put_self :
    (world.put thread state connection scopes record).frames thread = state.frames := by
  simp [put, frames]

@[simp] theorem activity_put_self :
    (world.put thread state connection scopes record).activity thread = state.activity := by
  simp [put, activity]

theorem frames_put_of_ne {other : τ} (different : other ≠ thread) :
    (world.put thread state connection scopes record).frames other = world.frames other := by
  simp [put, frames, different]

theorem activity_put_of_ne {other : τ} (different : other ≠ thread) :
    (world.put thread state connection scopes record).activity other =
      world.activity other := by
  simp [put, activity, different]

@[simp] theorem openFrames_put :
    (world.put thread state connection scopes record).openFrames = state.frames := by
  cases isOpen : state.frames with
  | nil => simp [openFrames, put, isOpen]
  | cons frame frames => simp [openFrames, put, isOpen, World.frames]

theorem openDue_put_subset :
    (world.put thread state connection scopes record).openDue ⊆ state.activity.due := by
  cases isOpen : state.frames with
  | nil => simp [openDue, put, isOpen]
  | cons frame frames => simp [openDue, put, isOpen, World.activity]

end World

theorem Sound.openFrames_eq
    {world : World τ}
    (sound : Sound world)
    {thread : τ}
    (free : world.lockFree thread = true) :
    world.openFrames = world.frames thread := by
  have owner : world.owner = none ∨ world.owner = some thread := by
    simpa [World.lockFree] using free
  rcases owner with none | own
  · have closed : world.frames thread = [] := by
      by_contra isOpen
      rw [(sound.owned thread).mpr isOpen] at none
      cases none
    rw [World.openFrames, none, closed]
  · rw [World.openFrames, own]

theorem Sound.frames_eq_nil
    {world : World τ}
    (sound : Sound world)
    {thread other : τ}
    (free : world.lockFree thread = true)
    (different : other ≠ thread) :
    world.frames other = [] := by
  have owner : world.owner = none ∨ world.owner = some thread := by
    simpa [World.lockFree] using free
  by_contra isOpen
  have own := (sound.owned other).mpr isOpen
  rcases owner with none | taken
  · rw [none] at own
    cases own
  · rw [taken] at own
    exact different (Option.some.inj own).symm

/-- What the writes of the other threads rely on is left as it was. -/
structure Spares (thread : τ) (before after : World τ) : Prop where
  committed : before.record.committed ⊆ after.record.committed
  raised : ∀ other, other ≠ thread → ∀ row, (before.activity other).row? = some row →
    before.Unraised row → after.Unraised row
  uncommitted : ∀ other, other ≠ thread → ∀ row, (before.activity other).row? = some row →
    before.Untracked row → before.Uncommitted row → after.Untracked row ∧ after.Uncommitted row

omit [DecidableEq τ] in
/-- The write of a thread without open scopes, after a step of another one. -/
theorem PhaseSound.of_spares
    {before after : World τ}
    {thread other : τ}
    (different : other ≠ thread)
    (spares : Spares thread before after)
    (closed : before.frames other = [])
    (same : after.frames other = before.frames other)
    (phase : PhaseSound before other (before.activity other)) :
    PhaseSound after other (before.activity other) := by
  have raised := spares.raised other different
  have uncommitted := spares.uncommitted other different
  cases activity : before.activity other with
  | running => trivial
  | writing call written =>
      rw [activity] at phase
      exact (phase.1 closed).elim
  | emitting call boundary sinks =>
      rw [activity] at phase raised uncommitted
      obtain ⟨unraised, atBoundary, inside⟩ := phase
      refine ⟨raised call.row rfl unraised, ?_, ?_⟩
      · intro isBoundary
        exact ⟨spares.committed (atBoundary isBoundary).1, same.trans closed⟩
      · intro notBoundary
        obtain ⟨never, untracked, -⟩ := inside notBoundary
        obtain ⟨stillUntracked, stillNever⟩ :=
          uncommitted call.row rfl (untracked closed) never
        exact ⟨stillNever, fun _ => stillUntracked,
          fun isOpen => (isOpen (same.trans closed)).elim⟩
  | emittingInline call boundary sink sinks =>
      rw [activity] at phase raised
      obtain ⟨unraised, isBoundary, committed, -⟩ := phase
      exact ⟨raised call.row rfl unraised, isBoundary, spares.committed committed,
        same.trans closed⟩

theorem Sound.put
    {world : World τ}
    (sound : Sound world)
    {thread : τ}
    (free : world.lockFree thread = true)
    {state : Thread}
    {connection : Option Link}
    {scopes : List (List Emission)}
    {record : Record}
    (depth : scopes.length = state.frames.length)
    (connected : connection = none → state.frames = [])
    (nested : ∀ frame ∈ state.frames.dropLast, frame.boundary = false)
    (linked : ∀ link, connection = some link → LinkSound state.frames scopes
      (world.put thread state connection scopes record).openDue link)
    (phase : PhaseSound (world.put thread state connection scopes record) thread state.activity)
    (spares : Spares thread world (world.put thread state connection scopes record))
    (accounted : Accounted (world.put thread state connection scopes record)) :
    Sound (world.put thread state connection scopes record) where
  owned := by
    intro other
    by_cases same : other = thread
    · subst same
      rw [World.frames_put_self]
      cases isOpen : state.frames with
      | nil => simp [World.put, isOpen]
      | cons frame frames => simp [World.put, isOpen]
    · rw [World.frames_put_of_ne same, sound.frames_eq_nil free same]
      cases isOpen : state.frames with
      | nil => simp [World.put, isOpen]
      | cons frame frames => simp [World.put, isOpen, Ne.symm same]
  depth := by
    rw [World.openFrames_put]
    exact depth
  connected := by
    rw [World.openFrames_put]
    exact connected
  nested := by
    rw [World.openFrames_put]
    exact nested
  linked := by
    rw [World.openFrames_put]
    exact linked
  phases := by
    intro other
    by_cases same : other = thread
    · subst same
      rw [World.activity_put_self]
      exact phase
    · rw [World.activity_put_of_ne same]
      exact (sound.phases other).of_spares same spares (sound.frames_eq_nil free same)
        (World.frames_put_of_ne same)
  accounted := accounted

end Steps

end PostgresConnection
end Vinctor
