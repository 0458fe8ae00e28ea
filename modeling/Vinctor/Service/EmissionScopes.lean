import Vinctor.Service.EmissionSteps

/-!
# Rows are written and scopes are left

A scope that is left takes with it the rows that it alone would roll back, or
hands them, with their emissions, to the enclosing scope.
-/

namespace Vinctor
namespace PostgresConnection

open Foundation.GuardedLog

variable {τ : Type u} [DecidableEq τ] {world : World τ} {thread : τ}

/-! ## A row is written -/

theorem pending_write (session : Session Row) (row : Row) :
    (session.lock.append row).pending = session.pending ++ [row] := by
  simp [Session.append]

theorem length_scopes_write (session : Session Row) (row : Row) :
    (session.lock.append row).scopes.length = session.scopes.length := by
  have saved := congrArg List.length session.saved_scopes_lock
  rwa [List.length_map, List.length_map] at saved

/-- A row that was not pending is rolled back by the innermost scope. -/
theorem unsaved_write
    {session : Session Row}
    (guarded : session.IsGuarded)
    {row : Row}
    (absent : row ∉ session.pending)
    {level : Scope Row}
    {levels : List (Scope Row)}
    (nested : (session.lock.append row).scopes = level :: levels) :
    row ∉ level.saved := by
  have saved := session.saved_scopes_lock
  rw [show session.lock.scopes = level :: levels from nested] at saved
  unfold Session.IsGuarded at guarded
  cases scopes : session.scopes with
  | nil => simp [scopes] at saved
  | cons outer rest =>
      rw [scopes, List.map_cons, List.map_cons, List.cons.injEq] at saved
      rw [scopes] at guarded
      rw [saved.1]
      exact fun present => absent (guarded.1.subset present)

theorem LinkSound.write
    {frames : List Frame}
    {scopes : List (List Emission)}
    {link : Link}
    {row : Row}
    (sound : LinkSound frames scopes (emissionsOf row row.sinks) link)
    (accepts : link.refuses = false)
    (isOpen : scopes ≠ []) :
    LinkSound frames scopes (emissionsOf row row.sinks)
      { link with session := link.session.lock.append row } := by
  simp only [Link.refuses, Bool.or_eq_false_iff] at accepts
  obtain ⟨unbroken, working⟩ := accepts
  have deep := sound.deep unbroken
  have settled := sound.settled unbroken
  rw [working] at settled
  obtain ⟨level, levels, nested⟩ : ∃ level levels, link.session.scopes = level :: levels := by
    apply List.exists_cons_of_ne_nil
    rintro isEmpty
    rw [isEmpty] at deep
    exact isOpen (List.eq_nil_of_length_eq_zero (Nat.le_zero.mp deep))
  have locked : link.session.lock =
      { link.session with scopes := { level with locked := true } :: levels } := by
    simp [Session.lock, nested]
  have sameLength := length_scopes_write link.session row
  refine
    { broken := fun broken => by simp [unbroken] at broken
      guarded := sound.guarded.lock.append (by simp [locked, Session.holdsLock]) row
      deep := fun _ => by
        dsimp only
        rw [sameLength]
        exact deep
      shallow := by
        dsimp only
        rw [sameLength]
        exact sound.shallow
      outermost := fun _ => by
        dsimp only
        rw [sameLength]
        exact sound.outermost unbroken
      settled := fun _ => ?_ }
  have relocked : Settled (emissionsOf row row.sinks) false scopes
      ({ level with locked := true } :: levels) link.session.pending := by
    rw [nested] at settled
    cases scopes with
    | nil => trivial
    | cons scope scopes => exact settled
  dsimp only [Session.append]
  rw [Session.failed_lock, Session.pending_lock, working, locked]
  exact relocked.append fun sink wanted => List.mem_map_of_mem wanted

omit [DecidableEq τ] in
/-- What is known of the write whose scope is the innermost one. -/
theorem Sound.writing
    (sound : Sound world)
    {call : Call}
    {written : Bool}
    (writing : world.activity thread = .writing call written) :
    PhaseSound world thread (.writing call written) := by
  have phase := sound.phases thread
  rwa [writing] at phase

theorem Sound.lockFree_of_frames
    (sound : Sound world)
    (isOpen : world.frames thread ≠ []) :
    world.lockFree thread = true := by
  simp [World.lockFree, (sound.owned thread).mpr isOpen]

omit [DecidableEq τ] in
theorem Sound.openDue_of_frames
    (sound : Sound world)
    (isOpen : world.frames thread ≠ []) :
    world.openDue = (world.activity thread).due := by
  rw [World.openDue, (sound.owned thread).mpr isOpen]

theorem Sound.writeEvent
    (sound : Sound world)
    {call : Call}
    (writing : world.activity thread = .writing call false)
    (ending : Ending) :
    Sound (writeEvent world thread call ending) := by
  obtain ⟨isOpen, unraised, never, absent, -⟩ := sound.writing writing
  have free := sound.lockFree_of_frames isOpen
  have shape := sound.openFrames_eq free
  have depth := sound.depth
  rw [shape] at depth
  unfold PostgresConnection.writeEvent
  cases isLink : world.connection with
  | none => exact sound
  | some link =>
      dsimp only
      rcases link.statement_cases ending (link.session.lock.append call.row) with
        ⟨succeeds, accepts, isWritten⟩ | ⟨fails, degrades⟩
      · rw [if_pos ⟨succeeds, accepts⟩, isWritten]
        set left : Link := { link with session := link.session.lock.append call.row } with isLeft
        have nonempty : world.deferralScopes ≠ [] := by
          intro isEmpty
          rw [isEmpty] at depth
          exact isOpen (List.eq_nil_of_length_eq_zero depth.symm)
        have linked := sound.linked link isLink
        rw [sound.openDue_of_frames isOpen, writing, shape] at linked
        have leftSound := linked.write accepts nonempty
        have isPut : (world.withConnection left).withActivity thread (.writing call true) =
            world.put thread { world.threads thread with activity := .writing call true }
              (some left) world.deferralScopes world.record := by
          have same := congrArg World.owner
            (sound.put_self free (some left) world.deferralScopes world.record)
          simp only [World.put] at same
          simp only [World.withActivity, World.withConnection, World.put, same]
        have samePending : left.session.pending = link.session.pending ++ [call.row] :=
          pending_write link.session call.row
        have sameLevels : left.session.scopes.length = link.session.scopes.length :=
          length_scopes_write link.session call.row
        have advances : Advances thread world (world.put thread
            { world.threads thread with activity := .writing call true } (some left)
            world.deferralScopes world.record) :=
          { others := fun other different => World.activity_put_of_ne different
            calls := rfl
            rows := by
              intro row isRow
              rw [World.activity_put_self] at isRow
              rw [writing]
              exact isRow
            moves := by
              rw [World.activity_put_self, writing]
              exact List.Subperm.refl _
            emitted := List.Subset.refl _
            committed := List.Subset.refl _
            dueKept := by
              intro emission due
              rw [writing] at due
              rw [World.activity_put_self]
              exact .inl due
            newlyEmitted := fun _ ran => .inl ran
            newlyCommitted := fun _ committed => .inl committed
            newlyAmbiguous := fun _ ambiguous => .inl ambiguous
            pending := by
              intro row present
              obtain ⟨other, isOther, inOther⟩ := World.mem_pending.mp present
              obtain rfl : left = other := Option.some.inj isOther
              rw [samePending] at inOther
              refine ⟨?_, id⟩
              rcases List.mem_append.mp inOther with earlier | last
              · exact .inl (World.mem_pending.mpr ⟨link, isLink, earlier⟩)
              · obtain rfl := List.mem_singleton.mp last
                refine .inr ⟨?_, unraised, never⟩
                rw [writing]
                rfl
            raised := fun _ _ raised => .inl raised }
        rw [isPut]
        apply sound.put free
        · exact depth
        · intro none
          cases none
        · have nested := sound.nested
          rwa [shape] at nested
        · intro other isOther
          obtain rfl : left = other := Option.some.inj isOther
          have due : (world.put thread
              { world.threads thread with activity := .writing call true } (some left)
              world.deferralScopes world.record).openDue =
                emissionsOf call.row call.row.sinks := by
            have framed : ¬ (world.threads thread).frames = [] := isOpen
            simp [World.openDue, World.put, framed, World.activity, Activity.due]
          rw [due]
          exact leftSound
        · refine ⟨?_, unraised, never, fun unwritten => by simp at unwritten, fun _ => ?_⟩
          · rw [World.frames_put_self]
            exact isOpen
          · refine ⟨⟨left, rfl, ?_⟩, ?_, ?_⟩
            · simpa [Link.refuses, isLeft, Session.append] using accepts
            · apply World.mem_pending.mpr
              refine ⟨left, rfl, ?_⟩
              rw [samePending]
              exact List.mem_append_right _ (List.mem_singleton.mpr rfl)
            · intro other level levels isOther nested
              obtain rfl : left = other := Option.some.inj isOther
              have notPending : call.row ∉ link.session.pending := fun present =>
                absent rfl (World.mem_pending.mpr ⟨link, isLink, present⟩)
              exact unsaved_write linked.guarded notPending nested
        · apply advances.spares sound.accounted
          constructor
          · intro before after isBefore isAfter _ untracked
            obtain rfl := Option.some.inj (isLink.symm.trans isBefore)
            obtain rfl : left = after := Option.some.inj isAfter
            rw [sameLevels]
            exact untracked
          · intro row unchanged committed
            exact (committed unchanged).elim
        · exact sound.accounted.next advances
      · rw [if_neg fails]
        exact sound.degrade free (.inr ⟨call, writing⟩) isLink degrades

/-! ## Scopes that are rolled back -/

/-- A session in which the innermost scope is gone. -/
structure Popped (session left : Session Row) : Prop where
  guarded : left.IsGuarded
  subset : left.pending ⊆ session.pending
  levels : left.scopes.length + 1 = session.scopes.length
  settled : ∀ due scope scopes, Settled due session.failed (scope :: scopes) session.scopes
    session.pending → Settled [] left.failed scopes left.scopes left.pending
  gone : ∀ row, row ∉ session.pending ∨ session.failed = false →
    (∀ level levels, session.scopes = level :: levels → row ∉ level.saved) →
    row ∉ left.pending

theorem Popped.idle
    {session : Session Row}
    {level : Scope Row}
    (nested : session.scopes = [level]) :
    Popped session .idle where
  guarded := Session.isGuarded_idle
  subset := List.nil_subset _
  levels := by simp [nested, Session.idle]
  settled := by
    intro due scope scopes _
    cases scopes <;> trivial
  gone := fun _ _ _ => List.not_mem_nil

theorem Popped.rollback
    {session : Session Row}
    (guarded : session.IsGuarded)
    {level above : Scope Row}
    {levels : List (Scope Row)}
    (nested : session.scopes = level :: above :: levels)
    (failed : Bool) :
    Popped session { scopes := above :: levels, pending := level.saved, failed } := by
  unfold Session.IsGuarded at guarded
  rw [nested] at guarded
  refine
    { guarded := guarded.2.2
      subset := guarded.1.subset
      levels := by simp [nested]
      settled := ?_
      gone := fun row _ unsaved => unsaved level (above :: levels) nested }
  intro due scope scopes settled
  rw [nested] at settled
  exact settled.2.mono

theorem Popped.abandon
    {session : Session Row}
    (guarded : session.IsGuarded)
    {level above : Scope Row}
    {levels : List (Scope Row)}
    (nested : session.scopes = level :: above :: levels) :
    Popped session (session.abandon level above levels) := by
  unfold Session.abandon
  split
  · next failed =>
      have merged := guarded
      unfold Session.IsGuarded at merged
      rw [nested] at merged
      refine
        { guarded := merged.merge
          subset := List.Subset.refl _
          levels := by simp [nested]
          settled := ?_
          gone := ?_ }
      · intro due scope scopes settled
        rw [nested] at settled
        dsimp only
        rw [failed]
        cases scopes with
        | nil => trivial
        | cons parent scopes => exact settled.abandon _ _
      · intro row absent _ present
        rcases absent with notPending | working
        · exact notPending present
        · rw [failed] at working
          cases working
  · exact .rollback guarded nested true

theorem Popped.unwind
    {session : Session Row}
    (guarded : session.IsGuarded)
    (isOpen : session.scopes ≠ [])
    {ending : Ending}
    (kept : ∀ takesEffect, ending ≠ .lost takesEffect) :
    Popped session (session.unwind ending) := by
  unfold Session.unwind
  split
  · next closed => exact (isOpen closed).elim
  · next level nested => exact .idle nested
  · next level above levels nested =>
      cases ending with
      | succeeds => exact .rollback guarded nested false
      | fails => exact .abandon guarded nested
      | lost takesEffect => exact (kept takesEffect rfl).elim

/-- The end of a scope that failed, or that found the transaction failed inside
a savepoint. -/
theorem Popped.leave
    {session : Session Row}
    (guarded : session.IsGuarded)
    (isOpen : session.scopes ≠ [])
    {ending : Ending}
    (fails : ending = .fails ∨
      ending = .succeeds ∧ session.failed = true ∧ session.scopes.length ≠ 1) :
    Popped session (session.leave ending).2 := by
  unfold Session.leave
  split
  · next closed => exact (isOpen closed).elim
  · next level nested =>
      rcases fails with rfl | ⟨-, -, deeper⟩
      · split <;> exact .idle nested
      · simp [nested] at deeper
  · next level above levels nested =>
      rcases fails with rfl | ⟨rfl, failed, -⟩
      · exact .abandon guarded nested
      · dsimp only
        rw [if_pos failed]
        exact .abandon guarded nested

/-- The connection after the innermost scope is gone. -/
theorem LinkSound.popped
    {frame : Frame}
    {frames : List Frame}
    {scope : List Emission}
    {scopes : List (List Emission)}
    {due : List Emission}
    {link : Link}
    (sound : LinkSound (frame :: frames) (scope :: scopes) due link)
    (unbroken : link.broken = false)
    {session : Session Row}
    (popped : Popped link.session session) :
    LinkSound frames scopes [] { link with session } := by
  have levels := popped.levels
  have deep := sound.deep unbroken
  have shallow := sound.shallow
  rw [List.length_cons] at deep shallow
  refine
    { broken := fun broken => by simp [unbroken] at broken
      guarded := popped.guarded
      deep := fun _ => by
        dsimp only
        omega
      shallow := by
        dsimp only
        omega
      outermost := ?_
      settled := fun _ => popped.settled due scope scopes (sound.settled unbroken) }
  intro _ outer last
  cases frames with
  | nil => cases last
  | cons next rest =>
      have outermost := sound.outermost unbroken outer (by rwa [List.getLast?_cons_cons])
      rw [outermost, List.length_cons]
      dsimp only
      omega

/-! ## A thread leaves a scope -/

/-- Innermost scope of a thread, with the connection it is open on. -/
structure Innermost
    (world : World τ)
    (thread : τ)
    (link : Link)
    (scope : List Emission)
    (scopes : List (List Emission))
    (frame : Frame)
    (frames : List Frame) : Prop where
  sound : Sound world
  isLink : world.connection = some link
  isScopes : world.deferralScopes = scope :: scopes
  isFrames : world.frames thread = frame :: frames
  quiet : world.activity thread = .running ∨
    ∃ call written, world.activity thread = .writing call written

section Innermost

variable
    {link : Link}
    {scope : List Emission}
    {scopes : List (List Emission)}
    {frame : Frame}
    {frames : List Frame}

namespace Innermost

omit [DecidableEq τ] in
theorem isOpen (innermost : Innermost world thread link scope scopes frame frames) :
    world.frames thread ≠ [] := by
  rw [innermost.isFrames]
  exact List.cons_ne_nil _ _

theorem free (innermost : Innermost world thread link scope scopes frame frames) :
    world.lockFree thread = true :=
  innermost.sound.lockFree_of_frames innermost.isOpen

theorem linked (innermost : Innermost world thread link scope scopes frame frames) :
    LinkSound (frame :: frames) (scope :: scopes) (world.activity thread).due link := by
  have linked := innermost.sound.linked link innermost.isLink
  rwa [innermost.sound.openFrames_eq innermost.free, innermost.isFrames, innermost.isScopes,
    innermost.sound.openDue_of_frames innermost.isOpen] at linked

theorem depth (innermost : Innermost world thread link scope scopes frame frames) :
    scopes.length = frames.length := by
  have depth := innermost.sound.depth
  rw [innermost.sound.openFrames_eq innermost.free, innermost.isFrames,
    innermost.isScopes] at depth
  simpa using depth

/-- A boundary is the outermost scope. -/
theorem boundary_cases
    (innermost : Innermost world thread link scope scopes frame frames) :
    frame.boundary = false ∨ frames = [] ∧ scopes = [] := by
  have nested := innermost.sound.nested
  rw [innermost.sound.openFrames_eq innermost.free, innermost.isFrames] at nested
  cases rest : frames with
  | nil =>
      have depth := innermost.depth
      rw [rest] at depth
      exact .inr ⟨rfl, List.eq_nil_of_length_eq_zero depth⟩
  | cons next deeper =>
      rw [rest, List.dropLast_cons_cons] at nested
      exact .inl (nested frame List.mem_cons_self)

theorem nested
    (innermost : Innermost world thread link scope scopes frame frames) :
    ∀ outer ∈ frames.dropLast, outer.boundary = false := by
  intro outer present
  have nested := innermost.sound.nested
  rw [innermost.sound.openFrames_eq innermost.free, innermost.isFrames] at nested
  cases rest : frames with
  | nil => simp [rest] at present
  | cons next deeper =>
      rw [rest] at nested present
      rw [List.dropLast_cons_cons] at nested
      exact nested outer (List.mem_cons_of_mem _ present)

omit [DecidableEq τ] in
/-- What the write of the scope has due is not committed. -/
theorem due_uncommitted
    (innermost : Innermost world thread link scope scopes frame frames) :
    ∀ emission ∈ (world.activity thread).due, emission.1 ∉ world.record.committed := by
  intro emission due
  rcases innermost.quiet with running | ⟨call, written, writing⟩
  · rw [running] at due
    cases due
  · have phase := innermost.sound.writing writing
    rw [writing] at due
    obtain ⟨sink, -, rfl⟩ := List.mem_map.mp due
    exact phase.2.2.1.1

end Innermost

/-- What leaving a scope without a commit may do to the rest: the connection
loses the scope or is lost itself, and the record may say that the commit was
ambiguous or that the write of the scope raised an exception. -/
structure Discards
    (world : World τ)
    (thread : τ)
    (link : Link)
    (scopes : List (List Emission))
    (frames : List Frame)
    (connection : Option Link)
    (record : Record) : Prop where
  connected : connection = none → frames = []
  linked : ∀ left, connection = some left → LinkSound frames scopes [] left
  subset : ∀ left, connection = some left → left.session.pending ⊆ link.session.pending
  levels : ∀ left, connection = some left → left.session.pending ≠ [] →
    link.session.scopes.length ≤ left.session.scopes.length + 1
  calls : record.calls = world.record.calls
  committed : record.committed = world.record.committed
  emitted : record.emitted = world.record.emitted
  ambiguous : ∀ row ∈ record.ambiguous, row ∈ world.record.ambiguous ∨
    row ∈ link.session.pending ∧ link.session.scopes.length ≤ scopes.length + 1 ∧
      ∀ left, connection = some left → left.session.pending = []
  raised : ∀ row failure, (row, failure) ∈ record.raised →
    (row, failure) ∈ world.record.raised ∨
      (world.activity thread).row? = some row ∧
        (∀ left, connection = some left → row ∉ left.session.pending) ∧
        row ∉ world.record.committed ∧ (row ∈ record.ambiguous → failure = .ambiguousCommit)

theorem Discards.advances
    {connection : Option Link}
    {record : Record}
    (innermost : Innermost world thread link scope scopes frame frames)
    (discards : Discards world thread link scopes frames connection record) :
    Advances thread world
      (world.put thread { frames, activity := .running } connection scopes record) where
  others := fun other different => World.activity_put_of_ne different
  calls := discards.calls
  rows := by
    intro row isRow
    rw [World.activity_put_self] at isRow
    cases isRow
  moves := by
    rw [World.activity_put_self]
    simp only [World.put, World.waiting, Activity.due, List.append_nil, discards.emitted,
      innermost.isScopes, List.flatten_cons]
    apply List.Sublist.subperm
    rw [List.append_assoc]
    apply (List.Sublist.refl _).append
    exact (List.sublist_append_right _ _).trans (List.sublist_append_left _ _)
  emitted := by
    change world.record.emitted ⊆ record.emitted
    rw [discards.emitted]
    exact List.Subset.refl _
  committed := by
    change world.record.committed ⊆ record.committed
    rw [discards.committed]
    exact List.Subset.refl _
  dueKept := fun emission due => .inr (.inr (innermost.due_uncommitted emission due))
  newlyEmitted := by
    intro emission ran
    rw [show World.record _ = record from rfl, discards.emitted] at ran
    exact .inl ran
  newlyCommitted := by
    intro row committed
    rw [show World.record _ = record from rfl, discards.committed] at committed
    exact .inl committed
  newlyAmbiguous := by
    intro row ambiguous
    rcases discards.ambiguous row ambiguous with earlier | ⟨pending, -⟩
    · exact .inl earlier
    · exact .inr (World.mem_pending.mpr ⟨link, innermost.isLink, pending⟩)
  pending := by
    intro row present
    obtain ⟨left, isLeft, inLeft⟩ := World.mem_pending.mp present
    refine ⟨.inl (World.mem_pending.mpr ⟨link, innermost.isLink,
      discards.subset left isLeft inLeft⟩), fun never => ⟨?_, ?_⟩⟩
    · rw [show World.record _ = record from rfl, discards.committed]
      exact never.1
    · intro ambiguous
      rcases discards.ambiguous row ambiguous with earlier | ⟨-, -, gone⟩
      · exact never.2 earlier
      · rw [gone left isLeft] at inLeft
        cases inLeft
  raised := by
    intro row failure raised
    rcases discards.raised row failure raised with earlier | ⟨isRow, gone, never, own⟩
    · exact .inl earlier
    · refine .inr ⟨isRow, ?_, ?_, own⟩
      · intro present
        obtain ⟨left, isLeft, inLeft⟩ := World.mem_pending.mp present
        exact gone left isLeft inLeft
      · rw [show World.record _ = record from rfl, discards.committed]
        exact never

theorem Sound.discard
    {connection : Option Link}
    {record : Record}
    (innermost : Innermost world thread link scope scopes frame frames)
    (discards : Discards world thread link scopes frames connection record) :
    Sound (world.put thread { frames, activity := .running } connection scopes record) := by
  have advances := discards.advances innermost
  apply innermost.sound.put innermost.free
  · exact innermost.depth
  · exact discards.connected
  · exact innermost.nested
  · intro left isLeft
    have noDue : (world.put thread { frames, activity := .running } connection scopes
        record).openDue = [] := List.subset_nil.mp World.openDue_put_subset
    rw [noDue]
    exact discards.linked left isLeft
  · trivial
  · apply advances.spares innermost.sound.accounted
    constructor
    · intro before after isBefore isAfter nonempty untracked
      obtain rfl := Option.some.inj (innermost.isLink.symm.trans isBefore)
      have levels := discards.levels after isAfter nonempty
      rw [innermost.isScopes, List.length_cons] at untracked
      change scopes.length < after.session.scopes.length
      omega
    · intro row never committed
      by_contra missing
      apply committed
      refine ⟨?_, ?_⟩
      · rw [show World.record _ = record from rfl, discards.committed]
        exact never.1
      · intro ambiguous
        rcases discards.ambiguous row ambiguous with earlier | ⟨pending, tracked, -⟩
        · exact never.2 earlier
        · apply missing
          refine ⟨link, innermost.isLink, pending, ?_⟩
          rw [innermost.isScopes, List.length_cons]
          exact tracked
  · exact innermost.sound.accounted.next advances

/-- A thread has left a scope and is at what it was. -/
def World.popped
    (world : World τ)
    (thread : τ)
    (frames : List Frame)
    (scopes : List (List Emission))
    (connection : Option Link)
    (record : Record) : World τ :=
  { world.withFrames thread frames with deferralScopes := scopes, connection, record }

theorem World.popped_withActivity
    (frames : List Frame)
    (scopes : List (List Emission))
    (connection : Option Link)
    (record : Record)
    (activity : Activity) :
    (world.popped thread frames scopes connection record).withActivity thread activity =
      world.put thread { frames, activity } connection scopes record := by
  simp [World.popped, World.withActivity, World.withFrames, World.put]

theorem World.popped_running
    (running : world.activity thread = .running)
    (frames : List Frame)
    (scopes : List (List Emission))
    (connection : Option Link)
    (record : Record) :
    world.popped thread frames scopes connection record =
      world.put thread { frames, activity := .running } connection scopes record := by
  rw [← World.popped_withActivity, World.withActivity_self]
  simpa [World.popped, World.withFrames, World.activity] using running

/-- The record after a write raised an exception, if its caller saw it. -/
def Record.raise (record : Record) (call : Call) (failure : Failure) : Record :=
  if call.surfaces failure then
    { record with raised := record.raised ++ [(call.row, failure)] }
  else record

theorem World.popped_raise
    (frames : List Frame)
    (scopes : List (List Emission))
    (connection : Option Link)
    (record : Record)
    (call : Call)
    (failure : Failure) :
    (world.popped thread frames scopes connection record).raise thread call failure =
      world.put thread { frames, activity := .running } connection scopes
        (record.raise call failure) := by
  rw [World.raise, World.popped_withActivity]
  rfl

omit [DecidableEq τ] in
theorem Discards.raise
    {connection : Option Link}
    {record : Record}
    (discards : Discards world thread link scopes frames connection record)
    {call : Call}
    (isRow : (world.activity thread).row? = some call.row)
    (gone : ∀ left, connection = some left → call.row ∉ left.session.pending)
    (never : call.row ∉ world.record.committed)
    {failure : Failure}
    (own : call.row ∈ record.ambiguous → failure = .ambiguousCommit) :
    Discards world thread link scopes frames connection (record.raise call failure) := by
  unfold Record.raise
  split
  · refine
      { connected := discards.connected
        linked := discards.linked
        subset := discards.subset
        levels := discards.levels
        calls := discards.calls
        committed := discards.committed
        emitted := discards.emitted
        ambiguous := discards.ambiguous
        raised := ?_ }
    intro row cause raised
    rcases List.mem_append.mp raised with earlier | last
    · exact discards.raised row cause earlier
    · obtain ⟨rfl, rfl⟩ := Prod.mk.inj (List.mem_singleton.mp last)
      exact .inr ⟨isRow, gone, never, own⟩
  · exact discards

/-- The scope is gone from the session, or the session is gone. -/
theorem Innermost.discards
    (innermost : Innermost world thread link scope scopes frame frames)
    {left : Link}
    (isLeft : left = .lost ∨
      link.broken = false ∧ ∃ session, left = { link with session } ∧
        Popped link.session session) :
    Discards world thread link scopes frames (some left) world.record where
  connected := by
    intro none
    cases none
  linked := by
    intro other isOther
    obtain rfl := Option.some.inj isOther
    rcases isLeft with rfl | ⟨unbroken, session, rfl, popped⟩
    · exact .lost
    · exact innermost.linked.popped unbroken popped
  subset := by
    intro other isOther
    obtain rfl := Option.some.inj isOther
    rcases isLeft with rfl | ⟨-, session, rfl, popped⟩
    · exact List.nil_subset _
    · exact popped.subset
  levels := by
    intro other isOther nonempty
    obtain rfl := Option.some.inj isOther
    rcases isLeft with rfl | ⟨-, session, rfl, popped⟩
    · exact (nonempty rfl).elim
    · exact Nat.le_of_eq popped.levels.symm
  calls := rfl
  committed := rfl
  emitted := rfl
  ambiguous := fun _ ambiguous => .inl ambiguous
  raised := fun _ _ raised => .inl raised

/-- The row of the write of a scope is gone with the scope. -/
theorem Innermost.row_gone
    (innermost : Innermost world thread link scope scopes frame frames)
    {call : Call}
    {written : Bool}
    (writing : world.activity thread = .writing call written)
    {session : Session Row}
    (popped : Popped link.session session) :
    call.row ∉ session.pending := by
  obtain ⟨-, -, -, absent, present⟩ := innermost.sound.writing writing
  have guarded := innermost.linked.guarded
  cases written with
  | false =>
      have notPending : call.row ∉ link.session.pending := fun isPending =>
        absent rfl (World.mem_pending.mpr ⟨link, innermost.isLink, isPending⟩)
      exact fun isPending => notPending (popped.subset isPending)
  | true =>
      obtain ⟨⟨other, isOther, accepts⟩, -, unsaved⟩ := present rfl
      obtain rfl := Option.some.inj (innermost.isLink.symm.trans isOther)
      apply popped.gone
      · exact .inr (Bool.or_eq_false_iff.mp accepts).2
      · exact fun level levels nested => unsaved link level levels innermost.isLink nested

/-- Leaving the innermost scope of a thread that runs or writes. -/
theorem Innermost.sound_discarded
    (innermost : Innermost world thread link scope scopes frame frames)
    {left : Link}
    (isLeft : left = .lost ∨
      link.broken = false ∧ ∃ session, left = { link with session } ∧
        Popped link.session session)
    {after : World τ}
    (isAfter : world.activity thread = .running ∧
        after = world.popped thread frames scopes (some left) world.record ∨
      ∃ call written, world.activity thread = .writing call written ∧
        after = (world.popped thread frames scopes (some left) world.record).raise thread call
          .scope) :
    Sound after := by
  have discards := innermost.discards isLeft
  rcases isAfter with ⟨running, rfl⟩ | ⟨call, written, writing, rfl⟩
  · rw [World.popped_running running]
    exact Sound.discard innermost discards
  · rw [World.popped_raise]
    apply Sound.discard innermost
    have phase := innermost.sound.writing writing
    apply discards.raise
    · rw [writing]
      rfl
    · intro other isOther
      obtain rfl := Option.some.inj isOther
      rcases isLeft with rfl | ⟨-, session, rfl, popped⟩
      · exact List.not_mem_nil
      · exact innermost.row_gone writing popped
    · exact phase.2.2.1.1
    · exact fun ambiguous => (phase.2.2.1.2 ambiguous).elim

omit [DecidableEq τ] in
theorem Link.eq_lost
    {due : List Emission}
    (sound : LinkSound (frame :: frames) (scope :: scopes) due link)
    (broken : link.broken = true) :
    link = .lost := by
  have idle := sound.broken broken
  cases link
  simp_all [Link.lost]

/-- A thread that runs or writes leaves its innermost scope with an exception. -/
theorem Innermost.unwound
    (innermost : Innermost world thread link scope scopes frame frames)
    (ending : Ending) :
    ∃ left, (left = .lost ∨
        link.broken = false ∧ ∃ session, left = { link with session } ∧
          Popped link.session session) ∧
      unwindScope world thread ending =
        world.popped thread frames scopes (some left) world.record := by
  unfold PostgresConnection.unwindScope
  rw [innermost.isLink, innermost.isScopes, innermost.isFrames]
  dsimp only
  cases broken : link.broken with
  | true =>
      refine ⟨link, .inl (Link.eq_lost innermost.linked broken), ?_⟩
      rw [if_pos rfl, World.popped, ← innermost.isLink]
      rfl
  | false =>
      rw [if_neg (by simp)]
      have isOpen : link.session.scopes ≠ [] := by
        have deep := innermost.linked.deep broken
        intro closed
        simp [closed] at deep
      have guarded := innermost.linked.guarded
      cases ending with
      | succeeds =>
          exact ⟨_, .inr ⟨rfl, _, rfl, .unwind guarded isOpen (by simp)⟩, rfl⟩
      | fails => exact ⟨_, .inr ⟨rfl, _, rfl, .unwind guarded isOpen (by simp)⟩, rfl⟩
      | lost takesEffect => exact ⟨.lost, .inl rfl, rfl⟩

end Innermost

/-- A thread with open scopes that runs or writes has an innermost one. -/
theorem Sound.innermost
    (sound : Sound world)
    (quiet : world.activity thread = .running ∨
      ∃ call written, world.activity thread = .writing call written)
    (isOpen : world.frames thread ≠ []) :
    ∃ link scope scopes frame frames,
      Innermost world thread link scope scopes frame frames := by
  have shape := sound.openFrames_eq (sound.lockFree_of_frames isOpen)
  obtain ⟨frame, frames, isFrames⟩ := List.exists_cons_of_ne_nil isOpen
  have depth := sound.depth
  rw [shape, isFrames, List.length_cons] at depth
  obtain ⟨scope, scopes, isScopes⟩ : ∃ scope scopes, world.deferralScopes = scope :: scopes := by
    apply List.exists_cons_of_ne_nil
    intro isEmpty
    simp [isEmpty] at depth
  cases isLink : world.connection with
  | none =>
      have closed := sound.connected isLink
      rw [shape] at closed
      exact (isOpen closed).elim
  | some link =>
      exact ⟨link, scope, scopes, frame, frames, sound, isLink, isScopes, isFrames, quiet⟩

theorem Sound.unwindRunning
    (sound : Sound world)
    (running : world.activity thread = .running)
    (ending : Ending) :
    Sound (unwindScope world thread ending) := by
  by_cases closed : world.frames thread = []
  · unfold PostgresConnection.unwindScope
    rw [closed]
    split
    · next nonempty => cases nonempty
    · exact sound
  · obtain ⟨link, scope, scopes, frame, frames, innermost⟩ :=
      sound.innermost (.inl running) closed
    obtain ⟨left, isLeft, isUnwound⟩ := innermost.unwound ending
    exact innermost.sound_discarded isLeft (.inl ⟨running, isUnwound⟩)

theorem Sound.unwindWriting
    (sound : Sound world)
    {call : Call}
    {written : Bool}
    (writing : world.activity thread = .writing call written)
    (ending : Ending) :
    Sound ((unwindScope world thread ending).raise thread call .scope) := by
  obtain ⟨link, scope, scopes, frame, frames, innermost⟩ :=
    sound.innermost (.inr ⟨call, written, writing⟩) (sound.writing writing).1
  obtain ⟨left, isLeft, isUnwound⟩ := innermost.unwound ending
  rw [isUnwound]
  exact innermost.sound_discarded isLeft (.inr ⟨call, written, writing, rfl⟩)

end PostgresConnection
end Vinctor
