import Vinctor.Service.EmissionScopes

/-!
# Scopes are left without an exception of their body

The exit of a scope raises an exception and discards the scope, finds the commit
ambiguous, commits the transaction and runs the emissions that waited for it, or
releases a savepoint and hands its emissions to the enclosing scope.
-/

namespace Vinctor
namespace PostgresConnection

open Foundation.GuardedLog

variable
    {τ : Type u}
    [DecidableEq τ]
    {world : World τ}
    {thread : τ}
    {link : Link}
    {scope : List Emission}
    {scopes : List (List Emission)}
    {frame : Frame}
    {frames : List Frame}

/-- What the exit of a scope may come to. -/
inductive Leaves
    (world : World τ)
    (thread : τ)
    (link : Link)
    (scope : List Emission)
    (scopes : List (List Emission))
    (frame : Frame)
    (frames : List Frame)
    (ending : Ending) : Option Failure × World τ → Prop
  | discarded
      (left : Link)
      (isLeft : left = .lost ∨
        link.broken = false ∧ ∃ session, left = { link with session } ∧
          Popped link.session session) :
      Leaves world thread link scope scopes frame frames ending
        (some .scope, world.popped thread frames scopes (some left) world.record)
  | ambiguous
      (outermost : frames = [] ∧ scopes = [])
      (connection : Option Link)
      (isConnection : connection = none ∨ connection = some .lost)
      (generation : Nat)
      (quarantined : Bool)
      (rows : List Row)
      (tracked : ∀ row ∈ rows, row ∈ link.session.pending ∧ link.session.scopes.length ≤ 1) :
      Leaves world thread link scope scopes frame frames ending
        (some .ambiguousCommit,
          { world.popped thread frames scopes connection
              { world.record with ambiguous := world.record.ambiguous ++ rows } with
            generation, quarantined })
  | committed
      (outermost : frames = [] ∧ scopes = [])
      (isBoundary : frame.boundary = true)
      (unbroken : link.broken = false)
      (succeeds : ending = .succeeds)
      (level : Scope Row)
      (isLevel : link.session.scopes = [level])
      (rows : List Row)
      (isRows : rows = if link.session.failed then [] else link.session.pending) :
      Leaves world thread link scope scopes frame frames ending
        (none, world.popped thread frames scopes (some .fresh)
          { world.record with
            committed := world.record.committed ++ rows
            emitted := world.record.emitted ++ scope })
  | released
      (notBoundary : frame.boundary = false)
      (accepts : link.refuses = false)
      (level above : Scope Row)
      (levels : List (Scope Row))
      (isLevels : link.session.scopes = level :: above :: levels) :
      Leaves world thread link scope scopes frame frames ending
        (none, world.popped thread frames (handOver scope scopes)
          (some { link with
            session :=
              { link.session with
                scopes :=
                  { above with locked := above.locked || level.locked } :: levels } })
          world.record)

/-- A connection in quarantine is given up, or was already. -/
theorem quarantineLocked_popped
    (outermost : frames = [] ∧ scopes = [])
    (left : Link)
    (record : Record)
    (expectedGeneration : Nat) :
    ∃ connection generation quarantined, (connection = none ∨ connection = some left) ∧
      quarantineLocked (world.popped thread frames scopes (some left) record)
          expectedGeneration =
        { world.popped thread frames scopes connection record with
          generation, quarantined } := by
  obtain ⟨rfl, rfl⟩ := outermost
  unfold quarantineLocked
  split
  · exact ⟨some left, world.generation, world.quarantined, .inr rfl, rfl⟩
  · exact ⟨none, world.generation + 1, true, .inl rfl, rfl⟩

theorem Innermost.levels_of_boundary
    (innermost : Innermost world thread link scope scopes frame frames)
    (unbroken : link.broken = false)
    (isBoundary : frame.boundary = true) :
    (frames = [] ∧ scopes = []) ∧ ∃ level, link.session.scopes = [level] := by
  rcases innermost.boundary_cases with notBoundary | outermost
  · rw [isBoundary] at notBoundary
    cases notBoundary
  · obtain ⟨rfl, rfl⟩ := outermost
    have single := (innermost.linked.outermost unbroken frame rfl).mp isBoundary
    exact ⟨⟨rfl, rfl⟩, List.length_eq_one_iff.mp single⟩

theorem Innermost.levels_of_savepoint
    (innermost : Innermost world thread link scope scopes frame frames)
    (unbroken : link.broken = false)
    (notBoundary : frame.boundary = false) :
    ∃ level above levels, link.session.scopes = level :: above :: levels := by
  have deep := innermost.linked.deep unbroken
  have outermost := innermost.linked.outermost unbroken
  rcases levels : link.session.scopes with - | ⟨level, - | ⟨above, rest⟩⟩
  · simp [levels] at deep
  · -- A single level belongs to a boundary.
    have noScopes : scopes = [] := by
      rw [levels] at deep
      simpa using deep
    have noFrames : frames = [] := by
      have depth := innermost.depth
      rw [noScopes] at depth
      exact List.eq_nil_of_length_eq_zero depth.symm
    subst noScopes noFrames
    have isBoundary := (outermost frame rfl).mpr (by simp [levels])
    rw [notBoundary] at isBoundary
    cases isBoundary
  · exact ⟨level, above, rest, rfl⟩

theorem Innermost.leaves
    (innermost : Innermost world thread link scope scopes frame frames)
    (ending : Ending) :
    Leaves world thread link scope scopes frame frames ending
      (leaveScope world thread ending) := by
  have linked := innermost.linked
  have guarded := linked.guarded
  unfold leaveScope
  rw [innermost.isLink, innermost.isScopes, innermost.isFrames]
  dsimp only
  cases broken : link.broken with
  | true =>
      have isLost := Link.eq_lost linked broken
      rw [if_pos rfl]
      have same : ({ world.withFrames thread frames with deferralScopes := scopes } : World τ) =
          world.popped thread frames scopes (some link) world.record := by
        rw [World.popped, ← innermost.isLink]
        rfl
      rw [same]
      cases isBoundary : frame.boundary with
      | true =>
          rw [if_pos rfl]
          have outermost : frames = [] ∧ scopes = [] := by
            rcases innermost.boundary_cases with notBoundary | outermost
            · rw [isBoundary] at notBoundary
              cases notBoundary
            · exact outermost
          obtain ⟨connection, generation, quarantined, isConnection, isQuarantined⟩ :=
            @quarantineLocked_popped τ _ world thread scopes frames outermost link world.record
              frame.generation
          rw [isQuarantined]
          rw [isLost] at isConnection
          have unchanged : world.record =
              { world.record with ambiguous := world.record.ambiguous ++ [] } := by
            rw [List.append_nil]
          rw [unchanged]
          exact .ambiguous outermost connection isConnection generation quarantined []
            (fun row none => (List.not_mem_nil none).elim)
      | false =>
          rw [if_neg (by simp)]
          exact .discarded link (.inl isLost)
  | false =>
      rw [if_neg (by simp)]
      have isOpen : link.session.scopes ≠ [] := by
        have deep := linked.deep broken
        intro closed
        simp [closed] at deep
      cases ending with
      | fails =>
          exact .discarded _ (.inr ⟨broken, _, by rw [broken], .leave guarded isOpen (.inl rfl)⟩)
      | lost takesEffect =>
          dsimp only
          cases isBoundary : frame.boundary with
          | true =>
              rw [if_pos rfl]
              obtain ⟨outermost, level, isLevel⟩ := innermost.levels_of_boundary broken isBoundary
              obtain ⟨connection, generation, quarantined, isConnection, isQuarantined⟩ :=
                @quarantineLocked_popped τ _ world thread scopes frames outermost .lost
                  { world.record with
                    ambiguous := world.record.ambiguous ++
                      (link.session.leave (.lost takesEffect)).1 } frame.generation
              have tracked : ∀ row ∈ (link.session.leave (.lost takesEffect)).1,
                  row ∈ link.session.pending ∧ link.session.scopes.length ≤ 1 := by
                intro row present
                refine ⟨?_, by simp [isLevel]⟩
                rcases guarded.cross_rows (.leave (.lost takesEffect)) with ⟨none, -⟩ | ⟨all, -⟩
                · have isEmpty : (link.session.leave (.lost takesEffect)).1 = [] := none
                  rw [isEmpty] at present
                  cases present
                · have isAll : (link.session.leave (.lost takesEffect)).1 =
                      link.session.pending := all
                  rwa [isAll] at present
              have same := @Leaves.ambiguous τ _ world thread link scope scopes frame frames
                (.lost takesEffect) outermost connection isConnection generation quarantined _
                tracked
              rw [← isQuarantined] at same
              exact same
          | false =>
              rw [if_neg (by simp)]
              exact .discarded .lost (.inl rfl)
      | succeeds =>
          dsimp only
          cases isBoundary : frame.boundary with
          | true =>
              rw [if_pos rfl]
              obtain ⟨outermost, level, isLevel⟩ := innermost.levels_of_boundary broken isBoundary
              have left : link.session.leave .succeeds =
                  (if link.session.failed then [] else link.session.pending, .idle) := by
                simp only [Session.leave, isLevel]
                split <;> rfl
              rw [left]
              exact .committed outermost isBoundary broken rfl level isLevel _ rfl
          | false =>
              rw [if_neg (by simp)]
              obtain ⟨level, above, levels, isLevels⟩ :=
                innermost.levels_of_savepoint broken isBoundary
              cases failed : link.session.failed with
              | true =>
                  rw [if_pos rfl]
                  refine .discarded _ (.inr ⟨broken, _, by rw [broken], .leave guarded isOpen ?_⟩)
                  exact .inr ⟨rfl, failed, by simp [isLevels]⟩
              | false =>
                  rw [if_neg (by simp)]
                  have left : link.session.leave .succeeds =
                      ([], { link.session with
                        scopes :=
                          { above with locked := above.locked || level.locked } :: levels }) := by
                    simp [Session.leave, isLevels, failed]
                  rw [left]
                  have accepts : link.refuses = false := by
                    simp [Link.refuses, broken, failed]
                  have same := @Leaves.released τ _ world thread link scope scopes frame frames
                    .succeeds isBoundary accepts level above levels isLevels
                  rw [broken] at same
                  exact same

/-! ## The transaction is committed -/

/-- What a thread is at after it left a scope: what it was, or the emissions of
the write whose scope it was. -/
inductive Continues (boundary : Bool) : Activity → Activity → Prop
  | running : Continues boundary .running .running
  | writing (call : Call) :
      Continues boundary (.writing call true) (.emitting call boundary call.row.sinks)

namespace Continues

variable {boundary : Bool} {before after : Activity}

theorem due_eq (continues : Continues boundary before after) : after.due = before.due := by
  cases continues <;> rfl

theorem row?_eq (continues : Continues boundary before after) : after.row? = before.row? := by
  cases continues <;> rfl

theorem of_running (isRunning : before = .running) : Continues boundary before .running := by
  subst isRunning
  exact .running

theorem of_writing
    {call : Call}
    (isWriting : before = .writing call true) :
    Continues boundary before (.emitting call boundary call.row.sinks) := by
  subst isWriting
  exact .writing call

end Continues

theorem Innermost.settled
    (innermost : Innermost world thread link scope scopes frame frames)
    (accepts : link.refuses = false) :
    Settled (world.activity thread).due false (scope :: scopes) link.session.scopes
      link.session.pending := by
  obtain ⟨unbroken, working⟩ := Bool.or_eq_false_iff.mp accepts
  have settled := innermost.linked.settled unbroken
  rwa [working] at settled

/-- The commit of the outermost scope. -/
theorem Sound.commit
    (innermost : Innermost world thread link scope [] frame [])
    (accepts : link.refuses = false)
    {level : Scope Row}
    (isLevel : link.session.scopes = [level])
    {activity : Activity}
    (continues : Continues true (world.activity thread) activity) :
    Sound (world.put thread { frames := [], activity } (some .fresh) []
      { world.record with
        committed := world.record.committed ++ link.session.pending
        emitted := world.record.emitted ++ scope }) := by
  have sound := innermost.sound
  have settled := innermost.settled accepts
  rw [isLevel] at settled
  obtain ⟨held, covered⟩ := settled.1 rfl
  have nothingSaved : level.saved = [] := by
    have guarded := innermost.linked.guarded
    unfold Session.IsGuarded at guarded
    rw [isLevel] at guarded
    exact guarded.2.2
  have advances : Advances thread world (world.put thread { frames := [], activity }
      (some .fresh) []
      { world.record with
        committed := world.record.committed ++ link.session.pending
        emitted := world.record.emitted ++ scope }) :=
    { others := fun other different => World.activity_put_of_ne different
      calls := rfl
      rows := by
        intro row isRow
        rw [World.activity_put_self] at isRow
        rwa [← continues.row?_eq]
      moves := by
        rw [World.activity_put_self]
        simp only [World.put, World.waiting, innermost.isScopes, continues.due_eq,
          List.flatten_cons, List.flatten_nil, List.append_nil]
        exact List.Subperm.refl _
      emitted := List.subset_append_left _ _
      committed := List.subset_append_left _ _
      dueKept := by
        intro emission due
        rw [World.activity_put_self, continues.due_eq]
        exact .inl due
      newlyEmitted := by
        intro emission ran
        rcases List.mem_append.mp ran with earlier | waited
        · exact .inl earlier
        · exact .inr (List.mem_append_right _ (held emission waited))
      newlyCommitted := by
        intro row committed
        rcases List.mem_append.mp committed with earlier | pending
        · exact .inl earlier
        · refine .inr ⟨World.mem_pending.mpr ⟨link, innermost.isLink, pending⟩, ?_⟩
          intro sink wanted
          have unsaved : row ∉ level.saved := by
            rw [nothingSaved]
            exact List.not_mem_nil
          rw [World.activity_put_self, continues.due_eq]
          exact (covered row pending unsaved sink wanted).imp_left (List.mem_append_right _)
      newlyAmbiguous := fun _ ambiguous => .inl ambiguous
      pending := fun _ present => (List.not_mem_nil present).elim
      raised := fun _ _ raised => .inl raised }
  apply sound.put innermost.free
  · rfl
  · exact fun _ => rfl
  · intro outer none
    cases none
  · intro left isLeft
    obtain rfl := Option.some.inj isLeft
    exact .fresh
  · have phase := sound.phases thread
    dsimp only
    generalize isActivity : world.activity thread = before at continues phase
    cases continues with
    | running => trivial
    | writing call =>
        obtain ⟨-, unraised, -, -, written⟩ := phase
        refine ⟨unraised, fun _ => ⟨?_, World.frames_put_self⟩, fun inside => by cases inside⟩
        obtain ⟨other, isOther, present⟩ := World.mem_pending.mp (written rfl).2.1
        obtain rfl := Option.some.inj (innermost.isLink.symm.trans isOther)
        exact List.mem_append_right _ present
  · apply advances.spares sound.accounted
    constructor
    · intro before after _ isAfter nonempty
      obtain rfl := Option.some.inj isAfter
      exact (nonempty rfl).elim
    · intro row never committed
      by_contra missing
      apply committed
      refine ⟨?_, never.2⟩
      intro present
      rcases List.mem_append.mp present with earlier | pending
      · exact never.1 earlier
      · apply missing
        refine ⟨link, innermost.isLink, pending, ?_⟩
        rw [isLevel, innermost.isScopes]
        exact Nat.le_refl _
  · exact sound.accounted.next advances

/-! ## A savepoint is released -/

theorem length_handOver (scope : List Emission) (scopes : List (List Emission)) :
    (handOver scope scopes).length = scopes.length := by
  cases scopes <;> rfl

theorem flatten_handOver_subperm (scope : List Emission) (scopes : List (List Emission)) :
    (handOver scope scopes).flatten.Subperm (scope :: scopes).flatten := by
  cases scopes with
  | nil => exact List.nil_subperm
  | cons parent outer =>
      rw [handOver, List.flatten_cons, List.flatten_cons, List.flatten_cons, ← List.append_assoc]
      exact (List.perm_append_comm.append_right _).subperm

theorem LinkSound.release
    {due : List Emission}
    (sound : LinkSound (frame :: frames) (scope :: scopes) due link)
    (depth : scopes.length = frames.length)
    (accepts : link.refuses = false)
    {level above : Scope Row}
    {levels : List (Scope Row)}
    (isLevels : link.session.scopes = level :: above :: levels) :
    LinkSound frames (handOver scope scopes) due
      { link with
        session :=
          { link.session with
            scopes := { above with locked := above.locked || level.locked } :: levels } } := by
  obtain ⟨unbroken, working⟩ := Bool.or_eq_false_iff.mp accepts
  have deep := sound.deep unbroken
  have shallow := sound.shallow
  have settled := sound.settled unbroken
  have guarded := sound.guarded
  unfold Session.IsGuarded at guarded
  rw [isLevels] at guarded settled
  rw [working] at settled
  simp only [isLevels, List.length_cons] at deep shallow
  refine
    { broken := fun broken => by simp [unbroken] at broken
      guarded := guarded.merge
      deep := fun _ => by
        rw [length_handOver]
        simp only [List.length_cons]
        omega
      shallow := by
        rw [length_handOver]
        simp only [List.length_cons]
        omega
      outermost := ?_
      settled := fun _ => ?_ }
  · intro _ outer last
    cases frames with
    | nil => cases last
    | cons next rest =>
        have outermost := sound.outermost unbroken outer (by rwa [List.getLast?_cons_cons])
        rw [outermost, isLevels, length_handOver]
        simp only [List.length_cons]
        omega
  · dsimp only
    rw [working]
    cases scopes with
    | nil => trivial
    | cons parent outer => exact settled.merge guarded.1 _

theorem LinkSound.put_due
    {due : List Emission}
    (sound : LinkSound frames scopes due link)
    (depth : scopes.length = frames.length)
    {activity : Activity}
    (sameDue : activity.due = due)
    {connection : Option Link}
    {record : Record} :
    LinkSound frames scopes
      (world.put thread { frames, activity } connection scopes record).openDue link := by
  cases frames with
  | nil =>
      -- Without open scopes nothing is said about what is due.
      have noScopes : scopes = [] := List.eq_nil_of_length_eq_zero depth
      subst noScopes
      exact
        { broken := sound.broken
          guarded := sound.guarded
          deep := sound.deep
          shallow := sound.shallow
          outermost := sound.outermost
          settled := fun _ => trivial }
  | cons next rest =>
      have isDue : (world.put thread { frames := next :: rest, activity } connection scopes
          record).openDue = due := by
        simp [World.openDue, World.put, World.activity, sameDue]
      rw [isDue]
      exact sound

theorem Sound.release
    (innermost : Innermost world thread link scope scopes frame frames)
    (accepts : link.refuses = false)
    {level above : Scope Row}
    {levels : List (Scope Row)}
    (isLevels : link.session.scopes = level :: above :: levels)
    {activity : Activity}
    (continues : Continues false (world.activity thread) activity) :
    Sound (world.put thread { frames, activity }
      (some { link with
        session :=
          { link.session with
            scopes := { above with locked := above.locked || level.locked } :: levels } })
      (handOver scope scopes) world.record) := by
  have sound := innermost.sound
  have released := innermost.linked.release innermost.depth accepts isLevels
  set left : Link := { link with
    session :=
      { link.session with
        scopes := { above with locked := above.locked || level.locked } :: levels } } with isLeft
  have advances : Advances thread world
      (world.put thread { frames, activity } (some left) (handOver scope scopes) world.record) :=
    { others := fun other different => World.activity_put_of_ne different
      calls := rfl
      rows := by
        intro row isRow
        rw [World.activity_put_self] at isRow
        rwa [← continues.row?_eq]
      moves := by
        rw [World.activity_put_self]
        simp only [World.put, World.waiting, innermost.isScopes, continues.due_eq]
        apply List.Subperm.append _ (List.Subperm.refl _)
        exact (List.Subperm.refl _).append (flatten_handOver_subperm scope scopes)
      emitted := List.Subset.refl _
      committed := List.Subset.refl _
      dueKept := by
        intro emission due
        rw [World.activity_put_self, continues.due_eq]
        exact .inl due
      newlyEmitted := fun _ ran => .inl ran
      newlyCommitted := fun _ committed => .inl committed
      newlyAmbiguous := fun _ ambiguous => .inl ambiguous
      pending := fun row present =>
        ⟨.inl (World.mem_pending.mpr ⟨link, innermost.isLink, present⟩), id⟩
      raised := fun _ _ raised => .inl raised }
  apply sound.put innermost.free
  · rw [length_handOver]
    exact innermost.depth
  · intro none
    cases none
  · exact innermost.nested
  · intro other isOther
    obtain rfl : left = other := Option.some.inj isOther
    apply released.put_due
    · rw [length_handOver]
      exact innermost.depth
    · exact continues.due_eq
  · have phase := sound.phases thread
    dsimp only
    generalize isActivity : world.activity thread = before at continues phase
    cases continues with
    | running => trivial
    | writing call =>
        obtain ⟨-, unraised, never, -, written⟩ := phase
        obtain ⟨-, present, -⟩ := written rfl
        refine ⟨unraised, fun atBoundary => (by cases atBoundary), fun _ => ⟨never, ?_, ?_⟩⟩
        · intro closed other isOther _
          obtain rfl : left = other := Option.some.inj isOther
          rw [World.frames_put_self] at closed
          have noScopes : scopes = [] := by
            have depth := innermost.depth
            rw [show frames = [] from closed] at depth
            exact List.eq_nil_of_length_eq_zero depth
          subst noScopes
          exact Nat.succ_pos _
        · intro _
          refine ⟨⟨left, rfl, accepts⟩, ?_⟩
          obtain ⟨other, isOther, inOther⟩ := World.mem_pending.mp present
          obtain rfl := Option.some.inj (innermost.isLink.symm.trans isOther)
          exact World.mem_pending.mpr ⟨left, rfl, inOther⟩
  · apply advances.spares sound.accounted
    constructor
    · intro before after isBefore isAfter _ untracked
      obtain rfl := Option.some.inj (innermost.isLink.symm.trans isBefore)
      obtain rfl : left = after := Option.some.inj isAfter
      rw [innermost.isScopes, isLevels] at untracked
      change (handOver scope scopes).length < levels.length + 1
      rw [length_handOver]
      simp only [List.length_cons] at untracked
      omega
    · intro row never committed
      exact (committed never).elim
  · exact sound.accounted.next advances

/-! ## The exit of a scope -/

omit [DecidableEq τ] in
/-- Nothing of the transaction is left on the connection. -/
theorem discards_ambiguous
    (outermost : frames = [] ∧ scopes = [])
    {connection : Option Link}
    (isConnection : connection = none ∨ connection = some .lost)
    {rows : List Row}
    (tracked : ∀ row ∈ rows, row ∈ link.session.pending ∧ link.session.scopes.length ≤ 1) :
    Discards world thread link scopes frames connection
      { world.record with ambiguous := world.record.ambiguous ++ rows } := by
  obtain ⟨rfl, rfl⟩ := outermost
  have isLost : ∀ left, connection = some left → left = .lost := by
    intro left isLeft
    rcases isConnection with none | lost
    · rw [none] at isLeft
      cases isLeft
    · exact Option.some.inj (isLeft.symm.trans lost)
  have nothing : ∀ left, connection = some left → left.session.pending = [] := by
    intro left isLeft
    rw [isLost left isLeft]
    rfl
  refine
    { connected := fun _ => rfl
      linked := ?_
      subset := ?_
      levels := fun left isLeft nonempty => (nonempty (nothing left isLeft)).elim
      calls := rfl
      committed := rfl
      emitted := rfl
      ambiguous := ?_
      raised := fun _ _ raised => .inl raised }
  · intro left isLeft
    rw [isLost left isLeft]
    exact .lost
  · intro left isLeft
    rw [nothing left isLeft]
    exact List.nil_subset _
  · intro row present
    rcases List.mem_append.mp present with earlier | added
    · exact .inl earlier
    · exact .inr ⟨(tracked row added).1, (tracked row added).2, nothing⟩

omit [DecidableEq τ] in
/-- The commit of a transaction that failed, for which no emissions wait. -/
theorem discards_failed :
    Discards world thread link [] [] (some .fresh) world.record where
  connected := fun _ => rfl
  linked := by
    intro left isLeft
    obtain rfl := Option.some.inj isLeft
    exact .fresh
  subset := by
    intro left isLeft
    obtain rfl := Option.some.inj isLeft
    exact List.nil_subset _
  levels := by
    intro left isLeft nonempty
    obtain rfl := Option.some.inj isLeft
    exact (nonempty rfl).elim
  calls := rfl
  committed := rfl
  emitted := rfl
  ambiguous := fun _ ambiguous => .inl ambiguous
  raised := fun _ _ raised => .inl raised

/-- The outermost scope is not left without an exception when its transaction
failed and emissions wait for it. -/
def LeavesWorking (world : World τ) (thread : τ) : Ending → Prop
  | .succeeds => ∀ frame frames scope scopes link,
      world.frames thread = frame :: frames → frame.boundary = true →
      world.deferralScopes = scope :: scopes → world.connection = some link →
      link.broken = false → link.session.failed = true → scope = []
  | _ => True

theorem Sound.leaveRunning
    (sound : Sound world)
    (running : world.activity thread = .running)
    {ending : Ending}
    (working : LeavesWorking world thread ending) :
    Sound (leaveScope world thread ending).2 := by
  by_cases closed : world.frames thread = []
  · unfold PostgresConnection.leaveScope
    rw [closed]
    split
    · next nonempty => cases nonempty
    · exact sound
  · obtain ⟨link, scope, scopes, frame, frames, innermost⟩ :=
      sound.innermost (.inl running) closed
    have leaves := innermost.leaves ending
    generalize leaveScope world thread ending = result at leaves ⊢
    cases leaves with
    | discarded left isLeft => exact innermost.sound_discarded isLeft (.inl ⟨running, rfl⟩)
    | ambiguous outermost connection isConnection generation quarantined rows tracked =>
        dsimp only
        rw [World.popped_running running]
        exact (Sound.discard innermost
          (discards_ambiguous outermost isConnection tracked)).regenerate _ _
    | committed outermost isBoundary unbroken succeeds level isLevel rows isRows =>
        obtain ⟨rfl, rfl⟩ := outermost
        dsimp only
        rw [World.popped_running running, isRows]
        cases failed : link.session.failed with
        | true =>
            rw [succeeds] at working
            have nothing : scope = [] := working frame [] scope [] link innermost.isFrames
              isBoundary innermost.isScopes innermost.isLink unbroken failed
            subst nothing
            simp only [if_true, List.append_nil]
            exact Sound.discard innermost discards_failed
        | false =>
            have accepts : link.refuses = false := by
              simp [Link.refuses, unbroken, failed]
            simp only [Bool.false_eq_true, if_false]
            exact Sound.commit innermost accepts isLevel (.of_running running)
    | released notBoundary accepts level above levels isLevels =>
        dsimp only
        rw [World.popped_running running]
        exact Sound.release innermost accepts isLevels (.of_running running)

theorem Sound.finishWrite
    (sound : Sound world)
    {call : Call}
    (writing : world.activity thread = .writing call true)
    (ending : Ending) :
    Sound (finishWrite world thread call ending) := by
  obtain ⟨isOpen, -, never, -, written⟩ := sound.writing writing
  obtain ⟨⟨working, isWorking, accepting⟩, -⟩ := written rfl
  obtain ⟨link, scope, scopes, frame, frames, innermost⟩ :=
    sound.innermost (.inr ⟨call, true, writing⟩) isOpen
  obtain rfl := Option.some.inj (innermost.isLink.symm.trans isWorking)
  have isBoundary : atBoundary world thread = frame.boundary := by
    simp [atBoundary, innermost.isFrames]
  have isRow : (world.activity thread).row? = some call.row := by
    rw [writing]
    rfl
  have leaves := innermost.leaves ending
  unfold PostgresConnection.finishWrite
  rw [isBoundary]
  generalize leaveScope world thread ending = result at leaves ⊢
  cases leaves with
  | discarded left isLeft =>
      exact innermost.sound_discarded isLeft (.inr ⟨call, true, writing, rfl⟩)
  | ambiguous outermost connection isConnection generation quarantined rows tracked =>
      have discards : Discards world thread link scopes frames connection _ :=
        discards_ambiguous outermost isConnection tracked
      have raised := discards.raise isRow
        (by
          intro left isLeft
          rcases isConnection with none | lost
          · rw [none] at isLeft
            cases isLeft
          · obtain rfl := Option.some.inj (isLeft.symm.trans lost)
            exact List.not_mem_nil)
        never.1 (fun _ => rfl)
      have sound := Sound.discard innermost raised
      rw [← World.popped_raise] at sound
      exact sound.regenerate generation quarantined
  | committed outermost atBoundary unbroken succeeds level isLevel rows isRows =>
      obtain ⟨rfl, rfl⟩ := outermost
      have failed : link.session.failed = false := (Bool.or_eq_false_iff.mp accepting).2
      dsimp only
      rw [World.popped_withActivity, isRows, failed, atBoundary]
      exact Sound.commit innermost accepting isLevel (.of_writing writing)
  | released notBoundary accepts level above levels isLevels =>
      dsimp only
      rw [World.popped_withActivity, notBoundary]
      exact Sound.release innermost accepts isLevels (.of_writing writing)

end PostgresConnection
end Vinctor
