import Mathlib.Data.List.Nodup
import Vinctor.Service.EmissionCommits

/-!
# Emissions run once and after the commit

A thread hands over its emissions after it has left the scope of its write, and
by then it may have lost the lock.  When the connection is then as the scope
left it, every emission runs at most once and only after its row is committed,
it does run when the commit succeeded, and the write returns.
-/

namespace Vinctor
namespace PostgresConnection

open Foundation.GuardedLog

variable {τ : Type u} [DecidableEq τ] {world : World τ} {thread : τ}

/-! ## The emissions of a write -/

/-- The connection is as the scope of the write left it: idle when that scope
opened the transaction, and in the transaction that no scope tracks otherwise.
A missing connection takes that transaction with it. -/
def ConnectionKept (world : World τ) (boundary : Bool) : Prop :=
  match world.connection with
  | none => boundary = false
  | some link => link.inTransaction = !boundary

theorem due_nextSink (call : Call) (boundary : Bool) (sinks : List Sink) :
    (nextSink call boundary sinks).due = emissionsOf call.row sinks := by
  cases sinks <;> rfl

theorem row?_nextSink
    {call : Call}
    {boundary : Bool}
    {sinks : List Sink}
    {row : Row}
    (isRow : (nextSink call boundary sinks).row? = some row) :
    call.row = row := by
  cases sinks with
  | nil => cases isRow
  | cons sink sinks => exact Option.some.inj isRow

omit [DecidableEq τ] in
theorem PhaseSound.nextSink
    {call : Call}
    {boundary : Bool}
    (sinks : List Sink)
    {rest : List Sink}
    (phase : PhaseSound world thread (.emitting call boundary sinks)) :
    PhaseSound world thread (nextSink call boundary rest) := by
  cases rest with
  | nil => trivial
  | cons sink rest => exact phase

theorem Sound.defer
    (sound : Sound world)
    {call : Call}
    {boundary : Bool}
    {sink : Sink}
    {sinks : List Sink}
    (emitting : world.activity thread = .emitting call boundary (sink :: sinks))
    (free : world.lockFree thread = true)
    {scope : List Emission}
    {scopes : List (List Emission)}
    (isScopes : world.deferralScopes = scope :: scopes) :
    Sound { world.withActivity thread (nextSink call boundary sinks) with
      deferralScopes := (scope ++ [(call.row, sink)]) :: scopes } := by
  have shape := sound.openFrames_eq free
  have depth := sound.depth
  rw [shape, isScopes] at depth
  have isOpen : world.frames thread ≠ [] := by
    intro closed
    simp [closed] at depth
  have phase := sound.phases thread
  rw [emitting] at phase
  obtain ⟨unraised, atBoundary, inside⟩ := phase
  have notBoundary : boundary = false := by
    cases isBoundary : boundary with
    | false => rfl
    | true => exact (isOpen (atBoundary isBoundary).2).elim
  obtain ⟨never, -, working⟩ := inside notBoundary
  obtain ⟨⟨link, isLink, accepts⟩, present⟩ := working isOpen
  obtain ⟨unbroken, failed⟩ := Bool.or_eq_false_iff.mp accepts
  have linked := sound.linked link isLink
  rw [shape, isScopes, sound.openDue_of_frames isOpen, emitting] at linked
  have isPut : ({ world.withActivity thread (nextSink call boundary sinks) with
        deferralScopes := (scope ++ [(call.row, sink)]) :: scopes } : World τ) =
      world.put thread
        { frames := world.frames thread, activity := nextSink call boundary sinks }
        world.connection ((scope ++ [(call.row, sink)]) :: scopes) world.record := by
    rw [sound.withActivity_eq_put free]
    rfl
  rw [isPut]
  have advances : Advances thread world (world.put thread
      { frames := world.frames thread, activity := nextSink call boundary sinks }
      world.connection ((scope ++ [(call.row, sink)]) :: scopes) world.record) :=
    { others := fun other different => World.activity_put_of_ne different
      calls := rfl
      rows := by
        intro row isRow
        rw [World.activity_put_self] at isRow
        rw [emitting, ← row?_nextSink isRow]
        rfl
      moves := by
        rw [World.activity_put_self, emitting, due_nextSink]
        simp only [World.put, World.waiting, isScopes, Activity.due, emissionsOf,
          List.map_cons, List.flatten_cons]
        apply List.Perm.subperm
        have moved : (scope ++ [(call.row, sink)] ++ scopes.flatten).Perm
            (scope ++ scopes.flatten ++ [(call.row, sink)]) := by
          rw [List.append_assoc, List.append_assoc]
          exact List.perm_append_comm.append_left scope
        have whole := (moved.append_left world.record.emitted).append_right
          (sinks.map fun sink => (call.row, sink))
        simpa using whole
      emitted := List.Subset.refl _
      committed := List.Subset.refl _
      dueKept := by
        intro emission due
        have isRow := Activity.row?_of_mem_due due
        rw [emitting] at isRow
        have same : call.row = emission.1 := Option.some.inj isRow
        exact .inr (.inr (same ▸ never.1))
      newlyEmitted := fun _ ran => .inl ran
      newlyCommitted := fun _ committed => .inl committed
      newlyAmbiguous := fun _ ambiguous => .inl ambiguous
      pending := fun row isPending => ⟨.inl isPending, id⟩
      raised := fun _ _ raised => .inl raised }
  apply sound.put free
  · simpa using depth
  · intro none
    rw [isLink] at none
    cases none
  · have nested := sound.nested
    rwa [shape] at nested
  · intro other isOther
    obtain rfl := Option.some.inj (isLink.symm.trans isOther)
    have settled := linked.settled unbroken
    rw [failed] at settled
    have deferred : LinkSound (world.frames thread) ((scope ++ [(call.row, sink)]) :: scopes)
        (emissionsOf call.row sinks) link :=
      { broken := linked.broken
        guarded := linked.guarded
        deep := linked.deep
        shallow := linked.shallow
        outermost := linked.outermost
        settled := fun _ => by
          rw [failed]
          obtain ⟨other, isLinkOther, inPending⟩ := World.mem_pending.mp present
          obtain rfl := Option.some.inj (isLink.symm.trans isLinkOther)
          exact Settled.defer settled inPending }
    apply deferred.put_due
    · simpa using depth
    · exact due_nextSink call boundary sinks
  · apply PhaseSound.nextSink sinks
    refine ⟨unraised, fun isBoundary => ?_, fun _ => ⟨never, fun closed => ?_, fun _ => ?_⟩⟩
    · rw [notBoundary] at isBoundary
      cases isBoundary
    · rw [World.frames_put_self] at closed
      exact (isOpen closed).elim
    · exact ⟨⟨link, isLink, accepts⟩, present⟩
  · apply advances.spares sound.accounted
    constructor
    · intro before after isBefore isAfter _ untracked
      obtain rfl := Option.some.inj (isBefore.symm.trans isAfter)
      rw [isScopes] at untracked
      exact untracked
    · intro row unchanged committed
      exact (committed unchanged).elim
  · exact sound.accounted.next advances

/-- A thread without open scopes goes on with its emissions, or gives them up
when their row is not committed. -/
theorem Sound.goOn
    (sound : Sound world)
    (free : world.lockFree thread = true)
    (closed : world.deferralScopes = [])
    {activity : Activity}
    {record : Record}
    (rows : ∀ row, activity.row? = some row → (world.activity thread).row? = some row)
    (due : activity.due.Sublist (world.activity thread).due)
    (dueKept : ∀ emission ∈ (world.activity thread).due,
      emission ∈ activity.due ∨ emission.1 ∉ world.record.committed)
    (raised : record = world.record ∨
      ∃ row failure, record =
          { world.record with raised := world.record.raised ++ [(row, failure)] } ∧
        (world.activity thread).row? = some row ∧ row ∉ world.pending ∧
          world.Uncommitted row)
    (phase : PhaseSound (world.put thread { world.threads thread with activity }
      world.connection [] record) thread activity) :
    Sound (world.put thread { world.threads thread with activity } world.connection []
      record) := by
  have shape := sound.openFrames_eq free
  have depth := sound.depth
  rw [shape, closed] at depth
  have noFrames : world.frames thread = [] := List.eq_nil_of_length_eq_zero depth.symm
  have sameRecord : record.calls = world.record.calls ∧
      record.committed = world.record.committed ∧ record.emitted = world.record.emitted ∧
      record.ambiguous = world.record.ambiguous := by
    rcases raised with rfl | ⟨row, failure, rfl, -⟩ <;> exact ⟨rfl, rfl, rfl, rfl⟩
  obtain ⟨calls, committed, emitted, ambiguous⟩ := sameRecord
  have advances : Advances thread world (world.put thread
      { world.threads thread with activity } world.connection [] record) :=
    { others := fun other different => World.activity_put_of_ne different
      calls := calls
      rows := by
        intro row isRow
        rw [World.activity_put_self] at isRow
        exact rows row isRow
      moves := by
        rw [World.activity_put_self]
        simp only [World.put, World.waiting, closed, emitted]
        exact ((List.Sublist.refl _).append due).subperm
      emitted := by
        change world.record.emitted ⊆ record.emitted
        rw [emitted]
        exact List.Subset.refl _
      committed := by
        change world.record.committed ⊆ record.committed
        rw [committed]
        exact List.Subset.refl _
      dueKept := by
        intro emission isDue
        rw [World.activity_put_self]
        exact (dueKept emission isDue).imp_right .inr
      newlyEmitted := by
        intro emission ran
        change emission ∈ record.emitted at ran
        rw [emitted] at ran
        exact .inl ran
      newlyCommitted := by
        intro row isCommitted
        change row ∈ record.committed at isCommitted
        rw [committed] at isCommitted
        exact .inl isCommitted
      newlyAmbiguous := by
        intro row isAmbiguous
        change row ∈ record.ambiguous at isAmbiguous
        rw [ambiguous] at isAmbiguous
        exact .inl isAmbiguous
      pending := by
        intro row isPending
        refine ⟨.inl isPending, fun never => ⟨?_, ?_⟩⟩
        · change row ∉ record.committed
          rw [committed]
          exact never.1
        · change row ∉ record.ambiguous
          rw [ambiguous]
          exact never.2
      raised := by
        intro row failure isRaised
        rcases raised with rfl | ⟨written, cause, rfl, isRow, absent, never⟩
        · exact .inl isRaised
        · rcases List.mem_append.mp isRaised with earlier | last
          · exact .inl earlier
          · obtain ⟨rfl, rfl⟩ := Prod.mk.inj (List.mem_singleton.mp last)
            exact .inr ⟨isRow, absent, never.1, fun isAmbiguous => (never.2 isAmbiguous).elim⟩ }
  apply sound.put free
  · exact depth
  · exact fun _ => noFrames
  · have nested := sound.nested
    rwa [shape] at nested
  · intro link isLink
    have linked := sound.linked link isLink
    rw [shape, closed] at linked
    exact
      { broken := linked.broken
        guarded := linked.guarded
        deep := linked.deep
        shallow := linked.shallow
        outermost := linked.outermost
        settled := fun _ => trivial }
  · exact phase
  · apply advances.spares sound.accounted
    constructor
    · intro before after isBefore isAfter _ untracked
      obtain rfl := Option.some.inj (isBefore.symm.trans isAfter)
      rw [closed] at untracked
      exact untracked
    · intro row never isCommitted
      apply (isCommitted ⟨?_, ?_⟩).elim
      · change row ∉ record.committed
        rw [committed]
        exact never.1
      · change row ∉ record.ambiguous
        rw [ambiguous]
        exact never.2
  · exact sound.accounted.next advances

theorem Sound.emitOrDefer
    (sound : Sound world)
    {call : Call}
    {boundary : Bool}
    {sink : Sink}
    {sinks : List Sink}
    (emitting : world.activity thread = .emitting call boundary (sink :: sinks))
    (free : world.lockFree thread = true)
    (kept : world.deferralScopes = [] → ConnectionKept world boundary) :
    Sound (emitOrDefer world thread call boundary sink sinks) := by
  have phase := sound.phases thread
  rw [emitting] at phase
  obtain ⟨unraised, atBoundary, inside⟩ := phase
  have ofCall : ∀ emission ∈ (world.activity thread).due, emission.1 = call.row := by
    intro emission due
    have isRow := Activity.row?_of_mem_due due
    rw [emitting] at isRow
    exact (Option.some.inj isRow).symm
  unfold PostgresConnection.emitOrDefer
  cases isScopes : world.deferralScopes with
  | cons scope scopes => exact sound.defer emitting free isScopes
  | nil =>
      have shape := sound.openFrames_eq free
      have depth := sound.depth
      rw [shape, isScopes] at depth
      have noFrames : world.frames thread = [] := List.eq_nil_of_length_eq_zero depth.symm
      have connection := kept isScopes
      unfold ConnectionKept at connection
      dsimp only
      cases isLink : world.connection with
      | none =>
          rw [isLink] at connection
          obtain ⟨never, -⟩ := inside connection
          dsimp only [World.raise]
          have isPut : ({ world.withActivity thread .running with
                record :=
                  if call.surfaces .emission then
                    { world.record with
                      raised := world.record.raised ++ [(call.row, .emission)] }
                  else world.record } : World τ) =
              world.put thread { world.threads thread with activity := .running }
                world.connection [] (world.record.raise call .emission) := by
            rw [sound.withActivity_eq_put free, isScopes]
            rfl
          rw [isPut]
          apply sound.goOn free isScopes
          · intro row isRow
            cases isRow
          · exact List.nil_sublist _
          · intro emission due
            rw [ofCall emission due]
            exact .inr never.1
          · unfold Record.raise
            split
            · refine .inr ⟨call.row, .emission, rfl, ?_, ?_, never⟩
              · rw [emitting]
                rfl
              · rw [World.pending, isLink]
                exact List.not_mem_nil
            · exact .inl rfl
          · trivial
      | some link =>
          rw [isLink] at connection
          dsimp only at connection ⊢
          have isPut : ∀ activity, world.withActivity thread activity =
              world.put thread { world.threads thread with activity } world.connection []
                world.record := by
            intro activity
            rw [sound.withActivity_eq_put free, isScopes]
          cases status : link.inTransaction with
          | true =>
              rw [status] at connection
              have notBoundary : boundary = false := by simpa using connection.symm
              obtain ⟨never, untracked, -⟩ := inside notBoundary
              rw [if_pos rfl, isPut]
              apply sound.goOn free isScopes
              · intro row isRow
                rw [emitting, ← row?_nextSink isRow]
                rfl
              · rw [emitting, due_nextSink]
                exact List.sublist_cons_self _ _
              · intro emission due
                rw [ofCall emission due]
                exact .inr never.1
              · exact .inl rfl
              · apply PhaseSound.nextSink sinks
                refine ⟨unraised, fun isBoundary => ?_, fun _ => ⟨never, fun _ => ?_, ?_⟩⟩
                · rw [notBoundary] at isBoundary
                  cases isBoundary
                · intro other isOther present
                  have tracked := untracked noFrames other isOther present
                  rwa [isScopes] at tracked
                · intro isOpen
                  rw [World.frames_put_self] at isOpen
                  exact (isOpen noFrames).elim
          | false =>
              rw [status] at connection
              have isBoundary : boundary = true := by simpa using connection.symm
              rw [if_neg (by simp), isPut]
              apply sound.goOn free isScopes
              · intro row isRow
                rw [emitting]
                exact isRow
              · rw [emitting]
                exact List.Sublist.refl _
              · intro emission due
                rw [emitting] at due
                exact .inl due
              · exact .inl rfl
              · refine ⟨unraised, isBoundary, (atBoundary isBoundary).1, ?_⟩
                rw [World.frames_put_self]
                exact noFrames

/-- An emission that runs outside of the lock. -/
theorem Sound.emitInline
    (sound : Sound world)
    {call : Call}
    {boundary : Bool}
    {sink : Sink}
    {sinks : List Sink}
    (emitting : world.activity thread = .emittingInline call boundary sink sinks) :
    Sound (emitInline world thread call boundary sink sinks) := by
  have phase := sound.phases thread
  rw [emitting] at phase
  obtain ⟨unraised, isBoundary, committed, closed⟩ := phase
  set after := PostgresConnection.emitInline world thread call boundary sink sinks with isAfter
  have sameFrames : ∀ other, after.frames other = world.frames other := by
    intro other
    by_cases same : other = thread
    · subst same
      simp [isAfter, PostgresConnection.emitInline, World.withActivity, World.frames]
    · simp [isAfter, PostgresConnection.emitInline, World.withActivity, World.frames, same]
  have ownActivity : after.activity thread = nextSink call boundary sinks := by
    simp [isAfter, PostgresConnection.emitInline, World.withActivity, World.activity]
  have sameActivity : ∀ other, other ≠ thread → after.activity other = world.activity other := by
    intro other different
    simp [isAfter, PostgresConnection.emitInline, World.withActivity, World.activity, different]
  have sameOpen : after.openFrames = world.openFrames := by
    unfold World.openFrames
    rw [show after.owner = world.owner from rfl]
    split
    · rfl
    · exact sameFrames _
  have sameDue : after.openDue = world.openDue := by
    unfold World.openDue
    rw [show after.owner = world.owner from rfl]
    split
    · rfl
    · next owner isOwner =>
        have different : owner ≠ thread := by
          rintro rfl
          exact (sound.owned owner).mp isOwner closed
        rw [sameActivity owner different]
  have advances : Advances thread world after :=
    { others := sameActivity
      calls := rfl
      rows := by
        intro row isRow
        rw [ownActivity] at isRow
        rw [emitting, ← row?_nextSink isRow]
        rfl
      moves := by
        rw [ownActivity, emitting, due_nextSink]
        apply List.Perm.subperm
        change (world.record.emitted ++ [(call.row, sink)] ++ world.waiting ++
          emissionsOf call.row sinks).Perm (world.record.emitted ++ world.waiting ++
            (call.row, sink) :: emissionsOf call.row sinks)
        have moved : ([(call.row, sink)] ++ world.waiting).Perm
            (world.waiting ++ [(call.row, sink)]) := List.perm_append_comm
        have whole := (moved.append_left world.record.emitted).append_right
          (emissionsOf call.row sinks)
        simpa using whole
      emitted := List.subset_append_left _ _
      committed := List.Subset.refl _
      dueKept := by
        intro emission due
        rw [emitting] at due
        rw [ownActivity, due_nextSink]
        rcases List.mem_cons.mp due with rfl | later
        · exact .inr (.inl (List.mem_append_right _ (List.mem_singleton.mpr rfl)))
        · exact .inl later
      newlyEmitted := by
        intro emission ran
        rcases List.mem_append.mp ran with earlier | last
        · exact .inl earlier
        · obtain rfl := List.mem_singleton.mp last
          exact .inr committed
      newlyCommitted := fun _ isCommitted => .inl isCommitted
      newlyAmbiguous := fun _ ambiguous => .inl ambiguous
      pending := fun row isPending => ⟨.inl isPending, id⟩
      raised := fun _ _ raised => .inl raised }
  refine
    { owned := ?_
      depth := ?_
      connected := ?_
      nested := ?_
      linked := ?_
      phases := ?_
      accounted := sound.accounted.next advances }
  · intro other
    rw [sameFrames]
    exact sound.owned other
  · rw [sameOpen]
    exact sound.depth
  · rw [sameOpen]
    exact sound.connected
  · rw [sameOpen]
    exact sound.nested
  · rw [sameOpen, sameDue]
    exact sound.linked
  · intro other
    by_cases same : other = thread
    · subst same
      rw [ownActivity]
      apply PhaseSound.nextSink sinks
      refine ⟨unraised, fun _ => ⟨committed, ?_⟩, fun notBoundary => ?_⟩
      · rw [sameFrames]
        exact closed
      · rw [isBoundary] at notBoundary
        cases notBoundary
    · rw [sameActivity other same]
      have otherPhase := sound.phases other
      have frames := sameFrames other
      cases activity : world.activity other with
      | running => trivial
      | writing call written | emitting call boundary sinks
      | emittingInline call boundary sink sinks =>
          rw [activity] at otherPhase
          unfold PhaseSound at otherPhase ⊢
          rw [frames]
          exact otherPhase

theorem Sound.quarantine
    (sound : Sound world)
    (free : world.lockFree thread = true)
    (closed : world.frames thread = [])
    (expectedGeneration : Nat) :
    Sound (quarantineLocked world expectedGeneration) := by
  have noScopes : world.deferralScopes = [] := by
    have depth := sound.depth
    rw [sound.openFrames_eq free, closed] at depth
    exact List.eq_nil_of_length_eq_zero depth
  unfold quarantineLocked
  split
  · exact sound
  · have reset := (sound.reset thread noScopes (.inl rfl)).regenerate
      (world.generation + 1) true
    rw [noScopes] at reset
    exact reset

/-! ## Runs -/

/-- A step finds what it relies on: the outermost scope that is left without an
exception has a transaction that did not fail, unless no emission waits for it,
and a write that hands over an emission outside of all scopes finds the
connection as its own scope left it. -/
def Undisturbed (world : World τ) : Operation τ → Prop
  | .leave thread ending => LeavesWorking world thread ending
  | .emit thread => ∀ call boundary sinks,
      world.activity thread = .emitting call boundary sinks → world.deferralScopes = [] →
      ConnectionKept world boundary
  | _ => True

/-- Every step of a run is undisturbed. -/
def UndisturbedRun (world : World τ) : List (Operation τ) → Prop
  | [] => True
  | operation :: rest => Undisturbed world operation ∧ UndisturbedRun (step world operation) rest

theorem Sound.step
    (sound : Sound world)
    {operation : Operation τ}
    (undisturbed : Undisturbed world operation) :
    Sound (step world operation) := by
  cases operation with
  | enter thread reconnects ending =>
      dsimp only [PostgresConnection.step]
      split
      · next ready =>
          simp only [Bool.and_eq_true, decide_eq_true_eq] at ready
          exact (sound.openScope ready.1 ready.2 reconnects ending).sound
      · exact sound
  | leave thread ending =>
      dsimp only [PostgresConnection.step]
      split
      · next running => exact sound.leaveRunning running undisturbed
      · next call writing => exact sound.finishWrite writing ending
      · exact sound
  | unwind thread ending =>
      dsimp only [PostgresConnection.step]
      split
      · next running => exact sound.unwindRunning running ending
      · next call written writing => exact sound.unwindWriting writing ending
      · exact sound
  | execute thread reconnects ending =>
      dsimp only [PostgresConnection.step]
      split
      · next ready =>
          simp only [Bool.and_eq_true, decide_eq_true_eq] at ready
          exact sound.execute ready.1 ready.2 reconnects ending
      · exact sound
  | write thread exported bestEffort reconnects ending =>
      dsimp only [PostgresConnection.step]
      split
      · next ready =>
          simp only [Bool.and_eq_true, decide_eq_true_eq] at ready
          exact sound.startWrite ready.1 ready.2 exported bestEffort reconnects ending
      · exact sound
  | writeEvent thread ending =>
      dsimp only [PostgresConnection.step]
      split
      · next call writing => exact sound.writeEvent writing ending
      · exact sound
  | emit thread =>
      dsimp only [PostgresConnection.step]
      split
      · next call boundary sink sinks emitting =>
          split
          · next free =>
              exact sound.emitOrDefer emitting free
                (undisturbed call boundary (sink :: sinks) emitting)
          · exact sound
      · exact sound
  | emitInline thread =>
      dsimp only [PostgresConnection.step]
      split
      · next call boundary sink sinks emitting => exact sound.emitInline emitting
      · exact sound
  | quarantine thread expectedGeneration =>
      dsimp only [PostgresConnection.step]
      split
      · next ready =>
          simp only [Bool.and_eq_true, decide_eq_true_eq, List.isEmpty_iff] at ready
          exact sound.quarantine ready.1.1 ready.2 expectedGeneration
      · exact sound

theorem Sound.run
    (sound : Sound world)
    {operations : List (Operation τ)}
    (undisturbed : UndisturbedRun world operations) :
    Sound (run world operations) := by
  induction operations generalizing world with
  | nil => exact sound
  | cons operation rest inductionHypothesis =>
      exact inductionHypothesis (sound.step undisturbed.1) undisturbed.2

/-- Emissions run at most once and only after the commit of their row; those of
a row whose transaction was opened by a scope and committed have run once, unless
the write has not yet returned; and a write whose row is committed raises no
exception but that its own commit was ambiguous. -/
structure EmissionsSafe (world : World τ) : Prop where
  atMostOnce : ∀ emission, world.record.emitted.count emission ≤ 1
  afterCommit : ∀ emission ∈ world.record.emitted, emission.1 ∈ world.record.committed
  exactlyOnce : ∀ row ∈ world.record.committed, ∀ sink ∈ row.sinks,
    world.record.emitted.count (row, sink) = 1 ∨
      ∃ thread, (row, sink) ∈ (world.activity thread).due
  returns : ∀ row failure, (row, failure) ∈ world.record.raised →
    row ∈ world.record.committed ∨ row ∈ world.record.ambiguous →
    failure = .ambiguousCommit

omit [DecidableEq τ] in
theorem Sound.emissionsSafe (sound : Sound world) : EmissionsSafe world where
  atMostOnce := List.nodup_iff_count_le_one.mp (List.nodup_append.mp sound.accounted.once).1
  afterCommit := sound.accounted.afterCommit
  exactlyOnce := by
    intro row committed sink wanted
    rcases sound.accounted.complete row committed sink wanted with ran | due
    · have once := (List.nodup_append.mp sound.accounted.once).1
      exact .inl (List.count_eq_one_of_mem once ran)
    · exact .inr due
  returns := by
    intro row failure raised committed
    obtain ⟨-, never, own⟩ := sound.accounted.lost row failure raised
    exact committed.elim (fun isCommitted => (never isCommitted).elim) own

/-- A write of its own transaction up to its commit. -/
def standaloneWrite (thread : τ) : List (Operation τ) :=
  [.write thread false false true .succeeds, .writeEvent thread .succeeds,
    .leave thread .succeeds]

/-- Between the commit of a write and its emission another thread finds its own
commit ambiguous and quarantines the connection. -/
def quarantinedRun : List (Operation Bool) :=
  standaloneWrite true ++
    [.enter false true .succeeds, .leave false (.lost false), .emit true]

end PostgresConnection
end Vinctor
