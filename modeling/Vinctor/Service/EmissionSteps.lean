import Mathlib.Data.List.Perm.Subperm
import Vinctor.Service.EmissionInvariant

/-!
# The steps of the threads keep the invariant
-/

namespace Vinctor
namespace PostgresConnection

open Foundation.GuardedLog

variable {τ : Type u}

/-! ## The record -/

/-- What a step of one thread may do to the record: emissions move from the
thread to the scopes and on to those that ran, and rows of the open transaction
become committed. -/
structure Advances (thread : τ) (before after : World τ) : Prop where
  others : ∀ other, other ≠ thread → after.activity other = before.activity other
  calls : after.record.calls = before.record.calls
  rows : ∀ row, (after.activity thread).row? = some row →
    (before.activity thread).row? = some row
  moves : (after.record.emitted ++ after.waiting ++ (after.activity thread).due).Subperm
    (before.record.emitted ++ before.waiting ++ (before.activity thread).due)
  emitted : before.record.emitted ⊆ after.record.emitted
  committed : before.record.committed ⊆ after.record.committed
  dueKept : ∀ emission ∈ (before.activity thread).due,
    emission ∈ (after.activity thread).due ∨ emission ∈ after.record.emitted ∨
      emission.1 ∉ before.record.committed
  newlyEmitted : ∀ emission ∈ after.record.emitted,
    emission ∈ before.record.emitted ∨ emission.1 ∈ after.record.committed
  newlyCommitted : ∀ row ∈ after.record.committed, row ∈ before.record.committed ∨
    row ∈ before.pending ∧ ∀ sink ∈ row.sinks,
      (row, sink) ∈ after.record.emitted ∨ (row, sink) ∈ (after.activity thread).due
  newlyAmbiguous : ∀ row ∈ after.record.ambiguous,
    row ∈ before.record.ambiguous ∨ row ∈ before.pending
  pending : ∀ row ∈ after.pending,
    (row ∈ before.pending ∨
      (before.activity thread).row? = some row ∧ before.Unraised row ∧
        before.Uncommitted row) ∧
      (before.Uncommitted row → after.Uncommitted row)
  raised : ∀ row failure, (row, failure) ∈ after.record.raised →
    (row, failure) ∈ before.record.raised ∨
      (before.activity thread).row? = some row ∧ row ∉ after.pending ∧
        row ∉ after.record.committed ∧
        (row ∈ after.record.ambiguous → failure = .ambiguousCommit)

namespace Advances

variable {thread : τ} {before after : World τ}

/-- Emissions come from the record, from the scopes or from the thread. -/
theorem known (advances : Advances thread before after) :
    ∀ emission ∈ after.record.emitted ++ after.waiting,
      emission ∈ before.record.emitted ++ before.waiting ∨
        emission ∈ (before.activity thread).due := by
  intro emission present
  exact List.mem_append.mp (advances.moves.subset (List.mem_append_left _ present))

/-- A step brings up no row of its own. -/
theorem knows
    (advances : Advances thread before after)
    {row : Row}
    (knows : after.Knows row) :
    before.Knows row := by
  have writes : (before.activity thread).row? = some row → before.Knows row :=
    fun isRow => .inr (.inr (.inr (.inr (.inr ⟨thread, isRow⟩))))
  rcases knows with pending | committed | ambiguous | ⟨failure, raised⟩ | ⟨sink, present⟩ |
    ⟨other, isRow⟩
  · rcases (advances.pending row pending).1 with earlier | ⟨isRow, -⟩
    · exact .inl earlier
    · exact writes isRow
  · rcases advances.newlyCommitted row committed with earlier | ⟨pending, -⟩
    · exact .inr (.inl earlier)
    · exact .inl pending
  · rcases advances.newlyAmbiguous row ambiguous with earlier | pending
    · exact .inr (.inr (.inl earlier))
    · exact .inl pending
  · rcases advances.raised row failure raised with earlier | ⟨isRow, -⟩
    · exact .inr (.inr (.inr (.inl ⟨failure, earlier⟩)))
    · exact writes isRow
  · rcases advances.known _ present with earlier | due
    · exact .inr (.inr (.inr (.inr (.inl ⟨sink, earlier⟩))))
    · exact writes (Activity.row?_of_mem_due due)
  · by_cases same : other = thread
    · exact writes (advances.rows row (same ▸ isRow))
    · rw [advances.others other same] at isRow
      exact .inr (.inr (.inr (.inr (.inr ⟨other, isRow⟩))))

end Advances

theorem Accounted.next
    {thread : τ}
    {before after : World τ}
    (accounted : Accounted before)
    (advances : Advances thread before after) :
    Accounted after := by
  have ofThread : ∀ emission ∈ (before.activity thread).due, ∀ other, other ≠ thread →
      emission ∉ (before.activity other).due := by
    intro emission due other different otherDue
    exact accounted.distinct other thread different emission.1
      (Activity.row?_of_mem_due otherDue) (Activity.row?_of_mem_due due)
  have once : (before.record.emitted ++ before.waiting ++ (before.activity thread).due).Nodup :=
    List.nodup_append.mpr ⟨accounted.once, accounted.dueOnce thread,
      fun emission present other due same =>
        accounted.dueNew thread other due (same ▸ present)⟩
  have stillOnce :
      (after.record.emitted ++ after.waiting ++ (after.activity thread).due).Nodup := by
    obtain ⟨moved, permuted, within⟩ := advances.moves
    exact permuted.nodup_iff.mp (once.sublist within)
  have known := advances.known
  obtain ⟨waitingOnce, dueOnce, apart⟩ := List.nodup_append.mp stillOnce
  refine
    { bounded := ?_
      distinct := ?_
      once := waitingOnce
      dueOnce := ?_
      dueNew := ?_
      afterCommit := ?_
      complete := ?_
      lost := ?_
      uncommitted := ?_ }
  · intro row knows
    rw [advances.calls]
    exact accounted.bounded row (advances.knows knows)
  · -- No thread takes over the row of another one.
    intro first second different row isFirst isSecond
    have earlier : ∀ other, (after.activity other).row? = some row →
        (before.activity other).row? = some row := by
      intro other isRow
      by_cases same : other = thread
      · subst same
        exact advances.rows row isRow
      · rwa [advances.others other same] at isRow
    exact accounted.distinct first second different row (earlier first isFirst)
      (earlier second isSecond)
  · intro other
    by_cases same : other = thread
    · subst same
      exact dueOnce
    · rw [advances.others other same]
      exact accounted.dueOnce other
  · intro other emission due present
    by_cases same : other = thread
    · subst same
      exact apart emission present emission due rfl
    · rw [advances.others other same] at due
      rcases known emission present with earlier | ofOther
      · exact accounted.dueNew other emission due earlier
      · exact ofThread emission ofOther other same due
  · intro emission ran
    rcases advances.newlyEmitted emission ran with earlier | committed
    · exact advances.committed (accounted.afterCommit emission earlier)
    · exact committed
  · intro row committed sink wanted
    rcases advances.newlyCommitted row committed with earlier | ⟨-, covered⟩
    · rcases accounted.complete row earlier sink wanted with ran | ⟨other, due⟩
      · exact .inl (advances.emitted ran)
      · by_cases same : other = thread
        · subst same
          rcases advances.dueKept _ due with stillDue | ran | never
          · exact .inr ⟨other, stillDue⟩
          · exact .inl ran
          · exact (never earlier).elim
        · exact .inr ⟨other, by rwa [advances.others other same]⟩
    · exact (covered sink wanted).imp_right fun due => ⟨thread, due⟩
  · intro row failure raised
    rcases advances.raised row failure raised with earlier | ⟨-, isLost⟩
    · obtain ⟨notPending, notCommitted, own⟩ := accounted.lost row failure earlier
      refine ⟨?_, ?_, ?_⟩
      · intro pending
        rcases (advances.pending row pending).1 with wasPending | ⟨-, unraised, -⟩
        · exact notPending wasPending
        · exact unraised failure earlier
      · intro committed
        rcases advances.newlyCommitted row committed with wasCommitted | ⟨wasPending, -⟩
        · exact notCommitted wasCommitted
        · exact notPending wasPending
      · intro ambiguous
        rcases advances.newlyAmbiguous row ambiguous with wasAmbiguous | wasPending
        · exact own wasAmbiguous
        · exact (notPending wasPending).elim
    · exact isLost
  · intro row pending
    obtain ⟨origin, keeps⟩ := advances.pending row pending
    rcases origin with wasPending | ⟨-, -, never⟩
    · exact keeps (accounted.uncommitted row wasPending)
    · exact keeps never

/-- A transaction that no scope tracks stays so, and only a transaction that the
scopes track is committed. -/
structure KeepsTracks (before after : World τ) : Prop where
  untracked : ∀ link left, before.connection = some link → after.connection = some left →
    left.session.pending ≠ [] →
    before.deferralScopes.length < link.session.scopes.length →
    after.deferralScopes.length < left.session.scopes.length
  commits : ∀ row, before.Uncommitted row → ¬ after.Uncommitted row →
    ∃ link, before.connection = some link ∧ row ∈ link.session.pending ∧
      link.session.scopes.length ≤ before.deferralScopes.length

theorem World.mem_pending
    {world : World τ}
    {row : Row} :
    row ∈ world.pending ↔
      ∃ link, world.connection = some link ∧ row ∈ link.session.pending := by
  unfold World.pending
  split
  · next none => simp [none]
  · next link isLink => simp [isLink]

theorem Advances.spares
    {thread : τ}
    {before after : World τ}
    (advances : Advances thread before after)
    (accounted : Accounted before)
    (tracks : KeepsTracks before after) :
    Spares thread before after where
  committed := advances.committed
  raised := by
    intro other different row isRow unraised failure raised
    rcases advances.raised row failure raised with earlier | ⟨own, -⟩
    · exact unraised failure earlier
    · exact accounted.distinct other thread different row isRow own
  uncommitted := by
    intro other different row isRow untracked never
    constructor
    · intro left isLeft pending
      have nonempty : left.session.pending ≠ [] := List.ne_nil_of_mem pending
      rcases (advances.pending row (World.mem_pending.mpr ⟨left, isLeft, pending⟩)).1 with
        wasPending | ⟨own, -⟩
      · obtain ⟨link, isLink, inLink⟩ := World.mem_pending.mp wasPending
        exact tracks.untracked link left isLink isLeft nonempty (untracked link isLink inLink)
      · exact (accounted.distinct other thread different row isRow own).elim
    · by_contra committed
      obtain ⟨link, isLink, pending, tracked⟩ := tracks.commits row never committed
      have := untracked link isLink pending
      omega

section Steps

variable [DecidableEq τ] {world : World τ} {thread : τ}

omit [DecidableEq τ] in
/-- The invariant does not read the generation. -/
theorem Sound.regenerate
    (sound : Sound world)
    (generation : Nat)
    (quarantined : Bool) :
    Sound { world with generation, quarantined } where
  owned := sound.owned
  depth := sound.depth
  connected := sound.connected
  nested := sound.nested
  linked := sound.linked
  phases := sound.phases
  accounted :=
    { bounded := sound.accounted.bounded
      distinct := sound.accounted.distinct
      once := sound.accounted.once
      dueOnce := sound.accounted.dueOnce
      dueNew := sound.accounted.dueNew
      afterCommit := sound.accounted.afterCommit
      complete := sound.accounted.complete
      lost := sound.accounted.lost
      uncommitted := sound.accounted.uncommitted }

/-- A thread that has the lock and keeps its state. -/
theorem Sound.put_self
    (sound : Sound world)
    (free : world.lockFree thread = true)
    (connection : Option Link)
    (scopes : List (List Emission))
    (record : Record) :
    world.put thread (world.threads thread) connection scopes record =
      { world with connection, deferralScopes := scopes, record } := by
  have owner : (if (world.threads thread).frames.isEmpty then none else some thread) =
      world.owner := by
    have owned := sound.owned thread
    unfold World.frames at owned
    by_cases closed : (world.threads thread).frames = []
    · have notOwn : world.owner ≠ some thread := fun own => (owned.mp own) closed
      simp only [World.lockFree, Bool.or_eq_true, decide_eq_true_eq] at free
      rcases free with none | own
      · simp [closed, none]
      · exact (notOwn own).elim
    · rw [owned.mpr closed]
      simp [closed]
  simp only [World.put, owner, Function.update_eq_self]

omit [DecidableEq τ] in
/-- A step that only replaces the connection. -/
theorem Advances.relink
    {connection : Option Link}
    (subset : World.pending { world with connection } ⊆ world.pending) :
    Advances thread world { world with connection } where
  others := fun _ _ => rfl
  calls := rfl
  rows := fun _ isRow => isRow
  moves := List.Subperm.refl _
  emitted := List.Subset.refl _
  committed := List.Subset.refl _
  dueKept := fun _ due => .inl due
  newlyEmitted := fun _ ran => .inl ran
  newlyCommitted := fun _ committed => .inl committed
  newlyAmbiguous := fun _ ambiguous => .inl ambiguous
  pending := fun _ present => ⟨.inl (subset present), id⟩
  raised := fun _ _ raised => .inl raised

omit [DecidableEq τ] in
/-- A missing or broken connection is given up or replaced. -/
theorem Sound.reset
    (sound : Sound world)
    (thread : τ)
    (closed : world.deferralScopes = [])
    {connection : Option Link}
    (isReset : connection = none ∨ connection = some .fresh) :
    Sound { world with connection } := by
  have noFrames : world.openFrames = [] := by
    have depth := sound.depth
    rw [closed] at depth
    exact List.eq_nil_of_length_eq_zero depth.symm
  have allClosed : ∀ other, world.frames other = [] := by
    intro other
    by_contra isOpen
    have own := (sound.owned other).mpr isOpen
    rw [World.openFrames, own] at noFrames
    exact isOpen noFrames
  have noRows : World.pending { world with connection } = [] := by
    rcases isReset with rfl | rfl <;> rfl
  have advances : Advances thread world { world with connection } := by
    apply Advances.relink
    rw [noRows]
    exact List.nil_subset _
  have untracked : ∀ row, World.Untracked { world with connection } row := by
    intro row link isLink pending
    have present : row ∈ World.pending { world with connection } :=
      World.mem_pending.mpr ⟨link, isLink, pending⟩
    rw [noRows] at present
    cases present
  refine
    { owned := sound.owned
      depth := sound.depth
      connected := fun _ => noFrames
      nested := sound.nested
      linked := ?_
      phases := ?_
      accounted := ?_ }
  · intro link isLink
    have isFresh : link = .fresh := by
      rcases isReset with rfl | rfl
      · cases isLink
      · exact (Option.some.inj isLink).symm
    subst isFresh
    have shape : World.openFrames { world with connection } = [] := noFrames
    rw [shape]
    dsimp only
    rw [closed]
    exact .fresh
  · intro other
    have phase := sound.phases other
    have isClosed := allClosed other
    change PhaseSound { world with connection } other (world.activity other)
    cases activity : world.activity other with
    | running => trivial
    | writing call written =>
        rw [activity] at phase
        exact (phase.1 isClosed).elim
    | emitting call boundary sinks =>
        rw [activity] at phase
        refine ⟨phase.1, phase.2.1, fun inside => ?_⟩
        exact ⟨(phase.2.2 inside).1, fun _ => untracked call.row,
          fun isOpen => (isOpen isClosed).elim⟩
    | emittingInline call boundary sink sinks =>
        rw [activity] at phase
        exact phase
  · exact sound.accounted.next advances

omit [DecidableEq τ] in
/-- The connection to use is part of a sound world, in which nothing else
changed. -/
theorem Sound.activeConnection
    (sound : Sound world)
    (thread : τ)
    (reconnects : Bool) :
    Sound (activeConnection world reconnects).2 ∧
      ∃ generation quarantined, (activeConnection world reconnects).2 =
        { world with
          connection := (activeConnection world reconnects).1, generation, quarantined } := by
  unfold PostgresConnection.activeConnection
  split
  · exact ⟨sound, _, _, rfl⟩
  · next isClosed =>
      have closed : world.deferralScopes = [] := by simpa using isClosed
      split
      · next link isLink =>
          split
          · exact ⟨sound, world.generation, world.quarantined, by simp [← isLink]⟩
          · split
            · exact ⟨(sound.reset thread closed (.inr rfl)).regenerate _ _, _, _, rfl⟩
            · exact ⟨(sound.reset thread closed (.inl rfl)).regenerate _ _, _, _, rfl⟩
      · next isNone =>
          split
          · exact ⟨(sound.reset thread closed (.inr rfl)).regenerate _ _, _, _, rfl⟩
          · exact ⟨sound, world.generation, world.quarantined, by simp [← isNone]⟩

/-- A thread between its statements replaces the session of the connection by
one with no more rows. -/
theorem Sound.relink
    (sound : Sound world)
    (free : world.lockFree thread = true)
    (quiet : world.activity thread = .running ∨
      ∃ call, world.activity thread = .writing call false)
    {link left : Link}
    (isLink : world.connection = some link)
    (linked : LinkSound world.openFrames world.deferralScopes world.openDue left)
    (subset : left.session.pending ⊆ link.session.pending)
    (levels : left.session.pending ≠ [] →
      link.session.scopes.length ≤ left.session.scopes.length) :
    Sound (world.withConnection left) := by
  have rows : World.pending { world with connection := some left } ⊆ world.pending := by
    intro row present
    exact World.mem_pending.mpr ⟨link, isLink, subset present⟩
  have advances : Advances thread world { world with connection := some left } :=
    .relink rows
  have same := sound.put_self free (some left) world.deferralScopes world.record
  have shape : world.openFrames = world.frames thread := sound.openFrames_eq free
  change Sound { world with connection := some left }
  rw [← same] at advances ⊢
  apply sound.put free
  · rw [sound.depth, shape]
    rfl
  · intro none
    cases none
  · have nested := sound.nested
    rwa [shape] at nested
  · intro other isOther
    obtain rfl := Option.some.inj isOther
    rw [same]
    rw [shape] at linked
    exact linked
  · rw [same]
    have phase := sound.phases thread
    change PhaseSound _ thread (world.activity thread)
    rcases quiet with running | ⟨call, writing⟩
    · rw [running]
      trivial
    · rw [writing] at phase ⊢
      obtain ⟨isOpen, unraised, never, absent, -⟩ := phase
      refine ⟨isOpen, unraised, never, fun _ present => absent rfl (rows present), ?_⟩
      intro written
      cases written
  · apply advances.spares sound.accounted
    rw [same]
    constructor
    · intro before after isBefore isAfter nonempty untracked
      obtain rfl := Option.some.inj (isLink.symm.trans isBefore)
      obtain rfl := Option.some.inj isAfter
      exact Nat.lt_of_lt_of_le untracked (levels nonempty)
    · intro row never committed
      exact (committed never).elim
  · exact sound.accounted.next advances

omit [DecidableEq τ] in
/-- Rows of the connection to use were known before. -/
theorem knows_activeConnection
    {reconnects : Bool}
    {row : Row}
    (knows : (activeConnection world reconnects).2.Knows row) :
    world.Knows row := by
  have reset : ∀ link, link = none ∨ link = some Link.fresh → ∀ generation quarantined,
      World.Knows { world with connection := link, generation, quarantined } row →
        world.Knows row := by
    rintro link isReset generation quarantined (pending | known)
    · rcases isReset with rfl | rfl <;> cases pending
    · exact .inr known
  unfold activeConnection at knows
  split at knows
  · exact knows
  · split at knows
    · split at knows
      · exact knows
      · split at knows
        · exact reset _ (.inr rfl) _ _ knows
        · exact reset _ (.inl rfl) _ _ knows
    · split at knows
      · exact reset _ (.inr rfl) _ _ knows
      · exact knows

/-! ## Statements that fail -/

/-- What a statement leaves of a connection that it does not change otherwise. -/
def Link.Degrades (link left : Link) : Prop :=
  left = link ∨ left = { link with session := link.session.fail } ∨ left = .lost

theorem Link.statement_cases (link : Link) (ending : Ending) (success : Session Row) :
    ending = .succeeds ∧ link.refuses = false ∧
        link.statement ending success = { link with session := success } ∨
      ¬ (ending = .succeeds ∧ link.refuses = false) ∧
        link.Degrades (link.statement ending success) := by
  cases ending with
  | succeeds =>
      cases refuses : link.refuses with
      | false => exact .inl ⟨rfl, rfl, by simp [Link.statement, refuses]⟩
      | true => exact .inr ⟨by simp, .inl (by simp [Link.statement, refuses])⟩
  | fails =>
      refine .inr ⟨by simp, ?_⟩
      dsimp only [Link.statement]
      split
      · exact .inl rfl
      · exact .inr (.inl rfl)
  | lost takesEffect => exact .inr ⟨by simp, .inr (.inr rfl)⟩

theorem Link.Degrades.pending_subset
    {link left : Link}
    (degrades : link.Degrades left)
    (guarded : link.session.IsGuarded) :
    left.session.pending ⊆ link.session.pending := by
  rcases degrades with rfl | rfl | rfl
  · exact List.Subset.refl _
  · rcases guarded.cross_rows .fail with ⟨-, within⟩ | ⟨-, none⟩
    · exact within.subset
    · have isEmpty : link.session.fail.pending = [] := none
      dsimp only
      rw [isEmpty]
      exact List.nil_subset _
  · exact List.nil_subset _

theorem Sound.degrade
    (sound : Sound world)
    (free : world.lockFree thread = true)
    (quiet : world.activity thread = .running ∨
      ∃ call, world.activity thread = .writing call false)
    {link left : Link}
    (isLink : world.connection = some link)
    (degrades : link.Degrades left) :
    Sound (world.withConnection left) := by
  have linked := sound.linked link isLink
  apply sound.relink free quiet isLink
  · rcases degrades with rfl | rfl | rfl
    · exact linked
    · exact linked.fail
    · exact .lost
  · exact degrades.pending_subset linked.guarded
  · intro nonempty
    rcases degrades with rfl | rfl | rfl
    · exact Nat.le_refl _
    · exact Nat.le_of_eq (length_scopes_fail _).symm
    · exact (nonempty rfl).elim

omit [DecidableEq τ] in
theorem knows_degrade
    {link left : Link}
    (sound : Sound world)
    (isLink : world.connection = some link)
    (degrades : link.Degrades left)
    {row : Row}
    (knows : (world.withConnection left).Knows row) :
    world.Knows row := by
  rcases knows with pending | known
  · exact .inl (World.mem_pending.mpr ⟨link, isLink,
      degrades.pending_subset (sound.linked link isLink).guarded pending⟩)
  · exact .inr known

/-! ## Scopes are opened -/

theorem World.openDue_of_running
    (free : world.lockFree thread = true)
    (running : world.activity thread = .running) :
    world.openDue = [] := by
  simp only [World.lockFree, Bool.or_eq_true, decide_eq_true_eq] at free
  rcases free with none | own
  · rw [World.openDue, none]
  · rw [World.openDue, own]
    dsimp only
    rw [running]
    rfl

/-- The scope that a thread enters. -/
theorem LinkSound.enter
    {frames : List Frame}
    {scopes : List (List Emission)}
    {link : Link}
    (sound : LinkSound frames scopes [] link)
    (depth : scopes.length = frames.length)
    (accepts : link.refuses = false)
    (due : List Emission)
    (generation : Nat) :
    LinkSound ({ boundary := !link.inTransaction, generation } :: frames) ([] :: scopes) due
      { link with session := link.session.enter } := by
  simp only [Link.refuses, Bool.or_eq_false_iff] at accepts
  obtain ⟨unbroken, working⟩ := accepts
  have settled := sound.settled unbroken
  rw [working] at settled
  refine
    { broken := fun broken => by simp [unbroken] at broken
      guarded := sound.guarded.enter
      deep := fun _ => Nat.succ_le_succ (sound.deep unbroken)
      shallow := Nat.succ_le_succ sound.shallow
      outermost := ?_
      settled := fun _ => ?_ }
  · intro _ frame last
    cases frames with
    | nil =>
        obtain rfl : _ = frame := Option.some.inj last
        have noScopes : scopes = [] := List.eq_nil_of_length_eq_zero depth
        subst noScopes
        cases levels : link.session.scopes with
        | nil => simp [Link.inTransaction, Session.enter, unbroken, levels]
        | cons level outer => simp [Link.inTransaction, Session.enter, unbroken, levels]
    | cons outer frames =>
        rw [List.getLast?_cons_cons] at last
        rw [sound.outermost unbroken frame last]
        exact Nat.succ_inj.symm
  · dsimp only
    rw [Session.enter, working]
    exact settled.enter

/-- A thread enters a scope. -/
def World.pushed (world : World τ) (thread : τ) (link : Link) : World τ :=
  world.put thread
    { world.threads thread with
      frames :=
        { boundary := !link.inTransaction, generation := world.generation } ::
          world.frames thread }
    (some { link with session := link.session.enter }) ([] :: world.deferralScopes)
    world.record

theorem Advances.push
    (running : world.activity thread = .running)
    {link : Link}
    (isLink : world.connection = some link) :
    Advances thread world (world.pushed thread link) where
  others := fun other different => World.activity_put_of_ne different
  calls := rfl
  rows := by
    intro row isRow
    rwa [World.pushed, World.activity_put_self] at isRow
  moves := by
    rw [World.pushed, World.activity_put_self]
    exact List.Subperm.refl _
  emitted := List.Subset.refl _
  committed := List.Subset.refl _
  dueKept := by
    intro emission due
    rw [running] at due
    cases due
  newlyEmitted := fun _ ran => .inl ran
  newlyCommitted := fun _ committed => .inl committed
  newlyAmbiguous := fun _ ambiguous => .inl ambiguous
  pending := fun row present =>
    ⟨.inl (World.mem_pending.mpr ⟨link, isLink, present⟩), id⟩
  raised := fun _ _ raised => .inl raised

theorem Sound.push
    (sound : Sound world)
    (free : world.lockFree thread = true)
    (running : world.activity thread = .running)
    {link : Link}
    (isLink : world.connection = some link)
    (accepts : link.refuses = false) :
    Sound (world.pushed thread link) := by
  have shape := sound.openFrames_eq free
  have linked := sound.linked link isLink
  rw [World.openDue_of_running free running, shape] at linked
  have depth := sound.depth
  rw [shape] at depth
  have unbroken : link.broken = false := (Bool.or_eq_false_iff.mp accepts).1
  have advances := Advances.push running isLink
  apply sound.put free
  · simp [depth]
  · intro none
    cases none
  · intro frame inner
    cases frames : world.frames thread with
    | nil => simp [frames] at inner
    | cons outer rest =>
        have nested := sound.nested
        rw [shape, frames] at nested
        dsimp only at inner
        rw [frames, List.dropLast_cons_cons] at inner
        rcases List.mem_cons.mp inner with rfl | deeper
        · -- A scope inside another one finds the transaction open.
          have deep := linked.deep unbroken
          rw [depth, frames] at deep
          cases levels : link.session.scopes with
          | nil => simp [levels] at deep
          | cons level levels => simp [Link.inTransaction, levels]
        · exact nested frame deeper
  · intro other isOther
    obtain rfl := Option.some.inj isOther
    exact linked.enter depth accepts _ world.generation
  · change PhaseSound _ thread (world.activity thread)
    rw [running]
    trivial
  · apply advances.spares sound.accounted
    constructor
    · intro before after isBefore isAfter _ untracked
      obtain rfl := Option.some.inj (isLink.symm.trans isBefore)
      obtain rfl := Option.some.inj isAfter
      exact Nat.succ_lt_succ untracked
    · intro row never committed
      exact (committed never).elim
  · exact sound.accounted.next advances

/-- Entry of a scope by a thread that runs. -/
structure Opened (world : World τ) (thread : τ) (entered : Bool) (after : World τ) : Prop where
  sound : Sound after
  free : after.lockFree thread = true
  running : after.activity thread = .running
  record : after.record = world.record
  knows : ∀ row, after.Knows row → world.Knows row
  isOpen : entered = true → after.frames thread ≠ []

theorem Sound.openScope
    (sound : Sound world)
    (free : world.lockFree thread = true)
    (running : world.activity thread = .running)
    (reconnects : Bool)
    (ending : Ending) :
    Opened world thread (openScope world thread reconnects ending).1
      (openScope world thread reconnects ending).2 := by
  obtain ⟨activeSound, generation, quarantined, isActive⟩ :=
    sound.activeConnection thread reconnects
  have activeKnows : ∀ row, (PostgresConnection.activeConnection world reconnects).2.Knows row →
      world.Knows row := fun row => knows_activeConnection
  unfold PostgresConnection.openScope
  rcases found : PostgresConnection.activeConnection world reconnects with ⟨connection, active⟩
  rw [found] at activeSound isActive activeKnows
  dsimp only at activeSound isActive activeKnows
  have activeFree : active.lockFree thread = true := by
    rw [isActive]
    exact free
  have activeRunning : active.activity thread = .running := by
    rw [isActive]
    exact running
  have sameRecord : active.record = world.record := by
    rw [isActive]
  have isConnection : active.connection = connection := by
    rw [isActive]
  cases connection with
  | none =>
      exact ⟨activeSound, activeFree, activeRunning, sameRecord, activeKnows,
        fun entered => by simp at entered⟩
  | some link =>
      dsimp only
      rcases link.statement_cases ending link.session.enter with
        ⟨succeeds, accepts, isEntered⟩ | ⟨fails, degrades⟩
      · rw [if_pos ⟨succeeds, accepts⟩, isEntered]
        have pushed := activeSound.push activeFree activeRunning isConnection accepts
        have advances := Advances.push activeRunning isConnection
        refine ⟨pushed, ?_, ?_, sameRecord, fun row knows => activeKnows row (advances.knows knows), ?_⟩
        · simp [World.withFrames, World.lockFree]
        · simpa [World.withFrames, World.withConnection, World.activity] using activeRunning
        · simp [World.withFrames, World.frames]
      · rw [if_neg fails]
        exact ⟨activeSound.degrade activeFree (.inl activeRunning) isConnection degrades,
          activeFree, activeRunning, sameRecord,
          fun row knows => activeKnows row (knows_degrade activeSound isConnection degrades knows),
          fun entered => by simp at entered⟩

/-! ## Statements outside of the writes -/

theorem LinkSound.untracked
    {link : Link}
    {due : List Emission}
    (sound : LinkSound [] [] due link)
    (idle : link.inTransaction = false) :
    LinkSound [] [] due { link with session := link.session.enter } := by
  simp only [Link.inTransaction, Bool.or_eq_false_iff, Bool.not_eq_false',
    List.isEmpty_iff] at idle
  exact
    { broken := fun broken => by simp [idle.1] at broken
      guarded := sound.guarded.enter
      deep := fun _ => Nat.zero_le _
      shallow := by simp [Session.enter, idle.2]
      outermost := fun _ frame last => by cases last
      settled := fun _ => trivial }

theorem Sound.execute
    (sound : Sound world)
    (free : world.lockFree thread = true)
    (running : world.activity thread = .running)
    (reconnects : Bool)
    (ending : Ending) :
    Sound (execute world reconnects ending) := by
  obtain ⟨activeSound, generation, quarantined, isActive⟩ :=
    sound.activeConnection thread reconnects
  unfold PostgresConnection.execute
  rcases found : PostgresConnection.activeConnection world reconnects with ⟨connection, active⟩
  rw [found] at activeSound isActive
  dsimp only at activeSound isActive
  have activeFree : active.lockFree thread = true := by
    rw [isActive]
    exact free
  have activeRunning : active.activity thread = .running := by
    rw [isActive]
    exact running
  have isConnection : active.connection = connection := by
    rw [isActive]
  have ends : ∀ link : Link, link.Degrades (link.statement ending link.session) := by
    intro link
    rcases link.statement_cases ending link.session with ⟨-, -, same⟩ | ⟨-, degrades⟩
    · exact .inl same
    · exact degrades
  cases connection with
  | none => exact activeSound
  | some link =>
      dsimp only
      cases status : link.inTransaction with
      | true =>
          rw [if_pos rfl]
          exact activeSound.degrade activeFree (.inl activeRunning) isConnection (ends link)
      | false =>
          rw [if_neg (by simp)]
          have linked := activeSound.linked link isConnection
          -- An idle connection has no open scopes.
          have noScopes : active.deferralScopes = [] := by
            have idle := status
            simp only [Link.inTransaction, Bool.or_eq_false_iff, Bool.not_eq_false',
              List.isEmpty_iff] at idle
            have deep := linked.deep idle.1
            rw [idle.2] at deep
            exact List.eq_nil_of_length_eq_zero (Nat.le_zero.mp deep)
          have noFrames : active.openFrames = [] := by
            have depth := activeSound.depth
            rw [noScopes] at depth
            exact List.eq_nil_of_length_eq_zero depth.symm
          have begun : Sound
              (active.withConnection { link with session := link.session.enter }) := by
            apply activeSound.relink activeFree (.inl activeRunning) isConnection
            · rw [noScopes, noFrames] at linked ⊢
              exact linked.untracked status
            · exact List.Subset.refl _
            · exact fun _ => Nat.le_succ _
          exact begun.degrade activeFree (.inl activeRunning) rfl (ends _)

/-! ## Writes start -/

omit [DecidableEq τ] in
theorem Sound.count (sound : Sound world) :
    Sound { world with record := { world.record with calls := world.record.calls + 1 } } where
  owned := sound.owned
  depth := sound.depth
  connected := sound.connected
  nested := sound.nested
  linked := sound.linked
  phases := sound.phases
  accounted :=
    { bounded := fun row knows => Nat.lt_succ_of_lt (sound.accounted.bounded row knows)
      distinct := sound.accounted.distinct
      once := sound.accounted.once
      dueOnce := sound.accounted.dueOnce
      dueNew := sound.accounted.dueNew
      afterCommit := sound.accounted.afterCommit
      complete := sound.accounted.complete
      lost := sound.accounted.lost
      uncommitted := sound.accounted.uncommitted }

theorem emissionsOf_nodup (row : Row) : (emissionsOf row row.sinks).Nodup := by
  unfold emissionsOf Row.sinks
  split <;> simp

/-- A thread changes its activity only. -/
theorem Sound.withActivity_eq_put
    (sound : Sound world)
    (free : world.lockFree thread = true)
    (activity : Activity) :
    world.withActivity thread activity =
      world.put thread { world.threads thread with activity } world.connection
        world.deferralScopes world.record := by
  have same := sound.put_self free world.connection world.deferralScopes world.record
  have owner := congrArg World.owner same
  simp only [World.put] at owner
  simp only [World.withActivity, World.put, owner]

theorem Sound.beginWrite
    (sound : Sound world)
    (free : world.lockFree thread = true)
    (running : world.activity thread = .running)
    (isOpen : world.frames thread ≠ [])
    {call : Call}
    (unknown : ¬ world.Knows call.row)
    (counted : call.row.number < world.record.calls) :
    Sound (world.withActivity thread (.writing call false)) := by
  rw [sound.withActivity_eq_put free]
  have shape := sound.openFrames_eq free
  simp only [World.Knows, not_or, not_exists] at unknown
  obtain ⟨notPending, notCommitted, notAmbiguous, notRaised, notEmitted, notOthers⟩ := unknown
  apply sound.put free
  · rw [sound.depth, shape]
    rfl
  · intro none
    have closed := sound.connected none
    rwa [shape] at closed
  · have nested := sound.nested
    rwa [shape] at nested
  · intro link isLink
    have linked := sound.linked link isLink
    rw [World.openDue_of_running free running, shape] at linked
    exact
      { broken := linked.broken
        guarded := linked.guarded
        deep := linked.deep
        shallow := linked.shallow
        outermost := linked.outermost
        settled := fun unbroken => (linked.settled unbroken).more_due (List.nil_subset _) }
  · refine ⟨?_, notRaised, ⟨notCommitted, notAmbiguous⟩, fun _ => notPending, ?_⟩
    · rw [World.frames_put_self]
      exact isOpen
    · intro written
      cases written
  · constructor
    · exact List.Subset.refl _
    · exact fun _ _ _ _ unraised => unraised
    · exact fun _ _ _ _ untracked never => ⟨untracked, never⟩
  · refine
      { bounded := ?_
        distinct := ?_
        once := sound.accounted.once
        dueOnce := ?_
        dueNew := ?_
        afterCommit := sound.accounted.afterCommit
        complete := ?_
        lost := sound.accounted.lost
        uncommitted := sound.accounted.uncommitted }
    · rintro row (pending | committed | ambiguous | raised | emitted | ⟨other, isRow⟩)
      · exact sound.accounted.bounded row (.inl pending)
      · exact sound.accounted.bounded row (.inr (.inl committed))
      · exact sound.accounted.bounded row (.inr (.inr (.inl ambiguous)))
      · exact sound.accounted.bounded row (.inr (.inr (.inr (.inl raised))))
      · exact sound.accounted.bounded row (.inr (.inr (.inr (.inr (.inl emitted)))))
      · by_cases same : other = thread
        · subst same
          rw [World.activity_put_self] at isRow
          obtain rfl : call.row = row := Option.some.inj isRow
          exact counted
        · rw [World.activity_put_of_ne same] at isRow
          exact sound.accounted.bounded row (.inr (.inr (.inr (.inr (.inr ⟨other, isRow⟩)))))
    · intro first second different row isFirst isSecond
      by_cases firstSame : first = thread
      · subst firstSame
        rw [World.activity_put_self] at isFirst
        rw [World.activity_put_of_ne different.symm] at isSecond
        obtain rfl : call.row = row := Option.some.inj isFirst
        exact notOthers second isSecond
      · rw [World.activity_put_of_ne firstSame] at isFirst
        by_cases secondSame : second = thread
        · subst secondSame
          rw [World.activity_put_self] at isSecond
          obtain rfl : call.row = row := Option.some.inj isSecond
          exact notOthers first isFirst
        · rw [World.activity_put_of_ne secondSame] at isSecond
          exact sound.accounted.distinct first second different row isFirst isSecond
    · intro other
      by_cases same : other = thread
      · subst same
        rw [World.activity_put_self]
        exact emissionsOf_nodup call.row
      · rw [World.activity_put_of_ne same]
        exact sound.accounted.dueOnce other
    · intro other emission due
      by_cases same : other = thread
      · subst same
        rw [World.activity_put_self] at due
        obtain ⟨sink, -, rfl⟩ := List.mem_map.mp due
        exact notEmitted sink
      · rw [World.activity_put_of_ne same] at due
        exact sound.accounted.dueNew other emission due
    · intro row committed sink wanted
      rcases sound.accounted.complete row committed sink wanted with ran | ⟨other, due⟩
      · exact .inl ran
      · have different : other ≠ thread := by
          rintro rfl
          rw [running] at due
          cases due
        exact .inr ⟨other, by rwa [World.activity_put_of_ne different]⟩

omit [DecidableEq τ] in
/-- The exception of a write whose row occurs nowhere. -/
theorem Sound.raiseUnknown
    (sound : Sound world)
    {row : Row}
    (unknown : ¬ world.Knows row)
    (counted : row.number < world.record.calls)
    (failure : Failure) :
    Sound { world with
      record := { world.record with raised := world.record.raised ++ [(row, failure)] } } := by
  have unraised : ∀ other written, (world.activity other).row? = some written →
      world.Unraised written → ∀ cause,
        (written, cause) ∉ world.record.raised ++ [(row, failure)] := by
    intro other written isWritten unraised cause raised
    rcases List.mem_append.mp raised with earlier | last
    · exact unraised cause earlier
    · obtain ⟨rfl, -⟩ := Prod.mk.inj (List.mem_singleton.mp last)
      exact unknown (.inr (.inr (.inr (.inr (.inr ⟨other, isWritten⟩)))))
  refine
    { owned := sound.owned
      depth := sound.depth
      connected := sound.connected
      nested := sound.nested
      linked := sound.linked
      phases := ?_
      accounted :=
        { bounded := ?_
          distinct := sound.accounted.distinct
          once := sound.accounted.once
          dueOnce := sound.accounted.dueOnce
          dueNew := sound.accounted.dueNew
          afterCommit := sound.accounted.afterCommit
          complete := sound.accounted.complete
          lost := ?_
          uncommitted := sound.accounted.uncommitted } }
  · intro other
    have phase := sound.phases other
    have kept := unraised other
    change PhaseSound _ other (world.activity other)
    cases activity : world.activity other with
    | running => trivial
    | writing call written =>
        rw [activity] at phase kept
        exact ⟨phase.1, kept call.row rfl phase.2.1, phase.2.2⟩
    | emitting call boundary sinks =>
        rw [activity] at phase kept
        exact ⟨kept call.row rfl phase.1, phase.2⟩
    | emittingInline call boundary sink sinks =>
        rw [activity] at phase kept
        exact ⟨kept call.row rfl phase.1, phase.2⟩
  · rintro other (pending | committed | ambiguous | ⟨cause, raised⟩ | known)
    · exact sound.accounted.bounded other (.inl pending)
    · exact sound.accounted.bounded other (.inr (.inl committed))
    · exact sound.accounted.bounded other (.inr (.inr (.inl ambiguous)))
    · rcases List.mem_append.mp raised with earlier | last
      · exact sound.accounted.bounded other (.inr (.inr (.inr (.inl ⟨cause, earlier⟩))))
      · obtain ⟨rfl, -⟩ := Prod.mk.inj (List.mem_singleton.mp last)
        exact counted
    · exact sound.accounted.bounded other (.inr (.inr (.inr (.inr known))))
  · intro other cause raised
    rcases List.mem_append.mp raised with earlier | last
    · exact sound.accounted.lost other cause earlier
    · obtain ⟨rfl, -⟩ := Prod.mk.inj (List.mem_singleton.mp last)
      exact ⟨fun pending => unknown (.inl pending),
        fun committed => unknown (.inr (.inl committed)),
        fun ambiguous => (unknown (.inr (.inr (.inl ambiguous)))).elim⟩

theorem World.withActivity_self
    {activity : Activity}
    (same : world.activity thread = activity) :
    world.withActivity thread activity = world := by
  subst same
  simp only [World.withActivity, World.activity, Function.update_eq_self]

theorem Sound.startWrite
    (sound : Sound world)
    (free : world.lockFree thread = true)
    (running : world.activity thread = .running)
    (exported bestEffort reconnects : Bool)
    (ending : Ending) :
    Sound (startWrite world thread exported bestEffort reconnects ending) := by
  have opened := sound.count.openScope free running reconnects ending
  unfold PostgresConnection.startWrite
  dsimp only
  generalize PostgresConnection.openScope _ thread reconnects ending = result at opened
  obtain ⟨entered, after⟩ := result
  dsimp only at opened
  have unknown : ¬ after.Knows { number := world.record.calls, exported } := by
    intro knows
    have earlier : world.Knows { number := world.record.calls, exported } :=
      opened.knows _ knows
    exact Nat.lt_irrefl _ (sound.accounted.bounded _ earlier)
  have counted : world.record.calls < after.record.calls := by
    rw [opened.record]
    exact Nat.lt_succ_self _
  cases entered with
  | true => exact opened.sound.beginWrite opened.free opened.running (opened.isOpen rfl) unknown counted
  | false =>
      dsimp only [World.raise]
      rw [World.withActivity_self opened.running]
      split
      · exact opened.sound.raiseUnknown unknown counted .scope
      · exact opened.sound

end Steps

end PostgresConnection
end Vinctor
