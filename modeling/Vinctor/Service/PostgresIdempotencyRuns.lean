import Vinctor.Service.PostgresIdempotencySafety

/-!
# Runs of idempotent executions over PostgreSQL

Every step of an execution and of a collection keeps the agreement of the rows with the
committed mutations, so it holds after every interleaving.
-/

namespace Vinctor
namespace PostgresIdempotency

open Foundation
open Idempotency
open Fallible

section Runs

variable
    {aead : Aead}
    {keyring : Option IdempotencyKeyring}
    {advisoryKey : ResultIdentity → Int}
    {state after : State}
    {task : Task}
    {tasks rest : List Task}

/-! ## Commits -/

theorem Ledger.collect
    {id : Nat}
    {deletes : List ResultIdentity}
    (ledger : Ledger aead keyring state)
    (frees : Frees state id deletes) :
    Ledger aead keyring ((state.apply deletes none).release id) where
  rows identity row present := by
    rcases @apply_results_cases deletes none state identity with
      ⟨_, inserts, -⟩ | ⟨-, gone⟩ | ⟨-, same⟩
    · cases inserts
    · rw [show (state.apply deletes none).results identity = some row from present] at gone
      cases gone
    · exact ledger.rows identity row (same.symm.trans present)
  live commit committed expires stored := by
    rcases ledger.live commit committed expires stored with expired | ⟨row, present, recordOf⟩
    · exact .inl expired
    · rcases @apply_results_of_some _ _ _ none frees _ _ present with
        ⟨_, inserts⟩ | expired | same
      · cases inserts
      · rw [recordOf.expires_eq] at stored
        exact .inl (Option.some.inj stored ▸ expired)
      · exact .inr ⟨row, same, recordOf⟩
  separated := ledger.separated
  answered := ledger.answered
  once := ledger.once
  numbered := ledger.numbered
  guarded _ gone := @apply_guarded _ _ _ none frees ledger.guarded _ gone

theorem moves_collect
    {id : Nat}
    {deletes : List ResultIdentity}
    (ledger : Ledger aead keyring state)
    (ids : task.ids = [id])
    (frees : Frees state id deletes) :
    Moves task state ((state.apply deletes none).release id) where
  epoch := le_rfl
  nextId := Nat.le_refl _
  kept _ committed := committed
  own _ committed := .inl committed
  advisory key other foreign :=
    (quiet_release state id).advisory key other (ids ▸ foreign)
  rows identity other foreign locks := by
    refine ⟨(quiet_release state id).rowLocks identity other (ids ▸ foreign) locks, ?_⟩
    have different : other ≠ id := by simpa [ids] using foreign
    exact apply_results_of_locked frees (fits_none state deletes) ledger.guarded different locks
  absent identity _ missing := by
    rcases @apply_results_cases deletes none state identity with
      ⟨_, inserts, -⟩ | ⟨-, gone⟩ | ⟨-, same⟩
    · cases inserts
    · exact gone
    · exact same.trans missing

section Commit

variable
    {attempt : PostgresCompletionAttempt}
    {deletes : List ResultIdentity}
    {response : PreSerializedHttpResponse}
    {nowEpoch ranAt : Int}
    {stored : Option CompletedResultRecord}

/-- The row that a completion inserts. -/
abbrev insertedRow
    (attempt : PostgresCompletionAttempt)
    (stored : Option CompletedResultRecord) : Option (ResultIdentity × Row) :=
  stored.map fun record => (attempt.identity, ⟨record, attempt.execution.id⟩)

theorem insertedRow_eq_some
    {target : ResultIdentity}
    {row : Row}
    (inserts : insertedRow attempt stored = some (target, row)) :
    target = attempt.identity ∧ stored = some row.record := by
  cases stored with
  | none => cases inserts
  | some record =>
      cases inserts
      exact ⟨rfl, rfl⟩

theorem fits_of_facts
    (facts : Work.Facts aead keyring state attempt deletes (.ran response nowEpoch ranAt stored)) :
    Fits state deletes (insertedRow attempt stored) := by
  intro target row inserts
  obtain ⟨rfl, isStored⟩ := insertedRow_eq_some inserts
  exact (facts.2.2 row.record isStored).2

theorem Ledger.commit
    (ledger : Ledger aead keyring state)
    (frees : Frees state attempt.execution.id deletes)
    (facts : Work.Facts aead keyring state attempt deletes (.ran response nowEpoch ranAt stored))
    (isNumbered : attempt.execution.id < state.nextId)
    (isNew : ∀ commit ∈ state.commits, commit.mutation.execution ≠ attempt.execution.id) :
    Ledger aead keyring
      (takeEffect state attempt deletes (.ran response nowEpoch ranAt stored)) where
  rows identity row present := by
    rcases @apply_results_cases deletes (insertedRow attempt stored) state identity with
      ⟨inserted, inserts, found⟩ | ⟨-, gone⟩ | ⟨-, same⟩
    · obtain ⟨rfl, isStored⟩ := insertedRow_eq_some inserts
      cases Option.some.inj (found.symm.trans present)
      refine ⟨attempt.committed response nowEpoch ranAt stored, ?_, ?_⟩
      · exact List.mem_append_right _ (List.mem_singleton_self _)
      · rw [isStored]
        exact (facts.2.2 row.record isStored).1
    · cases gone.symm.trans present
    · obtain ⟨commit, committed, recordOf⟩ := ledger.rows identity row (same.symm.trans present)
      exact ⟨commit, List.mem_append_left _ committed, recordOf⟩
  live commit committed expires isStored := by
    rcases List.mem_append.mp committed with old | new
    · rcases ledger.live commit old expires isStored with expired | ⟨row, present, recordOf⟩
      · exact .inl expired
      · rcases @apply_results_of_some _ _ _ (insertedRow attempt stored) frees _ _ present with
          ⟨inserted, inserts⟩ | expired | same
        · -- The results of the identity had expired when the mutation ran.
          have ofAttempt := (insertedRow_eq_some inserts).1
          exact .inl (le_trans (facts.2.1 commit old ofAttempt expires isStored) facts.1)
        · rw [recordOf.expires_eq] at isStored
          exact .inl (Option.some.inj isStored ▸ expired)
        · exact .inr ⟨row, same, recordOf⟩
    · rw [List.mem_singleton.mp new] at isStored ⊢
      cases stored with
      | none => cases isStored
      | some record =>
          refine .inr ⟨⟨record, attempt.execution.id⟩, ?_, (facts.2.2 record rfl).1⟩
          exact if_pos rfl
  separated := by
    refine List.pairwise_append.mpr ⟨ledger.separated, List.pairwise_singleton _ _, ?_⟩
    intro earlier old later new
    rw [List.mem_singleton.mp new]
    exact facts.2.1 earlier old
  answered answer answered := by
    obtain ⟨commit, committed, gives⟩ := ledger.answered answer answered
    exact ⟨commit, List.mem_append_left _ committed, gives⟩
  once := by
    dsimp only [takeEffect]
    rw [List.map_append, List.nodup_append]
    refine ⟨ledger.once, List.nodup_singleton _, ?_⟩
    rintro id old other new rfl
    obtain ⟨commit, committed, rfl⟩ := List.mem_map.mp old
    exact isNew commit committed (List.mem_singleton.mp new)
  numbered commit committed := by
    rcases List.mem_append.mp committed with old | new
    · exact ledger.numbered commit old
    · rw [List.mem_singleton.mp new]
      exact isNumbered
  guarded _ gone :=
    @apply_guarded _ _ _ (insertedRow attempt stored) frees ledger.guarded _ gone

theorem moves_commit
    (ledger : Ledger aead keyring state)
    (inside : task.inside = some attempt)
    (frees : Frees state attempt.execution.id deletes)
    (facts : Work.Facts aead keyring state attempt deletes (.ran response nowEpoch ranAt stored)) :
    Moves task state (takeEffect state attempt deletes (.ran response nowEpoch ranAt stored)) where
  epoch := le_rfl
  nextId := Nat.le_refl _
  kept _ committed := List.mem_append_left _ committed
  own commit committed := by
    rcases List.mem_append.mp committed with old | new
    · exact .inl old
    · rw [List.mem_singleton.mp new]
      exact .inr ⟨attempt, inside, rfl, rfl⟩
  advisory key other foreign :=
    (quiet_release state attempt.execution.id).advisory key other (ids_of_inside inside ▸ foreign)
  rows identity other foreign locks := by
    rw [ids_of_inside inside] at foreign
    refine ⟨(quiet_release state attempt.execution.id).rowLocks identity other foreign locks, ?_⟩
    have different : other ≠ attempt.execution.id := by simpa using foreign
    exact apply_results_of_locked frees (fits_of_facts facts) ledger.guarded different locks
  absent identity foreign missing := by
    rcases @apply_results_cases deletes (insertedRow attempt stored) state identity with
      ⟨inserted, inserts, -⟩ | ⟨-, gone⟩ | ⟨-, same⟩
    · exact absurd (insertedRow_eq_some inserts).1.symm (foreign attempt inside)
    · exact gone
    · exact same.trans missing

end Commit

/-- What is loaded tells enough. -/
theorem Ledger.seen
    (ledger : Ledger aead keyring state)
    (identity : ResultIdentity) :
    Seen aead keyring state.commits identity state.epoch (state.results identity) := by
  cases present : state.results identity with
  | none =>
      rintro commit committed rfl expires stored
      rcases ledger.live commit committed expires stored with expired | ⟨row, found, -⟩
      · exact expired
      · cases present.symm.trans found
  | some row =>
      refine ⟨ledger.rows identity row present, ?_⟩
      rintro commit committed rfl expires stored
      rcases ledger.live commit committed expires stored with expired | ⟨row', found, recordOf⟩
      · exact .inl expired
      · cases Option.some.inj (present.symm.trans found)
        exact .inr (Option.some.inj (stored.symm.trans recordOf.expires_eq))

/-! ## Invariant -/

structure Sound
    (aead : Aead)
    (keyring : Option IdempotencyKeyring)
    (advisoryKey : ResultIdentity → Int)
    (state : State)
    (tasks : List Task) : Prop where
  ledger : Ledger aead keyring state
  holds : ∀ task ∈ tasks, task.Holds aead keyring advisoryKey state
  alone : ∀ id, tally Task.ids tasks id ≤ 1
  numbered : ∀ task ∈ tasks, ∀ id ∈ task.ids, id < state.nextId ∧
    ∀ commit ∈ state.commits, commit.mutation.execution ≠ id

theorem Sound.perm
    {others : List Task}
    (permuted : tasks.Perm others)
    (sound : Sound aead keyring advisoryKey state tasks) :
    Sound aead keyring advisoryKey state others where
  ledger := sound.ledger
  holds task isTask := sound.holds task (permuted.mem_iff.mpr isTask)
  alone id := by
    rw [← tally_perm Task.ids permuted id]
    exact sound.alone id
  numbered task isTask := sound.numbered task (permuted.mem_iff.mpr isTask)

theorem sound_initial (epoch : Int) : Sound aead keyring advisoryKey { epoch } [] where
  ledger :=
    { rows := by
        intro identity row present
        cases present
      live := List.forall_mem_nil _
      separated := List.Pairwise.nil
      answered := List.forall_mem_nil _
      once := List.nodup_nil
      numbered := List.forall_mem_nil _
      guarded := fun _ _ => rfl }
  holds := List.forall_mem_nil _
  alone _ := Nat.zero_le 1
  numbered := List.forall_mem_nil _

/-- A task without a number may appear. -/
theorem Sound.add
    (ids : task.ids = [])
    (inside : task.inside = none)
    (locked : task.locked = [])
    (facts : task.Facts aead keyring state)
    (sound : Sound aead keyring advisoryKey state tasks) :
    Sound aead keyring advisoryKey state (task :: tasks) where
  ledger := sound.ledger
  holds := by
    refine List.forall_mem_cons.mpr ⟨⟨?_, ?_, facts⟩, sound.holds⟩
    · intro attempt isInside
      cases inside.symm.trans isInside
    · rw [locked]
      exact List.forall_mem_nil _
  alone id := by
    rw [tally_cons, ids, List.count_nil, Nat.zero_add]
    exact sound.alone id
  numbered := by
    refine List.forall_mem_cons.mpr ⟨?_, sound.numbered⟩
    rw [ids]
    exact List.forall_mem_nil _

/-- The other tasks have other numbers. -/
theorem Sound.apart
    (sound : Sound aead keyring advisoryKey state (task :: tasks))
    {other : Task}
    (isOther : other ∈ tasks)
    {id : Nat}
    (isIts : id ∈ other.ids) : id ∉ task.ids := by
  intro isMine
  have alone := sound.alone id
  have mine := List.count_pos_iff.mpr isMine
  have its := one_le_tally isOther isIts
  rw [tally_cons] at alone
  omega

/-- What one step does to everything. -/
theorem Sound.next
    (sound : Sound aead keyring advisoryKey state (task :: tasks))
    (moves : Moves task state after)
    (ledger : Ledger aead keyring after)
    (holds : ∀ other ∈ rest, other.Holds aead keyring advisoryKey after)
    (alone : ∀ id, tally Task.ids rest id ≤ if state.nextId ≤ id then 1 else task.ids.count id)
    (numbered : ∀ other ∈ rest, ∀ id ∈ other.ids, id < after.nextId ∧
      ∀ commit ∈ after.commits, commit.mutation.execution ≠ id) :
    Sound aead keyring advisoryKey after (rest ++ tasks) where
  ledger := ledger
  holds := by
    refine List.forall_mem_append.mpr ⟨holds, fun other isOther => ?_⟩
    exact moves.holds (sound.holds task List.mem_cons_self) (fun _ => sound.apart isOther)
      (sound.holds other (List.mem_cons_of_mem _ isOther))
  alone id := by
    have own := alone id
    have before := sound.alone id
    rw [tally_cons] at before
    rw [tally_append]
    split at own
    · next isNew =>
        -- No task under way has a number that was not given yet.
        have unused : tally Task.ids tasks id = 0 := by
          refine List.count_eq_zero.mpr fun isUsed => ?_
          obtain ⟨other, isOther, isIts⟩ := List.mem_flatMap.mp isUsed
          have given := (sound.numbered other (List.mem_cons_of_mem _ isOther) id isIts).1
          omega
        omega
    · omega
  numbered := by
    refine List.forall_mem_append.mpr ⟨numbered, fun other isOther id isIts => ?_⟩
    obtain ⟨given, uncommitted⟩ := sound.numbered other (List.mem_cons_of_mem _ isOther) id isIts
    refine ⟨lt_of_lt_of_le given moves.nextId, fun commit committed => ?_⟩
    rcases moves.own commit committed with old | ⟨attempt, inside, -, sameId⟩
    · exact uncommitted commit old
    · rintro rfl
      refine sound.apart isOther isIts ?_
      rw [ids_of_inside inside, sameId]
      exact List.mem_singleton_self _

/-- The last step of a task. -/
theorem Sound.ends
    (sound : Sound aead keyring advisoryKey state (task :: tasks))
    (moves : Moves task state after)
    (ledger : Ledger aead keyring after) : Sound aead keyring advisoryKey after tasks :=
  @Sound.next _ _ _ _ _ _ _ [] sound moves ledger (List.forall_mem_nil _)
    (fun _ => Nat.zero_le _) (List.forall_mem_nil _)

theorem Sound.quits
    (sound : Sound aead keyring advisoryKey state (task :: tasks))
    {ids : List Nat}
    (quiet : Quiet ids state after)
    (mine : ids ⊆ task.ids) : Sound aead keyring advisoryKey after tasks :=
  sound.ends (quiet.moves mine) (quiet.ledger sound.ledger)

/-- A step that only locks. -/
theorem Sound.goes
    {next : Task}
    (sound : Sound aead keyring advisoryKey state (task :: tasks))
    (quiet : Quiet [] state after)
    (ids : next.ids = task.ids)
    (inside : ∀ attempt, next.inside = some attempt → task.inside = some attempt ∨
      after.advisory (advisoryKey attempt.identity) = some attempt.execution.id)
    (locked : ∀ identity ∈ next.locked, identity ∈ task.locked ∨ next.Locks after identity)
    (facts : next.Facts aead keyring after) :
    Sound aead keyring advisoryKey after (next :: tasks) := by
  have holds := sound.holds task List.mem_cons_self
  refine @Sound.next _ _ _ _ _ _ _ [next] sound (quiet.moves (List.nil_subset _))
    (quiet.ledger sound.ledger) ?_ ?_ ?_
  · refine List.forall_mem_singleton.mpr ⟨?_, ?_, facts⟩
    · intro attempt isInside
      refine (inside attempt isInside).elim (fun wasInside => ?_) id
      exact quiet.advisory _ _ List.not_mem_nil (holds.inside attempt wasInside)
    · intro identity isLocked
      refine (locked identity isLocked).elim (fun wasLocked => ?_) id
      obtain ⟨id, isMine, locks, row, present, expired⟩ := holds.locked identity wasLocked
      exact ⟨id, ids ▸ isMine, quiet.rowLocks _ _ List.not_mem_nil locks, row,
        (congrFun quiet.results identity).trans present, le_trans expired quiet.epoch⟩
  · intro id
    have alone := sound.alone id
    rw [tally_cons] at alone
    rw [tally_cons, tally_nil, ids]
    split <;> omega
  · refine List.forall_mem_singleton.mpr fun id isMine => ?_
    obtain ⟨given, uncommitted⟩ := sound.numbered task List.mem_cons_self id (ids ▸ isMine)
    exact ⟨lt_of_lt_of_le given quiet.nextId, quiet.commits ▸ uncommitted⟩

/-- The first step of a task gives it its number. -/
theorem Sound.begins
    {next : Task}
    (sound : Sound aead keyring advisoryKey state (task :: tasks))
    (ids : next.ids = [state.nextId])
    (inside : next.inside = none)
    (locked : next.locked = [])
    (facts : next.Facts aead keyring { state with nextId := state.nextId + 1 }) :
    Sound aead keyring advisoryKey { state with nextId := state.nextId + 1 } (next :: tasks) := by
  refine @Sound.next _ _ _ _ _ _ _ [next] sound ((quiet_number state).moves (List.nil_subset _))
    ((quiet_number state).ledger sound.ledger) ?_ ?_ ?_
  · refine List.forall_mem_singleton.mpr ⟨?_, ?_, facts⟩
    · intro attempt isInside
      cases inside.symm.trans isInside
    · rw [locked]
      exact List.forall_mem_nil _
  · intro id
    rw [tally_cons, tally_nil, ids]
    by_cases isNew : state.nextId ≤ id
    · rw [if_pos isNew]
      exact List.nodup_iff_count_le_one.mp (List.nodup_singleton state.nextId) id
    · have different : id ∉ [state.nextId] := by
        rw [List.mem_singleton]
        omega
      rw [List.count_eq_zero.mpr different]
      exact Nat.zero_le _
  · refine List.forall_mem_singleton.mpr ?_
    rw [ids]
    refine List.forall_mem_singleton.mpr ⟨Nat.lt_succ_self _, fun commit committed => ?_⟩
    exact (sound.ledger.numbered commit committed).ne

/-- A statement that changes nothing. -/
theorem Sound.continues
    {next : Task}
    (sound : Sound aead keyring advisoryKey state (task :: tasks))
    (ids : next.ids = task.ids)
    (inside : next.inside = task.inside)
    (locked : next.locked ⊆ task.locked)
    (facts : next.Facts aead keyring state) :
    Sound aead keyring advisoryKey state (next :: tasks) :=
  sound.goes (Quiet.refl state) ids (fun _ isInside => .inl (inside ▸ isInside))
    (fun _ isLocked => .inl (locked isLocked)) facts

theorem Sound.fails
    (sound : Sound aead keyring advisoryKey state (task :: tasks))
    {id : Nat}
    (ids : task.ids = [id]) : Sound aead keyring advisoryKey (state.release id) tasks :=
  sound.quits (quiet_release state id) (ids ▸ List.Subset.refl _)

/-! ## Executions -/

theorem Sound.lookUp
    {execution : Execution}
    {nowEpoch : Int}
    {proceeds : Task}
    (sound : Sound aead keyring advisoryKey state (task :: tasks))
    (goes : Sound aead keyring advisoryKey state (proceeds :: tasks)) :
    Sound aead keyring advisoryKey (lookUp aead keyring state execution nowEpoch proceeds).1
      ((lookUp aead keyring state execution nowEpoch proceeds).2 ++ tasks) := by
  unfold PostgresIdempotency.lookUp
  split
  · exact sound.quits (Quiet.refl state) (List.nil_subset _)
  · next response replays =>
      have gives := gives_of_replays (sound.ledger.rows _) replays
      exact sound.quits (quiet_answer state gives) (List.nil_subset _)
  · exact goes

/-- A row that a completion has loaded says enough of the committed mutations. -/
theorem Seen.expiredBy
    {commits : List Commit}
    {invocation : IdempotencyInvocation}
    {nowEpoch epoch : Int}
    {row : Option Row}
    (seen : Seen aead keyring commits invocation.resultIdentity epoch row)
    (now : nowEpoch ≤ epoch)
    (proceeds : classifyCompletedResult aead keyring invocation (row.map Row.record) nowEpoch =
      .ok .proceedToReservation) : ExpiredBy commits invocation.resultIdentity epoch := by
  cases row with
  | none => exact seen
  | some row =>
      intro commit committed sameIdentity expires stored
      rcases seen.2 commit committed sameIdentity expires stored with expired | rfl
      · exact expired
      · exact le_trans (expired_of_classify proceeds) now

theorem Sound.classify
    {attempt : PostgresCompletionAttempt}
    {nowEpoch : Int}
    {row : Option Row}
    (sound : Sound aead keyring advisoryKey state (.classifying attempt nowEpoch row :: tasks)) :
    Sound aead keyring advisoryKey (classify aead keyring state attempt nowEpoch row).1
      ((classify aead keyring state attempt nowEpoch row).2 ++ tasks) := by
  obtain ⟨now, seen⟩ := (sound.holds _ List.mem_cons_self).facts
  unfold PostgresIdempotency.classify
  split
  · exact sound.fails rfl
  · next response replays =>
      refine sound.continues rfl rfl (List.Subset.refl _) (gives_of_replays ?_ replays)
      rintro found rfl
      exact seen.1
  · next proceeds =>
      have expired := seen.expiredBy now proceeds
      cases row with
      | none => exact sound.continues rfl rfl (List.Subset.refl _) expired
      | some row => exact sound.continues rfl rfl (List.Subset.refl _) ⟨rfl, expired⟩

theorem Sound.mutate
    {attempt : PostgresCompletionAttempt}
    {nowEpoch : Int}
    {deletes : List ResultIdentity}
    (outcome : CacheableTerminalOutcome)
    (sound : Sound aead keyring advisoryKey state (.mutating attempt nowEpoch deletes :: tasks)) :
    Sound aead keyring advisoryKey (mutate aead keyring state attempt nowEpoch deletes outcome).1
      ((mutate aead keyring state attempt nowEpoch deletes outcome).2 ++ tasks) := by
  have expired := (sound.holds _ List.mem_cons_self).facts
  unfold PostgresIdempotency.mutate
  dsimp only
  split
  · exact sound.continues rfl rfl (List.Subset.refl _) ⟨le_rfl, expired, nofun⟩
  · split
    · exact sound.fails rfl
    · next record isSealed =>
        exact sound.continues rfl rfl (List.Subset.refl _) ⟨le_rfl, expired, _, isSealed⟩

/-- A sealed response opens to the response of its mutation. -/
theorem recordOf_sealed
    (roundTrips : aead.RoundTrips)
    {attempt : PostgresCompletionAttempt}
    {response : PreSerializedHttpResponse}
    {nowEpoch ranAt expires : Int}
    {record : CompletedResultRecord}
    (isSealed : sealOutcome aead keyring attempt response nowEpoch expires = .ok record)
    (isStorable : storable attempt.identity record = true) :
    RecordOf aead keyring attempt.identity record
      (attempt.committed response nowEpoch ranAt (some record)).mutation := by
  simp only [sealOutcome, bind_eq_ok, require_eq_ok, ensure_eq_ok, pure_eq_ok] at isSealed
  obtain ⟨⟨key, call⟩, encrypts, ciphertext, seals, -, -, rfl⟩ := isSealed
  exact recordOf_stored roundTrips attempt.execution.id encrypts seals
    (Bool.and_eq_true_iff.mp isStorable).1

theorem Sound.store
    (roundTrips : aead.RoundTrips)
    {attempt : PostgresCompletionAttempt}
    {nowEpoch ranAt : Int}
    {deletes : List ResultIdentity}
    {response : PreSerializedHttpResponse}
    {record : CompletedResultRecord}
    (sound : Sound aead keyring advisoryKey state
      (.storing attempt nowEpoch ranAt deletes response record :: tasks))
    {outcome : State × List Task}
    (taken : store state attempt nowEpoch ranAt deletes response record = some outcome) :
    Sound aead keyring advisoryKey outcome.1 (outcome.2 ++ tasks) := by
  obtain ⟨ran, expired, expires, isSealed⟩ := (sound.holds _ List.mem_cons_self).facts
  unfold PostgresIdempotency.store at taken
  dsimp only at taken
  split at taken
  · cases Option.some.inj taken
    exact sound.fails rfl
  · next isStorable =>
      split at taken
      · cases taken
      · split at taken
        · split at taken
          · cases Option.some.inj taken
            exact sound.fails rfl
          · cases taken
        · next room =>
            cases Option.some.inj taken
            refine sound.goes (quiet_lockInsert state _ _) rfl (fun _ => .inl) (fun _ => .inl) ?_
            refine ⟨ran, expired, fun stored isStored => ?_⟩
            cases isStored
            refine ⟨recordOf_sealed roundTrips isSealed (by simpa using isStorable), ?_⟩
            by_cases isDeleted : attempt.identity ∈ deletes
            · exact .inr isDeleted
            · have missing : state.results attempt.identity = none := by
                simpa [isDeleted] using room
              exact .inl missing

theorem Sound.takesEffect
    {attempt : PostgresCompletionAttempt}
    {deletes : List ResultIdentity}
    {work : Work}
    (sound : Sound aead keyring advisoryKey state (.committing attempt deletes work :: tasks)) :
    Moves (.committing attempt deletes work) state (takeEffect state attempt deletes work) ∧
      Ledger aead keyring (takeEffect state attempt deletes work) := by
  have holds := sound.holds _ List.mem_cons_self
  cases work with
  | replays response =>
      have quiet := quiet_release state attempt.execution.id
      exact ⟨quiet.moves (List.Subset.refl _), quiet.ledger sound.ledger⟩
  | ran response nowEpoch ranAt stored =>
      have frees : Frees state attempt.execution.id deletes := frees_of_locks rfl holds.locked
      obtain ⟨given, uncommitted⟩ :=
        sound.numbered _ List.mem_cons_self _ (List.mem_singleton_self attempt.execution.id)
      exact ⟨moves_commit sound.ledger rfl frees holds.facts,
        sound.ledger.commit frees holds.facts given uncommitted⟩

/-- A completion that has taken effect gives the response of a committed mutation. -/
theorem gives_of_takeEffect
    {attempt : PostgresCompletionAttempt}
    {deletes : List ResultIdentity}
    {work : Work}
    (facts : work.Facts aead keyring state attempt deletes) :
    ∃ commit ∈ (takeEffect state attempt deletes work).commits,
      commit.Gives attempt.execution work.response := by
  cases work with
  | replays response => exact facts
  | ran response nowEpoch ranAt stored =>
      exact ⟨_, List.mem_append_right _ (List.mem_singleton_self _), rfl, rfl, .inl ⟨rfl, rfl⟩⟩

theorem Sound.commit
    (choice : Choice)
    {attempt : PostgresCompletionAttempt}
    {deletes : List ResultIdentity}
    {work : Work}
    (sound : Sound aead keyring advisoryKey state (.committing attempt deletes work :: tasks)) :
    Sound aead keyring advisoryKey (commit state choice attempt deletes work).1
      ((commit state choice attempt deletes work).2 ++ tasks) := by
  obtain ⟨moves, ledger⟩ := sound.takesEffect
  unfold PostgresIdempotency.commit
  split
  · exact sound.ends moves ledger
  · exact sound.fails rfl
  · have quiet := quiet_answer (takeEffect state attempt deletes work)
      (gives_of_takeEffect (sound.holds _ List.mem_cons_self).facts)
    exact sound.ends (moves.trans (quiet.moves (List.nil_subset _))) (quiet.ledger ledger)

/-! ## Deleting -/

/-- A row of an identity whose results have expired has expired. -/
theorem Ledger.expired
    (ledger : Ledger aead keyring state)
    {identity : ResultIdentity}
    {row : Row}
    {epoch : Int}
    (expired : ExpiredBy state.commits identity epoch)
    (present : state.results identity = some row) : row.record.expiresAtEpoch ≤ epoch := by
  obtain ⟨commit, committed, recordOf⟩ := ledger.rows identity row present
  exact expired commit committed recordOf.identity_eq _ recordOf.expires_eq

/-- What a deleter goes on with when no row was deleted. -/
theorem Sound.skips
    {deleter : Deleter}
    {identity : ResultIdentity}
    (sound : Sound aead keyring advisoryKey state (task :: tasks))
    (isDeleting : task = .deleting deleter identity ∨ ∃ row, task = .awaiting deleter identity row) :
    Sound aead keyring advisoryKey state (deleter.resume [] :: tasks) := by
  have facts := (sound.holds task List.mem_cons_self).facts
  cases deleter with
  | completion attempt nowEpoch =>
      rcases isDeleting with rfl | ⟨row, rfl⟩ <;>
        exact sound.continues rfl rfl (List.nil_subset _) facts.2
  | collection id nowEpoch rows deletes =>
      have fewer : (Deleter.resume [] (.collection id nowEpoch rows deletes)).locked ⊆
          identity :: rows.map Prod.fst ++ deletes := by
        simp [Deleter.resume, Task.locked]
      rcases isDeleting with rfl | ⟨row, rfl⟩ <;>
        exact sound.continues rfl rfl fewer trivial

theorem Sound.delete
    {deleter : Deleter}
    {identity : ResultIdentity}
    {row : Row}
    (sound : Sound aead keyring advisoryKey state (.awaiting deleter identity row :: tasks))
    {outcome : State × List Task}
    (taken : delete state deleter identity row = some outcome) :
    Sound aead keyring advisoryKey outcome.1 (outcome.2 ++ tasks) := by
  unfold PostgresIdempotency.delete at taken
  split at taken
  · cases taken
  · next isFree =>
      split at taken
      · next present =>
          cases Option.some.inj taken
          have quiet : Quiet [] state (state.lockRow identity deleter.id) :=
            quiet_lockRow state (by simpa using isFree) (by rw [present]; nofun)
          have locks : (state.lockRow identity deleter.id).rowLocks identity = some deleter.id :=
            Function.update_self ..
          cases deleter with
          | completion attempt nowEpoch =>
              obtain ⟨rfl, expired⟩ := (sound.holds _ List.mem_cons_self).facts
              refine sound.goes quiet rfl (fun _ => .inl) ?_ expired
              refine List.forall_mem_singleton.mpr (.inr ⟨_, List.mem_singleton_self _, locks, ?_⟩)
              exact ⟨row, present, sound.ledger.expired expired present⟩
          | collection id nowEpoch rows deletes =>
              refine sound.goes quiet rfl nofun (fun other isLocked => .inl ?_) trivial
              simp only [Deleter.resume, Task.locked, List.mem_append, List.mem_cons,
                List.not_mem_nil, or_false] at isLocked ⊢
              tauto
      · cases Option.some.inj taken
        exact sound.skips (.inr ⟨row, rfl⟩)

/-! ## Collections -/

theorem Sound.select
    {id left : Nat}
    {rows : List (ResultIdentity × Row)}
    {identity : ResultIdentity}
    (sound : Sound aead keyring advisoryKey state (.selecting id left rows :: tasks))
    {outcome : State × List Task}
    (taken : select state id left rows identity = some outcome) :
    Sound aead keyring advisoryKey outcome.1 (outcome.2 ++ tasks) := by
  unfold PostgresIdempotency.select at taken
  split at taken
  · next left row present =>
      split at taken
      · next selectable =>
          cases Option.some.inj taken
          obtain ⟨expired, free⟩ := selectable
          have quiet : Quiet [] state (state.lockRow identity id) :=
            quiet_lockRow state (by rw [free]; rfl) (by rw [present]; nofun)
          refine sound.goes quiet rfl nofun (fun other isLocked => ?_) trivial
          simp only [Task.locked, List.map_append, List.mem_append, List.map_cons, List.map_nil,
            List.mem_singleton] at isLocked
          rcases isLocked with wasLocked | rfl
          · exact .inl wasLocked
          · exact .inr ⟨id, List.mem_singleton_self _, Function.update_self .., row, present,
              expired⟩
      · cases taken
  · cases taken

theorem Sound.sweep
    (choice : Choice)
    {id : Nat}
    {nowEpoch : Int}
    {rows : List (ResultIdentity × Row)}
    {deletes : List ResultIdentity}
    (sound : Sound aead keyring advisoryKey state (.sweeping id nowEpoch rows deletes :: tasks)) :
    Sound aead keyring advisoryKey (sweep aead keyring state choice id nowEpoch rows deletes).1
      ((sweep aead keyring state choice id nowEpoch rows deletes).2 ++ tasks) := by
  have holds := sound.holds _ List.mem_cons_self
  unfold PostgresIdempotency.sweep
  split
  · have frees : Frees state id deletes := frees_of_locks rfl holds.locked
    split
    · exact sound.fails rfl
    · exact sound.ends (moves_collect sound.ledger rfl frees) (sound.ledger.collect frees)
  · next identity row rows =>
      split
      · exact sound.fails rfl
      · exact sound.continues rfl rfl (List.subset_cons_self _ _) trivial
      · exact sound.continues rfl rfl (List.Subset.refl _) trivial

/-! ## Steps -/

theorem Sound.proceed
    (roundTrips : aead.RoundTrips)
    (choice : Choice)
    (sound : Sound aead keyring advisoryKey state (task :: tasks))
    {outcome : State × List Task}
    (taken : proceed aead keyring advisoryKey choice state task = some outcome) :
    Sound aead keyring advisoryKey outcome.1 (outcome.2 ++ tasks) := by
  have holds := sound.holds task List.mem_cons_self
  cases task with
  | ticking seconds =>
      cases Option.some.inj taken
      exact sound.quits (quiet_tick state seconds) (List.nil_subset _)
  | executing invocation =>
      cases Option.some.inj taken
      exact sound.begins rfl rfl rfl trivial
  | collecting limit =>
      cases Option.some.inj taken
      exact sound.begins rfl rfl rfl trivial
  | lookingUp execution nowEpoch =>
      cases Option.some.inj taken
      exact sound.lookUp (sound.continues rfl rfl (List.Subset.refl _) trivial)
  | reserving execution =>
      unfold PostgresIdempotency.proceed at taken
      dsimp only at taken
      split at taken
      · cases Option.some.inj taken
        exact sound.continues rfl rfl (List.Subset.refl _) trivial
      · cases taken
  | completing attempt | claiming attempt | authenticating attempt =>
      cases Option.some.inj taken
      exact sound.continues rfl rfl (List.Subset.refl _) trivial
  | reloading attempt nowEpoch =>
      cases Option.some.inj taken
      exact sound.lookUp (sound.continues rfl rfl (List.Subset.refl _) trivial)
  | locking attempt =>
      unfold PostgresIdempotency.proceed at taken
      dsimp only at taken
      split at taken
      · next free =>
          cases Option.some.inj taken
          refine sound.goes (quiet_lockAdvisory state free) rfl ?_ (fun _ => .inl) trivial
          intro own isInside
          cases isInside
          exact .inr (Function.update_self ..)
      · cases taken
  | readingEpoch attempt =>
      cases Option.some.inj taken
      exact sound.continues rfl rfl (List.Subset.refl _) (le_refl state.epoch)
  | loading attempt nowEpoch =>
      cases Option.some.inj taken
      refine sound.continues rfl rfl (List.Subset.refl _) ⟨holds.facts, ?_⟩
      exact sound.ledger.seen attempt.identity
  | classifying attempt nowEpoch row =>
      cases Option.some.inj taken
      exact sound.classify
  | mutating attempt nowEpoch deletes =>
      unfold PostgresIdempotency.proceed at taken
      dsimp only at taken
      split at taken
      · next outcome =>
          cases Option.some.inj taken
          exact sound.mutate outcome
      · cases taken
  | storing attempt nowEpoch ranAt deletes response record => exact sound.store roundTrips taken
  | committing attempt deletes work =>
      cases Option.some.inj taken
      exact sound.commit choice
  | deleting deleter identity =>
      unfold PostgresIdempotency.proceed at taken
      dsimp only at taken
      split at taken
      · cases Option.some.inj taken
        exact sound.skips (.inl rfl)
      · cases Option.some.inj taken
        cases deleter <;> exact sound.continues rfl rfl (List.Subset.refl _) holds.facts
  | awaiting deleter identity row => exact sound.delete taken
  | selecting id left rows =>
      unfold PostgresIdempotency.proceed at taken
      dsimp only at taken
      split at taken
      · exact sound.select taken
      · cases Option.some.inj taken
        refine sound.continues rfl rfl ?_ trivial
        simp [Task.locked]
  | sweeping id nowEpoch rows deletes =>
      cases Option.some.inj taken
      exact sound.sweep choice

theorem Sound.step
    (roundTrips : aead.RoundTrips)
    {choice : Choice}
    (sound : Sound aead keyring advisoryKey state (task :: tasks))
    (taken : (system aead keyring advisoryKey).step choice state task = some (after, rest)) :
    Sound aead keyring advisoryKey after (rest ++ tasks) := by
  change PostgresIdempotency.step aead keyring advisoryKey choice state task =
    some (after, rest) at taken
  unfold PostgresIdempotency.step at taken
  split at taken
  · next id ids =>
      cases Option.some.inj taken
      exact sound.fails ids
  · exact sound.proceed roundTrips _ taken

/-! ## Runs -/

/-- What an event starts. -/
def Task.Startable : Task → Prop
  | .ticking _ | .executing _ | .collecting _ => True
  | _ => False

theorem sound_run
    (roundTrips : aead.RoundTrips)
    (epoch : Int)
    (events : List Event) :
    Sound aead keyring advisoryKey (run aead keyring advisoryKey epoch events).shared
      (run aead keyring advisoryKey epoch events).tasks := by
  refine @Interleaving.invariant_run _ _ _ (system aead keyring advisoryKey)
    (Sound aead keyring advisoryKey) Sound.perm Task.Startable ?_
    (fun taken sound => sound.step roundTrips taken) _ (sound_initial epoch) _ ?_
  · intro shared tasks task startable sound
    cases task with
    | ticking seconds => exact sound.add rfl rfl rfl trivial
    | executing invocation => exact sound.add rfl rfl rfl trivial
    | collecting limit => exact sound.add rfl rfl rfl trivial
    | _ => exact startable.elim
  · intro task isStarted
    obtain ⟨event, -, starts⟩ := List.mem_map.mp isStarted
    cases event with
    | tick seconds | execute invocation | gcExpiredResults limit =>
        cases starts
        trivial
    | advance index choice => cases starts

/-- However the statements of executions and collections interleave, no execution commits
its mutation twice, and none while a stored result of the identity has not expired.  Every
answer is the response of the execution's own mutation, or of a stored one with its
fingerprint.  A stored result is replayed until it expires: no collection and no other
execution removes it. -/
theorem executions_commit_at_most_once
    (roundTrips : aead.RoundTrips)
    (epoch : Int)
    (events : List Event) :
    let state := (run aead keyring advisoryKey epoch events).shared
    (state.commits.map fun commit => commit.mutation.execution).Nodup ∧
    state.commits.Pairwise Commit.Precedes ∧
    (∀ answer ∈ state.answers,
      ∃ commit ∈ state.commits, commit.Gives answer.execution answer.response) ∧
    ∀ commit ∈ state.commits, ∀ expires, commit.mutation.expiresAtEpoch = some expires →
      state.epoch < expires → ∀ invocation : IdempotencyInvocation,
        invocation.resultIdentity = commit.identity →
        invocation.requestFingerprint.length = 32 →
          classifyCompletedResult aead keyring invocation
              ((state.results invocation.resultIdentity).map Row.record) state.epoch =
            if commit.mutation.invocation.requestFingerprint = invocation.requestFingerprint then
              .ok (.replayCandidate commit.mutation.response)
            else .error .conflict := by
  intro state
  have ledger := (@sound_run _ keyring advisoryKey roundTrips epoch events).ledger
  refine ⟨ledger.once, ledger.separated, ledger.answered, ?_⟩
  intro commit committed expires stored unexpired invocation sameIdentity digest
  rcases ledger.live commit committed expires stored with expired | ⟨row, present, recordOf⟩
  · exact absurd expired (not_le.mpr unexpired)
  · have untilThen : state.epoch < row.record.expiresAtEpoch := by
      rw [recordOf.expires_eq] at stored
      exact Option.some.inj stored ▸ unexpired
    have found : state.results invocation.resultIdentity = some row := by
      rw [sameIdentity]
      exact present
    rw [found, ← recordOf.fingerprint_eq]
    exact recordOf.classify sameIdentity digest untilThen

end Runs

/-- Two executions look their results up before either has the advisory lock. -/
def sampleEvents : List Event :=
  let reserves := Choice.reserves
    { version := "k1", slot := 1, nonce := sampleNonce, reservedAtEpoch := sampleEpoch }
  [.execute sampleInvocation, .execute sampleInvocation] ++
    List.replicate 4 (.advance 1 .goes) ++ List.replicate 2 (.advance 1 reserves) ++
    List.replicate 6 (.advance 1 .goes) ++ List.replicate 5 (.advance 0 .goes) ++
    [.advance 0 (.mutates { response := sampleResponse })] ++
    List.replicate 8 (.advance 0 .goes)

def sampleRun : Tasks State Task :=
  run sampleAead (some sampleKeyring) (fun _ => 0) sampleEpoch sampleEvents

theorem concurrent_executions_share_a_response :
    sampleRun.shared.answers.map Answer.response = [sampleResponse, sampleResponse] ∧
      sampleRun.shared.commits.length = 1 ∧
      sampleRun.shared.commits.Pairwise Commit.Precedes := by
  have separated := (@executions_commit_at_most_once _ (some sampleKeyring) (fun _ => 0)
    sampleAead_roundTrips sampleEpoch sampleEvents).2.1
  refine ⟨by decide +kernel, by decide +kernel, ?_⟩
  rw [sampleRun]
  exact separated

end PostgresIdempotency
end Vinctor
