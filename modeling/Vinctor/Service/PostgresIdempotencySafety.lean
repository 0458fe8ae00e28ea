import Vinctor.Service.IdempotencyReplay
import Vinctor.Service.PostgresIdempotency

/-!
# Results over PostgreSQL are not lost

A completion holds the advisory lock of its identity from before it reads the row to the
end of its transaction.  No other completion of the identity commits meanwhile, so what it
has read of the committed mutations stays true.  A collection deletes only rows that it has
locked, and these have expired.
-/

namespace Vinctor
namespace PostgresIdempotency

open Foundation
open Idempotency
open Fallible

/-! ## Committed mutations -/

abbrev Commit.identity (commit : Commit) : ResultIdentity :=
  commit.mutation.invocation.resultIdentity

/-- The stored results of an identity have expired by an epoch. -/
def ExpiredBy (commits : List Commit) (identity : ResultIdentity) (epoch : Int) : Prop :=
  ∀ commit ∈ commits, commit.identity = identity →
    ∀ expires, commit.mutation.expiresAtEpoch = some expires → expires ≤ epoch

/-- A mutation is committed only when the results before it have expired. -/
def Commit.Precedes (earlier later : Commit) : Prop :=
  earlier.identity = later.identity →
    ∀ expires, earlier.mutation.expiresAtEpoch = some expires → expires ≤ later.ranAt

/-- An execution gets the response of its own mutation, or of a stored one with its
fingerprint. -/
def Commit.Gives
    (commit : Commit)
    (execution : Execution)
    (response : PreSerializedHttpResponse) : Prop :=
  commit.identity = execution.invocation.resultIdentity ∧
    commit.mutation.response = response ∧
    ((commit.mutation.execution = execution.id ∧
        commit.mutation.invocation = execution.invocation) ∨
      (commit.mutation.expiresAtEpoch.isSome = true ∧
        commit.mutation.invocation.requestFingerprint =
          execution.invocation.requestFingerprint))

section Rows

variable
    (aead : Aead)
    (keyring : Option IdempotencyKeyring)

/-- What a row tells about the committed mutations of its identity. -/
def Seen
    (commits : List Commit)
    (identity : ResultIdentity)
    (epoch : Int) : Option Row → Prop
  | none => ExpiredBy commits identity epoch
  | some row =>
      (∃ commit ∈ commits, RecordOf aead keyring identity row.record commit.mutation) ∧
        ∀ commit ∈ commits, commit.identity = identity →
          ∀ expires, commit.mutation.expiresAtEpoch = some expires →
            expires ≤ epoch ∨ expires = row.record.expiresAtEpoch

/-- The rows, what was committed and what was answered agree. -/
structure Ledger (state : State) : Prop where
  rows : ∀ identity row, state.results identity = some row →
    ∃ commit ∈ state.commits, RecordOf aead keyring identity row.record commit.mutation
  live : ∀ commit ∈ state.commits,
    ∀ expires, commit.mutation.expiresAtEpoch = some expires → expires ≤ state.epoch ∨
      ∃ row, state.results commit.identity = some row ∧
        RecordOf aead keyring commit.identity row.record commit.mutation
  separated : state.commits.Pairwise Commit.Precedes
  answered : ∀ answer ∈ state.answers,
    ∃ commit ∈ state.commits, commit.Gives answer.execution answer.response
  once : (state.commits.map fun commit => commit.mutation.execution).Nodup
  numbered : ∀ commit ∈ state.commits, commit.mutation.execution < state.nextId
  guarded : ∀ identity, state.results identity = none → state.rowLocks identity = none

end Rows

section Classification

variable {aead : Aead} {keyring : Option IdempotencyKeyring}

/-- A stored result is replayed before its expiry to its own fingerprint only. -/
theorem RecordOf.replays
    {record : CompletedResultRecord}
    {mutation : CommittedMutation}
    {invocation : IdempotencyInvocation}
    {nowEpoch : Int}
    {response : PreSerializedHttpResponse}
    (recordOf : RecordOf aead keyring invocation.resultIdentity record mutation)
    (replays : classifyCompletedResult aead keyring invocation (some record) nowEpoch =
      .ok (.replayCandidate response)) :
    mutation.response = response ∧
      mutation.invocation.requestFingerprint = invocation.requestFingerprint := by
  have digest : invocation.requestFingerprint.length = 32 := by
    by_contra malformed
    rw [classify_malformed malformed] at replays
    cases replays
  have unexpired : nowEpoch < record.expiresAtEpoch := by
    by_contra expired
    simp only [classifyCompletedResult, bind_eq_ok, if_pos (not_lt.mp expired)] at replays
    obtain ⟨-, -, -, -, replays⟩ := replays
    cases replays
  rw [recordOf.classify rfl digest unexpired] at replays
  split at replays
  · next same =>
      injection replays with replays
      injection replays with same'
      exact ⟨same', recordOf.fingerprint_eq ▸ same⟩
  · cases replays

/-- Without a result nothing is replayed. -/
theorem replays_of_row
    {row : Option Row}
    {invocation : IdempotencyInvocation}
    {nowEpoch : Int}
    {response : PreSerializedHttpResponse}
    (replays : classifyCompletedResult aead keyring invocation (row.map Row.record) nowEpoch =
      .ok (.replayCandidate response)) :
    ∃ found, row = some found := by
  cases row with
  | some found => exact ⟨found, rfl⟩
  | none =>
      simp only [Option.map_none, classifyCompletedResult, bind_eq_ok] at replays
      obtain ⟨-, -, replays⟩ := replays
      cases replays

/-- What is replayed from a row is the response of a committed mutation. -/
theorem gives_of_replays
    {commits : List Commit}
    {row : Option Row}
    {execution : Execution}
    {nowEpoch : Int}
    {response : PreSerializedHttpResponse}
    (recorded : ∀ found, row = some found → ∃ commit ∈ commits,
      RecordOf aead keyring execution.invocation.resultIdentity found.record commit.mutation)
    (replays : classifyCompletedResult aead keyring execution.invocation (row.map Row.record)
      nowEpoch = .ok (.replayCandidate response)) :
    ∃ commit ∈ commits, commit.Gives execution response := by
  obtain ⟨found, rfl⟩ := replays_of_row replays
  obtain ⟨commit, committed, recordOf⟩ := recorded found rfl
  obtain ⟨sameResponse, sameFingerprint⟩ := RecordOf.replays recordOf replays
  refine ⟨commit, committed, recordOf.identity_eq, sameResponse, .inr ⟨?_, sameFingerprint⟩⟩
  rw [recordOf.expires_eq]
  rfl

end Classification

/-! ## What tasks have -/

/-- The completion that has the advisory lock of its identity. -/
def Task.inside : Task → Option PostgresCompletionAttempt
  | .authenticating attempt | .readingEpoch attempt | .loading attempt _
  | .classifying attempt _ _ | .mutating attempt _ _ | .storing attempt _ _ _ _ _
  | .committing attempt _ _ | .deleting (.completion attempt _) _
  | .awaiting (.completion attempt _) _ _ => some attempt
  | _ => none

/-- The rows that a transaction has locked. -/
def Task.locked : Task → List ResultIdentity
  | .mutating _ _ deletes | .storing _ _ _ deletes _ _ | .committing _ deletes _ => deletes
  | .deleting (.collection _ _ rows deletes) identity
  | .awaiting (.collection _ _ rows deletes) identity _ =>
      identity :: rows.map Prod.fst ++ deletes
  | .selecting _ _ rows => rows.map Prod.fst
  | .sweeping _ _ rows deletes => rows.map Prod.fst ++ deletes
  | _ => []

theorem ids_of_inside
    {task : Task}
    {attempt : PostgresCompletionAttempt}
    (inside : task.inside = some attempt) : task.ids = [attempt.execution.id] := by
  cases task with
  | deleting deleter identity | awaiting deleter identity row =>
      cases deleter with
      | completion other nowEpoch =>
          cases inside
          rfl
      | collection id nowEpoch rows deletes => cases inside
  | authenticating other | readingEpoch other | loading other nowEpoch
  | classifying other nowEpoch row | mutating other nowEpoch deletes
  | storing other nowEpoch ranAt deletes response record | committing other deletes work =>
      cases inside
      rfl
  | _ => cases inside

section Facts

variable
    (aead : Aead)
    (keyring : Option IdempotencyKeyring)
    (advisoryKey : ResultIdentity → Int)

/-- What a completion commits is as it takes it to be. -/
def Work.Facts
    (state : State)
    (attempt : PostgresCompletionAttempt)
    (deletes : List ResultIdentity) : Work → Prop
  | .replays response => ∃ commit ∈ state.commits, commit.Gives attempt.execution response
  | .ran response nowEpoch ranAt stored =>
      ranAt ≤ state.epoch ∧ ExpiredBy state.commits attempt.identity ranAt ∧
        ∀ record, stored = some record →
          RecordOf aead keyring attempt.identity record
              (attempt.committed response nowEpoch ranAt (some record)).mutation ∧
            (state.results attempt.identity = none ∨ attempt.identity ∈ deletes)

/-- The database is as a task takes it to be. -/
def Task.Facts (state : State) : Task → Prop
  | .loading _ nowEpoch => nowEpoch ≤ state.epoch
  | .classifying attempt nowEpoch row => nowEpoch ≤ state.epoch ∧
      Seen aead keyring state.commits attempt.identity state.epoch row
  | .mutating attempt _ _ => ExpiredBy state.commits attempt.identity state.epoch
  | .deleting (.completion attempt _) identity
  | .awaiting (.completion attempt _) identity _ =>
      identity = attempt.identity ∧ ExpiredBy state.commits attempt.identity state.epoch
  | .storing attempt nowEpoch ranAt _ response record => ranAt ≤ state.epoch ∧
      ExpiredBy state.commits attempt.identity ranAt ∧
        ∃ expires, sealOutcome aead keyring attempt response nowEpoch expires = .ok record
  | .committing attempt deletes work => work.Facts aead keyring state attempt deletes
  | _ => True

/-- A row is locked by a task, and has expired. -/
def Task.Locks (state : State) (task : Task) (identity : ResultIdentity) : Prop :=
  ∃ id ∈ task.ids, state.rowLocks identity = some id ∧
    ∃ row, state.results identity = some row ∧ row.record.expiresAtEpoch ≤ state.epoch

structure Task.Holds (state : State) (task : Task) : Prop where
  inside : ∀ attempt, task.inside = some attempt →
    state.advisory (advisoryKey attempt.identity) = some attempt.execution.id
  locked : ∀ identity ∈ task.locked, task.Locks state identity
  facts : task.Facts aead keyring state

end Facts

/-! ## What one step does -/

/-- What a step may do to what other tasks have. -/
structure Moves (task : Task) (before after : State) : Prop where
  epoch : before.epoch ≤ after.epoch
  nextId : before.nextId ≤ after.nextId
  kept : ∀ commit ∈ before.commits, commit ∈ after.commits
  own : ∀ commit ∈ after.commits, commit ∈ before.commits ∨
    ∃ attempt, task.inside = some attempt ∧ commit.identity = attempt.identity ∧
      commit.mutation.execution = attempt.execution.id
  advisory : ∀ key id, id ∉ task.ids → before.advisory key = some id →
    after.advisory key = some id
  rows : ∀ identity id, id ∉ task.ids → before.rowLocks identity = some id →
    after.rowLocks identity = some id ∧ after.results identity = before.results identity
  absent : ∀ identity, (∀ attempt, task.inside = some attempt → attempt.identity ≠ identity) →
    before.results identity = none → after.results identity = none

theorem Moves.trans
    {task : Task}
    {before between after : State}
    (first : Moves task before between)
    (second : Moves task between after) : Moves task before after where
  epoch := le_trans first.epoch second.epoch
  nextId := le_trans first.nextId second.nextId
  kept commit committed := second.kept commit (first.kept commit committed)
  own commit committed := (second.own commit committed).elim (first.own commit) .inr
  advisory key id foreign locked :=
    second.advisory key id foreign (first.advisory key id foreign locked)
  rows identity id foreign locked := by
    obtain ⟨stillLocked, same⟩ := first.rows identity id foreign locked
    obtain ⟨stillLocked', same'⟩ := second.rows identity id foreign stillLocked
    exact ⟨stillLocked', same'.trans same⟩
  absent identity foreign missing :=
    second.absent identity foreign (first.absent identity foreign missing)

section Frame

variable
    {aead : Aead}
    {keyring : Option IdempotencyKeyring}
    {advisoryKey : ResultIdentity → Int}
    {task other : Task}
    {before after : State}

/-- Results stay expired for who is not the identity that commits. -/
theorem Moves.expiredBy
    (moves : Moves task before after)
    {identity : ResultIdentity}
    (foreign : ∀ attempt, task.inside = some attempt → attempt.identity ≠ identity)
    {epoch later : Int}
    (expired : ExpiredBy before.commits identity epoch)
    (isLater : epoch ≤ later) : ExpiredBy after.commits identity later := by
  intro commit committed sameIdentity expires stored
  rcases moves.own commit committed with old | ⟨attempt, inside, ofAttempt, -⟩
  · exact le_trans (expired commit old sameIdentity expires stored) isLater
  · exact absurd (ofAttempt.symm.trans sameIdentity) (foreign attempt inside)

theorem Moves.seen
    (moves : Moves task before after)
    {identity : ResultIdentity}
    (foreign : ∀ attempt, task.inside = some attempt → attempt.identity ≠ identity)
    {row : Option Row}
    (seen : Seen aead keyring before.commits identity before.epoch row) :
    Seen aead keyring after.commits identity after.epoch row := by
  cases row with
  | none => exact moves.expiredBy foreign seen moves.epoch
  | some row =>
      obtain ⟨⟨commit, committed, recordOf⟩, expired⟩ := seen
      refine ⟨⟨commit, moves.kept commit committed, recordOf⟩, ?_⟩
      intro commit committed sameIdentity expires stored
      rcases moves.own commit committed with old | ⟨attempt, inside, ofAttempt, -⟩
      · exact (expired commit old sameIdentity expires stored).imp_left
          fun expired => le_trans expired moves.epoch
      · exact absurd (ofAttempt.symm.trans sameIdentity) (foreign attempt inside)

theorem Moves.gives
    (moves : Moves task before after)
    {execution : Execution}
    {response : PreSerializedHttpResponse}
    (gives : ∃ commit ∈ before.commits, commit.Gives execution response) :
    ∃ commit ∈ after.commits, commit.Gives execution response := by
  obtain ⟨commit, committed, gives⟩ := gives
  exact ⟨commit, moves.kept commit committed, gives⟩

/-- What a completion takes to be so stays so while others move. -/
theorem Moves.facts
    (moves : Moves task before after)
    (foreign : ∀ mine, other.inside = some mine → ∀ attempt, task.inside = some attempt →
      attempt.identity ≠ mine.identity)
    (facts : other.Facts aead keyring before) : other.Facts aead keyring after := by
  cases other with
  | loading attempt nowEpoch => exact le_trans facts moves.epoch
  | classifying attempt nowEpoch row =>
      exact ⟨le_trans facts.1 moves.epoch, moves.seen (foreign attempt rfl) facts.2⟩
  | mutating attempt nowEpoch deletes =>
      exact moves.expiredBy (foreign attempt rfl) facts moves.epoch
  | storing attempt nowEpoch ranAt deletes response record =>
      obtain ⟨ran, expired, isSealed⟩ := facts
      exact ⟨le_trans ran moves.epoch, moves.expiredBy (foreign attempt rfl) expired le_rfl,
        isSealed⟩
  | committing attempt deletes work =>
      cases work with
      | replays response => exact moves.gives facts
      | ran response nowEpoch ranAt stored =>
          obtain ⟨ran, expired, storable⟩ := facts
          refine ⟨le_trans ran moves.epoch,
            moves.expiredBy (foreign attempt rfl) expired le_rfl, fun record isStored => ?_⟩
          obtain ⟨recordOf, room⟩ := storable record isStored
          exact ⟨recordOf, room.imp_left (moves.absent _ (foreign attempt rfl))⟩
  | deleting deleter identity | awaiting deleter identity row =>
      cases deleter with
      | completion attempt nowEpoch =>
          exact ⟨facts.1, moves.expiredBy (foreign attempt rfl) facts.2 moves.epoch⟩
      | collection id nowEpoch rows deletes => trivial
  | _ => trivial

/-- Completions of one identity have different advisory locks, so a task with other
numbers keeps what it has. -/
theorem Moves.holds
    (moves : Moves task before after)
    (own : task.Holds aead keyring advisoryKey before)
    (apart : ∀ id ∈ other.ids, id ∉ task.ids)
    (holds : other.Holds aead keyring advisoryKey before) :
    other.Holds aead keyring advisoryKey after where
  inside mine isInside := by
    refine moves.advisory _ _ (apart _ ?_) (holds.inside mine isInside)
    rw [ids_of_inside isInside]
    exact List.mem_singleton_self _
  locked identity isLocked := by
    obtain ⟨id, isMine, locks, row, found, expired⟩ := holds.locked identity isLocked
    obtain ⟨stillLocks, same⟩ := moves.rows identity id (apart id isMine) locks
    exact ⟨id, isMine, stillLocks, row, same.trans found, le_trans expired moves.epoch⟩
  facts := by
    refine moves.facts ?_ holds.facts
    intro mine isInside attempt inside sameIdentity
    have locks := own.inside attempt inside
    rw [sameIdentity, holds.inside mine isInside] at locks
    have isMine : mine.execution.id ∈ other.ids := by
      rw [ids_of_inside isInside]
      exact List.mem_singleton_self _
    refine apart _ isMine ?_
    rw [ids_of_inside inside, Option.some.inj locks]
    exact List.mem_singleton_self _

end Frame

/-! ## Steps that only lock -/

/-- Nothing happens but to locks, of which only some transactions lose any, and to answers
that were due. -/
structure Quiet (ids : List Nat) (before after : State) : Prop where
  epoch : before.epoch ≤ after.epoch
  nextId : before.nextId ≤ after.nextId
  results : after.results = before.results
  commits : after.commits = before.commits
  answers : ∀ answer ∈ after.answers, answer ∈ before.answers ∨
    ∃ commit ∈ before.commits, commit.Gives answer.execution answer.response
  advisory : ∀ key id, id ∉ ids → before.advisory key = some id → after.advisory key = some id
  rowLocks : ∀ identity id, id ∉ ids → before.rowLocks identity = some id →
    after.rowLocks identity = some id
  guarded : ∀ identity, before.results identity = none → before.rowLocks identity = none →
    after.rowLocks identity = none

theorem Quiet.refl (state : State) : Quiet [] state state where
  epoch := le_rfl
  nextId := le_rfl
  results := rfl
  commits := rfl
  answers _ answered := .inl answered
  advisory _ _ _ := id
  rowLocks _ _ _ := id
  guarded _ _ := id

theorem Quiet.moves
    {task : Task}
    {ids : List Nat}
    {before after : State}
    (quiet : Quiet ids before after)
    (mine : ids ⊆ task.ids) : Moves task before after where
  epoch := quiet.epoch
  nextId := quiet.nextId
  kept _ committed := quiet.commits ▸ committed
  own _ committed := .inl (quiet.commits ▸ committed)
  advisory key id foreign := quiet.advisory key id fun isMine => foreign (mine isMine)
  rows identity id foreign locks :=
    ⟨quiet.rowLocks identity id (fun isMine => foreign (mine isMine)) locks,
      congrFun quiet.results identity⟩
  absent identity _ missing := (congrFun quiet.results identity).trans missing

theorem Quiet.ledger
    {aead : Aead}
    {keyring : Option IdempotencyKeyring}
    {ids : List Nat}
    {before after : State}
    (quiet : Quiet ids before after)
    (ledger : Ledger aead keyring before) : Ledger aead keyring after where
  rows := by
    rw [quiet.results, quiet.commits]
    exact ledger.rows
  live := by
    rw [quiet.results, quiet.commits]
    intro commit committed expires stored
    exact (ledger.live commit committed expires stored).imp_left
      fun expired => le_trans expired quiet.epoch
  separated := quiet.commits ▸ ledger.separated
  answered := by
    rw [quiet.commits]
    intro answer answered
    exact (quiet.answers answer answered).elim (ledger.answered answer) id
  once := quiet.commits ▸ ledger.once
  numbered := by
    rw [quiet.commits]
    intro commit committed
    exact lt_of_lt_of_le (ledger.numbered commit committed) quiet.nextId
  guarded := by
    rw [quiet.results]
    intro identity missing
    exact quiet.guarded identity missing (ledger.guarded identity missing)

section Quiet

variable (state : State)

theorem quiet_tick (seconds : Nat) :
    Quiet [] state { state with epoch := state.epoch + seconds } :=
  { Quiet.refl state with epoch := Int.le_add_of_nonneg_right (Int.natCast_nonneg seconds) }

theorem quiet_number : Quiet [] state { state with nextId := state.nextId + 1 } :=
  { Quiet.refl state with nextId := Nat.le_succ state.nextId }

theorem quiet_release (id : Nat) : Quiet [id] state (state.release id) :=
  { Quiet.refl state with
    advisory := by
      intro key other foreign locks
      have different : other ≠ id := by simpa using foreign
      dsimp only [State.release]
      rw [locks, if_neg (by simpa using different)]
    rowLocks := by
      intro identity other foreign locks
      have different : other ≠ id := by simpa using foreign
      dsimp only [State.release]
      rw [locks, if_neg (by simpa using different)]
    guarded := by
      intro identity _ free
      dsimp only [State.release]
      rw [free, if_neg nofun] }

theorem quiet_answer
    {execution : Execution}
    {response : PreSerializedHttpResponse}
    (gives : ∃ commit ∈ state.commits, commit.Gives execution response) :
    Quiet [] state (state.answer execution response) :=
  { Quiet.refl state with
    answers := by
      intro answer answered
      rcases List.mem_append.mp answered with old | new
      · exact .inl old
      · rw [List.mem_singleton.mp new]
        exact .inr gives }

/-- A lock is taken from nobody else. -/
theorem update_of_isFree
    [DecidableEq α]
    {locks : α → Option Nat}
    {item : α}
    {id : Nat}
    (free : isFree (locks item) id = true)
    {other : α}
    {holder : Nat}
    (held : locks other = some holder) :
    Function.update locks item (some id) other = some holder := by
  by_cases same : other = item
  · subst same
    rw [Function.update_self]
    rw [held] at free
    exact congrArg some (of_decide_eq_true free).symm
  · rw [Function.update_of_ne same, held]

theorem quiet_lockAdvisory
    {key : Int}
    {id : Nat}
    (free : isFree (state.advisory key) id = true) :
    Quiet [] state (state.lockAdvisory key id) :=
  { Quiet.refl state with
    advisory := fun _ _ _ held => update_of_isFree free held }

theorem quiet_lockRow
    {identity : ResultIdentity}
    {id : Nat}
    (free : isFree (state.rowLocks identity) id = true)
    (present : state.results identity ≠ none) :
    Quiet [] state (state.lockRow identity id) :=
  { Quiet.refl state with
    rowLocks := fun _ _ _ held => update_of_isFree free held
    guarded := by
      intro other missing unlocked
      have different : other ≠ identity := by
        rintro rfl
        exact present missing
      exact (Function.update_of_ne different _ _).trans unlocked }

theorem quiet_lockInsert (identity : ResultIdentity) (id : Nat) :
    Quiet [] state (state.lockInsert identity id) :=
  { Quiet.refl state with }

end Quiet

/-! ## Steps that end a transaction -/

section Apply

variable
    {state : State}
    {id : Nat}
    {deletes : List ResultIdentity}
    {insert : Option (ResultIdentity × Row)}

/-- The rows that a transaction deletes are locked by it, and have expired. -/
def Frees (state : State) (id : Nat) (deletes : List ResultIdentity) : Prop :=
  ∀ identity ∈ deletes, state.rowLocks identity = some id ∧
    ∃ row, state.results identity = some row ∧ row.record.expiresAtEpoch ≤ state.epoch

theorem frees_of_locks
    {task : Task}
    (ids : task.ids = [id])
    (locks : ∀ identity ∈ deletes, task.Locks state identity) : Frees state id deletes := by
  intro identity isDeleted
  obtain ⟨holder, isMine, locked⟩ := locks identity isDeleted
  rw [ids] at isMine
  exact List.mem_singleton.mp isMine ▸ locked

/-- There is no row in the way of an insert. -/
def Fits
    (state : State)
    (deletes : List ResultIdentity)
    (insert : Option (ResultIdentity × Row)) : Prop :=
  ∀ target row, insert = some (target, row) →
    state.results target = none ∨ target ∈ deletes

theorem fits_none (state : State) (deletes : List ResultIdentity) :
    Fits state deletes none := by
  intro target row inserts
  cases inserts

/-- The row of an identity after a transaction. -/
theorem apply_results_cases (state : State) (identity : ResultIdentity) :
    (∃ row, insert = some (identity, row) ∧
        (state.apply deletes insert).results identity = some row) ∨
      (identity ∈ deletes ∧ (state.apply deletes insert).results identity = none) ∨
      (identity ∉ deletes ∧
        (state.apply deletes insert).results identity = state.results identity) := by
  dsimp only [State.apply]
  cases insert with
  | none =>
      by_cases isDeleted : identity ∈ deletes
      · exact .inr (.inl ⟨isDeleted, if_pos isDeleted⟩)
      · exact .inr (.inr ⟨isDeleted, if_neg isDeleted⟩)
  | some inserted =>
      obtain ⟨target, row⟩ := inserted
      dsimp only
      by_cases same : identity = target
      · exact .inl ⟨row, by rw [same], if_pos same⟩
      · rw [if_neg same]
        by_cases isDeleted : identity ∈ deletes
        · exact .inr (.inl ⟨isDeleted, if_pos isDeleted⟩)
        · exact .inr (.inr ⟨isDeleted, if_neg isDeleted⟩)

/-- No lock is left on a row that is gone. -/
theorem apply_guarded
    (frees : Frees state id deletes)
    (guarded : ∀ identity, state.results identity = none → state.rowLocks identity = none)
    {identity : ResultIdentity}
    (gone : (state.apply deletes insert).results identity = none) :
    (state.release id).rowLocks identity = none := by
  dsimp only [State.release]
  rcases apply_results_cases state identity with
    ⟨row, -, inserted⟩ | ⟨isDeleted, -⟩ | ⟨-, same⟩
  · rw [inserted] at gone
    cases gone
  · rw [if_pos (frees identity isDeleted).1]
  · rw [guarded identity (same.symm.trans gone), if_neg nofun]

/-- A row that another transaction has locked stays. -/
theorem apply_results_of_locked
    (frees : Frees state id deletes)
    (fits : Fits state deletes insert)
    (guarded : ∀ identity, state.results identity = none → state.rowLocks identity = none)
    {identity : ResultIdentity}
    {other : Nat}
    (foreign : other ≠ id)
    (locks : state.rowLocks identity = some other) :
    (state.apply deletes insert).results identity = state.results identity := by
  have notDeleted : identity ∉ deletes := by
    intro isDeleted
    rw [(frees identity isDeleted).1] at locks
    exact foreign (Option.some.inj locks).symm
  rcases apply_results_cases state identity with
    ⟨row, inserts, -⟩ | ⟨isDeleted, -⟩ | ⟨-, same⟩
  · rcases fits identity row inserts with missing | isDeleted
    · rw [guarded identity missing] at locks
      cases locks
    · exact absurd isDeleted notDeleted
  · exact absurd isDeleted notDeleted
  · exact same

/-- A row stays, or has expired, or gives way to the inserted one. -/
theorem apply_results_of_some
    (frees : Frees state id deletes)
    {identity : ResultIdentity}
    {row : Row}
    (present : state.results identity = some row) :
    (∃ inserted, insert = some (identity, inserted)) ∨
      row.record.expiresAtEpoch ≤ state.epoch ∨
      (state.apply deletes insert).results identity = some row := by
  rcases apply_results_cases state identity with
    ⟨inserted, inserts, -⟩ | ⟨isDeleted, -⟩ | ⟨-, same⟩
  · exact .inl ⟨inserted, inserts⟩
  · obtain ⟨-, old, found, expired⟩ := frees identity isDeleted
    rw [present] at found
    cases found
    exact .inr (.inl expired)
  · exact .inr (.inr (same.trans present))

end Apply

end PostgresIdempotency
end Vinctor
