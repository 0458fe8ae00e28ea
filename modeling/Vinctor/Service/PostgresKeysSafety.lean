import Vinctor.Service.IdempotencyEffects
import Vinctor.Service.PostgresKeys

/-!
# A drained key version is closed

The shared lock of a service is held from before its completion checks the version to
after the completion ends.  A call that has the lock for itself and finds the version
disabled therefore knows that no completion of the version is past its check, and none
will pass it again.
-/

namespace Vinctor
namespace PostgresKeys

open Foundation
open Idempotency
open Fallible

/-! ## Tables -/

/-- A change of the tables that closes no version and inserts no result. -/
structure Spares (before after : Tables) : Prop where
  disabled : ∀ version, disabledAt before version ≠ none → disabledAt after version ≠ none
  drained : ∀ version, drainedAt after version = drainedAt before version
  retired : ∀ version, retiredAt after version = retiredAt before version
  results : after.results = before.results

theorem Spares.refl (tables : Tables) : Spares tables tables where
  disabled _ := id
  drained _ := rfl
  retired _ := rfl
  results := rfl

theorem Spares.trans
    {first second third : Tables}
    (earlier : Spares first second)
    (later : Spares second third) : Spares first third where
  disabled version isDisabled := later.disabled version (earlier.disabled version isDisabled)
  drained version := (later.drained version).trans (earlier.drained version)
  retired version := (later.retired version).trans (earlier.retired version)
  results := later.results.trans earlier.results

/-- A changed row of a version. -/
theorem Spares.modify
    (tables : Tables)
    (version : String)
    (change : KeyVersionRow → KeyVersionRow)
    (keepsCommitment : ∀ row, (change row).keyCommitment = row.keyCommitment)
    (disabled : ∀ row, row.writeDisabledEpoch ≠ none → (change row).writeDisabledEpoch ≠ none)
    (drained : ∀ row, (change row).drainCompletedEpoch = row.drainCompletedEpoch)
    (retired : ∀ row, (change row).retiredEpoch = row.retiredEpoch) :
    Spares tables
      { tables with
        keyVersions := tables.keyVersions.modify version change keepsCommitment } where
  disabled other := by
    rw [disabledAt, disabledAt, Table.get?_modify]
    split
    · cases tables.keyVersions.get? other with
      | none => exact id
      | some row => exact disabled row
    · exact id
  drained other := by
    rw [drainedAt, drainedAt, Table.get?_modify]
    split
    · cases tables.keyVersions.get? other with
      | none => rfl
      | some row => exact drained row
    · rfl
  retired other := by
    rw [retiredAt, retiredAt, Table.get?_modify]
    split
    · cases tables.keyVersions.get? other with
      | none => rfl
      | some row => exact retired row
    · rfl
  results := rfl

/-- A version that is seen for the first time. -/
theorem Spares.insertsLabel
    {before after : Tables}
    (inserts : before.InsertsLabel after) : Spares before after := by
  obtain ⟨registration, nowEpoch, keyVersions, -, inserted, rfl⟩ := inserts
  have absent := (Table.insert?_eq_some inserted).1
  have lookup := Table.get?_insert? inserted
  constructor
  · intro version isDisabled
    rw [disabledAt, lookup, if_neg]
    · exact isDisabled
    · rintro rfl
      rw [disabledAt, absent] at isDisabled
      exact isDisabled rfl
  · intro version
    rw [drainedAt, drainedAt, lookup]
    split
    · next same =>
        rw [same, absent]
        rfl
    · rfl
  · intro version
    rw [retiredAt, retiredAt, lookup]
    split
    · next same =>
        rw [same, absent]
        rfl
    · rfl
  · rfl

theorem registerKeyring_spares
    {keyring : Option IdempotencyKeyring}
    {nowEpoch : Int}
    {before after : Tables}
    (registers : registerKeyring keyring nowEpoch before = .ok after) : Spares before after :=
  registerKeyring_relates Spares.refl Spares.trans Spares.insertsLabel registers

theorem reserveNonce_spares
    {version : String}
    {invocation : IdempotencyInvocation}
    {nowEpoch : Int}
    {nonce : Option Bytes}
    {reservation : CryptoReservation}
    {before after : Tables}
    (reserves : reserveNonce version invocation nowEpoch nonce before = .ok (reservation, after)) :
    Spares before after ∧ reservation.version = version := by
  simp only [reserveNonce, bind_eq_ok, require_eq_ok, ensure_eq_ok, pure_eq_ok,
    Prod.mk.injEq] at reserves
  obtain ⟨row, -, -, -, -, -, -, -, given, -, -, -, -, -, nonces, -, rfl, rfl⟩ := reserves
  have takes := Spares.modify before version (takeSlot nowEpoch) (fun _ => rfl) (fun _ => id)
    (fun _ => rfl) (fun _ => rfl)
  exact ⟨⟨takes.disabled, takes.drained, takes.retired, rfl⟩, rfl⟩

theorem claimReservation_spares
    {invocation : IdempotencyInvocation}
    {reservation : CryptoReservation}
    {nowEpoch : Int}
    {before after : Tables}
    (claims : claimReservation invocation reservation nowEpoch before = .ok after) :
    Spares before after := by
  simp only [claimReservation, bind_eq_ok, require_eq_ok, ensure_eq_ok, pure_eq_ok] at claims
  obtain ⟨row, -, -, -, -, -, -, -, rfl⟩ := claims
  exact ⟨fun _ => id, fun _ => rfl, fun _ => rfl, rfl⟩

theorem writeDisable_spares
    {version : String}
    {reason : WriteDisabledReason}
    {nowEpoch : Int}
    {before after : Tables}
    (disables : writeDisable version reason nowEpoch before = .ok after) :
    Spares before after := by
  rcases writeDisable_cases disables with rfl | ⟨row, -, -, -, rfl⟩
  · exact .refl after
  · refine .modify before version _ _ (fun row isDisabled => ?_) (fun _ => rfl) (fun _ => rfl)
    obtain ⟨epoch, recorded⟩ := Option.ne_none_iff_exists'.mp isDisabled
    dsimp only [disableWrites]
    rw [recorded]
    nofun

/-- The reservation of a completion is of a version that is in use. -/
theorem undisabled_of_authentic
    {tables : Tables}
    {invocation : IdempotencyInvocation}
    {reservation : CryptoReservation}
    {claimedAtEpoch : Option Int}
    (authentic : requireReservationAuthentic tables invocation reservation =
      .ok claimedAtEpoch) : disabledAt tables reservation.version = none := by
  simp only [requireReservationAuthentic, bind_eq_ok, require_eq_ok, ensure_eq_ok,
    pure_eq_ok] at authentic
  obtain ⟨row, -, version, found, -, ⟨undisabled, -⟩, -⟩ := authentic
  rw [disabledAt, found]
  exact undisabled

/-- Removed results. -/
theorem withoutRows_results
    (tables : Tables)
    (rows : List (ResultIdentity × CompletedResultRecord))
    (identity : ResultIdentity) :
    (withoutRows tables rows).results.get? identity =
      if identity ∈ rows.map Prod.fst then none else tables.results.get? identity := by
  induction rows generalizing tables with
  | nil => rfl
  | cons row rows hypothesis =>
      rw [withoutRows, List.foldl_cons]
      refine (hypothesis _).trans ?_
      dsimp only
      rw [Table.get?_erase]
      by_cases isRow : identity = row.1
      · simp [isRow]
      · simp only [isRow, if_false, List.map_cons, List.mem_cons, false_or]

theorem withoutRows_keyVersions
    (tables : Tables)
    (rows : List (ResultIdentity × CompletedResultRecord)) :
    (withoutRows tables rows).keyVersions = tables.keyVersions := by
  induction rows generalizing tables with
  | nil => rfl
  | cons row rows hypothesis => exact hypothesis _

theorem withoutExpired_results
    (state : State)
    (identity other : ResultIdentity) :
    (withoutExpired state identity).results.get? other = state.tables.results.get? other ∨
      (other = identity ∧ (withoutExpired state identity).results.get? other = none) := by
  unfold withoutExpired
  split
  · rw [Table.get?_erase]
    split
    · next same => exact .inr ⟨same, rfl⟩
    · exact .inl rfl
  · exact .inl rfl

theorem withoutExpired_keyVersions (state : State) (identity : ResultIdentity) :
    (withoutExpired state identity).keyVersions = state.tables.keyVersions := by
  unfold withoutExpired
  split <;> rfl

/-! ## What tasks have -/

/-- A connection that a task uses, and the version it was made for. -/
structure Use where
  service : Nat
  number : Nat
  version : String

abbrev Use.session (use : Use) : Session := .service use.service use.number

def Task.execution : Task → Option Execution
  | .waiting execution _ | .validating execution _ _ | .transacting execution _ _
  | .storing execution _ _ | .committing execution _ _ => some execution
  | _ => none

def Task.use : Task → Option Use
  | .attesting keyring service | .registering keyring service =>
      some ⟨service, 0, keyring.activeVersion⟩
  | .validating execution _ number | .transacting execution _ number
  | .storing execution _ number | .committing execution _ number =>
      some ⟨execution.service, number, execution.version⟩
  | _ => none

/-- The service whose connection has not got the shared lock yet. -/
def Task.validates : Task → List Nat
  | .attesting _ service => [service]
  | .validating execution _ _ => [execution.service]
  | _ => []

/-- A transaction that may store a result. -/
def Task.completes : Task → Option Use
  | .transacting execution (.completes _) number | .storing execution _ number
  | .committing execution _ number => some ⟨execution.service, number, execution.version⟩
  | _ => none

/-- A completion that has checked its version. -/
def Task.past : Task → Option Use
  | .storing execution _ number | .committing execution _ number =>
      some ⟨execution.service, number, execution.version⟩
  | _ => none

def Task.calls (task : Task) : List Nat := task.call.toList.map Call.id

/-- A call that has the advisory lock. -/
def Task.guards : Task → Option Call
  | .checking call _ | .draining call => some call
  | _ => none

/-- A service that is about to give its shared lock back. -/
def Task.releases : Task → Option Nat
  | .releasing service => some service
  | _ => none

/-- The results that a retirement has locked. -/
def Task.rows : Task → List (ResultIdentity × CompletedResultRecord)
  | .lockingRows _ _ _ found => found
  | .retiring _ _ rows | .ending _ (.retire _ rows) | .unlocking _ (some (.retire _ rows)) => rows
  | _ => []

/-- A call that has updated its version. -/
def Task.update : Task → Option Update
  | .ending _ update | .unlocking _ (some update) => some update
  | _ => none

def Goal.Suits (execution : Execution) : Goal → Prop
  | .reserves _ => True
  | .claims reservation | .completes reservation => reservation.version = execution.version

/-- What a task carries fits together. -/
def Task.Suits : Task → Prop
  | .waiting execution goal | .validating execution goal _ | .transacting execution goal _ =>
      goal.Suits execution
  | .storing execution reservation _ => reservation.version = execution.version
  | .committing execution record _ => record.cipherKeyVersion = execution.version
  | .retiring _ nowEpoch rows | .ending _ (.retire nowEpoch rows)
  | .unlocking _ (some (.retire nowEpoch rows)) =>
      ∀ row ∈ rows, row.2.expiresAtEpoch ≤ nowEpoch
  | _ => True

section Holds

variable (carrier : String → Int)

/-- The database is as a task takes it to be, unless its session has ended. -/
structure Task.Holds (state : State) (task : Task) : Prop where
  suits : task.Suits
  named : ∀ execution, task.execution = some execution →
    ∃ service, state.services execution.service = some service ∧
      service.version = execution.version
  connected : ∀ use, task.use = some use →
    ∃ service, state.services use.service = some service ∧ service.session = some use.number ∧
      service.version = use.version
  shared : ∀ use, task.completes = some use →
    use.session ∈ state.lost ∨ use.session ∈ state.shared (carrier use.version)
  unregistered : ∀ id, task.releases = some id →
    ∃ service, state.services id = some service ∧ service.registered = false
  guards : ∀ call, task.guards = some call →
    .call call.id ∈ state.lost ∨ state.exclusive (carrier call.version) = some call.id
  rows : ∀ call, task.call = some call → .call call.id ∈ state.lost ∨
    ∀ row ∈ task.rows, state.rowLocks row.1 = some call.id ∧
      state.tables.results.get? row.1 = some row.2
  bare : ∀ call nowEpoch rows, task.call = some call →
    task.update = some (.retire nowEpoch rows) → .call call.id ∈ state.lost ∨
      (drainedAt state.tables call.version ≠ none ∧
        ∀ identity record, state.tables.results.get? identity = some record →
          record.cipherKeyVersion = call.version → identity ∈ rows.map Prod.fst)

end Holds

/-! ## What one step does -/

/-- What a step may do to what other tasks have. -/
structure Moves (task : Task) (before after : State) : Prop where
  lost : ∀ session ∈ before.lost, session ∈ after.lost
  shared : ∀ key session, session ∈ before.shared key →
    session ∈ after.lost ∨ session ∈ after.shared key ∨
      ∃ id number service, session = .service id number ∧ before.services id = some service ∧
        service.locked = false ∧ service.registered = false
  exclusive : ∀ key id, id ∉ task.calls → before.exclusive key = some id →
    .call id ∈ after.lost ∨ after.exclusive key = some id
  rowLocks : ∀ identity id, id ∉ task.calls → before.rowLocks identity = some id →
    .call id ∈ after.lost ∨ (after.rowLocks identity = some id ∧
      after.tables.results.get? identity = before.tables.results.get? identity)
  services : ∀ id service, before.services id = some service →
    ∃ changed, after.services id = some changed ∧ changed.version = service.version ∧
      (service.registered = false → changed.registered = false) ∧
      (service.locked = true → id ∉ task.locks → changed.session = service.session)
  disabled : ∀ version, disabledAt before.tables version ≠ none →
    disabledAt after.tables version ≠ none
  drained : ∀ version, drainedAt before.tables version ≠ none →
    drainedAt after.tables version ≠ none
  results : ∀ identity record, after.tables.results.get? identity = some record →
    before.tables.results.get? identity = some record ∨
      drainedAt before.tables record.cipherKeyVersion = none

section Frame

variable
    {carrier : String → Int}
    {task other : Task}
    {before after : State}

/-- A task keeps what it has while others move. -/
theorem Moves.holds
    (moves : Moves task before after)
    (apart : ∀ id ∈ other.calls, id ∉ task.calls)
    (locked : ∀ use, other.use = some use → use.service ∉ task.locks ∧
      ∀ service, before.services use.service = some service → service.locked = true)
    (holds : other.Holds carrier before) : other.Holds carrier after where
  suits := holds.suits
  named execution isExecution := by
    obtain ⟨service, found, version⟩ := holds.named execution isExecution
    obtain ⟨changed, stillFound, sameVersion, -, -⟩ := moves.services _ service found
    exact ⟨changed, stillFound, sameVersion.trans version⟩
  connected use isUse := by
    obtain ⟨service, found, session, version⟩ := holds.connected use isUse
    obtain ⟨notMine, isLocked⟩ := locked use isUse
    obtain ⟨changed, stillFound, sameVersion, -, sameSession⟩ := moves.services _ service found
    exact ⟨changed, stillFound, (sameSession (isLocked service found) notMine).trans session,
      sameVersion.trans version⟩
  shared use completes := by
    have isUse : other.use = some use := by
      cases other with
      | transacting execution goal number =>
          cases goal with
          | completes reservation => exact completes
          | _ => cases completes
      | storing execution reservation number => exact completes
      | committing execution record number => exact completes
      | _ => cases completes
    rcases holds.shared use completes with lost | shares
    · exact .inl (moves.lost _ lost)
    · rcases moves.shared _ _ shares with
        lost | still | ⟨id, number, service, same, found, free, -⟩
      · exact .inl lost
      · exact .inr still
      · injection same with same
        subst same
        have isLocked := (locked use isUse).2 service found
        rw [free] at isLocked
        cases isLocked
  unregistered id isReleased := by
    obtain ⟨service, found, unregistered⟩ := holds.unregistered id isReleased
    obtain ⟨changed, stillFound, -, still, -⟩ := moves.services id service found
    exact ⟨changed, stillFound, still unregistered⟩
  guards call isCall := by
    have mine : call.id ∈ other.calls := by
      cases other with
      | checking mine action | draining mine =>
          cases isCall
          exact List.mem_singleton_self _
      | _ => cases isCall
    rcases holds.guards call isCall with lost | held
    · exact .inl (moves.lost _ lost)
    · exact moves.exclusive _ _ (apart _ mine) held
  rows call isCall := by
    have mine : call.id ∈ other.calls := by
      rw [Task.calls, isCall]
      exact List.mem_singleton_self _
    rcases holds.rows call isCall with lost | held
    · exact .inl (moves.lost _ lost)
    · by_cases lost : .call call.id ∈ after.lost
      · exact .inl lost
      · refine .inr fun row isRow => ?_
        obtain ⟨locks, present⟩ := held row isRow
        obtain ⟨stillLocks, same⟩ :=
          (moves.rowLocks row.1 call.id (apart _ mine) locks).resolve_left lost
        exact ⟨stillLocks, same.trans present⟩
  bare call nowEpoch rows isCall isUpdate := by
    refine (holds.bare call nowEpoch rows isCall isUpdate).imp (moves.lost _) ?_
    rintro ⟨drained, listed⟩
    refine ⟨moves.drained _ drained, fun identity record present isVersion => ?_⟩
    rcases moves.results identity record present with old | undrained
    · exact listed identity record old isVersion
    · rw [isVersion] at undrained
      exact absurd undrained drained

end Frame

/-! ## Closed versions -/

/-- A version that is drained, or about to be. -/
def Closing (state : State) (tasks : List Task) (version : String) : Prop :=
  drainedAt state.tables version ≠ none ∨
    ∃ task ∈ tasks, ∃ call nowEpoch, task.call = some call ∧
      task.update = some (.drain nowEpoch) ∧ call.version = version ∧
      .call call.id ∉ state.lost

/-- No completion of the version is past its check, and none will be. -/
structure Closed (state : State) (tasks : List Task) (version : String) : Prop where
  disabled : disabledAt state.tables version ≠ none
  past : ∀ task ∈ tasks, ∀ use, task.past = some use → use.version = version →
    use.session ∈ state.lost

theorem Closed.next
    {state after : State}
    {task : Task}
    {tasks rest : List Task}
    {version : String}
    (closed : Closed state (task :: tasks) version)
    (moves : Moves task state after)
    (past : ∀ other ∈ rest, ∀ use, other.past = some use →
      task.past = some use ∨ disabledAt state.tables use.version = none) :
    Closed after (rest ++ tasks) version where
  disabled := moves.disabled version closed.disabled
  past := by
    refine List.forall_mem_append.mpr ⟨?_, ?_⟩
    · rintro other isNew use isPast rfl
      rcases past other isNew use isPast with wasPast | undisabled
      · exact moves.lost _ (closed.past task List.mem_cons_self use wasPast rfl)
      · exact absurd undisabled closed.disabled
    · intro other isOld use isPast isVersion
      exact moves.lost _ (closed.past other (List.mem_cons_of_mem _ isOld) use isPast isVersion)

/-! ## Invariant -/

section Sound

variable (carrier : String → Int)

structure Sound (state : State) (tasks : List Task) : Prop where
  exclusion : ∀ key id, state.exclusive key = some id → state.shared key = []
  attested : ∀ id service, state.services id = some service → service.registered = true →
    ∀ number, service.session = some number → .service id number ∈ state.lost ∨
      .service id number ∈ state.shared (carrier service.version) ∨
      1 ≤ tally Task.validates tasks id
  locked : ∀ id, tally Task.locks tasks id =
    (state.services id).elim 0 fun service => service.locked.toNat
  unborn : ∀ id, state.nextId ≤ id → state.services id = none
  alone : ∀ id, tally Task.calls tasks id ≤ 1
  given : ∀ task ∈ tasks, ∀ id ∈ task.calls, id < state.nextId
  holds : ∀ task ∈ tasks, task.Holds carrier state
  closed : ∀ version, Closing state tasks version → Closed state tasks version
  retired : ∀ version, retiredAt state.tables version ≠ none →
    drainedAt state.tables version ≠ none ∧
      ∀ identity record, state.tables.results.get? identity = some record →
        record.cipherKeyVersion ≠ version
  insertions : ∀ insertion ∈ state.insertions, insertion.drainCompletedEpoch = none
  removals : ∀ removal ∈ state.removals, removal.record.expiresAtEpoch ≤ removal.nowEpoch

end Sound

section Next

variable
    {carrier : String → Int}
    {state after : State}
    {task : Task}
    {tasks rest : List Task}

theorem Sound.perm
    {others : List Task}
    (permuted : tasks.Perm others)
    (sound : Sound carrier state tasks) : Sound carrier state others where
  exclusion := sound.exclusion
  attested id service found registered number session := by
    rw [← tally_perm Task.validates permuted id]
    exact sound.attested id service found registered number session
  locked id := by
    rw [← tally_perm Task.locks permuted id]
    exact sound.locked id
  unborn := sound.unborn
  alone id := by
    rw [← tally_perm Task.calls permuted id]
    exact sound.alone id
  given task isTask := sound.given task (permuted.mem_iff.mpr isTask)
  holds task isTask := sound.holds task (permuted.mem_iff.mpr isTask)
  closed version closing := by
    have closed := sound.closed version (closing.imp_right fun ⟨task, isTask, drains⟩ =>
      ⟨task, permuted.mem_iff.mpr isTask, drains⟩)
    exact ⟨closed.disabled, fun task isTask => closed.past task (permuted.mem_iff.mpr isTask)⟩
  retired := sound.retired
  insertions := sound.insertions
  removals := sound.removals

theorem Sound.apart
    (sound : Sound carrier state (task :: tasks))
    {other : Task}
    (isOther : other ∈ tasks)
    {id : Nat}
    (isIts : id ∈ other.calls) : id ∉ task.calls := by
  intro isMine
  have alone := sound.alone id
  have mine := List.count_pos_iff.mpr isMine
  have its := one_le_tally isOther isIts
  rw [tally_cons] at alone
  omega

theorem locks_of_use
    {task : Task}
    {use : Use}
    (isUse : task.use = some use) : use.service ∈ task.locks := by
  cases task with
  | attesting keyring service | registering keyring service
  | validating execution goal number | transacting execution goal number
  | storing execution reservation number | committing execution record number =>
      cases isUse
      exact List.mem_singleton_self _
  | _ => cases isUse

/-- A connection in use is locked, and by one task. -/
theorem Sound.lockedBy
    (sound : Sound carrier state (task :: tasks))
    {other : Task}
    (isOther : other ∈ tasks)
    {use : Use}
    (isUse : other.use = some use) :
    use.service ∉ task.locks ∧
      ∀ service, state.services use.service = some service → service.locked = true := by
  have balance := sound.locked use.service
  have its := one_le_tally isOther (locks_of_use isUse)
  rw [tally_cons] at balance
  cases found : state.services use.service with
  | none =>
      rw [found] at balance
      dsimp only [Option.elim] at balance
      omega
  | some service =>
      rw [found] at balance
      dsimp only [Option.elim] at balance
      have bounded := Bool.toNat_le service.locked
      refine ⟨fun isMine => ?_, ?_⟩
      · have mine := List.count_pos_iff.mpr isMine
        omega
      · intro other same
        cases same
        cases isLocked : service.locked with
        | true => rfl
        | false =>
            rw [isLocked, Bool.toNat_false] at balance
            omega

/-- What one step does to everything. -/
theorem Sound.next
    (sound : Sound carrier state (task :: tasks))
    (moves : Moves task state after)
    (exclusion : ∀ key id, after.exclusive key = some id → after.shared key = [])
    (attested : ∀ id service, after.services id = some service → service.registered = true →
      ∀ number, service.session = some number →
        (.service id number ∈ after.lost ∨
          .service id number ∈ after.shared (carrier service.version) ∨
          1 ≤ tally Task.validates rest id) ∨
        (id ∉ task.validates ∧ ∃ old, state.services id = some old ∧
          old.registered = true ∧ old.session = some number ∧ old.version = service.version))
    (locked : ∀ id, tally Task.locks rest id +
        ((state.services id).elim 0 fun service => service.locked.toNat) =
      task.locks.count id + (after.services id).elim 0 fun service => service.locked.toNat)
    (nextId : state.nextId ≤ after.nextId)
    (unborn : ∀ id, after.nextId ≤ id → after.services id = none)
    (alone : ∀ id, tally Task.calls rest id ≤
      if state.nextId ≤ id then 1 else task.calls.count id)
    (given : ∀ other ∈ rest, ∀ id ∈ other.calls, id < after.nextId)
    (holds : ∀ other ∈ rest, other.Holds carrier after)
    (past : ∀ other ∈ rest, ∀ use, other.past = some use →
      task.past = some use ∨ disabledAt state.tables use.version = none)
    (closing : ∀ version, Closing after rest version →
      Closing state [task] version ∨ Closed state (task :: tasks) version)
    (retired : ∀ version, retiredAt after.tables version ≠ none →
      retiredAt state.tables version ≠ none ∨
        (drainedAt after.tables version ≠ none ∧
          ∀ identity record, after.tables.results.get? identity = some record →
            record.cipherKeyVersion ≠ version))
    (insertions : ∀ insertion ∈ after.insertions, insertion.drainCompletedEpoch = none)
    (removals : ∀ removal ∈ after.removals,
      removal.record.expiresAtEpoch ≤ removal.nowEpoch) :
    Sound carrier after (rest ++ tasks) where
  exclusion := exclusion
  attested id service found registered number session := by
    rw [tally_append]
    rcases attested id service found registered number session with
      (lost | shares | validates) | ⟨notMine, old, wasFound, wasRegistered, wasSession, version⟩
    · exact .inl lost
    · exact .inr (.inl shares)
    · exact .inr (.inr (by omega))
    · rcases sound.attested id old wasFound wasRegistered number wasSession with
        lost | shares | validates
      · exact .inl (moves.lost _ lost)
      · rcases moves.shared _ _ shares with
          lost | still | ⟨id', number', service', same, found', -, unregistered⟩
        · exact .inl lost
        · exact .inr (.inl (version ▸ still))
        · injection same with same
          subst same
          cases Option.some.inj (wasFound.symm.trans found')
          rw [wasRegistered] at unregistered
          cases unregistered
      · rw [tally_cons, List.count_eq_zero.mpr notMine] at validates
        exact .inr (.inr (by omega))
  locked id := by
    have before := sound.locked id
    have step := locked id
    rw [tally_cons] at before
    rw [tally_append]
    omega
  unborn := unborn
  alone id := by
    have own := alone id
    have before := sound.alone id
    rw [tally_cons] at before
    rw [tally_append]
    split at own
    · next isNew =>
        have unused : tally Task.calls tasks id = 0 := by
          refine List.count_eq_zero.mpr fun isUsed => ?_
          obtain ⟨other, isOther, isIts⟩ := List.mem_flatMap.mp isUsed
          have given := sound.given other (List.mem_cons_of_mem _ isOther) id isIts
          omega
        omega
    · omega
  given := by
    refine List.forall_mem_append.mpr ⟨given, fun other isOther id isIts => ?_⟩
    exact lt_of_lt_of_le (sound.given other (List.mem_cons_of_mem _ isOther) id isIts) nextId
  holds := by
    refine List.forall_mem_append.mpr ⟨holds, fun other isOther => ?_⟩
    exact moves.holds (fun _ => sound.apart isOther) (fun _ => sound.lockedBy isOther)
      (sound.holds other (List.mem_cons_of_mem _ isOther))
  closed version isClosing := by
    -- What closes the version now closed it before, or closes it with this step.
    have before : Closed state (task :: tasks) version := by
      rcases isClosing with drained | ⟨other, isOther, drains⟩
      · rcases closing version (.inl drained) with was | closed
        · refine sound.closed version (was.imp_right ?_)
          rintro ⟨mine, isMine, drains⟩
          exact ⟨mine, List.mem_cons.mpr (.inl (List.mem_singleton.mp isMine)), drains⟩
        · exact closed
      · rcases List.mem_append.mp isOther with isNew | isOld
        · rcases closing version (.inr ⟨other, isNew, drains⟩) with was | closed
          · refine sound.closed version (was.imp_right ?_)
            rintro ⟨mine, isMine, drains⟩
            exact ⟨mine, List.mem_cons.mpr (.inl (List.mem_singleton.mp isMine)), drains⟩
          · exact closed
        · obtain ⟨call, nowEpoch, isCall, update, isVersion, alive⟩ := drains
          exact sound.closed version (.inr ⟨other, List.mem_cons_of_mem _ isOld, call, nowEpoch,
            isCall, update, isVersion, fun lost => alive (moves.lost _ lost)⟩)
    exact before.next moves past
  retired version isRetired := by
    rcases retired version isRetired with wasRetired | now
    · obtain ⟨drained, none⟩ := sound.retired version wasRetired
      refine ⟨moves.drained version drained, fun identity record present isVersion => ?_⟩
      rcases moves.results identity record present with old | undrained
      · exact none identity record old isVersion
      · rw [isVersion] at undrained
        exact drained undrained
    · exact now
  insertions := insertions
  removals := removals

/-! ## Steps of calls -/

/-- Nothing happens but to the locks of the calls of a task. -/
structure Quiet (task : Task) (before after : State) : Prop where
  tables : after.tables = before.tables
  lost : after.lost = before.lost
  shared : after.shared = before.shared
  services : after.services = before.services
  nextId : after.nextId = before.nextId
  insertions : after.insertions = before.insertions
  removals : after.removals = before.removals
  exclusive : ∀ key id, id ∉ task.calls → before.exclusive key = some id →
    after.exclusive key = some id
  exclusion : ∀ key id, after.exclusive key = some id →
    before.exclusive key = some id ∨ before.shared key = []
  rowLocks : ∀ identity id, id ∉ task.calls → before.rowLocks identity = some id →
    after.rowLocks identity = some id

theorem Quiet.refl (task : Task) (state : State) : Quiet task state state where
  tables := rfl
  lost := rfl
  shared := rfl
  services := rfl
  nextId := rfl
  insertions := rfl
  removals := rfl
  exclusive _ _ _ := id
  exclusion _ _ := .inl
  rowLocks _ _ _ := id

theorem Quiet.moves (quiet : Quiet task state after) : Moves task state after where
  lost _ isLost := quiet.lost ▸ isLost
  shared _ _ shares := .inr (.inl (quiet.shared ▸ shares))
  exclusive key id foreign held := .inr (quiet.exclusive key id foreign held)
  rowLocks identity id foreign held :=
    .inr ⟨quiet.rowLocks identity id foreign held, by rw [quiet.tables]⟩
  services id service found :=
    ⟨service, quiet.services ▸ found, rfl, fun same => same, fun _ _ => rfl⟩
  disabled _ isDisabled := quiet.tables ▸ isDisabled
  drained _ isDrained := quiet.tables ▸ isDrained
  results _ _ present := .inl (quiet.tables ▸ present)

/-- A step of a task that locks no connection, before and after. -/
theorem Sound.quiet
    (sound : Sound carrier state (task :: tasks))
    (quiet : Quiet task state after)
    (locks : task.locks = [] ∧ task.validates = [])
    (free : ∀ other ∈ rest, other.locks = [] ∧ other.past = none)
    (alone : ∀ id, tally Task.calls rest id ≤ task.calls.count id)
    (holds : ∀ other ∈ rest, other.Holds carrier after)
    (closing : ∀ other ∈ rest, ∀ call nowEpoch, other.call = some call →
      other.update = some (.drain nowEpoch) → .call call.id ∉ state.lost →
        (task.call = some call ∧ task.update = some (.drain nowEpoch)) ∨
          Closed state (task :: tasks) call.version) :
    Sound carrier after (rest ++ tasks) := by
  have noLocks (id : Nat) : tally Task.locks rest id = 0 := by
    refine List.count_eq_zero.mpr fun isLocked => ?_
    obtain ⟨other, isOther, isIts⟩ := List.mem_flatMap.mp isLocked
    rw [(free other isOther).1] at isIts
    cases isIts
  refine sound.next quiet.moves ?_ ?_ ?_ quiet.nextId.ge ?_ ?_ ?_ holds ?_ ?_ ?_ ?_ ?_
  · intro key id held
    rw [quiet.shared]
    exact (quiet.exclusion key id held).elim (sound.exclusion key id) fun free => free
  · intro id service found registered number session
    rw [locks.2]
    exact .inr ⟨List.not_mem_nil, service, quiet.services ▸ found, registered, session, rfl⟩
  · intro id
    rw [noLocks, locks.1, quiet.services, List.count_nil]
  · intro id isNew
    rw [quiet.services]
    exact sound.unborn id (quiet.nextId ▸ isNew)
  · intro id
    have own := alone id
    have before := sound.alone id
    rw [tally_cons] at before
    split <;> omega
  · intro other isOther id isIts
    have mine := one_le_tally isOther isIts
    rw [quiet.nextId]
    exact sound.given task List.mem_cons_self id
      (List.count_pos_iff.mp (lt_of_lt_of_le mine (alone id)))
  · intro other isOther use isPast
    rw [(free other isOther).2] at isPast
    cases isPast
  · rintro version (drained | ⟨other, isOther, call, nowEpoch, isCall, update, rfl, alive⟩)
    · exact .inl (.inl (quiet.tables ▸ drained))
    · rw [quiet.lost] at alive
      refine (closing other isOther call nowEpoch isCall update alive).imp_left ?_
      rintro ⟨wasCall, wasUpdate⟩
      exact .inr ⟨task, List.mem_singleton_self _, call, nowEpoch, wasCall, wasUpdate, rfl, alive⟩
  · intro version isRetired
    exact .inl (quiet.tables ▸ isRetired)
  · rw [quiet.insertions]
    exact sound.insertions
  · rw [quiet.removals]
    exact sound.removals

/-! ## Steps of services -/

/-- A change of the tables that closes no version and inserts no result of a drained one;
locked rows stay. -/
structure Admits (state : State) (after : Tables) : Prop where
  disabled : ∀ version, disabledAt state.tables version ≠ none → disabledAt after version ≠ none
  drained : ∀ version, drainedAt after version = drainedAt state.tables version
  retired : ∀ version, retiredAt after version = retiredAt state.tables version
  results : ∀ identity record, after.results.get? identity = some record →
    state.tables.results.get? identity = some record ∨
      drainedAt state.tables record.cipherKeyVersion = none
  locked : ∀ identity, state.rowLocks identity ≠ none →
    after.results.get? identity = state.tables.results.get? identity

theorem Spares.admits
    {tables : Tables}
    (spares : Spares state.tables tables) : Admits state tables where
  disabled := spares.disabled
  drained := spares.drained
  retired := spares.retired
  results _ _ present := .inl (spares.results ▸ present)
  locked _ _ := by rw [spares.results]

theorem Admits.refl (state : State) : Admits state state.tables :=
  (Spares.refl state.tables).admits

/-- Only the tables and one service change, and shared locks of that service. -/
structure Serves (state after : State) (id : Nat) (old new : Service) : Prop where
  found : state.services id = some old
  services : after.services = Function.update state.services id (some new)
  version : new.version = old.version
  unregistered : old.registered = false → new.registered = false
  tables : Admits state after.tables
  lost : after.lost = state.lost
  exclusive : after.exclusive = state.exclusive
  rowLocks : after.rowLocks = state.rowLocks
  nextId : state.nextId ≤ after.nextId
  removals : after.removals = state.removals
  insertions : ∀ insertion ∈ after.insertions, insertion ∈ state.insertions ∨
    insertion.drainCompletedEpoch = none
  shared : ∀ key session, session ∈ state.shared key → session ∈ after.shared key ∨
    ((∃ number, session = .service id number) ∧ old.locked = false ∧ old.registered = false)
  exclusion : ∀ key holder, state.exclusive key = some holder → after.shared key = []

theorem Sound.serves
    {id : Nat}
    {old new : Service}
    (sound : Sound carrier state (task :: tasks))
    (serves : Serves state after id old new)
    (session : old.locked = true → id ∉ task.locks → new.session = old.session)
    (attested : new.registered = true → ∀ number, new.session = some number →
      (.service id number ∈ after.lost ∨
        .service id number ∈ after.shared (carrier new.version) ∨
        1 ≤ tally Task.validates rest id) ∨
      (id ∉ task.validates ∧ old.registered = true ∧ old.session = some number))
    (validates : ∀ other ∈ task.validates, other = id)
    (locked : ∀ other, tally Task.locks rest other + (if other = id then old.locked.toNat else 0) =
      task.locks.count other + if other = id then new.locked.toNat else 0)
    (calls : ∀ other ∈ rest, other.call = none)
    (holds : ∀ other ∈ rest, other.Holds carrier after)
    (past : ∀ other ∈ rest, ∀ use, other.past = some use →
      task.past = some use ∨ disabledAt state.tables use.version = none) :
    Sound carrier after (rest ++ tasks) := by
  have at_id : after.services id = some new := by
    rw [serves.services, Function.update_self]
  have elsewhere {other : Nat} (different : other ≠ id) :
      after.services other = state.services other := by
    rw [serves.services, Function.update_of_ne different]
  have noCalls (other : Nat) : tally Task.calls rest other = 0 := by
    refine List.count_eq_zero.mpr fun isCall => ?_
    obtain ⟨task', isTask, isIts⟩ := List.mem_flatMap.mp isCall
    rw [Task.calls, calls task' isTask] at isIts
    cases isIts
  have moves : Moves task state after := by
    refine ⟨fun _ isLost => serves.lost ▸ isLost, ?_, fun _ _ _ held => .inr (serves.exclusive ▸ held),
      ?_, ?_, serves.tables.disabled, ?_, serves.tables.results⟩
    · intro key session' shares
      rcases serves.shared key session' shares with still | ⟨⟨number, same⟩, free, unregistered⟩
      · exact .inr (.inl still)
      · exact .inr (.inr ⟨id, number, old, same, serves.found, free, unregistered⟩)
    · intro identity holder _ held
      exact .inr ⟨serves.rowLocks ▸ held, serves.tables.locked identity (by rw [held]; nofun)⟩
    · intro other service found
      by_cases same : other = id
      · subst same
        cases Option.some.inj (serves.found.symm.trans found)
        exact ⟨new, at_id, serves.version, serves.unregistered, session⟩
      · exact ⟨service, (elsewhere same).trans found, rfl, fun same => same, fun _ _ => rfl⟩
    · intro version drained
      rw [serves.tables.drained]
      exact drained
  refine sound.next moves ?_ ?_ ?_ serves.nextId ?_ ?_ ?_ holds past ?_ ?_ ?_ ?_
  · intro key holder held
    exact serves.exclusion key holder (serves.exclusive ▸ held)
  · intro other service found registered number isSession
    by_cases same : other = id
    · subst same
      cases Option.some.inj (at_id.symm.trans found)
      refine (attested registered number isSession).imp_right ?_
      rintro ⟨notMine, wasRegistered, wasSession⟩
      exact ⟨notMine, old, serves.found, wasRegistered, wasSession, serves.version.symm⟩
    · exact .inr ⟨fun mine => same (validates other mine), service,
        (elsewhere same).symm.trans found, registered, isSession, rfl⟩
  · intro other
    have balance := locked other
    by_cases same : other = id
    · subst same
      rw [serves.found, at_id]
      simpa using balance
    · rw [elsewhere same]
      rw [if_neg same, if_neg same] at balance
      omega
  · intro other isNew
    have different : other ≠ id := by
      rintro rfl
      have missing := sound.unborn other (le_trans serves.nextId isNew)
      rw [serves.found] at missing
      cases missing
    rw [elsewhere different]
    exact sound.unborn other (le_trans serves.nextId isNew)
  · intro other
    rw [noCalls]
    exact Nat.zero_le _
  · intro other isOther call isIts
    rw [Task.calls, calls other isOther] at isIts
    cases isIts
  · rintro version (drained | ⟨other, isOther, call, nowEpoch, isCall, -⟩)
    · refine .inl (.inl ?_)
      rw [← serves.tables.drained]
      exact drained
    · rw [calls other isOther] at isCall
      cases isCall
  · intro version isRetired
    rw [serves.tables.retired] at isRetired
    exact .inl isRetired
  · intro insertion inserted
    exact (serves.insertions insertion inserted).elim (sound.insertions insertion) fun none => none
  · rw [serves.removals]
    exact sound.removals

end Next

end PostgresKeys
end Vinctor
