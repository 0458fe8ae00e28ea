import Vinctor.Service.IdempotencyReplay
import Vinctor.Service.PostgresKeysServices

/-!
# Runs of lifecycle calls

A call that finds its version disabled while it has the lock for itself closes the version.
Every step keeps what is known of closed versions, so it holds after every interleaving in
which no completion starts on a service that is being closed.
-/

namespace Vinctor
namespace PostgresKeys

open Foundation
open Idempotency
open Fallible

section Runs

variable
    {carrier : String → Int}
    {state after : State}
    {task : Task}
    {tasks rest : List Task}

/-! ## Tasks of calls -/

/-- A task of a call has no connection of a service. -/
theorem Task.of_call
    {call : Call}
    (isCall : task.call = some call) :
    task.locks = [] ∧ task.validates = [] ∧ task.use = none ∧ task.execution = none ∧
      task.completes = none ∧ task.past = none ∧ task.releases = none := by
  cases task with
  | guarding other action | checking other action | draining other
  | readingWindow other drainCompletedEpoch | checkingActive other | selecting other
  | listing other nowEpoch | lockingRows other nowEpoch rows found
  | retiring other nowEpoch rows | ending other update | unlocking other pending =>
      exact ⟨rfl, rfl, rfl, rfl, rfl, rfl, rfl⟩
  | _ => cases isCall

theorem call_eq_of_guards
    {call : Call}
    (guards : task.guards = some call) : task.call = some call := by
  cases task with
  | checking other action | draining other => exact guards
  | _ => cases guards

theorem calls_eq_of_call
    {call : Call}
    (isCall : task.call = some call) : task.calls = [call.id] := by
  rw [Task.calls, isCall]
  rfl

theorem Task.Holds.of_call
    {call : Call}
    (isCall : task.call = some call)
    (suits : task.Suits)
    (guards : task.guards = none ∨ state.exclusive (carrier call.version) = some call.id)
    (rows : ∀ row ∈ task.rows, state.rowLocks row.1 = some call.id ∧
      state.tables.results.get? row.1 = some row.2)
    (bare : ∀ nowEpoch rows, task.update = some (.retire nowEpoch rows) →
      drainedAt state.tables call.version ≠ none ∧
        ∀ identity record, state.tables.results.get? identity = some record →
          record.cipherKeyVersion = call.version → identity ∈ rows.map Prod.fst) :
    task.Holds carrier state := by
  obtain ⟨-, -, use, execution, completes, -, releases⟩ := Task.of_call isCall
  refine ⟨suits, ?_, ?_, ?_, ?_, ?_, ?_, ?_⟩
  · intro other isIts
    cases execution.symm.trans isIts
  · intro other isIts
    cases use.symm.trans isIts
  · intro other isIts
    cases completes.symm.trans isIts
  · intro other isIts
    cases releases.symm.trans isIts
  · intro other isIts
    cases Option.some.inj (isCall.symm.trans (call_eq_of_guards isIts))
    rcases guards with none | held
    · cases none.symm.trans isIts
    · exact .inr held
  · intro other isIts
    cases Option.some.inj (isCall.symm.trans isIts)
    exact .inr rows
  · intro other nowEpoch listed isIts update
    cases Option.some.inj (isCall.symm.trans isIts)
    exact .inr (bare nowEpoch listed update)

/-! ## Locks of calls -/

theorem Quiet.trans
    {middle : State}
    (earlier : Quiet task state middle)
    (later : Quiet task middle after) : Quiet task state after where
  tables := later.tables.trans earlier.tables
  lost := later.lost.trans earlier.lost
  shared := later.shared.trans earlier.shared
  services := later.services.trans earlier.services
  nextId := later.nextId.trans earlier.nextId
  insertions := later.insertions.trans earlier.insertions
  removals := later.removals.trans earlier.removals
  exclusive key id foreign held :=
    later.exclusive key id foreign (earlier.exclusive key id foreign held)
  exclusion key id held := by
    rcases later.exclusion key id held with held | free
    · exact earlier.exclusion key id held
    · exact .inr (earlier.shared ▸ free)
  rowLocks identity id foreign held :=
    later.rowLocks identity id foreign (earlier.rowLocks identity id foreign held)

theorem quiet_unlockExclusive
    {id : Nat}
    (mine : id ∈ task.calls) : Quiet task state (state.unlockExclusive id) where
  tables := rfl
  lost := rfl
  shared := rfl
  services := rfl
  nextId := rfl
  insertions := rfl
  removals := rfl
  exclusive key other foreign held := by
    refine (if_neg ?_).trans held
    rintro same
    cases Option.some.inj (held.symm.trans same)
    exact foreign mine
  exclusion key other held := by
    dsimp only [State.unlockExclusive] at held
    split at held
    · cases held
    · exact .inl held
  rowLocks _ _ _ held := held

theorem quiet_unlockRows
    {id : Nat}
    (mine : id ∈ task.calls) : Quiet task state (state.unlockRows id) where
  tables := rfl
  lost := rfl
  shared := rfl
  services := rfl
  nextId := rfl
  insertions := rfl
  removals := rfl
  exclusive _ _ _ held := held
  exclusion _ _ := .inl
  rowLocks identity other foreign held := by
    refine (if_neg ?_).trans held
    rintro same
    cases Option.some.inj (held.symm.trans same)
    exact foreign mine

/-- Only the locks of versions change. -/
theorem quiet_lockVersion (version : String) (id : Nat) :
    Quiet task state (state.lockVersion version id) :=
  ⟨rfl, rfl, rfl, rfl, rfl, rfl, rfl, fun _ _ _ held => held, fun _ _ => .inl,
    fun _ _ _ held => held⟩

theorem quiet_lockRow
    {identity : ResultIdentity}
    {id : Nat}
    (mine : id ∈ task.calls)
    (free : state.rowLocks identity = none ∨ state.rowLocks identity = some id) :
    Quiet task state (state.lockRow identity id) where
  tables := rfl
  lost := rfl
  shared := rfl
  services := rfl
  nextId := rfl
  insertions := rfl
  removals := rfl
  exclusive _ _ _ held := held
  exclusion _ _ := .inl
  rowLocks other holder foreign held := by
    refine (Function.update_of_ne ?_ ..).trans held
    rintro rfl
    rcases free with none | same
    · cases none.symm.trans held
    · cases Option.some.inj (same.symm.trans held)
      exact foreign mine

theorem quiet_lockExclusive
    {key : Int}
    {id : Nat}
    (unshared : state.shared key = [])
    (free : state.exclusive key = none) : Quiet task state (state.lockExclusive key id) where
  tables := rfl
  lost := rfl
  shared := rfl
  services := rfl
  nextId := rfl
  insertions := rfl
  removals := rfl
  exclusive other holder _ held := by
    refine (Function.update_of_ne ?_ ..).trans held
    rintro rfl
    cases free.symm.trans held
  exclusion other holder held := by
    by_cases same : other = key
    · exact .inr (same ▸ unshared)
    · exact .inl ((Function.update_of_ne same ..).symm.trans held)
  rowLocks _ _ _ held := held

/-! ## Steps of calls -/

theorem Sound.continues
    {next : Task}
    {call : Call}
    (sound : Sound carrier state (task :: tasks))
    (quiet : Quiet task state after)
    (isCall : task.call = some call)
    (isNext : next.call = some call)
    (holds : next.Holds carrier after)
    (closing : ∀ nowEpoch, next.update = some (.drain nowEpoch) →
      task.update = some (.drain nowEpoch) ∨ Closed state (task :: tasks) call.version) :
    Sound carrier after (next :: tasks) := by
  obtain ⟨locks, validates, -⟩ := Task.of_call isCall
  obtain ⟨nextLocks, -, -, -, -, past, -⟩ := Task.of_call isNext
  refine @Sound.quiet _ _ _ _ _ [next] sound quiet ⟨locks, validates⟩
    (List.forall_mem_singleton.mpr ⟨nextLocks, past⟩) (fun id => ?_)
    (List.forall_mem_singleton.mpr holds) (List.forall_mem_singleton.mpr ?_)
  · rw [tally_cons, tally_nil, calls_eq_of_call isCall, calls_eq_of_call isNext, Nat.add_zero]
  · intro other nowEpoch isIts update alive
    cases Option.some.inj (isNext.symm.trans isIts)
    exact (closing nowEpoch update).imp_left fun same => ⟨isCall, same⟩

/-- A step of a call that has updated nothing. -/
theorem Sound.proceeds
    {next : Task}
    {call : Call}
    (sound : Sound carrier state (task :: tasks))
    (quiet : Quiet task state after)
    (isCall : task.call = some call)
    (isNext : next.call = some call)
    (idle : next.update = none)
    (guards : next.guards = none ∨ after.exclusive (carrier call.version) = some call.id)
    (rows : ∀ row ∈ next.rows, after.rowLocks row.1 = some call.id ∧
      after.tables.results.get? row.1 = some row.2)
    (suits : next.Suits) : Sound carrier after (next :: tasks) := by
  refine sound.continues quiet isCall isNext (.of_call isNext suits guards rows ?_) ?_
  · intro nowEpoch rows update
    cases idle.symm.trans update
  · intro nowEpoch update
    cases idle.symm.trans update

/-- A call that fails. -/
theorem Sound.fails
    {call : Call}
    (sound : Sound carrier state (task :: tasks))
    (isCall : task.call = some call) :
    Sound carrier ((state.unlockRows call.id).unlockExclusive call.id) tasks := by
  have mine : call.id ∈ task.calls := by
    rw [calls_eq_of_call isCall]
    exact List.mem_singleton_self _
  obtain ⟨locks, validates, -⟩ := Task.of_call isCall
  exact sound.quits ((quiet_unlockRows mine).trans (quiet_unlockExclusive mine))
    ⟨locks, validates⟩

theorem Sound.guard
    {call : Call}
    {action : Action}
    (sound : Sound carrier state (.guarding call action :: tasks)) :
    Sound carrier (guard carrier state call action).1
      ((guard carrier state call action).2 ++ tasks) := by
  unfold PostgresKeys.guard
  split
  · next free =>
      exact sound.proceeds (quiet_lockExclusive free.1 free.2) rfl rfl
        rfl (.inr (Function.update_self ..)) (List.forall_mem_nil _) trivial
  · exact sound.quits (.refl _ _) ⟨rfl, rfl⟩

/-- A call that has its lock, on a session that has not ended. -/
theorem Sound.holdsExclusive
    {call : Call}
    (sound : Sound carrier state (task :: tasks))
    (guards : task.guards = some call)
    (alive : .call call.id ∉ state.lost) :
    state.exclusive (carrier call.version) = some call.id :=
  ((sound.holds task List.mem_cons_self).guards call guards).resolve_left alive

theorem Sound.check
    {call : Call}
    {action : Action}
    (sound : Sound carrier state (.checking call action :: tasks))
    (alive : .call call.id ∉ state.lost) :
    Sound carrier (check state call action).1 ((check state call action).2 ++ tasks) := by
  have held := sound.holdsExclusive rfl alive
  have fails : Sound carrier (abandon state (.checking call action)) tasks := sound.fails rfl
  have unlocks : Sound carrier state (.unlocking call none :: tasks) :=
    sound.proceeds (.refl _ _) rfl rfl rfl (.inl rfl) (List.forall_mem_nil _) trivial
  unfold PostgresKeys.check
  split
  · exact fails
  · cases action with
    | drain =>
        dsimp only
        generalize (if call.recovers then _ else _) = open?
        split
        · exact fails
        · exact sound.proceeds (.refl _ _) rfl rfl rfl (.inr held) (List.forall_mem_nil _) trivial
        · exact unlocks
    | retire =>
        dsimp only
        split
        · split
          · exact unlocks
          · exact sound.proceeds (.refl _ _) rfl rfl rfl (.inl rfl) (List.forall_mem_nil _) trivial
        · split
          · exact fails
          · exact unlocks
          · exact sound.proceeds (.refl _ _) rfl rfl rfl (.inl rfl) (List.forall_mem_nil _) trivial

/-- While a call has its lock no completion of the version is past its check. -/
theorem Sound.closes
    {call : Call}
    (sound : Sound carrier state tasks)
    (held : state.exclusive (carrier call.version) = some call.id)
    (disabled : disabledAt state.tables call.version ≠ none) :
    Closed state tasks call.version where
  disabled := disabled
  past other isOther use isPast isVersion := by
    have completes : other.completes = some use := by
      cases other with
      | storing execution reservation number | committing execution record number => exact isPast
      | _ => cases isPast
    rcases (sound.holds other isOther).shared use completes with lost | shares
    · exact lost
    · rw [isVersion, sound.exclusion _ _ held] at shares
      cases shares

/-- What a call knows when it updates its version. -/
def Update.Ready
    (state : State)
    (tasks : List Task)
    (call : Call) : Update → Prop
  | .drain _ => Closed state tasks call.version
  | .retire nowEpoch rows =>
      (∀ row ∈ rows, row.2.expiresAtEpoch ≤ nowEpoch) ∧
      (∀ row ∈ rows, state.rowLocks row.1 = some call.id ∧
        state.tables.results.get? row.1 = some row.2) ∧
      drainedAt state.tables call.version ≠ none ∧
      ∀ identity record, state.tables.results.get? identity = some record →
        record.cipherKeyVersion = call.version → identity ∈ rows.map Prod.fst

/-- A call has still to commit its update. -/
theorem Sound.carries
    {next : Task}
    {call : Call}
    {update : Update}
    (sound : Sound carrier state (task :: tasks))
    (quiet : Quiet task state after)
    (isCall : task.call = some call)
    (isNext : next = .ending call update ∨ next = .unlocking call (some update))
    (rowLocks : after.rowLocks = state.rowLocks)
    (ready : update.Ready state (task :: tasks) call ∨
      ((∃ nowEpoch, update = .drain nowEpoch) ∧ task.update = some update)) :
    Sound carrier after (next :: tasks) := by
  have nextCall : next.call = some call := by rcases isNext with rfl | rfl <;> rfl
  have guards : next.guards = none := by rcases isNext with rfl | rfl <;> rfl
  have nextUpdate : next.update = some update := by rcases isNext with rfl | rfl <;> rfl
  cases update with
  | drain epoch =>
      refine sound.continues quiet isCall nextCall
        (.of_call nextCall ?_ (.inl guards) ?_ ?_) fun nowEpoch isUpdate => ?_
      · rcases isNext with rfl | rfl <;> trivial
      · rcases isNext with rfl | rfl <;> exact List.forall_mem_nil _
      · intro nowEpoch rows isUpdate
        cases nextUpdate.symm.trans isUpdate
      · cases nextUpdate.symm.trans isUpdate
        rcases ready with closed | ⟨-, same⟩
        · exact .inr closed
        · exact .inl same
  | retire epoch rows =>
      obtain ⟨expired, locked, drained, listed⟩ :=
        ready.resolve_right fun ⟨⟨_, isDrain⟩, _⟩ => by cases isDrain
      refine sound.continues quiet isCall nextCall
        (.of_call nextCall ?_ (.inl guards) ?_ ?_) fun nowEpoch isUpdate => ?_
      · rcases isNext with rfl | rfl <;> exact expired
      · rw [rowLocks, quiet.tables]
        rcases isNext with rfl | rfl <;> exact locked
      · intro nowEpoch deleted isUpdate
        cases nextUpdate.symm.trans isUpdate
        rw [quiet.tables]
        exact ⟨drained, listed⟩
      · cases nextUpdate.symm.trans isUpdate

theorem Sound.updateVersion
    {call : Call}
    {selects : KeyVersionRow → Bool}
    {update : Update}
    (sound : Sound carrier state (task :: tasks))
    (isCall : task.call = some call)
    (ready : ∀ row, state.tables.keyVersions.get? call.version = some row →
      selects row = true → update.Ready state (task :: tasks) call)
    {outcome : State × List Task}
    (taken : updateVersion state call selects update = some outcome) :
    Sound carrier outcome.1 (outcome.2 ++ tasks) := by
  unfold PostgresKeys.updateVersion at taken
  split at taken
  · cases taken
  · split at taken
    · next selected =>
        obtain ⟨row, found, selects⟩ := (Option.any_eq_true _ _).mp selected
        cases Option.some.inj taken
        refine sound.carries (quiet_lockVersion _ _) isCall ?_ rfl (.inl (ready row found selects))
        unfold Call.afterUpdate
        split
        · exact .inr rfl
        · exact .inl rfl
    · cases Option.some.inj taken
      exact sound.fails isCall

theorem Sound.drain
    {call : Call}
    (sound : Sound carrier state (.draining call :: tasks))
    (alive : .call call.id ∉ state.lost)
    {outcome : State × List Task}
    (taken : PostgresKeys.updateVersion state call (drainable call.version state.epoch)
      (.drain state.epoch) = some outcome) :
    Sound carrier outcome.1 (outcome.2 ++ tasks) := by
  refine sound.updateVersion rfl (fun row found selects => ?_) taken
  refine sound.closes (sound.holdsExclusive rfl alive) ?_
  simp only [drainable, Bool.and_eq_true] at selects
  rw [disabledAt, found]
  exact Option.isSome_iff_ne_none.mp selects.1.1

theorem Sound.lockRows
    {call : Call}
    {nowEpoch : Int}
    {rows found : List (ResultIdentity × CompletedResultRecord)}
    (sound : Sound carrier state (.lockingRows call nowEpoch rows found :: tasks))
    (alive : .call call.id ∉ state.lost)
    {outcome : State × List Task}
    (taken : lockRows state call nowEpoch rows found = some outcome) :
    Sound carrier outcome.1 (outcome.2 ++ tasks) := by
  have held := ((sound.holds _ List.mem_cons_self).rows call rfl).resolve_left alive
  unfold PostgresKeys.lockRows at taken
  split at taken
  · split at taken
    · next expired =>
        cases Option.some.inj taken
        exact sound.proceeds (.refl _ _) rfl rfl rfl (.inl rfl) held
          fun row isRow => of_decide_eq_true (List.all_eq_true.mp expired row isRow)
    · cases Option.some.inj taken
      exact sound.fails rfl
  · next row rows =>
      split at taken
      · cases taken
      · next free =>
          have free : state.rowLocks row.1 = none ∨ state.rowLocks row.1 = some call.id := by
            unfold PostgresIdempotency.isFree at free
            split at free
            · next none => exact .inl none
            · next other isOther =>
                have same : other = call.id := by simpa using free
                exact .inr (same ▸ isOther)
          have quiet := @quiet_lockRow state (.lockingRows call nowEpoch (row :: rows) found)
            row.1 call.id (List.mem_singleton_self _) free
          split at taken
          · next present =>
              cases Option.some.inj taken
              refine sound.proceeds quiet rfl rfl rfl (.inl rfl)
                (List.forall_mem_append.mpr ⟨fun kept isKept => ?_, ?_⟩) trivial
              · obtain ⟨locked, still⟩ := held kept isKept
                refine ⟨?_, still⟩
                by_cases same : kept.1 = row.1
                · rw [same]
                  exact Function.update_self ..
                · exact (Function.update_of_ne same ..).trans locked
              · exact List.forall_mem_singleton.mpr ⟨Function.update_self .., present⟩
          · cases Option.some.inj taken
            exact sound.proceeds (.refl _ _) rfl rfl rfl (.inl rfl) held trivial

theorem Sound.retire
    {call : Call}
    {nowEpoch : Int}
    {rows : List (ResultIdentity × CompletedResultRecord)}
    (sound : Sound carrier state (.retiring call nowEpoch rows :: tasks))
    (alive : .call call.id ∉ state.lost)
    {outcome : State × List Task}
    (taken : PostgresKeys.updateVersion state call
      (fun row =>
        retirable call.version call.activeVersion nowEpoch (withoutRows state.tables rows) row &&
          (endUse nowEpoch row).check call.version)
      (.retire nowEpoch rows) = some outcome) :
    Sound carrier outcome.1 (outcome.2 ++ tasks) := by
  have holds := sound.holds _ List.mem_cons_self
  refine sound.updateVersion rfl (fun row found selects => ?_) taken
  simp only [retirable, Bool.and_eq_true] at selects
  obtain ⟨⟨⟨⟨-, drained⟩, bare⟩, -⟩, -⟩ := selects
  refine ⟨holds.suits, (holds.rows call rfl).resolve_left alive, ?_, ?_⟩
  · obtain ⟨epoch, recorded, -⟩ := (Option.any_eq_true _ _).mp drained
    rw [drainedAt, found, Option.bind_some, recorded]
    exact Option.some_ne_none epoch
  · -- The results that are left do not use the version.
    intro identity record present isVersion
    by_contra unlisted
    have left : (withoutRows state.tables rows).results.get? identity = some record := by
      rw [withoutRows_results, if_neg unlisted]
      exact present
    rw [Dict.get?_eq_some_iff] at left
    have listed : (identity, record) ∈
        (withoutRows state.tables rows).resultsUnder call.version :=
      List.mem_filter.mpr ⟨left, decide_eq_true isVersion⟩
    rw [List.isEmpty_iff.mp bare] at listed
    cases listed

theorem Sound.unlocksExclusive
    {call : Call}
    {pending : Option Update}
    (sound : Sound carrier state (.unlocking call pending :: tasks))
    (alive : .call call.id ∉ state.lost) :
    Sound carrier (state.unlockExclusive call.id)
      (pending.toList.map (Task.ending call) ++ tasks) := by
  have holds := sound.holds _ List.mem_cons_self
  have quiet : Quiet (.unlocking call pending) state (state.unlockExclusive call.id) :=
    quiet_unlockExclusive (List.mem_singleton_self _)
  cases pending with
  | none => exact sound.quits quiet ⟨rfl, rfl⟩
  | some update =>
      refine @Sound.carries _ _ _ _ _ (.ending call update) _ update sound quiet rfl
        (.inl rfl) rfl ?_
      cases update with
      | drain nowEpoch => exact .inr ⟨⟨nowEpoch, rfl⟩, rfl⟩
      | retire nowEpoch rows =>
          exact .inl ⟨holds.suits, (holds.rows call rfl).resolve_left alive,
            (holds.bare call nowEpoch rows rfl rfl).resolve_left alive⟩

/-! ## Updates -/

theorem applyUpdate_results
    (tables : Tables)
    (version : String)
    (update : Update)
    (identity : ResultIdentity) :
    (applyUpdate tables version update).results.get? identity =
      if identity ∈ update.rows.map Prod.fst then none else tables.results.get? identity :=
  withoutRows_results tables update.rows identity

/-- One column of a changed row. -/
theorem applyUpdate_column
    (tables : Tables)
    (version other : String)
    (update : Update)
    (column : KeyVersionRow → Option Int) :
    ((applyUpdate tables version update).keyVersions.get? other).bind column =
      (tables.keyVersions.get? other).bind
        (if other = version then column ∘ update.change else column) := by
  dsimp only [applyUpdate]
  rw [Table.get?_modify]
  split
  · cases tables.keyVersions.get? other <;> rfl
  · rfl

theorem applyUpdate_disabled (tables : Tables) (version other : String) (update : Update) :
    disabledAt (applyUpdate tables version update) other = disabledAt tables other := by
  rw [disabledAt, applyUpdate_column]
  split
  · cases update <;> rfl
  · rfl

/-- A version is drained by its own drain only, and stays so. -/
theorem applyUpdate_drained (tables : Tables) (version other : String) (update : Update) :
    drainedAt (applyUpdate tables version update) other = drainedAt tables other ∨
      (other = version ∧ (∃ nowEpoch, update = .drain nowEpoch) ∧
        drainedAt tables other = none) := by
  rw [drainedAt, applyUpdate_column]
  split
  · next same =>
      cases update with
      | retire nowEpoch rows => exact .inl rfl
      | drain nowEpoch =>
          cases drained : drainedAt tables other with
          | none => exact .inr ⟨same, ⟨nowEpoch, rfl⟩, rfl⟩
          | some epoch =>
              left
              obtain ⟨row, found, recorded⟩ := Option.bind_eq_some_iff.mp drained
              rw [found]
              change (endDrain nowEpoch row).drainCompletedEpoch = _
              rw [endDrain, recorded]
              rfl
  · exact .inl rfl

/-- A version is retired by its own retirement only. -/
theorem applyUpdate_retired (tables : Tables) (version other : String) (update : Update) :
    retiredAt (applyUpdate tables version update) other = retiredAt tables other ∨
      (other = version ∧ ∃ nowEpoch rows, update = .retire nowEpoch rows) := by
  rw [retiredAt, applyUpdate_column]
  split
  · next same =>
      cases update with
      | drain nowEpoch => exact .inl rfl
      | retire nowEpoch rows => exact .inr ⟨same, nowEpoch, rows, rfl⟩
  · exact .inl rfl

theorem Sound.updates
    {call : Call}
    {update : Update}
    (sound : Sound carrier state (.ending call update :: tasks))
    (alive : .call call.id ∉ state.lost) :
    Sound carrier (state.update call.version update) (.unlocking call none :: tasks) := by
  have holds := sound.holds _ List.mem_cons_self
  have locked : ∀ row ∈ update.rows, state.rowLocks row.1 = some call.id ∧
      state.tables.results.get? row.1 = some row.2 := by
    have locked := (holds.rows call rfl).resolve_left alive
    cases update with
    | drain nowEpoch => exact List.forall_mem_nil _
    | retire nowEpoch rows => exact locked
  have results := applyUpdate_results state.tables call.version update
  have stillDrained (version : String) (drained : drainedAt state.tables version ≠ none) :
      drainedAt (applyUpdate state.tables call.version update) version ≠ none := by
    rcases applyUpdate_drained state.tables call.version version update with same | ⟨-, -, none⟩
    · rw [same]
      exact drained
    · exact absurd none drained
  have moves : Moves (.ending call update) state (state.update call.version update) := by
    refine ⟨fun _ => id, fun _ _ shares => .inr (.inl shares), fun _ _ _ => .inr, ?_,
      fun _ service found => ⟨service, found, rfl, fun same => same, fun _ _ => rfl⟩, ?_,
      stillDrained, ?_⟩
    · intro identity id foreign held
      refine .inr ⟨held, (results identity).trans (if_neg fun deleted => ?_)⟩
      obtain ⟨row, isRow, rfl⟩ := List.mem_map.mp deleted
      cases Option.some.inj (held.symm.trans (locked row isRow).1)
      exact foreign (List.mem_singleton_self _)
    · intro version isDisabled
      dsimp only [State.update]
      rw [applyUpdate_disabled]
      exact isDisabled
    · intro identity record present
      dsimp only [State.update] at present
      rw [results] at present
      split at present
      · cases present
      · exact .inl present
  refine @Sound.next _ _ _ _ _ [.unlocking call none] sound moves sound.exclusion
    (fun _ service found registered _ session => .inr ⟨List.not_mem_nil, service, found,
      registered, session, rfl⟩) (fun _ => rfl) (Nat.le_refl _) sound.unborn
    (fun id => ?_) (List.forall_mem_singleton.mpr ?_) (List.forall_mem_singleton.mpr ?_)
    (List.forall_mem_singleton.mpr ?_) ?_ ?_ sound.insertions ?_
  · split
    · have alone := sound.alone id
      rw [tally_cons] at alone
      exact le_trans (Nat.le_add_right _ _) alone
    · exact Nat.le_refl _
  · exact sound.given (.ending call update) List.mem_cons_self
  · refine .of_call rfl trivial (.inl rfl) (List.forall_mem_nil _) ?_
    intro nowEpoch rows isUpdate
    cases isUpdate
  · intro use isPast
    cases isPast
  · rintro version (drained | ⟨other, isOther, isCall, nowEpoch, -, isUpdate, -⟩)
    · refine .inl ?_
      rcases applyUpdate_drained state.tables call.version version update with
        same | ⟨rfl, ⟨nowEpoch, rfl⟩, -⟩
      · exact .inl (same ▸ drained)
      · exact .inr ⟨_, List.mem_singleton_self _, call, nowEpoch, rfl, rfl, rfl, alive⟩
    · cases List.mem_singleton.mp isOther
      cases isUpdate
  · intro version isRetired
    rcases applyUpdate_retired state.tables call.version version update with
      same | ⟨rfl, nowEpoch, rows, rfl⟩
    · exact .inl (same ▸ isRetired)
    · obtain ⟨drained, listed⟩ := (holds.bare call nowEpoch rows rfl rfl).resolve_left alive
      refine .inr ⟨stillDrained _ drained, fun identity record present isVersion => ?_⟩
      dsimp only [State.update] at present
      rw [results] at present
      split at present
      · cases present
      · next unlisted => exact unlisted (listed identity record present isVersion)
  · refine List.forall_mem_append.mpr ⟨sound.removals, ?_⟩
    cases update with
    | drain nowEpoch => exact List.forall_mem_nil _
    | retire nowEpoch rows =>
        intro removal isRemoval
        obtain ⟨row, isRow, removes⟩ := List.mem_filterMap.mp isRemoval
        rw [(locked row isRow).2] at removes
        cases Option.some.inj removes
        exact holds.suits row isRow

/-! ## Other steps -/

/-- A task that is started. -/
theorem Sound.add
    (sound : Sound carrier state tasks)
    (loose : task.Loose)
    (suits : task.Suits)
    (unbound : task.execution = none) : Sound carrier state (task :: tasks) where
  exclusion := sound.exclusion
  attested id service found registered number session := by
    rw [tally_cons, loose.validates, List.count_nil, Nat.zero_add]
    exact sound.attested id service found registered number session
  locked id := by
    rw [tally_cons, loose.locks, List.count_nil, Nat.zero_add]
    exact sound.locked id
  unborn := sound.unborn
  alone id := by
    rw [tally_cons, Task.calls, loose.call]
    exact (Nat.zero_add _).trans_le (sound.alone id)
  given := by
    refine List.forall_mem_cons.mpr ⟨?_, sound.given⟩
    rw [Task.calls, loose.call]
    exact List.forall_mem_nil _
  holds := by
    refine List.forall_mem_cons.mpr ⟨loose.holds suits ?_, sound.holds⟩
    intro execution isExecution
    cases unbound.symm.trans isExecution
  closed version closing := by
    have closed := sound.closed version (closing.imp_right ?_)
    · refine ⟨closed.disabled, List.forall_mem_cons.mpr ⟨?_, closed.past⟩⟩
      intro use isPast
      cases loose.past.symm.trans isPast
    · rintro ⟨other, isOther, call, nowEpoch, isCall, rest⟩
      rcases List.mem_cons.mp isOther with rfl | isOld
      · cases loose.call.symm.trans isCall
      · exact ⟨other, isOld, call, nowEpoch, isCall, rest⟩
  retired := sound.retired
  insertions := sound.insertions
  removals := sound.removals

theorem loose_calling (version activeVersion : String) (action : Action) :
    (Task.calling version activeVersion action).Loose :=
  ⟨rfl, rfl, rfl, rfl, rfl, rfl, rfl, rfl⟩

/-- A call gets a number of its own. -/
theorem Sound.calls
    (sound : Sound carrier state (task :: tasks))
    (loose : task.Loose)
    (version activeVersion : String)
    (recovers : Bool)
    (action : Action) :
    Sound carrier { state with nextId := state.nextId + 1 }
      (.guarding ⟨state.nextId, version, activeVersion, recovers⟩ action :: tasks) := by
  have moves : Moves task state { state with nextId := state.nextId + 1 } :=
    ⟨fun _ => id, fun _ _ shares => .inr (.inl shares), fun _ _ _ => .inr,
      fun _ _ _ held => .inr ⟨held, rfl⟩,
      fun _ service found => ⟨service, found, rfl, fun same => same, fun _ _ => rfl⟩,
      fun _ => id, fun _ => id, fun _ _ => .inl⟩
  refine @Sound.next _ _ _ _ _ [_] sound moves sound.exclusion
    (fun _ service found registered _ session => .inr ⟨?_, service, found, registered, session,
      rfl⟩) (fun id => ?_) (Nat.le_succ _)
    (fun id isNew => sound.unborn id (le_trans (Nat.le_succ _) isNew)) (fun id => ?_)
    (List.forall_mem_singleton.mpr ?_) (List.forall_mem_singleton.mpr ?_)
    (List.forall_mem_singleton.mpr ?_) ?_ (fun _ => .inl) sound.insertions sound.removals
  · rw [loose.validates]
    exact List.not_mem_nil
  · rw [loose.locks]
    rfl
  · rw [tally_cons, tally_nil, Nat.add_zero]
    split
    · exact List.nodup_iff_count_le_one.mp (List.nodup_singleton _) id
    · next old =>
        refine le_trans (Nat.le_zero.mpr (List.count_eq_zero.mpr fun isIts => ?_)) (Nat.zero_le _)
        rw [List.mem_singleton.mp isIts] at old
        exact old (Nat.le_refl _)
  · intro id isIts
    rw [List.mem_singleton.mp isIts]
    exact Nat.lt_succ_self _
  · refine .of_call rfl trivial (.inl rfl) (List.forall_mem_nil _) ?_
    intro nowEpoch rows update
    cases update
  · intro use isPast
    cases isPast
  · rintro other (drained | ⟨task', isTask, call, nowEpoch, -, update, -⟩)
    · exact .inl (.inl drained)
    · cases List.mem_singleton.mp isTask
      cases update

theorem Sound.endUpdate
    {call : Call}
    {update : Update}
    (choice : Choice)
    (sound : Sound carrier state (.ending call update :: tasks))
    (alive : .call call.id ∉ state.lost) :
    Sound carrier (endUpdate state choice call update).1
      ((endUpdate state choice call update).2 ++ tasks) := by
  have ended : Sound carrier
      (if choice.unreported.getD true then state.update call.version update else state)
      (.unlocking call none :: tasks) := by
    split
    · exact sound.updates alive
    · exact sound.proceeds (.refl _ _) rfl rfl rfl (.inl rfl) (List.forall_mem_nil _) trivial
  unfold PostgresKeys.endUpdate
  dsimp only
  generalize (if choice.unreported.getD true then _ else state) = ended' at ended ⊢
  have unlocked : Sound carrier (ended'.unlockRows call.id) (.unlocking call none :: tasks) :=
    ended.proceeds (quiet_unlockRows (List.mem_singleton_self _)) rfl rfl rfl (.inl rfl)
      (List.forall_mem_nil _) trivial
  have ended : Sound carrier (ended'.unlockRows call.id) tasks :=
    unlocked.quits (.refl _ _) ⟨rfl, rfl⟩
  split
  · exact ended
  · split
    · exact unlocked
    · exact (ended.add (loose_calling call.version call.activeVersion update.action) trivial
        rfl).calls (loose_calling _ _ _) _ _ _ _

/-- A step that changes nothing but the tables. -/
theorem Sound.admits
    {tables : Tables}
    (sound : Sound carrier state (task :: tasks))
    (admits : Admits state tables)
    (locks : task.locks = [] ∧ task.validates = [])
    (loose : ∀ other ∈ rest, other.Loose ∧ other.Suits ∧ other.execution = none) :
    Sound carrier { state with tables } (rest ++ tasks) := by
  have moves : Moves task state { state with tables } := by
    refine ⟨fun _ => id, fun _ _ shares => .inr (.inl shares), fun _ _ _ => .inr,
      fun identity id _ held => .inr ⟨held, admits.locked identity ?_⟩,
      fun _ service found => ⟨service, found, rfl, fun same => same, fun _ _ => rfl⟩,
      admits.disabled, fun version drained => ?_, admits.results⟩
    · rw [held]
      exact Option.some_ne_none id
    · rw [admits.drained]
      exact drained
  have noLocks (id : Nat) : tally Task.locks rest id = 0 := by
    refine List.count_eq_zero.mpr fun isLocked => ?_
    obtain ⟨other, isOther, isIts⟩ := List.mem_flatMap.mp isLocked
    rw [(loose other isOther).1.locks] at isIts
    cases isIts
  have noCalls {other : Task} (isOther : other ∈ rest) : other.calls = [] := by
    rw [Task.calls, (loose other isOther).1.call]
    rfl
  refine sound.next moves sound.exclusion
    (fun _ service found registered _ session => .inr ⟨?_, service, found, registered, session,
      rfl⟩) (fun id => ?_) (Nat.le_refl _) sound.unborn (fun id => ?_) ?_ ?_ ?_ ?_ ?_
    sound.insertions sound.removals
  · rw [locks.2]
    exact List.not_mem_nil
  · rw [noLocks, locks.1]
    rfl
  · refine le_trans (Nat.le_zero.mpr (List.count_eq_zero.mpr fun isCall => ?_)) (Nat.zero_le _)
    obtain ⟨other, isOther, isIts⟩ := List.mem_flatMap.mp isCall
    rw [noCalls isOther] at isIts
    cases isIts
  · intro other isOther id isIts
    rw [noCalls isOther] at isIts
    cases isIts
  · intro other isOther
    obtain ⟨isLoose, suits, unbound⟩ := loose other isOther
    refine isLoose.holds suits fun execution isExecution => ?_
    cases unbound.symm.trans isExecution
  · intro other isOther use isPast
    cases (loose other isOther).1.past.symm.trans isPast
  · rintro version (drained | ⟨other, isOther, call, nowEpoch, isCall, -⟩)
    · refine .inl (.inl ?_)
      rw [← admits.drained]
      exact drained
    · cases (loose other isOther).1.call.symm.trans isCall
  · intro version isRetired
    rw [admits.retired] at isRetired
    exact .inl isRetired

theorem withoutExpired_admits
    {identity : ResultIdentity}
    (unlocked : state.rowLocks identity = none) :
    Admits state (withoutExpired state identity) := by
  have sameKeys := withoutExpired_keyVersions state identity
  refine ⟨fun version => ?_, fun version => ?_, fun version => ?_, ?_, ?_⟩
  · rw [disabledAt, disabledAt, sameKeys]
    exact id
  · rw [drainedAt, drainedAt, sameKeys]
  · rw [retiredAt, retiredAt, sameKeys]
  · intro other record present
    rcases withoutExpired_results state identity other with same | ⟨-, gone⟩
    · exact .inl (same.symm.trans present)
    · cases gone.symm.trans present
  · intro other isLocked
    rcases withoutExpired_results state identity other with same | ⟨rfl, -⟩
    · exact same
    · exact absurd unlocked isLocked

theorem Sound.collect
    {identity : ResultIdentity}
    (sound : Sound carrier state (.collecting identity :: tasks)) :
    Sound carrier (collect state identity) tasks := by
  unfold PostgresKeys.collect
  split
  · next unlocked =>
      exact @Sound.admits _ _ _ _ [] _ sound
        (withoutExpired_admits (Option.isNone_iff_eq_none.mp unlocked)) ⟨rfl, rfl⟩
        (List.forall_mem_nil _)
  · exact sound.quits (.refl _ _) ⟨rfl, rfl⟩

theorem Sound.disable
    {version : String}
    {reason : WriteDisabledReason}
    {nowEpoch : Int}
    {unreported : List Task}
    (choice : Choice)
    (sound : Sound carrier state (task :: tasks))
    (locks : task.locks = [] ∧ task.validates = [])
    (loose : ∀ other ∈ unreported, other.Loose ∧ other.Suits ∧ other.execution = none)
    {outcome : State × List Task}
    (taken : disable state choice version reason nowEpoch unreported = some outcome) :
    Sound carrier outcome.1 (outcome.2 ++ tasks) := by
  unfold PostgresKeys.disable at taken
  split at taken
  · cases taken
  · split at taken
    · cases Option.some.inj taken
      exact sound.quits (.refl _ _) locks
    · next tables disables =>
        have admits : Admits state tables := (writeDisable_spares disables).admits
        split at taken
        · cases Option.some.inj taken
          exact @Sound.admits _ _ _ _ [] _ sound admits locks (List.forall_mem_nil _)
        · cases Option.some.inj taken
          refine sound.admits ?_ locks loose
          split
          · exact admits
          · exact Admits.refl state

/-- The end of a session. -/
theorem Sound.lose
    {session : Session}
    (sound : Sound carrier state (.losing session :: tasks)) :
    Sound carrier (state.lose session) tasks := by
  have unchanged : (state.lose session).services = state.services ∧
      (state.lose session).tables = state.tables ∧
      (state.lose session).nextId = state.nextId ∧
      (state.lose session).insertions = state.insertions ∧
      (state.lose session).removals = state.removals ∧
      (state.lose session).lost = session :: state.lost := by
    cases session <;> exact ⟨rfl, rfl, rfl, rfl, rfl, rfl⟩
  obtain ⟨services, tables, nextId, insertions, removals, lost⟩ := unchanged
  have isLost : session ∈ (state.lose session).lost := lost ▸ List.mem_cons_self
  have shared (key : Int) (other : Session) (shares : other ∈ state.shared key) :
      other = session ∨ other ∈ (state.lose session).shared key := by
    by_cases same : other = session
    · exact .inl same
    · cases session with
      | service id number => exact .inr (List.mem_filter.mpr ⟨shares, decide_eq_true same⟩)
      | call id => exact .inr shares
  have exclusive (key : Int) (id : Nat) (held : state.exclusive key = some id) :
      .call id = session ∨ (state.lose session).exclusive key = some id := by
    cases session with
    | service id number => exact .inr held
    | call other =>
        by_cases same : id = other
        · exact .inl (congrArg Session.call same)
        · refine .inr ((if_neg fun isIts => ?_).trans held)
          exact same (Option.some.inj (held.symm.trans isIts))
  have moves : Moves (.losing session) state (state.lose session) := by
    refine ⟨fun _ wasLost => lost ▸ List.mem_cons_of_mem _ wasLost, ?_, ?_, ?_, ?_, ?_, ?_, ?_⟩
    · intro key other shares
      rcases shared key other shares with rfl | still
      · exact .inl isLost
      · exact .inr (.inl still)
    · intro key id _ held
      rcases exclusive key id held with rfl | still
      · exact .inl isLost
      · exact .inr still
    · intro identity id _ held
      by_cases same : .call id = session
      · exact .inl (same ▸ isLost)
      · refine .inr ⟨?_, by rw [tables]⟩
        cases session with
        | service id number => exact held
        | call other =>
            refine (if_neg fun isIts => ?_).trans held
            exact same (congrArg Session.call (Option.some.inj (held.symm.trans isIts)))
    · intro id service found
      exact ⟨service, services ▸ found, rfl, fun same => same, fun _ _ => rfl⟩
    · exact fun _ isDisabled => tables ▸ isDisabled
    · exact fun _ drained => tables ▸ drained
    · exact fun _ _ present => .inl (tables ▸ present)
  refine @Sound.next _ _ _ _ _ [] sound moves ?_ ?_ ?_ nextId.ge ?_ (fun _ => Nat.zero_le _)
    (List.forall_mem_nil _) (List.forall_mem_nil _) (List.forall_mem_nil _) ?_ ?_ ?_ ?_
  · intro key id held
    cases session with
    | service other number =>
        refine List.filter_eq_nil_iff.mpr fun item shares => ?_
        rw [sound.exclusion key id held] at shares
        cases shares
    | call other =>
        refine sound.exclusion key id ?_
        change (if state.exclusive key = some other then none else state.exclusive key) = _ at held
        split at held
        · cases held
        · exact held
  · intro id service found registered number isSession
    exact .inr ⟨List.not_mem_nil, service, services ▸ found, registered, isSession, rfl⟩
  · intro id
    rw [services]
    rfl
  · intro id isNew
    rw [services]
    exact sound.unborn id (nextId ▸ isNew)
  · rintro version (drained | ⟨other, isOther, -⟩)
    · exact .inl (.inl (tables ▸ drained))
    · cases isOther
  · exact fun version isRetired => .inl (tables ▸ isRetired)
  · rw [insertions]
    exact sound.insertions
  · rw [removals]
    exact sound.removals

theorem Sound.execute
    {id : Nat}
    {invocation : IdempotencyInvocation}
    {service : Service}
    (sound : Sound carrier state (.executing id invocation :: tasks))
    (found : state.services id = some service) :
    Sound carrier state
      (.waiting ⟨id, service.version, invocation⟩ (.reserves state.epoch) :: tasks) := by
  refine sound.loosens (.refl _ _) ⟨rfl, rfl⟩ (loose_waiting _ _)
    ((loose_waiting _ _).holds trivial fun execution isExecution => ?_)
  cases isExecution
  exact ⟨service, found, rfl⟩

/-! ## Runs -/

/-- A failed task leaves nothing. -/
theorem Sound.abandon (sound : Sound carrier state (task :: tasks)) :
    Sound carrier (abandon state task) tasks := by
  cases task with
  | attesting keyring service | registering keyring service =>
      exact @Sound.abandonUse _ _ _ _ _ sound rfl
  | validating execution goal number | transacting execution goal number =>
      exact @Sound.abandonUse _ _ _ _ _ sound rfl
  | storing execution reservation number | committing execution record number =>
      exact @Sound.abandonUse _ _ _ _ _ sound rfl
  | guarding call action | checking call action => exact sound.fails rfl
  | draining call | checkingActive call | selecting call => exact sound.fails rfl
  | readingWindow call drainCompletedEpoch => exact sound.fails rfl
  | listing call nowEpoch => exact sound.fails rfl
  | lockingRows call nowEpoch rows found => exact sound.fails rfl
  | retiring call nowEpoch rows => exact sound.fails rfl
  | ending call update => exact sound.fails rfl
  | unlocking call pending => exact sound.fails rfl
  | _ => exact sound.quits (.refl _ _) ⟨rfl, rfl⟩

theorem Sound.proceed
    {choice : Choice}
    {outcome : State × List Task}
    (sound : Sound carrier state (task :: tasks))
    (alive : ∀ session, task.session = some session → session ∉ state.lost)
    (taken : proceed carrier choice state task = some outcome)
    (inTime : startsLate state task = false ∨ outcome.2 = []) :
    Sound carrier outcome.1 (outcome.2 ++ tasks) := by
  cases task with
  | ticking seconds =>
      cases Option.some.inj taken
      exact sound.quits ⟨rfl, rfl, rfl, rfl, rfl, rfl, rfl, fun _ _ _ held => held,
        fun _ _ => .inl, fun _ _ _ held => held⟩ ⟨rfl, rfl⟩
  | losing session =>
      cases Option.some.inj taken
      exact sound.lose
  | collecting identity =>
      cases Option.some.inj taken
      exact sound.collect
  | constructing keyring =>
      cases Option.some.inj taken
      exact sound.construct
  | attesting keyring service =>
      unfold PostgresKeys.proceed at taken
      dsimp only at taken
      split at taken
      · next free =>
          cases Option.some.inj taken
          exact sound.attest free
      · cases taken
  | registering keyring service =>
      cases Option.some.inj taken
      exact sound.register
  | closing service =>
      cases Option.some.inj taken
      exact sound.unregister
  | releasing service => exact sound.release taken
  | disconnecting service => exact sound.disconnect taken
  | executing service invocation =>
      unfold PostgresKeys.proceed at taken
      dsimp only at taken
      split at taken
      · cases Option.some.inj taken
        exact sound.quits (.refl _ _) ⟨rfl, rfl⟩
      · next service found =>
          cases Option.some.inj taken
          exact sound.execute found
  | waiting execution goal => exact sound.connect taken inTime
  | validating execution goal number => exact sound.validate taken
  | transacting execution goal number => exact sound.transact choice taken
  | storing execution reservation number =>
      cases Option.some.inj taken
      exact sound.storeOrEnd choice
  | committing execution record number => exact sound.commitResult choice (alive _ rfl) taken
  | checkingDisable version reason =>
      unfold PostgresKeys.proceed at taken
      dsimp only at taken
      split at taken
      · cases Option.some.inj taken
        exact sound.loosens (.refl _ _) ⟨rfl, rfl⟩ (loose_disabling _ _ _)
          ((loose_disabling _ _ _).holds trivial fun _ isExecution => by cases isExecution)
      · cases Option.some.inj taken
        exact sound.quits (.refl _ _) ⟨rfl, rfl⟩
  | disabling version reason nowEpoch =>
      cases nowEpoch with
      | none =>
          cases Option.some.inj taken
          exact sound.loosens (.refl _ _) ⟨rfl, rfl⟩ (loose_disabling _ _ _)
            ((loose_disabling _ _ _).holds trivial fun _ isExecution => by cases isExecution)
      | some nowEpoch =>
          exact sound.disable choice ⟨rfl, rfl⟩
            (List.forall_mem_singleton.mpr ⟨loose_redisabling _ _ _, trivial, rfl⟩) taken
  | redisabling version reason nowEpoch =>
      unfold PostgresKeys.proceed at taken
      dsimp only at taken
      split at taken
      · cases Option.some.inj taken
        exact sound.quits (.refl _ _) ⟨rfl, rfl⟩
      · exact sound.disable choice ⟨rfl, rfl⟩ (List.forall_mem_nil _) taken
  | calling version activeVersion action =>
      cases Option.some.inj taken
      exact sound.calls (loose_calling _ _ _) _ _ _ _
  | guarding call action =>
      cases Option.some.inj taken
      exact sound.guard
  | checking call action =>
      cases Option.some.inj taken
      exact sound.check (alive _ rfl)
  | draining call => exact sound.drain (alive _ rfl) taken
  | readingWindow call drainCompletedEpoch =>
      unfold PostgresKeys.proceed at taken
      dsimp only at taken
      split at taken
      · cases Option.some.inj taken
        exact sound.proceeds (.refl _ _) rfl rfl rfl (.inl rfl) (List.forall_mem_nil _) trivial
      · cases Option.some.inj taken
        exact sound.fails rfl
  | checkingActive call =>
      unfold PostgresKeys.proceed at taken
      dsimp only at taken
      split at taken
      · cases Option.some.inj taken
        exact sound.proceeds (.refl _ _) rfl rfl rfl (.inl rfl) (List.forall_mem_nil _) trivial
      · cases Option.some.inj taken
        exact sound.fails rfl
  | selecting call =>
      cases Option.some.inj taken
      exact sound.proceeds (.refl _ _) rfl rfl rfl (.inl rfl) (List.forall_mem_nil _) trivial
  | listing call nowEpoch =>
      cases Option.some.inj taken
      exact sound.proceeds (.refl _ _) rfl rfl rfl (.inl rfl) (List.forall_mem_nil _) trivial
  | lockingRows call nowEpoch rows found => exact sound.lockRows (alive _ rfl) taken
  | retiring call nowEpoch rows => exact sound.retire (alive _ rfl) taken
  | ending call update =>
      cases Option.some.inj taken
      exact sound.endUpdate choice (alive _ rfl)
  | unlocking call pending =>
      cases Option.some.inj taken
      exact sound.unlocksExclusive (alive _ rfl)

theorem Sound.flag
    (sound : Sound carrier state tasks)
    (startedLate : Bool) : Sound carrier { state with startedLate } tasks where
  exclusion := sound.exclusion
  attested := sound.attested
  locked := sound.locked
  unborn := sound.unborn
  alone := sound.alone
  given := sound.given
  holds task isTask :=
    let holds := sound.holds task isTask
    ⟨holds.suits, holds.named, holds.connected, holds.shared, holds.unregistered, holds.guards,
      holds.rows, holds.bare⟩
  closed version closing :=
    let closed := sound.closed version closing
    ⟨closed.disabled, closed.past⟩
  retired := sound.retired
  insertions := sound.insertions
  removals := sound.removals

/-- While no completion has started late, what is known of closed versions is kept. -/
theorem Sound.step
    {choice : Choice}
    (taken : step carrier choice state task = some (after, rest))
    (sound : state.startedLate = false → Sound carrier state (task :: tasks))
    (inTime : after.startedLate = false) : Sound carrier after (rest ++ tasks) := by
  obtain ⟨outcome, proceeds, result⟩ := Option.map_eq_some_iff.mp taken
  cases result
  obtain ⟨before, now⟩ := Bool.or_eq_false_iff.mp inTime
  refine Sound.flag ?_ _
  have inTime : startsLate state task = false ∨ outcome.2 = [] := by
    rw [Bool.and_eq_false_iff, Bool.not_eq_false', List.isEmpty_iff] at now
    exact now
  split at proceeds
  · cases Option.some.inj proceeds
    exact (sound before).abandon
  · next usable =>
      refine (sound before).proceed (fun session isSession lost => usable ?_) proceeds inTime
      rw [isSession]
      simp [lost]

/-- A task that an event starts. -/
def Task.Startable : Task → Prop
  | .ticking _ | .losing _ | .collecting _ | .constructing _ | .closing _ | .executing _ _
  | .checkingDisable _ _ | .calling _ _ _ => True
  | _ => False

theorem sound_initial (epoch : Int) : Sound carrier { epoch } [] where
  exclusion _ _ _ := rfl
  attested _ _ found := by cases found
  locked _ := rfl
  unborn _ _ := rfl
  alone _ := Nat.zero_le _
  given := List.forall_mem_nil _
  holds := List.forall_mem_nil _
  closed version closing := by
    rcases closing with drained | ⟨task, isTask, -⟩
    · exact absurd rfl drained
    · cases isTask
  retired version isRetired := absurd rfl isRetired
  insertions := List.forall_mem_nil _
  removals := List.forall_mem_nil _

theorem sound_run
    (carrier : String → Int)
    (epoch : Int)
    (events : List Event)
    (inTime : (run carrier epoch events).shared.startedLate = false) :
    Sound carrier (run carrier epoch events).shared (run carrier epoch events).tasks := by
  refine @Interleaving.invariant_run _ _ _ (system carrier)
    (fun state tasks => state.startedLate = false → Sound carrier state tasks)
    (fun permuted sound inTime => (sound inTime).perm permuted) Task.Startable ?_
    (fun taken sound => Sound.step taken sound) _ (fun _ => sound_initial epoch) _ ?_ inTime
  · intro shared tasks task startable sound inTime
    have sound := sound inTime
    cases task with
    | ticking seconds => exact sound.add ⟨rfl, rfl, rfl, rfl, rfl, rfl, rfl, rfl⟩ trivial rfl
    | losing session => exact sound.add ⟨rfl, rfl, rfl, rfl, rfl, rfl, rfl, rfl⟩ trivial rfl
    | collecting identity =>
        exact sound.add ⟨rfl, rfl, rfl, rfl, rfl, rfl, rfl, rfl⟩ trivial rfl
    | constructing keyring =>
        exact sound.add ⟨rfl, rfl, rfl, rfl, rfl, rfl, rfl, rfl⟩ trivial rfl
    | closing service => exact sound.add ⟨rfl, rfl, rfl, rfl, rfl, rfl, rfl, rfl⟩ trivial rfl
    | executing service invocation =>
        exact sound.add ⟨rfl, rfl, rfl, rfl, rfl, rfl, rfl, rfl⟩ trivial rfl
    | checkingDisable version reason =>
        exact sound.add ⟨rfl, rfl, rfl, rfl, rfl, rfl, rfl, rfl⟩ trivial rfl
    | calling version activeVersion action =>
        exact sound.add (loose_calling _ _ _) trivial rfl
    | _ => exact startable.elim
  · intro task isStarted
    obtain ⟨event, -, starts⟩ := List.mem_map.mp isStarted
    cases event with
    | advance index choice => cases starts
    | _ =>
        cases starts
        trivial

end Runs

def sampleCarrier (version : String) : Int := if version = "k1" then 1 else 2

def sampleSuccessor : IdempotencyKeyring :=
  let key := { version := "k2", material := sampleMaterial, commitment := List.replicate 32 9 }
  { activeKey := key, decryptionKeys := [key] }

def goOn (steps : Nat) : List Event := List.replicate steps (.advance 0 {})

/-- An execution stores a result, and its key version is then replaced. -/
def sampleRotation : List Event :=
  [.construct sampleKeyring] ++ goOn 3 ++ [.construct sampleSuccessor] ++ goOn 3 ++
    [.executeIdempotent 0 sampleInvocation] ++ goOn 2 ++
    [.advance 0 { nonce := some sampleNonce }] ++ goOn 4 ++
    [.advance 0 { stores := some sampleRecord }] ++ goOn 1 ++
    [.writeDisable "k1" .rotation] ++ goOn 3 ++ [.close 0] ++ goOn 3 ++
    [.completeDrain "k1"] ++ goOn 6 ++ [.tick 100000] ++ goOn 1 ++ [.retire "k1" "k2"] ++ goOn 12

/-- A completion starts after its service gave the shared lock back and before its
connection is closed. -/
def sampleRace : List Event :=
  [.construct sampleKeyring] ++ goOn 3 ++ [.executeIdempotent 0 sampleInvocation] ++ goOn 2 ++
    [.advance 0 { nonce := some sampleNonce }] ++ goOn 2 ++ [.close 0] ++ goOn 2 ++
    [.advance 1 {}, .advance 0 {}, .advance 0 { stores := some sampleRecord }] ++
    [.writeDisable "k1" .rotation] ++ goOn 3 ++ [.completeDrain "k1"] ++ goOn 6 ++ goOn 2

-- Its result is inserted after the drain was recorded.
example :
    (run sampleCarrier sampleEpoch sampleRace).shared.insertions.map
      Insertion.drainCompletedEpoch = [some sampleEpoch] := by
  decide +kernel

end PostgresKeys
end Vinctor
