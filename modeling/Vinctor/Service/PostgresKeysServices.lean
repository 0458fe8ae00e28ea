import Vinctor.Service.PostgresKeysSafety

/-!
# Steps of services

Every step of a service keeps what is known of closed versions, unless a completion starts
on a service that is being closed.
-/

namespace Vinctor
namespace PostgresKeys

open Foundation
open Idempotency
open Fallible

section Services

variable
    {carrier : String → Int}
    {state after : State}
    {task : Task}
    {tasks rest : List Task}

/-! ## Tasks between transactions -/

/-- A task that has no connection and no lock. -/
structure Task.Loose (task : Task) : Prop where
  call : task.call = none
  locks : task.locks = []
  validates : task.validates = []
  use : task.use = none
  completes : task.completes = none
  past : task.past = none
  guards : task.guards = none
  releases : task.releases = none

theorem loose_waiting (execution : Execution) (goal : Goal) :
    (Task.waiting execution goal).Loose :=
  ⟨rfl, rfl, rfl, rfl, rfl, rfl, rfl, rfl⟩

theorem loose_disabling
    (version : String)
    (reason : WriteDisabledReason)
    (nowEpoch : Option Int) : (Task.disabling version reason nowEpoch).Loose :=
  ⟨rfl, rfl, rfl, rfl, rfl, rfl, rfl, rfl⟩

theorem loose_redisabling
    (version : String)
    (reason : WriteDisabledReason)
    (nowEpoch : Int) : (Task.redisabling version reason nowEpoch).Loose :=
  ⟨rfl, rfl, rfl, rfl, rfl, rfl, rfl, rfl⟩

theorem loose_disconnecting (service : Nat) : (Task.disconnecting service).Loose :=
  ⟨rfl, rfl, rfl, rfl, rfl, rfl, rfl, rfl⟩

/-- A task of no call holds no lock of one. -/
theorem Task.Holds.of_uncalled
    (call : task.call = none)
    (guards : task.guards = none)
    (releases : task.releases = none)
    (suits : task.Suits)
    (named : ∀ execution, task.execution = some execution →
      ∃ service, state.services execution.service = some service ∧
        service.version = execution.version)
    (connected : ∀ use, task.use = some use →
      ∃ service, state.services use.service = some service ∧
        service.session = some use.number ∧ service.version = use.version)
    (shared : ∀ use, task.completes = some use →
      use.session ∈ state.lost ∨ use.session ∈ state.shared (carrier use.version)) :
    task.Holds carrier state where
  suits := suits
  named := named
  connected := connected
  shared := shared
  unregistered id isReleased := by
    cases releases.symm.trans isReleased
  guards call isCall := by
    cases guards.symm.trans isCall
  rows other isCall := by
    cases call.symm.trans isCall
  bare other nowEpoch rows isCall := by
    cases call.symm.trans isCall

theorem Task.Loose.holds
    (loose : task.Loose)
    (suits : task.Suits)
    (named : ∀ execution, task.execution = some execution →
      ∃ service, state.services execution.service = some service ∧
        service.version = execution.version) : task.Holds carrier state := by
  refine .of_uncalled loose.call loose.guards loose.releases suits named ?_ ?_
  · intro use isUse
    cases loose.use.symm.trans isUse
  · intro use completes
    cases loose.completes.symm.trans completes

/-- A task that is done, and changed nothing of note. -/
theorem Sound.quits
    (sound : Sound carrier state (task :: tasks))
    (quiet : Quiet task state after)
    (locks : task.locks = [] ∧ task.validates = []) : Sound carrier after tasks :=
  @Sound.quiet _ _ _ _ _ [] sound quiet locks (List.forall_mem_nil _) (fun _ => Nat.zero_le _)
    (List.forall_mem_nil _) (List.forall_mem_nil _)

/-- What is left of a task has no connection either. -/
theorem Sound.loosens
    {next : Task}
    (sound : Sound carrier state (task :: tasks))
    (quiet : Quiet task state after)
    (locks : task.locks = [] ∧ task.validates = [])
    (loose : next.Loose)
    (holds : next.Holds carrier after) : Sound carrier after (next :: tasks) := by
  refine @Sound.quiet _ _ _ _ _ [next] sound quiet locks
    (List.forall_mem_singleton.mpr ⟨loose.locks, loose.past⟩) (fun id => ?_)
    (List.forall_mem_singleton.mpr holds) (List.forall_mem_singleton.mpr ?_)
  · rw [tally_cons, tally_nil, Task.calls, loose.call]
    exact Nat.zero_le _
  · intro call nowEpoch isCall
    cases loose.call.symm.trans isCall

/-! ## Transactions of services -/

theorem modifyService_of_found
    {id : Nat}
    {service : Service}
    (found : state.services id = some service)
    (change : Service → Service) :
    state.modifyService id change = state.setService id (change service) := by
  rw [State.modifyService, found]

/-- A changed service, and perhaps changed tables. -/
theorem serves_setService
    {id : Nat}
    {old new : Service}
    (found : state.services id = some old)
    (version : new.version = old.version)
    (unregistered : old.registered = false → new.registered = false)
    {tables : Tables}
    (admits : Admits state tables)
    {insertions : List Insertion}
    (inserted : ∀ insertion ∈ insertions, insertion ∈ state.insertions ∨
      insertion.drainCompletedEpoch = none)
    {nextId : Nat}
    (later : state.nextId ≤ nextId)
    (exclusion : ∀ key holder, state.exclusive key = some holder → state.shared key = []) :
    Serves state ({ state with tables, insertions, nextId }.setService id new) id old new where
  found := found
  services := rfl
  version := version
  unregistered := unregistered
  tables := admits
  lost := rfl
  exclusive := rfl
  rowLocks := rfl
  nextId := later
  removals := rfl
  insertions := inserted
  shared _ _ := .inl
  exclusion := exclusion

theorem locks_eq_of_use
    {use : Use}
    (isUse : task.use = some use) : task.locks = [use.service] := by
  cases task with
  | attesting keyring service | registering keyring service
  | validating execution goal number | transacting execution goal number
  | storing execution reservation number | committing execution record number =>
      cases isUse
      rfl
  | _ => cases isUse

theorem validates_sub_locks (id : Nat) (tasks : List Task) :
    tally Task.validates tasks id ≤ tally Task.locks tasks id := by
  refine tally_mono (fun task item => ?_) tasks id
  cases task <;> simp [Task.validates, Task.locks]

/-- The connection that a task uses is locked. -/
theorem Sound.lockedOwn
    (sound : Sound carrier state (task :: tasks))
    {use : Use}
    (isUse : task.use = some use)
    {service : Service}
    (found : state.services use.service = some service) : service.locked = true := by
  have balance := sound.locked use.service
  rw [tally_cons, locks_eq_of_use isUse, found, List.count_singleton_self] at balance
  dsimp only [Option.elim] at balance
  cases isLocked : service.locked with
  | true => rfl
  | false =>
      rw [isLocked, Bool.toNat_false] at balance
      omega

/-- The end of a transaction, or of a connection, of a service. -/
theorem Sound.frees
    (sound : Sound carrier state (task :: tasks))
    {use : Use}
    (isUse : task.use = some use)
    {change : Service → Service}
    (changes : ∀ service, (change service).version = service.version ∧
      (change service).registered = service.registered ∧ (change service).locked = false ∧
      ((change service).session = none ∨
        (task.validates = [] ∧ (change service).session = service.session)))
    {tables : Tables}
    (admits : Admits state tables)
    {insertions : List Insertion}
    (inserted : ∀ insertion ∈ insertions, insertion ∈ state.insertions ∨
      insertion.drainCompletedEpoch = none)
    (loose : ∀ other ∈ rest, other.Loose ∧ other.Suits ∧
      ∀ execution, other.execution = some execution →
        execution.service = use.service ∧ execution.version = use.version ∨
          ∃ service, state.services execution.service = some service ∧
            service.version = execution.version) :
    Sound carrier
      ({ state with tables, insertions }.modifyService use.service change)
      (rest ++ tasks) := by
  obtain ⟨old, found, wasSession, version⟩ :=
    (sound.holds task List.mem_cons_self).connected use isUse
  have isLocked := sound.lockedOwn isUse found
  obtain ⟨sameVersion, sameRegistered, unlocked, session⟩ := changes old
  rw [@modifyService_of_found { state with tables, insertions } _ _ found]
  have serves := serves_setService found sameVersion
    (fun unregistered => sameRegistered.trans unregistered) admits inserted (Nat.le_refl _)
    sound.exclusion
  have noLocks (id : Nat) : tally Task.locks rest id = 0 := by
    refine List.count_eq_zero.mpr fun isLocked => ?_
    obtain ⟨other, isOther, isIts⟩ := List.mem_flatMap.mp isLocked
    rw [(loose other isOther).1.locks] at isIts
    cases isIts
  have ownLocks := locks_eq_of_use isUse
  refine sound.serves serves ?_ ?_ ?_ ?_ ?_ ?_ ?_
  · intro _ notMine
    rw [ownLocks] at notMine
    exact absurd (List.mem_singleton_self _) notMine
  · intro registered number isSession
    rcases session with none | ⟨validated, same⟩
    · rw [none] at isSession
      cases isSession
    · rw [validated]
      exact .inr ⟨List.not_mem_nil, sameRegistered.symm.trans registered, same.symm.trans isSession⟩
  · intro other isIts
    have mine := List.count_pos_iff.mpr isIts
    have bound := validates_sub_locks other [task]
    simp only [tally_cons, tally_nil, Nat.add_zero, ownLocks] at bound
    exact List.mem_singleton.mp (List.count_pos_iff.mp (lt_of_lt_of_le mine bound))
  · intro other
    rw [noLocks, ownLocks, isLocked, unlocked, List.count_singleton]
    by_cases same : other = use.service
    · simp [same]
    · simp [same, Ne.symm same]
  · exact fun other isOther => (loose other isOther).1.call
  · intro other isOther
    obtain ⟨isLoose, suits, named⟩ := loose other isOther
    refine isLoose.holds suits fun execution isExecution => ?_
    rcases named execution isExecution with ⟨same, isVersion⟩ | ⟨service, isThere, isVersion⟩
    · refine ⟨change old, ?_, ?_⟩
      · rw [same, serves.services, Function.update_self]
      · rw [sameVersion, version, isVersion]
    · by_cases same : execution.service = use.service
      · refine ⟨change old, ?_, ?_⟩
        · rw [same, serves.services, Function.update_self]
        · rw [same, found] at isThere
          cases isThere
          rw [sameVersion, isVersion]
      · refine ⟨service, ?_, isVersion⟩
        rw [serves.services, Function.update_of_ne same]
        exact isThere
  · intro other isOther use' isPast
    rw [(loose other isOther).1.past] at isPast
    cases isPast

theorem unlock_changes (service : Service) (validated : task.validates = []) :
    ({ service with locked := false } : Service).version = service.version ∧
      ({ service with locked := false } : Service).registered = service.registered ∧
      ({ service with locked := false } : Service).locked = false ∧
      (({ service with locked := false } : Service).session = none ∨
        (task.validates = [] ∧ ({ service with locked := false } : Service).session =
          service.session)) :=
  ⟨rfl, rfl, rfl, .inr ⟨validated, rfl⟩⟩

/-- A transaction that is given up, or has nothing to commit. -/
theorem Sound.unlocks
    {next : List Task}
    (sound : Sound carrier state (task :: tasks))
    {use : Use}
    (isUse : task.use = some use)
    (validated : task.validates = [])
    (loose : ∀ other ∈ next, other.Loose ∧ other.Suits ∧ other.execution = none) :
    Sound carrier (state.unlock use.service) (next ++ tasks) := by
  refine @Sound.frees _ state _ _ _ sound _ isUse _ (fun service => unlock_changes service validated)
    _ (Admits.refl state) _ (fun _ => .inl) fun other isOther => ?_
  obtain ⟨isLoose, suits, none⟩ := loose other isOther
  refine ⟨isLoose, suits, fun execution isExecution => ?_⟩
  cases none.symm.trans isExecution

theorem Sound.finish
    {execution : Execution}
    {goal : Goal}
    {next : List Task}
    (choice : Choice)
    (sound : Sound carrier state (task :: tasks))
    {number : Nat}
    (isUse : task.use = some ⟨execution.service, number, execution.version⟩)
    (validated : task.validates = [])
    {tables : Tables}
    (admits : Admits state tables)
    {insertions : List Insertion}
    (inserted : ∀ insertion ∈ insertions, insertion ∈ state.insertions ∨
      insertion.drainCompletedEpoch = none)
    (isNext : next = [] ∨ (next = [.waiting execution goal] ∧ goal.Suits execution)) :
    Sound carrier
      (finish { state with insertions } choice execution.service tables next).1
      ((finish { state with insertions } choice execution.service tables next).2 ++ tasks) := by
  unfold PostgresKeys.finish
  split
  · refine @Sound.frees _ state _ _ _ sound _ isUse _
      (fun service => unlock_changes service validated) _ admits _ inserted ?_
    rcases isNext with rfl | ⟨rfl, suits⟩
    · exact List.forall_mem_nil _
    · refine List.forall_mem_singleton.mpr ⟨loose_waiting execution goal, suits, ?_⟩
      intro other isExecution
      cases isExecution
      exact .inl ⟨rfl, rfl⟩
  · next tookEffect _ =>
      have either : Admits state (if tookEffect = true then tables else state.tables) := by
        split
        · exact admits
        · exact Admits.refl state
      exact @Sound.frees _ state _ _ [] sound _ isUse
        (fun service => { service with locked := false, session := none })
        (fun service => ⟨rfl, rfl, rfl, .inl rfl⟩) _ either _ inserted (List.forall_mem_nil _)

/-- A step inside a transaction of a service. -/
theorem Sound.keeps
    {next : Task}
    {use : Use}
    (sound : Sound carrier state (task :: tasks))
    (isUse : task.use = some use)
    (isNext : next.use = some use)
    (locks : next.locks = task.locks)
    (validates : task.validates = [])
    (execution : next.execution = task.execution)
    (noCall : next.call = none ∧ next.guards = none ∧ next.releases = none)
    (suits : next.Suits)
    (wasCompleting : task.completes = some use)
    (completes : next.completes = some use)
    (past : task.past = some use ∨ disabledAt state.tables use.version = none) :
    Sound carrier state (next :: tasks) := by
  have holds := sound.holds task List.mem_cons_self
  obtain ⟨service, found, session, version⟩ := holds.connected use isUse
  have isLocked := sound.lockedOwn isUse found
  have serves : Serves state state use.service service service :=
    { found
      services := by rw [← found, Function.update_eq_self]
      version := rfl
      unregistered := fun same => same
      tables := Admits.refl state
      lost := rfl
      exclusive := rfl
      rowLocks := rfl
      nextId := Nat.le_refl _
      removals := rfl
      insertions := fun _ => .inl
      shared := fun _ _ => .inl
      exclusion := sound.exclusion }
  refine @Sound.serves _ _ _ _ _ [next] _ _ _ sound serves (fun _ _ => rfl) ?_ ?_ ?_
    (List.forall_mem_singleton.mpr noCall.1) (List.forall_mem_singleton.mpr ?_)
    (List.forall_mem_singleton.mpr ?_)
  · intro registered number isSession
    rw [validates]
    exact .inr ⟨List.not_mem_nil, registered, isSession⟩
  · rw [validates]
    exact List.forall_mem_nil _
  · intro other
    rw [tally_cons, tally_nil, locks]
    omega
  · refine .of_uncalled noCall.1 noCall.2.1 noCall.2.2 suits ?_ ?_ ?_
    · rw [execution]
      exact holds.named
    · rw [isNext, ← isUse]
      exact holds.connected
    · rw [completes, ← wasCompleting]
      exact holds.shared
  · intro other isPast
    have same : other = use := by
      cases next with
      | storing execution reservation number | committing execution record number =>
          exact Option.some.inj (isPast.symm.trans completes)
      | _ => cases isPast
    rw [same]
    exact past

theorem Sound.transact
    {execution : Execution}
    {goal : Goal}
    {number : Nat}
    (choice : Choice)
    (sound : Sound carrier state (.transacting execution goal number :: tasks))
    {outcome : State × List Task}
    (taken : transact state choice execution number goal = some outcome) :
    Sound carrier outcome.1 (outcome.2 ++ tasks) := by
  have holds := sound.holds _ List.mem_cons_self
  have noTasks := List.forall_mem_nil fun other : Task =>
    other.Loose ∧ other.Suits ∧ other.execution = none
  have disables (reason : WriteDisabledReason) (nowEpoch : Int) :
      ∀ other ∈ [Task.disabling execution.version reason (some nowEpoch)],
        other.Loose ∧ other.Suits ∧ other.execution = none :=
    List.forall_mem_singleton.mpr ⟨loose_disabling _ _ _, trivial, rfl⟩
  cases goal with
  | reserves nowEpoch =>
      unfold PostgresKeys.transact at taken
      dsimp only at taken
      split at taken
      · cases taken
      · split at taken
        · next reservation tables reserves =>
            cases Option.some.inj taken
            obtain ⟨spares, version⟩ := reserveNonce_spares reserves
            exact sound.finish choice rfl rfl spares.admits (fun _ => .inl)
              (.inr ⟨rfl, version⟩)
        · cases Option.some.inj taken
          exact @Sound.unlocks _ _ _ _ _ sound _ rfl rfl (disables _ _)
        · cases Option.some.inj taken
          exact @Sound.unlocks _ _ _ _ _ sound _ rfl rfl (disables _ _)
        · cases Option.some.inj taken
          exact @Sound.unlocks _ _ _ _ _ sound _ rfl rfl noTasks
  | claims reservation =>
      unfold PostgresKeys.transact at taken
      dsimp only at taken
      split at taken
      · next tables claims =>
          cases Option.some.inj taken
          obtain ⟨-, -, claims⟩ := bind_eq_ok.mp claims
          exact sound.finish choice rfl rfl (claimReservation_spares claims).admits
            (fun _ => .inl) (.inr ⟨rfl, holds.suits⟩)
      · cases Option.some.inj taken
        exact @Sound.unlocks _ _ _ _ _ sound _ rfl rfl noTasks
  | completes reservation =>
      unfold PostgresKeys.transact at taken
      dsimp only at taken
      split at taken
      · next authentic =>
          cases Option.some.inj taken
          have version : reservation.version = execution.version := holds.suits
          refine sound.keeps rfl rfl rfl rfl rfl ⟨rfl, rfl, rfl⟩ version rfl rfl ?_
          refine .inr ?_
          rw [← version]
          exact undisabled_of_authentic authentic
      · cases Option.some.inj taken
        exact @Sound.unlocks _ _ _ _ _ sound _ rfl rfl noTasks

theorem Sound.storeOrEnd
    {execution : Execution}
    {reservation : CryptoReservation}
    {number : Nat}
    (choice : Choice)
    (sound : Sound carrier state (.storing execution reservation number :: tasks)) :
    Sound carrier (storeOrEnd state choice execution reservation number).1
      ((storeOrEnd state choice execution reservation number).2 ++ tasks) := by
  have version : reservation.version = execution.version :=
    (sound.holds _ List.mem_cons_self).suits
  unfold PostgresKeys.storeOrEnd
  split
  · exact @Sound.unlocks _ _ _ _ _ sound _ rfl rfl (List.forall_mem_nil _)
  · exact sound.keeps rfl rfl rfl rfl rfl ⟨rfl, rfl, rfl⟩ version rfl rfl (.inl rfl)

/-- The insertion of a result of a version that is not drained. -/
theorem admits_insertResult
    {identity : ResultIdentity}
    {record : CompletedResultRecord}
    {tables : Tables}
    (inserts : insertResult identity record (withoutExpired state identity) = .ok tables)
    (unlocked : state.rowLocks identity = none)
    (undrained : drainedAt state.tables record.cipherKeyVersion = none) :
    Admits state tables := by
  simp only [insertResult, bind_eq_ok, ensure_eq_ok, require_eq_ok, pure_eq_ok] at inserts
  obtain ⟨-, -, -, -, results, inserted, rfl⟩ := inserts
  have lookup := Table.get?_insert? inserted
  have sameKeys := withoutExpired_keyVersions state identity
  refine ⟨fun version => ?_, fun version => ?_, fun version => ?_, ?_, ?_⟩
  · rw [disabledAt, disabledAt, sameKeys]
    exact id
  · rw [drainedAt, drainedAt, sameKeys]
  · rw [retiredAt, retiredAt, sameKeys]
  · intro other kept present
    rw [lookup] at present
    split at present
    · cases present
      exact .inr undrained
    · rcases withoutExpired_results state identity other with same | ⟨-, gone⟩
      · exact .inl (same.symm.trans present)
      · cases gone.symm.trans present
  · intro other isLocked
    have different : other ≠ identity := by
      rintro rfl
      exact isLocked unlocked
    rw [lookup, if_neg different]
    rcases withoutExpired_results state identity other with same | ⟨same, -⟩
    · exact same
    · exact absurd same different

theorem Sound.commitResult
    {execution : Execution}
    {record : CompletedResultRecord}
    {number : Nat}
    (choice : Choice)
    (sound : Sound carrier state (.committing execution record number :: tasks))
    (alive : .service execution.service number ∉ state.lost)
    {outcome : State × List Task}
    (taken : commitResult state choice execution record = some outcome) :
    Sound carrier outcome.1 (outcome.2 ++ tasks) := by
  have version : record.cipherKeyVersion = execution.version :=
    (sound.holds _ List.mem_cons_self).suits
  -- A completion past its check on a session that has not ended keeps its version open.
  have undrained : drainedAt state.tables record.cipherKeyVersion = none := by
    by_contra drained
    have closed := sound.closed _ (.inl drained)
    exact alive (closed.past _ List.mem_cons_self _ rfl version.symm)
  unfold PostgresKeys.commitResult at taken
  dsimp only at taken
  split at taken
  · cases taken
  · next unlocked =>
      split at taken
      · cases Option.some.inj taken
        exact @Sound.unlocks _ _ _ _ _ sound _ rfl rfl (List.forall_mem_nil _)
      · split at taken
        · cases Option.some.inj taken
          exact @Sound.unlocks _ _ _ _ _ sound _ rfl rfl (List.forall_mem_nil _)
        · next tables inserts =>
            cases Option.some.inj taken
            have admits := admits_insertResult inserts (by simpa using unlocked) undrained
            refine @Sound.finish _ _ _ _ execution (.reserves 0) _ choice sound _ rfl rfl _ admits
              _ ?_ (.inl rfl)
            intro insertion inserted
            split at inserted
            · rcases List.mem_append.mp inserted with old | new
              · exact .inl old
              · rw [List.mem_singleton.mp new]
                exact .inr undrained
            · exact .inl inserted

/-! ## Connections -/

/-- A service whose entry is not touched. -/
theorem serves_self
    {id : Nat}
    {service : Service}
    (found : state.services id = some service)
    {shared : Int → List Session}
    (kept : ∀ key session, session ∈ state.shared key → session ∈ shared key ∨
      ((∃ number, session = .service id number) ∧ service.locked = false ∧
        service.registered = false))
    (exclusion : ∀ key holder, state.exclusive key = some holder → shared key = []) :
    Serves state { state with shared } id service service where
  found := found
  services := by rw [← found, Function.update_eq_self]
  version := rfl
  unregistered := fun same => same
  tables := Admits.refl state
  lost := rfl
  exclusive := rfl
  rowLocks := rfl
  nextId := Nat.le_refl _
  removals := rfl
  insertions _ := .inl
  shared := kept
  exclusion := exclusion

theorem share_self (key : Int) (session : Session) :
    (state.share key session).shared key = session :: state.shared key :=
  Function.update_self ..

theorem share_of_ne {key other : Int} (session : Session) (different : other ≠ key) :
    (state.share key session).shared other = state.shared other :=
  Function.update_of_ne different ..

/-- A new connection gets the shared lock while no call has the lock. -/
theorem Sound.shares
    {next : Task}
    {use : Use}
    (sound : Sound carrier state (task :: tasks))
    (free : state.exclusive (carrier use.version) = none)
    (isUse : task.use = some use)
    (isNext : next.use = some use)
    (noCall : next.call = none ∧ next.guards = none ∧ next.releases = none)
    (execution : next.execution = task.execution)
    (past : next.past = none)
    (completes : next.completes = none ∨ next.completes = some use)
    (suits : next.Suits) :
    Sound carrier (state.share (carrier use.version) use.session) (next :: tasks) := by
  have holds := sound.holds task List.mem_cons_self
  obtain ⟨service, found, session, version⟩ := holds.connected use isUse
  have isLocked := sound.lockedOwn isUse found
  have shared : use.session ∈
      (state.share (carrier use.version) use.session).shared (carrier use.version) := by
    rw [share_self]
    exact List.mem_cons_self
  have serves := @serves_self state use.service service found
    (state.share (carrier use.version) use.session).shared
    (fun key other shares => by
      by_cases same : key = carrier use.version
      · subst same
        rw [share_self]
        exact .inl (List.mem_cons_of_mem _ shares)
      · rw [share_of_ne _ same]
        exact .inl shares)
    (fun key holder held => by
      have different : key ≠ carrier use.version := by
        rintro rfl
        cases free.symm.trans held
      rw [share_of_ne _ different]
      exact sound.exclusion key holder held)
  refine @Sound.serves _ _ _ _ _ [next] _ _ _ sound serves (fun _ _ => rfl) ?_ ?_ ?_
    (List.forall_mem_singleton.mpr noCall.1) (List.forall_mem_singleton.mpr ?_)
    (List.forall_mem_singleton.mpr ?_)
  · intro _ number isSession
    cases Option.some.inj (session.symm.trans isSession)
    rw [version]
    exact .inl (.inr (.inl shared))
  · intro other isIts
    have mine := List.count_pos_iff.mpr isIts
    have bound := validates_sub_locks other [task]
    simp only [tally_cons, tally_nil, Nat.add_zero, locks_eq_of_use isUse] at bound
    exact List.mem_singleton.mp (List.count_pos_iff.mp (lt_of_lt_of_le mine bound))
  · intro other
    rw [tally_cons, tally_nil, locks_eq_of_use isUse, locks_eq_of_use isNext]
    omega
  · refine .of_uncalled noCall.1 noCall.2.1 noCall.2.2 suits ?_ ?_ ?_
    · rw [execution]
      exact holds.named
    · rw [isNext, ← isUse]
      exact holds.connected
    · intro other isCompleting
      rcases completes with none | same
      · cases none.symm.trans isCompleting
      · cases Option.some.inj (same.symm.trans isCompleting)
        exact .inr shared
  · intro other isPast
    cases past.symm.trans isPast

/-- A transaction of a service starts on a connection. -/
theorem Sound.opens
    {execution : Execution}
    {goal : Goal}
    {number : Nat}
    {old new : Service}
    {next : Task}
    (sound : Sound carrier state (.waiting execution goal :: tasks))
    (found : state.services execution.service = some old)
    (unlocked : old.locked = false)
    (isNew : new = { old with session := some number, locked := true })
    {nextId : Nat}
    (later : state.nextId ≤ nextId)
    (isNext : (next = .transacting execution goal number ∧
        (old.registered = true → old.session = some number) ∧
        ∀ reservation, goal = .completes reservation →
          Session.service execution.service number ∈ state.shared (carrier old.version)) ∨
      next = .validating execution goal number) :
    Sound carrier { state.setService execution.service new with nextId } (next :: tasks) := by
  have holds := sound.holds _ List.mem_cons_self
  obtain ⟨same, isThere, version⟩ := holds.named execution rfl
  cases Option.some.inj (found.symm.trans isThere)
  have isUse : next.use = some ⟨execution.service, number, execution.version⟩ := by
    rcases isNext with ⟨rfl, -⟩ | rfl <;> rfl
  have serves := @serves_setService _ _ _ new found (by rw [isNew]) (by rw [isNew]; exact id) _
    (Admits.refl state) _ (fun _ => .inl) _ later sound.exclusion
  have at_service : ({ state.setService execution.service new with nextId } : State).services
      execution.service = some new := Function.update_self ..
  refine @Sound.serves _ _ _ _ _ [next] _ _ _ sound serves ?_ ?_ (List.forall_mem_nil _) ?_
    (List.forall_mem_singleton.mpr ?_) (List.forall_mem_singleton.mpr ?_)
    (List.forall_mem_singleton.mpr ?_)
  · intro isLocked
    cases unlocked.symm.trans isLocked
  · intro registered other isSession
    rw [isNew] at registered isSession
    cases isSession
    rcases isNext with ⟨rfl, same, -⟩ | rfl
    · exact .inr ⟨List.not_mem_nil, registered, same registered⟩
    · refine .inl (.inr (.inr ?_))
      exact one_le_tally List.mem_cons_self (List.mem_singleton_self _)
  · intro other
    rw [tally_cons, tally_nil, locks_eq_of_use isUse, unlocked, isNew]
    by_cases same : other = execution.service
    · simp [same, Task.locks]
    · simp [same, Ne.symm same, Task.locks]
  · rcases isNext with ⟨rfl, -⟩ | rfl <;> rfl
  · refine .of_uncalled ?_ ?_ ?_ ?_ ?_ ?_ ?_
    · rcases isNext with ⟨rfl, -⟩ | rfl <;> rfl
    · rcases isNext with ⟨rfl, -⟩ | rfl <;> rfl
    · rcases isNext with ⟨rfl, -⟩ | rfl <;> rfl
    · rcases isNext with ⟨rfl, -⟩ | rfl
      · exact holds.suits
      · exact holds.suits
    · intro other isExecution
      have sameExecution : other = execution := by
        rcases isNext with ⟨rfl, -⟩ | rfl <;> exact (Option.some.inj isExecution).symm
      rw [sameExecution]
      exact ⟨new, at_service, by rw [isNew]; exact version⟩
    · intro use isIts
      cases Option.some.inj (isUse.symm.trans isIts)
      refine ⟨new, at_service, ?_, ?_⟩
      · rw [isNew]
      · rw [isNew]
        exact version
    · intro use completes
      rcases isNext with ⟨rfl, -, shared⟩ | rfl
      · cases goal with
        | completes reservation =>
            cases completes
            exact .inr (version ▸ shared reservation rfl)
        | reserves nowEpoch | claims reservation => cases completes
      · cases completes
  · intro use isPast
    rcases isNext with ⟨rfl, -⟩ | rfl <;> cases isPast

theorem Sound.connect
    {execution : Execution}
    {goal : Goal}
    (sound : Sound carrier state (.waiting execution goal :: tasks))
    {outcome : State × List Task}
    (taken : connect state execution goal = some outcome)
    (inTime : startsLate state (.waiting execution goal) = false ∨ outcome.2 = []) :
    Sound carrier outcome.1 (outcome.2 ++ tasks) := by
  unfold PostgresKeys.connect at taken
  split at taken
  · cases Option.some.inj taken
    exact sound.quits (.refl _ _) ⟨rfl, rfl⟩
  · next service found =>
      -- A service that completes is not being closed.
      have completing
          (starts : outcome.2 ≠ [])
          (reservation : CryptoReservation)
          (isGoal : goal = .completes reservation) : service.registered = true := by
        have registered := inTime.resolve_right starts
        rw [isGoal, startsLate, found] at registered
        simpa using registered
      split at taken
      · cases taken
      · next unlocked =>
          have unlocked := Bool.eq_false_of_not_eq_true unlocked
          have noLocks : tally Task.locks (Task.waiting execution goal :: tasks)
              execution.service = 0 := by
            rw [sound.locked, found]
            exact congrArg Bool.toNat unlocked
          have noValidates := Nat.le_zero.mp
            (noLocks ▸ validates_sub_locks execution.service (.waiting execution goal :: tasks))
          split at taken
          · next number usable =>
              obtain ⟨session, alive⟩ := Option.filter_eq_some_iff.mp usable
              cases Option.some.inj taken
              refine sound.opens found unlocked (by rw [← session]) (Nat.le_refl _)
                (.inl ⟨rfl, fun _ => session, fun reservation isGoal => ?_⟩)
              rcases sound.attested _ service found
                (completing (List.cons_ne_nil _ _) reservation isGoal) number session with
                lost | shared | validates
              · exact absurd lost (of_decide_eq_true alive)
              · exact shared
              · omega
          · split at taken
            · cases Option.some.inj taken
              exact sound.quits (.refl _ _) ⟨rfl, rfl⟩
            · cases Option.some.inj taken
              split
              · exact sound.opens found unlocked rfl (Nat.le_succ _) (.inr rfl)
              · next unregistered =>
                  refine sound.opens found unlocked rfl (Nat.le_succ _)
                    (.inl ⟨rfl, fun registered => absurd registered unregistered, ?_⟩)
                  intro reservation isGoal
                  exact absurd (completing (List.cons_ne_nil _ _) reservation isGoal)
                    unregistered

theorem Sound.validate
    {execution : Execution}
    {goal : Goal}
    {number : Nat}
    (sound : Sound carrier state (.validating execution goal number :: tasks))
    {outcome : State × List Task}
    (taken : validate carrier state execution goal number = some outcome) :
    Sound carrier outcome.1 (outcome.2 ++ tasks) := by
  have suits := (sound.holds _ List.mem_cons_self).suits
  unfold PostgresKeys.validate at taken
  split at taken
  · next free =>
      cases Option.some.inj taken
      refine @Sound.shares _ _ _ _ _ ⟨execution.service, number, execution.version⟩ sound free rfl
        rfl ⟨rfl, rfl, rfl⟩ rfl rfl ?_ suits
      cases goal with
      | completes reservation => exact .inr rfl
      | reserves nowEpoch | claims reservation => exact .inl rfl
  · cases taken

theorem Sound.attest
    {keyring : IdempotencyKeyring}
    {service : Nat}
    (sound : Sound carrier state (.attesting keyring service :: tasks))
    (free : state.exclusive (carrier keyring.activeVersion) = none) :
    Sound carrier (state.share (carrier keyring.activeVersion) (.service service 0))
      (.registering keyring service :: tasks) :=
  @Sound.shares _ _ _ _ _ ⟨service, 0, keyring.activeVersion⟩ sound free rfl rfl
    ⟨rfl, rfl, rfl⟩ rfl rfl (.inl rfl) trivial

/-! ## Services -/

/-- A service that is given up while it has its connection. -/
theorem Sound.shuts
    {use : Use}
    (sound : Sound carrier state (task :: tasks))
    (isUse : task.use = some use) : Sound carrier (state.shut use.service) tasks :=
  @Sound.frees _ state _ _ [] sound _ isUse
    (fun service => { service with locked := false, session := none, closed := true })
    (fun _ => ⟨rfl, rfl, rfl, .inl rfl⟩) _ (Admits.refl state) _ (fun _ => .inl)
    (List.forall_mem_nil _)

theorem Sound.register
    {keyring : IdempotencyKeyring}
    {service : Nat}
    (sound : Sound carrier state (.registering keyring service :: tasks)) :
    Sound carrier (register state keyring service) tasks := by
  unfold PostgresKeys.register
  split
  · exact @Sound.shuts _ _ _ _ _ sound rfl
  · next tables registers =>
      exact @Sound.frees _ state _ _ [] sound _ rfl _ (fun service => unlock_changes service rfl)
        _ (registerKeyring_spares registers).admits _ (fun _ => .inl) (List.forall_mem_nil _)

/-- A failed task of a service gives its connection back, or gives it up. -/
theorem Sound.abandonUse
    {use : Use}
    (sound : Sound carrier state (task :: tasks))
    (isUse : task.use = some use) : Sound carrier (abandon state task) tasks := by
  cases task with
  | attesting keyring service | registering keyring service =>
      exact @Sound.shuts _ _ _ _ _ sound rfl
  | validating execution goal number =>
      exact @Sound.frees _ state _ _ [] sound _ rfl
        (fun service => { service with locked := false, session := none })
        (fun _ => ⟨rfl, rfl, rfl, .inl rfl⟩) _ (Admits.refl state) _ (fun _ => .inl)
        (List.forall_mem_nil _)
  | transacting execution goal number | storing execution reservation number
  | committing execution record number =>
      exact @Sound.unlocks _ _ _ _ [] sound _ rfl rfl (List.forall_mem_nil _)
  | _ => cases isUse

theorem Sound.construct
    {keyring : IdempotencyKeyring}
    (sound : Sound carrier state (.constructing keyring :: tasks)) :
    Sound carrier (PostgresKeys.construct state keyring).1 ((PostgresKeys.construct state keyring).2 ++ tasks) := by
  have unborn := sound.unborn state.nextId (Nat.le_refl _)
  have elsewhere {id : Nat} (different : id ≠ state.nextId) :
      (PostgresKeys.construct state keyring).1.services id = state.services id :=
    Function.update_of_ne different ..
  have at_new : (PostgresKeys.construct state keyring).1.services state.nextId =
      some { version := keyring.activeVersion, session := some 0, locked := true } :=
    Function.update_self ..
  have moves : Moves (.constructing keyring) state (PostgresKeys.construct state keyring).1 := by
    refine ⟨fun _ => id, fun _ _ shares => .inr (.inl shares), fun _ _ _ => .inr,
      fun _ _ _ held => .inr ⟨held, rfl⟩, ?_, fun _ => id, fun _ => id, fun _ _ => .inl⟩
    intro id service found
    have different : id ≠ state.nextId := by
      rintro rfl
      cases unborn.symm.trans found
    exact ⟨service, (elsewhere different).trans found, rfl, fun same => same, fun _ _ => rfl⟩
  refine @Sound.next _ _ _ _ _ [.attesting keyring state.nextId] sound moves sound.exclusion ?_ ?_
    (Nat.le_succ _) ?_ (fun _ => Nat.zero_le _) (List.forall_mem_singleton.mpr ?_)
    (List.forall_mem_singleton.mpr ?_) (List.forall_mem_singleton.mpr ?_) ?_ ?_
    sound.insertions sound.removals
  · intro id service found registered number session
    by_cases same : id = state.nextId
    · subst same
      exact .inl (.inr (.inr (one_le_tally List.mem_cons_self (List.mem_singleton_self _))))
    · exact .inr ⟨List.not_mem_nil, service, (elsewhere same).symm.trans found, registered,
        session, rfl⟩
  · intro id
    by_cases same : id = state.nextId
    · subst same
      rw [at_new, unborn]
      simp [Task.locks]
    · rw [elsewhere same]
      simp [Task.locks, Ne.symm same]
  · intro id isNew
    have different : id ≠ state.nextId := (lt_of_lt_of_le (Nat.lt_succ_self _) isNew).ne'
    rw [elsewhere different]
    exact sound.unborn id (le_trans (Nat.le_succ _) isNew)
  · exact List.forall_mem_nil _
  · refine .of_uncalled rfl rfl rfl trivial ?_ ?_ ?_
    · intro execution isExecution
      cases isExecution
    · intro use isUse
      cases isUse
      exact ⟨_, at_new, rfl, rfl⟩
    · intro use completes
      cases completes
  · intro use isPast
    cases isPast
  · rintro version (drained | ⟨other, isOther, call, nowEpoch, isCall, -⟩)
    · exact .inl (.inl drained)
    · cases List.mem_singleton.mp isOther
      cases isCall
  · exact fun _ => .inl

/-- A step of a service that completes nothing more. -/
theorem Sound.rests
    {id : Nat}
    {old new : Service}
    (sound : Sound carrier state (task :: tasks))
    (serves : Serves state after id old new)
    (locks : task.locks = [] ∧ task.validates = [])
    (used : old.locked = true → new.session = old.session)
    (locked : new.locked = old.locked)
    (rests : new.registered = false ∨ new.session = none)
    (loose : ∀ other ∈ rest, other.call = none ∧ other.locks = [] ∧ other.past = none ∧
      other.Holds carrier after) : Sound carrier after (rest ++ tasks) := by
  have noLocks (other : Nat) : tally Task.locks rest other = 0 := by
    refine List.count_eq_zero.mpr fun isLocked => ?_
    obtain ⟨task', isTask, isIts⟩ := List.mem_flatMap.mp isLocked
    rw [(loose task' isTask).2.1] at isIts
    cases isIts
  refine sound.serves serves (fun isLocked _ => used isLocked) ?_ ?_ ?_
    (fun other isOther => (loose other isOther).1)
    (fun other isOther => (loose other isOther).2.2.2) ?_
  · intro registered number session
    rcases rests with unregistered | none
    · cases unregistered.symm.trans registered
    · cases none.symm.trans session
  · rw [locks.2]
    exact List.forall_mem_nil _
  · intro other
    rw [noLocks, locks.1, locked, List.count_nil]
  · intro other isOther use isPast
    cases (loose other isOther).2.2.1.symm.trans isPast

theorem Sound.unregister
    {id : Nat}
    (sound : Sound carrier state (.closing id :: tasks)) :
    Sound carrier (unregister state id).1 ((unregister state id).2 ++ tasks) := by
  unfold PostgresKeys.unregister
  split
  · exact sound.quits (.refl _ _) ⟨rfl, rfl⟩
  · next service found =>
      have serves := @serves_setService _ _ _ { service with registered := false } found rfl
        (fun _ => rfl) _ (Admits.refl state) _ (fun _ => .inl) _ (Nat.le_refl _) sound.exclusion
      refine @Sound.rests _ _ _ _ _ [.releasing id] _ _ _ sound serves ⟨rfl, rfl⟩ (fun _ => rfl)
        rfl (.inl rfl) (List.forall_mem_singleton.mpr ⟨rfl, rfl, rfl, ?_⟩)
      exact
        { suits := trivial
          named := fun _ isExecution => by cases isExecution
          connected := fun _ isUse => by cases isUse
          shared := fun _ completes => by cases completes
          unregistered := fun other isReleased => by
            cases isReleased
            exact ⟨_, Function.update_self .., rfl⟩
          guards := fun _ isCall => by cases isCall
          rows := fun _ isCall => by cases isCall
          bare := fun _ _ _ isCall => by cases isCall }

theorem Sound.release
    {id : Nat}
    (sound : Sound carrier state (.releasing id :: tasks))
    {outcome : State × List Task}
    (taken : release state id = some outcome) :
    Sound carrier outcome.1 (outcome.2 ++ tasks) := by
  obtain ⟨same, isThere, unregistered⟩ :=
    (sound.holds _ List.mem_cons_self).unregistered id rfl
  unfold PostgresKeys.release at taken
  rw [isThere] at taken
  dsimp only at taken
  split at taken
  · cases taken
  · next unlocked =>
      have unlocked := Bool.eq_false_of_not_eq_true unlocked
      have loose (after : State) : (Task.disconnecting id).Holds carrier after :=
        (loose_disconnecting id).holds trivial fun _ isExecution => by cases isExecution
      cases Option.some.inj taken
      cases same.session with
      | none => exact sound.loosens (.refl _ _) ⟨rfl, rfl⟩ (loose_disconnecting id) (loose _)
      | some number =>
          have serves := @serves_self state id same isThere
            (state.unshare (.service id number)).shared
            (fun key session shares => by
              by_cases isIts : session = .service id number
              · exact .inr ⟨⟨number, isIts⟩, unlocked, unregistered⟩
              · exact .inl (List.mem_filter.mpr ⟨shares, decide_eq_true isIts⟩))
            (fun key holder held => by
              dsimp only [State.unshare]
              rw [sound.exclusion key holder held]
              rfl)
          exact @Sound.rests _ _ _ _ _ [.disconnecting id] _ _ _ sound serves ⟨rfl, rfl⟩
            (fun _ => rfl) rfl (.inl unregistered)
            (List.forall_mem_singleton.mpr ⟨rfl, rfl, rfl, loose _⟩)

theorem Sound.disconnect
    {id : Nat}
    (sound : Sound carrier state (.disconnecting id :: tasks))
    {outcome : State × List Task}
    (taken : disconnect state id = some outcome) :
    Sound carrier outcome.1 (outcome.2 ++ tasks) := by
  unfold PostgresKeys.disconnect at taken
  split at taken
  · cases Option.some.inj taken
    exact sound.quits (.refl _ _) ⟨rfl, rfl⟩
  · next service found =>
      split at taken
      · cases taken
      · next unlocked =>
          have unlocked := Bool.eq_false_of_not_eq_true unlocked
          cases Option.some.inj taken
          have serves := @serves_setService _ _ _
            { service with locked := false, session := none, closed := true } found rfl
            (fun same => same) _ (Admits.refl state) _ (fun _ => .inl) _ (Nat.le_refl _)
            sound.exclusion
          rw [State.shut, modifyService_of_found found]
          refine @Sound.rests _ _ _ _ _ [] _ _ _ sound serves ⟨rfl, rfl⟩ ?_ unlocked.symm
            (.inr rfl) (List.forall_mem_nil _)
          intro isLocked
          cases unlocked.symm.trans isLocked

end Services

end PostgresKeys
end Vinctor
