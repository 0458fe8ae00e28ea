import Vinctor.Service.PostgresReadinessSafety

/-!
# Runs of the readiness probe

Every step of a call, of a sweep and of a close keeps the ownership of the connections and
the records of the cancels, so both hold after every interleaving.
-/

namespace Vinctor
namespace PostgresReadiness

open Foundation

structure Sound (state : State) (tasks : List Task) : Prop where
  owned : Owned state tasks
  tracked : Tracked state tasks
  exclusive : Exclusive state tasks
  reported : Reported state tasks

theorem Sound.perm
    {state : State}
    {tasks others : List Task}
    (permuted : tasks.Perm others)
    (sound : Sound state tasks) : Sound state others where
  owned := sound.owned.perm permuted
  tracked := sound.tracked.perm permuted
  exclusive := sound.exclusive.perm permuted
  reported := sound.reported.perm permuted

theorem sound_initial (timeout : Int) : Sound { timeout } [] where
  owned := ⟨fun _ => by simp [State.parked], nofun⟩
  tracked := ⟨fun _ => Nat.zero_le 1, fun _ _ => ⟨rfl, rfl⟩, fun _ => rfl, nofun, nofun⟩
  exclusive := fun _ _ marked => by cases marked.1
  reported := ⟨nofun, nofun, nofun⟩

/-! ## Tasks that carry nothing -/

/-- Nothing of the invariant is about such a thread. -/
structure Task.Bare (task : Task) : Prop where
  holds : task.holds = []
  calls : task.calls = []
  runs : task.runs = []
  uses : task.uses = []
  agrees : ∀ calls, task.Agrees calls
  notConfirming : ∀ expired call targets, task ≠ .confirming expired call targets

theorem bare_calling : Task.Bare .calling := ⟨rfl, rfl, rfl, rfl, fun _ => trivial, nofun⟩
theorem bare_cancelling : Task.Bare .cancelling := ⟨rfl, rfl, rfl, rfl, fun _ => trivial, nofun⟩
theorem bare_closing : Task.Bare .closing := ⟨rfl, rfl, rfl, rfl, fun _ => trivial, nofun⟩

theorem bare_serving (call : Nat) : Task.Bare (.serving call) :=
  ⟨rfl, rfl, rfl, rfl, fun _ => trivial, nofun⟩

theorem bare_sweeping (expired : Int) : Task.Bare (.sweeping expired) :=
  ⟨rfl, rfl, rfl, rfl, fun _ => trivial, nofun⟩

theorem Entry.bare (entry : Entry) : entry.task.Bare := by
  cases entry with
  | call => exact bare_calling
  | cancel => exact bare_cancelling
  | close => exact bare_closing

/-- A thread that carries nothing may appear. -/
theorem Sound.add
    {state : State}
    {task : Task}
    {tasks : List Task}
    (bare : task.Bare)
    (sound : Sound state tasks) : Sound state (task :: tasks) := by
  have noHolds (connection : Nat) :
      tally Task.holds (task :: tasks) connection = tally Task.holds tasks connection := by
    simp [bare.holds]
  have noCalls (call : Nat) :
      tally Task.calls (task :: tasks) call = tally Task.calls tasks call := by
    simp [bare.calls]
  have noRuns (call : Nat) :
      tally Task.runs (task :: tasks) call = tally Task.runs tasks call := by
    simp [bare.runs]
  refine ⟨⟨fun connection => ?_, sound.owned.emptied⟩,
    ⟨fun call => ?_, fun call isNew => ?_, fun call => ?_, ?_, sound.tracked.bounded⟩,
    fun call connection marked => ?_,
    ⟨sound.reported.sent, sound.reported.cancelled, fun expired call targets isTask => ?_⟩⟩
  · rw [noHolds]
    exact sound.owned.once connection
  · rw [noCalls]
    exact sound.tracked.numbered call
  · rw [noCalls]
    exact sound.tracked.unborn call isNew
  · rw [noRuns]
    exact sound.tracked.active call
  · exact List.forall_mem_cons.mpr ⟨bare.agrees _, sound.tracked.agrees⟩
  · obtain ⟨notIdle, alone⟩ := sound.exclusive call connection marked
    refine ⟨notIdle, List.forall_mem_cons.mpr ⟨fun other uses => ?_, alone⟩⟩
    rw [bare.uses] at uses
    cases uses
  · rcases List.mem_cons.mp isTask with isBare | isOld
    · exact absurd isBare.symm (bare.notConfirming expired call targets)
    · exact sound.reported.confirming expired call targets isOld

/-- An answer changes nothing else. -/
theorem Sound.answer
    {state : State}
    {tasks : List Task}
    (sound : Sound state tasks)
    (call : Nat)
    (ready : Bool) : Sound (state.answer call ready) tasks where
  owned := ⟨sound.owned.once, sound.owned.emptied⟩
  tracked := ⟨sound.tracked.numbered, sound.tracked.unborn, sound.tracked.active,
    sound.tracked.agrees, sound.tracked.bounded⟩
  exclusive := sound.exclusive
  reported := ⟨sound.reported.sent, sound.reported.cancelled, sound.reported.confirming⟩

theorem Sound.judge
    {state : State}
    {tasks : List Task}
    (sound : Sound state tasks)
    (call : Nat)
    (ready : Bool) : Sound (state.judge call ready).1 ((state.judge call ready).2 ++ tasks) := by
  unfold State.judge
  split
  · exact sound.add (bare_serving call)
  · exact sound.answer call false

/-! ## Steps -/

section Steps

variable {state after : State} {task : Task} {tasks rest : List Task}

theorem Keeps.marked
    {own : List Nat}
    {before after : Nat → ReadinessCall}
    (keeps : Keeps own before after)
    {call connection : Nat}
    (marked : Marked before call connection) : Marked after call connection := by
  obtain ⟨still, -, attempts⟩ := keeps.connected call connection marked.2
  exact ⟨attempts marked.1, still⟩

/-- What one step does to the record of the cancels. -/
theorem Reported.next
    {own : List Nat}
    (reported : Reported state (task :: tasks))
    (keeps : Keeps own state.calls after.calls)
    (kept : ∀ cancel ∈ state.cancels, cancel ∈ after.cancels)
    (sent : ∀ cancel ∈ after.cancels, cancel ∈ state.cancels ∨
      (Marked state.calls cancel.call cancel.connection ∧
        ∀ expired, cancel.expired = some expired →
          (state.calls cancel.call).started ≤ expired))
    (cancelled : ∀ call, (after.calls call).cancelled = true →
      (state.calls call).cancelled = true ∨
        ∃ cancel ∈ state.cancels, cancel.call = call ∧ cancel.delivered = true)
    (confirming : ∀ expired call targets, .confirming expired call targets ∈ rest →
      ∃ cancel ∈ after.cancels, cancel.call = call ∧ cancel.delivered = true) :
    Reported after (rest ++ tasks) where
  sent cancel isSent := by
    obtain ⟨marked, expires⟩ := (sent cancel isSent).elim (reported.sent cancel) id
    obtain ⟨-, started, -⟩ := keeps.connected _ _ marked.2
    exact ⟨keeps.marked marked, fun expired isExpired => started ▸ expires expired isExpired⟩
  cancelled call isCancelled := by
    rcases cancelled call isCancelled with was | ⟨cancel, isSent, ofCall⟩
    · obtain ⟨cancel, isSent, ofCall⟩ := reported.cancelled call was
      exact ⟨cancel, kept cancel isSent, ofCall⟩
    · exact ⟨cancel, kept cancel isSent, ofCall⟩
  confirming expired call targets isTask := by
    rcases List.mem_append.mp isTask with isNew | isOld
    · exact confirming expired call targets isNew
    · obtain ⟨cancel, isSent, ofCall⟩ :=
        reported.confirming expired call targets (List.mem_cons_of_mem _ isOld)
      exact ⟨cancel, kept cancel isSent, ofCall⟩

/-- A thread goes on with what it has. -/
theorem Sound.goOn
    (sound : Sound state (task :: tasks))
    (holds : ∀ connection, tally Task.holds rest connection = task.holds.count connection)
    (calls : ∀ call, tally Task.calls rest call ≤ task.calls.count call)
    (runs : ∀ call, tally Task.runs rest call = task.runs.count call)
    (agrees : ∀ other ∈ rest, other.Agrees state.calls)
    (uses : ∀ other ∈ rest, ∀ used ∈ other.uses, used ∈ task.uses)
    (confirming : ∀ expired call targets, .confirming expired call targets ∉ rest) :
    Sound state (rest ++ tasks) where
  owned := sound.owned.next (fun connection => by rw [holds]) sound.owned.emptied
  tracked := sound.tracked.next (Keeps.refl _ _) rfl calls (fun call => by rw [runs]) agrees
    sound.tracked.bounded
  exclusive := sound.exclusive.next (fun _ _ marked => marked) (fun _ => .inl)
    fun other isNew call connection used => .inl (uses other isNew (call, connection) used)
  reported := sound.reported.next (Keeps.refl [] _) (fun _ => id) (fun _ => .inl)
    (fun _ => .inl) fun expired call targets isNew =>
      absurd isNew (confirming expired call targets)

/-- A thread that has nothing may end. -/
theorem Sound.drop
    (sound : Sound state (task :: tasks))
    (holds : task.holds = [])
    (runs : task.runs = []) : Sound state tasks := by
  have dropped : Sound state ([] ++ tasks) :=
    sound.goOn (fun _ => by rw [holds]; rfl) (fun _ => Nat.zero_le _)
      (fun _ => by rw [runs]; rfl) nofun nofun nofun
  exact dropped

/-- A record with a new number. -/
theorem Sound.stamp
    (sound : Sound state tasks)
    (isReady : Bool)
    (now : Int) : Sound (state.stamp isReady now).1 ((state.stamp isReady now).2 ++ tasks) := by
  obtain ⟨noTask, noConnection⟩ := sound.tracked.unborn state.nextCall (Nat.le_refl _)
  unfold State.stamp
  split
  · have keeps : Keeps [state.nextCall] state.calls
        (Function.update state.calls state.nextCall { started := now }) := by
      refine ⟨fun call connection connected => ?_, fun call foreign _ => ?_⟩
      · have different : call ≠ state.nextCall := by
          rintro rfl
          cases connected.symm.trans noConnection
        rw [Function.update_of_ne different]
        exact ⟨connected, rfl, id⟩
      · exact Function.update_of_ne (fun same => foreign (List.mem_singleton.mpr same)) ..
    refine ⟨⟨fun connection => sound.owned.once connection, sound.owned.emptied⟩,
      ⟨fun call => ?_, fun call isNew => ?_, fun call => ?_, ?_, fun call connection => ?_⟩,
      fun call connection marked => ?_, ⟨fun cancel isSent => ?_, fun call isCancelled => ?_, ?_⟩⟩
    · have := sound.tracked.numbered call
      rw [List.singleton_append, tally_cons]
      by_cases same : call = state.nextCall
      · subst same
        simp [noTask, Task.calls]
      · simpa [Task.calls, Ne.symm same] using this
    · have isNew : state.nextCall + 1 ≤ call := isNew
      obtain ⟨noOther, noConnection⟩ := sound.tracked.unborn call (by omega)
      have different : call ≠ state.nextCall := by omega
      refine ⟨?_, (congrArg _ (Function.update_of_ne different ..)).trans noConnection⟩
      simpa [Task.calls, Ne.symm different] using noOther
    · rw [List.singleton_append, tally_cons]
      exact (sound.tracked.active call).trans (Nat.zero_add _).symm
    · refine List.forall_mem_cons.mpr ⟨?_, fun other isOld => ?_⟩
      · simp [Task.Agrees, State.updateCall]
      · refine keeps.agrees (fun call own isNew => ?_) (sound.tracked.agrees other isOld)
        cases List.mem_singleton.mp isNew
        have : 1 ≤ tally Task.calls tasks state.nextCall := one_le_tally isOld own
        omega
    · intro connected
      by_cases same : call = state.nextCall
      · simp [State.updateCall, same] at connected
      · refine sound.tracked.bounded call connection ?_
        simpa [State.updateCall, Function.update_of_ne same] using connected
    · have different : call ≠ state.nextCall := by
        rintro rfl
        simp [Marked, State.updateCall] at marked
      have wasMarked : Marked state.calls call connection := by
        simpa [Marked, State.updateCall, Function.update_of_ne different] using marked
      obtain ⟨notIdle, alone⟩ := sound.exclusive call connection wasMarked
      exact ⟨notIdle, List.forall_mem_cons.mpr ⟨nofun, alone⟩⟩
    · obtain ⟨marked, expires⟩ := sound.reported.sent cancel isSent
      obtain ⟨-, started, -⟩ := keeps.connected _ _ marked.2
      exact ⟨keeps.marked marked, fun expired isExpired => started ▸ expires expired isExpired⟩
    · have different : call ≠ state.nextCall := by
        rintro rfl
        simp [State.updateCall] at isCancelled
      refine sound.reported.cancelled call ?_
      simpa [State.updateCall, Function.update_of_ne different] using isCancelled
    · intro expired call targets isTask
      rcases List.mem_cons.mp isTask with isNew | isOld
      · cases isNew
      · exact sound.reported.confirming expired call targets isOld
  · have numbered : Sound { state with nextCall := state.nextCall + 1 } tasks :=
      ⟨⟨sound.owned.once, sound.owned.emptied⟩,
        ⟨sound.tracked.numbered,
          fun call isNew => sound.tracked.unborn call (Nat.le_of_succ_le isNew),
          sound.tracked.active, sound.tracked.agrees, sound.tracked.bounded⟩,
        sound.exclusive,
        ⟨sound.reported.sent, sound.reported.cancelled, sound.reported.confirming⟩⟩
    exact numbered.answer state.nextCall false

/-- The record of a call without a connection gets one. -/
theorem keeps_connection
    {calls : Nat → ReadinessCall}
    {call : Nat}
    (unconnected : (calls call).connection = none)
    (connection : Option Nat) :
    Keeps [call] calls
      (Function.update calls call { calls call with connection := connection }) := by
  refine ⟨fun other held connected => ?_, fun other foreign _ => ?_⟩
  · have different : other ≠ call := by
      rintro rfl
      cases connected.symm.trans unconnected
    rw [Function.update_of_ne different]
    exact ⟨connected, rfl, id⟩
  · exact Function.update_of_ne (fun same => foreign (List.mem_singleton.mpr same)) ..

/-- No cancel is marked by that. -/
theorem marked_of_connection
    {calls : Nat → ReadinessCall}
    {call : Nat}
    (unmarked : (calls call).cancelAttempted = false)
    {connection : Option Nat}
    {other number : Nat}
    (marked : Marked (Function.update calls call { calls call with connection := connection })
      other number) : Marked calls other number := by
  by_cases same : other = call
  · subst same
    rw [Marked, Function.update_self] at marked
    cases unmarked.symm.trans marked.1
  · rwa [Marked, Function.update_of_ne same] at marked

theorem cancelled_of_connection
    {calls : Nat → ReadinessCall}
    {call other : Nat}
    {connection : Option Nat}
    (cancelled : (Function.update calls call { calls call with connection := connection }
      other).cancelled = true) : (calls other).cancelled = true := by
  by_cases same : other = call
  · subst same
    rwa [Function.update_self] at cancelled
  · rwa [Function.update_of_ne same] at cancelled

theorem Sound.enter
    {call : Nat}
    (sound : Sound state (.entering call :: tasks)) :
    Sound (state.enter call).1 ((state.enter call).2 ++ tasks) := by
  obtain ⟨unconnected, unmarked⟩ := sound.tracked.agrees (.entering call) (List.mem_cons_self ..)
  unfold State.enter
  split
  · exact (sound.drop rfl rfl).answer call false
  -- what is left to do once the connection is out of the slot
  have entered (rest : List Task)
      (holds : ∀ connection, tally Task.holds rest connection = state.parked connection)
      (calls : ∀ other, tally Task.calls rest other ≤ List.count other [call])
      (runs : ∀ other, tally Task.runs rest other = List.count other [call])
      (agrees : ∀ other ∈ rest, other.Agrees (Function.update state.calls call
        { state.calls call with connection := state.connection }))
      (uses : ∀ other ∈ rest, ∀ user connection, (user, connection) ∈ other.uses →
        state.connection = some connection)
      (confirming : ∀ expired other targets, .confirming expired other targets ∉ rest) :
      Sound { State.updateCall { state with connection := none } call fun record =>
          { record with connection := state.connection } with
        active := state.active ++ [call] } (rest ++ tasks) := by
    have keeps := keeps_connection unconnected state.connection
    refine ⟨sound.owned.next (fun connection => ?_) fun _ => rfl,
      sound.tracked.next keeps rfl calls (fun other => ?_) agrees fun other connection => ?_,
      sound.exclusive.next (fun _ _ => marked_of_connection unmarked) nofun
        fun other isNew user connection used => .inr fun marked wasMarked =>
          (sound.exclusive marked connection wasMarked).1 (uses other isNew user connection used),
      sound.reported.next keeps (fun _ => id) (fun _ => .inl)
        (fun _ cancelled => .inl (cancelled_of_connection cancelled))
        fun expired other targets isNew => absurd isNew (confirming expired other targets)⟩
    · have emptied : ([] : List Nat).count connection = 0 := rfl
      rw [holds connection]
      change ([] : List Nat).count connection + state.parked connection +
          state.closings.count connection + (if connection < state.nextConnection then 1 else 0) =
        state.parked connection + ([] : List Nat).count connection +
          state.closings.count connection + if connection < state.nextConnection then 1 else 0
      omega
    · rw [runs other, List.count_append]
      rfl
    · intro connected
      by_cases same : other = call
      · have isIdle : state.connection = some connection := by
          simpa [State.updateCall, same] using connected
        have once := sound.owned.once connection
        have parked : state.parked connection = 1 := by simp [State.parked, isIdle]
        by_contra tooLarge
        have isNew : ¬ connection < state.nextConnection := tooLarge
        rw [if_neg isNew] at once
        omega
      · refine sound.tracked.bounded other connection ?_
        simpa [State.updateCall, Function.update_of_ne same] using connected
  cases isIdle : state.connection with
  | none =>
      rw [isIdle] at entered
      refine entered [.connecting call] (fun connection => ?_) (fun _ => Nat.le_refl _)
        (fun _ => rfl) ?_ ?_ ?_
      · simp [State.parked, isIdle, tally, Task.holds]
      · simpa [Task.Agrees] using unmarked
      · simp [Task.uses]
      · simp
  | some connection =>
      rw [isIdle] at entered
      refine entered [.checking call connection] (fun other => ?_) (fun _ => Nat.le_refl _)
        (fun _ => rfl) ?_ ?_ ?_
      · simp [State.parked, isIdle, tally, Task.holds]
      · simp [Task.Agrees]
      · simp [Task.uses]
      · simp

/-- A new connection is nobody else's. -/
theorem Sound.connect
    {call : Nat}
    (sound : Sound state (.connecting call :: tasks)) :
    Sound (state.connect call).1 ((state.connect call).2 ++ tasks) := by
  obtain ⟨unconnected, unmarked⟩ := sound.tracked.agrees (.connecting call) (List.mem_cons_self ..)
  have keeps := keeps_connection unconnected (some state.nextConnection)
  refine ⟨sound.owned.next (fun connection => ?_) sound.owned.emptied,
    sound.tracked.next keeps rfl (fun _ => Nat.le_refl _) (fun _ => rfl) ?_
      fun other connection => ?_,
    sound.exclusive.next (fun _ _ => marked_of_connection unmarked) (fun _ => .inl) ?_,
    sound.reported.next keeps (fun _ => id) (fun _ => .inl)
      (fun _ cancelled => .inl (cancelled_of_connection cancelled)) (by simp [State.connect])⟩
  · have parked : (state.connect call).1.parked connection = state.parked connection := rfl
    have closings : (state.connect call).1.closings = state.closings := rfl
    have nextConnection : (state.connect call).1.nextConnection = state.nextConnection + 1 := rfl
    rw [parked, closings, nextConnection]
    simp only [State.connect, tally_cons, tally_nil, Task.holds, List.count_singleton,
      List.count_nil, beq_iff_eq]
    rcases Nat.lt_trichotomy connection state.nextConnection with isOld | isNew | later
    · rw [if_neg (Nat.ne_of_gt isOld), if_pos isOld, if_pos (Nat.lt_succ_of_lt isOld)]
    · rw [if_pos isNew.symm, if_neg (Nat.not_lt.mpr (Nat.le_of_eq isNew.symm)),
        if_pos (Nat.lt_succ_of_le (Nat.le_of_eq isNew))]
      omega
    · rw [if_neg (Nat.ne_of_lt later), if_neg (Nat.not_lt.mpr (Nat.le_of_lt later)),
        if_neg (Nat.not_lt.mpr later)]
  · simp [State.connect, State.updateCall, Task.Agrees]
  · intro connected
    by_cases same : other = call
    · have isNew : state.nextConnection = connection := by
        simpa [State.connect, State.updateCall, same] using connected
      exact isNew ▸ Nat.lt_succ_self _
    · refine Nat.lt_succ_of_lt (sound.tracked.bounded other connection ?_)
      simpa [State.connect, State.updateCall, Function.update_of_ne same] using connected
  · intro other isNew user connection used
    refine .inr fun marked wasMarked => ?_
    cases List.mem_singleton.mp isNew
    cases List.mem_singleton.mp used
    exact absurd (sound.tracked.bounded marked _ wasMarked.2) (Nat.lt_irrefl _)

/-- What one step keeps that touches neither the records of the calls nor the cancels. -/
theorem Sound.move
    (sound : Sound state (task :: tasks))
    (sameCalls : after.calls = state.calls)
    (sameNext : after.nextCall = state.nextCall)
    (sameConnections : after.nextConnection = state.nextConnection)
    (sameCancels : after.cancels = state.cancels)
    (moved : ∀ connection, after.parked connection + tally Task.holds rest connection +
        after.closings.count connection =
      state.parked connection + task.holds.count connection + state.closings.count connection)
    (emptied : after.closed = true → after.connection = none)
    (calls : ∀ call, tally Task.calls rest call ≤ task.calls.count call)
    (active : ∀ call, after.active.count call + task.runs.count call =
      state.active.count call + tally Task.runs rest call)
    (agrees : ∀ other ∈ rest, other.Agrees state.calls)
    (parks : ∀ connection, after.connection = some connection →
      state.connection = some connection ∨
        ∃ call, (call, connection) ∈ task.uses ∧ (state.calls call).cancelAttempted = false)
    (uses : ∀ other ∈ rest, ∀ used ∈ other.uses, used ∈ task.uses)
    (confirming : ∀ expired call targets, .confirming expired call targets ∉ rest) :
    Sound after (rest ++ tasks) where
  owned := sound.owned.next
    (fun connection => by rw [sameConnections]; exact congrArg (· + _) (moved connection)) emptied
  tracked := sound.tracked.next (sameCalls ▸ Keeps.refl _ _) sameNext calls active
    (sameCalls ▸ agrees) (by rw [sameCalls, sameConnections]; exact sound.tracked.bounded)
  exclusive := sound.exclusive.next (by rw [sameCalls]; exact fun _ _ marked => marked) parks
    fun other isNew call connection used => .inl (uses other isNew (call, connection) used)
  reported := by
    have keeps : Keeps [] state.calls after.calls := by
      rw [sameCalls]
      exact Keeps.refl _ _
    exact sound.reported.next keeps (by rw [sameCancels]; exact fun _ => id)
      (by rw [sameCancels]; exact fun _ => .inl) (by rw [sameCalls]; exact fun _ => .inl)
      fun expired call targets isNew => absurd isNew (confirming expired call targets)

/-- A call that left is counted no more. -/
theorem count_filter_active
    (sound : Sound state (task :: tasks))
    {call : Nat}
    (runs : task.runs = [call])
    (other : Nat) :
    (state.active.filter (fun active => active != call)).count other + task.runs.count other =
      state.active.count other := by
  rw [runs]
  by_cases same : other = call
  · subst same
    have active := sound.tracked.active other
    have numbered := sound.tracked.numbered other
    have ran : tally Task.runs (task :: tasks) other = 1 + tally Task.runs tasks other := by
      simp [runs]
    have fewer : tally Task.runs (task :: tasks) other ≤ tally Task.calls (task :: tasks) other :=
      tally_mono (fun task item => by cases task <;> simp [Task.runs, Task.calls]) _ _
    have gone : (state.active.filter fun active => active != other).count other = 0 := by
      rw [List.count_eq_zero]
      intro present
      simpa using (List.mem_filter.mp present).2
    rw [gone, List.count_singleton_self]
    omega
  · rw [List.count_filter (by simpa using same)]
    simp [Ne.symm same]

theorem Sound.checkIn
    {call : Nat}
    {connection : Option Nat}
    {ready reusable : Bool}
    (sound : Sound state (.checkingIn call connection ready reusable :: tasks)) :
    Sound (state.checkIn call connection ready reusable).1
      ((state.checkIn call connection ready reusable).2 ++ tasks) := by
  have recorded := sound.tracked.agrees _ (List.mem_cons_self ..)
  have active (rest : List Task) (noRuns : ∀ other, tally Task.runs rest other = 0) (other : Nat) :
      (state.active.filter (fun active => active != call)).count other +
          (Task.checkingIn call connection ready reusable).runs.count other =
        state.active.count other + tally Task.runs rest other := by
    rw [noRuns, count_filter_active sound rfl other, Nat.add_zero]
  unfold State.checkIn
  dsimp only
  cases connection with
  | none =>
      have left : Sound { state with active := state.active.filter fun other => other != call }
          ([] ++ tasks) :=
        sound.move rfl rfl rfl rfl (fun _ => rfl) sound.owned.emptied (fun _ => Nat.zero_le _)
          (active [] fun _ => rfl) nofun (fun _ => .inl) nofun nofun
      exact Sound.judge left call ready
  | some number =>
      dsimp only
      split
      · next parks =>
          simp only [Bool.and_eq_true, Bool.not_eq_true', Option.isNone_iff_eq_none] at parks
          obtain ⟨⟨⟨-, unmarked⟩, isOpen⟩, vacant⟩ := parks
          have parked : Sound { state with
              active := state.active.filter fun other => other != call
              connection := some number } ([] ++ tasks) := by
            refine sound.move rfl rfl rfl rfl (fun other => ?_) (fun isClosed => ?_)
              (fun _ => Nat.zero_le _) (active [] fun _ => rfl) nofun (fun other isIdle => ?_)
              nofun nofun
            · simp [State.parked, vacant, Task.holds]
            · cases isOpen.symm.trans isClosed
            · cases isIdle
              exact .inr ⟨call, List.mem_singleton_self _, unmarked⟩
          exact Sound.judge parked call ready
      · refine sound.move rfl rfl rfl rfl (fun other => ?_) sound.owned.emptied
          (fun _ => Nat.zero_le _) (active _ fun _ => rfl) ?_ (fun _ => .inl) ?_ (by simp)
        · simp [State.parked, tally, Task.holds]
        · simpa [Task.Agrees] using recorded
        · simp [Task.uses]

theorem count_dispose
    {number : Nat}
    (task : Task)
    (holds : task.holds = [number])
    (connection : Nat) :
    (state.dispose number).parked connection + tally Task.holds [] connection +
        (state.dispose number).closings.count connection =
      state.parked connection + task.holds.count connection +
        state.closings.count connection := by
  have unparked : (state.dispose number).parked connection = state.parked connection := rfl
  have closings : (state.dispose number).closings.count connection =
      state.closings.count connection + List.count connection [number] := List.count_append
  rw [unparked, closings, tally_nil, holds]
  omega

theorem Sound.dispose
    {call connection : Nat}
    {ready : Bool}
    (sound : Sound state (.disposing call connection ready :: tasks)) :
    Sound ((state.dispose connection).judge call ready).1
      (((state.dispose connection).judge call ready).2 ++ tasks) := by
  have disposed : Sound (state.dispose connection) ([] ++ tasks) := by
    refine sound.move rfl rfl rfl rfl (fun other => ?_) sound.owned.emptied
      (fun _ => Nat.zero_le _) (fun _ => rfl) nofun (fun _ => .inl) nofun nofun
    exact count_dispose _ rfl other
  exact Sound.judge disposed call ready

/-! ## Cancels -/

theorem keeps_markAttempted
    {targets : List Nat}
    (connected : ∀ call ∈ targets, (state.calls call).connection.isSome = true)
    (own : List Nat) : Keeps own state.calls (state.markAttempted targets).calls := by
  refine ⟨fun call connection held => ?_, fun call _ unconnected => ?_⟩
  · by_cases isTarget : call ∈ targets
    · simp [State.markAttempted, isTarget, held]
    · have same : (state.markAttempted targets).calls call = state.calls call := if_neg isTarget
      rw [same]
      exact ⟨held, rfl, id⟩
  · refine if_neg fun isTarget => ?_
    have isConnected := connected call isTarget
    rw [unconnected] at isConnected
    cases isConnected

theorem connection_markAttempted (targets : List Nat) (call : Nat) :
    ((state.markAttempted targets).calls call).connection = (state.calls call).connection := by
  by_cases isTarget : call ∈ targets <;> simp [State.markAttempted, isTarget]

theorem started_markAttempted (targets : List Nat) (call : Nat) :
    ((state.markAttempted targets).calls call).started = (state.calls call).started := by
  by_cases isTarget : call ∈ targets <;> simp [State.markAttempted, isTarget]

theorem cancelled_markAttempted (targets : List Nat) (call : Nat) :
    ((state.markAttempted targets).calls call).cancelled = (state.calls call).cancelled := by
  by_cases isTarget : call ∈ targets <;> simp [State.markAttempted, isTarget]

theorem attempted_markAttempted
    {targets : List Nat}
    {call : Nat}
    (isTarget : call ∈ targets) :
    ((state.markAttempted targets).calls call).cancelAttempted = true := by
  simp [State.markAttempted, isTarget]

/-- A cancel is attempted only at calls under way, whose connections are out of the reach of
the others. -/
theorem Sound.exclusive_markAttempted
    (sound : Sound state (task :: tasks))
    {targets : List Nat}
    (underWay : ∀ call ∈ targets, call ∈ state.active)
    (sameCalls : after.calls = (state.markAttempted targets).calls)
    (slot : after.connection = state.connection ∨ after.connection = none)
    (noUses : ∀ other ∈ rest, other.uses = []) : Exclusive after (rest ++ tasks) := by
  intro call connection marked
  rw [sameCalls] at marked
  have connected : (state.calls call).connection = some connection :=
    (connection_markAttempted targets call).symm.trans marked.2
  have apart : Apart state (task :: tasks) call connection := by
    by_cases isTarget : call ∈ targets
    · exact (sound.owned.apart_of_active sound.tracked (underWay call isTarget) connected).1
    · have same : (state.markAttempted targets).calls call = state.calls call := if_neg isTarget
      rw [Marked, same] at marked
      exact sound.exclusive call connection marked
  refine ⟨?_, fun other isTask user used => ?_⟩
  · rcases slot with same | emptied
    · exact same ▸ apart.1
    · simp [emptied]
  · rcases List.mem_append.mp isTask with isNew | isOld
    · rw [noUses other isNew] at used
      cases used
    · exact apart.2 other (List.mem_cons_of_mem _ isOld) user used

theorem Sound.sweep
    {expired : Int}
    (sound : Sound state (.sweeping expired :: tasks)) :
    Sound (state.sweep expired).1 ((state.sweep expired).2 ++ tasks) := by
  have isTarget (call : Nat) (among : call ∈ state.active.filter (state.isTarget expired)) :
      call ∈ state.active ∧ (state.calls call).started ≤ expired ∧
        (state.calls call).connection.isSome = true := by
    obtain ⟨underWay, holds⟩ := List.mem_filter.mp among
    simp only [State.isTarget, Bool.and_eq_true, decide_eq_true_eq] at holds
    exact ⟨underWay, holds.1⟩
  have keeps := keeps_markAttempted (fun call among => (isTarget call among).2.2)
  refine ⟨sound.owned.next (fun _ => rfl) sound.owned.emptied,
    sound.tracked.next (keeps _) rfl (fun _ => Nat.zero_le _) (fun _ => rfl) ?_
      fun call connection connected => ?_,
    sound.exclusive_markAttempted (fun call among => (isTarget call among).1) rfl (.inl rfl) ?_,
    sound.reported.next (keeps []) (fun _ => id) (fun _ => .inl)
      (fun call cancelled => .inl ((cancelled_markAttempted _ call).symm.trans cancelled)) ?_⟩
  · intro other isNew
    cases List.mem_singleton.mp isNew
    intro call among
    obtain ⟨-, expires, isConnected⟩ := isTarget call among
    exact ⟨attempted_markAttempted among, 
      Int.le_trans (Int.le_of_eq (started_markAttempted _ call)) expires,
      (congrArg Option.isSome (connection_markAttempted _ call)).trans isConnected⟩
  · exact sound.tracked.bounded call connection
      ((connection_markAttempted _ call).symm.trans connected)
  · intro other isNew
    cases List.mem_singleton.mp isNew
    rfl
  · simp [State.sweep]

theorem Sound.close
    (sound : Sound state (.closing :: tasks)) :
    Sound state.close.1 (state.close.2 ++ tasks) := by
  have isTarget (target : Nat × Nat) (among : target ∈ state.connected) :
      target.1 ∈ state.active ∧ (state.calls target.1).connection = some target.2 := by
    obtain ⟨call, underWay, found⟩ := List.mem_filterMap.mp among
    obtain ⟨connection, connected, rfl⟩ := Option.map_eq_some_iff.mp found
    exact ⟨underWay, connected⟩
  have among (call : Nat) (isFirst : call ∈ state.connected.map Prod.fst) :
      ∃ connection, (call, connection) ∈ state.connected := by
    obtain ⟨target, isPair, rfl⟩ := List.mem_map.mp isFirst
    exact ⟨target.2, isPair⟩
  have isConnected (call : Nat) (isFirst : call ∈ state.connected.map Prod.fst) :
      (state.calls call).connection.isSome = true := by
    obtain ⟨connection, isPair⟩ := among call isFirst
    rw [(isTarget _ isPair).2]
    rfl
  have keeps := keeps_markAttempted isConnected
  refine ⟨sound.owned.next (fun connection => ?_) fun _ => rfl,
    sound.tracked.next (keeps _) rfl (fun _ => Nat.zero_le _) (fun _ => rfl) ?_
      fun call connection connected => ?_,
    sound.exclusive_markAttempted (fun call isFirst => ?_) rfl (.inr rfl) ?_,
    sound.reported.next (keeps []) (fun _ => id) (fun _ => .inl)
      (fun call cancelled => .inl ((cancelled_markAttempted _ call).symm.trans cancelled)) ?_⟩
  · have handed : tally Task.holds state.close.2 connection = state.parked connection := by
      cases isIdle : state.connection <;>
        simp [State.close, State.parked, isIdle, tally, Task.holds]
    rw [handed]
    change ([] : List Nat).count connection + state.parked connection +
        state.closings.count connection + (if connection < state.nextConnection then 1 else 0) =
      state.parked connection + ([] : List Nat).count connection +
        state.closings.count connection + if connection < state.nextConnection then 1 else 0
    omega
  · intro other isNew
    cases List.mem_singleton.mp isNew
    intro target isPair
    exact ⟨attempted_markAttempted (List.mem_map_of_mem isPair),
      (connection_markAttempted _ target.1).trans (isTarget target isPair).2⟩
  · exact sound.tracked.bounded call connection
      ((connection_markAttempted _ call).symm.trans connected)
  · obtain ⟨connection, isPair⟩ := among call isFirst
    exact (isTarget _ isPair).1
  · intro other isNew
    cases List.mem_singleton.mp isNew
    rfl
  · simp [State.close]

/-- A cancel that is sent at the connection of a marked call. -/
theorem Sound.sent
    {call connection : Nat}
    {bound : Option Int}
    {delivered : Bool}
    (sound : Sound state (task :: tasks))
    (marked : Marked state.calls call connection)
    (expires : ∀ expired, bound = some expired → (state.calls call).started ≤ expired)
    (holds : ∀ connection, tally Task.holds rest connection = task.holds.count connection)
    (bare : task.calls = [] ∧ task.runs = [] ∧ task.uses = [])
    (restBare : ∀ other ∈ rest, other.calls = [] ∧ other.runs = [] ∧ other.uses = [])
    (agrees : ∀ other ∈ rest, other.Agrees state.calls)
    (confirming : ∀ expired other targets, .confirming expired other targets ∈ rest →
      other = call ∧ delivered = true) :
    Sound (state.sent call connection bound delivered) (rest ++ tasks) := by
  have noCalls (other : Nat) : tally Task.calls rest other = 0 := by
    rw [tally, List.count_eq_zero, List.mem_flatMap]
    rintro ⟨task, isTask, among⟩
    rw [(restBare task isTask).1] at among
    cases among
  have noRuns (other : Nat) : tally Task.runs rest other = 0 := by
    rw [tally, List.count_eq_zero, List.mem_flatMap]
    rintro ⟨task, isTask, among⟩
    rw [(restBare task isTask).2.1] at among
    cases among
  refine ⟨sound.owned.next (fun connection => ?_) sound.owned.emptied,
    sound.tracked.next (Keeps.refl _ _) rfl (fun other => ?_) (fun other => ?_) agrees
      sound.tracked.bounded,
    sound.exclusive.next (fun _ _ isMarked => isMarked) (fun _ => .inl)
      fun other isNew user number used => ?_,
    sound.reported.next (Keeps.refl [] _) (fun _ => List.mem_append_left _) (fun cancel isSent => ?_)
      (fun _ => .inl) fun expired other targets isNew => ?_⟩
  · rw [holds]
    rfl
  · rw [noCalls]
    exact Nat.zero_le _
  · rw [noRuns, bare.2.1]
    rfl
  · rw [(restBare other isNew).2.2] at used
    cases used
  · rcases List.mem_append.mp isSent with isOld | isNew
    · exact .inl isOld
    · cases List.mem_singleton.mp isNew
      exact .inr ⟨marked, expires⟩
  · obtain ⟨rfl, isDelivered⟩ := confirming expired other targets isNew
    exact ⟨_, List.mem_append_right _ (List.mem_singleton_self _), rfl, isDelivered⟩

theorem Sound.send
    {expired : Int}
    {call : Nat}
    {targets : List Nat}
    (sound : Sound state (.sending expired (call :: targets) :: tasks))
    (delivered : Bool) :
    Sound (state.send expired call targets delivered).1
      ((state.send expired call targets delivered).2 ++ tasks) := by
  have agrees := sound.tracked.agrees _ (List.mem_cons_self ..)
  obtain ⟨attempted, expires, isConnected⟩ := agrees call (List.mem_cons_self ..)
  obtain ⟨connection, connected⟩ := Option.isSome_iff_exists.mp isConnected
  unfold State.send
  rw [connected]
  have rest (other : Nat) (isTarget : other ∈ targets) := agrees other (List.mem_cons_of_mem _ isTarget)
  refine sound.sent ⟨attempted, connected⟩ (fun bound isBound => ?_) ?_ ⟨rfl, rfl, rfl⟩ ?_ ?_ ?_
  · cases isBound
    exact expires
  · cases delivered <;> exact fun _ => rfl
  · cases delivered <;> simp [Task.calls, Task.runs, Task.uses]
  · cases delivered
    · exact List.forall_mem_singleton.mpr rest
    · exact List.forall_mem_singleton.mpr agrees
  · intro bound other others isNew
    cases delivered
    · cases List.mem_singleton.mp isNew
    · cases List.mem_singleton.mp isNew
      exact ⟨rfl, rfl⟩

theorem Sound.abort
    {call connection : Nat}
    {targets : List (Nat × Nat)}
    {idle : Option Nat}
    (sound : Sound state (.aborting ((call, connection) :: targets) idle :: tasks))
    (delivered : Bool) :
    Sound (state.sent call connection none delivered) ([.aborting targets idle] ++ tasks) := by
  have agrees := sound.tracked.agrees _ (List.mem_cons_self ..)
  refine sound.sent (agrees (call, connection) (List.mem_cons_self ..)) nofun (fun connection => ?_)
    ⟨rfl, rfl, rfl⟩ (by simp [Task.calls, Task.runs, Task.uses])
    (List.forall_mem_singleton.mpr fun target isTarget =>
      agrees target (List.mem_cons_of_mem _ isTarget)) (by simp)
  cases idle <;> simp [Task.holds]

/-- A cancel that was delivered is not sent again. -/
theorem Sound.confirm
    {expired : Int}
    {call : Nat}
    {targets : List Nat}
    (sound : Sound state (.confirming expired call targets :: tasks)) :
    Sound (state.updateCall call fun record => { record with cancelled := true })
      ([.sending expired targets] ++ tasks) := by
  have agrees := sound.tracked.agrees _ (List.mem_cons_self ..)
  obtain ⟨-, -, isConnected⟩ := agrees call (List.mem_cons_self ..)
  have keeps (own : List Nat) : Keeps own state.calls
      (Function.update state.calls call { state.calls call with cancelled := true }) := by
    refine ⟨fun other connection connected => ?_, fun other _ unconnected => ?_⟩
    · by_cases same : other = call
      · subst same
        rw [Function.update_self]
        exact ⟨connected, rfl, id⟩
      · rw [Function.update_of_ne same]
        exact ⟨connected, rfl, id⟩
    · refine Function.update_of_ne ?_ ..
      rintro rfl
      rw [unconnected] at isConnected
      cases isConnected
  have unchanged (other connection : Nat) :
      Marked (Function.update state.calls call { state.calls call with cancelled := true })
        other connection → Marked state.calls other connection := by
    by_cases same : other = call
    · subst same
      rw [Marked, Function.update_self]
      exact id
    · rw [Marked, Function.update_of_ne same]
      exact id
  refine ⟨sound.owned.next (fun _ => rfl) sound.owned.emptied,
    sound.tracked.next (keeps _) rfl (fun _ => Nat.zero_le _) (fun _ => rfl) ?_
      fun other connection connected => ?_,
    sound.exclusive.next unchanged (fun _ => .inl) (by simp [Task.uses]),
    sound.reported.next (keeps []) (fun _ => id) (fun _ => .inl) (fun other cancelled => ?_)
      (by simp)⟩
  · refine List.forall_mem_singleton.mpr fun other isTarget => ?_
    exact (keeps []).target (agrees other (List.mem_cons_of_mem _ isTarget))
  · refine sound.tracked.bounded other connection ?_
    by_cases same : other = call
    · subst same
      simpa [State.updateCall] using connected
    · simpa [State.updateCall, Function.update_of_ne same] using connected
  · by_cases same : other = call
    · subst same
      exact .inr (sound.reported.confirming expired other targets (List.mem_cons_self ..))
    · refine .inl ?_
      simpa [State.updateCall, Function.update_of_ne same] using cancelled

/-! ## Runs -/

theorem Sound.step
    {choice : Choice}
    {outcome : State × List Task}
    (taken : step choice state task = some outcome)
    (sound : Sound state (task :: tasks)) : Sound outcome.1 (outcome.2 ++ tasks) := by
  cases task with
  | calling =>
      cases choice with
      | enters isReady now =>
          cases Option.some.inj taken
          exact (sound.drop rfl rfl).stamp isReady now
      | _ => cases taken
  | entering call =>
      cases Option.some.inj taken
      exact sound.enter
  | connecting call =>
      have agrees := sound.tracked.agrees _ (List.mem_cons_self ..)
      cases choice with
      | raises =>
          cases Option.some.inj taken
          exact sound.goOn (fun _ => rfl) (fun _ => Nat.le_refl _) (fun _ => rfl)
            (List.forall_mem_singleton.mpr agrees.1) (by simp [Task.uses]) (by simp)
      | _ =>
          cases Option.some.inj taken
          exact sound.connect
  | checking call connection =>
      have agrees := sound.tracked.agrees _ (List.mem_cons_self ..)
      have returns (ready reusable : Bool) :
          Sound state ([.checkingIn call (some connection) ready reusable] ++ tasks) :=
        sound.goOn (fun _ => rfl) (fun _ => Nat.le_refl _) (fun _ => rfl)
          (List.forall_mem_singleton.mpr agrees)
          (List.forall_mem_singleton.mpr fun _ used => used) (by simp)
      cases choice with
      | returns ready =>
          cases Option.some.inj taken
          exact returns ready true
      | raises =>
          cases Option.some.inj taken
          exact returns false false
      | _ => cases taken
  | checkingIn call connection ready reusable =>
      cases Option.some.inj taken
      exact sound.checkIn
  | disposing call connection ready =>
      cases Option.some.inj taken
      exact sound.dispose
  | serving call =>
      cases choice with
      | returns ready =>
          cases Option.some.inj taken
          exact (sound.drop rfl rfl).answer call ready
      | raises =>
          cases Option.some.inj taken
          exact (sound.drop rfl rfl).answer call false
      | _ => cases taken
  | cancelling =>
      cases choice with
      | sweeps now =>
          cases Option.some.inj taken
          exact (sound.drop rfl rfl).add (bare_sweeping _)
      | _ => cases taken
  | sweeping expired =>
      cases Option.some.inj taken
      exact sound.sweep
  | sending expired targets =>
      cases targets with
      | nil =>
          cases Option.some.inj taken
          exact sound.drop rfl rfl
      | cons call targets =>
          cases choice with
          | returns delivered =>
              cases Option.some.inj taken
              exact sound.send delivered
          | _ => cases taken
  | confirming expired call targets =>
      cases Option.some.inj taken
      exact sound.confirm
  | closing =>
      cases Option.some.inj taken
      exact sound.close
  | aborting targets idle =>
      cases targets with
      | nil =>
          cases idle with
          | none =>
              cases Option.some.inj taken
              exact sound.drop rfl rfl
          | some connection =>
              cases Option.some.inj taken
              have disposed : Sound (state.dispose connection) ([] ++ tasks) := by
                refine sound.move rfl rfl rfl rfl (fun other => ?_) sound.owned.emptied
                  (fun _ => Nat.zero_le _) (fun _ => rfl) nofun (fun _ => .inl) nofun nofun
                exact count_dispose _ rfl other
              exact disposed
      | cons target targets =>
          cases choice with
          | returns delivered =>
              cases Option.some.inj taken
              exact sound.abort delivered
          | _ => cases taken

end Steps

theorem sound_run (timeout : Int) (events : List Event) :
    Sound (run timeout events).shared (run timeout events).tasks := by
  refine @Interleaving.invariant_run _ _ _ system Sound (fun permuted => Sound.perm permuted)
    Task.Bare (fun _ bare => Sound.add bare) (fun taken => Sound.step taken) _
    (sound_initial timeout) _ fun task started => ?_
  obtain ⟨event, -, starts⟩ := List.mem_map.mp started
  cases event with
  | start entry =>
      cases starts
      exact entry.bare
  | advance index choice => cases starts

/-- A thread has one connection at most. -/
theorem length_holds_le (tasks : List Task) :
    (tasks.flatMap Task.holds).length ≤ tasks.length := by
  induction tasks with
  | nil => exact Nat.le_refl 0
  | cons task tasks hypothesis =>
      have one : task.holds.length ≤ 1 := by
        cases task with
        | checkingIn call connection ready reusable => cases connection <;> simp [Task.holds]
        | aborting targets idle => cases idle <;> simp [Task.holds]
        | _ => simp [Task.holds]
      rw [List.flatMap_cons, List.length_append, List.length_cons]
      omega

/-- Every connection that the probe opened is idle, or one thread has it, or it was closed
exactly once, whatever the order in which calls, sweeps and closes take their steps.  So
no more are open than there are threads under way and one, and a probe that was closed
and has no thread left has closed them all. -/
theorem connections_have_one_owner (timeout : Int) (events : List Event) :
    let state := (run timeout events).shared
    let tasks := (run timeout events).tasks
    (∀ connection, state.parked connection + tally Task.holds tasks connection +
      state.closings.count connection = if connection < state.nextConnection then 1 else 0) ∧
    ((List.range state.nextConnection).filter (· ∉ state.closings)).length ≤ tasks.length + 1 ∧
    (state.closed = true → state.connection = none ∧
      (tasks = [] → state.closings.Perm (List.range state.nextConnection))) := by
  intro state tasks
  obtain ⟨once, emptied⟩ := (sound_run timeout events).owned
  refine ⟨once, ?_, fun isClosed => ⟨emptied isClosed, fun noTasks => ?_⟩⟩
  · have reached : (List.range state.nextConnection).filter (· ∉ state.closings) ⊆
        state.connection.toList ++ tasks.flatMap Task.holds := by
      intro connection isOpen
      obtain ⟨made, notClosed⟩ := List.mem_filter.mp isOpen
      have owned := once connection
      rw [if_pos (List.mem_range.mp made),
        List.count_eq_zero.mpr (by simpa using notClosed)] at owned
      rw [← List.count_pos_iff, List.count_append]
      exact Nat.lt_of_lt_of_eq Nat.zero_lt_one owned.symm
    have fewer := (List.subperm_of_subset (List.nodup_range.filter _) reached).length_le
    have idle : state.connection.toList.length ≤ 1 := by
      cases state.connection <;> simp
    have held := length_holds_le tasks
    rw [List.length_append] at fewer
    omega
  · refine List.perm_iff_count.mpr fun connection => ?_
    have owned : state.parked connection + tally Task.holds tasks connection +
        state.closings.count connection = if connection < state.nextConnection then 1 else 0 :=
      once connection
    have unparked : state.parked connection = 0 := by
      rw [State.parked, emptied isClosed]
      rfl
    have noneHeld : tally Task.holds tasks connection = 0 := by
      rw [noTasks]
      rfl
    rw [List.count_range]
    omega

end PostgresReadiness
end Vinctor
