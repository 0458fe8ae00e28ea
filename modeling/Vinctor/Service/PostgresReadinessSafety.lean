import Mathlib.Data.List.Perm.Subperm
import Vinctor.Service.PostgresReadiness

/-!
# Connections of the readiness probe

Every connection that the probe opened is idle, or in the hands of one thread, or was
closed once.  A connection at which a cancel was sent is never given to another call.
-/

namespace Vinctor
namespace PostgresReadiness

open Foundation

/-! ## What threads have -/

/-- The connection that a thread has to give back or close. -/
def Task.holds : Task → List Nat
  | .checking _ connection | .checkingIn _ (some connection) _ _ | .disposing _ connection _
  | .aborting _ (some connection) => [connection]
  | _ => []

/-- The call whose critical sections are still to come. -/
def Task.calls : Task → List Nat
  | .entering call | .connecting call | .checking call _ | .checkingIn call _ _ _ => [call]
  | _ => []

/-- The call, between its critical sections. -/
def Task.runs : Task → List Nat
  | .entering _ => []
  | task => task.calls

/-- The call and the connection that it uses. -/
def Task.uses : Task → List (Nat × Nat)
  | .checking call connection | .checkingIn call (some connection) _ _
  | .disposing call connection _ => [(call, connection)]
  | _ => []

/-- The records of the calls are as a thread takes them to be. -/
def Task.Agrees (calls : Nat → ReadinessCall) : Task → Prop
  | .entering call | .connecting call =>
      (calls call).connection = none ∧ (calls call).cancelAttempted = false
  | .checking call connection | .disposing call connection _ =>
      (calls call).connection = some connection
  | .checkingIn call connection _ _ => (calls call).connection = connection
  | .sending expired targets => ∀ call ∈ targets, (calls call).cancelAttempted = true ∧
      (calls call).started ≤ expired ∧ (calls call).connection.isSome = true
  | .confirming expired call targets => ∀ other ∈ call :: targets,
      (calls other).cancelAttempted = true ∧ (calls other).started ≤ expired ∧
        (calls other).connection.isSome = true
  | .aborting targets _ => ∀ target ∈ targets, (calls target.1).cancelAttempted = true ∧
      (calls target.1).connection = some target.2
  | _ => True

/-! ## Ownership -/

/-- How often a connection is in the idle slot. -/
def State.parked (state : State) (connection : Nat) : Nat :=
  state.connection.toList.count connection

structure Owned (state : State) (tasks : List Task) : Prop where
  once : ∀ connection,
    state.parked connection + tally Task.holds tasks connection +
      state.closings.count connection = if connection < state.nextConnection then 1 else 0
  emptied : state.closed = true → state.connection = none

theorem Owned.perm
    {state : State}
    {tasks others : List Task}
    (permuted : tasks.Perm others)
    (owned : Owned state tasks) : Owned state others where
  once connection := by
    rw [← tally_perm Task.holds permuted connection]
    exact owned.once connection
  emptied := owned.emptied

/-- What one step does to the connections. -/
theorem Owned.next
    {state after : State}
    {task : Task}
    {tasks rest : List Task}
    (owned : Owned state (task :: tasks))
    (moved : ∀ connection,
      after.parked connection + tally Task.holds rest connection +
          after.closings.count connection + (if connection < state.nextConnection then 1 else 0) =
        state.parked connection + task.holds.count connection +
          state.closings.count connection + if connection < after.nextConnection then 1 else 0)
    (emptied : after.closed = true → after.connection = none) : Owned after (rest ++ tasks) where
  once connection := by
    have before := owned.once connection
    have step := moved connection
    rw [tally_cons] at before
    rw [tally_append]
    omega
  emptied := emptied

/-! ## Records of calls -/

structure Tracked (state : State) (tasks : List Task) : Prop where
  numbered : ∀ call, tally Task.calls tasks call ≤ 1
  unborn : ∀ call, state.nextCall ≤ call →
    tally Task.calls tasks call = 0 ∧ (state.calls call).connection = none
  active : ∀ call, state.active.count call = tally Task.runs tasks call
  agrees : ∀ task ∈ tasks, task.Agrees state.calls
  bounded : ∀ call connection, (state.calls call).connection = some connection →
    connection < state.nextConnection

theorem Tracked.perm
    {state : State}
    {tasks others : List Task}
    (permuted : tasks.Perm others)
    (tracked : Tracked state tasks) : Tracked state others where
  numbered call := by
    rw [← tally_perm Task.calls permuted call]
    exact tracked.numbered call
  unborn call isNew := by
    rw [← tally_perm Task.calls permuted call]
    exact tracked.unborn call isNew
  active call := by
    rw [← tally_perm Task.runs permuted call]
    exact tracked.active call
  agrees task isTask := tracked.agrees task (permuted.mem_iff.mpr isTask)
  bounded := tracked.bounded

/-- Only the records of some calls get a connection, and no record loses one. -/
structure Keeps (own : List Nat) (before after : Nat → ReadinessCall) : Prop where
  connected : ∀ call connection, (before call).connection = some connection →
    (after call).connection = some connection ∧ (after call).started = (before call).started ∧
      ((before call).cancelAttempted = true → (after call).cancelAttempted = true)
  others : ∀ call, call ∉ own → (before call).connection = none → after call = before call

theorem Keeps.refl (own : List Nat) (calls : Nat → ReadinessCall) : Keeps own calls calls where
  connected _ _ connected := ⟨connected, rfl, id⟩
  others _ _ _ := rfl

/-- A target of a cancel remains one. -/
theorem Keeps.target
    {own : List Nat}
    {before after : Nat → ReadinessCall}
    (keeps : Keeps own before after)
    {call : Nat}
    {expired : Int}
    (isTarget : (before call).cancelAttempted = true ∧ (before call).started ≤ expired ∧
      (before call).connection.isSome = true) :
    (after call).cancelAttempted = true ∧ (after call).started ≤ expired ∧
      (after call).connection.isSome = true := by
  obtain ⟨attempted, expires, isConnected⟩ := isTarget
  obtain ⟨connection, connected⟩ := Option.isSome_iff_exists.mp isConnected
  obtain ⟨still, started, attempts⟩ := keeps.connected call connection connected
  exact ⟨attempts attempted, started ▸ expires, by rw [still]; rfl⟩

/-- A thread still agrees with the records if none of its own calls got a connection. -/
theorem Keeps.agrees
    {own : List Nat}
    {before after : Nat → ReadinessCall}
    (keeps : Keeps own before after)
    {task : Task}
    (foreign : ∀ call ∈ task.calls, call ∉ own)
    (agrees : task.Agrees before) : task.Agrees after := by
  cases task with
  | entering call | connecting call =>
      have same := keeps.others call (foreign call (List.mem_singleton_self call)) agrees.1
      dsimp only [Task.Agrees]
      rw [same]
      exact agrees
  | checking call connection | disposing call connection ready =>
      exact (keeps.connected call connection agrees).1
  | checkingIn call connection ready reusable =>
      cases connection with
      | some connection => exact (keeps.connected call connection agrees).1
      | none =>
          have same := keeps.others call (foreign call (List.mem_singleton_self call)) agrees
          dsimp only [Task.Agrees]
          rw [same]
          exact agrees
  | sending expired targets => exact fun call isTarget => keeps.target (agrees call isTarget)
  | confirming expired call targets =>
      exact fun other isTarget => keeps.target (agrees other isTarget)
  | aborting targets idle =>
      intro target isTarget
      obtain ⟨attempted, connected⟩ := agrees target isTarget
      obtain ⟨still, -, attempts⟩ := keeps.connected target.1 target.2 connected
      exact ⟨attempts attempted, still⟩
  | calling | serving call | cancelling | sweeping expired | closing => trivial

/-- What one step does to the records. -/
theorem Tracked.next
    {state after : State}
    {task : Task}
    {tasks rest : List Task}
    (tracked : Tracked state (task :: tasks))
    (keeps : Keeps task.calls state.calls after.calls)
    (sameNext : after.nextCall = state.nextCall)
    (calls : ∀ call, tally Task.calls rest call ≤ task.calls.count call)
    (active : ∀ call, after.active.count call + task.runs.count call =
      state.active.count call + tally Task.runs rest call)
    (agrees : ∀ other ∈ rest, other.Agrees after.calls)
    (bounded : ∀ call connection, (after.calls call).connection = some connection →
      connection < after.nextConnection) : Tracked after (rest ++ tasks) where
  numbered call := by
    have before := tracked.numbered call
    have fewer := calls call
    rw [tally_cons] at before
    rw [tally_append]
    omega
  unborn call isNew := by
    obtain ⟨noTask, noConnection⟩ := tracked.unborn call (sameNext ▸ isNew)
    have fewer := calls call
    rw [tally_cons] at noTask
    have foreign : call ∉ task.calls := fun own => by
      have := List.count_pos_iff.mpr own
      omega
    refine ⟨by rw [tally_append]; omega, ?_⟩
    rw [keeps.others call foreign noConnection]
    exact noConnection
  active call := by
    have before := tracked.active call
    have step := active call
    rw [tally_cons] at before
    rw [tally_append]
    omega
  agrees other isTask := by
    rcases List.mem_append.mp isTask with isNew | isOld
    · exact agrees other isNew
    · refine keeps.agrees (fun call own ownToo => ?_)
        (tracked.agrees other (List.mem_cons_of_mem _ isOld))
      have once := tracked.numbered call
      rw [tally_cons] at once
      have here := List.count_pos_iff.mpr ownToo
      have there : 0 < tally Task.calls tasks call :=
        List.count_pos_iff.mpr (List.mem_flatMap.mpr ⟨other, isOld, own⟩)
      omega
  bounded := bounded

/-! ## Cancels -/

/-- A cancel was attempted at the connection of a call. -/
def Marked (calls : Nat → ReadinessCall) (call connection : Nat) : Prop :=
  (calls call).cancelAttempted = true ∧ (calls call).connection = some connection

/-- A connection is out of the reach of the other calls. -/
def Apart (state : State) (tasks : List Task) (call connection : Nat) : Prop :=
  state.connection ≠ some connection ∧
    ∀ task ∈ tasks, ∀ other, (other, connection) ∈ task.uses → other = call

def Exclusive (state : State) (tasks : List Task) : Prop :=
  ∀ call connection, Marked state.calls call connection → Apart state tasks call connection

/-- The record of the cancels agrees with that of the calls. -/
structure Reported (state : State) (tasks : List Task) : Prop where
  sent : ∀ cancel ∈ state.cancels, Marked state.calls cancel.call cancel.connection ∧
    ∀ expired, cancel.expired = some expired → (state.calls cancel.call).started ≤ expired
  cancelled : ∀ call, (state.calls call).cancelled = true →
    ∃ cancel ∈ state.cancels, cancel.call = call ∧ cancel.delivered = true
  confirming : ∀ expired call targets, .confirming expired call targets ∈ tasks →
    ∃ cancel ∈ state.cancels, cancel.call = call ∧ cancel.delivered = true

theorem Exclusive.perm
    {state : State}
    {tasks others : List Task}
    (permuted : tasks.Perm others)
    (exclusive : Exclusive state tasks) : Exclusive state others := by
  intro call connection marked
  obtain ⟨notIdle, alone⟩ := exclusive call connection marked
  exact ⟨notIdle, fun task isTask => alone task (permuted.mem_iff.mpr isTask)⟩

theorem Reported.perm
    {state : State}
    {tasks others : List Task}
    (permuted : tasks.Perm others)
    (reported : Reported state tasks) : Reported state others where
  sent := reported.sent
  cancelled := reported.cancelled
  confirming expired call targets isTask :=
    reported.confirming expired call targets (permuted.mem_iff.mpr isTask)

theorem Task.holds_of_uses
    {task : Task}
    {call connection : Nat}
    (uses : (call, connection) ∈ task.uses) : connection ∈ task.holds := by
  cases task with
  | checking | disposing =>
      cases List.mem_singleton.mp uses
      exact List.mem_singleton_self _
  | checkingIn own held ready reusable =>
      cases held with
      | none => cases uses
      | some held =>
          cases List.mem_singleton.mp uses
          exact List.mem_singleton_self _
  | _ => cases uses

theorem Task.uses_unique
    {task : Task}
    {call other connection : Nat}
    (uses : (call, connection) ∈ task.uses)
    (usesToo : (other, connection) ∈ task.uses) : other = call := by
  cases task with
  | checking | disposing =>
      cases List.mem_singleton.mp uses
      cases List.mem_singleton.mp usesToo
      rfl
  | checkingIn own held ready reusable =>
      cases held with
      | none => cases uses
      | some held =>
          cases List.mem_singleton.mp uses
          cases List.mem_singleton.mp usesToo
          rfl
  | _ => cases uses

/-- A call between its critical sections uses the connection that is recorded for it. -/
theorem Tracked.uses_of_active
    {state : State}
    {tasks : List Task}
    (tracked : Tracked state tasks)
    {call connection : Nat}
    (active : call ∈ state.active)
    (connected : (state.calls call).connection = some connection) :
    ∃ task ∈ tasks, (call, connection) ∈ task.uses := by
  have running : 0 < tally Task.runs tasks call := by
    rw [← tracked.active call]
    exact List.count_pos_iff.mpr active
  obtain ⟨task, isTask, runs⟩ := List.mem_flatMap.mp (List.count_pos_iff.mp running)
  have agrees := tracked.agrees task isTask
  refine ⟨task, isTask, ?_⟩
  cases task with
  | connecting own =>
      cases List.mem_singleton.mp runs
      cases connected.symm.trans agrees.1
  | checking own held =>
      cases List.mem_singleton.mp runs
      cases connected.symm.trans agrees
      exact List.mem_singleton_self _
  | checkingIn own held ready reusable =>
      cases List.mem_singleton.mp runs
      cases connected.symm.trans agrees
      exact List.mem_singleton_self _
  | _ => cases runs

/-- Its connection is with nobody else, and open. -/
theorem Owned.apart_of_active
    {state : State}
    {tasks : List Task}
    (owned : Owned state tasks)
    (tracked : Tracked state tasks)
    {call connection : Nat}
    (active : call ∈ state.active)
    (connected : (state.calls call).connection = some connection) :
    Apart state tasks call connection ∧ connection ∉ state.closings := by
  obtain ⟨task, isTask, uses⟩ := tracked.uses_of_active active connected
  have holds := Task.holds_of_uses uses
  have held := one_le_tally isTask holds
  have once := owned.once connection
  have atMost : (if connection < state.nextConnection then 1 else 0) ≤ 1 := by split <;> omega
  refine ⟨⟨fun isIdle => ?_, fun other isOther other' usesToo => ?_⟩, fun isClosed => ?_⟩
  · have parked : state.parked connection = 1 := by simp [State.parked, isIdle]
    omega
  · by_cases same : other = task
    · rw [same] at usesToo
      exact Task.uses_unique uses usesToo
    · have twice := two_le_tally same isTask isOther holds (Task.holds_of_uses usesToo)
      omega
  · have closed := List.count_pos_iff.mpr isClosed
    omega

/-- What one step does to the reach of the calls, other than to attempt a cancel. -/
theorem Exclusive.next
    {state after : State}
    {task : Task}
    {tasks rest : List Task}
    (exclusive : Exclusive state (task :: tasks))
    (marks : ∀ call connection, Marked after.calls call connection →
      Marked state.calls call connection)
    (parks : ∀ connection, after.connection = some connection →
      state.connection = some connection ∨
        ∃ call, (call, connection) ∈ task.uses ∧ (state.calls call).cancelAttempted = false)
    (uses : ∀ other ∈ rest, ∀ call connection, (call, connection) ∈ other.uses →
      (call, connection) ∈ task.uses ∨ ∀ marked, ¬ Marked state.calls marked connection) :
    Exclusive after (rest ++ tasks) := by
  intro call connection marked
  have wasMarked := marks call connection marked
  obtain ⟨notIdle, alone⟩ := exclusive call connection wasMarked
  refine ⟨fun isIdle => ?_, fun other isTask user used => ?_⟩
  · rcases parks connection isIdle with wasIdle | ⟨parking, parked, unmarked⟩
    · exact notIdle wasIdle
    · cases alone task (List.mem_cons_self ..) parking parked
      rw [wasMarked.1] at unmarked
      cases unmarked
  · rcases List.mem_append.mp isTask with isNew | isOld
    · rcases uses other isNew user connection used with wasUsed | unmarked
      · exact alone task (List.mem_cons_self ..) user wasUsed
      · exact absurd wasMarked (unmarked call)
    · exact alone other (List.mem_cons_of_mem _ isOld) user used

end PostgresReadiness
end Vinctor
