import Mathlib.Logic.Function.Basic
import Vinctor.Foundation.Interleaving

/-!
# Readiness over a connection of its own

A readiness call takes the idle connection out of its slot, or opens one, and gives it
back when it is done.  A sweep cancels the calls that have run past the bound; a close
cancels all of them.  Whoever has a connection that is not given back closes it.

Every critical section is one step, and so are every call of the driver and every access
to a field of a call outside of the lock.  Calls and connections are numbered.  Beside
the fields of the probe the state records what was sent, closed and answered.
-/

namespace Vinctor
namespace PostgresReadiness

open Foundation

structure ReadinessCall where
  started : Int
  connection : Option Nat := none
  cancelAttempted : Bool := false
  cancelled : Bool := false
  deriving DecidableEq, Repr

/-- A cancel that was sent, and the bound of the sweep that sent it. -/
structure Cancel where
  call : Nat
  connection : Nat
  expired : Option Int
  delivered : Bool
  deriving DecidableEq, Repr

structure State where
  timeout : Int
  connection : Option Nat := none
  active : List Nat := []
  closed : Bool := false
  calls : Nat → ReadinessCall := fun _ => { started := 0 }
  nextCall : Nat := 0
  nextConnection : Nat := 0
  cancels : List Cancel := []
  closings : List Nat := []
  answers : List (Nat × Bool) := []

/-- Where a thread stands.  A thread that has to close or give back a connection carries
it. -/
inductive Task
  | calling
  | entering (call : Nat)
  | connecting (call : Nat)
  | checking (call connection : Nat)
  | checkingIn (call : Nat) (connection : Option Nat) (ready reusable : Bool)
  | disposing (call connection : Nat) (ready : Bool)
  | serving (call : Nat)
  | cancelling
  | sweeping (expired : Int)
  | sending (expired : Int) (targets : List Nat)
  | confirming (expired : Int) (call : Nat) (targets : List Nat)
  | closing
  | aborting (targets : List (Nat × Nat)) (idle : Option Nat)
  deriving DecidableEq, Repr

/-- What a thread meets. -/
inductive Choice
  | enters (isReady : Bool) (now : Int)
  | sweeps (now : Int)
  | returns (result : Bool)
  | raises
  | goes
  deriving DecidableEq, Repr

namespace State

/-- Change a field of a call. -/
def updateCall
    (state : State)
    (call : Nat)
    (change : ReadinessCall → ReadinessCall) : State :=
  { state with calls := Function.update state.calls call (change (state.calls call)) }

def answer (state : State) (call : Nat) (ready : Bool) : State :=
  { state with answers := state.answers ++ [(call, ready)] }

/-- A quarantined runtime connection is not asked about the store. -/
def stamp (state : State) (isReady : Bool) (now : Int) : State × List Task :=
  let numbered := { state with nextCall := state.nextCall + 1 }
  if isReady then
    (numbered.updateCall state.nextCall fun _ => { started := now }, [.entering state.nextCall])
  else (numbered.answer state.nextCall false, [])

/-- The first critical section of a call. -/
def enter (state : State) (call : Nat) : State × List Task :=
  if state.closed then (state.answer call false, [])
  else
    let entered := (State.updateCall { state with connection := none } call fun record =>
      { record with connection := state.connection })
    ({ entered with active := state.active ++ [call] },
      match state.connection with
      | none => [.connecting call]
      | some connection => [.checking call connection])

def connect (state : State) (call : Nat) : State × List Task :=
  (State.updateCall { state with nextConnection := state.nextConnection + 1 } call fun record =>
      { record with connection := some state.nextConnection },
    [.checking call state.nextConnection])

/-- What remains after the connection is off the hands of a call. -/
def judge (state : State) (call : Nat) (ready : Bool) : State × List Task :=
  if ready then (state, [.serving call]) else (state.answer call false, [])

/-- The last critical section of a call: park a healthy connection or close it. -/
def checkIn
    (state : State)
    (call : Nat)
    (connection : Option Nat)
    (ready reusable : Bool) : State × List Task :=
  let left := { state with active := state.active.filter (fun other => other != call) }
  match connection with
  | none => left.judge call ready
  | some number =>
      if reusable && !(state.calls call).cancelAttempted && !state.closed &&
          state.connection.isNone then
        State.judge { left with connection := some number } call ready
      else (left, [.disposing call number ready])

def dispose (state : State) (connection : Nat) : State :=
  { state with closings := state.closings ++ [connection] }

/-- Whether a sweep cancels a call. -/
def isTarget (state : State) (expired : Int) (call : Nat) : Bool :=
  decide ((state.calls call).started ≤ expired) && (state.calls call).connection.isSome &&
    !(state.calls call).cancelled

def markAttempted (state : State) (targets : List Nat) : State :=
  { state with calls := fun call =>
      if call ∈ targets then { state.calls call with cancelAttempted := true }
      else state.calls call }

/-- The critical section of a sweep. -/
def sweep (state : State) (expired : Int) : State × List Task :=
  let targets := state.active.filter (state.isTarget expired)
  (state.markAttempted targets, [.sending expired targets])

def sent
    (state : State)
    (call connection : Nat)
    (expired : Option Int)
    (delivered : Bool) : State :=
  { state with cancels := state.cancels ++ [⟨call, connection, expired, delivered⟩] }

/-- Send a cancel to the connection that a target has. -/
def send
    (state : State)
    (expired : Int)
    (call : Nat)
    (targets : List Nat)
    (delivered : Bool) : State × List Task :=
  match (state.calls call).connection with
  | none => (state, [.sending expired targets])
  | some connection =>
      (state.sent call connection (some expired) delivered,
        if delivered then [.confirming expired call targets] else [.sending expired targets])

/-- The calls that are under way and have a connection, with it. -/
def connected (state : State) : List (Nat × Nat) :=
  state.active.filterMap fun call =>
    (state.calls call).connection.map fun connection => (call, connection)

/-- The critical section of a close. -/
def close (state : State) : State × List Task :=
  let marked := state.markAttempted (state.connected.map Prod.fst)
  ({ marked with closed := true, connection := none },
    [.aborting state.connected state.connection])

end State

open State in
/-- One step of a thread. -/
def step (choice : Choice) (state : State) : Task → Option (State × List Task)
  | .calling =>
      match choice with
      | .enters isReady now => some (state.stamp isReady now)
      | _ => none
  | .entering call => some (state.enter call)
  | .connecting call =>
      match choice with
      | .raises => some (state, [.checkingIn call none false false])
      | _ => some (state.connect call)
  | .checking call connection =>
      match choice with
      | .returns ready => some (state, [.checkingIn call (some connection) ready true])
      | .raises => some (state, [.checkingIn call (some connection) false false])
      | _ => none
  | .checkingIn call connection ready reusable =>
      some (state.checkIn call connection ready reusable)
  | .disposing call connection ready => some ((state.dispose connection).judge call ready)
  | .serving call =>
      match choice with
      | .returns ready => some (state.answer call ready, [])
      | .raises => some (state.answer call false, [])
      | _ => none
  | .cancelling =>
      match choice with
      | .sweeps now => some (state, [.sweeping (now - state.timeout)])
      | _ => none
  | .sweeping expired => some (state.sweep expired)
  | .sending _ [] => some (state, [])
  | .sending expired (call :: targets) =>
      match choice with
      | .returns delivered => some (state.send expired call targets delivered)
      | _ => none
  | .confirming expired call targets =>
      some (state.updateCall call (fun record => { record with cancelled := true }),
        [.sending expired targets])
  | .closing => some state.close
  | .aborting ((call, connection) :: targets) idle =>
      match choice with
      | .returns delivered =>
          some (state.sent call connection none delivered, [.aborting targets idle])
      | _ => none
  | .aborting [] none => some (state, [])
  | .aborting [] (some connection) => some (state.dispose connection, [])

def system : Interleaving State Task Choice := ⟨step⟩

/-! ## Runs -/

/-- The methods of the probe that other threads call. -/
inductive Entry
  | call
  | cancel
  | close
  deriving DecidableEq, Repr

def Entry.task : Entry → Task
  | .call => .calling
  | .cancel => .cancelling
  | .close => .closing

inductive Event
  | start (entry : Entry)
  | advance (index : Nat) (choice : Choice)
  deriving DecidableEq, Repr

def Event.taskEvent : Event → TaskEvent Task Choice
  | .start entry => .start entry.task
  | .advance index choice => .advance index choice

/-- A probe that was just made, after some events. -/
def run (timeout : Int) (events : List Event) : Tasks State Task :=
  system.run ⟨{ timeout }, []⟩ (events.map Event.taskEvent)

end PostgresReadiness
end Vinctor
