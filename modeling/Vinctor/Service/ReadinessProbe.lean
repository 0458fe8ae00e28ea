import Mathlib.Logic.Function.Basic
import Vinctor.Foundation.Interleaving

/-!
# Bounded readiness probe

Callers share a probe object and wait for a worker thread to finish it.  A caller that
finds the probe finished or expired makes a new one, and finds a worker for it: the
current one if it is idle, otherwise a new one in the place of the current one, which
is abandoned.  An abandoned worker that is still alive costs one of a bounded number
of slots until it returns.

Every critical section is one step, and so is every access to an event outside of the
lock.  Threads may fail to start, checks may fail, and a worker may die anywhere; the
deadline of a probe may pass between any two steps.  The thread that cancels calls of
abandoned workers only makes checks return and is left out.

Objects are numbered as they are made.  Beside the fields of the probe the state
records what the threads did and when.
-/

namespace Vinctor
namespace Readiness

open Foundation

/-- A backend check: its worker, when the worker took it on, and when it began. -/
structure Check where
  worker : Nat
  takenAt : Nat
  beganAt : Nat
  deriving DecidableEq, Repr

/-- The probe and, from `clock` on, the record of what happened. -/
structure State where
  maxAbandonedWorkers : Nat
  probe : Option Nat := none
  worker : Option Nat := none
  abandoned : Nat := 0
  abandonedLimitHits : Nat := 0
  limitReported : Bool := false
  reports : List String := []
  closed : Bool := false
  nextProbe : Nat := 0
  finished : Nat → Bool := fun _ => false
  ready : Nat → Bool := fun _ => false
  nextWorker : Nat := 0
  alive : List Nat := []
  idle : Nat → Bool := fun _ => false
  requested : Nat → Bool := fun _ => false
  isAbandoned : Nat → Bool := fun _ => false
  counted : Nat → Bool := fun _ => false
  clock : Nat := 0
  createdAt : Nat → Nat := fun _ => 0
  abandonedAt : Nat → Option Nat := fun _ => none
  checks : List Check := []
  successes : List Nat := []
  answers : List (Nat × Bool) := []

/-- Where a thread stands.  A worker that has taken on a probe carries the time at which
it did, and one that runs a check the time at which the check began. -/
inductive Task
  | calling
  | awaiting (probe : Nat)
  | closing
  | abandoning (worker : Nat)
  | parking (worker : Nat)
  | parked (worker : Nat)
  | woken (worker : Nat)
  | leavingIdle (worker : Nat)
  | entering (worker : Nat)
  | deciding (worker probe takenAt : Nat)
  | checking (worker probe beganAt : Nat)
  | settling (worker probe beganAt : Nat) (ready escapes : Bool)
  | answering (worker probe beganAt : Nat) (ready escapes : Bool)
  | finishing (worker probe : Nat) (escapes : Bool)
  | leaving (worker : Nat)
  | ending (worker : Nat)
  deriving DecidableEq, Repr

/-- What a thread meets. -/
inductive Choice
  | goes
  | calls (expired startFails : Bool)
  | timesOut
  | returns (ready : Bool)
  | raises
  | dies
  deriving DecidableEq, Repr

namespace State

/-- Let time pass. -/
def tick (state : State) : State := { state with clock := state.clock + 1 }

/-- Mark a worker and wake it. -/
def abandon (state : State) (worker : Nat) : State :=
  { state with
    isAbandoned := Function.update state.isAbandoned worker true
    requested := Function.update state.requested worker true
    abandonedAt := Function.update state.abandonedAt worker (some state.clock) }.tick

def startWorker (state : State) (fails : Bool) : State × Option Nat × List Task :=
  if fails then (state, none, [])
  else
    ({ state with
        worker := some state.nextWorker
        limitReported := false
        nextWorker := state.nextWorker + 1
        alive := state.alive ++ [state.nextWorker] },
      some state.nextWorker, [.parking state.nextWorker])

/-- Report the cap once until a slot is free again. -/
def reportLimit (state : State) : State :=
  if state.limitReported then state
  else
    { state with
      limitReported := true
      reports := state.reports ++
        ["vinctor: readiness probe is holding " ++ toString state.abandoned ++
          " abandoned worker(s) on a backend call that has not returned; readiness fails " ++
          "closed until one of them does\n"] }

/-- Abandon the current worker.  It costs a slot if its thread is still alive. -/
def abandonCurrent (state : State) (worker : Nat) : State :=
  let replaced := State.abandon { state with worker := none } worker
  if worker ∈ state.alive then
    { replaced with
      abandoned := state.abandoned + 1
      counted := Function.update state.counted worker true }
  else replaced

/-- The worker for the next probe, and the thread that was started for it. -/
def servicingWorker (state : State) (startFails : Bool) : State × Option Nat × List Task :=
  match state.worker with
  | none => state.startWorker startFails
  | some worker =>
      if state.idle worker then (state, some worker, [])
      else if worker ∈ state.alive && state.maxAbandonedWorkers ≤ state.abandoned then
        ({ state.reportLimit with abandonedLimitHits := state.abandonedLimitHits + 1 },
          none, [])
      else (state.abandonCurrent worker).startWorker startFails

/-- Make a probe and hand it to a worker. -/
def request (state : State) (worker : Nat) : State :=
  { state with
    probe := some state.nextProbe
    nextProbe := state.nextProbe + 1
    createdAt := Function.update state.createdAt state.nextProbe state.clock
    requested := Function.update state.requested worker true }.tick

/-- A new probe, if there is a worker for it. -/
def renew (state : State) (startFails : Bool) : State × List Task :=
  match state.servicingWorker startFails with
  | (found, none, started) => (found, started)
  | (found, some worker, started) =>
      (found.request worker, .awaiting found.nextProbe :: started)

/-- The critical section of a call. -/
def call (state : State) (expired startFails : Bool) : State × List Task :=
  if state.closed then (state, [])
  else
    match state.probe with
    | none => state.renew startFails
    | some probe =>
        if state.finished probe || expired then state.renew startFails
        else (state, [.awaiting probe])

def answer (state : State) (probe : Nat) (ready : Bool) : State :=
  { state with answers := state.answers ++ [(probe, ready)] }

def close (state : State) : State × List Task :=
  if state.closed then (state, [])
  else
    ({ state with closed := true, worker := none },
      match state.worker with
      | none => []
      | some worker => [.abandoning worker])

def releaseWorker (state : State) (worker : Nat) : State :=
  let released :=
    if state.counted worker then
      { state with
        counted := Function.update state.counted worker false
        abandoned := state.abandoned - 1
        limitReported := false }
    else state
  if state.worker = some worker then { released with worker := none } else released

/-- The critical section of a worker that was woken. -/
def takeOn (state : State) (worker : Nat) : State × List Task :=
  if state.closed || state.isAbandoned worker then (state, [.leaving worker])
  else
    match state.probe with
    | none => (state, [.parking worker])
    | some probe => (state.tick, [.deciding worker probe state.clock])

/-- Begin a check, unless the probe is finished already. -/
def beginCheck (state : State) (worker probe takenAt : Nat) : State × List Task :=
  if state.finished probe then (state, [.parking worker])
  else
    (State.tick { state with checks := state.checks ++ [⟨worker, takenAt, state.clock⟩] },
      [.checking worker probe state.clock])

/-- The end of a check.  What it raises counts as not ready. -/
def endCheck (state : State) (worker probe beganAt : Nat) : Choice → State × List Task
  | .returns true =>
      ({ state with successes := state.successes ++ [beganAt] },
        [.settling worker probe beganAt true false])
  | .dies => (state, [.settling worker probe beganAt false true])
  | _ => (state, [.settling worker probe beganAt false false])

end State

open State in
/-- One step of a thread.  A worker that dies goes to the release of its slot. -/
def step (choice : Choice) (state : State) : Task → Option (State × List Task)
  | .calling =>
      match choice with
      | .calls expired startFails => some (state.call expired startFails)
      | _ => none
  | .awaiting probe =>
      if state.finished probe then some (state.answer probe (state.ready probe), [])
      else if choice = .timesOut then some (state.answer probe false, [])
      else none
  | .closing => some state.close
  | .abandoning worker => some (state.abandon worker, [])
  | .ending worker => some ({ state with alive := state.alive.erase worker }, [])
  | .leaving worker => some (state.releaseWorker worker, [.ending worker])
  | .checking worker probe beganAt => some (state.endCheck worker probe beganAt choice)
  | .parking worker =>
      if choice = .dies then some (state, [.leaving worker])
      else some ({ state with idle := Function.update state.idle worker true }, [.parked worker])
  | .parked worker =>
      if choice = .dies then some (state, [.leaving worker])
      else if state.requested worker then some (state, [.woken worker])
      else none
  | .woken worker =>
      if choice = .dies then some (state, [.leaving worker])
      else
        some ({ state with requested := Function.update state.requested worker false },
          [.leavingIdle worker])
  | .leavingIdle worker =>
      if choice = .dies then some (state, [.leaving worker])
      else
        some ({ state with idle := Function.update state.idle worker false },
          [.entering worker])
  | .entering worker =>
      if choice = .dies then some (state, [.leaving worker]) else some (state.takeOn worker)
  | .deciding worker probe takenAt =>
      if choice = .dies then some (state, [.leaving worker])
      else some (state.beginCheck worker probe takenAt)
  | .settling worker probe beganAt ready escapes =>
      if choice = .dies then some (state, [.leaving worker])
      else
        some ({ state with idle := Function.update state.idle worker true },
          [.answering worker probe beganAt ready escapes])
  | .answering worker probe _ ready escapes =>
      if choice = .dies then some (state, [.leaving worker])
      else
        some ({ state with ready := Function.update state.ready probe ready },
          [.finishing worker probe escapes])
  | .finishing worker probe escapes =>
      if choice = .dies then some (state, [.leaving worker])
      else
        some ({ state with finished := Function.update state.finished probe true },
          [if escapes then .leaving worker else .parking worker])

def interleaving : Interleaving State Task Choice where
  step := step

/-- What a thread may start: a call, or the shutdown. -/
def Task.starts : Task → Bool
  | .calling | .closing => true
  | _ => false

end Readiness
end Vinctor
