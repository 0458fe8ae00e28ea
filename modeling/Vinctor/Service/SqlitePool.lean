import Vinctor.Foundation.Interleaving

/-!
# Pool of SQLite connections

Request scopes and readiness probes lease contexts, each with a connection of its own.
A request leaves with its context, retires it where it is still in a transaction, or
quarantines it; what is missing is built again by the next that asks.  Shutdown leaves
a context that a probe has borrowed to the probe.

Every critical section is one step and everything between two of them may interleave.
A context is named by its generation.  A probe inside of a request scope borrows
nothing: it looks at the context of the scope.
-/

namespace Vinctor
namespace SqlitePool

open Foundation

/-! ## Admission -/

/-- Queue of the contexts that are free and of those who wait for one. -/
structure Admission where
  available : List Nat
  waiters : List Nat := []
  closed : Bool := false
  accepting : Bool := true
  availabilityEpoch : Nat := 0
  deriving DecidableEq, Repr

namespace Admission

def release (admission : Admission) (lease : Nat) : Admission :=
  if admission.closed then admission
  else { admission with available := admission.available ++ [lease] }

def publish (admission : Admission) (lease : Nat) : Admission :=
  if admission.closed then admission
  else { admission with available := admission.available ++ [lease], accepting := true }

def invalidateWaiters (admission : Admission) : Admission :=
  { admission with
    accepting := false
    availabilityEpoch := admission.availabilityEpoch + 1 }

def close (admission : Admission) : Admission :=
  { admission with
    closed := true
    accepting := false
    availabilityEpoch := admission.availabilityEpoch + 1
    available := [] }

end Admission

/-! ## Pool -/

/-- The pool and, of the contexts it has built, those that are marked and those whose
connection was closed, in order. -/
structure Pool where
  targetSize : Nat
  contexts : List Nat
  admission : Admission
  nextGeneration : Nat
  nextWaiter : Nat := 0
  buildInFlight : Bool := false
  closed : Bool := false
  probeCalls : List Nat := []
  deferredProbeContexts : List Nat := []
  unhealthy : List Nat := []
  closedContexts : List Nat := []
  closedConnections : List Nat := []
  deriving DecidableEq, Repr

namespace Pool

/-- A pool of fresh contexts, all of them available. -/
def initial (size : Nat) : Pool where
  targetSize := size
  contexts := List.range' 1 size
  admission := { available := List.range' 1 size }
  nextGeneration := size + 1

def healthy (pool : Pool) (context : Nat) : Bool := context ∉ pool.unhealthy

/-- The context may go back to the queue. -/
def reusable (pool : Pool) (context : Nat) : Bool :=
  !pool.closed && pool.healthy context && context ∉ pool.closedContexts &&
    context ∈ pool.contexts

def release (pool : Pool) (context : Nat) : Pool :=
  { pool with admission := pool.admission.release context }

def mark (pool : Pool) (contexts : List Nat) : Pool :=
  { pool with
    unhealthy := contexts ++ pool.unhealthy
    closedContexts := contexts ++ pool.closedContexts }

/-- Mark a context and take it out of the pool. -/
def drop (pool : Pool) (context : Nat) : Pool :=
  { pool.mark [context] with
    contexts := pool.contexts.erase context
    admission :=
      { pool.admission with
        available := pool.admission.available.erase context }.invalidateWaiters }

def closeConnection (pool : Pool) (context : Nat) : Pool :=
  { pool with closedConnections := pool.closedConnections ++ [context] }

def removeWaiter (pool : Pool) (waiter : Nat) : Pool :=
  { pool with
    admission := { pool.admission with waiters := pool.admission.waiters.erase waiter } }

end Pool

/-! ## Tasks -/

/-- What follows a replenishment: a request goes on to wait for a context, a
retirement is over, and a quarantine is back in its scope. -/
inductive Next
  | acquire
  | done
  | scope (context : Nat)
  deriving DecidableEq, Repr

/-- Where a thread stands in an operation of the pool. -/
inductive Task
  | replenish (next : Next)
  | building (generation : Nat) (next : Next)
  | discarding (generation : Nat) (next : Next)
  | acquire
  | waiting (waiter epoch : Nat)
  | holding (context : Nat)
  | quarantining (context : Nat)
  | reclaiming (context : Nat)
  | retiring (context : Nat)
  | closingRetired (context : Nat)
  | probing
  | probe (context : Nat)
  | closingProbed (context : Nat)
  | closing
  | closingContexts (contexts : List Nat)
  deriving DecidableEq, Repr

def Next.returned : Next → List Task
  | .acquire => [.acquire]
  | .done => []
  | .scope context => [.holding context]

/-- A failed build ends a request, is suppressed by a retirement, and reaches the scope
of a quarantine. -/
def Next.raised : Next → List Task
  | .acquire | .done => []
  | .scope context => [.holding context]

/-- What a thread meets: nothing in its way, an exception, the end of its patience, or
what a request does with its context. -/
inductive Choice
  | goes
  | fails
  | timesOut
  | leaves (stillInTransaction : Bool)
  | quarantines (expectedGeneration : Nat)
  deriving DecidableEq, Repr

/-- The first critical section of a replenishment. -/
def beginReplenish (pool : Pool) (next : Next) : Pool × List Task :=
  if pool.closed || pool.buildInFlight || pool.targetSize ≤ pool.contexts.length then
    (pool, next.returned)
  else
    ({ pool with buildInFlight := true, nextGeneration := pool.nextGeneration + 1 },
      [.building pool.nextGeneration next])

def failBuild (pool : Pool) (next : Next) : Pool × List Task :=
  ({ pool with buildInFlight := false, admission := pool.admission.invalidateWaiters },
    next.raised)

/-- The second critical section: the context joins the pool if there still is room. -/
def finishBuild (pool : Pool) (generation : Nat) (next : Next) : Pool × List Task :=
  let idle := { pool with buildInFlight := false }
  if !pool.closed && pool.contexts.length < pool.targetSize then
    ({ idle with
        contexts := pool.contexts ++ [generation]
        admission := pool.admission.publish generation },
      next.returned)
  else (idle.mark [generation], [.discarding generation next])

def beginAcquire (pool : Pool) : Pool × List Task :=
  ({ pool with
      admission := { pool.admission with waiters := pool.admission.waiters ++ [pool.nextWaiter] }
      nextWaiter := pool.nextWaiter + 1 },
    [.waiting pool.nextWaiter pool.admission.availabilityEpoch])

/-- One look at the queue by a waiter.  Without a context the waiter waits on, or gives up
where its time is over. -/
def acquire (pool : Pool) (waiter epoch : Nat) (timesOut : Bool) : Option (Pool × List Task) :=
  if pool.admission.closed || !pool.admission.accepting ||
      epoch ≠ pool.admission.availabilityEpoch then
    some (pool.removeWaiter waiter, [])
  else
    match pool.admission.available with
    | context :: rest =>
        if pool.admission.waiters.head? = some waiter then
          some ({ pool.removeWaiter waiter with
              admission :=
                { (pool.removeWaiter waiter).admission with available := rest } },
            [.holding context])
        else if timesOut then some (pool.removeWaiter waiter, []) else none
    | [] => if timesOut then some (pool.removeWaiter waiter, []) else none

def quarantineCurrentContext (pool : Pool) (context expectedGeneration : Nat) :
    Pool × List Task :=
  if context ≠ expectedGeneration || !pool.healthy context || context ∈ pool.closedContexts ||
      context ∉ pool.contexts then
    (pool, [.holding context])
  else (pool.drop context, [.quarantining context])

def retire (pool : Pool) (context : Nat) : Pool × List Task :=
  if context ∈ pool.closedContexts || context ∉ pool.contexts then (pool, [])
  else (pool.drop context, [.closingRetired context])

def reclaim (pool : Pool) (context : Nat) : Pool × List Task :=
  if pool.reusable context then (pool.release context, []) else (pool, [])

/-- The critical section of a probe that is not inside of a request scope. -/
def isReady (pool : Pool) : Pool × List Task :=
  if pool.closed || pool.buildInFlight || pool.contexts.length < pool.targetSize then (pool, [])
  else
    match pool.admission.available with
    | [] => (pool, [])
    | context :: rest =>
        ({ pool with
            admission := { pool.admission with available := rest }
            probeCalls := pool.probeCalls ++ [context] },
          [.probe context])

def releaseProbeContext (pool : Pool) (context : Nat) : Pool × List Task :=
  let deferred := context ∈ pool.deferredProbeContexts
  let released :=
    { pool with
      probeCalls := pool.probeCalls.filter (· ≠ context)
      deferredProbeContexts := pool.deferredProbeContexts.erase context }
  if released.reusable context then (released.release context, [])
  else if deferred then (released, [.closingProbed context])
  else (released, [])

def close (pool : Pool) : Pool × List Task :=
  if pool.closed then (pool, [])
  else
    ({ pool.mark pool.contexts with
        closed := true
        contexts := []
        admission := pool.admission.close
        deferredProbeContexts := pool.deferredProbeContexts ++ pool.probeCalls },
      [.closingContexts (pool.contexts.filter (· ∉ pool.probeCalls))])

/-- Close the service of a context and then its connection.  The first may raise, and
then the connection stays open. -/
def closeContext
    (pool : Pool)
    (context : Nat)
    (raises : Bool)
    (returned raised : List Task) : Pool × List Task :=
  if raises then (pool, raised) else (pool.closeConnection context, returned)

def step (choice : Choice) (pool : Pool) : Task → Option (Pool × List Task)
  | .replenish next => some (beginReplenish pool next)
  | .building generation next =>
      if choice = .fails then some (failBuild pool next)
      else some (finishBuild pool generation next)
  | .discarding generation next =>
      some (closeContext pool generation (choice = .fails) next.returned next.raised)
  | .acquire => some (beginAcquire pool)
  | .waiting waiter epoch => acquire pool waiter epoch (choice = .timesOut)
  | .holding context =>
      match choice with
      | .quarantines expectedGeneration =>
          some (quarantineCurrentContext pool context expectedGeneration)
      | .leaves true => some (pool, [.retiring context])
      | .leaves false => some (pool, [.reclaiming context])
      | _ => none
  | .quarantining context =>
      some (closeContext pool context (choice = .fails) [.replenish (.scope context)]
        [.holding context])
  | .reclaiming context => some (reclaim pool context)
  | .retiring context => some (retire pool context)
  -- A retirement suppresses what the service raises.
  | .closingRetired context => some (closeContext pool context false [.replenish .done] [])
  | .probing => some (isReady pool)
  | .probe context => some (releaseProbeContext pool context)
  | .closingProbed context => some (closeContext pool context (choice = .fails) [] [])
  | .closing => some (close pool)
  | .closingContexts [] => some (pool, [])
  | .closingContexts (context :: rest) =>
      some (closeContext pool context (choice = .fails) [.closingContexts rest] [])

def interleaving : Interleaving Pool Task Choice where
  step := step

/-- What a thread may start: a request, a replenishment, a probe, or the shutdown. -/
def Task.starts : Task → Bool
  | .replenish .acquire | .replenish .done | .probing | .closing => true
  | _ => false

end SqlitePool
end Vinctor
