import Vinctor.Foundation.GuardedLog

/-!
# Post-commit emissions of the Postgres connection

Threads share one connection to the database.  A scope holds the lock of the
connection from its entry to its exit, so only one thread has open scopes; a
write of the audit log runs in a scope of its own and hands over its emissions
after it has left that scope.  An emission waits for the outermost scope of the
transaction, or runs at once when the connection is idle.

An exception inside a scope unwinds the scope or is caught in its body; what
the body does is open.  The record of rows, emissions and exceptions is not
part of the program.
-/

namespace Vinctor
namespace PostgresConnection

open Foundation.GuardedLog

/-! ## Writes and their emissions -/

/-- What a write publishes after the commit: an anchor of the chain and, when
the writer exports, a copy of the event. -/
inductive Sink
  | anchor
  | exporter
  deriving DecidableEq, Repr

/-- The row of a write, numbered by calls. -/
structure Row where
  number : Nat
  exported : Bool
  deriving DecidableEq, Repr

def Row.sinks (row : Row) : List Sink :=
  if row.exported then [.anchor, .exporter] else [.anchor]

abbrev Emission := Row × Sink

def emissionsOf (row : Row) (sinks : List Sink) : List Emission :=
  sinks.map fun sink => (row, sink)

structure Call where
  row : Row
  bestEffort : Bool
  deriving DecidableEq, Repr

/-- What made a write raise an exception. -/
inductive Failure
  | scope
  | ambiguousCommit
  | emission
  deriving DecidableEq, Repr

/-- Whether the caller of a write sees an exception.  A best-effort write
catches those of its scope, and the exporting one all of them. -/
def Call.surfaces (call : Call) : Failure → Bool
  | .emission => !(call.bestEffort && call.row.exported)
  | _ => !call.bestEffort

/-! ## The driver's connection -/

/-- A connection of the driver: its session at the server, until it breaks. -/
structure Link where
  session : Session Row
  broken : Bool
  deriving DecidableEq, Repr

namespace Link

def fresh : Link where
  session := .idle
  broken := false

def lost : Link where
  session := .idle
  broken := true

/-- A broken connection reports a status that is not idle. -/
def inTransaction (link : Link) : Bool := link.broken || !link.session.scopes.isEmpty

/-- Whether the server refuses the next statement. -/
def refuses (link : Link) : Bool := link.broken || link.session.failed

/-- A statement that changes the session when it succeeds. -/
def statement (link : Link) (ending : Ending) (success : Session Row) : Link :=
  match ending with
  | .succeeds => if link.refuses then link else { link with session := success }
  | .fails => if link.broken then link else { link with session := link.session.fail }
  | .lost _ => lost

end Link

/-! ## Threads -/

/-- An open scope: whether it opened the transaction, and the generation of the
connection at its entry. -/
structure Frame where
  boundary : Bool
  generation : Nat
  deriving DecidableEq, Repr

/-- What a thread is at.  The innermost scope of a thread that writes is the one
of the write. -/
inductive Activity
  | running
  | writing (call : Call) (written : Bool)
  | emitting (call : Call) (boundary : Bool) (sinks : List Sink)
  | emittingInline (call : Call) (boundary : Bool) (sink : Sink) (sinks : List Sink)
  deriving DecidableEq, Repr

structure Thread where
  frames : List Frame
  activity : Activity
  deriving DecidableEq, Repr

/-- Rows by how their transaction was committed, emissions that ran, and writes
whose caller saw an exception. -/
structure Record where
  calls : Nat
  committed : List Row
  ambiguous : List Row
  emitted : List Emission
  raised : List (Row × Failure)

/-- The connection that the threads share. -/
structure World (τ : Type u) where
  connection : Option Link
  generation : Nat
  quarantined : Bool
  /-- Emissions that wait for the open scopes, innermost first. -/
  deferralScopes : List (List Emission)
  /-- The thread that holds the lock inside a scope. -/
  owner : Option τ
  threads : τ → Thread
  record : Record

section Steps

variable {τ : Type u} [DecidableEq τ]

def World.initial : World τ where
  connection := some .fresh
  generation := 1
  quarantined := false
  deferralScopes := []
  owner := none
  threads := fun _ => { frames := [], activity := .running }
  record := { calls := 0, committed := [], ambiguous := [], emitted := [], raised := [] }

namespace World

/-- Whether a thread gets the lock. -/
def lockFree (world : World τ) (thread : τ) : Bool :=
  world.owner = none || world.owner = some thread

def activity (world : World τ) (thread : τ) : Activity := (world.threads thread).activity

def frames (world : World τ) (thread : τ) : List Frame := (world.threads thread).frames

def withConnection (world : World τ) (link : Link) : World τ :=
  { world with connection := some link }

def withActivity (world : World τ) (thread : τ) (activity : Activity) : World τ :=
  { world with
    threads := Function.update world.threads thread { world.threads thread with activity } }

/-- Other scopes of a thread, which has the lock while there are any. -/
def withFrames (world : World τ) (thread : τ) (frames : List Frame) : World τ :=
  { world with
    threads := Function.update world.threads thread { world.threads thread with frames }
    owner := if frames.isEmpty then none else some thread }

/-- A write ends with an exception. -/
def raise (world : World τ) (thread : τ) (call : Call) (failure : Failure) : World τ :=
  { world.withActivity thread .running with
    record :=
      if call.surfaces failure then
        { world.record with raised := world.record.raised ++ [(call.row, failure)] }
      else world.record }

end World

/-! ## The connection object -/

/-- The connection to use, after an attempt to replace one that is missing or
broken.  It is not replaced while scopes are open. -/
def activeConnection (world : World τ) (reconnects : Bool) : Option Link × World τ :=
  if !world.deferralScopes.isEmpty then (world.connection, world)
  else
    match world.connection with
    | some link =>
        if !link.broken then (some link, world)
        else if reconnects then
          (some .fresh,
            { world with
              connection := some .fresh
              generation := world.generation + 1
              quarantined := false })
        else
          (none,
            { world with
              connection := none
              generation := world.generation + 1
              quarantined := true })
    | none =>
        if reconnects then
          (some .fresh, { world with connection := some .fresh, quarantined := false })
        else (none, world)

def quarantineLocked (world : World τ) (expectedGeneration : Nat) : World τ :=
  if expectedGeneration ≠ world.generation ∨ world.quarantined ∨ world.connection = none then
    world
  else
    { world with
      connection := none
      generation := world.generation + 1
      quarantined := true
      deferralScopes := [] }

/-- Entry of a scope, and whether it was entered. -/
def openScope
    (world : World τ)
    (thread : τ)
    (reconnects : Bool)
    (ending : Ending) : Bool × World τ :=
  match activeConnection world reconnects with
  | (none, world) => (false, world)
  | (some link, world) =>
      let world := world.withConnection (link.statement ending link.session.enter)
      if ending = .succeeds ∧ link.refuses = false then
        let frame := { boundary := !link.inTransaction, generation := world.generation }
        (true,
          { world.withFrames thread (frame :: world.frames thread) with
            deferralScopes := [] :: world.deferralScopes })
      else (false, world)

/-- A savepoint that was released hands its emissions to the enclosing scope. -/
def handOver (scope : List Emission) : List (List Emission) → List (List Emission)
  | [] => []
  | parent :: outer => (parent ++ scope) :: outer

/-- Exit of the innermost scope without an exception of its body, and what made
the exit raise one. -/
def leaveScope
    (world : World τ)
    (thread : τ)
    (ending : Ending) : Option Failure × World τ :=
  match world.connection, world.deferralScopes, world.frames thread with
  | some link, scope :: scopes, frame :: frames =>
      let world := { world.withFrames thread frames with deferralScopes := scopes }
      let (rows, session) := link.session.leave ending
      if link.broken then
        -- The commit of a broken connection fails like an ambiguous one.
        if frame.boundary then (some .ambiguousCommit, quarantineLocked world frame.generation)
        else (some .scope, world)
      else
        match ending with
        | .lost _ =>
            let world := world.withConnection .lost
            if frame.boundary then
              let record :=
                { world.record with ambiguous := world.record.ambiguous ++ rows }
              (some .ambiguousCommit, quarantineLocked { world with record } frame.generation)
            else (some .scope, world)
        | .fails => (some .scope, world.withConnection { link with session })
        | .succeeds =>
            let world := world.withConnection { link with session }
            if frame.boundary then
              (none,
                { world with
                  record :=
                    { world.record with
                      committed := world.record.committed ++ rows
                      emitted := world.record.emitted ++ scope } })
            else if link.session.failed then (some .scope, world)
            else (none, { world with deferralScopes := handOver scope scopes })
  | _, _, _ => (none, world)

/-- Exit of the innermost scope with an exception of its body. -/
def unwindScope (world : World τ) (thread : τ) (ending : Ending) : World τ :=
  match world.connection, world.deferralScopes, world.frames thread with
  | some link, _ :: scopes, _ :: frames =>
      let world := { world.withFrames thread frames with deferralScopes := scopes }
      if link.broken then world
      else
        match ending with
        | .lost _ => world.withConnection .lost
        | ending => world.withConnection { link with session := link.session.unwind ending }
  | _, _, _ => world

/-- A statement outside of the writes.  Without a transaction, the driver opens
one that no scope tracks. -/
def execute (world : World τ) (reconnects : Bool) (ending : Ending) : World τ :=
  match activeConnection world reconnects with
  | (none, world) => world
  | (some link, world) =>
      let link :=
        if link.inTransaction then link else { link with session := link.session.enter }
      world.withConnection (link.statement ending link.session)

/-! ## Writes -/

/-- Start of a write: its scope is entered. -/
def startWrite
    (world : World τ)
    (thread : τ)
    (exported bestEffort reconnects : Bool)
    (ending : Ending) : World τ :=
  let call : Call := { row := { number := world.record.calls, exported }, bestEffort }
  let counted :=
    { world with record := { world.record with calls := world.record.calls + 1 } }
  match openScope counted thread reconnects ending with
  | (true, world) => world.withActivity thread (.writing call false)
  | (false, world) => world.raise thread call .scope

/-- The statements of a write: the lock of the chain is taken, its head read and
the row inserted. -/
def writeEvent
    (world : World τ)
    (thread : τ)
    (call : Call)
    (ending : Ending) : World τ :=
  match world.connection with
  | none => world
  | some link =>
      let world :=
        world.withConnection (link.statement ending (link.session.lock.append call.row))
      if ending = .succeeds ∧ link.refuses = false then
        world.withActivity thread (.writing call true)
      else world

/-- Whether the innermost scope of a thread opened the transaction. -/
def atBoundary (world : World τ) (thread : τ) : Bool :=
  (world.frames thread).head?.any (·.boundary)

/-- Exit of the scope of a write. -/
def finishWrite
    (world : World τ)
    (thread : τ)
    (call : Call)
    (ending : Ending) : World τ :=
  match leaveScope world thread ending with
  | (none, left) =>
      left.withActivity thread (.emitting call (atBoundary world thread) call.row.sinks)
  | (some failure, left) => left.raise thread call failure

/-- The write goes on to its next sink, or returns. -/
def nextSink (call : Call) (boundary : Bool) (sinks : List Sink) : Activity :=
  if sinks.isEmpty then .running else .emitting call boundary sinks

/-- An emission is handed to the innermost open scope, runs next, or is dropped
because a transaction is open that no scope tracks. -/
def emitOrDefer
    (world : World τ)
    (thread : τ)
    (call : Call)
    (boundary : Bool)
    (sink : Sink)
    (sinks : List Sink) : World τ :=
  match world.deferralScopes with
  | scope :: scopes =>
      { world.withActivity thread (nextSink call boundary sinks) with
        deferralScopes := (scope ++ [(call.row, sink)]) :: scopes }
  | [] =>
      match world.connection with
      -- The status of a missing connection is asked for, which raises an error.
      | none => world.raise thread call .emission
      | some link =>
          if link.inTransaction then
            world.withActivity thread (nextSink call boundary sinks)
          else world.withActivity thread (.emittingInline call boundary sink sinks)

/-- An emission runs; what it raises is caught. -/
def emitInline
    (world : World τ)
    (thread : τ)
    (call : Call)
    (boundary : Bool)
    (sink : Sink)
    (sinks : List Sink) : World τ :=
  { world.withActivity thread (nextSink call boundary sinks) with
    record :=
      { world.record with emitted := world.record.emitted ++ [(call.row, sink)] } }

/-! ## Runs -/

/-- What a thread can do next.  The endings are those of the statements it
sends, and a replacement connection is found or not. -/
inductive Operation (τ : Type u)
  | enter (thread : τ) (reconnects : Bool) (ending : Ending)
  | leave (thread : τ) (ending : Ending)
  | unwind (thread : τ) (ending : Ending)
  | execute (thread : τ) (reconnects : Bool) (ending : Ending)
  | write (thread : τ) (exported bestEffort reconnects : Bool) (ending : Ending)
  | writeEvent (thread : τ) (ending : Ending)
  | emit (thread : τ)
  | emitInline (thread : τ)
  | quarantine (thread : τ) (expectedGeneration : Nat)

def step (world : World τ) : Operation τ → World τ
  | .enter thread reconnects ending =>
      if world.lockFree thread && world.activity thread = .running then
        (openScope world thread reconnects ending).2
      else world
  | .leave thread ending =>
      match world.activity thread with
      | .running => (leaveScope world thread ending).2
      | .writing call true => finishWrite world thread call ending
      | _ => world
  | .unwind thread ending =>
      match world.activity thread with
      | .running => unwindScope world thread ending
      | .writing call _ => (unwindScope world thread ending).raise thread call .scope
      | _ => world
  | .execute thread reconnects ending =>
      if world.lockFree thread && world.activity thread = .running then
        execute world reconnects ending
      else world
  | .write thread exported bestEffort reconnects ending =>
      if world.lockFree thread && world.activity thread = .running then
        startWrite world thread exported bestEffort reconnects ending
      else world
  | .writeEvent thread ending =>
      match world.activity thread with
      | .writing call false => writeEvent world thread call ending
      | _ => world
  | .emit thread =>
      match world.activity thread with
      | .emitting call boundary (sink :: sinks) =>
          if world.lockFree thread then emitOrDefer world thread call boundary sink sinks
          else world
      | _ => world
  | .emitInline thread =>
      match world.activity thread with
      | .emittingInline call boundary sink sinks =>
          emitInline world thread call boundary sink sinks
      | _ => world
  -- A caller that learnt of an ambiguous commit, outside of its scopes.
  | .quarantine thread expectedGeneration =>
      if world.lockFree thread && world.activity thread = .running &&
          (world.frames thread).isEmpty then
        quarantineLocked world expectedGeneration
      else world

/-- World after a run. -/
def run (world : World τ) (operations : List (Operation τ)) : World τ :=
  operations.foldl step world

end Steps

end PostgresConnection
end Vinctor
