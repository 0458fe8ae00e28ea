import Mathlib.Logic.Function.Basic
import Vinctor.Service.IdempotencyTransactions

/-!
# Runs of idempotent execution

Any number of executions over one database.  An execution reads the epoch and
looks its result up, reserves a nonce, looks up again, claims the reservation
and completes; each lookup and each transaction is one step, and steps of
different executions interleave.  A transaction may be rolled back, or commit
without its caller learning of it, and an execution may die between two steps.
Services start with keyrings of their own, and garbage is collected at any time.

The world also records what no table holds: which executions called their
mutation, every call of the cipher, and the mutations that were committed.
-/

namespace Vinctor
namespace Idempotency

open Foundation

/-- How an execution ended. -/
inductive Reply
  | responded (response : PreSerializedHttpResponse)
  | raised (error : IdempotencyError)
  | crashed
  deriving DecidableEq, Repr

/-- What an execution does next, with the values it carries there. -/
inductive Stage
  | starting
  | lookingUp (nowEpoch : Int)
  | reserving (nowEpoch : Int)
  | disabling (version : String) (reason : WriteDisabledReason) (nowEpoch : Int)
  | reserved (reservation : CryptoReservation)
  | lookingAgain (reservation : CryptoReservation) (nowEpoch : Int)
  | claiming (reservation : CryptoReservation)
  | completing (reservation : CryptoReservation)
  | finished (reply : Reply)
  deriving DecidableEq, Repr

/-- The reservation that an execution may still use. -/
def Stage.held : Stage → Option CryptoReservation
  | .reserved reservation => some reservation
  | .lookingAgain reservation _ => some reservation
  | .claiming reservation => some reservation
  | .completing reservation => some reservation
  | _ => none

/-- One call of the executor. -/
structure Execution (β : Type u) where
  keyring : Option IdempotencyKeyring
  invocation : IdempotencyInvocation
  mutation : IdempotencyMutation β
  stage : Stage

/-- A mutation whose transaction committed, with the expiry of its result where
one was stored. -/
structure CommittedMutation where
  execution : Nat
  invocation : IdempotencyInvocation
  nowEpoch : Int
  response : PreSerializedHttpResponse
  expiresAtEpoch : Option Int
  deriving DecidableEq, Repr

structure World (β : Type u) where
  epoch : Int
  tables : Tables
  rest : β
  accepted : List (Option IdempotencyKeyring)
  opened : List (Option IdempotencyKeyring)
  executions : Nat → Option (Execution β)
  calls : List Nat
  encryptions : List Encryption
  mutations : List CommittedMutation

/-- How far a transaction that is rolled back had come. -/
inductive Interruption
  | beforeBody
  | afterMutation
  | afterBody
  deriving DecidableEq, Repr

/-- How a transaction ends: its commit is reported, it is rolled back, or it
takes effect without a report. -/
inductive Fate
  | commits
  | rollsBack (interruption : Interruption)
  | unreported
  deriving DecidableEq, Repr

/-- What the surroundings decide about one step of an execution. -/
structure Surroundings where
  readFails : Bool := false
  nonce : Option Bytes := none
  fate : Fate := .commits
  deriving DecidableEq, Repr

inductive Operation (β : Type u)
  | tick (seconds : Nat)
  | change (rest : β)
  | register (env : Dict String String) (exactNonceCounts : Bool) (fate : Fate)
  | openStore (keyring : Option IdempotencyKeyring) (fate : Fate)
  | begin (execution : Nat) (keyring : Option IdempotencyKeyring)
      (invocation : IdempotencyInvocation) (mutation : IdempotencyMutation β)
  | advance (execution : Nat) (surroundings : Surroundings)
  | crash (execution : Nat)
  | collectGarbage (keyring : Option IdempotencyKeyring) (limit : Int) (fate : Fate)

section Steps

variable {β : Type u}

/-- A database with empty tables, before any service starts. -/
def World.initial (epoch : Int) (rest : β) : World β where
  epoch := epoch
  tables := Tables.empty
  rest := rest
  accepted := []
  opened := []
  executions := fun _ => none
  calls := []
  encryptions := []
  mutations := []

/-- Set the stage of an execution. -/
def World.move
    (world : World β)
    (id : Nat)
    (execution : Execution β)
    (stage : Stage) : World β :=
  { world with
    executions := Function.update world.executions id (some { execution with stage }) }

theorem World.executions_move
    (world : World β)
    (id : Nat)
    (execution : Execution β)
    (stage : Stage)
    (other : Nat) :
    (world.move id execution stage).executions other =
      if other = id then some { execution with stage } else world.executions other := by
  simp only [World.move, Function.update_apply]

def World.finish
    (world : World β)
    (id : Nat)
    (execution : Execution β)
    (reply : Reply) : World β :=
  world.move id execution (.finished reply)

/-- The mutation call and the cipher call of a completion, as far as it came. -/
def World.observe
    (world : World β)
    (id : Nat)
    (fate : Fate)
    (completion : Completion β) : World β :=
  match fate with
  | .rollsBack .beforeBody => world
  | .rollsBack .afterMutation =>
      { world with calls := world.calls ++ if completion.called then [id] else [] }
  | _ =>
      { world with
        calls := world.calls ++ (if completion.called then [id] else [])
        encryptions := world.encryptions ++ completion.encryption.toList }

/-- The effect of a completion that takes effect. -/
def World.complete
    (world : World β)
    (id : Nat)
    (invocation : IdempotencyInvocation) : Completed β → World β
  | .replayed _ => world
  | .unstored response tables rest =>
      { world with
        tables
        rest
        mutations := world.mutations ++
          [{ execution := id, invocation, nowEpoch := world.epoch, response,
             expiresAtEpoch := none }] }
  | .stored response expiresAtEpoch tables rest =>
      { world with
        tables
        rest
        mutations := world.mutations ++
          [{ execution := id, invocation, nowEpoch := world.epoch, response,
             expiresAtEpoch := some expiresAtEpoch }] }

def Completed.response : Completed β → PreSerializedHttpResponse
  | .replayed response => response
  | .unstored response _ _ => response
  | .stored response _ _ _ => response

/-- Database errors reach the caller as an unavailable write. -/
def replyError : IdempotencyError → IdempotencyError
  | .integrityError => .writeUnavailable
  | .sqliteError => .writeUnavailable
  | error => error

/-- Outside a transaction an unavailable result of the second lookup is an
unavailable write. -/
def secondLookupError : IdempotencyError → IdempotencyError
  | .resultUnavailable => .writeUnavailable
  | error => error

/-- The reply of a transaction with a given end, when its body succeeded. -/
def Fate.stage (fate : Fate) (next : Stage) : Stage :=
  match fate with
  | .commits => next
  | _ => .finished (.raised .writeUnavailable)

/-- The tables after a transaction, where it takes effect. -/
def Fate.keep (fate : Fate) (before after : α) : α :=
  match fate with
  | .rollsBack _ => before
  | _ => after

/-- The reservation transaction. -/
def World.reserve
    (world : World β)
    (id : Nat)
    (execution : Execution β)
    (surroundings : Surroundings)
    (nowEpoch : Int) : World β :=
  match execution.keyring with
  | none => world.finish id execution (.raised .writeUnavailable)
  | some keyring =>
      match surroundings.fate with
      | .rollsBack _ => world.finish id execution (.raised .writeUnavailable)
      | fate =>
          let version := keyring.activeVersion
          match reserveNonce version execution.invocation nowEpoch surroundings.nonce
              world.tables with
          | .error .hardLimitReached =>
              world.move id execution (.disabling version .hardLimit nowEpoch)
          | .error .nonceCollision =>
              world.move id execution (.disabling version .nonceCollision nowEpoch)
          | .error (.raised error) => world.finish id execution (.raised (replyError error))
          | .ok (reservation, tables) =>
              { world with tables }.move id execution (fate.stage (.reserved reservation))

/-- The transaction that disables a version after a failed reservation. -/
def World.disable
    (world : World β)
    (id : Nat)
    (execution : Execution β)
    (fate : Fate)
    (version : String)
    (reason : WriteDisabledReason)
    (nowEpoch : Int) : World β :=
  match writeDisable version reason nowEpoch world.tables with
  | .error error => world.finish id execution (.raised error)
  | .ok tables =>
      { world with tables := fate.keep world.tables tables }.finish id execution
        (.raised (match fate with | .rollsBack _ => .sqliteError | _ => .writeUnavailable))

/-- The claim transaction. -/
def World.claim
    (world : World β)
    (id : Nat)
    (execution : Execution β)
    (fate : Fate)
    (reservation : CryptoReservation) : World β :=
  match claimReservation execution.invocation reservation world.epoch world.tables with
  | .error error => world.finish id execution (.raised (replyError error))
  | .ok tables =>
      { world with tables := fate.keep world.tables tables }.move id execution
        (fate.stage (.completing reservation))

/-- The completion transaction. -/
def World.completion
    (aead : Aead)
    (world : World β)
    (id : Nat)
    (execution : Execution β)
    (fate : Fate)
    (reservation : CryptoReservation) : World β :=
  let completion := completeInTransaction aead execution.keyring execution.invocation
    reservation execution.mutation world.epoch world.tables world.rest
  let observed := world.observe id fate completion
  match fate, completion.result with
  | .rollsBack _, _ => observed.finish id execution (.raised .writeUnavailable)
  | _, .error error => observed.finish id execution (.raised (replyError error))
  | fate, .ok completed =>
      (observed.complete id execution.invocation completed).move id execution
        (fate.stage (.finished (.responded completed.response)))

/-- One step of an execution. -/
def World.advance
    (aead : Aead)
    (world : World β)
    (id : Nat)
    (execution : Execution β)
    (surroundings : Surroundings) : World β :=
  match execution.stage with
  | .starting =>
      if surroundings.readFails then
        world.finish id execution (.raised .resultUnavailable)
      else world.move id execution (.lookingUp world.epoch)
  | .lookingUp nowEpoch =>
      if surroundings.readFails then
        world.finish id execution (.raised .resultUnavailable)
      else
        match lookup aead execution.keyring world.tables execution.invocation nowEpoch with
        | .error error => world.finish id execution (.raised error)
        | .ok (.replayCandidate response) =>
            world.finish id execution (.responded response)
        | .ok .proceedToReservation => world.move id execution (.reserving nowEpoch)
  | .reserving nowEpoch => world.reserve id execution surroundings nowEpoch
  | .disabling version reason nowEpoch =>
      world.disable id execution surroundings.fate version reason nowEpoch
  | .reserved reservation =>
      if surroundings.readFails then
        world.finish id execution (.raised .writeUnavailable)
      else world.move id execution (.lookingAgain reservation world.epoch)
  | .lookingAgain reservation nowEpoch =>
      if surroundings.readFails then
        world.finish id execution (.raised .writeUnavailable)
      else
        match lookup aead execution.keyring world.tables execution.invocation nowEpoch with
        | .error error => world.finish id execution (.raised (secondLookupError error))
        | .ok (.replayCandidate response) =>
            world.finish id execution (.responded response)
        | .ok .proceedToReservation => world.move id execution (.claiming reservation)
  | .claiming reservation => world.claim id execution surroundings.fate reservation
  | .completing reservation =>
      world.completion aead id execution surroundings.fate reservation
  | .finished _ => world

/-- One step of the world. -/
def step (sha256 : Bytes → Bytes) (aead : Aead) (world : World β) : Operation β → World β
  | .tick seconds => { world with epoch := world.epoch + seconds }
  | .change rest => { world with rest }
  | .register env exactNonceCounts fate =>
      match loadIdempotencyKeyring sha256 env with
      | .error _ => world
      | .ok keyring =>
          match registerSqliteIdempotencyKeyring keyring exactNonceCounts world.epoch
              world.tables with
          | .error _ => world
          | .ok tables =>
              { world with
                tables := fate.keep world.tables tables
                accepted :=
                  if fate = .commits then keyring :: world.accepted else world.accepted }
  | .openStore keyring fate =>
      if keyring ∈ world.accepted then
        match registerKeyring keyring world.epoch world.tables with
        | .error _ => world
        | .ok tables =>
            { world with
              tables := fate.keep world.tables tables
              opened := if fate = .commits then keyring :: world.opened else world.opened }
      else world
  | .begin id keyring invocation mutation =>
      if keyring ∈ world.opened ∧ (world.executions id).isNone then
        world.move id { keyring, invocation, mutation, stage := .starting } .starting
      else world
  | .advance id surroundings =>
      match world.executions id with
      | none => world
      | some execution => world.advance aead id execution surroundings
  | .crash id =>
      match world.executions id with
      | none => world
      | some execution =>
          match execution.stage with
          | .finished _ => world
          | _ => world.finish id execution .crashed
  | .collectGarbage keyring limit fate =>
      if keyring ∈ world.opened then
        match gcResults aead keyring limit world.epoch world.tables with
        | .error _ => world
        | .ok (_, tables) => { world with tables := fate.keep world.tables tables }
      else world

/-- World after a run. -/
def run
    (sha256 : Bytes → Bytes)
    (aead : Aead)
    (world : World β)
    (operations : List (Operation β)) : World β :=
  operations.foldl (step sha256 aead) world

end Steps

end Idempotency
end Vinctor
