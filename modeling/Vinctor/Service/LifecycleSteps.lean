import Vinctor.Service.IdempotencyLifecycle
import Vinctor.Service.IdempotencySteps

/-!
# What one step does to the tables

Every step of a run, lifecycle calls included, leaves the tables alone or is
one transaction.  Statements about the tables are proved for each transaction
and hold along every run.
-/

namespace Vinctor
namespace Idempotency

open Foundation
open Fallible

/-- The transactions that a step may commit at an epoch. -/
inductive Transaction (aead : Aead) (epoch : Int) (before : Tables) : Tables → Prop
  | idle : Transaction aead epoch before before
  | registers
      {keyring : Option IdempotencyKeyring}
      {exactNonceCounts : Bool}
      {after : Tables}
      (registers : registerSqliteIdempotencyKeyring keyring exactNonceCounts epoch before =
        .ok after) :
      Transaction aead epoch before after
  | opens
      {keyring : Option IdempotencyKeyring}
      {after : Tables}
      (opens : registerKeyring keyring epoch before = .ok after) :
      Transaction aead epoch before after
  | reserves
      {version : String}
      {invocation : IdempotencyInvocation}
      {nowEpoch : Int}
      {nonce : Option Bytes}
      {reservation : CryptoReservation}
      {after : Tables}
      (reserves : reserveNonce version invocation nowEpoch nonce before =
        .ok (reservation, after)) :
      Transaction aead epoch before after
  | disables
      {version : String}
      {reason : WriteDisabledReason}
      {nowEpoch : Int}
      {after : Tables}
      (disables : writeDisable version reason nowEpoch before = .ok after) :
      Transaction aead epoch before after
  | claims
      {invocation : IdempotencyInvocation}
      {reservation : CryptoReservation}
      {nowEpoch : Int}
      {after : Tables}
      (claims : claimReservation invocation reservation nowEpoch before = .ok after) :
      Transaction aead epoch before after
  | skips
      {keyring : Option IdempotencyKeyring}
      {invocation : IdempotencyInvocation}
      {reservation : CryptoReservation}
      {after : Tables}
      (proceeds : prepareCompletion aead keyring invocation reservation epoch before =
        .ok (.proceed after)) :
      Transaction aead epoch before after
  | stores
      {keyring : Option IdempotencyKeyring}
      {invocation : IdempotencyInvocation}
      {reservation : CryptoReservation}
      {response : PreSerializedHttpResponse}
      {expiresAtEpoch : Int}
      {key : IdempotencyKeyVersion}
      {call : CipherCall}
      {ciphertext : Option Bytes}
      {prepared after : Tables}
      (proceeds : prepareCompletion aead keyring invocation reservation epoch before =
        .ok (.proceed prepared))
      (encrypts : encryptOutcome keyring invocation reservation response epoch
        expiresAtEpoch = .ok (key, call))
      (stores : storeOutcome invocation reservation response epoch expiresAtEpoch key call
        ciphertext prepared = .ok after) :
      Transaction aead epoch before after
  | collects
      {keyring : Option IdempotencyKeyring}
      {limit : Int}
      {collected : Nat}
      {after : Tables}
      (collects : gcResults aead keyring limit epoch before = .ok (collected, after)) :
      Transaction aead epoch before after
  | rotates
      {version : String}
      {reason : WriteDisabledReason}
      {after : Tables}
      (rotates : writeDisableUpdate version reason epoch before = .ok after) :
      Transaction aead epoch before after
  | drains
      {version : String}
      {after : Tables}
      (drains : completeDrainUpdate version epoch before = .ok after) :
      Transaction aead epoch before after
  | retires
      {keyring : IdempotencyKeyring}
      {version : String}
      {updateEpoch : Int}
      {after : Tables}
      (retires : retireLifecycleVersion aead keyring version epoch updateEpoch before =
        .ok after) :
      Transaction aead epoch before after

/-- A transaction that is rolled back leaves the tables alone. -/
theorem Fate.keep_transaction
    {aead : Aead}
    {epoch : Int}
    (fate : Fate)
    {before after : Tables}
    (transaction : Transaction aead epoch before after) :
    Transaction aead epoch before (fate.keep before after) := by
  cases fate with
  | rollsBack interruption => exact .idle
  | commits => exact transaction
  | unreported => exact transaction

section Steps

variable {β : Type u}

theorem CompletionStep.transaction
    {aead : Aead}
    {world after : World β}
    {id : Nat}
    {execution : Execution β}
    {reservation : CryptoReservation}
    (completes : CompletionStep aead world id execution reservation after) :
    Transaction aead world.epoch world.tables after.tables := by
  cases completes with
  | refuses reply => exact .idle
  | calls reply proceeds => exact .idle
  | encrypts reply proceeds encrypts => exact .idle
  | skips reply proceeds => exact .skips proceeds
  | stores reply proceeds encrypts stores => exact .stores proceeds encrypts stores

theorem World.advance_transaction
    (aead : Aead)
    (world : World β)
    (id : Nat)
    (execution : Execution β)
    (surroundings : Surroundings) :
    Transaction aead world.epoch world.tables
      (world.advance aead id execution surroundings).tables := by
  unfold World.advance
  cases execution.stage with
  | starting | reserved =>
      dsimp only
      split <;> exact .idle
  | lookingUp | lookingAgain =>
      dsimp only
      split
      · exact .idle
      · split <;> exact .idle
  | reserving nowEpoch =>
      dsimp only
      unfold World.reserve
      split
      · exact .idle
      · split
        · exact .idle
        · dsimp only
          split
          · exact .idle
          · exact .idle
          · exact .idle
          · next reserves => exact .reserves reserves
  | disabling version reason nowEpoch =>
      dsimp only
      unfold World.disable
      split
      · exact .idle
      · next disables => exact Fate.keep_transaction _ (.disables disables)
  | claiming reservation =>
      dsimp only
      unfold World.claim
      split
      · exact .idle
      · next claims => exact Fate.keep_transaction _ (.claims claims)
  | completing reservation =>
      exact (world.completion_step aead id execution _ reservation).transaction
  | finished reply => exact .idle

theorem step_transaction
    (sha256 : Bytes → Bytes)
    (aead : Aead)
    (world : World β)
    (operation : Operation β) :
    Transaction aead world.epoch world.tables (step sha256 aead world operation).tables := by
  cases operation with
  | tick | change => exact .idle
  | register env exactNonceCounts fate =>
      simp only [step]
      split
      · exact .idle
      · split
        · exact .idle
        · next registers => exact Fate.keep_transaction _ (.registers registers)
  | openStore keyring fate =>
      simp only [step]
      split
      · split
        · exact .idle
        · next opens => exact Fate.keep_transaction _ (.opens opens)
      · exact .idle
  | begin id keyring invocation mutation =>
      simp only [step]
      split <;> exact .idle
  | advance id surroundings =>
      simp only [step]
      split
      · exact .idle
      · next execution _ => exact world.advance_transaction aead id execution surroundings
  | crash id =>
      simp only [step]
      split
      · exact .idle
      · split <;> exact .idle
  | collectGarbage keyring limit fate =>
      simp only [step]
      split
      · split
        · exact .idle
        · next collects => exact Fate.keep_transaction _ (.collects collects)
      · exact .idle

/-- A transaction at the end of a call. -/
theorem LifecycleWorld.transact_transaction
    {aead : Aead}
    (world : LifecycleWorld β)
    (id : Nat)
    (call : LifecycleCall)
    (surroundings : LifecycleSurroundings)
    {body : Tables → Except LifecycleError Tables}
    (commits : ∀ {after}, body world.tables = .ok after →
      Transaction aead world.epoch world.tables after) :
    Transaction aead world.epoch world.tables
      (world.transact id call surroundings body).tables := by
  unfold LifecycleWorld.transact
  split
  · exact .idle
  · next succeeds => exact Fate.keep_transaction _ (commits succeeds)

theorem LifecycleWorld.checked_tables
    (world : LifecycleWorld β)
    (id : Nat)
    (call : LifecycleCall)
    (check : Except LifecycleError α)
    (next : α → Option LifecycleStage) :
    (world.checked id call check next).tables = world.tables := by
  unfold LifecycleWorld.checked
  split
  · rfl
  · split <;> rfl

theorem LifecycleWorld.advanceCall_transaction
    (aead : Aead)
    (world : LifecycleWorld β)
    (id : Nat)
    (call : LifecycleCall)
    (surroundings : LifecycleSurroundings) :
    Transaction aead world.epoch world.tables
      (world.advanceCall aead id call surroundings).tables := by
  have idle : ∀ {after : LifecycleWorld β}, after.tables = world.tables →
      Transaction aead world.epoch world.tables after.tables := by
    intro after same
    rw [same]
    exact .idle
  unfold LifecycleWorld.advanceCall
  split
  · exact .idle
  · split
    · exact .idle
    · exact idle (world.checked_tables ..)
  · split
    · exact .idle
    · split
      · exact .idle
      · exact idle (world.checked_tables ..)
  · split
    · exact .idle
    · split
      · exact .idle
      · exact idle (world.checked_tables ..)
  · split <;> exact .idle
  · split
    · exact .idle
    · exact idle (world.checked_tables ..)
  · split
    · exact .idle
    · exact idle (world.checked_tables ..)
  · exact world.transact_transaction id call surroundings .rotates
  · exact world.transact_transaction id call surroundings .drains
  · exact world.transact_transaction id call surroundings .retires
  · apply world.transact_transaction id call surroundings
    intro after succeeds
    exact .disables (mapError_eq_ok.mp succeeds)
  · exact .idle
  · exact .idle

/-- Every step is one transaction, or none. -/
theorem lifecycleStep_transaction
    (sha256 : Bytes → Bytes)
    (aead : Aead)
    (world : LifecycleWorld β)
    (operation : LifecycleOperation β) :
    Transaction aead world.epoch world.tables
      (lifecycleStep sha256 aead world operation).tables := by
  cases operation with
  | idempotent operation => exact step_transaction sha256 aead world.toWorld operation
  | openBackend keyring fate =>
      simp only [lifecycleStep]
      split
      · exact .idle
      · next opens => exact Fate.keep_transaction _ (.opens opens)
  | reserve id keyring invocation mutation nowEpoch =>
      simp only [lifecycleStep]
      split <;> exact .idle
  | call id keyring action =>
      simp only [lifecycleStep]
      split <;> exact .idle
  | advance id surroundings =>
      simp only [lifecycleStep]
      split
      · exact .idle
      · next call _ => exact world.advanceCall_transaction aead id call surroundings

/-- What every transaction preserves holds after every run. -/
theorem lifecycleRun_preserves
    {sha256 : Bytes → Bytes}
    {aead : Aead}
    {invariant : Tables → Prop}
    (preserves : ∀ {epoch before after}, Transaction aead epoch before after →
      invariant before → invariant after)
    {world : LifecycleWorld β}
    (holds : invariant world.tables)
    (operations : List (LifecycleOperation β)) :
    invariant (lifecycleRun sha256 aead world operations).tables := by
  induction operations generalizing world with
  | nil => exact holds
  | cons operation rest inductionHypothesis =>
      exact inductionHypothesis
        (preserves (lifecycleStep_transaction sha256 aead world operation) holds)

/-- A reflexive and transitive relation that every transaction satisfies under
an invariant relates the ends of every run. -/
theorem lifecycleRun_relates
    {sha256 : Bytes → Bytes}
    {aead : Aead}
    {invariant : Tables → Prop}
    (preserves : ∀ {epoch before after}, Transaction aead epoch before after →
      invariant before → invariant after)
    {relation : Tables → Tables → Prop}
    (reflexive : ∀ tables, relation tables tables)
    (transitive : ∀ {first second third}, relation first second → relation second third →
      relation first third)
    (relates : ∀ {epoch before after}, Transaction aead epoch before after →
      invariant before → relation before after)
    {world : LifecycleWorld β}
    (holds : invariant world.tables)
    (operations : List (LifecycleOperation β)) :
    relation world.tables (lifecycleRun sha256 aead world operations).tables := by
  induction operations generalizing world with
  | nil => exact reflexive world.tables
  | cons operation rest inductionHypothesis =>
      have stepped := lifecycleStep_transaction sha256 aead world operation
      exact transitive (relates stepped holds) (inductionHypothesis (preserves stepped holds))

end Steps

end Idempotency
end Vinctor
