import Vinctor.Service.IdempotencyEffects
import Vinctor.Service.IdempotencyRuns

/-!
# What one step can do

Every step of an execution reserves a new nonce, completes, or moves on without
touching the stored results and without gaining a reservation.  A completion
that gets past the stored result calls the mutation, may call the cipher once,
and either leaves nothing behind or commits the mutation.
-/

namespace Vinctor
namespace Idempotency

open Foundation
open Fallible

section Completions

variable {β : Type u}

/-- The completions of an execution, by how far they came. -/
inductive CompletionStep
    (aead : Aead)
    (world : World β)
    (id : Nat)
    (execution : Execution β)
    (reservation : CryptoReservation) : World β → Prop
  /-- The mutation is not called. -/
  | refuses (reply : Reply) :
      CompletionStep aead world id execution reservation (world.finish id execution reply)
  /-- The mutation is called, the cipher is not, and nothing is committed. -/
  | calls
      (reply : Reply)
      {prepared : Tables}
      (proceeds : prepareCompletion aead execution.keyring execution.invocation reservation
        world.epoch world.tables = .ok (.proceed prepared)) :
      CompletionStep aead world id execution reservation
        (({ world with calls := world.calls ++ [id] } : World β).finish id execution reply)
  /-- Mutation and cipher are called and nothing is committed. -/
  | encrypts
      (reply : Reply)
      {prepared : Tables}
      {response : PreSerializedHttpResponse}
      {expiresAtEpoch : Int}
      {key : IdempotencyKeyVersion}
      {call : CipherCall}
      (proceeds : prepareCompletion aead execution.keyring execution.invocation reservation
        world.epoch world.tables = .ok (.proceed prepared))
      (encrypts : encryptOutcome execution.keyring execution.invocation reservation response
        world.epoch expiresAtEpoch = .ok (key, call)) :
      CompletionStep aead world id execution reservation
        (({ world with
            calls := world.calls ++ [id]
            encryptions := world.encryptions ++ [{ version := key.version, call }]
          } : World β).finish id execution reply)
  /-- The mutation is committed without a stored result. -/
  | skips
      (reply : Reply)
      {prepared : Tables}
      {response : PreSerializedHttpResponse}
      {rest : β}
      (proceeds : prepareCompletion aead execution.keyring execution.invocation reservation
        world.epoch world.tables = .ok (.proceed prepared)) :
      CompletionStep aead world id execution reservation
        (({ world with
            tables := prepared
            rest
            calls := world.calls ++ [id]
            mutations := world.mutations ++
              [{ execution := id, invocation := execution.invocation,
                 nowEpoch := world.epoch, response, expiresAtEpoch := none }]
          } : World β).finish id execution reply)
  /-- The mutation is committed with its result. -/
  | stores
      (reply : Reply)
      {prepared tables : Tables}
      {response : PreSerializedHttpResponse}
      {expiresAtEpoch : Int}
      {key : IdempotencyKeyVersion}
      {call : CipherCall}
      {rest : β}
      (proceeds : prepareCompletion aead execution.keyring execution.invocation reservation
        world.epoch world.tables = .ok (.proceed prepared))
      (encrypts : encryptOutcome execution.keyring execution.invocation reservation response
        world.epoch expiresAtEpoch = .ok (key, call))
      (stores : storeOutcome execution.invocation reservation response world.epoch
        expiresAtEpoch key call
        (aead.encrypt call.key call.nonce call.plaintext call.associatedData) prepared =
          .ok tables) :
      CompletionStep aead world id execution reservation
        (({ world with
            tables
            rest
            calls := world.calls ++ [id]
            encryptions := world.encryptions ++ [{ version := key.version, call }]
            mutations := world.mutations ++
              [{ execution := id, invocation := execution.invocation,
                 nowEpoch := world.epoch, response, expiresAtEpoch := some expiresAtEpoch }]
          } : World β).finish id execution reply)

/-- A completion that did not reach its mutation shows nothing. -/
theorem World.observe_uncalled
    (world : World β)
    (id : Nat)
    (fate : Fate)
    (result : Except IdempotencyError (Completed β)) :
    world.observe id fate { result } = world := by
  unfold World.observe
  split <;> simp

/-- A completion that reached its mutation shows the call, unless it was rolled
back before. -/
theorem World.observe_called
    (world : World β)
    (id : Nat)
    (fate : Fate)
    (result : Except IdempotencyError (Completed β)) :
    world.observe id fate { called := true, result } = world ∨
      world.observe id fate { called := true, result } =
        { world with calls := world.calls ++ [id] } := by
  unfold World.observe
  split <;> simp

/-- A completion that called the cipher shows a beginning of its two calls. -/
theorem World.observe_encrypted
    (world : World β)
    (id : Nat)
    (fate : Fate)
    (encryption : Encryption)
    (result : Except IdempotencyError (Completed β)) :
    world.observe id fate { called := true, encryption := some encryption, result } = world ∨
      world.observe id fate { called := true, encryption := some encryption, result } =
        { world with calls := world.calls ++ [id] } ∨
      world.observe id fate { called := true, encryption := some encryption, result } =
        { world with
          calls := world.calls ++ [id]
          encryptions := world.encryptions ++ [encryption] } := by
  unfold World.observe
  split <;> simp

/-- A completion either leaves only its calls behind or takes effect. -/
theorem World.completion_eq
    (aead : Aead)
    (world : World β)
    (id : Nat)
    (execution : Execution β)
    (fate : Fate)
    (reservation : CryptoReservation) :
    let completion := completeInTransaction aead execution.keyring execution.invocation
      reservation execution.mutation world.epoch world.tables world.rest
    ∃ reply,
      world.completion aead id execution fate reservation =
          (world.observe id fate completion).finish id execution reply ∨
        ∃ completed, completion.result = .ok completed ∧
          world.completion aead id execution fate reservation =
            (({ world with
                calls := world.calls ++ (if completion.called then [id] else [])
                encryptions := world.encryptions ++ completion.encryption.toList
              } : World β).complete id execution.invocation completed).finish id execution
              reply := by
  intro completion
  cases succeeds : completion.result with
  | error error =>
      cases fate <;> simp only [World.completion, completion, succeeds] <;> exact ⟨_, .inl rfl⟩
  | ok completed =>
      cases fate with
      | rollsBack interruption => exact ⟨_, .inl rfl⟩
      | commits =>
          simp only [World.completion, completion, succeeds]
          exact ⟨_, .inr ⟨completed, rfl, rfl⟩⟩
      | unreported =>
          simp only [World.completion, completion, succeeds]
          exact ⟨_, .inr ⟨completed, rfl, rfl⟩⟩

theorem completionStep_of_called
    {aead : Aead}
    {world after : World β}
    {id : Nat}
    {execution : Execution β}
    {fate : Fate}
    {reservation : CryptoReservation}
    {prepared : Tables}
    {reply : Reply}
    {result : Except IdempotencyError (Completed β)}
    (proceeds : prepareCompletion aead execution.keyring execution.invocation reservation
      world.epoch world.tables = .ok (.proceed prepared))
    (finishes : after =
      (world.observe id fate { called := true, result }).finish id execution reply) :
    CompletionStep aead world id execution reservation after := by
  rcases World.observe_called world id fate result with nothing | called
  · rw [finishes, nothing]
    exact .refuses reply
  · rw [finishes, called]
    exact .calls reply proceeds

theorem World.completion_step
    (aead : Aead)
    (world : World β)
    (id : Nat)
    (execution : Execution β)
    (fate : Fate)
    (reservation : CryptoReservation) :
    CompletionStep aead world id execution reservation
      (world.completion aead id execution fate reservation) := by
  obtain ⟨reply, steps⟩ := World.completion_eq aead world id execution fate reservation
  -- Each case of the body of the transaction, first without and then with effect.
  cases prepares : prepareCompletion aead execution.keyring execution.invocation reservation
      world.epoch world.tables with
  | error error =>
      simp only [completeInTransaction, prepares, World.observe_uncalled] at steps
      rcases steps with steps | ⟨completed, result, steps⟩
      · rw [steps]
        exact .refuses reply
      · cases result
  | ok prepared =>
      cases prepared with
      | replay response =>
          simp only [completeInTransaction, prepares, World.observe_uncalled] at steps
          rcases steps with steps | ⟨completed, result, steps⟩
          · rw [steps]
            exact .refuses reply
          · cases result
            simp only [World.complete, Bool.false_eq_true, if_false, List.append_nil,
              Option.toList_none] at steps
            rw [steps]
            exact .refuses reply
      | proceed prepared =>
          cases mutates : execution.mutation world.rest with
          | none =>
              simp only [completeInTransaction, prepares, mutates] at steps
              rcases steps with steps | ⟨completed, result, steps⟩
              · exact completionStep_of_called prepares steps
              · cases result
          | some mutated =>
              obtain ⟨outcome, rest⟩ := mutated
              by_cases expires : terminalExpiryEpoch execution.invocation world.epoch
                  outcome.replayNotAfterEpoch ≤ world.epoch
              · simp only [completeInTransaction, prepares, mutates, if_pos expires] at steps
                rcases steps with steps | ⟨completed, result, steps⟩
                · exact completionStep_of_called prepares steps
                · cases result
                  rw [steps]
                  simpa [World.complete] using CompletionStep.skips reply prepares
              · cases encrypts : encryptOutcome execution.keyring execution.invocation
                    reservation outcome.response world.epoch
                    (terminalExpiryEpoch execution.invocation world.epoch
                      outcome.replayNotAfterEpoch) with
                | error error =>
                    simp only [completeInTransaction, prepares, mutates, if_neg expires,
                      encrypts] at steps
                    rcases steps with steps | ⟨completed, result, steps⟩
                    · exact completionStep_of_called prepares steps
                    · cases result
                | ok sealing =>
                    obtain ⟨key, call⟩ := sealing
                    simp only [completeInTransaction, prepares, mutates, if_neg expires,
                      encrypts] at steps
                    rcases steps with steps | ⟨completed, result, steps⟩
                    · rcases World.observe_encrypted world id fate _ _ with
                        nothing | called | encrypted
                      · rw [steps, nothing]
                        exact .refuses reply
                      · rw [steps, called]
                        exact .calls reply prepares
                      · rw [steps, encrypted]
                        exact .encrypts reply prepares encrypts
                    · cases stores : storeOutcome execution.invocation reservation
                          outcome.response world.epoch
                          (terminalExpiryEpoch execution.invocation world.epoch
                            outcome.replayNotAfterEpoch) key call
                          (aead.encrypt call.key call.nonce call.plaintext
                            call.associatedData) prepared with
                      | error error =>
                          rw [stores] at result
                          cases result
                      | ok tables =>
                          rw [stores] at result
                          cases result
                          rw [steps]
                          exact .stores reply prepares encrypts stores

end Completions

section Advances

variable {β : Type u}

/-- The steps of an execution. -/
inductive AdvanceStep
    (aead : Aead)
    (world : World β)
    (id : Nat)
    (execution : Execution β) : World β → Prop
  | idles
      {reply : Reply}
      (finished : execution.stage = .finished reply) :
      AdvanceStep aead world id execution world
  | moves
      {tables : Tables}
      {stage : Stage}
      (unfinished : ∀ reply, execution.stage ≠ .finished reply)
      (extended : world.tables.ExtendsLedger tables)
      (gainsNothing : ∀ reservation, stage.held = some reservation →
        execution.stage.held = some reservation) :
      AdvanceStep aead world id execution (({ world with tables } : World β).move id execution stage)
  | reserves
      {version : String}
      {nowEpoch : Int}
      {nonce : Option Bytes}
      {reservation : CryptoReservation}
      {tables : Tables}
      {stage : Stage}
      (unfinished : ∀ reply, execution.stage ≠ .finished reply)
      (reserves : reserveNonce version execution.invocation nowEpoch nonce world.tables =
        .ok (reservation, tables))
      (gainsOne : ∀ other, stage.held = some other → other = reservation) :
      AdvanceStep aead world id execution (({ world with tables } : World β).move id execution stage)
  | completes
      {reservation : CryptoReservation}
      {after : World β}
      (completing : execution.stage = .completing reservation)
      (completes : CompletionStep aead world id execution reservation after) :
      AdvanceStep aead world id execution after

/-- A move that leaves the tables alone. -/
theorem AdvanceStep.movesOnly
    {aead : Aead}
    {world : World β}
    {id : Nat}
    {execution : Execution β}
    {stage : Stage}
    (unfinished : ∀ reply, execution.stage ≠ .finished reply)
    (gainsNothing : ∀ reservation, stage.held = some reservation →
      execution.stage.held = some reservation) :
    AdvanceStep aead world id execution (world.move id execution stage) :=
  .moves unfinished (.refl world.tables) gainsNothing

theorem Fate.keep_extends
    (fate : Fate)
    {before after : Tables}
    (extended : before.ExtendsLedger after) :
    before.ExtendsLedger (fate.keep before after) := by
  cases fate with
  | rollsBack interruption => exact .refl before
  | commits => exact extended
  | unreported => exact extended

theorem Fate.held_stage
    {fate : Fate}
    {next : Stage}
    {reservation : CryptoReservation}
    (held : (fate.stage next).held = some reservation) :
    next.held = some reservation := by
  cases fate with
  | commits => exact held
  | rollsBack interruption => cases held
  | unreported => cases held

/-- Every step of an execution is one of the four kinds. -/
theorem World.advance_step
    (aead : Aead)
    (world : World β)
    (id : Nat)
    (execution : Execution β)
    (surroundings : Surroundings) :
    AdvanceStep aead world id execution
      (world.advance aead id execution surroundings) := by
  have gainsNone : ∀ {stage : Stage}, stage.held = none →
      ∀ reservation, stage.held = some reservation →
        execution.stage.held = some reservation := by
    intro stage none reservation held
    rw [none] at held
    cases held
  unfold World.advance
  cases stage : execution.stage with
  | starting =>
      have unfinished : ∀ reply, execution.stage ≠ .finished reply := by simp [stage]
      dsimp only
      split <;> exact .movesOnly unfinished (gainsNone rfl)
  | lookingUp nowEpoch =>
      have unfinished : ∀ reply, execution.stage ≠ .finished reply := by simp [stage]
      dsimp only
      split
      · exact .movesOnly unfinished (gainsNone rfl)
      · split <;> exact .movesOnly unfinished (gainsNone rfl)
  | reserving nowEpoch =>
      have unfinished : ∀ reply, execution.stage ≠ .finished reply := by simp [stage]
      dsimp only
      unfold World.reserve
      split
      · exact .movesOnly unfinished (gainsNone rfl)
      · split
        · exact .movesOnly unfinished (gainsNone rfl)
        · dsimp only
          split
          · exact .movesOnly unfinished (gainsNone rfl)
          · exact .movesOnly unfinished (gainsNone rfl)
          · exact .movesOnly unfinished (gainsNone rfl)
          · next reservation tables reserves =>
              apply AdvanceStep.reserves unfinished reserves
              intro other held
              have heldNext := Fate.held_stage held
              exact (Option.some.inj heldNext).symm
  | disabling version reason nowEpoch =>
      have unfinished : ∀ reply, execution.stage ≠ .finished reply := by simp [stage]
      dsimp only
      unfold World.disable
      split
      · exact .movesOnly unfinished (gainsNone rfl)
      · next tables disables =>
          exact .moves unfinished (Fate.keep_extends _ (writeDisable_extends disables))
            (gainsNone rfl)
  | reserved reservation =>
      have unfinished : ∀ reply, execution.stage ≠ .finished reply := by simp [stage]
      dsimp only
      split
      · exact .movesOnly unfinished (gainsNone rfl)
      · apply AdvanceStep.movesOnly unfinished
        intro other held
        rw [stage]
        exact held
  | lookingAgain reservation nowEpoch =>
      have unfinished : ∀ reply, execution.stage ≠ .finished reply := by simp [stage]
      dsimp only
      split
      · exact .movesOnly unfinished (gainsNone rfl)
      · split
        · exact .movesOnly unfinished (gainsNone rfl)
        · exact .movesOnly unfinished (gainsNone rfl)
        · apply AdvanceStep.movesOnly unfinished
          intro other held
          rw [stage]
          exact held
  | claiming reservation =>
      have unfinished : ∀ reply, execution.stage ≠ .finished reply := by simp [stage]
      dsimp only
      unfold World.claim
      split
      · exact .movesOnly unfinished (gainsNone rfl)
      · next tables claims =>
          apply AdvanceStep.moves unfinished
            (Fate.keep_extends _ (claimReservation_extends claims))
          intro other held
          have heldNext := Fate.held_stage held
          rw [stage]
          exact heldNext
  | completing reservation =>
      exact .completes stage (world.completion_step aead id execution _ reservation)
  | finished reply => exact .idles stage

end Advances

end Idempotency
end Vinctor
