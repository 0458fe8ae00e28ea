import Vinctor.Service.NonceUniqueness
import Vinctor.Service.StoredResults

/-!
# Histories of idempotent execution

While every service has one keyring, each stored row holds the response of a
committed mutation, and a committed mutation with a stored result stays the row
of its identity until it has expired.  An execution calls its mutation only in a
completion that ends it, and an execution that has ended does nothing more.
-/

namespace Vinctor
namespace Idempotency

open Foundation
open Fallible

variable {β : Type u}

/-! ## One keyring -/

/-- Every service and every execution has one keyring. -/
structure SameKeyring (keyring : Option IdempotencyKeyring) (world : World β) : Prop where
  accepted : ∀ other ∈ world.accepted, other = keyring
  opened : ∀ other ∈ world.opened, other = keyring
  executions : ∀ id execution, world.executions id = some execution →
    execution.keyring = keyring

/-- Every service of a run that loads a keyring loads a given one. -/
def KeyringUnchanged
    (sha256 : Bytes → Bytes)
    (keyring : Option IdempotencyKeyring)
    (operations : List (Operation β)) : Prop :=
  ∀ env exactNonceCounts fate loaded,
    Operation.register env exactNonceCounts fate ∈ operations →
      loadIdempotencyKeyring sha256 env = .ok loaded → loaded = keyring

/-- A step of an execution changes its stage and no setting of a service. -/
theorem AdvanceStep.frame
    {aead : Aead}
    {world after : World β}
    {id : Nat}
    {execution : Execution β}
    (found : world.executions id = some execution)
    (advances : AdvanceStep aead world id execution after) :
    after.epoch = world.epoch ∧ after.accepted = world.accepted ∧
      after.opened = world.opened ∧
      ∃ stage, after.executions =
        Function.update world.executions id (some { execution with stage }) := by
  cases advances with
  | idles finished =>
      refine ⟨rfl, rfl, rfl, execution.stage, ?_⟩
      rw [Function.update_eq_self_iff.mpr found.symm]
  | moves => exact ⟨rfl, rfl, rfl, _, rfl⟩
  | reserves => exact ⟨rfl, rfl, rfl, _, rfl⟩
  | completes completing completes =>
      cases completes <;> exact ⟨rfl, rfl, rfl, _, rfl⟩

theorem SameKeyring.move
    {keyring : Option IdempotencyKeyring}
    {world : World β}
    (same : SameKeyring keyring world)
    {id : Nat}
    {execution : Execution β}
    {stage : Stage}
    (sameExecution : execution.keyring = keyring) :
    SameKeyring keyring (world.move id execution stage) where
  accepted := same.accepted
  opened := same.opened
  executions := by
    intro other moved found
    rw [World.executions_move] at found
    split at found
    · cases found
      exact sameExecution
    · exact same.executions other moved found

theorem SameKeyring.step
    {sha256 : Bytes → Bytes}
    {keyring : Option IdempotencyKeyring}
    {world : World β}
    (same : SameKeyring keyring world)
    (aead : Aead)
    {operation : Operation β}
    (unchanged : KeyringUnchanged sha256 keyring [operation]) :
    SameKeyring keyring (Idempotency.step sha256 aead world operation) := by
  cases operation with
  | tick seconds => exact ⟨same.accepted, same.opened, same.executions⟩
  | change rest => exact ⟨same.accepted, same.opened, same.executions⟩
  | register env exactNonceCounts fate =>
      simp only [Idempotency.step]
      split
      · exact same
      · next loaded loads =>
          split
          · exact same
          · refine ⟨?_, same.opened, same.executions⟩
            intro other present
            dsimp only at present
            split at present
            · rcases List.mem_cons.mp present with rfl | before
              · exact unchanged _ _ _ _ List.mem_cons_self loads
              · exact same.accepted other before
            · exact same.accepted other present
  | openStore other fate =>
      simp only [Idempotency.step]
      split
      · next accepted =>
          split
          · exact same
          · refine ⟨same.accepted, ?_, same.executions⟩
            intro opened present
            dsimp only at present
            split at present
            · rcases List.mem_cons.mp present with rfl | before
              · exact same.accepted _ accepted
              · exact same.opened opened before
            · exact same.opened opened present
      · exact same
  | begin id other invocation mutation =>
      simp only [Idempotency.step]
      split
      · next opened => exact same.move (same.opened other opened.1)
      · exact same
  | advance id surroundings =>
      simp only [Idempotency.step]
      split
      · exact same
      · next execution found =>
          obtain ⟨-, accepted, opened, stage, executions⟩ :=
            (world.advance_step aead id execution surroundings).frame found
          have moved : SameKeyring keyring (world.move id execution stage) :=
            same.move (same.executions id execution found)
          exact ⟨accepted ▸ same.accepted, opened ▸ same.opened,
            executions ▸ moved.executions⟩
  | crash id =>
      simp only [Idempotency.step]
      split
      · exact same
      · next execution found =>
          split
          · exact same
          · exact same.move (same.executions id execution found)
  | collectGarbage other limit fate =>
      simp only [Idempotency.step]
      split
      · split
        · exact same
        · exact ⟨same.accepted, same.opened, same.executions⟩
      · exact same

/-! ## Stored results -/

/-- A later mutation of the identity comes after the expiry of an earlier stored
result. -/
def CommittedMutation.Separated (first second : CommittedMutation) : Prop :=
  first.invocation.resultIdentity = second.invocation.resultIdentity →
    ∀ expiresAtEpoch, first.expiresAtEpoch = some expiresAtEpoch →
      expiresAtEpoch ≤ second.nowEpoch

/-- A row of the results was sealed by a recorded cipher call. -/
def World.Sealed (world : World β) (record : CompletedResultRecord) : Prop :=
  ∃ encryption ∈ world.encryptions,
    (encryption.version, encryption.call.nonce) =
      (record.cipherKeyVersion, record.responseNonce)

structure ResultsFaithful
    (aead : Aead)
    (keyring : Option IdempotencyKeyring)
    (world : World β) : Prop where
  records : ∀ identity record, world.tables.results.get? identity = some record →
    ∃ mutation ∈ world.mutations, RecordOf aead keyring identity record mutation
  sealedRows : ∀ identity record, world.tables.results.get? identity = some record →
    world.Sealed record
  live : ∀ mutation ∈ world.mutations, ∀ expiresAtEpoch,
    mutation.expiresAtEpoch = some expiresAtEpoch →
      expiresAtEpoch ≤ world.epoch ∨
        ∃ record, world.tables.results.get? mutation.invocation.resultIdentity = some record ∧
          record.expiresAtEpoch = expiresAtEpoch
  separated : world.mutations.Pairwise CommittedMutation.Separated

theorem World.Sealed.mono
    {before after : World β}
    {record : CompletedResultRecord}
    (isSealed : before.Sealed record)
    (encryptions : before.encryptions ⊆ after.encryptions) :
    after.Sealed record := by
  obtain ⟨encryption, present, same⟩ := isSealed
  exact ⟨encryption, encryptions present, same⟩

theorem Tables.ExtendsLedger.sweeps
    {before after : Tables}
    (extended : before.ExtendsLedger after)
    (nowEpoch : Int) :
    before.Sweeps nowEpoch after where
  toExtends := extended.toExtends
  kept := by
    intro identity record found
    rwa [extended.results] at found
  removed := by
    intro identity record found
    rw [extended.results]
    exact .inl found

namespace ResultsFaithful

variable {aead : Aead} {keyring : Option IdempotencyKeyring} {world : World β}

theorem initial (epoch : Int) (rest : β) :
    ResultsFaithful aead keyring (World.initial epoch rest) where
  records := by
    intro identity record found
    cases found
  sealedRows := by
    intro identity record found
    cases found
  live := by simp [World.initial]
  separated := by simp [World.initial]

/-- Steps that commit no mutation and remove expired results only. -/
theorem sweep
    (faithful : ResultsFaithful aead keyring world)
    {after : World β}
    (swept : world.tables.Sweeps world.epoch after.tables)
    (epoch : world.epoch ≤ after.epoch)
    (encryptions : world.encryptions ⊆ after.encryptions)
    (mutations : after.mutations = world.mutations) :
    ResultsFaithful aead keyring after where
  records := by
    intro identity record found
    rw [mutations]
    exact faithful.records identity record (swept.kept found)
  sealedRows := by
    intro identity record found
    exact (faithful.sealedRows identity record (swept.kept found)).mono encryptions
  live := by
    intro mutation present expiresAtEpoch expires
    rw [mutations] at present
    rcases faithful.live mutation present expiresAtEpoch expires with
      past | ⟨record, found, recordExpires⟩
    · exact .inl (past.trans epoch)
    · rcases swept.removed found with still | expired
      · exact .inr ⟨record, still, recordExpires⟩
      · rw [recordExpires] at expired
        exact .inl (expired.trans epoch)
  separated := by
    rw [mutations]
    exact faithful.separated

/-- A committed mutation of an identity that has no stored result. -/
theorem commit
    (faithful : ResultsFaithful aead keyring world)
    {after : World β}
    {mutation : CommittedMutation}
    (cleared : world.tables.results.get? mutation.invocation.resultIdentity = none)
    (now : mutation.nowEpoch = world.epoch)
    (epoch : after.epoch = world.epoch)
    (encryptions : world.encryptions ⊆ after.encryptions)
    (mutations : after.mutations = world.mutations ++ [mutation])
    (rows : ∀ identity record, after.tables.results.get? identity = some record →
      world.tables.results.get? identity = some record ∨
        (RecordOf aead keyring identity record mutation ∧ after.Sealed record))
    (keeps : ∀ identity record, world.tables.results.get? identity = some record →
      after.tables.results.get? identity = some record)
    (stored : ∀ expiresAtEpoch, mutation.expiresAtEpoch = some expiresAtEpoch →
      ∃ record, after.tables.results.get? mutation.invocation.resultIdentity = some record ∧
        record.expiresAtEpoch = expiresAtEpoch) :
    ResultsFaithful aead keyring after where
  records := by
    intro identity record found
    rw [mutations]
    rcases rows identity record found with before | ⟨recordOf, -⟩
    · obtain ⟨earlier, present, recordOf⟩ := faithful.records identity record before
      exact ⟨earlier, List.mem_append_left _ present, recordOf⟩
    · exact ⟨mutation, List.mem_append_right _ (List.mem_singleton_self _), recordOf⟩
  sealedRows := by
    intro identity record found
    rcases rows identity record found with before | ⟨-, isSealed⟩
    · exact (faithful.sealedRows identity record before).mono encryptions
    · exact isSealed
  live := by
    intro earlier present expiresAtEpoch expires
    rw [mutations] at present
    rw [epoch]
    rcases List.mem_append.mp present with before | new
    · rcases faithful.live earlier before expiresAtEpoch expires with
        past | ⟨record, found, recordExpires⟩
      · exact .inl past
      · exact .inr ⟨record, keeps _ record found, recordExpires⟩
    · rw [List.mem_singleton] at new
      subst new
      exact .inr (stored expiresAtEpoch expires)
  separated := by
    rw [mutations, List.pairwise_append]
    refine ⟨faithful.separated, List.pairwise_singleton _ _, ?_⟩
    intro earlier before later new sameIdentity expiresAtEpoch expires
    rw [List.mem_singleton] at new
    subst new
    rw [now]
    rcases faithful.live earlier before expiresAtEpoch expires with past | ⟨record, found, -⟩
    · exact past
    · rw [sameIdentity, cleared] at found
      cases found

/-- Removing the expired row of an identity before its next mutation. -/
theorem clear
    (faithful : ResultsFaithful aead keyring world)
    {invocation : IdempotencyInvocation}
    {reservation : CryptoReservation}
    {executor : Option IdempotencyKeyring}
    {prepared : Tables}
    (proceeds : prepareCompletion aead executor invocation reservation world.epoch
      world.tables = .ok (.proceed prepared)) :
    ResultsFaithful aead keyring { world with tables := prepared } ∧
      prepared.results.get? invocation.resultIdentity = none := by
  obtain ⟨expired, rfl⟩ := prepareCompletion_proceed proceeds
  constructor
  · exact faithful.sweep (.erase expired) le_rfl (List.Subset.refl _) rfl
  · rw [Table.get?_erase, if_pos rfl]

theorem complete
    (faithful : ResultsFaithful aead keyring world)
    (roundTrips : aead.RoundTrips)
    {id : Nat}
    {execution : Execution β}
    {reservation : CryptoReservation}
    {after : World β}
    (same : execution.keyring = keyring)
    (completes : CompletionStep aead world id execution reservation after) :
    ResultsFaithful aead keyring after := by
  cases completes with
  | refuses reply => exact faithful.sweep (.refl _ _) le_rfl (List.Subset.refl _) rfl
  | calls reply proceeds => exact faithful.sweep (.refl _ _) le_rfl (List.Subset.refl _) rfl
  | encrypts reply proceeds encrypts =>
      exact faithful.sweep (.refl _ _) le_rfl (List.subset_append_left _ _) rfl
  | skips reply proceeds =>
      obtain ⟨clearedFaithful, cleared⟩ := faithful.clear proceeds
      exact clearedFaithful.commit cleared rfl rfl (List.Subset.refl _) rfl
        (fun _ _ found => .inl found) (fun _ _ found => found) (fun _ stored => nomatch stored)
  | stores reply proceeds encrypts stores =>
      obtain ⟨clearedFaithful, cleared⟩ := faithful.clear proceeds
      obtain ⟨ciphertext, results, seals, rfl, checked, inserts⟩ := storeOutcome_ok stores
      rw [same] at encrypts
      have recordOf := recordOf_stored roundTrips id encrypts seals checked
      have inserted := Table.get?_insert? inserts
      refine clearedFaithful.commit cleared rfl rfl (List.subset_append_left _ _) rfl ?_ ?_ ?_
      · intro identity record found
        change results.get? identity = some record at found
        rw [inserted] at found
        split at found
        · next isIdentity =>
            cases found
            rw [isIdentity]
            exact .inr ⟨recordOf, _, List.mem_append_right _ (List.mem_singleton_self _), rfl⟩
        · exact .inl found
      · intro identity record found
        change results.get? identity = some record
        rw [inserted, if_neg]
        · exact found
        · rintro rfl
          exact absurd (cleared.symm.trans found) (by simp)
      · intro expiresAtEpoch expires
        refine ⟨_, (inserted _).trans (if_pos rfl), ?_⟩
        exact Option.some.inj expires

theorem advance
    (faithful : ResultsFaithful aead keyring world)
    (roundTrips : aead.RoundTrips)
    {id : Nat}
    {execution : Execution β}
    {after : World β}
    (same : execution.keyring = keyring)
    (advances : AdvanceStep aead world id execution after) :
    ResultsFaithful aead keyring after := by
  cases advances with
  | idles finished => exact faithful
  | moves unfinished extended gainsNothing =>
      exact faithful.sweep (extended.sweeps _) le_rfl (List.Subset.refl _) rfl
  | reserves unfinished reserves gainsOne =>
      exact faithful.sweep ((reserveNonce_ok reserves).1.sweeps _) le_rfl
        (List.Subset.refl _) rfl
  | completes completing completes => exact faithful.complete roundTrips same completes

theorem step
    {sha256 : Bytes → Bytes}
    (faithful : ResultsFaithful aead keyring world)
    (roundTrips : aead.RoundTrips)
    (same : SameKeyring keyring world)
    (operation : Operation β) :
    ResultsFaithful aead keyring (Idempotency.step sha256 aead world operation) := by
  have unswept : ∀ {after : World β}, world.tables.ExtendsLedger after.tables →
      after.epoch = world.epoch → after.encryptions = world.encryptions →
      after.mutations = world.mutations → ResultsFaithful aead keyring after := by
    intro after extended epoch encryptions mutations
    exact faithful.sweep (extended.sweeps _) epoch.ge
      (encryptions ▸ List.Subset.refl _) mutations
  cases operation with
  | tick seconds =>
      refine faithful.sweep (.refl _ _) ?_ (List.Subset.refl _) rfl
      change world.epoch ≤ world.epoch + (seconds : Int)
      omega
  | change rest => exact unswept (.refl _) rfl rfl rfl
  | register env exactNonceCounts fate =>
      simp only [Idempotency.step]
      split
      · exact faithful
      · split
        · exact faithful
        · next tables registers =>
            exact unswept (fate.keep_extends (registerSqliteIdempotencyKeyring_extends registers))
              rfl rfl rfl
  | openStore other fate =>
      simp only [Idempotency.step]
      split
      · split
        · exact faithful
        · next tables registers =>
            exact unswept (fate.keep_extends (registerKeyring_ok registers).1) rfl rfl rfl
      · exact faithful
  | begin id other invocation mutation =>
      simp only [Idempotency.step]
      split
      · exact unswept (.refl _) rfl rfl rfl
      · exact faithful
  | advance id surroundings =>
      simp only [Idempotency.step]
      split
      · exact faithful
      · next execution found =>
          exact faithful.advance roundTrips (same.executions id execution found)
            (world.advance_step aead id execution surroundings)
  | crash id =>
      simp only [Idempotency.step]
      split
      · exact faithful
      · split
        · exact faithful
        · exact unswept (.refl _) rfl rfl rfl
  | collectGarbage other limit fate =>
      simp only [Idempotency.step]
      split
      · split
        · exact faithful
        · next collected tables collects =>
            refine faithful.sweep ?_ le_rfl (List.Subset.refl _) rfl
            cases fate with
            | rollsBack interruption => exact .refl _ _
            | commits => exact gcResults_sweeps collects
            | unreported => exact gcResults_sweeps collects
      · exact faithful

end ResultsFaithful

/-! ## Ended executions -/

/-- The reply of an execution that has ended. -/
def World.reply (world : World β) (id : Nat) : Option Reply :=
  (world.executions id).bind fun execution =>
    match execution.stage with
    | .finished reply => some reply
    | _ => none

theorem World.reply_eq_some_iff {world : World β} {id : Nat} {reply : Reply} :
    world.reply id = some reply ↔
      ∃ execution, world.executions id = some execution ∧
        execution.stage = .finished reply := by
  unfold World.reply
  cases world.executions id with
  | none => simp
  | some execution =>
      cases stage : execution.stage <;> simp [stage]

theorem World.reply_finish
    (world : World β)
    (id : Nat)
    (execution : Execution β)
    (reply : Reply) :
    (world.finish id execution reply).reply id = some reply := by
  rw [World.reply_eq_some_iff]
  exact ⟨{ execution with stage := .finished reply },
    (World.executions_move world id execution _ id).trans (if_pos rfl), rfl⟩

/-- An execution ends between two worlds. -/
def World.Ends (before after : World β) (id : Nat) : Prop :=
  before.reply id = none ∧ (after.reply id).isSome

/-- From one world to a later one replies stay, and an execution that calls its
mutation or commits it ends. -/
structure World.Progress (before after : World β) : Prop where
  replies : ∀ {id reply}, before.reply id = some reply → after.reply id = some reply
  calls : ∀ id ∈ after.calls, id ∈ before.calls ∨ before.Ends after id
  mutations : ∀ mutation ∈ after.mutations,
    mutation ∈ before.mutations ∨ before.Ends after mutation.execution

namespace World.Progress

theorem refl (world : World β) : world.Progress world where
  replies := id
  calls := fun _ => .inl
  mutations := fun _ => .inl

theorem ends_before
    {first second third : World β}
    (earlier : first.Progress second)
    {id : Nat}
    (ends : second.Ends third id) :
    first.Ends third id := by
  refine ⟨?_, ends.2⟩
  cases before : first.reply id with
  | none => rfl
  | some reply =>
      have unended := ends.1
      rw [earlier.replies before] at unended
      cases unended

theorem ends_after
    {first second third : World β}
    (later : second.Progress third)
    {id : Nat}
    (ends : first.Ends second id) :
    first.Ends third id := by
  obtain ⟨reply, isReply⟩ := Option.isSome_iff_exists.mp ends.2
  exact ⟨ends.1, Option.isSome_of_eq_some (later.replies isReply)⟩

theorem trans
    {first second third : World β}
    (earlier : first.Progress second)
    (later : second.Progress third) :
    first.Progress third where
  replies := fun ended => later.replies (earlier.replies ended)
  calls := by
    intro id called
    rcases later.calls id called with before | ends
    · exact (earlier.calls id before).imp_right later.ends_after
    · exact .inr (earlier.ends_before ends)
  mutations := by
    intro mutation present
    rcases later.mutations mutation present with before | ends
    · exact (earlier.mutations mutation before).imp_right later.ends_after
    · exact .inr (earlier.ends_before ends)

/-- A step that touches no execution, call or mutation. -/
theorem idle
    {before after : World β}
    (executions : after.executions = before.executions)
    (calls : after.calls = before.calls)
    (mutations : after.mutations = before.mutations) :
    before.Progress after where
  replies := by
    intro id reply ended
    rw [World.reply, executions]
    exact ended
  calls := fun id called => .inl (calls ▸ called)
  mutations := fun mutation present => .inl (mutations ▸ present)

/-- A step of an execution that has not ended leaves the replies of the others. -/
theorem reply_of_move
    {before after : World β}
    {id other : Nat}
    {execution : Execution β}
    {stage : Stage}
    {reply : Reply}
    (unended : before.reply id = none)
    (executions : after.executions = (before.move id execution stage).executions)
    (ended : before.reply other = some reply) :
    after.reply other = some reply := by
  have different : other ≠ id := by
    rintro rfl
    rw [unended] at ended
    cases ended
  rw [World.reply, executions, World.executions_move, if_neg different]
  exact ended

theorem move
    {before after : World β}
    {id : Nat}
    {execution : Execution β}
    {stage : Stage}
    (unended : before.reply id = none)
    (executions : after.executions = (before.move id execution stage).executions)
    (calls : after.calls = before.calls)
    (mutations : after.mutations = before.mutations) :
    before.Progress after where
  replies := reply_of_move unended executions
  calls := fun _ called => .inl (calls ▸ called)
  mutations := fun _ present => .inl (mutations ▸ present)

/-- A step that ends an execution, and may add its call and its mutation. -/
theorem finish
    {before after : World β}
    {id : Nat}
    {execution : Execution β}
    {reply : Reply}
    (unended : before.reply id = none)
    (executions : after.executions = (before.finish id execution reply).executions)
    (calls : ∀ other ∈ after.calls, other ∈ before.calls ∨ other = id)
    (mutations : ∀ mutation ∈ after.mutations,
      mutation ∈ before.mutations ∨ mutation.execution = id) :
    before.Progress after := by
  have ends : before.Ends after id := by
    refine ⟨unended, ?_⟩
    rw [World.reply, executions]
    exact Option.isSome_of_eq_some (World.reply_finish before id execution reply)
  refine ⟨reply_of_move unended executions, ?_, ?_⟩
  · intro other called
    rcases calls other called with before | rfl
    · exact .inl before
    · exact .inr ends
  · intro mutation present
    rcases mutations mutation present with before | rfl
    · exact .inl before
    · exact .inr ends

end World.Progress

theorem World.reply_eq_none
    {world : World β}
    {id : Nat}
    {execution : Execution β}
    (found : world.executions id = some execution)
    (unfinished : ∀ reply, execution.stage ≠ .finished reply) :
    world.reply id = none := by
  cases ended : world.reply id with
  | none => rfl
  | some reply =>
      obtain ⟨other, foundOther, finished⟩ := World.reply_eq_some_iff.mp ended
      rw [found, Option.some.injEq] at foundOther
      subst foundOther
      exact absurd finished (unfinished reply)

theorem CompletionStep.progress
    {aead : Aead}
    {world after : World β}
    {id : Nat}
    {execution : Execution β}
    {reservation : CryptoReservation}
    (unended : world.reply id = none)
    (completes : CompletionStep aead world id execution reservation after) :
    world.Progress after := by
  have called : ∀ other ∈ world.calls ++ [id], other ∈ world.calls ∨ other = id := by
    simp
  have committed : ∀ {mutation : CommittedMutation}, mutation.execution = id →
      ∀ other ∈ world.mutations ++ [mutation], other ∈ world.mutations ∨ other.execution = id := by
    intro mutation isId other present
    rcases List.mem_append.mp present with before | new
    · exact .inl before
    · rw [List.mem_singleton] at new
      exact .inr (new ▸ isId)
  cases completes with
  | refuses reply => exact .move unended rfl rfl rfl
  | calls reply => exact .finish unended rfl called fun _ => .inl
  | encrypts reply => exact .finish unended rfl called fun _ => .inl
  | skips reply => exact .finish unended rfl called (committed rfl)
  | stores reply => exact .finish unended rfl called (committed rfl)

theorem AdvanceStep.progress
    {aead : Aead}
    {world after : World β}
    {id : Nat}
    {execution : Execution β}
    (found : world.executions id = some execution)
    (advances : AdvanceStep aead world id execution after) :
    world.Progress after := by
  cases advances with
  | idles finished => exact .refl world
  | moves unfinished =>
      exact .move (World.reply_eq_none found unfinished) rfl rfl rfl
  | reserves unfinished =>
      exact .move (World.reply_eq_none found unfinished) rfl rfl rfl
  | completes completing completes =>
      exact completes.progress (World.reply_eq_none found (by simp [completing]))

theorem step_progress
    (sha256 : Bytes → Bytes)
    (aead : Aead)
    (world : World β)
    (operation : Operation β) :
    world.Progress (step sha256 aead world operation) := by
  cases operation with
  | tick seconds => exact .idle rfl rfl rfl
  | change rest => exact .idle rfl rfl rfl
  | register env exactNonceCounts fate =>
      simp only [step]
      split
      · exact .refl world
      · split
        · exact .refl world
        · exact .idle rfl rfl rfl
  | openStore keyring fate =>
      simp only [step]
      split
      · split
        · exact .refl world
        · exact .idle rfl rfl rfl
      · exact .refl world
  | begin id keyring invocation mutation =>
      simp only [step]
      split
      · next fresh =>
          have unended : world.reply id = none := by
            rw [World.reply, Option.isNone_iff_eq_none.mp fresh.2]
            rfl
          exact .move unended rfl rfl rfl
      · exact .refl world
  | advance id surroundings =>
      simp only [step]
      split
      · exact .refl world
      · next execution found =>
          exact (world.advance_step aead id execution surroundings).progress found
  | crash id =>
      simp only [step]
      split
      · exact .refl world
      · next execution found =>
          split
          · exact .refl world
          · next unfinished =>
              exact .move (World.reply_eq_none found unfinished) rfl rfl rfl
  | collectGarbage keyring limit fate =>
      simp only [step]
      split
      · split
        · exact .refl world
        · exact .idle rfl rfl rfl
      · exact .refl world

theorem run_progress
    (sha256 : Bytes → Bytes)
    (aead : Aead)
    (world : World β)
    (operations : List (Operation β)) :
    world.Progress (run sha256 aead world operations) := by
  induction operations generalizing world with
  | nil => exact .refl world
  | cons operation later inductionHypothesis =>
      exact (step_progress sha256 aead world operation).trans (inductionHypothesis _)

end Idempotency
end Vinctor
