import Vinctor.Service.IdempotencySteps

/-!
# No nonce is used twice under one key

The ledger gives every reservation a nonce that is new under its version and
never takes it back, at most one execution may still use a reservation, and an
execution that has called the cipher may not.  A label keeps the commitment it
was first recorded with and a commitment has one label, so that key material is
known under one label across restarts.
-/

namespace Vinctor
namespace Idempotency

open Foundation
open Fallible

variable {β : Type u}

/-! ## Reservations in use -/

/-- An execution may still use a nonce of a version. -/
def World.Holds (world : World β) (id : Nat) (pair : String × Bytes) : Prop :=
  ∃ execution reservation, world.executions id = some execution ∧
    execution.stage.held = some reservation ∧
    (reservation.version, reservation.nonce) = pair

/-- After a move, what is held is held in the new stage or by another execution. -/
theorem World.Holds.of_move
    {world : World β}
    {id other : Nat}
    {execution : Execution β}
    {stage : Stage}
    {pair : String × Bytes}
    (holds : (world.move id execution stage).Holds other pair) :
    (other = id ∧ ∃ reservation, stage.held = some reservation ∧
        (reservation.version, reservation.nonce) = pair) ∨
      (other ≠ id ∧ world.Holds other pair) := by
  obtain ⟨holder, reservation, found, held, same⟩ := holds
  rw [World.executions_move] at found
  by_cases self : other = id
  · rw [if_pos self, Option.some.injEq] at found
    subst found
    exact .inl ⟨self, reservation, held, same⟩
  · rw [if_neg self] at found
    exact .inr ⟨self, holder, reservation, found, held, same⟩

/-- A move that gains no reservation holds nothing new. -/
theorem World.Holds.of_move_gainsNothing
    {world : World β}
    {id other : Nat}
    {execution : Execution β}
    {stage : Stage}
    {pair : String × Bytes}
    (found : world.executions id = some execution)
    (gainsNothing : ∀ reservation, stage.held = some reservation →
      execution.stage.held = some reservation)
    (holds : (world.move id execution stage).Holds other pair) :
    world.Holds other pair := by
  rcases World.Holds.of_move holds with ⟨rfl, reservation, held, same⟩ | ⟨-, holds⟩
  · exact ⟨execution, reservation, found, gainsNothing reservation held, same⟩
  · exact holds

/-! ## The invariant -/

/-- A cipher call under a recorded label, with a reserved nonce that no
execution may use any more. -/
structure Spent (sha256 : Bytes → Bytes) (world : World β) (encryption : Encryption) :
    Prop where
  recorded : world.tables.Records
    { version := encryption.version
      commitment := keyCommitment sha256 encryption.call.key }
  reserved : (world.tables.nonces.get? (encryption.version, encryption.call.nonce)).isSome
  released : ∀ id, ¬world.Holds id (encryption.version, encryption.call.nonce)

structure NonceDiscipline (sha256 : Bytes → Bytes) (world : World β) : Prop where
  accepted : ∀ known, some known ∈ world.accepted →
    ∀ key ∈ known.decryptionKeys, key.Committed sha256
  opened : ∀ known, some known ∈ world.opened → ∀ key ∈ known.decryptionKeys,
    world.tables.Records
      { version := key.version, commitment := keyCommitment sha256 key.material }
  keyrings : ∀ id execution, world.executions id = some execution →
    execution.keyring ∈ world.opened
  reserved : ∀ id pair, world.Holds id pair → (world.tables.nonces.get? pair).isSome
  exclusive : ∀ first second pair, world.Holds first pair → world.Holds second pair →
    first = second
  spent : ∀ encryption ∈ world.encryptions, Spent sha256 world encryption
  distinct :
    (world.encryptions.map fun encryption => (encryption.call.key, encryption.call.nonce)).Nodup

namespace NonceDiscipline

variable {sha256 : Bytes → Bytes} {world : World β}

theorem initial (epoch : Int) (rest : β) :
    NonceDiscipline sha256 (World.initial epoch rest) where
  accepted := by simp [World.initial]
  opened := by simp [World.initial]
  keyrings := by simp [World.initial]
  reserved := by
    rintro id pair ⟨execution, reservation, found, -⟩
    cases found
  exclusive := by
    rintro first second pair ⟨execution, reservation, found, -⟩
    cases found
  spent := by simp [World.initial]
  distinct := by simp [World.initial]

/-- Tables that extend the recorded ones. -/
theorem extendTables
    (discipline : NonceDiscipline sha256 world)
    {tables : Tables}
    (extended : world.tables.Extends tables) :
    NonceDiscipline sha256 { world with tables } where
  accepted := discipline.accepted
  opened := fun known present key member =>
    (discipline.opened known present key member).extend extended
  keyrings := discipline.keyrings
  reserved := fun id pair holds => extended.ledger (discipline.reserved id pair holds)
  exclusive := discipline.exclusive
  spent := fun encryption present =>
    let spent := discipline.spent encryption present
    { recorded := spent.recorded.extend extended
      reserved := extended.ledger spent.reserved
      released := spent.released }
  distinct := discipline.distinct

/-- A move of an execution of an opened store after which nothing new is held. -/
theorem move
    (discipline : NonceDiscipline sha256 world)
    {id : Nat}
    {execution : Execution β}
    {stage : Stage}
    (opened : execution.keyring ∈ world.opened)
    (gainsNothing : ∀ {other pair}, (world.move id execution stage).Holds other pair →
      world.Holds other pair) :
    NonceDiscipline sha256 (world.move id execution stage) where
  accepted := discipline.accepted
  opened := discipline.opened
  keyrings := by
    intro other moved found
    rw [World.executions_move] at found
    split at found
    · cases found
      exact opened
    · exact discipline.keyrings other moved found
  reserved := fun other pair holds => discipline.reserved other pair (gainsNothing holds)
  exclusive := fun first second pair firstHolds secondHolds =>
    discipline.exclusive first second pair (gainsNothing firstHolds) (gainsNothing secondHolds)
  spent := fun encryption present =>
    let spent := discipline.spent encryption present
    { recorded := spent.recorded
      reserved := spent.reserved
      released := fun other holds => spent.released other (gainsNothing holds) }
  distinct := discipline.distinct

/-- A step of a known execution that gains no reservation. -/
theorem moveKnown
    (discipline : NonceDiscipline sha256 world)
    {id : Nat}
    {execution : Execution β}
    {stage : Stage}
    (found : world.executions id = some execution)
    (gainsNothing : ∀ reservation, stage.held = some reservation →
      execution.stage.held = some reservation) :
    NonceDiscipline sha256 (world.move id execution stage) :=
  discipline.move (discipline.keyrings id execution found)
    fun holds => holds.of_move_gainsNothing found gainsNothing

/-- An execution that ends. -/
theorem finish
    (discipline : NonceDiscipline sha256 world)
    {id : Nat}
    {execution : Execution β}
    (found : world.executions id = some execution)
    (reply : Reply) :
    NonceDiscipline sha256 (world.finish id execution reply) :=
  discipline.moveKnown found (fun _ held => nomatch held)

/-- A reservation: its nonce was in nobody's hands and in no cipher call. -/
theorem reserve
    (discipline : NonceDiscipline sha256 world)
    {id : Nat}
    {execution : Execution β}
    {version : String}
    {nowEpoch : Int}
    {nonce : Option Bytes}
    {reservation : CryptoReservation}
    {tables : Tables}
    {stage : Stage}
    (found : world.executions id = some execution)
    (reserves : reserveNonce version execution.invocation nowEpoch nonce world.tables =
      .ok (reservation, tables))
    (gainsOne : ∀ other, stage.held = some other → other = reservation) :
    NonceDiscipline sha256 (({ world with tables } : World β).move id execution stage) := by
  obtain ⟨extended, fresh, ledger⟩ := reserveNonce_ok reserves
  have extends_ := discipline.extendTables extended.toExtends
  have unheld : ∀ other, ¬world.Holds other (reservation.version, reservation.nonce) := by
    intro other holds
    have reserved := discipline.reserved other _ holds
    rw [fresh] at reserved
    cases reserved
  -- What is held afterwards is the new nonce, or was held before.
  have gained : ∀ {other pair},
      (({ world with tables } : World β).move id execution stage).Holds other pair →
        (other = id ∧ pair = (reservation.version, reservation.nonce)) ∨
          (other ≠ id ∧ world.Holds other pair) := by
    intro other pair holds
    rcases holds.of_move with ⟨self, gainedReservation, held, same⟩ | holds
    · rw [gainsOne gainedReservation held] at same
      exact .inl ⟨self, same.symm⟩
    · exact .inr holds
  exact {
    accepted := discipline.accepted
    opened := extends_.opened
    keyrings := by
      intro other moved foundMoved
      rw [World.executions_move] at foundMoved
      split at foundMoved
      · cases foundMoved
        exact discipline.keyrings id execution found
      · exact discipline.keyrings other moved foundMoved
    reserved := by
      intro other pair holds
      rcases gained holds with ⟨-, rfl⟩ | ⟨-, holds⟩
      · exact ledger
      · exact extends_.reserved other pair holds
    exclusive := by
      intro first second pair firstHolds secondHolds
      rcases gained firstHolds with ⟨rfl, rfl⟩ | ⟨-, firstHolds⟩
      · rcases gained secondHolds with ⟨rfl, -⟩ | ⟨-, secondHolds⟩
        · rfl
        · exact absurd secondHolds (unheld second)
      · rcases gained secondHolds with ⟨-, rfl⟩ | ⟨-, secondHolds⟩
        · exact absurd firstHolds (unheld first)
        · exact discipline.exclusive first second pair firstHolds secondHolds
    spent := by
      intro encryption present
      have spentBefore := discipline.spent encryption present
      have spent := extends_.spent encryption present
      refine ⟨spent.recorded, spent.reserved, ?_⟩
      intro other holds
      rcases gained holds with ⟨-, same⟩ | ⟨-, holds⟩
      · have reserved := spentBefore.reserved
        rw [same, fresh] at reserved
        cases reserved
      · exact spentBefore.released other holds
    distinct := discipline.distinct }

/-- A cipher call under the reservation of an execution that then ends. -/
theorem encrypt
    (discipline : NonceDiscipline sha256 world)
    {id : Nat}
    {execution : Execution β}
    {reservation : CryptoReservation}
    {response : PreSerializedHttpResponse}
    {nowEpoch expiresAtEpoch : Int}
    {key : IdempotencyKeyVersion}
    {call : CipherCall}
    (found : world.executions id = some execution)
    (held : execution.stage.held = some reservation)
    (encrypts : encryptOutcome execution.keyring execution.invocation reservation response
      nowEpoch expiresAtEpoch = .ok (key, call))
    (reply : Reply) :
    NonceDiscipline sha256
      (({ world with
          encryptions := world.encryptions ++ [{ version := key.version, call }]
        } : World β).finish id execution reply) := by
  obtain ⟨⟨known, isKnown, keyFound⟩, callKey, callNonce⟩ := encryptOutcome_ok encrypts
  obtain ⟨member, label⟩ := IdempotencyKeyring.of_decryptionKey_eq_some keyFound
  have holds : world.Holds id (key.version, call.nonce) :=
    ⟨execution, reservation, found, held, by rw [label, callNonce]⟩
  have finished := discipline.finish found reply
  have recorded : world.tables.Records
      { version := key.version, commitment := keyCommitment sha256 call.key } := by
    rw [callKey]
    exact discipline.opened known (isKnown ▸ discipline.keyrings id execution found) key member
  have unused : (call.key, call.nonce) ∉ world.encryptions.map fun encryption =>
      (encryption.call.key, encryption.call.nonce) := by
    intro used
    obtain ⟨earlier, present, same⟩ := List.mem_map.mp used
    have spent := discipline.spent earlier present
    rw [Prod.mk.injEq] at same
    -- One material has one commitment, and a commitment has one label.
    have sameVersion : earlier.version = key.version := by
      apply spent.recorded.version_eq recorded
      rw [same.1]
    apply spent.released id
    rw [sameVersion, same.2]
    exact holds
  exact {
    accepted := finished.accepted
    opened := finished.opened
    keyrings := finished.keyrings
    reserved := finished.reserved
    exclusive := finished.exclusive
    spent := by
      intro encryption present
      rcases List.mem_append.mp present with before | new
      · have spent := finished.spent encryption before
        exact ⟨spent.recorded, spent.reserved, spent.released⟩
      · rw [List.mem_singleton] at new
        subst new
        refine ⟨recorded, discipline.reserved id _ holds, ?_⟩
        intro other holdsAfter
        rcases holdsAfter.of_move with ⟨-, gained, heldAfter, -⟩ | ⟨different, holdsOther⟩
        · cases heldAfter
        · exact different (discipline.exclusive other id _ holdsOther holds)
    distinct := by
      change ((world.encryptions ++ [_]).map _).Nodup
      rw [List.map_append]
      exact discipline.distinct.append (List.nodup_singleton _) (by simpa using unused) }

/-- The fields that the discipline does not read may change. -/
theorem congr
    (discipline : NonceDiscipline sha256 world)
    (epoch : Int)
    (rest : β)
    (calls : List Nat)
    (mutations : List CommittedMutation) :
    NonceDiscipline sha256 { world with epoch, rest, calls, mutations } where
  accepted := discipline.accepted
  opened := discipline.opened
  keyrings := discipline.keyrings
  reserved := discipline.reserved
  exclusive := discipline.exclusive
  spent := fun encryption present =>
    let spent := discipline.spent encryption present
    ⟨spent.recorded, spent.reserved, spent.released⟩
  distinct := discipline.distinct

/-! ## Steps -/

theorem complete
    (discipline : NonceDiscipline sha256 world)
    {aead : Aead}
    {id : Nat}
    {execution : Execution β}
    {reservation : CryptoReservation}
    {after : World β}
    (found : world.executions id = some execution)
    (held : execution.stage.held = some reservation)
    (completes : CompletionStep aead world id execution reservation after) :
    NonceDiscipline sha256 after := by
  cases completes with
  | refuses reply => exact discipline.finish found reply
  | calls reply proceeds =>
      exact (discipline.finish found reply).congr world.epoch world.rest _ world.mutations
  | encrypts reply proceeds encrypts =>
      exact (discipline.encrypt found held encrypts reply).congr world.epoch world.rest _
        world.mutations
  | skips reply proceeds =>
      obtain ⟨-, rfl⟩ := prepareCompletion_proceed proceeds
      have extended := (Tables.Extends.refl world.tables).withResults
        (world.tables.results.erase execution.invocation.resultIdentity)
      exact ((discipline.extendTables extended).finish found reply).congr world.epoch _ _ _
  | stores reply proceeds encrypts stores =>
      obtain ⟨-, rfl⟩ := prepareCompletion_proceed proceeds
      obtain ⟨-, results, -, rfl, -⟩ := storeOutcome_ok stores
      have extended := (Tables.Extends.refl world.tables).withResults results
      exact ((discipline.extendTables extended).encrypt found held encrypts reply).congr
        world.epoch _ _ _

theorem advance
    (discipline : NonceDiscipline sha256 world)
    {aead : Aead}
    {id : Nat}
    {execution : Execution β}
    {after : World β}
    (found : world.executions id = some execution)
    (advances : AdvanceStep aead world id execution after) :
    NonceDiscipline sha256 after := by
  cases advances with
  | idles finished => exact discipline
  | moves unfinished extended gainsNothing =>
      exact (discipline.extendTables extended.toExtends).moveKnown found gainsNothing
  | reserves unfinished reserves gainsOne => exact discipline.reserve found reserves gainsOne
  | completes completing completes =>
      exact discipline.complete found (by rw [completing]; rfl) completes

/-- A service that starts with a loaded keyring. -/
theorem register
    (discipline : NonceDiscipline sha256 world)
    {env : Dict String String}
    {keyring : Option IdempotencyKeyring}
    {exactNonceCounts : Bool}
    {tables : Tables}
    (fate : Fate)
    (loads : loadIdempotencyKeyring sha256 env = .ok keyring)
    (registers : registerSqliteIdempotencyKeyring keyring exactNonceCounts world.epoch
      world.tables = .ok tables) :
    NonceDiscipline sha256
      { world with
        tables := fate.keep world.tables tables
        accepted := if fate = .commits then keyring :: world.accepted else world.accepted } := by
  have extended :=
    fate.keep_extends (registerSqliteIdempotencyKeyring_extends registers)
  have extends_ := discipline.extendTables extended.toExtends
  refine { extends_ with accepted := ?_, spent := ?_ }
  · intro known present
    dsimp only at present
    split at present
    · rcases List.mem_cons.mp present with rfl | before
      · exact committed_of_load loads
      · exact discipline.accepted known before
    · exact discipline.accepted known present
  · intro encryption present
    have spent := extends_.spent encryption present
    exact ⟨spent.recorded, spent.reserved, spent.released⟩

/-- A store that opens with an accepted keyring. -/
theorem openStore
    (discipline : NonceDiscipline sha256 world)
    {keyring : Option IdempotencyKeyring}
    {tables : Tables}
    (fate : Fate)
    (accepted : keyring ∈ world.accepted)
    (registers : registerKeyring keyring world.epoch world.tables = .ok tables) :
    NonceDiscipline sha256
      { world with
        tables := fate.keep world.tables tables
        opened := if fate = .commits then keyring :: world.opened else world.opened } := by
  obtain ⟨extended, records⟩ := registerKeyring_ok registers
  have extends_ := discipline.extendTables (fate.keep_extends extended).toExtends
  refine { extends_ with opened := ?_, keyrings := ?_, spent := ?_ }
  · intro known present key member
    dsimp only at present
    split at present
    · next commits =>
        subst commits
        rcases List.mem_cons.mp present with rfl | before
        · have registered : IdempotencyKeyRegistration.mk key.version key.commitment ∈
              known.registrations := List.mem_map.mpr ⟨key, member, rfl⟩
          have recorded := records _ registered
          have committed := discipline.accepted known accepted key member
          rw [committed] at recorded
          exact recorded
        · exact extends_.opened known before key member
    · exact extends_.opened known present key member
  · intro id execution found
    have opened := discipline.keyrings id execution found
    dsimp only
    split
    · exact List.mem_cons_of_mem keyring opened
    · exact opened
  · intro encryption present
    have spent := extends_.spent encryption present
    exact ⟨spent.recorded, spent.reserved, spent.released⟩

/-- Every step of the world keeps the discipline. -/
theorem step
    (discipline : NonceDiscipline sha256 world)
    (aead : Aead)
    (operation : Operation β) :
    NonceDiscipline sha256 (Idempotency.step sha256 aead world operation) := by
  cases operation with
  | tick seconds => exact discipline.congr _ world.rest world.calls world.mutations
  | change rest => exact discipline.congr world.epoch rest world.calls world.mutations
  | register env exactNonceCounts fate =>
      simp only [Idempotency.step]
      split
      · exact discipline
      · next keyring loads =>
          split
          · exact discipline
          · next tables registers => exact discipline.register fate loads registers
  | openStore keyring fate =>
      simp only [Idempotency.step]
      split
      · next accepted =>
          split
          · exact discipline
          · next tables registers => exact discipline.openStore fate accepted registers
      · exact discipline
  | begin id keyring invocation mutation =>
      simp only [Idempotency.step]
      split
      · next opened =>
          apply discipline.move opened.1
          intro other pair holds
          rcases holds.of_move with ⟨-, reservation, held, -⟩ | ⟨-, holds⟩
          · cases held
          · exact holds
      · exact discipline
  | advance id surroundings =>
      simp only [Idempotency.step]
      split
      · exact discipline
      · next execution found =>
          exact discipline.advance found (world.advance_step aead id execution surroundings)
  | crash id =>
      simp only [Idempotency.step]
      split
      · exact discipline
      · next execution found =>
          split
          · exact discipline
          · exact discipline.finish found .crashed
  | collectGarbage keyring limit fate =>
      simp only [Idempotency.step]
      split
      · split
        · exact discipline
        · next collected tables collects =>
            apply discipline.extendTables
            cases fate with
            | rollsBack interruption => exact .refl world.tables
            | commits => exact (gcResults_sweeps collects).toExtends
            | unreported => exact (gcResults_sweeps collects).toExtends
      · exact discipline

end NonceDiscipline

theorem nonceDiscipline_run
    (sha256 : Bytes → Bytes)
    (aead : Aead)
    (epoch : Int)
    (rest : β)
    (operations : List (Operation β)) :
    NonceDiscipline sha256 (run sha256 aead (World.initial epoch rest) operations) := by
  have runs : ∀ world : World β, NonceDiscipline sha256 world →
      NonceDiscipline sha256 (run sha256 aead world operations) := by
    induction operations with
    | nil => exact fun world discipline => discipline
    | cons operation later inductionHypothesis =>
        intro world discipline
        exact inductionHypothesis _ (discipline.step aead operation)
  exact runs _ (NonceDiscipline.initial epoch rest)

/-- Over every run, whatever the nonce source gives and however transactions
end, no key material is passed to the cipher twice with one nonce. -/
theorem cipher_nonces_distinct
    (sha256 : Bytes → Bytes)
    (aead : Aead)
    (epoch : Int)
    (rest : β)
    (operations : List (Operation β)) :
    ((run sha256 aead (World.initial epoch rest) operations).encryptions.map
      fun encryption => (encryption.call.key, encryption.call.nonce)).Nodup :=
  (nonceDiscipline_run sha256 aead epoch rest operations).distinct

end Idempotency
end Vinctor
