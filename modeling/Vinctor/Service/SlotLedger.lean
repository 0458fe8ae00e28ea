import Mathlib.Data.List.Range
import Vinctor.Service.KeyLifecycle

/-!
# The ledger of encryption slots

A key version counts its encryption slots, and the ledger has one nonce for
each of them.  Counter and ledger change in one transaction: a reservation that
ends without a nonce changes neither.  Slots are given out in order and no row
leaves the ledger, so that the rows of a version have the slots from one up to
the counter.
-/

namespace Vinctor
namespace Idempotency

open Foundation
open Fallible

/-- The ledger rows of a version, in the order of their reservation. -/
def Tables.ledgerOf (tables : Tables) (version : String) :
    List ((String × Bytes) × NonceRow) :=
  tables.nonces.entries.filter fun entry => entry.1.1 = version

def Tables.slotsOf (tables : Tables) (version : String) : List Nat :=
  (tables.ledgerOf version).map fun entry => entry.2.slot

def Tables.noncesOf (tables : Tables) (version : String) : List Bytes :=
  (tables.ledgerOf version).map fun entry => entry.1.2

theorem Tables.nonceCount_eq_length (tables : Tables) (version : String) :
    tables.nonceCount version = (tables.ledgerOf version).length :=
  List.countP_eq_length_filter

/-- The schema keeps the nonces of a version apart. -/
theorem Tables.nodup_noncesOf (tables : Tables) (version : String) :
    (tables.noncesOf version).Nodup := by
  have keys : ((tables.ledgerOf version).map Prod.fst).Nodup :=
    tables.nonces.keysDistinct.sublist (List.filter_sublist.map Prod.fst)
  apply List.Nodup.of_map fun nonce => (version, nonce)
  have same : (tables.noncesOf version).map (fun nonce => (version, nonce)) =
      (tables.ledgerOf version).map Prod.fst := by
    unfold Tables.noncesOf
    rw [List.map_map]
    apply List.map_congr_left
    intro entry present
    have under : entry.1.1 = version := by
      simpa using (List.mem_filter.mp present).2
    rw [Function.comp_apply, ← under]
  rw [same]
  exact keys

/-- Counter and ledger agree, and no nonce is without a version. -/
structure Tables.Balanced (tables : Tables) : Prop where
  slots : ∀ {version row}, tables.keyVersions.get? version = some row →
    tables.slotsOf version = List.range' 1 row.reservedEncryptionSlots
  known : ∀ {key reserved}, tables.nonces.get? key = some reserved →
    (tables.keyVersions.get? key.1).isSome

theorem Tables.balanced_empty : Tables.empty.Balanced where
  slots := by
    intro version row found
    cases found
  known := by
    intro key reserved found
    cases found

/-- A label that the ledger does not know has no slots. -/
theorem Tables.Balanced.slotsOf_unknown
    {tables : Tables}
    (balanced : tables.Balanced)
    {version : String}
    (unknown : tables.keyVersions.get? version = none) :
    tables.slotsOf version = [] := by
  have empty : tables.ledgerOf version = [] := by
    apply List.filter_eq_nil_iff.mpr
    rintro ⟨key, reserved⟩ present under
    have known := balanced.known ((Dict.get?_eq_some_iff _ _ _).mpr present)
    have same : key.1 = version := by simpa using under
    rw [same, unknown] at known
    cases known
  rw [Tables.slotsOf, empty]
  rfl

/-! ## Transactions that reserve nothing -/

/-- The ledger is the same, labels keep their counters, and new ones start at
zero. -/
structure Tables.SameLedger (before after : Tables) : Prop where
  nonces : after.nonces = before.nonces
  kept : ∀ {version row}, before.keyVersions.get? version = some row →
    ∃ kept, after.keyVersions.get? version = some kept ∧
      kept.reservedEncryptionSlots = row.reservedEncryptionSlots
  fresh : ∀ {version row}, before.keyVersions.get? version = none →
    after.keyVersions.get? version = some row → row.reservedEncryptionSlots = 0

theorem Tables.SameLedger.refl (tables : Tables) : tables.SameLedger tables where
  nonces := rfl
  kept := fun {_ row} found => ⟨row, found, rfl⟩
  fresh := by
    intro version row unknown found
    rw [unknown] at found
    cases found

theorem Tables.SameLedger.trans
    {first second third : Tables}
    (earlier : first.SameLedger second)
    (later : second.SameLedger third) :
    first.SameLedger third where
  nonces := later.nonces.trans earlier.nonces
  kept := by
    intro version row found
    obtain ⟨kept, keptFound, keptSlots⟩ := earlier.kept found
    obtain ⟨last, lastFound, lastSlots⟩ := later.kept keptFound
    exact ⟨last, lastFound, lastSlots.trans keptSlots⟩
  fresh := by
    intro version row unknown found
    cases between : second.keyVersions.get? version with
    | none => exact later.fresh between found
    | some kept =>
        obtain ⟨last, lastFound, lastSlots⟩ := later.kept between
        rw [found, Option.some.injEq] at lastFound
        rw [lastFound, lastSlots]
        exact earlier.fresh unknown between

theorem Tables.Balanced.sameLedger
    {before after : Tables}
    (balanced : before.Balanced)
    (same : before.SameLedger after) :
    after.Balanced where
  slots := by
    intro version row found
    have sameSlots : after.slotsOf version = before.slotsOf version := by
      rw [Tables.slotsOf, Tables.ledgerOf, same.nonces]
      rfl
    rw [sameSlots]
    cases before' : before.keyVersions.get? version with
    | none =>
        rw [balanced.slotsOf_unknown before', same.fresh before' found]
        rfl
    | some earlier =>
        obtain ⟨kept, keptFound, keptSlots⟩ := same.kept before'
        rw [found, Option.some.injEq] at keptFound
        rw [balanced.slots before', keptFound, keptSlots]
  known := by
    intro key reserved found
    rw [same.nonces] at found
    obtain ⟨row, rowFound⟩ := Option.isSome_iff_exists.mp (balanced.known found)
    obtain ⟨kept, keptFound, -⟩ := same.kept rowFound
    rw [keptFound]
    rfl

/-- The stored results are no part of the ledger. -/
theorem Tables.SameLedger.withResults
    (tables : Tables)
    (results : Table fun (_ : ResultIdentity) (record : CompletedResultRecord) =>
      (record.cipherKeyVersion, record.responseNonce)) :
    tables.SameLedger { tables with results } :=
  ⟨rfl, (Tables.SameLedger.refl tables).kept, (Tables.SameLedger.refl tables).fresh⟩

theorem Tables.SameLedger.insertLabel
    {tables : Tables}
    {version : String}
    {row : KeyVersionRow}
    {keyVersions : Table fun (_ : String) (row : KeyVersionRow) => row.keyCommitment}
    (inserts : tables.keyVersions.insert? version row = some keyVersions)
    (unused : row.reservedEncryptionSlots = 0) :
    tables.SameLedger { tables with keyVersions } where
  nonces := rfl
  kept := by
    intro other kept found
    refine ⟨kept, ?_, rfl⟩
    rw [Table.get?_insert? inserts, if_neg ?_]
    · exact found
    · rintro rfl
      rw [(Table.insert?_eq_some inserts).1] at found
      cases found
  fresh := by
    intro other new unknown found
    rw [Table.get?_insert? inserts] at found
    split at found
    · cases found
      exact unused
    · rw [unknown] at found
      cases found

theorem Tables.SameLedger.modifyLabel
    (tables : Tables)
    (version : String)
    (change : KeyVersionRow → KeyVersionRow)
    (keepsCommitment : ∀ row, (change row).keyCommitment = row.keyCommitment)
    (keepsSlots : ∀ row, (change row).reservedEncryptionSlots = row.reservedEncryptionSlots) :
    tables.SameLedger
      { tables with
        keyVersions := tables.keyVersions.modify version change keepsCommitment } where
  nonces := rfl
  kept := by
    intro other row found
    rw [Table.get?_modify]
    split
    · exact ⟨change row, by rw [found]; rfl, keepsSlots row⟩
    · exact ⟨row, found, rfl⟩
  fresh := by
    intro other row unknown found
    have present := congrArg Option.isSome found
    rw [Table.isSome_get?_modify, unknown] at present
    cases present

theorem Tables.InsertsLabel.sameLedger
    {before after : Tables}
    (inserts : before.InsertsLabel after) :
    before.SameLedger after := by
  obtain ⟨registration, nowEpoch, keyVersions, -, inserted, rfl⟩ := inserts
  exact .insertLabel inserted rfl

theorem writeDisable_sameLedger
    {version : String}
    {reason : WriteDisabledReason}
    {nowEpoch : Int}
    {before after : Tables}
    (disables : writeDisable version reason nowEpoch before = .ok after) :
    before.SameLedger after := by
  rcases writeDisable_cases disables with unchanged | ⟨row, -, -, -, changes⟩
  · rw [unchanged]
    exact .refl before
  · rw [changes]
    exact .modifyLabel before version (disableWrites reason nowEpoch) (fun _ => rfl)
      fun _ => rfl

theorem updateKeyVersion_sameLedger
    {version : String}
    {selects : KeyVersionRow → Bool}
    {change : KeyVersionRow → KeyVersionRow}
    {keepsCommitment : ∀ row, (change row).keyCommitment = row.keyCommitment}
    {before : Tables}
    {updated : Nat × Tables}
    (updates : updateKeyVersion version selects change keepsCommitment before =
      .ok updated)
    (keepsSlots : ∀ row, (change row).reservedEncryptionSlots = row.reservedEncryptionSlots) :
    before.SameLedger updated.2 := by
  rcases updateKeyVersion_ok updates with ⟨-, unchanged⟩ | ⟨row, -, -, -, -, changes⟩
  · rw [unchanged]
    exact .refl before
  · rw [changes]
    exact .modifyLabel before version change keepsCommitment keepsSlots

theorem retireLifecycleVersion_sameLedger
    {aead : Aead}
    {keyring : IdempotencyKeyring}
    {version : String}
    {nowEpoch updateEpoch : Int}
    {before after : Tables}
    (retires : retireLifecycleVersion aead keyring version nowEpoch updateEpoch before =
      .ok after) :
    before.SameLedger after := by
  obtain ⟨swept, row, folds, -, -, -, -, rfl⟩ := retireLifecycleVersion_ok retires
  have sweeps : before.SameLedger swept := by
    refine foldlM_relates Tables.SameLedger .refl .trans ?_ folds
    intro row present first second retiresRow
    simp only [retireRow, bind_eq_ok, pure_eq_ok] at retiresRow
    obtain ⟨-, -, rfl⟩ := retiresRow
    exact .withResults first _
  exact sweeps.trans
    (.modifyLabel swept version (endUse updateEpoch) (fun _ => rfl) fun _ => rfl)

/-! ## Reservation and claim -/

/-- A changed ledger row keeps its place and its slot. -/
theorem Tables.slotsOf_modify
    (tables : Tables)
    (key : String × Bytes)
    (change : NonceRow → NonceRow)
    (keepsSlot : ∀ row, (key.1, (change row).slot) = (key.1, row.slot))
    (version : String) :
    Tables.slotsOf { tables with nonces := tables.nonces.modify key change keepsSlot } version =
      tables.slotsOf version := by
  have keepsVersion : (fun entry : (String × Bytes) × NonceRow =>
        decide (entry.1.1 = version)) ∘
      (fun entry => if entry.1 = key then (entry.1, change entry.2) else entry) =
        fun entry => decide (entry.1.1 = version) := by
    funext entry
    rw [Function.comp_apply]
    split <;> rfl
  have keepsSlots : (fun entry : (String × Bytes) × NonceRow => entry.2.slot) ∘
      (fun entry => if entry.1 = key then (entry.1, change entry.2) else entry) =
        fun entry => entry.2.slot := by
    funext entry
    rw [Function.comp_apply]
    split
    · exact congrArg Prod.snd (keepsSlot entry.2)
    · rfl
  unfold Tables.slotsOf Tables.ledgerOf
  simp only [Table.modify]
  rw [List.filter_map, List.map_map, keepsVersion, keepsSlots]

theorem claimReservation_balanced
    {invocation : IdempotencyInvocation}
    {reservation : CryptoReservation}
    {nowEpoch : Int}
    {before after : Tables}
    (claims : claimReservation invocation reservation nowEpoch before = .ok after)
    (balanced : before.Balanced) :
    after.Balanced := by
  simp only [claimReservation, bind_eq_ok, require_eq_ok, ensure_eq_ok, pure_eq_ok] at claims
  obtain ⟨row, -, -, -, -, -, -, -, rfl⟩ := claims
  constructor
  · intro version other found
    exact (before.slotsOf_modify (reservation.version, reservation.nonce) (claimAt nowEpoch)
      (fun _ => rfl) version).trans (balanced.slots found)
  · intro key reserved found
    have present : (before.nonces.get? key).isSome = true :=
      (Table.isSome_get?_modify before.nonces (reservation.version, reservation.nonce)
        (claimAt nowEpoch) (fun _ => rfl) key).symm.trans (congrArg Option.isSome found)
    obtain ⟨earlier, earlierFound⟩ := Option.isSome_iff_exists.mp present
    exact balanced.known earlierFound

/-- What a reservation does: the counter of a version in use goes up by one, and
the ledger gains a row with the new slot. -/
theorem reserveNonce_row
    {version : String}
    {invocation : IdempotencyInvocation}
    {nowEpoch : Int}
    {nonce : Option Bytes}
    {reservation : CryptoReservation}
    {before after : Tables}
    (reserves : reserveNonce version invocation nowEpoch nonce before =
      .ok (reservation, after)) :
    ∃ row reserved given nonces, before.keyVersions.get? version = some row ∧
      row.writeDisabledEpoch = none ∧ row.retiredEpoch = none ∧
      reserved.slot = row.reservedEncryptionSlots + 1 ∧
      before.nonces.insert? (version, given) reserved = some nonces ∧
      after = { before with
        keyVersions := before.keyVersions.modify version (takeSlot nowEpoch) fun _ => rfl
        nonces } := by
  simp only [reserveNonce, bind_eq_ok, require_eq_ok, ensure_eq_ok, pure_eq_ok,
    Prod.mk.injEq] at reserves
  obtain ⟨row, found, -, ⟨enabled, unretired⟩, -, -, -, -, given, -, -, -, -, -, nonces,
    inserts, -, rfl⟩ := reserves
  exact ⟨row, _, given, nonces, found, enabled, unretired, rfl, inserts, rfl⟩

theorem reserveNonce_balanced
    {version : String}
    {invocation : IdempotencyInvocation}
    {nowEpoch : Int}
    {nonce : Option Bytes}
    {reservation : CryptoReservation}
    {before after : Tables}
    (reserves : reserveNonce version invocation nowEpoch nonce before =
      .ok (reservation, after))
    (balanced : before.Balanced) :
    after.Balanced := by
  obtain ⟨row, reserved, given, nonces, found, -, -, slot, inserts, rfl⟩ :=
    reserveNonce_row reserves
  have entries := (Table.insert?_eq_some inserts).2
  have lookup := Table.get?_modify before.keyVersions version (takeSlot nowEpoch) fun _ => rfl
  constructor
  · intro other otherRow otherFound
    have changed := (lookup other).symm.trans otherFound
    unfold Tables.slotsOf Tables.ledgerOf
    dsimp only
    rw [entries, List.filter_append, List.map_append]
    split at changed
    · next same =>
        subst same
        rw [found] at changed
        cases changed
        have slots := balanced.slots found
        unfold Tables.slotsOf Tables.ledgerOf at slots
        rw [slots]
        simp [slot, takeSlot, List.range'_concat, Nat.add_comm]
    · next different =>
        have slots := balanced.slots changed
        unfold Tables.slotsOf Tables.ledgerOf at slots
        rw [slots]
        simp [Ne.symm different]
  · intro key other otherFound
    have stillKnown := Table.isSome_get?_modify before.keyVersions version (takeSlot nowEpoch)
      (fun _ => rfl) key.1
    apply stillKnown.trans
    have inserted := (Table.get?_insert? inserts key).symm.trans otherFound
    split at inserted
    · next same =>
        rw [same, found]
        rfl
    · exact balanced.known inserted

theorem Transaction.balanced
    {aead : Aead}
    {epoch : Int}
    {before after : Tables}
    (transaction : Transaction aead epoch before after)
    (balanced : before.Balanced) :
    after.Balanced := by
  cases transaction with
  | idle => exact balanced
  | registers registers =>
      exact balanced.sameLedger (registerSqliteIdempotencyKeyring_relates .refl .trans
        Tables.InsertsLabel.sameLedger registers)
  | opens opens =>
      exact balanced.sameLedger
        (registerKeyring_relates .refl .trans Tables.InsertsLabel.sameLedger opens)
  | reserves reserves => exact reserveNonce_balanced reserves balanced
  | disables disables => exact balanced.sameLedger (writeDisable_sameLedger disables)
  | claims claims => exact claimReservation_balanced claims balanced
  | skips proceeds =>
      rw [(prepareCompletion_proceed proceeds).2]
      exact balanced.sameLedger (.withResults before _)
  | stores proceeds encrypts stores =>
      obtain ⟨record, results, -, -, rfl⟩ := storeOutcome_version stores
      rw [(prepareCompletion_proceed proceeds).2]
      exact balanced.sameLedger (.withResults before _)
  | collects collects =>
      exact balanced.sameLedger
        (gcResults_relates .refl .trans (fun tables _ => .withResults tables _) collects)
  | rotates rotates =>
      simp only [writeDisableUpdate, bind_eq_ok, pure_eq_ok] at rotates
      obtain ⟨updated, updates, rfl⟩ := rotates
      exact balanced.sameLedger (updateKeyVersion_sameLedger updates fun _ => rfl)
  | drains drains =>
      simp only [completeDrainUpdate, bind_eq_ok, pure_eq_ok] at drains
      obtain ⟨updated, updates, rfl⟩ := drains
      exact balanced.sameLedger (updateKeyVersion_sameLedger updates fun _ => rfl)
  | retires retires => exact balanced.sameLedger (retireLifecycleVersion_sameLedger retires)

/-! ## Added rows -/

/-- A ledger row that a transaction adds is under a version in use. -/
theorem Transaction.adds_nonce
    {aead : Aead}
    {epoch : Int}
    {before after : Tables}
    (transaction : Transaction aead epoch before after)
    {key : String × Bytes}
    {reserved : NonceRow}
    (present : after.nonces.get? key = some reserved)
    (absent : before.nonces.get? key = none) :
    ∃ row, before.keyVersions.get? key.1 = some row ∧
      row.writeDisabledEpoch = none ∧ row.retiredEpoch = none := by
  have contradicts : ∀ {tables : Tables}, before.SameLedger tables →
      tables.nonces.get? key = some reserved → False := by
    intro tables same found
    rw [same.nonces, absent] at found
    cases found
  cases transaction with
  | idle => exact (contradicts (.refl before) present).elim
  | registers registers =>
      exact (contradicts (registerSqliteIdempotencyKeyring_relates .refl .trans
        Tables.InsertsLabel.sameLedger registers) present).elim
  | opens opens =>
      exact (contradicts (registerKeyring_relates .refl .trans
        Tables.InsertsLabel.sameLedger opens) present).elim
  | reserves reserves =>
      obtain ⟨row, other, given, nonces, found, enabled, unretired, -, inserts, rfl⟩ :=
        reserveNonce_row reserves
      have inserted := (Table.get?_insert? inserts key).symm.trans present
      split at inserted
      · next same =>
          rw [same]
          exact ⟨row, found, enabled, unretired⟩
      · rw [absent] at inserted
        cases inserted
  | disables disables => exact (contradicts (writeDisable_sameLedger disables) present).elim
  | claims claims =>
      -- A claim changes a row of the ledger and adds none.
      simp only [claimReservation, bind_eq_ok, require_eq_ok, ensure_eq_ok, pure_eq_ok] at claims
      obtain ⟨row, -, -, -, -, -, -, -, rfl⟩ := claims
      have still := (Table.isSome_get?_modify before.nonces _ (claimAt _)
        (fun _ => rfl) key).symm.trans (congrArg Option.isSome present)
      rw [absent] at still
      cases still
  | skips proceeds =>
      rw [(prepareCompletion_proceed proceeds).2] at present
      exact (contradicts (.withResults before _) present).elim
  | stores proceeds encrypts stores =>
      obtain ⟨record, results, -, -, rfl⟩ := storeOutcome_version stores
      rw [(prepareCompletion_proceed proceeds).2] at present
      exact (contradicts (.withResults before _) present).elim
  | collects collects =>
      exact (contradicts (gcResults_relates .refl .trans (fun tables _ => .withResults tables _)
        collects) present).elim
  | rotates rotates =>
      simp only [writeDisableUpdate, bind_eq_ok, pure_eq_ok] at rotates
      obtain ⟨updated, updates, rfl⟩ := rotates
      exact (contradicts (updateKeyVersion_sameLedger updates fun _ => rfl) present).elim
  | drains drains =>
      simp only [completeDrainUpdate, bind_eq_ok, pure_eq_ok] at drains
      obtain ⟨updated, updates, rfl⟩ := drains
      exact (contradicts (updateKeyVersion_sameLedger updates fun _ => rfl) present).elim
  | retires retires =>
      exact (contradicts (retireLifecycleVersion_sameLedger retires) present).elim

/-! ## The ledger of a run -/

section Runs

variable {β : Type u}

/-- In every state that a run reaches, the counter of a key version is the
number of its nonces, whose slots are the numbers up to it; and a step adds
nonces only under versions that are neither disabled nor retired. -/
theorem slot_ledger_balanced
    (sha256 : Bytes → Bytes)
    (aead : Aead)
    (epoch : Int)
    (rest : β)
    (operations : List (LifecycleOperation β)) :
    let world := lifecycleRun sha256 aead (LifecycleWorld.initial epoch rest) operations
    (∀ {version row}, world.tables.keyVersions.get? version = some row →
      row.reservedEncryptionSlots = world.tables.nonceCount version ∧
      world.tables.slotsOf version = List.range' 1 row.reservedEncryptionSlots ∧
      (world.tables.noncesOf version).Nodup ∧
      row.reservedEncryptionSlots ≤ 16777216) ∧
    (∀ operation {key reserved},
      (lifecycleStep sha256 aead world operation).tables.nonces.get? key = some reserved →
      world.tables.nonces.get? key = none →
      ∃ row, world.tables.keyVersions.get? key.1 = some row ∧
        row.writeDisabledEpoch = none ∧ row.retiredEpoch = none) := by
  intro world
  have balanced : world.tables.Balanced :=
    lifecycleRun_preserves (fun transaction => transaction.balanced)
      Tables.balanced_empty operations
  have orderly : world.tables.Orderly :=
    lifecycleRun_preserves (fun transaction => transaction.tends.orderly)
      Tables.orderly_empty operations
  constructor
  · intro version row found
    have slots := balanced.slots found
    have count : row.reservedEncryptionSlots = world.tables.nonceCount version := by
      rw [Tables.nonceCount_eq_length, ← List.length_map (fun entry => entry.2.slot)]
      change _ = (world.tables.slotsOf version).length
      rw [slots, List.length_range']
    have bounded : row.reservedEncryptionSlots ≤ 16777216 := by
      have checked := orderly.checked found
      simp only [KeyVersionRow.check, Bool.and_eq_true, decide_eq_true_eq] at checked
      exact checked.1.1.1.1.1.1.2
    exact ⟨count, slots, world.tables.nodup_noncesOf version, bounded⟩
  · intro operation key reserved present absent
    exact (lifecycleStep_transaction sha256 aead world operation).adds_nonce present absent

end Runs

end Idempotency
end Vinctor
