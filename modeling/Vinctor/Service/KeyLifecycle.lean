import Vinctor.Service.LifecycleSteps

/-!
# Key versions only age

The epochs of a key version are recorded in order and stay as recorded.  A
version that is disabled gains no result, a retired one has none, and no
transaction removes a result before it expired.

Completion, rotation, drain, retirement and garbage collection are separate
transactions.  Each is one step on the tables, and each checks what it relies on
inside the transaction: a completion reads the version of its reservation again,
and a retirement looks for results of the version again before it marks it.
-/

namespace Vinctor
namespace Idempotency

open Foundation
open Fallible

/-! ## Rows -/

/-- Recorded epochs follow each other. -/
structure KeyVersionRow.EpochsOrdered (row : KeyVersionRow) : Prop where
  writeDisabled : ∀ disabled, row.writeDisabledEpoch = some disabled →
    row.firstSeenEpoch ≤ disabled
  drainCompleted : ∀ drained, row.drainCompletedEpoch = some drained →
    ∃ disabled, row.writeDisabledEpoch = some disabled ∧ disabled ≤ drained
  retired : ∀ retired, row.retiredEpoch = some retired →
    ∃ drained, row.drainCompletedEpoch = some drained ∧ drained ≤ retired

/-- The schema orders the epochs. -/
theorem KeyVersionRow.epochsOrdered_of_check
    {version : String}
    {row : KeyVersionRow}
    (checked : row.check version = true) :
    row.EpochsOrdered := by
  simp only [KeyVersionRow.check, Bool.and_eq_true, Option.all_eq_true, decide_eq_true_eq,
    Option.any_eq_true] at checked
  obtain ⟨⟨⟨⟨-, writeDisabled⟩, -⟩, drainCompleted⟩, retired⟩ := checked
  exact ⟨writeDisabled, drainCompleted, retired⟩

/-- Recorded epochs are kept. -/
structure KeyVersionRow.Keeps (before after : KeyVersionRow) : Prop where
  firstSeen : after.firstSeenEpoch = before.firstSeenEpoch
  writeDisabled : ∀ epoch, before.writeDisabledEpoch = some epoch →
    after.writeDisabledEpoch = some epoch
  drainCompleted : ∀ epoch, before.drainCompletedEpoch = some epoch →
    after.drainCompletedEpoch = some epoch
  retired : ∀ epoch, before.retiredEpoch = some epoch → after.retiredEpoch = some epoch

theorem KeyVersionRow.Keeps.refl (row : KeyVersionRow) : row.Keeps row :=
  ⟨rfl, fun _ => id, fun _ => id, fun _ => id⟩

theorem KeyVersionRow.Keeps.trans
    {first second third : KeyVersionRow}
    (earlier : first.Keeps second)
    (later : second.Keeps third) :
    first.Keeps third where
  firstSeen := later.firstSeen.trans earlier.firstSeen
  writeDisabled := fun epoch recorded =>
    later.writeDisabled epoch (earlier.writeDisabled epoch recorded)
  drainCompleted := fun epoch recorded =>
    later.drainCompleted epoch (earlier.drainCompleted epoch recorded)
  retired := fun epoch recorded => later.retired epoch (earlier.retired epoch recorded)

/-- An epoch that is set where none is recorded. -/
theorem or_eq_some_of_eq_some
    {recorded : Option Int}
    {epoch : Int}
    (present : recorded = some epoch)
    (other : Option Int) :
    recorded.or other = some epoch := by
  rw [present]
  rfl

/-! ## Tables -/

/-- A table of key versions and results that can follow another: epochs are
kept, and a disabled version gains no result. -/
structure Tables.Ages (before after : Tables) : Prop where
  keeps : ∀ {version row}, before.keyVersions.get? version = some row →
    ∃ kept, after.keyVersions.get? version = some kept ∧ row.Keeps kept
  closed : ∀ {version row}, before.keyVersions.get? version = some row →
    row.writeDisabledEpoch ≠ none →
    ∀ {identity record}, after.results.get? identity = some record →
      record.cipherKeyVersion = version → before.results.get? identity = some record

theorem Tables.Ages.refl (tables : Tables) : tables.Ages tables where
  keeps := fun {_ row} found => ⟨row, found, .refl row⟩
  closed := fun _ _ _ _ stored _ => stored

theorem Tables.Ages.trans
    {first second third : Tables}
    (earlier : first.Ages second)
    (later : second.Ages third) :
    first.Ages third where
  keeps := by
    intro version row found
    obtain ⟨kept, keptFound, keeps⟩ := earlier.keeps found
    obtain ⟨last, lastFound, lastKeeps⟩ := later.keeps keptFound
    exact ⟨last, lastFound, keeps.trans lastKeeps⟩
  closed := by
    intro version row found disabled identity record stored under
    obtain ⟨kept, keptFound, keeps⟩ := earlier.keeps found
    obtain ⟨epoch, recorded⟩ := Option.ne_none_iff_exists'.mp disabled
    have stillDisabled : kept.writeDisabledEpoch ≠ none := by
      rw [keeps.writeDisabled epoch recorded]
      simp
    exact earlier.closed found disabled (later.closed keptFound stillDisabled stored under)
      under

/-- Every key version meets the constraints of the schema, and a retired one
has no results. -/
structure Tables.Orderly (tables : Tables) : Prop where
  checked : ∀ {version row}, tables.keyVersions.get? version = some row →
    row.check version = true
  bare : ∀ {version row}, tables.keyVersions.get? version = some row →
    row.retiredEpoch ≠ none →
    ∀ {identity record}, tables.results.get? identity = some record →
      record.cipherKeyVersion ≠ version

theorem Tables.orderly_empty : Tables.empty.Orderly where
  checked := by
    intro version row found
    cases found
  bare := by
    intro version row found
    cases found

/-- Key versions that are only changed where the schema allows it, over results
that are only removed. -/
structure Tables.Tends (before after : Tables) : Prop extends before.Ages after where
  orderly : before.Orderly → after.Orderly

theorem Tables.Tends.refl (tables : Tables) : tables.Tends tables where
  toAges := .refl tables
  orderly := id

theorem Tables.Tends.trans
    {first second third : Tables}
    (earlier : first.Tends second)
    (later : second.Tends third) :
    first.Tends third where
  toAges := earlier.toAges.trans later.toAges
  orderly := fun orderly => later.orderly (earlier.orderly orderly)

/-- A label that is seen for the first time. -/
theorem Tables.Tends.insertLabel
    {tables : Tables}
    {version : String}
    {row : KeyVersionRow}
    {keyVersions : Table fun (_ : String) (row : KeyVersionRow) => row.keyCommitment}
    (inserts : tables.keyVersions.insert? version row = some keyVersions)
    (checked : row.check version = true)
    (unretired : row.retiredEpoch = none) :
    tables.Tends { tables with keyVersions } where
  keeps := by
    intro other kept found
    have different : other ≠ version := by
      rintro rfl
      rw [(Table.insert?_eq_some inserts).1] at found
      cases found
    refine ⟨kept, ?_, .refl kept⟩
    rw [Table.get?_insert? inserts, if_neg different]
    exact found
  closed := fun _ _ _ _ stored _ => stored
  orderly := by
    intro orderly
    constructor
    · intro other kept found
      rw [Table.get?_insert? inserts] at found
      split at found
      · next same =>
          cases found
          rw [same]
          exact checked
      · exact orderly.checked found
    · intro other kept found retired identity record stored
      rw [Table.get?_insert? inserts] at found
      split at found
      · cases found
        exact absurd unretired retired
      · exact orderly.bare found retired stored

/-- A changed label whose new row meets the constraints.  Results may be
missing, and are when the change retires the label. -/
theorem Tables.Tends.modifyLabel
    {before swept : Tables}
    {version : String}
    (change : KeyVersionRow → KeyVersionRow)
    (keepsCommitment : ∀ row, (change row).keyCommitment = row.keyCommitment)
    {row : KeyVersionRow}
    (found : swept.keyVersions.get? version = some row)
    (checked : (change row).check version = true)
    (keeps : row.Keeps (change row))
    (bare : (change row).retiredEpoch ≠ none → row.retiredEpoch = none →
      ∀ {identity record}, swept.results.get? identity = some record →
        record.cipherKeyVersion ≠ version)
    (tends : before.Tends swept) :
    before.Tends
      { swept with
        keyVersions := swept.keyVersions.modify version change keepsCommitment } := by
  have lookup := Table.get?_modify swept.keyVersions version change keepsCommitment
  refine tends.trans ⟨⟨?_, fun _ _ _ _ stored _ => stored⟩, ?_⟩
  · intro other kept keptFound
    rw [lookup]
    split
    · next same =>
        subst same
        rw [found, Option.some.injEq] at keptFound
        subst keptFound
        rw [found]
        exact ⟨change row, rfl, keeps⟩
    · exact ⟨kept, keptFound, .refl kept⟩
  · intro orderly
    constructor
    · intro other kept keptFound
      rw [lookup] at keptFound
      split at keptFound
      · next same =>
          subst same
          rw [found] at keptFound
          cases keptFound
          exact checked
      · exact orderly.checked keptFound
    · intro other kept keptFound retired identity record stored
      rw [lookup] at keptFound
      split at keptFound
      · next same =>
          subst same
          rw [found] at keptFound
          cases keptFound
          by_cases earlier : row.retiredEpoch = none
          · exact bare retired earlier stored
          · exact orderly.bare found earlier stored
      · exact orderly.bare keptFound retired stored

/-- Results that are only removed. -/
theorem Tables.Tends.removeResults
    {tables : Tables}
    {results : Table fun (_ : ResultIdentity) (record : CompletedResultRecord) =>
      (record.cipherKeyVersion, record.responseNonce)}
    (kept : ∀ {identity record}, results.get? identity = some record →
      tables.results.get? identity = some record) :
    tables.Tends { tables with results } where
  keeps := (Tables.Ages.refl tables).keeps
  closed := fun _ _ _ _ stored _ => kept stored
  orderly := fun orderly =>
    ⟨orderly.checked, fun found retired _ _ stored => orderly.bare found retired (kept stored)⟩

theorem Tables.Tends.eraseResult (tables : Tables) (identity : ResultIdentity) :
    tables.Tends { tables with results := tables.results.erase identity } := by
  apply Tables.Tends.removeResults
  intro other record stored
  rw [Table.get?_erase] at stored
  split at stored
  · cases stored
  · exact stored

/-- A result that is stored under a version in use. -/
theorem Tables.Tends.insertResult
    {tables : Tables}
    {identity : ResultIdentity}
    {record : CompletedResultRecord}
    {results : Table fun (_ : ResultIdentity) (record : CompletedResultRecord) =>
      (record.cipherKeyVersion, record.responseNonce)}
    (inserts : tables.results.insert? identity record = some results)
    {row : KeyVersionRow}
    (found : tables.keyVersions.get? record.cipherKeyVersion = some row)
    (enabled : row.writeDisabledEpoch = none)
    (unretired : row.retiredEpoch = none) :
    tables.Tends { tables with results } where
  keeps := (Tables.Ages.refl tables).keeps
  closed := by
    intro version other otherFound disabled otherIdentity stored isStored under
    dsimp only at isStored
    rw [Table.get?_insert? inserts] at isStored
    split at isStored
    · cases isStored
      rw [under, otherFound, Option.some.injEq] at found
      rw [found] at disabled
      exact absurd enabled disabled
    · exact isStored
  orderly := by
    intro orderly
    refine ⟨orderly.checked, ?_⟩
    intro version other otherFound retired otherIdentity stored isStored
    dsimp only at isStored otherFound
    rw [Table.get?_insert? inserts] at isStored
    split at isStored
    · cases isStored
      rintro rfl
      rw [otherFound, Option.some.injEq] at found
      rw [found] at retired
      exact retired unretired
    · exact orderly.bare otherFound retired isStored

/-! ## Transactions -/

theorem Tables.InsertsLabel.tends
    {before after : Tables}
    (inserts : before.InsertsLabel after) :
    before.Tends after := by
  obtain ⟨registration, nowEpoch, keyVersions, checked, inserted, rfl⟩ := inserts
  exact .insertLabel inserted checked rfl

theorem reserveNonce_tends
    {version : String}
    {invocation : IdempotencyInvocation}
    {nowEpoch : Int}
    {nonce : Option Bytes}
    {reservation : CryptoReservation}
    {before after : Tables}
    (reserves : reserveNonce version invocation nowEpoch nonce before =
      .ok (reservation, after)) :
    before.Tends after := by
  simp only [reserveNonce, bind_eq_ok, require_eq_ok, ensure_eq_ok, pure_eq_ok,
    Prod.mk.injEq] at reserves
  obtain ⟨row, found, -, ⟨-, unretired⟩, -, -, -, checked, -, -, -, -, -, -, nonces, -, -,
    rfl⟩ := reserves
  have tends := Tables.Tends.modifyLabel (takeSlot nowEpoch) (fun _ => rfl) found checked
    ⟨rfl, fun _ => id, fun _ => id, fun _ => id⟩
    (fun retired => absurd unretired retired) (.refl before)
  exact ⟨⟨tends.keeps, tends.closed⟩, fun orderly =>
    ⟨(tends.orderly orderly).checked, (tends.orderly orderly).bare⟩⟩

theorem writeDisable_tends
    {version : String}
    {reason : WriteDisabledReason}
    {nowEpoch : Int}
    {before after : Tables}
    (disables : writeDisable version reason nowEpoch before = .ok after) :
    before.Tends after := by
  rcases writeDisable_cases disables with
    unchanged | ⟨row, found, unretired, checked, changes⟩
  · rw [unchanged]
    exact .refl before
  · rw [changes]
    apply Tables.Tends.modifyLabel (disableWrites reason nowEpoch) (fun _ => rfl) found checked
    · exact ⟨rfl, fun _ recorded => or_eq_some_of_eq_some recorded _, fun _ => id, fun _ => id⟩
    · intro retired
      exact absurd unretired retired
    · exact .refl before

theorem claimReservation_tends
    {invocation : IdempotencyInvocation}
    {reservation : CryptoReservation}
    {nowEpoch : Int}
    {before after : Tables}
    (claims : claimReservation invocation reservation nowEpoch before = .ok after) :
    before.Tends after := by
  simp only [claimReservation, bind_eq_ok, require_eq_ok, ensure_eq_ok, pure_eq_ok] at claims
  obtain ⟨row, -, -, -, -, -, -, -, rfl⟩ := claims
  exact ⟨⟨(Tables.Ages.refl before).keeps, (Tables.Ages.refl before).closed⟩,
    fun orderly => ⟨orderly.checked, orderly.bare⟩⟩

/-- A completion reads the version of its reservation in its own
transaction. -/
theorem prepareCompletion_writable
    {aead : Aead}
    {keyring : Option IdempotencyKeyring}
    {invocation : IdempotencyInvocation}
    {reservation : CryptoReservation}
    {nowEpoch : Int}
    {before : Tables}
    {prepared : Prepared}
    (prepares : prepareCompletion aead keyring invocation reservation nowEpoch before =
      .ok prepared) :
    ∃ row, before.keyVersions.get? reservation.version = some row ∧
      row.writeDisabledEpoch = none ∧ row.retiredEpoch = none := by
  simp only [prepareCompletion, requireReservationAuthentic, bind_eq_ok, require_eq_ok,
    ensure_eq_ok, pure_eq_ok] at prepares
  obtain ⟨-, ⟨-, -, row, found, -, ⟨enabled, unretired⟩, -⟩, -⟩ := prepares
  exact ⟨row, found, enabled, unretired⟩

theorem prepareCompletion_tends
    {aead : Aead}
    {keyring : Option IdempotencyKeyring}
    {invocation : IdempotencyInvocation}
    {reservation : CryptoReservation}
    {nowEpoch : Int}
    {before after : Tables}
    (proceeds : prepareCompletion aead keyring invocation reservation nowEpoch before =
      .ok (.proceed after)) :
    before.Tends after := by
  rw [(prepareCompletion_proceed proceeds).2]
  exact .eraseResult before invocation.resultIdentity

/-- A result is stored under the version of the reservation. -/
theorem storeOutcome_version
    {invocation : IdempotencyInvocation}
    {reservation : CryptoReservation}
    {response : PreSerializedHttpResponse}
    {nowEpoch expiresAtEpoch : Int}
    {key : IdempotencyKeyVersion}
    {call : CipherCall}
    {ciphertext : Option Bytes}
    {before after : Tables}
    (stores : storeOutcome invocation reservation response nowEpoch expiresAtEpoch key call
      ciphertext before = .ok after) :
    ∃ record results, record.cipherKeyVersion = reservation.version ∧
      before.results.insert? invocation.resultIdentity record = some results ∧
      after = { before with results } := by
  simp only [storeOutcome, insertResult, bind_eq_ok, require_eq_ok, ensure_eq_ok,
    pure_eq_ok] at stores
  obtain ⟨sealedBytes, -, -, ⟨-, version⟩, -, -, -, -, results, inserts, rfl⟩ := stores
  exact ⟨_, results, version, inserts, rfl⟩

theorem storeOutcome_tends
    {aead : Aead}
    {keyring : Option IdempotencyKeyring}
    {invocation : IdempotencyInvocation}
    {reservation : CryptoReservation}
    {response : PreSerializedHttpResponse}
    {nowEpoch expiresAtEpoch : Int}
    {key : IdempotencyKeyVersion}
    {call : CipherCall}
    {ciphertext : Option Bytes}
    {before prepared after : Tables}
    (proceeds : prepareCompletion aead keyring invocation reservation nowEpoch before =
      .ok (.proceed prepared))
    (stores : storeOutcome invocation reservation response nowEpoch expiresAtEpoch key call
      ciphertext prepared = .ok after) :
    before.Tends after := by
  obtain ⟨row, found, enabled, unretired⟩ := prepareCompletion_writable proceeds
  obtain ⟨record, results, version, inserts, rfl⟩ := storeOutcome_version stores
  have sameVersions : prepared.keyVersions = before.keyVersions := by
    rw [(prepareCompletion_proceed proceeds).2]
  apply (prepareCompletion_tends proceeds).trans
  apply Tables.Tends.insertResult inserts _ enabled unretired
  rw [version, sameVersions, found]

/-- An update changes a selected row to one that meets the constraints, or
nothing. -/
theorem updateKeyVersion_ok
    {version : String}
    {selects : KeyVersionRow → Bool}
    {change : KeyVersionRow → KeyVersionRow}
    {keepsCommitment : ∀ row, (change row).keyCommitment = row.keyCommitment}
    {before after : Tables}
    {changed : Nat}
    (updates : updateKeyVersion version selects change keepsCommitment before =
      .ok (changed, after)) :
    (changed = 0 ∧ after = before) ∨
    ∃ row, changed = 1 ∧ before.keyVersions.get? version = some row ∧
      selects row = true ∧ (change row).check version = true ∧
      after = { before with
        keyVersions := before.keyVersions.modify version change keepsCommitment } := by
  unfold updateKeyVersion at updates
  split at updates
  · cases updates
    exact Or.inl ⟨rfl, rfl⟩
  · next row found =>
      split at updates
      · next selected =>
          simp only [bind_eq_ok, ensure_eq_ok, pure_eq_ok, Prod.mk.injEq] at updates
          obtain ⟨-, checked, rfl, rfl⟩ := updates
          exact Or.inr ⟨row, rfl, found, selected, checked, rfl⟩
      · cases updates
        exact Or.inl ⟨rfl, rfl⟩

theorem writeDisableUpdate_tends
    {version : String}
    {reason : WriteDisabledReason}
    {nowEpoch : Int}
    {before after : Tables}
    (updates : writeDisableUpdate version reason nowEpoch before = .ok after) :
    before.Tends after := by
  simp only [writeDisableUpdate, bind_eq_ok, pure_eq_ok] at updates
  obtain ⟨⟨changed, result⟩, updates, rfl⟩ := updates
  rcases updateKeyVersion_ok updates with
    ⟨-, unchanged⟩ | ⟨row, -, found, selected, checked, changes⟩
  · rw [unchanged]
    exact .refl before
  · simp only [KeyVersionRow.writable, Bool.and_eq_true, Option.isNone_iff_eq_none] at selected
    rw [changes]
    apply Tables.Tends.modifyLabel (startRotation reason nowEpoch) (fun _ => rfl) found checked
    · refine ⟨rfl, ?_, fun _ => id, fun _ => id⟩
      intro epoch recorded
      rw [selected.1] at recorded
      cases recorded
    · intro retired
      exact absurd selected.2 retired
    · exact .refl before

theorem completeDrainUpdate_tends
    {version : String}
    {nowEpoch : Int}
    {before after : Tables}
    (updates : completeDrainUpdate version nowEpoch before = .ok after) :
    before.Tends after := by
  simp only [completeDrainUpdate, bind_eq_ok, pure_eq_ok] at updates
  obtain ⟨⟨changed, result⟩, updates, rfl⟩ := updates
  rcases updateKeyVersion_ok updates with
    ⟨-, unchanged⟩ | ⟨row, -, found, selected, checked, changes⟩
  · rw [unchanged]
    exact .refl before
  · simp only [Bool.and_eq_true, Option.isNone_iff_eq_none] at selected
    rw [changes]
    apply Tables.Tends.modifyLabel (endDrain nowEpoch) (fun _ => rfl) found checked
    · exact ⟨rfl, fun _ => id, fun _ recorded => or_eq_some_of_eq_some recorded _, fun _ => id⟩
    · intro retired
      exact absurd selected.2 retired
    · exact .refl before

/-- The two parts of a retirement: expired results are deleted, and the row is
marked when none is left. -/
theorem retireLifecycleVersion_ok
    {aead : Aead}
    {keyring : IdempotencyKeyring}
    {version : String}
    {nowEpoch updateEpoch : Int}
    {before after : Tables}
    (retires : retireLifecycleVersion aead keyring version nowEpoch updateEpoch before =
      .ok after) :
    ∃ swept row,
      (before.resultsUnder version).foldlM (retireRow aead keyring) before = .ok swept ∧
      (∀ row ∈ before.resultsUnder version, row.2.expiresAtEpoch ≤ nowEpoch) ∧
      swept.keyVersions.get? version = some row ∧
      swept.resultsUnder version = [] ∧
      (endUse updateEpoch row).check version = true ∧
      after = { swept with
        keyVersions := swept.keyVersions.modify version (endUse updateEpoch)
          fun _ => rfl } := by
  simp only [retireLifecycleVersion, bind_eq_ok, ensure_eq_ok, mapError_eq_ok,
    pure_eq_ok] at retires
  obtain ⟨-, expired, swept, folds, ⟨changed, result⟩, updates, -, once, rfl⟩ := retires
  rcases updateKeyVersion_ok updates with
    ⟨none, -⟩ | ⟨row, -, found, selected, checked, changes⟩
  · rw [none] at once
    contradiction
  · simp only [retirable, Bool.and_eq_true, List.isEmpty_iff] at selected
    exact ⟨swept, row, folds, expired, found, selected.1.2, checked, changes⟩

theorem retireLifecycleVersion_tends
    {aead : Aead}
    {keyring : IdempotencyKeyring}
    {version : String}
    {nowEpoch updateEpoch : Int}
    {before after : Tables}
    (retires : retireLifecycleVersion aead keyring version nowEpoch updateEpoch before =
      .ok after) :
    before.Tends after := by
  obtain ⟨swept, row, folds, -, found, none, checked, rfl⟩ := retireLifecycleVersion_ok retires
  have sweeps : before.Tends swept := by
    refine foldlM_relates Tables.Tends .refl .trans ?_ folds
    intro row present first second retiresRow
    simp only [retireRow, bind_eq_ok, pure_eq_ok] at retiresRow
    obtain ⟨-, -, rfl⟩ := retiresRow
    exact .eraseResult first row.1
  apply Tables.Tends.modifyLabel (endUse updateEpoch) (fun _ => rfl) found checked
  · exact ⟨rfl, fun _ => id, fun _ => id, fun _ recorded => or_eq_some_of_eq_some recorded _⟩
  · intro _ _ identity record stored under
    rw [Dict.get?_eq_some_iff] at stored
    have listed : (identity, record) ∈ swept.resultsUnder version :=
      List.mem_filter.mpr ⟨stored, decide_eq_true under⟩
    rw [none] at listed
    cases listed
  · exact sweeps

theorem Transaction.tends
    {aead : Aead}
    {epoch : Int}
    {before after : Tables}
    (transaction : Transaction aead epoch before after) :
    before.Tends after := by
  cases transaction with
  | idle => exact .refl before
  | registers registers =>
      exact registerSqliteIdempotencyKeyring_relates .refl .trans Tables.InsertsLabel.tends
        registers
  | opens opens => exact registerKeyring_relates .refl .trans Tables.InsertsLabel.tends opens
  | reserves reserves => exact reserveNonce_tends reserves
  | disables disables => exact writeDisable_tends disables
  | claims claims => exact claimReservation_tends claims
  | skips proceeds => exact prepareCompletion_tends proceeds
  | stores proceeds encrypts stores => exact storeOutcome_tends proceeds stores
  | collects collects => exact gcResults_relates .refl .trans .eraseResult collects
  | rotates rotates => exact writeDisableUpdate_tends rotates
  | drains drains => exact completeDrainUpdate_tends drains
  | retires retires => exact retireLifecycleVersion_tends retires

/-! ## Removed results -/

/-- Results that are missing afterwards had expired. -/
def Tables.RemovesExpired (nowEpoch : Int) (before after : Tables) : Prop :=
  ∀ identity record, before.results.get? identity = some record →
    after.results.get? identity = some record ∨ record.expiresAtEpoch ≤ nowEpoch

theorem Tables.RemovesExpired.of_eq
    {before after : Tables}
    (same : after.results = before.results)
    (nowEpoch : Int) :
    Tables.RemovesExpired nowEpoch before after := by
  intro identity record stored
  rw [same]
  exact Or.inl stored

theorem updateKeyVersion_results
    {version : String}
    {selects : KeyVersionRow → Bool}
    {change : KeyVersionRow → KeyVersionRow}
    {keepsCommitment : ∀ row, (change row).keyCommitment = row.keyCommitment}
    {before : Tables}
    {updated : Nat × Tables}
    (updates : updateKeyVersion version selects change keepsCommitment before =
      .ok updated) :
    updated.2.results = before.results := by
  rcases updateKeyVersion_ok updates with ⟨-, unchanged⟩ | ⟨row, -, -, -, -, changes⟩
  · rw [unchanged]
  · rw [changes]

theorem prepareCompletion_removesExpired
    {aead : Aead}
    {keyring : Option IdempotencyKeyring}
    {invocation : IdempotencyInvocation}
    {reservation : CryptoReservation}
    {nowEpoch : Int}
    {before after : Tables}
    (proceeds : prepareCompletion aead keyring invocation reservation nowEpoch before =
      .ok (.proceed after)) :
    before.RemovesExpired nowEpoch after := by
  obtain ⟨expired, rfl⟩ := prepareCompletion_proceed proceeds
  intro identity record stored
  exact (Tables.Sweeps.erase expired).removed stored

theorem retireLifecycleVersion_removesExpired
    {aead : Aead}
    {keyring : IdempotencyKeyring}
    {version : String}
    {nowEpoch updateEpoch : Int}
    {before after : Tables}
    (retires : retireLifecycleVersion aead keyring version nowEpoch updateEpoch before =
      .ok after) :
    before.RemovesExpired nowEpoch after := by
  obtain ⟨swept, row, folds, expired, -, -, -, rfl⟩ := retireLifecycleVersion_ok retires
  -- As in a collection, the rows were read before the first deletion.
  have invariant := foldlM_relates
    (fun first second => before.Sweeps nowEpoch first → before.Sweeps nowEpoch second)
    (fun _ => id)
    (fun earlier later start => later (earlier start))
    (fun row present first second retiresRow start => by
      simp only [retireRow, bind_eq_ok, pure_eq_ok] at retiresRow
      obtain ⟨-, -, rfl⟩ := retiresRow
      apply start.trans
      apply Tables.Sweeps.erase
      intro record stored
      have inStart : before.results.get? row.1 = some row.2 := by
        rw [Dict.get?_eq_some_iff]
        exact List.mem_of_mem_filter present
      have same := (start.kept stored).symm.trans inStart
      rw [Option.some.injEq] at same
      rw [same]
      exact expired row present)
    folds
  intro identity record stored
  exact (invariant (.refl nowEpoch before)).removed stored

/-- No transaction removes a result before it expired. -/
theorem Transaction.removesExpired
    {aead : Aead}
    {epoch : Int}
    {before after : Tables}
    (transaction : Transaction aead epoch before after) :
    before.RemovesExpired epoch after := by
  cases transaction with
  | idle => exact .of_eq rfl epoch
  | registers registers =>
      exact .of_eq (registerSqliteIdempotencyKeyring_extends registers).results epoch
  | opens opens => exact .of_eq (registerKeyring_ok opens).1.results epoch
  | reserves reserves => exact .of_eq (reserveNonce_ok reserves).1.results epoch
  | disables disables => exact .of_eq (writeDisable_extends disables).results epoch
  | claims claims => exact .of_eq (claimReservation_extends claims).results epoch
  | skips proceeds => exact prepareCompletion_removesExpired proceeds
  | stores proceeds encrypts stores =>
      obtain ⟨record, results, -, inserts, rfl⟩ := storeOutcome_version stores
      intro identity kept stored
      rcases prepareCompletion_removesExpired proceeds identity kept stored with
        present | expired
      · refine Or.inl ?_
        rw [Table.get?_insert? inserts, if_neg ?_]
        · exact present
        · rintro rfl
          rw [(Table.insert?_eq_some inserts).1] at present
          cases present
      · exact Or.inr expired
  | collects collects =>
      intro identity record stored
      exact (gcResults_sweeps collects).removed stored
  | rotates rotates =>
      simp only [writeDisableUpdate, bind_eq_ok, pure_eq_ok] at rotates
      obtain ⟨updated, updates, rfl⟩ := rotates
      exact .of_eq (updateKeyVersion_results updates) epoch
  | drains drains =>
      simp only [completeDrainUpdate, bind_eq_ok, pure_eq_ok] at drains
      obtain ⟨updated, updates, rfl⟩ := drains
      exact .of_eq (updateKeyVersion_results updates) epoch
  | retires retires => exact retireLifecycleVersion_removesExpired retires

/-! ## The lifecycle -/

section Runs

variable {β : Type u}

/-- In every state that a run reaches, the epochs of a key version are in order
and stay recorded; a disabled version gains no result, a retired one has none
from then on, and no step removes a result before it expired. -/
theorem key_version_lifecycle
    (sha256 : Bytes → Bytes)
    (aead : Aead)
    (epoch : Int)
    (rest : β)
    (operations later : List (LifecycleOperation β)) :
    let world := lifecycleRun sha256 aead (LifecycleWorld.initial epoch rest) operations
    let after := lifecycleRun sha256 aead world later
    (∀ {version row}, world.tables.keyVersions.get? version = some row →
      row.EpochsOrdered ∧
      (∃ kept, after.tables.keyVersions.get? version = some kept ∧ row.Keeps kept) ∧
      (row.writeDisabledEpoch ≠ none →
        ∀ {identity record}, after.tables.results.get? identity = some record →
          record.cipherKeyVersion = version →
          world.tables.results.get? identity = some record) ∧
      (row.retiredEpoch ≠ none →
        ∀ {identity record}, after.tables.results.get? identity = some record →
          record.cipherKeyVersion ≠ version)) ∧
    (∀ operation,
      world.tables.RemovesExpired world.epoch
        (lifecycleStep sha256 aead world operation).tables) := by
  intro world after
  have orderly : world.tables.Orderly :=
    lifecycleRun_preserves (fun transaction => transaction.tends.orderly)
      Tables.orderly_empty operations
  have laterOrderly : after.tables.Orderly :=
    lifecycleRun_preserves (fun transaction => transaction.tends.orderly) orderly later
  have ages : world.tables.Ages after.tables :=
    lifecycleRun_relates (fun transaction => transaction.tends.orderly) .refl .trans
      (fun transaction _ => transaction.tends.toAges) orderly later
  constructor
  · intro version row found
    obtain ⟨kept, keptFound, keeps⟩ := ages.keeps found
    refine ⟨KeyVersionRow.epochsOrdered_of_check (orderly.checked found),
      ⟨kept, keptFound, keeps⟩, ages.closed found, ?_⟩
    intro retired
    obtain ⟨epoch, recorded⟩ := Option.ne_none_iff_exists'.mp retired
    apply laterOrderly.bare keptFound
    rw [keeps.retired epoch recorded]
    simp
  · intro operation
    exact (lifecycleStep_transaction sha256 aead world operation).removesExpired

end Runs

end Idempotency
end Vinctor
