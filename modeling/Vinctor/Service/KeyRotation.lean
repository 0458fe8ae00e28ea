import Vinctor.Service.LocalKeys

/-!
# Rotation replaces the keys of its scope

A rotation that returns leaves the key it returned as the only active one of its
scope, and touches no key outside of it; one that raises changes nothing.  Records
only age: their hash stays and what is revoked stays revoked.  Hashes are unique, so
a raw key whose record was revoked finds that record ever after.
-/

namespace Vinctor
namespace Control

open Foundation
open Script

/-! ## Rows -/

/-- Rows stand under their identifiers and no two of them share a hash. -/
structure KeysSound (keys : Dict String LocalKeyRecord) : Prop where
  named : ∀ keyId record, keys.get? keyId = some record → record.keyId = keyId
  distinct : ∀ first second earlier later, keys.get? first = some earlier →
    keys.get? second = some later → earlier.keyHash = later.keyHash → first = second

theorem keysSound_empty : KeysSound Dict.empty where
  named := by
    intro keyId record present
    cases present
  distinct := by
    intro first second earlier later isEarlier
    cases isEarlier

theorem mem_values_iff
    {keys : Dict String LocalKeyRecord}
    {record : LocalKeyRecord} :
    record ∈ keys.values ↔ ∃ keyId, keys.get? keyId = some record := by
  simp only [Dict.values, List.mem_map, Dict.get?_eq_some_iff, Prod.exists]
  constructor
  · rintro ⟨keyId, _, present, rfl⟩
    exact ⟨keyId, present⟩
  · rintro ⟨keyId, present⟩
    exact ⟨keyId, record, present, rfl⟩

/-- A hash finds the row that has it. -/
theorem KeysSound.findByHash_eq
    {keys : Dict String LocalKeyRecord}
    (sound : KeysSound keys)
    {keyId : String}
    {record : LocalKeyRecord}
    (present : keys.get? keyId = some record) :
    findByHash keys record.keyHash = some record := by
  cases found : findByHash keys record.keyHash with
  | none =>
      have absent := List.find?_eq_none.mp found record (mem_values_iff.mpr ⟨keyId, present⟩)
      exact absurd (decide_eq_true rfl) absent
  | some other =>
      obtain ⟨otherId, isOther⟩ := mem_values_iff.mp (List.mem_of_find?_eq_some found)
      have sameHash : other.keyHash = record.keyHash := by
        have matched := List.find?_some found
        exact of_decide_eq_true matched
      have sameId := sound.distinct otherId keyId other record isOther present sameHash
      rw [sameId, present] at isOther
      exact isOther.symm

/-- Rows keep their hashes, what is revoked stays revoked, and the table stays sound. -/
structure Evolves (before after : Dict String LocalKeyRecord) : Prop where
  sound : KeysSound before → KeysSound after
  ages : ∀ keyId record, before.get? keyId = some record →
    ∃ later, after.get? keyId = some later ∧ later.keyHash = record.keyHash ∧
      (record.status = .revoked → later.status = .revoked)

theorem Evolves.refl (keys : Dict String LocalKeyRecord) : Evolves keys keys where
  sound := id
  ages := fun _ record present => ⟨record, present, rfl, id⟩

theorem Evolves.trans
    {first second third : Dict String LocalKeyRecord}
    (earlier : Evolves first second)
    (later : Evolves second third) :
    Evolves first third where
  sound := later.sound ∘ earlier.sound
  ages := by
    intro keyId record present
    obtain ⟨between, isBetween, sameHash, revoked⟩ := earlier.ages keyId record present
    obtain ⟨last, isLast, sameHash', revoked'⟩ := later.ages keyId between isBetween
    exact ⟨last, isLast, sameHash'.trans sameHash, revoked' ∘ revoked⟩

/-! ## Revisions -/

/-- Every row is revised in place. -/
def Revised
    (revise : String → LocalKeyRecord → LocalKeyRecord)
    (before after : Dict String LocalKeyRecord) : Prop :=
  ∀ keyId, after.get? keyId = (before.get? keyId).map (revise keyId)

theorem Revised.evolves
    {revise : String → LocalKeyRecord → LocalKeyRecord}
    {before after : Dict String LocalKeyRecord}
    (revised : Revised revise before after)
    (keepsId : ∀ keyId record, (revise keyId record).keyId = record.keyId)
    (keepsHash : ∀ keyId record, (revise keyId record).keyHash = record.keyHash)
    (keepsRevoked : ∀ keyId record, record.status = .revoked →
      (revise keyId record).status = .revoked) :
    Evolves before after where
  sound := by
    intro sound
    constructor
    · intro keyId record present
      rw [revised keyId] at present
      obtain ⟨earlier, isEarlier, rfl⟩ := Option.map_eq_some_iff.mp present
      exact (keepsId keyId earlier).trans (sound.named keyId earlier isEarlier)
    · intro first second earlier later isEarlier isLater sameHash
      rw [revised first] at isEarlier
      rw [revised second] at isLater
      obtain ⟨one, isOne, rfl⟩ := Option.map_eq_some_iff.mp isEarlier
      obtain ⟨other, isOther, rfl⟩ := Option.map_eq_some_iff.mp isLater
      rw [keepsHash, keepsHash] at sameHash
      exact sound.distinct first second one other isOne isOther sameHash
  ages := by
    intro keyId record present
    refine ⟨revise keyId record, ?_, keepsHash keyId record, keepsRevoked keyId record⟩
    rw [revised keyId, present]
    rfl

/-- A revoked key keeps the time of its revocation. -/
def LocalKeyRecord.revokeOnce (now : Instant) (record : LocalKeyRecord) : LocalKeyRecord :=
  if record.status = .revoked then record else LocalKeyRecord.revoke now record

theorem LocalKeyRecord.revokeOnce_status (now : Instant) (record : LocalKeyRecord) :
    (LocalKeyRecord.revokeOnce now record).status = .revoked := by
  unfold LocalKeyRecord.revokeOnce
  split
  · assumption
  · rfl

/-- Revocation changes nothing that a scope looks at. -/
theorem LocalKeyRecord.revokeOnce_keeps (now : Instant) (record : LocalKeyRecord) :
    (LocalKeyRecord.revokeOnce now record).keyId = record.keyId ∧
    (LocalKeyRecord.revokeOnce now record).keyHash = record.keyHash ∧
    (LocalKeyRecord.revokeOnce now record).keyType = record.keyType ∧
    (LocalKeyRecord.revokeOnce now record).workspaceId = record.workspaceId ∧
    (LocalKeyRecord.revokeOnce now record).agentId = record.agentId := by
  unfold LocalKeyRecord.revokeOnce
  split <;> exact ⟨rfl, rfl, rfl, rfl, rfl⟩

theorem LocalKeyRecord.revokeOnce_revokeOnce (now : Instant) (record : LocalKeyRecord) :
    LocalKeyRecord.revokeOnce now (LocalKeyRecord.revokeOnce now record) =
      LocalKeyRecord.revokeOnce now record :=
  if_pos (LocalKeyRecord.revokeOnce_status now record)

/-- Revocation of the rows with these identifiers. -/
def revokeAmong (keyIds : List String) (now : Instant) (keyId : String) (record : LocalKeyRecord) :
    LocalKeyRecord :=
  if keyId ∈ keyIds then LocalKeyRecord.revokeOnce now record else record

theorem revokeAmong_of_mem
    {keyIds : List String}
    {keyId : String}
    (listed : keyId ∈ keyIds)
    (now : Instant) :
    revokeAmong keyIds now keyId = LocalKeyRecord.revokeOnce now :=
  funext fun _ => if_pos listed

theorem revokeAmong_of_notMem
    {keyIds : List String}
    {keyId : String}
    (notListed : keyId ∉ keyIds)
    (now : Instant) :
    revokeAmong keyIds now keyId = id :=
  funext fun _ => if_neg notListed

theorem Revised.evolves_of_revoke
    {keyIds : List String}
    {now : Instant}
    {before after : Dict String LocalKeyRecord}
    (revised : Revised (revokeAmong keyIds now) before after) :
    Evolves before after := by
  have kept : ∀ keyId record,
      (revokeAmong keyIds now keyId record).keyId = record.keyId ∧
      (revokeAmong keyIds now keyId record).keyHash = record.keyHash ∧
      (record.status = .revoked → (revokeAmong keyIds now keyId record).status = .revoked) := by
    intro keyId record
    unfold revokeAmong
    split
    · obtain ⟨sameId, sameHash, -⟩ := LocalKeyRecord.revokeOnce_keeps now record
      exact ⟨sameId, sameHash, fun _ => LocalKeyRecord.revokeOnce_status now record⟩
    · exact ⟨rfl, rfl, id⟩
  exact revised.evolves (fun keyId record => (kept keyId record).1)
    (fun keyId record => (kept keyId record).2.1) fun keyId record => (kept keyId record).2.2

theorem revised_markRevoked
    {control : ControlState}
    {keyId : String}
    {record : LocalKeyRecord}
    (present : control.keys.get? keyId = some record)
    (active : record.status ≠ .revoked)
    (now : Instant) :
    Revised (revokeAmong [keyId] now) control.keys (markRevoked keyId now control).keys := by
  intro other
  simp only [markRevoked, present, Dict.get?_set]
  by_cases same : other = keyId
  · rw [if_pos same, revokeAmong_of_mem (List.mem_singleton.mpr same), same, present]
    exact congrArg some (if_neg active).symm
  · rw [if_neg same, revokeAmong_of_notMem (same ∘ List.mem_singleton.mp), Option.map_id]
    rfl

theorem Revised.refl_of_revoked
    {keys : Dict String LocalKeyRecord}
    {keyId : String}
    (revoked : ∀ record ∈ keys.get? keyId, record.status = .revoked)
    (now : Instant) :
    Revised (revokeAmong [keyId] now) keys keys := by
  intro other
  by_cases same : other = keyId
  · rw [revokeAmong_of_mem (List.mem_singleton.mpr same), same]
    cases present : keys.get? keyId with
    | none => rfl
    | some record => exact congrArg some (if_pos (revoked record present)).symm
  · rw [revokeAmong_of_notMem (same ∘ List.mem_singleton.mp), Option.map_id]
    rfl

theorem Revised.revoke_cons
    {keyId : String}
    {keyIds : List String}
    {now : Instant}
    {first second third : Dict String LocalKeyRecord}
    (earlier : Revised (revokeAmong [keyId] now) first second)
    (later : Revised (revokeAmong keyIds now) second third) :
    Revised (revokeAmong (keyId :: keyIds) now) first third := by
  intro other
  rw [later other, earlier other, Option.map_map]
  congr 1
  funext record
  rw [Function.comp_apply]
  by_cases same : other = keyId
  · rw [revokeAmong_of_mem (List.mem_singleton.mpr same),
      revokeAmong_of_mem (List.mem_cons.mpr (Or.inl same))]
    by_cases listed : other ∈ keyIds
    · rw [revokeAmong_of_mem listed, LocalKeyRecord.revokeOnce_revokeOnce]
    · rw [revokeAmong_of_notMem listed, id]
  · rw [revokeAmong_of_notMem (same ∘ List.mem_singleton.mp), id]
    by_cases listed : other ∈ keyIds
    · rw [revokeAmong_of_mem listed, revokeAmong_of_mem (List.mem_cons_of_mem keyId listed)]
    · rw [revokeAmong_of_notMem listed,
        revokeAmong_of_notMem (fun isIn => (List.mem_cons.mp isIn).elim same listed)]

theorem evolves_markUsed (keyId : String) (now : Instant) (control : ControlState) :
    Evolves control.keys (markUsed keyId now control).keys := by
  cases present : control.keys.get? keyId with
  | none =>
      simp only [markUsed, present]
      exact Evolves.refl _
  | some record =>
      have revised : Revised (fun other row =>
          if other = keyId then { row with lastUsedAt := some (isoformat now) } else row)
          control.keys (markUsed keyId now control).keys := by
        intro other
        simp only [markUsed, present, Dict.get?_set]
        by_cases same : other = keyId
        · subst same
          simp only [if_true, present, Option.map_some]
        · simp only [if_neg same, Option.map_id_fun', id]
      refine revised.evolves ?_ ?_ ?_
      · intro other row
        split <;> rfl
      · intro other row
        split <;> rfl
      · intro other row revoked
        split <;> exact revoked

/-! ## Insertion -/

theorem insertKey_eq_ok
    {keys after : Dict String LocalKeyRecord}
    {record : LocalKeyRecord}
    (inserts : insertKey keys record = .ok after) :
    keys.get? record.keyId = none ∧
    (∀ keyId other, keys.get? keyId = some other → other.keyHash ≠ record.keyHash) ∧
    after = keys.set record.keyId record := by
  unfold insertKey at inserts
  split at inserts
  · cases inserts
  · next fresh =>
      rw [not_or] at fresh
      refine ⟨Option.not_isSome_iff_eq_none.mp fresh.1, ?_, (Except.ok.inj inserts).symm⟩
      intro keyId other present sameHash
      refine fresh.2 (List.any_eq_true.mpr ⟨(keyId, other), ?_, decide_eq_true sameHash⟩)
      exact (Dict.get?_eq_some_iff keys keyId other).mp present

theorem evolves_insertKey
    {keys after : Dict String LocalKeyRecord}
    {record : LocalKeyRecord}
    (inserts : insertKey keys record = .ok after) :
    Evolves keys after := by
  obtain ⟨absent, fresh, rfl⟩ := insertKey_eq_ok inserts
  constructor
  · intro sound
    constructor
    · intro keyId other present
      rw [Dict.get?_set] at present
      split at present
      · next same =>
          rw [← Option.some.inj present]
          exact same.symm
      · exact sound.named keyId other present
    · intro first second earlier later isEarlier isLater sameHash
      rw [Dict.get?_set] at isEarlier isLater
      split at isEarlier <;> split at isLater
      · next isFirst isSecond => exact isFirst.trans isSecond.symm
      · cases isEarlier
        exact absurd sameHash.symm (fresh second later isLater)
      · cases isLater
        exact absurd sameHash (fresh first earlier isEarlier)
      · exact sound.distinct first second earlier later isEarlier isLater sameHash
  · intro keyId other present
    have different : keyId ≠ record.keyId := by
      rintro rfl
      rw [absent] at present
      cases present
    exact ⟨other, (Dict.get?_set_of_ne keys record different).trans present, rfl, id⟩

/-! ## Parts of the operations -/

/-- What an operation does to the keys. -/
abbrev OnKeys (post : α → Dict String LocalKeyRecord → Dict String LocalKeyRecord → Prop) :
    α → Database → Database → Prop :=
  fun result before after => post result before.control.keys after.control.keys

theorem establishes_keyStatement
    {depth : Nat}
    (change : ControlState → Except ControlError (α × ControlState)) :
    Establishes depth (controlStatement change) fun result before after =>
      change before.control = .ok (result, after.control) := by
  refine (establishes_statement _ _).weaken ?_
  intro result before after changes
  simp only [Fallible.bind_eq_ok, Fallible.pure_eq_ok, Prod.mk.injEq] at changes
  obtain ⟨⟨_, _⟩, changed, rfl, rfl⟩ := changes
  exact changed

theorem writes_insertKey {depth : Nat} (record : LocalKeyRecord) :
    Writes depth (writeScope .operational (controlStatement fun control => do
      let keys ← insertKey control.keys record
      return ((), { control with keys })))
      (OnKeys fun _ before after => insertKey before record = .ok after) := by
  refine Establishes.writes ((establishes_keyStatement _).weaken ?_) _
  intro _ before after changes
  simp only [Fallible.bind_eq_ok, Fallible.pure_eq_ok, Prod.mk.injEq] at changes
  obtain ⟨keys, inserts, -, isControl⟩ := changes
  change insertKey before.control.keys record = .ok after.control.keys
  rw [← isControl]
  exact inserts

theorem writes_createKey
    (config : Config)
    (depth : Nat)
    (keyType : KeyType)
    (rawPrefix workspaceId : String)
    (agentId : Option String)
    (tokens : KeyTokens)
    (now : Instant) :
    Writes depth (createKey config keyType rawPrefix workspaceId agentId tokens now)
      (OnKeys fun created before after =>
        insertKey before created.record = .ok after ∧
        created.record.keyHash = config.hashKey created.rawKey ∧
        created.record.status = .active ∧
        RotationScope.Covers ⟨keyType, workspaceId, agentId⟩ created.record) := by
  refine ((writes_insertKey _).bind_pure _).weaken ?_
  rintro _ before after ⟨_, rfl, inserts⟩
  exact ⟨inserts, rfl, rfl, rfl, rfl, fun _ isAgent => isAgent⟩

theorem writes_createLocalKey
    (config : Config)
    (keyType : KeyType)
    (rawPrefix workspaceId : String)
    (agentId : Option String)
    (input : KeyInput)
    (now : Instant) :
    Writes 0 (createLocalKey config keyType rawPrefix workspaceId agentId input now)
      (OnKeys fun _ => Evolves) := by
  refine (writes_check_bind (fun _ => OnKeys fun _ => Evolves) _ fun _ => ?_).weaken
    fun _ _ _ ⟨_, _, evolves⟩ => evolves
  refine ((writes_insertKey _).bind_pure _).weaken ?_
  rintro _ before after ⟨_, -, inserts⟩
  exact evolves_insertKey inserts

theorem writes_revokeKey (depth : Nat) (keyId : String) (now : Instant) :
    Writes depth (revokeKey keyId now)
      (OnKeys fun _ => Revised (revokeAmong [keyId] now)) := by
  refine (writes_query_bind (fun found => OnKeys fun _ before after =>
    before.get? keyId = found → Revised (revokeAmong [keyId] now) before after) _ _ ?_).weaken
      fun _ _ _ revised => revised rfl
  intro found
  cases found with
  | none =>
      refine (writes_pure _).weaken ?_
      rintro _ before _ ⟨-, rfl⟩ absent
      refine Revised.refl_of_revoked ?_ now
      intro record isRecord
      rw [absent] at isRecord
      cases isRecord
  | some record =>
      dsimp only
      split
      · next revoked =>
          refine (writes_pure _).weaken ?_
          rintro _ before _ ⟨-, rfl⟩ present
          refine Revised.refl_of_revoked ?_ now
          intro found isFound
          rw [present] at isFound
          cases isFound
          exact revoked
      · next active =>
          refine (((establishes_keyStatement _).writes _).bind_pure _).weaken ?_
          rintro _ before after ⟨_, -, changes⟩ present
          have changed := congrArg Prod.snd (Except.ok.inj changes)
          rw [← show _ = after.control from changed]
          exact revised_markRevoked present active now

theorem establishes_revokeAll (depth : Nat) (records : List LocalKeyRecord) (now : Instant) :
    Establishes depth (records.forM fun record => do
      let _ ← revokeKey record.keyId now)
      (OnKeys fun _ => Revised (revokeAmong (records.map (·.keyId)) now)) := by
  induction records with
  | nil =>
      refine (establishes_pure PUnit.unit).weaken ?_
      rintro _ before _ ⟨-, rfl⟩ keyId
      rw [List.map_nil, revokeAmong_of_notMem List.not_mem_nil, Option.map_id]
      rfl
  | cons record rest inductionHypothesis =>
      have first := (writes_revokeKey depth record.keyId now).joined.bind
        fun _ => establishes_pure PUnit.unit
      refine (first.bind fun _ => inductionHypothesis).weaken ?_
      rintro _ before after ⟨_, _, ⟨_, _, revised, -, rfl⟩, others⟩
      exact Revised.revoke_cons revised others

theorem establishes_recordKeys
    (config : Config)
    (depth : Nat)
    (input : ControlEventInput) :
    Establishes depth (record config input) (OnKeys fun _ before after => after = before) := by
  apply establishes_memory_bind
  split
  · apply Establishes.joins
    refine ((establishes_query _ _).bind fun _ => establishes_statement _ _).weaken ?_
    rintro _ before after ⟨_, between, ⟨-, rfl⟩, writes⟩
    split at writes
    · cases writes
      rfl
    · cases writes
  · refine (establishes_pure ()).weaken ?_
    rintro _ before _ ⟨-, rfl⟩
    rfl

/-- A lookup that does not touch leaves the database. -/
theorem commits_untouched (config : Config) (rawKey : String) (now : Instant) :
    Commits 0 (getByRawKey config rawKey now false) fun _ before after =>
      True ∧ after = before := by
  refine commits_query_bind (fun _ _ before after => True ∧ after = before) _ _ fun found => ?_
  cases found with
  | none => exact (commits_pure none).weaken fun _ _ _ same => ⟨trivial, same.2⟩
  | some record => exact (commits_pure (some record)).weaken fun _ _ _ same => ⟨trivial, same.2⟩

theorem commits_getByRawKey (config : Config) (rawKey : String) (now : Instant) :
    Commits 0 (getByRawKey config rawKey now true) (OnKeys fun result before after =>
      result.map (·.status) = (findByHash before (config.hashKey rawKey)).map (·.status) ∧
      Evolves before after) := by
  refine commits_query_bind (fun found : Option LocalKeyRecord =>
    OnKeys fun (result : Option LocalKeyRecord) before after =>
      result.map (·.status) = found.map (·.status) ∧ Evolves before after) _ _ ?_
  intro found
  have unchanged : ∀ found : Option LocalKeyRecord,
      Commits 0 (pure found : Action (Option LocalKeyRecord)) (OnKeys fun result before after =>
        result.map (·.status) = found.map (·.status) ∧ Evolves before after) := by
    intro found
    refine (commits_pure found).weaken ?_
    rintro _ before _ ⟨rfl, rfl⟩
    exact ⟨rfl, Evolves.refl _⟩
  cases found with
  | none => exact unchanged none
  | some record =>
      dsimp only
      split
      · exact unchanged (some record)
      · refine (((establishes_keyStatement _).writes _).bind_pure _).alone.weaken ?_
        rintro _ before after ⟨_, rfl, changes⟩
        have changed := congrArg Prod.snd (Except.ok.inj changes)
        refine ⟨rfl, ?_⟩
        rw [← show _ = after.control from changed]
        exact evolves_markUsed record.keyId now before.control

/-! ## Seeding and resolution -/

theorem commits_ensureKey
    (config : Config)
    (keyType : KeyType)
    (rawPrefix workspaceId : String)
    (agentId : Option String)
    (rawKey : String)
    (tokens : KeyTokens)
    (now : Instant) :
    Commits 0 (ensureKey config keyType rawPrefix workspaceId agentId rawKey tokens now)
      (OnKeys fun _ => Evolves) := by
  refine commits_check_bind _ fun _ => ?_
  -- The lookup does not touch the row, so the rest runs on the same keys.
  have looksUp : Commits 0 (getByRawKey config rawKey now false) fun _ before after =>
      True ∧ after = before := commits_untouched config rawKey now
  refine (looksUp.bind fun found => ?_).weaken fun _ _ _ ⟨_, _, evolves⟩ => evolves
  cases found with
  | some existing =>
      refine commits_check_bind _ fun _ => (commits_pure existing).weaken ?_
      rintro _ before _ ⟨-, rfl⟩
      exact Evolves.refl _
  | none =>
      refine ((writes_createLocalKey config _ _ _ _ _ _).bind_pure _).alone.weaken ?_
      rintro _ before after ⟨_, -, evolves⟩
      exact evolves

/-- The record of the raw key is revoked. -/
def RevokedKey (config : Config) (rawKey : String) (keys : Dict String LocalKeyRecord) : Prop :=
  ∃ keyId record, keys.get? keyId = some record ∧ record.keyHash = config.hashKey rawKey ∧
    record.status = .revoked

theorem RevokedKey.evolve
    {config : Config}
    {rawKey : String}
    {before after : Dict String LocalKeyRecord}
    (revoked : RevokedKey config rawKey before)
    (evolves : Evolves before after) :
    RevokedKey config rawKey after := by
  obtain ⟨keyId, record, present, isHash, isRevoked⟩ := revoked
  obtain ⟨later, isLater, sameHash, stays⟩ := evolves.ages keyId record present
  exact ⟨keyId, later, isLater, sameHash.trans isHash, stays isRevoked⟩

theorem commits_resolveAs
    (config : Config)
    (keyType : KeyType)
    (identify : LocalKeyRecord → Option ι)
    (rawKey : String)
    (now : Instant) :
    Commits 0 (resolveAs config keyType identify rawKey now) (OnKeys fun result before after =>
      Evolves before after ∧
      (KeysSound before → RevokedKey config rawKey before → result = none)) := by
  have mapped := (commits_getByRawKey config rawKey now).map_result fun record =>
    record.bind fun record =>
      if record.status ≠ .active || record.keyType ≠ keyType then none else identify record
  rw [map_eq_pure_bind] at mapped
  refine mapped.weaken ?_
  rintro _ before after ⟨found, rfl, sameStatus, evolves⟩
  refine ⟨evolves, ?_⟩
  rintro sound ⟨keyId, record, present, isHash, revoked⟩
  rw [← isHash, sound.findByHash_eq present, Option.map_some, revoked] at sameStatus
  obtain ⟨read, rfl, status⟩ := Option.map_eq_some_iff.mp sameStatus
  simp [status]

/-! ## Rotation -/

/-- The returned key is active and in the scope, no other key of the scope is active, and
keys outside of the scope are as before. -/
structure Rotates
    (config : Config)
    (scope : RotationScope)
    (result : RotationResult)
    (before after : Dict String LocalKeyRecord) : Prop where
  returned : ∃ record, after.get? result.newKeyId = some record ∧
    record.keyHash = config.hashKey result.rawKey ∧ record.status = .active ∧
      scope.Covers record
  exclusive : ∀ keyId record, after.get? keyId = some record → scope.Covers record →
    record.status = .active → keyId = result.newKeyId
  outside : ∀ keyId record, ¬scope.Covers record →
    (after.get? keyId = some record ↔ before.get? keyId = some record)

/-- The identifiers that a rotation revokes. -/
theorem mem_priorKeys_iff
    {control : ControlState}
    (sound : KeysSound control.keys)
    (scope : RotationScope)
    (newKeyId keyId : String) :
    keyId ∈ (priorKeys control scope.workspaceId newKeyId (fun record =>
      record.keyType = scope.keyType &&
        scope.agentId.all fun agentId => record.agentId = some agentId)).map (·.keyId) ↔
      keyId ≠ newKeyId ∧ ∃ record, control.keys.get? keyId = some record ∧
        record.status = .active ∧ scope.Covers record := by
  simp only [priorKeys, listForWorkspace, List.mem_map, List.mem_filter, List.mem_insertionSort,
    mem_values_iff, Bool.and_eq_true, decide_eq_true_eq, Option.all_eq_true,
    RotationScope.Covers]
  constructor
  · rintro ⟨record, ⟨⟨⟨otherId, present⟩, inWorkspace⟩, ⟨different, active⟩, isType, agent⟩, rfl⟩
    rw [← sound.named otherId record present] at present
    exact ⟨different, record, present, active, isType, inWorkspace, agent⟩
  · rintro ⟨different, record, present, active, isType, inWorkspace, agent⟩
    have named := sound.named keyId record present
    refine ⟨record, ⟨⟨⟨keyId, present⟩, inWorkspace⟩, ⟨?_, active⟩, isType, agent⟩, named⟩
    rw [named]
    exact different

/-- Minting a key and revoking its predecessors rotates the scope. -/
theorem rotates_of_revised
    {config : Config}
    {scope : RotationScope}
    {created : CreatedLocalKey}
    {revoked : List String}
    {now : Instant}
    {before after : Dict String LocalKeyRecord}
    {minted : ControlState}
    (inserts : insertKey before created.record = .ok minted.keys)
    (isHash : created.record.keyHash = config.hashKey created.rawKey)
    (isActive : created.record.status = .active)
    (covered : scope.Covers created.record)
    (isRevoked : ∀ keyId, keyId ∈ revoked ↔ keyId ≠ created.record.keyId ∧
      ∃ record, minted.keys.get? keyId = some record ∧ record.status = .active ∧
        scope.Covers record)
    (revised : Revised (revokeAmong revoked now) minted.keys after) :
    Rotates config scope
      { rawKey := created.rawKey, newKeyId := created.record.keyId, revokedKeyIds := revoked }
      before after := by
  obtain ⟨absent, -, isMinted⟩ := insertKey_eq_ok inserts
  have keeps : ∀ keyId, keyId ∉ revoked → after.get? keyId = minted.keys.get? keyId := by
    intro keyId notListed
    rw [revised keyId, revokeAmong_of_notMem notListed, Option.map_id]
    rfl
  have revokes : ∀ keyId record, keyId ∈ revoked → after.get? keyId = some record →
      record.status = .revoked ∧ scope.Covers record := by
    intro keyId record listed isLater
    obtain ⟨-, earlier, isEarlier, -, isCovered⟩ := (isRevoked keyId).mp listed
    rw [revised keyId, revokeAmong_of_mem listed, isEarlier] at isLater
    cases isLater
    obtain ⟨-, -, sameType, sameWorkspace, sameAgent⟩ :=
      LocalKeyRecord.revokeOnce_keeps now earlier
    refine ⟨LocalKeyRecord.revokeOnce_status now earlier, ?_⟩
    rw [RotationScope.Covers, sameType, sameWorkspace, sameAgent]
    exact isCovered
  have newKept : created.record.keyId ∉ revoked := fun listed => ((isRevoked _).mp listed).1 rfl
  constructor
  · refine ⟨created.record, ?_, isHash, isActive, covered⟩
    rw [keeps _ newKept, isMinted, Dict.get?_set_self]
  · intro keyId record present isCovered active
    by_contra different
    by_cases listed : keyId ∈ revoked
    · rw [(revokes keyId record listed present).1] at active
      cases active
    · rw [keeps keyId listed] at present
      exact listed ((isRevoked keyId).mpr ⟨different, record, present, active, isCovered⟩)
  · intro keyId record uncovered
    constructor
    · intro present
      have notListed : keyId ∉ revoked := fun listed =>
        uncovered (revokes keyId record listed present).2
      rw [keeps keyId notListed, isMinted, Dict.get?_set] at present
      split at present
      · cases present
        exact absurd covered uncovered
      · exact present
    · intro present
      have different : keyId ≠ created.record.keyId := by
        rintro rfl
        rw [absent] at present
        cases present
      have isInMinted : minted.keys.get? keyId = some record := by
        rw [isMinted, Dict.get?_set_of_ne _ _ different, present]
      have notListed : keyId ∉ revoked := by
        intro listed
        obtain ⟨-, other, isOther, -, isCovered⟩ := (isRevoked keyId).mp listed
        rw [isInMinted] at isOther
        cases isOther
        exact uncovered isCovered
      rw [keeps keyId notListed, isInMinted]

theorem establishes_revokePriorKeys
    (depth : Nat)
    (workspaceId newKeyId : String)
    (keep : LocalKeyRecord → Bool)
    (now : Instant) :
    Establishes depth (revokePrior workspaceId newKeyId keep now) fun revoked before after =>
      revoked = (priorKeys before.control workspaceId newKeyId keep).map (·.keyId) ∧
      Revised (revokeAmong revoked now) before.control.keys after.control.keys := by
  refine establishes_query_bind (fun (records : List LocalKeyRecord) revoked
    (before after : Database) => revoked = records.map (·.keyId) ∧
      Revised (revokeAmong revoked now) before.control.keys after.control.keys) _ _ ?_
  intro records
  refine ((establishes_revokeAll depth records now).bind
    fun _ => establishes_pure (records.map (·.keyId))).weaken ?_
  rintro _ before after ⟨_, _, revised, rfl, rfl⟩
  exact ⟨rfl, revised⟩

theorem commits_rotateKeys
    (config : Config)
    (rotation : Rotation)
    (tokens : KeyTokens)
    (now : Instant)
    (enforcingPrincipal : Option String) :
    Commits 0 (rotateKey config rotation tokens now enforcingPrincipal)
      (OnKeys fun result before after => Evolves before after ∧
        (KeysSound before → Rotates config
          ⟨rotation.keyType, rotation.workspaceId, rotation.agentId⟩ result before after)) := by
  apply commits_keyTransaction
  have creates := (writes_createKey config 0 rotation.keyType rotation.rawPrefix
    rotation.workspaceId rotation.agentId tokens now).joined
  refine (creates.bind fun created => (establishes_revokePriorKeys 0 _ _ _ _).bind fun revoked =>
    (establishes_recordKeys config 0 _).bind fun _ => establishes_pure _).weaken ?_
  rintro _ before after ⟨created, minted, ⟨inserts, isHash, isActive, covered⟩, _, between,
    ⟨rfl, revised⟩, _, _, recorded, rfl, rfl⟩
  have isAfter : after.control.keys = between.control.keys := recorded
  dsimp only [OnKeys]
  rw [isAfter]
  have inserted := evolves_insertKey inserts
  refine ⟨inserted.trans revised.evolves_of_revoke, ?_⟩
  intro sound
  exact rotates_of_revised inserts isHash isActive covered (mem_priorKeys_iff
    (inserted.sound sound) ⟨rotation.keyType, rotation.workspaceId, rotation.agentId⟩ _) revised

theorem commits_revokeLocalKeys
    (config : Config)
    (eventId keyId : String)
    (now : Instant)
    (enforcingPrincipal : Option String) :
    Commits 0 (revokeLocalKey config eventId keyId now enforcingPrincipal)
      (OnKeys fun _ => Evolves) := by
  apply commits_keyTransaction
  have unchanged : ∀ found : Option LocalKeyRecord,
      Establishes 0 (pure found : Action (Option LocalKeyRecord)) (OnKeys fun _ => Evolves) := by
    intro found
    refine (establishes_pure found).weaken ?_
    rintro _ before _ ⟨-, rfl⟩
    exact Evolves.refl _
  refine establishes_controlQuery_bind _ fun found => ?_
  cases found with
  | none => exact unchanged none
  | some existing =>
      dsimp only
      split
      · exact unchanged (some existing)
      · refine ((writes_revokeKey 0 keyId now).joined.bind fun _ =>
          (establishes_recordKeys config 0 _).bind fun _ => establishes_pure _).weaken ?_
        rintro _ before after ⟨_, between, revised, _, _, recorded, -, rfl⟩
        have isAfter : after.control.keys = between.control.keys := recorded
        dsimp only [OnKeys]
        rw [isAfter]
        exact revised.evolves_of_revoke

theorem commits_createPepKeys
    (config : Config)
    (tokens : KeyTokens)
    (workspaceId pepId : String)
    (now : Instant)
    (enforcingPrincipal : Option String) :
    Commits 0 (createPepLocalKey config tokens workspaceId pepId now enforcingPrincipal)
      (OnKeys fun _ => Evolves) := by
  apply commits_keyTransaction
  refine ((writes_createKey config 0 _ _ _ _ _ _).joined.bind fun created =>
    (establishes_recordKeys config 0 _).bind fun _ => establishes_pure _).weaken ?_
  rintro _ before after ⟨created, between, ⟨inserts, -⟩, _, _, recorded, -, rfl⟩
  have isAfter : after.control.keys = between.control.keys := recorded
  dsimp only [OnKeys]
  rw [isAfter]
  exact evolves_insertKey inserts

/-! ## Runs -/

/-- What an operation that returns does. -/
structure KeyStep
    (config : Config)
    (operation : KeyOperation)
    (reply : KeyReply)
    (before after : Dict String LocalKeyRecord) : Prop where
  evolves : Evolves before after
  rotates : ∀ scope ∈ operation.rotates, KeysSound before →
    ∃ result, reply = .rotated result ∧ Rotates config scope result before after
  resolves : ∀ rawKey ∈ operation.resolves, KeysSound before →
    RevokedKey config rawKey before → reply.identifies = false

/-- An operation that neither rotates nor resolves. -/
theorem commits_keyStep_of_evolves
    {config : Config}
    {operation : KeyOperation}
    {script : Action α}
    {change : α → KeyReply}
    (commits : Commits 0 script (OnKeys fun _ => Evolves))
    (rotates : operation.rotates = none)
    (resolves : operation.resolves = none) :
    Commits 0 (change <$> script) (OnKeys (KeyStep config operation)) := by
  refine (commits.map_result change).weaken ?_
  rintro _ before after ⟨_, rfl, evolves⟩
  refine ⟨evolves, ?_, ?_⟩
  · intro scope isScope
    rw [rotates] at isScope
    cases isScope
  · intro rawKey isKey
    rw [resolves] at isKey
    cases isKey

theorem commits_keyStep_of_rotates
    {config : Config}
    {operation : KeyOperation}
    {rotation : Rotation}
    (rotates : operation.rotates =
      some ⟨rotation.keyType, rotation.workspaceId, rotation.agentId⟩)
    (resolves : operation.resolves = none)
    (tokens : KeyTokens)
    (now : Instant)
    (enforcingPrincipal : Option String) :
    Commits 0 (.rotated <$> rotateKey config rotation tokens now enforcingPrincipal)
      (OnKeys (KeyStep config operation)) := by
  refine ((commits_rotateKeys config rotation tokens now enforcingPrincipal).map_result
    _).weaken ?_
  rintro _ before after ⟨result, rfl, evolves, rotated⟩
  refine ⟨evolves, ?_, ?_⟩
  · intro scope isScope sound
    rw [rotates] at isScope
    cases isScope
    exact ⟨result, rfl, rotated sound⟩
  · intro rawKey isKey
    rw [resolves] at isKey
    cases isKey

theorem commits_keyStep_of_resolves
    {config : Config}
    {operation : KeyOperation}
    {keyType : KeyType}
    {identify : LocalKeyRecord → Option ι}
    {rawKey : String}
    {now : Instant}
    {change : Option ι → KeyReply}
    (rotates : operation.rotates = none)
    (resolves : operation.resolves = some rawKey)
    (unidentified : (change none).identifies = false) :
    Commits 0 (change <$> resolveAs config keyType identify rawKey now)
      (OnKeys (KeyStep config operation)) := by
  refine ((commits_resolveAs config keyType identify rawKey now).map_result change).weaken ?_
  rintro _ before after ⟨result, rfl, evolves, unresolved⟩
  refine ⟨evolves, ?_, ?_⟩
  · intro scope isScope
    rw [rotates] at isScope
    cases isScope
  · intro key isKey sound revoked
    rw [resolves] at isKey
    cases isKey
    rw [unresolved sound revoked]
    exact unidentified

theorem commits_keyScript (config : Config) (operation : KeyOperation) :
    Commits 0 (operation.script config) (OnKeys (KeyStep config operation)) := by
  cases operation with
  | createWorkspaceKey | createAgentKey | createAuditorKey | createServiceOperatorKey
  | createPepKey =>
      exact commits_keyStep_of_evolves (writes_createLocalKey config _ _ _ _ _ _).alone rfl rfl
  | ensureWorkspaceKey | ensureAgentKey | ensurePepKey =>
      exact commits_keyStep_of_evolves (commits_ensureKey config _ _ _ _ _ _ _) rfl rfl
  | rotateWorkspaceKey | rotateAuditorKey | rotateServiceOperatorKey | rotateAgentKey
  | rotatePepKey => exact commits_keyStep_of_rotates rfl rfl _ _ _
  | revokeKey keyId now =>
      refine commits_keyStep_of_evolves ((writes_revokeKey 0 keyId now).alone.weaken ?_) rfl rfl
      exact fun _ _ _ revised => revised.evolves_of_revoke
  | revokeLocalKey =>
      exact commits_keyStep_of_evolves (commits_revokeLocalKeys config _ _ _ _) rfl rfl
  | createPepLocalKey =>
      exact commits_keyStep_of_evolves (commits_createPepKeys config _ _ _ _ _) rfl rfl
  | resolveWorkspaceIdentity | resolveAuditorIdentity | resolveAgentIdentity
  | resolvePepIdentity => exact commits_keyStep_of_resolves rfl rfl rfl
  | resolveServiceOperator rawKey now =>
      change Commits 0 (KeyReply.serviceOperator <$> (Option.isSome <$> _)) _
      rw [← comp_map]
      exact commits_keyStep_of_resolves rfl rfl rfl

/-- No transaction is open, the auditor is at depth zero, and the keys are sound. -/
structure KeysIdle (session : Session Database Nat) : Prop where
  idle : session.working = none
  depth : session.memory = 0
  sound : KeysSound session.committed.control.keys

/-- Operations keep the session idle, whether they return or raise. -/
theorem keysIdle_step
    (config : Config)
    (session : Session Database Nat)
    (operation : KeyOperation)
    (idle : KeysIdle session) :
    KeysIdle ((keyMachine config).step operation session).2 ∧
      Evolves session.committed.control.keys
        ((keyMachine config).step operation session).2.committed.control.keys := by
  obtain ⟨isIdle, isDepth, raises, returns⟩ :=
    (commits_keyScript config operation).holds session idle.idle idle.depth
  have evolves : Evolves session.committed.control.keys
      ((keyMachine config).step operation session).2.committed.control.keys := by
    cases replied : ((operation.script config).exec session).1 with
    | error error =>
        have same := raises error replied
        dsimp only [keyMachine]
        rw [same]
        exact Evolves.refl _
    | ok reply => exact (returns reply replied).evolves
  exact ⟨⟨isIdle, isDepth, evolves.sound idle.sound⟩, evolves⟩

/-- In every run over the keys of a database, with a failure possible at any statement:
a rotation that returns leaves its key as the only active one of the scope and the keys
outside as they were, one that raises changes no key, and a raw key whose record is
revoked resolves to no identity from there on. -/
theorem rotations_replace_their_scope
    (config : Config)
    (database : Database)
    (sound : KeysSound database.control.keys)
    (faults : List (Option Fault))
    (operations : List KeyOperation)
    {earlier later :
      List (Executed (Session Database Nat) KeyOperation (Except ControlError KeyReply))}
    {executed : Executed (Session Database Nat) KeyOperation (Except ControlError KeyReply)}
    (position : (keyMachine config).executions (idleSession database faults) operations =
      earlier ++ executed :: later) :
    let before := executed.before.committed.control.keys
    let after :=
      ((keyMachine config).step executed.operation executed.before).2.committed.control.keys
    (∀ scope ∈ executed.operation.rotates,
      match executed.reply with
      | .error _ => after = before
      | .ok reply => ∃ result, reply = .rotated result ∧
          Rotates config scope result before after) ∧
    ∀ rawKey, RevokedKey config rawKey before →
      ∀ next ∈ executed :: later, rawKey ∈ next.operation.resolves →
        ∀ reply, next.reply = .ok reply → reply.identifies = false := by
  have present : executed ∈
      (keyMachine config).executions (idleSession database faults) operations := by
    rw [position]
    exact List.mem_append_right _ List.mem_cons_self
  have idle : KeysIdle executed.before :=
    (keyMachine config).invariant_before
      (fun session operation idle => (keysIdle_step config session operation idle).1)
      ⟨rfl, rfl, sound⟩ present
  refine ⟨?_, ?_⟩
  · intro scope isScope
    obtain ⟨-, -, raises, returns⟩ :=
      (commits_keyScript config executed.operation).holds executed.before idle.idle idle.depth
    have isReply : executed.reply =
        ((executed.operation.script config).exec executed.before).1 :=
      congrArg Executed.reply ((keyMachine config).eq_execute_of_mem_executions present)
    rw [isReply]
    cases replied : ((executed.operation.script config).exec executed.before).1 with
    | error error =>
        exact congrArg (fun database : Database => database.control.keys) (raises error replied)
    | ok reply => exact (returns reply replied).rotates scope isScope idle.sound
  · intro rawKey revoked next isNext resolves reply isReply
    -- From this step on the record of the raw key stays revoked.
    obtain ⟨rest, isRest⟩ := (keyMachine config).exists_executions_of_append position
    rw [isRest] at isNext
    have stays : KeysIdle next.before ∧
        RevokedKey config rawKey next.before.committed.control.keys := by
      have preserved : ∀ (session : Session Database Nat) (operation : KeyOperation),
          KeysIdle session ∧ RevokedKey config rawKey session.committed.control.keys →
          KeysIdle ((keyMachine config).step operation session).2 ∧
            RevokedKey config rawKey
              ((keyMachine config).step operation session).2.committed.control.keys := by
        rintro session operation ⟨idle, revoked⟩
        obtain ⟨stillIdle, evolves⟩ := keysIdle_step config session operation idle
        exact ⟨stillIdle, revoked.evolve evolves⟩
      exact (keyMachine config).invariant_before preserved ⟨idle, revoked⟩ isNext
    have isStep := congrArg Executed.reply
      ((keyMachine config).eq_execute_of_mem_executions isNext)
    rw [isReply] at isStep
    obtain ⟨-, -, -, returns⟩ :=
      (commits_keyScript config next.operation).holds next.before stays.1.idle stays.1.depth
    exact (returns reply isStep.symm).resolves rawKey resolves stays.1.sound stays.2

/-- A seeded agent key is rotated away and resolves no more. -/
theorem seeded_key_is_rotated_away :
    let rawKey := "aak_0123456789abcdef0123456789abcdef"
    let seeded := KeyOperation.ensureAgentKey "ws" "agent" rawKey ⟨"evt_1", "1", "s"⟩ 0
    let rotated := KeyOperation.rotateAgentKey "ws" "agent" ⟨"evt_2", "2", "t"⟩ 0 (some "op")
    let resolved := KeyOperation.resolveAgentIdentity rawKey 0
    let start := idleSession emptyDatabase []
    let first := ((keyMachine plainConfig).step seeded start).2
    let second := ((keyMachine plainConfig).step rotated first).2
    (∃ result, ((keyMachine plainConfig).step rotated first).1 = .ok (.rotated result) ∧
      Rotates plainConfig ⟨.agent, "ws", some "agent"⟩ result first.committed.control.keys
        second.committed.control.keys) ∧
    ((keyMachine plainConfig).step resolved second).1 = .ok (.agent none) := by
  intro rawKey seeded rotated resolved start first second
  have run : (keyMachine plainConfig).executions start [seeded, rotated, resolved] =
      [(keyMachine plainConfig).execute seeded start] ++
        (keyMachine plainConfig).execute rotated first ::
          [(keyMachine plainConfig).execute resolved second] := rfl
  obtain ⟨rotates, -⟩ := rotations_replace_their_scope plainConfig emptyDatabase
    keysSound_empty [] [seeded, rotated, resolved] run
  have replies : ((keyMachine plainConfig).step rotated first).1.isOk = true := by decide +kernel
  obtain ⟨reply, isReply⟩ := Fallible.exists_eq_ok_of_isOk replies
  have replaced := rotates _ rfl
  have replied : ((keyMachine plainConfig).execute rotated first).reply = .ok reply := isReply
  simp only [replied] at replaced
  obtain ⟨result, rfl, rotates⟩ := replaced
  exact ⟨⟨result, isReply, rotates⟩, by decide +kernel⟩

end Control
end Vinctor
