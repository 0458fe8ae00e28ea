import Vinctor.Service.PolicyVersions

/-!
# A rollback restores the recorded version

What a restore leaves behind: the saved bounds and rules, the saved boundary
flags, and the other two mandates in the rows that were not removed.  Versions
are never overwritten, so the snapshot of a version describes the workspace as it
was when the version was recorded, whatever happened since.
-/

namespace Vinctor
namespace Policy

open Foundation
open Fallible

variable {τ : Type}

theorem Mandate.setting_some (mandate : Mandate) (row : SettingsRow τ) :
    mandate.setting (some row) = if mandate.isSet row then some (mandate.value row) else none := by
  rw [Mandate.setting, Option.filter_some]
  split <;> rfl

/-! ## Settings after a restore -/

/-- The flag that the last entry of an agent saves. -/
def lastSetting : List SnapshotSetting → String → Option Bool
  | [], _ => none
  | entry :: rest, agentId =>
      (lastSetting rest agentId).or
        (if entry.agentId = agentId then some entry.requireBoundary else none)

theorem lastSetting_eq_none_iff {entries : List SnapshotSetting} {agentId : String} :
    lastSetting entries agentId = none ↔ agentId ∉ entries.map (·.agentId) := by
  induction entries with
  | nil => simp [lastSetting]
  | cons entry rest inductionHypothesis =>
      rw [lastSetting, Option.or_eq_none_iff, inductionHypothesis, List.map_cons,
        List.mem_cons, not_or]
      by_cases same : entry.agentId = agentId
      · simp [same]
      · rw [if_neg same]
        exact ⟨fun absent => ⟨Ne.symm same, absent.1⟩, fun absent => ⟨absent.2, rfl⟩⟩

theorem exists_of_lastSetting_eq_some
    {entries : List SnapshotSetting}
    {agentId : String}
    {required : Bool}
    (saved : lastSetting entries agentId = some required) :
    ∃ entry ∈ entries, entry.agentId = agentId ∧ entry.requireBoundary = required := by
  induction entries with
  | nil => cases saved
  | cons entry rest inductionHypothesis =>
      rw [lastSetting, Option.or_eq_some_iff] at saved
      rcases saved with inRest | ⟨-, atHead⟩
      · obtain ⟨other, present, isOther⟩ := inductionHypothesis inRest
        exact ⟨other, List.mem_cons_of_mem entry present, isOther⟩
      · split at atHead
        · next same => exact ⟨entry, List.mem_cons_self, same, Option.some.inj atHead⟩
        · cases atHead

theorem restoredSetting_again
    (now : τ)
    (first second : Bool)
    (existing : Option (SettingsRow τ)) :
    restoredSetting now second (some (restoredSetting now first existing)) =
      restoredSetting now second existing := rfl

/-- Writing the saved flags back changes the rows of the saved agents. -/
theorem get?_restoreSettings
    (workspaceId : String)
    (now : τ)
    (entries : List SnapshotSetting)
    (settings : Dict (String × String) (SettingsRow τ))
    (key : String × String) :
    (entries.foldl (restoreSetting workspaceId now) settings).get? key =
      if key.1 = workspaceId then
        match lastSetting entries key.2 with
        | none => settings.get? key
        | some required => some (restoredSetting now required (settings.get? key))
      else settings.get? key := by
  induction entries generalizing settings with
  | nil => simp [lastSetting]
  | cons entry rest inductionHypothesis =>
      rw [List.foldl_cons, inductionHypothesis, restoreSetting, Dict.get?_set, lastSetting]
      by_cases mine : key.1 = workspaceId
      · rw [if_pos mine, if_pos mine]
        by_cases same : entry.agentId = key.2
        · have isKey : key = (workspaceId, entry.agentId) := Prod.ext mine same.symm
          rw [if_pos isKey, if_pos same, ← isKey]
          cases lastSetting rest key.2 with
          | none => rfl
          | some required =>
              exact congrArg some (restoredSetting_again now entry.requireBoundary required _)
        · have notKey : key ≠ (workspaceId, entry.agentId) := by
            rintro rfl
            exact same rfl
          rw [if_neg notKey, if_neg same, Option.or_none]
      · have notKey : key ≠ (workspaceId, entry.agentId) := by
          rintro rfl
          exact mine rfl
        rw [if_neg mine, if_neg mine, if_neg notKey]

/-- Whether a restore removes the row that an agent of the workspace has. -/
def Removes
    (backend : Backend τ)
    (snapshot : PolicySnapshot)
    (agentId : String)
    (row : SettingsRow τ) : Prop :=
  row.requireSubjectToken = false ∧ row.requirePop = false ∧
    (backend.sparesSaved = true →
      agentId ∉ snapshot.requireBoundarySettings.map (·.agentId))

instance
    (backend : Backend τ)
    (snapshot : PolicySnapshot)
    (agentId : String)
    (row : SettingsRow τ) : Decidable (Removes backend snapshot agentId row) :=
  inferInstanceAs (Decidable (_ ∧ _ ∧ (_ → _)))

theorem removesSetting_iff
    (backend : Backend τ)
    (workspaceId agentId : String)
    (snapshot : PolicySnapshot)
    (now : τ)
    (row : SettingsRow τ) :
    removesSetting backend workspaceId (snapshot.requireBoundarySettings.map (·.agentId))
        (workspaceId, agentId) (clearBoundarySetting workspaceId now (workspaceId, agentId) row) =
          true ↔
      Removes backend snapshot agentId row := by
  simp only [removesSetting, clearBoundarySetting, Removes, if_true, Bool.and_eq_true,
    Bool.not_eq_true', Bool.and_eq_false_iff, decide_true, Bool.not_false, true_and, and_true,
    List.contains_eq_mem, decide_eq_false_iff_not]
  constructor
  · rintro ⟨⟨kept | unsaved, token⟩, pop⟩
    · exact ⟨token, pop, fun spares => absurd (spares.symm.trans kept) (by decide)⟩
    · exact ⟨token, pop, fun _ => unsaved⟩
  · rintro ⟨token, pop, unsaved⟩
    refine ⟨⟨?_, token⟩, pop⟩
    cases spares : backend.sparesSaved with
    | false => exact .inl rfl
    | true => exact .inr (unsaved spares)

theorem get?_clearedSettings_of_ne
    {backend : Backend τ}
    {workspaceId : String}
    {savedAgentIds : List String}
    {now : τ}
    {settings : Dict (String × String) (SettingsRow τ)}
    {key : String × String}
    (elsewhere : key.1 ≠ workspaceId) :
    (clearedSettings backend workspaceId savedAgentIds now settings).get? key =
      settings.get? key := by
  rw [clearedSettings, Dict.get?_filter, Dict.get?_mapValues]
  cases settings.get? key with
  | none => rfl
  | some row => simp [clearBoundarySetting, removesSetting, elsewhere]

theorem get?_clearedSettings
    (backend : Backend τ)
    (workspaceId agentId : String)
    (snapshot : PolicySnapshot)
    (now : τ)
    (settings : Dict (String × String) (SettingsRow τ)) :
    (clearedSettings backend workspaceId
      (snapshot.requireBoundarySettings.map (·.agentId)) now settings).get?
        (workspaceId, agentId) =
      ((settings.get? (workspaceId, agentId)).filter fun row =>
        ¬Removes backend snapshot agentId row).map fun row =>
          { row with requireBoundarySet := false, updatedAt := now } := by
  rw [clearedSettings, Dict.get?_filter, Dict.get?_mapValues]
  cases settings.get? (workspaceId, agentId) with
  | none => rfl
  | some row =>
      have removed := removesSetting_iff backend workspaceId agentId snapshot now row
      rw [Option.map_some, Option.filter_some, Option.filter_some]
      by_cases removes : Removes backend snapshot agentId row
      · rw [removed.mpr removes]
        simp [removes]
      · rw [Bool.eq_false_iff.mpr fun removing => removes (removed.mp removing)]
        simp [removes, clearBoundarySetting]

/-! ## What a restore leaves -/

section Restore

variable {backend : Backend τ} {workspaceId : String} {snapshot : PolicySnapshot} {now : τ}
  {before after : Tables τ}

theorem restoreSnapshot_eq_ok :
    restoreSnapshot backend workspaceId snapshot now before = .ok after ↔
      ∃ bounds rules,
        Dict.insertAll (restoredBound backend workspaceId) .integrity snapshot.agentBounds
          (before.bounds.filter fun key _ => key.1 ≠ workspaceId) = .ok bounds ∧
        Dict.insertAll (restoredRule backend workspaceId) .integrity snapshot.autoApprovalRules
          (before.rules.filter fun _ row => row.workspaceId ≠ workspaceId) = .ok rules ∧
        (snapshot.requireBoundarySettings.all fun entry =>
          backend.admitsText entry.agentId) = true ∧
        after = { before with
          bounds
          rules
          settings := snapshot.requireBoundarySettings.foldl (restoreSetting workspaceId now)
            (clearedSettings backend workspaceId
              (snapshot.requireBoundarySettings.map (·.agentId)) now before.settings) } := by
  simp only [restoreSnapshot, bind_eq_ok, ensure_eq_ok, pure_eq_ok]
  constructor
  · rintro ⟨bounds, insertsBounds, rules, insertsRules, -, admitted, rfl⟩
    exact ⟨bounds, rules, insertsBounds, insertsRules, admitted, rfl⟩
  · rintro ⟨bounds, rules, insertsBounds, insertsRules, admitted, rfl⟩
    exact ⟨bounds, insertsBounds, rules, insertsRules, (), admitted, rfl⟩

variable (restores : restoreSnapshot backend workspaceId snapshot now before = .ok after)

include restores

theorem versions_restoreSnapshot : after.versions = before.versions := by
  obtain ⟨bounds, rules, -, -, -, rfl⟩ := restoreSnapshot_eq_ok.mp restores
  rfl

theorem get?_settings_restoreSnapshot (key : String × String) :
    after.settings.get? key =
      if key.1 = workspaceId then
        match lastSetting snapshot.requireBoundarySettings key.2 with
        | none => (clearedSettings backend workspaceId
            (snapshot.requireBoundarySettings.map (·.agentId)) now before.settings).get? key
        | some required => some (restoredSetting now required
            ((clearedSettings backend workspaceId
              (snapshot.requireBoundarySettings.map (·.agentId)) now before.settings).get? key))
      else before.settings.get? key := by
  obtain ⟨bounds, rules, -, -, -, rfl⟩ := restoreSnapshot_eq_ok.mp restores
  rw [get?_restoreSettings]
  split
  · rfl
  · next elsewhere => exact get?_clearedSettings_of_ne elsewhere

/-- The boundary flags of the workspace are the saved ones. -/
theorem boundarySetting_restoreSnapshot (agentId : String) :
    Mandate.boundary.setting (after.settings.get? (workspaceId, agentId)) =
      lastSetting snapshot.requireBoundarySettings agentId := by
  rw [get?_settings_restoreSnapshot restores, if_pos rfl]
  cases lastSetting snapshot.requireBoundarySettings agentId with
  | some required => rfl
  | none =>
      rw [get?_clearedSettings]
      cases (before.settings.get? (workspaceId, agentId)).filter
          fun row => ¬Removes backend snapshot agentId row with
      | none => rfl
      | some row => rfl

omit restores in
/-- A mandate that a restore does not write. -/
structure Mandate.Spared (mandate : Mandate) : Prop where
  cleared : ∀ (row : SettingsRow τ) (now : τ),
    mandate.setting (some { row with requireBoundarySet := false, updatedAt := now }) =
      mandate.setting (some row)
  restored : ∀ (existing : Option (SettingsRow τ)) (now : τ) (required : Bool),
    mandate.setting (some (restoredSetting now required existing)) = mandate.setting existing

omit restores in
theorem Mandate.spared_subjectToken : Mandate.Spared (τ := τ) .subjectToken where
  cleared := fun row now => by
    rw [setting_some, setting_some]
    rfl
  restored := fun existing now required => by
    cases existing with
    | none => rfl
    | some row =>
        rw [setting_some, setting_some]
        rfl

omit restores in
theorem Mandate.spared_pop : Mandate.Spared (τ := τ) .pop where
  cleared := fun row now => by
    rw [setting_some, setting_some]
    rfl
  restored := fun existing now required => by
    cases existing with
    | none => rfl
    | some row =>
        rw [setting_some, setting_some]
        rfl

/-- The other mandates of the workspace are those of the rows that stay. -/
theorem setting_restoreSnapshot
    {mandate : Mandate}
    (spared : mandate.Spared (τ := τ))
    (agentId : String) :
    mandate.setting (after.settings.get? (workspaceId, agentId)) =
      mandate.setting ((before.settings.get? (workspaceId, agentId)).filter fun row =>
        ¬Removes backend snapshot agentId row) := by
  have cleared : mandate.setting ((clearedSettings backend workspaceId
      (snapshot.requireBoundarySettings.map (·.agentId)) now before.settings).get?
        (workspaceId, agentId)) =
      mandate.setting ((before.settings.get? (workspaceId, agentId)).filter fun row =>
        ¬Removes backend snapshot agentId row) := by
    rw [get?_clearedSettings]
    cases (before.settings.get? (workspaceId, agentId)).filter
        fun row => ¬Removes backend snapshot agentId row with
    | none => rfl
    | some row => exact spared.cleared row now
  rw [get?_settings_restoreSnapshot restores, if_pos rfl]
  cases lastSetting snapshot.requireBoundarySettings agentId with
  | none => exact cleared
  | some required => exact (spared.restored _ now required).trans cleared

/-- The settings of other workspaces stay. -/
theorem get?_settings_restoreSnapshot_of_ne
    {other : String}
    (elsewhere : other ≠ workspaceId)
    (agentId : String) :
    after.settings.get? (other, agentId) = before.settings.get? (other, agentId) := by
  rw [get?_settings_restoreSnapshot restores, if_neg elsewhere]

end Restore

/-! ## Versions are never overwritten -/

/-- Every recorded version stays as it was recorded. -/
structure Tables.KeepsVersions (before after : Tables τ) : Prop where
  kept : ∀ {key row}, before.versions.get? key = some row → after.versions.get? key = some row

theorem Tables.KeepsVersions.of_eq
    {before after : Tables τ}
    (same : after.versions = before.versions) :
    before.KeepsVersions after where
  kept := by
    intro key row found
    rw [same]
    exact found

theorem Tables.KeepsVersions.trans
    {first second third : Tables τ}
    (earlier : first.KeepsVersions second)
    (later : second.KeepsVersions third) :
    first.KeepsVersions third where
  kept := fun found => later.kept (earlier.kept found)

theorem Tables.le_latestVersion
    {tables : Tables τ}
    {workspaceId : String}
    {version : Nat}
    {row : PolicyVersionRow τ}
    (found : tables.versions.get? (workspaceId, version) = some row) :
    version ≤ tables.latestVersion workspaceId := by
  rw [Dict.get?_eq_some_iff] at found
  have listed : version ∈ (tables.versions.entries.filter fun entry =>
      entry.1.1 = workspaceId).map fun entry => entry.1.2 :=
    List.mem_map.mpr ⟨_, List.mem_filter.mpr ⟨found, by simp⟩, rfl⟩
  unfold Tables.latestVersion
  generalize (tables.versions.entries.filter fun entry => entry.1.1 = workspaceId).map
    (fun entry => entry.1.2) = versions at listed
  induction versions with
  | nil => cases listed
  | cons head rest inductionHypothesis =>
      rw [List.foldr_cons]
      rcases List.mem_cons.mp listed with rfl | inRest
      · exact Nat.le_max_left _ _
      · exact (inductionHypothesis inRest).trans (Nat.le_max_right _ _)

section Record

variable {backend : Backend τ} {workspaceId : String}

/-- A recorded version is new and holds a snapshot of the tables. -/
theorem insertPolicyVersion_eq_ok
    {action : PolicyAction}
    {sourceVersion : Option Nat}
    {appliedBy : String}
    {now : τ}
    {before after : Tables τ}
    {version : Nat}
    (inserts : insertPolicyVersion backend workspaceId action sourceVersion appliedBy now before =
      .ok (version, after)) :
    before.KeepsVersions after ∧
      (∃ row, after.versions.get? (workspaceId, version) = some row ∧
        row.snapshot = snapshotPolicyState backend workspaceId after) ∧
      after.bounds = before.bounds ∧ after.rules = before.rules ∧
      after.settings = before.settings := by
  simp only [insertPolicyVersion, bind_eq_ok, ensure_eq_ok, pure_eq_ok, Prod.mk.injEq]
    at inserts
  obtain ⟨-, -, rfl, rfl⟩ := inserts
  refine ⟨⟨?_⟩, ⟨_, Dict.get?_set_self _ _ _, rfl⟩, rfl, rfl, rfl⟩
  rintro ⟨other, version⟩ row found
  have different : (other, version) ≠ (workspaceId, before.latestVersion workspaceId + 1) := by
    rintro same
    cases same
    have bound := Tables.le_latestVersion found
    omega
  rw [Dict.get?_set_of_ne _ _ different]
  exact found

theorem rollbackPolicyVersion_eq_ok
    {version newVersion : Nat}
    {appliedBy : String}
    {now : τ}
    {before after : Tables τ} :
    rollbackPolicyVersion backend workspaceId version appliedBy now before =
        .ok (newVersion, after) ↔
      ∃ row restored, before.versions.get? (workspaceId, version) = some row ∧
        validatedPolicySnapshot row.snapshot = .ok row.snapshot ∧
        restoreSnapshot backend workspaceId row.snapshot now before = .ok restored ∧
        insertPolicyVersion backend workspaceId .rollback (some version) appliedBy now restored =
          .ok (newVersion, after) := by
  have validated : ∀ {snapshot checked : PolicySnapshot},
      validatedPolicySnapshot snapshot = .ok checked → checked = snapshot := by
    intro snapshot checked validates
    simp only [validatedPolicySnapshot, bind_eq_ok, pure_eq_ok] at validates
    obtain ⟨-, -, -, -, -, -, -, -, same⟩ := validates
    exact same.symm
  simp only [rollbackPolicyVersion, bind_eq_ok, require_eq_ok]
  constructor
  · rintro ⟨row, found, snapshot, validates, restored, restores, inserts⟩
    obtain rfl := validated validates
    exact ⟨row, restored, found, validates, restores, inserts⟩
  · rintro ⟨row, restored, found, validates, restores, inserts⟩
    exact ⟨row, found, row.snapshot, validates, restored, restores, inserts⟩

end Record

section Steps

variable {backend : Backend τ} {before after : Tables τ}

theorem versions_upsertSetting
    {workspaceId agentId : String}
    {now : τ}
    {write : SettingsRow τ → SettingsRow τ}
    (sets : before.upsertSetting backend workspaceId agentId now write = .ok after) :
    after.versions = before.versions := by
  simp only [Tables.upsertSetting, bind_eq_ok, ensure_eq_ok, pure_eq_ok] at sets
  obtain ⟨-, -, rfl⟩ := sets
  rfl

theorem versions_setBounds
    {input : Grants.SetBoundsInput}
    {now : τ}
    (sets : setBounds backend input now before = .ok after) :
    after.versions = before.versions := by
  simp only [setBounds, bind_eq_ok, ensure_eq_ok, pure_eq_ok] at sets
  obtain ⟨-, -, -, -, -, -, rfl⟩ := sets
  rfl

theorem versions_addRule
    {ruleId : String}
    {row : RuleRow τ}
    (adds : addRule backend ruleId row before = .ok after) :
    after.versions = before.versions := by
  simp only [addRule, bind_eq_ok, ensure_eq_ok, pure_eq_ok] at adds
  obtain ⟨-, -, -, -, rfl⟩ := adds
  rfl

theorem versions_updateRule
    {ruleId : String}
    {row : RuleRow τ}
    (updates : updateRule backend ruleId row before = .ok after) :
    after.versions = before.versions := by
  simp only [updateRule, bind_eq_ok, ensure_eq_ok, pure_eq_ok] at updates
  obtain ⟨-, -, -, -, rfl⟩ := updates
  rfl

theorem versions_upsertAutoApprovalRule
    {ruleId : String}
    {row : RuleRow τ}
    {action : UpsertAction}
    (upserts : upsertAutoApprovalRule backend ruleId row before = .ok (action, after)) :
    after.versions = before.versions := by
  simp only [upsertAutoApprovalRule, bind_eq_ok] at upserts
  obtain ⟨-, -, upserts⟩ := upserts
  split at upserts
  · simp only [bind_eq_ok, pure_eq_ok, Prod.mk.injEq] at upserts
    obtain ⟨added, adds, -, rfl⟩ := upserts
    exact versions_addRule adds
  · simp only [bind_eq_ok, pure_eq_ok, Prod.mk.injEq] at upserts
    obtain ⟨-, -, updated, updates, -, rfl⟩ := upserts
    exact versions_updateRule updates

theorem versions_applyRule
    {counts countsAfter : Nat × Nat}
    {rule : String × RuleRow τ}
    (applies : applyRule backend (counts, before) rule = .ok (countsAfter, after)) :
    after.versions = before.versions := by
  simp only [applyRule, bind_eq_ok] at applies
  obtain ⟨⟨action, upserted⟩, upserts, applies⟩ := applies
  have kept := versions_upsertAutoApprovalRule upserts
  cases action with
  | created =>
      cases applies
      exact kept
  | updated =>
      cases applies
      exact kept

theorem versions_applyWrites
    {stableRuleId : StableRuleId}
    {document : PolicyDocument}
    {workspaceId appliedBy : String}
    {now : τ}
    {counts : Nat × Nat}
    (applies : applyWrites backend stableRuleId document workspaceId appliedBy now before =
      .ok (counts, after)) :
    after.versions = before.versions := by
  simp only [applyWrites, bind_eq_ok, pure_eq_ok, Prod.mk.injEq] at applies
  obtain ⟨-, -, prepared, -, bounded, setsBounds, ⟨ruleCounts, ruled⟩, setsRules,
    workspaced, setsWorkspace, agents, setsAgents, -, rfl⟩ := applies
  have bounds : bounded.versions = before.versions :=
    foldlM_relates (fun first second : Tables τ => second.versions = first.versions)
      (fun _ => rfl) (fun earlier later => later.trans earlier)
      (fun _ _ _ _ sets => versions_setBounds sets) setsBounds
  have rules : ruled.versions = bounded.versions :=
    foldlM_relates
      (fun first second : (Nat × Nat) × Tables τ => second.2.versions = first.2.versions)
      (fun _ => rfl) (fun earlier later => later.trans earlier)
      (fun _ _ _ _ applied => versions_applyRule applied) setsRules
  have workspace : workspaced.versions = ruled.versions := by
    unfold applyWorkspaceMandate at setsWorkspace
    split at setsWorkspace
    · cases setsWorkspace
      rfl
    · exact versions_upsertSetting setsWorkspace
  have agent : agents.versions = workspaced.versions :=
    foldlM_relates (fun first second : Tables τ => second.versions = first.versions)
      (fun _ => rfl) (fun earlier later => later.trans earlier)
      (fun _ _ _ _ sets => versions_upsertSetting sets) setsAgents
  rw [agent, workspace, rules, bounds]

theorem applyPolicyDocument_eq_ok
    {stableRuleId : StableRuleId}
    {document : PolicyDocument}
    {workspaceId appliedBy : String}
    {now : τ}
    {result : PolicyApplyResult}
    (applies : applyPolicyDocument backend stableRuleId document workspaceId appliedBy now
      before = .ok (result, after)) :
    ∃ counts written,
      applyWrites backend stableRuleId document workspaceId appliedBy now before =
        .ok (counts, written) ∧
      insertPolicyVersion backend workspaceId .apply none appliedBy now written =
        .ok (result.policyVersion, after) := by
  simp only [applyPolicyDocument, bind_eq_ok, pure_eq_ok, Prod.mk.injEq] at applies
  obtain ⟨⟨counts, written⟩, writes, ⟨version, recorded⟩, inserts, rfl, rfl⟩ := applies
  exact ⟨counts, written, writes, inserts⟩

theorem attempt_keepsVersions
    {stableRuleId : StableRuleId}
    {operation : Operation τ}
    (succeeds : attempt backend stableRuleId before operation = .ok after) :
    before.KeepsVersions after := by
  cases operation with
  | setBounds => exact .of_eq (versions_setBounds succeeds)
  | setRequireBoundary | setRequireSubjectToken | setRequirePop =>
      simp only [attempt, setRequireBoundary, setRequireSubjectToken, setRequirePop] at succeeds
      exact .of_eq (versions_upsertSetting succeeds)
  | createRule =>
      simp only [attempt, createAutoApprovalRule, bind_eq_ok] at succeeds
      obtain ⟨-, -, adds⟩ := succeeds
      exact .of_eq (versions_addRule adds)
  | updateRule => exact .of_eq (versions_updateRule succeeds)
  | apply document workspaceId appliedBy now =>
      simp only [attempt, map_eq_ok] at succeeds
      obtain ⟨⟨result, applied⟩, applies, rfl⟩ := succeeds
      obtain ⟨counts, written, writes, inserts⟩ := applyPolicyDocument_eq_ok applies
      exact Tables.KeepsVersions.trans (.of_eq (versions_applyWrites writes))
        (insertPolicyVersion_eq_ok inserts).1
  | rollback workspaceId version appliedBy now =>
      simp only [attempt, map_eq_ok] at succeeds
      obtain ⟨⟨newVersion, rolled⟩, rollsBack, rfl⟩ := succeeds
      obtain ⟨row, restored, -, -, restores, inserts⟩ := rollbackPolicyVersion_eq_ok.mp rollsBack
      exact Tables.KeepsVersions.trans (.of_eq (versions_restoreSnapshot restores))
        (insertPolicyVersion_eq_ok inserts).1

theorem step_keepsVersions
    (backend : Backend τ)
    (stableRuleId : StableRuleId)
    (tables : Tables τ)
    (operation : Operation τ) :
    tables.KeepsVersions (step backend stableRuleId tables operation) := by
  unfold step
  split
  · next after succeeds => exact attempt_keepsVersions succeeds
  · exact .of_eq rfl

theorem run_keepsVersions
    (backend : Backend τ)
    (stableRuleId : StableRuleId)
    (tables : Tables τ)
    (operations : List (Operation τ)) :
    tables.KeepsVersions (run backend stableRuleId tables operations) := by
  induction operations generalizing tables with
  | nil => exact .of_eq rfl
  | cons operation later inductionHypothesis =>
      exact (step_keepsVersions backend stableRuleId tables operation).trans
        (inductionHypothesis _)

end Steps

/-! ## Restoring what was recorded -/

/-- The policy of a workspace is the same in two states: the bounds and caps of
its agents, its rules, and the boundary mandate of every agent. -/
structure SamePolicy
    (backend : Backend τ)
    (workspaceId : String)
    (first second : Tables τ) : Prop where
  bounds : ∀ agentId,
    (first.bounds.get? (workspaceId, agentId)).map (fun row => (row.scopes, row.maxTtlSeconds)) =
      (second.bounds.get? (workspaceId, agentId)).map
        fun row => (row.scopes, row.maxTtlSeconds)
  rules : ∀ ruleId,
    (first.rules.get? ruleId).filter (fun row => row.workspaceId = workspaceId) =
      (second.rules.get? ruleId).filter fun row => row.workspaceId = workspaceId
  mandates : ∀ agentId,
    isBoundaryRequired backend first workspaceId agentId =
      isBoundaryRequired backend second workspaceId agentId

theorem SamePolicy.refl
    (backend : Backend τ)
    (workspaceId : String)
    (tables : Tables τ) :
    SamePolicy backend workspaceId tables tables where
  bounds := fun _ => rfl
  rules := fun _ => rfl
  mandates := fun _ => rfl

theorem SamePolicy.trans
    {backend : Backend τ}
    {workspaceId : String}
    {first second third : Tables τ}
    (earlier : SamePolicy backend workspaceId first second)
    (later : SamePolicy backend workspaceId second third) :
    SamePolicy backend workspaceId first third where
  bounds := fun agentId => (earlier.bounds agentId).trans (later.bounds agentId)
  rules := fun ruleId => (earlier.rules ruleId).trans (later.rules ruleId)
  mandates := fun agentId => (earlier.mandates agentId).trans (later.mandates agentId)

/-- The versions are no part of the policy. -/
theorem SamePolicy.of_eq
    {backend : Backend τ}
    {workspaceId : String}
    {first second : Tables τ}
    (bounds : first.bounds = second.bounds)
    (rules : first.rules = second.rules)
    (settings : first.settings = second.settings) :
    SamePolicy backend workspaceId first second where
  bounds := fun agentId => by rw [bounds]
  rules := fun ruleId => by rw [rules]
  mandates := fun agentId => by
    rw [isBoundaryRequired, Tables.isRequired, Tables.isRequired, settings]

section Recorded

variable {backend : Backend τ} {workspaceId : String}

theorem mem_ofWorkspace
    {ρ : Type}
    {table : Dict (String × String) ρ}
    {entry : (String × String) × ρ} :
    entry ∈ ofWorkspace backend workspaceId table ↔
      entry ∈ table.entries ∧ entry.1.1 = workspaceId := by
  simp [ofWorkspace, List.mem_insertionSort]

/-- A saved bound is inserted as the row it was saved from. -/
theorem restoredBound_boundEntry
    {entry row : (String × String) × BoundsRow τ}
    (mine : entry.1.1 = workspaceId)
    (encodes : restoredBound backend workspaceId (boundEntry backend entry) = .ok row) :
    row = entry := by
  simp only [restoredBound, boundEntry, bind_eq_ok, require_eq_ok, pure_eq_ok,
    backend.readTime_timeText, Option.some.injEq] at encodes
  obtain ⟨-, -, time, rfl, rfl⟩ := encodes
  obtain ⟨⟨workspace, agent⟩, scopes, cap, updatedAt⟩ := entry
  cases mine
  cases cap with
  | none => rfl
  | some cap => rfl

/-- So is a saved rule. -/
theorem restoredRule_ruleEntry
    {entry row : String × RuleRow τ}
    (mine : entry.2.workspaceId = workspaceId)
    (encodes : restoredRule backend workspaceId (ruleEntry backend entry) = .ok row) :
    row = entry := by
  simp only [restoredRule, ruleEntry, bind_eq_ok, require_eq_ok, pure_eq_ok,
    backend.readTime_timeText, Option.some.injEq] at encodes
  obtain ⟨-, -, created, rfl, updated, reads, rfl⟩ := encodes
  obtain ⟨ruleId, rule⟩ := entry
  obtain ⟨workspace, name, target, scopes, cap, status, createdBy, createdAt, updatedBy,
    updatedAt⟩ := rule
  cases mine
  cases updatedAt with
  | none =>
      cases reads
      rfl
  | some time =>
      simp only [readOptionalTime, Option.map_some, bind_eq_ok, require_eq_ok, pure_eq_ok,
        backend.readTime_timeText, Option.some.injEq] at reads
      obtain ⟨read, rfl, rfl⟩ := reads
      rfl

/-- The flag that a snapshot saves for an agent is the agent's setting. -/
theorem lastSetting_snapshotPolicyState (tables : Tables τ) (agentId : String) :
    lastSetting (snapshotPolicyState backend workspaceId tables).requireBoundarySettings
        agentId =
      Mandate.boundary.setting (tables.settings.get? (workspaceId, agentId)) := by
  have listed : ∀ entry,
      entry ∈ (snapshotPolicyState backend workspaceId tables).requireBoundarySettings ↔
        ∃ row, tables.settings.get? (workspaceId, entry.agentId) = some row ∧
          row.requireBoundarySet = true ∧
          settingEntry backend ((workspaceId, entry.agentId), row) = entry := by
    intro entry
    simp only [snapshotPolicyState, List.mem_map, List.mem_filter, mem_ofWorkspace]
    constructor
    · rintro ⟨⟨⟨workspace, agent⟩, row⟩, ⟨⟨stored, mine⟩, isSet⟩, rfl⟩
      cases mine
      exact ⟨row, (Dict.get?_eq_some_iff _ _ _).mpr stored, isSet, rfl⟩
    · rintro ⟨row, found, isSet, saves⟩
      exact ⟨_, ⟨⟨(Dict.get?_eq_some_iff _ _ _).mp found, rfl⟩, isSet⟩, saves⟩
  cases saved : lastSetting
      (snapshotPolicyState backend workspaceId tables).requireBoundarySettings agentId with
  | some required =>
      obtain ⟨entry, present, rfl, rfl⟩ := exists_of_lastSetting_eq_some saved
      obtain ⟨row, found, isSet, saves⟩ := (listed entry).mp present
      rw [found, Mandate.setting_some]
      exact (if_pos isSet).symm ▸ (congrArg some (congrArg (·.requireBoundary) saves)).symm
  | none =>
      rw [lastSetting_eq_none_iff] at saved
      cases found : tables.settings.get? (workspaceId, agentId) with
      | none => rfl
      | some row =>
          rw [Mandate.setting_some, if_neg]
          intro isSet
          exact saved (List.mem_map.mpr ⟨settingEntry backend ((workspaceId, agentId), row),
            (listed _).mpr ⟨row, found, isSet, rfl⟩, rfl⟩)

/-- Restoring the snapshot of a state brings its policy back. -/
theorem samePolicy_restoreSnapshot
    {now : τ}
    {recorded before after : Tables τ}
    (restores : restoreSnapshot backend workspaceId
      (snapshotPolicyState backend workspaceId recorded) now before = .ok after) :
    SamePolicy backend workspaceId after recorded := by
  have settings := boundarySetting_restoreSnapshot restores
  obtain ⟨bounds, rules, insertsBounds, insertsRules, -, isAfter⟩ :=
    restoreSnapshot_eq_ok.mp restores
  refine ⟨?_, ?_, ?_⟩
  · intro agentId
    have restored := Dict.get?_insertAll_saved (boundEntry backend) recorded.bounds
      (fun key _ => key.1 = workspaceId)
      (by
        intro element
        simp only [snapshotPolicyState, List.mem_map, mem_ofWorkspace, decide_eq_true_eq,
          and_assoc])
      (fun entry row mine => restoredBound_boundEntry (of_decide_eq_true mine))
      insertsBounds (workspaceId, agentId)
    rw [Dict.get?_filter] at restored
    rw [isAfter, restored]
    cases recorded.bounds.get? (workspaceId, agentId) with
    | some row => simp
    | none =>
        cases before.bounds.get? (workspaceId, agentId) with
        | none => rfl
        | some row => simp
  · intro ruleId
    have restored := Dict.get?_insertAll_saved (ruleEntry backend) recorded.rules
      (fun _ row => row.workspaceId = workspaceId)
      (by
        intro element
        simp only [snapshotPolicyState, List.mem_map, List.mem_insertionSort, List.mem_filter,
          decide_eq_true_eq, and_assoc])
      (fun entry row mine => restoredRule_ruleEntry (of_decide_eq_true mine))
      insertsRules ruleId
    rw [Dict.get?_filter] at restored
    rw [isAfter, restored]
    cases found : (recorded.rules.get? ruleId).filter
        fun row => row.workspaceId = workspaceId with
    | some row =>
        rw [Option.filter_eq_some_iff] at found
        rw [Option.some_or, Option.filter_some, if_pos found.2]
    | none =>
        rw [Option.none_or]
        cases before.rules.get? ruleId with
        | none => rfl
        | some row => simp
  · intro agentId
    simp only [isBoundaryRequired, Tables.isRequired, Mandate.resolve, settings,
      lastSetting_snapshotPolicyState]

/-- A version is recorded: an application or a rollback that returned it. -/
def RecordsVersion
    (backend : Backend τ)
    (stableRuleId : StableRuleId)
    (workspaceId : String)
    (version : Nat)
    (before after : Tables τ) : Prop :=
  (∃ document appliedBy now result,
    applyPolicyDocument backend stableRuleId document workspaceId appliedBy now before =
      .ok (result, after) ∧ result.policyVersion = version) ∨
  ∃ source appliedBy now,
    rollbackPolicyVersion backend workspaceId source appliedBy now before = .ok (version, after)

/-- A recorded version holds a snapshot of the state it was recorded in. -/
theorem RecordsVersion.snapshot
    {stableRuleId : StableRuleId}
    {version : Nat}
    {before after : Tables τ}
    (records : RecordsVersion backend stableRuleId workspaceId version before after) :
    ∃ row, after.versions.get? (workspaceId, version) = some row ∧
      row.snapshot = snapshotPolicyState backend workspaceId after := by
  rcases records with ⟨document, appliedBy, now, result, applies, rfl⟩ |
    ⟨source, appliedBy, now, rollsBack⟩
  · obtain ⟨counts, written, -, inserts⟩ := applyPolicyDocument_eq_ok applies
    exact (insertPolicyVersion_eq_ok inserts).2.1
  · obtain ⟨row, restored, -, -, -, inserts⟩ := rollbackPolicyVersion_eq_ok.mp rollsBack
    exact (insertPolicyVersion_eq_ok inserts).2.1

/-- A rollback to a recorded version brings back the policy of that moment. -/
theorem RecordsVersion.samePolicy
    {stableRuleId : StableRuleId}
    {version newVersion : Nat}
    {before recorded after : Tables τ}
    {appliedBy : String}
    {now : τ}
    (records : RecordsVersion backend stableRuleId workspaceId version before recorded)
    (operations : List (Operation τ))
    (rollsBack : rollbackPolicyVersion backend workspaceId version appliedBy now
      (run backend stableRuleId recorded operations) = .ok (newVersion, after)) :
    SamePolicy backend workspaceId after recorded := by
  obtain ⟨row, found, snapshot⟩ := records.snapshot
  obtain ⟨read, restored, readFound, -, restores, inserts⟩ :=
    rollbackPolicyVersion_eq_ok.mp rollsBack
  have kept := (run_keepsVersions backend stableRuleId recorded operations).kept found
  rw [kept, Option.some.injEq] at readFound
  subst readFound
  rw [snapshot] at restores
  obtain ⟨-, -, bounds, rules, settings⟩ := insertPolicyVersion_eq_ok inserts
  exact (SamePolicy.of_eq bounds rules settings).trans (samePolicy_restoreSnapshot restores)

end Recorded

/-- A rollback to a version restores the policy that the version recorded, after
any operations in between, and so does a rollback to the version that the
rollback itself recorded. -/
theorem rollback_restores_recorded_version
    (backend : Backend τ)
    (stableRuleId : StableRuleId)
    {workspaceId : String}
    {version : Nat}
    {before recorded : Tables τ}
    (records : RecordsVersion backend stableRuleId workspaceId version before recorded)
    (operations : List (Operation τ))
    {appliedBy : String}
    {now : τ}
    {newVersion : Nat}
    {restored : Tables τ}
    (rollsBack : rollbackPolicyVersion backend workspaceId version appliedBy now
      (run backend stableRuleId recorded operations) = .ok (newVersion, restored)) :
    SamePolicy backend workspaceId restored recorded ∧
      ∀ later laterAppliedBy laterNow lastVersion last,
        rollbackPolicyVersion backend workspaceId newVersion laterAppliedBy laterNow
          (run backend stableRuleId restored later) = .ok (lastVersion, last) →
        SamePolicy backend workspaceId last recorded := by
  have same := records.samePolicy operations rollsBack
  refine ⟨same, ?_⟩
  intro later laterAppliedBy laterNow lastVersion last rollsBackAgain
  have recordsAgain : RecordsVersion backend stableRuleId workspaceId newVersion
      (run backend stableRuleId recorded operations) restored :=
    .inr ⟨version, appliedBy, now, rollsBack⟩
  exact (recordsAgain.samePolicy later rollsBackAgain).trans same

/-- A document that caps one agent. -/
def cappingDocument : PolicyDocument where
  agentBounds :=
    [{ agentId := "agent_ci"
       scopes := ["read:repo/docs"]
       maxTtlDeclared := true
       maxTtlSeconds := some 600 }]
  autoApprovalRules := []
  requireBoundaryWorkspace := some true
  requireBoundaryAgents := []

/-- Edits that lift the cap and the boundary mandate of the workspace. -/
def widening : List (Operation String) :=
  [.setBounds
    { workspaceId := "ws_main"
      agentId := "agent_ci"
      scopes := ["read:repo/docs", "write:repo/docs"]
      clearMaxTtl := true } "2026-07-01T00:00:07+00:00",
    .setRequireBoundary "ws_main" "" false "2026-07-01T00:00:08+00:00"]

/-- A rollback after these edits brings the cap and the mandate back. -/
theorem rollback_restores_cap :
    ∃ newVersion restored recorded,
      rollbackPolicyVersion (sqlite true) "ws_main" 1 "operator" "2026-07-01T00:00:09+00:00"
        (run (sqlite true) (fun _ rule => rule.name) recorded widening) =
        .ok (newVersion, restored) ∧
      SamePolicy (sqlite true) "ws_main" restored recorded := by
  let applied := applyPolicyDocument (sqlite true) (fun _ rule => rule.name) cappingDocument
    "ws_main" "operator" "2026-07-01T00:00:00+00:00" .empty
  let recorded := step (sqlite true) (fun _ rule => rule.name) .empty
    (.apply cappingDocument "ws_main" "operator" "2026-07-01T00:00:00+00:00")
  obtain ⟨⟨result, tables⟩, applies⟩ :=
    exists_eq_ok_of_isOk (show applied.isOk = true by decide +kernel)
  have isRecorded : recorded = tables := by
    change step (sqlite true) _ _ _ = _
    simp only [step, attempt]
    rw [show applyPolicyDocument (sqlite true) (fun _ rule => rule.name) cappingDocument
      "ws_main" "operator" "2026-07-01T00:00:00+00:00" .empty = .ok (result, tables) from applies]
    rfl
  have version : result.policyVersion = 1 := by
    have first : applied.toOption.map (fun result => result.1.policyVersion) = some 1 := by
      decide +kernel
    rw [applies] at first
    exact Option.some.inj first
  have records : RecordsVersion (sqlite true) (fun _ rule => rule.name) "ws_main" 1
      .empty recorded :=
    .inl ⟨cappingDocument, _, _, result, isRecorded ▸ applies, version⟩
  have succeeds : (rollbackPolicyVersion (sqlite true) "ws_main" 1 "operator"
      "2026-07-01T00:00:09+00:00"
      (run (sqlite true) (fun _ rule => rule.name) recorded widening)).isOk = true := by
    decide +kernel
  obtain ⟨⟨newVersion, restored⟩, rollsBack⟩ := exists_eq_ok_of_isOk succeeds
  exact ⟨newVersion, restored, recorded, rollsBack,
    (rollback_restores_recorded_version (sqlite true) (fun _ rule => rule.name) records _
      rollsBack).1⟩

end Policy
end Vinctor
