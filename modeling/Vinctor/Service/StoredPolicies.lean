import Vinctor.Service.PolicyRestoration

/-!
# What the tables of a policy hold

Every write of a policy is validated and admitted by its database before it is stored, and
a rollback writes only what a version recorded and validation let through.  So after any
run the bounds and rules of the tables are valid, and the database admits their values.
-/

namespace Vinctor
namespace Policy

open Foundation
open Fallible
open Scope

/-! ## Validation -/

theorem filter_invalid_eq_nil {scopes : List String} :
    (scopes.filter fun scope => !isValidGrantScope scope) = [] ↔
      ∀ scope ∈ scopes, isValidGrantScope scope = true := by
  simp [List.filter_eq_nil_iff]

/-- Bounds that may be stored: valid scopes and a cap within the ceiling. -/
structure Issuable (scopes : List String) (cap : Option Int) : Prop where
  listed : scopes ≠ []
  valid : ∀ scope ∈ scopes, isValidGrantScope scope = true
  cap : ∀ seconds ∈ cap, 0 < seconds ∧ seconds ≤ Grants.maxTtlSecondsCeiling

theorem validateIssuableScopeBounds_eq_ok {scopes : List String} {cap : Option Int} :
    Grants.validateIssuableScopeBounds scopes cap = .ok () ↔ Issuable scopes cap := by
  have inRange : (cap.any fun seconds =>
      decide (seconds ≤ 0 ∨ Grants.maxTtlSecondsCeiling < seconds)) = false ↔
        ∀ seconds ∈ cap, 0 < seconds ∧ seconds ≤ Grants.maxTtlSecondsCeiling := by
    cases cap with
    | none => simp
    | some seconds => simp
  unfold Grants.validateIssuableScopeBounds
  by_cases listed : scopes = []
  · rw [if_pos (by simp [listed])]
    exact ⟨fun refused => (by cases refused), fun issuable => absurd listed issuable.listed⟩
  · rw [if_neg (by simpa using listed)]
    cases invalid : scopes.filter fun scope => !isValidGrantScope scope with
    | cons scope rest =>
        refine ⟨fun refused => (by cases refused), fun issuable => ?_⟩
        rw [filter_invalid_eq_nil.mpr issuable.valid] at invalid
        cases invalid
    | nil =>
        cases outside : cap.any fun seconds =>
            decide (seconds ≤ 0 ∨ Grants.maxTtlSecondsCeiling < seconds) with
        | true =>
            refine ⟨fun refused => (by cases refused), fun issuable => ?_⟩
            rw [inRange.mpr issuable.cap] at outside
            cases outside
        | false =>
            exact ⟨fun _ => ⟨listed, filter_invalid_eq_nil.mp invalid, inRange.mp outside⟩,
              fun _ => rfl⟩

/-- Rules that may be stored. -/
structure ValidRule (rule : AutoApprovalRule) : Prop where
  workspaceId : rule.workspaceId ≠ ""
  ruleId : rule.ruleId ≠ ""
  name : rule.name ≠ ""
  targetAgentId : rule.targetAgentId ≠ ""
  lifetime : 0 < rule.maxTtlSeconds
  listed : rule.allowedScopes ≠ []
  valid : ∀ scope ∈ rule.allowedScopes, isValidGrantScope scope = true
  createdBy : rule.createdBy ≠ ""

theorem validateRule_eq_ok {rule : AutoApprovalRule} :
    AutoApproval.validateRule rule = .ok () ↔ ValidRule rule := by
  constructor
  · intro accepted
    unfold AutoApproval.validateRule at accepted
    repeat' split at accepted
    all_goals try cases accepted
    next workspaceId ruleId name targetAgentId lifetime listed scopes invalid createdBy =>
      exact ⟨workspaceId, ruleId, name, targetAgentId, by omega, by simpa using listed,
        filter_invalid_eq_nil.mp invalid, createdBy⟩
  · intro valid
    rw [AutoApproval.validateRule, if_neg valid.workspaceId, if_neg valid.ruleId,
      if_neg valid.name, if_neg valid.targetAgentId, if_neg (by have := valid.lifetime; omega),
      if_neg (by simpa using valid.listed), filter_invalid_eq_nil.mpr valid.valid]
    exact if_neg valid.createdBy

/-! ## Databases -/

/-- The two databases a service runs on. -/
inductive Deployed : {τ : Type} → Backend τ → Prop
  | sqlite (requireBoundaryDefault : Bool) : Deployed (sqlite requireBoundaryDefault)
  | postgres (server : Server) (requireBoundaryDefault : Bool) :
      Deployed (postgres server requireBoundaryDefault)

/-- A truth value is stored as the integer it is. -/
theorem Deployed.admitsInteger_value
    {backend : Backend τ}
    (deployed : Deployed backend)
    {number : SnapshotInteger}
    (admitted : backend.admitsInteger number = true) :
    backend.admitsInteger (.int number.value) = true := by
  cases deployed with
  | sqlite => exact admitted
  | postgres =>
      cases number with
      | int value => exact admitted
      | bool value => cases admitted

/-- Integers have at most 64 bits. -/
theorem Deployed.le_of_admitsInteger
    {backend : Backend τ}
    (deployed : Deployed backend)
    {value : Int}
    (admitted : backend.admitsInteger (.int value) = true) :
    value ≤ 9223372036854775807 := by
  cases deployed with
  | sqlite => exact (of_decide_eq_true admitted).2
  | postgres =>
      have := (of_decide_eq_true admitted).2
      omega

/-! ## Rows -/

/-- Bounds that are valid and that the database admits. -/
structure StoredBounds
    (backend : Backend τ)
    (agentId : String)
    (row : BoundsRow τ) : Prop where
  issuable : Issuable row.scopes row.maxTtlSeconds
  agentId : backend.admitsText agentId = true
  scopes : row.scopes.all backend.admitsText = true
  cap : ∀ seconds ∈ row.maxTtlSeconds, backend.admitsInteger (.int seconds) = true

/-- Rules whose scopes and lifetime are valid and that the database admits. -/
structure StoredRule
    (backend : Backend τ)
    (ruleId : String)
    (row : RuleRow τ) : Prop where
  valid : ∀ scope ∈ row.allowedScopes, isValidGrantScope scope = true
  positive : 0 < row.maxTtlSeconds
  ruleId : backend.admitsText ruleId = true
  name : backend.admitsText row.name = true
  targetAgentId : backend.admitsText row.targetAgentId = true
  allowedScopes : row.allowedScopes.all backend.admitsText = true
  lifetime : backend.admitsInteger (.int row.maxTtlSeconds) = true
  createdBy : backend.admitsText row.createdBy = true

/-- Every row of the tables is one that the service stores. -/
structure Stored (backend : Backend τ) (tables : Tables τ) : Prop where
  bounds : ∀ key row, tables.bounds.get? key = some row → StoredBounds backend key.2 row
  rules : ∀ ruleId row, tables.rules.get? ruleId = some row → StoredRule backend ruleId row
  settings : ∀ key row, tables.settings.get? key = some row → backend.admitsText key.2 = true

theorem stored_empty (backend : Backend τ) : Stored backend (Tables.empty : Tables τ) where
  bounds := fun key row found => by cases found
  rules := fun ruleId row found => by cases found
  settings := fun key row found => by cases found

/-- The versions are no part of what is stored of a policy. -/
theorem Stored.of_eq
    {backend : Backend τ}
    {before after : Tables τ}
    (stored : Stored backend before)
    (bounds : after.bounds = before.bounds)
    (rules : after.rules = before.rules)
    (settings : after.settings = before.settings) :
    Stored backend after where
  bounds := bounds ▸ stored.bounds
  rules := rules ▸ stored.rules
  settings := settings ▸ stored.settings

section Writes

variable {backend : Backend τ} {before after : Tables τ} (stored : Stored backend before)

include stored

theorem Stored.setBounds
    {input : Grants.SetBoundsInput}
    {now : τ}
    (sets : setBounds backend input now before = .ok after) :
    Stored backend after := by
  simp only [Policy.setBounds, bind_eq_ok, ensure_eq_ok, pure_eq_ok, mapError_eq_ok] at sets
  obtain ⟨checked, valid, -, -, -, ⟨-, agentId, scopes, cap⟩, rfl⟩ := sets
  have issuable := validateIssuableScopeBounds_eq_ok.mp valid
  refine ⟨Dict.forall_get?_set stored.bounds ?_, stored.rules, stored.settings⟩
  have source : ∀ seconds ∈ (if input.clearMaxTtl then none else input.maxTtlSeconds.or
      ((before.bounds.get? (input.workspaceId, input.agentId)).bind (·.maxTtlSeconds))),
      seconds ∈ input.maxTtlSeconds ∨ ∃ row,
        before.bounds.get? (input.workspaceId, input.agentId) = some row ∧
          seconds ∈ row.maxTtlSeconds := by
    intro seconds isCap
    split at isCap
    · cases isCap
    · rcases Option.or_eq_some_iff.mp isCap with declared | ⟨-, kept⟩
      · exact .inl declared
      · exact .inr (Option.bind_eq_some_iff.mp kept)
  refine ⟨⟨issuable.listed, issuable.valid, ?_⟩, agentId, scopes, ?_⟩
  · intro seconds isCap
    rcases source seconds isCap with declared | ⟨row, found, kept⟩
    · exact issuable.cap seconds declared
    · exact (stored.bounds _ row found).issuable.cap seconds kept
  · intro seconds isCap
    rcases source seconds isCap with declared | ⟨row, found, kept⟩
    · rw [Option.mem_def.mp declared] at cap
      exact cap
    · exact (stored.bounds _ row found).cap seconds kept

theorem Stored.upsertSetting
    {workspaceId agentId : String}
    {now : τ}
    {write : SettingsRow τ → SettingsRow τ}
    (sets : before.upsertSetting backend workspaceId agentId now write = .ok after) :
    Stored backend after := by
  simp only [Tables.upsertSetting, bind_eq_ok, ensure_eq_ok, pure_eq_ok] at sets
  obtain ⟨-, ⟨-, admitted⟩, rfl⟩ := sets
  exact ⟨stored.bounds, stored.rules, Dict.forall_get?_set stored.settings admitted⟩

theorem Stored.setRule
    {ruleId : String}
    {row : RuleRow τ}
    (valid : ValidRule (row.untimed ruleId))
    (admitted : row.admitted backend ruleId = true) :
    Stored backend { before with rules := before.rules.set ruleId row } := by
  refine ⟨stored.bounds, Dict.forall_get?_set stored.rules ?_, stored.settings⟩
  simp only [RuleRow.admitted, Bool.and_eq_true] at admitted
  obtain ⟨⟨⟨⟨⟨⟨⟨identifier, -⟩, name⟩, target⟩, scopes⟩, lifetime⟩, creator⟩, -⟩ := admitted
  exact ⟨valid.valid, valid.lifetime, identifier, name, target, scopes, lifetime, creator⟩

theorem Stored.addRule
    {ruleId : String}
    {row : RuleRow τ}
    (valid : ValidRule (row.untimed ruleId))
    (adds : addRule backend ruleId row before = .ok after) :
    Stored backend after := by
  simp only [Policy.addRule, bind_eq_ok, ensure_eq_ok, pure_eq_ok] at adds
  obtain ⟨-, -, -, admitted, rfl⟩ := adds
  exact stored.setRule valid admitted

theorem Stored.updateRule
    {ruleId : String}
    {row : RuleRow τ}
    (valid : ValidRule (row.untimed ruleId))
    (updates : updateRule backend ruleId row before = .ok after) :
    Stored backend after := by
  simp only [Policy.updateRule, bind_eq_ok, ensure_eq_ok, pure_eq_ok] at updates
  obtain ⟨-, -, -, admitted, rfl⟩ := updates
  exact stored.setRule valid admitted

theorem Stored.upsertAutoApprovalRule
    {ruleId : String}
    {row : RuleRow τ}
    {action : UpsertAction}
    (upserts : upsertAutoApprovalRule backend ruleId row before = .ok (action, after)) :
    Stored backend after := by
  simp only [Policy.upsertAutoApprovalRule, bind_eq_ok, mapError_eq_ok] at upserts
  obtain ⟨checked, validates, upserts⟩ := upserts
  have valid := validateRule_eq_ok.mp validates
  split at upserts
  · simp only [bind_eq_ok, pure_eq_ok, Prod.mk.injEq] at upserts
    obtain ⟨added, adds, -, rfl⟩ := upserts
    exact stored.addRule valid adds
  · simp only [bind_eq_ok, pure_eq_ok, Prod.mk.injEq] at upserts
    obtain ⟨-, -, updated, updates, -, rfl⟩ := upserts
    exact stored.updateRule valid updates

theorem Stored.applyRule
    {counts countsAfter : Nat × Nat}
    {rule : String × RuleRow τ}
    (applies : applyRule backend (counts, before) rule = .ok (countsAfter, after)) :
    Stored backend after := by
  simp only [Policy.applyRule, bind_eq_ok] at applies
  obtain ⟨⟨action, upserted⟩, upserts, applies⟩ := applies
  have kept := stored.upsertAutoApprovalRule upserts
  cases action with
  | created =>
      cases applies
      exact kept
  | updated =>
      cases applies
      exact kept

theorem Stored.applyWrites
    {stableRuleId : StableRuleId}
    {document : PolicyDocument}
    {workspaceId appliedBy : String}
    {now : τ}
    {counts : Nat × Nat}
    (applies : applyWrites backend stableRuleId document workspaceId appliedBy now before =
      .ok (counts, after)) :
    Stored backend after := by
  simp only [Policy.applyWrites, bind_eq_ok, pure_eq_ok, Prod.mk.injEq] at applies
  obtain ⟨-, -, prepared, -, bounded, setsBounds, ⟨ruleCounts, ruled⟩, setsRules,
    workspaced, setsWorkspace, agents, setsAgents, -, rfl⟩ := applies
  have bounds : Stored backend before → Stored backend bounded :=
    foldlM_relates (fun first second : Tables τ => Stored backend first → Stored backend second)
      (fun _ => id) (fun earlier later => later ∘ earlier)
      (fun _ _ _ _ sets held => held.setBounds sets) setsBounds
  have rules : Stored backend bounded → Stored backend ruled :=
    foldlM_relates
      (fun first second : (Nat × Nat) × Tables τ =>
        Stored backend first.2 → Stored backend second.2)
      (fun _ => id) (fun earlier later => later ∘ earlier)
      (fun _ _ _ _ applied held => held.applyRule applied) setsRules
  have agent : Stored backend workspaced → Stored backend agents :=
    foldlM_relates (fun first second : Tables τ => Stored backend first → Stored backend second)
      (fun _ => id) (fun earlier later => later ∘ earlier)
      (fun _ _ _ _ sets held => held.upsertSetting sets) setsAgents
  have ruledStored := rules (bounds stored)
  apply agent
  unfold applyWorkspaceMandate at setsWorkspace
  split at setsWorkspace
  · cases setsWorkspace
    exact ruledStored
  · exact ruledStored.upsertSetting setsWorkspace

end Writes

/-! ## Restores -/

theorem validatedPolicySnapshot_eq_ok {snapshot checked : PolicySnapshot}
    (validates : validatedPolicySnapshot snapshot = .ok checked) :
    (∀ entry ∈ snapshot.agentBounds, validatedBound entry = .ok ()) ∧
      ∀ entry ∈ snapshot.autoApprovalRules, validatedRule entry = .ok () := by
  simp only [validatedPolicySnapshot, bind_eq_ok, forM_eq_ok_iff] at validates
  obtain ⟨-, -, -, bounds, -, rules, -⟩ := validates
  exact ⟨bounds, rules⟩

theorem storedBounds_restoredBound
    {backend : Backend τ}
    (deployed : Deployed backend)
    {workspaceId : String}
    {entry : SnapshotBound}
    {row : (String × String) × BoundsRow τ}
    (validates : validatedBound entry = .ok ())
    (encodes : restoredBound backend workspaceId entry = .ok row) :
    StoredBounds backend row.1.2 row.2 := by
  simp only [validatedBound, bind_eq_ok, mapError_eq_ok] at validates
  obtain ⟨-, -, -, -, checked, valid, -⟩ := validates
  simp only [restoredBound, bind_eq_ok, ensure_eq_ok, pure_eq_ok] at encodes
  obtain ⟨-, ⟨agentId, scopes, cap⟩, updatedAt, -, rfl⟩ := encodes
  refine ⟨validateIssuableScopeBounds_eq_ok.mp valid, agentId, scopes, ?_⟩
  intro seconds isCap
  obtain ⟨number, isNumber, rfl⟩ := Option.map_eq_some_iff.mp isCap
  rw [isNumber] at cap
  exact deployed.admitsInteger_value cap

theorem storedRule_restoredRule
    {backend : Backend τ}
    (deployed : Deployed backend)
    {workspaceId : String}
    {entry : SnapshotRule}
    {row : String × RuleRow τ}
    (validates : validatedRule entry = .ok ())
    (encodes : restoredRule backend workspaceId entry = .ok row) :
    StoredRule backend row.1 row.2 := by
  simp only [validatedRule, bind_eq_ok, ensure_eq_ok] at validates
  obtain ⟨-, -, -, -, -, -, -, -, -, -, -, -, -, valid, -, positive, -⟩ := validates
  simp only [restoredRule, bind_eq_ok, ensure_eq_ok, pure_eq_ok] at encodes
  obtain ⟨-, ⟨ruleId, name, target, scopes, lifetime, creator, -⟩, createdAt, -, updatedAt, -,
    rfl⟩ := encodes
  exact ⟨valid, positive, ruleId, name, target, scopes, deployed.admitsInteger_value lifetime,
    creator⟩

theorem Stored.restoreSnapshot
    {backend : Backend τ}
    (deployed : Deployed backend)
    {workspaceId : String}
    {snapshot checked : PolicySnapshot}
    {now : τ}
    {before after : Tables τ}
    (stored : Stored backend before)
    (validates : validatedPolicySnapshot snapshot = .ok checked)
    (restores : restoreSnapshot backend workspaceId snapshot now before = .ok after) :
    Stored backend after := by
  obtain ⟨validBounds, validRules⟩ := validatedPolicySnapshot_eq_ok validates
  have settings := get?_settings_restoreSnapshot restores
  obtain ⟨bounds, rules, insertsBounds, insertsRules, admitted, isAfter⟩ :=
    restoreSnapshot_eq_ok.mp restores
  have storedBounds : ∀ key row, bounds.get? key = some row →
      StoredBounds backend key.2 row := by
    refine Dict.forall_get?_insertAll insertsBounds ?_ ?_
    · intro key row found
      rw [Dict.get?_filter] at found
      exact stored.bounds key row (Option.filter_eq_some_iff.mp found).1
    · intro entry present row encodes
      exact storedBounds_restoredBound deployed (validBounds entry present) encodes
  have storedRules : ∀ ruleId row, rules.get? ruleId = some row →
      StoredRule backend ruleId row := by
    refine Dict.forall_get?_insertAll insertsRules ?_ ?_
    · intro ruleId row found
      rw [Dict.get?_filter] at found
      exact stored.rules ruleId row (Option.filter_eq_some_iff.mp found).1
    · intro entry present row encodes
      exact storedRule_restoredRule deployed (validRules entry present) encodes
  refine ⟨isAfter ▸ storedBounds, isAfter ▸ storedRules, ?_⟩
  rintro ⟨workspace, agentId⟩ row found
  rw [settings] at found
  split at found
  · next mine =>
      obtain rfl : workspace = workspaceId := mine
      cases saved : lastSetting snapshot.requireBoundarySettings agentId with
      | some required =>
          obtain ⟨entry, present, rfl, -⟩ := exists_of_lastSetting_eq_some saved
          exact List.all_eq_true.mp admitted entry present
      | none =>
          rw [saved, get?_clearedSettings] at found
          obtain ⟨old, kept, -⟩ := Option.map_eq_some_iff.mp found
          exact stored.settings _ old (Option.filter_eq_some_iff.mp kept).1
  · exact stored.settings _ row found

/-! ## Runs -/

/-- An update of a rule writes a rule that its service validated, as the edits and
disables of the services do. -/
def Operation.Served : Operation τ → Prop
  | .updateRule ruleId row => ValidRule (row.untimed ruleId)
  | _ => True

theorem Stored.attempt
    {backend : Backend τ}
    (deployed : Deployed backend)
    {stableRuleId : StableRuleId}
    {before after : Tables τ}
    {operation : Operation τ}
    (stored : Stored backend before)
    (served : operation.Served)
    (succeeds : attempt backend stableRuleId before operation = .ok after) :
    Stored backend after := by
  cases operation with
  | setBounds => exact stored.setBounds succeeds
  | setRequireBoundary | setRequireSubjectToken | setRequirePop =>
      simp only [Policy.attempt, setRequireBoundary, setRequireSubjectToken, setRequirePop]
        at succeeds
      exact stored.upsertSetting succeeds
  | createRule =>
      simp only [Policy.attempt, createAutoApprovalRule, bind_eq_ok, mapError_eq_ok] at succeeds
      obtain ⟨checked, validates, adds⟩ := succeeds
      exact stored.addRule (validateRule_eq_ok.mp validates) adds
  | updateRule => exact stored.updateRule served succeeds
  | apply document workspaceId appliedBy now =>
      simp only [Policy.attempt, map_eq_ok] at succeeds
      obtain ⟨⟨result, applied⟩, applies, rfl⟩ := succeeds
      obtain ⟨counts, written, writes, inserts⟩ := applyPolicyDocument_eq_ok applies
      obtain ⟨-, -, bounds, rules, settings⟩ := insertPolicyVersion_eq_ok inserts
      exact (stored.applyWrites writes).of_eq bounds rules settings
  | rollback workspaceId version appliedBy now =>
      simp only [Policy.attempt, map_eq_ok] at succeeds
      obtain ⟨⟨newVersion, rolled⟩, rollsBack, rfl⟩ := succeeds
      obtain ⟨row, restored, -, validates, restores, inserts⟩ :=
        rollbackPolicyVersion_eq_ok.mp rollsBack
      obtain ⟨-, -, bounds, rules, settings⟩ := insertPolicyVersion_eq_ok inserts
      exact (stored.restoreSnapshot deployed validates restores).of_eq bounds rules settings

/-- What the services stored in a run is stored. -/
theorem stored_run
    {backend : Backend τ}
    (deployed : Deployed backend)
    (stableRuleId : StableRuleId)
    {tables : Tables τ}
    {operations : List (Operation τ)}
    (stored : Stored backend tables)
    (served : ∀ operation ∈ operations, operation.Served) :
    Stored backend (run backend stableRuleId tables operations) := by
  induction operations generalizing tables with
  | nil => exact stored
  | cons operation later inductionHypothesis =>
      refine inductionHypothesis ?_ fun other present =>
        served other (List.mem_cons_of_mem operation present)
      unfold step
      split
      · next after succeeds =>
          exact stored.attempt deployed (served operation List.mem_cons_self) succeeds
      · exact stored

end Policy
end Vinctor
