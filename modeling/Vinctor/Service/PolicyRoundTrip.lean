import Vinctor.Service.PolicyWrites

/-!
# Applying an export

An export is applied back to the state it came from, or to a service that holds nothing of
its workspace.  The first changes nothing that is in force.  The second is refused where
another workspace holds one of the rules, and otherwise brings the same bounds, caps and
rules.
-/

namespace Vinctor
namespace PolicyFiles

open Foundation
open Fallible
open Policy

section Application

variable {backend : Backend τ} {target : Backend σ} {workspaceId appliedBy : String}
  {source : Tables τ} {before : Tables σ}

/-! ## The application -/

/-- What an application leaves of a workspace. -/
structure Applied
    (workspaceId : String)
    (source : Tables τ)
    (before after : Tables σ) : Prop where
  bounds : ∀ agentId, boundsOf after workspaceId agentId =
    (boundsOf source workspaceId agentId).or (boundsOf before workspaceId agentId)
  rules : ∀ ruleId, ruleOf after workspaceId ruleId =
    (ruleOf source workspaceId ruleId).or (ruleOf before workspaceId ruleId)
  overrides : OverridesFrom workspaceId source before after

/-- An export is applied to the tables that receive it. -/
theorem exists_applyPolicyDocument
    (stored : Stored backend source)
    (named : Named workspaceId source)
    (receives : Receives target workspaceId appliedBy source before)
    (admitted : target.admitsText appliedBy = true)
    (stableRuleId : StableRuleId)
    (now : σ) :
    ∃ result after,
      Policy.applyPolicyDocument target stableRuleId (documentRead backend workspaceId source)
        workspaceId appliedBy now before = .ok (result, after) ∧
      Applied workspaceId source before after := by
  have valid : ∀ parsed ∈ (documentRead backend workspaceId source).agentBounds,
      Grants.validateIssuableScopeBounds parsed.scopes parsed.maxTtlSeconds = .ok () := by
    intro parsed present
    obtain ⟨⟨key, row⟩, isEntry, rfl⟩ := List.mem_map.mp present
    have found := (Dict.get?_eq_some_iff _ _ _).mpr (mem_ofWorkspace.mp isEntry).1
    exact validateIssuableScopeBounds_eq_ok.mpr (stored.bounds key row found).issuable
  obtain ⟨bounded, bounds, isBounded, boundedRules, boundedSettings⟩ :=
    exists_applyBounds stored receives now
  obtain ⟨counts, ruled, rules, isRuled, ruledBounds, ruledSettings⟩ :=
    exists_applyRules stored named receives admitted now boundedRules
  obtain ⟨workspaced, workspace, workspacedBounds, workspacedRules, workspacedOverrides⟩ :=
    @exists_applyWorkspaceMandate _ _ backend _ _ _ receives.fits now ruled
  obtain ⟨written, agents, writtenBounds, writtenRules, overrides⟩ :=
    @exists_setRequireBoundaries _ _ backend _ _ _ receives.fits now _ _ workspacedOverrides
  have writes : applyWrites target stableRuleId (documentRead backend workspaceId source)
      workspaceId appliedBy now before = .ok (counts, written) := by
    refine applyWrites_eq_ok.mpr ⟨valid, _, mapM_prepareRule stored stableRuleId now, ?_⟩
    simp only [writePolicy, documentRead, bounds, rules, workspace, agents, ok_bind]
    rfl
  have succeeds : (insertPolicyVersion target workspaceId .apply none appliedBy now
      written).isOk = true := by
    simp only [insertPolicyVersion, ensure, admitted, if_true, ok_bind]
    rfl
  obtain ⟨⟨version, after⟩, inserts⟩ := exists_eq_ok_of_isOk succeeds
  obtain ⟨-, -, afterBounds, afterRules, afterSettings⟩ := insertPolicyVersion_eq_ok inserts
  refine ⟨
    { workspaceId
      boundsSet := (documentRead backend workspaceId source).agentBounds.length
      rulesCreated := counts.1
      rulesUpdated := counts.2
      policyVersion := version }, after, ?_, ?_, ?_, ?_⟩
  · simp only [Policy.applyPolicyDocument, writes, inserts, ok_bind]
    rfl
  · intro agentId
    rw [← isBounded, boundsOf, boundsOf, afterBounds, writtenBounds, workspacedBounds, ruledBounds]
  · intro ruleId
    rw [← isRuled, ruleOf, ruleOf, afterRules, writtenRules, workspacedRules]
  · intro agentId
    have same : overrideOf ruled workspaceId agentId = overrideOf before workspaceId agentId := by
      rw [overrideOf, overrideOf, ruledSettings, boundedSettings]
    have kept : overrideOf after workspaceId agentId = overrideOf written workspaceId agentId := by
      rw [overrideOf, overrideOf, afterSettings]
    rw [kept, ← same]
    exact overrides agentId

/-! ## What an application needs -/

/-- A rule is upserted only where it is valid and no other workspace holds it. -/
theorem applyRule_eq_ok
    {state after : (Nat × Nat) × Tables σ}
    {rule : String × RuleRow σ}
    (applies : applyRule target state rule = .ok after) :
    ValidRule (rule.2.untimed rule.1) ∧
      (∀ existing, state.2.rules.get? rule.1 = some existing →
        existing.workspaceId = rule.2.workspaceId) ∧
      after.2.rules = state.2.rules.set rule.1 rule.2 := by
  simp only [applyRule, bind_eq_ok] at applies
  obtain ⟨⟨action, upserted⟩, upserts, applies⟩ := applies
  have rules : after.2.rules = upserted.rules := by
    cases action with
    | created =>
        cases applies
        rfl
    | updated =>
        cases applies
        rfl
  rw [rules, rules_upsertAutoApprovalRule upserts]
  simp only [upsertAutoApprovalRule, bind_eq_ok, mapError_eq_ok] at upserts
  obtain ⟨checked, validates, upserts⟩ := upserts
  refine ⟨validateRule_eq_ok.mp validates, ?_, rfl⟩
  intro existing found
  rw [found] at upserts
  simp only [bind_eq_ok, ensure_eq_ok] at upserts
  obtain ⟨-, same, -⟩ := upserts
  exact same

/-- The workspaces that hold rules keep them. -/
def KeepsHolders (first second : Tables σ) : Prop :=
  ∀ ruleId row, first.rules.get? ruleId = some row →
    ∃ later, second.rules.get? ruleId = some later ∧ later.workspaceId = row.workspaceId

theorem keepsHolders_applyRules
    {rules : List (String × RuleRow σ)}
    {state after : (Nat × Nat) × Tables σ}
    (applies : rules.foldlM (applyRule target) state = .ok after) :
    KeepsHolders state.2 after.2 := by
  refine foldlM_relates (fun first second : (Nat × Nat) × Tables σ =>
    KeepsHolders first.2 second.2) ?_ ?_ ?_ applies
  · exact fun state ruleId row found => ⟨row, found, rfl⟩
  · intro first second third earlier later ruleId row found
    obtain ⟨middle, middleFound, same⟩ := earlier ruleId row found
    obtain ⟨last, lastFound, again⟩ := later ruleId middle middleFound
    exact ⟨last, lastFound, again.trans same⟩
  · intro rule present first second applied ruleId row found
    obtain ⟨-, held, isSecond⟩ := applyRule_eq_ok applied
    rw [isSecond, Dict.get?_set]
    split
    · next same =>
        subst same
        exact ⟨rule.2, rfl, (held row found).symm⟩
    · exact ⟨row, found, rfl⟩

/-- Each rule of a successful application was upserted, whoever held it before. -/
theorem applied_of_mem
    {rules : List (String × RuleRow σ)}
    {state after : (Nat × Nat) × Tables σ}
    (applies : rules.foldlM (applyRule target) state = .ok after)
    {rule : String × RuleRow σ}
    (present : rule ∈ rules) :
    ValidRule (rule.2.untimed rule.1) ∧
      ∀ existing, state.2.rules.get? rule.1 = some existing →
        existing.workspaceId = rule.2.workspaceId := by
  obtain ⟨earlier, later, rfl⟩ := List.append_of_mem present
  rw [List.foldlM_append, bind_eq_ok] at applies
  obtain ⟨middle, appliesEarlier, appliesLater⟩ := applies
  rw [List.foldlM_cons, bind_eq_ok] at appliesLater
  obtain ⟨next, appliesRule, -⟩ := appliesLater
  obtain ⟨valid, held, -⟩ := applyRule_eq_ok appliesRule
  refine ⟨valid, ?_⟩
  intro existing found
  obtain ⟨row, rowFound, same⟩ := keepsHolders_applyRules appliesEarlier _ existing found
  exact same.symm.trans (held row rowFound)

/-- A successful application is recorded under an admitted text, and none of its rules was
held by another workspace or is created under an empty one. -/
theorem applyPolicyDocument_needs
    (stored : Stored backend source)
    {stableRuleId : StableRuleId}
    {now : σ}
    {result : PolicyApplyResult}
    {after : Tables σ}
    (applies : Policy.applyPolicyDocument target stableRuleId
      (documentRead backend workspaceId source) workspaceId appliedBy now before =
        .ok (result, after)) :
    target.admitsText appliedBy = true ∧
      ∀ ruleId row, source.rules.get? ruleId = some row → row.workspaceId = workspaceId →
        (∀ existing, before.rules.get? ruleId = some existing →
          existing.workspaceId = workspaceId) ∧
        (before.rules.get? ruleId = none → appliedBy ≠ "") := by
  obtain ⟨counts, written, writes, inserts⟩ := applyPolicyDocument_eq_ok applies
  simp only [insertPolicyVersion, bind_eq_ok, ensure_eq_ok] at inserts
  obtain ⟨-, admitted, -⟩ := inserts
  refine ⟨admitted, ?_⟩
  intro ruleId row found mine
  obtain ⟨-, prepared, prepares, writes⟩ := applyWrites_eq_ok.mp writes
  rw [show (documentRead backend workspaceId source).autoApprovalRules =
    (listRulesForWorkspace backend workspaceId source).map ruleRead from rfl,
    mapM_prepareRule stored stableRuleId now, Except.ok.injEq] at prepares
  subst prepares
  simp only [writePolicy, bind_eq_ok] at writes
  obtain ⟨bounded, bounds, ⟨ruleCounts, ruled⟩, rules, -⟩ := writes
  have boundedRules : bounded.rules = before.rules :=
    foldlM_relates (fun first second : Tables σ => second.rules = first.rules)
      (fun _ => rfl) (fun earlier later => later.trans earlier)
      (fun _ _ _ _ sets => rules_setBounds sets) bounds
  have present : preparedRule workspaceId appliedBy now before (ruleId, row) ∈
      (listRulesForWorkspace backend workspaceId source).map
        (preparedRule workspaceId appliedBy now before) :=
    List.mem_map_of_mem (mem_listRulesForWorkspace.mpr ⟨found, mine⟩)
  obtain ⟨valid, held⟩ := applied_of_mem rules present
  refine ⟨fun existing isExisting => held existing (boundedRules ▸ isExisting), ?_⟩
  intro free
  have creator := valid.createdBy
  simp only [preparedRule, preparedRow, RuleRow.untimed, free, Option.map_none,
    Option.getD_none] at creator
  exact creator

end Application

/-! ## Back and to a blank service -/

/-- Two services hold the same bounds, caps and rules of a workspace. -/
structure SameEntries
    (workspaceId : String)
    (first : Tables τ)
    (second : Tables σ) : Prop where
  bounds : ∀ agentId, boundsOf first workspaceId agentId = boundsOf second workspaceId agentId
  rules : ∀ ruleId, ruleOf first workspaceId ruleId = ruleOf second workspaceId ruleId

/-- Nothing of a workspace's policy changed, the mandates in force among it. -/
structure Unchanged
    (backend : Backend τ)
    (workspaceId : String)
    (before after : Tables τ) : Prop where
  entries : SameEntries workspaceId after before
  mandates : ∀ agentId,
    isBoundaryRequired backend after workspaceId agentId =
      isBoundaryRequired backend before workspaceId agentId

/-- No state of a workspace. -/
structure Blank (workspaceId : String) (tables : Tables τ) : Prop where
  bounds : ∀ agentId, tables.bounds.get? (workspaceId, agentId) = none
  rules : ∀ ruleId row, tables.rules.get? ruleId = some row → row.workspaceId ≠ workspaceId
  settings : ∀ agentId, tables.settings.get? (workspaceId, agentId) = none

section Reached

variable {backend : Backend τ} {workspaceId : String} {source : Tables τ}

/-- The state an export came from receives it. -/
theorem receives_self
    (stored : Stored backend source)
    (named : Named workspaceId source)
    (admitted : backend.admitsText workspaceId = true)
    (appliedBy : String) :
    Receives backend workspaceId appliedBy source source where
  fits := fits_of_stored stored admitted
  caps := fun agentId row found uncapped => by rw [found, Option.bind_some, uncapped]
  updated := by
    intro ruleId row existing found mine isExisting
    rw [found, Option.some.injEq] at isExisting
    subst isExisting
    obtain ⟨-, -, -, -, -, created⟩ := named.rules ruleId row found mine
    exact ⟨mine, created, (stored.rules ruleId row found).createdBy⟩
  created := by
    intro ruleId row found mine free
    rw [found] at free
    cases free

/-- What an application back leaves is what there was. -/
theorem unchanged_of_applied
    {after : Tables τ}
    (applied : Applied workspaceId source source after) :
    Unchanged backend workspaceId source after where
  entries :=
    ⟨fun agentId => (applied.bounds agentId).trans (Option.or_self),
      fun ruleId => (applied.rules ruleId).trans (Option.or_self)⟩
  mandates := by
    have same : ∀ agentId,
        overrideOf after workspaceId agentId = overrideOf source workspaceId agentId :=
      fun agentId => (applied.overrides agentId).elim id id
    intro agentId
    have agent := same agentId
    have workspace := same ""
    unfold overrideOf at agent workspace
    rw [isBoundaryRequired, Tables.isRequired, Tables.isRequired, Mandate.resolve, Mandate.resolve,
      agent, workspace]

theorem unchanged_refl (tables : Tables τ) : Unchanged backend workspaceId tables tables where
  entries := ⟨fun _ => rfl, fun _ => rfl⟩
  mandates := fun _ => rfl

/-- A service without state of the workspace receives an export whose rules no one holds. -/
theorem receives_blank
    {target : Backend σ}
    {appliedBy : String}
    {before : Tables σ}
    (fits : Fits target workspaceId source)
    (blank : Blank workspaceId before)
    (free : ∀ ruleId row, source.rules.get? ruleId = some row → row.workspaceId = workspaceId →
      before.rules.get? ruleId = none ∧ appliedBy ≠ "") :
    Receives target workspaceId appliedBy source before where
  fits
  caps := fun agentId row found uncapped => by rw [blank.bounds]; rfl
  updated := by
    intro ruleId row existing found mine isExisting
    rw [(free ruleId row found mine).1] at isExisting
    cases isExisting
  created := fun ruleId row found mine _ => (free ruleId row found mine).2

/-- There, what is applied is all there is. -/
theorem sameEntries_of_applied
    {before after : Tables σ}
    (blank : Blank workspaceId before)
    (applied : Applied workspaceId source before after) :
    SameEntries workspaceId after source where
  bounds := by
    intro agentId
    have none : boundsOf before workspaceId agentId = none := by
      rw [boundsOf, blank.bounds, Option.map_none]
    rw [applied.bounds, none, Option.or_none]
  rules := by
    intro ruleId
    have none : ruleOf before workspaceId ruleId = none := by
      rw [ruleOf, Option.map_eq_none_iff, Option.filter_eq_none_iff]
      intro row found
      simpa using blank.rules ruleId row found
    rw [applied.rules, none, Option.or_none]

end Reached

/-- The tables that a transaction leaves. -/
def committed
    (attempt : Except FileError (PolicyApplyResult × Tables τ))
    (before : Tables τ) : Tables τ :=
  match attempt with
  | .ok applied => applied.2
  | .error _ => before

/-- The export of a workspace, applied back, is accepted unless the database refuses the
name it is applied under, and changes neither bounds, caps, rules nor mandates.  Applied to
a service that holds nothing of the workspace and whose columns admit its values, it is
accepted exactly where no one else holds one of its rules and no rule is created under an
empty name, and then the service holds the same bounds, caps and rules.  The database of
the export admits its values. -/
theorem exported_policy_applies_back
    (printed : Printer)
    {backend : Backend τ}
    (deployed : Deployed backend)
    (stableRuleId : StableRuleId)
    {operations : List (Operation τ)}
    (served : ∀ operation ∈ operations, operation.Served)
    {workspaceId : String}
    {document : Json}
    (named : Named workspaceId (run backend stableRuleId .empty operations))
    (exports : exportPolicyDocument backend workspaceId
      (run backend stableRuleId .empty operations) = .ok document) :
    (∀ appliedBy now,
      ((∃ applied, applyPolicyFile printed backend stableRuleId document workspaceId appliedBy now
          (run backend stableRuleId .empty operations) = .ok applied) ↔
        backend.admitsText appliedBy = true) ∧
      Unchanged backend workspaceId (run backend stableRuleId .empty operations)
        (committed (applyPolicyFile printed backend stableRuleId document workspaceId appliedBy now
          (run backend stableRuleId .empty operations))
          (run backend stableRuleId .empty operations))) ∧
    (∀ {σ : Type} (target : Backend σ) targetRuleId appliedBy now (before : Tables σ),
      Fits target workspaceId (run backend stableRuleId .empty operations) →
      Blank workspaceId before →
      ((∃ applied, applyPolicyFile printed target targetRuleId document workspaceId appliedBy now
          before = .ok applied) ↔
        target.admitsText appliedBy = true ∧
          ∀ ruleId row,
            (run backend stableRuleId .empty operations).rules.get? ruleId = some row →
            row.workspaceId = workspaceId →
            before.rules.get? ruleId = none ∧ appliedBy ≠ "") ∧
      ∀ result after, applyPolicyFile printed target targetRuleId document workspaceId appliedBy
          now before = .ok (result, after) →
        SameEntries workspaceId after (run backend stableRuleId .empty operations)) ∧
    Fits backend workspaceId (run backend stableRuleId .empty operations) := by
  have stored := stored_run deployed stableRuleId (stored_empty backend) served
  generalize run backend stableRuleId .empty operations = source at *
  have readable := readable_of_stored deployed stored named
  have admitted := (exportPolicyDocument_eq_ok.mp exports).1
  refine ⟨?_, ?_, fits_of_stored stored admitted⟩
  · intro appliedBy now
    have receives := receives_self stored named admitted appliedBy
    have accepted : (∃ applied, applyPolicyFile printed backend stableRuleId document workspaceId
        appliedBy now source = .ok applied) ↔ backend.admitsText appliedBy = true := by
      constructor
      · rintro ⟨⟨result, after⟩, applies⟩
        exact (applyPolicyDocument_needs stored
          ((applyPolicyFile_export printed readable exports).mp applies)).1
      · intro admittedBy
        obtain ⟨result, after, applies, -⟩ :=
          exists_applyPolicyDocument stored named receives admittedBy stableRuleId now
        exact ⟨_, (applyPolicyFile_export printed readable exports).mpr applies⟩
    refine ⟨accepted, ?_⟩
    cases attempted : applyPolicyFile printed backend stableRuleId document workspaceId appliedBy
        now source with
    | error error => exact unchanged_refl source
    | ok applied =>
        obtain ⟨result, after, applies, isApplied⟩ := exists_applyPolicyDocument stored named
          receives (accepted.mp ⟨applied, attempted⟩) stableRuleId now
        rw [applyPolicyFile_export printed readable exports, applies, Except.ok.injEq] at attempted
        subst attempted
        exact unchanged_of_applied isApplied
  · intro σ target targetRuleId appliedBy now before fits blank
    have needs : ∀ applied, applyPolicyFile printed target targetRuleId document workspaceId
        appliedBy now before = .ok applied →
        target.admitsText appliedBy = true ∧
          ∀ ruleId row, source.rules.get? ruleId = some row → row.workspaceId = workspaceId →
            before.rules.get? ruleId = none ∧ appliedBy ≠ "" := by
      rintro ⟨result, after⟩ applies
      obtain ⟨admittedBy, rules⟩ := applyPolicyDocument_needs stored
        ((applyPolicyFile_export printed readable exports).mp applies)
      refine ⟨admittedBy, ?_⟩
      intro ruleId row found mine
      obtain ⟨held, created⟩ := rules ruleId row found mine
      have free : before.rules.get? ruleId = none := by
        cases isExisting : before.rules.get? ruleId with
        | none => rfl
        | some existing =>
            exact absurd (held existing isExisting) (blank.rules ruleId existing isExisting)
      exact ⟨free, created free⟩
    refine ⟨⟨fun accepted => needs _ accepted.choose_spec, ?_⟩, ?_⟩
    · rintro ⟨admittedBy, free⟩
      obtain ⟨result, after, applies, -⟩ := exists_applyPolicyDocument stored named
        (receives_blank fits blank free) admittedBy targetRuleId now
      exact ⟨_, (applyPolicyFile_export printed readable exports).mpr applies⟩
    · intro result after applied
      obtain ⟨admittedBy, free⟩ := needs _ applied
      obtain ⟨sameResult, sameAfter, applies, isApplied⟩ := exists_applyPolicyDocument stored named
        (receives_blank fits blank free) admittedBy targetRuleId now
      rw [applyPolicyFile_export printed readable exports, applies, Except.ok.injEq,
        Prod.mk.injEq] at applied
      rw [← applied.2]
      exact sameEntries_of_applied blank isApplied

/-! ## Where an export is refused -/

/-- Rules that a document leaves unnamed go by their names. -/
def byName : StableRuleId := fun _ rule => rule.name

/-- A disabled rule with a long lifetime. -/
def longRow (workspaceId : String) : RuleRow String where
  workspaceId
  name := "docs"
  targetAgentId := "agent_ci"
  allowedScopes := ["read:repo/docs"]
  maxTtlSeconds := 3000000000
  status := .disabled
  createdBy := "operator"
  createdAt := "2026-07-01T00:00:00+00:00"
  updatedBy := none
  updatedAt := none

/-- A service on which a workspace created the rule. -/
def longTables (workspaceId : String) : Tables String :=
  run (sqlite true) byName .empty [.createRule "apr_docs" (longRow workspaceId)]

/-- The error of an attempt that raises. -/
def refusal (attempt : Except FileError α) : Option FileError :=
  match attempt with
  | .ok _ => none
  | .error error => some error

theorem named_longTables : Named "ws_main" (longTables "ws_main") where
  agents := fun agentId row found => by cases found
  rules := by
    intro ruleId row found mine
    have entries : (longTables "ws_main").rules.entries = [("apr_docs", longRow "ws_main")] := by
      decide +kernel
    rw [Dict.get?_eq_some_iff, entries, List.mem_singleton, Prod.mk.injEq] at found
    obtain ⟨rfl, rfl⟩ := found
    decide

theorem blank_longTables : Blank "ws_main" (longTables "ws_other") where
  bounds := fun agentId => rfl
  rules := by
    intro ruleId row found
    have entries : (longTables "ws_other").rules.entries = [("apr_docs", longRow "ws_other")] := by
      decide +kernel
    rw [Dict.get?_eq_some_iff, entries, List.mem_singleton, Prod.mk.injEq] at found
    obtain ⟨rfl, rfl⟩ := found
    decide
  settings := fun agentId => rfl

/-- An export of a named rule is refused by services without state of the workspace: where
another workspace holds the rule, where a column is too narrow for its lifetime, and where
the rule would be created under an empty name. -/
theorem blank_services_refuse_exports :
    Named "ws_main" (longTables "ws_main") ∧ Blank "ws_main" (longTables "ws_other") ∧
      ∃ document,
        exportPolicyDocument (sqlite true) "ws_main" (longTables "ws_main") = .ok document ∧
        refusal (applyPolicyFile (fun _ => "") (sqlite true) byName document "ws_main"
            "workspace:ws_main" "2026-07-01T00:00:01+00:00" (longTables "ws_other")) =
          some (refused "auto-approval rule_id belongs to another workspace") ∧
        refusal (applyPolicyFile (fun _ => "") (postgres isoServer true) byName document "ws_main"
            "workspace:ws_main" 1782864000000000 .empty) = some (.policy .data) ∧
        refusal (applyPolicyFile (fun _ => "") (sqlite true) byName document "ws_main" ""
            "2026-07-01T00:00:01+00:00" .empty) = some (refused "created_by must be non-empty") := by
  refine ⟨named_longTables, blank_longTables,
    .obj (documentMembers (sqlite true) "ws_main" (longTables "ws_main")), rfl, ?_, ?_, ?_⟩
  all_goals decide +kernel

/-- An empty service accepts the export and then holds the same entries. -/
theorem empty_service_takes_export :
    ∃ document result after,
      exportPolicyDocument (sqlite true) "ws_main" (longTables "ws_main") = .ok document ∧
      applyPolicyFile (fun _ => "") (sqlite true) byName document "ws_main" "workspace:ws_main"
        "2026-07-01T00:00:01+00:00" .empty = .ok (result, after) ∧
      SameEntries "ws_main" after (longTables "ws_main") := by
  have exports : exportPolicyDocument (sqlite true) "ws_main" (longTables "ws_main") =
      .ok (.obj (documentMembers (sqlite true) "ws_main" (longTables "ws_main"))) := rfl
  obtain ⟨-, toBlank, fits⟩ := exported_policy_applies_back (fun _ => "") (.sqlite true) byName
    (fun operation present => by
      rw [List.mem_singleton.mp present]
      trivial)
    named_longTables exports
  have blank : Blank "ws_main" (Tables.empty : Tables String) :=
    ⟨fun _ => rfl, fun _ _ found => (by cases found), fun _ => rfl⟩
  obtain ⟨accepted, same⟩ := toBlank (sqlite true) byName "workspace:ws_main"
    "2026-07-01T00:00:01+00:00" .empty fits blank
  obtain ⟨⟨result, after⟩, applies⟩ := accepted.mpr ⟨rfl, fun _ _ _ _ => ⟨rfl, by decide⟩⟩
  exact ⟨_, result, after, exports, applies, same result after applies⟩

end PolicyFiles
end Vinctor
