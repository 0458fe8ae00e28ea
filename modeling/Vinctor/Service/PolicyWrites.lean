import Vinctor.Service.PolicyExports
import Vinctor.Service.StoredPolicies

/-!
# Writing an export

A document that was exported from a workspace is written to tables that hold the policy of
the workspace, or none of it.  A cap that is left out preserves the stored one, which is
the exported one or none; a rule is updated where it is stored and created where it is
not; a mandate is written only where the export sets it.  So the bounds, the caps and the
fields of the rules that are written are those of the export.
-/

namespace Vinctor
namespace PolicyFiles

open Foundation
open Fallible
open Policy

/-! ## What is compared -/

/-- The fields of a rule that a document has. -/
structure RuleFields where
  name : String
  targetAgentId : String
  allowedScopes : List String
  maxTtlSeconds : Int
  status : ApprovalRuleStatus
  deriving DecidableEq, Repr

def ruleFields (row : RuleRow τ) : RuleFields where
  name := row.name
  targetAgentId := row.targetAgentId
  allowedScopes := row.allowedScopes
  maxTtlSeconds := row.maxTtlSeconds
  status := row.status

/-- Bounds and cap of an agent. -/
def boundsOf (tables : Tables τ) (workspaceId agentId : String) :
    Option (List String × Option Int) :=
  (tables.bounds.get? (workspaceId, agentId)).map fun row => (row.scopes, row.maxTtlSeconds)

/-- Fields of a rule, where the workspace holds it. -/
def ruleOf (tables : Tables τ) (workspaceId ruleId : String) : Option RuleFields :=
  ((tables.rules.get? ruleId).filter fun row => row.workspaceId = workspaceId).map ruleFields

/-- The boundary override of an agent, or of the workspace itself under the empty agent. -/
def overrideOf (tables : Tables τ) (workspaceId agentId : String) : Option Bool :=
  Mandate.boundary.setting (tables.settings.get? (workspaceId, agentId))

/-- The agents of the bounds are named, and no field of a rule is empty. -/
structure Named (workspaceId : String) (tables : Tables τ) : Prop where
  agents : ∀ agentId row, tables.bounds.get? (workspaceId, agentId) = some row → agentId ≠ ""
  rules : ∀ ruleId row, tables.rules.get? ruleId = some row → row.workspaceId = workspaceId →
    workspaceId ≠ "" ∧ ruleId ≠ "" ∧ row.name ≠ "" ∧ row.targetAgentId ≠ "" ∧
      row.allowedScopes ≠ [] ∧ row.createdBy ≠ ""

/-- The columns of a database admit the policy of a workspace. -/
structure Fits (target : Backend σ) (workspaceId : String) (source : Tables τ) : Prop where
  workspace : target.admitsText workspaceId = true
  bounds : ∀ agentId row, source.bounds.get? (workspaceId, agentId) = some row →
    target.admitsText agentId = true ∧ row.scopes.all target.admitsText = true ∧
      ∀ seconds ∈ row.maxTtlSeconds, target.admitsInteger (.int seconds) = true
  rules : ∀ ruleId row, source.rules.get? ruleId = some row → row.workspaceId = workspaceId →
    target.admitsText ruleId = true ∧ target.admitsText row.name = true ∧
      target.admitsText row.targetAgentId = true ∧
      row.allowedScopes.all target.admitsText = true ∧
      target.admitsInteger (.int row.maxTtlSeconds) = true
  agents : ∀ agentId required, overrideOf source workspaceId agentId = some required →
    target.admitsText agentId = true

theorem empty_notMem_of_valid
    {scopes : List String}
    (valid : ∀ scope ∈ scopes, Scope.isValidGrantScope scope = true) :
    "" ∉ scopes := by
  intro present
  exact absurd (valid "" present) (by decide)

section Source

variable {backend : Backend τ} {workspaceId : String} {source : Tables τ}

/-- What a service stored of a workspace can be written and read. -/
theorem readable_of_stored
    (deployed : Deployed backend)
    (stored : Stored backend source)
    (named : Named workspaceId source) :
    Readable workspaceId source where
  bounds := by
    intro agentId row found
    have held := stored.bounds _ row found
    refine ⟨named.agents agentId row found, held.issuable.listed,
      empty_notMem_of_valid held.issuable.valid, ?_⟩
    intro seconds isCap
    exact ⟨(held.issuable.cap seconds isCap).1,
      deployed.le_of_admitsInteger (held.cap seconds isCap)⟩
  rules := by
    intro ruleId row found mine
    have held := stored.rules ruleId row found
    obtain ⟨-, identified, isNamed, targeted, listed, -⟩ := named.rules ruleId row found mine
    exact ⟨identified, isNamed, targeted, listed, empty_notMem_of_valid held.valid, held.positive,
      deployed.le_of_admitsInteger held.lifetime⟩

/-- A database admits what it stored. -/
theorem fits_of_stored
    (stored : Stored backend source)
    (admitted : backend.admitsText workspaceId = true) :
    Fits backend workspaceId source where
  workspace := admitted
  bounds := by
    intro agentId row found
    have held := stored.bounds _ row found
    exact ⟨held.agentId, held.scopes, held.cap⟩
  rules := by
    intro ruleId row found mine
    have held := stored.rules ruleId row found
    exact ⟨held.ruleId, held.name, held.targetAgentId, held.allowedScopes, held.lifetime⟩
  agents := by
    intro agentId required overridden
    cases found : source.settings.get? (workspaceId, agentId) with
    | none =>
        rw [overrideOf, found] at overridden
        cases overridden
    | some row => exact stored.settings _ row found

end Source

/-! ## Writes -/

/-- What an application needs of the tables it writes: no cap where the export has none,
and every rule either held by the workspace or held by no one. -/
structure Receives
    (target : Backend σ)
    (workspaceId appliedBy : String)
    (source : Tables τ)
    (before : Tables σ) : Prop where
  fits : Fits target workspaceId source
  caps : ∀ agentId row, source.bounds.get? (workspaceId, agentId) = some row →
    row.maxTtlSeconds = none →
    (before.bounds.get? (workspaceId, agentId)).bind (·.maxTtlSeconds) = none
  updated : ∀ ruleId row existing, source.rules.get? ruleId = some row →
    row.workspaceId = workspaceId → before.rules.get? ruleId = some existing →
    existing.workspaceId = workspaceId ∧ existing.createdBy ≠ "" ∧
      target.admitsText existing.createdBy = true
  created : ∀ ruleId row, source.rules.get? ruleId = some row →
    row.workspaceId = workspaceId → before.rules.get? ruleId = none → appliedBy ≠ ""

section Writes

variable {backend : Backend τ} {target : Backend σ} {workspaceId appliedBy : String}
  {source : Tables τ} {before : Tables σ}

theorem boundsOf_set
    (tables : Tables σ)
    (agentId other : String)
    (row : BoundsRow σ) :
    boundsOf { tables with bounds := tables.bounds.set (workspaceId, agentId) row } workspaceId
        other =
      if other = agentId then some (row.scopes, row.maxTtlSeconds)
      else boundsOf tables workspaceId other := by
  rw [boundsOf, Dict.get?_set]
  by_cases same : other = agentId
  · rw [if_pos (by rw [same]), if_pos same]
    rfl
  · rw [if_neg (fun isKey => same (Prod.mk.inj isKey).2), if_neg same]
    rfl

/-- What is exported under a key that is listed. -/
def listedAt (listed : List String) (exported : String → Option α) (key : String) : Option α :=
  if key ∈ listed then exported key else none

theorem listedAt_concat
    (listed : List String)
    (last : String)
    (exported : String → Option α)
    (key : String) :
    listedAt (listed ++ [last]) exported key =
      if key = last then exported key else listedAt listed exported key := by
  unfold listedAt
  by_cases isLast : key = last
  · rw [if_pos (List.mem_append_right _ (List.mem_singleton.mpr isLast)), if_pos isLast]
  · have earlier : key ∈ listed ++ [last] ↔ key ∈ listed := by
      rw [List.mem_append, List.mem_singleton, or_iff_left isLast]
    rw [if_neg isLast]
    exact if_congr earlier rfl rfl

/-- One exported entry is written over what is stored of its agent. -/
theorem applyBounds_boundsRead
    (stored : Stored backend source)
    (fits : Fits target workspaceId source)
    (now : σ)
    {agentId : String}
    {row : BoundsRow τ}
    (found : source.bounds.get? (workspaceId, agentId) = some row)
    (tables : Tables σ) :
    applyBounds target workspaceId now tables (boundsRead ((workspaceId, agentId), row)) =
      .ok { tables with
        bounds := tables.bounds.set (workspaceId, agentId)
          { scopes := row.scopes
            maxTtlSeconds := row.maxTtlSeconds.or
              ((tables.bounds.get? (workspaceId, agentId)).bind (·.maxTtlSeconds))
            updatedAt := now } } := by
  obtain ⟨agentAdmitted, scopesAdmitted, capAdmitted⟩ := fits.bounds agentId row found
  have valid := validateIssuableScopeBounds_eq_ok.mpr (stored.bounds _ row found).issuable
  have uncleared : (row.maxTtlSeconds.isSome && row.maxTtlSeconds.isNone) = false := by
    cases row.maxTtlSeconds <;> rfl
  have capFits : row.maxTtlSeconds.all (fun cap => target.admitsInteger (.int cap)) = true := by
    cases isCap : row.maxTtlSeconds with
    | none => rfl
    | some seconds => exact capAdmitted seconds isCap
  simp only [applyBounds, setBounds, boundsRead, valid, uncleared, Grants.validateClearMaxTtl,
    Bool.false_and, Except.mapError, ok_bind, ensure, fits.workspace, agentAdmitted,
    scopesAdmitted, capFits, and_self, if_true, Bool.false_eq_true, if_false]
  rfl

/-- The cap that is written is the exported one: none is preserved where none is exported. -/
theorem cap_applyBounds
    (receives : Receives target workspaceId appliedBy source before)
    {listed : List ParsedBounds}
    {agentId : String}
    {row : BoundsRow τ}
    (found : source.bounds.get? (workspaceId, agentId) = some row)
    {tables : Tables σ}
    (held : boundsOf tables workspaceId agentId =
      (listedAt (listed.map (·.agentId)) (boundsOf source workspaceId) agentId).or
        (boundsOf before workspaceId agentId)) :
    row.maxTtlSeconds.or
        ((tables.bounds.get? (workspaceId, agentId)).bind (·.maxTtlSeconds)) =
      row.maxTtlSeconds := by
  cases cap : row.maxTtlSeconds with
  | some seconds => rfl
  | none =>
      rw [Option.none_or]
      have exported : boundsOf source workspaceId agentId = some (row.scopes, none) := by
        rw [boundsOf, found, Option.map_some, cap]
      have capOf : ∀ tables : Tables σ,
          (tables.bounds.get? (workspaceId, agentId)).bind (·.maxTtlSeconds) =
            (boundsOf tables workspaceId agentId).bind Prod.snd := by
        intro tables
        rw [boundsOf]
        cases tables.bounds.get? (workspaceId, agentId) <;> rfl
      rw [capOf, held, listedAt, exported]
      split
      · rfl
      · rw [Option.none_or, ← capOf]
        exact receives.caps agentId row found cap

/-- The tables once the listed bounds are written. -/
structure BoundsWritten
    (workspaceId : String)
    (source : Tables τ)
    (before : Tables σ)
    (listed : List ParsedBounds)
    (tables : Tables σ) : Prop where
  bounds : ∀ agentId, boundsOf tables workspaceId agentId =
    (listedAt (listed.map (·.agentId)) (boundsOf source workspaceId) agentId).or
      (boundsOf before workspaceId agentId)
  rules : tables.rules = before.rules
  settings : tables.settings = before.settings

/-- Writing one more entry. -/
theorem BoundsWritten.write
    (stored : Stored backend source)
    (receives : Receives target workspaceId appliedBy source before)
    (now : σ)
    {listed : List ParsedBounds}
    {parsed : ParsedBounds}
    (present : parsed ∈ (ofWorkspace backend workspaceId source.bounds).map boundsRead)
    {tables : Tables σ}
    (written : BoundsWritten workspaceId source before listed tables) :
    ∃ after, applyBounds target workspaceId now tables parsed = .ok after ∧
      BoundsWritten workspaceId source before (listed ++ [parsed]) after := by
  obtain ⟨⟨⟨workspace, agentId⟩, row⟩, isEntry, rfl⟩ := List.mem_map.mp present
  obtain ⟨entry, mine⟩ := mem_ofWorkspace.mp isEntry
  obtain rfl : workspace = workspaceId := mine
  have found := (Dict.get?_eq_some_iff _ _ _).mpr entry
  refine ⟨_, applyBounds_boundsRead stored receives.fits now found tables, ?_, written.rules,
    written.settings⟩
  intro other
  rw [boundsOf_set, List.map_append, List.map_singleton, listedAt_concat]
  change _ = Option.or (if other = agentId then _ else _) _
  by_cases same : other = agentId
  · rw [if_pos same, if_pos same, same, cap_applyBounds receives found (written.bounds agentId)]
    rw [show boundsOf source workspace agentId = some (row.scopes, row.maxTtlSeconds) by
      rw [boundsOf, found, Option.map_some], Option.some_or]
  · rw [if_neg same, if_neg same]
    exact written.bounds other

/-- The bounds are written one agent after the other. -/
theorem exists_applyBounds
    (stored : Stored backend source)
    (receives : Receives target workspaceId appliedBy source before)
    (now : σ) :
    ∃ bounded,
      ((ofWorkspace backend workspaceId source.bounds).map boundsRead).foldlM
        (applyBounds target workspaceId now) before = .ok bounded ∧
      (∀ agentId, boundsOf bounded workspaceId agentId =
        (boundsOf source workspaceId agentId).or (boundsOf before workspaceId agentId)) ∧
      bounded.rules = before.rules ∧ bounded.settings = before.settings := by
  have starts : BoundsWritten workspaceId source before [] before := ⟨fun _ => rfl, rfl, rfl⟩
  have steps : ∀ listed parsed rest tables,
      (ofWorkspace backend workspaceId source.bounds).map boundsRead = listed ++ parsed :: rest →
      BoundsWritten workspaceId source before listed tables →
      ∃ after, applyBounds target workspaceId now tables parsed = .ok after ∧
        BoundsWritten workspaceId source before (listed ++ [parsed]) after := by
    intro listed parsed rest tables isList held
    apply held.write stored receives now
    rw [isList]
    exact List.mem_append_right listed List.mem_cons_self
  obtain ⟨bounded, folds, written⟩ := foldlM_establishes _ steps starts
  refine ⟨bounded, folds, ?_, written.rules, written.settings⟩
  intro agentId
  rw [written.bounds, listedAt]
  split
  · rfl
  · next unlisted =>
      cases found : source.bounds.get? (workspaceId, agentId) with
      | none =>
          have absent : boundsOf source workspaceId agentId = none := by
            rw [boundsOf, found, Option.map_none]
          rw [absent]
      | some row =>
          refine absurd (List.mem_map.mpr ⟨boundsRead ((workspaceId, agentId), row), ?_, rfl⟩)
            unlisted
          exact List.mem_map.mpr ⟨_, mem_ofWorkspace.mpr
            ⟨(Dict.get?_eq_some_iff _ _ _).mp found, rfl⟩, rfl⟩

/-- A valid rule that no one else holds is upserted. -/
theorem exists_upsertAutoApprovalRule
    {ruleId : String}
    {row : RuleRow σ}
    {tables : Tables σ}
    (valid : ValidRule (row.untimed ruleId))
    (admitted : row.admitted target ruleId = true)
    (held : ∀ existing, tables.rules.get? ruleId = some existing →
      existing.workspaceId = row.workspaceId) :
    ∃ action, upsertAutoApprovalRule target ruleId row tables =
      .ok (action, { tables with rules := tables.rules.set ruleId row }) := by
  have validates := validateRule_eq_ok.mpr valid
  cases found : tables.rules.get? ruleId with
  | none =>
      refine ⟨.created, ?_⟩
      simp only [upsertAutoApprovalRule, validates, Except.mapError, ok_bind, found, addRule,
        ensure, if_true, admitted]
      rfl
  | some existing =>
      refine ⟨.updated, ?_⟩
      simp only [upsertAutoApprovalRule, validates, Except.mapError, ok_bind, found, updateRule,
        ensure, if_true, admitted, held existing found, ne_eq, reduceCtorEq, not_false_eq_true]
      rfl

/-- The row that an exported rule is written as. -/
def preparedRow
    (workspaceId appliedBy : String)
    (now : σ)
    (existing : Option (RuleRow σ))
    (row : RuleRow τ) : RuleRow σ where
  workspaceId
  name := row.name
  targetAgentId := row.targetAgentId
  allowedScopes := row.allowedScopes
  maxTtlSeconds := row.maxTtlSeconds
  status := row.status
  createdBy := (existing.map (·.createdBy)).getD appliedBy
  createdAt := (existing.map (·.createdAt)).getD now
  updatedBy := existing.map fun _ => appliedBy
  updatedAt := existing.map fun _ => now

/-- A rule under its identifier, as it is written over what the tables hold. -/
def preparedRule
    (workspaceId appliedBy : String)
    (now : σ)
    (before : Tables σ)
    (rule : String × RuleRow τ) : String × RuleRow σ :=
  (rule.1, preparedRow workspaceId appliedBy now (before.rules.get? rule.1) rule.2)

theorem prepareRule_ruleRead
    (stableRuleId : StableRuleId)
    (now : σ)
    {rule : String × RuleRow τ}
    (valid : ∀ scope ∈ rule.2.allowedScopes, Scope.isValidGrantScope scope = true) :
    prepareRule stableRuleId workspaceId appliedBy now before (ruleRead rule) =
      .ok (preparedRule workspaceId appliedBy now before rule) := by
  have checked : (rule.2.allowedScopes.forM fun scope =>
      ensure (Scope.isValidGrantScope scope = true)
        (PolicyError.value ("invalid allowed scope: " ++ scope))) = .ok ⟨⟩ := by
    rw [forM_eq_ok_iff]
    exact fun scope present => ensure_eq_ok.mpr (valid scope present)
  rw [prepareRule, show (ruleRead rule).allowedScopes = rule.2.allowedScopes from rfl, checked]
  rfl

/-- Every exported rule is prepared. -/
theorem mapM_prepareRule
    (stored : Stored backend source)
    (stableRuleId : StableRuleId)
    (now : σ) :
    ((listRulesForWorkspace backend workspaceId source).map ruleRead).mapM
        (prepareRule stableRuleId workspaceId appliedBy now before) =
      .ok ((listRulesForWorkspace backend workspaceId source).map
        (preparedRule workspaceId appliedBy now before)) := by
  rw [List.mapM_map]
  apply mapM_eq_ok
  intro rule present
  exact prepareRule_ruleRead stableRuleId now
    (stored.rules rule.1 rule.2 (mem_listRulesForWorkspace.mp present).1).valid

section Rule

variable {ruleId : String} {row : RuleRow τ}

/-- A prepared rule passes the validation of the service. -/
theorem validRule_preparedRow
    (stored : Stored backend source)
    (named : Named workspaceId source)
    (receives : Receives target workspaceId appliedBy source before)
    (now : σ)
    (found : source.rules.get? ruleId = some row)
    (mine : row.workspaceId = workspaceId) :
    ValidRule ((preparedRow workspaceId appliedBy now (before.rules.get? ruleId) row).untimed
      ruleId) := by
  obtain ⟨workspace, identified, isNamed, targeted, listed, -⟩ := named.rules ruleId row found mine
  have held := stored.rules ruleId row found
  refine ⟨workspace, identified, isNamed, targeted, held.positive, listed, held.valid, ?_⟩
  cases existing : before.rules.get? ruleId with
  | none => exact receives.created ruleId row found mine existing
  | some held => exact (receives.updated ruleId row held found mine existing).2.1

/-- Its database admits it. -/
theorem admitted_preparedRow
    (receives : Receives target workspaceId appliedBy source before)
    (admitted : target.admitsText appliedBy = true)
    (now : σ)
    (found : source.rules.get? ruleId = some row)
    (mine : row.workspaceId = workspaceId) :
    (preparedRow workspaceId appliedBy now (before.rules.get? ruleId) row).admitted target
      ruleId = true := by
  obtain ⟨identifier, name, targetAgent, scopes, lifetime⟩ :=
    receives.fits.rules ruleId row found mine
  have workspace := receives.fits.workspace
  cases existing : before.rules.get? ruleId with
  | none =>
      simp only [RuleRow.admitted, preparedRow, identifier, workspace, name, targetAgent, scopes,
        lifetime, Option.map_none, Option.getD_none, admitted, Option.all_none, Bool.and_self]
  | some held =>
      have creator := (receives.updated ruleId row held found mine existing).2.2
      simp only [RuleRow.admitted, preparedRow, identifier, workspace, name, targetAgent, scopes,
        lifetime, Option.map_some, Option.getD_some, creator, admitted, Option.all_some,
        Bool.and_self]

/-- A rule that the workspace holds, or no one, is upserted. -/
theorem exists_applyRule
    (stored : Stored backend source)
    (named : Named workspaceId source)
    (receives : Receives target workspaceId appliedBy source before)
    (admitted : target.admitsText appliedBy = true)
    (now : σ)
    (found : source.rules.get? ruleId = some row)
    (mine : row.workspaceId = workspaceId)
    (counts : Nat × Nat)
    {tables : Tables σ}
    (held : ∀ existing, tables.rules.get? ruleId = some existing →
      existing.workspaceId = workspaceId) :
    ∃ countsAfter,
      applyRule target (counts, tables)
          (preparedRule workspaceId appliedBy now before (ruleId, row)) =
        .ok (countsAfter, { tables with
          rules := tables.rules.set ruleId
            (preparedRow workspaceId appliedBy now (before.rules.get? ruleId) row) }) := by
  obtain ⟨action, upserts⟩ := exists_upsertAutoApprovalRule
    (validRule_preparedRow stored named receives now found mine)
    (admitted_preparedRow receives admitted now found mine) held
  cases action with
  | created =>
      refine ⟨(counts.1 + 1, counts.2), ?_⟩
      rw [applyRule, preparedRule, upserts]
      rfl
  | updated =>
      refine ⟨(counts.1, counts.2 + 1), ?_⟩
      rw [applyRule, preparedRule, upserts]
      rfl

end Rule

/-- The prepared row of an exported rule. -/
def preparedOf
    (workspaceId appliedBy : String)
    (now : σ)
    (source : Tables τ)
    (before : Tables σ)
    (ruleId : String) : Option (RuleRow σ) :=
  (source.rules.get? ruleId).map
    (preparedRow workspaceId appliedBy now (before.rules.get? ruleId))

/-- The tables once the listed rules are written. -/
structure RulesWritten
    (workspaceId appliedBy : String)
    (now : σ)
    (source : Tables τ)
    (before bounded : Tables σ)
    (listed : List (String × RuleRow σ))
    (state : (Nat × Nat) × Tables σ) : Prop where
  rules : ∀ ruleId, state.2.rules.get? ruleId =
    (listedAt (listed.map Prod.fst) (preparedOf workspaceId appliedBy now source before)
      ruleId).or (before.rules.get? ruleId)
  bounds : state.2.bounds = bounded.bounds
  settings : state.2.settings = bounded.settings

/-- Writing one more rule. -/
theorem RulesWritten.write
    (stored : Stored backend source)
    (named : Named workspaceId source)
    (receives : Receives target workspaceId appliedBy source before)
    (admitted : target.admitsText appliedBy = true)
    (now : σ)
    {bounded : Tables σ}
    {listed : List (String × RuleRow σ)}
    {prepared : String × RuleRow σ}
    (present : prepared ∈ (listRulesForWorkspace backend workspaceId source).map
      (preparedRule workspaceId appliedBy now before))
    {state : (Nat × Nat) × Tables σ}
    (written : RulesWritten workspaceId appliedBy now source before bounded listed state) :
    ∃ after, applyRule target state prepared = .ok after ∧
      RulesWritten workspaceId appliedBy now source before bounded (listed ++ [prepared]) after := by
  obtain ⟨⟨ruleId, row⟩, isRule, rfl⟩ := List.mem_map.mp present
  obtain ⟨found, mine⟩ := mem_listRulesForWorkspace.mp isRule
  have held : ∀ existing, state.2.rules.get? ruleId = some existing →
      existing.workspaceId = workspaceId := by
    intro existing isExisting
    rw [written.rules] at isExisting
    rcases Option.or_eq_some_iff.mp isExisting with isListed | ⟨-, kept⟩
    · rw [listedAt, preparedOf] at isListed
      split at isListed
      · obtain ⟨_, _, rfl⟩ := Option.map_eq_some_iff.mp isListed
        rfl
      · cases isListed
    · exact (receives.updated ruleId row existing found mine kept).1
  obtain ⟨counts, applies⟩ :=
    exists_applyRule stored named receives admitted now found mine state.1 held
  refine ⟨_, applies, ?_, written.bounds, written.settings⟩
  intro other
  rw [List.map_append, List.map_singleton, listedAt_concat, Dict.get?_set]
  change _ = Option.or (if other = ruleId then _ else _) _
  by_cases same : other = ruleId
  · rw [if_pos same, if_pos same, same, preparedOf, found, Option.map_some, Option.some_or]
  · rw [if_neg same, if_neg same]
    exact written.rules other

/-- A prepared rule has the fields of the exported one. -/
theorem ruleFields_preparedRow
    (now : σ)
    (existing : Option (RuleRow σ))
    (row : RuleRow τ) :
    ruleFields (preparedRow workspaceId appliedBy now existing row) = ruleFields row := rfl

/-- The rules are written one after the other. -/
theorem exists_applyRules
    (stored : Stored backend source)
    (named : Named workspaceId source)
    (receives : Receives target workspaceId appliedBy source before)
    (admitted : target.admitsText appliedBy = true)
    (now : σ)
    {bounded : Tables σ}
    (rules : bounded.rules = before.rules) :
    ∃ counts ruled,
      ((listRulesForWorkspace backend workspaceId source).map
        (preparedRule workspaceId appliedBy now before)).foldlM (applyRule target)
          ((0, 0), bounded) = .ok (counts, ruled) ∧
      (∀ ruleId, ruleOf ruled workspaceId ruleId =
        (ruleOf source workspaceId ruleId).or (ruleOf before workspaceId ruleId)) ∧
      ruled.bounds = bounded.bounds ∧ ruled.settings = bounded.settings := by
  have starts : RulesWritten workspaceId appliedBy now source before bounded []
      ((0, 0), bounded) := ⟨fun ruleId => by rw [rules]; rfl, rfl, rfl⟩
  have steps : ∀ listed prepared rest state,
      (listRulesForWorkspace backend workspaceId source).map
        (preparedRule workspaceId appliedBy now before) = listed ++ prepared :: rest →
      RulesWritten workspaceId appliedBy now source before bounded listed state →
      ∃ after, applyRule target state prepared = .ok after ∧
        RulesWritten workspaceId appliedBy now source before bounded (listed ++ [prepared])
          after := by
    intro listed prepared rest state isList held
    apply held.write stored named receives admitted now
    rw [isList]
    exact List.mem_append_right listed List.mem_cons_self
  obtain ⟨⟨counts, ruled⟩, folds, written⟩ := foldlM_establishes _ steps starts
  refine ⟨counts, ruled, folds, ?_, written.bounds, written.settings⟩
  intro ruleId
  have isListed : ruleId ∈ ((listRulesForWorkspace backend workspaceId source).map
      (preparedRule workspaceId appliedBy now before)).map Prod.fst ↔
        ∃ row, source.rules.get? ruleId = some row ∧ row.workspaceId = workspaceId := by
    rw [List.map_map, List.mem_map]
    constructor
    · rintro ⟨⟨other, row⟩, present, rfl⟩
      exact ⟨row, mem_listRulesForWorkspace.mp present⟩
    · rintro ⟨row, found, mine⟩
      exact ⟨(ruleId, row), mem_listRulesForWorkspace.mpr ⟨found, mine⟩, rfl⟩
  have written := written.rules ruleId
  change ruled.rules.get? ruleId = _ at written
  rw [ruleOf, written, listedAt, preparedOf]
  by_cases present : ∃ row, source.rules.get? ruleId = some row ∧ row.workspaceId = workspaceId
  · obtain ⟨row, found, mine⟩ := present
    have exported : ruleOf source workspaceId ruleId = some (ruleFields row) := by
      rw [ruleOf, found, Option.filter_some, if_pos (decide_eq_true mine), Option.map_some]
    have ours : (preparedRow workspaceId appliedBy now (before.rules.get? ruleId)
        row).workspaceId = workspaceId := rfl
    rw [if_pos (isListed.mpr ⟨row, found, mine⟩), found, exported, Option.map_some,
      Option.some_or, Option.some_or, Option.filter_some, if_pos (decide_eq_true ours),
      Option.map_some, ruleFields_preparedRow]
  · have exported : ruleOf source workspaceId ruleId = none := by
      rw [ruleOf, Option.map_eq_none_iff, Option.filter_eq_none_iff]
      intro row found mine
      exact present ⟨row, found, of_decide_eq_true mine⟩
    rw [if_neg (isListed.not.mpr present), exported, Option.none_or, Option.none_or, ruleOf]

/-! ## Mandates -/

theorem overrideOf_of_workspaceOverride
    {required : Bool}
    (overridden : workspaceOverride (boundaryOverrides backend source workspaceId) =
      some required) :
    overrideOf source workspaceId "" = some required := by
  obtain ⟨override, isLast, rfl⟩ := Option.map_eq_some_iff.mp overridden
  have listed := List.mem_filter.mp (List.mem_of_getLast? isLast)
  have isSetting := (mem_boundaryOverrides source workspaceId override).mp listed.1
  rw [of_decide_eq_true listed.2] at isSetting
  exact isSetting

theorem overrideOf_of_mem_demandedAgents
    {agentId : String}
    (demanded : agentId ∈ demandedAgents (boundaryOverrides backend source workspaceId)) :
    overrideOf source workspaceId agentId = some true := by
  rw [demandedAgents, List.mem_insertionSort] at demanded
  obtain ⟨override, kept, rfl⟩ := List.mem_map.mp demanded
  obtain ⟨listed, chosen⟩ := List.mem_filter.mp kept
  have isSetting := (mem_boundaryOverrides source workspaceId override).mp listed
  rw [(of_decide_eq_true chosen).2] at isSetting
  exact isSetting

theorem upsertSetting_of_admitted
    {agentId : String}
    (workspaceAdmitted : target.admitsText workspaceId = true)
    (agentAdmitted : target.admitsText agentId = true)
    (now : σ)
    (write : SettingsRow σ → SettingsRow σ)
    (tables : Tables σ) :
    tables.upsertSetting target workspaceId agentId now write =
      .ok { tables with
        settings := tables.settings.set (workspaceId, agentId)
          (write ((tables.settings.get? (workspaceId, agentId)).getD (.fresh target now))) } := by
  simp only [Tables.upsertSetting, ensure, workspaceAdmitted, agentAdmitted, and_self, if_true,
    ok_bind]
  rfl

/-- Each override is what it was or what is exported. -/
def OverridesFrom
    (workspaceId : String)
    (source : Tables τ)
    (before tables : Tables σ) : Prop :=
  ∀ agentId, overrideOf tables workspaceId agentId = overrideOf before workspaceId agentId ∨
    overrideOf tables workspaceId agentId = overrideOf source workspaceId agentId

/-- An exported override is written. -/
theorem OverridesFrom.setRequireBoundary
    (fits : Fits target workspaceId source)
    (now : σ)
    {agentId : String}
    {required : Bool}
    (exported : overrideOf source workspaceId agentId = some required)
    {ruled tables : Tables σ}
    (overrides : OverridesFrom workspaceId source ruled tables) :
    ∃ after, setRequireBoundary target workspaceId agentId required now tables = .ok after ∧
      after.bounds = tables.bounds ∧ after.rules = tables.rules ∧
      OverridesFrom workspaceId source ruled after := by
  have sets := upsertSetting_of_admitted fits.workspace (fits.agents agentId required exported)
    now (fun row => { row with
      requireBoundary := required, requireBoundarySet := true, updatedAt := now }) tables
  refine ⟨_, sets, rfl, rfl, ?_⟩
  intro other
  by_cases same : other = agentId
  · refine .inr ?_
    rw [same, exported, overrideOf, Dict.get?_set_self, Mandate.setting_some]
    rfl
  · have different : (workspaceId, other) ≠ (workspaceId, agentId) :=
      fun isKey => same (Prod.mk.inj isKey).2
    rw [overrideOf, Dict.get?_set_of_ne _ _ different]
    exact overrides other

/-- The mandates of the agents are written one after the other. -/
theorem exists_setRequireBoundaries
    (fits : Fits target workspaceId source)
    (now : σ)
    {ruled tables : Tables σ}
    (overrides : OverridesFrom workspaceId source ruled tables) :
    ∃ after,
      (demandedAgents (boundaryOverrides backend source workspaceId)).foldlM
        (fun tables agentId => setRequireBoundary target workspaceId agentId true now tables)
          tables = .ok after ∧
      after.bounds = tables.bounds ∧ after.rules = tables.rules ∧
      OverridesFrom workspaceId source ruled after := by
  obtain ⟨after, folds, bounds, rules, written⟩ := foldlM_establishes
    (fun _ (state : Tables σ) => state.bounds = tables.bounds ∧ state.rules = tables.rules ∧
      OverridesFrom workspaceId source ruled state)
    (fun done agentId rest state isList held => by
      obtain ⟨bounds, rules, overridesHeld⟩ := held
      obtain ⟨next, sets, nextBounds, nextRules, nextOverrides⟩ :=
        overridesHeld.setRequireBoundary fits now
          (overrideOf_of_mem_demandedAgents (isList ▸
            List.mem_append_right done List.mem_cons_self))
      exact ⟨next, sets, nextBounds.trans bounds, nextRules.trans rules, nextOverrides⟩)
    ⟨rfl, rfl, overrides⟩
  exact ⟨after, folds, bounds, rules, written⟩

/-- So is the mandate of the workspace, where it is exported. -/
theorem exists_applyWorkspaceMandate
    (fits : Fits target workspaceId source)
    (now : σ)
    (ruled : Tables σ) :
    ∃ after,
      applyWorkspaceMandate target workspaceId
        (workspaceOverride (boundaryOverrides backend source workspaceId)) now ruled =
          .ok after ∧
      after.bounds = ruled.bounds ∧ after.rules = ruled.rules ∧
      OverridesFrom workspaceId source ruled after := by
  have starts : OverridesFrom workspaceId source ruled ruled := fun _ => .inl rfl
  cases exported : workspaceOverride (boundaryOverrides backend source workspaceId) with
  | none => exact ⟨ruled, rfl, rfl, rfl, starts⟩
  | some required =>
      exact starts.setRequireBoundary fits now (overrideOf_of_workspaceOverride exported)

end Writes

end PolicyFiles
end Vinctor
