import Vinctor.Foundation.Datetime
import Vinctor.Service.PolicyRestoration

/-!
# What a rollback touches, and how the two databases differ

A restore deletes a settings row when neither of the other two mandates has the
value true.  It does not ask whether one of them is set: an agent that was
explicitly exempted loses its exemption with the row, and a workspace that demands
the mandate then binds it.  Otherwise a rollback touches nothing outside of what a
version records.

The two databases part on the same rows: SQLite spares the rows of the agents that
the snapshot saves, Postgres deletes and inserts them.
-/

namespace Vinctor
namespace Policy

open Foundation
open Fallible

/-! ## The frame of a rollback -/

/-- What a rollback in a workspace must leave: the other two mandates of every
agent, and the whole policy of every other workspace. -/
structure Untouched
    (backend : Backend τ)
    (workspaceId : String)
    (before after : Tables τ) : Prop where
  subjectTokens : ∀ workspace agentId,
    isSubjectTokenRequired after workspace agentId =
      isSubjectTokenRequired before workspace agentId
  pops : ∀ workspace agentId,
    isPopRequired after workspace agentId = isPopRequired before workspace agentId
  elsewhere : ∀ other, other ≠ workspaceId → SamePolicy backend other after before

/-- An explicit exemption from a mandate: the row sets it to false while the
workspace demands it. -/
def Exempts (mandate : Mandate) (workspace : Option (SettingsRow τ)) (row : SettingsRow τ) : Prop :=
  mandate.setting (some row) = some false ∧ mandate.setting workspace = some true

instance (mandate : Mandate) (workspace : Option (SettingsRow τ)) (row : SettingsRow τ) :
    Decidable (Exempts mandate workspace row) :=
  inferInstanceAs (Decidable (_ ∧ _))

/-- No row that a restore removes carries an exemption. -/
def KeepsExemptions
    (backend : Backend τ)
    (workspaceId : String)
    (snapshot : PolicySnapshot)
    (tables : Tables τ) : Prop :=
  ∀ agentId row, tables.settings.get? (workspaceId, agentId) = some row →
    Removes backend snapshot agentId row →
    ¬Exempts .subjectToken (tables.settings.get? (workspaceId, "")) row ∧
      ¬Exempts .pop (tables.settings.get? (workspaceId, "")) row

variable {τ : Type}

section Frame

variable {backend : Backend τ} {workspaceId : String} {snapshot : PolicySnapshot} {now : τ}
  {before after : Tables τ}

theorem Mandate.setting_of_removes
    {mandate : Mandate}
    {row : SettingsRow τ}
    {required : Bool}
    (unrequired : mandate.value row = false)
    (setting : mandate.setting (some row) = some required) :
    required = false := by
  rw [mandate.setting_some] at setting
  split at setting
  · exact (Option.some.inj setting).symm.trans unrequired
  · cases setting

/-- A removed workspace row demanded nothing, so its removal is not noticed by
the agents that inherit. -/
theorem getD_setting_filter_removes
    {mandate : Mandate}
    {agentId : String}
    (unrequired : ∀ row : SettingsRow τ, Removes backend snapshot agentId row →
      mandate.value row = false)
    (row : Option (SettingsRow τ)) :
    (mandate.setting (row.filter fun row => ¬Removes backend snapshot agentId row)).getD false =
      (mandate.setting row).getD false := by
  cases row with
  | none => rfl
  | some row =>
      by_cases removes : Removes backend snapshot agentId row
      · have kept : (some row).filter (fun row => ¬Removes backend snapshot agentId row) =
            none := by simp [removes]
        rw [kept]
        cases setting : mandate.setting (some row) with
        | none => rfl
        | some required =>
            rw [Mandate.setting_of_removes (unrequired row removes) setting]
            rfl
      · rw [Option.filter_some, if_pos (by simpa using removes)]

/-- A mandate that a restore does not write, from what was stored before. -/
theorem isRequired_restoreSnapshot
    (restores : restoreSnapshot backend workspaceId snapshot now before = .ok after)
    {mandate : Mandate}
    (spared : mandate.Spared (τ := τ))
    (unrequired : ∀ agentId (row : SettingsRow τ), Removes backend snapshot agentId row →
      mandate.value row = false)
    (agentId : String) :
    after.isRequired mandate false workspaceId agentId =
      (mandate.setting ((before.settings.get? (workspaceId, agentId)).filter fun row =>
        ¬Removes backend snapshot agentId row)).getD
        ((mandate.setting (before.settings.get? (workspaceId, ""))).getD false) := by
  rw [Tables.isRequired, Mandate.resolve, setting_restoreSnapshot restores spared,
    setting_restoreSnapshot restores spared, getD_setting_filter_removes (unrequired "")]

/-- A row that demands nothing is missed exactly when it exempts its agent. -/
theorem Mandate.getD_setting_eq_iff
    {mandate : Mandate}
    {row : SettingsRow τ}
    (unrequired : mandate.value row = false)
    (workspace : Option (SettingsRow τ)) :
    (mandate.setting (some row)).getD ((mandate.setting workspace).getD false) =
        (mandate.setting workspace).getD false ↔
      ¬Exempts mandate workspace row := by
  unfold Exempts
  cases setting : mandate.setting (some row) with
  | none => simp
  | some required =>
      rw [Mandate.setting_of_removes unrequired setting]
      cases mandate.setting workspace with
      | none => simp
      | some demanded => cases demanded <;> simp

/-- A restore keeps a mandate that it does not write, for an agent of the
workspace, unless it removes a row that exempts the agent. -/
theorem isRequired_restoreSnapshot_iff
    (restores : restoreSnapshot backend workspaceId snapshot now before = .ok after)
    {mandate : Mandate}
    (spared : mandate.Spared (τ := τ))
    (unrequired : ∀ agentId (row : SettingsRow τ), Removes backend snapshot agentId row →
      mandate.value row = false)
    (agentId : String) :
    after.isRequired mandate false workspaceId agentId =
        before.isRequired mandate false workspaceId agentId ↔
      ∀ row, before.settings.get? (workspaceId, agentId) = some row →
        Removes backend snapshot agentId row →
        ¬Exempts mandate (before.settings.get? (workspaceId, "")) row := by
  rw [isRequired_restoreSnapshot restores spared unrequired, Tables.isRequired, Mandate.resolve]
  cases found : before.settings.get? (workspaceId, agentId) with
  | none =>
      simp only [Option.filter_none, reduceCtorEq, false_implies, implies_true]
  | some row =>
      by_cases removes : Removes backend snapshot agentId row
      · have dropped : (some row).filter (fun row => ¬Removes backend snapshot agentId row) =
            none := by simp [removes]
        simp only [dropped, Option.some.injEq, forall_eq', removes, true_implies]
        exact eq_comm.trans (Mandate.getD_setting_eq_iff (unrequired agentId row removes) _)
      · have kept : (some row).filter (fun row => ¬Removes backend snapshot agentId row) =
            some row := by simp [removes]
        simp only [kept, Option.some.injEq, forall_eq', removes, false_implies]

/-- The policy of another workspace stays as it was. -/
theorem samePolicy_restoreSnapshot_of_ne
    (restores : restoreSnapshot backend workspaceId snapshot now before = .ok after)
    {other : String}
    (elsewhere : other ≠ workspaceId) :
    SamePolicy backend other after before := by
  have settings := get?_settings_restoreSnapshot_of_ne restores elsewhere
  obtain ⟨bounds, rules, insertsBounds, insertsRules, -, isAfter⟩ :=
    restoreSnapshot_eq_ok.mp restores
  refine ⟨?_, ?_, ?_⟩
  · intro agentId
    have kept := (Dict.insertAll_eq_ok insertsBounds).2 (other, agentId) (by
      intro element present row encodes same
      simp only [restoredBound, bind_eq_ok, require_eq_ok, pure_eq_ok] at encodes
      obtain ⟨-, -, time, -, rfl⟩ := encodes
      cases same
      exact elsewhere rfl)
    rw [isAfter, kept, Dict.get?_filter]
    cases before.bounds.get? (other, agentId) with
    | none => rfl
    | some row => simp [elsewhere]
  · intro ruleId
    obtain ⟨inserted, kept⟩ := Dict.insertAll_eq_ok insertsRules
    have cleared : (before.rules.filter fun _ row => row.workspaceId ≠ workspaceId).get? ruleId =
        (before.rules.get? ruleId).filter fun row => row.workspaceId ≠ workspaceId := by
      rw [Dict.get?_filter]
    rw [isAfter]
    by_cases listed : ∃ element ∈ snapshot.autoApprovalRules, ∃ row,
        restoredRule backend workspaceId element = .ok row ∧ row.1 = ruleId
    · obtain ⟨element, present, row, encodes, rfl⟩ := listed
      obtain ⟨stored, storedEncodes, free, found⟩ := inserted element present
      rw [encodes] at storedEncodes
      cases storedEncodes
      have mine : row.2.workspaceId = workspaceId := by
        simp only [restoredRule, bind_eq_ok, require_eq_ok, pure_eq_ok] at encodes
        obtain ⟨-, -, created, -, updated, -, rfl⟩ := encodes
        rfl
      rw [cleared] at free
      rw [found, Option.filter_some, if_neg (by simpa [mine] using elsewhere.symm)]
      cases existing : before.rules.get? row.1 with
      | none => rfl
      | some old =>
          rw [existing, Option.filter_some] at free
          rw [Option.filter_some, if_neg]
          intro isOther
          rw [if_pos (by simpa [of_decide_eq_true isOther] using elsewhere)] at free
          cases free
    · have keptRule := kept ruleId fun element present row encodes same =>
        listed ⟨element, present, row, encodes, same⟩
      rw [keptRule, cleared]
      cases before.rules.get? ruleId with
      | none => rfl
      | some row =>
          by_cases mine : row.workspaceId = workspaceId
          · simp [Option.filter_some, mine, elsewhere.symm]
          · simp [Option.filter_some, mine]
  · intro agentId
    simp only [isBoundaryRequired, Tables.isRequired, settings]

theorem untouched_restoreSnapshot_iff
    (restores : restoreSnapshot backend workspaceId snapshot now before = .ok after) :
    Untouched backend workspaceId before after ↔
      KeepsExemptions backend workspaceId snapshot before := by
  have tokens := isRequired_restoreSnapshot_iff restores Mandate.spared_subjectToken
    fun _ _ removes => removes.1
  have pops := isRequired_restoreSnapshot_iff restores Mandate.spared_pop
    fun _ _ removes => removes.2.1
  constructor
  · intro untouched agentId row found removes
    exact ⟨(tokens agentId).mp (untouched.subjectTokens workspaceId agentId) row found removes,
      (pops agentId).mp (untouched.pops workspaceId agentId) row found removes⟩
  · intro keeps
    have outside : ∀ {mandate : Mandate} {other agentId : String}, other ≠ workspaceId →
        after.isRequired mandate false other agentId =
          before.isRequired mandate false other agentId := by
      intro mandate other agentId elsewhere
      rw [Tables.isRequired, Tables.isRequired,
        get?_settings_restoreSnapshot_of_ne restores elsewhere,
        get?_settings_restoreSnapshot_of_ne restores elsewhere]
    refine ⟨?_, ?_, fun other elsewhere => samePolicy_restoreSnapshot_of_ne restores elsewhere⟩
    · intro other agentId
      by_cases mine : other = workspaceId
      · subst mine
        exact (tokens agentId).mpr fun row found removes => (keeps agentId row found removes).1
      · exact outside mine
    · intro other agentId
      by_cases mine : other = workspaceId
      · subst mine
        exact (pops agentId).mpr fun row found removes => (keeps agentId row found removes).2
      · exact outside mine

end Frame

/-- A rollback touches nothing outside of what its version records exactly when
no row that it removes exempts an agent from a mandate of the workspace. -/
theorem rollback_untouched_iff_keepsExemptions
    (backend : Backend τ)
    {workspaceId : String}
    {version newVersion : Nat}
    {appliedBy : String}
    {now : τ}
    {before after : Tables τ}
    {recorded : PolicyVersionRow τ}
    (found : before.versions.get? (workspaceId, version) = some recorded)
    (rollsBack : rollbackPolicyVersion backend workspaceId version appliedBy now before =
      .ok (newVersion, after)) :
    Untouched backend workspaceId before after ↔
      KeepsExemptions backend workspaceId recorded.snapshot before := by
  obtain ⟨row, restored, rowFound, -, restores, inserts⟩ :=
    rollbackPolicyVersion_eq_ok.mp rollsBack
  rw [found, Option.some.injEq] at rowFound
  subst rowFound
  rw [← untouched_restoreSnapshot_iff restores]
  obtain ⟨-, -, bounds, rules, settings⟩ := insertPolicyVersion_eq_ok inserts
  have same : ∀ other, SamePolicy backend other after restored :=
    fun other => SamePolicy.of_eq bounds rules settings
  have effective : ∀ (mandate : Mandate) (other agentId : String),
      after.isRequired mandate false other agentId =
        restored.isRequired mandate false other agentId := by
    intro mandate other agentId
    rw [Tables.isRequired, Tables.isRequired, settings]
  constructor
  · intro untouched
    refine ⟨fun other agentId => ?_, fun other agentId => ?_, fun other elsewhere => ?_⟩
    · exact (effective .subjectToken other agentId).symm.trans
        (untouched.subjectTokens other agentId)
    · exact (effective .pop other agentId).symm.trans (untouched.pops other agentId)
    · exact (SamePolicy.of_eq bounds.symm rules.symm settings.symm).trans
        (untouched.elsewhere other elsewhere)
  · intro untouched
    refine ⟨fun other agentId => ?_, fun other agentId => ?_, fun other elsewhere => ?_⟩
    · exact (effective .subjectToken other agentId).trans (untouched.subjectTokens other agentId)
    · exact (effective .pop other agentId).trans (untouched.pops other agentId)
    · exact (same other).trans (untouched.elsewhere other elsewhere)

/-- A workspace that demands subject tokens of everyone but one agent, and a
policy applied to it that says nothing about boundaries. -/
def exemptedAgent : List (Operation String) :=
  [.setRequireSubjectToken "ws_main" "" true "2026-07-01T00:00:00+00:00",
    .setRequireSubjectToken "ws_main" "agent_ci" false "2026-07-01T00:00:01+00:00",
    .apply
      { agentBounds := []
        autoApprovalRules := []
        requireBoundaryWorkspace := none
        requireBoundaryAgents := [] }
      "ws_main" "operator" "2026-07-01T00:00:02+00:00"]

/-- The rollback to the version just recorded revokes the exemption. -/
theorem rollback_revokes_exemption :
    ¬∀ operations version newVersion after,
      rollbackPolicyVersion (sqlite true) "ws_main" version "operator"
        "2026-07-01T00:00:03+00:00"
        (run (sqlite true) (fun _ rule => rule.name) .empty operations) = .ok (newVersion, after) →
      Untouched (sqlite true) "ws_main"
        (run (sqlite true) (fun _ rule => rule.name) .empty operations) after := by
  intro untouched
  have revoked : ((rollbackPolicyVersion (sqlite true) "ws_main" 1 "operator"
      "2026-07-01T00:00:03+00:00"
      (run (sqlite true) (fun _ rule => rule.name) .empty exemptedAgent)).toOption.map
        fun result => isSubjectTokenRequired result.2 "ws_main" "agent_ci") = some true := by
    decide +kernel
  cases rollsBack : rollbackPolicyVersion (sqlite true) "ws_main" 1 "operator"
      "2026-07-01T00:00:03+00:00"
      (run (sqlite true) (fun _ rule => rule.name) .empty exemptedAgent) with
  | error error =>
      rw [rollsBack] at revoked
      cases revoked
  | ok result =>
      rw [rollsBack] at revoked
      have kept := (untouched exemptedAgent 1 result.1 result.2 rollsBack).subjectTokens
        "ws_main" "agent_ci"
      have bound : isSubjectTokenRequired result.2 "ws_main" "agent_ci" = true :=
        Option.some.inj revoked
      rw [bound] at kept
      revert kept
      decide +kernel

/-- The same workspace once the agent must also prove possession: its row stays. -/
def exemptedWithPop : Tables String :=
  run (sqlite true) (fun _ rule => rule.name) .empty
    (exemptedAgent ++ [.setRequirePop "ws_main" "agent_ci" true "2026-07-01T00:00:04+00:00"])

theorem rollback_untouched_after_pop :
    ∃ recorded newVersion after,
      exemptedWithPop.versions.get? ("ws_main", 1) = some recorded ∧
      rollbackPolicyVersion (sqlite true) "ws_main" 1 "operator" "2026-07-01T00:00:05+00:00"
        exemptedWithPop = .ok (newVersion, after) ∧
      (Untouched (sqlite true) "ws_main" exemptedWithPop after ↔
        KeepsExemptions (sqlite true) "ws_main" recorded.snapshot exemptedWithPop) := by
  have present : (exemptedWithPop.versions.get? ("ws_main", 1)).isSome = true := by
    decide +kernel
  obtain ⟨recorded, found⟩ := Option.isSome_iff_exists.mp present
  have succeeds : (rollbackPolicyVersion (sqlite true) "ws_main" 1 "operator"
      "2026-07-01T00:00:05+00:00" exemptedWithPop).isOk = true := by
    decide +kernel
  obtain ⟨⟨newVersion, after⟩, rollsBack⟩ := exists_eq_ok_of_isOk succeeds
  exact ⟨recorded, newVersion, after, found, rollsBack,
    rollback_untouched_iff_keepsExemptions (sqlite true) found rollsBack⟩

end Policy
end Vinctor
