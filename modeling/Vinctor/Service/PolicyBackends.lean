import Vinctor.Service.PolicyFrames

/-!
# The two restores compared

The same state is held by a SQLite and by a Postgres database, and both restore
one snapshot.  They accept different texts and numbers; where both accept, they
leave the same bounds, the same rules up to the reading of their times, and the
same mandates except for the saved agents whose row SQLite spares.
-/

namespace Vinctor
namespace Policy

open Foundation
open Fallible

/-! ## Equal states -/

/-- The instant that a time stored as text is read as. -/
def storedInstant (text : String) : Option Instant :=
  (Datetime.fromisoformat text.toList).bind fun datetime =>
    datetime.offset.map fun offset => datetime.wallClock - offset

/-- The values and flags of a settings row, without its time. -/
def SettingsRow.flags (row : SettingsRow τ) : SettingsRow Unit where
  requireBoundary := row.requireBoundary
  requireBoundarySet := row.requireBoundarySet
  requireSubjectToken := row.requireSubjectToken
  requireSubjectTokenSet := row.requireSubjectTokenSet
  requirePop := row.requirePop
  requirePopSet := row.requirePopSet
  updatedAt := ()

/-- The bounds and the rules of two databases are the same. -/
structure SameRows (lite : Tables String) (server : Tables Instant) : Prop where
  bounds : ∀ key,
    (lite.bounds.get? key).map (fun row => (row.scopes, row.maxTtlSeconds)) =
      (server.bounds.get? key).map fun row => (row.scopes, row.maxTtlSeconds)
  rules : ∀ ruleId,
    (lite.rules.get? ruleId).map (·.timed storedInstant) =
      (server.rules.get? ruleId).map (·.timed some)

/-- Two databases hold one state. -/
structure HeldEqually (lite : Tables String) (server : Tables Instant) : Prop
    extends SameRows lite server where
  settings : ∀ key,
    (lite.settings.get? key).map (·.flags) = (server.settings.get? key).map (·.flags)

/-- What the two restores must leave: the same bounds, rules and mandates. -/
structure SameState
    (requireBoundaryDefault : Bool)
    (lite : Tables String)
    (server : Tables Instant) : Prop
    extends SameRows lite server where
  boundaries : ∀ workspaceId agentId,
    lite.isRequired .boundary requireBoundaryDefault workspaceId agentId =
      server.isRequired .boundary requireBoundaryDefault workspaceId agentId
  subjectTokens : ∀ workspaceId agentId,
    isSubjectTokenRequired lite workspaceId agentId =
      isSubjectTokenRequired server workspaceId agentId
  pops : ∀ workspaceId agentId,
    isPopRequired lite workspaceId agentId = isPopRequired server workspaceId agentId

/-- Both restores raise, or both succeed and leave the same state. -/
def RestoresAgree
    (server : Server)
    (requireBoundaryDefault : Bool)
    (workspaceId : String)
    (snapshot : PolicySnapshot)
    (liteNow : String)
    (serverNow : Instant)
    (lite : Tables String)
    (remote : Tables Instant) : Prop :=
  match restoreSnapshot (sqlite requireBoundaryDefault) workspaceId snapshot liteNow lite,
      restoreSnapshot (postgres server requireBoundaryDefault) workspaceId snapshot serverNow
        remote with
  | .ok liteAfter, .ok remoteAfter => SameState requireBoundaryDefault liteAfter remoteAfter
  | .error _, .error _ => True
  | _, _ => False

/-! ## Acceptance -/

/-- The columns of a bound admit what the entry saves. -/
def AcceptsBound (backend : Backend τ) (entry : SnapshotBound) : Prop :=
  (backend.admitsText entry.agentId ∧ entry.scopes.all backend.admitsText ∧
    entry.maxTtlSeconds.all backend.admitsInteger) ∧
  (backend.readTime entry.updatedAt).isSome

/-- The columns of a rule admit what the entry saves. -/
def AcceptsRule (backend : Backend τ) (entry : SnapshotRule) : Prop :=
  (backend.admitsText entry.ruleId ∧ backend.admitsText entry.name ∧
    backend.admitsText entry.targetAgentId ∧ entry.allowedScopes.all backend.admitsText ∧
    backend.admitsInteger entry.maxTtlSeconds ∧ backend.admitsText entry.createdBy ∧
    entry.updatedBy.all backend.admitsText) ∧
  (backend.readTime entry.createdAt).isSome ∧
  ∀ text ∈ entry.updatedAt, (backend.readTime text).isSome

/-- What a snapshot must satisfy for a restore to succeed. -/
structure Accepts
    (backend : Backend τ)
    (workspaceId : String)
    (snapshot : PolicySnapshot)
    (tables : Tables τ) : Prop where
  bounds : ∀ entry ∈ snapshot.agentBounds, AcceptsBound backend entry
  distinctBounds : (snapshot.agentBounds.map (·.agentId)).Nodup
  rules : ∀ entry ∈ snapshot.autoApprovalRules, AcceptsRule backend entry
  distinctRules : (snapshot.autoApprovalRules.map (·.ruleId)).Nodup
  freeRules : ∀ entry ∈ snapshot.autoApprovalRules, ∀ row,
    tables.rules.get? entry.ruleId = some row → row.workspaceId = workspaceId
  settings : (snapshot.requireBoundarySettings.all fun entry =>
    backend.admitsText entry.agentId) = true

section Acceptance

variable {τ : Type} {backend : Backend τ} {workspaceId : String}

theorem restoredBound_eq_ok
    {entry : SnapshotBound}
    {row : (String × String) × BoundsRow τ} :
    restoredBound backend workspaceId entry = .ok row ↔
      (backend.admitsText entry.agentId ∧ entry.scopes.all backend.admitsText ∧
        entry.maxTtlSeconds.all backend.admitsInteger) ∧
      ∃ updatedAt, backend.readTime entry.updatedAt = some updatedAt ∧
        ((workspaceId, entry.agentId),
          { scopes := entry.scopes
            maxTtlSeconds := entry.maxTtlSeconds.map (·.value)
            updatedAt : BoundsRow τ }) = row := by
  simp only [restoredBound, bind_eq_ok, ensure_eq_ok, require_eq_ok, pure_eq_ok]
  constructor
  · rintro ⟨-, admitted, read⟩
    exact ⟨admitted, read⟩
  · rintro ⟨admitted, read⟩
    exact ⟨(), admitted, read⟩

theorem exists_restoredBound_iff {entry : SnapshotBound} :
    (∃ row, restoredBound backend workspaceId entry = .ok row) ↔ AcceptsBound backend entry := by
  constructor
  · rintro ⟨row, encodes⟩
    obtain ⟨admitted, updatedAt, reads, -⟩ := restoredBound_eq_ok.mp encodes
    exact ⟨admitted, Option.isSome_of_eq_some reads⟩
  · rintro ⟨admitted, reads⟩
    obtain ⟨updatedAt, reads⟩ := Option.isSome_iff_exists.mp reads
    exact ⟨_, restoredBound_eq_ok.mpr ⟨admitted, updatedAt, reads, rfl⟩⟩

theorem readOptionalTime_eq_ok {text : Option String} {time : Option τ} :
    readOptionalTime backend text = .ok time ↔
      text.map backend.readTime = time.map some := by
  cases text with
  | none =>
      cases time <;> simp [readOptionalTime]
  | some text =>
      simp only [readOptionalTime, bind_eq_ok, require_eq_ok, pure_eq_ok, Option.map_some]
      cases time with
      | none => simp
      | some time =>
          simp only [Option.some.injEq, Option.map_some]
          constructor
          · rintro ⟨read, reads, rfl⟩
            exact reads
          · intro reads
            exact ⟨time, reads, rfl⟩

/-- The row of a saved rule with given times. -/
def savedRule
    (workspaceId : String)
    (entry : SnapshotRule)
    (createdAt : τ)
    (updatedAt : Option τ) : RuleRow τ where
  workspaceId
  name := entry.name
  targetAgentId := entry.targetAgentId
  allowedScopes := entry.allowedScopes
  maxTtlSeconds := entry.maxTtlSeconds.value
  status := entry.status
  createdBy := entry.createdBy
  createdAt
  updatedBy := entry.updatedBy
  updatedAt

theorem restoredRule_eq_ok
    {entry : SnapshotRule}
    {row : String × RuleRow τ} :
    restoredRule backend workspaceId entry = .ok row ↔
      (backend.admitsText entry.ruleId ∧ backend.admitsText entry.name ∧
        backend.admitsText entry.targetAgentId ∧ entry.allowedScopes.all backend.admitsText ∧
        backend.admitsInteger entry.maxTtlSeconds ∧ backend.admitsText entry.createdBy ∧
        entry.updatedBy.all backend.admitsText) ∧
      ∃ createdAt updatedAt, backend.readTime entry.createdAt = some createdAt ∧
        entry.updatedAt.map backend.readTime = updatedAt.map some ∧
        (entry.ruleId, savedRule workspaceId entry createdAt updatedAt) = row := by
  simp only [restoredRule, bind_eq_ok, ensure_eq_ok, require_eq_ok, pure_eq_ok,
    readOptionalTime_eq_ok]
  constructor
  · rintro ⟨-, admitted, createdAt, created, updatedAt, updated, rfl⟩
    exact ⟨admitted, createdAt, updatedAt, created, updated, rfl⟩
  · rintro ⟨admitted, createdAt, updatedAt, created, updated, rfl⟩
    exact ⟨(), admitted, createdAt, created, updatedAt, updated, rfl⟩

theorem exists_restoredRule_iff {entry : SnapshotRule} :
    (∃ row, restoredRule backend workspaceId entry = .ok row) ↔ AcceptsRule backend entry := by
  constructor
  · rintro ⟨row, encodes⟩
    obtain ⟨admitted, createdAt, updatedAt, created, updated, -⟩ := restoredRule_eq_ok.mp encodes
    refine ⟨admitted, Option.isSome_of_eq_some created, ?_⟩
    intro text present
    rw [Option.mem_def] at present
    rw [present, Option.map_some] at updated
    cases updatedAt with
    | none => cases updated
    | some time => exact Option.isSome_of_eq_some (Option.some.inj updated)
  · rintro ⟨admitted, created, updated⟩
    obtain ⟨createdAt, created⟩ := Option.isSome_iff_exists.mp created
    have read : ∃ updatedAt : Option τ, entry.updatedAt.map backend.readTime = updatedAt.map some := by
      cases text : entry.updatedAt with
      | none => exact ⟨none, rfl⟩
      | some text' =>
          obtain ⟨time, reads⟩ := Option.isSome_iff_exists.mp (updated text' text)
          exact ⟨some time, by rw [Option.map_some, reads]; rfl⟩
    obtain ⟨updatedAt, read⟩ := read
    exact ⟨_, restoredRule_eq_ok.mpr ⟨admitted, createdAt, updatedAt, created, read, rfl⟩⟩

theorem exists_restoreSnapshot_iff
    {snapshot : PolicySnapshot}
    {now : τ}
    {tables : Tables τ} :
    (∃ after, restoreSnapshot backend workspaceId snapshot now tables = .ok after) ↔
      Accepts backend workspaceId snapshot tables := by
  have boundsOk := Dict.insertAll_isOk_iff (restoredBound backend workspaceId)
    PolicyError.integrity (fun entry => (workspaceId, entry.agentId))
    (by
      intro entry row encodes
      obtain ⟨-, updatedAt, -, rfl⟩ := restoredBound_eq_ok.mp encodes
      rfl)
    snapshot.agentBounds (tables.bounds.filter fun key _ => key.1 ≠ workspaceId)
  have rulesOk := Dict.insertAll_isOk_iff (restoredRule backend workspaceId)
    PolicyError.integrity (fun entry => entry.ruleId)
    (by
      intro entry row encodes
      obtain ⟨-, createdAt, updatedAt, -, -, rfl⟩ := restoredRule_eq_ok.mp encodes
      rfl)
    snapshot.autoApprovalRules (tables.rules.filter fun _ row => row.workspaceId ≠ workspaceId)
  simp only [exists_restoredBound_iff] at boundsOk
  simp only [exists_restoredRule_iff] at rulesOk
  have freeBound : ∀ entry ∈ snapshot.agentBounds,
      (tables.bounds.filter fun key _ => key.1 ≠ workspaceId).get? (workspaceId, entry.agentId) =
        none := by
    intro entry present
    rw [Dict.get?_filter]
    cases tables.bounds.get? (workspaceId, entry.agentId) <;> simp
  have freeRule : ∀ entry : SnapshotRule,
      (tables.rules.filter fun _ row => row.workspaceId ≠ workspaceId).get? entry.ruleId = none ↔
        ∀ row, tables.rules.get? entry.ruleId = some row → row.workspaceId = workspaceId := by
    intro entry
    rw [Dict.get?_filter]
    cases tables.rules.get? entry.ruleId <;> simp
  have distinct : (snapshot.agentBounds.map fun entry => (workspaceId, entry.agentId)).Nodup ↔
      (snapshot.agentBounds.map (·.agentId)).Nodup := by
    have pairs : (snapshot.agentBounds.map fun entry => (workspaceId, entry.agentId)) =
        (snapshot.agentBounds.map (·.agentId)).map (Prod.mk workspaceId) := by
      rw [List.map_map]
      rfl
    rw [pairs]
    exact List.nodup_map_iff (Prod.mk_right_injective workspaceId)
  constructor
  · rintro ⟨after, restores⟩
    obtain ⟨bounds, rules, insertsBounds, insertsRules, admitted, -⟩ :=
      restoreSnapshot_eq_ok.mp restores
    obtain ⟨acceptsBounds, distinctBounds, -⟩ := boundsOk.mp ⟨bounds, insertsBounds⟩
    obtain ⟨acceptsRules, distinctRules, free⟩ := rulesOk.mp ⟨rules, insertsRules⟩
    exact ⟨acceptsBounds, distinct.mp distinctBounds, acceptsRules, distinctRules,
      fun entry present => (freeRule entry).mp (free entry present), admitted⟩
  · intro accepts
    obtain ⟨bounds, insertsBounds⟩ :=
      boundsOk.mpr ⟨accepts.bounds, distinct.mpr accepts.distinctBounds, freeBound⟩
    obtain ⟨rules, insertsRules⟩ := rulesOk.mpr ⟨accepts.rules, accepts.distinctRules,
      fun entry present => (freeRule entry).mpr (accepts.freeRules entry present)⟩
    exact ⟨_, restoreSnapshot_eq_ok.mpr
      ⟨bounds, rules, insertsBounds, insertsRules, accepts.settings, rfl⟩⟩

/-! ## Rows after a restore -/

section Rows

variable {snapshot : PolicySnapshot} {now : τ} {before after : Tables τ}
  (restores : restoreSnapshot backend workspaceId snapshot now before = .ok after)

include restores

/-- The bounds of the workspace are the saved ones, whatever the database. -/
theorem bounds_restoreSnapshot (key : String × String) :
    (after.bounds.get? key).map (fun row => (row.scopes, row.maxTtlSeconds)) =
      if key.1 = workspaceId then
        (snapshot.agentBounds.find? fun entry => entry.agentId = key.2).map fun entry =>
          (entry.scopes, entry.maxTtlSeconds.map (·.value))
      else (before.bounds.get? key).map fun row => (row.scopes, row.maxTtlSeconds) := by
  obtain ⟨bounds, rules, inserts, -, -, rfl⟩ := restoreSnapshot_eq_ok.mp restores
  obtain ⟨inserted, kept⟩ := Dict.insertAll_eq_ok inserts
  by_cases mine : key.1 = workspaceId
  · rw [if_pos mine]
    cases listed : snapshot.agentBounds.find? fun entry => entry.agentId = key.2 with
    | some entry =>
        obtain ⟨row, encodes, -, found⟩ := inserted entry (List.mem_of_find?_eq_some listed)
        obtain ⟨-, updatedAt, -, rfl⟩ := restoredBound_eq_ok.mp encodes
        have isAgent : entry.agentId = key.2 := by simpa using List.find?_some listed
        have isKey : (workspaceId, entry.agentId) = key := Prod.ext mine.symm isAgent
        rw [← isKey, found]
        rfl
    | none =>
        have absent := kept key (by
          intro entry present row encodes same
          obtain ⟨-, updatedAt, -, rfl⟩ := restoredBound_eq_ok.mp encodes
          have unlisted := List.find?_eq_none.mp listed entry present
          rw [← same] at unlisted
          exact unlisted (decide_eq_true rfl))
        rw [absent, Dict.get?_filter]
        cases before.bounds.get? key <;> simp [mine]
  · have same := kept key (by
      intro entry present row encodes isKey
      obtain ⟨-, updatedAt, -, rfl⟩ := restoredBound_eq_ok.mp encodes
      exact mine (congrArg Prod.fst isKey).symm)
    rw [if_neg mine, same, Dict.get?_filter]
    cases before.bounds.get? key <;> simp [mine]

/-- The rules of the workspace are the saved ones, with their times as the
database reads them. -/
theorem rules_restoreSnapshot (interpret : τ → Option σ) (ruleId : String) :
    (after.rules.get? ruleId).map (·.timed interpret) =
      match snapshot.autoApprovalRules.find? fun entry => entry.ruleId = ruleId with
      | some entry => some (savedRule workspaceId entry
          ((backend.readTime entry.createdAt).bind interpret)
          (entry.updatedAt.map fun text => (backend.readTime text).bind interpret))
      | none => ((before.rules.get? ruleId).map (·.timed interpret)).filter fun row =>
          row.workspaceId ≠ workspaceId := by
  obtain ⟨bounds, rules, -, inserts, -, rfl⟩ := restoreSnapshot_eq_ok.mp restores
  obtain ⟨inserted, kept⟩ := Dict.insertAll_eq_ok inserts
  cases listed : snapshot.autoApprovalRules.find? fun entry => entry.ruleId = ruleId with
  | some entry =>
      obtain ⟨row, encodes, -, found⟩ := inserted entry (List.mem_of_find?_eq_some listed)
      obtain ⟨-, createdAt, updatedAt, created, updated, rfl⟩ := restoredRule_eq_ok.mp encodes
      have isRule : entry.ruleId = ruleId := by simpa using List.find?_some listed
      have interpreted := congrArg (Option.map (·.bind interpret)) updated
      rw [Option.map_map, Option.map_map] at interpreted
      rw [← isRule, found]
      dsimp only
      rw [created]
      exact congrArg (fun times => some (savedRule workspaceId entry (interpret createdAt) times))
        interpreted.symm
  | none =>
      have same := kept ruleId (by
        intro entry present row encodes isRule
        obtain ⟨-, createdAt, updatedAt, -, -, rfl⟩ := restoredRule_eq_ok.mp encodes
        exact List.find?_eq_none.mp listed entry present (decide_eq_true isRule))
      rw [same, Dict.get?_filter]
      cases before.rules.get? ruleId with
      | none => rfl
      | some row =>
          simp only [Option.filter_some, Option.map_some]
          by_cases other : row.workspaceId ≠ workspaceId
          · rw [if_pos (decide_eq_true other)]
            exact (if_pos (decide_eq_true other)).symm
          · rw [if_neg (fun keeps => other (of_decide_eq_true keeps))]
            exact (if_neg fun keeps => other (of_decide_eq_true keeps)).symm

end Rows

end Acceptance

/-! ## Agreement -/

/-- The server reads the times of the saved rules as they are stored. -/
def TimesAgree (server : Server) (snapshot : PolicySnapshot) : Prop :=
  ∀ entry ∈ snapshot.autoApprovalRules,
    storedInstant entry.createdAt = server.timestamptz entry.createdAt ∧
    ∀ text ∈ entry.updatedAt, storedInstant text = server.timestamptz text

/-- No saved agent has a row that demands nothing and exempts it from a mandate of
the workspace: SQLite spares such a row and Postgres does not. -/
def KeepsSavedExemptions
    (workspaceId : String)
    (snapshot : PolicySnapshot)
    (tables : Tables τ) : Prop :=
  ∀ entry ∈ snapshot.requireBoundarySettings, ∀ row,
    tables.settings.get? (workspaceId, entry.agentId) = some row →
    row.requireSubjectToken = false → row.requirePop = false →
    ¬Exempts .subjectToken (tables.settings.get? (workspaceId, "")) row ∧
      ¬Exempts .pop (tables.settings.get? (workspaceId, "")) row

section Agreement

variable {server : Server} {requireBoundaryDefault : Bool} {workspaceId : String}
  {snapshot : PolicySnapshot} {liteNow : String} {serverNow : Instant}
  {lite liteAfter : Tables String} {remote remoteAfter : Tables Instant}

/-- SQLite accepts what Postgres accepts. -/
theorem Accepts.sqlite_of_postgres
    (held : HeldEqually lite remote)
    (accepts : Accepts (postgres server requireBoundaryDefault) workspaceId snapshot remote) :
    Accepts (sqlite requireBoundaryDefault) workspaceId snapshot lite := by
  have fits : ∀ number : SnapshotInteger,
      (postgres server requireBoundaryDefault).admitsInteger number = true →
        (sqlite requireBoundaryDefault).admitsInteger number = true := by
    intro number admitted
    cases number with
    | int value =>
        have bounded := of_decide_eq_true admitted
        apply decide_eq_true
        simp only [SnapshotInteger.value]
        omega
    | bool value => cases admitted
  refine ⟨?_, accepts.distinctBounds, ?_, accepts.distinctRules, ?_, by simp [sqlite]⟩
  · intro entry present
    obtain ⟨⟨-, -, cap⟩, -⟩ := accepts.bounds entry present
    refine ⟨⟨rfl, by simp [sqlite], ?_⟩, rfl⟩
    rw [Option.all_eq_true] at cap ⊢
    exact fun number isCap => fits number (cap number isCap)
  · intro entry present
    obtain ⟨⟨-, -, -, -, cap, -, -⟩, -⟩ := accepts.rules entry present
    exact ⟨⟨rfl, rfl, rfl, by simp [sqlite], fits entry.maxTtlSeconds cap, rfl, by simp [sqlite]⟩,
      rfl, fun _ _ => rfl⟩
  · intro entry present row found
    have same := held.rules entry.ruleId
    rw [found, Option.map_some] at same
    obtain ⟨other, otherFound, isSame⟩ := Option.map_eq_some_iff.mp same.symm
    exact (congrArg RuleRow.workspaceId isSame).symm.trans
      (accepts.freeRules entry present other otherFound)

variable
  (liteRestores : restoreSnapshot (sqlite requireBoundaryDefault) workspaceId snapshot liteNow
    lite = .ok liteAfter)
  (remoteRestores : restoreSnapshot (postgres server requireBoundaryDefault) workspaceId snapshot
    serverNow remote = .ok remoteAfter)

include liteRestores remoteRestores

theorem sameRows_restoreSnapshot_iff (held : HeldEqually lite remote) :
    SameRows liteAfter remoteAfter ↔ TimesAgree server snapshot := by
  have liteRules := rules_restoreSnapshot liteRestores storedInstant
  have remoteRules := rules_restoreSnapshot remoteRestores some
  simp only [Option.bind_fun_some] at remoteRules
  have distinct := (exists_restoreSnapshot_iff.mp ⟨_, liteRestores⟩).distinctRules
  constructor
  · intro same entry present
    have listed : snapshot.autoApprovalRules.find? (fun other => other.ruleId = entry.ruleId) =
        some entry := by
      cases listed : snapshot.autoApprovalRules.find? fun other => other.ruleId = entry.ruleId with
      | none => exact absurd (decide_eq_true rfl) (List.find?_eq_none.mp listed entry present)
      | some other =>
          have isRule : other.ruleId = entry.ruleId := by simpa using List.find?_some listed
          rw [List.inj_on_of_nodup_map distinct (List.mem_of_find?_eq_some listed) present isRule]
    have rules := same.rules entry.ruleId
    rw [liteRules, remoteRules, listed] at rules
    have rows := Option.some.inj rules
    have created := congrArg RuleRow.createdAt rows
    have updated := congrArg RuleRow.updatedAt rows
    refine ⟨created, ?_⟩
    intro text isText
    rw [Option.mem_def] at isText
    simp only [savedRule, isText, Option.map_some, Option.some.injEq] at updated
    exact updated
  · intro agree
    refine ⟨?_, ?_⟩
    · intro key
      rw [bounds_restoreSnapshot liteRestores, bounds_restoreSnapshot remoteRestores,
        held.bounds key]
    · intro ruleId
      rw [liteRules, remoteRules, held.rules ruleId]
      cases listed : snapshot.autoApprovalRules.find? fun entry => entry.ruleId = ruleId with
      | none => rfl
      | some entry =>
          obtain ⟨created, updated⟩ := agree entry (List.mem_of_find?_eq_some listed)
          dsimp only [sqlite, postgres, Option.bind_some]
          rw [created]
          cases text : entry.updatedAt with
          | none => rfl
          | some text' =>
              rw [Option.map_some, Option.map_some, updated text' text]

omit liteRestores remoteRestores in
/-- A mandate that reads the values and flags of a row. -/
structure Mandate.Untimed (mandate : Mandate) : Prop where
  setting : ∀ {τ : Type} (row : SettingsRow τ),
    mandate.setting (some row.flags) = mandate.setting (some row)

omit liteRestores remoteRestores in
theorem Mandate.untimed_boundary : Mandate.Untimed .boundary where
  setting := fun row => by
    rw [setting_some, setting_some]
    rfl

omit liteRestores remoteRestores in
theorem Mandate.untimed_subjectToken : Mandate.Untimed .subjectToken where
  setting := fun row => by
    rw [setting_some, setting_some]
    rfl

omit liteRestores remoteRestores in
theorem Mandate.untimed_pop : Mandate.Untimed .pop where
  setting := fun row => by
    rw [setting_some, setting_some]
    rfl

omit liteRestores remoteRestores in
theorem Mandate.Untimed.setting_eq
    {mandate : Mandate}
    (untimed : mandate.Untimed)
    {first : Option (SettingsRow τ)}
    {second : Option (SettingsRow σ)}
    (same : first.map (·.flags) = second.map (·.flags)) :
    mandate.setting first = mandate.setting second := by
  cases first with
  | none =>
      cases second with
      | none => rfl
      | some row => cases same
  | some row =>
      cases second with
      | none => cases same
      | some other =>
          have flags : row.flags = other.flags := Option.some.inj same
          rw [← untimed.setting row, ← untimed.setting other, flags]

/-- The two databases give an agent of the workspace the same mandate unless it is
a saved agent with an exemption in a row that demands nothing. -/
theorem isRequired_restoreSnapshots_iff
    (held : HeldEqually lite remote)
    {mandate : Mandate}
    (untimed : mandate.Untimed)
    (unrequired : ∀ {τ : Type} (row : SettingsRow τ), row.requireSubjectToken = false →
      row.requirePop = false → mandate.value row = false)
    (liteSpared : mandate.Spared (τ := String))
    (remoteSpared : mandate.Spared (τ := Instant))
    (agentId : String) :
    liteAfter.isRequired mandate false workspaceId agentId =
        remoteAfter.isRequired mandate false workspaceId agentId ↔
      ∀ entry ∈ snapshot.requireBoundarySettings, entry.agentId = agentId → ∀ row,
        lite.settings.get? (workspaceId, agentId) = some row →
        row.requireSubjectToken = false → row.requirePop = false →
        ¬Exempts mandate (lite.settings.get? (workspaceId, "")) row := by
  have liteRow := held.settings (workspaceId, agentId)
  have workspace := untimed.setting_eq (held.settings (workspaceId, ""))
  rw [isRequired_restoreSnapshot liteRestores liteSpared
      fun _ row removes => unrequired row removes.1 removes.2.1,
    isRequired_restoreSnapshot remoteRestores remoteSpared
      fun _ row removes => unrequired row removes.1 removes.2.1, ← workspace]
  cases found : lite.settings.get? (workspaceId, agentId) with
  | none =>
      rw [found, Option.map_none, eq_comm, Option.map_eq_none_iff] at liteRow
      simp [liteRow, Mandate.setting]
  | some row =>
      rw [found, Option.map_some] at liteRow
      obtain ⟨other, otherFound, flags⟩ := Option.map_eq_some_iff.mp liteRow.symm
      have settings : mandate.setting (some row) = mandate.setting (some other) :=
        untimed.setting_eq (congrArg some flags.symm)
      have tokens : other.requireSubjectToken = row.requireSubjectToken :=
        congrArg SettingsRow.requireSubjectToken flags
      have pops : other.requirePop = row.requirePop := congrArg SettingsRow.requirePop flags
      rw [otherFound]
      by_cases idle : row.requireSubjectToken = false ∧ row.requirePop = false
      · -- Postgres removes the row; SQLite removes it unless the agent is saved.
        have dropped : (some other).filter (fun row =>
            ¬Removes (postgres server requireBoundaryDefault) snapshot agentId row) = none := by
          simp [Removes, postgres, tokens, pops, idle]
        rw [dropped]
        by_cases saved : ∃ entry ∈ snapshot.requireBoundarySettings, entry.agentId = agentId
        · have kept : (some row).filter (fun row =>
              ¬Removes (sqlite requireBoundaryDefault) snapshot agentId row) = some row := by
            simp [Removes, sqlite, saved]
          have missed := Mandate.getD_setting_eq_iff (unrequired row idle.1 idle.2)
            (lite.settings.get? (workspaceId, ""))
          rw [kept]
          refine missed.trans ⟨?_, ?_⟩
          · intro unexempted entry present isAgent stored isRow token pop
            cases isRow
            exact unexempted
          · intro unexempted
            obtain ⟨entry, present, isAgent⟩ := saved
            exact unexempted entry present isAgent row rfl idle.1 idle.2
        · have gone : (some row).filter (fun row =>
              ¬Removes (sqlite requireBoundaryDefault) snapshot agentId row) = none := by
            simp only [not_exists, not_and] at saved
            simp [Removes, sqlite, idle]
            exact saved
          rw [gone]
          refine ⟨?_, fun _ => rfl⟩
          intro _ entry present isAgent
          exact absurd ⟨entry, present, isAgent⟩ saved
      · have kept : (some row).filter (fun row =>
            ¬Removes (sqlite requireBoundaryDefault) snapshot agentId row) = some row := by
          rw [Option.filter_some, if_pos]
          exact decide_eq_true fun removes => idle ⟨removes.1, removes.2.1⟩
        have keptOther : (some other).filter (fun row =>
            ¬Removes (postgres server requireBoundaryDefault) snapshot agentId row) =
              some other := by
          rw [Option.filter_some, if_pos]
          exact decide_eq_true fun removes =>
            idle ⟨tokens.symm.trans removes.1, pops.symm.trans removes.2.1⟩
        rw [kept, keptOther, settings]
        refine ⟨?_, fun _ => rfl⟩
        intro _ entry present isAgent stored isRow token pop
        cases isRow
        exact absurd ⟨token, pop⟩ idle

/-- Where both restores succeed, they agree exactly when the times of the rules are
read alike and no saved agent loses an exemption. -/
theorem sameState_restoreSnapshot_iff (held : HeldEqually lite remote) :
    SameState requireBoundaryDefault liteAfter remoteAfter ↔
      TimesAgree server snapshot ∧ KeepsSavedExemptions workspaceId snapshot lite := by
  have tokens := isRequired_restoreSnapshots_iff liteRestores remoteRestores held
    Mandate.untimed_subjectToken (fun _ token _ => token) Mandate.spared_subjectToken
    Mandate.spared_subjectToken
  have pops := isRequired_restoreSnapshots_iff liteRestores remoteRestores held
    Mandate.untimed_pop (fun _ _ pop => pop) Mandate.spared_pop Mandate.spared_pop
  have rows := sameRows_restoreSnapshot_iff liteRestores remoteRestores held
  have elsewhere : ∀ {mandate : Mandate}, mandate.Untimed → ∀ (default : Bool) {other : String},
      other ≠ workspaceId → ∀ agentId,
        liteAfter.isRequired mandate default other agentId =
          remoteAfter.isRequired mandate default other agentId := by
    intro mandate untimed default other isOther agentId
    rw [Tables.isRequired, Tables.isRequired, Mandate.resolve, Mandate.resolve,
      get?_settings_restoreSnapshot_of_ne liteRestores isOther,
      get?_settings_restoreSnapshot_of_ne liteRestores isOther,
      get?_settings_restoreSnapshot_of_ne remoteRestores isOther,
      get?_settings_restoreSnapshot_of_ne remoteRestores isOther,
      untimed.setting_eq (held.settings (other, agentId)),
      untimed.setting_eq (held.settings (other, ""))]
  constructor
  · intro same
    refine ⟨rows.mp same.toSameRows, ?_⟩
    intro entry present row found token pop
    exact ⟨(tokens entry.agentId).mp (same.subjectTokens workspaceId entry.agentId) entry present
        rfl row found token pop,
      (pops entry.agentId).mp (same.pops workspaceId entry.agentId) entry present rfl row found
        token pop⟩
  · rintro ⟨times, keeps⟩
    refine ⟨rows.mpr times, ?_, ?_, ?_⟩
    · intro other agentId
      by_cases mine : other = workspaceId
      · subst mine
        rw [Tables.isRequired, Tables.isRequired, Mandate.resolve, Mandate.resolve,
          boundarySetting_restoreSnapshot liteRestores,
          boundarySetting_restoreSnapshot liteRestores,
          boundarySetting_restoreSnapshot remoteRestores,
          boundarySetting_restoreSnapshot remoteRestores]
      · exact elsewhere Mandate.untimed_boundary requireBoundaryDefault mine agentId
    · intro other agentId
      by_cases mine : other = workspaceId
      · subst mine
        refine (tokens agentId).mpr ?_
        rintro entry present rfl row found token pop
        exact (keeps entry present row found token pop).1
      · exact elsewhere Mandate.untimed_subjectToken false mine agentId
    · intro other agentId
      by_cases mine : other = workspaceId
      · subst mine
        refine (pops agentId).mpr ?_
        rintro entry present rfl row found token pop
        exact (keeps entry present row found token pop).2
      · exact elsewhere Mandate.untimed_pop false mine agentId

end Agreement

/-- A text for the instants that no date has. -/
def markedText : Instant → List Char
  | .ofNat count => '+' :: List.replicate count '|'
  | .negSucc count => '-' :: List.replicate count '|'

def markedInstant : List Char → Option Instant
  | '+' :: marks => some (.ofNat marks.length)
  | '-' :: marks => some (.negSucc marks.length)
  | _ => none

theorem markedInstant_markedText (instant : Instant) :
    markedInstant (markedText instant) = some instant := by
  cases instant <;> simp [markedText, markedInstant]

/-- A server that reads and writes the texts of dates as the client does. -/
def isoServer : Server where
  timestamptz := fun text => (markedInstant text.toList).or (storedInstant text)
  isoformat := fun instant =>
    let text := String.ofList (Datetime.ofInstant instant).isoformat
    if (markedInstant text.toList).or (storedInstant text) = some instant then text
    else String.ofList (markedText instant)
  timestamptz_isoformat := by
    intro instant
    dsimp only
    split
    · next reads => exact reads
    · rw [String.toList_ofList, markedInstant_markedText]
      rfl
  collate := fun first second => decide (first ≤ second)

/-- A workspace that demands subject tokens of everyone but one agent, which must
work in a boundary. -/
def savedExemption (time : Nat → τ) : List (Operation τ) :=
  [.setRequireSubjectToken "ws_main" "" true (time 0),
    .setRequireSubjectToken "ws_main" "agent_ci" false (time 1),
    .setRequireBoundary "ws_main" "agent_ci" true (time 2)]

def liteTime (second : Nat) : String :=
  "2026-07-01T00:00:0" ++ toString second ++ "+00:00"

def serverTime (second : Nat) : Instant := 1782864000000000 + 1000000 * second

def savedByLite : Tables String :=
  run (sqlite true) (fun _ rule => rule.name) .empty (savedExemption liteTime)

def savedByServer : Tables Instant :=
  run (postgres isoServer true) (fun _ rule => rule.name) .empty (savedExemption serverTime)

/-- A snapshot that saves the flag of the agent. -/
def savedFlag : PolicySnapshot where
  agentBounds := []
  autoApprovalRules := []
  requireBoundarySettings := [
    { agentId := "agent_ci", requireBoundary := true, updatedAt := "2026-07-01T00:00:02+00:00" }]

theorem heldEqually_saved : HeldEqually savedByLite savedByServer := by
  have bounds : savedByLite.bounds.entries = [] ∧ savedByServer.bounds.entries = [] := by
    decide +kernel
  have rules : savedByLite.rules.entries = [] ∧ savedByServer.rules.entries = [] := by
    decide +kernel
  have settings : savedByLite.settings.entries.map (fun entry => (entry.1, entry.2.flags)) =
      savedByServer.settings.entries.map fun entry => (entry.1, entry.2.flags) := by
    decide +kernel
  refine ⟨⟨?_, ?_⟩, ?_⟩
  · intro key
    rw [Dict.map_get?, Dict.map_get?, bounds.1, bounds.2]
    rfl
  · intro ruleId
    rw [Dict.map_get?, Dict.map_get?, rules.1, rules.2]
    rfl
  · intro key
    rw [Dict.map_get?, Dict.map_get?, settings]

end Policy
end Vinctor
