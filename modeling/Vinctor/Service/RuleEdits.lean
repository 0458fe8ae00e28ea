import Vinctor.Foundation.Machine
import Vinctor.Foundation.Serial
import Vinctor.Service.PolicyFrames

/-!
# Concurrent edits of rules

Disabling a rule reads it in one call and writes the whole record back in
another; creating a rule looks for it and inserts it; applying and rolling back a
policy are one transaction each.  Calls of different connections interleave between
these steps, and any step may raise.

The record that a disable writes is the one it read.  Where another call changed
the rule between the two, the change is lost; where none did, the calls that
succeeded are serializable in the order of their commits.  Every update records
the difference between the rule just before it and the rule just after.
-/

namespace Vinctor
namespace Policy

open Foundation
open Fallible

/-! ## Control events of an update -/

structure RuleUpdateControlEvent where
  eventType : String
  action : String
  reason : String
  scopeAttempted : String
  deriving DecidableEq, Repr

/-- The audited fields that two rows of a rule differ in. -/
def changedRuleFields (prior row : RuleRow τ) : List String :=
  (if prior.name ≠ row.name then ["name"] else []) ++
  (if prior.targetAgentId ≠ row.targetAgentId then ["target_agent_id"] else []) ++
  (if prior.allowedScopes ≠ row.allowedScopes then ["allowed_scopes"] else []) ++
  (if prior.maxTtlSeconds ≠ row.maxTtlSeconds then ["max_ttl_seconds"] else []) ++
  (if prior.status ≠ row.status then ["status"] else [])

def statusText : ApprovalRuleStatus → String
  | .active => "active"
  | .disabled => "disabled"

def autoApprovalUpdateControlEvent (prior row : RuleRow τ) : RuleUpdateControlEvent :=
  let changed := changedRuleFields prior row
  if prior.status = .active ∧ row.status = .disabled then
    let other := changed.filter (· ≠ "status")
    { eventType := "auto_approval_rule_disabled"
      action := "disable_auto_approval_rule"
      reason := if other.isEmpty then "status=disabled"
        else "status=disabled changed=" ++ ",".intercalate other
      scopeAttempted := "" }
  else
    { eventType := "auto_approval_rule_updated"
      action := "update_auto_approval_rule"
      reason := "status=" ++ statusText row.status ++ " changed=" ++
        (if changed.isEmpty then "none" else ",".intercalate changed)
      scopeAttempted := "" }

/-- The control event that updating a rule records. -/
structure UpdateEvent (τ : Type) where
  control : RuleUpdateControlEvent
  workspaceId : String
  resource : String
  now : τ
  enforcingPrincipal : Option String
  deriving DecidableEq, Repr

def updateEvent (ruleId : String) (prior row : RuleRow τ) : UpdateEvent τ where
  control := autoApprovalUpdateControlEvent prior row
  workspaceId := row.workspaceId
  resource := "auto_approval_rule/" ++ ruleId
  now := row.updatedAt.getD row.createdAt
  enforcingPrincipal := row.updatedBy.filter (· ≠ "")

/-- The events of writing a row over what is stored. -/
def writeEvents (rules : Dict String (RuleRow τ)) (rule : String × RuleRow τ) :
    List (UpdateEvent τ) :=
  match rules.get? rule.1 with
  | none => []
  | some prior => [updateEvent rule.1 prior rule.2]

/-- Upsert a rule and record its event. -/
def auditedUpsert
    (backend : Backend τ)
    (state : Tables τ × List (UpdateEvent τ))
    (rule : String × RuleRow τ) : Except PolicyError (Tables τ × List (UpdateEvent τ)) := do
  let result ← upsertAutoApprovalRule backend rule.1 rule.2 state.1
  return (result.2, state.2 ++ writeEvents state.1.rules rule)

/-- The update events of an application. -/
def applyEvents
    (backend : Backend τ)
    (stableRuleId : StableRuleId)
    (document : PolicyDocument)
    (workspaceId appliedBy : String)
    (now : τ)
    (tables : Tables τ) : Except PolicyError (List (UpdateEvent τ)) := do
  let prepared ← document.autoApprovalRules.mapM
    (prepareRule stableRuleId workspaceId appliedBy now tables)
  let tables ← document.agentBounds.foldlM (applyBounds backend workspaceId now) tables
  let written ← prepared.foldlM (auditedUpsert backend) (tables, [])
  return written.2

/-! ## Calls -/

/-- Calls on the rules, with their arguments. -/
inductive Call (τ : Type)
  | disable (ruleId workspaceId disabledBy : String) (now : τ)
  | create (ruleId : String) (row : RuleRow τ)
  | apply (document : PolicyDocument) (workspaceId appliedBy : String) (now : τ)
  | rollback (workspaceId : String) (version : Nat) (appliedBy : String) (now : τ)

/-- What a call that changed the rules returns. -/
inductive Outcome (τ : Type)
  | disabled (row : RuleRow τ)
  | created (row : RuleRow τ)
  | applied (result : PolicyApplyResult)
  | rolledBack (version : Nat)
  deriving DecidableEq, Repr

/-- A store of rules: its tables, the names of unnamed rules, and whether adding a
rule looks for it first. -/
structure RuleStore (τ : Type) where
  backend : Backend τ
  stableRuleId : StableRuleId
  looksFirst : Bool

/-- A call executed alone.  Disabling an unknown rule returns nothing. -/
def Call.execute (store : RuleStore τ) (call : Call τ) (tables : Tables τ) :
    Except PolicyError (Outcome τ × Tables τ) :=
  match call with
  | .disable ruleId workspaceId disabledBy now => do
      let row ← require
        ((tables.rules.get? ruleId).filter fun row => row.workspaceId = workspaceId)
        (.value "unknown auto-approval rule")
      let after ← updateRule store.backend ruleId (row.disable disabledBy now) tables
      return (.disabled (row.disable disabledBy now), after)
  | .create ruleId row => do
      let after ← createAutoApprovalRule store.backend ruleId row tables
      return (.created row, after)
  | .apply document workspaceId appliedBy now => do
      let result ← applyPolicyDocument store.backend store.stableRuleId document workspaceId
        appliedBy now tables
      return (.applied result.1, result.2)
  | .rollback workspaceId version appliedBy now => do
      let result ← rollbackPolicyVersion store.backend workspaceId version appliedBy now tables
      return (.rolledBack result.1, result.2)

/-! ## Interleavings -/

/-- Where a call stands.  `holding` is a disable that has read its rule and
`cleared` a creation that has found its identifier free. -/
inductive Stage (τ : Type)
  | waiting
  | holding (row : RuleRow τ)
  | cleared
  | finished (outcome : Outcome τ)
  | missing
  | refused (error : PolicyError)
  deriving DecidableEq, Repr

def Stage.outcome? : Stage τ → Option (Outcome τ)
  | .finished outcome => some outcome
  | _ => none

structure State (τ : Type) where
  tables : Tables τ
  stages : Nat → Stage τ

/-- The insertion of a rule: a taken identifier breaks the primary key. -/
def insertRule
    (backend : Backend τ)
    (ruleId : String)
    (row : RuleRow τ)
    (tables : Tables τ) : Except PolicyError (Tables τ) := do
  ensure (tables.rules.get? ruleId = none) .integrity
  ensure (row.admitted backend ruleId) .data
  return { tables with rules := tables.rules.set ruleId row }

/-- Result of a step of a call: its next stage, the tables and the update events
that were committed. -/
structure Progress (τ : Type) where
  stage : Stage τ
  tables : Tables τ
  events : List (UpdateEvent τ)

/-- A transaction: a failure leaves the tables as they were and commits nothing. -/
def Progress.ofTransaction
    (tables : Tables τ)
    (result : Except PolicyError (Outcome τ × Tables τ × List (UpdateEvent τ))) : Progress τ :=
  match result with
  | .ok (outcome, after, events) => ⟨.finished outcome, after, events⟩
  | .error error => ⟨.refused error, tables, []⟩

/-- The outer read of a disable. -/
def readRule (tables : Tables τ) (ruleId workspaceId : String) : Stage τ :=
  match (tables.rules.get? ruleId).filter fun row => row.workspaceId = workspaceId with
  | none => .missing
  | some row => .holding row

/-- The checks of a creation before its transaction. -/
def checkCreation
    (store : RuleStore τ)
    (tables : Tables τ)
    (ruleId : String)
    (row : RuleRow τ) : Except PolicyError Unit := do
  (AutoApproval.validateRule (row.untimed ruleId)).mapError .value
  if store.looksFirst then
    ensure (tables.rules.get? ruleId = none)
      (.value ("duplicate auto-approval rule_id: " ++ ruleId))

/-- One step of a call. -/
def Call.advance (store : RuleStore τ) (tables : Tables τ) : Call τ → Stage τ → Progress τ
  | .disable ruleId workspaceId _ _, .waiting => ⟨readRule tables ruleId workspaceId, tables, []⟩
  | .disable ruleId _ disabledBy now, .holding row =>
      .ofTransaction tables do
        let after ← updateRule store.backend ruleId (row.disable disabledBy now) tables
        return (.disabled (row.disable disabledBy now), after,
          writeEvents tables.rules (ruleId, row.disable disabledBy now))
  | .create ruleId row, .waiting =>
      match checkCreation store tables ruleId row with
      | .ok () => ⟨.cleared, tables, []⟩
      | .error error => ⟨.refused error, tables, []⟩
  | .create ruleId row, .cleared =>
      .ofTransaction tables do
        let after ← insertRule store.backend ruleId row tables
        return (.created row, after, [])
  | .apply document workspaceId appliedBy now, .waiting =>
      .ofTransaction tables do
        let result ← applyPolicyDocument store.backend store.stableRuleId document workspaceId
          appliedBy now tables
        let events ← applyEvents store.backend store.stableRuleId document workspaceId appliedBy
          now tables
        return (.applied result.1, result.2, events)
  | .rollback workspaceId version appliedBy now, .waiting =>
      .ofTransaction tables do
        let result ← rollbackPolicyVersion store.backend workspaceId version appliedBy now tables
        return (.rolledBack result.1, result.2, [])
  | _, stage => ⟨stage, tables, []⟩

/-- A step chosen by the schedule: which call moves, and whether its step raises. -/
structure Choice where
  identifier : Nat
  raises : Option PolicyError
  deriving DecidableEq, Repr

/-- A step that raises refuses a call that is under way. -/
def Stage.refuse (error : PolicyError) : Stage τ → Stage τ
  | .waiting | .holding _ | .cleared => .refused error
  | stage => stage

def State.progress (store : RuleStore τ) (calls : Nat → Call τ) (state : State τ) (choice : Choice) :
    Progress τ :=
  let stage := state.stages choice.identifier
  match choice.raises with
  | some error => ⟨stage.refuse error, state.tables, []⟩
  | none => (calls choice.identifier).advance store state.tables stage

/-- Interleaved execution of calls.  A step answers with the update events that it
commits. -/
def interleaving (store : RuleStore τ) (calls : Nat → Call τ) :
    Machine (State τ) Choice (List (UpdateEvent τ)) where
  step := fun choice state =>
    let progress := state.progress store calls choice
    (progress.events,
      { tables := progress.tables
        stages := Function.update state.stages choice.identifier progress.stage })

/-- No call has started. -/
def State.start (tables : Tables τ) : State τ where
  tables
  stages := fun _ => .waiting

/-- The outcomes of the calls that succeeded. -/
def State.outcomeOf (state : State τ) (identifier : Nat) : Option (Outcome τ) :=
  (state.stages identifier).outcome?

/-! ## Updates describe their difference -/

/-- Writes of rules one after the other.  Each write over a stored row has the event
of the difference between that row and the new one. -/
inductive RuleWrites :
    Dict String (RuleRow τ) → List (UpdateEvent τ) → Dict String (RuleRow τ) → Prop
  | nil (rules : Dict String (RuleRow τ)) : RuleWrites rules [] rules
  | create
      {before after : Dict String (RuleRow τ)}
      {events : List (UpdateEvent τ)}
      {ruleId : String}
      {row : RuleRow τ}
      (free : before.get? ruleId = none)
      (rest : RuleWrites (before.set ruleId row) events after) :
      RuleWrites before events after
  | update
      {before after : Dict String (RuleRow τ)}
      {events : List (UpdateEvent τ)}
      {ruleId : String}
      {prior row : RuleRow τ}
      (found : before.get? ruleId = some prior)
      (rest : RuleWrites (before.set ruleId row) events after) :
      RuleWrites before (updateEvent ruleId prior row :: events) after

/-- One write and its event. -/
theorem RuleWrites.write
    {before after : Dict String (RuleRow τ)}
    {events : List (UpdateEvent τ)}
    (rule : String × RuleRow τ)
    (rest : RuleWrites (before.set rule.1 rule.2) events after) :
    RuleWrites before (writeEvents before rule ++ events) after := by
  unfold writeEvents
  cases found : before.get? rule.1 with
  | none => exact .create found rest
  | some prior => exact .update found rest

section Writes

variable {backend : Backend τ} {before after : Tables τ}

theorem rules_updateRule
    {ruleId : String}
    {row : RuleRow τ}
    (updates : updateRule backend ruleId row before = .ok after) :
    (before.rules.get? ruleId).isSome ∧ row.admitted backend ruleId ∧
      after = { before with rules := before.rules.set ruleId row } := by
  simp only [updateRule, bind_eq_ok, ensure_eq_ok, pure_eq_ok] at updates
  obtain ⟨-, found, -, admitted, rfl⟩ := updates
  exact ⟨Option.isSome_iff_ne_none.mpr found, admitted, rfl⟩

theorem rules_upsertAutoApprovalRule
    {ruleId : String}
    {row : RuleRow τ}
    {action : UpsertAction}
    (upserts : upsertAutoApprovalRule backend ruleId row before = .ok (action, after)) :
    after.rules = before.rules.set ruleId row := by
  simp only [upsertAutoApprovalRule, bind_eq_ok] at upserts
  obtain ⟨-, -, upserts⟩ := upserts
  split at upserts
  · simp only [bind_eq_ok, pure_eq_ok, Prod.mk.injEq, addRule, ensure_eq_ok] at upserts
    obtain ⟨added, ⟨-, -, -, -, rfl⟩, -, rfl⟩ := upserts
    rfl
  · simp only [bind_eq_ok, pure_eq_ok, Prod.mk.injEq] at upserts
    obtain ⟨-, -, updated, updates, -, rfl⟩ := upserts
    rw [(rules_updateRule updates).2.2]

theorem rules_upsertSetting
    {workspaceId agentId : String}
    {now : τ}
    {write : SettingsRow τ → SettingsRow τ}
    (sets : before.upsertSetting backend workspaceId agentId now write = .ok after) :
    after.rules = before.rules := by
  simp only [Tables.upsertSetting, bind_eq_ok, ensure_eq_ok, pure_eq_ok] at sets
  obtain ⟨-, -, rfl⟩ := sets
  rfl

theorem rules_setBounds
    {input : Grants.SetBoundsInput}
    {now : τ}
    (sets : setBounds backend input now before = .ok after) :
    after.rules = before.rules := by
  simp only [setBounds, bind_eq_ok, ensure_eq_ok, pure_eq_ok] at sets
  obtain ⟨-, -, -, -, -, -, rfl⟩ := sets
  rfl

/-- The upserts of an application succeed with their events, and the events
describe them. -/
theorem auditedUpserts_of_applyRules
    {rules : List (String × RuleRow τ)}
    {counts countsAfter : Nat × Nat}
    (applies : rules.foldlM (applyRule backend) (counts, before) = .ok (countsAfter, after))
    (recorded : List (UpdateEvent τ)) :
    ∃ events, rules.foldlM (auditedUpsert backend) (before, recorded) =
        .ok (after, recorded ++ events) ∧
      RuleWrites before.rules events after.rules := by
  induction rules generalizing before counts recorded with
  | nil =>
      cases applies
      exact ⟨[], by rw [List.append_nil]; rfl, .nil _⟩
  | cons rule rest inductionHypothesis =>
      rw [List.foldlM_cons, bind_eq_ok] at applies
      obtain ⟨⟨nextCounts, next⟩, applied, restApplies⟩ := applies
      have upserts : ∃ action, upsertAutoApprovalRule backend rule.1 rule.2 before =
          .ok (action, next) := by
        simp only [applyRule, bind_eq_ok] at applied
        obtain ⟨⟨action, upserted⟩, upserts, counted⟩ := applied
        cases action <;> cases counted <;> exact ⟨_, upserts⟩
      obtain ⟨action, upserts⟩ := upserts
      obtain ⟨events, restUpserts, writes⟩ := inductionHypothesis restApplies
        (recorded ++ writeEvents before.rules rule)
      refine ⟨writeEvents before.rules rule ++ events, ?_, ?_⟩
      · rw [List.foldlM_cons, bind_eq_ok]
        refine ⟨(next, recorded ++ writeEvents before.rules rule), ?_, ?_⟩
        · simp only [auditedUpsert, upserts]
          rfl
        · rw [restUpserts, List.append_assoc]
      · apply RuleWrites.write rule
        rw [← rules_upsertAutoApprovalRule upserts]
        exact writes

/-- An application that succeeds records an event for each rule that it updates. -/
theorem applyEvents_of_applyPolicyDocument
    {stableRuleId : StableRuleId}
    {document : PolicyDocument}
    {workspaceId appliedBy : String}
    {now : τ}
    {result : PolicyApplyResult}
    (applies : applyPolicyDocument backend stableRuleId document workspaceId appliedBy now
      before = .ok (result, after)) :
    ∃ events,
      applyEvents backend stableRuleId document workspaceId appliedBy now before = .ok events ∧
      RuleWrites before.rules events after.rules := by
  obtain ⟨counts, written, writes, inserts⟩ := applyPolicyDocument_eq_ok applies
  obtain ⟨-, -, -, recorded, -⟩ := insertPolicyVersion_eq_ok inserts
  simp only [applyWrites, bind_eq_ok, pure_eq_ok, Prod.mk.injEq] at writes
  obtain ⟨-, -, prepared, prepares, bounded, setsBounds, ⟨ruleCounts, ruled⟩, setsRules,
    workspaced, setsWorkspace, agents, setsAgents, -, rfl⟩ := writes
  obtain ⟨events, upserts, describes⟩ := auditedUpserts_of_applyRules setsRules []
  have bounds : bounded.rules = before.rules :=
    foldlM_relates (fun first second : Tables τ => second.rules = first.rules)
      (fun _ => rfl) (fun earlier later => later.trans earlier)
      (fun _ _ _ _ sets => rules_setBounds sets) setsBounds
  have workspace : workspaced.rules = ruled.rules := by
    unfold applyWorkspaceMandate at setsWorkspace
    split at setsWorkspace
    · cases setsWorkspace
      rfl
    · exact rules_upsertSetting setsWorkspace
  have agent : agents.rules = workspaced.rules :=
    foldlM_relates (fun first second : Tables τ => second.rules = first.rules)
      (fun _ => rfl) (fun earlier later => later.trans earlier)
      (fun _ _ _ _ sets => rules_upsertSetting sets) setsAgents
  refine ⟨events, ?_, ?_⟩
  · simp only [applyEvents, bind_eq_ok, pure_eq_ok]
    exact ⟨prepared, prepares, bounded, setsBounds, _, upserts, rfl⟩
  · rw [recorded, agent, workspace, ← bounds]
    exact describes

end Writes

/-! ## Steps -/

/-- What a call under way has checked. -/
def Call.Ready : Call τ → Stage τ → Prop
  | .disable _ workspaceId _ _, .holding row => row.workspaceId = workspaceId
  | .create ruleId row, .cleared => AutoApproval.validateRule (row.untimed ruleId) = .ok ()
  | _, _ => True

/-- The record that a disable is about to write back, as it read it. -/
def Call.held? : Call τ → Stage τ → Option (String × RuleRow τ)
  | .disable ruleId _ _ _, .holding row => some (ruleId, row)
  | _, _ => none

/-- The rule that a disable is about to write over, if there is one, is the rule that
it read. -/
def Call.Undisturbed (tables : Tables τ) (call : Call τ) (stage : Stage τ) : Prop :=
  ∀ held ∈ call.held? stage, ∀ stored ∈ tables.rules.get? held.1, stored = held.2

instance [DecidableEq τ] (tables : Tables τ) (call : Call τ) (stage : Stage τ) :
    Decidable (call.Undisturbed tables stage) :=
  inferInstanceAs (Decidable (∀ held ∈ _, ∀ stored ∈ _, _))

/-- A step commits nothing, or finishes its call. -/
inductive Progress.Spec
    (store : RuleStore τ)
    (tables : Tables τ)
    (call : Call τ)
    (stage : Stage τ)
    (progress : Progress τ) : Prop
  | idle
      (tablesKept : progress.tables = tables)
      (outcomeKept : progress.stage.outcome? = stage.outcome?)
      (silent : progress.events = [])
  | commits
      (outcome : Outcome τ)
      (unfinished : stage.outcome? = none)
      (finished : progress.stage = .finished outcome)
      (executes : call.execute store tables = .ok (outcome, progress.tables))

/-- The stage after a transaction is its outcome or its error. -/
theorem Progress.spec_ofTransaction
    {store : RuleStore τ}
    {tables : Tables τ}
    {call : Call τ}
    {stage : Stage τ}
    {result : Except PolicyError (Outcome τ × Tables τ × List (UpdateEvent τ))}
    (unfinished : stage.outcome? = none)
    (executes : ∀ outcome after events, result = .ok (outcome, after, events) →
      call.execute store tables = .ok (outcome, after)) :
    (Progress.ofTransaction tables result).Spec store tables call stage := by
  cases result with
  | error error => exact .idle rfl unfinished.symm rfl
  | ok committed =>
      exact .commits committed.1 unfinished rfl (executes _ _ _ rfl)

section Advance

variable {store : RuleStore τ} {tables : Tables τ}

theorem execute_disable
    {ruleId workspaceId disabledBy : String}
    {now : τ}
    {row : RuleRow τ}
    {after : Tables τ}
    (mine : row.workspaceId = workspaceId)
    (unchanged : ∀ stored ∈ tables.rules.get? ruleId, stored = row)
    (updates : updateRule store.backend ruleId (row.disable disabledBy now) tables = .ok after) :
    (Call.disable ruleId workspaceId disabledBy now).execute store tables =
      .ok (.disabled (row.disable disabledBy now), after) := by
  obtain ⟨stored, found⟩ := Option.isSome_iff_exists.mp (rules_updateRule updates).1
  obtain rfl := unchanged stored found
  simp only [Call.execute, bind_eq_ok, require_eq_ok, pure_eq_ok]
  refine ⟨stored, ?_, after, updates, rfl⟩
  rw [found, Option.filter_some, if_pos (decide_eq_true mine)]

theorem execute_create
    {ruleId : String}
    {row : RuleRow τ}
    {after : Tables τ}
    (valid : AutoApproval.validateRule (row.untimed ruleId) = .ok ())
    (inserts : insertRule store.backend ruleId row tables = .ok after) :
    (Call.create ruleId row).execute store tables = .ok (.created row, after) := by
  simp only [insertRule, bind_eq_ok, ensure_eq_ok, pure_eq_ok] at inserts
  simp only [Call.execute, createAutoApprovalRule, addRule, bind_eq_ok, ensure_eq_ok, pure_eq_ok,
    mapError_eq_ok]
  exact ⟨after, ⟨(), valid, inserts⟩, rfl⟩

theorem advance_spec
    (call : Call τ)
    (stage : Stage τ)
    (ready : call.Ready stage)
    (undisturbed : call.Undisturbed tables stage) :
    (call.advance store tables stage).Spec store tables call stage := by
  cases call with
  | disable ruleId workspaceId disabledBy now =>
      cases stage with
      | waiting =>
          refine .idle rfl ?_ rfl
          simp only [Call.advance, readRule]
          split <;> rfl
      | holding row =>
          apply Progress.spec_ofTransaction rfl
          intro outcome after events committed
          simp only [bind_eq_ok, pure_eq_ok, Prod.mk.injEq] at committed
          obtain ⟨updated, updates, rfl, rfl, -⟩ := committed
          exact execute_disable ready (undisturbed (ruleId, row) rfl) updates
      | cleared | finished | missing | refused => exact .idle rfl rfl rfl
  | create ruleId row =>
      cases stage with
      | waiting =>
          simp only [Call.advance]
          split <;> exact .idle rfl rfl rfl
      | cleared =>
          apply Progress.spec_ofTransaction rfl
          intro outcome after events committed
          simp only [bind_eq_ok, pure_eq_ok, Prod.mk.injEq] at committed
          obtain ⟨inserted, inserts, rfl, rfl, -⟩ := committed
          exact execute_create ready inserts
      | holding | finished | missing | refused => exact .idle rfl rfl rfl
  | apply document workspaceId appliedBy now =>
      cases stage with
      | waiting =>
          apply Progress.spec_ofTransaction rfl
          intro outcome after events committed
          simp only [bind_eq_ok, pure_eq_ok, Prod.mk.injEq] at committed
          obtain ⟨result, applies, -, -, rfl, rfl, -⟩ := committed
          simp only [Call.execute, applies]
          rfl
      | holding | cleared | finished | missing | refused => exact .idle rfl rfl rfl
  | rollback workspaceId version appliedBy now =>
      cases stage with
      | waiting =>
          apply Progress.spec_ofTransaction rfl
          intro outcome after events committed
          simp only [bind_eq_ok, pure_eq_ok, Prod.mk.injEq] at committed
          obtain ⟨result, rollsBack, rfl, rfl, -⟩ := committed
          simp only [Call.execute, rollsBack]
          rfl
      | holding | cleared | finished | missing | refused => exact .idle rfl rfl rfl

theorem ready_advance
    (call : Call τ)
    (stage : Stage τ)
    (ready : call.Ready stage) :
    call.Ready (call.advance store tables stage).stage := by
  have finishes : ∀ {result : Except PolicyError (Outcome τ × Tables τ × List (UpdateEvent τ))},
      call.Ready (Progress.ofTransaction tables result).stage := by
    intro result
    cases result <;> cases call <;> trivial
  cases call with
  | disable ruleId workspaceId disabledBy now =>
      cases stage with
      | waiting =>
          simp only [Call.advance, readRule]
          split
          · trivial
          · next row found =>
              rw [Option.filter_eq_some_iff] at found
              have mine : row.workspaceId = workspaceId := of_decide_eq_true found.2
              exact mine
      | holding row => exact finishes
      | cleared | finished | missing | refused => trivial
  | create ruleId row =>
      cases stage with
      | waiting =>
          simp only [Call.advance]
          split
          · next checks =>
              simp only [checkCreation, bind_eq_ok, mapError_eq_ok] at checks
              obtain ⟨_, valid, -⟩ := checks
              exact valid
          · trivial
      | cleared => exact finishes
      | holding | finished | missing | refused => trivial
  | apply | rollback =>
      cases stage with
      | waiting => exact finishes
      | holding | cleared | finished | missing | refused => trivial

end Advance

/-! ## Runs -/

section Runs

variable {store : RuleStore τ} {calls : Nat → Call τ}

/-- The record of a step of a run. -/
abbrev Step (τ : Type) := Executed (State τ) Choice (List (UpdateEvent τ))

/-- A step that does not write over another call's change. -/
def Keeps (calls : Nat → Call τ) (executed : Step τ) : Prop :=
  (calls executed.operation.identifier).Undisturbed executed.before.tables
    (executed.before.stages executed.operation.identifier)

/-- A step commits nothing, or finishes its call. -/
theorem progress_spec
    {state : State τ}
    {choice : Choice}
    (ready : (calls choice.identifier).Ready (state.stages choice.identifier))
    (undisturbed : (calls choice.identifier).Undisturbed state.tables
      (state.stages choice.identifier)) :
    (state.progress store calls choice).Spec store state.tables (calls choice.identifier)
      (state.stages choice.identifier) := by
  unfold State.progress
  cases choice.raises with
  | none => exact advance_spec _ _ ready undisturbed
  | some error =>
      refine .idle rfl ?_ rfl
      cases state.stages choice.identifier <;> rfl

theorem ready_progress
    {state : State τ}
    {choice : Choice}
    (ready : (calls choice.identifier).Ready (state.stages choice.identifier)) :
    (calls choice.identifier).Ready (state.progress store calls choice).stage := by
  unfold State.progress
  cases choice.raises with
  | none => exact ready_advance _ _ ready
  | some error =>
      cases stage : state.stages choice.identifier <;> cases call : calls choice.identifier <;>
        rw [stage, call] at ready <;> first | exact ready | trivial

theorem outcomeOf_step (state : State τ) (choice : Choice) :
    ((interleaving store calls).step choice state).2.outcomeOf =
      Function.update state.outcomeOf choice.identifier
        (state.progress store calls choice).stage.outcome? := by
  funext identifier
  by_cases same : identifier = choice.identifier
  · subst same
    simp [State.outcomeOf, interleaving]
  · simp [State.outcomeOf, interleaving, same]

/-- What holds between the steps of a run. -/
structure Serialized
    (store : RuleStore τ)
    (calls : Nat → Call τ)
    (initial : Tables τ)
    (state : State τ) : Prop where
  ready : ∀ identifier, (calls identifier).Ready (state.stages identifier)
  serializable : Serial.Serializable (Call.execute store) calls state.outcomeOf initial
    state.tables

theorem serialized_start (initial : Tables τ) :
    Serialized store calls initial (.start initial) where
  ready := fun identifier => by
    cases calls identifier <;> trivial
  serializable := Serial.serializable_initial

theorem Serialized.step
    {initial : Tables τ}
    {state : State τ}
    (serialized : Serialized store calls initial state)
    {choice : Choice}
    (undisturbed : Keeps calls ((interleaving store calls).execute choice state)) :
    Serialized store calls initial ((interleaving store calls).step choice state).2 := by
  constructor
  · intro identifier
    by_cases same : identifier = choice.identifier
    · subst same
      simp only [interleaving, Function.update_self]
      exact ready_progress (serialized.ready choice.identifier)
    · simp only [interleaving, Function.update_of_ne same]
      exact serialized.ready identifier
  · rw [outcomeOf_step]
    have spec : (state.progress store calls choice).Spec store state.tables _ _ :=
      progress_spec (serialized.ready choice.identifier) undisturbed
    cases spec with
    | idle tablesKept outcomeKept silent =>
        have same : Function.update state.outcomeOf choice.identifier
            (state.progress store calls choice).stage.outcome? = state.outcomeOf := by
          rw [outcomeKept]
          exact Function.update_eq_self choice.identifier state.outcomeOf
        rw [same]
        change Serial.Serializable (Call.execute store) calls state.outcomeOf initial
          (state.progress store calls choice).tables
        rw [tablesKept]
        exact serialized.serializable
    | commits outcome unfinished finished executes =>
        rw [finished]
        exact serialized.serializable.snoc unfinished rfl executes

/-- The calls that succeeded are serializable in a run whose steps all keep the
changes of other calls. -/
theorem serialized_final
    {initial : Tables τ}
    {schedule : List Choice}
    (keeps : ∀ executed ∈ (interleaving store calls).executions (.start initial) schedule,
      Keeps calls executed) :
    Serialized store calls initial ((interleaving store calls).final (.start initial) schedule) := by
  have preserved : ∀ (history : List (Step τ)) (state : State τ) (choice : Choice),
      ((∀ executed ∈ history, Keeps calls executed) → Serialized store calls initial state) →
      (∀ executed ∈ history ++ [(interleaving store calls).execute choice state],
        Keeps calls executed) →
      Serialized store calls initial ((interleaving store calls).step choice state).2 := by
    intro history state choice holds all
    have before := holds fun executed present => all executed (List.mem_append_left _ present)
    exact before.step (all _ (List.mem_append_right _ List.mem_cons_self))
  have start : (∀ executed ∈ ([] : List (Step τ)), Keeps calls executed) →
      Serialized store calls initial (.start initial) := fun _ => serialized_start initial
  exact (interleaving store calls).final_invariant preserved start schedule keeps

/-- The events of a step describe its updates.  A rollback restores rows and
updates none. -/
def Describes (store : RuleStore τ) (calls : Nat → Call τ) (executed : Step τ) : Prop :=
  match calls executed.operation.identifier with
  | .rollback _ _ _ _ => executed.reply = []
  | _ => RuleWrites executed.before.tables.rules executed.reply
      ((interleaving store calls).step executed.operation executed.before).2.tables.rules

theorem RuleWrites.of_advance
    (call : Call τ)
    (stage : Stage τ)
    (tables : Tables τ)
    (updating : ∀ workspaceId version appliedBy now,
      call ≠ .rollback workspaceId version appliedBy now) :
    RuleWrites tables.rules (call.advance store tables stage).events
      (call.advance store tables stage).tables.rules := by
  have transaction : ∀ {result : Except PolicyError (Outcome τ × Tables τ × List (UpdateEvent τ))},
      (∀ outcome after events, result = .ok (outcome, after, events) →
        RuleWrites tables.rules events after.rules) →
      RuleWrites tables.rules (Progress.ofTransaction tables result).events
        (Progress.ofTransaction tables result).tables.rules := by
    intro result describes
    cases result with
    | error error => exact .nil _
    | ok committed => exact describes _ _ _ rfl
  cases call with
  | disable ruleId workspaceId disabledBy now =>
      cases stage with
      | holding row =>
          apply transaction
          intro outcome after events committed
          simp only [bind_eq_ok, pure_eq_ok, Prod.mk.injEq] at committed
          obtain ⟨updated, updates, -, rfl, rfl⟩ := committed
          rw [(rules_updateRule updates).2.2]
          rw [← List.append_nil (writeEvents _ _)]
          exact RuleWrites.write (ruleId, row.disable disabledBy now) (.nil _)
      | waiting | cleared | finished | missing | refused => exact .nil _
  | create ruleId row =>
      cases stage with
      | waiting =>
          simp only [Call.advance]
          split <;> exact .nil _
      | cleared =>
          apply transaction
          intro outcome after events committed
          simp only [bind_eq_ok, pure_eq_ok, Prod.mk.injEq, insertRule, ensure_eq_ok]
            at committed
          obtain ⟨inserted, ⟨-, free, -, -, rfl⟩, -, rfl, rfl⟩ := committed
          exact .create free (.nil _)
      | holding | finished | missing | refused => exact .nil _
  | apply document workspaceId appliedBy now =>
      cases stage with
      | waiting =>
          apply transaction
          intro outcome after events committed
          simp only [bind_eq_ok, pure_eq_ok, Prod.mk.injEq] at committed
          obtain ⟨⟨result, applied⟩, applies, recorded, records, -, rfl, rfl⟩ := committed
          obtain ⟨described, isDescribed, writes⟩ := applyEvents_of_applyPolicyDocument applies
          rw [records] at isDescribed
          cases isDescribed
          exact writes
      | holding | cleared | finished | missing | refused => exact .nil _
  | rollback workspaceId version appliedBy now =>
      exact absurd rfl (updating workspaceId version appliedBy now)

theorem describes_execute (choice : Choice) (state : State τ) :
    Describes store calls ((interleaving store calls).execute choice state) := by
  simp only [Describes, Machine.execute, interleaving, State.progress]
  cases choice.raises with
  | some error =>
      cases calls choice.identifier with
      | rollback => rfl
      | disable | create | apply => exact .nil _
  | none =>
      cases call : calls choice.identifier with
      | rollback workspaceId version appliedBy now =>
          dsimp only
          cases state.stages choice.identifier with
          | waiting =>
              simp only [Call.advance]
              cases rolls : rollbackPolicyVersion store.backend workspaceId version appliedBy now
                state.tables <;> rfl
          | holding | cleared | finished | missing | refused => rfl
      | disable | create | apply =>
          exact RuleWrites.of_advance _ _ _ (by intros; exact nofun)

/-- What a run must keep: the calls that succeeded are serializable, a disable
changes nothing of the stored rule but its status, and every update's event
describes the rule just before and just after it. -/
structure EditsKept
    (store : RuleStore τ)
    (calls : Nat → Call τ)
    (initial : Tables τ)
    (schedule : List Choice) : Prop where
  serializable :
    let final := (interleaving store calls).final (.start initial) schedule
    Serial.Serializable (Call.execute store) calls final.outcomeOf initial final.tables
  disables : ∀ executed ∈ (interleaving store calls).executions (.start initial) schedule,
    ∀ ruleId workspaceId disabledBy now read row,
      calls executed.operation.identifier = .disable ruleId workspaceId disabledBy now →
      executed.before.stages executed.operation.identifier = .holding read →
      let after := ((interleaving store calls).step executed.operation executed.before).2
      after.stages executed.operation.identifier = .finished (.disabled row) →
      ∃ prior, executed.before.tables.rules.get? ruleId = some prior ∧
        row = prior.disable disabledBy now ∧
        after.tables.rules = executed.before.tables.rules.set ruleId row
  events : ∀ executed ∈ (interleaving store calls).executions (.start initial) schedule,
    Describes store calls executed

end Runs

def sqliteRules : RuleStore String where
  backend := sqlite true
  stableRuleId := fun _ rule => rule.name
  looksFirst := true

/-- A rule that approves two scopes. -/
def wideRule : List (Operation String) :=
  [.createRule "rule_ci"
    { workspaceId := "ws_main"
      name := "ci"
      targetAgentId := "agent_ci"
      allowedScopes := ["read:repo/a", "write:repo/a"]
      maxTtlSeconds := 600
      status := .active
      createdBy := "operator"
      createdAt := "2026-07-01T00:00:00+00:00"
      updatedBy := none
      updatedAt := none }]

/-- The first call disables the rule; the others apply a policy that takes one of
its scopes away. -/
def disableAndNarrow (identifier : Nat) : Call String :=
  if identifier = 0 then
    .disable "rule_ci" "ws_main" "operator" "2026-07-01T00:00:02+00:00"
  else
    .apply
      { agentBounds := []
        autoApprovalRules := [
          { ruleId := some "rule_ci"
            name := "ci"
            targetAgentId := "agent_ci"
            allowedScopes := ["read:repo/a"]
            maxTtlSeconds := 600
            status := .active }]
        requireBoundaryWorkspace := none
        requireBoundaryAgents := [] }
      "ws_main" "operator" "2026-07-01T00:00:01+00:00"

def wideTables : Tables String := run (sqlite true) (fun _ rule => rule.name) .empty wideRule

end Policy
end Vinctor
