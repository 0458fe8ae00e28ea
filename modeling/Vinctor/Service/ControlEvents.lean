import Vinctor.Foundation.Machine
import Vinctor.Service.ControlOperations

/-!
# One event for each control operation

Every operation that commits a change commits one control event with it; an
operation that raises or finds nothing to do commits nothing.  Repositories record
an event of their own at depth zero and none inside of a composite, so the proofs are
by the depth.  Every exit puts the depth back, so every operation of a run starts at
depth zero without an open transaction.
-/

namespace Vinctor
namespace Control

open Foundation
open AuditChain
open Script

/-! ## Appended events -/

/-- So many control events were appended to the audit table. -/
def Logs (count : Nat) (before after : Database) : Prop :=
  ∃ rows, rows.length = count ∧ (∀ row ∈ rows, row.eventClass = "control") ∧
    after.audit = before.audit ++ rows

theorem Logs.refl (database : Database) : Logs 0 database database :=
  ⟨[], rfl, by simp, by simp⟩

theorem Logs.of_eq {before after : Database} (same : after.audit = before.audit) :
    Logs 0 before after :=
  ⟨[], rfl, by simp, by simpa using same⟩

theorem Logs.trans
    {first second third : Database}
    {earlier later : Nat}
    (logs : Logs earlier first second)
    (logs' : Logs later second third) :
    Logs (earlier + later) first third := by
  obtain ⟨rows, count, control, appended⟩ := logs
  obtain ⟨rows', count', control', appended'⟩ := logs'
  refine ⟨rows ++ rows', by rw [List.length_append, count, count'], ?_, ?_⟩
  · intro row present
    rcases List.mem_append.mp present with inFirst | inSecond
    · exact control row inFirst
    · exact control' row inSecond
  · rw [appended', appended, List.append_assoc]

theorem Logs.silent_trans
    {first second third : Database}
    (logs : Logs 0 first second)
    (logs' : Logs 0 second third) :
    Logs 0 first third := logs.trans logs'

theorem logs_writeEvent
    {sha256 : Bytes → Bytes}
    {before after : Database}
    {input : ControlEventInput}
    (writes : writeEvent sha256 before.audit (buildControlAuditEvent input) = some after.audit) :
    Logs 1 before after := by
  obtain ⟨row, isRow, inserts⟩ := Option.bind_eq_some_iff.mp writes
  have isControl : row.eventClass = "control" := by
    simp only [nextRow, bind, Option.bind_eq_some_iff] at isRow
    obtain ⟨eventJson, -, seq, -, isRow⟩ := isRow
    rw [← Option.some.inj isRow]
    rfl
  unfold insertRow at inserts
  split at inserts
  · cases inserts
  · exact ⟨[row], rfl, by simpa using isControl, (Option.some.inj inserts).symm⟩

/-! ## Statements and records -/

section Parts

variable {depth : Nat} {config : Config}

theorem establishes_controlStatement
    (change : ControlState → Except ControlError (α × ControlState)) :
    Establishes depth (controlStatement change) fun _ => Logs 0 := by
  refine (establishes_statement _ _).weaken ?_
  intro result before after changes
  simp only [Fallible.bind_eq_ok, Fallible.pure_eq_ok, Prod.mk.injEq] at changes
  obtain ⟨changed, -, -, rfl⟩ := changes
  exact .of_eq rfl

theorem establishes_policyStatement
    (change : Policy.Tables String → Except Policy.PolicyError (Policy.Tables String)) :
    Establishes depth (policyStatement change) fun _ => Logs 0 :=
  establishes_controlStatement _

theorem establishes_raise (error : ControlError) {post : α → Database → Database → Prop} :
    Establishes depth (raise error) post :=
  (establishes_check _).weaken fun _ _ _ raised => by cases raised.1

/-- A query that is followed by code for each of its answers. -/
theorem establishes_controlQuery_bind
    (read : ControlState → α)
    {continuation : α → Action β}
    {post : β → Database → Database → Prop}
    (continues : ∀ result, Establishes depth (continuation result) post) :
    Establishes depth (controlQuery read >>= continuation) post :=
  establishes_query_bind (fun _ => post) _ _ continues

/-- A script that logs nothing, and one that logs. -/
theorem Establishes.silent_bind
    {script : Action α}
    {continuation : α → Action β}
    {count : Nat}
    (first : Establishes depth script fun _ => Logs 0)
    (second : ∀ result, Establishes depth (continuation result) fun _ => Logs count) :
    Establishes depth (script >>= continuation) fun _ => Logs count := by
  refine (first.bind second).weaken ?_
  rintro result before after ⟨_, _, logs, logs'⟩
  have both := logs.trans logs'
  rwa [Nat.zero_add] at both

/-- A script that logs, and one that logs nothing. -/
theorem Establishes.bind_silent
    {script : Action α}
    {continuation : α → Action β}
    {count : Nat}
    (first : Establishes depth script fun _ => Logs count)
    (second : ∀ result, Establishes depth (continuation result) fun _ => Logs 0) :
    Establishes depth (script >>= continuation) fun _ => Logs count := by
  refine (first.bind second).weaken ?_
  rintro result before after ⟨_, _, logs, logs'⟩
  exact logs.trans logs'

/-- What is returned logs nothing. -/
theorem establishes_return (value : α) :
    Establishes depth (pure value : Action α) fun _ => Logs 0 :=
  (establishes_pure value).weaken fun _ before _ same => same.2 ▸ Logs.refl before

theorem establishes_auditWrite (input : ControlEventInput) :
    Establishes depth (auditWrite config (buildControlAuditEvent input)) fun _ => Logs 1 := by
  apply Establishes.joins
  refine ((establishes_query _ _).bind fun _ => establishes_statement _ _).weaken ?_
  rintro result before after ⟨_, between, ⟨-, rfl⟩, writes⟩
  split at writes
  · next audit isAudit =>
      obtain ⟨-, rfl⟩ := Prod.mk.inj (Except.ok.inj writes)
      exact logs_writeEvent isAudit
  · cases writes

/-- Events that a repository records at a depth: one, unless a composite suppresses
them. -/
def due (depth : Nat) : Nat := if depth = 0 then 1 else 0

theorem establishes_record (input : ControlEventInput) :
    Establishes depth (record config input) fun _ => Logs (due depth) := by
  apply establishes_memory_bind
  unfold due
  split
  · exact establishes_auditWrite input
  · exact establishes_return ()

end Parts

/-! ## Repositories -/

/-- A script that records its own event: joined to a transaction it logs what is due
at its depth, and alone it commits one event. -/
structure Audited (script : Action α) : Prop where
  joined : ∀ depth, Establishes depth script fun _ => Logs (due depth)
  alone : Commits 0 script fun _ => Logs 1

namespace Audited

theorem of_scope
    {script : Action α}
    (logs : ∀ depth, Establishes depth script fun _ => Logs (due depth)) :
    Audited (writeScope .operational script) where
  joined := fun depth => (logs depth).joins _
  alone := (logs 0).commits_scope _

theorem of_raise (error : ControlError) : Audited (raise error : Action α) where
  joined := fun _ => establishes_raise error
  alone := (commits_check _).weaken fun _ _ _ raised => by cases raised.1

theorem after_check
    (outcome : Except ControlError α)
    {continuation : α → Action β}
    (continues : ∀ result, Audited (continuation result)) :
    Audited (check outcome >>= continuation) where
  joined := fun depth => establishes_check_bind outcome fun result => (continues result).joined depth
  alone := commits_check_bind outcome fun result => (continues result).alone

theorem after_query
    (read : ControlState → α)
    {continuation : α → Action β}
    (continues : ∀ result, Audited (continuation result)) :
    Audited (controlQuery read >>= continuation) where
  joined := fun depth =>
    establishes_controlQuery_bind read fun result => (continues result).joined depth
  alone := commits_query_bind (fun _ _ => Logs 1) _ _ fun result => (continues result).alone

/-- What is made of the answer does not matter. -/
theorem map
    {script : Action α}
    (audited : Audited script)
    (change : α → β) :
    Audited (script >>= fun result => pure (change result)) where
  joined := fun depth => Establishes.bind_silent (audited.joined depth) fun _ => establishes_return _
  alone := by
    have mapped := audited.alone.map change
    rwa [map_eq_pure_bind] at mapped

end Audited

/-- A change and the event of it. -/
theorem establishes_change_record
    {config : Config}
    {depth : Nat}
    {script : Action α}
    (silent : Establishes depth script fun _ => Logs 0)
    (input : α → ControlEventInput) :
    Establishes depth (script >>= fun result => record config (input result)) fun _ =>
      Logs (due depth) := by
  exact Establishes.silent_bind silent fun result => establishes_record (input result)

section Repositories

variable (config : Config)

theorem audited_setBounds
    (eventId : String)
    (input : Grants.SetBoundsInput)
    (now : Instant)
    (enforcingPrincipal : Option String) :
    Audited (setBounds config eventId input now enforcingPrincipal) := by
  refine .after_check _ fun _ => .after_check _ fun _ => .of_scope fun depth => ?_
  exact establishes_change_record (establishes_policyStatement _) fun _ => _

theorem audited_setMandate
    (setting : String)
    (write : String → String → Bool → String → Policy.Tables String →
      Except Policy.PolicyError (Policy.Tables String))
    (eventId workspaceId agentId : String)
    (required : Bool)
    (now : Instant)
    (enforcingPrincipal : Option String) :
    Audited (setMandate config setting write eventId workspaceId agentId required now
      enforcingPrincipal) := by
  refine .of_scope fun depth => ?_
  exact establishes_change_record (establishes_policyStatement _) fun _ => _

theorem audited_addRule
    (eventId ruleId : String)
    (row : Policy.RuleRow String)
    (createdAt : Instant) :
    Audited (addRule config eventId ruleId row createdAt) := by
  refine .after_query _ fun existing => ?_
  cases existing with
  | some _ => exact .of_raise _
  | none =>
      refine .of_scope fun depth => ?_
      exact establishes_change_record (establishes_policyStatement _) fun _ => _

theorem audited_updateRule
    (eventId ruleId : String)
    (row : Policy.RuleRow String)
    (updatedAt : Instant) :
    Audited (updateRule config eventId ruleId row updatedAt) := by
  refine .of_scope fun depth => ?_
  refine establishes_controlQuery_bind _ fun prior => ?_
  cases prior with
  | none => exact establishes_raise _
  | some prior => exact establishes_change_record (establishes_policyStatement _) fun _ => _

end Repositories

/-! ## Operations -/

/-- An operation that finds nothing to do leaves the database as it is; another one
logs an event. -/
structure Recorded (nothing : Prop) (before after : Database) : Prop where
  idle : nothing → after = before
  logged : ¬nothing → Logs 1 before after

theorem Recorded.of_eq {nothing : Prop} {before after : Database} (same : after = before)
    (idle : nothing) : Recorded nothing before after where
  idle := fun _ => same
  logged := fun busy => absurd idle busy

theorem Recorded.of_logs {nothing : Prop} {before after : Database} (logs : Logs 1 before after)
    (busy : ¬nothing) : Recorded nothing before after where
  idle := fun idle => absurd idle busy
  logged := fun _ => logs

theorem Establishes.recorded
    {script : Action α}
    {depth : Nat}
    {nothing : Prop}
    (logs : Establishes depth script fun _ => Logs 1)
    (busy : ¬nothing) :
    Establishes depth script fun _ before after => Recorded nothing before after :=
  logs.weaken fun _ _ _ logged => .of_logs logged busy

theorem Audited.recorded {script : Action α} (audited : Audited script) :
    Commits 0 script fun _ before after => Recorded False before after :=
  audited.alone.weaken fun _ _ _ logs => .of_logs logs id

section Boundaries

variable (config : Config)

theorem audited_addAudited
    (eventId : String)
    (boundary : Boundary)
    (operation : BoundaryOperation)
    (enforcingPrincipal : Option String) :
    Audited (addAudited config eventId boundary operation enforcingPrincipal) := by
  unfold addAudited
  cases presentText enforcingPrincipal with
  | none => exact .of_raise _
  | some principal =>
      refine .map ?_ fun _ => boundary
      refine .of_scope fun depth => ?_
      exact establishes_change_record (establishes_controlStatement _) fun _ => _

theorem audited_registerBoundary
    (eventId : String)
    (registration : BoundaryRegistrationInput)
    (now : Instant)
    (boundaryId : Option String)
    (token : String)
    (enforcingPrincipal : Option String) :
    Audited (registerBoundary config eventId registration now boundaryId token
      enforcingPrincipal) := by
  unfold registerBoundary
  cases Registry.parseMode registration.mode with
  | none => exact .of_raise _
  | some mode =>
      dsimp only
      cases Registry.parseStatus registration.status with
      | none => exact .of_raise _
      | some status =>
          refine .after_query _ fun taken => ?_
          cases taken with
          | true => exact .of_raise _
          | false => exact audited_addAudited config _ _ _ _

theorem commits_changeBoundary
    (operation : BoundaryOperation)
    (change : Boundary → Boundary)
    (eventId boundaryId workspaceId : String)
    (enforcingPrincipal : Option String) :
    Commits 0 (changeBoundary config operation change eventId boundaryId workspaceId
      enforcingPrincipal) fun _ before after =>
        Recorded (Registry.getBoundaryForWorkspace before.control.boundaries boundaryId
          workspaceId = none) before after := by
  refine commits_query_bind (fun found _ before after => Recorded (found = none) before after) _ _
    fun found => ?_
  cases found with
  | none => exact (commits_pure _).weaken fun _ _ _ same => .of_eq same.2 rfl
  | some boundary =>
      exact ((audited_addAudited config _ _ _ _).map some).alone.weaken
        fun _ _ _ logs => .of_logs logs nofun

end Boundaries

/-! ## Keys -/

section Keys

variable (config : Config)

theorem establishes_createKey
    (depth : Nat)
    (keyType : KeyType)
    (rawPrefix workspaceId : String)
    (agentId : Option String)
    (tokens : KeyTokens)
    (now : Instant) :
    Establishes depth (createKey config keyType rawPrefix workspaceId agentId tokens now)
      fun _ => Logs 0 :=
  Establishes.silent_bind ((establishes_controlStatement _).joins _) fun _ => establishes_return _

theorem establishes_revokeKey (depth : Nat) (keyId : String) (now : Instant) :
    Establishes depth (revokeKey keyId now) fun _ => Logs 0 := by
  refine establishes_controlQuery_bind _ fun found => ?_
  cases found with
  | none => exact establishes_return none
  | some record =>
      dsimp only
      split
      · exact establishes_return _
      · exact Establishes.silent_bind ((establishes_controlStatement _).joins _)
          fun _ => establishes_return _

theorem establishes_revokePrior
    (depth : Nat)
    (workspaceId newKeyId : String)
    (keep : LocalKeyRecord → Bool)
    (now : Instant) :
    Establishes depth (revokePrior workspaceId newKeyId keep now) fun _ => Logs 0 := by
  refine establishes_controlQuery_bind _ fun records => ?_
  refine Establishes.silent_bind (Establishes.forM Logs.refl Logs.silent_trans ?_)
    fun _ => establishes_return _
  intro record _
  exact Establishes.silent_bind (establishes_revokeKey depth record.keyId now)
    fun _ => establishes_return _

/-- A key operation owns its transaction. -/
theorem commits_keyTransaction
    {script : Action α}
    {post : α → Database → Database → Prop}
    (establishes : Establishes 0 script post) :
    Commits 0 (keyTransaction script) post :=
  commits_inTransaction_bind (establishes.commits _)

theorem commits_rotateKey
    (rotation : Rotation)
    (tokens : KeyTokens)
    (now : Instant)
    (enforcingPrincipal : Option String) :
    Commits 0 (rotateKey config rotation tokens now enforcingPrincipal) fun _ => Logs 1 := by
  apply commits_keyTransaction
  refine Establishes.silent_bind (establishes_createKey config 0 _ _ _ _ _ _) fun created => ?_
  refine Establishes.silent_bind (establishes_revokePrior 0 _ _ _ _) fun revoked => ?_
  exact Establishes.bind_silent (establishes_record _) fun _ => establishes_return _

theorem commits_createPepLocalKey
    (tokens : KeyTokens)
    (workspaceId pepId : String)
    (now : Instant)
    (enforcingPrincipal : Option String) :
    Commits 0 (createPepLocalKey config tokens workspaceId pepId now enforcingPrincipal)
      fun _ => Logs 1 := by
  apply commits_keyTransaction
  refine Establishes.silent_bind (establishes_createKey config 0 _ _ _ _ _ _) fun created => ?_
  exact Establishes.bind_silent (establishes_record _) fun _ => establishes_return _

theorem commits_revokeLocalKey
    (eventId keyId : String)
    (now : Instant)
    (enforcingPrincipal : Option String) :
    Commits 0 (revokeLocalKey config eventId keyId now enforcingPrincipal) fun _ before after =>
      Recorded (∀ record ∈ before.control.keys.get? keyId, record.status = .revoked)
        before after := by
  apply commits_keyTransaction
  refine establishes_query_bind (fun (found : Option LocalKeyRecord) _ before after =>
    Recorded (∀ record ∈ found, record.status = .revoked) before after)
    ControlError.operational (fun database => database.control.keys.get? keyId) fun found => ?_
  cases found with
  | none => exact (establishes_pure _).weaken fun _ _ _ same => .of_eq same.2 (by simp)
  | some existing =>
      dsimp only
      split
      · next isRevoked =>
          exact (establishes_pure _).weaken fun _ _ _ same => .of_eq same.2 (by simpa using isRevoked)
      · next isActive =>
          refine Establishes.recorded ?_ fun revoked => isActive (revoked existing rfl)
          refine Establishes.silent_bind (establishes_revokeKey 0 keyId now) fun revoked => ?_
          exact Establishes.bind_silent (establishes_record _) fun _ => establishes_return _

end Keys

/-! ## Policies -/

section Policies

variable (config : Config)

theorem establishes_prepareRule
    (depth : Nat)
    (workspaceId appliedBy : String)
    (now : Instant)
    (parsed : Policy.ParsedRule) :
    Establishes depth (prepareRule config workspaceId appliedBy now parsed) fun _ => Logs 0 := by
  refine Establishes.silent_bind (Establishes.forM Logs.refl Logs.silent_trans ?_) fun _ => ?_
  · intro scope _
    exact (establishes_check _).weaken fun _ before _ same => same.2 ▸ Logs.refl before
  · exact establishes_controlQuery_bind _ fun existing => establishes_return _

/-- Inside of a composite an upsert records nothing. -/
theorem establishes_upsertAutoApprovalRule
    (now : Instant)
    (rule : String × Policy.RuleRow String) :
    Establishes 1 (upsertAutoApprovalRule config now rule) fun _ => Logs 0 := by
  refine establishes_check_bind _ fun _ => ?_
  refine establishes_controlQuery_bind _ fun existing => ?_
  cases existing with
  | none =>
      exact Establishes.silent_bind ((audited_addRule config _ _ _ _).joined 1)
        fun _ => establishes_return _
  | some existing =>
      dsimp only
      split
      · exact establishes_raise _
      · exact Establishes.silent_bind ((audited_updateRule config _ _ _ _).joined 1)
          fun _ => establishes_return _

theorem establishes_insertPolicyVersion
    (depth : Nat)
    (workspaceId : String)
    (action : Policy.PolicyAction)
    (sourceVersion : Option Nat)
    (appliedBy : String)
    (now : Instant) :
    Establishes depth (insertPolicyVersion config workspaceId action sourceVersion appliedBy now)
      fun _ => Logs 0 := by
  refine establishes_controlQuery_bind _ fun _ => ?_
  refine Establishes.silent_bind (Establishes.forM Logs.refl Logs.silent_trans ?_)
    fun _ => establishes_controlStatement _
  intro _ _
  exact (establishes_query _ _).weaken fun _ before _ same => same.2 ▸ Logs.refl before

theorem establishes_applyPolicyDocument
    (document : Policy.PolicyDocument)
    (workspaceId appliedBy : String)
    (now : Instant) :
    Establishes 1 (applyPolicyDocument config document workspaceId appliedBy now)
      fun _ => Logs 0 := by
  refine Establishes.silent_bind (Establishes.forM Logs.refl Logs.silent_trans ?_) fun _ => ?_
  · intro parsed _
    exact (establishes_check _).weaken fun _ before _ same => same.2 ▸ Logs.refl before
  refine Establishes.silent_bind (Establishes.mapM Logs.refl Logs.silent_trans fun parsed _ =>
    establishes_prepareRule config 1 _ _ _ parsed) fun prepared => ?_
  refine Establishes.silent_bind (Establishes.forM Logs.refl Logs.silent_trans fun parsed _ =>
    (audited_setBounds config _ _ _ _).joined 1) fun _ => ?_
  refine Establishes.silent_bind (Establishes.mapM Logs.refl Logs.silent_trans fun rule _ =>
    establishes_upsertAutoApprovalRule config now rule) fun actions => ?_
  refine Establishes.silent_bind (Establishes.forM Logs.refl Logs.silent_trans fun required _ =>
    (audited_setMandate config _ _ _ _ _ _ _ _).joined 1) fun _ => ?_
  refine Establishes.silent_bind (Establishes.forM Logs.refl Logs.silent_trans fun agentId _ =>
    (audited_setMandate config _ _ _ _ _ _ _ _).joined 1) fun _ => ?_
  exact Establishes.silent_bind (establishes_insertPolicyVersion config 1 _ _ _ _ _)
    fun version => establishes_return _

/-- A composite logs its own event and none of its parts'. -/
theorem establishes_composite
    {operation : Action (α × Option ControlEventInput)}
    (silent : Establishes 1 operation fun _ => Logs 0) :
    Establishes 0 (composite config operation) fun _ => Logs 1 := by
  refine establishes_memory_bind ?_
  rw [if_neg (by decide)]
  refine establishes_inTransaction_bind ?_
  rw [if_pos rfl]
  refine Establishes.silent_bind (Establishes.within silent) fun outcome => ?_
  obtain ⟨result, event⟩ := outcome
  cases event with
  | none => exact establishes_raise _
  | some input =>
      exact Establishes.bind_silent (establishes_auditWrite input) fun _ => establishes_return _

theorem commits_applyPolicyFile
    (eventId : String)
    (documentWorkspaceId : Option String)
    (document : Policy.PolicyDocument)
    (workspaceId appliedBy : String)
    (now : Instant) :
    Commits 0 (applyPolicyFile config eventId documentWorkspaceId document workspaceId appliedBy
      now) fun _ => Logs 1 := by
  refine commits_check_bind _ fun _ => Establishes.commits (establishes_composite config ?_) _
  exact Establishes.silent_bind
    (establishes_applyPolicyDocument config document workspaceId appliedBy now)
    fun result => establishes_return _

theorem establishes_restorePolicySnapshot
    (depth : Nat)
    (workspaceId : String)
    (snapshot : Policy.PolicySnapshot)
    (now : Instant) :
    Establishes depth (restorePolicySnapshot config workspaceId snapshot now) fun _ => Logs 0 := by
  have loop : ∀ {α : Type} (list : List α) (change : α → Policy.Tables String →
      Except Policy.PolicyError (Policy.Tables String)),
      Establishes depth (list.forM fun entry => policyStatement (change entry))
        fun _ => Logs 0 :=
    fun list change => Establishes.forM Logs.refl Logs.silent_trans
      fun entry _ => establishes_policyStatement (change entry)
  refine Establishes.silent_bind (establishes_policyStatement _) fun _ => ?_
  refine Establishes.silent_bind (loop _ _) fun _ => ?_
  refine Establishes.silent_bind (establishes_policyStatement _) fun _ => ?_
  refine Establishes.silent_bind (loop _ _) fun _ => ?_
  refine Establishes.silent_bind (establishes_policyStatement _) fun _ => ?_
  refine Establishes.silent_bind (establishes_policyStatement _) fun _ => ?_
  exact loop _ _

theorem commits_rollbackPolicyVersion
    (eventId workspaceId : String)
    (version : Nat)
    (appliedBy : String)
    (now : Instant) :
    Commits 0 (rollbackPolicyVersion config eventId workspaceId version appliedBy now)
      fun _ => Logs 1 := by
  refine Establishes.commits ?_ _
  refine establishes_controlQuery_bind _ fun row => ?_
  cases row with
  | none => exact establishes_raise _
  | some row =>
      refine establishes_check_bind _ fun snapshot => ?_
      refine Establishes.silent_bind (establishes_restorePolicySnapshot config 0 _ _ _)
        fun _ => ?_
      refine Establishes.silent_bind (establishes_insertPolicyVersion config 0 _ _ _ _ _)
        fun newVersion => ?_
      exact Establishes.bind_silent (establishes_record _) fun _ => establishes_return _

end Policies

/-! ## Runs -/

/-- What an operation finds nothing to do about: a key that is unknown or revoked, and a
boundary that its workspace does not have. -/
def Operation.NothingToDo (control : ControlState) : Operation → Prop
  | .revokeLocalKey _ keyId _ _ =>
      ∀ record ∈ control.keys.get? keyId, record.status = .revoked
  | .enableBoundary _ boundaryId workspaceId _ _ | .disableBoundary _ boundaryId workspaceId _ _ =>
      Registry.getBoundaryForWorkspace control.boundaries boundaryId workspaceId = none
  | _ => False

theorem commits_script (config : Config) (operation : Operation) :
    Commits 0 (operation.script config) fun _ before after =>
      Recorded (operation.NothingToDo before.control) before after := by
  have logged : ∀ {script : Action Reply}, (Commits 0 script fun _ => Logs 1) →
      Commits 0 script fun _ before after => Recorded False before after :=
    fun commits => commits.weaken fun _ _ _ logs => .of_logs logs id
  cases operation with
  | setBounds => exact (audited_setBounds config _ _ _ _).recorded.map _
  | setRequireBoundary | setRequireSubjectToken | setRequirePop =>
      exact (audited_setMandate config _ _ _ _ _ _ _ _).recorded.map _
  | addRule => exact (audited_addRule config _ _ _ _).recorded.map _
  | updateRule => exact (audited_updateRule config _ _ _ _).recorded.map _
  | registerBoundary => exact (audited_registerBoundary config _ _ _ _ _ _).recorded.map _
  | enableBoundary | disableBoundary => exact (commits_changeBoundary config _ _ _ _ _ _).map _
  | applyPolicy => exact logged ((commits_applyPolicyFile config _ _ _ _ _ _).map _)
  | rollbackPolicy => exact logged ((commits_rollbackPolicyVersion config _ _ _ _ _).map _)
  | rotateWorkspaceKey | rotateAuditorKey | rotateServiceOperatorKey | rotateAgentKey
  | rotatePepKey => exact logged ((commits_rotateKey config _ _ _ _).map _)
  | revokeLocalKey => exact (commits_revokeLocalKey config _ _ _ _).map _
  | createPepLocalKey => exact logged ((commits_createPepLocalKey config _ _ _ _ _).map _)

/-- The service as a machine that executes one operation after the other. -/
def serviceMachine (config : Config) :
    Machine (Session Database Nat) Operation (Except ControlError Reply) where
  step := fun operation session => (operation.script config).exec session

/-- A connection without an open transaction, at depth zero. -/
def idleSession (database : Database) (faults : List (Option Fault)) : Session Database Nat where
  committed := database
  working := none
  memory := 0
  faults

/-- Between two operations of a run no transaction is open and the depth is zero. -/
theorem idle_executions
    (config : Config)
    {database : Database}
    {faults : List (Option Fault)}
    {operations : List Operation}
    {executed : Executed (Session Database Nat) Operation (Except ControlError Reply)}
    (present : executed ∈
      (serviceMachine config).executions (idleSession database faults) operations) :
    executed.before.working = none ∧ executed.before.memory = 0 := by
  have preserved : ∀ (session : Session Database Nat) (operation : Operation),
      session.working = none ∧ session.memory = 0 →
        ((serviceMachine config).step operation session).2.working = none ∧
        ((serviceMachine config).step operation session).2.memory = 0 := by
    intro session operation idle
    obtain ⟨idle, depth, -, -⟩ := (commits_script config operation).holds session idle.1 idle.2
    exact ⟨idle, depth⟩
  have start : (idleSession database faults).working = none ∧
      (idleSession database faults).memory = 0 := ⟨rfl, rfl⟩
  exact (serviceMachine config).invariant_before preserved start present

/-- In every run of control operations, with a failure possible at any statement: an
operation that raises commits nothing, one that finds nothing to do commits nothing,
and every other one that returns commits exactly one control event with its change. -/
theorem control_operations_log_once
    (config : Config)
    (database : Database)
    (faults : List (Option Fault))
    (operations : List Operation) :
    ∀ executed ∈ (serviceMachine config).executions (idleSession database faults) operations,
      let before := executed.before.committed
      let after := ((serviceMachine config).step executed.operation executed.before).2.committed
      match executed.reply with
      | .error _ => after = before
      | .ok _ =>
          (executed.operation.NothingToDo before.control → after = before) ∧
          (¬executed.operation.NothingToDo before.control →
            ∃ row, row.eventClass = "control" ∧ after.audit = before.audit ++ [row]) := by
  intro executed present
  obtain ⟨idle, depth⟩ := idle_executions config present
  obtain ⟨-, -, raises, returns⟩ :=
    (commits_script config executed.operation).holds executed.before idle depth
  have isReply : executed.reply =
      ((executed.operation.script config).exec executed.before).1 :=
    congrArg Executed.reply ((serviceMachine config).eq_execute_of_mem_executions present)
  dsimp only
  rw [isReply]
  cases reply : ((executed.operation.script config).exec executed.before).1 with
  | error error => exact raises error reply
  | ok answer =>
      have recorded := returns answer reply
      refine ⟨recorded.idle, ?_⟩
      intro busy
      obtain ⟨rows, count, control, appended⟩ := recorded.logged busy
      obtain ⟨row, rfl⟩ := List.length_eq_one_iff.mp count
      exact ⟨row, control row List.mem_cons_self, appended⟩

/-- A service whose digests are constant. -/
def plainConfig : Config where
  sha256 := fun _ => []
  requireBoundaryDefault := false
  stableRuleId := fun _ _ => "rule"
  hashKey := id

def emptyDatabase : Database where
  control := ⟨.empty, .empty, .empty⟩
  audit := []

/-- The creation of a key in an empty database returns and commits its one event. -/
theorem key_creation_logs_once :
    let operation := Operation.createPepLocalKey ⟨"evt_1", "1", "secret"⟩ "ws" "pep" 0 (some "op")
    let step := (serviceMachine plainConfig).step operation (idleSession emptyDatabase [])
    (∃ reply, step.1 = .ok reply) ∧
      ∃ row, row.eventClass = "control" ∧ step.2.committed.audit = [] ++ [row] := by
  intro operation step
  have recorded := control_operations_log_once plainConfig emptyDatabase [] [operation]
    ((serviceMachine plainConfig).execute operation (idleSession emptyDatabase []))
    List.mem_cons_self
  have replies : step.1.isOk = true := by decide +kernel
  obtain ⟨reply, isReply⟩ := Fallible.exists_eq_ok_of_isOk replies
  refine ⟨⟨reply, isReply⟩, ?_⟩
  have isReply : ((serviceMachine plainConfig).execute operation
      (idleSession emptyDatabase [])).reply = .ok reply := isReply
  simp only [isReply] at recorded
  exact recorded.2 id

end Control
end Vinctor
