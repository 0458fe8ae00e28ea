import Vinctor.Service.ControlEvents

/-!
# Boundaries of other workspaces

What a call for one workspace does to the boundaries of the others, in the registry
in memory and in the table.  Enabling and disabling look the boundary up in the
workspace first.  A registration writes under an identifier that the caller may
choose, without asking whose it is: one that another workspace holds takes the
boundary away from it.
-/

namespace Vinctor
namespace BoundaryFrames

open Foundation
open Registry

/-- Calls for a workspace. -/
inductive BoundaryCall
  | register (registration : BoundaryRegistrationInput) (now : Instant)
      (boundaryId : Option String) (token : String)
  | enable (boundaryId workspaceId : String) (now : Instant)
  | disable (boundaryId workspaceId : String) (now : Instant)

def BoundaryCall.workspaceId : BoundaryCall → String
  | .register registration _ _ _ => registration.workspaceId
  | .enable _ workspaceId _ => workspaceId
  | .disable _ workspaceId _ => workspaceId

/-- The registry in memory after a call.  A registration that is refused leaves it. -/
def BoundaryCall.inMemory (registry : BoundaryRegistry) : BoundaryCall → BoundaryRegistry
  | .register registration now boundaryId token =>
      match registerBoundary registry registration now boundaryId token with
      | .ok (_, after) => after
      | .error _ => registry
  | .enable boundaryId workspaceId now => (enableBoundary registry boundaryId workspaceId now).2
  | .disable boundaryId workspaceId now => (disableBoundary registry boundaryId workspaceId now).2

/-- The call on the table, with its event and its principal. -/
def BoundaryCall.audited
    (eventId : String)
    (enforcingPrincipal : Option String) : BoundaryCall → Control.Operation
  | .register registration now boundaryId token =>
      .registerBoundary eventId registration now boundaryId token enforcingPrincipal
  | .enable boundaryId workspaceId now =>
      .enableBoundary eventId boundaryId workspaceId now enforcingPrincipal
  | .disable boundaryId workspaceId now =>
      .disableBoundary eventId boundaryId workspaceId now enforcingPrincipal

/-- The boundaries of other workspaces are the same before and after. -/
def KeepsOthers (workspaceId : String) (before after : BoundaryRegistry) : Prop :=
  ∀ boundary, boundary.workspaceId ≠ workspaceId →
    (boundary ∈ after.values ↔ boundary ∈ before.values)

/-- Every boundary stands under its identifier. -/
def Keyed (registry : BoundaryRegistry) : Prop :=
  ∀ boundaryId boundary, registry.get? boundaryId = some boundary →
    boundary.boundaryId = boundaryId

theorem Keyed.set
    {registry : BoundaryRegistry}
    (keyed : Keyed registry)
    (boundary : Boundary) :
    Keyed (registry.set boundary.boundaryId boundary) := by
  intro boundaryId found
  rw [Dict.get?_set]
  split
  · next same =>
      intro isFound
      rw [← Option.some.inj isFound, same]
  · exact keyed boundaryId found

theorem Keyed.mem_values_iff
    {registry : BoundaryRegistry}
    (keyed : Keyed registry)
    {boundary : Boundary} :
    boundary ∈ registry.values ↔ registry.get? boundary.boundaryId = some boundary := by
  rw [Dict.mem_values_iff]
  constructor
  · rintro ⟨boundaryId, found⟩
    rw [keyed boundaryId boundary found]
    exact found
  · exact fun found => ⟨_, found⟩

/-- Writing a boundary of a workspace touches another one's exactly when the
identifier is another one's. -/
theorem keepsOthers_set_iff
    {registry : BoundaryRegistry}
    (keyed : Keyed registry)
    (boundary : Boundary) :
    KeepsOthers boundary.workspaceId registry (registry.set boundary.boundaryId boundary) ↔
      ∀ held ∈ registry.get? boundary.boundaryId, held.workspaceId = boundary.workspaceId := by
  constructor
  · intro keeps held isHeld
    by_contra other
    have isId := keyed _ held isHeld
    have stays := (keeps held other).mpr (keyed.mem_values_iff.mpr (by rw [isId]; exact isHeld))
    rw [(keyed.set boundary).mem_values_iff, isId, Dict.get?_set_self] at stays
    exact other (congrArg Boundary.workspaceId (Option.some.inj stays)).symm
  · intro home other isOther
    rw [(keyed.set boundary).mem_values_iff, keyed.mem_values_iff]
    by_cases same : other.boundaryId = boundary.boundaryId
    · rw [same, Dict.get?_set_self]
      constructor
      · intro isBoundary
        rw [← Option.some.inj isBoundary] at isOther
        exact absurd rfl isOther
      · intro isHeld
        exact absurd (home other isHeld) isOther
    · rw [Dict.get?_set_of_ne _ _ same]

theorem keepsOthers_refl (workspaceId : String) (registry : BoundaryRegistry) :
    KeepsOthers workspaceId registry registry :=
  fun _ _ => Iff.rfl

/-! ## In memory -/

/-- The registry that a list of boundaries leaves. -/
def filled (boundaries : List Boundary) : BoundaryRegistry :=
  boundaries.foldl add Dict.empty

theorem keyed_filled (boundaries : List Boundary) : Keyed (filled boundaries) := by
  have keeps : ∀ (registry : BoundaryRegistry), Keyed registry →
      Keyed (boundaries.foldl add registry) := by
    induction boundaries with
    | nil => exact fun _ keyed => keyed
    | cons boundary rest inductionHypothesis =>
        exact fun registry keyed => inductionHypothesis _ (keyed.set boundary)
  exact keeps Dict.empty fun _ _ found => by cases found

/-- What a registration is checked for. -/
structure Accepted (registry : BoundaryRegistry) (registration : BoundaryRegistrationInput) :
    Prop where
  mode : registration.mode = "fail_closed"
  status : registration.status = "active" ∨ registration.status = "disabled"
  name : hasBoundaryName registry registration.workspaceId registration.name = false

/-- The identifier that a registration writes under. -/
def registeredId (boundaryId : Option String) (token : String) : String :=
  (presentText boundaryId).getD (newBoundaryId token)

/-- The identifier of an accepted registration is free, or held by a boundary of the
same workspace. -/
def BoundaryCall.StaysHome (registry : BoundaryRegistry) : BoundaryCall → Prop
  | .register registration _ boundaryId token =>
      Accepted registry registration →
        ∀ held ∈ registry.get? (registeredId boundaryId token),
          held.workspaceId = registration.workspaceId
  | _ => True

theorem parseMode_eq_some_iff {mode : String} {parsed : BoundaryMode} :
    parseMode mode = some parsed ↔ mode = "fail_closed" := by
  cases parsed
  simp [parseMode]

theorem exists_parseStatus_iff {status : String} :
    (∃ parsed, parseStatus status = some parsed) ↔ status = "active" ∨ status = "disabled" := by
  unfold parseStatus
  split
  · next isActive => simp [isActive]
  · next notActive =>
      split
      · next isDisabled => simp [isDisabled]
      · next notDisabled => simp [notActive, notDisabled]

/-- A registration that is accepted writes a boundary of its workspace. -/
theorem registerBoundary_cases
    (registry : BoundaryRegistry)
    (registration : BoundaryRegistrationInput)
    (now : Instant)
    (boundaryId : Option String)
    (token : String) :
    (∃ boundary, Accepted registry registration ∧
      boundary.boundaryId = registeredId boundaryId token ∧
      boundary.workspaceId = registration.workspaceId ∧
      registerBoundary registry registration now boundaryId token =
        .ok (boundary, registry.set boundary.boundaryId boundary)) ∨
    ¬Accepted registry registration ∧
      ∃ text, registerBoundary registry registration now boundaryId token = .error text := by
  unfold registerBoundary
  split
  · next refused =>
      refine .inr ⟨fun accepted => ?_, _, rfl⟩
      have parses : parseMode registration.mode = some .failClosed :=
        parseMode_eq_some_iff.mpr accepted.mode
      rw [parses] at refused
      cases refused
  · next mode isMode =>
      split
      · next refused =>
          refine .inr ⟨fun accepted => ?_, _, rfl⟩
          obtain ⟨status, isStatus⟩ := exists_parseStatus_iff.mpr accepted.status
          rw [isStatus] at refused
          cases refused
      · next status isStatus =>
          split
          · next taken =>
              refine .inr ⟨fun accepted => ?_, _, rfl⟩
              rw [accepted.name] at taken
              cases taken
          · next free =>
              exact .inl ⟨_, ⟨parseMode_eq_some_iff.mp isMode,
                exists_parseStatus_iff.mp ⟨status, isStatus⟩, by simpa using free⟩, rfl, rfl, rfl⟩

/-- Writing a boundary that was found in the workspace stays home. -/
theorem keepsOthers_change
    {registry : BoundaryRegistry}
    (keyed : Keyed registry)
    {boundaryId workspaceId : String}
    {boundary changed : Boundary}
    (found : getBoundaryForWorkspace registry boundaryId workspaceId = some boundary)
    (sameId : changed.boundaryId = boundary.boundaryId)
    (sameWorkspace : changed.workspaceId = boundary.workspaceId) :
    KeepsOthers workspaceId registry (registry.set changed.boundaryId changed) := by
  obtain ⟨isHeld, mine⟩ := Option.filter_eq_some_iff.mp found
  have isMine : changed.workspaceId = workspaceId := sameWorkspace.trans (by simpa using mine)
  have keeps := (keepsOthers_set_iff keyed changed).mpr (by
    intro held present
    rw [sameId, keyed boundaryId boundary isHeld, isHeld] at present
    rw [← Option.some.inj present, sameWorkspace])
  rwa [isMine] at keeps

theorem keepsOthers_inMemory_iff
    {registry : BoundaryRegistry}
    (keyed : Keyed registry)
    (call : BoundaryCall) :
    KeepsOthers call.workspaceId registry (call.inMemory registry) ↔ call.StaysHome registry := by
  cases call with
  | register registration now boundaryId token =>
      simp only [BoundaryCall.inMemory, BoundaryCall.workspaceId, BoundaryCall.StaysHome]
      rcases registerBoundary_cases registry registration now boundaryId token with
        ⟨boundary, accepted, isId, isWorkspace, registers⟩ | ⟨refused, text, raises⟩
      · rw [registers, ← isId, ← isWorkspace]
        exact (keepsOthers_set_iff keyed boundary).trans
          ⟨fun home _ => home, fun home => home accepted⟩
      · rw [raises]
        exact iff_of_true (keepsOthers_refl _ _) fun accepted => absurd accepted refused
  | enable boundaryId workspaceId now =>
      refine iff_of_true ?_ trivial
      simp only [BoundaryCall.inMemory, BoundaryCall.workspaceId, enableBoundary]
      split
      · exact keepsOthers_refl _ _
      · next boundary found =>
          split
          · exact keepsOthers_change keyed found rfl rfl
          · exact keepsOthers_change keyed found rfl rfl
  | disable boundaryId workspaceId now =>
      refine iff_of_true ?_ trivial
      simp only [BoundaryCall.inMemory, BoundaryCall.workspaceId, disableBoundary]
      split
      · exact keepsOthers_refl _ _
      · next boundary found => exact keepsOthers_change keyed found rfl rfl

/-! ## In the table -/

open Script
open AuditChain
open Control (Config Database ControlEventInput idleSession buildControlAuditEvent)

/-- The event of writing a boundary. -/
def boundaryEvent
    (eventId : String)
    (boundary : Boundary)
    (operation : Control.BoundaryOperation)
    (principal : String) : ControlEventInput where
  eventId
  eventType := (Control.boundaryControlOperation operation).1
  workspaceId := boundary.workspaceId
  action := (Control.boundaryControlOperation operation).2
  resource := "boundary/" ++ boundary.boundaryId
  reason := "status=" ++ Control.boundaryStatusText boundary.status
  boundaryId := some boundary.boundaryId
  now := boundary.updatedAt
  enforcingPrincipal := some principal

/-- A boundary and its event were written. -/
structure Written
    (config : Config)
    (event : ControlEventInput)
    (boundary : Boundary)
    (before after : Database) : Prop where
  boundaries : after.control.boundaries =
    before.control.boundaries.set boundary.boundaryId boundary
  audit : writeEvent config.sha256 before.audit (buildControlAuditEvent event) = some after.audit

theorem establishes_boundaryWrite
    (config : Config)
    (event : ControlEventInput)
    (boundary : Boundary) :
    Establishes 0
      (do
        Control.controlStatement fun control => do
          let boundaries ← Control.upsertBoundary control.boundaries boundary
          return ((), { control with boundaries })
        Control.record config event)
      fun _ before after => Written config event boundary before after := by
  have records : Establishes 0 (Control.record config event) fun _ before after =>
      after.control = before.control ∧
        writeEvent config.sha256 before.audit (buildControlAuditEvent event) =
          some after.audit := by
    refine establishes_memory_bind (Establishes.joins ?_ _)
    refine ((establishes_query _ _).bind fun _ => establishes_statement _ _).weaken ?_
    rintro result before after ⟨_, between, ⟨-, rfl⟩, writes⟩
    split at writes
    · next audit isAudit =>
        obtain ⟨-, rfl⟩ := Prod.mk.inj (Except.ok.inj writes)
        exact ⟨rfl, isAudit⟩
    · cases writes
  refine ((establishes_statement _ _).bind fun _ => records).weaken ?_
  rintro result before after ⟨_, between, changes, sameControl, isAudit⟩
  simp only [Fallible.bind_eq_ok, Fallible.pure_eq_ok, Prod.mk.injEq] at changes
  obtain ⟨changed, ⟨boundaries, upserts, -, rfl⟩, -, rfl⟩ := changes
  refine ⟨?_, isAudit⟩
  rw [sameControl]
  unfold Control.upsertBoundary at upserts
  split at upserts
  · cases upserts
  · exact (Except.ok.inj upserts).symm

theorem commits_addAudited
    (config : Config)
    (eventId : String)
    (boundary : Boundary)
    (operation : Control.BoundaryOperation)
    (enforcingPrincipal : Option String) :
    Commits 0 (Control.addAudited config eventId boundary operation enforcingPrincipal)
      fun _ before after => ∃ principal, presentText enforcingPrincipal = some principal ∧
        Written config (boundaryEvent eventId boundary operation principal) boundary
          before after := by
  unfold Control.addAudited
  cases presentText enforcingPrincipal with
  | none => exact (commits_check _).weaken fun _ _ _ raised => by cases raised.1
  | some principal =>
      have commits := ((establishes_boundaryWrite config
        (boundaryEvent eventId boundary operation principal) boundary).commits_scope
          .operational).map fun _ => boundary
      rw [map_eq_pure_bind] at commits
      exact commits.weaken fun _ _ _ written => ⟨principal, rfl, written⟩

/-- The event of a registration. -/
def registrationEvent
    (eventId : String)
    (registration : BoundaryRegistrationInput)
    (now : Instant)
    (boundaryId : Option String)
    (token principal : String) : ControlEventInput where
  eventId
  eventType := "boundary_registered"
  workspaceId := registration.workspaceId
  action := "register_boundary"
  resource := "boundary/" ++ registeredId boundaryId token
  reason := "status=" ++ registration.status
  boundaryId := some (registeredId boundaryId token)
  now
  enforcingPrincipal := some principal

theorem boundaryStatusText_of_parseStatus
    {status : String}
    {parsed : BoundaryStatus}
    (parses : parseStatus status = some parsed) :
    Control.boundaryStatusText parsed = status := by
  unfold parseStatus at parses
  split at parses
  · next isActive =>
      cases parses
      exact isActive.symm
  · split at parses
    · next isDisabled =>
        cases parses
        exact isDisabled.symm
    · cases parses

/-- Where it is accepted, a registration is the write of a boundary of its workspace;
where it is not, it raises. -/
theorem registerBoundary_table_cases
    (config : Config)
    (eventId : String)
    (registration : BoundaryRegistrationInput)
    (now : Instant)
    (boundaryId : Option String)
    (token : String)
    (enforcingPrincipal : Option String) :
    (∃ boundary, boundary.boundaryId = registeredId boundaryId token ∧
      boundary.workspaceId = registration.workspaceId ∧
      boundary.name = registration.name ∧
      registration.mode = "fail_closed" ∧
      (registration.status = "active" ∨ registration.status = "disabled") ∧
      (∀ principal, boundaryEvent eventId boundary .register principal =
        registrationEvent eventId registration now boundaryId token principal) ∧
      Control.registerBoundary config eventId registration now boundaryId token
          enforcingPrincipal =
        Control.controlQuery (fun control =>
            hasBoundaryName control.boundaries registration.workspaceId registration.name) >>=
          fun taken =>
            if taken then
              Control.raise (.value "boundary name must be unique within workspace")
            else Control.addAudited config eventId boundary .register enforcingPrincipal) ∨
    (∀ registry, ¬Accepted registry registration) ∧
      ∃ error, Control.registerBoundary config eventId registration now boundaryId token
        enforcingPrincipal = Control.raise error := by
  unfold Control.registerBoundary
  split
  · next refused =>
      refine .inr ⟨fun registry accepted => ?_, _, rfl⟩
      have parses : parseMode registration.mode = some .failClosed :=
        parseMode_eq_some_iff.mpr accepted.mode
      rw [parses] at refused
      cases refused
  · next mode isMode =>
      split
      · next refused =>
          refine .inr ⟨fun registry accepted => ?_, _, rfl⟩
          obtain ⟨status, isStatus⟩ := exists_parseStatus_iff.mpr accepted.status
          rw [isStatus] at refused
          cases refused
      · next status isStatus =>
          refine .inl ⟨_, rfl, rfl, rfl, parseMode_eq_some_iff.mp isMode,
            exists_parseStatus_iff.mp ⟨status, isStatus⟩, fun principal => ?_, rfl⟩
          rw [boundaryEvent, registrationEvent, boundaryStatusText_of_parseStatus isStatus]
          rfl

/-- What a registration that returns has written. -/
theorem commits_registerBoundary
    (config : Config)
    (eventId : String)
    (registration : BoundaryRegistrationInput)
    (now : Instant)
    (boundaryId : Option String)
    (token : String)
    (enforcingPrincipal : Option String) :
    Commits 0 (Control.registerBoundary config eventId registration now boundaryId token
        enforcingPrincipal)
      fun _ before after => Accepted before.control.boundaries registration ∧
        ∃ boundary principal, boundary.boundaryId = registeredId boundaryId token ∧
          boundary.workspaceId = registration.workspaceId ∧
          presentText enforcingPrincipal = some principal ∧
          Written config (registrationEvent eventId registration now boundaryId token principal)
            boundary before after := by
  rcases registerBoundary_table_cases config eventId registration now boundaryId token
    enforcingPrincipal with
    ⟨boundary, isId, isWorkspace, isName, isMode, isStatus, isEvent, writes⟩ | ⟨-, error, raises⟩
  · rw [writes]
    refine (commits_query_bind (fun taken _ before after => taken = false ∧
      ∃ principal, presentText enforcingPrincipal = some principal ∧
        Written config (boundaryEvent eventId boundary .register principal) boundary
          before after) _ _ ?_).weaken ?_
    · intro taken
      cases taken with
      | true => exact (commits_check _).weaken fun _ _ _ raised => by cases raised.1
      | false =>
          exact (commits_addAudited config eventId boundary .register enforcingPrincipal).weaken
            fun _ _ _ written => ⟨rfl, written⟩
    · rintro result before after ⟨free, principal, isPrincipal, written⟩
      rw [isEvent] at written
      exact ⟨⟨isMode, isStatus, free⟩, boundary, principal, isId, isWorkspace, isPrincipal, written⟩
  · rw [raises]
    exact (commits_check _).weaken fun _ _ _ raised => by cases raised.1

/-- A boundary whose name no other one of the workspace has is not refused. -/
theorem upsertBoundary_of_free
    {boundaries : BoundaryRegistry}
    {boundary : Boundary}
    (free : hasBoundaryName boundaries boundary.workspaceId boundary.name = false) :
    Control.upsertBoundary boundaries boundary =
      .ok (boundaries.set boundary.boundaryId boundary) := by
  unfold Control.upsertBoundary
  rw [if_neg]
  intro taken
  obtain ⟨entry, present, clash⟩ := List.any_eq_true.mp taken
  obtain ⟨-, sameWorkspace, sameName⟩ := of_decide_eq_true clash
  have named : hasBoundaryName boundaries boundary.workspaceId boundary.name = true := by
    refine List.any_eq_true.mpr ⟨entry.2, ?_, by simpa using sameName⟩
    exact List.mem_filter.mpr ⟨List.mem_map_of_mem present, by simpa using sameWorkspace⟩
  rw [free] at named
  cases named

theorem returns_record
    (config : Config)
    (event : ControlEventInput)
    {before : Database}
    {audit : AuditTable}
    (writes : writeEvent config.sha256 before.audit (buildControlAuditEvent event) =
      some audit) :
    Returns 0 (Control.record config event) () before { before with audit } := by
  refine returns_memory_bind (Returns.joins ?_ _)
  refine (returns_query _ _).bind (returns_statement _ ?_)
  rw [writes]

theorem returns_boundaryWrite
    (config : Config)
    (event : ControlEventInput)
    {boundary : Boundary}
    {before : Database}
    (free : hasBoundaryName before.control.boundaries boundary.workspaceId boundary.name = false)
    {audit : AuditTable}
    (writes : writeEvent config.sha256 before.audit (buildControlAuditEvent event) =
      some audit) :
    Returns 0
      (do
        Control.controlStatement fun control => do
          let boundaries ← Control.upsertBoundary control.boundaries boundary
          return ((), { control with boundaries })
        Control.record config event)
      () before
      { control :=
          { before.control with
            boundaries := before.control.boundaries.set boundary.boundaryId boundary }
        audit } := by
  have changes : Returns 0 (Control.controlStatement fun control => do
      let boundaries ← Control.upsertBoundary control.boundaries boundary
      return ((), { control with boundaries })) () before
      { before with
        control :=
          { before.control with
            boundaries := before.control.boundaries.set boundary.boundaryId boundary } } := by
    refine returns_statement _ ?_
    dsimp only
    rw [upsertBoundary_of_free free]
    rfl
  exact changes.bind (returns_record config event writes)

/-- A registration that nothing refuses is written when no statement fails. -/
theorem exec_registerBoundary
    (config : Config)
    (eventId : String)
    (registration : BoundaryRegistrationInput)
    (now : Instant)
    (boundaryId : Option String)
    (token : String)
    {enforcingPrincipal : Option String}
    {principal : String}
    (isPrincipal : presentText enforcingPrincipal = some principal)
    {database : Database}
    (accepted : Accepted database.control.boundaries registration)
    {audit : AuditTable}
    (writes : writeEvent config.sha256 database.audit (buildControlAuditEvent
      (registrationEvent eventId registration now boundaryId token principal)) = some audit) :
    ∃ boundary, boundary.boundaryId = registeredId boundaryId token ∧
      boundary.workspaceId = registration.workspaceId ∧
      ((Control.registerBoundary config eventId registration now boundaryId token
        enforcingPrincipal).exec (idleSession database [])).2.committed.control.boundaries =
          database.control.boundaries.set boundary.boundaryId boundary := by
  rcases registerBoundary_table_cases config eventId registration now boundaryId token
    enforcingPrincipal with
    ⟨boundary, isId, isWorkspace, isName, -, -, isEvent, isScript⟩ | ⟨refused, -⟩
  · refine ⟨boundary, isId, isWorkspace, ?_⟩
    have free : hasBoundaryName database.control.boundaries boundary.workspaceId
        boundary.name = false := by
      rw [isWorkspace, isName]
      exact accepted.name
    rw [← isEvent] at writes
    have committed := (returns_boundaryWrite config
      (boundaryEvent eventId boundary .register principal) free writes).exec_writeScope
        Control.ControlError.operational
    have queried : (Control.controlQuery fun control => hasBoundaryName control.boundaries
        registration.workspaceId registration.name).exec (idleSession database []) =
          (.ok false, idleSession database []) := by
      rw [← accepted.name]
      rfl
    rw [isScript, exec_bind, queried]
    dsimp only
    rw [if_neg Bool.false_ne_true, Control.addAudited, isPrincipal]
    dsimp only
    rw [exec_bind, idleSession]
    erw [committed]
    rfl
  · exact absurd accepted (refused _)

/-- A registration that is attributed and whose event can be written stays home. -/
def BoundaryCall.AuditedStaysHome
    (config : Config)
    (database : Database)
    (eventId : String)
    (enforcingPrincipal : Option String) : BoundaryCall → Prop
  | .register registration now boundaryId token =>
      ∀ principal ∈ presentText enforcingPrincipal,
        (writeEvent config.sha256 database.audit (buildControlAuditEvent (registrationEvent
          eventId registration now boundaryId token principal))).isSome →
        (BoundaryCall.register registration now boundaryId token).StaysHome
          database.control.boundaries
  | _ => True

/-- Where the boundaries of others were kept by every outcome of a script, they are
kept by every execution. -/
theorem keepsOthers_of_commits
    {workspaceId : String}
    {script : Control.Action α}
    {database : Database}
    {related : α → Database → Database → Prop}
    (commits : Commits 0 script related)
    (keeps : ∀ result after, related result database after →
      KeepsOthers workspaceId database.control.boundaries after.control.boundaries)
    (faults : List (Option Fault)) :
    KeepsOthers workspaceId database.control.boundaries
      (script.exec (idleSession database faults)).2.committed.control.boundaries := by
  obtain ⟨-, -, raises, returns⟩ := commits.holds (idleSession database faults) rfl rfl
  cases reply : (script.exec (idleSession database faults)).1 with
  | error error =>
      rw [raises error reply]
      exact keepsOthers_refl _ _
  | ok result => exact keeps result _ (returns result reply)

theorem keepsOthers_changeBoundary
    (config : Config)
    {database : Database}
    (keyed : Keyed database.control.boundaries)
    (operation : Control.BoundaryOperation)
    {change : Boundary → Boundary}
    (sameId : ∀ boundary, (change boundary).boundaryId = boundary.boundaryId)
    (sameWorkspace : ∀ boundary, (change boundary).workspaceId = boundary.workspaceId)
    (eventId boundaryId workspaceId : String)
    (enforcingPrincipal : Option String)
    (faults : List (Option Fault)) :
    KeepsOthers workspaceId database.control.boundaries
      ((Control.changeBoundary config operation change eventId boundaryId workspaceId
        enforcingPrincipal).exec
          (idleSession database faults)).2.committed.control.boundaries := by
  have commits : Commits 0 (Control.changeBoundary config operation change eventId boundaryId
      workspaceId enforcingPrincipal) fun _ before after =>
        after = before ∨ ∃ boundary,
          getBoundaryForWorkspace before.control.boundaries boundaryId workspaceId =
            some boundary ∧
          after.control.boundaries =
            before.control.boundaries.set (change boundary).boundaryId (change boundary) := by
    refine commits_query_bind (fun found _ (before after : Database) => after = before ∨
      ∃ boundary, found = some boundary ∧ after.control.boundaries =
        before.control.boundaries.set (change boundary).boundaryId (change boundary)) _ _ ?_
    intro found
    cases found with
    | none => exact (commits_pure _).weaken fun _ _ _ same => .inl same.2
    | some boundary =>
        have writes := (commits_addAudited config eventId (change boundary) operation
          enforcingPrincipal).map some
        rw [map_eq_pure_bind] at writes
        refine writes.weaken ?_
        rintro _ before after ⟨_, -, written⟩
        exact .inr ⟨boundary, rfl, written.boundaries⟩
  refine keepsOthers_of_commits commits ?_ faults
  rintro _ after (rfl | ⟨boundary, found, isAfter⟩)
  · exact keepsOthers_refl _ _
  · rw [isAfter]
    exact keepsOthers_change keyed found (sameId boundary) (sameWorkspace boundary)

theorem keepsOthers_audited_iff
    (config : Config)
    {database : Database}
    (keyed : Keyed database.control.boundaries)
    (eventId : String)
    (enforcingPrincipal : Option String)
    (call : BoundaryCall) :
    (∀ faults, KeepsOthers call.workspaceId database.control.boundaries
      (((call.audited eventId enforcingPrincipal).script config).exec
        (idleSession database faults)).2.committed.control.boundaries) ↔
      call.AuditedStaysHome config database eventId enforcingPrincipal := by
  cases call with
  | register registration now boundaryId token =>
      constructor
      · intro keeps principal isPrincipal writes accepted
        obtain ⟨audit, isAudit⟩ := Option.isSome_iff_exists.mp writes
        obtain ⟨boundary, isId, isWorkspace, isAfter⟩ := exec_registerBoundary config eventId
          registration now boundaryId token isPrincipal accepted isAudit
        have kept := keeps []
        rw [BoundaryCall.audited, Control.Operation.script, exec_map_snd, isAfter,
          BoundaryCall.workspaceId, ← isWorkspace] at kept
        rw [← isId, ← isWorkspace]
        exact (keepsOthers_set_iff keyed boundary).mp kept
      · intro home faults
        have commits := commits_registerBoundary config eventId registration now boundaryId
          token enforcingPrincipal
        refine keepsOthers_of_commits (commits.map _) ?_ faults
        rintro _ after ⟨accepted, boundary, principal, isId, isWorkspace, isPrincipal, written⟩
        have stays := home principal isPrincipal (by rw [written.audit]; rfl) accepted
        rw [← isId, ← isWorkspace] at stays
        rw [written.boundaries, BoundaryCall.workspaceId, ← isWorkspace]
        exact (keepsOthers_set_iff keyed boundary).mpr stays
  | enable boundaryId workspaceId now =>
      refine iff_of_true (fun faults => ?_) trivial
      rw [BoundaryCall.audited, Control.Operation.script, exec_map_snd, Control.enableBoundary]
      refine keepsOthers_changeBoundary config keyed .enable ?_ ?_ eventId boundaryId workspaceId
        enforcingPrincipal faults
      · intro boundary
        split <;> rfl
      · intro boundary
        split <;> rfl
  | disable boundaryId workspaceId now =>
      refine iff_of_true (fun faults => ?_) trivial
      rw [BoundaryCall.audited, Control.Operation.script, exec_map_snd, Control.disableBoundary]
      refine keepsOthers_changeBoundary config keyed .disable ?_ ?_ eventId boundaryId workspaceId
        enforcingPrincipal faults
      · exact fun boundary => rfl
      · exact fun boundary => rfl

/-- The database with a table of boundaries. -/
def holding (database : Database) (boundaries : List Boundary) : Database :=
  { database with control := { database.control with boundaries := filled boundaries } }

/-- A call for a workspace keeps the boundaries of every other workspace, in memory and
in the table whatever fails, exactly when it is no registration that goes through under
an identifier of another workspace. -/
theorem boundaries_kept_iff_staysHome
    (boundaries : List Boundary)
    (call : BoundaryCall) :
    (KeepsOthers call.workspaceId (filled boundaries) (call.inMemory (filled boundaries)) ↔
      call.StaysHome (filled boundaries)) ∧
    ∀ (config : Config) (database : Database) (eventId : String)
      (enforcingPrincipal : Option String),
      (∀ faults, KeepsOthers call.workspaceId (filled boundaries)
        (((call.audited eventId enforcingPrincipal).script config).exec
          (idleSession (holding database boundaries) faults)).2.committed.control.boundaries) ↔
      call.AuditedStaysHome config (holding database boundaries) eventId enforcingPrincipal := by
  constructor
  · exact keepsOthers_inMemory_iff (keyed_filled boundaries) call
  · intro config database eventId enforcingPrincipal
    have keyed : Keyed (holding database boundaries).control.boundaries :=
      keyed_filled boundaries
    exact keepsOthers_audited_iff config keyed eventId enforcingPrincipal call

/-- A boundary of the first workspace. -/
def heldBoundary : Boundary where
  boundaryId := "bnd_1"
  workspaceId := "ws_a"
  name := "runtime"
  runtime := "python"
  boundaryType := "process"
  mode := .failClosed
  status := .active
  createdAt := 0
  updatedAt := 0

/-- The second workspace registers under the same identifier. -/
def takingCall : BoundaryCall :=
  .register
    { workspaceId := "ws_b"
      name := "runtime"
      runtime := "python"
      boundaryType := "process" }
    60 (some "bnd_1") "fresh"

/-- The first workspace loses its boundary, in memory and in the table. -/
theorem registration_takes_boundary_of_other :
    (¬∀ (boundaries : List Boundary) (call : BoundaryCall),
      KeepsOthers call.workspaceId (filled boundaries) (call.inMemory (filled boundaries))) ∧
    ¬∀ (config : Config) (database : Database) (boundaries : List Boundary) (eventId : String)
      (enforcingPrincipal : Option String) (call : BoundaryCall) (faults : List (Option Fault)),
      KeepsOthers call.workspaceId (filled boundaries)
        (((call.audited eventId enforcingPrincipal).script config).exec
          (idleSession (holding database boundaries) faults)).2.committed.control.boundaries := by
  constructor
  · intro keeps
    have lost : heldBoundary ∉ (takingCall.inMemory (filled [heldBoundary])).values := by
      decide +kernel
    have stays := (keeps [heldBoundary] takingCall heldBoundary (by decide)).mpr (by decide +kernel)
    exact lost stays
  · intro keeps
    let config : Config :=
      { sha256 := id
        requireBoundaryDefault := true
        stableRuleId := fun _ rule => rule.name
        hashKey := id }
    let database : Database := ⟨⟨.empty, Dict.empty, Dict.empty⟩, []⟩
    have lost : heldBoundary ∉
        (((takingCall.audited "evt_1" (some "operator")).script config).exec
          (idleSession (holding database [heldBoundary]) [])).2.committed.control.boundaries.values := by
      decide +kernel
    have stays := (keeps config database [heldBoundary] "evt_1" (some "operator") takingCall []
      heldBoundary (by decide)).mpr (by decide +kernel)
    exact lost stays

end BoundaryFrames
end Vinctor
