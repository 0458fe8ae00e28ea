import Vinctor.Core.Infer
import Vinctor.Service.AuditPagination

/-!
# Views of the operator on the audit log

Two commands of the operator read the whole log of the database: the list of audit
events and the proposal of a policy.  Neither looks at the workspace that was selected,
so an event of another workspace is shown, or counted, whenever it passes the filter of
the command.  The export reads the events of one workspace.
-/

namespace Vinctor
namespace OperatorViews

open Foundation
open Fallible
open AuditChain
open Infer
open Scope

/-! ## The list of audit events -/

structure AuditListArgs where
  workspaceId : String
  eventClass : Option String := none
  event : Option String := none
  grantRef : Option String := none
  boundaryId : Option String := none
  reason : Option String := none
  requestId : Option String := none
  limit : Int
  json : Bool := false
  deriving DecidableEq, Repr

/-- An argument that was given, and not empty, is met. -/
def argument (given : Option String) (meets : String → Bool) : Bool :=
  (presentText given).all meets

def auditEventMatches (args : AuditListArgs) (event : AuditEvent) : Bool :=
  argument args.eventClass (event.eventClass = ·) &&
    argument args.event (event.eventType = ·) &&
    argument args.grantRef (event.grantRef = ·) &&
    argument args.boundaryId (event.boundaryId = some ·) &&
    argument args.reason (fun reason => event.reasonCode = some reason || event.reason = reason) &&
    argument args.requestId (fun requestId =>
      event.grantId = requestId || event.grantRef = requestId ||
        event.resource = "grant_request/" ++ requestId)

def orDash (text : Option String) : String := (presentText text).getD "-"

def auditListLine (event : AuditEvent) : String :=
  isoformat event.createdAt ++ " " ++ event.eventType ++ " decision=" ++ event.decision.code ++
    " reason=" ++ event.reason ++ " agent=" ++ event.agentId ++ " grant_ref=" ++ event.grantRef ++
    " action=" ++ event.action ++ " resource=" ++ event.resource ++
    " scope=" ++ orDash event.scopeMatched ++ " boundary=" ++ orDash event.boundaryId

def auditListText : List AuditEvent → String
  | [] => "no audit events"
  | events => "\n".intercalate (events.map auditListLine)

/-- What is printed: as JSON every field of the events, else the text. -/
inductive AuditListOutput
  | json (auditEvents : List AuditEvent)
  | text (text : String)
  deriving DecidableEq

def operatorAuditList
    (args : AuditListArgs)
    (log : List AuditEvent) : Except String AuditListOutput := do
  ensure (0 < args.limit) "audit --limit must be positive"
  let events := AuditReference.lastSlice (some args.limit.toNat) (log.filter (auditEventMatches args))
  return if args.json then .json events else .text (auditListText events)

/-- The export of a workspace, which a key of the workspace selects. -/
def operatorAuditExport
    (workspaceId : String)
    (log : List AuditEvent) : Except AuditQueryError (List AuditEvent) :=
  AuditReference.listFiltered log { workspaceId }

/-! ## The proposal of a policy -/

inductive EvidenceSource
  | enforced
  | observed
  | simulated
  deriving DecidableEq, Repr

def permitEventSource (eventType : String) : Option EvidenceSource :=
  [("action_permitted", .enforced), ("action_observed", .observed),
    ("action_would_permit", EvidenceSource.simulated)].lookup eventType

def denyEventTypes : List String := ["action_denied", "action_would_deny", "access_rejected"]

inductive SummaryKey
  | enforcedPermit
  | observedMapped
  | observedUnmapped
  | blockedUnmapped
  | simulatedPermit
  | simulatedDeny
  deriving DecidableEq, Repr

def summaryKey (eventType : String) : Option SummaryKey :=
  [("action_permitted", .enforcedPermit), ("action_observed", .observedMapped),
    ("action_unmapped", .observedUnmapped), ("action_blocked_unmapped", .blockedUnmapped),
    ("action_would_permit", .simulatedPermit),
    ("action_would_deny", SummaryKey.simulatedDeny)].lookup eventType

structure InferArgs where
  workspaceId : String
  agent : String
  since : Option String := none
  until_ : Option String := none
  generalize : Bool := false
  includeDenied : Bool := false
  minObservations : Int := 1
  deriving DecidableEq, Repr

/-- The agent's events between the two times, as texts. -/
def inWindow (args : InferArgs) (event : AuditEvent) : Bool :=
  event.agentId = args.agent &&
    args.since.all (· ≤ isoformat event.createdAt) &&
    args.until_.all (isoformat event.createdAt ≤ ·)

def observationOf (event : AuditEvent) : Observation where
  action := event.action
  resource := event.resource
  count := 1
  lastSeen := some (isoformat event.createdAt)

def observationsFor
    (args : InferArgs)
    (decision : Decision)
    (hasType : String → Bool)
    (events : List AuditEvent) : List Observation :=
  (events.filter fun event =>
    event.decision = decision && hasType event.eventType && inWindow args event).map observationOf

structure Evidence where
  enforced : Nat := 0
  observed : Nat := 0
  simulated : Nat := 0
  deriving DecidableEq, Repr

def Evidence.count (evidence : Evidence) : EvidenceSource → Evidence
  | .enforced => { evidence with enforced := evidence.enforced + 1 }
  | .observed => { evidence with observed := evidence.observed + 1 }
  | .simulated => { evidence with simulated := evidence.simulated + 1 }

def Evidence.add (first second : Evidence) : Evidence where
  enforced := first.enforced + second.enforced
  observed := first.observed + second.observed
  simulated := first.simulated + second.simulated

/-- Evidence by scope, from the events of the window. -/
def countEvidence (byScope : Dict String Evidence) (event : AuditEvent) : Dict String Evidence :=
  match permitEventSource event.eventType with
  | none => byScope
  | some source =>
      let scope := event.action ++ ":" ++ event.resource
      byScope.set scope (((byScope.get? scope).getD {}).count source)

def evidenceByScope (args : InferArgs) (events : List AuditEvent) : Dict String Evidence :=
  (events.filter (inWindow args)).foldl countEvidence Dict.empty

def evidenceSummary (args : InferArgs) (events : List AuditEvent) (key : SummaryKey) : Nat :=
  (events.filter (inWindow args)).countP fun event => summaryKey event.eventType = some key

structure ScopeEntry where
  scope : String
  count : Nat
  lastSeen : Option String
  generalized : Bool
  evidence : Option Evidence
  warning : Option String
  covers : Option (List String)
  deriving DecidableEq, Repr

def scopeEntry (evidence : Option (Dict String Evidence)) (proposal : ScopeProposal) :
    ScopeEntry where
  scope := proposal.scope
  count := proposal.count
  lastSeen := proposal.lastSeen
  generalized := proposal.generalized
  evidence := evidence.map fun byScope =>
    (proposal.covers.map fun scope => (byScope.get? scope).getD {}).foldl Evidence.add {}
  warning := evidence.bind fun byScope =>
    let total := (proposal.covers.map fun scope => (byScope.get? scope).getD {}).foldl
      Evidence.add {}
    if total.enforced = 0 ∧ total.simulated = 0 ∧ 0 < total.observed then
      some "observed-only evidence; unverified agent self-report"
    else none
  covers := if proposal.generalized then some proposal.covers else none

/-- A proposal, which is not applied. -/
structure ProposedPolicy where
  apply : Bool := false
  agentId : String
  generalized : Bool
  minimumObservations : Int
  evidenceSummary : SummaryKey → Nat
  scopes : List ScopeEntry
  candidatesFromDenied : Option (List ScopeEntry)

/-- Denied attempts are proposed apart, on request. -/
def deniedCandidates
    (args : InferArgs)
    (events : List AuditEvent) : Except String (Option (List ScopeEntry)) :=
  if args.includeDenied then do
    let denied := observationsFor args .deny (· ∈ denyEventTypes) events
    let proposals ← proposeScopes denied args.generalize args.minObservations
    return some (proposals.map (scopeEntry none))
  else return none

def inferPolicyDocument
    (args : InferArgs)
    (events : List AuditEvent) : Except String ProposedPolicy := do
  let permitted := observationsFor args .permit (fun eventType =>
    (permitEventSource eventType).isSome) events
  let proposals ← proposeScopes permitted args.generalize args.minObservations
  let candidates ← deniedCandidates args events
  return {
    agentId := args.agent
    generalized := args.generalize
    minimumObservations := args.minObservations
    evidenceSummary := evidenceSummary args events
    scopes := proposals.map (scopeEntry (some (evidenceByScope args events)))
    candidatesFromDenied := candidates }

def operatorPolicyInfer
    (args : InferArgs)
    (log : List AuditEvent) : Except String ProposedPolicy := do
  ensure (1 ≤ args.minObservations) "policy infer --min-observations must be positive"
  inferPolicyDocument args log

/-! ## Confinement -/

/-- Events of a workspace. -/
def ofWorkspace (workspaceId : String) (log : List AuditEvent) : List AuditEvent :=
  log.filter fun event => event.workspaceId = workspaceId

/-- A view shows the same on logs with the same events of a workspace, as long as the
other events are of a kind. -/
def Confined
    (workspaceId : String)
    (kind : AuditEvent → Prop)
    (view : List AuditEvent → ω) : Prop :=
  ∀ first second, ofWorkspace workspaceId first = ofWorkspace workspaceId second →
    (∀ event ∈ first ++ second, event.workspaceId ≠ workspaceId → kind event) →
    view first = view second

section Confinement

variable {workspaceId : String} {kind : AuditEvent → Prop}

/-- Where no event of the kind is relevant, only the workspace's own relevant events
count. -/
theorem filter_eq_of_ofWorkspace
    {relevant : AuditEvent → Bool}
    (irrelevant : ∀ event, event.workspaceId ≠ workspaceId → kind event → relevant event = false)
    {log : List AuditEvent}
    (foreign : ∀ event ∈ log, event.workspaceId ≠ workspaceId → kind event) :
    log.filter relevant = (ofWorkspace workspaceId log).filter relevant := by
  rw [ofWorkspace, List.filter_filter]
  apply List.filter_congr
  intro event present
  by_cases mine : event.workspaceId = workspaceId
  · rw [decide_eq_true mine, Bool.and_true]
  · rw [irrelevant event mine (foreign event present mine), Bool.false_and]

/-- A view of the relevant events is confined where no other event is relevant. -/
theorem confined_of_irrelevant
    {relevant : AuditEvent → Bool}
    (view : List AuditEvent → ω)
    (reads : ∀ log, view log = view (log.filter relevant))
    (irrelevant : ∀ event, event.workspaceId ≠ workspaceId → kind event → relevant event = false) :
    Confined workspaceId kind view := by
  intro first second same foreign
  have ofFirst := @filter_eq_of_ofWorkspace workspaceId kind relevant irrelevant first
    fun event present => foreign event (List.mem_append_left _ present)
  have ofSecond := @filter_eq_of_ofWorkspace workspaceId kind relevant irrelevant second
    fun event present => foreign event (List.mem_append_right _ present)
  rw [reads first, reads second, ofFirst, ofSecond, same]

/-- A confined view does not change with repetitions of an event of the kind. -/
theorem Confined.replicate
    {view : List AuditEvent → ω}
    (confined : Confined workspaceId kind view)
    {event : AuditEvent}
    (other : event.workspaceId ≠ workspaceId)
    (isKind : kind event)
    (count : Nat) :
    view [] = view (List.replicate count event) := by
  apply confined
  · refine (List.filter_eq_nil_iff.mpr ?_).symm
    intro repeated present
    rw [List.eq_of_mem_replicate present]
    simpa using other
  · intro repeated present _
    rw [List.nil_append] at present
    rw [List.eq_of_mem_replicate present]
    exact isKind

end Confinement

/-! ## The list -/

theorem operatorAuditList_filter (args : AuditListArgs) (log : List AuditEvent) :
    operatorAuditList args log = operatorAuditList args (log.filter (auditEventMatches args)) := by
  unfold operatorAuditList
  rw [List.filter_filter]
  simp only [Bool.and_self]

/-- The text of an event is not the text of no events. -/
theorem auditListText_singleton_ne (event : AuditEvent) :
    auditListText [] ≠ auditListText [event] := by
  intro same
  have appended : ∀ before after : String, '=' ∈ (before ++ " boundary=" ++ after).toList := by
    intro before after
    rw [String.toList_append, String.toList_append]
    refine List.mem_append_left _ (List.mem_append_right _ ?_)
    decide
  have named : '=' ∈ (auditListLine event).toList := appended _ _
  change auditListText [] = auditListLine event at same
  rw [← same] at named
  exact absurd named (by decide)

/-- The list of an event that passes the filter is not the empty one. -/
theorem operatorAuditList_singleton
    {args : AuditListArgs}
    (positive : 0 < args.limit)
    {event : AuditEvent}
    (passes : auditEventMatches args event = true) :
    operatorAuditList args [] ≠ operatorAuditList args [event] := by
  have checked : ensure (0 < args.limit) "audit --limit must be positive" = .ok () :=
    if_pos positive
  have listed : ∀ events : List AuditEvent, events.length ≤ 1 →
      AuditReference.lastSlice (some args.limit.toNat) events = events := by
    intro events short
    have limited : (some args.limit.toNat) ≠ some 0 := by
      intro zero
      have := Option.some.inj zero
      omega
    rw [AuditReference.lastSlice_eq_lastOnes limited]
    exact AuditPagination.lastOnes_eq_self (by omega)
  have kept : [event].filter (auditEventMatches args) = [event] := by
    rw [List.filter_cons_of_pos passes, List.filter_nil]
  unfold operatorAuditList
  rw [checked, kept, List.filter_nil, listed [] (Nat.zero_le 1),
    listed [event] (Nat.le_refl 1)]
  intro same
  have printed := Except.ok.inj same
  split at printed
  · cases printed
  · exact auditListText_singleton_ne event (AuditListOutput.text.inj printed)

/-! ## The proposal -/

/-- Events that a proposal is made from. -/
def feeds (args : InferArgs) (event : AuditEvent) : Bool :=
  inWindow args event &&
    ((summaryKey event.eventType).isSome ||
      (args.includeDenied && decide (event.decision = .deny) &&
        decide (event.eventType ∈ denyEventTypes) &&
        isValidRequestedAction event.action && isValidRequestedResource event.resource))

theorem isSome_summaryKey
    {eventType : String}
    (isSource : (permitEventSource eventType).isSome) :
    (summaryKey eventType).isSome := by
  have listed : eventType ∈ ["action_permitted", "action_observed", "action_would_permit"] := by
    by_contra unlisted
    simp only [List.mem_cons, List.not_mem_nil, or_false, not_or] at unlisted
    obtain ⟨notPermitted, notObserved, notSimulated⟩ := unlisted
    rw [permitEventSource, List.lookup_cons, beq_false_of_ne notPermitted, List.lookup_cons,
      beq_false_of_ne notObserved, List.lookup_cons, beq_false_of_ne notSimulated] at isSource
    cases isSource
  simp only [List.mem_cons, List.not_mem_nil, or_false] at listed
  rcases listed with rfl | rfl | rfl
  · decide
  · decide
  · decide

section Feeds

variable {args : InferArgs}

/-- Nothing is lost where every event that counts is relevant. -/
theorem filter_filter_relevant
    {counts relevant : AuditEvent → Bool}
    (isRelevant : ∀ event, counts event = true → relevant event = true)
    (log : List AuditEvent) :
    (log.filter relevant).filter counts = log.filter counts := by
  rw [List.filter_filter]
  apply List.filter_congr
  intro event _
  cases isCounted : counts event with
  | false => rfl
  | true => rw [isRelevant event isCounted]; rfl

theorem permitted_feeds (log : List AuditEvent) :
    observationsFor args .permit (fun eventType => (permitEventSource eventType).isSome)
        (log.filter (feeds args)) =
      observationsFor args .permit (fun eventType => (permitEventSource eventType).isSome) log := by
  unfold observationsFor
  rw [filter_filter_relevant]
  intro event counts
  simp only [Bool.and_eq_true] at counts
  simp [feeds, counts.2, isSome_summaryKey counts.1.2]

theorem evidenceSummary_feeds (log : List AuditEvent) :
    evidenceSummary args (log.filter (feeds args)) = evidenceSummary args log := by
  funext key
  unfold evidenceSummary
  have combined : ∀ events : List AuditEvent, (events.filter (inWindow args)).countP
      (fun event => decide (summaryKey event.eventType = some key)) =
        (events.filter fun event =>
          decide (summaryKey event.eventType = some key) && inWindow args event).length := by
    intro events
    rw [List.countP_filter, List.countP_eq_length_filter]
  rw [combined, combined, filter_filter_relevant]
  intro event counts
  simp only [Bool.and_eq_true, decide_eq_true_eq] at counts
  simp [feeds, counts.1, counts.2]

/-- Events without a source add no evidence. -/
theorem foldl_countEvidence_filter
    {relevant : AuditEvent → Bool}
    {events : List AuditEvent}
    (sourced : ∀ event ∈ events, (permitEventSource event.eventType).isSome →
      relevant event = true)
    (byScope : Dict String Evidence) :
    (events.filter relevant).foldl countEvidence byScope =
      events.foldl countEvidence byScope := by
  rw [List.foldl_filter]
  apply List.foldl_ext
  intro byScope event present
  split
  · rfl
  · next skipped =>
      have unsourced : permitEventSource event.eventType = none := by
        rw [← Option.not_isSome_iff_eq_none]
        exact fun isSome => skipped (sourced event present isSome)
      rw [countEvidence, unsourced]

theorem evidenceByScope_feeds (log : List AuditEvent) :
    evidenceByScope args (log.filter (feeds args)) = evidenceByScope args log := by
  unfold evidenceByScope
  have reordered : (log.filter (feeds args)).filter (inWindow args) =
      (log.filter (inWindow args)).filter (feeds args) := by
    rw [List.filter_filter, List.filter_filter]
    simp only [Bool.and_comm]
  rw [reordered]
  apply foldl_countEvidence_filter
  intro event present isSome
  have inside := (List.mem_filter.mp present).2
  simp [feeds, inside, isSome_summaryKey isSome]

/-- An observation that is not valid is not counted. -/
theorem deniedCandidates_feeds (log : List AuditEvent) :
    deniedCandidates args (log.filter (feeds args)) = deniedCandidates args log := by
  unfold deniedCandidates
  split
  · next includes =>
      have valid : ∀ events : List AuditEvent,
          (observationsFor args .deny (fun eventType => decide (eventType ∈ denyEventTypes))
            events).filter Observation.isValid =
              (events.filter fun event => (observationOf event).isValid &&
                (decide (event.decision = .deny) && decide (event.eventType ∈ denyEventTypes) &&
                  inWindow args event)).map observationOf := by
        intro events
        rw [observationsFor, List.filter_map, List.filter_filter]
        rfl
      dsimp only
      rw [← proposeScopes_filter_isValid, valid, filter_filter_relevant, ← valid,
        proposeScopes_filter_isValid]
      intro event counts
      simp only [Bool.and_eq_true, Observation.isValid, observationOf] at counts
      simp [feeds, includes, counts]
  · rfl

theorem operatorPolicyInfer_feeds (log : List AuditEvent) :
    operatorPolicyInfer args log = operatorPolicyInfer args (log.filter (feeds args)) := by
  unfold operatorPolicyInfer inferPolicyDocument
  rw [permitted_feeds, evidenceSummary_feeds, evidenceByScope_feeds, deniedCandidates_feeds]

theorem exists_proposeScopes
    (positive : 1 ≤ args.minObservations)
    (observations : List Observation) :
    ∃ proposals, proposeScopes observations args.generalize args.minObservations =
      .ok proposals := by
  have checked : ensure (1 ≤ args.minObservations) "min_count must be positive" = .ok () :=
    if_pos positive
  rw [proposeScopes, checked]
  exact ⟨_, rfl⟩

/-- A proposal has the summary of its events and the candidates of the denied ones. -/
theorem exists_operatorPolicyInfer
    (positive : 1 ≤ args.minObservations)
    (log : List AuditEvent) :
    ∃ proposed, operatorPolicyInfer args log = .ok proposed ∧
      proposed.evidenceSummary = evidenceSummary args log ∧
      deniedCandidates args log = .ok proposed.candidatesFromDenied := by
  have checked : ensure (1 ≤ args.minObservations)
      "policy infer --min-observations must be positive" = .ok () := if_pos positive
  obtain ⟨proposals, proposes⟩ := exists_proposeScopes positive (observationsFor args .permit
    (fun eventType => (permitEventSource eventType).isSome) log)
  obtain ⟨candidates, isDenied⟩ : ∃ candidates, deniedCandidates args log = .ok candidates := by
    obtain ⟨denied, proposesDenied⟩ := exists_proposeScopes positive (observationsFor args .deny
      (fun eventType => decide (eventType ∈ denyEventTypes)) log)
    unfold deniedCandidates
    split
    · dsimp only
      rw [proposesDenied]
      exact ⟨_, rfl⟩
    · exact ⟨_, rfl⟩
  unfold operatorPolicyInfer inferPolicyDocument
  dsimp only
  rw [checked, proposes, isDenied]
  exact ⟨_, rfl, rfl, rfl⟩

/-- Enough copies of an event that feeds a proposal make another one. -/
theorem operatorPolicyInfer_replicate
    (positive : 1 ≤ args.minObservations)
    {event : AuditEvent}
    (isFeeding : feeds args event = true) :
    operatorPolicyInfer args [] ≠
      operatorPolicyInfer args (List.replicate args.minObservations.toNat event) := by
  intro same
  obtain ⟨nothing, infersNothing, isNone, noDenied⟩ := exists_operatorPolicyInfer positive []
  obtain ⟨proposed, infers, isSummary, isDenied⟩ := exists_operatorPolicyInfer positive
    (List.replicate args.minObservations.toNat event)
  rw [infersNothing, infers] at same
  obtain rfl := Except.ok.inj same
  simp only [feeds, Bool.and_eq_true, Bool.or_eq_true] at isFeeding
  obtain ⟨inside, hasKey | ⟨⟨⟨⟨includes, isDeny⟩, isType⟩, validAction⟩, validResource⟩⟩ := isFeeding
  · obtain ⟨key, isKey⟩ := Option.isSome_iff_exists.mp hasKey
    have counts := congrFun (isNone.symm.trans isSummary) key
    have all : evidenceSummary args (List.replicate args.minObservations.toNat event) key =
        args.minObservations.toNat := by
      unfold evidenceSummary
      rw [List.filter_replicate_of_pos inside, List.countP_replicate, if_pos (by simp [isKey])]
    rw [all] at counts
    change 0 = args.minObservations.toNat at counts
    omega
  · have denials : observationsFor args .deny (fun eventType => decide (eventType ∈ denyEventTypes))
        (List.replicate args.minObservations.toNat event) =
          List.replicate args.minObservations.toNat (observationOf event) := by
      unfold observationsFor
      rw [List.filter_replicate_of_pos (by simp_all), List.map_replicate]
    have isValid : (observationOf event).isValid = true := by
      simp [Observation.isValid, observationOf, validAction, validResource]
    obtain ⟨candidates, nonempty, proposes⟩ :=
      proposeScopes_replicate isValid rfl args.generalize positive
    have empty : deniedCandidates args [] = .ok (some []) := by
      have checked : ensure (1 ≤ args.minObservations) "min_count must be positive" = .ok () :=
        if_pos positive
      rw [deniedCandidates, if_pos includes]
      unfold proposeScopes
      rw [checked]
      cases args.generalize <;> rfl
    have filled : deniedCandidates args (List.replicate args.minObservations.toNat event) =
        .ok (some (candidates.map (scopeEntry none))) := by
      rw [deniedCandidates, if_pos includes, denials]
      dsimp only
      rw [proposes]
      rfl
    have listed := (empty.symm.trans noDenied).trans (isDenied.symm.trans filled)
    have mapped := Option.some.inj (Except.ok.inj listed)
    exact nonempty (List.map_eq_nil_iff.mp mapped.symm)

end Feeds

/-! ## Both views -/

theorem confined_operatorAuditExport (workspaceId : String) :
    Confined workspaceId (fun _ => True) (operatorAuditExport workspaceId) := by
  have exported : ∀ log, operatorAuditExport workspaceId log =
      .ok (ofWorkspace workspaceId log) := by
    intro log
    have limited : ({ workspaceId } : AuditFilters).limit ≠ some 0 := nofun
    have unbounded : (AuditReference.positioned log).filter
        (FilterAgreement.selected { workspaceId } (none, none)) =
          (AuditReference.positioned log).filter
            ((fun event => decide (event.workspaceId = workspaceId)) ∘ Prod.fst) := by
      apply List.filter_congr
      intro entry _
      simp [FilterAgreement.selected, AuditReference.auditEventMatches]
    have events := List.zipIdx_map_fst 1 log
    rw [operatorAuditExport, FilterAgreement.reference_listFiltered log limited]
    change Except.ok (((AuditReference.positioned log).filter
      (FilterAgreement.selected { workspaceId } (none, none))).map Prod.fst) = _
    rw [unbounded, ← List.filter_map, AuditReference.positioned, events]
    rfl
  intro first second same _
  rw [exported, exported, same]

/-- Both commands show the same on all logs with the same events of the workspace if and
only if no other event of the logs passes their own filters; the export always does. -/
theorem operator_views_confined_iff
    (workspaceId : String)
    (kind : AuditEvent → Prop)
    (listArgs : AuditListArgs)
    (inferArgs : InferArgs)
    (limited : 0 < listArgs.limit)
    (observed : 1 ≤ inferArgs.minObservations) :
    Confined workspaceId (fun _ => True) (operatorAuditExport workspaceId) ∧
      (Confined workspaceId kind (operatorAuditList { listArgs with workspaceId }) ∧
          Confined workspaceId kind (operatorPolicyInfer { inferArgs with workspaceId }) ↔
        ∀ event, event.workspaceId ≠ workspaceId → kind event →
          auditEventMatches listArgs event = false ∧ feeds inferArgs event = false) := by
  refine ⟨confined_operatorAuditExport workspaceId, ?_, ?_⟩
  · rintro ⟨listConfined, inferConfined⟩ event other isKind
    constructor
    · by_contra passes
      exact @operatorAuditList_singleton { listArgs with workspaceId } limited event (Bool.of_not_eq_false passes)
        (listConfined.replicate other isKind 1)
    · by_contra isFeeding
      exact @operatorPolicyInfer_replicate { inferArgs with workspaceId } observed event (Bool.of_not_eq_false isFeeding)
        (inferConfined.replicate other isKind _)
  · intro irrelevant
    constructor
    · exact confined_of_irrelevant _ (operatorAuditList_filter { listArgs with workspaceId })
        fun event other isKind => (irrelevant event other isKind).1
    · exact confined_of_irrelevant _ operatorPolicyInfer_feeds
        fun event other isKind => (irrelevant event other isKind).2

def sampleEvent : AuditEvent := { tokenEvent with workspaceId := "ws_b" }

/-- Events of another agent do not disturb a list by grant and a proposal. -/
theorem views_confined_without_agent :
    Confined "ws_a" (fun event => event.grantRef = "other" ∧ event.agentId = "other")
        (operatorAuditList { workspaceId := "ws_a", grantRef := some "r", limit := 20 }) ∧
      Confined "ws_a" (fun event => event.grantRef = "other" ∧ event.agentId = "other")
        (operatorPolicyInfer { workspaceId := "ws_a", agent := "a" }) := by
  refine (operator_views_confined_iff "ws_a" _ { workspaceId := "ws_a", grantRef := some "r", limit := 20 }
    { workspaceId := "ws_a", agent := "a" } (by decide) (by decide)).2.mpr ?_
  rintro event - ⟨isGrant, isAgent⟩
  constructor
  · simp [auditEventMatches, argument, presentText, isGrant]
  · simp [feeds, inWindow, isAgent]

/-- An event of another workspace is listed, and its action is proposed. -/
theorem foreign_event_is_shown :
    ofWorkspace "ws_a" [] = ofWorkspace "ws_a" [sampleEvent] ∧
      operatorAuditList { workspaceId := "ws_a", limit := 20, json := true } [] = .ok (.json []) ∧
      operatorAuditList { workspaceId := "ws_a", limit := 20, json := true } [sampleEvent] =
        .ok (.json [sampleEvent]) ∧
      (operatorPolicyInfer { workspaceId := "ws_a", agent := "a" } []).map
        (fun proposed => proposed.scopes.map (·.scope)) = .ok [] ∧
      (operatorPolicyInfer { workspaceId := "ws_a", agent := "a" } [sampleEvent]).map
        (fun proposed => proposed.scopes.map (·.scope)) = .ok ["read:repo/x"] := by
  refine ⟨?_, ?_, ?_, ?_, ?_⟩
  · decide
  · decide
  · decide
  · decide +kernel
  · decide +kernel

end OperatorViews
end Vinctor
