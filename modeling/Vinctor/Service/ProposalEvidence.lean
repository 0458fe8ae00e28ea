import Vinctor.Core.Proposals
import Vinctor.Service.OperatorViews

/-!
# The evidence of a proposal

A proposal counts the observations of its pairs, and its evidence counts the events with its
covers as texts, by a pass of its own.  The text of a valid pair is the text of no other pair,
and the events that are counted as evidence are the observed ones as long as they carry a
permit: then the three kinds of evidence add up to the count.
-/

namespace Vinctor
namespace OperatorViews

open Foundation
open Infer
open Scope

/-! ## Evidence as a collection -/

def Evidence.total (evidence : Evidence) : Nat :=
  evidence.enforced + evidence.observed + evidence.simulated

theorem Evidence.total_count
    (evidence : Evidence)
    (source : EvidenceSource) :
    (evidence.count source).total = evidence.total + 1 := by
  cases source
  all_goals
    simp only [Evidence.count, Evidence.total]
    omega

theorem Evidence.count_right_comm
    (evidence : Evidence)
    (first second : EvidenceSource) :
    (evidence.count first).count second = (evidence.count second).count first := by
  cases first <;> cases second <;> rfl

theorem Evidence.total_foldl_count
    (sources : List EvidenceSource)
    (evidence : Evidence) :
    (sources.foldl Evidence.count evidence).total = evidence.total + sources.length := by
  induction sources generalizing evidence with
  | nil => rfl
  | cons source sources rest =>
      rw [List.foldl_cons, rest, Evidence.total_count, List.length_cons]
      omega

theorem Evidence.total_foldl_add
    (items : List Evidence)
    (evidence : Evidence) :
    (items.foldl Evidence.add evidence).total =
      evidence.total + (items.map Evidence.total).sum := by
  induction items generalizing evidence with
  | nil => rfl
  | cons item items rest =>
      rw [List.foldl_cons, rest, List.map_cons, List.sum_cons]
      simp only [Evidence.add, Evidence.total]
      omega

/-- What an event adds: its scope and where it comes from. -/
def evidenceItem (event : AuditEvent) : Option (String × EvidenceSource) :=
  (permitEventSource event.eventType).map fun source =>
    (attemptedScope event.action event.resource, source)

def evidenceItems (args : InferArgs) (events : List AuditEvent) : List (String × EvidenceSource) :=
  (events.filter (inWindow args)).filterMap evidenceItem

theorem evidenceByScope_eq_collect
    (args : InferArgs)
    (events : List AuditEvent) :
    evidenceByScope args events =
      Dict.collect Prod.fst {} (fun evidence item => evidence.count item.2)
        (evidenceItems args events) := by
  rw [evidenceByScope, evidenceItems, Dict.collect, List.foldl_filterMap]
  congr 1
  funext byScope event
  unfold countEvidence evidenceItem
  cases permitEventSource event.eventType <;> rfl

/-- The evidence under a text. -/
def evidenceOf (args : InferArgs) (events : List AuditEvent) (scope : String) : Evidence :=
  ((evidenceByScope args events).get? scope).getD {}

theorem evidenceOf_eq_gathered
    (args : InferArgs)
    (events : List AuditEvent)
    (scope : String) :
    evidenceOf args events scope =
      Dict.gathered Prod.fst {} (fun evidence item => evidence.count item.2)
        (evidenceItems args events) scope := by
  rw [evidenceOf, evidenceByScope_eq_collect, Dict.getD_collect]

/-- The events that count as evidence for a text. -/
theorem total_evidenceOf
    (args : InferArgs)
    (events : List AuditEvent)
    (scope : String) :
    (evidenceOf args events scope).total =
      events.countP fun event => inWindow args event &&
        ((permitEventSource event.eventType).isSome &&
          attemptedScope event.action event.resource = scope) := by
  rw [evidenceOf_eq_gathered, Dict.gathered, ← List.foldl_map (f := Prod.snd),
    Evidence.total_foldl_count, List.length_map, ← List.countP_eq_length_filter,
    evidenceItems, List.countP_filterMap, List.countP_filter]
  apply (Nat.zero_add _).trans
  apply List.countP_congr
  intro event _
  unfold evidenceItem
  cases permitEventSource event.eventType with
  | none => simp
  | some source => simp [and_comm]

/-! ## Counts -/

/-- The events of the observations that are permitted. -/
def permitted (args : InferArgs) (events : List AuditEvent) : List Observation :=
  observationsFor args .permit (fun eventType => (permitEventSource eventType).isSome) events

theorem total_permitted
    (args : InferArgs)
    (events : List AuditEvent)
    (pair : String × String) :
    total (permitted args events) pair =
      events.countP fun event => (observationOf event).pair = pair &&
        (decide (event.decision = .permit) && (permitEventSource event.eventType).isSome &&
          inWindow args event) := by
  have ones : Observation.count ∘ observationOf = Function.const AuditEvent 1 := rfl
  rw [total, permitted, observationsFor, List.filter_map, List.map_map, List.filter_filter, ones,
    List.map_const, List.sum_replicate_nat, Nat.mul_one, ← List.countP_eq_length_filter]
  rfl

/-- The evidence of a pair is as much as its observations. -/
theorem total_evidenceOf_pair
    {args : InferArgs}
    {events : List AuditEvent}
    (permits : ∀ event ∈ events, (permitEventSource event.eventType).isSome →
      event.decision = .permit)
    {pair : String × String}
    (valid : ValidPair pair) :
    (evidenceOf args events (attemptedScope pair.1 pair.2)).total =
      total (permitted args events) pair := by
  rw [total_evidenceOf, total_permitted]
  apply List.countP_congr
  intro event member
  have samePair : attemptedScope event.action event.resource = attemptedScope pair.1 pair.2 ↔
      (observationOf event).pair = pair := by
    rw [eq_comm]
    exact valid.attemptedScope_eq_iff event.action event.resource
  simp only [Bool.and_eq_true, decide_eq_true_eq, samePair]
  constructor
  · rintro ⟨inside, isSome, same⟩
    exact ⟨same, ⟨permits event member isSome, isSome⟩, inside⟩
  · rintro ⟨same, ⟨_, isSome⟩, inside⟩
    exact ⟨inside, isSome, same⟩

/-! ## Entries -/

def scopesOf (args : InferArgs) (events : List AuditEvent) : Except String (List ScopeEntry) := do
  let proposals ← proposeScopes (permitted args events) args.generalize args.minObservations
  return proposals.map (scopeEntry (some (evidenceByScope args events)))

theorem evidence_scopeEntry
    (args : InferArgs)
    (events : List AuditEvent)
    (proposal : ScopeProposal) :
    (scopeEntry (some (evidenceByScope args events)) proposal).evidence =
      some ((proposal.covers.map (evidenceOf args events)).foldl Evidence.add {}) :=
  rfl

/-- A proposal for valid pairs has as much evidence as it counts. -/
theorem total_evidence_of_standsFor
    {args : InferArgs}
    {events : List AuditEvent}
    (permits : ∀ event ∈ events, (permitEventSource event.eventType).isSome →
      event.decision = .permit)
    {proposal : ScopeProposal}
    {pairs : List (String × String)}
    (valid : ∀ pair ∈ pairs, ValidPair pair)
    (stands : StandsFor (permitted args events) proposal pairs) :
    ((proposal.covers.map (evidenceOf args events)).foldl Evidence.add {}).total =
      proposal.count := by
  rw [Evidence.total_foldl_add, List.map_map, stands.count]
  apply (Nat.zero_add _).trans
  rw [(stands.covers.map _).sum_nat, List.map_map]
  congr 1
  apply List.map_congr_left
  intro pair member
  exact total_evidenceOf_pair permits (valid pair member)

/-! ## The order and the other events -/

/-- Entries that are made with the same evidence are the same. -/
theorem scopeEntry_congr
    {first second : Dict String Evidence}
    (same : ∀ scope, (first.get? scope).getD {} = (second.get? scope).getD {}) :
    scopeEntry (some first) = scopeEntry (some second) := by
  funext proposal
  simp only [scopeEntry, Option.map_some, Option.bind_some, same]

variable {args : InferArgs} {events reordered : List AuditEvent}

theorem evidenceOf_perm
    (permuted : events.Perm reordered)
    (scope : String) :
    evidenceOf args events scope = evidenceOf args reordered scope := by
  rw [evidenceOf_eq_gathered, evidenceOf_eq_gathered]
  apply Dict.gathered_perm
  · intro evidence first second
    exact evidence.count_right_comm first.2 second.2
  · exact (permuted.filter _).filterMap _

theorem observationsFor_perm
    (permuted : events.Perm reordered)
    (decision : Decision)
    (hasType : String → Bool) :
    (observationsFor args decision hasType events).Perm
      (observationsFor args decision hasType reordered) :=
  (permuted.filter _).map _

theorem scopesOf_perm (permuted : events.Perm reordered) :
    scopesOf args events = scopesOf args reordered := by
  rw [scopesOf, scopesOf, permitted, permitted,
    proposeScopes_perm (observationsFor_perm permuted _ _), scopeEntry_congr (evidenceOf_perm permuted)]

theorem deniedCandidates_perm (permuted : events.Perm reordered) :
    deniedCandidates args events = deniedCandidates args reordered := by
  unfold deniedCandidates
  dsimp only
  rw [proposeScopes_perm (observationsFor_perm permuted _ _)]

theorem evidenceSummary_perm (permuted : events.Perm reordered) :
    evidenceSummary args events = evidenceSummary args reordered := by
  funext key
  exact (permuted.filter _).countP_eq _

theorem inferPolicyDocument_eq (args : InferArgs) (events : List AuditEvent) :
    inferPolicyDocument args events = (do
      let scopes ← scopesOf args events
      let candidates ← deniedCandidates args events
      return {
        agentId := args.agent
        generalized := args.generalize
        minimumObservations := args.minObservations
        evidenceSummary := evidenceSummary args events
        scopes := scopes
        candidatesFromDenied := candidates }) := by
  unfold inferPolicyDocument scopesOf permitted
  dsimp only
  cases proposeScopes _ args.generalize args.minObservations <;> rfl

/-- The events that the scopes are made from, as far as they are in the window. -/
def grantsTo (args : InferArgs) (event : AuditEvent) : Bool :=
  event.agentId = args.agent && (permitEventSource event.eventType).isSome

theorem permitted_grantsTo (args : InferArgs) (events : List AuditEvent) :
    permitted args (events.filter (grantsTo args)) = permitted args events := by
  unfold permitted observationsFor
  rw [filter_filter_relevant]
  intro event counts
  simp only [Bool.and_eq_true, inWindow] at counts
  rw [grantsTo, Bool.and_eq_true]
  exact ⟨counts.2.1.1, counts.1.2⟩

theorem evidenceItems_grantsTo (args : InferArgs) (events : List AuditEvent) :
    evidenceItems args (events.filter (grantsTo args)) = evidenceItems args events := by
  unfold evidenceItems
  rw [List.filter_filter, List.filterMap_filter, List.filterMap_filter]
  apply List.filterMap_congr
  intro event _
  cases source : permitEventSource event.eventType with
  | none => simp [evidenceItem, source]
  | some found =>
      simp only [grantsTo, inWindow, source, Option.isSome_some, Bool.and_true]
      by_cases mine : event.agentId = args.agent
      · simp [mine]
      · simp [mine]

theorem scopesOf_grantsTo (args : InferArgs) (events : List AuditEvent) :
    scopesOf args (events.filter (grantsTo args)) = scopesOf args events := by
  rw [scopesOf, scopesOf, permitted_grantsTo, evidenceByScope_eq_collect,
    evidenceByScope_eq_collect, evidenceItems_grantsTo]

theorem exists_deniedCandidates
    (positive : 1 ≤ args.minObservations)
    (events : List AuditEvent) :
    ∃ candidates, deniedCandidates args events = .ok candidates := by
  unfold deniedCandidates
  split
  · obtain ⟨denied, proposes⟩ := exists_proposeScopes positive (observationsFor args .deny
      (fun eventType => decide (eventType ∈ denyEventTypes)) events)
    dsimp only
    rw [proposes]
    exact ⟨_, rfl⟩
  · exact ⟨_, rfl⟩

/-- Denied candidates do not decide whether there is a document. -/
theorem map_scopes_inferPolicyDocument (args : InferArgs) (events : List AuditEvent) :
    (inferPolicyDocument args events).map ProposedPolicy.scopes = scopesOf args events := by
  rw [inferPolicyDocument_eq]
  by_cases positive : 1 ≤ args.minObservations
  · obtain ⟨candidates, isDenied⟩ := exists_deniedCandidates positive events
    rw [isDenied]
    cases scopesOf args events <;> rfl
  · have refused : Fallible.ensure (1 ≤ args.minObservations) "min_count must be positive" =
        .error "min_count must be positive" := if_neg positive
    have noScopes : scopesOf args events = .error "min_count must be positive" := by
      rw [scopesOf, proposeScopes, refused]
      rfl
    rw [noScopes]
    rfl

theorem exists_inferPolicyDocument
    (positive : 1 ≤ args.minObservations)
    (events : List AuditEvent) :
    ∃ document, inferPolicyDocument args events = .ok document := by
  obtain ⟨proposals, proposes⟩ := exists_proposeScopes positive (permitted args events)
  obtain ⟨candidates, isDenied⟩ := exists_deniedCandidates positive events
  rw [inferPolicyDocument_eq, scopesOf, proposes, isDenied]
  exact ⟨_, rfl⟩

/-- An entry counts what its evidence adds up to. -/
theorem count_eq_evidence
    (permits : ∀ event ∈ events, (permitEventSource event.eventType).isSome →
      event.decision = .permit)
    {scopes : List ScopeEntry}
    (proposed : scopesOf args events = .ok scopes)
    {entry : ScopeEntry}
    (member : entry ∈ scopes) :
    ∃ evidence, entry.evidence = some evidence ∧
      entry.count = evidence.enforced + evidence.observed + evidence.simulated := by
  obtain ⟨proposals, proposes, isScopes⟩ := Fallible.bind_eq_ok.mp proposed
  have positive := pos_of_proposeScopes proposes
  rw [proposeScopes_eq _ _ positive] at proposes
  obtain rfl := Except.ok.inj proposes
  rw [← Fallible.pure_eq_ok.mp isScopes] at member
  obtain ⟨proposal, isProposal, rfl⟩ := List.mem_map.mp member
  obtain ⟨pairs, planned, stands⟩ := exists_pairs_of_mem
    (List.perm_insertionSort (fun first second : ScopeProposal => first.scope ≤ second.scope) _)
    isProposal
  refine ⟨_, evidence_scopeEntry args events proposal, ?_⟩
  symm
  apply total_evidence_of_standsFor permits _ stands
  intro pair isPair
  exact (kept_of_mem_plan positive planned isPair).1

/-- The evidence of a proposal adds up, and nothing but the permits of the agent, in any
order, reaches its scopes. -/
theorem inferPolicyDocument_adds_up
    (args : InferArgs)
    (events : List AuditEvent)
    (permits : ∀ event ∈ events, (permitEventSource event.eventType).isSome →
      event.decision = .permit) :
    (1 ≤ args.minObservations → ∃ document, inferPolicyDocument args events = .ok document) ∧
    (∀ document, inferPolicyDocument args events = .ok document →
      ∀ entry ∈ document.scopes, ∃ evidence, entry.evidence = some evidence ∧
        entry.count = evidence.enforced + evidence.observed + evidence.simulated) ∧
    (∀ other : List AuditEvent,
      (other.filter (grantsTo args)).Perm (events.filter (grantsTo args)) →
        (inferPolicyDocument args other).map ProposedPolicy.scopes =
          (inferPolicyDocument args events).map ProposedPolicy.scopes) ∧
    (∀ reordered, events.Perm reordered →
      inferPolicyDocument args reordered = inferPolicyDocument args events) := by
  refine ⟨fun positive => exists_inferPolicyDocument positive events, ?_, ?_, ?_⟩
  · intro document isDocument entry member
    have proposed := map_scopes_inferPolicyDocument args events
    rw [isDocument] at proposed
    exact count_eq_evidence permits proposed.symm member
  · intro other permuted
    rw [map_scopes_inferPolicyDocument, map_scopes_inferPolicyDocument, ← scopesOf_grantsTo,
      scopesOf_perm permuted, scopesOf_grantsTo]
  · intro reordered permuted
    rw [inferPolicyDocument_eq, inferPolicyDocument_eq, scopesOf_perm permuted,
      deniedCandidates_perm permuted, evidenceSummary_perm permuted]

theorem permit_and_denial_add_up :
    ∃ document, inferPolicyDocument { workspaceId := "ws_a", agent := sampleEvent.agentId }
      [sampleEvent, { sampleEvent with eventType := "action_denied", decision := .deny }] =
        .ok document ∧
      ∀ entry ∈ document.scopes, ∃ evidence, entry.evidence = some evidence ∧
        entry.count = evidence.enforced + evidence.observed + evidence.simulated := by
  obtain ⟨exist, addUp, _⟩ := inferPolicyDocument_adds_up
    { workspaceId := "ws_a", agent := sampleEvent.agentId }
    [sampleEvent, { sampleEvent with eventType := "action_denied", decision := .deny }] (by decide)
  obtain ⟨document, isDocument⟩ := exist (by decide)
  exact ⟨document, isDocument, addUp document isDocument⟩

end OperatorViews
end Vinctor
