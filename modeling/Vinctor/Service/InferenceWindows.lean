import Vinctor.Foundation.DatetimeOrder
import Vinctor.Service.ProposalEvidence

/-!
# The window of an inference

The bounds of a proposal are compared with the time of an event as texts.  An event has the
text of its instant in coordinated universal time, and such texts sort as their instants do,
but a bound may spell its instant in another way.  The events between the instants of the
bounds are counted if, and only if, no event has a text that the given bounds and the
universal texts of the same instants place differently.  What is reported as seen last is the
latest of the counted events, whatever the bounds are.
-/

namespace Vinctor
namespace OperatorViews

open Foundation
open Fallible
open Infer
open Scope

/-! ## Bounds -/

/-- Between two bounds, each of which may be left out. -/
def Between
    [LE α]
    (first last : Option α)
    (item : α) : Prop :=
  (∀ bound ∈ first, bound ≤ item) ∧ ∀ bound ∈ last, item ≤ bound

/-- Instant of a text with an offset. -/
def instantOf (text : String) : Option Instant := do
  let datetime ← Datetime.fromisoformat text.toList
  let offset ← datetime.offset
  return datetime.wallClock - offset

/-- A text with the instant that it spells. -/
structure Spelling where
  text : String
  instant : Instant
  spells : instantOf text = some instant

/-- The same arguments with bounds that spell instants. -/
def InferArgs.within
    (args : InferArgs)
    (since until_ : Option Spelling) : InferArgs :=
  { args with since := since.map Spelling.text, until_ := until_.map Spelling.text }

def InferArgs.unbounded (args : InferArgs) : InferArgs :=
  { args with since := none, until_ := none }

/-- Universal text of an instant.  An instant out of the years of dates has a text before, or
behind, the texts of all dates. -/
def utcText (instant : Int) : String :=
  if instant / Datetime.microsecondsPerDay + Datetime.epochOrdinal < 1 then ""
  else if Foundation.Calendar.maxOrdinal <
      instant / Datetime.microsecondsPerDay + Datetime.epochOrdinal then ":"
  else isoformat instant

theorem lt_of_days_lt
    {first second : Int}
    (less : first / Datetime.microsecondsPerDay < second / Datetime.microsecondsPerDay) :
    first < second := by
  by_contra reached
  have days := Int.ediv_le_ediv (show 0 < Datetime.microsecondsPerDay by decide)
    (not_lt.mp reached)
  omega

theorem isoformat_lt_isoformat
    {first second : Int}
    (isFirst : Datetime.Representable first)
    (isSecond : Datetime.Representable second)
    (less : first < second) :
    isoformat first < isoformat second := by
  rw [isoformat, isoformat, String.lt_iff_toList_lt, String.toList_ofList, String.toList_ofList]
  exact (Datetime.isoformat_ofInstant_lt_iff isFirst isSecond).mpr less

section Texts

variable {time : Int} (dated : Datetime.Representable time)

include dated

/-- The text of a date starts with a digit. -/
theorem exists_digit_isoformat :
    ∃ digit rest, (isoformat time).toList = digit :: rest ∧ digit.isDigit = true := by
  have inRange := Datetime.inRange_ofInstant dated
  have date := inRange.date
  simp only [Calendar.isValidDate, Bool.and_eq_true, decide_eq_true_eq] at date
  have year := Datetime.digits_padded (show 0 < 4 by decide)
    (show (Datetime.ofInstant time).year < 10 ^ 4 by omega)
  rw [isoformat, String.toList_ofList, inRange.isoformat_eq]
  cases text : Datetime.padded 4 (Datetime.ofInstant time).year with
  | nil =>
      have long := year.length
      rw [text] at long
      cases long
  | cons digit rest =>
      exact ⟨digit, _, List.cons_append, year.digits digit (text ▸ List.mem_cons_self)⟩

/-- Universal texts come before the text of a date as their instants do. -/
theorem utcText_trichotomy (instant : Int) :
    utcText instant < isoformat time ∧ instant < time ∨
      utcText instant = isoformat time ∧ instant = time ∨
      isoformat time < utcText instant ∧ time < instant := by
  obtain ⟨digit, rest, text, isDigit⟩ := exists_digit_isoformat dated
  have first := dated.1
  have last := dated.2
  unfold utcText
  split
  · next early =>
      refine Or.inl ⟨?_, lt_of_days_lt (by omega)⟩
      rw [String.lt_iff_toList_lt, text]
      exact List.nil_lt_cons digit rest
  · next late =>
      split
      · next after =>
          refine Or.inr (Or.inr ⟨?_, lt_of_days_lt (by omega)⟩)
          have code := Datetime.toNat_of_isDigit isDigit
          have digitBelow : digit < ':' := show digit.toNat < 58 by omega
          rw [String.lt_iff_toList_lt, text]
          exact List.cons_lt_cons_iff.mpr (Or.inl digitBelow)
      · next inside =>
          have representable : Datetime.Representable instant := ⟨not_lt.mp late, not_lt.mp inside⟩
          rcases Int.lt_trichotomy instant time with before | same | behind
          · exact Or.inl ⟨isoformat_lt_isoformat representable dated before, before⟩
          · exact Or.inr (Or.inl ⟨congrArg isoformat same, same⟩)
          · exact Or.inr (Or.inr ⟨isoformat_lt_isoformat dated representable behind, behind⟩)

theorem utcText_le_iff (instant : Int) : utcText instant ≤ isoformat time ↔ instant ≤ time := by
  rcases utcText_trichotomy dated instant with ⟨below, before⟩ | ⟨sameText, same⟩ | ⟨above, behind⟩
  · exact iff_of_true (le_of_lt below) (le_of_lt before)
  · exact iff_of_true (le_of_eq sameText) (le_of_eq same)
  · exact iff_of_false (not_le.mpr above) (not_le.mpr behind)

theorem le_utcText_iff (instant : Int) : isoformat time ≤ utcText instant ↔ time ≤ instant := by
  rcases utcText_trichotomy dated instant with ⟨below, before⟩ | ⟨sameText, same⟩ | ⟨above, behind⟩
  · exact iff_of_false (not_le.mpr below) (not_le.mpr before)
  · exact iff_of_true (ge_of_eq sameText) (ge_of_eq same)
  · exact iff_of_true (le_of_lt above) (le_of_lt behind)

/-- Universal texts of two bounds enclose the texts of the dates between them. -/
theorem between_utcText_iff (since until_ : Option Instant) :
    Between (since.map utcText) (until_.map utcText) (isoformat time) ↔
      Between since until_ time := by
  unfold Between
  rw [Option.forall_mem_map, Option.forall_mem_map]
  simp only [utcText_le_iff dated, le_utcText_iff dated]

theorem instantOf_isoformat : instantOf (isoformat time) = some time := by
  have clock := Datetime.wallClock_ofWallClock dated (some 0)
  unfold instantOf isoformat
  rw [String.toList_ofList, Datetime.fromisoformat_ofInstant dated]
  exact congrArg some ((Int.sub_zero _).trans clock)

end Texts

/-- The universal text of a date spells its instant. -/
def Spelling.universal (instant : Int) (dated : Datetime.Representable instant) : Spelling where
  text := isoformat instant
  instant := instant
  spells := instantOf_isoformat dated

/-! ## Events in the window -/

section Windows

variable {args : InferArgs} {since until_ : Option Spelling} {events : List AuditEvent}

def Dated (events : List AuditEvent) : Prop :=
  ∀ event ∈ events, Datetime.Representable event.createdAt

/-- The given texts of two bounds and the universal texts of their instants place the events of
the agent alike. -/
def PlacedAlike
    (args : InferArgs)
    (since until_ : Option Spelling)
    (events : List AuditEvent) : Prop :=
  ∀ event ∈ events, event.agentId = args.agent →
    (Between (since.map Spelling.text) (until_.map Spelling.text) (isoformat event.createdAt) ↔
      Between (since.map fun bound => utcText bound.instant)
        (until_.map fun bound => utcText bound.instant) (isoformat event.createdAt))

theorem inWindow_iff
    (args : InferArgs)
    (event : AuditEvent) :
    inWindow args event = true ↔
      event.agentId = args.agent ∧ Between args.since args.until_ (isoformat event.createdAt) := by
  simp [inWindow, Between, and_assoc, Option.all_eq_true]

theorem inWindow_within_iff (event : AuditEvent) :
    inWindow (args.within since until_) event = true ↔ event.agentId = args.agent ∧
      Between (since.map Spelling.text) (until_.map Spelling.text) (isoformat event.createdAt) :=
  inWindow_iff (args.within since until_) event

/-- An event is counted between the instants exactly when the texts of the bounds do not
misplace it. -/
theorem inWindow_iff_between_iff (dated : Dated events) :
    (∀ event ∈ events, event.agentId = args.agent →
        (inWindow (args.within since until_) event = true ↔
          Between (since.map Spelling.instant) (until_.map Spelling.instant) event.createdAt)) ↔
      PlacedAlike args since until_ events := by
  apply forall₂_congr
  intro event member
  apply forall_congr'
  intro mine
  rw [inWindow_within_iff, and_iff_right mine, ← between_utcText_iff (dated event member),
    Option.map_map, Option.map_map]
  rfl

/-- Bounds in universal texts misplace nothing. -/
theorem placedAlike_of_universal
    (isFirst : ∀ bound ∈ since, bound.text = utcText bound.instant)
    (isLast : ∀ bound ∈ until_, bound.text = utcText bound.instant) :
    PlacedAlike args since until_ events := by
  have sameFirst : since.map Spelling.text = since.map fun bound => utcText bound.instant :=
    Option.map_congr isFirst
  have sameLast : until_.map Spelling.text = until_.map fun bound => utcText bound.instant :=
    Option.map_congr isLast
  intro event _ _
  rw [sameFirst, sameLast]

/-! ## The document of a window -/

theorem inWindow_unbounded_and
    (args : InferArgs)
    (event : AuditEvent) :
    (inWindow args.unbounded event && inWindow args event) = inWindow args event := by
  rw [Bool.and_eq_right_iff_imp]
  intro inside
  rw [inWindow_iff] at inside ⊢
  refine ⟨inside.1, ?_, ?_⟩
  · rintro bound ⟨⟩
  · rintro bound ⟨⟩

theorem filter_inWindow_unbounded
    (args : InferArgs)
    (events : List AuditEvent) :
    (events.filter (inWindow args)).filter (inWindow args.unbounded) =
      events.filter (inWindow args) := by
  simp only [List.filter_filter, inWindow_unbounded_and]

theorem observationsFor_unbounded
    (args : InferArgs)
    (events : List AuditEvent)
    (decision : Decision)
    (hasType : String → Bool) :
    observationsFor args.unbounded decision hasType (events.filter (inWindow args)) =
      observationsFor args decision hasType events := by
  simp only [observationsFor, List.filter_filter, Bool.and_assoc, inWindow_unbounded_and]

theorem evidenceSummary_unbounded
    (args : InferArgs)
    (events : List AuditEvent) :
    evidenceSummary args.unbounded (events.filter (inWindow args)) =
      evidenceSummary args events := by
  funext key
  rw [evidenceSummary, filter_inWindow_unbounded]
  rfl

/-- A document with bounds is one without bounds of the events in the window. -/
theorem inferPolicyDocument_unbounded
    (args : InferArgs)
    (events : List AuditEvent) :
    inferPolicyDocument args.unbounded (events.filter (inWindow args)) =
      inferPolicyDocument args events := by
  simp only [inferPolicyDocument, deniedCandidates, evidenceByScope, evidenceSummary_unbounded,
    observationsFor_unbounded, filter_inWindow_unbounded]
  rfl

/-- Spellings of the same instants that misplace nothing give the same document. -/
theorem inferPolicyDocument_respelled
    (dated : Dated events)
    (alike : PlacedAlike args since until_ events)
    {since' until_' : Option Spelling}
    (alike' : PlacedAlike args since' until_' events)
    (sameSince : since'.map Spelling.instant = since.map Spelling.instant)
    (sameUntil : until_'.map Spelling.instant = until_.map Spelling.instant) :
    inferPolicyDocument (args.within since' until_') events =
      inferPolicyDocument (args.within since until_) events := by
  have counted := (inWindow_iff_between_iff dated).mpr alike
  have counted' := (inWindow_iff_between_iff dated).mpr alike'
  have sameEvents : events.filter (inWindow (args.within since' until_')) =
      events.filter (inWindow (args.within since until_)) := by
    apply List.filter_congr
    intro event member
    rw [Bool.eq_iff_iff]
    by_cases mine : event.agentId = args.agent
    · rw [counted event member mine, counted' event member mine, sameSince, sameUntil]
    · rw [inWindow_within_iff, inWindow_within_iff]
      exact iff_of_false (fun inside => mine inside.1) fun inside => mine inside.1
  calc
    inferPolicyDocument (args.within since' until_') events =
        inferPolicyDocument (args.within since' until_').unbounded
          (events.filter (inWindow (args.within since' until_'))) :=
      (inferPolicyDocument_unbounded ..).symm
    _ = inferPolicyDocument (args.within since until_).unbounded
          (events.filter (inWindow (args.within since until_))) := by
      rw [sameEvents]
      rfl
    _ = inferPolicyDocument (args.within since until_) events :=
      inferPolicyDocument_unbounded ..

/-! ## The latest counted event -/

/-- Scopes that an entry stands for. -/
def ScopeEntry.covered (entry : ScopeEntry) : List String := entry.covers.getD [entry.scope]

/-- An entry reports the time of the latest of its events among the counted ones. -/
def ReportsLatest
    (counted : List AuditEvent)
    (entry : ScopeEntry) : Prop :=
  ∃ latest ∈ counted, attemptedScope latest.action latest.resource ∈ entry.covered ∧
    entry.lastSeen = some (isoformat latest.createdAt) ∧
    ∀ event ∈ counted, attemptedScope event.action event.resource ∈ entry.covered →
      event.createdAt ≤ latest.createdAt

/-- The covered scopes are those of the pairs that a proposal stands for. -/
theorem mem_covered_iff
    {observations : List Observation}
    {proposal : ScopeProposal}
    {pairs : List (String × String)}
    (stands : StandsFor observations proposal pairs)
    (valid : ∀ pair ∈ pairs, ValidPair pair)
    (evidence : Option (Dict String Evidence))
    (observation : Observation) :
    attemptedScope observation.action observation.resource ∈
        (scopeEntry evidence proposal).covered ↔
      observation.pair ∈ pairs := by
  have isCovered : attemptedScope observation.action observation.resource ∈
      (scopeEntry evidence proposal).covered ↔
        attemptedScope observation.action observation.resource ∈
          pairs.map fun pair => attemptedScope pair.1 pair.2 := by
    rcases stands.shape with ⟨pair, rfl, isScope, exact_⟩ | ⟨group, _, _, widened, _⟩
    · simp [ScopeEntry.covered, scopeEntry, exact_, isScope]
    · simp [ScopeEntry.covered, scopeEntry, widened, stands.covers.mem_iff]
  rw [isCovered, List.mem_map]
  constructor
  · rintro ⟨pair, isPair, same⟩
    rw [Observation.pair, ((valid pair isPair).attemptedScope_eq_iff _ _).mp same]
    exact isPair
  · intro isPair
    exact ⟨observation.pair, isPair, rfl⟩

/-- Events whose observations are proposed from. -/
def countedFor
    (args : InferArgs)
    (decision : Decision)
    (hasType : String → Bool)
    (events : List AuditEvent) : List AuditEvent :=
  events.filter fun event =>
    event.decision = decision && hasType event.eventType && inWindow args event

/-- What is proposed reports the latest of the events that it is proposed from. -/
theorem reportsLatest_of_proposed
    (dated : Dated events)
    {decision : Decision}
    {hasType : String → Bool}
    {proposals : List ScopeProposal}
    (proposed : proposeScopes (observationsFor args decision hasType events) args.generalize
      args.minObservations = .ok proposals)
    {evidence : Option (Dict String Evidence)}
    {entry : ScopeEntry}
    (member : entry ∈ proposals.map (scopeEntry evidence)) :
    ReportsLatest (countedFor args decision hasType events) entry := by
  have positive := pos_of_proposeScopes proposed
  rw [proposeScopes_eq _ _ positive] at proposed
  obtain rfl := Except.ok.inj proposed
  obtain ⟨proposal, isProposal, rfl⟩ := List.mem_map.mp member
  obtain ⟨pairs, planned, stands⟩ := exists_pairs_of_mem
    (List.perm_insertionSort (fun first second : ScopeProposal => first.scope ≤ second.scope) _)
    isProposal
  have covered := mem_covered_iff stands
    (fun pair isPair => (kept_of_mem_plan positive planned isPair).1) evidence
  -- Some event was seen of a pair, so that a time is reported, and an event has that time.
  obtain ⟨pair, isPair⟩ := stands.exists_pair
  have wasSeen : ∃ observation ∈ observationsFor args decision hasType events,
      observation.pair = pair := by
    have enough := (kept_of_mem_plan positive planned isPair).2
    apply exists_observation_of_total_pos
    omega
  obtain ⟨_, observed, rfl⟩ := wasSeen
  obtain ⟨_, _, rfl⟩ := List.mem_map.mp observed
  obtain ⟨late, isLate, _⟩ := stands.exists_le_lastSeen observed isPair rfl
  obtain ⟨_, observedLate, isPairLate, isText⟩ := stands.exists_observation isLate
  obtain ⟨latest, countedLatest, rfl⟩ := List.mem_map.mp observedLate
  obtain rfl := Option.some.inj isText
  refine ⟨latest, countedLatest, (covered (observationOf latest)).mpr isPairLate, isLate, ?_⟩
  intro event countedEvent isCovered
  obtain ⟨later, isLater, below⟩ := stands.exists_le_lastSeen (List.mem_map_of_mem countedEvent)
    ((covered (observationOf event)).mp isCovered) rfl
  obtain rfl := Option.some.inj (isLater.symm.trans isLate)
  by_contra after
  exact absurd below (not_le.mpr (isoformat_lt_isoformat
    (dated latest (List.mem_of_mem_filter countedLatest))
    (dated event (List.mem_of_mem_filter countedEvent)) (not_le.mp after)))

theorem reportsLatest_scopes
    (dated : Dated events)
    {document : ProposedPolicy}
    (isDocument : inferPolicyDocument args events = .ok document)
    {entry : ScopeEntry}
    (member : entry ∈ document.scopes) :
    ReportsLatest
      (countedFor args .permit (fun eventType => (permitEventSource eventType).isSome) events)
      entry := by
  have isScopes := map_scopes_inferPolicyDocument args events
  rw [isDocument, scopesOf] at isScopes
  obtain ⟨proposals, proposed, isProposals⟩ := bind_eq_ok.mp isScopes.symm
  rw [← pure_eq_ok.mp isProposals] at member
  exact reportsLatest_of_proposed dated proposed member

theorem reportsLatest_candidates
    (dated : Dated events)
    {document : ProposedPolicy}
    (isDocument : inferPolicyDocument args events = .ok document)
    {candidates : List ScopeEntry}
    (isCandidates : candidates ∈ document.candidatesFromDenied)
    {entry : ScopeEntry}
    (member : entry ∈ candidates) :
    ReportsLatest
      (countedFor args .deny (fun eventType => decide (eventType ∈ denyEventTypes)) events)
      entry := by
  rw [inferPolicyDocument_eq] at isDocument
  obtain ⟨scopes, _, isDocument⟩ := bind_eq_ok.mp isDocument
  obtain ⟨denied, isDenied, isDocument⟩ := bind_eq_ok.mp isDocument
  obtain rfl := pure_eq_ok.mp isDocument
  obtain rfl : denied = some candidates := isCandidates
  unfold deniedCandidates at isDenied
  split at isDenied
  · obtain ⟨proposals, proposed, isProposals⟩ := bind_eq_ok.mp isDenied
    rw [← Option.some.inj (pure_eq_ok.mp isProposals)] at member
    exact reportsLatest_of_proposed dated proposed member
  · cases isDenied

end Windows

/-- The instant of the example event in two spellings. -/
def zulu : Spelling where
  text := "1970-01-01T00:00:00Z"
  instant := 0
  spells := by decide +kernel

def newYear : Spelling := .universal 0 Datetime.representable_epoch

def newYearArgs : InferArgs := { workspaceId := "ws_b", agent := "a" }

theorem dated_sampleEvent : Dated [sampleEvent] :=
  List.forall_mem_singleton.mpr Datetime.representable_epoch

end OperatorViews
end Vinctor
