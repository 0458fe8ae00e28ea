import Vinctor.Service.AuthFailures

/-!
# Counts and spans of throttled authentication failures

No failure is lost or counted twice: those of a surface are the ones its
summaries count, one for each closed window that needed no summary, and those of
the open window.  The span that a summary reports is the time of the first and
of the last call that took the lock in the window, which are its earliest and its
latest failure only if no other call of the window carries a time outside them.
-/

namespace Vinctor
namespace AuthFailures

open Foundation
open Audit

/-! ## Counts -/

/-- Failures that an event counts. -/
def occurrences (event : RejectionInput) : Int :=
  event.occurrenceCount.getD 0

/-- A summary counts more than one failure. -/
def isSummary (event : RejectionInput) : Bool :=
  1 < occurrences event

/-- Failures that the summaries among some events count. -/
def summarized : List RejectionInput → Int
  | [] => 0
  | event :: rest => (if isSummary event then occurrences event else 0) + summarized rest

/-- Failures in the open window of a surface. -/
def openCount (surface : String) (throttle : AuthFailureAuditThrottle) : Nat :=
  ((throttle.windows.get? surface).map AuthFailureWindow.count).getD 0

theorem summarized_append (first second : List RejectionInput) :
    summarized (first ++ second) = summarized first + summarized second := by
  induction first with
  | nil => exact (Int.zero_add _).symm
  | cons event rest inductionHypothesis =>
      rw [List.cons_append, summarized, summarized, inductionHypothesis, Int.add_assoc]

@[simp] theorem summarized_timely (surface : String) (now : Instant) :
    summarized [timely surface now] = 0 := rfl

theorem summarized_summary
    (surface : String)
    (createdAt firstSeenAt lastSeenAt : Instant)
    {count : Nat}
    (many : 1 < count) :
    summarized [emit surface createdAt count firstSeenAt lastSeenAt] = count := by
  have counts : occurrences (emit surface createdAt count firstSeenAt lastSeenAt) = count := rfl
  have summary : isSummary (emit surface createdAt count firstSeenAt lastSeenAt) = true := by
    rw [isSummary, counts]
    exact decide_eq_true (by exact_mod_cast many)
  rw [summarized, if_pos summary, summarized, Int.add_zero, counts]

theorem map_event_closedAccounts (surface : String) (cluster : Cluster Instant) :
    (closedAccounts surface cluster).map Account.event =
      timely surface cluster.first :: (AuthFailureWindow.ofCluster cluster).summary surface := by
  simp [closedAccounts, openingAccount, Function.comp_def]

/-- A closed window is counted by its summary, or as one failure. -/
theorem summarized_closedAccounts (surface : String) (cluster : Cluster Instant) :
    summarized ((closedAccounts surface cluster).map Account.event) +
        (if cluster.items.length = 1 then 1 else 0) = cluster.items.length := by
  rw [map_event_closedAccounts, ← List.singleton_append, summarized_append,
    summarized_timely, AuthFailureWindow.summary,
    show (AuthFailureWindow.ofCluster cluster).count = cluster.items.length from rfl]
  have nonempty := cluster.length_items_pos
  by_cases many : 1 < cluster.items.length
  · have alone : cluster.items.length ≠ 1 := by omega
    rw [if_pos many, if_neg alone, Int.add_zero, Int.zero_add]
    exact summarized_summary surface cluster.last cluster.first cluster.last many
  · have alone : cluster.items.length = 1 := by omega
    rw [if_neg many, if_pos alone, alone]
    rfl

/-- The closed windows are counted by their summaries, or as one failure
each. -/
theorem summarized_closed (surface : String) (closed : List (Cluster Instant)) :
    summarized ((closed.flatMap (closedAccounts surface)).map Account.event) +
        (closed.filter fun cluster => cluster.items.length = 1).length =
      (closed.flatMap Cluster.items).length := by
  induction closed with
  | nil => rfl
  | cons cluster rest inductionHypothesis =>
      have here := summarized_closedAccounts surface cluster
      rw [List.flatMap_cons, List.map_append, summarized_append, List.filter_cons,
        List.flatMap_cons, List.length_append]
      by_cases alone : cluster.items.length = 1
      · simp only [alone, decide_true, if_true, List.length_cons] at here ⊢
        push_cast
        omega
      · simp only [alone, decide_false, if_false, Bool.false_eq_true] at here ⊢
        push_cast
        omega

/-- Every failure of the windows of a surface is counted once. -/
theorem length_opened (surface : String) (windows : Clusters Instant) :
    ((windows.opened.flatMap Cluster.items).length : Int) =
      summarized ((accounts surface windows).map Account.event) +
        (windows.closed.filter fun cluster => cluster.items.length = 1).length +
        ((windows.current.map AuthFailureWindow.ofCluster).map AuthFailureWindow.count).getD 0 := by
  obtain ⟨closed, current⟩ := windows
  have counted := summarized_closed surface closed
  rw [Clusters.opened, List.flatMap_append, List.length_append, accounts, List.map_append,
    summarized_append]
  dsimp only
  cases current with
  | none =>
      simp only [Option.toList_none, List.flatMap_nil, List.map_nil, List.length_nil]
      rw [show summarized [] = 0 from rfl]
      simp only [Option.map_none, Option.getD_none]
      push_cast
      omega
  | some cluster =>
      simp only [Option.toList_some, List.flatMap_singleton, List.map_singleton]
      rw [show (openingAccount surface cluster).event = timely surface cluster.first from rfl,
        summarized_timely]
      simp only [Option.map_some, Option.getD_some, AuthFailureWindow.ofCluster]
      push_cast
      omega

theorem callsOn_callsOn (surface : String) (calls : List AuthFailure) :
    callsOn surface (callsOn surface calls) = callsOn surface calls := by
  simp [callsOn]

theorem windowsOf_callsOn
    (windowSeconds : Int)
    (surface : String)
    (calls : List AuthFailure) :
    windowsOf windowSeconds surface (callsOn surface calls) =
      windowsOf windowSeconds surface calls := by
  rw [windowsOf, callsOn_callsOn, ← windowsOf]

/-- Events of a surface after a run. -/
theorem eventsOn_emitted
    (windowSeconds : Int)
    (surface : String)
    (calls : List AuthFailure) :
    eventsOn surface (emitted windowSeconds calls) =
      (accounts surface (windowsOf windowSeconds surface calls)).map Account.event := by
  rw [emitted, (tracks_run windowSeconds surface calls).events,
    throttleMachine.map_operation_executions]

/-- Open window of a surface after a run. -/
theorem get?_throttleAfter
    (windowSeconds : Int)
    (surface : String)
    (calls : List AuthFailure) :
    (throttleAfter windowSeconds calls).windows.get? surface =
      (windowsOf windowSeconds surface calls).current.map .ofCluster := by
  rw [(tracks_run windowSeconds surface calls).current,
    throttleMachine.map_operation_executions]

/-- A run of calls on one surface emits events of that surface only. -/
theorem eventsOn_emitted_callsOn
    (windowSeconds : Int)
    (surface : String)
    (calls : List AuthFailure) :
    eventsOn surface (emitted windowSeconds (callsOn surface calls)) =
      emitted windowSeconds (callsOn surface calls) := by
  rw [eventsOn, List.filter_eq_self]
  intro event present
  obtain ⟨executed, ran, replied⟩ := List.mem_flatMap.mp present
  have own : executed.operation ∈ callsOn surface calls := by
    rw [← throttleMachine.map_operation_executions (.init windowSeconds) (callsOn surface calls)]
    exact List.mem_map_of_mem ran
  rw [throttleMachine.eq_execute_of_mem_executions ran] at replied
  rw [action_of_mem_record replied]
  exact (List.mem_filter.mp own).2

/-- The failures of a surface are those its summaries count, one for each closed
window of a single failure, and those of the open window.  Every window opens
with one timely event, and closes with a summary exactly when it held more than
one failure.  What a surface sees is what its own calls alone give. -/
theorem record_conserves_counts
    (windowSeconds : Int)
    (surface : String)
    (calls : List AuthFailure) :
    let windows := windowsOf windowSeconds surface calls
    let events := eventsOn surface (emitted windowSeconds calls)
    windows.opened.flatMap Cluster.items = (callsOn surface calls).map AuthFailure.now ∧
      ((callsOn surface calls).length : Int) =
        summarized events +
          (windows.closed.filter fun cluster => cluster.items.length = 1).length +
          openCount surface (throttleAfter windowSeconds calls) ∧
      events =
        (windows.closed.flatMap fun cluster =>
          timely surface cluster.first ::
            if 1 < cluster.items.length then
              [emit surface cluster.last cluster.items.length cluster.first cluster.last]
            else []) ++
          (windows.current.toList.map fun cluster => timely surface cluster.first) ∧
      (throttleAfter windowSeconds calls).windows.get? surface =
        (throttleAfter windowSeconds (callsOn surface calls)).windows.get? surface ∧
      events = emitted windowSeconds (callsOn surface calls) := by
  intro windows events
  have failures : windows.opened.flatMap Cluster.items =
      (callsOn surface calls).map AuthFailure.now :=
    Clusters.flatMap_items_ofList (sameWindow windowSeconds) _
  have account : events = (accounts surface windows).map Account.event :=
    eventsOn_emitted windowSeconds surface calls
  refine ⟨failures, ?_, ?_, ?_, ?_⟩
  · rw [openCount, get?_throttleAfter, account, ← length_opened, failures, List.length_map]
  · rw [account, accounts, List.map_append, List.map_flatMap, List.map_map]
    simp only [map_event_closedAccounts]
    rfl
  · rw [get?_throttleAfter, get?_throttleAfter, windowsOf_callsOn]
  · rw [← eventsOn_emitted_callsOn, eventsOn_emitted, windowsOf_callsOn]
    exact account

/-! ## Spans -/

/-- An event reports the earliest and the latest of the failures it counts. -/
def TrueSpan (event : RejectionInput) (failures : List Instant) : Prop :=
  ∃ first last, event.firstSeenAt = some first ∧ event.lastSeenAt = some last ∧
    first ≤ last ∧ first ∈ failures ∧ last ∈ failures ∧
    ∀ now ∈ failures, first ≤ now ∧ now ≤ last

/-- No call of the window carries a time before that of its first call or after
that of its last. -/
def InOrder (cluster : Cluster Instant) : Prop :=
  ∀ now ∈ cluster.items, cluster.first ≤ now ∧ now ≤ cluster.last

instance (cluster : Cluster Instant) : Decidable (InOrder cluster) :=
  inferInstanceAs (Decidable (∀ now ∈ cluster.items, _ ∧ _))

theorem trueSpan_openingAccount (surface : String) (cluster : Cluster Instant) :
    TrueSpan (openingAccount surface cluster).event
      (openingAccount surface cluster).failures.items := by
  refine ⟨cluster.first, cluster.first, rfl, rfl, Int.le_refl _, ?_, ?_, ?_⟩
  · exact List.mem_singleton_self _
  · exact List.mem_singleton_self _
  · intro now present
    rw [List.mem_singleton.mp present]
    exact ⟨Int.le_refl _, Int.le_refl _⟩

/-- The events of a closed window report true spans exactly when its calls came
in order. -/
theorem trueSpan_closedAccounts_iff (surface : String) (cluster : Cluster Instant) :
    (∀ account ∈ closedAccounts surface cluster, TrueSpan account.event account.failures.items) ↔
      InOrder cluster := by
  constructor
  · intro spans
    by_cases many : 1 < cluster.items.length
    · have present : Account.mk
          (emit surface cluster.last cluster.items.length cluster.first cluster.last) cluster ∈
          closedAccounts surface cluster := by
        simp [closedAccounts, AuthFailureWindow.summary, AuthFailureWindow.ofCluster, many]
      obtain ⟨first, last, firstEq, lastEq, -, -, -, within⟩ := spans _ present
      cases firstEq
      cases lastEq
      exact within
    · have nonempty := cluster.length_items_pos
      have alone : cluster.items.length = 1 := by omega
      rw [Cluster.eq_single_of_length alone]
      intro now present
      rw [List.mem_singleton.mp present]
      exact ⟨Int.le_refl _, Int.le_refl _⟩
  · intro ordered account present
    rcases List.mem_cons.mp present with rfl | summary
    · exact trueSpan_openingAccount surface cluster
    · obtain ⟨event, listed, rfl⟩ := List.mem_map.mp summary
      rw [AuthFailureWindow.summary] at listed
      split at listed
      · rw [List.mem_singleton.mp listed]
        exact ⟨cluster.first, cluster.last, rfl, rfl, (ordered _ cluster.last_mem_items).1,
          cluster.first_mem_items, cluster.last_mem_items, ordered⟩
      · cases listed

/-- The events of a surface report true spans exactly when, in every closed
window, no call carries a time before that of the first call to take the lock or
after that of the last. -/
theorem emitted_trueSpan_iff
    (windowSeconds : Int)
    (surface : String)
    (calls : List AuthFailure) :
    let windows := windowsOf windowSeconds surface calls
    eventsOn surface (emitted windowSeconds calls) =
        (accounts surface windows).map Account.event ∧
      ((∀ account ∈ accounts surface windows,
          TrueSpan account.event account.failures.items) ↔
        ∀ cluster ∈ windows.closed, InOrder cluster) := by
  intro windows
  refine ⟨eventsOn_emitted windowSeconds surface calls, ?_, ?_⟩
  · intro spans cluster closed
    refine (trueSpan_closedAccounts_iff surface cluster).mp fun account present => ?_
    exact spans account
      (List.mem_append_left _ (List.mem_flatMap.mpr ⟨cluster, closed, present⟩))
  · intro ordered account present
    rcases List.mem_append.mp present with closing | opening
    · obtain ⟨cluster, closed, listed⟩ := List.mem_flatMap.mp closing
      exact (trueSpan_closedAccounts_iff surface cluster).mpr (ordered cluster closed) account listed
    · obtain ⟨cluster, -, rfl⟩ := List.mem_map.mp opening
      exact trueSpan_openingAccount surface cluster

/-- Two failures whose handlers took the lock in the other order: the summary
says that the window was last probed before it was first probed, which is the
span of no failures. -/
theorem overtaken_failure_reverses_the_span :
    ∃ event ∈ emitted authFailureWindowSeconds
        [⟨"enforce", 10000002⟩, ⟨"enforce", 10000001⟩, ⟨"enforce", 70000002⟩],
      event.occurrenceCount = some 2 ∧
        event.firstSeenAt = some 10000002 ∧
        event.lastSeenAt = some 10000001 ∧
        ∀ failures, ¬ TrueSpan event failures := by
  refine ⟨emit "enforce" 10000001 2 10000002 10000001, ?_, rfl, rfl, rfl, ?_⟩
  · exact List.mem_cons_of_mem _ List.mem_cons_self
  · rintro failures ⟨first, last, firstEq, lastEq, ordered, -⟩
    cases firstEq
    cases lastEq
    exact absurd ordered (by decide)

end AuthFailures
end Vinctor
