import Vinctor.Core.Audit
import Vinctor.Foundation.Dict
import Vinctor.Foundation.Clustering
import Vinctor.Foundation.Machine

/-!
# Throttled audit of authentication failures

The first failure of a window is emitted at once, the later ones are counted in
memory, and the count is emitted when the next window of the surface opens.  A
run is a list of calls in the order in which they take the lock; each carries
the time its handler captured before that, so the times of a run need not be
ordered.
-/

namespace Vinctor
namespace AuthFailures

open Foundation
open Audit

/-! ## The throttle -/

/-- Failures counted for one surface since its window opened. -/
structure AuthFailureWindow where
  start : Instant
  lastSeen : Instant
  count : Nat
deriving DecidableEq

/-- Open window of every surface, and the length of a window. -/
structure AuthFailureAuditThrottle where
  window : Int
  windows : Dict String AuthFailureWindow

def authFailureWindowSeconds : Int := 60

/-- Throttle of a fresh process. -/
def AuthFailureAuditThrottle.init (windowSeconds : Int) : AuthFailureAuditThrottle where
  window := windowSeconds * 1000000
  windows := Dict.empty

/-- Fields of an emitted event: it discloses nothing but the surface. -/
def emit
    (surface : String)
    (createdAt : Instant)
    (occurrenceCount : Nat)
    (firstSeenAt lastSeenAt : Instant) : RejectionInput where
  reasonCode := .authFailed
  workspaceId := ""
  agentId := ""
  createdAt := createdAt
  eventType := .authFailed
  action := surface
  scopeAttempted := some ""
  boundaryId := none
  occurrenceCount := some occurrenceCount
  firstSeenAt := some firstSeenAt
  lastSeenAt := some lastSeenAt

/-- The just opened window of a failure. -/
def AuthFailureWindow.opening (now : Instant) : AuthFailureWindow := ⟨now, now, 1⟩

/-- Event of a failure that opens a window. -/
def timely (surface : String) (now : Instant) : RejectionInput :=
  emit surface now 1 now now

/-- Event of a closed window, if it counted more than its first failure. -/
def AuthFailureWindow.summary (surface : String) (window : AuthFailureWindow) :
    List RejectionInput :=
  if 1 < window.count then
    [emit surface window.lastSeen window.count window.start window.lastSeen]
  else []

namespace AuthFailureAuditThrottle

/-- Emitted events and next state of one failure. -/
def record (throttle : AuthFailureAuditThrottle) (surface : String) (now : Instant) :
    List RejectionInput × AuthFailureAuditThrottle :=
  match throttle.windows.get? surface with
  | some window =>
      if now - window.start < throttle.window then
        ([], { throttle with windows :=
          throttle.windows.set surface ⟨window.start, now, window.count + 1⟩ })
      else
        (window.summary surface ++ [timely surface now],
          { throttle with windows := throttle.windows.set surface (.opening now) })
  | none =>
      ([timely surface now],
        { throttle with windows := throttle.windows.set surface (.opening now) })

end AuthFailureAuditThrottle

/-- One call of `record`. -/
structure AuthFailure where
  surface : String
  now : Instant

def throttleMachine : Machine AuthFailureAuditThrottle AuthFailure (List RejectionInput) where
  step call throttle := throttle.record call.surface call.now

/-- Events that a run emits, in the order in which the lock decides them. -/
def emitted (windowSeconds : Int) (calls : List AuthFailure) : List RejectionInput :=
  (throttleMachine.executions (.init windowSeconds) calls).flatMap Executed.reply

/-- Throttle after a run. -/
def throttleAfter (windowSeconds : Int) (calls : List AuthFailure) :
    AuthFailureAuditThrottle :=
  throttleMachine.final (.init windowSeconds) calls

/-- Events of one surface. -/
def eventsOn (surface : String) (events : List RejectionInput) : List RejectionInput :=
  events.filter fun event => event.action = surface

/-- Calls on one surface. -/
def callsOn (surface : String) (calls : List AuthFailure) : List AuthFailure :=
  calls.filter fun call => call.surface = surface

/-! ## Windows of a surface -/

/-- Whether a failure falls in the window that an earlier one opened. -/
def sameWindow (windowSeconds : Int) (start now : Instant) : Bool :=
  now - start < windowSeconds * 1000000

/-- Windows of one surface, as the clusters of the times of its calls. -/
def windowsOf (windowSeconds : Int) (surface : String) (calls : List AuthFailure) :
    Clusters Instant :=
  Clusters.ofList (sameWindow windowSeconds) ((callsOn surface calls).map AuthFailure.now)

/-- What the throttle remembers of a cluster of failures. -/
def AuthFailureWindow.ofCluster (cluster : Cluster Instant) : AuthFailureWindow where
  start := cluster.first
  lastSeen := cluster.last
  count := cluster.items.length

/-- An emitted event and the failures it counts. -/
structure Account where
  event : RejectionInput
  failures : Cluster Instant

/-- The event that opens a window counts its first failure. -/
def openingAccount (surface : String) (cluster : Cluster Instant) : Account where
  event := timely surface cluster.first
  failures := .single cluster.first

/-- Events of a closed window: its first failure, and all of them if there are
more. -/
def closedAccounts (surface : String) (cluster : Cluster Instant) : List Account :=
  openingAccount surface cluster ::
    ((AuthFailureWindow.ofCluster cluster).summary surface).map fun event => ⟨event, cluster⟩

/-- Events of the windows of a surface. -/
def accounts (surface : String) (windows : Clusters Instant) : List Account :=
  windows.closed.flatMap (closedAccounts surface) ++
    windows.current.toList.map (openingAccount surface)

theorem windowsOf_concat_self
    (windowSeconds : Int)
    (calls : List AuthFailure)
    (call : AuthFailure) :
    windowsOf windowSeconds call.surface (calls ++ [call]) =
      (windowsOf windowSeconds call.surface calls).add (sameWindow windowSeconds) call.now := by
  have own : callsOn call.surface [call] = [call] := by simp [callsOn]
  rw [windowsOf, callsOn, List.filter_append, ← callsOn, ← callsOn, own, List.map_append,
    List.map_singleton, Clusters.ofList_concat, ← windowsOf]

theorem windowsOf_concat_of_ne
    (windowSeconds : Int)
    (calls : List AuthFailure)
    {surface : String}
    {call : AuthFailure}
    (other : call.surface ≠ surface) :
    windowsOf windowSeconds surface (calls ++ [call]) =
      windowsOf windowSeconds surface calls := by
  have none : callsOn surface [call] = [] := by simp [callsOn, other]
  rw [windowsOf, callsOn, List.filter_append, ← callsOn, ← callsOn, none, List.append_nil,
    ← windowsOf]

/-! ## Accounts of one more failure -/

/-- Events that one more failure of a surface adds. -/
def addedEvents
    (windowSeconds : Int)
    (surface : String)
    (windows : Clusters Instant)
    (now : Instant) : List RejectionInput :=
  match windows.current with
  | none => [timely surface now]
  | some cluster =>
      if sameWindow windowSeconds cluster.first now then []
      else (AuthFailureWindow.ofCluster cluster).summary surface ++ [timely surface now]

/-- The events of one more failure follow those of the windows before it. -/
theorem accounts_add
    (windowSeconds : Int)
    (surface : String)
    (windows : Clusters Instant)
    (now : Instant) :
    (accounts surface (windows.add (sameWindow windowSeconds) now)).map Account.event =
      (accounts surface windows).map Account.event ++
        addedEvents windowSeconds surface windows now := by
  obtain ⟨closed, current⟩ := windows
  cases current with
  | none => simp [accounts, addedEvents, Clusters.add, openingAccount, Cluster.single]
  | some cluster =>
      simp only [Clusters.add, addedEvents]
      split
      · simp [accounts, openingAccount]
      · simp [accounts, closedAccounts, openingAccount, Cluster.single, Function.comp_def]

theorem eventsOn_append (surface : String) (first second : List RejectionInput) :
    eventsOn surface (first ++ second) = eventsOn surface first ++ eventsOn surface second :=
  List.filter_append first second

/-! ## One call -/

/-- Every emitted event names the surface of its call. -/
theorem action_of_mem_record
    {throttle : AuthFailureAuditThrottle}
    {surface : String}
    {now : Instant}
    {event : RejectionInput}
    (emitted : event ∈ (throttle.record surface now).1) :
    event.action = surface := by
  unfold AuthFailureAuditThrottle.record at emitted
  split at emitted
  · split at emitted
    · cases emitted
    · rcases List.mem_append.mp emitted with closing | opening
      · rw [AuthFailureWindow.summary] at closing
        split at closing
        · rw [List.mem_singleton.mp closing, emit]
        · cases closing
      · rw [List.mem_singleton.mp opening, timely, emit]
  · rw [List.mem_singleton.mp emitted, timely, emit]

theorem eventsOn_record_self
    (throttle : AuthFailureAuditThrottle)
    (surface : String)
    (now : Instant) :
    eventsOn surface (throttle.record surface now).1 = (throttle.record surface now).1 :=
  List.filter_eq_self.mpr fun _ emitted => decide_eq_true (action_of_mem_record emitted)

theorem eventsOn_record_of_ne
    (throttle : AuthFailureAuditThrottle)
    {surface other : String}
    (different : surface ≠ other)
    (now : Instant) :
    eventsOn other (throttle.record surface now).1 = [] := by
  rw [eventsOn, List.filter_eq_nil_iff]
  intro event emitted
  rw [action_of_mem_record emitted]
  simpa using different

/-! ## The windows that a run tracks -/

/-- The throttle remembers the open window of a surface, and the events of the
surface are those of its windows. -/
structure Tracks
    (windowSeconds : Int)
    (surface : String)
    (history : List (Executed AuthFailureAuditThrottle AuthFailure (List RejectionInput)))
    (throttle : AuthFailureAuditThrottle) : Prop where
  window : throttle.window = windowSeconds * 1000000
  current : throttle.windows.get? surface =
    (windowsOf windowSeconds surface (history.map Executed.operation)).current.map
      AuthFailureWindow.ofCluster
  events : eventsOn surface (history.flatMap Executed.reply) =
    (accounts surface (windowsOf windowSeconds surface
      (history.map Executed.operation))).map Account.event

/-- A call reads one more failure into the windows of its surface. -/
theorem record_eq
    {throttle : AuthFailureAuditThrottle}
    {windowSeconds : Int}
    {surface : String}
    {windows : Clusters Instant}
    (length : throttle.window = windowSeconds * 1000000)
    (current : throttle.windows.get? surface = windows.current.map .ofCluster)
    (now : Instant) :
    (throttle.record surface now).1 = addedEvents windowSeconds surface windows now ∧
      (throttle.record surface now).2.windows.get? surface =
        (windows.add (sameWindow windowSeconds) now).current.map .ofCluster := by
  obtain ⟨closed, opened⟩ := windows
  cases opened with
  | none =>
      simp only [Option.map_none] at current
      simp [AuthFailureAuditThrottle.record, current, addedEvents, Clusters.add,
        AuthFailureWindow.opening, AuthFailureWindow.ofCluster]
  | some cluster =>
      simp only [Option.map_some] at current
      by_cases inside : now - cluster.first < windowSeconds * 1000000
      · simp [AuthFailureAuditThrottle.record, current, addedEvents, Clusters.add, length,
          sameWindow, inside, AuthFailureWindow.ofCluster]
      · simp [AuthFailureAuditThrottle.record, current, addedEvents, Clusters.add, length,
          sameWindow, inside, AuthFailureWindow.opening, AuthFailureWindow.ofCluster]

/-- A call writes no window but that of its own surface. -/
theorem get?_record_of_ne
    (throttle : AuthFailureAuditThrottle)
    {surface other : String}
    (different : surface ≠ other)
    (now : Instant) :
    (throttle.record surface now).2.windows.get? other = throttle.windows.get? other := by
  unfold AuthFailureAuditThrottle.record
  split
  · split
    · exact Dict.get?_set_of_ne _ _ different.symm
    · exact Dict.get?_set_of_ne _ _ different.symm
  · exact Dict.get?_set_of_ne _ _ different.symm

@[simp] theorem window_record
    (throttle : AuthFailureAuditThrottle)
    (surface : String)
    (now : Instant) :
    (throttle.record surface now).2.window = throttle.window := by
  unfold AuthFailureAuditThrottle.record
  split
  · split <;> rfl
  · rfl

/-- Every call keeps the windows of a surface tracked. -/
theorem Tracks.record
    {windowSeconds : Int}
    {surface : String}
    {history : List (Executed AuthFailureAuditThrottle AuthFailure (List RejectionInput))}
    {throttle : AuthFailureAuditThrottle}
    (tracks : Tracks windowSeconds surface history throttle)
    (call : AuthFailure) :
    Tracks windowSeconds surface (history ++ [throttleMachine.execute call throttle])
      (throttleMachine.step call throttle).2 := by
  have calls : (history ++ [throttleMachine.execute call throttle]).map Executed.operation =
      history.map Executed.operation ++ [call] := by
    rw [List.map_append]
    rfl
  have replies : (history ++ [throttleMachine.execute call throttle]).flatMap Executed.reply =
      history.flatMap Executed.reply ++ (throttle.record call.surface call.now).1 := by
    rw [List.flatMap_append, List.flatMap_singleton]
    rfl
  by_cases own : call.surface = surface
  · subst own
    obtain ⟨events, current⟩ := record_eq tracks.window tracks.current call.now
    refine ⟨(window_record ..).trans tracks.window, ?_, ?_⟩
    · rw [calls, windowsOf_concat_self]
      exact current
    · rw [calls, replies, windowsOf_concat_self, accounts_add, eventsOn_append,
        tracks.events, eventsOn_record_self, events]
  · refine ⟨(window_record ..).trans tracks.window, ?_, ?_⟩
    · rw [calls, windowsOf_concat_of_ne windowSeconds _ own, ← tracks.current]
      exact get?_record_of_ne throttle own call.now
    · rw [calls, replies, windowsOf_concat_of_ne windowSeconds _ own, eventsOn_append,
        eventsOn_record_of_ne throttle own, List.append_nil, tracks.events]

/-- A run tracks the windows of every surface. -/
theorem tracks_run (windowSeconds : Int) (surface : String) (calls : List AuthFailure) :
    Tracks windowSeconds surface
      (throttleMachine.executions (.init windowSeconds) calls)
      (throttleAfter windowSeconds calls) := by
  have fresh : Tracks windowSeconds surface [] (.init windowSeconds) := ⟨rfl, rfl, rfl⟩
  exact throttleMachine.final_invariant (fun _ _ call tracks => tracks.record call) fresh calls

end AuthFailures
end Vinctor
