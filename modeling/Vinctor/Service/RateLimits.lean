import Vinctor.Foundation.DictRows
import Mathlib.Data.List.Induction
import Mathlib.Data.List.Pairwise

/-!
# Fixed windows of requests

Each source has a window of requests.  Expired windows are dropped before every
call, and a source for which the table has no room is let through without a
window.  A run is a list of calls in the order in which they take the lock, with
times in whole seconds.
-/

namespace Vinctor
namespace RateLimits

open Foundation

/-! ## The limiter -/

/-- Configuration of a limiter.  The constructor refuses a bound on requests
that is not positive, and the one place that builds a limiter gives it a window
of sixty seconds. -/
structure FixedWindowRateLimiter where
  maxRequests : Nat
  windowSeconds : Int := 60
  maxSources : Nat := 10000
  maxRequestsPositive : 0 < maxRequests
  windowPositive : 0 < windowSeconds

/-- Open window of a source. -/
structure SourceWindow where
  start : Int
  count : Nat

/-- Windows by source. -/
abbrev Windows := Dict String SourceWindow

/-- Whether a window is still open. -/
def SourceWindow.live (limiter : FixedWindowRateLimiter) (now : Int) (window : SourceWindow) : Bool :=
  !(limiter.windowSeconds ≤ now - window.start)

/-- Windows without the expired ones. -/
def prune (limiter : FixedWindowRateLimiter) (now : Int) (windows : Windows) : Windows :=
  windows.filter fun _ window => window.live limiter now

/-- Whether a request may proceed, and the windows after it. -/
def allow (limiter : FixedWindowRateLimiter) (source : String) (now : Int) (windows : Windows) :
    Bool × Windows :=
  let windows := prune limiter now windows
  match windows.get? source with
  | none =>
      if limiter.maxSources ≤ windows.size then (true, windows)
      else (true, windows.set source ⟨now, 1⟩)
  | some window =>
      if window.count < limiter.maxRequests then
        (true, windows.set source ⟨window.start, window.count + 1⟩)
      else (false, windows)

/-- One call of `allow`. -/
structure Request where
  source : String
  now : Int

section Run

variable (limiter : FixedWindowRateLimiter)

/-- Windows after a run. -/
def windowsAfter (requests : List Request) : Windows :=
  requests.foldl
    (fun windows request => (allow limiter request.source request.now windows).2) Dict.empty

/-- Whether a request is allowed after a run. -/
def Allows (requests : List Request) (request : Request) : Prop :=
  (allow limiter request.source request.now (windowsAfter limiter requests)).1 = true

/-- Whether a request after a run opens a window for its source. -/
def Opens (requests : List Request) (request : Request) : Prop :=
  (prune limiter request.now (windowsAfter limiter requests)).get? request.source = none ∧
    ((windowsAfter limiter (requests ++ [request])).get? request.source).isSome

theorem windowsAfter_concat (requests : List Request) (request : Request) :
    windowsAfter limiter (requests ++ [request]) =
      (allow limiter request.source request.now (windowsAfter limiter requests)).2 := by
  rw [windowsAfter, List.foldl_append, List.foldl_cons, List.foldl_nil, ← windowsAfter]

end Run

variable {limiter : FixedWindowRateLimiter}

/-! ## One request -/

theorem live_iff {now : Int} {window : SourceWindow} :
    window.live limiter now = true ↔ now - window.start < limiter.windowSeconds := by
  simp [SourceWindow.live]

theorem get?_prune_eq_some
    {now : Int}
    {windows : Windows}
    {source : String}
    {window : SourceWindow} :
    (prune limiter now windows).get? source = some window ↔
      windows.get? source = some window ∧ now - window.start < limiter.windowSeconds := by
  rw [prune, Dict.get?_filter, Option.filter_eq_some_iff, live_iff]

/-- The three things that a request can do. -/
theorem allow_cases (limiter : FixedWindowRateLimiter) (source : String) (now : Int) (windows : Windows) :
    let pruned := prune limiter now windows
    (pruned.get? source = none ∧ limiter.maxSources ≤ pruned.size ∧
        allow limiter source now windows = (true, pruned)) ∨
      (pruned.get? source = none ∧ pruned.size < limiter.maxSources ∧
        allow limiter source now windows = (true, pruned.set source ⟨now, 1⟩)) ∨
      (∃ window, pruned.get? source = some window ∧ window.count < limiter.maxRequests ∧
        allow limiter source now windows =
          (true, pruned.set source ⟨window.start, window.count + 1⟩)) ∨
      ∃ window, pruned.get? source = some window ∧ limiter.maxRequests ≤ window.count ∧
        allow limiter source now windows = (false, pruned) := by
  intro pruned
  cases found : pruned.get? source with
  | none =>
      by_cases full : limiter.maxSources ≤ pruned.size
      · refine Or.inl ⟨rfl, full, ?_⟩
        simp only [allow, show (prune limiter now windows).get? source = none from found]
        exact if_pos full
      · refine Or.inr (Or.inl ⟨rfl, Nat.lt_of_not_le full, ?_⟩)
        simp only [allow, show (prune limiter now windows).get? source = none from found]
        exact if_neg full
  | some window =>
      by_cases room : window.count < limiter.maxRequests
      · refine Or.inr (Or.inr (Or.inl ⟨window, rfl, room, ?_⟩))
        simp only [allow, show (prune limiter now windows).get? source = some window from found]
        exact if_pos room
      · refine Or.inr (Or.inr (Or.inr ⟨window, rfl, Nat.le_of_not_lt room, ?_⟩))
        simp only [allow, show (prune limiter now windows).get? source = some window from found]
        exact if_neg room

/-! ## Bounds on the table -/

/-- The table is within its bound, and its windows within theirs at a time. -/
structure Bounded (limiter : FixedWindowRateLimiter) (now : Int) (windows : Windows) : Prop where
  size : windows.size ≤ limiter.maxSources
  started : ∀ source window, windows.get? source = some window → window.start ≤ now
  positive : ∀ source window, windows.get? source = some window → 1 ≤ window.count
  counted : ∀ source window, windows.get? source = some window →
    window.count ≤ limiter.maxRequests

/-- Every window is open at a time. -/
def AllLive (limiter : FixedWindowRateLimiter) (now : Int) (windows : Windows) : Prop :=
  ∀ source window, windows.get? source = some window →
    now - window.start < limiter.windowSeconds

theorem Bounded.later
    {now later : Int}
    {windows : Windows}
    (bounded : Bounded limiter now windows)
    (ordered : now ≤ later) :
    Bounded limiter later windows :=
  { bounded with
    started := fun source window found =>
      Int.le_trans (bounded.started source window found) ordered }

theorem allLive_prune (now : Int) (windows : Windows) :
    AllLive limiter now (prune limiter now windows) :=
  fun _ _ found => (get?_prune_eq_some.mp found).2

theorem Bounded.prune
    {now : Int}
    {windows : Windows}
    (bounded : Bounded limiter now windows)
    (pruning : Int) :
    Bounded limiter now (prune limiter pruning windows) where
  size := Nat.le_trans (List.length_filter_le _ _) bounded.size
  started source window found := bounded.started source window (get?_prune_eq_some.mp found).1
  positive source window found := bounded.positive source window (get?_prune_eq_some.mp found).1
  counted source window found := bounded.counted source window (get?_prune_eq_some.mp found).1

/-- Storing a window within the bounds keeps the bounds, when there is room for
it or the source has one already. -/
theorem Bounded.set
    {now : Int}
    {windows : Windows}
    (bounded : Bounded limiter now windows)
    {source : String}
    {window : SourceWindow}
    (room : (windows.get? source).isSome ∨ windows.size < limiter.maxSources)
    (started : window.start ≤ now)
    (positive : 1 ≤ window.count)
    (counted : window.count ≤ limiter.maxRequests) :
    Bounded limiter now (windows.set source window) where
  size := by
    rw [Dict.size_set]
    have size := bounded.size
    split
    · exact size
    · next absent =>
        have := room.resolve_left absent
        omega
  started other stored found := by
    rw [Dict.get?_set] at found
    split at found
    · cases found
      exact started
    · exact bounded.started other stored found
  positive other stored found := by
    rw [Dict.get?_set] at found
    split at found
    · cases found
      exact positive
    · exact bounded.positive other stored found
  counted other stored found := by
    rw [Dict.get?_set] at found
    split at found
    · cases found
      exact counted
    · exact bounded.counted other stored found

theorem AllLive.set
    {now : Int}
    {windows : Windows}
    (live : AllLive limiter now windows)
    (source : String)
    {window : SourceWindow}
    (opened : now - window.start < limiter.windowSeconds) :
    AllLive limiter now (windows.set source window) := by
  intro other stored found
  rw [Dict.get?_set] at found
  split at found
  · cases found
    exact opened
  · exact live other stored found

/-- A request leaves no expired window. -/
theorem allLive_allow
    (limiter : FixedWindowRateLimiter)
    (source : String)
    (now : Int)
    (windows : Windows) :
    AllLive limiter now (allow limiter source now windows).2 := by
  have live : AllLive limiter now (prune limiter now windows) := allLive_prune now windows
  have fresh : now - now < limiter.windowSeconds := by
    have := limiter.windowPositive
    omega
  rcases allow_cases limiter source now windows with
    ⟨-, -, step⟩ | ⟨-, -, step⟩ | ⟨window, found, -, step⟩ | ⟨window, -, -, step⟩
  · rw [step]
    exact live
  · rw [step]
    exact live.set source fresh
  · rw [step]
    exact live.set source (live source window found)
  · rw [step]
    exact live

/-- A request keeps the bounds at every time that it has not passed. -/
theorem Bounded.allow
    {now later : Int}
    {windows : Windows}
    (bounded : Bounded limiter later windows)
    (past : now ≤ later)
    (source : String) :
    Bounded limiter later (allow limiter source now windows).2 := by
  have pruned := bounded.prune now
  rcases allow_cases limiter source now windows with
    ⟨-, -, step⟩ | ⟨-, room, step⟩ | ⟨window, found, room, step⟩ | ⟨window, -, -, step⟩
  · rw [step]
    exact pruned
  · rw [step]
    exact pruned.set (Or.inr room) past (Nat.le_refl 1) limiter.maxRequestsPositive
  · rw [step]
    refine pruned.set (Or.inl ?_) (pruned.started source window found) (Nat.le_add_left 1 _) room
    rw [found]
    rfl
  · rw [step]
    exact pruned

/-- A run keeps the bounds at every time that no request of it has passed. -/
theorem bounded_windowsAfter
    {requests : List Request}
    {now : Int}
    (past : ∀ request ∈ requests, request.now ≤ now) :
    Bounded limiter now (windowsAfter limiter requests) := by
  induction requests using List.reverseRecOn with
  | nil =>
      refine ⟨Nat.zero_le _, ?_, ?_, ?_⟩
      · rintro source window ⟨⟩
      · rintro source window ⟨⟩
      · rintro source window ⟨⟩
  | append_singleton requests request inductionHypothesis =>
      rw [windowsAfter_concat]
      have before := inductionHypothesis fun earlier present =>
        past earlier (List.mem_append_left _ present)
      exact before.allow (past request (List.mem_append_right _ (List.mem_singleton_self _))) _

/-! ## The window of a tracked source -/

/-- A request that opens a window is allowed, and its window counts it. -/
theorem Opens.allows
    {requests : List Request}
    {request : Request}
    (opens : Opens limiter requests request) :
    Allows limiter requests request ∧
      (windowsAfter limiter (requests ++ [request])).get? request.source =
        some ⟨request.now, 1⟩ := by
  obtain ⟨absent, tracked⟩ := opens
  rw [windowsAfter_concat] at tracked ⊢
  rw [Allows]
  rcases allow_cases limiter request.source request.now (windowsAfter limiter requests) with
    ⟨-, -, step⟩ | ⟨-, -, step⟩ | ⟨window, found, -⟩ | ⟨window, found, -⟩
  · rw [step] at tracked
    rw [absent] at tracked
    cases tracked
  · rw [step]
    exact ⟨rfl, Dict.get?_set_self _ _ _⟩
  · rw [absent] at found
    cases found
  · rw [absent] at found
    cases found

/-- A request inside the window of a source counts it up to the bound if it is
of that source, and leaves it otherwise. -/
theorem get?_allow
    {windows : Windows}
    {source : String}
    {window : SourceWindow}
    (found : windows.get? source = some window)
    (bounded : window.count ≤ limiter.maxRequests)
    (request : Request)
    (inside : request.now - window.start < limiter.windowSeconds) :
    (allow limiter request.source request.now windows).2.get? source =
      some ⟨window.start,
        if request.source = source then min limiter.maxRequests (window.count + 1)
        else window.count⟩ := by
  have kept : (prune limiter request.now windows).get? source = some window :=
    get?_prune_eq_some.mpr ⟨found, inside⟩
  rcases allow_cases limiter request.source request.now windows with
    ⟨absent, -, step⟩ | ⟨absent, -, step⟩ | ⟨held, present, room, step⟩ |
      ⟨held, present, full, step⟩
  · have other : request.source ≠ source := by
      rintro rfl
      rw [absent] at kept
      cases kept
    rw [step, if_neg other]
    exact kept
  · have other : request.source ≠ source := by
      rintro rfl
      rw [absent] at kept
      cases kept
    rw [step, if_neg other]
    exact (Dict.get?_set_of_ne _ _ other.symm).trans kept
  · rw [step]
    by_cases own : request.source = source
    · rw [own] at present ⊢
      rw [kept] at present
      cases present
      rw [if_pos rfl, Nat.min_eq_right room]
      exact Dict.get?_set_self _ _ _
    · rw [if_neg own]
      exact (Dict.get?_set_of_ne _ _ (Ne.symm own)).trans kept
  · rw [step]
    by_cases own : request.source = source
    · rw [own] at present
      rw [kept] at present
      cases present
      have atBound : window.count = limiter.maxRequests := Nat.le_antisymm bounded full
      rw [if_pos own, atBound, Nat.min_eq_left (Nat.le_succ _), ← atBound]
      exact kept
    · rw [if_neg own]
      exact kept

/-- Requests of a source among some. -/
def countOf (source : String) (requests : List Request) : Nat :=
  requests.countP fun request => request.source = source

/-- Inside the window that a request opened, the table counts the requests of
its source up to the bound. -/
theorem get?_windowsAfter_of_opens
    {earlier middle : List Request}
    {opening : Request}
    (opens : Opens limiter earlier opening)
    (inside : ∀ request ∈ middle, request.now - opening.now < limiter.windowSeconds) :
    (windowsAfter limiter (earlier ++ opening :: middle)).get? opening.source =
      some ⟨opening.now, min limiter.maxRequests (countOf opening.source middle + 1)⟩ := by
  induction middle using List.reverseRecOn with
  | nil =>
      rw [opens.allows.2, countOf, List.countP_nil,
        Nat.min_eq_right limiter.maxRequestsPositive]
  | append_singleton middle request inductionHypothesis =>
      have before := inductionHypothesis fun other present =>
        inside other (List.mem_append_left _ present)
      have here := inside request (List.mem_append_right _ (List.mem_singleton_self _))
      have split : earlier ++ opening :: (middle ++ [request]) =
          (earlier ++ opening :: middle) ++ [request] := by
        rw [List.append_assoc, List.cons_append]
      rw [split, windowsAfter_concat, get?_allow before (Nat.min_le_left _ _) request here,
        countOf, countOf, List.countP_append, List.countP_singleton]
      by_cases own : request.source = opening.source
      · simp only [own, if_true, decide_true]
        congr 2
        omega
      · simp [own]

/-- Inside a window the table allows a request of its source exactly when fewer
than the bound came before it. -/
theorem allows_iff_of_get?
    {requests : List Request}
    {request : Request}
    {window : SourceWindow}
    (found : (windowsAfter limiter requests).get? request.source = some window)
    (inside : request.now - window.start < limiter.windowSeconds) :
    Allows limiter requests request ↔ window.count < limiter.maxRequests := by
  have kept : (prune limiter request.now (windowsAfter limiter requests)).get? request.source =
      some window :=
    get?_prune_eq_some.mpr ⟨found, inside⟩
  rw [Allows]
  rcases allow_cases limiter request.source request.now (windowsAfter limiter requests) with
    ⟨absent, -⟩ | ⟨absent, -⟩ | ⟨held, present, room, step⟩ | ⟨held, present, full, step⟩
  · rw [absent] at kept
    cases kept
  · rw [absent] at kept
    cases kept
  · rw [kept] at present
    cases present
    rw [step]
    exact iff_of_true rfl room
  · rw [kept] at present
    cases present
    rw [step]
    exact iff_of_false Bool.false_ne_true (Nat.not_lt_of_le full)

/-- A request that is allowed without a window finds the table full of live
windows of other sources. -/
theorem full_of_untracked
    {requests : List Request}
    {request : Request}
    (bounded : Bounded limiter request.now (windowsAfter limiter requests))
    (untracked : (windowsAfter limiter (requests ++ [request])).get? request.source = none) :
    let live := prune limiter request.now (windowsAfter limiter requests)
    live.size = limiter.maxSources ∧ live.get? request.source = none := by
  intro live
  rw [windowsAfter_concat] at untracked
  rcases allow_cases limiter request.source request.now (windowsAfter limiter requests) with
    ⟨absent, full, -⟩ | ⟨-, -, step⟩ | ⟨window, -, -, step⟩ | ⟨window, found, -, step⟩
  · exact ⟨Nat.le_antisymm (bounded.prune _).size full, absent⟩
  · rw [step, Dict.get?_set_self] at untracked
    cases untracked
  · rw [step, Dict.get?_set_self] at untracked
    cases untracked
  · rw [step, found] at untracked
    cases untracked

/-- The times of a run do not decrease. -/
def Ordered (requests : List Request) : Prop :=
  requests.Pairwise fun earlier later => earlier.now ≤ later.now

instance (requests : List Request) : Decidable (Ordered requests) :=
  inferInstanceAs (Decidable (List.Pairwise _ _))

/-- After every run the table is within its bound and its windows are open and
within theirs.  A source is allowed exactly the first `maxRequests` requests of
a window that it opened, and a request without a window is allowed only where
live windows of other sources fill the table. -/
theorem allow_accounts
    (limiter : FixedWindowRateLimiter)
    (requests : List Request)
    (request : Request)
    (ordered : Ordered (requests ++ [request])) :
    let windows := windowsAfter limiter (requests ++ [request])
    windows.size ≤ limiter.maxSources ∧
      (∀ source window, windows.get? source = some window →
        window.start ≤ request.now ∧
          request.now - window.start < limiter.windowSeconds ∧
          1 ≤ window.count ∧ window.count ≤ limiter.maxRequests) ∧
      (∀ earlier opening middle,
        requests = earlier ++ opening :: middle →
        opening.source = request.source →
        Opens limiter earlier opening →
        request.now - opening.now < limiter.windowSeconds →
        Allows limiter earlier opening ∧
          (Allows limiter requests request ↔
            countOf request.source middle + 1 < limiter.maxRequests)) ∧
      (Allows limiter requests request →
        windows.get? request.source = none →
        let live := prune limiter request.now (windowsAfter limiter requests)
        live.size = limiter.maxSources ∧ live.get? request.source = none) := by
  intro windows
  have past : ∀ other ∈ requests, other.now ≤ request.now := fun other present =>
    (List.pairwise_append.mp ordered).2.2 other present request (List.mem_singleton_self _)
  have before : Bounded limiter request.now (windowsAfter limiter requests) :=
    bounded_windowsAfter past
  have after : Bounded limiter request.now windows := by
    rw [show windows = _ from windowsAfter_concat limiter requests request]
    exact before.allow (Int.le_refl _) _
  have live : AllLive limiter request.now windows := by
    rw [show windows = _ from windowsAfter_concat limiter requests request]
    exact allLive_allow limiter _ _ _
  refine ⟨after.size, ?_, ?_, ?_⟩
  · intro source window found
    exact ⟨after.started source window found, live source window found,
      after.positive source window found, after.counted source window found⟩
  · rintro earlier opening middle rfl same opens inside
    refine ⟨opens.allows.1, ?_⟩
    have within : ∀ other ∈ middle, other.now - opening.now < limiter.windowSeconds := by
      intro other present
      have := past other (List.mem_append_right _ (List.mem_cons_of_mem _ present))
      omega
    have found := get?_windowsAfter_of_opens opens within
    rw [same] at found
    rw [allows_iff_of_get? found inside]
    dsimp only
    omega
  · intro _ untracked
    exact full_of_untracked before untracked

/-- Two requests a minute: the third of the window is denied. -/
theorem third_request_is_denied :
    ¬ Allows ⟨2, 60, 10000, by decide, by decide⟩
      [⟨"10.0.0.1", 0⟩, ⟨"10.0.0.2", 5⟩, ⟨"10.0.0.1", 10⟩] ⟨"10.0.0.1", 59⟩ := by
  have accounts := (allow_accounts ⟨2, 60, 10000, by decide, by decide⟩
    [⟨"10.0.0.1", 0⟩, ⟨"10.0.0.2", 5⟩, ⟨"10.0.0.1", 10⟩] ⟨"10.0.0.1", 59⟩ (by decide)).2.2.1
    [] ⟨"10.0.0.1", 0⟩ [⟨"10.0.0.2", 5⟩, ⟨"10.0.0.1", 10⟩] rfl rfl ⟨rfl, rfl⟩ (by decide)
  rw [accounts.2]
  decide

end RateLimits
end Vinctor
