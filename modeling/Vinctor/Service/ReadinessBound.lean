import Mathlib.Data.List.Perm.Subperm
import Vinctor.Service.ReadinessProbe

/-!
# The readiness probe stays within its bounds

A worker thread that is still serving is the current worker or has a slot, so the
checks in flight are at most one more than the slots.  A caller is told that the
backend is ready only by a check that began after the probe of the caller was made.

A worker looks at its mark under the lock and begins the check after it has left it.
In between it may be abandoned, and then it begins that one check all the same; it
takes on no other.
-/

namespace Vinctor
namespace Readiness

open Foundation

/-! ## Threads -/

/-- The worker whose thread this is. -/
def Task.thread : Task → List Nat
  | .parking worker | .parked worker | .woken worker | .leavingIdle worker | .entering worker
  | .deciding worker _ _ | .checking worker _ _ | .settling worker _ _ _ _
  | .answering worker _ _ _ _ | .finishing worker _ _ | .leaving worker | .ending worker =>
      [worker]
  | .calling | .awaiting _ | .closing | .abandoning _ => []

/-- The worker, until it has given its slot back. -/
def Task.serves : Task → List Nat
  | .ending _ => []
  | task => task.thread

/-- The worker that has taken on a probe and not begun the check. -/
def Task.commits : Task → List Nat
  | .deciding worker _ _ => [worker]
  | _ => []

def Task.isChecking : Task → Bool
  | .checking _ _ _ => true
  | _ => false

theorem tally_serves_le (tasks : List Task) (worker : Nat) :
    tally Task.serves tasks worker ≤ tally Task.thread tasks worker := by
  refine tally_mono ?_ tasks worker
  intro task worker
  cases task with
  | ending ended => exact Nat.zero_le _
  | _ => exact Nat.le_refl _

theorem tally_commits_le (tasks : List Task) (worker : Nat) :
    tally Task.commits tasks worker ≤ tally Task.thread tasks worker := by
  refine tally_mono ?_ tasks worker
  intro task worker
  cases task with
  | deciding committed => exact Nat.le_refl _
  | _ => exact Nat.zero_le _

/-! ## Marks -/

/-- A mark that is set counts its worker from then on. -/
theorem countP_update_true
    {marks : Nat → Bool}
    {worker : Nat}
    (unmarked : marks worker = false)
    (workers : List Nat) :
    workers.countP (Function.update marks worker true) =
      workers.countP marks + workers.count worker := by
  induction workers with
  | nil => rfl
  | cons first rest inductionHypothesis =>
      rw [List.countP_cons, List.countP_cons, List.count_cons, inductionHypothesis]
      by_cases same : first = worker
      · subst same
        simp only [Function.update_self, unmarked, BEq.rfl, if_true, Bool.false_eq_true, if_false]
        omega
      · simp only [Function.update_of_ne same, beq_iff_eq, same, if_false]
        omega

/-- A mark that is taken away counts its worker no more. -/
theorem countP_update_false
    {marks : Nat → Bool}
    {worker : Nat}
    (marked : marks worker = true)
    (workers : List Nat) :
    workers.countP (Function.update marks worker false) + workers.count worker =
      workers.countP marks := by
  have unmarked : Function.update marks worker false worker = false := Function.update_self ..
  have counted := countP_update_true unmarked workers
  rw [Function.update_idem, ← marked, Function.update_eq_self] at counted
  exact counted.symm

/-! ## Slots -/

/-- Whether a worker has no slot. -/
def State.uncounted (state : State) (worker : Nat) : Bool := !state.counted worker

structure Slots (state : State) (tasks : List Task) : Prop where
  threads : ∀ worker, state.alive.count worker = tally Task.thread tasks worker
  once : ∀ worker, tally Task.thread tasks worker ≤ 1
  fresh : ∀ worker, state.nextWorker ≤ worker → tally Task.thread tasks worker = 0
  slotted : ∀ worker, state.counted worker = true → tally Task.serves tasks worker = 1
  counter : state.abandoned = state.alive.countP state.counted
  capped : state.abandoned ≤ state.maxAbandonedWorkers
  current : ∀ worker, state.worker = some worker → tally Task.serves tasks worker = 1 ∧
    state.counted worker = false ∧ state.closed = false
  oneUncounted : (tasks.flatMap Task.serves).countP state.uncounted ≤ 1
  owned : state.closed = false → ∀ worker, 0 < tally Task.serves tasks worker →
    state.counted worker = false → state.worker = some worker

theorem Slots.perm
    {state : State}
    {tasks others : List Task}
    (permuted : tasks.Perm others)
    (slots : Slots state tasks) :
    Slots state others := by
  have same : ∀ (inHand : Task → List Nat) worker,
      tally inHand others worker = tally inHand tasks worker :=
    fun inHand worker => (tally_perm inHand permuted worker).symm
  have serving := (permuted.flatMap_right Task.serves).countP_eq state.uncounted
  exact { slots with
    threads := by simpa only [same] using slots.threads
    once := by simpa only [same] using slots.once
    fresh := by simpa only [same] using slots.fresh
    slotted := by simpa only [same] using slots.slotted
    current := by simpa only [same] using slots.current
    oneUncounted := by
      rw [← serving]
      exact slots.oneUncounted
    owned := by simpa only [same] using slots.owned }

theorem slots_initial (maxAbandonedWorkers : Nat) : Slots { maxAbandonedWorkers } [] where
  threads := fun _ => rfl
  once := fun _ => Nat.zero_le 1
  fresh := fun _ _ => rfl
  slotted := nofun
  counter := rfl
  capped := Nat.zero_le _
  current := nofun
  oneUncounted := Nat.zero_le 1
  owned := fun _ _ serving => absurd serving (Nat.lt_irrefl 0)

section Slots

variable {state after : State} {task : Task} {tasks rest : List Task}

/-- The two states agree on workers and slots. -/
structure SameSlots (state after : State) : Prop where
  limit : after.maxAbandonedWorkers = state.maxAbandonedWorkers
  worker : after.worker = state.worker
  abandoned : after.abandoned = state.abandoned
  closed : after.closed = state.closed
  nextWorker : after.nextWorker = state.nextWorker
  alive : after.alive = state.alive
  counted : after.counted = state.counted

/-- A thread goes on without a change to workers and slots. -/
theorem Slots.goOn
    (slots : Slots state (task :: tasks))
    (same : SameSlots state after)
    (thread : rest.flatMap Task.thread = task.thread)
    (serves : rest.flatMap Task.serves = task.serves) :
    Slots after (rest ++ tasks) := by
  have sameThreads : ∀ worker, tally Task.thread (rest ++ tasks) worker =
      tally Task.thread (task :: tasks) worker := by
    intro worker
    rw [tally_append, tally_cons, tally, thread]
  have sameServes : ∀ worker, tally Task.serves (rest ++ tasks) worker =
      tally Task.serves (task :: tasks) worker := by
    intro worker
    rw [tally_append, tally_cons, tally, serves]
  have sameUncounted : after.uncounted = state.uncounted := by
    funext worker
    rw [State.uncounted, State.uncounted, same.counted]
  constructor
  · simpa only [sameThreads, same.alive] using slots.threads
  · simpa only [sameThreads] using slots.once
  · simpa only [sameThreads, same.nextWorker] using slots.fresh
  · simpa only [sameServes, same.counted] using slots.slotted
  · simpa only [same.abandoned, same.alive, same.counted] using slots.counter
  · simpa only [same.abandoned, same.limit] using slots.capped
  · simpa only [same.worker, sameServes, same.counted, same.closed] using slots.current
  · rw [List.flatMap_append, serves, sameUncounted]
    exact slots.oneUncounted
  · simpa only [same.worker, sameServes, same.counted, same.closed] using slots.owned

/-- Without a current worker everyone who serves has a slot. -/
theorem Slots.allCounted
    (slots : Slots state tasks)
    (vacant : state.worker = none)
    (isOpen : state.closed = false) :
    (tasks.flatMap Task.serves).countP state.uncounted = 0 := by
  rw [List.countP_eq_zero]
  intro worker serving uncounted
  have isCurrent := slots.owned isOpen worker (List.count_pos_iff.mpr serving)
    (by simpa [State.uncounted] using uncounted)
  rw [vacant] at isCurrent
  cases isCurrent

theorem Slots.startWorker
    (slots : Slots state tasks)
    (vacant : state.worker = none)
    (isOpen : state.closed = false)
    (fails : Bool) :
    Slots (state.startWorker fails).1 ((state.startWorker fails).2.2 ++ tasks) := by
  unfold State.startWorker
  split
  · exact slots
  · have unused := slots.fresh state.nextWorker (Nat.le_refl _)
    have serves := tally_serves_le tasks state.nextWorker
    have uncounted : state.counted state.nextWorker = false := by
      by_contra counted
      have := slots.slotted state.nextWorker (by simpa using counted)
      omega
    refine { slots with
      threads := ?_, once := ?_, fresh := ?_, slotted := ?_, counter := ?_, current := ?_,
      oneUncounted := ?_, owned := ?_ }
    · intro worker
      have := slots.threads worker
      simp only [List.singleton_append, tally_cons, Task.thread, List.count_append]
      omega
    · intro worker
      have := slots.once worker
      simp only [List.singleton_append, tally_cons, Task.thread, List.count_singleton, beq_iff_eq]
      split
      · next same =>
          subst same
          omega
      · omega
    · intro worker isNew
      have isNew : state.nextWorker + 1 ≤ worker := isNew
      have := slots.fresh worker (by omega)
      simp only [List.singleton_append, tally_cons, Task.thread, List.count_singleton, beq_iff_eq]
      rw [if_neg (by omega)]
      omega
    · intro worker counted
      have := slots.slotted worker counted
      have different : state.nextWorker ≠ worker := by
        rintro rfl
        rw [uncounted] at counted
        cases counted
      simp only [List.singleton_append, tally_cons, Task.serves, Task.thread,
        List.count_singleton, beq_iff_eq, if_neg different]
      omega
    · rw [List.countP_append, ← slots.counter]
      simp [uncounted]
    · intro worker isCurrent
      cases isCurrent
      refine ⟨?_, uncounted, isOpen⟩
      simp only [List.singleton_append, tally_cons, Task.serves, Task.thread,
        List.count_singleton_self]
      omega
    · have none := slots.allCounted vacant isOpen
      rw [List.singleton_append, List.flatMap_cons, List.countP_append]
      refine Nat.le_trans (Nat.add_le_add List.countP_le_length (Nat.le_of_eq none)) ?_
      exact Nat.le_refl 1
    · intro _ worker serving isUncounted
      simp only [List.singleton_append, tally_cons, Task.serves, Task.thread,
        List.count_singleton, beq_iff_eq] at serving
      by_cases same : state.nextWorker = worker
      · exact congrArg some same
      · rw [if_neg same, Nat.zero_add] at serving
        have isCurrent := slots.owned isOpen worker serving isUncounted
        rw [vacant] at isCurrent
        cases isCurrent

/-- The current worker is abandoned for a slot. -/
theorem Slots.abandonCurrent
    {worker : Nat}
    (slots : Slots state tasks)
    (isCurrent : state.worker = some worker)
    (room : state.abandoned < state.maxAbandonedWorkers) :
    Slots (state.abandonCurrent worker) tasks ∧
      (state.abandonCurrent worker).worker = none ∧
      (state.abandonCurrent worker).closed = false := by
  obtain ⟨serves, uncounted, isOpen⟩ := slots.current worker isCurrent
  have served := tally_serves_le tasks worker
  have once := slots.once worker
  have threads := slots.threads worker
  have isAlive : worker ∈ state.alive := by
    rw [← List.count_pos_iff]
    omega
  have abandons : state.abandonCurrent worker =
      { State.abandon { state with worker := none } worker with
        abandoned := state.abandoned + 1
        counted := Function.update state.counted worker true } := if_pos isAlive
  have counted : (state.abandonCurrent worker).counted =
      Function.update state.counted worker true := by rw [abandons]
  have alive : (state.abandonCurrent worker).alive = state.alive := by rw [abandons]; rfl
  have abandoned : (state.abandonCurrent worker).abandoned = state.abandoned + 1 := by
    rw [abandons]
  have vacant : (state.abandonCurrent worker).worker = none := by rw [abandons]; rfl
  have stillOpen : (state.abandonCurrent worker).closed = false := by
    rw [abandons]
    exact isOpen
  refine ⟨?_, vacant, stillOpen⟩
  constructor
  · rw [alive]
    exact slots.threads
  · exact slots.once
  · rw [abandons]
    exact slots.fresh
  · intro other isCounted
    rw [counted] at isCounted
    by_cases same : other = worker
    · rw [same]
      exact serves
    · rw [Function.update_of_ne same] at isCounted
      exact slots.slotted other isCounted
  · rw [abandoned, alive, counted, countP_update_true uncounted, slots.counter]
    omega
  · rw [abandoned, abandons]
    exact room
  · intro other isOther
    rw [vacant] at isOther
    cases isOther
  · refine Nat.le_trans (List.countP_mono_left ?_) slots.oneUncounted
    intro other _ isUncounted
    rw [State.uncounted, counted] at isUncounted
    by_cases same : other = worker
    · rw [same, Function.update_self] at isUncounted
      cases isUncounted
    · rw [Function.update_of_ne same] at isUncounted
      exact isUncounted
  · intro _ other serving isUncounted
    rw [counted] at isUncounted
    by_cases same : other = worker
    · rw [same, Function.update_self] at isUncounted
      cases isUncounted
    · rw [Function.update_of_ne same] at isUncounted
      have isOther := slots.owned isOpen other serving isUncounted
      rw [isCurrent] at isOther
      cases isOther
      exact absurd rfl same

theorem Slots.servicingWorker
    (slots : Slots state tasks)
    (isOpen : state.closed = false)
    (startFails : Bool) :
    Slots (state.servicingWorker startFails).1
      ((state.servicingWorker startFails).2.2 ++ tasks) := by
  unfold State.servicingWorker
  split
  · next vacant => exact slots.startWorker vacant isOpen startFails
  · next worker isCurrent =>
      have serves := (slots.current worker isCurrent).1
      have served := tally_serves_le tasks worker
      have isAlive : worker ∈ state.alive := by
        rw [← List.count_pos_iff, slots.threads]
        omega
      split
      · exact slots
      · split
        · unfold State.reportLimit
          split <;> exact { slots with }
        · next room =>
            simp only [isAlive, decide_true, Bool.true_and, decide_eq_true_eq, Nat.not_le]
              at room
            obtain ⟨abandoned, vacant, stillOpen⟩ := slots.abandonCurrent isCurrent room
            exact abandoned.startWorker vacant stillOpen startFails

theorem Slots.renew
    (slots : Slots state tasks)
    (isOpen : state.closed = false)
    (startFails : Bool) :
    Slots (state.renew startFails).1 ((state.renew startFails).2 ++ tasks) := by
  have serviced := slots.servicingWorker isOpen startFails
  unfold State.renew
  generalize state.servicingWorker startFails = outcome at serviced ⊢
  obtain ⟨found, worker, started⟩ := outcome
  cases worker with
  | none => exact serviced
  | some worker => exact { serviced with }

theorem Slots.call
    (slots : Slots state (.calling :: tasks))
    (expired startFails : Bool) :
    Slots (state.call expired startFails).1 ((state.call expired startFails).2 ++ tasks) := by
  have others : Slots state tasks :=
    @Slots.goOn _ _ _ _ [] slots ⟨rfl, rfl, rfl, rfl, rfl, rfl, rfl⟩ rfl rfl
  unfold State.call
  split
  · exact others
  · next isOpen =>
      rw [Bool.not_eq_true] at isOpen
      split
      · exact others.renew isOpen startFails
      · split
        · exact others.renew isOpen startFails
        · exact slots.goOn ⟨rfl, rfl, rfl, rfl, rfl, rfl, rfl⟩ rfl rfl

/-- The shutdown lets go of the current worker. -/
theorem Slots.close (slots : Slots state (.closing :: tasks)) :
    Slots state.close.1 (state.close.2 ++ tasks) := by
  unfold State.close
  split
  · exact slots.goOn ⟨rfl, rfl, rfl, rfl, rfl, rfl, rfl⟩ rfl rfl
  · have shut : Slots { state with closed := true, worker := none } (.closing :: tasks) :=
      { slots with current := nofun, owned := nofun }
    split <;> exact shut.goOn ⟨rfl, rfl, rfl, rfl, rfl, rfl, rfl⟩ rfl rfl

/-- What the release of a worker leaves. -/
theorem releaseWorker_fields (state : State) (worker : Nat) :
    (state.releaseWorker worker).counted = Function.update state.counted worker false ∧
    (state.releaseWorker worker).abandoned =
      (if state.counted worker then state.abandoned - 1 else state.abandoned) ∧
    (state.releaseWorker worker).worker =
      (if state.worker = some worker then none else state.worker) ∧
    (state.releaseWorker worker).alive = state.alive ∧
    (state.releaseWorker worker).closed = state.closed ∧
    (state.releaseWorker worker).nextWorker = state.nextWorker ∧
    (state.releaseWorker worker).maxAbandonedWorkers = state.maxAbandonedWorkers := by
  unfold State.releaseWorker
  cases counted : state.counted worker with
  | true => by_cases isCurrent : state.worker = some worker <;> simp [isCurrent]
  | false =>
      have same : Function.update state.counted worker false = state.counted := by
        rw [← counted, Function.update_eq_self]
      by_cases isCurrent : state.worker = some worker <;> simp [isCurrent, same]

/-- A worker gives its slot back, or its place. -/
theorem Slots.releaseWorker
    {worker : Nat}
    (slots : Slots state (.leaving worker :: tasks)) :
    Slots (state.releaseWorker worker) (.ending worker :: tasks) := by
  obtain ⟨counted, abandoned, current, alive, closed, nextWorker, limit⟩ :=
    releaseWorker_fields state worker
  have once := slots.once worker
  have threads := slots.threads worker
  have served := tally_serves_le tasks worker
  simp only [tally_cons, Task.thread, List.count_singleton_self] at once threads
  have gone : tally Task.serves tasks worker = 0 := by omega
  have others : ∀ other, other ≠ worker → tally Task.serves (.leaving worker :: tasks) other =
      tally Task.serves (.ending worker :: tasks) other := by
    intro other different
    simp only [tally_cons, Task.serves, Task.thread, List.count_nil, List.count_singleton,
      beq_iff_eq, if_neg (Ne.symm different)]
  constructor
  · rw [alive]
    exact slots.threads
  · exact slots.once
  · rw [nextWorker]
    exact slots.fresh
  · intro other isCounted
    rw [counted] at isCounted
    have different : other ≠ worker := by
      rintro rfl
      rw [Function.update_self] at isCounted
      cases isCounted
    rw [Function.update_of_ne different] at isCounted
    rw [← others other different]
    exact slots.slotted other isCounted
  · have counter := slots.counter
    rw [abandoned, alive, counted]
    cases hadSlot : state.counted worker with
    | true =>
        have fewer := countP_update_false hadSlot state.alive
        rw [if_pos rfl]
        omega
    | false =>
        rw [if_neg Bool.false_ne_true, ← hadSlot, Function.update_eq_self]
        exact counter
  · have capped := slots.capped
    rw [abandoned, limit]
    split
    · omega
    · exact capped
  · intro other isCurrent
    rw [current] at isCurrent
    split at isCurrent
    · cases isCurrent
    · next notReleased =>
        obtain ⟨serves, uncounted, isOpen⟩ := slots.current other isCurrent
        have different : other ≠ worker := by
          rintro rfl
          exact notReleased isCurrent
        rw [← others other different, counted, Function.update_of_ne different, closed]
        exact ⟨serves, uncounted, isOpen⟩
  · have same : (tasks.flatMap Task.serves).countP (state.releaseWorker worker).uncounted =
        (tasks.flatMap Task.serves).countP state.uncounted := by
      refine List.countP_congr ?_
      intro other serving
      have different : other ≠ worker := by
        rintro rfl
        have := List.count_pos_iff.mpr serving
        unfold tally at gone
        omega
      rw [State.uncounted, State.uncounted, counted, Function.update_of_ne different]
    have oneUncounted := slots.oneUncounted
    rw [List.flatMap_cons, List.countP_append] at oneUncounted
    change (tasks.flatMap Task.serves).countP _ ≤ 1
    rw [same]
    omega
  · intro isOpen other serving isUncounted
    have different : other ≠ worker := by
      rintro rfl
      rw [tally_cons, gone] at serving
      exact absurd serving (Nat.lt_irrefl 0)
    rw [closed] at isOpen
    rw [counted, Function.update_of_ne different] at isUncounted
    rw [← others other different] at serving
    have isCurrent := slots.owned isOpen other serving isUncounted
    rw [current, if_neg, isCurrent]
    rw [isCurrent]
    intro same
    exact different (Option.some.inj same)

/-- The end of a thread. -/
theorem Slots.ending
    {worker : Nat}
    (slots : Slots state (.ending worker :: tasks)) :
    Slots { state with alive := state.alive.erase worker } tasks := by
  have once := slots.once worker
  have threads := slots.threads
  have served := tally_serves_le tasks worker
  simp only [tally_cons, Task.thread, List.count_singleton] at once threads
  have uncounted : state.counted worker = false := by
    by_contra counted
    have := slots.slotted worker (by simpa using counted)
    simp only [tally_cons, Task.serves, List.count_nil] at this
    simp only [BEq.rfl, if_true] at once
    omega
  refine { slots with
    threads := ?_, once := ?_, fresh := ?_, slotted := ?_, counter := ?_, current := ?_,
    owned := ?_ }
  · intro other
    have := threads other
    simp only [List.count_erase]
    omega
  · intro other
    have := slots.once other
    rw [tally_cons] at this
    omega
  · intro other isNew
    have := slots.fresh other isNew
    rw [tally_cons] at this
    omega
  · intro other isCounted
    have := slots.slotted other isCounted
    simpa only [tally_cons, Task.serves, List.count_nil, Nat.zero_add] using this
  · rw [slots.counter]
    have isAlive : worker ∈ state.alive := by
      rw [← List.count_pos_iff, threads worker, if_pos BEq.rfl]
      omega
    have removed := (List.perm_cons_erase isAlive).countP_eq state.counted
    rw [List.countP_cons, uncounted] at removed
    exact removed
  · intro other isCurrent
    have := slots.current other isCurrent
    simpa only [tally_cons, Task.serves, List.count_nil, Nat.zero_add] using this
  · intro isOpen other serving
    refine slots.owned isOpen other ?_
    simpa only [tally_cons, Task.serves, List.count_nil, Nat.zero_add] using serving

theorem Slots.of_some
    {outcome : State × List Task}
    (steps : some outcome = some (after, rest))
    (slots : Slots outcome.1 (outcome.2 ++ tasks)) :
    Slots after (rest ++ tasks) := by
  obtain rfl := Option.some.inj steps
  exact slots

/-- A step that leaves workers and slots, and a worker with its thread. -/
theorem Slots.same
    {outcome : State × List Task}
    (slots : Slots state (task :: tasks))
    (steps : some outcome = some (after, rest))
    (same : SameSlots state outcome.1)
    (thread : outcome.2.flatMap Task.thread = task.thread)
    (serves : outcome.2.flatMap Task.serves = task.serves) :
    Slots after (rest ++ tasks) :=
  .of_some steps (slots.goOn same thread serves)

theorem SameSlots.refl (state : State) : SameSlots state state :=
  ⟨rfl, rfl, rfl, rfl, rfl, rfl, rfl⟩

/-- Every step of every thread keeps the slots. -/
theorem Slots.step
    {choice : Choice}
    (steps : step choice state task = some (after, rest))
    (slots : Slots state (task :: tasks)) :
    Slots after (rest ++ tasks) := by
  cases task with
  | calling =>
      simp only [Readiness.step] at steps
      split at steps
      · exact .of_some steps (slots.call _ _)
      · cases steps
  | awaiting probe =>
      simp only [Readiness.step] at steps
      split at steps
      · exact slots.same steps ⟨rfl, rfl, rfl, rfl, rfl, rfl, rfl⟩ rfl rfl
      · split at steps
        · exact slots.same steps ⟨rfl, rfl, rfl, rfl, rfl, rfl, rfl⟩ rfl rfl
        · cases steps
  | closing => exact .of_some steps slots.close
  | abandoning worker => exact slots.same steps ⟨rfl, rfl, rfl, rfl, rfl, rfl, rfl⟩ rfl rfl
  | ending worker => exact .of_some steps slots.ending
  | leaving worker => exact .of_some steps slots.releaseWorker
  | checking worker probe beganAt =>
      refine .of_some steps ?_
      unfold State.endCheck
      split <;> exact slots.goOn ⟨rfl, rfl, rfl, rfl, rfl, rfl, rfl⟩ rfl rfl
  | parked worker =>
      simp only [Readiness.step] at steps
      split at steps
      · exact slots.same steps (.refl state) rfl rfl
      · split at steps
        · exact slots.same steps (.refl state) rfl rfl
        · cases steps
  | entering worker =>
      simp only [Readiness.step] at steps
      split at steps
      · exact slots.same steps (.refl state) rfl rfl
      · refine .of_some steps ?_
        unfold State.takeOn
        split
        · exact slots.goOn (.refl state) rfl rfl
        · split <;> exact slots.goOn ⟨rfl, rfl, rfl, rfl, rfl, rfl, rfl⟩ rfl rfl
  | deciding worker probe takenAt =>
      simp only [Readiness.step] at steps
      split at steps
      · exact slots.same steps (.refl state) rfl rfl
      · refine .of_some steps ?_
        unfold State.beginCheck
        split <;> exact slots.goOn ⟨rfl, rfl, rfl, rfl, rfl, rfl, rfl⟩ rfl rfl
  | parking | woken | leavingIdle | settling | answering =>
      simp only [Readiness.step] at steps
      split at steps
      · exact slots.same steps (.refl state) rfl rfl
      · exact slots.same steps ⟨rfl, rfl, rfl, rfl, rfl, rfl, rfl⟩ rfl rfl
  | finishing worker probe escapes =>
      simp only [Readiness.step] at steps
      split at steps
      · exact slots.same steps (.refl state) rfl rfl
      · cases escapes <;> exact slots.same steps ⟨rfl, rfl, rfl, rfl, rfl, rfl, rfl⟩ rfl rfl

theorem Slots.start
    (isStart : task.starts = true)
    (slots : Slots state tasks) :
    Slots state (task :: tasks) := by
  cases task with
  | calling | closing => exact { slots with
      threads := by simpa [Task.thread] using slots.threads
      once := by simpa [Task.thread] using slots.once
      fresh := by simpa [Task.thread] using slots.fresh
      slotted := by simpa [Task.serves, Task.thread] using slots.slotted
      current := by simpa [Task.serves, Task.thread] using slots.current
      owned := by simpa [Task.serves, Task.thread] using slots.owned }
  | _ => cases isStart

end Slots

/-! ## Probes are vouched for -/

/-- A check that began after the probe was made has succeeded. -/
def State.Vouched (state : State) (probe : Nat) : Prop :=
  probe < state.nextProbe ∧ ∃ beganAt ∈ state.successes, state.createdAt probe < beganAt

/-- What a worker knows of the probe that it works on. -/
def Task.Vouches (state : State) : Task → Prop
  | .deciding _ probe takenAt =>
      probe < state.nextProbe ∧ state.createdAt probe < takenAt ∧ takenAt < state.clock
  | .checking _ probe beganAt => probe < state.nextProbe ∧ state.createdAt probe < beganAt
  | .settling _ probe _ ready _ | .answering _ probe _ ready _ =>
      ready = true → state.Vouched probe
  | _ => True

structure Vouching (state : State) (tasks : List Task) : Prop where
  workers : ∀ task ∈ tasks, task.Vouches state
  probe : ∀ probe, state.probe = some probe →
    probe < state.nextProbe ∧ state.createdAt probe < state.clock
  ready : ∀ probe, state.ready probe = true → state.Vouched probe
  answered : ∀ probe, (probe, true) ∈ state.answers → state.Vouched probe

/-- Time goes on, and probes keep the date at which they were made. -/
structure Later (state after : State) : Prop where
  nextProbe : state.nextProbe ≤ after.nextProbe
  createdAt : ∀ probe < state.nextProbe, after.createdAt probe = state.createdAt probe
  clock : state.clock ≤ after.clock
  successes : ∀ beganAt ∈ state.successes, beganAt ∈ after.successes

theorem Later.vouched
    {state after : State}
    (later : Later state after)
    {probe : Nat}
    (vouched : state.Vouched probe) :
    after.Vouched probe := by
  obtain ⟨made, beganAt, succeeded, afterwards⟩ := vouched
  refine ⟨Nat.lt_of_lt_of_le made later.nextProbe, beganAt, later.successes beganAt succeeded, ?_⟩
  rw [later.createdAt probe made]
  exact afterwards

theorem Later.vouches
    {state after : State}
    (later : Later state after)
    {task : Task}
    (vouches : task.Vouches state) :
    task.Vouches after := by
  cases task with
  | deciding worker probe takenAt =>
      obtain ⟨made, taken, past⟩ := vouches
      refine ⟨Nat.lt_of_lt_of_le made later.nextProbe, ?_, Nat.lt_of_lt_of_le past later.clock⟩
      rw [later.createdAt probe made]
      exact taken
  | checking worker probe beganAt =>
      obtain ⟨made, began⟩ := vouches
      refine ⟨Nat.lt_of_lt_of_le made later.nextProbe, ?_⟩
      rw [later.createdAt probe made]
      exact began
  | settling | answering => exact fun isReady => later.vouched (vouches isReady)
  | _ => trivial

section Vouching

variable {state after : State} {task : Task} {tasks rest : List Task}

/-- Time goes on, and what is new is vouched for. -/
theorem Vouching.goOn
    (vouching : Vouching state (task :: tasks))
    (later : Later state after)
    (workers : ∀ other ∈ rest, other.Vouches after)
    (probe : after.probe = state.probe ∨ after.probe = some state.nextProbe ∧
      state.nextProbe < after.nextProbe ∧ after.createdAt state.nextProbe < after.clock)
    (ready : ∀ probe, after.ready probe = true → state.ready probe = true ∨ after.Vouched probe)
    (answered : ∀ probe, (probe, true) ∈ after.answers →
      (probe, true) ∈ state.answers ∨ after.Vouched probe) :
    Vouching after (rest ++ tasks) := by
  constructor
  · intro other present
    rcases List.mem_append.mp present with isNew | isOld
    · exact workers other isNew
    · exact later.vouches (vouching.workers other (List.mem_cons_of_mem _ isOld))
  · intro current isCurrent
    rcases probe with same | ⟨isNew, counted, dated⟩
    · rw [same] at isCurrent
      obtain ⟨made, past⟩ := vouching.probe current isCurrent
      refine ⟨Nat.lt_of_lt_of_le made later.nextProbe, ?_⟩
      rw [later.createdAt current made]
      exact Nat.lt_of_lt_of_le past later.clock
    · rw [isNew] at isCurrent
      cases isCurrent
      exact ⟨counted, dated⟩
  · intro current isReady
    rcases ready current isReady with was | vouched
    · exact later.vouched (vouching.ready current was)
    · exact vouched
  · intro current isAnswered
    rcases answered current isAnswered with was | vouched
    · exact later.vouched (vouching.answered current was)
    · exact vouched

/-- A step that makes no probe, answers nothing and lets at most time pass. -/
theorem Vouching.same
    {outcome : State × List Task}
    (vouching : Vouching state (task :: tasks))
    (steps : some outcome = some (after, rest))
    (workers : ∀ other ∈ outcome.2, other.Vouches outcome.1)
    (clock : state.clock ≤ outcome.1.clock)
    (same : outcome.1.nextProbe = state.nextProbe ∧ outcome.1.createdAt = state.createdAt ∧
      outcome.1.successes = state.successes ∧ outcome.1.probe = state.probe ∧
      outcome.1.ready = state.ready ∧ outcome.1.answers = state.answers) :
    Vouching after (rest ++ tasks) := by
  obtain rfl := Option.some.inj steps
  obtain ⟨nextProbe, createdAt, successes, probe, ready, answers⟩ := same
  refine vouching.goOn ⟨Nat.le_of_eq nextProbe.symm, ?_, clock, ?_⟩ workers (Or.inl probe) ?_ ?_
  · intro probe _
    rw [createdAt]
  · intro beganAt succeeded
    rw [successes]
    exact succeeded
  · intro probe isReady
    rw [ready] at isReady
    exact Or.inl isReady
  · intro probe isAnswered
    rw [answers] at isAnswered
    exact Or.inl isAnswered

/-- Finding a worker makes no probe and answers nothing. -/
structure SameProbes (state after : State) : Prop where
  nextProbe : after.nextProbe = state.nextProbe
  createdAt : after.createdAt = state.createdAt
  successes : after.successes = state.successes
  probe : after.probe = state.probe
  ready : after.ready = state.ready
  answers : after.answers = state.answers
  clock : state.clock ≤ after.clock

theorem sameProbes_startWorker (state : State) (fails : Bool) :
    SameProbes state (state.startWorker fails).1 ∧
      ∀ task ∈ (state.startWorker fails).2.2, ∃ worker, task = .parking worker := by
  unfold State.startWorker
  split
  · exact ⟨⟨rfl, rfl, rfl, rfl, rfl, rfl, Nat.le_refl _⟩, nofun⟩
  · refine ⟨⟨rfl, rfl, rfl, rfl, rfl, rfl, Nat.le_refl _⟩, ?_⟩
    intro task started
    exact ⟨state.nextWorker, List.mem_singleton.mp started⟩

theorem sameProbes_abandonCurrent (state : State) (worker : Nat) :
    SameProbes state (state.abandonCurrent worker) := by
  unfold State.abandonCurrent
  dsimp only
  split <;> exact ⟨rfl, rfl, rfl, rfl, rfl, rfl, Nat.le_succ _⟩

theorem sameProbes_servicingWorker (state : State) (startFails : Bool) :
    SameProbes state (state.servicingWorker startFails).1 ∧
      ∀ task ∈ (state.servicingWorker startFails).2.2, ∃ worker, task = .parking worker := by
  unfold State.servicingWorker
  split
  · exact sameProbes_startWorker state startFails
  · next worker _ =>
      split
      · exact ⟨⟨rfl, rfl, rfl, rfl, rfl, rfl, Nat.le_refl _⟩, nofun⟩
      · split
        · refine ⟨?_, nofun⟩
          unfold State.reportLimit
          split <;> exact ⟨rfl, rfl, rfl, rfl, rfl, rfl, Nat.le_refl _⟩
        · have replaced := sameProbes_abandonCurrent state worker
          obtain ⟨started, tasks⟩ :=
            sameProbes_startWorker (state.abandonCurrent worker) startFails
          refine ⟨⟨started.nextProbe.trans replaced.nextProbe,
            started.createdAt.trans replaced.createdAt,
            started.successes.trans replaced.successes, started.probe.trans replaced.probe,
            started.ready.trans replaced.ready, started.answers.trans replaced.answers,
            Nat.le_trans replaced.clock started.clock⟩, tasks⟩

theorem Vouching.renew
    (vouching : Vouching state (task :: tasks))
    (startFails : Bool) :
    Vouching (state.renew startFails).1 ((state.renew startFails).2 ++ tasks) := by
  obtain ⟨same, started⟩ := sameProbes_servicingWorker state startFails
  unfold State.renew
  generalize state.servicingWorker startFails = outcome at same started ⊢
  obtain ⟨found, worker, parking⟩ := outcome
  obtain ⟨nextProbe, createdAt, successes, probe, ready, answers, clock⟩ := same
  dsimp only at nextProbe createdAt successes probe ready answers clock started
  cases worker with
  | none =>
      refine vouching.same rfl ?_ clock ⟨nextProbe, createdAt, successes, probe, ready, answers⟩
      intro other isStarted
      obtain ⟨worker, rfl⟩ := started other isStarted
      trivial
  | some worker =>
      unfold State.request State.tick
      refine vouching.goOn ⟨?_, ?_, ?_, ?_⟩ ?_ (Or.inr ⟨?_, ?_, ?_⟩) ?_ ?_
      · dsimp only
        omega
      · intro probe made
        dsimp only
        rw [nextProbe, Function.update_of_ne (Nat.ne_of_lt made), createdAt]
      · exact Nat.le_succ_of_le clock
      · intro beganAt succeeded
        dsimp only
        rw [successes]
        exact succeeded
      · intro other present
        rcases List.mem_cons.mp present with rfl | isStarted
        · trivial
        · obtain ⟨worker, rfl⟩ := started other isStarted
          trivial
      · exact congrArg some nextProbe
      · dsimp only
        omega
      · dsimp only
        rw [nextProbe, Function.update_self]
        exact Nat.lt_succ_self _
      · intro probe isReady
        dsimp only at isReady
        rw [ready] at isReady
        exact Or.inl isReady
      · intro probe isAnswered
        dsimp only at isAnswered
        rw [answers] at isAnswered
        exact Or.inl isAnswered

theorem Vouching.call
    (vouching : Vouching state (.calling :: tasks))
    (expired startFails : Bool) :
    Vouching (state.call expired startFails).1
      ((state.call expired startFails).2 ++ tasks) := by
  have waits : ∀ rest : List Task, (∀ other ∈ rest, other.Vouches state) →
      Vouching state (rest ++ tasks) := fun rest workers =>
    vouching.same rfl workers (Nat.le_refl _) ⟨rfl, rfl, rfl, rfl, rfl, rfl⟩
  unfold State.call
  split
  · exact waits [] nofun
  · split
    · exact vouching.renew startFails
    · split
      · exact vouching.renew startFails
      · refine waits _ fun other present => ?_
        rw [List.mem_singleton.mp present]
        trivial

theorem Vouching.answer
    {probe : Nat}
    {isReady : Bool}
    (vouching : Vouching state (.awaiting probe :: tasks))
    (told : isReady = true → state.ready probe = true) :
    Vouching (state.answer probe isReady) tasks := by
  refine @Vouching.goOn _ _ _ _ [] vouching
    ⟨Nat.le_refl _, fun _ _ => rfl, Nat.le_refl _, fun _ => id⟩ nofun (Or.inl rfl)
    (fun _ => Or.inl) ?_
  intro other isAnswered
  rcases List.mem_append.mp isAnswered with was | isNew
  · exact Or.inl was
  · right
    have same := List.mem_singleton.mp isNew
    have isProbe : other = probe := congrArg Prod.fst same
    have isTrue : true = isReady := congrArg Prod.snd same
    rw [isProbe]
    exact vouching.ready probe (told isTrue.symm)

/-- Every step of every thread keeps what is vouched for. -/
theorem Vouching.step
    {choice : Choice}
    (steps : step choice state task = some (after, rest))
    (vouching : Vouching state (task :: tasks)) :
    Vouching after (rest ++ tasks) := by
  have own := vouching.workers task List.mem_cons_self
  -- A thread that only moves on, to where it needs to know nothing of its probe.
  have moves : ∀ {next : State} {other : Task}, some (next, [other]) = some (after, rest) →
      other.Vouches next → state.clock ≤ next.clock →
      (next.nextProbe = state.nextProbe ∧ next.createdAt = state.createdAt ∧
        next.successes = state.successes ∧ next.probe = state.probe ∧
        next.ready = state.ready ∧ next.answers = state.answers) →
      Vouching after (rest ++ tasks) := by
    intro next other steps vouches clock same
    refine vouching.same steps ?_ clock same
    intro another present
    rw [List.mem_singleton.mp present]
    exact vouches
  cases task with
  | calling =>
      simp only [Readiness.step] at steps
      split at steps
      · next expired startFails =>
          have called := vouching.call expired startFails
          rw [Option.some.inj steps] at called
          exact called
      · cases steps
  | awaiting probe =>
      simp only [Readiness.step] at steps
      split at steps
      · cases steps
        exact vouching.answer id
      · split at steps
        · cases steps
          exact vouching.answer nofun
        · cases steps
  | closing =>
      refine vouching.same steps ?_ ?_ ?_
      all_goals unfold State.close
      · split
        · exact nofun
        · split
          · exact nofun
          · intro other present
            rw [List.mem_singleton.mp present]
            trivial
      · split <;> exact Nat.le_refl _
      · split <;> exact ⟨rfl, rfl, rfl, rfl, rfl, rfl⟩
  | abandoning worker =>
      exact vouching.same steps nofun (Nat.le_succ _) ⟨rfl, rfl, rfl, rfl, rfl, rfl⟩
  | ending worker =>
      exact vouching.same steps nofun (Nat.le_refl _) ⟨rfl, rfl, rfl, rfl, rfl, rfl⟩
  | leaving worker =>
      refine moves steps trivial ?_ ?_
      all_goals
        unfold State.releaseWorker
        dsimp only
        split <;> split
      all_goals first | exact Nat.le_refl _ | exact ⟨rfl, rfl, rfl, rfl, rfl, rfl⟩
  | checking worker probe beganAt =>
      obtain ⟨made, began⟩ := own
      simp only [Readiness.step, State.endCheck] at steps
      split at steps
      · cases steps
        refine vouching.goOn ⟨Nat.le_refl _, fun _ _ => rfl, Nat.le_refl _,
          fun _ => List.mem_append_left _⟩ ?_ (Or.inl rfl) (fun _ => Or.inl) (fun _ => Or.inl)
        intro other present
        rw [List.mem_singleton.mp present]
        intro _
        exact ⟨made, beganAt, List.mem_append_right _ List.mem_cons_self, began⟩
      · exact moves steps nofun (Nat.le_refl _) ⟨rfl, rfl, rfl, rfl, rfl, rfl⟩
      · exact moves steps nofun (Nat.le_refl _) ⟨rfl, rfl, rfl, rfl, rfl, rfl⟩
  | parked worker =>
      simp only [Readiness.step] at steps
      split at steps
      · exact moves steps trivial (Nat.le_refl _) ⟨rfl, rfl, rfl, rfl, rfl, rfl⟩
      · split at steps
        · exact moves steps trivial (Nat.le_refl _) ⟨rfl, rfl, rfl, rfl, rfl, rfl⟩
        · cases steps
  | entering worker =>
      simp only [Readiness.step] at steps
      split at steps
      · exact moves steps trivial (Nat.le_refl _) ⟨rfl, rfl, rfl, rfl, rfl, rfl⟩
      · unfold State.takeOn at steps
        split at steps
        · exact moves steps trivial (Nat.le_refl _) ⟨rfl, rfl, rfl, rfl, rfl, rfl⟩
        · split at steps
          · exact moves steps trivial (Nat.le_refl _) ⟨rfl, rfl, rfl, rfl, rfl, rfl⟩
          · next probe isProbe =>
              obtain ⟨made, past⟩ := vouching.probe probe isProbe
              exact moves steps ⟨made, past, Nat.lt_succ_self _⟩ (Nat.le_succ _)
                ⟨rfl, rfl, rfl, rfl, rfl, rfl⟩
  | deciding worker probe takenAt =>
      obtain ⟨made, taken, past⟩ := own
      simp only [Readiness.step] at steps
      split at steps
      · exact moves steps trivial (Nat.le_refl _) ⟨rfl, rfl, rfl, rfl, rfl, rfl⟩
      · unfold State.beginCheck at steps
        split at steps
        · exact moves steps trivial (Nat.le_refl _) ⟨rfl, rfl, rfl, rfl, rfl, rfl⟩
        · exact moves steps ⟨made, Nat.lt_trans taken past⟩ (Nat.le_succ _)
            ⟨rfl, rfl, rfl, rfl, rfl, rfl⟩
  | parking | woken | leavingIdle =>
      simp only [Readiness.step] at steps
      split at steps
      · exact moves steps trivial (Nat.le_refl _) ⟨rfl, rfl, rfl, rfl, rfl, rfl⟩
      · exact moves steps trivial (Nat.le_refl _) ⟨rfl, rfl, rfl, rfl, rfl, rfl⟩
  | settling worker probe beganAt isReady escapes =>
      simp only [Readiness.step] at steps
      split at steps
      · exact moves steps trivial (Nat.le_refl _) ⟨rfl, rfl, rfl, rfl, rfl, rfl⟩
      · exact moves steps own (Nat.le_refl _) ⟨rfl, rfl, rfl, rfl, rfl, rfl⟩
  | answering worker probe beganAt isReady escapes =>
      simp only [Readiness.step] at steps
      split at steps
      · exact moves steps trivial (Nat.le_refl _) ⟨rfl, rfl, rfl, rfl, rfl, rfl⟩
      · cases steps
        refine vouching.goOn ⟨Nat.le_refl _, fun _ _ => rfl, Nat.le_refl _, fun _ => id⟩ ?_
          (Or.inl rfl) ?_ (fun _ => Or.inl)
        · intro other present
          rw [List.mem_singleton.mp present]
          trivial
        · intro other isTrue
          change Function.update state.ready probe isReady other = true at isTrue
          by_cases same : other = probe
          · right
            rw [same, Function.update_self] at isTrue
            rw [same]
            exact own isTrue
          · left
            rw [Function.update_of_ne same] at isTrue
            exact isTrue
  | finishing worker probe escapes =>
      simp only [Readiness.step] at steps
      split at steps
      · exact moves steps trivial (Nat.le_refl _) ⟨rfl, rfl, rfl, rfl, rfl, rfl⟩
      · cases escapes <;>
          exact moves steps trivial (Nat.le_refl _) ⟨rfl, rfl, rfl, rfl, rfl, rfl⟩

end Vouching

/-! ## Checks of abandoned workers -/

/-- A check of the worker that began after a time. -/
def Check.isLate (worker abandonedAt : Nat) (check : Check) : Bool :=
  check.worker = worker && abandonedAt < check.beganAt

/-- A worker that is about to begin a check took it on before it was abandoned. -/
def Task.TookOn (state : State) : Task → Prop
  | .deciding worker _ takenAt => takenAt < state.clock ∧
      ∀ abandonedAt, state.abandonedAt worker = some abandonedAt → takenAt < abandonedAt
  | _ => True

structure Lateness (state : State) (tasks : List Task) : Prop where
  workers : ∀ task ∈ tasks, task.TookOn state
  marked : ∀ worker, state.isAbandoned worker = false → state.abandonedAt worker = none
  past : ∀ check ∈ state.checks, check.takenAt < state.clock ∧ check.beganAt < state.clock
  taken : ∀ check ∈ state.checks, ∀ abandonedAt,
    state.abandonedAt check.worker = some abandonedAt → check.takenAt < abandonedAt
  oneLate : ∀ worker abandonedAt, state.abandonedAt worker = some abandonedAt →
    state.checks.countP (Check.isLate worker abandonedAt) + tally Task.commits tasks worker ≤ 1

section Lateness

variable {state after : State} {task : Task} {tasks rest : List Task}

/-- A step that abandons nobody, begins no check and lets at most time pass. -/
theorem Lateness.same
    {outcome : State × List Task}
    (lateness : Lateness state (task :: tasks))
    (steps : some outcome = some (after, rest))
    (workers : ∀ other ∈ outcome.2, other.TookOn outcome.1)
    (commits : ∀ worker, tally Task.commits outcome.2 worker ≤ task.commits.count worker ∨
      state.isAbandoned worker = false)
    (clock : state.clock ≤ outcome.1.clock)
    (same : outcome.1.isAbandoned = state.isAbandoned ∧
      outcome.1.abandonedAt = state.abandonedAt ∧ outcome.1.checks = state.checks) :
    Lateness after (rest ++ tasks) := by
  obtain rfl := Option.some.inj steps
  obtain ⟨isAbandoned, abandonedAt, checks⟩ := same
  constructor
  · intro other present
    rcases List.mem_append.mp present with isNew | isOld
    · exact workers other isNew
    · have tookOn := lateness.workers other (List.mem_cons_of_mem _ isOld)
      cases other with
      | deciding worker probe takenAt =>
          refine ⟨Nat.lt_of_lt_of_le tookOn.1 clock, ?_⟩
          rw [abandonedAt]
          exact tookOn.2
      | _ => trivial
  · rw [isAbandoned, abandonedAt]
    exact lateness.marked
  · intro check present
    rw [checks] at present
    obtain ⟨taken, began⟩ := lateness.past check present
    exact ⟨Nat.lt_of_lt_of_le taken clock, Nat.lt_of_lt_of_le began clock⟩
  · rw [checks, abandonedAt]
    exact lateness.taken
  · intro worker isAt isAbandonedAt
    rw [abandonedAt] at isAbandonedAt
    have oneLate := lateness.oneLate worker isAt isAbandonedAt
    rw [tally_cons] at oneLate
    rw [checks, tally_append]
    rcases commits worker with fewer | unmarked
    · dsimp only at fewer
      omega
    · rw [lateness.marked worker unmarked] at isAbandonedAt
      cases isAbandonedAt

/-- A worker is abandoned now: what it took on, it took on before. -/
theorem Lateness.abandon
    {worker : Nat}
    (lateness : Lateness state tasks)
    (once : tally Task.thread tasks worker ≤ 1)
    (isAbandoned : after.isAbandoned = Function.update state.isAbandoned worker true)
    (abandonedAt : after.abandonedAt =
      Function.update state.abandonedAt worker (some state.clock))
    (checks : after.checks = state.checks)
    (clock : after.clock = state.clock + 1) :
    Lateness after tasks := by
  have later : ∀ {other isAt : Nat} {takenAt : Nat}, takenAt < state.clock →
      (∀ before, state.abandonedAt other = some before → takenAt < before) →
      after.abandonedAt other = some isAt → takenAt < isAt := by
    intro other isAt takenAt past taken isAbandonedAt
    rw [abandonedAt] at isAbandonedAt
    by_cases same : other = worker
    · rw [same, Function.update_self] at isAbandonedAt
      cases isAbandonedAt
      exact past
    · rw [Function.update_of_ne same] at isAbandonedAt
      exact taken isAt isAbandonedAt
  constructor
  · intro other present
    have tookOn := lateness.workers other present
    cases other with
    | deciding decider probe takenAt =>
        refine ⟨?_, fun isAt => later tookOn.1 tookOn.2⟩
        rw [clock]
        exact Nat.lt_succ_of_lt tookOn.1
    | _ => trivial
  · intro other unmarked
    rw [isAbandoned] at unmarked
    rw [abandonedAt]
    by_cases same : other = worker
    · rw [same, Function.update_self] at unmarked
      cases unmarked
    · rw [Function.update_of_ne same] at unmarked ⊢
      exact lateness.marked other unmarked
  · intro check present
    rw [checks] at present
    obtain ⟨taken, began⟩ := lateness.past check present
    rw [clock]
    exact ⟨Nat.lt_succ_of_lt taken, Nat.lt_succ_of_lt began⟩
  · intro check present isAt
    rw [checks] at present
    exact later (lateness.past check present).1 (lateness.taken check present)
  · intro other isAt isAbandonedAt
    rw [abandonedAt] at isAbandonedAt
    rw [checks]
    by_cases same : other = worker
    · rw [same, Function.update_self] at isAbandonedAt
      cases isAbandonedAt
      have none : state.checks.countP (Check.isLate other state.clock) = 0 := by
        rw [List.countP_eq_zero]
        intro check present isLate
        have past := (lateness.past check present).2
        simp only [Check.isLate, Bool.and_eq_true, decide_eq_true_eq] at isLate
        omega
      have commits := tally_commits_le tasks worker
      rw [none, same]
      omega
    · rw [Function.update_of_ne same] at isAbandonedAt
      exact lateness.oneLate other isAt isAbandonedAt

/-- A worker begins the check that it took on. -/
theorem Lateness.beginCheck
    {worker probe takenAt : Nat}
    (lateness : Lateness state (.deciding worker probe takenAt :: tasks)) :
    Lateness
      (State.tick { state with checks := state.checks ++ [⟨worker, takenAt, state.clock⟩] })
      (.checking worker probe state.clock :: tasks) := by
  obtain ⟨past, tookOn⟩ := lateness.workers _ List.mem_cons_self
  constructor
  · intro other present
    rcases List.mem_cons.mp present with rfl | isOld
    · trivial
    · have tookOn := lateness.workers other (List.mem_cons_of_mem _ isOld)
      cases other with
      | deciding => exact ⟨Nat.lt_succ_of_lt tookOn.1, tookOn.2⟩
      | _ => trivial
  · exact lateness.marked
  · intro check present
    rcases List.mem_append.mp present with isOld | isNew
    · obtain ⟨taken, began⟩ := lateness.past check isOld
      exact ⟨Nat.lt_succ_of_lt taken, Nat.lt_succ_of_lt began⟩
    · rw [List.mem_singleton.mp isNew]
      exact ⟨Nat.lt_succ_of_lt past, Nat.lt_succ_self _⟩
  · intro check present
    rcases List.mem_append.mp present with isOld | isNew
    · exact lateness.taken check isOld
    · rw [List.mem_singleton.mp isNew]
      exact tookOn
  · intro other isAt isAbandonedAt
    have oneLate := lateness.oneLate other isAt isAbandonedAt
    simp only [State.tick, List.countP_append, List.countP_singleton, tally_cons, Task.commits,
      List.count_nil, List.count_singleton, beq_iff_eq, Check.isLate, Bool.and_eq_true,
      decide_eq_true_eq] at oneLate ⊢
    grind

theorem Lateness.goOn
    {other : Task}
    {next : State}
    (lateness : Lateness state (task :: tasks))
    (steps : some (next, [other]) = some (after, rest))
    (idle : other.TookOn next ∧ other.commits = [])
    (clock : state.clock ≤ next.clock)
    (same : next.isAbandoned = state.isAbandoned ∧ next.abandonedAt = state.abandonedAt ∧
      next.checks = state.checks) :
    Lateness after (rest ++ tasks) := by
  refine lateness.same steps ?_ (fun worker => Or.inl ?_) clock same
  · intro another present
    rw [List.mem_singleton.mp present]
    exact idle.1
  · rw [tally_cons, idle.2]
    exact Nat.zero_le _

theorem lateness_startWorker
    {state : State}
    (lateness : Lateness state tasks)
    (fails : Bool) :
    Lateness (state.startWorker fails).1 ((state.startWorker fails).2.2 ++ tasks) := by
  unfold State.startWorker
  split
  · exact lateness
  · refine { lateness with workers := ?_, oneLate := ?_ }
    · intro other present
      rcases List.mem_cons.mp present with rfl | isOld
      · trivial
      · exact lateness.workers other isOld
    · simpa [Task.commits] using lateness.oneLate

theorem Lateness.renew
    (lateness : Lateness state tasks)
    (once : ∀ worker, tally Task.thread tasks worker ≤ 1)
    (startFails : Bool) :
    Lateness (state.renew startFails).1 ((state.renew startFails).2 ++ tasks) := by
  have serviced : Lateness (state.servicingWorker startFails).1
      ((state.servicingWorker startFails).2.2 ++ tasks) := by
    unfold State.servicingWorker
    split
    · exact lateness_startWorker lateness startFails
    · next worker _ =>
        split
        · exact lateness
        · split
          · unfold State.reportLimit
            split <;> exact { lateness with }
          · have abandoned : Lateness (state.abandonCurrent worker) tasks := by
              unfold State.abandonCurrent
              dsimp only
              split <;> exact lateness.abandon (once worker) rfl rfl rfl rfl
            exact lateness_startWorker abandoned startFails
  unfold State.renew
  generalize state.servicingWorker startFails = outcome at serviced ⊢
  obtain ⟨found, worker, started⟩ := outcome
  cases worker with
  | none => exact serviced
  | some worker =>
      have requested : Lateness (found.request worker) ([.awaiting found.nextProbe] ++
          (started ++ tasks)) := by
        have waiting : Lateness found (.calling :: (started ++ tasks)) :=
          { serviced with
            workers := by
              intro other present
              rcases List.mem_cons.mp present with rfl | isOld
              · trivial
              · exact serviced.workers other isOld
            oneLate := by simpa [Task.commits] using serviced.oneLate }
        exact waiting.goOn rfl ⟨trivial, rfl⟩ (Nat.le_succ _) ⟨rfl, rfl, rfl⟩
      exact requested

/-- Every step of every thread keeps the checks of abandoned workers in bounds. -/
theorem Lateness.step
    {choice : Choice}
    (steps : step choice state task = some (after, rest))
    (lateness : Lateness state (task :: tasks))
    (once : ∀ worker, tally Task.thread (task :: tasks) worker ≤ 1) :
    Lateness after (rest ++ tasks) := by
  have others : Lateness state tasks :=
    @Lateness.same _ _ _ _ [] (state, []) lateness rfl nofun (fun _ => Or.inl (Nat.zero_le _))
      (Nat.le_refl _) ⟨rfl, rfl, rfl⟩
  have onceOthers : ∀ worker, tally Task.thread tasks worker ≤ 1 := by
    intro worker
    have := once worker
    rw [tally_cons] at this
    omega
  cases task with
  | calling =>
      simp only [Readiness.step] at steps
      split at steps
      · next expired startFails =>
          have called : Lateness (state.call expired startFails).1
              ((state.call expired startFails).2 ++ tasks) := by
            unfold State.call
            split
            · exact others
            · split
              · exact others.renew onceOthers startFails
              · split
                · exact others.renew onceOthers startFails
                · exact lateness.goOn rfl ⟨trivial, rfl⟩ (Nat.le_refl _) ⟨rfl, rfl, rfl⟩
          rw [Option.some.inj steps] at called
          exact called
      · cases steps
  | awaiting probe =>
      simp only [Readiness.step] at steps
      split at steps
      · cases steps
        exact { others with }
      · split at steps
        · cases steps
          exact { others with }
        · cases steps
  | closing =>
      simp only [Readiness.step, State.close] at steps
      split at steps
      · cases steps
        exact others
      · split at steps
        · cases steps
          exact { others with }
        · exact lateness.goOn steps ⟨trivial, rfl⟩ (Nat.le_refl _) ⟨rfl, rfl, rfl⟩
  | abandoning worker =>
      cases steps
      exact others.abandon (onceOthers worker) rfl rfl rfl rfl
  | ending worker =>
      cases steps
      exact { others with }
  | leaving worker =>
      refine lateness.goOn steps ⟨trivial, rfl⟩ ?_ ?_
      all_goals
        unfold State.releaseWorker
        dsimp only
        split <;> split
      all_goals first | exact Nat.le_refl _ | exact ⟨rfl, rfl, rfl⟩
  | checking worker probe beganAt =>
      simp only [Readiness.step, State.endCheck] at steps
      split at steps
      all_goals exact lateness.goOn steps ⟨trivial, rfl⟩ (Nat.le_refl _) ⟨rfl, rfl, rfl⟩
  | parked worker =>
      simp only [Readiness.step] at steps
      split at steps
      · exact lateness.goOn steps ⟨trivial, rfl⟩ (Nat.le_refl _) ⟨rfl, rfl, rfl⟩
      · split at steps
        · exact lateness.goOn steps ⟨trivial, rfl⟩ (Nat.le_refl _) ⟨rfl, rfl, rfl⟩
        · cases steps
  | entering worker =>
      simp only [Readiness.step] at steps
      split at steps
      · exact lateness.goOn steps ⟨trivial, rfl⟩ (Nat.le_refl _) ⟨rfl, rfl, rfl⟩
      · unfold State.takeOn at steps
        split at steps
        · exact lateness.goOn steps ⟨trivial, rfl⟩ (Nat.le_refl _) ⟨rfl, rfl, rfl⟩
        · next untouched =>
            split at steps
            · exact lateness.goOn steps ⟨trivial, rfl⟩ (Nat.le_refl _) ⟨rfl, rfl, rfl⟩
            · -- The worker is not abandoned, so it may take on the probe.
              simp only [Bool.or_eq_true, not_or, Bool.not_eq_true] at untouched
              have never := lateness.marked worker untouched.2
              refine lateness.same steps ?_ ?_ (Nat.le_succ _) ⟨rfl, rfl, rfl⟩
              · intro other present
                rw [List.mem_singleton.mp present]
                refine ⟨Nat.lt_succ_self _, ?_⟩
                intro abandonedAt isAt
                rw [show state.tick.abandonedAt worker = none from never] at isAt
                cases isAt
              · intro other
                by_cases same : other = worker
                · rw [same]
                  exact Or.inr untouched.2
                · left
                  simp [Task.commits, Ne.symm same]
  | deciding worker probe takenAt =>
      simp only [Readiness.step] at steps
      split at steps
      · exact lateness.goOn steps ⟨trivial, rfl⟩ (Nat.le_refl _) ⟨rfl, rfl, rfl⟩
      · unfold State.beginCheck at steps
        split at steps
        · exact lateness.goOn steps ⟨trivial, rfl⟩ (Nat.le_refl _) ⟨rfl, rfl, rfl⟩
        · cases steps
          exact lateness.beginCheck
  | parking | woken | leavingIdle | settling | answering =>
      simp only [Readiness.step] at steps
      split at steps
      all_goals exact lateness.goOn steps ⟨trivial, rfl⟩ (Nat.le_refl _) ⟨rfl, rfl, rfl⟩
  | finishing worker probe escapes =>
      simp only [Readiness.step] at steps
      split at steps
      · exact lateness.goOn steps ⟨trivial, rfl⟩ (Nat.le_refl _) ⟨rfl, rfl, rfl⟩
      · cases escapes <;>
          exact lateness.goOn steps ⟨trivial, rfl⟩ (Nat.le_refl _) ⟨rfl, rfl, rfl⟩

end Lateness

/-! ## Every interleaving -/

/-- The bounds of the probe. -/
structure Bounded (state : State) (tasks : List Task) : Prop where
  counter : state.abandoned = (state.alive.filter state.counted).length
  capped : state.abandoned ≤ state.maxAbandonedWorkers
  inFlight : tasks.countP Task.isChecking ≤ state.maxAbandonedWorkers + 1
  vouched : ∀ probe, (probe, true) ∈ state.answers →
    ∃ beganAt ∈ state.successes, state.createdAt probe < beganAt
  takenBefore : ∀ check ∈ state.checks, ∀ abandonedAt,
    state.abandonedAt check.worker = some abandonedAt → check.takenAt < abandonedAt
  oneLate : ∀ worker abandonedAt, state.abandonedAt worker = some abandonedAt →
    state.checks.countP (Check.isLate worker abandonedAt) ≤ 1

/-- Whoever checks serves. -/
theorem countP_isChecking_le (tasks : List Task) :
    tasks.countP Task.isChecking ≤ (tasks.flatMap Task.serves).length := by
  induction tasks with
  | nil => exact Nat.le_refl 0
  | cons task tasks inductionHypothesis =>
      rw [List.countP_cons, List.flatMap_cons, List.length_append]
      have one : (if task.isChecking = true then 1 else 0) ≤ task.serves.length := by
        cases task with
        | checking => exact Nat.le_refl 1
        | _ => exact Nat.zero_le _
      omega

theorem Slots.inFlight
    {state : State}
    {tasks : List Task}
    (slots : Slots state tasks) :
    tasks.countP Task.isChecking ≤ state.maxAbandonedWorkers + 1 := by
  have serving : (tasks.flatMap Task.serves).Subperm state.alive := by
    rw [List.subperm_ext_iff]
    intro worker _
    rw [slots.threads]
    exact tally_serves_le tasks worker
  have slotted := serving.countP_le state.counted
  have sameTest : (fun worker => decide ¬state.counted worker = true) = state.uncounted := by
    funext worker
    simp [State.uncounted]
  have split : (tasks.flatMap Task.serves).length = _ :=
    List.length_eq_countP_add_countP state.counted
  rw [sameTest] at split
  have oneUncounted := slots.oneUncounted
  have checking := countP_isChecking_le tasks
  have counter := slots.counter
  have capped := slots.capped
  omega

/-- The invariants together. -/
structure Kept (state : State) (tasks : List Task) : Prop where
  slots : Slots state tasks
  vouching : Vouching state tasks
  lateness : Lateness state tasks

theorem kept_initial (maxAbandonedWorkers : Nat) : Kept { maxAbandonedWorkers } [] where
  slots := slots_initial maxAbandonedWorkers
  vouching := ⟨nofun, nofun, nofun, nofun⟩
  lateness := ⟨nofun, fun _ _ => rfl, nofun, nofun, nofun⟩

theorem Kept.perm
    {state : State}
    {tasks others : List Task}
    (permuted : tasks.Perm others)
    (kept : Kept state tasks) :
    Kept state others where
  slots := kept.slots.perm permuted
  vouching :=
    { kept.vouching with
      workers := fun task present => kept.vouching.workers task (permuted.mem_iff.mpr present) }
  lateness :=
    { kept.lateness with
      workers := fun task present => kept.lateness.workers task (permuted.mem_iff.mpr present)
      oneLate := by
        intro worker abandonedAt isAt
        rw [← tally_perm Task.commits permuted]
        exact kept.lateness.oneLate worker abandonedAt isAt }

theorem Kept.start
    {state : State}
    {task : Task}
    {tasks : List Task}
    (isStart : task.starts = true)
    (kept : Kept state tasks) :
    Kept state (task :: tasks) := by
  have idle : task.Vouches state ∧ task.TookOn state ∧ task.commits = [] := by
    cases task with
    | calling | closing => exact ⟨trivial, trivial, rfl⟩
    | _ => cases isStart
  obtain ⟨vouches, tookOn, commits⟩ := idle
  refine ⟨kept.slots.start isStart, { kept.vouching with workers := ?_ },
    { kept.lateness with workers := ?_, oneLate := ?_ }⟩
  · exact List.forall_mem_cons.mpr ⟨vouches, kept.vouching.workers⟩
  · exact List.forall_mem_cons.mpr ⟨tookOn, kept.lateness.workers⟩
  · intro worker abandonedAt isAt
    rw [tally_cons, commits, List.count_nil, Nat.zero_add]
    exact kept.lateness.oneLate worker abandonedAt isAt

theorem Kept.step
    {choice : Choice}
    {state after : State}
    {task : Task}
    {rest tasks : List Task}
    (steps : step choice state task = some (after, rest))
    (kept : Kept state (task :: tasks)) :
    Kept after (rest ++ tasks) where
  slots := kept.slots.step steps
  vouching := kept.vouching.step steps
  lateness := kept.lateness.step steps kept.slots.once

theorem Kept.bounded
    {state : State}
    {tasks : List Task}
    (kept : Kept state tasks) :
    Bounded state tasks where
  counter := by
    rw [kept.slots.counter, List.countP_eq_length_filter]
  capped := kept.slots.capped
  inFlight := kept.slots.inFlight
  vouched := fun probe told => (kept.vouching.answered probe told).2
  takenBefore := kept.lateness.taken
  oneLate := by
    intro worker abandonedAt isAt
    have := kept.lateness.oneLate worker abandonedAt isAt
    omega

/-- Callers, workers and the shutdown, interleaved in any way, with deadlines passing,
threads failing to start and workers dying anywhere: the probe stays within its bounds in
every state they reach. -/
theorem probe_stays_bounded
    (maxAbandonedWorkers : Nat)
    (events : List (TaskEvent Task Choice))
    (started : ∀ task, .start task ∈ events → task.starts = true) :
    let reached := interleaving.run ⟨{ maxAbandonedWorkers }, []⟩ events
    Bounded reached.shared reached.tasks := by
  refine Kept.bounded (interleaving.invariant_run ?_ ?_ ?_ (kept_initial _) started)
  · exact Kept.perm
  · exact fun _ isStart => Kept.start isStart
  · exact Kept.step

/-- A call makes a probe and a worker, and the worker takes the probe on. -/
def takenOn : List (TaskEvent Task Choice) :=
  [.start .calling, .advance 0 (.calls false false), .advance 1 .goes, .advance 0 .goes,
    .advance 0 .goes, .advance 0 .goes, .advance 0 .goes]

/-- The check succeeds and the caller is told. -/
theorem caller_is_told :
    let events := takenOn ++ [.advance 0 .goes, .advance 0 (.returns true), .advance 0 .goes,
      .advance 0 .goes, .advance 0 .goes, .advance 1 .goes]
    let reached := interleaving.run ⟨{ maxAbandonedWorkers := 1 }, []⟩ events
    reached.shared.answers = [(0, true)] ∧ Bounded reached.shared reached.tasks :=
  ⟨by decide, probe_stays_bounded 1 _ (by simp [takenOn, Task.starts])⟩

/-- The deadline passes before the worker has begun the check.  The next caller abandons
it, and then the check begins. -/
theorem abandoned_worker_begins_check :
    let events := takenOn ++ [.start .calling, .advance 0 (.calls true false), .advance 2 .goes]
    let reached := interleaving.run ⟨{ maxAbandonedWorkers := 1 }, []⟩ events
    ¬∀ check ∈ reached.shared.checks, ∀ abandonedAt,
      reached.shared.abandonedAt check.worker = some abandonedAt →
        check.beganAt < abandonedAt := by
  intro events reached never
  have began : reached.shared.checks = [⟨0, 1, 4⟩] := by decide
  have isAt : reached.shared.abandonedAt 0 = some 2 := by decide
  have early := never ⟨0, 1, 4⟩ (by rw [began]; exact List.mem_cons_self) 2 isAt
  exact absurd early (by decide)

end Readiness
end Vinctor
