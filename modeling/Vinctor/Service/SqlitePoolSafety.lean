import Mathlib.Data.List.Nodup
import Vinctor.Service.SqlitePool

/-!
# Safety of the connection pool

A context is on lease at most once: it is in the queue, with one holder, or still being
built.  A connection is due to be closed at most once: its context is in the pool, left
to a probe, about to be closed by one task, or its connection was closed before.  Both
are counted over the pool and the tasks under way, so a step only moves one count.
-/

namespace Vinctor
namespace SqlitePool

open Foundation

/-! ## What tasks have in hand -/

def Next.holds : Next → List Nat
  | .acquire | .done => []
  | .scope context => [context]

/-- The context that a request scope or a probe holds. -/
def Task.holds : Task → List Nat
  | .replenish next | .building _ next | .discarding _ next => next.holds
  | .holding context | .quarantining context | .reclaiming context | .retiring context
  | .closingRetired context | .probe context | .closingProbed context => [context]
  | .acquire | .waiting _ _ | .probing | .closing | .closingContexts _ => []

/-- The context that a probe has borrowed. -/
def Task.probes : Task → List Nat
  | .probe context => [context]
  | _ => []

/-- The context that is being built. -/
def Task.builds : Task → List Nat
  | .building generation _ => [generation]
  | _ => []

/-- The contexts whose connection the task is about to close. -/
def Task.closes : Task → List Nat
  | .discarding generation _ => [generation]
  | .quarantining context | .closingRetired context | .closingProbed context => [context]
  | .closingContexts contexts => contexts
  | _ => []

/-! ## Invariant -/

structure Sound (pool : Pool) (tasks : List Task) : Prop where
  leased : ∀ context, pool.admission.available.count context +
    tally Task.holds tasks context + tally Task.builds tasks context ≤ 1
  owned : ∀ context, pool.contexts.count context + pool.deferredProbeContexts.count context +
    pool.closedConnections.count context + tally Task.closes tasks context +
      tally Task.builds tasks context ≤ 1
  fresh : ∀ context, pool.nextGeneration ≤ context →
    pool.admission.available.count context + tally Task.holds tasks context +
      pool.contexts.count context + pool.deferredProbeContexts.count context +
      pool.closedConnections.count context + tally Task.closes tasks context +
      tally Task.builds tasks context = 0
  marked : ∀ context, context ∈ pool.unhealthy ∨ context ∈ pool.closedContexts →
    context < pool.nextGeneration ∧ tally Task.builds tasks context = 0 ∧
      context ∉ pool.contexts
  queued : ∀ context ∈ pool.admission.available, context ∈ pool.contexts
  bounded : pool.contexts.length ≤ pool.targetSize
  oneBuild : (tasks.flatMap Task.builds).length = if pool.buildInFlight then 1 else 0
  inFlight : pool.buildInFlight = true → pool.contexts.length < pool.targetSize
  refusing : pool.admission.accepting = false → pool.closed = false →
    pool.contexts.length < pool.targetSize
  admission : pool.admission.closed = pool.closed
  emptied : pool.closed = true → pool.contexts = [] ∧ pool.admission.available = []
  undeferred : pool.closed = false → pool.deferredProbeContexts = []
  probed : ∀ context, pool.probeCalls.count context = tally Task.probes tasks context
  borrowed : ∀ context, 0 < tally Task.probes tasks context →
    context ∈ pool.contexts ∨ context ∈ pool.deferredProbeContexts

theorem Sound.perm
    {pool : Pool}
    {tasks others : List Task}
    (permuted : tasks.Perm others)
    (sound : Sound pool tasks) :
    Sound pool others := by
  have same : ∀ (inHand : Task → List Nat) context,
      tally inHand others context = tally inHand tasks context :=
    fun inHand context => (tally_perm inHand permuted context).symm
  have builds := (permuted.flatMap_right Task.builds).length_eq
  constructor
  · simpa only [same] using sound.leased
  · simpa only [same] using sound.owned
  · simpa only [same] using sound.fresh
  · simpa only [same] using sound.marked
  · exact sound.queued
  · exact sound.bounded
  · exact builds.symm.trans sound.oneBuild
  · exact sound.inFlight
  · exact sound.refusing
  · exact sound.admission
  · exact sound.emptied
  · exact sound.undeferred
  · simpa only [same] using sound.probed
  · simpa only [same] using sound.borrowed

/-- A probe holds what it has borrowed. -/
theorem tally_probes_le (tasks : List Task) (context : Nat) :
    tally Task.probes tasks context ≤ tally Task.holds tasks context := by
  refine tally_mono ?_ tasks context
  intro task context
  cases task with
  | probe borrowed => exact Nat.le_refl _
  | _ => exact Nat.zero_le _

theorem sound_initial (size : Nat) : Sound (Pool.initial size) [] where
  leased := by
    intro context
    have := List.nodup_iff_count_le_one.mp (List.nodup_range' (s := 1) (n := size)) context
    simp only [Pool.initial, tally_nil]
    omega
  owned := by
    intro context
    have := List.nodup_iff_count_le_one.mp (List.nodup_range' (s := 1) (n := size)) context
    simp only [Pool.initial, tally_nil, List.count_nil]
    omega
  fresh := by
    intro context isNew
    have absent : context ∉ List.range' 1 size := by
      rw [List.mem_range'_1]
      have : size + 1 ≤ context := isNew
      omega
    simp only [Pool.initial, tally_nil, List.count_nil, List.count_eq_zero_of_not_mem absent]
  marked := by
    intro context isMarked
    rcases isMarked with isMarked | isMarked <;> cases isMarked
  queued := fun _ present => present
  bounded := Nat.le_of_eq List.length_range'
  oneBuild := rfl
  inFlight := nofun
  refusing := nofun
  admission := rfl
  emptied := nofun
  undeferred := fun _ => rfl
  probed := fun _ => rfl
  borrowed := fun _ present => absurd present (Nat.lt_irrefl 0)

/-! ## Steps -/

section Steps

variable {pool : Pool} {task : Task} {tasks rest : List Task}

/-- A task goes on with no more in hand, in the same pool. -/
theorem Sound.goOn
    (sound : Sound pool (task :: tasks))
    (holds : ∀ context, tally Task.holds rest context ≤ task.holds.count context)
    (closes : ∀ context, tally Task.closes rest context ≤ task.closes.count context)
    (builds : rest.flatMap Task.builds = task.builds)
    (probes : rest.flatMap Task.probes = task.probes) :
    Sound pool (rest ++ tasks) := by
  have sameBuilds : ∀ context, tally Task.builds (rest ++ tasks) context =
      tally Task.builds (task :: tasks) context := by
    intro context
    rw [tally_append, tally_cons, tally, builds]
  have sameProbes : ∀ context, tally Task.probes (rest ++ tasks) context =
      tally Task.probes (task :: tasks) context := by
    intro context
    rw [tally_append, tally_cons, tally, probes]
  have fewerHeld : ∀ context, tally Task.holds (rest ++ tasks) context ≤
      tally Task.holds (task :: tasks) context := by
    intro context
    rw [tally_append, tally_cons]
    exact Nat.add_le_add_right (holds context) _
  have fewerClosing : ∀ context, tally Task.closes (rest ++ tasks) context ≤
      tally Task.closes (task :: tasks) context := by
    intro context
    rw [tally_append, tally_cons]
    exact Nat.add_le_add_right (closes context) _
  refine { sound with
    leased := ?_, owned := ?_, fresh := ?_, marked := ?_, oneBuild := ?_, probed := ?_,
    borrowed := ?_ }
  · intro context
    have := sound.leased context
    have := fewerHeld context
    rw [sameBuilds]
    omega
  · intro context
    have := sound.owned context
    have := fewerClosing context
    rw [sameBuilds]
    omega
  · intro context isNew
    have := sound.fresh context isNew
    have := fewerHeld context
    have := fewerClosing context
    rw [sameBuilds]
    omega
  · simpa only [sameBuilds] using sound.marked
  · have := sound.oneBuild
    rw [List.flatMap_cons] at this
    rw [List.flatMap_append, builds]
    exact this
  · simpa only [sameProbes] using sound.probed
  · simpa only [sameProbes] using sound.borrowed

/-- After a replenishment the thread goes on with what it held. -/
theorem Sound.returned {next : Next} (sound : Sound pool (.replenish next :: tasks)) :
    Sound pool (next.returned ++ tasks) := by
  cases next <;> exact sound.goOn (fun _ => Nat.le_refl _) (fun _ => Nat.le_refl _) rfl rfl

theorem Sound.raised {next : Next} (sound : Sound pool (.replenish next :: tasks)) :
    Sound pool (next.raised ++ tasks) := by
  cases next <;> exact sound.goOn (fun _ => Nat.le_refl _) (fun _ => Nat.zero_le _) rfl rfl

theorem Sound.beginReplenish
    {next : Next}
    (sound : Sound pool (.replenish next :: tasks)) :
    Sound (beginReplenish pool next).1 ((beginReplenish pool next).2 ++ tasks) := by
  unfold SqlitePool.beginReplenish
  split
  · exact sound.returned
  · next room =>
      simp only [Bool.or_eq_true, decide_eq_true_eq, not_or, Bool.not_eq_true, Nat.not_le] at room
      obtain ⟨⟨-, idle⟩, room⟩ := room
      have new := sound.fresh pool.nextGeneration (Nat.le_refl _)
      simp only [tally_cons, Task.holds, Task.builds, Task.closes, List.count_nil] at new
      refine { sound with
        leased := ?_, owned := ?_, fresh := ?_, marked := ?_, oneBuild := ?_, inFlight := ?_ }
      · intro context
        have := sound.leased context
        simp only [List.singleton_append, tally_cons, Task.holds, Task.builds,
          List.count_singleton, List.count_nil, beq_iff_eq] at this ⊢
        grind
      · intro context
        have := sound.owned context
        simp only [List.singleton_append, tally_cons, Task.closes, Task.builds,
          List.count_singleton, List.count_nil, beq_iff_eq] at this ⊢
        grind
      · intro context isNew
        have := sound.fresh context (Nat.le_of_succ_le isNew)
        simp only [List.singleton_append, tally_cons, Task.holds, Task.closes, Task.builds,
          List.count_singleton, List.count_nil, beq_iff_eq] at this isNew ⊢
        grind
      · intro context isMarked
        have := sound.marked context isMarked
        simp only [List.singleton_append, tally_cons, Task.builds, List.count_singleton,
          List.count_nil, beq_iff_eq] at this ⊢
        grind
      · have := sound.oneBuild
        rw [idle] at this
        simpa [Task.builds] using this
      · intro _
        exact room

theorem Sound.inFlight_of_building
    {generation : Nat}
    {next : Next}
    (sound : Sound pool (.building generation next :: tasks)) :
    pool.buildInFlight = true ∧ tasks.flatMap Task.builds = [] := by
  have one := sound.oneBuild
  cases inFlight : pool.buildInFlight with
  | false => simp [Task.builds, inFlight] at one
  | true =>
      simp only [inFlight, List.flatMap_cons, Task.builds, List.length_append,
        List.length_singleton, if_true] at one
      exact ⟨rfl, List.eq_nil_of_length_eq_zero (by omega)⟩

theorem Sound.failBuild
    {generation : Nat}
    {next : Next}
    (sound : Sound pool (.building generation next :: tasks)) :
    Sound (failBuild pool next).1 ((failBuild pool next).2 ++ tasks) := by
  obtain ⟨inFlight, alone⟩ := sound.inFlight_of_building
  have room := sound.inFlight inFlight
  unfold SqlitePool.failBuild Admission.invalidateWaiters
  refine Sound.raised { sound with
    leased := ?_, owned := ?_, fresh := ?_, marked := ?_, oneBuild := ?_, inFlight := ?_,
    refusing := ?_ }
  · intro context
    have := sound.leased context
    simp only [tally_cons, Task.holds, Task.builds, List.count_nil] at this ⊢
    omega
  · intro context
    have := sound.owned context
    simp only [tally_cons, Task.closes, Task.builds, List.count_nil] at this ⊢
    omega
  · intro context isNew
    have := sound.fresh context isNew
    simp only [tally_cons, Task.holds, Task.closes, Task.builds, List.count_nil] at this ⊢
    omega
  · intro context isMarked
    have := sound.marked context isMarked
    simp only [tally_cons, Task.builds, List.count_nil] at this ⊢
    exact ⟨this.1, by omega, this.2.2⟩
  · simp [Task.builds, alone]
  · exact nofun
  · exact fun _ _ => room

theorem Sound.finishBuild
    {generation : Nat}
    {next : Next}
    (sound : Sound pool (.building generation next :: tasks)) :
    Sound (finishBuild pool generation next).1 ((finishBuild pool generation next).2 ++ tasks) := by
  obtain ⟨inFlight, alone⟩ := sound.inFlight_of_building
  have room := sound.inFlight inFlight
  have noBuild : ∀ context, tally Task.builds tasks context = 0 := by
    intro context
    rw [tally, alone]
    rfl
  have notOld : generation < pool.nextGeneration := by
    by_contra isNew
    have := sound.fresh generation (Nat.le_of_not_lt isNew)
    simp only [tally_cons, Task.builds, List.count_singleton_self] at this
    omega
  unfold SqlitePool.finishBuild
  dsimp only
  split
  · next isOpen =>
      simp only [Bool.and_eq_true, Bool.not_eq_true', decide_eq_true_eq] at isOpen
      have published : pool.admission.publish generation =
          { pool.admission with
            available := pool.admission.available ++ [generation], accepting := true } :=
        if_neg (by simp [sound.admission, isOpen.1])
      rw [published]
      refine Sound.returned { sound with
        leased := ?_, owned := ?_, fresh := ?_, marked := ?_, queued := ?_, bounded := ?_,
        oneBuild := ?_, inFlight := ?_, refusing := ?_, emptied := ?_, borrowed := ?_ }
      · intro context
        have := sound.leased context
        simp only [tally_cons, Task.holds, Task.builds, List.count_nil, List.count_append,
          noBuild] at this ⊢
        omega
      · intro context
        have := sound.owned context
        simp only [tally_cons, Task.closes, Task.builds, List.count_nil, List.count_append,
          noBuild] at this ⊢
        omega
      · intro context isNew
        have := sound.fresh context isNew
        simp only [tally_cons, Task.holds, Task.closes, Task.builds, List.count_nil,
          List.count_append, noBuild] at this ⊢
        omega
      · intro context isMarked
        have := sound.marked context isMarked
        simp only [tally_cons, Task.builds, List.count_nil, List.count_singleton, beq_iff_eq,
          List.mem_append, List.mem_singleton] at this ⊢
        grind
      · intro context present
        rcases List.mem_append.mp present with waiting | isNew
        · exact List.mem_append_left _ (sound.queued context waiting)
        · exact List.mem_append_right _ isNew
      · rw [List.length_append]
        exact room
      · simp [Task.builds, alone]
      · intro building
        cases building
      · intro refuses
        cases refuses
      · intro isClosed
        rw [isOpen.1] at isClosed
        cases isClosed
      · intro context isProbed
        rcases sound.borrowed context isProbed with inPool | deferred
        · exact Or.inl (List.mem_append_left _ inPool)
        · exact Or.inr deferred
  · refine { sound with
      leased := ?_, owned := ?_, fresh := ?_, marked := ?_, oneBuild := ?_, inFlight := ?_ }
    · intro context
      have := sound.leased context
      simp only [List.singleton_append, tally_cons, Task.holds, Task.builds, List.count_nil,
        Pool.mark] at this ⊢
      omega
    · intro context
      have := sound.owned context
      simp only [List.singleton_append, tally_cons, Task.closes, Task.builds, List.count_nil,
        Pool.mark] at this ⊢
      omega
    · intro context isNew
      have := sound.fresh context isNew
      simp only [List.singleton_append, tally_cons, Task.holds, Task.closes, Task.builds,
        List.count_nil, Pool.mark] at this ⊢
      omega
    · intro context isMarked
      have owned := sound.owned context
      have := sound.marked context
      simp only [List.singleton_append, tally_cons, Task.builds, Task.closes, List.count_nil,
        List.count_singleton, beq_iff_eq, Pool.mark, List.mem_cons, noBuild] at this owned isMarked ⊢
      have absent : context = generation → context ∉ pool.contexts := by
        intro same present
        have := List.count_pos_iff.mpr present
        rw [if_pos same.symm] at owned
        omega
      grind
    · simp [Task.builds, alone, Pool.mark]
    · intro building
      cases building

/-- A context that only its holder has in hand goes back to the queue. -/
theorem Sound.release
    {context : Nat}
    (sound : Sound pool (task :: tasks))
    (held : task.holds = [context])
    (plain : task.builds = [] ∧ task.probes = [])
    (inPool : context ∈ pool.contexts)
    (isOpen : pool.closed = false) :
    Sound (pool.release context) tasks := by
  have released : pool.admission.release context =
      { pool.admission with available := pool.admission.available ++ [context] } :=
    if_neg (by simp [sound.admission, isOpen])
  unfold Pool.release
  rw [released]
  refine { sound with
    leased := ?_, owned := ?_, fresh := ?_, marked := ?_, queued := ?_, oneBuild := ?_,
    emptied := ?_, probed := ?_, borrowed := ?_ }
  · intro other
    have := sound.leased other
    simp only [tally_cons, held, plain, List.count_nil, List.count_append] at this ⊢
    omega
  · intro other
    have := sound.owned other
    simp only [tally_cons, plain, List.count_nil] at this ⊢
    omega
  · intro other isNew
    have := sound.fresh other isNew
    simp only [tally_cons, held, plain, List.count_nil, List.count_append] at this ⊢
    omega
  · intro other isMarked
    have := sound.marked other isMarked
    simpa only [tally_cons, plain, List.count_nil, Nat.zero_add] using this
  · intro other present
    rcases List.mem_append.mp present with waiting | isReleased
    · exact sound.queued other waiting
    · rw [List.mem_singleton.mp isReleased]
      exact inPool
  · have := sound.oneBuild
    rw [List.flatMap_cons, plain.1] at this
    exact this
  · intro isClosed
    rw [isOpen] at isClosed
    cases isClosed
  · intro other
    have := sound.probed other
    simpa only [tally_cons, plain, List.count_nil, Nat.zero_add] using this
  · intro other isProbed
    have := sound.borrowed other
    simp only [tally_cons, plain, List.count_nil, Nat.zero_add] at this
    exact this isProbed

/-- The holder of a context takes it out of the pool, and is the one to close it. -/
theorem Sound.drop
    {context : Nat}
    {after : Task}
    (sound : Sound pool (task :: tasks))
    (held : task.holds = [context] ∧ after.holds = [context])
    (plain : task.builds = [] ∧ task.probes = [] ∧ after.builds = [] ∧ after.probes = [])
    (closes : after.closes = [context])
    (inPool : context ∈ pool.contexts) :
    Sound (pool.drop context) (after :: tasks) := by
  obtain ⟨held, heldAfter⟩ := held
  obtain ⟨builds, probes, buildsAfter, probesAfter⟩ := plain
  have once : (pool.contexts.erase context).length < pool.contexts.length := by
    rw [List.length_erase_of_mem inPool]
    exact Nat.sub_lt (List.length_pos_of_mem inPool) Nat.one_pos
  have positive := List.count_pos_iff.mpr inPool
  have notProbed : ∀ other, 0 < tally Task.probes tasks other → other ≠ context := by
    rintro other isProbed rfl
    have probesHold := tally_probes_le tasks other
    have := sound.leased other
    simp only [tally_cons, held, List.count_singleton_self] at this
    omega
  unfold Pool.drop Pool.mark Admission.invalidateWaiters
  refine { sound with
    leased := ?_, owned := ?_, fresh := ?_, marked := ?_, queued := ?_, bounded := ?_,
    oneBuild := ?_, inFlight := ?_, refusing := ?_, emptied := ?_, probed := ?_,
    borrowed := ?_ }
  · intro other
    have := sound.leased other
    simp only [tally_cons, held, heldAfter, builds, buildsAfter, List.count_erase] at this ⊢
    omega
  · intro other
    have := sound.owned other
    simp only [tally_cons, closes, builds, buildsAfter, List.count_erase, List.count_singleton,
      beq_iff_eq] at this ⊢
    by_cases same : context = other
    · subst same
      simp only [if_true] at this ⊢
      omega
    · simp only [if_neg same] at this ⊢
      omega
  · intro other isNew
    have := sound.fresh other isNew
    have different : context ≠ other := by
      rintro rfl
      omega
    simp only [tally_cons, held, heldAfter, closes, builds, buildsAfter, List.count_erase,
      List.count_singleton, beq_iff_eq, if_neg different] at this ⊢
    omega
  · intro other isMarked
    have known := sound.fresh context
    have owned := sound.owned context
    have := sound.marked other
    simp only [tally_cons, builds, buildsAfter, List.count_nil, Nat.zero_add, List.mem_append,
      List.mem_singleton] at this owned known isMarked ⊢
    by_cases same : other = context
    · subst same
      refine ⟨by_contra fun isNew => ?_, by omega, ?_⟩
      · have := known (Nat.le_of_not_lt isNew)
        omega
      · intro present
        have := List.count_pos_iff.mpr present
        rw [List.count_erase_self] at this
        omega
    · have kept := this (by tauto)
      exact ⟨kept.1, kept.2.1, fun present => kept.2.2 (List.mem_of_mem_erase present)⟩
  · intro other present
    have waiting := List.mem_of_mem_erase present
    have different : other ≠ context := by
      rintro rfl
      have isWaiting := List.count_pos_iff.mpr waiting
      have := sound.leased other
      simp only [tally_cons, held, List.count_singleton_self] at this
      omega
    exact (List.mem_erase_of_ne different).mpr (sound.queued other waiting)
  · exact Nat.le_trans (Nat.le_of_lt once) sound.bounded
  · have := sound.oneBuild
    rw [List.flatMap_cons, builds] at this
    rw [List.flatMap_cons, buildsAfter]
    exact this
  · intro inFlight
    exact Nat.lt_trans once (sound.inFlight inFlight)
  · intro _ _
    exact Nat.lt_of_lt_of_le once sound.bounded
  · intro isClosed
    rw [(sound.emptied isClosed).1] at inPool
    cases inPool
  · intro other
    have := sound.probed other
    simpa only [tally_cons, probes, probesAfter, List.count_nil, Nat.zero_add] using this
  · intro other isProbed
    simp only [tally_cons, probesAfter, List.count_nil, Nat.zero_add] at isProbed
    have := sound.borrowed other
    simp only [tally_cons, probes, List.count_nil, Nat.zero_add] at this
    rcases this isProbed with present | deferred
    · exact Or.inl ((List.mem_erase_of_ne (notProbed other isProbed)).mpr present)
    · exact Or.inr deferred

/-- A task closes the connection that was left to it, and goes on with what it held or
less. -/
theorem Sound.closeConnection
    {context : Nat}
    (sound : Sound pool (task :: tasks))
    (holds : ∀ other, tally Task.holds rest other ≤ task.holds.count other)
    (closes : task.closes = context :: rest.flatMap Task.closes)
    (builds : rest.flatMap Task.builds = task.builds)
    (probes : rest.flatMap Task.probes = task.probes) :
    Sound (pool.closeConnection context) (rest ++ tasks) := by
  have sameBuilds : ∀ other, tally Task.builds (rest ++ tasks) other =
      tally Task.builds (task :: tasks) other := by
    intro other
    rw [tally_append, tally_cons, tally, builds]
  have sameProbes : ∀ other, tally Task.probes (rest ++ tasks) other =
      tally Task.probes (task :: tasks) other := by
    intro other
    rw [tally_append, tally_cons, tally, probes]
  have oneLess : ∀ other, tally Task.closes (task :: tasks) other =
      tally Task.closes (rest ++ tasks) other + [context].count other := by
    intro other
    rw [tally_append, tally_cons, closes, List.count_cons, List.count_singleton, tally, tally]
    omega
  unfold Pool.closeConnection
  refine { sound with
    leased := ?_, owned := ?_, fresh := ?_, marked := ?_, oneBuild := ?_, probed := ?_,
    borrowed := ?_ }
  · intro other
    have := sound.leased other
    have := holds other
    rw [sameBuilds]
    simp only [tally_append, tally_cons] at *
    omega
  · intro other
    have := sound.owned other
    rw [oneLess] at this
    simp only [sameBuilds, List.count_append]
    omega
  · intro other isNew
    have fewer := holds other
    have := sound.fresh other isNew
    rw [oneLess] at this
    simp only [sameBuilds, List.count_append]
    rw [tally_cons] at this
    rw [tally_append Task.holds]
    omega
  · simpa only [sameBuilds] using sound.marked
  · have := sound.oneBuild
    rw [List.flatMap_cons] at this
    rw [List.flatMap_append, builds]
    exact this
  · simpa only [sameProbes] using sound.probed
  · simpa only [sameProbes] using sound.borrowed

/-- The first context of the queue goes to a task that had none. -/
theorem Sound.take
    {context : Nat}
    {waiting : List Nat}
    {after : Task}
    (sound : Sound pool (task :: tasks))
    (queue : pool.admission.available = context :: waiting)
    (nothing : task.holds = [] ∧ task.closes = [] ∧ task.builds = [] ∧ task.probes = [])
    (held : after.holds = [context])
    (plain : after.closes = [] ∧ after.builds = [])
    (probes : after.probes = [] ∨ after.probes = [context]) :
    Sound
      { pool with
        admission := { pool.admission with available := waiting }
        probeCalls := pool.probeCalls ++ after.probes }
      (after :: tasks) := by
  obtain ⟨noHolds, noCloses, noBuilds, noProbes⟩ := nothing
  have inPool : context ∈ pool.contexts :=
    sound.queued context (by rw [queue]; exact List.mem_cons_self)
  refine { sound with
    leased := ?_, owned := ?_, fresh := ?_, marked := ?_, queued := ?_, oneBuild := ?_,
    emptied := ?_, probed := ?_, borrowed := ?_ }
  · intro other
    have := sound.leased other
    simp only [tally_cons, noHolds, noBuilds, held, plain, queue, List.count_cons,
      List.count_nil] at this ⊢
    omega
  · intro other
    have := sound.owned other
    simp only [tally_cons, noCloses, noBuilds, plain, List.count_nil] at this ⊢
    exact this
  · intro other isNew
    have := sound.fresh other isNew
    simp only [tally_cons, noHolds, noCloses, noBuilds, held, plain, queue, List.count_cons,
      List.count_nil] at this ⊢
    omega
  · simpa only [tally_cons, noBuilds, plain] using sound.marked
  · intro other present
    exact sound.queued other (by rw [queue]; exact List.mem_cons_of_mem _ present)
  · simpa only [List.flatMap_cons, noBuilds, plain] using sound.oneBuild
  · intro isClosed
    have empty := (sound.emptied isClosed).2
    rw [queue] at empty
    cases empty
  · intro other
    have := sound.probed other
    simp only [tally_cons, noProbes, List.count_nil, List.count_append] at this ⊢
    omega
  · intro other isProbed
    have := sound.borrowed other
    simp only [tally_cons, noProbes, List.count_nil, Nat.zero_add] at this isProbed
    rcases probes with none | one
    · rw [none, List.count_nil, Nat.zero_add] at isProbed
      exact this isProbed
    · by_cases same : other = context
      · rw [same]
        exact Or.inl inPool
      · rw [one, List.count_singleton, if_neg (by simpa using Ne.symm same), Nat.zero_add]
          at isProbed
        exact this isProbed

/-- Who waits for a context does not matter to the rest. -/
theorem Sound.waiters (sound : Sound pool tasks) (waiters : List Nat) (nextWaiter : Nat) :
    Sound { pool with admission := { pool.admission with waiters }, nextWaiter } tasks :=
  { sound with }

theorem Sound.acquire
    {waiter epoch : Nat}
    {timesOut : Bool}
    {after : Pool}
    (sound : Sound pool (.waiting waiter epoch :: tasks))
    (acquires : acquire pool waiter epoch timesOut = some (after, rest)) :
    Sound after (rest ++ tasks) := by
  have leaves : Sound (pool.removeWaiter waiter) ([] ++ tasks) :=
    (sound.goOn (fun _ => Nat.le_refl _) (fun _ => Nat.le_refl _) rfl rfl).waiters _ _
  unfold SqlitePool.acquire at acquires
  split at acquires
  · cases acquires
    exact leaves
  · split at acquires
    · next context waiting queue =>
        split at acquires
        · cases acquires
          have taken : Sound _ (.holding context :: tasks) :=
            (sound.waiters (pool.admission.waiters.erase waiter) pool.nextWaiter).take
              queue ⟨rfl, rfl, rfl, rfl⟩ rfl ⟨rfl, rfl⟩ (Or.inl rfl)
          simp only [Task.probes, List.append_nil] at taken
          exact taken
        · split at acquires
          · cases acquires
            exact leaves
          · cases acquires
    · split at acquires
      · cases acquires
        exact leaves
      · cases acquires

theorem Sound.isReady (sound : Sound pool (.probing :: tasks)) :
    Sound (isReady pool).1 ((isReady pool).2 ++ tasks) := by
  have leaves : Sound pool ([] ++ tasks) :=
    sound.goOn (fun _ => Nat.le_refl _) (fun _ => Nat.le_refl _) rfl rfl
  unfold SqlitePool.isReady
  split
  · exact leaves
  · split
    · exact leaves
    · next context waiting queue =>
        have taken : Sound _ (.probe context :: tasks) :=
          sound.take queue ⟨rfl, rfl, rfl, rfl⟩ rfl ⟨rfl, rfl⟩ (Or.inr rfl)
        exact taken

/-- The probe returns its context, or closes what the shutdown has left to it. -/
theorem Sound.releaseProbeContext
    {context : Nat}
    (sound : Sound pool (.probe context :: tasks)) :
    Sound (releaseProbeContext pool context).1
      ((releaseProbeContext pool context).2 ++ tasks) := by
  have once := sound.leased context
  have probesHold := tally_probes_le tasks context
  have inPlace := sound.borrowed context
  simp only [tally_cons, Task.holds, Task.probes, List.count_singleton_self] at once inPlace
  have notProbed : tally Task.probes tasks context = 0 := by omega
  have calls : ∀ other, (pool.probeCalls.filter (· ≠ context)).count other =
      tally Task.probes tasks other := by
    intro other
    have := sound.probed other
    simp only [tally_cons, Task.probes, List.count_singleton, beq_iff_eq] at this
    by_cases same : other = context
    · subst same
      rw [notProbed, List.count_eq_zero]
      simp
    · rw [List.count_filter (by simpa using same), this, if_neg (Ne.symm same), Nat.zero_add]
  have noneElse : ∀ other, 0 < tally Task.probes tasks other →
      other ∈ pool.contexts ∨ other ∈ pool.deferredProbeContexts := by
    intro other isProbed
    refine sound.borrowed other ?_
    rw [tally_cons]
    exact Nat.lt_of_lt_of_le isProbed (Nat.le_add_left _ _)
  unfold SqlitePool.releaseProbeContext
  rcases Bool.eq_false_or_eq_true pool.closed with isClosed | isClosed
  case inr =>
      -- Nothing is deferred yet, so the context is still in the pool.
      have deferred := sound.undeferred isClosed
      have inPool : context ∈ pool.contexts := by
        rcases inPlace (by omega) with inPool | isDeferred
        · exact inPool
        · rw [deferred] at isDeferred
          cases isDeferred
      have unmarked : context ∉ pool.unhealthy ∧ context ∉ pool.closedContexts := by
        constructor
        · exact fun isMarked => (sound.marked context (Or.inl isMarked)).2.2 inPool
        · exact fun isMarked => (sound.marked context (Or.inr isMarked)).2.2 inPool
      have reusable : Pool.reusable
          { pool with
            probeCalls := pool.probeCalls.filter (· ≠ context)
            deferredProbeContexts := pool.deferredProbeContexts.erase context } context =
          true := by
        simp [Pool.reusable, Pool.healthy, isClosed, unmarked, inPool]
      dsimp only
      rw [if_pos reusable]
      have held : Sound
          { pool with
            probeCalls := pool.probeCalls.filter (· ≠ context)
            deferredProbeContexts := pool.deferredProbeContexts.erase context }
          (.holding context :: tasks) := by
        rw [deferred, List.erase_nil]
        refine { sound with
          owned := ?_, fresh := ?_, undeferred := fun _ => rfl, probed := ?_, borrowed := ?_ }
        · rw [← deferred]
          exact sound.owned
        · rw [← deferred]
          exact sound.fresh
        · intro other
          simpa only [tally_cons, Task.probes, List.count_nil, Nat.zero_add] using calls other
        · intro other isProbed
          simp only [tally_cons, Task.probes, List.count_nil, Nat.zero_add] at isProbed
          rw [← deferred]
          exact noneElse other isProbed
      exact held.release rfl ⟨rfl, rfl⟩ inPool isClosed
  case inl =>
      obtain ⟨empty, noQueue⟩ := sound.emptied isClosed
      have isDeferred : context ∈ pool.deferredProbeContexts := by
        rcases inPlace (by omega) with inPool | isDeferred
        · rw [empty] at inPool
          cases inPool
        · exact isDeferred
      have unusable : Pool.reusable
          { pool with
            probeCalls := pool.probeCalls.filter (· ≠ context)
            deferredProbeContexts := pool.deferredProbeContexts.erase context } context =
          false := by
        simp [Pool.reusable, isClosed]
      dsimp only
      rw [unusable, if_neg Bool.false_ne_true, if_pos isDeferred]
      have positive := List.count_pos_iff.mpr isDeferred
      refine { sound with
        owned := ?_, fresh := ?_, undeferred := ?_, probed := ?_, borrowed := ?_ }
      · intro other
        have := sound.owned other
        simp only [List.singleton_append, tally_cons, Task.closes, Task.builds, List.count_nil,
          List.count_singleton, List.count_erase, beq_iff_eq] at this ⊢
        by_cases same : context = other
        · subst same
          simp only [if_true] at this ⊢
          omega
        · simp only [if_neg same] at this ⊢
          omega
      · intro other isNew
        have := sound.fresh other isNew
        have different : context ≠ other := by
          rintro rfl
          omega
        simp only [List.singleton_append, tally_cons, Task.holds, Task.closes, Task.builds,
          List.count_nil, List.count_singleton, List.count_erase, beq_iff_eq,
          if_neg different] at this ⊢
        omega
      · intro isOpen
        rw [isClosed] at isOpen
        cases isOpen
      · intro other
        simpa only [List.singleton_append, tally_cons, Task.probes, List.count_nil,
          Nat.zero_add] using calls other
      · intro other isProbed
        simp only [List.singleton_append, tally_cons, Task.probes, List.count_nil,
          Nat.zero_add] at isProbed
        rcases noneElse other isProbed with inPool | deferred
        · exact Or.inl inPool
        · have different : other ≠ context := by
            rintro rfl
            omega
          exact Or.inr ((List.mem_erase_of_ne different).mpr deferred)

theorem Sound.close (sound : Sound pool (.closing :: tasks)) :
    Sound (close pool).1 ((close pool).2 ++ tasks) := by
  unfold SqlitePool.close
  split
  · exact sound.goOn (fun _ => Nat.le_refl _) (fun _ => Nat.le_refl _) rfl rfl
  · next isOpen =>
      rw [Bool.not_eq_true] at isOpen
      have deferred := sound.undeferred isOpen
      -- A borrowed context is in the pool, so it is either deferred or closed here.
      have split : ∀ context, (pool.contexts.filter (· ∉ pool.probeCalls)).count context +
          pool.probeCalls.count context ≤ pool.contexts.count context := by
        intro context
        have probed := sound.probed context
        have leased := sound.leased context
        have inPlace := sound.borrowed context
        have probesHold := tally_probes_le tasks context
        simp only [tally_cons, Task.holds, List.count_nil, Nat.zero_add] at leased
        simp only [tally_cons, Task.probes, List.count_nil, Nat.zero_add] at probed inPlace
        by_cases isProbed : context ∈ pool.probeCalls
        · have positive := List.count_pos_iff.mpr isProbed
          have inPool : context ∈ pool.contexts := by
            rcases inPlace (by omega) with inPool | isDeferred
            · exact inPool
            · rw [deferred] at isDeferred
              cases isDeferred
          have := List.count_pos_iff.mpr inPool
          have skipped : (pool.contexts.filter (· ∉ pool.probeCalls)).count context = 0 := by
            rw [List.count_eq_zero]
            simp [isProbed]
          omega
        · rw [List.count_eq_zero.mpr isProbed]
          exact List.filter_sublist.count_le context
      unfold Pool.mark Admission.close
      refine { sound with
        leased := ?_, owned := ?_, fresh := ?_, marked := ?_, queued := ?_, bounded := ?_,
        oneBuild := ?_, inFlight := ?_, refusing := ?_, admission := rfl, emptied := ?_,
        undeferred := ?_, probed := ?_, borrowed := ?_ }
      · intro context
        have := sound.leased context
        simp only [List.singleton_append, tally_cons, Task.holds, Task.builds,
          List.count_nil] at this ⊢
        omega
      · intro context
        have := sound.owned context
        have := split context
        simp only [List.singleton_append, tally_cons, Task.closes, Task.builds, List.count_nil,
          List.count_append, deferred] at *
        omega
      · intro context isNew
        have := sound.fresh context isNew
        have := split context
        simp only [List.singleton_append, tally_cons, Task.holds, Task.closes, Task.builds,
          List.count_nil, List.count_append, deferred] at *
        omega
      · intro context isMarked
        simp only [List.mem_append, List.singleton_append, tally_cons, Task.builds,
          List.count_nil, Nat.zero_add, List.not_mem_nil, not_false_eq_true, and_true] at isMarked ⊢
        by_cases inPool : context ∈ pool.contexts
        · have positive := List.count_pos_iff.mpr inPool
          have owned := sound.owned context
          simp only [tally_cons, Task.builds, List.count_nil] at owned
          refine ⟨by_contra fun isNew => ?_, by omega⟩
          have := sound.fresh context (Nat.le_of_not_lt isNew)
          omega
        · have := sound.marked context (by tauto)
          simp only [tally_cons, Task.builds, List.count_nil, Nat.zero_add] at this
          exact ⟨this.1, this.2.1⟩
      · exact nofun
      · exact Nat.zero_le _
      · exact sound.oneBuild
      · intro inFlight
        exact Nat.lt_of_le_of_lt (Nat.zero_le _) (sound.inFlight inFlight)
      · exact nofun
      · exact fun _ => ⟨rfl, rfl⟩
      · exact nofun
      · exact sound.probed
      · intro context isProbed
        right
        have := sound.probed context
        simp only [List.singleton_append, tally_cons, Task.probes, List.count_nil,
          Nat.zero_add] at this isProbed
        rw [← this] at isProbed
        exact List.mem_append_right _ (List.count_pos_iff.mp isProbed)

theorem Sound.of_some
    {outcome : Pool × List Task}
    {after : Pool}
    (steps : some outcome = some (after, rest))
    (sound : Sound outcome.1 (outcome.2 ++ tasks)) :
    Sound after (rest ++ tasks) := by
  obtain rfl := Option.some.inj steps
  exact sound

/-- Closing a context, or failing to, keeps the pool sound if what follows either way holds
no more than before. -/
theorem Sound.closeContext
    {context : Nat}
    {raises : Bool}
    {returned raised : List Task}
    (sound : Sound pool (task :: tasks))
    (closes : task.closes = context :: returned.flatMap Task.closes)
    (forgets : raised.flatMap Task.closes = [])
    (holds : ∀ rest ∈ [returned, raised], ∀ other,
      tally Task.holds rest other ≤ task.holds.count other)
    (builds : ∀ rest ∈ [returned, raised], rest.flatMap Task.builds = task.builds)
    (probes : ∀ rest ∈ [returned, raised], rest.flatMap Task.probes = task.probes) :
    Sound (closeContext pool context raises returned raised).1
      ((closeContext pool context raises returned raised).2 ++ tasks) := by
  have isRaised : raised ∈ [returned, raised] := List.mem_cons_of_mem _ List.mem_cons_self
  unfold SqlitePool.closeContext
  split
  · refine sound.goOn (holds raised isRaised) (fun other => ?_) (builds raised isRaised)
      (probes raised isRaised)
    rw [tally, forgets]
    exact Nat.zero_le _
  · exact sound.closeConnection (holds returned List.mem_cons_self) closes
      (builds returned List.mem_cons_self) (probes returned List.mem_cons_self)

/-- Every step of every task keeps the pool sound. -/
theorem Sound.step
    {choice : Choice}
    {after : Pool}
    (steps : step choice pool task = some (after, rest))
    (sound : Sound pool (task :: tasks)) :
    Sound after (rest ++ tasks) := by
  cases task with
  | replenish next => exact .of_some steps sound.beginReplenish
  | building generation next =>
      simp only [SqlitePool.step] at steps
      split at steps
      · exact .of_some steps sound.failBuild
      · exact .of_some steps sound.finishBuild
  | discarding generation next =>
      refine .of_some steps (sound.closeContext ?_ ?_ ?_ ?_ ?_)
      all_goals cases next <;>
        simp [Next.returned, Next.raised, Task.holds, Next.holds, Task.closes, Task.builds,
          Task.probes]
  | acquire =>
      refine .of_some steps (Sound.waiters (sound.goOn ?_ ?_ rfl rfl) _ _)
      all_goals exact fun _ => Nat.le_refl _
  | waiting waiter epoch => exact sound.acquire steps
  | holding context =>
      simp only [SqlitePool.step] at steps
      split at steps
      · refine .of_some steps ?_
        unfold quarantineCurrentContext
        split
        · exact sound
        · next current =>
            simp only [Bool.or_eq_true, decide_eq_true_eq, not_or, not_not] at current
            exact sound.drop ⟨rfl, rfl⟩ ⟨rfl, rfl, rfl, rfl⟩ rfl current.2
      · refine .of_some steps (sound.goOn ?_ ?_ rfl rfl)
        all_goals simp [Task.holds, Task.closes]
      · refine .of_some steps (sound.goOn ?_ ?_ rfl rfl)
        all_goals simp [Task.holds, Task.closes]
      · cases steps
  | quarantining context =>
      refine .of_some steps (sound.closeContext ?_ ?_ ?_ ?_ ?_)
      all_goals simp [Task.holds, Next.holds, Task.closes, Task.builds, Task.probes]
  | reclaiming context =>
      refine .of_some steps ?_
      unfold reclaim
      split
      · next reusable =>
          simp only [Pool.reusable, Bool.and_eq_true, Bool.not_eq_true', decide_eq_true_eq]
            at reusable
          exact sound.release rfl ⟨rfl, rfl⟩ reusable.2 reusable.1.1.1
      · exact sound.goOn (fun _ => Nat.zero_le _) (fun _ => Nat.zero_le _) rfl rfl
  | retiring context =>
      refine .of_some steps ?_
      unfold retire
      split
      · exact sound.goOn (fun _ => Nat.zero_le _) (fun _ => Nat.zero_le _) rfl rfl
      · next inPool =>
          simp only [Bool.or_eq_true, decide_eq_true_eq, not_or, not_not] at inPool
          exact sound.drop ⟨rfl, rfl⟩ ⟨rfl, rfl, rfl, rfl⟩ rfl inPool.2
  | closingRetired context =>
      refine .of_some steps (sound.closeContext ?_ ?_ ?_ ?_ ?_)
      all_goals simp [Task.holds, Next.holds, Task.closes, Task.builds, Task.probes]
  | probing => exact .of_some steps sound.isReady
  | probe context => exact .of_some steps sound.releaseProbeContext
  | closingProbed context =>
      refine .of_some steps (sound.closeContext ?_ ?_ ?_ ?_ ?_)
      all_goals simp [Task.holds, Task.closes, Task.builds, Task.probes]
  | closing => exact .of_some steps sound.close
  | closingContexts contexts =>
      cases contexts with
      | nil =>
          refine .of_some steps (sound.goOn ?_ ?_ rfl rfl)
          all_goals exact fun _ => Nat.le_refl _
      | cons context contexts =>
          refine .of_some steps (sound.closeContext ?_ ?_ ?_ ?_ ?_)
          all_goals simp [Task.holds, Task.closes, Task.builds, Task.probes]

theorem Sound.start
    (isStart : task.starts = true)
    (sound : Sound pool tasks) :
    Sound pool (task :: tasks) := by
  have nothing : task.holds = [] ∧ task.closes = [] ∧ task.builds = [] ∧ task.probes = [] := by
    cases task with
    | replenish next =>
        cases next with
        | scope context => cases isStart
        | _ => exact ⟨rfl, rfl, rfl, rfl⟩
    | probing | closing => exact ⟨rfl, rfl, rfl, rfl⟩
    | _ => cases isStart
  obtain ⟨holds, closes, builds, probes⟩ := nothing
  have same : ∀ {inHand : Task → List Nat}, inHand task = [] →
      ∀ context, tally inHand (task :: tasks) context = tally inHand tasks context := by
    intro inHand nothing context
    rw [tally_cons, nothing, List.count_nil, Nat.zero_add]
  refine { sound with
    leased := ?_, owned := ?_, fresh := ?_, marked := ?_, oneBuild := ?_, probed := ?_,
    borrowed := ?_ }
  · simpa only [same holds, same builds] using sound.leased
  · simpa only [same closes, same builds] using sound.owned
  · simpa only [same holds, same closes, same builds] using sound.fresh
  · simpa only [same builds] using sound.marked
  · rw [List.flatMap_cons, builds]
    exact sound.oneBuild
  · simpa only [same probes] using sound.probed
  · simpa only [same probes] using sound.borrowed

end Steps

/-! ## Every interleaving -/

/-- What no interleaving may break. -/
structure Safe (pool : Pool) (tasks : List Task) : Prop where
  oneHolder : (tasks.flatMap Task.holds).Nodup
  distinct : pool.admission.available.Nodup
  reusable : ∀ context ∈ pool.admission.available, context ∈ pool.contexts ∧
    pool.healthy context = true ∧ context ∉ pool.closedContexts
  bounded : pool.contexts.length ≤ pool.targetSize
  reopens : pool.admission.accepting = false → pool.closed = false →
    pool.contexts.length < pool.targetSize
  closedOnce : pool.closedConnections.Nodup
  probesUndisturbed : ∀ context ∈ tasks.flatMap Task.probes, context ∉ pool.closedConnections

theorem Sound.safe {pool : Pool} {tasks : List Task} (sound : Sound pool tasks) :
    Safe pool tasks where
  oneHolder := by
    rw [List.nodup_iff_count_le_one]
    intro context
    have := sound.leased context
    unfold tally at this
    omega
  distinct := by
    rw [List.nodup_iff_count_le_one]
    intro context
    have := sound.leased context
    omega
  reusable := by
    intro context present
    have inPool := sound.queued context present
    have unhealthy : context ∉ pool.unhealthy := fun isMarked =>
      (sound.marked context (Or.inl isMarked)).2.2 inPool
    exact ⟨inPool, decide_eq_true unhealthy, fun isMarked =>
      (sound.marked context (Or.inr isMarked)).2.2 inPool⟩
  bounded := sound.bounded
  reopens := sound.refusing
  closedOnce := by
    rw [List.nodup_iff_count_le_one]
    intro context
    have := sound.owned context
    omega
  probesUndisturbed := by
    intro context isProbed isClosed
    have owned := sound.owned context
    have closed := List.count_pos_iff.mpr isClosed
    rcases sound.borrowed context (List.count_pos_iff.mpr isProbed) with inPool | deferred
    · have := List.count_pos_iff.mpr inPool
      omega
    · have := List.count_pos_iff.mpr deferred
      omega

/-- Requests, replenishments, probes and shutdowns, interleaved in any way, with every
build and every close free to fail: the pool is safe in every state they reach. -/
theorem pool_is_safe
    (size : Nat)
    (events : List (TaskEvent Task Choice))
    (started : ∀ task, .start task ∈ events → task.starts = true) :
    let reached := interleaving.run ⟨Pool.initial size, []⟩ events
    Safe reached.shared reached.tasks := by
  refine Sound.safe (interleaving.invariant_run ?_ ?_ ?_ (sound_initial size) started)
  · exact Sound.perm
  · exact fun _ isStart => Sound.start isStart
  · exact Sound.step

/-- The shutdown while a request and a probe hold a context each: the connection of the
probe is closed by the probe, after the other one. -/
theorem probe_outlives_shutdown :
    let reached := interleaving.run ⟨Pool.initial 2, []⟩
      [.start (.replenish .acquire), .advance 0 .goes, .advance 0 .goes, .advance 0 .goes,
        .start .probing, .advance 0 .goes, .start .closing, .advance 0 .goes, .advance 0 .goes,
        .advance 1 .goes, .advance 0 .goes]
    reached.shared.closedConnections = [1, 2] ∧ Safe reached.shared reached.tasks :=
  ⟨by decide, pool_is_safe 2 _ (by simp [Task.starts])⟩

end SqlitePool
end Vinctor
