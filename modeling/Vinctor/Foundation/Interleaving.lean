import Mathlib.Data.List.Perm.Basic

/-!
# Interleaved tasks

Tasks work on shared state, one step at a time and in any order.  A step replaces its
task by what is left of it.  An event starts a task or lets one take a step; a choice
stands for what the task does not decide itself.

Tasks have no order among each other, so an invariant is stated up to permutation and
the task that takes the step may be taken to be the first.
-/

namespace Foundation

/-- What each task does next: the shared state after it and what is left of the task.
A task that has to wait has no step. -/
structure Interleaving (σ : Type u) (τ : Type v) (χ : Type w) where
  step : χ → σ → τ → Option (σ × List τ)

/-- Shared state and the tasks under way. -/
structure Tasks (σ : Type u) (τ : Type v) where
  shared : σ
  tasks : List τ

inductive TaskEvent (τ : Type v) (χ : Type w)
  | start (task : τ)
  | advance (index : Nat) (choice : χ)

namespace Interleaving

variable {σ : Type u} {τ : Type v} {χ : Type w} (system : Interleaving σ τ χ)

/-- One event.  A task that is not there or has to wait leaves everything. -/
def next (state : Tasks σ τ) : TaskEvent τ χ → Tasks σ τ
  | .start task => { state with tasks := task :: state.tasks }
  | .advance index choice =>
      match state.tasks[index]? with
      | none => state
      | some task =>
          match system.step choice state.shared task with
          | none => state
          | some (shared, rest) => ⟨shared, rest ++ state.tasks.eraseIdx index⟩

/-- The state after a run of events. -/
def run (state : Tasks σ τ) (events : List (TaskEvent τ χ)) : Tasks σ τ :=
  events.foldl system.next state

section Invariant

variable {invariant : σ → List τ → Prop}

/-- What every start and every step keeps holds after every run. -/
theorem invariant_run
    (permuted : ∀ {shared tasks others}, tasks.Perm others → invariant shared tasks →
      invariant shared others)
    {startable : τ → Prop}
    (started : ∀ {shared tasks} task, startable task → invariant shared tasks →
      invariant shared (task :: tasks))
    (advanced : ∀ {choice shared task after rest tasks},
      system.step choice shared task = some (after, rest) →
        invariant shared (task :: tasks) → invariant after (rest ++ tasks))
    {state : Tasks σ τ}
    (holds : invariant state.shared state.tasks)
    {events : List (TaskEvent τ χ)}
    (allowed : ∀ task, .start task ∈ events → startable task) :
    invariant (system.run state events).shared (system.run state events).tasks := by
  induction events generalizing state with
  | nil => exact holds
  | cons event events inductionHypothesis =>
      refine inductionHypothesis ?_ fun task present => allowed task (List.mem_cons_of_mem _ present)
      cases event with
      | start task => exact started task (allowed task List.mem_cons_self) holds
      | advance index choice =>
          unfold next
          dsimp only
          cases found : state.tasks[index]? with
          | none => exact holds
          | some task =>
              dsimp only
              cases taken : system.step choice state.shared task with
              | none => exact holds
              | some outcome =>
                  obtain ⟨inside, rfl⟩ := List.getElem?_eq_some_iff.mp found
                  have first := permuted (List.getElem_cons_eraseIdx_perm inside).symm holds
                  exact advanced taken first

end Invariant

end Interleaving

/-! ## What the tasks have in hand -/

section Tally

variable {τ : Type u} {κ : Type v} [DecidableEq κ]

/-- How often something is in the hands of the tasks. -/
def tally (inHand : τ → List κ) (tasks : List τ) (item : κ) : Nat :=
  (tasks.flatMap inHand).count item

@[simp] theorem tally_nil (inHand : τ → List κ) (item : κ) :
    tally inHand [] item = 0 := rfl

@[simp] theorem tally_cons
    (inHand : τ → List κ)
    (task : τ)
    (tasks : List τ)
    (item : κ) :
    tally inHand (task :: tasks) item = (inHand task).count item + tally inHand tasks item := by
  simp [tally]

@[simp] theorem tally_append
    (inHand : τ → List κ)
    (tasks others : List τ)
    (item : κ) :
    tally inHand (tasks ++ others) item =
      tally inHand tasks item + tally inHand others item := by
  simp [tally]

theorem tally_perm
    (inHand : τ → List κ)
    {tasks others : List τ}
    (permuted : tasks.Perm others)
    (item : κ) :
    tally inHand tasks item = tally inHand others item :=
  (permuted.flatMap_right inHand).count_eq item

theorem one_le_tally
    {inHand : τ → List κ}
    {task : τ}
    {tasks : List τ}
    (present : task ∈ tasks)
    {item : κ}
    (has : item ∈ inHand task) : 1 ≤ tally inHand tasks item :=
  List.count_pos_iff.mpr (List.mem_flatMap.mpr ⟨task, present, has⟩)

/-- Different tasks with the same thing in hand have it twice. -/
theorem two_le_tally
    {inHand : τ → List κ}
    {task other : τ}
    {tasks : List τ}
    (different : other ≠ task)
    (present : task ∈ tasks)
    (presentToo : other ∈ tasks)
    {item : κ}
    (has : item ∈ inHand task)
    (hasToo : item ∈ inHand other) : 2 ≤ tally inHand tasks item := by
  obtain ⟨before, after, rfl⟩ := List.append_of_mem present
  have elsewhere : other ∈ before ++ after := by
    simpa [different] using presentToo
  have first := List.count_pos_iff.mpr has
  have second := one_le_tally elsewhere hasToo
  rw [tally_append] at second
  rw [tally_append, tally_cons]
  omega

/-- Tasks that have more in hand, each of them, have more in hand together. -/
theorem tally_mono
    {fewer more : τ → List κ}
    (each : ∀ task item, (fewer task).count item ≤ (more task).count item)
    (tasks : List τ)
    (item : κ) :
    tally fewer tasks item ≤ tally more tasks item := by
  induction tasks with
  | nil => exact Nat.le_refl 0
  | cons task tasks inductionHypothesis =>
      rw [tally_cons, tally_cons]
      exact Nat.add_le_add (each task item) inductionHypothesis

end Tally

end Foundation
