import Mathlib.Data.List.Basic

/-!
# Machines that answer operations

A machine answers an operation and moves to a next state.  A run is recorded as
the list of its executed operations, each with the state before it and its
reply; a history invariant relates such a record to the state reached.
-/

namespace Foundation

/-- Answer and next state of every operation in every state. -/
structure Machine (σ : Type u) (ω : Type v) (ρ : Type w) where
  step : ω → σ → ρ × σ

/-- One executed operation. -/
structure Executed (σ : Type u) (ω : Type v) (ρ : Type w) where
  before : σ
  operation : ω
  reply : ρ

namespace Machine

variable {σ : Type u} {ω : Type v} {ρ : Type w} (machine : Machine σ ω ρ)

/-- The record of one operation executed in a state. -/
def execute (operation : ω) (state : σ) : Executed σ ω ρ where
  before := state
  operation := operation
  reply := (machine.step operation state).1

/-- The record of a run. -/
def executions (state : σ) : List ω → List (Executed σ ω ρ)
  | [] => []
  | operation :: rest =>
      machine.execute operation state ::
        executions (machine.step operation state).2 rest

/-- The state after a run. -/
def final (state : σ) : List ω → σ
  | [] => state
  | operation :: rest => final (machine.step operation state).2 rest

/-- The record of a run lists its operations. -/
theorem map_operation_executions (state : σ) (operations : List ω) :
    (machine.executions state operations).map Executed.operation = operations := by
  induction operations generalizing state with
  | nil => rfl
  | cons operation rest inductionHypothesis =>
      rw [executions, List.map_cons, inductionHypothesis]
      rfl

/-- The record of a step is that of its operation in the state before it. -/
theorem eq_execute_of_mem_executions
    {state : σ}
    {operations : List ω}
    {executed : Executed σ ω ρ}
    (present : executed ∈ machine.executions state operations) :
    executed = machine.execute executed.operation executed.before := by
  induction operations generalizing state with
  | nil => cases present
  | cons operation rest inductionHypothesis =>
      rw [executions] at present
      rcases List.mem_cons.mp present with rfl | inRest
      · rfl
      · exact inductionHypothesis inRest

/-- An invariant of the states holds before every step of a run. -/
theorem invariant_before
    {invariant : σ → Prop}
    (preserved : ∀ state operation, invariant state →
      invariant (machine.step operation state).2)
    {state : σ}
    (holds : invariant state)
    {operations : List ω}
    {executed : Executed σ ω ρ}
    (present : executed ∈ machine.executions state operations) :
    invariant executed.before := by
  induction operations generalizing state with
  | nil => cases present
  | cons operation rest inductionHypothesis =>
      rw [executions] at present
      rcases List.mem_cons.mp present with rfl | inRest
      · exact holds
      · exact inductionHypothesis (preserved state operation holds) inRest

/-- The record of a run from one of its steps on is that of a run from there. -/
theorem exists_executions_of_append
    {state : σ}
    {operations : List ω}
    {earlier later : List (Executed σ ω ρ)}
    {executed : Executed σ ω ρ}
    (position : machine.executions state operations = earlier ++ executed :: later) :
    ∃ rest, executed :: later = machine.executions executed.before rest := by
  induction earlier generalizing state operations with
  | nil =>
      cases operations with
      | nil => cases position
      | cons operation rest =>
          rw [executions, List.nil_append, List.cons.injEq] at position
          obtain ⟨rfl, rfl⟩ := position
          exact ⟨operation :: rest, rfl⟩
  | cons first earlier inductionHypothesis =>
      cases operations with
      | nil => cases position
      | cons operation rest =>
          rw [executions, List.cons_append, List.cons.injEq] at position
          exact inductionHypothesis position.2

/-- A history invariant that every operation preserves relates the record of a
run to the state after it. -/
theorem final_invariant
    {invariant : List (Executed σ ω ρ) → σ → Prop}
    (preserved : ∀ history state operation, invariant history state →
      invariant (history ++ [machine.execute operation state])
        (machine.step operation state).2)
    {state : σ}
    {history : List (Executed σ ω ρ)}
    (holds : invariant history state)
    (operations : List ω) :
    invariant (history ++ machine.executions state operations)
      (machine.final state operations) := by
  induction operations generalizing state history with
  | nil =>
      rw [executions, final, List.append_nil]
      exact holds
  | cons operation rest inductionHypothesis =>
      have next := inductionHypothesis (preserved history state operation holds)
      rw [List.append_assoc, List.singleton_append] at next
      exact next

/-- A history invariant that every operation preserves holds at every position
of a run, for the history before it. -/
theorem executions_invariant
    {invariant : List (Executed σ ω ρ) → σ → Prop}
    (preserved : ∀ history state operation, invariant history state →
      invariant (history ++ [machine.execute operation state])
        (machine.step operation state).2)
    {state : σ}
    {history : List (Executed σ ω ρ)}
    (holds : invariant history state)
    {operations : List ω}
    {earlier later : List (Executed σ ω ρ)}
    {executed : Executed σ ω ρ}
    (position : machine.executions state operations = earlier ++ executed :: later) :
    invariant (history ++ earlier) executed.before ∧
      executed = machine.execute executed.operation executed.before := by
  induction operations generalizing state history earlier with
  | nil => simp [executions] at position
  | cons operation rest inductionHypothesis =>
      rw [executions] at position
      cases earlier with
      | nil =>
          rw [List.nil_append, List.cons.injEq] at position
          rw [← position.1, List.append_nil]
          exact ⟨holds, rfl⟩
      | cons first earlier =>
          rw [List.cons_append, List.cons.injEq] at position
          have next := inductionHypothesis (preserved history state operation holds) position.2
          rw [position.1, List.append_assoc, List.singleton_append] at next
          exact next

end Machine
end Foundation
