import Mathlib.Data.List.Forall2
import Vinctor.Foundation.Fallible

/-!
# Serial executions

Calls that are executed one after the other, each on the state that the previous
one left.  A concurrent execution is serializable when the calls that succeeded
have an order in which executing them serially gives the same outcomes and the
same state.
-/

namespace Foundation
namespace Serial

open Fallible

variable {ι κ ω ε σ : Type}

/-- Execute calls in order; the first that raises ends the execution. -/
def executeAll (execute : κ → σ → Except ε (ω × σ)) : List κ → σ → Except ε (List ω × σ)
  | [], state => .ok ([], state)
  | call :: rest, state => do
      let (outcome, next) ← execute call state
      let (outcomes, final) ← executeAll execute rest next
      return (outcome :: outcomes, final)

theorem executeAll_append_singleton
    {execute : κ → σ → Except ε (ω × σ)}
    {calls : List κ}
    {call : κ}
    {initial state final : σ}
    {outcomes : List ω}
    {outcome : ω}
    (executes : executeAll execute calls initial = .ok (outcomes, state))
    (last : execute call state = .ok (outcome, final)) :
    executeAll execute (calls ++ [call]) initial = .ok (outcomes ++ [outcome], final) := by
  induction calls generalizing initial outcomes with
  | nil =>
      rw [executeAll, Except.ok.injEq, Prod.mk.injEq] at executes
      obtain ⟨rfl, rfl⟩ := executes
      simp only [List.nil_append, executeAll, last]
      rfl
  | cons first rest inductionHypothesis =>
      simp only [executeAll, bind_eq_ok, pure_eq_ok, Prod.exists, Prod.mk.injEq] at executes
      obtain ⟨firstOutcome, next, firstExecutes, restOutcomes, reached, restExecutes, rfl, rfl⟩ :=
        executes
      have together := inductionHypothesis restExecutes
      simp only [List.cons_append, executeAll, firstExecutes]
      exact congrArg (· >>= fun result => pure (firstOutcome :: result.1, result.2)) together

/-- The calls that succeeded, by identifier, have an order in which a serial
execution gives their outcomes and the state reached. -/
def Serializable
    (execute : κ → σ → Except ε (ω × σ))
    (calls : ι → κ)
    (outcomeOf : ι → Option ω)
    (initial final : σ) : Prop :=
  ∃ order : List ι, order.Nodup ∧ (∀ identifier, identifier ∈ order ↔
      (outcomeOf identifier).isSome) ∧
    ∃ outcomes, executeAll execute (order.map calls) initial = .ok (outcomes, final) ∧
      order.map outcomeOf = outcomes.map some

section Serializable

variable {execute : κ → σ → Except ε (ω × σ)} {calls : ι → κ} {initial state : σ}

theorem serializable_initial : Serializable execute calls (fun _ : ι => none) initial initial :=
  ⟨[], List.nodup_nil, by simp, [], rfl, rfl⟩

/-- A call that succeeds on the state reached is executed last. -/
theorem Serializable.snoc
    [DecidableEq ι]
    {outcomeOf outcomeOf' : ι → Option ω}
    (serializable : Serializable execute calls outcomeOf initial state)
    {identifier : ι}
    {outcome : ω}
    {final : σ}
    (unfinished : outcomeOf identifier = none)
    (finished : outcomeOf' = Function.update outcomeOf identifier (some outcome))
    (executes : execute (calls identifier) state = .ok (outcome, final)) :
    Serializable execute calls outcomeOf' initial final := by
  obtain ⟨order, distinct, members, outcomes, reached, agree⟩ := serializable
  have fresh : identifier ∉ order := by
    rw [members, unfinished]
    exact Bool.false_ne_true
  subst finished
  refine ⟨order ++ [identifier], ?_, ?_, outcomes ++ [outcome], ?_, ?_⟩
  · rw [List.nodup_append]
    refine ⟨distinct, by simp, ?_⟩
    intro other present last isLast same
    rw [List.mem_singleton] at isLast
    subst same isLast
    exact fresh present
  · intro other
    rw [List.mem_append, List.mem_singleton, members]
    by_cases same : other = identifier
    · subst same
      simp
    · simp [same]
  · rw [List.map_append]
    exact executeAll_append_singleton reached executes
  · rw [List.map_append, List.map_append, ← agree]
    congr 1
    · apply List.map_congr_left
      intro other present
      have different : other ≠ identifier := by
        rintro rfl
        exact fresh present
      exact Function.update_of_ne different _ _
    · simp

end Serializable

end Serial
end Foundation
