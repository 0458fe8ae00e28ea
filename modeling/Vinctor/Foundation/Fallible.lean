import Mathlib.Data.List.Basic

/-!
# Computations that may raise

Checks and lookups of computations in `Except`, and the lemmas that take a
successful computation apart: each of its steps succeeded.
-/

namespace Foundation
namespace Fallible

variable {δ ε : Type u} {α β : Type v}

/-- Raise unless a condition holds. -/
def ensure (condition : Prop) [Decidable condition] (error : ε) : Except ε Unit :=
  if condition then .ok () else .error error

/-- Raise where there is no value. -/
def require (value : Option α) (error : ε) : Except ε α :=
  match value with
  | some value => .ok value
  | none => .error error

/-- Raise one error in place of every other. -/
def relabel (error : ε) : Except δ α → Except ε α
  | .ok value => .ok value
  | .error _ => .error error

theorem relabel_eq_ok {error : ε} {computation : Except δ α} {result : α} :
    relabel error computation = .ok result ↔ computation = .ok result := by
  cases computation with
  | error error => simp [relabel]
  | ok value => simp [relabel]

theorem mapError_eq_ok {change : δ → ε} {computation : Except δ α} {result : α} :
    computation.mapError change = .ok result ↔ computation = .ok result := by
  cases computation with
  | error error => simp [Except.mapError]
  | ok value => simp [Except.mapError]

theorem map_eq_ok {change : α → β} {computation : Except ε α} {result : β} :
    computation.map change = .ok result ↔
      ∃ value, computation = .ok value ∧ change value = result := by
  cases computation with
  | error error => simp [Except.map]
  | ok value => simp [Except.map]

theorem ok_bind (value : α) (continuation : α → Except ε β) :
    (Except.ok value >>= continuation) = continuation value := rfl

theorem bind_eq_ok {computation : Except ε α} {continuation : α → Except ε β} {result : β} :
    computation >>= continuation = .ok result ↔
      ∃ value, computation = .ok value ∧ continuation value = .ok result := by
  cases computation with
  | error error => simp [bind, Except.bind]
  | ok value => simp [bind, Except.bind]

/-- A computation raises at its first step or after it. -/
theorem bind_eq_error {computation : Except ε α} {continuation : α → Except ε β} {error : ε} :
    computation >>= continuation = .error error ↔
      computation = .error error ∨
        ∃ value, computation = .ok value ∧ continuation value = .error error := by
  cases computation with
  | error error => simp [bind, Except.bind]
  | ok value => simp [bind, Except.bind]

theorem pure_eq_ok {value result : α} :
    (pure value : Except ε α) = .ok result ↔ value = result := by
  simp [pure, Except.pure]

theorem ensure_eq_ok {condition : Prop} [Decidable condition] {error : ε} {result : Unit} :
    ensure condition error = .ok result ↔ condition := by
  unfold ensure
  split <;> simp_all

theorem require_eq_ok {value : Option α} {error : ε} {result : α} :
    require value error = .ok result ↔ value = some result := by
  unfold require
  split <;> simp_all

/-! ## One kind of failure -/

/-- Where the computation fails, it fails with this error. -/
def FailsOnlyWith (error : ε) (computation : Except ε α) : Prop :=
  ∀ actual, computation = .error actual → actual = error

theorem failsOnlyWith_pure {error : ε} {value : α} :
    FailsOnlyWith error (pure value) := by
  intro actual failed
  cases failed

theorem failsOnlyWith_error {error : ε} : FailsOnlyWith error (.error error : Except ε α) := by
  intro actual failed
  exact (Except.error.inj failed).symm

theorem failsOnlyWith_ensure {condition : Prop} [Decidable condition] {error : ε} :
    FailsOnlyWith error (ensure condition error) := by
  unfold ensure
  split
  · exact failsOnlyWith_pure
  · exact failsOnlyWith_error

theorem failsOnlyWith_require {value : Option α} {error : ε} :
    FailsOnlyWith error (require value error) := by
  cases value with
  | none => exact failsOnlyWith_error
  | some present => exact failsOnlyWith_pure

theorem FailsOnlyWith.bind
    {error : ε}
    {computation : Except ε α}
    {continuation : α → Except ε β}
    (first : FailsOnlyWith error computation)
    (second : ∀ value, FailsOnlyWith error (continuation value)) :
    FailsOnlyWith error (computation >>= continuation) := by
  intro actual failed
  rcases bind_eq_error.mp failed with early | ⟨value, _, late⟩
  · exact first actual early
  · exact second value actual late

/-! ## Loops -/

/-- A loop of checks succeeds where each of them does. -/
theorem forM_eq_ok
    {list : List α}
    {compute : α → Except ε PUnit}
    (succeeds : ∀ element ∈ list, compute element = .ok ⟨⟩) :
    list.forM compute = .ok ⟨⟩ := by
  induction list with
  | nil => rfl
  | cons element rest inductionHypothesis =>
      change (compute element >>= fun _ => rest.forM compute) = _
      rw [succeeds element List.mem_cons_self]
      exact inductionHypothesis fun other present =>
        succeeds other (List.mem_cons_of_mem element present)

/-- A computation that is seen to succeed has a result. -/
theorem exists_eq_ok_of_isOk {computation : Except ε α} (succeeds : computation.isOk = true) :
    ∃ value, computation = .ok value := by
  cases computation with
  | error error => cases succeeds
  | ok value => exact ⟨value, rfl⟩

/-- A traversal succeeds where every element has its result. -/
theorem mapM_eq_ok
    {list : List α}
    {compute : α → Except ε β}
    {result : α → β}
    (succeeds : ∀ element ∈ list, compute element = .ok (result element)) :
    list.mapM compute = .ok (list.map result) := by
  induction list with
  | nil => rfl
  | cons element rest inductionHypothesis =>
      have later := inductionHypothesis fun other present =>
        succeeds other (List.mem_cons_of_mem element present)
      rw [List.mapM_cons, succeeds element List.mem_cons_self, later]
      rfl

/-- Every result of a successful traversal comes from an element. -/
theorem exists_of_mem_mapM
    {list : List α}
    {compute : α → Except ε β}
    {results : List β}
    (succeeds : list.mapM compute = .ok results)
    {result : β}
    (present : result ∈ results) :
    ∃ element ∈ list, compute element = .ok result := by
  induction list generalizing results with
  | nil =>
      rw [List.mapM_nil, pure_eq_ok] at succeeds
      subst succeeds
      cases present
  | cons element rest inductionHypothesis =>
      rw [List.mapM_cons] at succeeds
      simp only [bind_eq_ok, pure_eq_ok] at succeeds
      obtain ⟨head, headSucceeds, tail, tailSucceeds, rfl⟩ := succeeds
      rcases List.mem_cons.mp present with rfl | inTail
      · exact ⟨element, List.mem_cons_self, headSucceeds⟩
      · obtain ⟨other, otherPresent, otherSucceeds⟩ :=
          inductionHypothesis tailSucceeds inTail
        exact ⟨other, List.mem_cons_of_mem element otherPresent, otherSucceeds⟩

/-- A reflexive and transitive relation that every successful step satisfies
holds between the ends of a successful fold. -/
theorem foldlM_relates
    {σ : Type v}
    {list : List α}
    {advance : σ → α → Except ε σ}
    (relation : σ → σ → Prop)
    (reflexive : ∀ state, relation state state)
    (transitive : ∀ {first second third},
      relation first second → relation second third → relation first third)
    (steps : ∀ element ∈ list, ∀ before after,
      advance before element = .ok after → relation before after)
    {before after : σ}
    (succeeds : list.foldlM advance before = .ok after) :
    relation before after := by
  induction list generalizing before with
  | nil =>
      rw [List.foldlM_nil, pure_eq_ok] at succeeds
      subst succeeds
      exact reflexive before
  | cons element rest inductionHypothesis =>
      rw [List.foldlM_cons, bind_eq_ok] at succeeds
      obtain ⟨between, headSucceeds, tailSucceeds⟩ := succeeds
      have head := steps element List.mem_cons_self before between headSucceeds
      have tail := inductionHypothesis
        (fun other present => steps other (List.mem_cons_of_mem element present)) tailSucceeds
      exact transitive head tail

/-- A fold succeeds where every step does, and establishes what each step
establishes of the elements so far. -/
theorem foldlM_establishes
    {σ : Type v}
    {list : List α}
    {advance : σ → α → Except ε σ}
    (invariant : List α → σ → Prop)
    (steps : ∀ done element rest before, list = done ++ element :: rest →
      invariant done before →
      ∃ after, advance before element = .ok after ∧ invariant (done ++ [element]) after)
    {start : σ}
    (starts : invariant [] start) :
    ∃ final, list.foldlM advance start = .ok final ∧ invariant list final := by
  have later : ∀ rest done before, list = done ++ rest → invariant done before →
      ∃ final, rest.foldlM advance before = .ok final ∧ invariant list final := by
    intro rest
    induction rest with
    | nil =>
        intro done before isList holds
        rw [List.append_nil] at isList
        exact ⟨before, rfl, isList ▸ holds⟩
    | cons element rest inductionHypothesis =>
        intro done before isList holds
        obtain ⟨between, advances, held⟩ := steps done element rest before isList holds
        obtain ⟨final, folds, established⟩ := inductionHypothesis (done ++ [element]) between
          (by rw [isList, List.append_assoc, List.singleton_append]) held
        refine ⟨final, ?_, established⟩
        rw [List.foldlM_cons, advances]
        exact folds
  exact later list [] start rfl starts

/-- A traversal that continues on every result is a second traversal. -/
theorem mapM_bind
    {γ : Type v}
    {list : List α}
    {compute : α → Except ε β}
    {continuation : β → Except ε γ}
    {results : List β}
    (succeeds : list.mapM compute = .ok results) :
    list.mapM (fun element => compute element >>= continuation) =
      results.mapM continuation := by
  induction list generalizing results with
  | nil =>
      rw [List.mapM_nil, pure_eq_ok] at succeeds
      rw [← succeeds]
      rfl
  | cons element rest inductionHypothesis =>
      rw [List.mapM_cons] at succeeds
      simp only [bind_eq_ok, pure_eq_ok] at succeeds
      obtain ⟨head, headSucceeds, tail, tailSucceeds, rfl⟩ := succeeds
      rw [List.mapM_cons, List.mapM_cons, headSucceeds, inductionHypothesis tailSucceeds]
      rfl

/-- A loop of checks succeeds exactly where each of them does. -/
theorem forM_eq_ok_iff
    {list : List α}
    {compute : α → Except ε PUnit}
    {checked : PUnit} :
    list.forM compute = .ok checked ↔ ∀ element ∈ list, compute element = .ok ⟨⟩ := by
  refine ⟨?_, forM_eq_ok⟩
  induction list with
  | nil => exact fun _ element present => absurd present List.not_mem_nil
  | cons first rest inductionHypothesis =>
      intro succeeds element present
      change (compute first >>= fun _ => rest.forM compute) = _ at succeeds
      obtain ⟨checked, firstSucceeds, restSucceeds⟩ := bind_eq_ok.mp succeeds
      rcases List.mem_cons.mp present with rfl | inRest
      · exact firstSucceeds
      · exact inductionHypothesis restSucceeds element inRest

/-- A traversal of checks keeps the list. -/
theorem mapM_check
    {list results : List α}
    {check : α → Except ε PUnit} :
    list.mapM (fun element => do check element; return element) = .ok results ↔
      (∀ element ∈ list, check element = .ok ⟨⟩) ∧ results = list := by
  induction list generalizing results with
  | nil =>
      rw [List.mapM_nil, pure_eq_ok]
      simp [eq_comm]
  | cons element rest inductionHypothesis =>
      rw [List.mapM_cons, List.forall_mem_cons]
      simp only [bind_eq_ok, pure_eq_ok, inductionHypothesis]
      constructor
      · rintro ⟨head, ⟨checked, checks, rfl⟩, tail, ⟨restChecks, rfl⟩, rfl⟩
        exact ⟨⟨checks, restChecks⟩, rfl⟩
      · rintro ⟨⟨checks, restChecks⟩, rfl⟩
        exact ⟨element, ⟨⟨⟩, checks, rfl⟩, rest, ⟨restChecks, rfl⟩, rfl⟩

/-- Changing the errors of a traversal step by step or at its end. -/
theorem mapM_mapError
    {list : List α}
    {compute : α → Except δ β}
    {change : δ → ε}
    {results : List β} :
    list.mapM (fun element => (compute element).mapError change) = .ok results ↔
      list.mapM compute = .ok results := by
  induction list generalizing results with
  | nil => rw [List.mapM_nil, List.mapM_nil, pure_eq_ok, pure_eq_ok]
  | cons element rest inductionHypothesis =>
      rw [List.mapM_cons, List.mapM_cons]
      simp only [bind_eq_ok, pure_eq_ok, mapError_eq_ok, inductionHypothesis]

end Fallible
end Foundation
