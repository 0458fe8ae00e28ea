import Mathlib.Data.List.Induction
import Vinctor.Service.AuditChain
import Vinctor.Service.PolicyBackends

/-!
# Storage of the bounds

The bounds of an agent are its scopes and a cap on lifetimes.  An update that
declares no cap keeps the stored one: the databases do so inside one statement,
the repository in memory reads before it writes.  All three hold the same bounds
after the same calls, except that Postgres refuses a call with a NUL in one of its
texts.
-/

namespace Vinctor
namespace Policy

open Foundation
open Fallible

/-! ## Calls -/

/-- A call of `set_bounds`. -/
structure BoundsCall where
  input : Grants.SetBoundsInput
  now : Instant
  enforcingPrincipal : Option String := none
  deriving DecidableEq, Repr

def BoundsCall.key (call : BoundsCall) : String × String :=
  (call.input.workspaceId, call.input.agentId)

abbrev BoundsTable (τ : Type) := Dict (String × String) (BoundsRow τ)

/-- `COALESCE` of two nullable values. -/
def coalesce (first second : Option α) : Option α :=
  match first with
  | some value => some value
  | none => second

theorem coalesce_eq_or (first second : Option α) : coalesce first second = first.or second := by
  cases first <;> rfl

/-- `INSERT … ON CONFLICT (workspace_id, agent_id) DO UPDATE` of the bounds. -/
def upsertBounds
    (key : String × String)
    (scopes : List String)
    (maxTtlSeconds : Option Int)
    (clearMaxTtl : Bool)
    (now : τ)
    (table : BoundsTable τ) : BoundsTable τ :=
  match table.get? key with
  | none => table.set key { scopes, maxTtlSeconds, updatedAt := now }
  | some stored =>
      table.set key
        { scopes
          maxTtlSeconds :=
            if clearMaxTtl then none else coalesce maxTtlSeconds stored.maxTtlSeconds
          updatedAt := now }

/-- Whether the columns admit the row and its control event.  The texts of the
event are those of the row and the enforcing principal. -/
def BoundsCall.Admitted (backend : Backend τ) (call : BoundsCall) : Prop :=
  (backend.admitsText call.input.workspaceId ∧ backend.admitsText call.input.agentId ∧
      call.input.scopes.all backend.admitsText ∧
      call.input.maxTtlSeconds.all fun cap => backend.admitsInteger (.int cap)) ∧
    call.enforcingPrincipal.all backend.admitsText

instance (backend : Backend τ) (call : BoundsCall) : Decidable (call.Admitted backend) :=
  inferInstanceAs (Decidable (_ ∧ _))

/-- `set_bounds` of a database: the row and its event commit as one unit. -/
def BoundsCall.write
    (backend : Backend τ)
    (stamp : Instant → τ)
    (call : BoundsCall)
    (table : BoundsTable τ) : Except PolicyError (BoundsTable τ) := do
  (Grants.validateIssuableScopeBounds call.input.scopes call.input.maxTtlSeconds).mapError .value
  (Grants.validateClearMaxTtl call.input.maxTtlSeconds call.input.clearMaxTtl).mapError .value
  ensure (call.Admitted backend) .data
  return upsertBounds call.key call.input.scopes call.input.maxTtlSeconds call.input.clearMaxTtl
    (stamp call.now) table

/-- A call that is refused changes nothing. -/
def BoundsCall.execute
    (backend : Backend τ)
    (stamp : Instant → τ)
    (table : BoundsTable τ)
    (call : BoundsCall) : BoundsTable τ :=
  (call.write backend stamp table).toOption.getD table

def boundsAfter
    (backend : Backend τ)
    (stamp : Instant → τ)
    (calls : List BoundsCall) : BoundsTable τ :=
  calls.foldl (BoundsCall.execute backend stamp) Dict.empty

/-- A call on the repository in memory. -/
def BoundsCall.executeInMemory
    (repository : Grants.ScopeBoundsRepository)
    (call : BoundsCall) : Grants.ScopeBoundsRepository :=
  (Grants.setBounds repository call.input).toOption.getD repository

def boundsInMemoryAfter (calls : List BoundsCall) : Grants.ScopeBoundsRepository :=
  calls.foldl BoundsCall.executeInMemory Dict.empty

/-- The call passes both validations. -/
def BoundsCall.Valid (call : BoundsCall) : Prop :=
  Grants.validateIssuableScopeBounds call.input.scopes call.input.maxTtlSeconds = .ok () ∧
    Grants.validateClearMaxTtl call.input.maxTtlSeconds call.input.clearMaxTtl = .ok ()

instance (call : BoundsCall) : Decidable call.Valid := inferInstanceAs (Decidable (_ ∧ _))

/-! ## What the bounds are for -/

/-- Bounds of every agent that has some. -/
abbrev HeldBounds := String × String → Option AgentIssuableBounds

def HeldBounds.cap (held : HeldBounds) (key : String × String) : Option Int :=
  (held key).bind (·.maxTtlSeconds)

/-- The cap after a valid call, from the stored one. -/
def BoundsCall.nextCap (call : BoundsCall) (stored : Option Int) : Option Int :=
  if call.input.clearMaxTtl then none else coalesce call.input.maxTtlSeconds stored

/-- The bounds after a valid call. -/
def BoundsCall.update (held : HeldBounds) (call : BoundsCall) : HeldBounds :=
  Function.update held call.key
    (some { scopes := call.input.scopes, maxTtlSeconds := call.nextCap (held.cap call.key) })

/-- Bounds that a database holds. -/
def BoundsTable.held (table : BoundsTable τ) : HeldBounds :=
  fun key => (table.get? key).map fun row =>
    { scopes := row.scopes, maxTtlSeconds := row.maxTtlSeconds }

theorem held_set (table : BoundsTable τ) (key : String × String) (row : BoundsRow τ) :
    BoundsTable.held (table.set key row) =
      Function.update (BoundsTable.held table) key
        (some { scopes := row.scopes, maxTtlSeconds := row.maxTtlSeconds }) := by
  funext other
  rw [BoundsTable.held, Dict.get?_set, Function.update_apply]
  split
  · rfl
  · rfl

theorem cap_held (table : BoundsTable τ) (key : String × String) :
    (BoundsTable.held table).cap key = (table.get? key).bind (·.maxTtlSeconds) := by
  rw [HeldBounds.cap, BoundsTable.held]
  cases table.get? key <;> rfl

/-! ## One call -/

/-- A valid call that clears the cap declares none. -/
theorem BoundsCall.Valid.undeclared
    {call : BoundsCall}
    (valid : call.Valid)
    (clears : call.input.clearMaxTtl = true) :
    call.input.maxTtlSeconds = none := by
  have checked := valid.2
  unfold Grants.validateClearMaxTtl at checked
  split at checked
  · cases checked
  · next both => simpa [clears] using both

/-- Where nothing is stored, the cap after a valid call is the declared one. -/
theorem BoundsCall.Valid.nextCap_none
    {call : BoundsCall}
    (valid : call.Valid) :
    call.nextCap none = call.input.maxTtlSeconds := by
  unfold BoundsCall.nextCap coalesce
  split
  · next clears => exact (valid.undeclared clears).symm
  · cases call.input.maxTtlSeconds <;> rfl

/-- The statement of a valid call stores one row, whether or not there was one. -/
theorem upsertBounds_eq_set
    {call : BoundsCall}
    (valid : call.Valid)
    (now : τ)
    (table : BoundsTable τ) :
    upsertBounds call.key call.input.scopes call.input.maxTtlSeconds call.input.clearMaxTtl now
        table =
      table.set call.key
        { scopes := call.input.scopes
          maxTtlSeconds := call.nextCap ((table.get? call.key).bind (·.maxTtlSeconds))
          updatedAt := now } := by
  unfold upsertBounds
  cases table.get? call.key with
  | some stored => rfl
  | none => rw [Option.bind_none, valid.nextCap_none]

/-- The statement of a valid call updates the bounds. -/
theorem held_upsertBounds
    {call : BoundsCall}
    (valid : call.Valid)
    (now : τ)
    (table : BoundsTable τ) :
    BoundsTable.held (upsertBounds call.key call.input.scopes call.input.maxTtlSeconds
        call.input.clearMaxTtl now table) =
      call.update (BoundsTable.held table) := by
  rw [upsertBounds_eq_set valid, held_set, BoundsCall.update, cap_held]

theorem write_eq_ok
    {backend : Backend τ}
    {stamp : Instant → τ}
    {call : BoundsCall}
    {table after : BoundsTable τ} :
    call.write backend stamp table = .ok after ↔
      call.Valid ∧ call.Admitted backend ∧
        upsertBounds call.key call.input.scopes call.input.maxTtlSeconds call.input.clearMaxTtl
          (stamp call.now) table = after := by
  simp only [BoundsCall.write, bind_eq_ok, mapError_eq_ok, ensure_eq_ok, pure_eq_ok,
    BoundsCall.Valid, exists_and_left, exists_const]
  constructor
  · rintro ⟨⟨⟩, scopes, ⟨⟩, clear, admitted, rfl⟩
    exact ⟨⟨scopes, clear⟩, admitted, rfl⟩
  · rintro ⟨⟨scopes, clear⟩, admitted, rfl⟩
    exact ⟨(), scopes, (), clear, admitted, rfl⟩

/-- A database updates its bounds when the call is valid and admitted. -/
theorem held_execute
    (backend : Backend τ)
    (stamp : Instant → τ)
    (table : BoundsTable τ)
    (call : BoundsCall) :
    BoundsTable.held (call.execute backend stamp table) =
      if call.Valid ∧ call.Admitted backend then call.update (BoundsTable.held table)
      else BoundsTable.held table := by
  rw [BoundsCall.execute]
  by_cases accepted : call.Valid ∧ call.Admitted backend
  · rw [if_pos accepted, write_eq_ok.mpr ⟨accepted.1, accepted.2, rfl⟩]
    exact held_upsertBounds accepted.1 _ _
  · rw [if_neg accepted]
    cases written : call.write backend stamp table with
    | error error => rfl
    | ok after =>
        obtain ⟨valid, admitted, -⟩ := write_eq_ok.mp written
        exact absurd ⟨valid, admitted⟩ accepted

/-- A call that fails validation leaves a database as it is. -/
theorem execute_of_not_valid
    (backend : Backend τ)
    (stamp : Instant → τ)
    (table : BoundsTable τ)
    {call : BoundsCall}
    (invalid : ¬ call.Valid) :
    call.execute backend stamp table = table := by
  rw [BoundsCall.execute]
  cases written : call.write backend stamp table with
  | error error => rfl
  | ok after => exact absurd (write_eq_ok.mp written).1 invalid

/-- The repository in memory refuses what fails validation. -/
theorem executeInMemory_of_not_valid
    (repository : Grants.ScopeBoundsRepository)
    {call : BoundsCall}
    (invalid : ¬ call.Valid) :
    call.executeInMemory repository = repository := by
  rw [BoundsCall.executeInMemory, Grants.setBounds]
  split
  · rfl
  · next scopes =>
      split
      · rfl
      · next clear => exact absurd ⟨scopes, clear⟩ invalid

/-- The repository in memory updates its bounds when the call is valid. -/
theorem get?_executeInMemory
    (repository : Grants.ScopeBoundsRepository)
    (call : BoundsCall) :
    (call.executeInMemory repository).get? =
      if call.Valid then call.update repository.get? else repository.get? := by
  by_cases valid : call.Valid
  · rw [if_pos valid, BoundsCall.executeInMemory, Grants.setBounds, valid.1, valid.2]
    funext key
    change (repository.set call.key ⟨_, _⟩).get? key = _
    rw [Dict.get?_set, BoundsCall.update, Function.update_apply, BoundsCall.nextCap, HeldBounds.cap]
    -- The read before the write and the statement decide the cap alike.
    cases clears : call.input.clearMaxTtl with
    | true => simp [valid.undeclared clears]
    | false =>
        cases declared : call.input.maxTtlSeconds with
        | some cap => rfl
        | none =>
            congr 3
            unfold BoundsCall.key
            cases repository.get? (call.input.workspaceId, call.input.agentId) <;> rfl
  · rw [if_neg valid, executeInMemory_of_not_valid repository valid]

/-! ## What the databases admit -/

theorem nul_notMem_of_isValidGrantScope
    {scope : String}
    (valid : Scope.isValidGrantScope scope = true) :
    '\x00' ∉ scope.toList := by
  unfold Scope.isValidGrantScope at valid
  split at valid
  · next action resource parts =>
      rw [Bool.and_eq_true] at valid
      have inAction : '\x00' ∉ action := by
        have listed : String.ofList action ∈ Scope.allowedActions := by
          simpa [Scope.isValidRequestedAction] using valid.1
        have clean : ∀ verb ∈ Scope.allowedActions, '\x00' ∉ verb.toList := by decide
        simpa using clean _ listed
      have inResource : '\x00' ∉ resource := by
        intro present
        have checked := valid.2
        unfold Scope.isValidResource at checked
        simp [present] at checked
      intro present
      have joined : [':'].intercalate (scope.toList.splitOn ':') = scope.toList :=
        List.intercalate_splitOn ':'
      rw [← joined, parts] at present
      simp [List.intercalate] at present
      tauto
  · cases valid

/-- What validation says of the scopes and of the cap. -/
theorem BoundsCall.Valid.bounds
    {call : BoundsCall}
    (valid : call.Valid) :
    (∀ scope ∈ call.input.scopes, Scope.isValidGrantScope scope = true) ∧
      ∀ cap ∈ call.input.maxTtlSeconds, 0 < cap ∧ cap ≤ Grants.maxTtlSecondsCeiling := by
  have checked := valid.1
  unfold Grants.validateIssuableScopeBounds at checked
  split at checked
  · cases checked
  · split at checked
    · cases checked
    · next none =>
        split at checked
        · cases checked
        · next inRange =>
            refine ⟨fun scope present => ?_, fun cap declared => ?_⟩
            · by_contra invalid
              have listed : scope ∈ call.input.scopes.filter fun scope =>
                  !Scope.isValidGrantScope scope :=
                List.mem_filter.mpr ⟨present, by simpa using invalid⟩
              rw [none] at listed
              cases listed
            · rw [Option.mem_def.mp declared] at inRange
              simp only [Option.any_some, decide_eq_true_eq, not_or] at inRange
              omega

/-- SQLite admits every valid call. -/
theorem admitted_sqlite
    (requireBoundaryDefault : Bool)
    {call : BoundsCall}
    (valid : call.Valid) :
    call.Admitted (sqlite requireBoundaryDefault) := by
  refine ⟨⟨rfl, rfl, by simp [sqlite], ?_⟩, by simp [sqlite]⟩
  rw [Option.all_eq_true]
  intro cap declared
  have range := valid.bounds.2 cap declared
  unfold Grants.maxTtlSecondsCeiling at range
  exact decide_eq_true ⟨by simp only [SnapshotInteger.value]; omega,
    by simp only [SnapshotInteger.value]; omega⟩

/-- No text of the call holds a NUL. -/
def BoundsCall.NoNul (call : BoundsCall) : Prop :=
  '\x00' ∉ call.input.workspaceId.toList ∧ '\x00' ∉ call.input.agentId.toList ∧
    ∀ principal ∈ call.enforcingPrincipal, '\x00' ∉ principal.toList

instance (call : BoundsCall) : Decidable call.NoNul := inferInstanceAs (Decidable (_ ∧ _ ∧ _))

/-- Postgres admits a valid call exactly when its texts hold no NUL. -/
theorem admitted_postgres_iff
    (server : Server)
    (requireBoundaryDefault : Bool)
    {call : BoundsCall}
    (valid : call.Valid) :
    call.Admitted (postgres server requireBoundaryDefault) ↔ call.NoNul := by
  have scopes : call.input.scopes.all (postgres server requireBoundaryDefault).admitsText = true := by
    rw [List.all_eq_true]
    intro scope present
    exact decide_eq_true (nul_notMem_of_isValidGrantScope (valid.bounds.1 scope present))
  have cap : (call.input.maxTtlSeconds.all fun cap =>
      (postgres server requireBoundaryDefault).admitsInteger (.int cap)) = true := by
    rw [Option.all_eq_true]
    intro cap declared
    have range := valid.bounds.2 cap declared
    simp only [postgres, decide_eq_true_eq]
    unfold Grants.maxTtlSecondsCeiling at range
    omega
  rw [BoundsCall.Admitted, BoundsCall.NoNul, scopes, cap, Option.all_eq_true]
  simp only [postgres, decide_eq_true_eq, and_true, and_assoc, Option.mem_def]

/-! ## Runs -/

section Run

variable {backend : Backend τ} {stamp : Instant → τ}

theorem boundsAfter_concat (calls : List BoundsCall) (call : BoundsCall) :
    boundsAfter backend stamp (calls ++ [call]) =
      call.execute backend stamp (boundsAfter backend stamp calls) := by
  rw [boundsAfter, List.foldl_append]
  rfl

theorem boundsInMemoryAfter_concat (calls : List BoundsCall) (call : BoundsCall) :
    boundsInMemoryAfter (calls ++ [call]) =
      call.executeInMemory (boundsInMemoryAfter calls) := by
  rw [boundsInMemoryAfter, List.foldl_append]
  rfl

/-- A database holds what the repository in memory holds after the calls that the
database admits. -/
theorem held_boundsAfter
    {kept : BoundsCall → Bool}
    (admits : ∀ call : BoundsCall, call.Valid → (call.Admitted backend ↔ kept call = true))
    (calls : List BoundsCall) :
    BoundsTable.held (boundsAfter backend stamp calls) =
      (boundsInMemoryAfter (calls.filter kept)).get? := by
  induction calls using List.reverseRecOn with
  | nil => rfl
  | append_singleton calls call inductionHypothesis =>
      rw [boundsAfter_concat, held_execute, List.filter_append, inductionHypothesis]
      by_cases valid : call.Valid
      · by_cases isKept : kept call = true
        · rw [if_pos ⟨valid, (admits call valid).mpr isKept⟩, List.filter_cons_of_pos isKept,
            List.filter_nil, boundsInMemoryAfter_concat, get?_executeInMemory, if_pos valid]
        · rw [if_neg fun both => isKept ((admits call valid).mp both.2),
            List.filter_cons_of_neg isKept, List.filter_nil, List.append_nil]
      · rw [if_neg fun both => valid both.1]
        by_cases isKept : kept call = true
        · rw [List.filter_cons_of_pos isKept, List.filter_nil, boundsInMemoryAfter_concat,
            executeInMemory_of_not_valid _ valid]
        · rw [List.filter_cons_of_neg isKept, List.filter_nil, List.append_nil]

end Run

/-- Bounds that the three repositories hold after a run. -/
def sqliteHeld (requireBoundaryDefault : Bool) (calls : List BoundsCall) : HeldBounds :=
  BoundsTable.held (boundsAfter (sqlite requireBoundaryDefault) isoformat calls)

def postgresHeld (server : Server) (requireBoundaryDefault : Bool) (calls : List BoundsCall) :
    HeldBounds :=
  BoundsTable.held (boundsAfter (postgres server requireBoundaryDefault) id calls)

def inMemoryHeld (calls : List BoundsCall) : HeldBounds :=
  (boundsInMemoryAfter calls).get?

/-- A cap changes only in a call on its own agent that declares the cap, to the
declared value, or clears it. -/
def CapsAsDeclared (call : BoundsCall) (before after : HeldBounds) : Prop :=
  ∀ key, after.cap key ≠ before.cap key →
    key = call.key ∧
      ((∃ cap, call.input.maxTtlSeconds = some cap ∧ after.cap key = some cap) ∨
        call.input.clearMaxTtl = true ∧ after.cap key = none)

theorem capsAsDeclared_refl (call : BoundsCall) (held : HeldBounds) :
    CapsAsDeclared call held held :=
  fun _ changes => absurd rfl changes

theorem capsAsDeclared_update (call : BoundsCall) (held : HeldBounds) :
    CapsAsDeclared call held (call.update held) := by
  intro key changes
  by_cases own : key = call.key
  · subst own
    have cap : HeldBounds.cap (call.update held) call.key = call.nextCap (held.cap call.key) := by
      rw [HeldBounds.cap, BoundsCall.update, Function.update_self]
      rfl
    refine ⟨rfl, ?_⟩
    rw [cap, BoundsCall.nextCap] at changes ⊢
    cases clears : call.input.clearMaxTtl with
    | true => exact Or.inr ⟨rfl, rfl⟩
    | false =>
        rw [clears] at changes
        cases declared : call.input.maxTtlSeconds with
        | some cap => exact Or.inl ⟨cap, rfl, rfl⟩
        | none =>
            rw [declared] at changes
            exact absurd rfl changes
  · refine absurd ?_ changes
    rw [HeldBounds.cap, HeldBounds.cap, BoundsCall.update, Function.update_of_ne own]

theorem capsAsDeclared_execute
    (backend : Backend τ)
    (stamp : Instant → τ)
    (table : BoundsTable τ)
    (call : BoundsCall) :
    CapsAsDeclared call (BoundsTable.held table)
      (BoundsTable.held (call.execute backend stamp table)) := by
  rw [held_execute]
  split
  · exact capsAsDeclared_update call _
  · exact capsAsDeclared_refl call _

theorem capsAsDeclared_executeInMemory
    (repository : Grants.ScopeBoundsRepository)
    (call : BoundsCall) :
    CapsAsDeclared call repository.get? (call.executeInMemory repository).get? := by
  rw [get?_executeInMemory]
  split
  · exact capsAsDeclared_update call _
  · exact capsAsDeclared_refl call _

/-- `set_bounds` of the policy tables is the write of a call whose event is
admitted. -/
theorem setBounds_eq_write
    (backend : Backend τ)
    (stamp : Instant → τ)
    (call : BoundsCall)
    (admitted : call.enforcingPrincipal.all backend.admitsText = true)
    (tables : Tables τ) :
    setBounds backend call.input (stamp call.now) tables =
      (call.write backend stamp tables.bounds).map fun bounds => { tables with bounds } := by
  have event : call.Admitted backend ↔
      (backend.admitsText call.input.workspaceId ∧ backend.admitsText call.input.agentId ∧
        call.input.scopes.all backend.admitsText ∧
        call.input.maxTtlSeconds.all fun cap => backend.admitsInteger (.int cap)) :=
    and_iff_left admitted
  rw [setBounds, BoundsCall.write]
  cases scopes : Grants.validateIssuableScopeBounds call.input.scopes call.input.maxTtlSeconds with
  | error text => rfl
  | ok =>
      cases clear : Grants.validateClearMaxTtl call.input.maxTtlSeconds call.input.clearMaxTtl with
      | error text => rfl
      | ok =>
          by_cases isAdmitted : call.Admitted backend
          · simp only [ensure, if_pos isAdmitted, if_pos (event.mp isAdmitted)]
            rw [upsertBounds_eq_set ⟨scopes, clear⟩, BoundsCall.nextCap, coalesce_eq_or]
            rfl
          · simp only [ensure, if_neg isAdmitted, if_neg fun row => isAdmitted (event.mpr row)]
            rfl

end Policy
end Vinctor
