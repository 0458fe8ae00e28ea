import Mathlib.Data.List.Induction
import Mathlib.Data.String.Basic
import Vinctor.Service.PolicyBackends
import Vinctor.Service.Repositories

/-!
# Storage of the mandates

Three mandates of an agent are packed into one row, and three setters each write their
own value and flag of it.  Whatever the setters did before, each mandate reads as the
last value that its own setter wrote for the agent, else for the workspace, else as its
default; the repository in memory, which keeps the mandates apart, agrees.
-/

namespace Vinctor
namespace Policy

open Foundation
open Fallible

/-! ## Calls -/

inductive MandateName
  | boundary
  | subjectToken
  | pop
  deriving DecidableEq, Repr

/-- The columns of a mandate. -/
def MandateName.columns : MandateName → Mandate
  | .boundary => .boundary
  | .subjectToken => .subjectToken
  | .pop => .pop

/-- The value of a mandate that is set nowhere. -/
def MandateName.default (requireBoundaryDefault : Bool) : MandateName → Bool
  | .boundary => requireBoundaryDefault
  | .subjectToken => false
  | .pop => false

/-- A call of the setter of a mandate.  The empty agent stands for the workspace. -/
structure MandateCall where
  mandate : MandateName
  workspaceId : String
  agentId : String
  required : Bool
  now : Instant
  deriving DecidableEq, Repr

def MandateCall.key (call : MandateCall) : String × String := (call.workspaceId, call.agentId)

def MandateCall.write
    (backend : Backend τ)
    (stamp : Instant → τ)
    (call : MandateCall) : Tables τ → Except PolicyError (Tables τ) :=
  match call.mandate with
  | .boundary =>
      setRequireBoundary backend call.workspaceId call.agentId call.required (stamp call.now)
  | .subjectToken =>
      setRequireSubjectToken backend call.workspaceId call.agentId call.required (stamp call.now)
  | .pop => setRequirePop backend call.workspaceId call.agentId call.required (stamp call.now)

/-- A call that is refused changes nothing. -/
def MandateCall.execute
    (backend : Backend τ)
    (stamp : Instant → τ)
    (tables : Tables τ)
    (call : MandateCall) : Tables τ :=
  ((call.write backend stamp tables).toOption).getD tables

def Tables.afterCalls
    (backend : Backend τ)
    (stamp : Instant → τ)
    (calls : List MandateCall) : Tables τ :=
  calls.foldl (MandateCall.execute backend stamp) Tables.empty

/-- A call on the repository in memory. -/
def MandateCall.executeInMemory
    (repository : AgentEnforcementSettingsRepository)
    (call : MandateCall) : AgentEnforcementSettingsRepository :=
  match call.mandate with
  | .boundary => repository.setRequireBoundary call.workspaceId call.agentId call.required
  | .subjectToken =>
      repository.setRequireSubjectToken call.workspaceId call.agentId call.required
  | .pop => repository.setRequirePop call.workspaceId call.agentId call.required

def inMemoryAfter (calls : List MandateCall) : AgentEnforcementSettingsRepository :=
  calls.foldl MandateCall.executeInMemory {}

/-! ## Reads -/

/-- `is_boundary_required`, `is_subject_token_required` and `is_pop_required`.  A text
that the database does not admit is refused. -/
def readRequired
    (backend : Backend τ)
    (tables : Tables τ)
    (mandate : MandateName)
    (workspaceId agentId : String) : Except PolicyError Bool := do
  ensure (backend.admitsText workspaceId ∧ backend.admitsText agentId) .data
  return match mandate with
    | .boundary => isBoundaryRequired backend tables workspaceId agentId
    | .subjectToken => isSubjectTokenRequired tables workspaceId agentId
    | .pop => isPopRequired tables workspaceId agentId

/-- The rows of a workspace that set the boundary mandate, in the order of their agents. -/
def boundaryOverrides
    (backend : Backend τ)
    (tables : Tables τ)
    (workspaceId : String) : List (String × Bool) :=
  ((ofWorkspace backend workspaceId tables.settings).filter fun entry =>
    entry.2.requireBoundarySet).map fun entry => (entry.1.2, entry.2.requireBoundary)

/-- The explicit boundary overrides of a workspace. -/
def listRequireBoundary
    (backend : Backend τ)
    (tables : Tables τ)
    (workspaceId : String) : Except PolicyError (List (String × Bool)) := do
  ensure (backend.admitsText workspaceId) .data
  return boundaryOverrides backend tables workspaceId

/-- The same three reads of the repository in memory. -/
def readInMemory
    (repository : AgentEnforcementSettingsRepository) : MandateName → String → String → Bool
  | .boundary => repository.settings.isBoundaryRequired
  | .subjectToken => repository.settings.isSubjectTokenRequired
  | .pop => repository.settings.isPopRequired

/-- Order of pairs of an agent and a truth value. -/
def pairsInOrder (first second : String × Bool) : Bool :=
  decide (first.1 < second.1 ∨ first.1 = second.1 ∧ first.2 ≤ second.2)

def listInMemory (repository : AgentEnforcementSettingsRepository) (workspaceId : String) :
    List (String × Bool) :=
  ((repository.requireBoundary.entries.filter fun entry => entry.1.1 = workspaceId).map
    fun entry => (entry.1.2, entry.2)).insertionSort fun first second => pairsInOrder first second

/-! ## What the calls set -/

/-- The last value that was set for a mandate. -/
def lastRequired
    (calls : List MandateCall)
    (mandate : MandateName)
    (key : String × String) : Option Bool :=
  (calls.reverse.find? fun call => call.mandate = mandate ∧ call.key = key).map (·.required)

/-- The last value for the agent, else for the workspace, else the default. -/
def expectedRequired
    (default : Bool)
    (calls : List MandateCall)
    (mandate : MandateName)
    (workspaceId agentId : String) : Bool :=
  (lastRequired calls mandate (workspaceId, agentId)).getD
    ((lastRequired calls mandate (workspaceId, "")).getD default)

theorem lastRequired_snoc
    (calls : List MandateCall)
    (call : MandateCall)
    (mandate : MandateName)
    (key : String × String) :
    lastRequired (calls ++ [call]) mandate key =
      if call.mandate = mandate ∧ call.key = key then some call.required
      else lastRequired calls mandate key := by
  rw [lastRequired, List.reverse_append, List.reverse_singleton, List.singleton_append,
    List.find?_cons]
  by_cases chosen : call.mandate = mandate ∧ call.key = key
  · simp [chosen]
  · simp [chosen, lastRequired]

/-! ## The rows hold what was set -/

/-- What the setter of a mandate changes in a row. -/
def MandateCall.change (call : MandateCall) (now : τ) (row : SettingsRow τ) : SettingsRow τ :=
  match call.mandate with
  | .boundary =>
      { row with requireBoundary := call.required, requireBoundarySet := true, updatedAt := now }
  | .subjectToken =>
      { row with
        requireSubjectToken := call.required, requireSubjectTokenSet := true, updatedAt := now }
  | .pop => { row with requirePop := call.required, requirePopSet := true, updatedAt := now }

section Setting

variable {backend : Backend τ} {stamp : Instant → τ}

theorem write_eq_upsertSetting (call : MandateCall) :
    call.write backend stamp =
      Tables.upsertSetting backend call.workspaceId call.agentId (stamp call.now)
        (call.change (stamp call.now)) := by
  unfold MandateCall.write MandateCall.change
  cases call.mandate <;> rfl

/-- A setter writes its own mandate and leaves the others of the row. -/
theorem setting_change
    (call : MandateCall)
    (mandate : MandateName)
    (now : τ)
    (row : Option (SettingsRow τ)) :
    mandate.columns.setting (some (call.change now (row.getD (.fresh backend now)))) =
      if call.mandate = mandate then some call.required else mandate.columns.setting row := by
  unfold MandateCall.change
  cases row with
  | none => cases call.mandate <;> cases mandate <;> rfl
  | some row =>
      rw [Mandate.setting_some, Mandate.setting_some]
      cases call.mandate <;> cases mandate <;> rfl

/-- The row of a key after a call. -/
theorem get?_execute
    (tables : Tables τ)
    (call : MandateCall)
    (key : String × String) :
    (call.execute backend stamp tables).settings.get? key =
      if call.key = key ∧ backend.admitsText key.1 ∧ backend.admitsText key.2 then
        some (call.change (stamp call.now)
          ((tables.settings.get? key).getD (.fresh backend (stamp call.now))))
      else tables.settings.get? key := by
  rw [MandateCall.execute, write_eq_upsertSetting, Tables.upsertSetting]
  by_cases admitted : backend.admitsText call.workspaceId = true ∧
      backend.admitsText call.agentId = true
  · rw [ensure, if_pos admitted]
    change (tables.settings.set call.key _).get? key = _
    by_cases isKey : call.key = key
    · subst isKey
      rw [Dict.get?_set_self, if_pos ⟨rfl, admitted⟩]
      rfl
    · rw [Dict.get?_set_of_ne _ _ (Ne.symm isKey), if_neg fun both => isKey both.1]
  · rw [ensure, if_neg admitted, if_neg]
    · rfl
    · rintro ⟨rfl, isAdmitted⟩
      exact admitted isAdmitted

theorem afterCalls_snoc (calls : List MandateCall) (call : MandateCall) :
    Tables.afterCalls backend stamp (calls ++ [call]) =
      call.execute backend stamp (Tables.afterCalls backend stamp calls) := by
  rw [Tables.afterCalls, List.foldl_append]
  rfl

/-- The rows hold the last value of every mandate. -/
theorem setting_afterCalls
    (calls : List MandateCall)
    (mandate : MandateName)
    {key : String × String}
    (admitted : backend.admitsText key.1 ∧ backend.admitsText key.2) :
    mandate.columns.setting ((Tables.afterCalls backend stamp calls).settings.get? key) =
      lastRequired calls mandate key := by
  induction calls using List.reverseRecOn with
  | nil => cases mandate <;> rfl
  | append_singleton calls call inductionHypothesis =>
      rw [afterCalls_snoc, get?_execute, lastRequired_snoc, ← inductionHypothesis]
      by_cases isKey : call.key = key
      · rw [if_pos ⟨isKey, admitted⟩, setting_change]
        simp only [isKey, and_true]
      · rw [if_neg fun both => isKey both.1, if_neg fun both => isKey both.2]

/-- A row of a text that the database does not admit is never written. -/
theorem get?_afterCalls_of_refused
    (calls : List MandateCall)
    {key : String × String}
    (refused : ¬(backend.admitsText key.1 ∧ backend.admitsText key.2)) :
    (Tables.afterCalls backend stamp calls).settings.get? key = none := by
  induction calls using List.reverseRecOn with
  | nil => rfl
  | append_singleton calls call inductionHypothesis =>
      rw [afterCalls_snoc, get?_execute, if_neg fun both => refused both.2, inductionHypothesis]

/-- Every mandate reads as the calls have set it. -/
theorem readRequired_afterCalls
    (workspaceAdmitted : ∀ {text : String}, backend.admitsText text → backend.admitsText "")
    (calls : List MandateCall)
    (mandate : MandateName)
    {workspaceId agentId : String}
    (admitted : backend.admitsText workspaceId ∧ backend.admitsText agentId) :
    readRequired backend (Tables.afterCalls backend stamp calls) mandate workspaceId agentId =
      .ok (expectedRequired (mandate.default backend.requireBoundaryDefault) calls mandate
        workspaceId agentId) := by
  have agent := @setting_afterCalls τ backend stamp calls mandate (workspaceId, agentId) admitted
  have workspace := @setting_afterCalls τ backend stamp calls mandate (workspaceId, "")
    ⟨admitted.1, workspaceAdmitted admitted.1⟩
  have checked : ensure (backend.admitsText workspaceId = true ∧ backend.admitsText agentId = true)
      PolicyError.data = .ok () := if_pos admitted
  unfold readRequired
  rw [checked, expectedRequired, ← agent, ← workspace]
  cases mandate <;> rfl

end Setting

/-- The overrides that the repository in memory keeps for a mandate. -/
def MandateName.overrides
    (repository : AgentEnforcementSettingsRepository) : MandateName → MandateOverrides
  | .boundary => repository.requireBoundary
  | .subjectToken => repository.requireSubjectToken
  | .pop => repository.requirePop

theorem overrides_executeInMemory
    (repository : AgentEnforcementSettingsRepository)
    (call : MandateCall)
    (mandate : MandateName) :
    mandate.overrides (call.executeInMemory repository) =
      if call.mandate = mandate then (mandate.overrides repository).set call.key call.required
      else mandate.overrides repository := by
  unfold MandateCall.executeInMemory
  cases call.mandate <;> cases mandate <;> rfl

theorem get?_overrides_inMemoryAfter
    (calls : List MandateCall)
    (mandate : MandateName)
    (key : String × String) :
    (mandate.overrides (inMemoryAfter calls)).get? key = lastRequired calls mandate key := by
  induction calls using List.reverseRecOn with
  | nil => cases mandate <;> rfl
  | append_singleton calls call inductionHypothesis =>
      rw [inMemoryAfter, List.foldl_append, List.foldl_cons, List.foldl_nil,
        overrides_executeInMemory, lastRequired_snoc, ← inductionHypothesis]
      by_cases isMandate : call.mandate = mandate
      · rw [if_pos isMandate, Dict.get?_set]
        simp only [isMandate, true_and, eq_comm]
        rfl
      · rw [if_neg isMandate, if_neg fun both => isMandate both.1]
        rfl

/-- The repository in memory reads as the calls have set it, with no mandate as default. -/
theorem readInMemory_after
    (calls : List MandateCall)
    (mandate : MandateName)
    (workspaceId agentId : String) :
    readInMemory (inMemoryAfter calls) mandate workspaceId agentId =
      expectedRequired false calls mandate workspaceId agentId := by
  have resolved : readInMemory (inMemoryAfter calls) mandate workspaceId agentId =
      (mandate.overrides (inMemoryAfter calls)).isRequired workspaceId agentId := by
    cases mandate <;> rfl
  rw [resolved, MandateOverrides.isRequired, get?_overrides_inMemoryAfter,
    get?_overrides_inMemoryAfter, expectedRequired]
  cases lastRequired calls mandate (workspaceId, agentId) <;> rfl

/-! ## Lists of overrides -/

section Lists

variable {backend : Backend τ} {stamp : Instant → τ}

theorem mem_boundaryOverrides
    (tables : Tables τ)
    (workspaceId : String)
    (override : String × Bool) :
    override ∈ boundaryOverrides backend tables workspaceId ↔
      Mandate.boundary.setting (tables.settings.get? (workspaceId, override.1)) =
        some override.2 := by
  obtain ⟨agentId, required⟩ := override
  constructor
  · intro listed
    obtain ⟨⟨⟨workspace, agent⟩, row⟩, isRow, isOverride⟩ := List.mem_map.mp listed
    obtain ⟨inWorkspace, isSet⟩ := List.mem_filter.mp isRow
    obtain ⟨stored, isWorkspace⟩ := mem_ofWorkspace.mp inWorkspace
    obtain ⟨rfl, rfl⟩ := Prod.mk.inj isOverride
    obtain rfl : workspace = workspaceId := isWorkspace
    rw [(Dict.get?_eq_some_iff _ _ _).mpr stored, Mandate.setting_some]
    exact if_pos isSet
  · intro isSetting
    cases found : tables.settings.get? (workspaceId, agentId) with
    | none =>
        rw [found] at isSetting
        cases isSetting
    | some row =>
        rw [found, Mandate.setting_some] at isSetting
        split at isSetting
        · next isSet =>
            refine List.mem_map.mpr ⟨((workspaceId, agentId), row), List.mem_filter.mpr ⟨?_, isSet⟩, ?_⟩
            · exact mem_ofWorkspace.mpr ⟨(Dict.get?_eq_some_iff _ _ _).mp found, rfl⟩
            · exact congrArg (agentId, ·) (Option.some.inj isSetting)
        · cases isSetting

/-- Rows of one workspace are of different agents. -/
theorem nodup_agents (table : Dict (String × String) ρ) (workspaceId : String) :
    ((table.entries.filter fun entry => entry.1.1 = workspaceId).map fun entry =>
      entry.1.2).Nodup := by
  have distinct := table.keysDistinct.sublist
    ((List.filter_sublist (p := fun entry => decide (entry.1.1 = workspaceId))).map Prod.fst)
  have agents : ((table.entries.filter fun entry => entry.1.1 = workspaceId).map fun entry =>
      entry.1.2) =
        ((table.entries.filter fun entry => entry.1.1 = workspaceId).map Prod.fst).map
          Prod.snd := by
    rw [List.map_map]
    rfl
  rw [agents]
  refine List.Nodup.map_on ?_ distinct
  intro first isFirst second isSecond same
  obtain ⟨firstRow, firstKept, rfl⟩ := List.mem_map.mp isFirst
  obtain ⟨secondRow, secondKept, rfl⟩ := List.mem_map.mp isSecond
  have firstMine := of_decide_eq_true (List.mem_filter.mp firstKept).2
  have secondMine := of_decide_eq_true (List.mem_filter.mp secondKept).2
  exact Prod.ext (firstMine.trans secondMine.symm) same

theorem nodup_agents_boundaryOverrides (tables : Tables τ) (workspaceId : String) :
    ((boundaryOverrides backend tables workspaceId).map Prod.fst).Nodup := by
  rw [boundaryOverrides, List.map_map]
  have sorted := (List.perm_insertionSort (fun first second : (String × String) × SettingsRow τ =>
    backend.textLe first.1.2 second.1.2) (tables.settings.entries.filter fun entry =>
      entry.1.1 = workspaceId)).map fun entry => entry.1.2
  have distinct := sorted.nodup_iff.mpr (nodup_agents tables.settings workspaceId)
  exact distinct.sublist (List.filter_sublist.map _)

theorem mem_listInMemory
    (repository : AgentEnforcementSettingsRepository)
    (workspaceId : String)
    (override : String × Bool) :
    override ∈ listInMemory repository workspaceId ↔
      repository.requireBoundary.get? (workspaceId, override.1) = some override.2 := by
  obtain ⟨agentId, required⟩ := override
  rw [listInMemory, List.mem_insertionSort, Dict.get?_eq_some_iff]
  constructor
  · intro listed
    obtain ⟨⟨⟨workspace, agent⟩, value⟩, kept, isOverride⟩ := List.mem_map.mp listed
    obtain ⟨stored, isWorkspace⟩ := List.mem_filter.mp kept
    obtain ⟨rfl, rfl⟩ := Prod.mk.inj isOverride
    obtain rfl : workspace = workspaceId := of_decide_eq_true isWorkspace
    exact stored
  · intro stored
    exact List.mem_map.mpr ⟨((workspaceId, agentId), required),
      List.mem_filter.mpr ⟨stored, decide_eq_true rfl⟩, rfl⟩

theorem nodup_agents_listInMemory
    (repository : AgentEnforcementSettingsRepository)
    (workspaceId : String) :
    ((listInMemory repository workspaceId).map Prod.fst).Nodup := by
  have sorted := (List.perm_insertionSort (fun first second => pairsInOrder first second = true)
    ((repository.requireBoundary.entries.filter fun entry => entry.1.1 = workspaceId).map
      fun entry => (entry.1.2, entry.2))).map Prod.fst
  refine sorted.nodup_iff.mpr ?_
  rw [List.map_map]
  exact nodup_agents repository.requireBoundary workspaceId

/-- The overrides are those in memory, as far as the database admits their agents. -/
theorem boundaryOverrides_perm
    (calls : List MandateCall)
    {workspaceId : String}
    (admitted : backend.admitsText workspaceId) :
    (boundaryOverrides backend (Tables.afterCalls backend stamp calls) workspaceId).Perm
      ((listInMemory (inMemoryAfter calls) workspaceId).filter fun override =>
        backend.admitsText override.1) := by
  refine (List.perm_ext_iff_of_nodup (nodup_agents_boundaryOverrides _ _).of_map
    ((nodup_agents_listInMemory _ _).of_map.filter _)).mpr fun override => ?_
  rw [mem_boundaryOverrides, List.mem_filter, mem_listInMemory]
  have inMemory := get?_overrides_inMemoryAfter calls .boundary (workspaceId, override.1)
  change _ ↔ (MandateName.boundary.overrides (inMemoryAfter calls)).get? _ = _ ∧ _
  rw [inMemory]
  by_cases agentAdmitted : backend.admitsText override.1
  · have stored := @setting_afterCalls τ backend stamp calls .boundary (workspaceId, override.1)
      ⟨admitted, agentAdmitted⟩
    rw [← stored]
    exact ⟨fun found => ⟨found, agentAdmitted⟩, fun found => found.1⟩
  · rw [get?_afterCalls_of_refused calls fun both => agentAdmitted both.2]
    exact ⟨nofun, fun found => absurd found.2 agentAdmitted⟩

end Lists

/-- A list that an order sorts is ascending, for an order that is total and transitive. -/
theorem pairwise_insertionSort_of
    {inOrder : α → α → Prop}
    [DecidableRel inOrder]
    (total : ∀ first second, inOrder first second ∨ inOrder second first)
    (trans : ∀ first second third, inOrder first second → inOrder second third →
      inOrder first third)
    (list : List α) :
    (list.insertionSort inOrder).Pairwise inOrder := by
  have : Std.Total inOrder := ⟨total⟩
  have : IsTrans α inOrder := ⟨trans⟩
  exact List.pairwise_insertionSort inOrder list

theorem ascending_boundaryOverrides_sqlite
    (default : Bool)
    (tables : Tables String)
    (workspaceId : String) :
    (boundaryOverrides (sqlite default) tables workspaceId).Pairwise fun first second =>
      first.1 ≤ second.1 := by
  refine List.pairwise_map.mpr (List.Pairwise.filter _ ?_)
  refine (pairwise_insertionSort_of (fun first second => ?_) (fun first second third => ?_)
    _).imp fun {first second} inOrder => of_decide_eq_true inOrder
  · rw [decide_eq_true_iff, decide_eq_true_iff]
    exact le_total first.1.2 second.1.2
  · rw [decide_eq_true_iff, decide_eq_true_iff, decide_eq_true_iff]
    exact le_trans

theorem ascending_listInMemory
    (repository : AgentEnforcementSettingsRepository)
    (workspaceId : String) :
    (listInMemory repository workspaceId).Pairwise fun first second => first.1 ≤ second.1 := by
  refine (pairwise_insertionSort_of (fun first second => ?_) (fun first second third => ?_)
    _).imp fun {first second} inOrder => ?_
  · simp only [pairsInOrder, decide_eq_true_eq]
    rcases lt_trichotomy first.1 second.1 with less | same | greater
    · exact .inl (.inl less)
    · rcases le_total first.2 second.2 with below | above
      · exact .inl (.inr ⟨same, below⟩)
      · exact .inr (.inr ⟨same.symm, above⟩)
    · exact .inr (.inl greater)
  · simp only [pairsInOrder, decide_eq_true_eq]
    rintro (less | ⟨same, below⟩) (next | ⟨sameNext, belowNext⟩)
    · exact .inl (less.trans next)
    · exact .inl (sameNext ▸ less)
    · exact .inl (same ▸ next)
    · exact .inr ⟨same.trans sameNext, below.trans belowNext⟩
  · rcases of_decide_eq_true inOrder with less | ⟨same, -⟩
    · exact less.le
    · exact same.le

/-- In the order of code points the lists are the same. -/
theorem boundaryOverrides_sqlite
    (default : Bool)
    (stamp : Instant → String)
    (calls : List MandateCall)
    (workspaceId : String) :
    boundaryOverrides (sqlite default) (Tables.afterCalls (sqlite default) stamp calls)
        workspaceId = listInMemory (inMemoryAfter calls) workspaceId := by
  have permuted := @boundaryOverrides_perm _ (sqlite default) stamp calls workspaceId rfl
  have all : (listInMemory (inMemoryAfter calls) workspaceId).filter (fun override =>
      (sqlite default).admitsText override.1) = listInMemory (inMemoryAfter calls) workspaceId :=
    List.filter_eq_self.mpr fun _ _ => rfl
  rw [all] at permuted
  refine permuted.eq_of_pairwise ?_
    (ascending_boundaryOverrides_sqlite default _ workspaceId)
    (ascending_listInMemory _ workspaceId)
  intro first second isFirst isSecond below above
  have listed := permuted.mem_iff.mp isFirst
  exact List.inj_on_of_nodup_map (nodup_agents_listInMemory _ _) listed isSecond
    (below.antisymm above)

/-! ## The repositories agree -/

/-- Whether a text can stand in a column of the server. -/
def NulFree (text : String) : Prop := '\x00' ∉ text.toList

instance (text : String) : Decidable (NulFree text) :=
  inferInstanceAs (Decidable ('\x00' ∉ text.toList))

end Policy
end Vinctor
