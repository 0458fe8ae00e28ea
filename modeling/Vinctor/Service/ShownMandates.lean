import Vinctor.Service.MandateStorage
import Vinctor.Service.V1Enforce

/-!
# Mandates as the operator sees them

The commands that show a mandate of an agent or of a workspace.  The one for boundaries
reads the effective mandate.  The other two read the row that they name and nothing
else: an agent without a setting of its own is shown without the mandate, also when its
workspace has it and enforcement applies it.
-/

namespace Vinctor
namespace Policy

open Foundation
open Fallible

/-! ## Commands -/

/-- Arguments of a command about a mandate. -/
structure MandateArgs where
  workspaceId : String
  /-- The agent of the operator's own configuration. -/
  agentId : String
  targetAgentId : Option String := none
  workspace : Bool := false
  deriving DecidableEq, Repr

def MandateName.command : MandateName → String
  | .boundary => "require-boundary"
  | .subjectToken => "require-subject-token"
  | .pop => "require-pop"

/-- The agent that a command is about; the empty one stands for the workspace. -/
def MandateArgs.target (args : MandateArgs) (mandate : MandateName) : Except String String := do
  ensure (¬(args.workspace = true ∧ args.targetAgentId.isSome))
    (mandate.command ++ " --workspace cannot be combined with an agent id")
  return if args.workspace then "" else (presentText args.targetAgentId).getD args.agentId

inductive MandateScope
  | workspace
  | agent
  deriving DecidableEq, Repr

structure ShownMandate where
  workspaceId : String
  agentId : String
  required : Bool
  scope : MandateScope
  deriving DecidableEq, Repr

/-- The explicit setting of an agent. -/
def getRequireSetting
    (mandate : MandateName)
    (tables : Tables τ)
    (workspaceId agentId : String) : Option Bool :=
  mandate.columns.setting (tables.settings.get? (workspaceId, agentId))

/-- `get_require_boundary`: the effective mandate. -/
def getRequireBoundary (backend : Backend τ) : Tables τ → String → String → Bool :=
  isBoundaryRequired backend

/-- The value that a `show` command reads. -/
def shownValue
    (backend : Backend τ)
    (tables : Tables τ)
    (workspaceId agentId : String) : MandateName → Bool
  | .boundary => getRequireBoundary backend tables workspaceId agentId
  | .subjectToken => (getRequireSetting .subjectToken tables workspaceId agentId).getD false
  | .pop => (getRequireSetting .pop tables workspaceId agentId).getD false

/-- `require-boundary show`, `require-subject-token show` and `require-pop show`. -/
def showMandate
    (backend : Backend τ)
    (tables : Tables τ)
    (args : MandateArgs)
    (mandate : MandateName) : Except String ShownMandate := do
  let agentId ← args.target mandate
  return {
    workspaceId := args.workspaceId
    agentId
    required := shownValue backend tables args.workspaceId agentId mandate
    scope := if args.workspace then .workspace else .agent }

/-! ## Enforcement -/

/-- The settings that the endpoints read from the tables. -/
def Tables.enforcementSettings (backend : Backend τ) (tables : Tables τ) :
    EnforcementSettings where
  isBoundaryRequired := isBoundaryRequired backend tables
  isSubjectTokenRequired := isSubjectTokenRequired tables
  isPopRequired := isPopRequired tables

def MandateName.required : MandateName → EnforcementSettings → String → String → Bool
  | .boundary => EnforcementSettings.isBoundaryRequired
  | .subjectToken => EnforcementSettings.isSubjectTokenRequired
  | .pop => EnforcementSettings.isPopRequired

/-- The mandate that enforcement applies to an agent. -/
def appliedMandate
    (backend : Backend τ)
    (tables : Tables τ)
    (mandate : MandateName)
    (workspaceId agentId : String) : Bool :=
  V1.mandated (some (tables.enforcementSettings backend)) mandate.required workspaceId agentId

/-! ## What is shown -/

theorem appliedMandate_afterCalls
    (default : Bool)
    (stamp : Instant → String)
    (calls : List MandateCall)
    (mandate : MandateName)
    (workspaceId agentId : String) :
    appliedMandate (sqlite default) (.afterCalls (sqlite default) stamp calls) mandate workspaceId
        agentId =
      expectedRequired (mandate.default default) calls mandate workspaceId agentId := by
  have reads := @readRequired_afterCalls _ (sqlite default) stamp (fun _ => rfl) calls mandate
    workspaceId agentId ⟨rfl, rfl⟩
  have answers : readRequired (sqlite default) (.afterCalls (sqlite default) stamp calls) mandate
      workspaceId agentId = .ok (appliedMandate (sqlite default)
        (.afterCalls (sqlite default) stamp calls) mandate workspaceId agentId) := by
    cases mandate <;> rfl
  exact Except.ok.inj (answers.symm.trans reads)

/-- The last value for the agent alone. -/
theorem shownValue_afterCalls
    (default : Bool)
    (stamp : Instant → String)
    (calls : List MandateCall)
    (workspaceId agentId : String)
    {mandate : MandateName}
    (unlisted : mandate ≠ .boundary) :
    shownValue (sqlite default) (.afterCalls (sqlite default) stamp calls) workspaceId agentId
        mandate =
      (lastRequired calls mandate (workspaceId, agentId)).getD false := by
  have stored := @setting_afterCalls _ (sqlite default) stamp calls mandate (workspaceId, agentId)
    ⟨rfl, rfl⟩
  rw [← stored]
  cases mandate with
  | boundary => exact absurd rfl unlisted
  | subjectToken => rfl
  | pop => rfl

/-- The value of an agent alone is the effective one unless it inherits the mandate. -/
theorem getD_eq_expected_iff
    (calls : List MandateCall)
    (mandate : MandateName)
    (workspaceId agentId : String) :
    (lastRequired calls mandate (workspaceId, agentId)).getD false =
        expectedRequired false calls mandate workspaceId agentId ↔
      (lastRequired calls mandate (workspaceId, agentId)).isSome ∨
        lastRequired calls mandate (workspaceId, "") ≠ some true := by
  unfold expectedRequired
  cases lastRequired calls mandate (workspaceId, agentId) with
  | some required => simp
  | none =>
      cases lastRequired calls mandate (workspaceId, "") with
      | none => simp
      | some required => cases required <;> simp

/-- Every command shows the mandate that is enforced if and only if, for the two mandates
of tokens, the agent has a setting of its own or its workspace does not require it. -/
theorem shown_mandates_enforced_iff
    (default : Bool)
    (stamp : Instant → String)
    (calls : List MandateCall)
    (args : MandateArgs)
    (agentId : String)
    (accepted : ∀ mandate, args.target mandate = .ok agentId) :
    (∀ mandate, ∃ shown,
      showMandate (sqlite default) (.afterCalls (sqlite default) stamp calls) args mandate =
          .ok shown ∧
        shown.workspaceId = args.workspaceId ∧ shown.agentId = agentId ∧
        shown.required = appliedMandate (sqlite default)
          (.afterCalls (sqlite default) stamp calls) mandate args.workspaceId agentId) ↔
      ∀ mandate ∈ [MandateName.subjectToken, .pop],
        (lastRequired calls mandate (args.workspaceId, agentId)).isSome ∨
          lastRequired calls mandate (args.workspaceId, "") ≠ some true := by
  have shows : ∀ mandate,
      showMandate (sqlite default) (.afterCalls (sqlite default) stamp calls) args mandate = .ok
        { workspaceId := args.workspaceId
          agentId
          required := shownValue (sqlite default) (.afterCalls (sqlite default) stamp calls)
            args.workspaceId agentId mandate
          scope := if args.workspace then .workspace else .agent } := by
    intro mandate
    rw [showMandate, accepted mandate]
    rfl
  have agrees : ∀ mandate ∈ [MandateName.subjectToken, .pop],
      shownValue (sqlite default) (.afterCalls (sqlite default) stamp calls) args.workspaceId
          agentId mandate = appliedMandate (sqlite default)
            (.afterCalls (sqlite default) stamp calls) mandate args.workspaceId agentId ↔
        (lastRequired calls mandate (args.workspaceId, agentId)).isSome ∨
          lastRequired calls mandate (args.workspaceId, "") ≠ some true := by
    intro mandate listed
    have notBoundary : mandate ≠ .boundary := by
      rintro rfl
      exact absurd listed (by decide)
    have noDefault : mandate.default default = false := by
      cases mandate with
      | boundary => exact absurd rfl notBoundary
      | subjectToken => rfl
      | pop => rfl
    rw [shownValue_afterCalls default stamp calls _ _ notBoundary, appliedMandate_afterCalls,
      noDefault]
    exact getD_eq_expected_iff calls mandate args.workspaceId agentId
  constructor
  · intro shown mandate listed
    obtain ⟨value, isShown, -, -, same⟩ := shown mandate
    rw [shows mandate] at isShown
    obtain rfl := Except.ok.inj isShown
    exact (agrees mandate listed).mp same
  · intro own mandate
    refine ⟨_, shows mandate, rfl, rfl, ?_⟩
    cases mandate with
    | boundary => rfl
    | subjectToken => exact (agrees .subjectToken (by decide)).mpr (own _ (by decide))
    | pop => exact (agrees .pop (by decide)).mpr (own _ (by decide))

/-- An agent with its own settings is shown what is enforced. -/
theorem own_setting_is_shown :
    ∃ shown, showMandate (sqlite true)
        (.afterCalls (sqlite true) (fun _ => "") [⟨.pop, "ws", "a", true, 0⟩])
        { workspaceId := "ws", agentId := "a" } .pop = .ok shown ∧
      shown.workspaceId = "ws" ∧ shown.agentId = "a" ∧
      shown.required = appliedMandate (sqlite true)
        (.afterCalls (sqlite true) (fun _ => "") [⟨.pop, "ws", "a", true, 0⟩]) .pop "ws" "a" :=
  (shown_mandates_enforced_iff true (fun _ => "") [⟨.pop, "ws", "a", true, 0⟩]
    { workspaceId := "ws", agentId := "a" } "a" (by intro mandate; cases mandate <;> rfl)).mpr
    (by decide) .pop

/-- The workspace requires tokens, the command shows that its agent needs none. -/
theorem inherited_mandate_is_not_shown :
    showMandate (sqlite true)
        (.afterCalls (sqlite true) (fun _ => "") [⟨.subjectToken, "ws", "", true, 0⟩])
        { workspaceId := "ws", agentId := "a" } .subjectToken =
      .ok { workspaceId := "ws", agentId := "a", required := false, scope := .agent } ∧
    appliedMandate (sqlite true)
        (.afterCalls (sqlite true) (fun _ => "") [⟨.subjectToken, "ws", "", true, 0⟩])
        .subjectToken "ws" "a" = true := by
  constructor
  · rfl
  · rfl

end Policy
end Vinctor
