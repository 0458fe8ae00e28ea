import Mathlib.Data.List.TakeWhile
import Vinctor.Service.PolicyFiles

/-!
# Exported policies

A policy is exported as the document that an application reads: agent bounds with their
caps, rules with their lifetimes and statuses, and the boundary mandates that are set.
An agent without a cap leaves the key out, and an agent that is exempted from the boundary
mandate is not listed.  Every entry that is exported parses as what it was exported from.
-/

namespace Vinctor
namespace PolicyFiles

open Foundation
open Fallible
open Policy

/-! ## Export -/

/-- A lifetime as a duration. -/
def secondsText (seconds : Int) : String := toString seconds ++ "s"

/-- Bounds of the agents of a workspace, in order. -/
def listBoundsForWorkspace
    (backend : Backend τ)
    (workspaceId : String)
    (tables : Tables τ) : List (String × List String) :=
  (ofWorkspace backend workspaceId tables.bounds).map fun entry => (entry.1.2, entry.2.scopes)

/-- Rules of a workspace in the order of their creation. -/
def listRulesForWorkspace
    (backend : Backend τ)
    (workspaceId : String)
    (tables : Tables τ) : List (String × RuleRow τ) :=
  (tables.rules.entries.filter fun entry => entry.2.workspaceId = workspaceId).insertionSort
    fun first second => rulesInOrder backend first second

/-- The cap is read again.  Where there is none, the key is left out. -/
def exportedCap (cap : Option Int) : Members :=
  match cap with
  | none => []
  | some seconds => [("max_ttl", .str (secondsText seconds))]

def boundsMembers (agentId : String) (scopes : List String) (cap : Option Int) : Members :=
  [("agent_id", .str agentId), ("scopes", .arr (scopes.map .str))] ++ exportedCap cap

def exportedBounds
    (workspaceId : String)
    (tables : Tables τ)
    (listed : String × List String) : Json :=
  .obj (boundsMembers listed.1 listed.2
    ((tables.bounds.get? (workspaceId, listed.1)).bind (·.maxTtlSeconds)))

def ruleMembers (rule : String × RuleRow τ) : Members :=
  [("rule_id", .str rule.1), ("name", .str rule.2.name),
    ("target_agent_id", .str rule.2.targetAgentId),
    ("allowed_scopes", .arr (rule.2.allowedScopes.map .str)),
    ("max_ttl", .str (secondsText rule.2.maxTtlSeconds)),
    ("status", .str (statusText rule.2.status))]

def exportedRule (rule : String × RuleRow τ) : Json := .obj (ruleMembers rule)

/-- The override of the workspace itself. -/
def workspaceOverride (overrides : List (String × Bool)) : Option Bool :=
  ((overrides.filter fun override => override.1 = "").getLast?).map Prod.snd

/-- The agents whose override demands the mandate, in order. -/
def demandedAgents (overrides : List (String × Bool)) : List String :=
  ((overrides.filter fun override => override.1 ≠ "" ∧ override.2).map Prod.fst).insertionSort
    fun first second => Json.codePointsLE first.toList second.toList

def exportedWorkspaceOverride (override : Option Bool) : Members :=
  match override with
  | none => []
  | some required => [("workspace", .bool required)]

def exportedAgents (agents : List String) : Members :=
  if agents = [] then [] else [("agents", .arr (agents.map .str))]

def exportedBoundary (overrides : List (String × Bool)) : Members :=
  if overrides = [] then []
  else
    [("require_boundary",
      .obj (exportedWorkspaceOverride (workspaceOverride overrides) ++
        exportedAgents (demandedAgents overrides)))]

def documentMembers
    (backend : Backend τ)
    (workspaceId : String)
    (tables : Tables τ) : Members :=
  [("version", .int 1), ("workspace_id", .str workspaceId),
    ("agent_bounds",
      .arr ((listBoundsForWorkspace backend workspaceId tables).map
        (exportedBounds workspaceId tables))),
    ("auto_approval_rules",
      .arr ((listRulesForWorkspace backend workspaceId tables).map exportedRule))] ++
    exportedBoundary (boundaryOverrides backend tables workspaceId)

def exportPolicyDocument
    (backend : Backend τ)
    (workspaceId : String)
    (tables : Tables τ) : Except PolicyError Json := do
  ensure (backend.admitsText workspaceId) .data
  return .obj (documentMembers backend workspaceId tables)

/-! ## What is exported -/

def boundsRead (entry : (String × String) × BoundsRow τ) : ParsedBounds where
  agentId := entry.1.2
  scopes := entry.2.scopes
  maxTtlDeclared := entry.2.maxTtlSeconds.isSome
  maxTtlSeconds := entry.2.maxTtlSeconds

def ruleRead (rule : String × RuleRow τ) : ParsedRule where
  ruleId := some rule.1
  name := rule.2.name
  targetAgentId := rule.2.targetAgentId
  allowedScopes := rule.2.allowedScopes
  maxTtlSeconds := rule.2.maxTtlSeconds
  status := rule.2.status

/-- What an application reads of the exported document. -/
def documentRead
    (backend : Backend τ)
    (workspaceId : String)
    (tables : Tables τ) : PolicyDocument where
  agentBounds := (ofWorkspace backend workspaceId tables.bounds).map boundsRead
  autoApprovalRules := (listRulesForWorkspace backend workspaceId tables).map ruleRead
  requireBoundaryWorkspace := workspaceOverride (boundaryOverrides backend tables workspaceId)
  requireBoundaryAgents := demandedAgents (boundaryOverrides backend tables workspaceId)

/-- Lifetimes that a database stores. -/
def Lifetime (seconds : Int) : Prop := 0 < seconds ∧ seconds ≤ 9223372036854775807

/-- The policy of a workspace can be written and read: names are not empty, and lifetimes
are positive. -/
structure Readable (workspaceId : String) (tables : Tables τ) : Prop where
  bounds : ∀ agentId row, tables.bounds.get? (workspaceId, agentId) = some row →
    agentId ≠ "" ∧ row.scopes ≠ [] ∧ "" ∉ row.scopes ∧ ∀ cap ∈ row.maxTtlSeconds, Lifetime cap
  rules : ∀ ruleId row, tables.rules.get? ruleId = some row → row.workspaceId = workspaceId →
    ruleId ≠ "" ∧ row.name ≠ "" ∧ row.targetAgentId ≠ "" ∧ row.allowedScopes ≠ [] ∧
      "" ∉ row.allowedScopes ∧ Lifetime row.maxTtlSeconds

/-! ## Reading the export -/

theorem toList_secondsText {seconds : Int} (lifetime : Lifetime seconds) :
    (secondsText seconds).toList = Nat.toDigits 10 seconds.toNat ++ ['s'] := by
  have positive : 0 ≤ seconds := by
    unfold Lifetime at lifetime
    omega
  rw [secondsText, Int.toString_eq_repr, Int.repr_eq_if, if_pos positive, String.toList_append,
    Nat.toList_repr]
  rfl

theorem isSome_decimalValue
    {number : Nat}
    {character : Char}
    (present : character ∈ Nat.toDigits 10 number) :
    (Text.decimalValue character).isSome = true := by
  rw [Text.decimalValue_of_isDigit (Nat.isDigit_of_mem_toDigits (by decide) (by decide) present)]
  rfl

theorem decimalInteger_toDigits {number : Nat} (short : number < 10 ^ 19) :
    decimalInteger (Nat.toDigits 10 number) = .ok number := by
  have whole : (Nat.toDigits 10 number).takeWhile
      (fun character => (Text.decimalValue character).isSome) = Nat.toDigits 10 number :=
    List.takeWhile_eq_self_iff.mpr fun character present => isSome_decimalValue present
  have length := (Nat.length_toDigits_le_iff (b := 10) (k := 19) (by decide) (by decide)).mpr short
  have within : ¬Text.maxIntegerDigits < (Nat.toDigits 10 number).length := by
    unfold Text.maxIntegerDigits
    omega
  rw [decimalInteger, whole, if_neg within, if_pos rfl, Text.decimalNumber_toDigits]

/-- The duration of a lifetime is read as the lifetime. -/
theorem durationStringSeconds_secondsText {seconds : Int} (lifetime : Lifetime seconds) :
    durationStringSeconds (secondsText seconds) = .ok seconds := by
  have text := toList_secondsText lifetime
  have digits : (Nat.toDigits 10 seconds.toNat).all Text.isDigit = true := by
    rw [List.all_eq_true]
    intro character present
    rw [Text.isDigit, isSome_decimalValue present, Bool.true_or]
  have short : seconds.toNat < 10 ^ 19 := by
    unfold Lifetime at lifetime
    omega
  have value : ((seconds.toNat : Nat) : Int) = seconds := by
    unfold Lifetime at lifetime
    omega
  rw [durationStringSeconds, text, List.dropLast_concat, List.getLast?_concat]
  simp only [Option.bind_some, unitSeconds, require, ok_bind, ensure, Nat.toDigits_ne_nil, ne_eq,
    not_false_eq_true, digits, and_self, if_true, decimalInteger_toDigits short, value, mul_one]
  rfl

theorem secondsText_ne_empty {seconds : Int} (lifetime : Lifetime seconds) :
    secondsText seconds ≠ "" := by
  intro empty
  have text := toList_secondsText lifetime
  rw [empty] at text
  simp at text

theorem mapM_nonEmptyText {texts : List String} (named : "" ∉ texts) :
    (texts.map Json.str).mapM nonEmptyText? = some texts := by
  induction texts with
  | nil => rfl
  | cons text rest inductionHypothesis =>
      rw [List.mem_cons, not_or] at named
      rw [List.map_cons, List.mapM_cons, inductionHypothesis named.2, nonEmptyText?,
        if_neg (Ne.symm named.1)]
      rfl

/-! ## Entries -/

theorem rejectExtra_eq_ok
    {members : Members}
    {allowed : List String}
    (label : String)
    (known : ∀ member ∈ members, member.1 ∈ allowed) :
    rejectExtra members allowed label = .ok () := by
  have none : (members.map Prod.fst).filter (· ∉ allowed) = [] := by
    rw [List.filter_eq_nil_iff]
    intro key present
    obtain ⟨member, isMember, rfl⟩ := List.mem_map.mp present
    simpa using known member isMember
  rw [rejectExtra, extraFields, none, List.insertionSort_nil]

theorem requiredStringList_texts
    {members : Members}
    {field : String}
    {texts : List String}
    (given : Json.get? members field = some (.arr (texts.map .str)))
    (some' : texts ≠ [])
    (named : "" ∉ texts) :
    requiredStringList members field = .ok texts := by
  cases texts with
  | nil => exact absurd rfl some'
  | cons text rest =>
      rw [requiredStringList, given]
      exact congrArg (require · _) (mapM_nonEmptyText named)

theorem requiredString_text
    {members : Members}
    {field text : String}
    (given : Json.get? members field = some (.str text))
    (named : text ≠ "") :
    requiredString members field = .ok text := by
  rw [requiredString, given, Option.bind_some, nonEmptyText?, if_neg named]
  rfl

section BoundsEntry

variable (agentId : String) (scopes : List String) (cap : Option Int)

theorem rejectExtra_boundsMembers :
    rejectExtra (boundsMembers agentId scopes cap)
      ["agent_id", "scopes", "max_ttl", "max_ttl_seconds"] "agent_bounds entry" = .ok () := by
  apply rejectExtra_eq_ok
  cases cap with
  | none => simp [boundsMembers, exportedCap]
  | some seconds => simp [boundsMembers, exportedCap]

theorem get?_boundsMembers :
    Json.get? (boundsMembers agentId scopes cap) "agent_id" = some (.str agentId) ∧
      Json.get? (boundsMembers agentId scopes cap) "scopes" = some (.arr (scopes.map .str)) ∧
      Json.get? (boundsMembers agentId scopes cap) "max_ttl" =
        cap.map (fun seconds => .str (secondsText seconds)) ∧
      Json.get? (boundsMembers agentId scopes cap) "max_ttl_seconds" = none := by
  cases cap with
  | none => simp [Json.get?, boundsMembers, exportedCap]
  | some seconds => simp [Json.get?, boundsMembers, exportedCap]

end BoundsEntry

/-- A cap is read as it was, and no cap as none declared. -/
theorem boundsMaxTtl_boundsMembers
    (printed : Printer)
    (agentId : String)
    (scopes : List String)
    {cap : Option Int}
    (lifetimes : ∀ seconds ∈ cap, Lifetime seconds) :
    boundsMaxTtl printed (boundsMembers agentId scopes cap) = .ok (cap.isSome, cap) := by
  obtain ⟨-, -, text, noSeconds⟩ := get?_boundsMembers agentId scopes cap
  have one : bothLifetimes (boundsMembers agentId scopes cap) = false := by
    rw [bothLifetimes, declares, declares, noSeconds, Option.isSome_none, Bool.and_false]
  rw [boundsMaxTtl, one, text, noSeconds]
  cases cap with
  | none => rfl
  | some seconds =>
      have lifetime := lifetimes seconds rfl
      simp only [Option.map_some, ensure, secondsText_ne_empty lifetime, ne_eq, not_false_eq_true,
        if_true, ok_bind, durationStringSeconds_secondsText lifetime]
      rfl

theorem parseBoundsEntry_exportedBounds
    (printed : Printer)
    {workspaceId agentId : String}
    {tables : Tables τ}
    {row : BoundsRow τ}
    (readable : Readable workspaceId tables)
    (found : tables.bounds.get? (workspaceId, agentId) = some row) :
    parseBoundsEntry printed (exportedBounds workspaceId tables (agentId, row.scopes)) =
      .ok (boundsRead ((workspaceId, agentId), row)) := by
  obtain ⟨named, listed, scopes, lifetimes⟩ := readable.bounds agentId row found
  obtain ⟨isAgent, isScopes, -, -⟩ := get?_boundsMembers agentId row.scopes row.maxTtlSeconds
  rw [parseBoundsEntry, exportedBounds, found, Option.bind_some, mapping, ok_bind,
    rejectExtra_boundsMembers, ok_bind, requiredString_text isAgent named, ok_bind,
    requiredStringList_texts isScopes listed scopes, ok_bind,
    boundsMaxTtl_boundsMembers printed agentId row.scopes lifetimes]
  rfl

theorem rejectExtra_ruleMembers (rule : String × RuleRow τ) :
    rejectExtra (ruleMembers rule) ["rule_id", "name", "target_agent_id", "allowed_scopes",
      "max_ttl", "max_ttl_seconds", "status"] "auto_approval_rules entry" = .ok () := by
  apply rejectExtra_eq_ok
  simp [ruleMembers]

theorem get?_ruleMembers (rule : String × RuleRow τ) :
    Json.get? (ruleMembers rule) "rule_id" = some (.str rule.1) ∧
      Json.get? (ruleMembers rule) "name" = some (.str rule.2.name) ∧
      Json.get? (ruleMembers rule) "target_agent_id" = some (.str rule.2.targetAgentId) ∧
      Json.get? (ruleMembers rule) "allowed_scopes" =
        some (.arr (rule.2.allowedScopes.map .str)) ∧
      Json.get? (ruleMembers rule) "max_ttl" = some (.str (secondsText rule.2.maxTtlSeconds)) ∧
      Json.get? (ruleMembers rule) "status" = some (.str (statusText rule.2.status)) ∧
      Json.get? (ruleMembers rule) "max_ttl_seconds" = none := by
  simp [Json.get?, ruleMembers]

theorem parseStatus_statusText (status : ApprovalRuleStatus) :
    parseStatus (some (.str (statusText status))) = .ok status := by
  cases status with
  | active => rfl
  | disabled => rfl

theorem parseRuleEntry_exportedRule
    {workspaceId ruleId : String}
    {tables : Tables τ}
    {row : RuleRow τ}
    (readable : Readable workspaceId tables)
    (found : tables.rules.get? ruleId = some row)
    (mine : row.workspaceId = workspaceId) :
    parseRuleEntry (exportedRule (ruleId, row)) = .ok (ruleRead (ruleId, row)) := by
  obtain ⟨identified, named, targeted, listed, scopes, lifetime⟩ :=
    readable.rules ruleId row found mine
  obtain ⟨isId, isName, isTarget, isScopes, isText, isStatus, noSeconds⟩ :=
    get?_ruleMembers (ruleId, row)
  have one : bothLifetimes (ruleMembers (ruleId, row)) = false := by
    rw [bothLifetimes, declares, declares, noSeconds, Option.isSome_none, Bool.and_false]
  have optional : optionalString (ruleMembers (ruleId, row)) "rule_id" = .ok (some ruleId) := by
    rw [optionalString, isId]
    simp only [nonEmptyText?, if_neg identified, require]
    rfl
  have duration : durationSeconds (ruleMembers (ruleId, row)) = .ok row.maxTtlSeconds := by
    rw [durationSeconds, noSeconds, isText]
    simp only [Option.bind_some, nonEmptyText?, if_neg (secondsText_ne_empty lifetime), require,
      ok_bind, durationStringSeconds_secondsText lifetime]
  rw [parseRuleEntry, exportedRule, mapping, ok_bind, rejectExtra_ruleMembers, ok_bind, one,
    isStatus, parseStatus_statusText, optional, requiredString_text isName named,
    requiredString_text isTarget targeted, requiredStringList_texts isScopes listed scopes,
    duration]
  rfl

/-! ## Boundary mandates -/

theorem get?_exportedBlock (override : Option Bool) (agents : List String) :
    Json.get? (exportedWorkspaceOverride override ++ exportedAgents agents) "workspace" =
        override.map Json.bool ∧
      Json.get? (exportedWorkspaceOverride override ++ exportedAgents agents) "agents" =
        if agents = [] then none else some (.arr (agents.map .str)) := by
  cases override with
  | none =>
      by_cases empty : agents = []
      · simp [Json.get?, exportedWorkspaceOverride, exportedAgents, empty]
      · simp [Json.get?, exportedWorkspaceOverride, exportedAgents, empty]
  | some required =>
      by_cases empty : agents = []
      · simp [Json.get?, exportedWorkspaceOverride, exportedAgents, empty]
      · simp [Json.get?, exportedWorkspaceOverride, exportedAgents, empty]

theorem rejectExtra_exportedBlock (override : Option Bool) (agents : List String) :
    rejectExtra (exportedWorkspaceOverride override ++ exportedAgents agents)
      ["workspace", "agents"] "require_boundary" = .ok () := by
  apply rejectExtra_eq_ok
  intro member present
  rcases List.mem_append.mp present with ofWorkspace | ofAgents
  · cases override with
    | none => cases ofWorkspace
    | some required =>
        rw [List.mem_singleton.mp ofWorkspace]
        simp
  · rw [exportedAgents] at ofAgents
    split at ofAgents
    · cases ofAgents
    · rw [List.mem_singleton.mp ofAgents]
      simp

theorem empty_notMem_demandedAgents (overrides : List (String × Bool)) :
    "" ∉ demandedAgents overrides := by
  intro present
  rw [demandedAgents, List.mem_insertionSort] at present
  obtain ⟨override, kept, isEmpty⟩ := List.mem_map.mp present
  have named := (List.mem_filter.mp kept).2
  rw [isEmpty] at named
  simp at named

theorem parseRequireBoundary_exportedBoundary
    {document : Members}
    {overrides : List (String × Bool)}
    (block : Json.get? document "require_boundary" =
      Json.get? (exportedBoundary overrides) "require_boundary") :
    parseRequireBoundary document =
      .ok (workspaceOverride overrides, demandedAgents overrides) := by
  rw [parseRequireBoundary, block, exportedBoundary]
  by_cases none : overrides = []
  · rw [if_pos none, none]
    rfl
  · rw [if_neg none]
    obtain ⟨isWorkspace, isAgents⟩ :=
      get?_exportedBlock (workspaceOverride overrides) (demandedAgents overrides)
    have isBlock : ∀ members : Members, Json.get? [("require_boundary", .obj members)]
        "require_boundary" = some (.obj members) := by
      simp [Json.get?]
    have workspace : parseBoundaryWorkspace
        (exportedWorkspaceOverride (workspaceOverride overrides) ++
          exportedAgents (demandedAgents overrides)) = .ok (workspaceOverride overrides) := by
      rw [parseBoundaryWorkspace, isWorkspace]
      cases workspaceOverride overrides with
      | none => rfl
      | some required => rfl
    have agents : parseBoundaryAgents
        (exportedWorkspaceOverride (workspaceOverride overrides) ++
          exportedAgents (demandedAgents overrides)) = .ok (demandedAgents overrides) := by
      rw [parseBoundaryAgents, isAgents]
      by_cases empty : demandedAgents overrides = []
      · rw [if_pos empty, empty]
      · rw [if_neg empty]
        exact congrArg (require · _) (mapM_nonEmptyText (empty_notMem_demandedAgents overrides))
    rw [isBlock]
    simp only [mapping, ok_bind, rejectExtra_exportedBlock, workspace, agents]
    rfl

/-! ## The document -/

section Document

variable {backend : Backend τ} {workspaceId : String} {tables : Tables τ}

theorem exportPolicyDocument_eq_ok {document : Json} :
    exportPolicyDocument backend workspaceId tables = .ok document ↔
      backend.admitsText workspaceId = true ∧
        document = .obj (documentMembers backend workspaceId tables) := by
  simp only [exportPolicyDocument, bind_eq_ok, ensure_eq_ok, pure_eq_ok]
  constructor
  · rintro ⟨-, admitted, rfl⟩
    exact ⟨admitted, rfl⟩
  · rintro ⟨admitted, rfl⟩
    exact ⟨(), admitted, rfl⟩

theorem mem_exportedBoundary
    {overrides : List (String × Bool)}
    {member : String × Json}
    (present : member ∈ exportedBoundary overrides) :
    member.1 = "require_boundary" := by
  rw [exportedBoundary] at present
  split at present
  · cases present
  · rw [List.mem_singleton.mp present]

theorem get?_documentMembers :
    Json.get? (documentMembers backend workspaceId tables) "version" = some (.int 1) ∧
      Json.get? (documentMembers backend workspaceId tables) "workspace_id" =
        some (.str workspaceId) ∧
      Json.get? (documentMembers backend workspaceId tables) "agent_bounds" =
        some (.arr ((listBoundsForWorkspace backend workspaceId tables).map
          (exportedBounds workspaceId tables))) ∧
      Json.get? (documentMembers backend workspaceId tables) "auto_approval_rules" =
        some (.arr ((listRulesForWorkspace backend workspaceId tables).map exportedRule)) ∧
      Json.get? (documentMembers backend workspaceId tables) "proposed" = none ∧
      Json.get? (documentMembers backend workspaceId tables) "require_boundary" =
        Json.get? (exportedBoundary (boundaryOverrides backend tables workspaceId))
          "require_boundary" := by
  unfold documentMembers exportedBoundary
  split
  · simp [Json.get?]
  · simp [Json.get?]

theorem loadPolicyDocument_documentMembers :
    loadPolicyDocument (.obj (documentMembers backend workspaceId tables)) =
      .ok (documentMembers backend workspaceId tables) := by
  obtain ⟨version, -, bounds, -, proposed, -⟩ := @get?_documentMembers τ backend workspaceId tables
  have known : ∀ member ∈ documentMembers backend workspaceId tables, member.1 ∈
      ["version", "workspace_id", "agent_bounds", "auto_approval_rules", "require_boundary"] := by
    intro member present
    rcases List.mem_append.mp present with listed | ofBoundary
    · simp only [List.mem_cons, List.not_mem_nil, or_false] at listed
      rcases listed with rfl | rfl | rfl | rfl
      all_goals simp
    · rw [mem_exportedBoundary ofBoundary]
      simp
  simp only [loadPolicyDocument, ok_bind, declares, proposed, bounds, version, rejectExtra_eq_ok
    "policy" known, ensure, Option.isSome_none, Option.isSome_some, Option.any_some, isOne,
    decide_true, if_true, true_or]
  rfl

/-- The document names the workspace it was exported from. -/
theorem checkWorkspace_documentMembers :
    checkWorkspace (documentMembers backend workspaceId tables) workspaceId = .ok () := by
  obtain ⟨-, named, -, -, -, -⟩ := @get?_documentMembers τ backend workspaceId tables
  simp only [checkWorkspace, named, ensure, if_true]

theorem mem_listRulesForWorkspace {rule : String × RuleRow τ} :
    rule ∈ listRulesForWorkspace backend workspaceId tables ↔
      tables.rules.get? rule.1 = some rule.2 ∧ rule.2.workspaceId = workspaceId := by
  rw [listRulesForWorkspace, List.mem_insertionSort, List.mem_filter, Dict.get?_eq_some_iff,
    decide_eq_true_eq]

/-- The entries of an exported document parse as what they were exported from. -/
theorem parseDocument_documentMembers
    (printed : Printer)
    (readable : Readable workspaceId tables) :
    parseDocument printed (documentMembers backend workspaceId tables) =
      .ok (documentRead backend workspaceId tables) := by
  obtain ⟨-, -, isBounds, isRules, -, isBoundary⟩ :=
    @get?_documentMembers τ backend workspaceId tables
  have bounds : ((listBoundsForWorkspace backend workspaceId tables).map
      (exportedBounds workspaceId tables)).mapM (parseBoundsEntry printed) =
        .ok ((ofWorkspace backend workspaceId tables.bounds).map boundsRead) := by
    rw [listBoundsForWorkspace, List.map_map, List.mapM_map]
    apply mapM_eq_ok
    rintro ⟨⟨workspace, agentId⟩, row⟩ present
    obtain ⟨stored, mine⟩ := mem_ofWorkspace.mp present
    obtain rfl : workspace = workspaceId := mine
    exact parseBoundsEntry_exportedBounds printed readable
      ((Dict.get?_eq_some_iff _ _ _).mpr stored)
  have rules : ((listRulesForWorkspace backend workspaceId tables).map exportedRule).mapM
      parseRuleEntry = .ok ((listRulesForWorkspace backend workspaceId tables).map ruleRead) := by
    rw [List.mapM_map]
    apply mapM_eq_ok
    rintro ⟨ruleId, row⟩ present
    obtain ⟨found, mine⟩ := mem_listRulesForWorkspace.mp present
    exact parseRuleEntry_exportedRule readable found mine
  have listedBounds : requiredList (documentMembers backend workspaceId tables) "agent_bounds" =
      .ok ((listBoundsForWorkspace backend workspaceId tables).map
        (exportedBounds workspaceId tables)) := by
    rw [requiredList, isBounds]
  have listedRules : requiredList (documentMembers backend workspaceId tables)
      "auto_approval_rules" =
        .ok ((listRulesForWorkspace backend workspaceId tables).map exportedRule) := by
    rw [requiredList, isRules]
  exact parseDocument_eq_ok.mpr ⟨_, _, listedBounds, bounds, listedRules, rules,
    parseRequireBoundary_exportedBoundary isBoundary⟩

end Document

/-- An exported document is applied as what it was exported from. -/
theorem applyPolicyFile_export
    (printed : Printer)
    {backend : Backend τ}
    {target : Backend σ}
    {stableRuleId : StableRuleId}
    {workspaceId appliedBy : String}
    {tables : Tables τ}
    {document : Json}
    (readable : Readable workspaceId tables)
    (exports : exportPolicyDocument backend workspaceId tables = .ok document)
    {now : σ}
    {before : Tables σ}
    {result : PolicyApplyResult × Tables σ} :
    applyPolicyFile printed target stableRuleId document workspaceId appliedBy now before =
        .ok result ↔
      Policy.applyPolicyDocument target stableRuleId (documentRead backend workspaceId tables)
        workspaceId appliedBy now before = .ok result := by
  obtain ⟨-, rfl⟩ := exportPolicyDocument_eq_ok.mp exports
  rw [applyPolicyFile, loadPolicyDocument_documentMembers, ok_bind, checkWorkspace_documentMembers,
    ok_bind, applyMembers_eq_ok (parseDocument_documentMembers printed readable)]

end PolicyFiles
end Vinctor
