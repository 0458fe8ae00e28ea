import Vinctor.Foundation.Text

/-!
# Scopes

A scope is a text `action:resource`.  A grant scope may end in `/*`, which
stands for every resource below its prefix.  This module embeds the validation,
matching and subsumption functions and proves that subsumption is sound for
matching: whatever a narrow scope matches, a scope that subsumes it matches.
-/

namespace Vinctor
namespace Scope

open Foundation

/-- Verbs a scope may name. -/
def allowedActions : List String :=
  ["read", "write", "execute", "deploy", "delete", "send"]

/-- The scope a request attempts to use. -/
def attemptedScope (action resource : String) : String :=
  action ++ ":" ++ resource

def isValidRequestedAction (action : String) : Bool :=
  allowedActions.contains action

/-- Characters of a resource segment: the pattern `[A-Za-z0-9._-]`. -/
def isSegmentCharacter (character : Char) : Bool :=
  ('A' ≤ character && character ≤ 'Z') ||
    ('a' ≤ character && character ≤ 'z') ||
    ('0' ≤ character && character ≤ '9') ||
    character == '.' || character == '_' || character == '-'

/-- A segment matches the segment pattern as a whole. -/
def isSegment (segment : List Char) : Bool :=
  !segment.isEmpty && segment.all isSegmentCharacter

/-- Validity of a resource path; only a grant scope may end in `/*`. -/
def isValidResource (resource : String) (allowTerminalWildcard : Bool) : Bool :=
  let text := resource.toList
  if text.isEmpty then false
  else if text.contains '\x00' || text.contains '\\' || text.contains ':' then false
  else if ['/'].isPrefixOf text || ['/'].isSuffixOf text then false
  else
    let segments := text.splitOn '/'
    if segments.length < 2 then false
    else if segments.any (·.isEmpty) then false
    else if segments.any (fun segment => segment == ['.'] || segment == ['.', '.']) then false
    else
      let wildcardSegments :=
        (List.range segments.length).filter fun index =>
          (segments.getD index []).contains '*'
      if !wildcardSegments.isEmpty then
        allowTerminalWildcard
          && wildcardSegments.length == 1
          && wildcardSegments.head? == some (segments.length - 1)
          && segments.getLast? == some ['*']
          && segments.length ≥ 3
      else segments.all isSegment

def isValidRequestedResource (resource : String) : Bool :=
  isValidResource resource false

/-- A grant scope has exactly one colon, a known verb and a valid resource
that may end in a wildcard. -/
def isValidGrantScope (scope : String) : Bool :=
  match scope.toList.splitOn ':' with
  | [action, resource] =>
      isValidRequestedAction (String.ofList action) &&
        isValidResource (String.ofList resource) true
  | _ => false

/-- A scope whose resource ends in `/*` matches the resources that start with
what precedes the star. -/
def matchesTerminalResourceWildcard (scope action resource : String) : Bool :=
  let parts := Text.partition ':' scope.toList
  if parts.2.1 = false ∨ parts.1 ≠ action.toList then false
  else if ¬ ['/', '*'].isSuffixOf parts.2.2 then false
  else (Text.removeSuffix ['*'] parts.2.2).isPrefixOf resource.toList

/-- The first scope that is the attempted scope or covers it by a wildcard. -/
def matchScope (scopes : List String) (action resource : String) : Option String :=
  scopes.find? fun scope =>
    scope == attemptedScope action resource ||
      matchesTerminalResourceWildcard scope action resource

/-- The broad scope covers everything the narrow scope names. -/
def scopeSubsumes (broadScope narrowScope : String) : Bool :=
  if broadScope = narrowScope then true
  else if ¬ isValidGrantScope broadScope ∨ ¬ isValidGrantScope narrowScope then false
  else
    let broad := Text.partition ':' broadScope.toList
    let narrow := Text.partition ':' narrowScope.toList
    if broad.1 ≠ narrow.1 ∨ ¬ ['/', '*'].isSuffixOf broad.2.2 then false
    else (Text.removeSuffix ['*'] broad.2.2).isPrefixOf narrow.2.2

example : matchScope ["read:repo/main/*"] "read" "repo/main/file" =
    some "read:repo/main/*" := by decide

example : scopeSubsumes "read:repo/main/*" "read:repo/main/docs/*" = true := by
  decide

/-! ## Matching -/

/-- A single scope matches a request. -/
def Matches (scope action resource : String) : Prop :=
  matchScope [scope] action resource ≠ none

theorem matches_iff (scope action resource : String) :
    Matches scope action resource ↔
      scope = attemptedScope action resource ∨
        matchesTerminalResourceWildcard scope action resource = true := by
  unfold Matches matchScope
  rw [ne_eq, List.find?_eq_none]
  simp only [List.mem_singleton, forall_eq, Bool.or_eq_true, beq_iff_eq,
    not_not]

/-- A list of scopes permits what one of them matches. -/
theorem matchScope_ne_none_iff
    (scopes : List String)
    (action resource : String) :
    matchScope scopes action resource ≠ none ↔ ∃ scope ∈ scopes, Matches scope action resource := by
  rw [matchScope, ne_eq, List.find?_eq_none]
  simp only [matches_iff, Bool.or_eq_true, beq_iff_eq, not_forall, not_not, exists_prop]

/-- A match in a list of scopes is a match of a member. -/
theorem matches_of_matchScope
    {scopes : List String}
    {action resource matched : String}
    (found : matchScope scopes action resource = some matched) :
    matched ∈ scopes ∧ Matches matched action resource := by
  refine ⟨List.mem_of_find?_eq_some found, ?_⟩
  rw [matches_iff]
  simpa using List.find?_some found

/-- A valid grant scope has exactly one colon. -/
theorem count_colon_of_isValidGrantScope
    {scope : String}
    (valid : isValidGrantScope scope = true) :
    scope.toList.count ':' = 1 := by
  unfold isValidGrantScope at valid
  split at valid
  · next action resource parts =>
      have length := Text.length_splitOn ':' scope.toList
      rw [parts] at length
      simpa using length.symm
  · simp at valid

/-- Reading a valid scope that names a request exactly returns its two
parts. -/
theorem partition_attemptedScope
    {action resource : String}
    (valid : isValidGrantScope (attemptedScope action resource) = true) :
    Text.partition ':' (attemptedScope action resource).toList =
      (action.toList, true, resource.toList) := by
  have single := count_colon_of_isValidGrantScope valid
  have text : (attemptedScope action resource).toList =
      action.toList ++ ':' :: resource.toList := by
    simp [attemptedScope, String.toList_append]
  rw [text, List.count_append, List.count_cons_self] at single
  have absent : ':' ∉ action.toList := by
    rw [← List.count_eq_zero]
    omega
  rw [text, Text.partition_append_separator absent]

/-- What the wildcard test says, with the resource cut before its star. -/
theorem matchesTerminalResourceWildcard_iff
    (scope action resource : String) :
    matchesTerminalResourceWildcard scope action resource = true ↔
      ∃ stem, Text.partition ':' scope.toList =
          (action.toList, true, stem ++ ['/', '*']) ∧
        stem ++ ['/'] <+: resource.toList := by
  unfold matchesTerminalResourceWildcard
  generalize Text.partition ':' scope.toList = parts
  obtain ⟨scopeAction, found, scopeResource⟩ := parts
  constructor
  · intro accepted
    dsimp only at accepted
    split_ifs at accepted with mismatch notWildcard
    simp only [not_or, not_not, Bool.not_eq_false] at mismatch
    simp only [List.isSuffixOf_iff_suffix] at notWildcard
    obtain ⟨stem, shape⟩ := notWildcard
    refine ⟨stem, ?_, ?_⟩
    · rw [mismatch.1, mismatch.2, ← shape]
    · rw [← shape, show stem ++ ['/', '*'] = (stem ++ ['/']) ++ ['*'] by simp,
        Text.removeSuffix_append] at accepted
      exact List.isPrefixOf_iff_prefix.mp accepted
  · rintro ⟨stem, parts, below⟩
    simp only [Prod.mk.injEq] at parts
    obtain ⟨rfl, rfl, rfl⟩ := parts
    rw [if_neg (by simp), if_neg (by simp),
      show stem ++ ['/', '*'] = (stem ++ ['/']) ++ ['*'] by simp,
      Text.removeSuffix_append]
    exact List.isPrefixOf_iff_prefix.mpr below

/-! ## Subsumption -/

/-- Distinct scopes subsume only through a wildcard of the broad one. -/
theorem scopeSubsumes_cases
    {broad narrow : String}
    (subsumes : scopeSubsumes broad narrow = true) :
    broad = narrow ∨
      (isValidGrantScope narrow = true ∧
        ∃ stem, Text.partition ':' broad.toList =
            ((Text.partition ':' narrow.toList).1, true, stem ++ ['/', '*']) ∧
          stem ++ ['/'] <+: (Text.partition ':' narrow.toList).2.2) := by
  unfold scopeSubsumes at subsumes
  dsimp only at subsumes
  split_ifs at subsumes with same invalid mismatch
  · exact Or.inl same
  · right
    simp only [not_or, not_not] at invalid mismatch
    obtain ⟨sameAction, wildcard⟩ := mismatch
    rw [List.isSuffixOf_iff_suffix] at wildcard
    obtain ⟨stem, shape⟩ := wildcard
    refine ⟨invalid.2, stem, ?_, ?_⟩
    · have colon : (Text.partition ':' broad.toList).2.1 = true := by
        by_contra missing
        have single := count_colon_of_isValidGrantScope invalid.1
        have present : ':' ∈ broad.toList := by
          rw [← List.count_pos_iff]
          omega
        exact missing (Text.partition_found_of_mem present)
      rw [← sameAction, shape, ← colon]
    · rw [← shape, show stem ++ ['/', '*'] = (stem ++ ['/']) ++ ['*'] by simp,
        Text.removeSuffix_append] at subsumes
      exact List.isPrefixOf_iff_prefix.mp subsumes

/-- A slash-terminated prefix of a text that ends in a star is a prefix of the
text before the star. -/
theorem prefix_of_prefix_star
    {stem text : List Char}
    (below : stem ++ ['/'] <+: text ++ ['*']) :
    stem ++ ['/'] <+: text := by
  rw [List.prefix_concat_iff] at below
  rcases below with equal | below
  · have last := congrArg List.getLast? equal
    simp at last
  · exact below

/-- Subsumption is sound for matching. -/
theorem matches_of_scopeSubsumes
    {broad narrow action resource : String}
    (subsumes : scopeSubsumes broad narrow = true)
    (narrowMatches : Matches narrow action resource) :
    Matches broad action resource := by
  rcases scopeSubsumes_cases subsumes with same | ⟨narrowValid, stem, broadParts, below⟩
  · rwa [same]
  rw [matches_iff, matchesTerminalResourceWildcard_iff]
  right
  rw [matches_iff, matchesTerminalResourceWildcard_iff] at narrowMatches
  rcases narrowMatches with exact | ⟨narrowStem, narrowParts, narrowBelow⟩
  · -- The narrow scope is the request itself, so its resource is the requested one.
    subst exact
    rw [partition_attemptedScope narrowValid] at broadParts below
    exact ⟨stem, broadParts, below⟩
  · rw [narrowParts] at broadParts below
    refine ⟨stem, broadParts, ?_⟩
    have cut : stem ++ ['/'] <+: (narrowStem ++ ['/']) ++ ['*'] := by
      simpa using below
    exact (prefix_of_prefix_star cut).trans narrowBelow

end Scope
end Vinctor
