import Vinctor.Core.KeptPairs

/-!
# What the proposed scopes stand for

The proposals share the kept pairs out among them: a pair stands alone, or with the other kept
pairs of its action and parent.  The scope of a proposal can be read back into its action and
parent, so that scopes are distinct, and sorting by them leaves no trace of the order in which
the pairs were seen.
-/

namespace Vinctor
namespace Infer

open Foundation
open Scope

/-! ## The pairs of a proposal -/

/-- The wildcard of a group. -/
def wildcardOf (group : String × String) : String := group.1 ++ ":" ++ group.2 ++ "/*"

/-- A group that is proposed as a wildcard when it has so many members. -/
def Widened (group : String × String) (count : Nat) : Prop :=
  2 ≤ count ∧ 2 ≤ (group.2.toList.splitOn '/').length ∧ isValidGrantScope (wildcardOf group) = true

/-- A proposal stands for pairs: for a single one, or for several of a group. -/
structure StandsFor
    (observations : List Observation)
    (proposal : ScopeProposal)
    (pairs : List (String × String)) : Prop where
  valid : isValidGrantScope proposal.scope = true
  covers : proposal.covers.Perm (pairs.map fun pair => attemptedScope pair.1 pair.2)
  count : proposal.count = (pairs.map (total observations)).sum
  lastSeen : proposal.lastSeen =
    pairs.foldl (fun seen pair => latest seen (lastSighting observations pair)) none
  matched : ∀ pair ∈ pairs, Matches proposal.scope pair.1 pair.2
  shape : (∃ pair, pairs = [pair] ∧ proposal.scope = attemptedScope pair.1 pair.2 ∧
      proposal.generalized = false) ∨
    (∃ group, Widened group pairs.length ∧ proposal.scope = wildcardOf group ∧
      proposal.generalized = true ∧ ∀ pair ∈ pairs, groupOf pair = group)

/-- A proposal stands for some pair. -/
theorem StandsFor.exists_pair
    {observations : List Observation}
    {proposal : ScopeProposal}
    {pairs : List (String × String)}
    (stands : StandsFor observations proposal pairs) :
    ∃ pair, pair ∈ pairs := by
  rcases stands.shape with ⟨pair, rfl, _⟩ | ⟨group, ⟨many, _⟩, _⟩
  · exact ⟨pair, List.mem_cons_self⟩
  · apply List.exists_mem_of_length_pos
    omega

/-- What is reported as seen last was seen of one of the pairs. -/
theorem StandsFor.exists_observation
    {observations : List Observation}
    {proposal : ScopeProposal}
    {pairs : List (String × String)}
    (stands : StandsFor observations proposal pairs)
    {text : String}
    (isLast : text ∈ proposal.lastSeen) :
    ∃ observation ∈ observations, observation.pair ∈ pairs ∧ text ∈ observation.lastSeen := by
  rw [stands.lastSeen] at isLast
  obtain ⟨pair, isPair, ofPair⟩ := mem_of_mem_foldl_latest isLast
  obtain ⟨observation, member, isText⟩ := mem_of_mem_foldl_latest ofPair
  rw [List.mem_filter, decide_eq_true_eq] at member
  obtain ⟨observed, samePair⟩ := member
  refine ⟨observation, observed, ?_, isText⟩
  rw [samePair]
  exact isPair

/-- Nothing was seen of the pairs after what is reported as seen last. -/
theorem StandsFor.exists_le_lastSeen
    {observations : List Observation}
    {proposal : ScopeProposal}
    {pairs : List (String × String)}
    (stands : StandsFor observations proposal pairs)
    {observation : Observation}
    (observed : observation ∈ observations)
    (isPair : observation.pair ∈ pairs)
    {text : String}
    (isText : text ∈ observation.lastSeen) :
    ∃ late ∈ proposal.lastSeen, text ≤ late := by
  have ofPair : observation ∈ observations.filter fun other => other.pair = observation.pair := by
    rw [List.mem_filter, decide_eq_true_eq]
    exact ⟨observed, rfl⟩
  obtain ⟨late, isLate, below⟩ := exists_foldl_latest_of_mem ofPair isText
  have reported : ∃ later ∈ proposal.lastSeen, late ≤ later := by
    rw [stands.lastSeen]
    exact exists_foldl_latest_of_mem isPair isLate
  obtain ⟨later, isLater, below'⟩ := reported
  exact ⟨later, isLater, below.trans below'⟩

def alone
    (observations : List Observation)
    (pair : String × String) : ScopeProposal × List (String × String) :=
  (exactProposal pair.1 pair.2 (total observations pair) (lastSighting observations pair), [pair])

theorem standsFor_alone
    (observations : List Observation)
    {pair : String × String}
    (valid : ValidPair pair) :
    StandsFor observations (alone observations pair).1 (alone observations pair).2 where
  valid := valid.isValidGrantScope
  covers := List.Perm.refl _
  count := rfl
  lastSeen := rfl
  matched other isOther := by
    rw [List.mem_singleton.mp isOther, matches_iff]
    exact Or.inl rfl
  shape := Or.inl ⟨pair, rfl, rfl, rfl⟩

def together
    (observations : List Observation)
    (group : String × String)
    (pairs : List (String × String)) : ScopeProposal × List (String × String) :=
  ({ scope := wildcardOf group
     count := (pairs.map (total observations)).sum
     lastSeen := pairs.foldl (fun seen pair => latest seen (lastSighting observations pair)) none
     generalized := true
     covers :=
      (pairs.map fun pair => attemptedScope group.1 pair.2).insertionSort (· ≤ ·) }, pairs)

theorem toList_wildcardOf (group : String × String) :
    (wildcardOf group).toList = group.1.toList ++ ':' :: (group.2.toList ++ ['/', '*']) := by
  rw [wildcardOf, String.toList_append, String.toList_append, String.toList_append,
    List.append_assoc, List.append_assoc]
  rfl

/-- The wildcard of its group matches a pair. -/
theorem ValidPair.matches_wildcardOf
    {pair : String × String}
    (valid : ValidPair pair) :
    Matches (wildcardOf (groupOf pair)) pair.1 pair.2 := by
  rw [Scope.matches_iff, matchesTerminalResourceWildcard_iff]
  right
  obtain ⟨last, _, text⟩ := exists_last_of_slash (slash_mem_of_valid valid.2)
  refine ⟨(parentOf pair.2).toList, ?_, last, ?_⟩
  · rw [toList_wildcardOf]
    exact Text.partition_append_separator valid.noColon _
  · rw [List.append_assoc, List.singleton_append, ← text]

theorem standsFor_together
    (observations : List Observation)
    {group : String × String}
    {pairs : List (String × String)}
    (valid : ∀ pair ∈ pairs, ValidPair pair)
    (ofGroup : ∀ pair ∈ pairs, groupOf pair = group)
    (widened : Widened group pairs.length) :
    StandsFor observations (together observations group pairs).1
      (together observations group pairs).2 where
  valid := widened.2.2
  covers := by
    apply (List.perm_insertionSort ..).trans
    apply List.Perm.of_eq
    apply List.map_congr_left
    intro pair member
    rw [← ofGroup pair member]
    rfl
  count := rfl
  lastSeen := rfl
  matched pair member := by
    rw [together, ← ofGroup pair member]
    exact (valid pair member).matches_wildcardOf
  shape := Or.inr ⟨group, widened, rfl, rfl, ofGroup⟩

instance (group : String × String) (count : Nat) : Decidable (Widened group count) :=
  inferInstanceAs (Decidable (_ ∧ _ ∧ _))

/-- The proposals of a group with the pairs they stand for. -/
def groupPlan
    (observations : List Observation)
    (group : String × String)
    (pairs : List (String × String)) : List (ScopeProposal × List (String × String)) :=
  if Widened group pairs.length then [together observations group pairs]
  else pairs.map (alone observations)

theorem groupProposals_eq
    (observations : List Observation)
    {group : String × String}
    {pairs : List (String × String)}
    (ofGroup : ∀ pair ∈ pairs, groupOf pair = group) :
    groupProposals (group, pairs.map (memberOf observations)) =
      (groupPlan observations group pairs).map Prod.fst := by
  unfold groupProposals groupPlan
  simp only [List.length_map, List.map_map, List.foldl_map]
  split
  · next widened =>
      rw [if_pos (show Widened group pairs.length from widened)]
      rfl
  · next narrow =>
      rw [if_neg (show ¬ Widened group pairs.length from narrow), List.map_map]
      apply List.map_congr_left
      intro pair member
      rw [← ofGroup pair member]
      rfl

/-- All proposals with the pairs they stand for. -/
def plan
    (observations : List Observation)
    (generalize : Bool)
    (minCount : Int) : List (ScopeProposal × List (String × String)) :=
  if generalize then
    (groups observations minCount).flatMap fun group =>
      groupPlan observations group (pairsOf observations minCount group)
  else (keptPairs observations minCount).map (alone observations)

theorem groupOf_of_mem_pairsOf
    {observations : List Observation}
    {minCount : Int}
    {group pair : String × String}
    (member : pair ∈ pairsOf observations minCount group) :
    groupOf pair = group := by
  rw [pairsOf, List.mem_filter, decide_eq_true_eq] at member
  exact member.2

theorem unsorted_eq_map_plan
    (observations : List Observation)
    (generalize : Bool)
    (minCount : Int) :
    unsorted observations generalize minCount =
      (plan observations generalize minCount).map Prod.fst := by
  unfold unsorted plan
  split
  · rw [List.map_flatMap]
    apply List.flatMap_congr
    intro group _
    exact groupProposals_eq observations fun pair member => groupOf_of_mem_pairsOf member
  · rw [List.map_map]
    rfl

theorem validPair_of_mem_keptPairs
    {observations : List Observation}
    {minCount : Int}
    {pair : String × String}
    (kept : pair ∈ keptPairs observations minCount) :
    ValidPair pair :=
  ((mem_seenPairs_iff observations pair).mp (List.mem_of_mem_filter kept)).1

theorem mem_keptPairs_of_mem_pairsOf
    {observations : List Observation}
    {minCount : Int}
    {group pair : String × String}
    (member : pair ∈ pairsOf observations minCount group) :
    pair ∈ keptPairs observations minCount :=
  List.mem_of_mem_filter member

theorem standsFor_of_mem_groupPlan
    {observations : List Observation}
    {group : String × String}
    {pairs : List (String × String)}
    (valid : ∀ pair ∈ pairs, ValidPair pair)
    (ofGroup : ∀ pair ∈ pairs, groupOf pair = group)
    {entry : ScopeProposal × List (String × String)}
    (member : entry ∈ groupPlan observations group pairs) :
    StandsFor observations entry.1 entry.2 := by
  unfold groupPlan at member
  split at member
  · next widened =>
      rw [List.mem_singleton.mp member]
      exact standsFor_together observations valid ofGroup widened
  · obtain ⟨pair, isPair, rfl⟩ := List.mem_map.mp member
    exact standsFor_alone observations (valid pair isPair)

/-- Every proposal stands for its pairs. -/
theorem standsFor_of_mem_plan
    {observations : List Observation}
    {generalize : Bool}
    {minCount : Int}
    {entry : ScopeProposal × List (String × String)}
    (member : entry ∈ plan observations generalize minCount) :
    StandsFor observations entry.1 entry.2 := by
  unfold plan at member
  split at member
  · obtain ⟨group, _, inGroup⟩ := List.mem_flatMap.mp member
    apply standsFor_of_mem_groupPlan _ _ inGroup
    · intro pair isPair
      exact validPair_of_mem_keptPairs (mem_keptPairs_of_mem_pairsOf isPair)
    · intro pair isPair
      exact groupOf_of_mem_pairsOf isPair
  · obtain ⟨pair, kept, rfl⟩ := List.mem_map.mp member
    exact standsFor_alone observations (validPair_of_mem_keptPairs kept)

theorem flatMap_alone
    (observations : List Observation)
    (pairs : List (String × String)) :
    (pairs.map (alone observations)).flatMap Prod.snd = pairs := by
  rw [List.flatMap_map]
  exact List.flatMap_singleton' pairs

theorem flatMap_groupPlan
    (observations : List Observation)
    (group : String × String)
    (pairs : List (String × String)) :
    (groupPlan observations group pairs).flatMap Prod.snd = pairs := by
  unfold groupPlan
  split
  · exact List.append_nil pairs
  · exact flatMap_alone observations pairs

/-- The proposals share the kept pairs out among them. -/
theorem flatMap_plan_perm
    (observations : List Observation)
    (generalize : Bool)
    (minCount : Int) :
    ((plan observations generalize minCount).flatMap Prod.snd).Perm
      (keptPairs observations minCount) := by
  unfold plan
  split
  · rw [List.flatMap_assoc]
    simp only [flatMap_groupPlan]
    apply Dict.flatMap_families_perm (nodup_groups ..) (nodup_keptPairs ..)
    intro pair kept
    rw [mem_groups_iff]
    exact ⟨pair, kept, rfl⟩
  · rw [flatMap_alone]

/-! ## Distinct scopes -/

theorem nodup_map_attemptedScope
    {pairs : List (String × String)}
    (distinct : pairs.Nodup)
    (valid : ∀ pair ∈ pairs, ValidPair pair) :
    (pairs.map fun pair => attemptedScope pair.1 pair.2).Nodup := by
  apply distinct.map_on
  intro first isFirst second isSecond same
  exact (((valid first isFirst).attemptedScope_eq_iff second.1 second.2).mp same).symm

theorem wildcardOf_eq_attemptedScope (group : String × String) :
    wildcardOf group =
      attemptedScope group.1 (String.ofList (group.2.toList ++ '/' :: ['*'])) := by
  apply String.toList_injective
  rw [toList_wildcardOf, toList_attemptedScope, String.toList_ofList]

/-- The scope of a proposal names its group. -/
theorem group_of_mem_groupPlan
    {observations : List Observation}
    {group : String × String}
    {pairs : List (String × String)}
    (ofGroup : ∀ pair ∈ pairs, groupOf pair = group)
    {entry : ScopeProposal × List (String × String)}
    (member : entry ∈ groupPlan observations group pairs) :
    ∃ resource, entry.1.scope = attemptedScope group.1 resource ∧ parentOf resource = group.2 := by
  unfold groupPlan at member
  split at member
  · rw [List.mem_singleton.mp member]
    exact ⟨_, wildcardOf_eq_attemptedScope group, parentOf_append group.2 (by decide)⟩
  · obtain ⟨pair, isPair, rfl⟩ := List.mem_map.mp member
    rw [← ofGroup pair isPair]
    exact ⟨pair.2, rfl, rfl⟩

theorem nodup_scopes_groupPlan
    {observations : List Observation}
    {group : String × String}
    {pairs : List (String × String)}
    (distinct : pairs.Nodup)
    (valid : ∀ pair ∈ pairs, ValidPair pair) :
    ((groupPlan observations group pairs).map fun entry => entry.1.scope).Nodup := by
  unfold groupPlan
  split
  · exact List.nodup_singleton _
  · rw [List.map_map]
    exact nodup_map_attemptedScope distinct valid

theorem noColon_of_mem_groups
    {observations : List Observation}
    {minCount : Int}
    {group : String × String}
    (member : group ∈ groups observations minCount) :
    ':' ∉ group.1.toList := by
  obtain ⟨pair, kept, rfl⟩ := (mem_groups_iff observations minCount group).mp member
  exact (validPair_of_mem_keptPairs kept).noColon

theorem nodup_scopes_plan
    (observations : List Observation)
    (generalize : Bool)
    (minCount : Int) :
    ((plan observations generalize minCount).map fun entry => entry.1.scope).Nodup := by
  unfold plan
  split
  · rw [List.map_flatMap, List.nodup_flatMap]
    constructor
    · intro group _
      apply nodup_scopes_groupPlan ((nodup_keptPairs observations minCount).filter _)
      intro pair isPair
      exact validPair_of_mem_keptPairs (mem_keptPairs_of_mem_pairsOf isPair)
    · apply (nodup_groups observations minCount).imp_of_mem
      intro first second isFirst isSecond different scope inFirst inSecond
      obtain ⟨entry, isEntry, rfl⟩ := List.mem_map.mp inFirst
      obtain ⟨other, isOther, sameScope⟩ := List.mem_map.mp inSecond
      obtain ⟨resource, isScope, parent⟩ :=
        group_of_mem_groupPlan (fun pair member => groupOf_of_mem_pairsOf member) isEntry
      obtain ⟨resource', isScope', parent'⟩ :=
        group_of_mem_groupPlan (fun pair member => groupOf_of_mem_pairsOf member) isOther
      -- Both groups can be read off the shared scope.
      rw [isScope, isScope'] at sameScope
      obtain ⟨sameAction, sameResource⟩ := attemptedScope_injective
        (noColon_of_mem_groups isSecond) (noColon_of_mem_groups isFirst) sameScope
      apply different
      apply Prod.ext sameAction.symm
      rw [← parent, ← parent', sameResource]
  · rw [List.map_map]
    apply nodup_map_attemptedScope (nodup_keptPairs observations minCount)
    intro pair kept
    exact validPair_of_mem_keptPairs kept

/-! ## Faithful proposals -/

/-- Sorting by distinct scopes forgets the order. -/
theorem sort_perm
    {proposals reordered : List ScopeProposal}
    (permuted : proposals.Perm reordered)
    (distinct : (reordered.map ScopeProposal.scope).Nodup) :
    proposals.insertionSort (fun first second => first.scope ≤ second.scope) =
      reordered.insertionSort fun first second => first.scope ≤ second.scope := by
  have total : ∀ first second : ScopeProposal,
      first.scope ≤ second.scope ∨ second.scope ≤ first.scope :=
    fun first second => le_total first.scope second.scope
  have transitive : ∀ first second third : ScopeProposal, first.scope ≤ second.scope →
      second.scope ≤ third.scope → first.scope ≤ third.scope :=
    fun _ _ _ => le_trans
  have : Std.Total fun first second : ScopeProposal => first.scope ≤ second.scope := ⟨total⟩
  have : IsTrans ScopeProposal fun first second => first.scope ≤ second.scope := ⟨transitive⟩
  apply List.Perm.eq_of_pairwise _ (List.pairwise_insertionSort ..)
    (List.pairwise_insertionSort ..)
  · exact (List.perm_insertionSort ..).trans (permuted.trans (List.perm_insertionSort ..).symm)
  · intro first second isFirst isSecond below above
    rw [List.mem_insertionSort] at isFirst isSecond
    exact List.inj_on_of_nodup_map distinct (permuted.mem_iff.mp isFirst) isSecond
      (le_antisymm below above)

theorem nodup_scopes_unsorted
    (observations : List Observation)
    (generalize : Bool)
    (minCount : Int) :
    ((unsorted observations generalize minCount).map ScopeProposal.scope).Nodup := by
  rw [unsorted_eq_map_plan, List.map_map]
  exact nodup_scopes_plan observations generalize minCount

/-- Proposals are made for a positive count only. -/
theorem pos_of_proposeScopes
    {observations : List Observation}
    {generalize : Bool}
    {minCount : Int}
    {proposals : List ScopeProposal}
    (proposed : proposeScopes observations generalize minCount = .ok proposals) :
    1 ≤ minCount := by
  by_contra small
  have refused : Fallible.ensure (1 ≤ minCount) "min_count must be positive" =
      .error "min_count must be positive" := if_neg small
  rw [proposeScopes, refused] at proposed
  cases proposed

/-- The order of the observations does not matter. -/
theorem proposeScopes_perm
    {observations reordered : List Observation}
    (permuted : observations.Perm reordered)
    (generalize : Bool)
    (minCount : Int) :
    proposeScopes observations generalize minCount =
      proposeScopes reordered generalize minCount := by
  by_cases positive : 1 ≤ minCount
  · rw [proposeScopes_eq _ _ positive, proposeScopes_eq _ _ positive,
      sort_perm (unsorted_perm permuted generalize positive) (nodup_scopes_unsorted ..)]
  · have refused : Fallible.ensure (1 ≤ minCount) "min_count must be positive" =
        .error "min_count must be positive" := if_neg positive
    rw [proposeScopes, refused, proposeScopes, refused]
    rfl

/-- The resource stands directly below the parent. -/
def IsChild (parent resource : String) : Prop :=
  ∃ last, '/' ∉ last ∧ resource.toList = parent.toList ++ '/' :: last

/-- Proposals that say what was observed, and no more. -/
structure FaithfulTo
    (observations : List Observation)
    (generalize : Bool)
    (minCount : Int)
    (proposals : List ScopeProposal) : Prop where
  valid : ∀ proposal ∈ proposals, isValidGrantScope proposal.scope = true
  distinct : (proposals.map ScopeProposal.scope).Nodup
  /-- The covers share the kept pairs out: none is covered twice, and none is left out. -/
  disjoint : (proposals.flatMap ScopeProposal.covers).Nodup
  covered : ∀ text, text ∈ proposals.flatMap ScopeProposal.covers ↔
    ∃ pair, Kept observations minCount pair ∧ text = attemptedScope pair.1 pair.2
  nonempty : ∀ proposal ∈ proposals, proposal.covers ≠ []
  /-- A proposal permits the pairs it covers and counts them all. -/
  counted : ∀ proposal ∈ proposals, ∃ pairs : List (String × String), pairs.Nodup ∧
    (∀ pair, pair ∈ pairs ↔ Kept observations minCount pair ∧
      attemptedScope pair.1 pair.2 ∈ proposal.covers) ∧
    (∀ pair ∈ pairs, matchScope [proposal.scope] pair.1 pair.2 ≠ none) ∧
    proposal.count = (pairs.map (total observations)).sum
  exactly : generalize = false → ∀ action resource,
    matchScope (proposals.map ScopeProposal.scope) action resource ≠ none ↔
      Kept observations minCount (action, resource)
  widened : ∀ proposal ∈ proposals,
    (proposal.generalized = true ∨ '*' ∈ proposal.scope.toList) →
      ∃ action parent, proposal.scope = action ++ ":" ++ parent ++ "/*" ∧
        2 ≤ (parent.toList.splitOn '/').length ∧
        ∃ first second, first ≠ second ∧ IsChild parent first ∧ IsChild parent second ∧
          Kept observations minCount (action, first) ∧
          Kept observations minCount (action, second)

section Faithful

variable {observations : List Observation} {generalize : Bool} {minCount : Int}
variable {proposals : List ScopeProposal}

/-- A proposal of the result with the pairs it stands for. -/
theorem exists_pairs_of_mem
    (sorted : proposals.Perm (unsorted observations generalize minCount))
    {proposal : ScopeProposal}
    (member : proposal ∈ proposals) :
    ∃ pairs, (proposal, pairs) ∈ plan observations generalize minCount ∧
      StandsFor observations proposal pairs := by
  rw [sorted.mem_iff, unsorted_eq_map_plan, List.mem_map] at member
  obtain ⟨entry, isEntry, rfl⟩ := member
  exact ⟨entry.2, isEntry, standsFor_of_mem_plan isEntry⟩

theorem covers_perm
    (sorted : proposals.Perm (unsorted observations generalize minCount)) :
    (proposals.flatMap ScopeProposal.covers).Perm
      ((keptPairs observations minCount).map fun pair => attemptedScope pair.1 pair.2) := by
  calc
    (proposals.flatMap ScopeProposal.covers).Perm
        ((unsorted observations generalize minCount).flatMap ScopeProposal.covers) :=
      sorted.flatMap_right _
    _ = (plan observations generalize minCount).flatMap fun entry => entry.1.covers := by
      rw [unsorted_eq_map_plan, List.flatMap_map]
    List.Perm _ ((plan observations generalize minCount).flatMap fun entry =>
        entry.2.map fun pair => attemptedScope pair.1 pair.2) := by
      apply List.Perm.flatMap_left
      intro entry member
      exact (standsFor_of_mem_plan member).covers
    _ = ((plan observations generalize minCount).flatMap Prod.snd).map fun pair =>
        attemptedScope pair.1 pair.2 := by
      rw [List.map_flatMap]
    List.Perm _ ((keptPairs observations minCount).map fun pair =>
        attemptedScope pair.1 pair.2) :=
      (flatMap_plan_perm observations generalize minCount).map _

theorem kept_of_mem_plan
    (positive : 1 ≤ minCount)
    {entry : ScopeProposal × List (String × String)}
    (planned : entry ∈ plan observations generalize minCount)
    {pair : String × String}
    (member : pair ∈ entry.2) :
    Kept observations minCount pair := by
  rw [← mem_keptPairs_iff observations positive,
    ← (flatMap_plan_perm observations generalize minCount).mem_iff]
  exact List.mem_flatMap.mpr ⟨entry, planned, member⟩

theorem nodup_of_mem_plan
    {entry : ScopeProposal × List (String × String)}
    (planned : entry ∈ plan observations generalize minCount) :
    entry.2.Nodup := by
  have distinct := (flatMap_plan_perm observations generalize minCount).nodup_iff.mpr
    (nodup_keptPairs observations minCount)
  exact (List.nodup_flatMap.mp distinct).1 entry planned

/-- The pairs of a proposal are the kept pairs among its covers. -/
theorem mem_pairs_iff
    (positive : 1 ≤ minCount)
    {proposal : ScopeProposal}
    {pairs : List (String × String)}
    (planned : (proposal, pairs) ∈ plan observations generalize minCount)
    (pair : String × String) :
    pair ∈ pairs ↔
      Kept observations minCount pair ∧ attemptedScope pair.1 pair.2 ∈ proposal.covers := by
  have isCover := (standsFor_of_mem_plan planned).covers
  constructor
  · intro member
    refine ⟨kept_of_mem_plan positive planned member, ?_⟩
    rw [isCover.mem_iff]
    exact List.mem_map_of_mem (f := fun pair => attemptedScope pair.1 pair.2) member
  · rintro ⟨kept, covered⟩
    rw [isCover.mem_iff, List.mem_map] at covered
    obtain ⟨other, member, same⟩ := covered
    have isPair := (kept_of_mem_plan positive planned member).1.attemptedScope_eq_iff pair.1 pair.2
    rw [show pair = other from isPair.mp same]
    exact member

theorem exists_two_of_nodup
    {items : List α}
    (distinct : items.Nodup)
    (many : 2 ≤ items.length) :
    ∃ first second, first ∈ items ∧ second ∈ items ∧ first ≠ second := by
  match items, distinct, many with
  | first :: second :: _, distinct, _ =>
      refine ⟨first, second, List.mem_cons_self, List.mem_cons_of_mem _ List.mem_cons_self, ?_⟩
      rintro rfl
      exact (List.nodup_cons.mp distinct).1 List.mem_cons_self

theorem isChild_parentOf
    {resource : String}
    (valid : isValidRequestedResource resource = true) :
    IsChild (parentOf resource) resource :=
  exists_last_of_slash (slash_mem_of_valid valid)

theorem faithfulTo_of_perm
    (positive : 1 ≤ minCount)
    (sorted : proposals.Perm (unsorted observations generalize minCount)) :
    FaithfulTo observations generalize minCount proposals where
  valid proposal member := by
    obtain ⟨pairs, _, stands⟩ := exists_pairs_of_mem sorted member
    exact stands.valid
  distinct := (sorted.map _).nodup_iff.mpr (nodup_scopes_unsorted ..)
  disjoint := by
    apply (covers_perm sorted).nodup_iff.mpr
    apply nodup_map_attemptedScope (nodup_keptPairs observations minCount)
    intro pair kept
    exact validPair_of_mem_keptPairs kept
  covered text := by
    rw [(covers_perm sorted).mem_iff, List.mem_map]
    simp only [mem_keptPairs_iff observations positive, eq_comm]
  nonempty proposal member empty := by
    obtain ⟨pairs, planned, stands⟩ := exists_pairs_of_mem sorted member
    have noPairs : pairs = [] := by
      have covers := stands.covers
      rw [empty] at covers
      exact List.map_eq_nil_iff.mp covers.nil_eq.symm
    rcases stands.shape with ⟨pair, isPair, _⟩ | ⟨group, widened, _⟩
    · rw [noPairs] at isPair
      cases isPair
    · rw [noPairs] at widened
      exact absurd widened.1 (by decide)
  counted proposal member := by
    obtain ⟨pairs, planned, stands⟩ := exists_pairs_of_mem sorted member
    exact ⟨pairs, nodup_of_mem_plan planned, mem_pairs_iff positive planned, stands.matched,
      stands.count⟩
  exactly exact action resource := by
    rw [matchScope_ne_none_iff]
    simp only [(sorted.map ScopeProposal.scope).mem_iff, exact, unsorted, Bool.false_eq_true,
      if_false, List.map_map, List.mem_map, Function.comp_apply, exactProposal,
      exists_exists_and_eq_and]
    constructor
    · rintro ⟨pair, kept, matched⟩
      have same := ((validPair_of_mem_keptPairs kept).matches_iff action resource).mp matched
      rwa [same, ← mem_keptPairs_iff observations positive]
    · intro kept
      refine ⟨(action, resource), (mem_keptPairs_iff observations positive _).mpr kept, ?_⟩
      exact (kept.1.matches_iff action resource).mpr rfl
  widened proposal member wide := by
    obtain ⟨pairs, planned, stands⟩ := exists_pairs_of_mem sorted member
    have isKept := fun pair => @kept_of_mem_plan _ _ _ positive _ planned pair
    rcases stands.shape with ⟨pair, isPair, isScope, notGeneralized⟩ |
      ⟨group, ⟨many, deep, _⟩, isScope, _, ofGroup⟩
    · -- The scope of a single pair has no star.
      rcases wide with generalized | star
      · rw [generalized] at notGeneralized
        cases notGeneralized
      · rw [isScope] at star
        have single : pair ∈ pairs := isPair ▸ List.mem_cons_self
        exact absurd star (isKept pair single).1.noStar
    · refine ⟨group.1, group.2, isScope, deep, ?_⟩
      obtain ⟨first, second, isFirst, isSecond, different⟩ :=
        exists_two_of_nodup (nodup_of_mem_plan planned) many
      have ofFirst := ofGroup first isFirst
      have ofSecond := ofGroup second isSecond
      refine ⟨first.2, second.2, ?_, ?_, ?_, ?_, ?_⟩
      · intro sameResource
        apply different
        apply Prod.ext _ sameResource
        exact (congrArg Prod.fst ofFirst).trans (congrArg Prod.fst ofSecond).symm
      · rw [← ofFirst]
        exact isChild_parentOf (isKept first isFirst).1.2
      · rw [← ofSecond]
        exact isChild_parentOf (isKept second isSecond).1.2
      · rw [← ofFirst]
        exact isKept first isFirst
      · rw [← ofSecond]
        exact isKept second isSecond

end Faithful

/-- Scopes are proposed faithfully, in an order and with counts that do not depend on the
order of the observations. -/
theorem proposeScopes_is_faithful
    (observations : List Observation)
    (generalize : Bool)
    (minCount : Int)
    (positive : 1 ≤ minCount) :
    ∃ proposals,
      (∀ reordered, observations.Perm reordered →
        proposeScopes reordered generalize minCount = .ok proposals) ∧
      FaithfulTo observations generalize minCount proposals := by
  refine ⟨_, ?_, faithfulTo_of_perm positive (List.perm_insertionSort
    (fun first second : ScopeProposal => first.scope ≤ second.scope) _)⟩
  intro reordered permuted
  rw [← proposeScopes_perm permuted, proposeScopes_eq observations generalize positive]

theorem siblings_are_proposed_faithfully :
    ∃ proposals,
      (∀ reordered, [⟨"read", "repo/docs/a", 2, none⟩, ⟨"read", "repo/docs/b", 1, none⟩].Perm
        reordered → proposeScopes reordered true 1 = .ok proposals) ∧
      FaithfulTo [⟨"read", "repo/docs/a", 2, none⟩, ⟨"read", "repo/docs/b", 1, none⟩] true 1
        proposals :=
  proposeScopes_is_faithful _ true 1 (by decide)

end Infer
end Vinctor
