import Vinctor.Core.Infer
import Vinctor.Core.ScopeGrammar
import Vinctor.Foundation.Collect

/-!
# Pairs that were seen often enough

A pair of an action and a resource is kept when it is valid and its observations add up to
the least count.  The proposals are made from the kept pairs alone: from each of them, or from
their groups by action and parent.  Additions commute, so that the order of the observations
is lost on the way.
-/

namespace Vinctor
namespace Infer

open Foundation
open Scope

/-! ## Totals -/

theorem latest_some (first second : String) :
    latest (some first) (some second) = some (max first second) := by
  unfold latest
  rw [max_def_lt]
  exact (apply_ite some ..).symm

theorem latest_none_left (seen : Option String) : latest none seen = seen := rfl

theorem latest_none_right (seen : Option String) : latest seen none = seen := by
  cases seen <;> rfl

theorem latest_right_comm (seen first second : Option String) :
    latest (latest seen first) second = latest (latest seen second) first := by
  cases seen <;> cases first <;> cases second
  all_goals simp only [latest_none_left, latest_none_right, latest_some, max_comm, max_left_comm]

theorem mem_or_mem_of_mem_latest
    {first second : Option String}
    {text : String}
    (member : text ∈ latest first second) :
    text ∈ first ∨ text ∈ second := by
  cases first with
  | none => exact Or.inr member
  | some first =>
      cases second with
      | none => exact Or.inl member
      | some second =>
          rw [latest_some] at member
          obtain rfl := Option.some.inj member
          rcases max_choice first second with isFirst | isSecond
          · exact Or.inl (congrArg some isFirst.symm)
          · exact Or.inr (congrArg some isSecond.symm)

theorem exists_latest_of_mem
    {first second : Option String}
    {text : String}
    (member : text ∈ first ∨ text ∈ second) :
    ∃ late ∈ latest first second, text ≤ late := by
  rcases member with rfl | rfl
  · cases second with
    | none => exact ⟨text, rfl, le_refl _⟩
    | some second => exact ⟨max text second, latest_some text second, le_max_left _ _⟩
  · cases first with
    | none => exact ⟨text, rfl, le_refl _⟩
    | some first => exact ⟨max first text, latest_some first text, le_max_right _ _⟩

/-- The latest of several texts is one of them. -/
theorem mem_of_mem_foldl_latest
    {items : List α}
    {seen : α → Option String}
    {text : String}
    (member : text ∈ items.foldl (fun late item => latest late (seen item)) none) :
    ∃ item ∈ items, text ∈ seen item := by
  induction items using List.reverseRecOn with
  | nil => cases member
  | append_singleton items item rest =>
      rw [List.foldl_concat] at member
      rcases mem_or_mem_of_mem_latest member with earlier | last
      · obtain ⟨found, among, isText⟩ := rest earlier
        exact ⟨found, List.mem_append_left _ among, isText⟩
      · exact ⟨item, List.mem_append_right _ List.mem_cons_self, last⟩

/-- None of several texts is later than the latest. -/
theorem exists_foldl_latest_of_mem
    {items : List α}
    {seen : α → Option String}
    {item : α}
    (member : item ∈ items)
    {text : String}
    (isText : text ∈ seen item) :
    ∃ late ∈ items.foldl (fun late item => latest late (seen item)) none, text ≤ late := by
  induction items using List.reverseRecOn with
  | nil => cases member
  | append_singleton items last rest =>
      rw [List.foldl_concat]
      rcases List.mem_append.mp member with earlier | isLast
      · obtain ⟨late, isLate, below⟩ := rest earlier
        obtain ⟨later, isLater, below'⟩ := exists_latest_of_mem (Or.inl isLate)
        exact ⟨later, isLater, below.trans below'⟩
      · rw [List.mem_singleton.mp isLast] at isText
        exact exists_latest_of_mem (Or.inr isText)

def Observation.pair (observation : Observation) : String × String :=
  (observation.action, observation.resource)

def addSighting (seen : Nat × Option String) (observation : Observation) : Nat × Option String :=
  (seen.1 + observation.count, latest seen.2 observation.lastSeen)

/-- Sightings are the valid observations, collected by their pairs. -/
theorem sightings_eq_collect (observations : List Observation) :
    sightings observations =
      Dict.collect Observation.pair (0, none) addSighting
        (observations.filter Observation.isValid) := by
  rw [sightings, Dict.collect, List.foldl_filter]
  rfl

/-- How often a pair was seen. -/
def total (observations : List Observation) (pair : String × String) : Nat :=
  ((observations.filter fun observation => observation.pair = pair).map Observation.count).sum

/-- When a pair was last seen. -/
def lastSighting (observations : List Observation) (pair : String × String) : Option String :=
  (observations.filter fun observation => observation.pair = pair).foldl
    (fun seen observation => latest seen observation.lastSeen) none

theorem foldl_addSighting
    (observations : List Observation)
    (seen : Nat × Option String) :
    observations.foldl addSighting seen =
      (seen.1 + (observations.map Observation.count).sum,
        observations.foldl (fun seen observation => latest seen observation.lastSeen) seen.2) := by
  induction observations generalizing seen with
  | nil => rfl
  | cons observation observations rest =>
      rw [List.foldl_cons, rest, List.map_cons, List.sum_cons, List.foldl_cons, addSighting,
        Nat.add_assoc]

def ValidPair (pair : String × String) : Prop :=
  isValidRequestedAction pair.1 = true ∧ isValidRequestedResource pair.2 = true

theorem isValid_iff (observation : Observation) :
    observation.isValid = true ↔ ValidPair observation.pair := by
  rw [Observation.isValid, Bool.and_eq_true]
  rfl

/-- All observations of a valid pair are valid. -/
theorem filter_isValid_filter_pair
    (observations : List Observation)
    {pair : String × String}
    (valid : ValidPair pair) :
    ((observations.filter Observation.isValid).filter fun observation => observation.pair = pair) =
      observations.filter fun observation => observation.pair = pair := by
  rw [List.filter_filter]
  apply List.filter_congr
  intro observation _
  by_cases same : observation.pair = pair
  · rw [decide_eq_true same, Bool.true_and, isValid_iff, same]
    exact valid
  · rw [decide_eq_false same, Bool.false_and]

theorem gathered_sightings
    (observations : List Observation)
    {pair : String × String}
    (valid : ValidPair pair) :
    Dict.gathered Observation.pair (0, none) addSighting
        (observations.filter Observation.isValid) pair =
      (total observations pair, lastSighting observations pair) := by
  rw [Dict.gathered, filter_isValid_filter_pair observations valid, foldl_addSighting,
    Nat.zero_add]
  rfl

theorem total_perm
    {observations reordered : List Observation}
    (permuted : observations.Perm reordered) :
    total observations = total reordered := by
  funext pair
  exact ((permuted.filter _).map _).sum_nat

theorem lastSighting_perm
    {observations reordered : List Observation}
    (permuted : observations.Perm reordered) :
    lastSighting observations = lastSighting reordered := by
  funext pair
  apply (permuted.filter _).foldl_eq'
  intro first _ second _ seen
  exact latest_right_comm seen first.lastSeen second.lastSeen

/-! ## Kept pairs -/

/-- A valid pair that was seen often enough. -/
def Kept (observations : List Observation) (minCount : Int) (pair : String × String) : Prop :=
  ValidPair pair ∧ minCount ≤ total observations pair

def seenPairs (observations : List Observation) : List (String × String) :=
  (sightings observations).keys

/-- The kept pairs in the order in which they were first seen. -/
def keptPairs (observations : List Observation) (minCount : Int) : List (String × String) :=
  (seenPairs observations).filter fun pair => minCount ≤ total observations pair

theorem mem_seenPairs_iff
    (observations : List Observation)
    (pair : String × String) :
    pair ∈ seenPairs observations ↔
      ValidPair pair ∧ ∃ observation ∈ observations, observation.pair = pair := by
  rw [seenPairs, sightings_eq_collect, Dict.mem_keys_collect]
  constructor
  · rintro ⟨observation, member, rfl⟩
    rw [List.mem_filter, isValid_iff] at member
    exact ⟨member.2, observation, member.1, rfl⟩
  · rintro ⟨valid, observation, member, rfl⟩
    refine ⟨observation, ?_, rfl⟩
    rw [List.mem_filter, isValid_iff]
    exact ⟨member, valid⟩

/-- A pair that was counted was observed. -/
theorem exists_observation_of_total_pos
    {observations : List Observation}
    {pair : String × String}
    (counted : 0 < total observations pair) :
    ∃ observation ∈ observations, observation.pair = pair := by
  by_contra none
  push Not at none
  have empty : (observations.filter fun observation => observation.pair = pair) = [] := by
    rw [List.filter_eq_nil_iff]
    intro observation member
    simpa using none observation member
  rw [total, empty] at counted
  exact Nat.lt_irrefl 0 counted

theorem mem_keptPairs_iff
    (observations : List Observation)
    {minCount : Int}
    (positive : 1 ≤ minCount)
    (pair : String × String) :
    pair ∈ keptPairs observations minCount ↔ Kept observations minCount pair := by
  rw [keptPairs, List.mem_filter, mem_seenPairs_iff, decide_eq_true_eq]
  constructor
  · rintro ⟨⟨valid, _⟩, enough⟩
    exact ⟨valid, enough⟩
  · rintro ⟨valid, enough⟩
    refine ⟨⟨valid, ?_⟩, enough⟩
    apply exists_observation_of_total_pos
    omega

theorem nodup_keptPairs
    (observations : List Observation)
    (minCount : Int) :
    (keptPairs observations minCount).Nodup :=
  (sightings observations).keysDistinct.filter _

theorem keptPairs_perm
    {observations reordered : List Observation}
    (permuted : observations.Perm reordered)
    {minCount : Int}
    (positive : 1 ≤ minCount) :
    (keptPairs observations minCount).Perm (keptPairs reordered minCount) := by
  rw [List.perm_ext_iff_of_nodup (nodup_keptPairs ..) (nodup_keptPairs ..)]
  intro pair
  rw [mem_keptPairs_iff _ positive, mem_keptPairs_iff _ positive, Kept, Kept,
    total_perm permuted]

/-- A pair with how often and when last it was seen. -/
def sighting (observations : List Observation) (pair : String × String) :
    (String × String) × (Nat × Option String) :=
  (pair, total observations pair, lastSighting observations pair)

theorem entries_sightings (observations : List Observation) :
    (sightings observations).entries = (seenPairs observations).map (sighting observations) := by
  have collected := Dict.entries_collect Observation.pair (0, none) addSighting
    (observations.filter Observation.isValid)
  rw [← sightings_eq_collect] at collected
  rw [collected, seenPairs]
  apply List.map_congr_left
  intro pair seen
  rw [gathered_sightings observations ((mem_seenPairs_iff observations pair).mp seen).1]
  rfl

/-- The sightings that are frequent enough are those of the kept pairs. -/
theorem filter_sightings
    (observations : List Observation)
    (minCount : Int) :
    ((sightings observations).entries.filter fun entry => minCount ≤ entry.2.1) =
      (keptPairs observations minCount).map (sighting observations) := by
  rw [entries_sightings, List.filter_map]
  rfl

/-! ## Parents -/

theorem parentOf_append
    (parent : String)
    {last : List Char}
    (noSlash : '/' ∉ last) :
    parentOf (String.ofList (parent.toList ++ '/' :: last)) = parent := by
  have dropped : ((parent.toList ++ '/' :: last).reverse.dropWhile (· ≠ '/')) =
      '/' :: parent.toList.reverse := by
    rw [List.reverse_append, List.reverse_cons, List.append_assoc, List.singleton_append,
      List.dropWhile_append_of_pos]
    · exact List.dropWhile_cons_of_neg (by simp)
    · intro character member
      simp only [ne_eq, decide_not, Bool.not_eq_true', decide_eq_false_iff_not]
      rintro rfl
      exact noSlash (List.mem_reverse.mp member)
  unfold parentOf
  rw [String.toList_ofList, if_pos (List.mem_append_right _ List.mem_cons_self), dropped,
    List.tail_cons, List.reverse_reverse, String.ofList_toList]

/-- A resource with a slash is its parent and what follows the last slash. -/
theorem exists_last_of_slash
    {resource : String}
    (slash : '/' ∈ resource.toList) :
    ∃ last, '/' ∉ last ∧ resource.toList = (parentOf resource).toList ++ '/' :: last := by
  obtain ⟨after, before, split, noSlash⟩ :=
    List.eq_append_cons_of_mem (List.mem_reverse.mpr slash)
  have text : resource.toList = (String.ofList before.reverse).toList ++ '/' :: after.reverse := by
    rw [String.toList_ofList, ← List.reverse_inj, split]
    simp
  have noSlash' : '/' ∉ after.reverse := fun member => noSlash (List.mem_reverse.mp member)
  refine ⟨after.reverse, noSlash', ?_⟩
  have isParent := parentOf_append (String.ofList before.reverse) noSlash'
  rw [← text, String.ofList_toList] at isParent
  rw [isParent]
  exact text

/-- A requested resource consists of segments as documented. -/
theorem exists_segments_of_valid
    {resource : String}
    (valid : isValidRequestedResource resource = true) :
    ∃ segments, Shaped resource segments ∧ ∀ segment ∈ segments, Segment segment := by
  obtain ⟨segments, shaped, kinds⟩ := (isValidResource_iff resource false).mp valid
  refine ⟨segments, shaped, ?_⟩
  rcases kinds with plain | ⟨allowed, _⟩
  · exact plain
  · cases allowed

theorem slash_mem_of_valid
    {resource : String}
    (valid : isValidRequestedResource resource = true) :
    '/' ∈ resource.toList := by
  obtain ⟨segments, shaped, _⟩ := exists_segments_of_valid valid
  have length := Text.length_splitOn '/' resource.toList
  rw [shaped.splitOn] at length
  have many := shaped.many
  apply List.count_pos_iff.mp
  omega

/-! ## Scopes of pairs -/

theorem toList_attemptedScope (action resource : String) :
    (attemptedScope action resource).toList = action.toList ++ ':' :: resource.toList := by
  rw [attemptedScope, String.toList_append, String.toList_append, List.append_assoc]
  rfl

/-- The two parts of an attempted scope can be read off when the action has no colon. -/
theorem attemptedScope_injective
    {action action' resource resource' : String}
    (noColon : ':' ∉ action.toList)
    (noColon' : ':' ∉ action'.toList)
    (same : attemptedScope action resource = attemptedScope action' resource') :
    action = action' ∧ resource = resource' := by
  have parts : ∀ {action : String}, ':' ∉ action.toList → ∀ resource,
      Text.partition ':' (attemptedScope action resource).toList =
        (action.toList, true, resource.toList) := by
    intro action noColon resource
    rw [toList_attemptedScope, Text.partition_append_separator noColon]
  have sameParts := parts noColon resource
  rw [same, parts noColon' resource', Prod.mk.injEq, Prod.mk.injEq] at sameParts
  exact ⟨String.toList_injective sameParts.1.symm, String.toList_injective sameParts.2.2.symm⟩

theorem ValidPair.noColon
    {pair : String × String}
    (valid : ValidPair pair) :
    ':' ∉ pair.1.toList :=
  colon_not_mem_action (List.contains_iff_mem.mp valid.1)

theorem ValidPair.isValidGrantScope
    {pair : String × String}
    (valid : ValidPair pair) :
    isValidGrantScope (attemptedScope pair.1 pair.2) = true := by
  rw [isValidGrantScope_iff_text]
  obtain ⟨segments, shaped, plain⟩ := exists_segments_of_valid valid.2
  refine ⟨pair.1, List.contains_iff_mem.mp valid.1, pair.2, ?_, shaped.not_mem (by decide),
    toList_attemptedScope ..⟩
  rw [isValidResource_iff]
  exact ⟨segments, shaped, Or.inl plain⟩

/-- A requested resource has no star. -/
theorem ValidPair.noStar
    {pair : String × String}
    (valid : ValidPair pair) :
    '*' ∉ (attemptedScope pair.1 pair.2).toList := by
  obtain ⟨segments, shaped, plain⟩ := exists_segments_of_valid valid.2
  have inAction : '*' ∉ pair.1.toList := by
    have known : pair.1 ∈ allowedActions := List.contains_iff_mem.mp valid.1
    simp only [allowedActions, List.mem_cons, List.not_mem_nil, or_false] at known
    rcases known with isAction | isAction | isAction | isAction | isAction | isAction
    all_goals
      rw [isAction]
      decide
  rw [toList_attemptedScope, List.mem_append, List.mem_cons, shaped.text]
  rintro (member | isColon | member)
  · exact inAction member
  · exact absurd isColon (by decide)
  · rcases mem_joined member with isSlash | ⟨segment, among, inSegment⟩
    · exact absurd isSlash (by decide)
    · exact (plain segment among).loose.not_mem (by decide) inSegment

/-- The scope of a pair names that pair only, whatever texts are put in its place. -/
theorem ValidPair.attemptedScope_eq_iff
    {pair : String × String}
    (valid : ValidPair pair)
    (action resource : String) :
    attemptedScope pair.1 pair.2 = attemptedScope action resource ↔ (action, resource) = pair := by
  constructor
  · intro same
    have read := partition_attemptedScope valid.isValidGrantScope
    have valid' := valid.isValidGrantScope
    rw [same] at valid'
    rw [same, partition_attemptedScope valid', Prod.mk.injEq, Prod.mk.injEq] at read
    exact Prod.ext (String.toList_injective read.1) (String.toList_injective read.2.2)
  · rintro rfl
    rfl

/-- The scope of a pair matches that pair only. -/
theorem ValidPair.matches_iff
    {pair : String × String}
    (valid : ValidPair pair)
    (action resource : String) :
    Matches (attemptedScope pair.1 pair.2) action resource ↔ (action, resource) = pair := by
  rw [Scope.matches_iff, matchesTerminalResourceWildcard_iff, valid.attemptedScope_eq_iff]
  apply or_iff_left
  rintro ⟨stem, parts, _⟩
  rw [partition_attemptedScope valid.isValidGrantScope, Prod.mk.injEq, Prod.mk.injEq] at parts
  apply absurd _ valid.noStar
  rw [toList_attemptedScope, parts.2.2]
  simp

/-! ## Groups -/

/-- The group of a pair: its action and the parent of its resource. -/
def groupOf (pair : String × String) : String × String := (pair.1, parentOf pair.2)

def memberOf (observations : List Observation) (pair : String × String) : Member :=
  (pair.2, total observations pair, lastSighting observations pair)

/-- The groups in the order of their first members. -/
def groups (observations : List Observation) (minCount : Int) : List (String × String) :=
  (grouped ((keptPairs observations minCount).map (sighting observations))).keys

/-- The kept pairs of a group. -/
def pairsOf
    (observations : List Observation)
    (minCount : Int)
    (group : String × String) : List (String × String) :=
  (keptPairs observations minCount).filter fun pair => groupOf pair = group

theorem foldl_concat_eq_map
    (item : α → β)
    (items : List α)
    (before : List β) :
    items.foldl (fun collected next => collected ++ [item next]) before =
      before ++ items.map item := by
  induction items generalizing before with
  | nil => rw [List.foldl_nil, List.map_nil, List.append_nil]
  | cons next items rest =>
      rw [List.foldl_cons, rest, List.map_cons, List.append_assoc, List.singleton_append]

theorem grouped_eq_collect (pairs : List ((String × String) × (Nat × Option String))) :
    grouped pairs =
      Dict.collect (fun pair => groupOf pair.1) []
        (fun members pair => members ++ [(pair.1.2, pair.2.1, pair.2.2)]) pairs :=
  rfl

theorem entries_grouped
    (observations : List Observation)
    (minCount : Int) :
    (grouped ((keptPairs observations minCount).map (sighting observations))).entries =
      (groups observations minCount).map fun group =>
        (group, (pairsOf observations minCount group).map (memberOf observations)) := by
  rw [groups, grouped_eq_collect, Dict.entries_collect]
  apply List.map_congr_left
  intro group _
  rw [Dict.gathered, foldl_concat_eq_map, List.nil_append, List.filter_map, List.map_map]
  rfl

theorem mem_groups_iff
    (observations : List Observation)
    (minCount : Int)
    (group : String × String) :
    group ∈ groups observations minCount ↔
      ∃ pair ∈ keptPairs observations minCount, groupOf pair = group := by
  rw [groups, grouped_eq_collect, Dict.mem_keys_collect]
  constructor
  · rintro ⟨entry, member, isGroup⟩
    obtain ⟨pair, kept, rfl⟩ := List.mem_map.mp member
    exact ⟨pair, kept, isGroup⟩
  · rintro ⟨pair, kept, isGroup⟩
    exact ⟨sighting observations pair, List.mem_map_of_mem kept, isGroup⟩

theorem nodup_groups
    (observations : List Observation)
    (minCount : Int) :
    (groups observations minCount).Nodup :=
  (grouped _).keysDistinct

/-- The proposals before they are sorted. -/
def unsorted
    (observations : List Observation)
    (generalize : Bool)
    (minCount : Int) : List ScopeProposal :=
  if generalize then
    (groups observations minCount).flatMap fun group =>
      groupProposals (group, (pairsOf observations minCount group).map (memberOf observations))
  else
    (keptPairs observations minCount).map fun pair =>
      exactProposal pair.1 pair.2 (total observations pair) (lastSighting observations pair)

theorem proposeScopes_eq
    (observations : List Observation)
    (generalize : Bool)
    {minCount : Int}
    (positive : 1 ≤ minCount) :
    proposeScopes observations generalize minCount =
      .ok ((unsorted observations generalize minCount).insertionSort fun first second =>
        first.scope ≤ second.scope) := by
  have checked : Fallible.ensure (1 ≤ minCount) "min_count must be positive" = .ok () :=
    if_pos positive
  have same :
      (if generalize then
        (grouped ((keptPairs observations minCount).map (sighting observations))).entries.flatMap
          groupProposals
      else
        ((keptPairs observations minCount).map (sighting observations)).map fun entry =>
          exactProposal entry.1.1 entry.1.2 entry.2.1 entry.2.2) =
        unsorted observations generalize minCount := by
    unfold unsorted
    split
    · rw [entries_grouped, List.flatMap_map]
    · rw [List.map_map]
      rfl
  rw [proposeScopes, checked, filter_sightings, ← same]
  rfl

/-! ## Reordered observations -/

theorem insertionSort_perm
    {texts reordered : List String}
    (permuted : texts.Perm reordered) :
    texts.insertionSort (· ≤ ·) = reordered.insertionSort (· ≤ ·) := by
  apply List.Perm.eq_of_pairwise' (List.pairwise_insertionSort ..) (List.pairwise_insertionSort ..)
  exact (List.perm_insertionSort ..).trans (permuted.trans (List.perm_insertionSort ..).symm)

/-- A group is proposed from its members in any order. -/
theorem groupProposals_perm
    (group : String × String)
    {members reordered : List Member}
    (permuted : members.Perm reordered) :
    (groupProposals (group, members)).Perm (groupProposals (group, reordered)) := by
  have sameLast : members.foldl (fun seen member => latest seen member.2.2) none =
      reordered.foldl (fun seen member => latest seen member.2.2) none := by
    apply permuted.foldl_eq'
    intro first _ second _ seen
    exact latest_right_comm seen first.2.2 second.2.2
  unfold groupProposals
  dsimp only
  rw [permuted.length_eq, (permuted.map _).sum_nat, sameLast,
    insertionSort_perm (permuted.map fun member => attemptedScope group.1 member.1)]
  split
  · exact List.Perm.refl _
  · exact permuted.map _

theorem unsorted_perm
    {observations reordered : List Observation}
    (permuted : observations.Perm reordered)
    (generalize : Bool)
    {minCount : Int}
    (positive : 1 ≤ minCount) :
    (unsorted observations generalize minCount).Perm (unsorted reordered generalize minCount) := by
  have sameKept := keptPairs_perm permuted positive
  have sameGroups : (groups observations minCount).Perm (groups reordered minCount) := by
    rw [List.perm_ext_iff_of_nodup (nodup_groups ..) (nodup_groups ..)]
    intro group
    simp only [mem_groups_iff, sameKept.mem_iff]
  have sameMember : memberOf observations = memberOf reordered := by
    funext pair
    rw [memberOf, memberOf, total_perm permuted, lastSighting_perm permuted]
  unfold unsorted
  split
  · apply sameGroups.flatMap
    intro group _
    rw [sameMember]
    exact groupProposals_perm group ((sameKept.filter _).map _)
  · rw [total_perm permuted, lastSighting_perm permuted]
    exact sameKept.map _

end Infer
end Vinctor
