import Mathlib.Data.List.GetD
import Mathlib.Data.List.Induction
import Vinctor.Core.Scope

/-!
# The language of grant scopes

What the validation of grant scopes accepts, as a set of texts, and the order that
subsumption puts on them.

The documented grammar restricts the characters of every segment.  The validation returns
early where a scope ends in a wildcard and then does not look at them, so that it accepts
more wildcards than are documented.
-/

namespace Vinctor
namespace Scope

open Foundation

variable {broad narrow other : String} {scope : String} {segments : List (List Char)}

/-! ## Subsumption and matching -/

/-- A text with a colon is the scope of its two parts. -/
theorem exists_attemptedScope_of_isValidGrantScope
    (valid : isValidGrantScope scope = true) :
    ∃ action resource, scope = attemptedScope action resource := by
  have single := count_colon_of_isValidGrantScope valid
  have present : ':' ∈ scope.toList := by
    rw [← List.count_pos_iff]
    omega
  have text := Text.eq_append_of_partition_found (Text.partition_found_of_mem present)
  refine ⟨String.ofList (Text.partition ':' scope.toList).1,
    String.ofList (Text.partition ':' scope.toList).2.2, ?_⟩
  apply String.toList_injective
  rw [attemptedScope, String.toList_append, String.toList_append, String.toList_ofList,
    String.toList_ofList]
  simpa using text

/-- A scope that matches what a valid scope names subsumes it. -/
theorem scopeSubsumes_of_matches
    {action resource : String}
    (broadValid : isValidGrantScope broad = true)
    (narrowValid : isValidGrantScope (attemptedScope action resource) = true)
    (matched : Matches broad action resource) :
    scopeSubsumes broad (attemptedScope action resource) = true := by
  rw [matches_iff, matchesTerminalResourceWildcard_iff] at matched
  unfold scopeSubsumes
  rcases matched with same | ⟨stem, parts, below⟩
  · rw [if_pos same]
  · split
    · rfl
    · rw [if_neg (by simp [broadValid, narrowValid]), partition_attemptedScope narrowValid, parts]
      dsimp only
      rw [if_neg (by simp), show stem ++ ['/', '*'] = (stem ++ ['/']) ++ ['*'] by simp,
        Text.removeSuffix_append]
      exact List.isPrefixOf_iff_prefix.mpr below

theorem scopeSubsumes_iff
    (broadValid : isValidGrantScope broad = true)
    (narrowValid : isValidGrantScope narrow = true) :
    scopeSubsumes broad narrow = true ↔
      ∀ action resource, Matches narrow action resource → Matches broad action resource := by
  constructor
  · intro subsumes action resource matched
    exact matches_of_scopeSubsumes subsumes matched
  · intro included
    -- A scope matches what it names itself, whether or not it ends in a wildcard.
    obtain ⟨action, resource, rfl⟩ := exists_attemptedScope_of_isValidGrantScope narrowValid
    apply scopeSubsumes_of_matches broadValid narrowValid
    apply included
    rw [matches_iff]
    exact Or.inl rfl

/-- Of two scopes that subsume each other, each is as short as the other. -/
theorem eq_of_scopeSubsumes
    (forth : scopeSubsumes broad narrow = true)
    (back : scopeSubsumes narrow broad = true) :
    broad = narrow := by
  rcases scopeSubsumes_cases forth with same | ⟨_, stem, broadParts, below⟩
  · exact same
  rcases scopeSubsumes_cases back with same | ⟨_, narrowStem, narrowParts, above⟩
  · exact same.symm
  have broadText := Text.eq_append_of_partition_found
    (show (Text.partition ':' broad.toList).2.1 = true by rw [broadParts])
  have narrowText := Text.eq_append_of_partition_found
    (show (Text.partition ':' narrow.toList).2.1 = true by rw [narrowParts])
  rw [narrowParts] at below
  rw [broadParts] at above
  have below' : stem ++ ['/'] <+: narrowStem ++ ['/'] := by
    apply prefix_of_prefix_star
    simpa using below
  have above' : narrowStem ++ ['/'] <+: stem ++ ['/'] := by
    apply prefix_of_prefix_star
    simpa using above
  have sameStem : stem = narrowStem :=
    List.append_cancel_right (below'.eq_of_length_le above'.length_le)
  apply String.toList_injective
  rw [broadText, narrowText]
  rw [narrowParts] at broadParts ⊢
  rw [broadParts, sameStem]

/-- Subsumption of valid scopes is inclusion of what they permit, and an order. -/
theorem scopeSubsumes_is_inclusion :
    (∀ broad narrow, isValidGrantScope broad = true → isValidGrantScope narrow = true →
      (scopeSubsumes broad narrow = true ↔
        ∀ action resource, matchScope [narrow] action resource ≠ none →
          matchScope [broad] action resource ≠ none)) ∧
    (∀ scope, isValidGrantScope scope = true → scopeSubsumes scope scope = true) ∧
    (∀ broad middle narrow, isValidGrantScope broad = true → isValidGrantScope middle = true →
      isValidGrantScope narrow = true → scopeSubsumes broad middle = true →
        scopeSubsumes middle narrow = true → scopeSubsumes broad narrow = true) ∧
    (∀ broad narrow, isValidGrantScope broad = true → isValidGrantScope narrow = true →
      scopeSubsumes broad narrow = true → scopeSubsumes narrow broad = true →
        broad = narrow) := by
  refine ⟨?_, ?_, ?_, ?_⟩
  · intro broad narrow broadValid narrowValid
    exact scopeSubsumes_iff broadValid narrowValid
  · intro scope _
    unfold scopeSubsumes
    rw [if_pos rfl]
  · intro broad middle narrow broadValid _ narrowValid upper lower
    rw [scopeSubsumes_iff broadValid narrowValid]
    intro action resource matched
    exact matches_of_scopeSubsumes upper (matches_of_scopeSubsumes lower matched)
  · intro broad narrow _ _ forth back
    exact eq_of_scopeSubsumes forth back

theorem wildcard_includes_deeper :
    ∀ action resource, matchScope ["read:repo/main/docs/*"] action resource ≠ none →
      matchScope ["read:repo/main/*"] action resource ≠ none :=
  (scopeSubsumes_is_inclusion.1 "read:repo/main/*" "read:repo/main/docs/*" (by decide)
    (by decide)).mp (by decide)

/-! ## Segments -/

/-- A segment as documented. -/
structure Segment (segment : List Char) : Prop where
  nonempty : segment ≠ []
  characters : ∀ character ∈ segment, isSegmentCharacter character = true
  notCurrent : segment ≠ ['.']
  notParent : segment ≠ ['.', '.']

/-- A segment in front of a wildcard as the validation takes it. -/
structure LooseSegment (segment : List Char) : Prop where
  nonempty : segment ≠ []
  characters : ∀ character ∈ segment, character ∉ ['/', ':', '\\', '\x00', '*']
  notCurrent : segment ≠ ['.']
  notParent : segment ≠ ['.', '.']

theorem Segment.loose
    {segment : List Char}
    (isSegment : Segment segment) :
    LooseSegment segment where
  nonempty := isSegment.nonempty
  characters := by
    intro character member reserved
    have allowed := isSegment.characters character member
    simp only [List.mem_cons, List.not_mem_nil, or_false] at reserved
    rcases reserved with rfl | rfl | rfl | rfl | rfl <;> exact absurd allowed (by decide)
  notCurrent := isSegment.notCurrent
  notParent := isSegment.notParent

theorem LooseSegment.not_mem
    {segment : List Char}
    (loose : LooseSegment segment)
    {character : Char}
    (reserved : character ∈ ['/', ':', '\\', '\x00', '*']) :
    character ∉ segment :=
  fun member => loose.characters character member reserved

theorem isSegment_iff (segment : List Char) :
    isSegment segment = true ↔
      segment ≠ [] ∧ ∀ character ∈ segment, isSegmentCharacter character = true := by
  simp [isSegment]

/-! ## Resources -/

/-- The text of a resource with these segments. -/
def joined (segments : List (List Char)) : List Char := ['/'].intercalate segments

theorem splitOn_joined
    (noSlash : ∀ segment ∈ segments, '/' ∉ segment)
    (nonempty : segments ≠ []) :
    (joined segments).splitOn '/' = segments :=
  List.splitOn_intercalate '/' noSlash nonempty

theorem mem_joined
    {character : Char}
    (member : character ∈ joined segments) :
    character = '/' ∨ ∃ segment ∈ segments, character ∈ segment := by
  induction segments with
  | nil => exact absurd member List.not_mem_nil
  | cons segment segments rest =>
      cases segments with
      | nil =>
          rw [joined, List.intercalate_singleton] at member
          exact Or.inr ⟨segment, List.mem_cons_self, member⟩
      | cons next later =>
          rw [joined, List.intercalate_cons_cons] at member
          rcases List.mem_append.mp member with here | onward
          · rcases List.mem_append.mp here with inSegment | isSlash
            · exact Or.inr ⟨segment, List.mem_cons_self, inSegment⟩
            · exact Or.inl (List.mem_singleton.mp isSlash)
          · rcases rest onward with isSlash | ⟨found, among, inFound⟩
            · exact Or.inl isSlash
            · exact Or.inr ⟨found, List.mem_cons_of_mem _ among, inFound⟩

theorem subset_joined
    {segment : List Char}
    (member : segment ∈ segments) :
    segment ⊆ joined segments := by
  induction segments with
  | nil => exact absurd member List.not_mem_nil
  | cons first segments rest =>
      cases segments with
      | nil =>
          rw [List.mem_singleton.mp member, joined, List.intercalate_singleton]
          exact fun _ => id
      | cons next later =>
          rw [joined, List.intercalate_cons_cons]
          rcases List.mem_cons.mp member with same | among
          · rw [same, List.append_assoc]
            exact List.subset_append_left _ _
          · exact List.Subset.trans (rest among) (List.subset_append_right _ _)

/-- A joined text starts with its first segment and ends with its last. -/
theorem joined_affixes
    (first : List Char)
    (segments : List (List Char)) :
    first <+: joined (first :: segments) ∧
      (first :: segments).getLast (List.cons_ne_nil _ _) <:+ joined (first :: segments) := by
  induction segments generalizing first with
  | nil =>
      rw [joined, List.intercalate_singleton]
      exact ⟨List.prefix_refl _, List.suffix_refl _⟩
  | cons next later rest =>
      rw [joined, List.intercalate_cons_cons]
      constructor
      · rw [List.append_assoc]
        exact List.prefix_append _ _
      · rw [List.getLast_cons (List.cons_ne_nil _ _)]
        exact (rest next).2.trans (List.suffix_append _ _)

/-- The first test of a resource: it is a text of segments that are not empty and not
dots, without reserved characters. -/
structure Shaped (resource : String) (segments : List (List Char)) : Prop where
  text : resource.toList = joined segments
  many : 2 ≤ segments.length
  noSlash : ∀ segment ∈ segments, '/' ∉ segment
  nonempty : ∀ segment ∈ segments, segment ≠ []
  noDots : ∀ segment ∈ segments, segment ≠ ['.'] ∧ segment ≠ ['.', '.']
  unreserved : ∀ segment ∈ segments, ∀ character ∈ [':', '\\', '\x00'], character ∉ segment

theorem Shaped.splitOn
    {resource : String}
    (shaped : Shaped resource segments) :
    resource.toList.splitOn '/' = segments := by
  rw [shaped.text]
  apply splitOn_joined shaped.noSlash
  intro empty
  have many := shaped.many
  rw [empty] at many
  cases many

theorem Shaped.not_mem
    {resource : String}
    (shaped : Shaped resource segments)
    {character : Char}
    (reserved : character ∈ [':', '\\', '\x00']) :
    character ∉ resource.toList := by
  rw [shaped.text]
  intro member
  rcases mem_joined member with rfl | ⟨segment, among, inSegment⟩
  · exact absurd reserved (by decide)
  · exact shaped.unreserved segment among character reserved inSegment

/-- A text of nonempty segments neither starts nor ends with a slash. -/
theorem Shaped.no_outer_slash
    {resource : String}
    (shaped : Shaped resource segments) :
    ¬ ['/'] <+: resource.toList ∧ ¬ ['/'] <:+ resource.toList := by
  have many := shaped.many
  rw [shaped.text]
  cases segments with
  | nil => cases many
  | cons first later =>
      obtain ⟨starts, ends⟩ := joined_affixes first later
      constructor
      · rintro ⟨rest, slash⟩
        have firstNonempty := shaped.nonempty first List.mem_cons_self
        cases first with
        | nil => exact firstNonempty rfl
        | cons head tail =>
            obtain ⟨onward, isPrefix⟩ := starts
            rw [← slash, List.cons_append, List.cons_append] at isPrefix
            have isSlash : head = '/' := (List.cons.inj isPrefix).1
            exact shaped.noSlash _ List.mem_cons_self (isSlash ▸ List.mem_cons_self)
      · intro slash
        have lastMember := List.getLast_mem (List.cons_ne_nil first later)
        have inLast : ['/'] <:+ (first :: later).getLast (List.cons_ne_nil _ _) := by
          apply List.suffix_of_suffix_length_le slash ends
          exact List.length_pos_iff.mpr (shaped.nonempty _ lastMember)
        exact shaped.noSlash _ lastMember (inLast.subset List.mem_cons_self)

/-! ## Wildcards -/

/-- The places of the segments with a star. -/
def starred (segments : List (List Char)) : List Nat :=
  (List.range segments.length).filter fun index => (segments.getD index []).contains '*'

theorem starred_concat
    (segments : List (List Char))
    (last : List Char) :
    starred (segments ++ [last]) =
      starred segments ++ if last.contains '*' then [segments.length] else [] := by
  unfold starred
  rw [List.length_append, List.length_singleton, List.range_succ, List.filter_append]
  congr 1
  · apply List.filter_congr
    intro index member
    rw [List.getD_append _ _ _ _ (List.mem_range.mp member)]
  · rw [List.filter_singleton, List.getD_append_right _ _ _ _ (Nat.le_refl _), Nat.sub_self,
      List.getD_cons_zero]
    cases last.contains '*' <;> rfl

theorem starred_eq_nil_iff (segments : List (List Char)) :
    starred segments = [] ↔ ∀ segment ∈ segments, '*' ∉ segment := by
  induction segments using List.reverseRecOn with
  | nil => exact ⟨fun _ _ => nofun, fun _ => rfl⟩
  | append_singleton segments last rest =>
      rw [starred_concat, List.append_eq_nil_iff, rest]
      simp only [List.mem_append, List.mem_singleton, or_imp, forall_and, forall_eq,
        ite_eq_right_iff, List.cons_ne_nil, imp_false, Bool.not_eq_true, List.contains_eq_mem,
        decide_eq_false_iff_not]

/-- Exactly one star, which is the last segment. -/
def EndsInWildcard (segments : List (List Char)) : Prop :=
  ∃ front, segments = front ++ [['*']] ∧ 2 ≤ front.length ∧ ∀ segment ∈ front, '*' ∉ segment

theorem endsInWildcard_iff (segments : List (List Char)) :
    ((starred segments).length == 1 && (starred segments).head? == some (segments.length - 1) &&
        segments.getLast? == some ['*'] && decide (segments.length ≥ 3)) = true ↔
      EndsInWildcard segments := by
  simp only [Bool.and_eq_true, beq_iff_eq, decide_eq_true_eq, and_assoc]
  induction segments using List.reverseRecOn with
  | nil =>
      constructor
      · rintro ⟨_, _, missing, _⟩
        cases missing
      · rintro ⟨front, isEmpty, _⟩
        exact absurd isEmpty.symm (List.append_ne_nil_of_right_ne_nil _ (List.cons_ne_nil _ _))
  | append_singleton segments last _ =>
      constructor
      · rintro ⟨one, _, isStar, enough⟩
        rw [List.getLast?_append, List.getLast?_singleton, Option.some_or, Option.some.injEq] at isStar
        subst isStar
        rw [starred_concat, if_pos (by decide), List.length_append, List.length_singleton] at one
        rw [List.length_append, List.length_singleton] at enough
        refine ⟨segments, rfl, by omega, ?_⟩
        rw [← starred_eq_nil_iff]
        exact List.length_eq_zero_iff.mp (by omega)
      · rintro ⟨front, shape, enough, noStar⟩
        obtain ⟨rfl, sameLast⟩ := List.append_inj' shape rfl
        obtain rfl := List.cons.inj sameLast |>.1
        rw [starred_concat, (starred_eq_nil_iff _).mpr noStar, if_pos (by decide)]
        simp only [List.nil_append, List.length_singleton, List.head?_cons, List.length_append,
          Nat.add_sub_cancel, List.getLast?_append, List.getLast?_singleton, Option.some_or,
          true_and]
        omega

/-- The tests of a resource, one after another. -/
theorem isValidResource_tests
    (resource : String)
    (allowTerminalWildcard : Bool) :
    isValidResource resource allowTerminalWildcard = true ↔
      resource.toList ≠ [] ∧
      ('\x00' ∉ resource.toList ∧ '\\' ∉ resource.toList ∧ ':' ∉ resource.toList) ∧
      (¬ ['/'] <+: resource.toList ∧ ¬ ['/'] <:+ resource.toList) ∧
      2 ≤ (resource.toList.splitOn '/').length ∧
      (∀ segment ∈ resource.toList.splitOn '/', segment ≠ []) ∧
      (∀ segment ∈ resource.toList.splitOn '/', segment ≠ ['.'] ∧ segment ≠ ['.', '.']) ∧
      ((starred (resource.toList.splitOn '/') = [] ∧
          ∀ segment ∈ resource.toList.splitOn '/', isSegment segment = true) ∨
        (starred (resource.toList.splitOn '/') ≠ [] ∧ allowTerminalWildcard = true ∧
          EndsInWildcard (resource.toList.splitOn '/'))) := by
  unfold isValidResource
  dsimp only
  rw [← starred]
  split_ifs with blank reserved slashed few empty dotted wild
  · simp_all
  · simp only [Bool.or_eq_true, List.contains_eq_mem, decide_eq_true_eq] at reserved
    simp only [false_iff]
    rintro ⟨_, ⟨noNul, noBackslash, noColon⟩, _⟩
    rcases reserved with (found | found) | found
    · exact noNul found
    · exact noBackslash found
    · exact noColon found
  · simp only [Bool.or_eq_true, List.isPrefixOf_iff_prefix, List.isSuffixOf_iff_suffix] at slashed
    simp only [false_iff]
    rintro ⟨_, _, ⟨noFirst, noLast⟩, _⟩
    exact slashed.elim noFirst noLast
  · simp only [false_iff]
    rintro ⟨_, _, _, many, _⟩
    omega
  · simp only [List.any_eq_true, List.isEmpty_iff] at empty
    simp only [false_iff]
    rintro ⟨_, _, _, _, nonempty, _⟩
    obtain ⟨segment, member, isEmpty⟩ := empty
    exact nonempty segment member isEmpty
  · simp only [List.any_eq_true, Bool.or_eq_true, beq_iff_eq] at dotted
    simp only [false_iff]
    rintro ⟨_, _, _, _, _, noDots, _⟩
    obtain ⟨segment, member, isDots⟩ := dotted
    exact isDots.elim (noDots segment member).1 (noDots segment member).2
  all_goals
    simp only [List.isEmpty_iff] at blank
    simp only [Bool.or_eq_true, List.contains_eq_mem, decide_eq_true_eq, not_or] at reserved
    simp only [Bool.or_eq_true, List.isPrefixOf_iff_prefix, List.isSuffixOf_iff_suffix,
      not_or] at slashed
    simp only [List.any_eq_true, List.isEmpty_iff, not_exists, not_and] at empty
    simp only [List.any_eq_true, Bool.or_eq_true, beq_iff_eq, not_exists, not_and, not_or] at dotted
    simp only [Bool.not_eq_true', Bool.not_eq_false, List.isEmpty_iff] at wild
  · rw [List.isEmpty_eq_false_iff] at wild
    simp only [Bool.and_assoc]
    rw [Bool.and_eq_true, ← Bool.and_assoc, ← Bool.and_assoc, endsInWildcard_iff]
    constructor
    · rintro ⟨allowed, ends⟩
      exact ⟨blank, ⟨reserved.1.1, reserved.1.2, reserved.2⟩, slashed, Nat.le_of_not_lt few, empty,
        dotted, Or.inr ⟨wild, allowed, ends⟩⟩
    · rintro ⟨_, _, _, _, _, _, plain | starry⟩
      · exact absurd plain.1 wild
      · exact starry.2
  · rw [List.all_eq_true]
    constructor
    · intro plain
      exact ⟨blank, ⟨reserved.1.1, reserved.1.2, reserved.2⟩, slashed, Nat.le_of_not_lt few, empty,
        dotted, Or.inl ⟨wild, plain⟩⟩
    · rintro ⟨_, _, _, _, _, _, plain | starry⟩
      · exact plain.2
      · exact absurd wild starry.1

/-- No star is a character of a segment. -/
theorem star_not_mem_of_isSegment
    {segment : List Char}
    (valid : isSegment segment = true) :
    '*' ∉ segment := by
  intro member
  exact absurd (((isSegment_iff segment).mp valid).2 '*' member) (by decide)

theorem EndsInWildcard.starred_ne_nil
    (ends : EndsInWildcard segments) :
    starred segments ≠ [] := by
  obtain ⟨front, rfl, _⟩ := ends
  rw [starred_concat, if_pos (by decide)]
  exact List.append_ne_nil_of_right_ne_nil _ (List.cons_ne_nil _ _)

theorem isValidResource_iff
    (resource : String)
    (allowTerminalWildcard : Bool) :
    isValidResource resource allowTerminalWildcard = true ↔
      ∃ segments, Shaped resource segments ∧
        ((∀ segment ∈ segments, Segment segment) ∨
          (allowTerminalWildcard = true ∧ EndsInWildcard segments)) := by
  rw [isValidResource_tests]
  constructor
  · rintro ⟨_, ⟨noNul, noBackslash, noColon⟩, _, many, nonempty, noDots, kinds⟩
    have text : resource.toList = joined (resource.toList.splitOn '/') :=
      (List.intercalate_splitOn '/').symm
    have inText : ∀ segment ∈ resource.toList.splitOn '/', segment ⊆ resource.toList := by
      intro segment member
      conv_rhs => rw [text]
      exact subset_joined member
    refine ⟨resource.toList.splitOn '/', ?_, ?_⟩
    · exact
        { text := text
          many := many
          noSlash := fun segment member => Text.not_mem_of_mem_splitOn member
          nonempty := nonempty
          noDots := noDots
          unreserved := by
            intro segment member character reserved inSegment
            have present := inText segment member inSegment
            simp only [List.mem_cons, List.not_mem_nil, or_false] at reserved
            rcases reserved with rfl | rfl | rfl
            · exact noColon present
            · exact noBackslash present
            · exact noNul present }
    · refine kinds.imp (fun plain segment member => ?_) And.right
      exact
        { nonempty := nonempty segment member
          characters := ((isSegment_iff segment).mp (plain.2 segment member)).2
          notCurrent := (noDots segment member).1
          notParent := (noDots segment member).2 }
  · rintro ⟨segments, shaped, kinds⟩
    have split := shaped.splitOn
    refine ⟨?_, ?_, shaped.no_outer_slash, ?_, ?_, ?_, ?_⟩
    · intro blank
      rw [blank, List.splitOn_nil] at split
      have many := shaped.many
      rw [← split] at many
      exact absurd many (by decide)
    · exact ⟨shaped.not_mem (by decide), shaped.not_mem (by decide), shaped.not_mem (by decide)⟩
    · rw [split]
      exact shaped.many
    · rw [split]
      exact shaped.nonempty
    · rw [split]
      exact shaped.noDots
    · rw [split]
      rcases kinds with plain | ⟨allowed, ends⟩
      · left
        have valid : ∀ segment ∈ segments, isSegment segment = true := fun segment member =>
          (isSegment_iff segment).mpr
            ⟨(plain segment member).nonempty, (plain segment member).characters⟩
        refine ⟨(starred_eq_nil_iff segments).mpr fun segment member => ?_, valid⟩
        exact star_not_mem_of_isSegment (valid segment member)
      · exact Or.inr ⟨ends.starred_ne_nil, allowed, ends⟩

/-! ## Grant scopes -/

/-- The text of a scope with this action and these segments. -/
def scopeText (action : String) (segments : List (List Char)) : List Char :=
  action.toList ++ ':' :: joined segments

/-- The documented grammar: a known verb and at least two segments, which a wildcard may
follow. -/
def Documented (scope : String) : Prop :=
  ∃ action ∈ allowedActions, ∃ segments, 2 ≤ segments.length ∧
    (∀ segment ∈ segments, Segment segment) ∧
    (scope.toList = scopeText action segments ∨
      scope.toList = scopeText action (segments ++ [['*']]))

/-- A wildcard that has another character than the documented ones in front of it, though
none of the reserved ones. -/
def LooseWildcard (scope : String) : Prop :=
  ∃ action ∈ allowedActions, ∃ segments, 2 ≤ segments.length ∧
    (∀ segment ∈ segments, LooseSegment segment) ∧
    (∃ segment ∈ segments, ∃ character ∈ segment, isSegmentCharacter character = false) ∧
    scope.toList = scopeText action (segments ++ [['*']])

theorem colon_not_mem_action
    {action : String}
    (known : action ∈ allowedActions) :
    ':' ∉ action.toList := by
  simp only [allowedActions, List.mem_cons, List.not_mem_nil, or_false] at known
  rcases known with rfl | rfl | rfl | rfl | rfl | rfl <;> decide

theorem colon_not_mem_joined
    (loose : ∀ segment ∈ segments, LooseSegment segment ∨ segment = ['*']) :
    ':' ∉ joined segments := by
  intro member
  rcases mem_joined member with isSlash | ⟨segment, among, inSegment⟩
  · exact absurd isSlash (by decide)
  · rcases loose segment among with isLoose | rfl
    · exact isLoose.not_mem (by decide) inSegment
    · exact absurd inSegment (by decide)

/-- A valid scope is a known verb and a valid resource. -/
theorem isValidGrantScope_iff_text (scope : String) :
    isValidGrantScope scope = true ↔
      ∃ action ∈ allowedActions, ∃ resource, isValidResource resource true = true ∧
        ':' ∉ resource.toList ∧ scope.toList = action.toList ++ ':' :: resource.toList := by
  constructor
  · intro valid
    unfold isValidGrantScope at valid
    split at valid
    · next action resource parts =>
        rw [Bool.and_eq_true, isValidRequestedAction, List.contains_iff_mem] at valid
        refine ⟨String.ofList action, valid.1, String.ofList resource, valid.2, ?_, ?_⟩
        · rw [String.toList_ofList]
          apply Text.not_mem_of_mem_splitOn
          rw [parts]
          exact List.mem_cons_of_mem _ List.mem_cons_self
        · have text : [':'].intercalate (scope.toList.splitOn ':') = scope.toList :=
            List.intercalate_splitOn ':'
          rw [parts, List.intercalate_cons_cons, List.intercalate_singleton] at text
          rw [String.toList_ofList, String.toList_ofList, ← text, List.append_assoc]
          rfl
    · cases valid
  · rintro ⟨action, known, resource, valid, noColon, text⟩
    have parts : scope.toList.splitOn ':' = [action.toList, resource.toList] := by
      have joinedText : scope.toList = [':'].intercalate [action.toList, resource.toList] := by
        rw [text, List.intercalate_cons_cons, List.intercalate_singleton, List.append_assoc]
        rfl
      rw [joinedText]
      apply List.splitOn_intercalate
      · intro part member
        rcases List.mem_cons.mp member with rfl | last
        · exact colon_not_mem_action known
        · rw [List.mem_singleton.mp last]
          exact noColon
      · exact List.cons_ne_nil _ _
    unfold isValidGrantScope
    rw [parts]
    dsimp only
    rw [Bool.and_eq_true, String.ofList_toList, String.ofList_toList, isValidRequestedAction,
      List.contains_iff_mem]
    exact ⟨known, valid⟩

theorem shaped_of_loose
    (many : 2 ≤ segments.length)
    (loose : ∀ segment ∈ segments, LooseSegment segment ∨ segment = ['*']) :
    Shaped (String.ofList (joined segments)) segments where
  text := String.toList_ofList
  many := many
  noSlash segment member := by
    rcases loose segment member with isLoose | rfl
    · exact isLoose.not_mem (by decide)
    · decide
  nonempty segment member := by
    rcases loose segment member with isLoose | rfl
    · exact isLoose.nonempty
    · decide
  noDots segment member := by
    rcases loose segment member with isLoose | rfl
    · exact ⟨isLoose.notCurrent, isLoose.notParent⟩
    · decide
  unreserved segment member character reserved := by
    rcases loose segment member with isLoose | rfl
    · apply isLoose.not_mem
      simp only [List.mem_cons, List.not_mem_nil, or_false] at reserved ⊢
      tauto
    · intro isStar
      rw [List.mem_singleton.mp isStar] at reserved
      exact absurd reserved (by decide)

/-- A wildcard behind loose segments is still made of loose segments and a star. -/
theorem loose_or_star
    (loose : ∀ segment ∈ segments, LooseSegment segment) :
    ∀ segment ∈ segments ++ [['*']], LooseSegment segment ∨ segment = ['*'] := by
  intro segment member
  rcases List.mem_append.mp member with among | isStar
  · exact Or.inl (loose segment among)
  · exact Or.inr (List.mem_singleton.mp isStar)

theorem isValidGrantScope_iff (scope : String) :
    isValidGrantScope scope = true ↔
      ∃ action ∈ allowedActions, ∃ segments, 2 ≤ segments.length ∧
        (((∀ segment ∈ segments, Segment segment) ∧
            scope.toList = scopeText action segments) ∨
          ((∀ segment ∈ segments, LooseSegment segment) ∧
            scope.toList = scopeText action (segments ++ [['*']]))) := by
  rw [isValidGrantScope_iff_text]
  constructor
  · rintro ⟨action, known, resource, valid, noColon, text⟩
    obtain ⟨segments, shaped, plain | ⟨_, front, rfl, many, noStar⟩⟩ :=
      (isValidResource_iff resource true).mp valid
    · refine ⟨action, known, segments, shaped.many, Or.inl ⟨plain, ?_⟩⟩
      rw [text, scopeText, shaped.text]
    · refine ⟨action, known, front, many, Or.inr ⟨fun segment member => ?_, ?_⟩⟩
      · have among := List.mem_append_left [['*']] member
        have unreserved := shaped.unreserved segment among
        exact
          { nonempty := shaped.nonempty segment among
            characters := by
              intro character inSegment reserved
              simp only [List.mem_cons, List.not_mem_nil, or_false] at reserved
              rcases reserved with rfl | rfl | rfl | rfl | rfl
              · exact shaped.noSlash segment among inSegment
              · exact unreserved _ (by decide) inSegment
              · exact unreserved _ (by decide) inSegment
              · exact unreserved _ (by decide) inSegment
              · exact noStar segment member inSegment
            notCurrent := (shaped.noDots segment among).1
            notParent := (shaped.noDots segment among).2 }
      · rw [text, scopeText, shaped.text]
  · rintro ⟨action, known, segments, many, ⟨plain, text⟩ | ⟨loose, text⟩⟩
    · have allowed : ∀ segment ∈ segments, LooseSegment segment ∨ segment = ['*'] :=
        fun segment member => Or.inl (plain segment member).loose
      refine ⟨action, known, String.ofList (joined segments), ?_, ?_, ?_⟩
      · rw [isValidResource_iff]
        exact ⟨segments, shaped_of_loose many allowed, Or.inl plain⟩
      · rw [String.toList_ofList]
        exact colon_not_mem_joined allowed
      · rw [text, scopeText, String.toList_ofList]
    · have allowed := loose_or_star loose
      have longer : 2 ≤ (segments ++ [['*']]).length := by
        rw [List.length_append]
        omega
      refine ⟨action, known, String.ofList (joined (segments ++ [['*']])), ?_, ?_, ?_⟩
      · rw [isValidResource_iff]
        refine ⟨_, shaped_of_loose longer allowed, Or.inr ⟨rfl, segments, rfl, many, ?_⟩⟩
        exact fun segment member => (loose segment member).not_mem (by decide)
      · rw [String.toList_ofList]
        exact colon_not_mem_joined allowed
      · rw [text, scopeText, String.toList_ofList]

/-- A scope has one action and one list of segments. -/
theorem scopeText_injective
    {action action' : String}
    {segments' : List (List Char)}
    (known : action ∈ allowedActions)
    (known' : action' ∈ allowedActions)
    (loose : ∀ segment ∈ segments, LooseSegment segment ∨ segment = ['*'])
    (loose' : ∀ segment ∈ segments', LooseSegment segment ∨ segment = ['*'])
    (many : segments ≠ [])
    (many' : segments' ≠ [])
    (same : scopeText action segments = scopeText action' segments') :
    segments = segments' := by
  have cut := congrArg (Text.partition ':') same
  rw [scopeText, scopeText, Text.partition_append_separator (colon_not_mem_action known),
    Text.partition_append_separator (colon_not_mem_action known')] at cut
  have sameJoined : joined segments = joined segments' := (Prod.mk.inj (Prod.mk.inj cut).2).2
  have noSlash : ∀ {parts : List (List Char)},
      (∀ segment ∈ parts, LooseSegment segment ∨ segment = ['*']) →
      ∀ segment ∈ parts, '/' ∉ segment := by
    intro parts allowed segment member
    rcases allowed segment member with isLoose | rfl
    · exact isLoose.not_mem (by decide)
    · decide
  rw [← splitOn_joined (noSlash loose) many, sameJoined, splitOn_joined (noSlash loose') many']

/-- Where other characters stand in front of a wildcard, the validation and the grammar
differ. -/
theorem LooseWildcard.differs
    (isLoose : LooseWildcard scope) :
    isValidGrantScope scope = true ∧ ¬ Documented scope := by
  obtain ⟨action, known, segments, many, loose, ⟨odd, among, character, inOdd, strange⟩, text⟩ :=
    isLoose
  refine ⟨(isValidGrantScope_iff scope).mpr
    ⟨action, known, segments, many, Or.inr ⟨loose, text⟩⟩, ?_⟩
  rintro ⟨action', known', segments', many', plain, concrete | wildcard⟩
  · -- The star would be a segment.
    have same := scopeText_injective known known' (loose_or_star loose)
      (fun segment member => Or.inl (plain segment member).loose)
      (List.append_ne_nil_of_right_ne_nil _ (List.cons_ne_nil _ _))
      (by rintro rfl; cases many') (text.symm.trans concrete)
    have star : ['*'] ∈ segments' := by
      rw [← same]
      exact List.mem_append_right _ List.mem_cons_self
    exact absurd ((plain _ star).characters '*' List.mem_cons_self) (by decide)
  · have same := scopeText_injective known known' (loose_or_star loose)
      (loose_or_star fun segment member => (plain segment member).loose)
      (List.append_ne_nil_of_right_ne_nil _ (List.cons_ne_nil _ _))
      (List.append_ne_nil_of_right_ne_nil _ (List.cons_ne_nil _ _))
      (text.symm.trans wildcard)
    have isPlain := plain odd (List.append_cancel_right same ▸ among)
    rw [isPlain.characters character inOdd] at strange
    cases strange

/-- The validation accepts what is documented, except that it lets any character but the
reserved ones stand in front of a wildcard. -/
theorem isValidGrantScope_as_documented (scope : String) :
    (isValidGrantScope scope = true ↔ Documented scope) ↔ ¬ LooseWildcard scope := by
  constructor
  · intro agree isLoose
    exact isLoose.differs.2 (agree.mp isLoose.differs.1)
  · intro notLoose
    rw [isValidGrantScope_iff]
    constructor
    · rintro ⟨action, known, segments, many, ⟨plain, text⟩ | ⟨loose, text⟩⟩
      · exact ⟨action, known, segments, many, plain, Or.inl text⟩
      · refine ⟨action, known, segments, many, fun segment member => ?_, Or.inr text⟩
        have isLoose := loose segment member
        refine ⟨isLoose.nonempty, fun character inSegment => ?_, isLoose.notCurrent,
          isLoose.notParent⟩
        by_contra strange
        rw [Bool.not_eq_true] at strange
        exact notLoose ⟨action, known, segments, many, loose,
          ⟨segment, member, character, inSegment, strange⟩, text⟩
    · rintro ⟨action, known, segments, many, plain, concrete | wildcard⟩
      · exact ⟨action, known, segments, many, Or.inl ⟨plain, concrete⟩⟩
      · refine ⟨action, known, segments, many, Or.inr ⟨fun segment member => ?_, wildcard⟩⟩
        exact (plain segment member).loose

/-- A wildcard behind segments with a space is accepted, and is not documented. -/
theorem spaced_wildcard_is_accepted :
    ¬ (isValidGrantScope "read:my repo/main/*" = true ↔ Documented "read:my repo/main/*") := by
  have loose : LooseWildcard "read:my repo/main/*" := by
    refine ⟨"read", by decide, ["my repo".toList, "main".toList], by decide, ?_, ?_, by decide⟩
    · intro segment member
      rcases List.mem_cons.mp member with rfl | last
      · exact ⟨by decide, by simp, by decide, by decide⟩
      · rw [List.mem_singleton.mp last]
        exact ⟨by decide, by simp, by decide, by decide⟩
    · exact ⟨"my repo".toList, List.mem_cons_self, ' ', by decide, by decide⟩
  exact fun agree => loose.differs.2 (agree.mp loose.differs.1)

end Scope
end Vinctor
