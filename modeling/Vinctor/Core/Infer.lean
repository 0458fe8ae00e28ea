import Mathlib.Algebra.GroupWithZero.Nat
import Mathlib.Data.List.Sort
import Mathlib.Data.String.Basic
import Vinctor.Core.Scope
import Vinctor.Foundation.Dict
import Vinctor.Foundation.Fallible

/-!
# Scopes proposed from observations

Observations of an action on a resource are added up, and every pair that was seen
often enough is proposed as a scope.  On request, the resources under one parent are
proposed as a wildcard together.  A proposal is for review; nothing is applied.
-/

namespace Vinctor
namespace Infer

open Foundation
open Fallible
open Scope

structure Observation where
  action : String
  resource : String
  count : Nat := 1
  lastSeen : Option String := none
  deriving DecidableEq, Repr

structure ScopeProposal where
  scope : String
  count : Nat
  lastSeen : Option String
  generalized : Bool
  covers : List String
  deriving DecidableEq, Repr

/-- Texts of dates sort as the dates do. -/
def latest : Option String → Option String → Option String
  | none, second => second
  | first, none => first
  | some first, some second => if first < second then some second else some first

/-- How often a pair was seen, and when last. -/
abbrev Sightings := Dict (String × String) (Nat × Option String)

def Observation.isValid (observation : Observation) : Bool :=
  isValidRequestedAction observation.action && isValidRequestedResource observation.resource

def observe (sightings : Sightings) (observation : Observation) : Sightings :=
  if observation.isValid then
    let key := (observation.action, observation.resource)
    let seen := (sightings.get? key).getD (0, none)
    sightings.set key (seen.1 + observation.count, latest seen.2 observation.lastSeen)
  else sightings

def sightings (observations : List Observation) : Sightings :=
  observations.foldl observe Dict.empty

def exactProposal (action resource : String) (count : Nat) (lastSeen : Option String) :
    ScopeProposal where
  scope := attemptedScope action resource
  count
  lastSeen
  generalized := false
  covers := [attemptedScope action resource]

/-- The resource without its last segment. -/
def parentOf (resource : String) : String :=
  if '/' ∈ resource.toList then
    String.ofList (resource.toList.reverse.dropWhile (· ≠ '/')).tail.reverse
  else resource

/-- A resource of a group, with its sightings. -/
abbrev Member := String × Nat × Option String

/-- Resources by action and parent. -/
def grouped (pairs : List ((String × String) × (Nat × Option String))) :
    Dict (String × String) (List Member) :=
  pairs.foldl (fun groups pair =>
    let key := (pair.1.1, parentOf pair.1.2)
    groups.set key ((groups.get? key).getD [] ++ [(pair.1.2, pair.2.1, pair.2.2)])) Dict.empty

def groupProposals (group : (String × String) × List Member) : List ScopeProposal :=
  let action := group.1.1
  let parent := group.1.2
  let wildcard := action ++ ":" ++ parent ++ "/*"
  let deepEnough := 2 ≤ (parent.toList.splitOn '/').length
  if 2 ≤ group.2.length ∧ deepEnough ∧ isValidGrantScope wildcard then
    [{ scope := wildcard
       count := (group.2.map fun member => member.2.1).sum
       lastSeen := group.2.foldl (fun seen member => latest seen member.2.2) none
       generalized := true
       covers := (group.2.map fun member => attemptedScope action member.1).insertionSort (· ≤ ·) }]
  else group.2.map fun member => exactProposal action member.1 member.2.1 member.2.2

def proposeScopes
    (observations : List Observation)
    (generalize : Bool)
    (minCount : Int) : Except String (List ScopeProposal) := do
  ensure (1 ≤ minCount) "min_count must be positive"
  let frequent := (sightings observations).entries.filter fun entry => minCount ≤ entry.2.1
  let proposals :=
    if generalize then (grouped frequent).entries.flatMap groupProposals
    else frequent.map fun entry => exactProposal entry.1.1 entry.1.2 entry.2.1 entry.2.2
  return proposals.insertionSort fun first second => first.scope ≤ second.scope

/-- Only valid observations count. -/
theorem proposeScopes_filter_isValid
    (observations : List Observation)
    (generalize : Bool)
    (minCount : Int) :
    proposeScopes (observations.filter Observation.isValid) generalize minCount =
      proposeScopes observations generalize minCount := by
  have counted : sightings (observations.filter Observation.isValid) = sightings observations := by
    rw [sightings, List.foldl_filter]
    apply List.foldl_ext
    intro seen observation _
    split
    · rfl
    · next invalid => exact (if_neg invalid).symm
  rw [proposeScopes, counted]
  rfl

/-! ## Repeated observations -/

section Repeated

variable {observation : Observation}

/-- The observation stands alone among the sightings, seen so often. -/
def SeenAlone (observation : Observation) (count : Nat) (sightings : Sightings) : Prop :=
  ∃ lastSeen, sightings.entries =
    [((observation.action, observation.resource), (count, lastSeen))]

theorem SeenAlone.observe
    (valid : observation.isValid = true)
    {count : Nat}
    {sightings : Sightings}
    (alone : SeenAlone observation count sightings) :
    SeenAlone observation (count + observation.count) (observe sightings observation) := by
  obtain ⟨lastSeen, isAlone⟩ := alone
  have found : sightings.get? (observation.action, observation.resource) =
      some (count, lastSeen) := by
    rw [Dict.get?_eq_some_iff, isAlone]
    exact List.mem_singleton_self _
  refine ⟨latest lastSeen observation.lastSeen, ?_⟩
  unfold Infer.observe
  rw [if_pos valid]
  dsimp only
  rw [found]
  change Dict.setEntries _ _ sightings.entries = _
  rw [isAlone, Dict.setEntries, if_pos rfl]
  rfl

theorem seenAlone_observe_empty
    (valid : observation.isValid = true) :
    SeenAlone observation observation.count (observe Dict.empty observation) := by
  refine ⟨latest none observation.lastSeen, ?_⟩
  unfold Infer.observe
  rw [if_pos valid]
  change [(_, 0 + observation.count, _)] = _
  rw [Nat.zero_add]
  rfl

theorem seenAlone_replicate
    (valid : observation.isValid = true)
    (single : observation.count = 1)
    (count : Nat) :
    SeenAlone observation (count + 1) (sightings (List.replicate (count + 1) observation)) := by
  induction count with
  | zero =>
      have first := seenAlone_observe_empty valid
      rw [single] at first
      exact first
  | succ count inductionHypothesis =>
      have next := inductionHypothesis.observe valid
      rw [single] at next
      rw [List.replicate_succ', sightings, List.foldl_append]
      exact next

/-- A valid pair that was seen often enough is proposed. -/
theorem proposeScopes_replicate
    (valid : observation.isValid = true)
    (single : observation.count = 1)
    (generalize : Bool)
    {minCount : Int}
    (positive : 1 ≤ minCount) :
    ∃ proposals, proposals ≠ [] ∧
      proposeScopes (List.replicate minCount.toNat observation) generalize minCount =
        .ok proposals := by
  obtain ⟨count, rfl⟩ : ∃ count : Nat, minCount = count + 1 := ⟨(minCount - 1).toNat, by omega⟩
  have isCount : ((count : Int) + 1).toNat = count + 1 := by omega
  obtain ⟨lastSeen, isAlone⟩ := seenAlone_replicate valid single count
  have frequent : ((sightings (List.replicate (count + 1) observation)).entries.filter fun entry =>
      decide ((count : Int) + 1 ≤ entry.2.1)) =
        [((observation.action, observation.resource), (count + 1, lastSeen))] := by
    rw [isAlone, List.filter_eq_self]
    intro entry isEntry
    rw [List.mem_singleton.mp isEntry]
    simp
  have checked : ensure (1 ≤ (count : Int) + 1) "min_count must be positive" = .ok () :=
    if_pos positive
  rw [isCount, proposeScopes, checked, frequent]
  refine ⟨_, ?_, rfl⟩
  intro empty
  have lengths := congrArg List.length empty
  rw [List.length_insertionSort] at lengths
  cases generalize with
  | false => cases lengths
  | true =>
      -- The only group has one member, which is proposed as it is.
      have exact : groupProposals ((observation.action, parentOf observation.resource),
          [(observation.resource, count + 1, lastSeen)]) =
            [exactProposal observation.action observation.resource (count + 1) lastSeen] := by
        unfold groupProposals
        exact if_neg fun many => absurd many.1 (Nat.not_succ_le_self 1)
      change ([groupProposals ((observation.action, parentOf observation.resource),
        [(observation.resource, count + 1, lastSeen)])].flatten).length = 0 at lengths
      rw [exact] at lengths
      cases lengths

end Repeated

end Infer
end Vinctor
