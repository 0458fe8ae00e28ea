import Mathlib.Data.List.Nodup
import Mathlib.Logic.Function.Basic

/-!
# Named files and links

Entries stand at locations: a directory and a name in it.  An entry is a file, a folder or
a link to another location.  `trail` is the way that opening a location takes; whatever
changes no link on it leaves it as it is.
-/

namespace Foundation

/-- A directory, under its one resolved path, and a name in it. -/
structure Location where
  directory : String
  name : String
  deriving DecidableEq, Repr

inductive FileEntry
  | file (bytes : List UInt8)
  | link (destination : Location)
  | folder
  deriving DecidableEq, Repr

abbrev Entries := Location → Option FileEntry

namespace Entries

variable {entries after : Entries} {location : Location}

def linkAt (entries : Entries) (location : Location) : Option Location :=
  match entries location with
  | some (.link destination) => some destination
  | _ => none

/-- The locations passed on the way from a location, over so many links at most. -/
def trail (entries : Entries) : Nat → Location → List Location
  | 0, location => [location]
  | links + 1, location =>
      match entries.linkAt location with
      | some destination => location :: entries.trail links destination
      | none => [location]

/-- Where the way ends. -/
def target (entries : Entries) : Nat → Location → Location
  | 0, location => location
  | links + 1, location =>
      match entries.linkAt location with
      | some destination => entries.target links destination
      | none => location

/-- How many links are followed at most. -/
def maxLinks : Nat := 40

def way (entries : Entries) (location : Location) : List Location :=
  entries.trail maxLinks location

def opened (entries : Entries) (location : Location) : Location :=
  entries.target maxLinks location

/-- There is a file or a folder at the end of the way. -/
def existsAt (entries : Entries) (location : Location) : Bool :=
  match entries (entries.opened location) with
  | some (.file _) => true
  | some .folder => true
  | _ => false

def set (entries : Entries) (location : Location) (entry : Option FileEntry) : Entries :=
  Function.update entries location entry

@[simp] theorem set_self (entry : Option FileEntry) : entries.set location entry location = entry :=
  Function.update_self ..

theorem set_of_ne
    {other : Location}
    (differs : other ≠ location)
    (entry : Option FileEntry) :
    entries.set location entry other = entries other :=
  Function.update_of_ne differs ..

theorem linkAt_eq_of_eq
    (same : after location = entries location) :
    after.linkAt location = entries.linkAt location := by
  rw [linkAt, linkAt, same]

/-! ## Trails -/

theorem target_mem_trail
    (entries : Entries)
    (links : Nat)
    (location : Location) :
    entries.target links location ∈ entries.trail links location := by
  induction links generalizing location with
  | zero => exact List.mem_singleton_self _
  | succ links rest =>
      unfold trail target
      split
      · next destination _ => exact List.mem_cons_of_mem _ (rest destination)
      · exact List.mem_singleton_self _

theorem opened_mem_way
    (entries : Entries)
    (location : Location) :
    entries.opened location ∈ entries.way location :=
  target_mem_trail entries maxLinks location

theorem exists_trail_eq_cons
    (entries : Entries)
    (links : Nat)
    (location : Location) :
    ∃ rest, entries.trail links location = location :: rest := by
  cases links with
  | zero => exact ⟨[], rfl⟩
  | succ links =>
      unfold trail
      split
      · next destination _ => exact ⟨_, rfl⟩
      · exact ⟨[], rfl⟩

theorem exists_way_eq_cons
    (entries : Entries)
    (location : Location) :
    ∃ rest, entries.way location = location :: rest :=
  exists_trail_eq_cons entries maxLinks location

theorem mem_way
    (entries : Entries)
    (location : Location) :
    location ∈ entries.way location := by
  obtain ⟨rest, isCons⟩ := exists_way_eq_cons entries location
  rw [isCons]
  exact List.mem_cons_self

/-- A location without a link is where its way ends. -/
theorem way_of_linkAt_eq_none
    (noLink : entries.linkAt location = none) :
    entries.way location = [location] ∧ entries.opened location = location := by
  unfold way opened maxLinks trail target
  rw [noLink]
  exact ⟨rfl, rfl⟩

/-- The links on a trail decide it. -/
theorem trail_congr
    {links : Nat}
    (same : ∀ passed ∈ entries.trail links location,
      after.linkAt passed = entries.linkAt passed) :
    after.trail links location = entries.trail links location ∧
      after.target links location = entries.target links location := by
  induction links generalizing location with
  | zero => exact ⟨rfl, rfl⟩
  | succ links rest =>
      have here : after.linkAt location = entries.linkAt location := by
        apply same
        obtain ⟨_, isCons⟩ := exists_trail_eq_cons entries (links + 1) location
        rw [isCons]
        exact List.mem_cons_self
      unfold trail target
      rw [here]
      cases linked : entries.linkAt location with
      | none => exact ⟨rfl, rfl⟩
      | some destination =>
          have onward : ∀ passed ∈ entries.trail links destination,
              after.linkAt passed = entries.linkAt passed := by
            intro passed member
            apply same
            unfold trail
            rw [linked]
            exact List.mem_cons_of_mem _ member
          obtain ⟨sameTrail, sameTarget⟩ := rest onward
          exact ⟨congrArg _ sameTrail, sameTarget⟩

theorem way_congr
    (same : ∀ passed ∈ entries.way location, after.linkAt passed = entries.linkAt passed) :
    after.way location = entries.way location ∧ after.opened location = entries.opened location :=
  trail_congr same

/-- Where an entry on the way is removed, the way ends at a location without entry. -/
theorem target_of_removed
    {links : Nat}
    (removed : ∀ other, after other = entries other ∨ after other = none)
    {missing : Location}
    (onTrail : missing ∈ entries.trail links location)
    (isMissing : after missing = none) :
    after (after.target links location) = none := by
  induction links generalizing location with
  | zero =>
      rw [List.mem_singleton.mp onTrail] at isMissing
      exact isMissing
  | succ links rest =>
      unfold target
      rcases removed location with same | gone
      · rw [linkAt_eq_of_eq same]
        unfold trail at onTrail
        cases linked : entries.linkAt location with
        | none =>
            rw [linked] at onTrail
            rw [List.mem_singleton.mp onTrail] at isMissing
            exact isMissing
        | some destination =>
            rw [linked] at onTrail
            rcases List.mem_cons.mp onTrail with here | later
            · rw [here, same] at isMissing
              rw [linkAt, isMissing] at linked
              cases linked
            · exact rest later
      · rw [linkAt, gone]
        exact gone

/-- A location is not found any more once an entry on its way is removed. -/
theorem not_existsAt_of_removed
    (removed : ∀ other, after other = entries other ∨ after other = none)
    {missing : Location}
    (onWay : missing ∈ entries.way location)
    (isMissing : after missing = none) :
    after.existsAt location = false := by
  unfold existsAt
  rw [show after (after.opened location) = none from
    target_of_removed removed onWay isMissing]

/-- A change that makes no link. -/
def MakesNoLink (entries after : Entries) : Prop :=
  ∀ location, after.linkAt location = entries.linkAt location ∨ after.linkAt location = none

theorem MakesNoLink.set
    {entry : Option FileEntry}
    (noLink : ∀ destination, entry ≠ some (.link destination)) :
    MakesNoLink entries (entries.set location entry) := by
  intro other
  by_cases same : other = location
  · right
    rw [same, linkAt, set_self]
    split
    · next destination => exact absurd rfl (noLink destination)
    · rfl
  · exact Or.inl (linkAt_eq_of_eq (set_of_ne same entry))

/-- Where no link is made, ways only get shorter. -/
theorem MakesNoLink.trail_prefix
    (noLink : MakesNoLink entries after)
    (links : Nat)
    (location : Location) :
    after.trail links location <+: entries.trail links location := by
  induction links generalizing location with
  | zero => exact List.prefix_refl _
  | succ links rest =>
      unfold trail
      rcases noLink location with same | none
      · rw [same]
        cases entries.linkAt location with
        | none => exact List.prefix_refl _
        | some destination => exact List.cons_prefix_cons.mpr ⟨rfl, rest destination⟩
      · rw [none]
        cases entries.linkAt location with
        | none => exact List.prefix_refl _
        | some destination => exact List.cons_prefix_cons.mpr ⟨rfl, List.nil_prefix⟩

theorem MakesNoLink.way_sublist
    (noLink : MakesNoLink entries after)
    (location : Location) :
    (after.way location).Sublist (entries.way location) :=
  (noLink.trail_prefix maxLinks location).sublist

theorem MakesNoLink.flatMap_way_sublist
    (noLink : MakesNoLink entries after)
    (locations : List Location) :
    (locations.flatMap after.way).Sublist (locations.flatMap entries.way) := by
  induction locations with
  | nil => exact List.Sublist.refl _
  | cons location locations rest =>
      simp only [List.flatMap_cons]
      exact (noLink.way_sublist location).append rest

end Entries

end Foundation
