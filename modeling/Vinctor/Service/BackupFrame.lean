import Vinctor.Service.SqliteBackup

/-!
# Backups that leave the database alone

A backup leaves the database alone where nothing that it removes or makes is on the way to
the files of the database.  Where the removed names lie on that way, the database is gone
before it is copied.
-/

namespace Vinctor
namespace Backup

open Foundation
open Foundation.Entries

variable {entries after : Entries} {db output : Location} {parents : List Location}

/-! ## The condition -/

/-- A link that leads nowhere. -/
def dangling (entries : Entries) (output : Location) : Bool :=
  (entries.linkAt output).isSome && !entries.existsAt output

/-- What is removed or written at an output: its four names, and where a dangling link
leads, since such a link is not removed but opened. -/
def claimed (entries : Entries) (output : Location) : List Location :=
  output :: sidecars output ++ if dangling entries output then (reach entries output).tail else []

/-- Nothing at the output has to do with the database. -/
structure Clear
    (entries : Entries)
    (db output : Location)
    (parents : List Location) : Prop where
  present : entries.existsAt db = true
  distinct : (reach entries db).Nodup
  claimedDistinct : (claimed entries output).Nodup
  apart : (reach entries db).Disjoint (claimed entries output)
  parentsApart : (reach entries db).Disjoint parents

/-- The output is refused, or has nothing to do with the database. -/
structure Harmless
    (entries : Entries)
    (db output : Location)
    (parents : List Location)
    (force : Bool) : Prop where
  distinct : (reach entries db).Nodup
  steady : (entries.way output).Disjoint (sidecarReach entries db)
  cases : (entries.existsAt output = true ∧ force = false) ∨ Clear entries db output parents

/-! ## What the entries decide -/

theorem existsAt_congr
    (sameWay : after.opened db = entries.opened db)
    (sameEntry : after (entries.opened db) = entries (entries.opened db)) :
    after.existsAt db = entries.existsAt db := by
  rw [existsAt, existsAt, sameWay, sameEntry]

/-- The links on the way to the files decide what is reached. -/
theorem reach_congr
    (same : ∀ passed ∈ reach entries db, after.linkAt passed = entries.linkAt passed) :
    reach after db = reach entries db := by
  obtain ⟨sameWay, sameOpened⟩ :=
    way_congr fun passed member => same passed (List.mem_append_left _ member)
  rw [reach, reach, sameWay, sidecarReach, sidecarReach, sameOpened]
  congr 1
  apply List.flatMap_congr
  intro sidecar member
  refine (way_congr fun passed onWay => same passed ?_).1
  exact List.mem_append_right _ (List.mem_flatMap.mpr ⟨sidecar, member, onWay⟩)

theorem exists_reach_eq_cons
    (entries : Entries)
    (location : Location) :
    ∃ rest, reach entries location = location :: rest := by
  obtain ⟨rest, isCons⟩ := exists_way_eq_cons entries location
  exact ⟨rest ++ sidecarReach entries location, by rw [reach, isCons, List.cons_append]⟩

/-- With no link made and the way to the database kept, fewer files are reached. -/
theorem reach_sublist
    (noLink : MakesNoLink entries after)
    (sameWay : after.way db = entries.way db ∧ after.opened db = entries.opened db) :
    (reach after db).Sublist (reach entries db) := by
  rw [reach, reach, sameWay.1, sidecarReach, sidecarReach, sameWay.2]
  exact (List.Sublist.refl _).append (noLink.flatMap_way_sublist _)

/-! ## Reading the head -/

section Head

variable {Content : Type} {sqlite : Sqlite Content} {force : Bool}

theorem head_linkAt
    (lawful : sqlite.Lawful)
    (distinct : (reach entries db).Nodup)
    (progress : Option Nat)
    (location : Location) :
    (sqlite.readHead progress db entries).linkAt location = entries.linkAt location ∨
      (location ∈ sidecarReach entries db ∧
        (sqlite.readHead progress db entries).linkAt location = none) := by
  rcases lawful.headChanges progress distinct location with
    same | ⟨member, gone | ⟨_, written⟩⟩ | ⟨_, _, old, new⟩
  · exact Or.inl (linkAt_eq_of_eq same)
  · exact Or.inr ⟨member, by rw [linkAt, gone]⟩
  · exact Or.inr ⟨member, by rw [linkAt, written]⟩
  · left
    rw [linkAt, linkAt, old, new]

/-- A way that passes no sidecar of the database is kept, and so is what stands there. -/
theorem head_keeps_way
    (lawful : sqlite.Lawful)
    (distinct : (reach entries db).Nodup)
    (progress : Option Nat)
    {location : Location}
    (steady : (entries.way location).Disjoint (sidecarReach entries db)) :
    ((sqlite.readHead progress db entries).way location = entries.way location ∧
      (sqlite.readHead progress db entries).opened location = entries.opened location) ∧
    (sqlite.readHead progress db entries).existsAt location = entries.existsAt location := by
  have sameWay : (sqlite.readHead progress db entries).way location = entries.way location ∧
      (sqlite.readHead progress db entries).opened location = entries.opened location := by
    apply way_congr
    intro passed member
    exact (head_linkAt lawful distinct progress passed).resolve_right fun gone =>
      steady member gone.1
  refine ⟨sameWay, ?_⟩
  rw [existsAt, existsAt, sameWay.2]
  rcases lawful.headChanges progress distinct (entries.opened location) with
    same | gone | ⟨_, _, old, new⟩
  · rw [same]
  · exact absurd gone.1 (steady (opened_mem_way entries location))
  · rw [old, new]

theorem Harmless.readHead
    (lawful : sqlite.Lawful)
    (harmless : Harmless entries db output parents force)
    (progress : Option Nat) :
    Harmless (sqlite.readHead progress db entries) db output parents force := by
  have wayApart : (entries.way db).Disjoint (sidecarReach entries db) :=
    List.disjoint_of_nodup_append harmless.distinct
  have dbWay := (head_keeps_way lawful harmless.distinct progress wayApart).1
  have outWay := head_keeps_way lawful harmless.distinct progress harmless.steady
  have noLink : MakesNoLink entries (sqlite.readHead progress db entries) := fun location =>
    (head_linkAt lawful harmless.distinct progress location).imp_right And.right
  have fewer : (reach (sqlite.readHead progress db entries) db).Sublist (reach entries db) :=
    reach_sublist noLink dbWay
  have sameDangling : dangling (sqlite.readHead progress db entries) output =
      dangling entries output := by
    have sameLink : (sqlite.readHead progress db entries).linkAt output =
        entries.linkAt output :=
      (head_linkAt lawful harmless.distinct progress output).resolve_right fun gone =>
        harmless.steady (mem_way entries output) gone.1
    rw [dangling, dangling, sameLink, outWay.2]
  have fewerClaimed : (claimed (sqlite.readHead progress db entries) output).Sublist
      (claimed entries output) := by
    rw [claimed, claimed, sameDangling]
    refine (List.Sublist.refl _).append ?_
    split
    · exact (reach_sublist noLink outWay.1).tail
    · exact List.Sublist.refl _
  refine ⟨fewer.nodup harmless.distinct, ?_, ?_⟩
  · rw [outWay.1.1, sidecarReach, dbWay.2]
    exact List.disjoint_of_subset_right (noLink.flatMap_way_sublist _).subset harmless.steady
  · refine harmless.cases.imp (fun refused => ⟨outWay.2.trans refused.1, refused.2⟩) fun clear => ?_
    exact
      { present := (head_keeps_way lawful harmless.distinct progress wayApart).2.trans clear.present
        distinct := fewer.nodup clear.distinct
        claimedDistinct := fewerClaimed.nodup clear.claimedDistinct
        apart := List.disjoint_of_subset_left fewer.subset
          (List.disjoint_of_subset_right fewerClaimed.subset clear.apart)
        parentsApart := List.disjoint_of_subset_left fewer.subset clear.parentsApart }

end Head

/-! ## Clearing the output -/

/-- The output is gone, or is a link that leads nowhere. -/
structure Cleared
    (entries : Entries)
    (db output : Location)
    (parents : List Location) : Prop extends Clear entries db output parents where
  missing : entries.existsAt output = false

/-- A missing output without a link has no entry. -/
theorem eq_none_of_missing
    (missing : entries.existsAt output = false)
    (noLink : entries.linkAt output = none) :
    entries output = none := by
  rw [existsAt, (way_of_linkAt_eq_none noLink).2] at missing
  unfold linkAt at noLink
  cases found : entries output with
  | none => rfl
  | some entry =>
      rw [found] at missing noLink
      cases entry with
      | file bytes => cases missing
      | link destination => cases noLink
      | folder => cases missing

theorem dangling_eq_of_missing
    (missing : entries.existsAt output = false) :
    dangling entries output = (entries.linkAt output).isSome := by
  rw [dangling, missing, Bool.not_false, Bool.and_true]

theorem not_mem_reach_of_claimed
    (clear : Clear entries db output parents)
    {location : Location}
    (isClaimed : location ∈ claimed entries output) :
    location ∉ reach entries db :=
  fun reached => clear.apart reached isClaimed

theorem mem_claimed_of_own
    {location : Location}
    (own : location ∈ output :: sidecars output) :
    location ∈ claimed entries output :=
  List.mem_append_left _ own

/-- A change away from the files of the database. -/
theorem reach_set
    {location : Location}
    {entry : Option FileEntry}
    (away : location ∉ reach entries db) :
    reach (entries.set location entry) db = reach entries db := by
  apply reach_congr
  intro passed reached
  have other : passed ≠ location := fun same => away (same ▸ reached)
  exact linkAt_eq_of_eq (set_of_ne other entry)

theorem existsAt_set
    {location : Location}
    {entry : Option FileEntry}
    (away : location ∉ reach entries db) :
    (entries.set location entry).existsAt db = entries.existsAt db := by
  have other : ∀ passed ∈ entries.way db, passed ≠ location := by
    intro passed onWay same
    exact away (same ▸ List.mem_append_left _ onWay)
  have sameWay : (entries.set location entry).way db = entries.way db ∧
      (entries.set location entry).opened db = entries.opened db := by
    apply way_congr
    intro passed onWay
    exact linkAt_eq_of_eq (set_of_ne (other passed onWay) entry)
  exact existsAt_congr sameWay.2
    (set_of_ne (other _ (opened_mem_way entries db)) entry)

/-- The entry of the output is removed. -/
theorem Cleared.removeOutput
    (clear : Clear entries db output parents) :
    Cleared (entries.set output none) db output parents := by
  have away := not_mem_reach_of_claimed clear (mem_claimed_of_own List.mem_cons_self)
  have noLink : (entries.set output none).linkAt output = none := by
    rw [linkAt, set_self]
  have missing : (entries.set output none).existsAt output = false := by
    rw [existsAt, (way_of_linkAt_eq_none noLink).2, set_self]
  have fewer : (claimed (entries.set output none) output).Sublist (claimed entries output) := by
    rw [claimed, claimed, dangling_eq_of_missing missing, noLink]
    exact (List.Sublist.refl _).append (List.nil_sublist _)
  exact
    { present := (existsAt_set away).trans clear.present
      distinct := (reach_set away).symm ▸ clear.distinct
      claimedDistinct := fewer.nodup clear.claimedDistinct
      apart := by
        rw [reach_set away]
        exact List.disjoint_of_subset_right fewer.subset clear.apart
      parentsApart := (reach_set away).symm ▸ clear.parentsApart
      missing := missing }

theorem output_not_mem_sidecars
    (clear : Clear entries db output parents) :
    output ∉ sidecars output := by
  have distinct := clear.claimedDistinct
  rw [claimed, List.cons_append, List.nodup_cons] at distinct
  exact fun member => distinct.1 (List.mem_append_left _ member)

/-- A sidecar of the output is not on the way that a dangling output takes. -/
theorem sidecar_not_mem_reach
    (clear : Clear entries db output parents)
    (isDangling : dangling entries output = true)
    {sidecar : Location}
    (member : sidecar ∈ sidecars output) :
    sidecar ∉ reach entries output := by
  have distinct := clear.claimedDistinct
  rw [claimed, if_pos isDangling] at distinct
  obtain ⟨rest, isCons⟩ := exists_reach_eq_cons entries output
  rw [isCons] at distinct ⊢
  have apart := List.disjoint_of_nodup_append distinct
  intro reached
  rcases List.mem_cons.mp reached with same | later
  · exact output_not_mem_sidecars clear (same ▸ member)
  · exact apart (List.mem_cons_of_mem _ member) later

/-- The entry of a sidecar of the output is removed. -/
theorem Cleared.removeSidecar
    (cleared : Cleared entries db output parents)
    {sidecar : Location}
    (member : sidecar ∈ sidecars output) :
    Cleared (entries.set sidecar none) db output parents := by
  have away := not_mem_reach_of_claimed cleared.toClear
    (mem_claimed_of_own (List.mem_cons_of_mem _ member))
  have other : output ≠ sidecar := fun same =>
    output_not_mem_sidecars cleared.toClear (same.symm ▸ member)
  have sameOutput : (entries.set sidecar none) output = entries output := set_of_ne other none
  have sameLink := linkAt_eq_of_eq sameOutput
  have same : claimed (entries.set sidecar none) output = claimed entries output ∧
      (entries.set sidecar none).existsAt output = false := by
    cases isDangling : dangling entries output with
    | true =>
        -- The removed entry is not on the way of the link.
        have offWay := sidecar_not_mem_reach cleared.toClear isDangling member
        have missing : (entries.set sidecar none).existsAt output = false :=
          (existsAt_set offWay).trans cleared.missing
        refine ⟨?_, missing⟩
        rw [claimed, claimed, dangling_eq_of_missing missing,
          dangling_eq_of_missing cleared.missing, sameLink, reach_set offWay]
    | false =>
        rw [dangling_eq_of_missing cleared.missing, Option.isSome_eq_false_iff,
          Option.isNone_iff_eq_none] at isDangling
        have missing : (entries.set sidecar none).existsAt output = false := by
          rw [existsAt, (way_of_linkAt_eq_none (sameLink.trans isDangling)).2, sameOutput,
            eq_none_of_missing cleared.missing isDangling]
        refine ⟨?_, missing⟩
        rw [claimed, claimed, dangling_eq_of_missing missing,
          dangling_eq_of_missing cleared.missing, sameLink, isDangling]
        rfl
  exact
    { present := (existsAt_set away).trans cleared.present
      distinct := (reach_set away).symm ▸ cleared.distinct
      claimedDistinct := same.1.symm ▸ cleared.claimedDistinct
      apart := by
        rw [reach_set away, same.1]
        exact cleared.apart
      parentsApart := (reach_set away).symm ▸ cleared.parentsApart
      missing := same.2 }

/-- With the sidecars gone as well, the two databases share no file. -/
theorem Cleared.separate
    (cleared : Cleared entries db output parents)
    (gone : ∀ sidecar ∈ sidecars output, entries sidecar = none) :
    Separate entries db output := by
  have fewer : (reach entries output).Nodup ∧ reach entries output ⊆ claimed entries output := by
    cases isDangling : dangling entries output with
    | true =>
        have distinct := cleared.claimedDistinct
        obtain ⟨rest, isCons⟩ := exists_reach_eq_cons entries output
        rw [claimed, if_pos isDangling, isCons, List.tail_cons] at distinct ⊢
        constructor
        · refine List.Sublist.nodup ?_ distinct
          exact (List.sublist_append_right (sidecars output) rest).cons_cons output
        · intro location reached
          rcases List.mem_cons.mp reached with rfl | later
          · exact List.mem_append_left _ List.mem_cons_self
          · exact List.mem_append_right _ later
    | false =>
        have noLink := isDangling
        rw [dangling_eq_of_missing cleared.missing, Option.isSome_eq_false_iff,
          Option.isNone_iff_eq_none] at noLink
        have alone : (sidecars output).flatMap entries.way = sidecars output := by
          rw [List.flatMap_congr (g := fun sidecar => [sidecar]), List.flatMap_singleton']
          intro sidecar member
          refine (way_of_linkAt_eq_none ?_).1
          rw [linkAt, gone sidecar member]
        have own : reach entries output = claimed entries output := by
          rw [reach, sidecarReach, (way_of_linkAt_eq_none noLink).1,
            (way_of_linkAt_eq_none noLink).2, alone, claimed, isDangling]
          exact (List.append_nil _).symm
        rw [own]
        exact ⟨cleared.claimedDistinct, fun _ => id⟩
  exact
    { present := cleared.present
      sourceDistinct := cleared.distinct
      destDistinct := fewer.1
      apart := List.disjoint_of_subset_right fewer.2 cleared.apart }

/-! ## Making the folders -/

theorem makeFolders_cons
    (parent : Location)
    (parents : List Location)
    (entries : Entries) :
    makeFolders (parent :: parents) entries =
      makeFolders parents
        (if entries parent = none then entries.set parent (some .folder) else entries) := rfl

theorem makeFolders_of_not_mem
    {location : Location}
    (notParent : location ∉ parents) :
    makeFolders parents entries location = entries location := by
  induction parents generalizing entries with
  | nil => rfl
  | cons parent parents rest =>
      rw [makeFolders_cons, rest fun member => notParent (List.mem_cons_of_mem parent member)]
      split
      · refine set_of_ne (fun same => notParent ?_) _
        rw [same]
        exact List.mem_cons_self
      · rfl

theorem linkAt_makeFolders
    (parents : List Location)
    (entries : Entries)
    (location : Location) :
    (makeFolders parents entries).linkAt location = entries.linkAt location := by
  induction parents generalizing entries with
  | nil => rfl
  | cons parent parents rest =>
      rw [makeFolders_cons, rest]
      split
      · next isAbsent =>
          by_cases same : location = parent
          · rw [same, linkAt, linkAt, set_self, isAbsent]
          · exact linkAt_eq_of_eq (set_of_ne same _)
      · rfl

theorem Separate.makeFolders
    (separate : Separate entries db output)
    (parentsApart : (reach entries db).Disjoint parents) :
    Separate (makeFolders parents entries) db output := by
  have sameReach : ∀ location, reach (Backup.makeFolders parents entries) location =
      reach entries location := fun location =>
    reach_congr fun passed _ => linkAt_makeFolders parents entries passed
  have sameWay : (Backup.makeFolders parents entries).way db = entries.way db ∧
      (Backup.makeFolders parents entries).opened db = entries.opened db := by
    apply way_congr
    exact fun passed _ => linkAt_makeFolders parents entries passed
  have sameEntry : Backup.makeFolders parents entries (entries.opened db) =
      entries (entries.opened db) := by
    apply makeFolders_of_not_mem
    exact parentsApart (List.mem_append_left _ (opened_mem_way entries db))
  exact
    { present := (existsAt_congr sameWay.2 sameEntry).trans separate.present
      sourceDistinct := (sameReach db).symm ▸ separate.sourceDistinct
      destDistinct := (sameReach output).symm ▸ separate.destDistinct
      apart := by
        rw [sameReach db, sameReach output]
        exact separate.apart }

/-! ## The run -/

section Run

variable {Content : Type} {sqlite : Sqlite Content} {directories : Directories}
  {fate : Nat → Fate} {dbPath outputPath : Path} {force : Bool} {before : Option Content}

/-- The committed content at the path of the database is what it was. -/
def Kept
    (sqlite : Sqlite Content)
    (db : Location)
    (before : Option Content)
    (entries : Entries) : Prop :=
  sqlite.committed entries db = before

theorem Kept.set
    (lawful : sqlite.Lawful)
    (kept : Kept sqlite db before entries)
    {location : Location}
    (away : location ∉ reach entries db)
    (entry : Option FileEntry) :
    Kept sqlite db before (entries.set location entry) := by
  refine (lawful.reads ?_).trans kept
  intro other reached
  have differs : other ≠ location := fun same => away (same ▸ reached)
  exact set_of_ne differs entry

/-- Nothing is lost yet, and nothing that follows can be harmful. -/
def Guarded
    (sqlite : Sqlite Content)
    (directories : Directories)
    (dbPath outputPath : Path)
    (force : Bool)
    (before : Option Content)
    (entries : Entries) : Prop :=
  Kept sqlite (directories.locate dbPath) before entries ∧
  (entries.existsAt (directories.locate dbPath) = true →
    Harmless entries (directories.locate dbPath) (directories.locate outputPath)
      (directories.parentsOf outputPath.parent) force)

theorem Guarded.readHead
    (lawful : sqlite.Lawful)
    (guarded : Guarded sqlite directories dbPath outputPath force before entries)
    (present : entries.existsAt (directories.locate dbPath) = true)
    (progress : Option Nat) :
    Guarded sqlite directories dbPath outputPath force before
      (sqlite.readHead progress (directories.locate dbPath) entries) := by
  have harmless := guarded.2 present
  exact ⟨(lawful.headKeeps progress harmless.distinct).trans guarded.1,
    fun _ => harmless.readHead lawful progress⟩

theorem meets_emitStorageOpTrace
    (lawful : sqlite.Lawful) :
    Effect.Meets
      (Guarded sqlite directories dbPath outputPath force before)
      (emitStorageOpTrace sqlite directories fate dbPath)
      (fun _ => Guarded sqlite directories dbPath outputPath force before)
      (fun _ => Kept sqlite (directories.locate dbPath) before)
      (Kept sqlite (directories.locate dbPath) before) := by
  unfold emitStorageOpTrace
  refine Effect.Meets.bind
    (fun present entries =>
      Guarded sqlite directories dbPath outputPath force before entries ∧
        (present = true → entries.existsAt (directories.locate dbPath) = true))
    (Effect.Meets.look _ fun _ guarded => ⟨guarded, id⟩) fun present => ?_
  refine Effect.Meets.ite (fun isPresent => ?_)
    fun _ => Effect.Meets.pure () fun _ holds => holds.1
  refine Effect.Meets.handle
    (fun _ => Guarded sqlite directories dbPath outputPath force before)
    (Effect.Meets.operation ?_ ?_ ?_) fun _ => Effect.Meets.pure () fun _ => id
  · rintro entries ⟨guarded, found⟩
    exact guarded.readHead lawful (found isPresent) none
  · rintro entries _ progress ⟨guarded, found⟩ _
    exact guarded.readHead lawful (found isPresent) (some progress)
  · rintro entries progress ⟨guarded, found⟩
    exact (guarded.readHead lawful (found isPresent) (some progress)).1

theorem meets_requireDatabase :
    Effect.Meets
      (Guarded sqlite directories dbPath outputPath force before)
      (requireDatabase directories dbPath)
      (fun _ entries =>
        Kept sqlite (directories.locate dbPath) before entries ∧
          Harmless entries (directories.locate dbPath) (directories.locate outputPath)
            (directories.parentsOf outputPath.parent) force)
      (fun _ => Kept sqlite (directories.locate dbPath) before)
      (Kept sqlite (directories.locate dbPath) before) := by
  unfold requireDatabase
  refine Effect.Meets.bind
    (fun present entries =>
      Guarded sqlite directories dbPath outputPath force before entries ∧
        (present = true → entries.existsAt (directories.locate dbPath) = true))
    (Effect.Meets.look _ fun _ guarded => ⟨guarded, id⟩) fun present => ?_
  refine Effect.Meets.ite (fun isPresent => ?_)
    fun _ => Effect.Meets.throw _ fun _ holds => holds.1.1
  exact Effect.Meets.pure () fun _ holds => ⟨holds.1.1, holds.1.2 (holds.2 isPresent)⟩

/-- The database is kept, and the output is out of the way. -/
def Emptied
    (sqlite : Sqlite Content)
    (directories : Directories)
    (dbPath outputPath : Path)
    (before : Option Content)
    (entries : Entries) : Prop :=
  Kept sqlite (directories.locate dbPath) before entries ∧
  Cleared entries (directories.locate dbPath) (directories.locate outputPath)
    (directories.parentsOf outputPath.parent)

/-- An entry that was not removed is still there, and there are no others. -/
theorem unlinkEntry_cases
    (missingOk : Bool)
    (location : Location)
    (entries : Entries) :
    (∃ error, unlinkEntry missingOk location entries = (.error error, entries)) ∨
    (unlinkEntry missingOk location entries = (.ok (), entries) ∧ missingOk = true ∧
      entries location = none) ∨
    unlinkEntry missingOk location entries = (.ok (), entries.set location none) := by
  unfold unlinkEntry
  split
  · next isAbsent =>
      cases missingOk with
      | false => exact Or.inl ⟨.os, rfl⟩
      | true => exact Or.inr (Or.inl ⟨rfl, rfl, isAbsent⟩)
  · exact Or.inl ⟨.os, rfl⟩
  · exact Or.inr (Or.inr rfl)

theorem meets_removeOutput
    (lawful : sqlite.Lawful) :
    Effect.Meets
      (fun entries =>
        Kept sqlite (directories.locate dbPath) before entries ∧
          Harmless entries (directories.locate dbPath) (directories.locate outputPath)
            (directories.parentsOf outputPath.parent) force)
      (removeOutput directories fate outputPath force)
      (fun _ => Emptied sqlite directories dbPath outputPath before)
      (fun _ => Kept sqlite (directories.locate dbPath) before)
      (Kept sqlite (directories.locate dbPath) before) := by
  unfold removeOutput
  refine Effect.Meets.bind
    (fun present entries =>
      (Kept sqlite (directories.locate dbPath) before entries ∧
        Harmless entries (directories.locate dbPath) (directories.locate outputPath)
          (directories.parentsOf outputPath.parent) force) ∧
        entries.existsAt (directories.locate outputPath) = present)
    (Effect.Meets.look _ fun _ holds => ⟨holds, rfl⟩) fun present => ?_
  refine Effect.Meets.ite (fun isPresent => ?_) fun isMissing => ?_
  · refine Effect.Meets.ite (fun forced => ?_)
      fun _ => Effect.Meets.throw _ fun _ holds => holds.1.1
    refine Effect.Meets.operation ?_ (fun _ _ _ holds _ => holds.1.1) fun _ _ holds => holds.1.1
    rintro entries ⟨⟨kept, harmless⟩, _⟩
    have clear := harmless.cases.resolve_left fun refused => by
      rw [forced] at refused
      cases refused.2
    rcases unlinkEntry_cases false (directories.locate outputPath) entries with
      ⟨error, raised⟩ | ⟨_, notOk, _⟩ | removed
    · rw [raised]
      exact kept
    · cases notOk
    · rw [removed]
      have away := not_mem_reach_of_claimed clear (mem_claimed_of_own List.mem_cons_self)
      exact ⟨kept.set lawful away none, Cleared.removeOutput clear⟩
  · refine Effect.Meets.pure () ?_
    rintro entries ⟨⟨kept, harmless⟩, missing⟩
    rw [Bool.not_eq_true] at isMissing
    rw [isMissing] at missing
    have clear := harmless.cases.resolve_left fun refused => by
      rw [missing] at refused
      cases refused.1
    exact ⟨kept, { clear with missing := missing }⟩

/-- The sidecars of the output go one after another. -/
theorem meets_unlinkAll
    (lawful : sqlite.Lawful)
    (paths : List Path)
    (gone : List Location)
    (own : ∀ path ∈ paths,
      directories.locate path ∈ sidecars (directories.locate outputPath)) :
    Effect.Meets
      (fun entries => Emptied sqlite directories dbPath outputPath before entries ∧
        ∀ location ∈ gone, entries location = none)
      (unlinkAll directories fate paths)
      (fun _ entries => Emptied sqlite directories dbPath outputPath before entries ∧
        ∀ location ∈ gone ++ paths.map directories.locate, entries location = none)
      (fun _ => Kept sqlite (directories.locate dbPath) before)
      (Kept sqlite (directories.locate dbPath) before) := by
  induction paths generalizing gone with
  | nil => exact Effect.Meets.pure () fun _ holds => by simpa using holds
  | cons path paths rest =>
      have mine := own path List.mem_cons_self
      unfold unlinkAll
      refine Effect.Meets.bind
        (fun _ entries => Emptied sqlite directories dbPath outputPath before entries ∧
          ∀ location ∈ gone ++ [directories.locate path], entries location = none) ?_ fun _ => ?_
      · refine Effect.Meets.operation ?_ (fun _ _ _ holds _ => holds.1.1) fun _ _ holds => holds.1.1
        rintro entries ⟨⟨kept, cleared⟩, absent⟩
        rcases unlinkEntry_cases true (directories.locate path) entries with
          ⟨error, raised⟩ | ⟨missing, _, isAbsent⟩ | removed
        · rw [raised]
          exact kept
        · rw [missing]
          refine ⟨⟨kept, cleared⟩, fun location member => ?_⟩
          rcases List.mem_append.mp member with earlier | last
          · exact absent location earlier
          · rw [List.mem_singleton.mp last]
            exact isAbsent
        · rw [removed]
          have away := not_mem_reach_of_claimed cleared.toClear
            (mem_claimed_of_own (List.mem_cons_of_mem _ mine))
          refine ⟨⟨kept.set lawful away none, cleared.removeSidecar mine⟩, fun location member => ?_⟩
          dsimp only
          by_cases same : location = directories.locate path
          · rw [same, set_self]
          · rw [set_of_ne same]
            rcases List.mem_append.mp member with earlier | last
            · exact absent location earlier
            · exact absurd (List.mem_singleton.mp last) same
      · have onward := rest (gone ++ [directories.locate path])
          fun other member => own other (List.mem_cons_of_mem _ member)
        rw [List.append_assoc] at onward
        exact onward

/-- The database is kept, and shares no file with the output. -/
def Opened
    (sqlite : Sqlite Content)
    (directories : Directories)
    (dbPath outputPath : Path)
    (before : Option Content)
    (entries : Entries) : Prop :=
  Kept sqlite (directories.locate dbPath) before entries ∧
  Separate entries (directories.locate dbPath) (directories.locate outputPath)

theorem meets_prepareOutput
    (lawful : sqlite.Lawful) :
    Effect.Meets
      (fun entries =>
        Kept sqlite (directories.locate dbPath) before entries ∧
          Harmless entries (directories.locate dbPath) (directories.locate outputPath)
            (directories.parentsOf outputPath.parent) force)
      (prepareOutput directories fate outputPath force)
      (fun _ => Opened sqlite directories dbPath outputPath before)
      (fun _ => Kept sqlite (directories.locate dbPath) before)
      (Kept sqlite (directories.locate dbPath) before) := by
  have own : ∀ path ∈ sqliteSidecars outputPath,
      directories.locate path ∈ sidecars (directories.locate outputPath) := by
    intro path member
    rw [← locate_sqliteSidecars]
    exact List.mem_map_of_mem member
  -- The folders are made away from the files of the database.
  have makes : ∀ made : List Location, made ⊆ directories.parentsOf outputPath.parent →
      ∀ entries, Emptied sqlite directories dbPath outputPath before entries →
        Kept sqlite (directories.locate dbPath) before (makeFolders made entries) := by
    rintro made isParent entries ⟨kept, cleared⟩
    refine (lawful.reads fun location reached => ?_).trans kept
    exact makeFolders_of_not_mem fun member => cleared.parentsApart reached (isParent member)
  unfold prepareOutput
  refine Effect.Meets.bind (fun _ => Emptied sqlite directories dbPath outputPath before)
    (meets_removeOutput lawful) fun _ => ?_
  refine Effect.Meets.bind
    (fun _ entries => Emptied sqlite directories dbPath outputPath before entries ∧
      ∀ location ∈ sidecars (directories.locate outputPath), entries location = none) ?_ fun _ => ?_
  · refine (meets_unlinkAll lawful (sqliteSidecars outputPath) [] own).weaken
      (fun _ emptied => ⟨emptied, nofun⟩) ?_ (fun _ _ => id) fun _ => id
    intro _ entries holds
    rw [List.nil_append, locate_sqliteSidecars] at holds
    exact holds
  · unfold mkdir
    dsimp only
    refine Effect.Meets.operation ?_ ?_ ?_
    · rintro entries ⟨emptied, gone⟩
      cases (directories.parentsOf outputPath.parent).any (isFile entries) with
      | true => exact emptied.1
      | false =>
          exact ⟨makes _ (fun _ => id) entries emptied,
            (emptied.2.separate gone).makeFolders emptied.2.parentsApart⟩
    · rintro entries _ progress ⟨emptied, _⟩ _
      exact makes _ (List.take_subset progress _) entries emptied
    · rintro entries progress ⟨emptied, _⟩
      exact makes _ (List.take_subset progress _) entries emptied

/-- The output has been written. -/
def Copied
    (sqlite : Sqlite Content)
    (directories : Directories)
    (dbPath outputPath : Path)
    (before : Option Content)
    (entries : Entries) : Prop :=
  Opened sqlite directories dbPath outputPath before entries ∧
  sqlite.committed entries (directories.locate outputPath) = before

theorem Opened.leaves
    (lawful : sqlite.Lawful)
    {kind : Call}
    (opened : Opened sqlite directories dbPath outputPath before entries)
    (leaves : sqlite.Leaves kind (directories.locate dbPath) (directories.locate outputPath)
      entries after) :
    Opened sqlite directories dbPath outputPath before after :=
  ⟨(lawful.keepsSource opened.2 leaves).trans opened.1, lawful.staysSeparate opened.2 leaves⟩

theorem Copied.leaves
    (lawful : sqlite.Lawful)
    {kind : Call}
    (quiet : kind.leavesDest)
    (copied : Copied sqlite directories dbPath outputPath before entries)
    (leaves : sqlite.Leaves kind (directories.locate dbPath) (directories.locate outputPath)
      entries after) :
    Copied sqlite directories dbPath outputPath before after :=
  ⟨copied.1.leaves lawful leaves, (lawful.keepsDest copied.1.2 leaves quiet).trans copied.2⟩

/-- A call keeps what each of its outcomes keeps. -/
theorem meets_call
    {kind : Call}
    {stage : Entries → Prop}
    {result : Entries → Prop}
    (leaves : ∀ entries after, stage entries →
      sqlite.Leaves kind (directories.locate dbPath) (directories.locate outputPath) entries after →
        stage after)
    (succeeds : ∀ entries, stage entries →
      (sqlite.perform kind (directories.locate dbPath) (directories.locate outputPath)
        entries).1 = true →
      result (sqlite.perform kind (directories.locate dbPath) (directories.locate outputPath)
        entries).2) :
    Effect.Meets stage (call sqlite directories fate kind dbPath outputPath)
      (fun _ => result) (fun _ => stage) stage := by
  unfold call
  dsimp only
  refine Effect.Meets.operation ?_ ?_ ?_
  · intro entries holds
    dsimp only
    cases succeeded : (sqlite.perform kind (directories.locate dbPath)
        (directories.locate outputPath) entries).1 with
    | true => exact succeeds entries holds succeeded
    | false => exact leaves entries _ holds .performed
  · intro entries _ progress holds _
    exact leaves entries _ holds (.interrupted progress)
  · intro entries progress holds
    exact leaves entries _ holds (.interrupted progress)

theorem meets_opened
    (lawful : sqlite.Lawful)
    (kind : Call) :
    Effect.Meets (Opened sqlite directories dbPath outputPath before)
      (call sqlite directories fate kind dbPath outputPath)
      (fun _ => Opened sqlite directories dbPath outputPath before)
      (fun _ => Opened sqlite directories dbPath outputPath before)
      (Opened sqlite directories dbPath outputPath before) :=
  meets_call (fun _ _ opened leaves => opened.leaves lawful leaves)
    fun _ opened _ => opened.leaves lawful .performed

theorem meets_copied
    (lawful : sqlite.Lawful)
    {kind : Call}
    (quiet : kind.leavesDest) :
    Effect.Meets (Copied sqlite directories dbPath outputPath before)
      (call sqlite directories fate kind dbPath outputPath)
      (fun _ => Copied sqlite directories dbPath outputPath before)
      (fun _ => Opened sqlite directories dbPath outputPath before)
      (Opened sqlite directories dbPath outputPath before) :=
  (meets_call (fun _ _ copied leaves => copied.leaves lawful quiet leaves)
    fun _ copied _ => copied.leaves lawful quiet .performed).weaken
      (fun _ => id) (fun _ _ => id) (fun _ _ copied => copied.1) fun _ copied => copied.1

theorem meets_copy
    (lawful : sqlite.Lawful) :
    Effect.Meets (Opened sqlite directories dbPath outputPath before)
      (copy sqlite directories fate dbPath outputPath)
      (fun _ => Copied sqlite directories dbPath outputPath before)
      (fun _ => Opened sqlite directories dbPath outputPath before)
      (Opened sqlite directories dbPath outputPath before) := by
  have backs : Effect.Meets (Opened sqlite directories dbPath outputPath before)
      (call sqlite directories fate .backup dbPath outputPath)
      (fun _ => Copied sqlite directories dbPath outputPath before)
      (fun _ => Opened sqlite directories dbPath outputPath before)
      (Opened sqlite directories dbPath outputPath before) := by
    refine meets_call (fun _ _ opened leaves => opened.leaves lawful leaves) ?_
    intro entries opened succeeded
    exact ⟨opened.leaves lawful .performed, (lawful.copies opened.2 succeeded).trans opened.1⟩
  unfold copy
  refine Effect.Meets.bind _ (meets_opened lawful .connectSource) fun _ => ?_
  refine Effect.Meets.ensuring
    (fun _ => Copied sqlite directories dbPath outputPath before)
    (fun _ => Opened sqlite directories dbPath outputPath before) ?_
    (fun _ => meets_copied lawful rfl) fun _ => meets_opened lawful .closeSource
  refine Effect.Meets.bind _ (meets_opened lawful .connectDest) fun _ => ?_
  refine Effect.Meets.bind (fun _ => Copied sqlite directories dbPath outputPath before)
    (Effect.Meets.ensuring _ _ backs (fun _ => meets_copied lawful rfl)
      fun _ => meets_opened lawful .closeDest) fun _ => ?_
  exact Effect.Meets.bind _ (meets_copied lawful rfl) fun _ =>
    Effect.Meets.look _ fun _ => id

theorem meets_backupSqlite
    (lawful : sqlite.Lawful) :
    Effect.Meets
      (Guarded sqlite directories dbPath outputPath force before)
      (backupSqlite sqlite directories fate dbPath outputPath force)
      (fun _ => Copied sqlite directories dbPath outputPath before)
      (fun _ => Kept sqlite (directories.locate dbPath) before)
      (Kept sqlite (directories.locate dbPath) before) := by
  unfold backupSqlite
  refine Effect.Meets.bind _ (meets_emitStorageOpTrace lawful) fun _ => ?_
  refine Effect.Meets.bind _ meets_requireDatabase fun _ => ?_
  refine Effect.Meets.bind _ (meets_prepareOutput lawful) fun _ => ?_
  refine Effect.Meets.bind (fun _ => Copied sqlite directories dbPath outputPath before)
    ((meets_copy lawful).weaken (fun _ => id) (fun _ _ => id) (fun _ _ opened => opened.1)
      fun _ opened => opened.1) fun versions => ?_
  refine Effect.Meets.bind (fun _ => Copied sqlite directories dbPath outputPath before)
    ?_ fun bytes => Effect.Meets.pure _ fun _ => id
  refine Effect.Meets.operation ?_ (fun _ _ _ copied _ => copied.1.1) fun _ _ copied => copied.1.1
  intro entries copied
  dsimp only
  split
  · exact copied
  · exact copied.1.1

/-! ## The database after a backup -/

/-- The path of the database reads as before, and a returned backup reads the same. -/
def Unharmed
    (sqlite : Sqlite Content)
    (db output : Location)
    (entries : Entries)
    (run : Except BackupError BackupResult × Host Entries) : Prop :=
  sqlite.committed run.2.state db = sqlite.committed entries db ∧
  (run.2.down = false → ∀ result, run.1 = .ok result →
    sqlite.committed run.2.state output = sqlite.committed entries db)

theorem unharmed_of_harmless
    (lawful : sqlite.Lawful)
    (fate : Nat → Fate)
    (harmless : entries.existsAt (directories.locate dbPath) = true →
      Harmless entries (directories.locate dbPath) (directories.locate outputPath)
        (directories.parentsOf outputPath.parent) force) :
    Unharmed sqlite (directories.locate dbPath) (directories.locate outputPath) entries
      (runBackup sqlite directories fate dbPath outputPath force entries) := by
  have guarded : Guarded sqlite directories dbPath outputPath force
      (sqlite.committed entries (directories.locate dbPath)) entries := ⟨rfl, harmless⟩
  have ended : Effect.Ends _ _ _
      (runBackup sqlite directories fate dbPath outputPath force entries) :=
    (meets_backupSqlite lawful).ends { state := entries, clock := 0, down := false } rfl guarded
  rcases ran : runBackup sqlite directories fate dbPath outputPath force entries with ⟨result, host⟩
  rw [ran] at ended
  rcases Bool.eq_false_or_eq_true host.down with isDown | isUp
  · rw [Effect.Ends, if_pos isDown] at ended
    refine ⟨ended, fun isUp => ?_⟩
    rw [isDown] at isUp
    cases isUp
  · rw [Effect.Ends, if_neg (by simp [isUp])] at ended
    cases result with
    | ok result => exact ⟨ended.1.1, fun _ _ _ => ended.2⟩
    | error error =>
        refine ⟨ended, fun _ _ returned => ?_⟩
        cases returned

end Run

end Backup
end Vinctor
