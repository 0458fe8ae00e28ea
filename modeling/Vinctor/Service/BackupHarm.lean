import Vinctor.Service.BackupFrame

/-!
# Backups that lose the database

Where an output removes a name on the way to the database, the database is lost before
SQLite is opened.  Nothing in `backup_sqlite` compares the two paths.
-/

namespace Vinctor
namespace Backup

open Foundation
open Foundation.Entries

variable {Content : Type} {sqlite : Sqlite Content} {directories : Directories}
  {dbPath outputPath : Path} {force : Bool} {entries after : Entries} {db output : Location}

/-! ## A run that stops after the removals -/

/-- The output is not refused, and one of the names it removes is on the way to the
database. -/
structure Removes (entries : Entries) (db output : Location) (force : Bool) : Prop where
  distinct : (reach entries db).Nodup
  steady : (entries.way output).Disjoint (sidecarReach entries db)
  forced : entries.existsAt output = true → force = true
  removable : ∀ own ∈ output :: sidecars output, entries own ≠ some .folder
  onWay : ∃ own ∈ entries.way db,
    (own = output ∧ entries.existsAt output = true) ∨ own ∈ sidecars output

/-- Operations are done before some time, and fail from then on. -/
def doneBefore (time : Nat) (clock : Nat) : Fate :=
  if clock < time then .done else .fails 0

def removeAll (locations : List Location) (entries : Entries) : Entries :=
  locations.foldl (fun left location => left.set location none) entries

theorem removeAll_cases
    (locations : List Location)
    (entries : Entries)
    (location : Location) :
    (removeAll locations entries location = entries location ∧ location ∉ locations) ∨
      removeAll locations entries location = none := by
  induction locations generalizing entries with
  | nil => exact Or.inl ⟨rfl, List.not_mem_nil⟩
  | cons first locations rest =>
      rcases rest (entries.set first none) with ⟨same, notLater⟩ | gone
      · by_cases isFirst : location = first
        · right
          rw [show removeAll (first :: locations) entries location = _ from same, isFirst, set_self]
        · left
          refine ⟨same.trans (set_of_ne isFirst none), ?_⟩
          rw [List.mem_cons]
          exact not_or.mpr ⟨isFirst, notLater⟩
      · exact Or.inr gone

theorem unlinkEntry_eq
    {missingOk : Bool}
    {location : Location}
    (noFolder : entries location ≠ some .folder)
    (present : missingOk = true ∨ entries location ≠ none) :
    unlinkEntry missingOk location entries = (.ok (), entries.set location none) := by
  unfold unlinkEntry
  split
  · next isAbsent =>
      have unchanged : entries.set location none = entries := by
        funext other
        by_cases same : other = location
        · rw [same, set_self, isAbsent]
        · exact set_of_ne same none
      rw [unchanged, if_pos (present.resolve_right (absurd isAbsent))]
  · next isFolder => exact absurd isFolder noFolder
  · rfl

theorem exec_unlink
    {missingOk : Bool}
    {path : Path}
    {time clock : Nat}
    (early : clock < time)
    (noFolder : entries (directories.locate path) ≠ some .folder)
    (present : missingOk = true ∨ entries (directories.locate path) ≠ none) :
    (unlink directories (doneBefore time) missingOk path).exec ⟨entries, clock, false⟩ =
      (.ok (), ⟨entries.set (directories.locate path) none, clock + 1, false⟩) := by
  rw [unlink, Effect.exec_operation, doneBefore, if_pos early]
  dsimp only
  rw [unlinkEntry_eq noFolder present]

theorem exec_unlinkAll
    {paths : List Path}
    {time clock : Nat}
    (early : clock + paths.length ≤ time)
    (noFolder : ∀ path ∈ paths, entries (directories.locate path) ≠ some .folder) :
    (unlinkAll directories (doneBefore time) paths).exec ⟨entries, clock, false⟩ =
      (.ok (), ⟨removeAll (paths.map directories.locate) entries, clock + paths.length, false⟩) := by
  induction paths generalizing entries clock with
  | nil => rfl
  | cons path paths rest =>
      rw [List.length_cons] at early
      have removed := @exec_unlink directories entries true path time clock (by omega)
        (noFolder path List.mem_cons_self) (Or.inl rfl)
      rw [unlinkAll, Effect.exec_bind, removed]
      dsimp only
      rw [rest (by omega)]
      · rw [List.length_cons, Nat.add_assoc, Nat.add_comm 1]
        rfl
      · intro other member
        by_cases same : directories.locate other = directories.locate path
        · rw [same, set_self]
          exact nofun
        · rw [set_of_ne same]
          exact noFolder other (List.mem_cons_of_mem _ member)

/-- The entries once the names of the output are removed. -/
def withoutOutput (entries : Entries) (output : Location) : Entries :=
  removeAll (sidecars output)
    (if entries.existsAt output then entries.set output none else entries)

/-- How many operations there are before the folders are made. -/
def operationsBefore (entries : Entries) (output : Location) : Nat :=
  (if entries.existsAt output then 2 else 1) + 3

/-- An output that exists has an entry. -/
theorem ne_none_of_existsAt
    (present : entries.existsAt output = true) :
    entries output ≠ none := by
  intro isAbsent
  have noLink : entries.linkAt output = none := by rw [linkAt, isAbsent]
  rw [existsAt, (way_of_linkAt_eq_none noLink).2, isAbsent] at present
  cases present

/-- Where making the folders fails, the names of the output have been removed. -/
theorem exec_prepareOutput
    (forced : entries.existsAt (directories.locate outputPath) = true → force = true)
    (removable : ∀ own ∈ directories.locate outputPath ::
      sidecars (directories.locate outputPath), entries own ≠ some .folder) :
    (prepareOutput directories
        (doneBefore (operationsBefore entries (directories.locate outputPath)))
        outputPath force).exec ⟨entries, 1, false⟩ =
      (.error .os,
        ⟨withoutOutput entries (directories.locate outputPath),
          operationsBefore entries (directories.locate outputPath) + 1, false⟩) := by
  have sidecarsRemovable : ∀ path ∈ sqliteSidecars outputPath,
      directories.locate path ∈ sidecars (directories.locate outputPath) := by
    intro path member
    rw [← locate_sqliteSidecars]
    exact List.mem_map_of_mem member
  have first : (removeOutput directories
      (doneBefore (operationsBefore entries (directories.locate outputPath)))
      outputPath force).exec ⟨entries, 1, false⟩ =
        (.ok (), ⟨if entries.existsAt (directories.locate outputPath) then
            entries.set (directories.locate outputPath) none else entries,
          if entries.existsAt (directories.locate outputPath) then 2 else 1, false⟩) := by
    rw [removeOutput, Effect.exec_bind, Effect.exec_look]
    dsimp only
    cases present : entries.existsAt (directories.locate outputPath) with
    | true =>
        rw [if_pos rfl, if_pos (forced present)]
        refine exec_unlink ?_ (removable _ List.mem_cons_self)
          (Or.inr (ne_none_of_existsAt present))
        rw [operationsBefore, present]
        exact Nat.lt_add_left 2 (by decide)
    | false => rfl
  have keepsRemovable : ∀ own ∈ sidecars (directories.locate outputPath),
      (if entries.existsAt (directories.locate outputPath) then
        entries.set (directories.locate outputPath) none else entries) own ≠ some .folder := by
    intro own member
    split
    · by_cases same : own = directories.locate outputPath
      · rw [same, set_self]
        exact nofun
      · rw [set_of_ne same]
        exact removable own (List.mem_cons_of_mem _ member)
    · exact removable own (List.mem_cons_of_mem _ member)
  rw [prepareOutput, Effect.exec_bind, first]
  dsimp only
  rw [Effect.exec_bind, unlinkSqliteSidecars, exec_unlinkAll]
  · dsimp only
    rw [mkdir, Effect.exec_operation, doneBefore, if_neg]
    · rw [locate_sqliteSidecars]
      rfl
    · exact Nat.lt_irrefl _
  · exact Nat.le_refl _
  · intro path member
    exact keepsRemovable _ (sidecarsRemovable path member)

theorem Removes.readHead
    (lawful : sqlite.Lawful)
    (removes : Removes entries db output force)
    (progress : Option Nat) :
    Removes (sqlite.readHead progress db entries) db output force := by
  have wayApart : (entries.way db).Disjoint (sidecarReach entries db) :=
    List.disjoint_of_nodup_append removes.distinct
  have dbWay := (head_keeps_way lawful removes.distinct progress wayApart).1
  have outWay := head_keeps_way lawful removes.distinct progress removes.steady
  have noLink : MakesNoLink entries (sqlite.readHead progress db entries) := fun location =>
    (head_linkAt lawful removes.distinct progress location).imp_right And.right
  refine ⟨(reach_sublist noLink dbWay).nodup removes.distinct, ?_, ?_, ?_, ?_⟩
  · rw [outWay.1.1, sidecarReach, dbWay.2]
    exact List.disjoint_of_subset_right (noLink.flatMap_way_sublist _).subset removes.steady
  · rw [outWay.2]
    exact removes.forced
  · intro own member
    rcases lawful.headChanges progress removes.distinct own with
      same | ⟨_, gone | ⟨_, written⟩⟩ | ⟨_, _, _, written⟩
    · rw [same]
      exact removes.removable own member
    · rw [gone]
      intro isDirectory
      cases isDirectory
    · rw [written]
      intro isDirectory
      cases isDirectory
    · rw [written]
      intro isDirectory
      cases isDirectory
  · rw [dbWay.1, outWay.2]
    exact removes.onWay

theorem withoutOutput_removes
    (removes : Removes entries db output force) :
    (withoutOutput entries output).existsAt db = false := by
  obtain ⟨own, onWay, isRemoved⟩ := removes.onWay
  have fewer : ∀ other, withoutOutput entries output other = entries other ∨
      withoutOutput entries output other = none := by
    intro other
    rcases removeAll_cases (sidecars output)
      (if entries.existsAt output then entries.set output none else entries) other with
      ⟨same, _⟩ | gone
    · rw [withoutOutput, same]
      split
      · by_cases isOutput : other = output
        · exact Or.inr (by rw [isOutput, set_self])
        · exact Or.inl (set_of_ne isOutput none)
      · exact Or.inl rfl
    · exact Or.inr gone
  have gone : withoutOutput entries output own = none := by
    rcases removeAll_cases (sidecars output)
      (if entries.existsAt output then entries.set output none else entries) own with
      ⟨same, notSidecar⟩ | gone
    · rcases isRemoved with ⟨isOutput, present⟩ | isSidecar
      · rw [withoutOutput, same, if_pos present, isOutput, set_self]
      · exact absurd isSidecar notSidecar
    · exact gone
  exact not_existsAt_of_removed fewer onWay gone

/-- There is a run that raises and leaves nothing at the path of the database. -/
theorem lost_of_removes
    (lawful : sqlite.Lawful)
    (present : entries.existsAt (directories.locate dbPath) = true)
    (removes : Removes entries (directories.locate dbPath) (directories.locate outputPath) force) :
    ∃ fate, sqlite.committed
      (runBackup sqlite directories fate dbPath outputPath force entries).2.state
      (directories.locate dbPath) = none := by
  have after := removes.readHead lawful none
  have stillThere : (sqlite.readHead none (directories.locate dbPath) entries).existsAt
      (directories.locate dbPath) = true := by
    have wayApart := List.disjoint_of_nodup_append removes.distinct
    rw [(head_keeps_way lawful removes.distinct none wayApart).2]
    exact present
  let time := operationsBefore (sqlite.readHead none (directories.locate dbPath) entries)
    (directories.locate outputPath)
  have early : 0 < time := Nat.succ_pos _
  have traced : (emitStorageOpTrace sqlite directories (doneBefore time) dbPath).exec
      ⟨entries, 0, false⟩ =
        (.ok (), ⟨sqlite.readHead none (directories.locate dbPath) entries, 1, false⟩) := by
    rw [emitStorageOpTrace, Effect.exec_bind, Effect.exec_look]
    dsimp only
    rw [if_pos present]
    rw [Effect.exec_handle, Effect.exec_operation, doneBefore, if_pos early]
  have required : (requireDatabase directories dbPath).exec
      ⟨sqlite.readHead none (directories.locate dbPath) entries, 1, false⟩ =
        (.ok (), ⟨sqlite.readHead none (directories.locate dbPath) entries, 1, false⟩) := by
    rw [requireDatabase, Effect.exec_bind, Effect.exec_look]
    dsimp only
    rw [if_pos stillThere]
    rfl
  refine ⟨doneBefore time, ?_⟩
  rw [runBackup, backupSqlite, Effect.exec_bind, traced]
  dsimp only
  rw [Effect.exec_bind, required]
  dsimp only
  rw [Effect.exec_bind, exec_prepareOutput after.forced after.removable]
  exact lawful.absent (withoutOutput_removes after)

def fileAt (entries : Entries) (location : Location) : Option (List UInt8) :=
  match entries (entries.opened location) with
  | some (.file bytes) => some bytes
  | _ => none

/-- Opening creates a missing file. -/
def touch (location : Location) (entries : Entries) : Bool × Entries :=
  match entries (entries.opened location) with
  | none => (true, entries.set (entries.opened location) (some (.file [])))
  | some (.file _) => (true, entries)
  | _ => (false, entries)

/-- The content of one database becomes that of the other. -/
def overwrite (source dest : Location) (entries : Entries) : Bool × Entries :=
  match fileAt entries source, fileAt entries dest with
  | some bytes, some _ => (true, entries.set (entries.opened dest) (some (.file bytes)))
  | _, _ => (false, entries)

/-- SQLite on databases without sidecars, whose content is that of the file. -/
def plainSqlite : Sqlite (List UInt8) where
  committed := fileAt
  versions bytes := bytes.map fun byte => (byte.toNat : Int)
  readHead _ _ entries := entries
  perform
    | .connectSource, source, _, entries => touch source entries
    | .connectDest, _, dest, entries => touch dest entries
    | .backup, source, dest, entries => overwrite source dest entries
    | _, _, _, entries => (true, entries)
  interrupted _ _ _ _ entries := entries

theorem fileAt_congr
    (sameOpened : after.opened db = entries.opened db)
    (sameEntry : after (entries.opened db) = entries (entries.opened db)) :
    fileAt after db = fileAt entries db := by
  rw [fileAt, fileAt, sameOpened, sameEntry]

/-- A call writes at most one file, where the source or the copy is opened. -/
theorem plainSqlite_perform
    (kind : Call)
    (source dest : Location)
    (entries : Entries) :
    (plainSqlite.perform kind source dest entries).2 = entries ∨
    (∃ bytes, kind = .connectSource ∧ entries (entries.opened source) = none ∧
      (plainSqlite.perform kind source dest entries).2 =
        entries.set (entries.opened source) (some (.file bytes))) ∨
    (∃ bytes, kind.leavesDest = false ∧
      entries.linkAt (entries.opened dest) = none ∧
      (plainSqlite.perform kind source dest entries).2 =
        entries.set (entries.opened dest) (some (.file bytes))) := by
  cases kind with
  | connectSource =>
      change (touch source entries).2 = _ ∨ (∃ _, _ ∧ _ ∧ (touch source entries).2 = _) ∨ _
      unfold touch
      split
      · next isAbsent => exact Or.inr (Or.inl ⟨[], rfl, isAbsent, rfl⟩)
      · exact Or.inl rfl
      · exact Or.inl rfl
  | connectDest =>
      change (touch dest entries).2 = _ ∨ _ ∨ (∃ _, _ ∧ _ ∧ (touch dest entries).2 = _)
      unfold touch
      split
      · next isAbsent => exact Or.inr (Or.inr ⟨[], rfl, by rw [linkAt, isAbsent], rfl⟩)
      · exact Or.inl rfl
      · exact Or.inl rfl
  | backup =>
      change (overwrite source dest entries).2 = _ ∨ _ ∨
        (∃ _, _ ∧ _ ∧ (overwrite source dest entries).2 = _)
      unfold overwrite
      split
      · next bytes old _ isFile =>
          refine Or.inr (Or.inr ⟨bytes, rfl, ?_, rfl⟩)
          unfold fileAt at isFile
          split at isFile
          · next found => rw [linkAt, found]
          · cases isFile
      · exact Or.inl rfl
  | closeDest => exact Or.inl rfl
  | schemaVersions => exact Or.inl rfl
  | closeSource => exact Or.inl rfl

/-- A file that is written where there is no link. -/
theorem linkAt_setFile
    {location : Location}
    {bytes : List UInt8}
    (noLink : entries.linkAt location = none)
    (other : Location) :
    (entries.set location (some (.file bytes))).linkAt other = entries.linkAt other := by
  by_cases same : other = location
  · rw [same, noLink, linkAt, set_self]
  · exact linkAt_eq_of_eq (set_of_ne same _)

theorem reach_setFile
    {location other : Location}
    {bytes : List UInt8}
    (noLink : entries.linkAt location = none) :
    reach (entries.set location (some (.file bytes))) other = reach entries other :=
  reach_congr fun passed _ => linkAt_setFile noLink passed

theorem opened_setFile
    {location other : Location}
    {bytes : List UInt8}
    (noLink : entries.linkAt location = none) :
    (entries.set location (some (.file bytes))).opened other = entries.opened other :=
  (way_congr fun passed _ => linkAt_setFile noLink passed).2

theorem opened_ne_opened
    (separate : Separate entries db output) :
    entries.opened db ≠ entries.opened output := by
  intro same
  refine separate.apart (List.mem_append_left _ (opened_mem_way entries db)) ?_
  rw [same]
  exact List.mem_append_left _ (opened_mem_way entries output)

/-- What a call on separate databases leaves is as before, but for the copy. -/
theorem plainSqlite_leaves
    {kind : Call}
    (separate : Separate entries db output)
    (leaves : plainSqlite.Leaves kind db output entries after) :
    after = entries ∨
    ∃ bytes, kind.leavesDest = false ∧ entries.linkAt (entries.opened output) = none ∧
      after = entries.set (entries.opened output) (some (.file bytes)) := by
  cases leaves with
  | interrupted => exact Or.inl rfl
  | performed =>
      rcases plainSqlite_perform kind db output entries with
        same | ⟨_, _, isAbsent, _⟩ | written
      · exact Or.inl same
      · have present := separate.present
        rw [existsAt, isAbsent] at present
        cases present
      · exact Or.inr written

theorem plainSqlite_lawful : plainSqlite.Lawful where
  reads same := by
    obtain ⟨_, sameOpened⟩ := way_congr fun passed onWay =>
      linkAt_eq_of_eq (same passed (List.mem_append_left _ onWay))
    exact fileAt_congr sameOpened (same _ (List.mem_append_left _ (opened_mem_way _ _)))
  absent missing := by
    change fileAt _ _ = none
    unfold existsAt at missing
    unfold fileAt
    split at missing
    · cases missing
    · cases missing
    · next notFile _ =>
        split
        · next bytes found => exact absurd found (notFile bytes)
        · rfl
  headChanges _ _ _ := Or.inl rfl
  headKeeps _ _ := rfl
  staysSeparate separate leaves := by
    rcases plainSqlite_leaves separate leaves with rfl | ⟨bytes, _, noLink, rfl⟩
    · exact separate
    · refine ⟨?_, ?_, ?_, ?_⟩
      · rw [existsAt_congr (opened_setFile noLink) (set_of_ne (opened_ne_opened separate) _)]
        exact separate.present
      · rw [reach_setFile noLink]
        exact separate.sourceDistinct
      · rw [reach_setFile noLink]
        exact separate.destDistinct
      · rw [reach_setFile noLink, reach_setFile noLink]
        exact separate.apart
  keepsSource separate leaves := by
    rcases plainSqlite_leaves separate leaves with rfl | ⟨bytes, _, noLink, rfl⟩
    · rfl
    · exact fileAt_congr (opened_setFile noLink) (set_of_ne (opened_ne_opened separate) _)
  keepsDest separate leaves quiet := by
    rcases plainSqlite_leaves separate leaves with rfl | ⟨bytes, writes, _, _⟩
    · rfl
    · rw [writes] at quiet
      cases quiet
  copies {source dest entries} separate succeeded := by
    change (overwrite source dest entries).1 = true at succeeded
    change fileAt (overwrite source dest entries).2 dest = fileAt entries source
    unfold overwrite at succeeded ⊢
    cases read : fileAt entries source with
    | none =>
        rw [read] at succeeded
        cases succeeded
    | some bytes =>
        cases old : fileAt entries dest with
        | none =>
            rw [read, old] at succeeded
            cases succeeded
        | some replaced =>
            have noLink : entries.linkAt (entries.opened dest) = none := by
              unfold fileAt at old
              split at old
              · next found => rw [linkAt, found]
              · cases old
            dsimp only
            rw [fileAt, opened_setFile noLink, set_self]

/-! ## A database that is backed up onto itself -/

def plainDirectories : Directories where
  directoryOf parent := parent
  parentsOf _ := []

def vinctorPath : Path := { parent := "/data/", name := "vinctor.sqlite" }

def copyPath : Path := { parent := "/data/", name := "copy.sqlite" }

def vinctorEntries : Entries := fun location =>
  if location = plainDirectories.locate vinctorPath then some (.file [1, 2, 3]) else none

end Backup
end Vinctor
