import Vinctor.Foundation.Effects
import Vinctor.Foundation.FileSystem

/-!
# Backups of a SQLite database

`backup_sqlite` removes what stands at the output, together with the three files that
SQLite keeps beside it, and then copies the database there.  Files are removed by name.

SQLite itself is a parameter: what an opener of a path reads as committed, and what each
call does to the entries.  It opens a path by following links, and finds the sidecars by
their names beside the file where the way ends.
-/

namespace Vinctor
namespace Backup

open Foundation
open Foundation.Entries

/-! ## Paths and sidecars -/

/-- A path as it is spelled: the text before its last component, and the last component. -/
structure Path where
  parent : String
  name : String
  deriving DecidableEq, Repr

namespace Path

def text (path : Path) : String := path.parent ++ path.name

def withSuffix (path : Path) (suffix : String) : Path := { path with name := path.name ++ suffix }

end Path

/-- How the operating system finds a directory, and the folders that a spelling names on
the way to it. -/
structure Directories where
  directoryOf : String → String
  parentsOf : String → List Location

def Directories.locate (directories : Directories) (path : Path) : Location :=
  { directory := directories.directoryOf path.parent, name := path.name }

def sidecarSuffixes : List String := ["-wal", "-shm", "-journal"]

def sqliteSidecars (path : Path) : List Path := sidecarSuffixes.map path.withSuffix

def sidecars (location : Location) : List Location :=
  sidecarSuffixes.map fun suffix => { location with name := location.name ++ suffix }

theorem locate_sqliteSidecars
    (directories : Directories)
    (path : Path) :
    (sqliteSidecars path).map directories.locate = sidecars (directories.locate path) := by
  rw [sqliteSidecars, sidecars, List.map_map]
  rfl

/-- What leads to the sidecars of the database that a location opens. -/
def sidecarReach (entries : Entries) (location : Location) : List Location :=
  (sidecars (entries.opened location)).flatMap entries.way

/-- Everything that decides what an opener of a location reads. -/
def reach (entries : Entries) (location : Location) : List Location :=
  entries.way location ++ sidecarReach entries location

/-- Two databases with no file in common, each with four different ones.  The source is
there: opening a missing one would create it. -/
structure Separate (entries : Entries) (source dest : Location) : Prop where
  present : entries.existsAt source = true
  sourceDistinct : (reach entries source).Nodup
  destDistinct : (reach entries dest).Nodup
  apart : (reach entries source).Disjoint (reach entries dest)

/-! ## SQLite -/

/-- The calls of a backup. -/
inductive Call
  | connectSource
  | connectDest
  | backup
  | closeDest
  | schemaVersions
  | closeSource
  deriving DecidableEq, Repr

/-- SQLite.  A call answers whether it succeeded, and may be cut short. -/
structure Sqlite (Content : Type) where
  committed : Entries → Location → Option Content
  versions : Content → List Int
  readHead : Option Nat → Location → Entries → Entries
  perform : Call → Location → Location → Entries → Bool × Entries
  interrupted : Call → Location → Location → Nat → Entries → Entries

/-- The calls that neither write to the copy nor create it. -/
def Call.leavesDest : Call → Bool
  | .closeDest | .schemaVersions | .closeSource => true
  | _ => false

/-- What a call may leave behind. -/
inductive Sqlite.Leaves
    {Content : Type}
    (sqlite : Sqlite Content)
    (call : Call)
    (source dest : Location)
    (entries : Entries) : Entries → Prop
  | performed : Leaves sqlite call source dest entries (sqlite.perform call source dest entries).2
  | interrupted (progress : Nat) :
      Leaves sqlite call source dest entries (sqlite.interrupted call source dest progress entries)

/-- What the backup relies on.  Nothing is said about databases that share a file. -/
structure Sqlite.Lawful {Content : Type} (sqlite : Sqlite Content) : Prop where
  /-- What an opener reads is in the files that it reaches. -/
  reads : ∀ {entries after : Entries} {db : Location},
    (∀ location ∈ reach entries db, after location = entries location) →
      sqlite.committed after db = sqlite.committed entries db
  absent : ∀ {entries : Entries} {db : Location},
    entries.existsAt db = false → sqlite.committed entries db = none
  /-- Reading the head recovers the database: files are written, and sidecars come and go. -/
  headChanges : ∀ {entries : Entries} {db : Location} (progress : Option Nat),
    (reach entries db).Nodup → ∀ location,
      sqlite.readHead progress db entries location = entries location ∨
      (location ∈ sidecarReach entries db ∧
        (sqlite.readHead progress db entries location = none ∨
          ∃ written, sqlite.readHead progress db entries location = some (.file written))) ∨
      ∃ bytes written, entries location = some (.file bytes) ∧
        sqlite.readHead progress db entries location = some (.file written)
  headKeeps : ∀ {entries : Entries} {db : Location} (progress : Option Nat),
    (reach entries db).Nodup →
      sqlite.committed (sqlite.readHead progress db entries) db = sqlite.committed entries db
  staysSeparate : ∀ {call : Call} {source dest : Location} {entries after : Entries},
    Separate entries source dest → sqlite.Leaves call source dest entries after →
      Separate after source dest
  keepsSource : ∀ {call : Call} {source dest : Location} {entries after : Entries},
    Separate entries source dest → sqlite.Leaves call source dest entries after →
      sqlite.committed after source = sqlite.committed entries source
  keepsDest : ∀ {call : Call} {source dest : Location} {entries after : Entries},
    Separate entries source dest → sqlite.Leaves call source dest entries after →
      call.leavesDest → sqlite.committed after dest = sqlite.committed entries dest
  copies : ∀ {source dest : Location} {entries : Entries},
    Separate entries source dest → (sqlite.perform .backup source dest entries).1 = true →
      sqlite.committed (sqlite.perform .backup source dest entries).2 dest =
        sqlite.committed entries source

/-! ## The backup -/

inductive BackupError
  | fileNotFound (message : String)
  | fileExists (message : String)
  | os
  | sqlite
  deriving DecidableEq, Repr

structure BackupResult where
  dbPath : Path
  outputPath : Path
  bytes : Nat
  schemaVersions : List Int
  deriving DecidableEq, Repr

section Operations

variable {Content : Type} (sqlite : Sqlite Content) (directories : Directories)
  (fate : Nat → Fate)

abbrev Step := Effect Entries BackupError

/-- Remove an entry, not what it links to. -/
def unlinkEntry (missingOk : Bool) (location : Location) (entries : Entries) :
    Except BackupError Unit × Entries :=
  match entries location with
  | none => (if missingOk then .ok () else .error .os, entries)
  | some .folder => (.error .os, entries)
  | some _ => (.ok (), entries.set location none)

def unlink (missingOk : Bool) (path : Path) : Step Unit :=
  Effect.operation fate .os (unlinkEntry missingOk (directories.locate path)) fun _ => id

/-- Make the folders that are missing. -/
def makeFolders (parents : List Location) (entries : Entries) : Entries :=
  parents.foldl (fun made parent =>
    if made parent = none then made.set parent (some .folder) else made) entries

def isFile (entries : Entries) (location : Location) : Bool :=
  match entries location with
  | some (.file _) => true
  | _ => false

def mkdir (path : Path) : Step Unit :=
  let parents := directories.parentsOf path.parent
  Effect.operation fate .os
    (fun entries =>
      if parents.any (isFile entries) then (.error .os, entries)
      else (.ok (), makeFolders parents entries))
    (fun progress => makeFolders (parents.take progress))

def call (kind : Call) (db output : Path) : Step Unit :=
  let source := directories.locate db
  let dest := directories.locate output
  Effect.operation fate .sqlite
    (fun entries =>
      let (succeeded, after) := sqlite.perform kind source dest entries
      (if succeeded then .ok () else .error .sqlite, after))
    (sqlite.interrupted kind source dest)

def getSqliteSchemaVersions (db output : Path) : Step (List Int) := do
  call sqlite directories fate .schemaVersions db output
  Effect.look fun entries =>
    match sqlite.committed entries (directories.locate db) with
    | some content => sqlite.versions content
    | none => []

def fileSize (entries : Entries) (location : Location) : Except BackupError Nat :=
  match entries (entries.opened location) with
  | some (.file bytes) => .ok bytes.length
  | some .folder => .ok 0
  | _ => .error .os

def stat (path : Path) : Step Nat :=
  Effect.operation fate .os
    (fun entries => (fileSize entries (directories.locate path), entries)) fun _ => id

/-- A head that cannot be read is reported and does not stop the operation. -/
def emitStorageOpTrace (db : Path) : Step Unit := do
  let present ← Effect.look fun entries => entries.existsAt (directories.locate db)
  if present then
    Effect.handle
      (Effect.operation fate .sqlite
        (fun entries => (.ok (), sqlite.readHead none (directories.locate db) entries))
        (fun progress => sqlite.readHead (some progress) (directories.locate db)))
      fun _ => pure ()
  else pure ()

def requireDatabase (db : Path) : Step Unit := do
  let present ← Effect.look fun entries => entries.existsAt (directories.locate db)
  if present then pure ()
  else throw (.fileNotFound ("database not found: " ++ db.text))

def removeOutput (output : Path) (force : Bool) : Step Unit := do
  let present ← Effect.look fun entries => entries.existsAt (directories.locate output)
  if present then
    if force then unlink directories fate false output
    else throw (.fileExists
      ("backup output already exists: " ++ output.text ++ "; pass --force to overwrite"))
  else pure ()

def unlinkAll : List Path → Step Unit
  | [] => pure ()
  | path :: paths => do
      unlink directories fate true path
      unlinkAll paths

def unlinkSqliteSidecars (path : Path) : Step Unit :=
  unlinkAll directories fate (sqliteSidecars path)

/-- What `backup_sqlite` removes and makes before SQLite is opened. -/
def prepareOutput (output : Path) (force : Bool) : Step Unit := do
  removeOutput directories fate output force
  unlinkSqliteSidecars directories fate output
  mkdir directories fate output

def copy (db output : Path) : Step (List Int) := do
  call sqlite directories fate .connectSource db output
  Effect.ensuring
    (do
      call sqlite directories fate .connectDest db output
      Effect.ensuring (call sqlite directories fate .backup db output)
        (call sqlite directories fate .closeDest db output)
      getSqliteSchemaVersions sqlite directories fate db output)
    (call sqlite directories fate .closeSource db output)

def backupSqlite (db output : Path) (force : Bool) : Step BackupResult := do
  emitStorageOpTrace sqlite directories fate db
  requireDatabase directories db
  prepareOutput directories fate output force
  let versions ← copy sqlite directories fate db output
  let bytes ← stat directories fate output
  return { dbPath := db, outputPath := output, bytes := bytes, schemaVersions := versions }

/-- A backup on a host with these entries. -/
def runBackup (db output : Path) (force : Bool) (entries : Entries) :
    Except BackupError BackupResult × Host Entries :=
  (backupSqlite sqlite directories fate db output force).exec
    { state := entries, clock := 0, down := false }

end Operations

end Backup
end Vinctor
