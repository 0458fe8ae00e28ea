import Vinctor.Foundation.CrashImages
import Vinctor.Foundation.Effects

/-!
# Replacement of a SQLite database

`reset_sqlite` and `restore_sqlite` build the new database in a temporary file beside the
old one, take the lease of the database, remove what could be replayed into the new file,
and rename.  The directory is synced before and after the rename.

SQLite is a parameter: what an opener reads from a main file and its sidecars, and what
each call does to the files of the database that it opens.
-/

namespace Vinctor
namespace Replacement

open Foundation

/-! ## Files -/

inductive Database
  | destination
  | temp
  deriving DecidableEq, Repr

inductive Sidecar
  | wal
  | shm
  | journal
  deriving DecidableEq, Repr

/-- The main file of a database, or a file that SQLite keeps beside it. -/
structure FileName where
  database : Database
  sidecar : Option Sidecar
  deriving DecidableEq, Repr

def main (database : Database) : FileName := ⟨database, none⟩

def sqliteSidecars (database : Database) : List FileName :=
  [⟨database, some .wal⟩, ⟨database, some .shm⟩, ⟨database, some .journal⟩]

/-- The directory of both databases.  Files are numbered as they are made. -/
structure Store (δ : Type) where
  disk : Disk FileName δ
  nextFile : Nat

/-! ## SQLite -/

inductive Call (Content : Type)
  | readHead
  | initSchema
  | copy (content : Content)
  | inspect
  | checkpoint (database : Database)
  deriving DecidableEq, Repr

/-- The database that a call opens. -/
def Call.database {Content : Type} : Call Content → Database
  | .readHead => .destination
  | .initSchema | .copy _ | .inspect => .temp
  | .checkpoint database => database

inductive Answer
  | done
  | busy
  | operationalError
  | databaseError
  deriving DecidableEq, Repr

/-- SQLite.  A call may be cut short. -/
structure Sqlite (δ Content : Type) where
  emptyFile : δ
  read : Option δ → (Sidecar → Option δ) → Option Content
  versions : Content → List Int
  breakSeq : Content → Option Int
  initialized : Content
  perform : Call Content → Store δ → Answer × Store δ
  interrupted : Call Content → Nat → Store δ → Store δ

namespace Sqlite

variable {δ Content : Type} (sqlite : Sqlite δ Content)

/-- The committed content that an opener of a database finds. -/
def content (image : Image FileName δ) (database : Database) : Option Content :=
  sqlite.read ((image.directory (main database)).map image.data) fun sidecar =>
    (image.directory ⟨database, some sidecar⟩).map image.data

end Sqlite

/-! ## Operations -/

inductive ReplaceError
  | os
  | operational
  | database
  | runtime (message : String)
  | fileNotFound (message : String)
  | value (message : String)
  deriving DecidableEq, Repr

/-- The texts of the paths that errors name. -/
structure PathTexts where
  database : String
  databaseName : String
  tempName : String
  input : String

/-- What stands at the path of a snapshot. -/
inductive Input (Content : Type)
  | missing
  | unreadable
  | snapshot (content : Content)

section Operations

variable
    {δ Content : Type}
    (sqlite : Sqlite δ Content)
    (paths : PathTexts)
    (fate syncFate : Nat → Fate)

abbrev Step (δ : Type) := Effect (Store δ) ReplaceError

def PathTexts.nameOf (paths : PathTexts) : Database → String
  | .destination => paths.databaseName
  | .temp => paths.tempName

def Answer.result (answer : Answer) (name : String) : Except ReplaceError Unit :=
  match answer with
  | .done => .ok ()
  | .busy => .error (.runtime ("SQLite WAL checkpoint remained busy for " ++ name))
  | .operationalError => .error .operational
  | .databaseError => .error .database

def call (kind : Call Content) : Step δ Unit :=
  Effect.operation fate .operational
    (fun store =>
      ((sqlite.perform kind store).1.result (paths.nameOf kind.database),
        (sqlite.perform kind store).2))
    (sqlite.interrupted kind)

/-- A call of the operating system that changes none of the files. -/
def systemCall (failure : ReplaceError) : Step δ Unit :=
  Effect.operation fate failure (fun store => (.ok (), store)) fun _ => id

def unlinkEntry (missingOk : Bool) (name : FileName) (store : Store δ) :
    Except ReplaceError Unit × Store δ :=
  match store.disk.directory name with
  | none => (if missingOk then .ok () else .error .os, store)
  | some _ => (.ok (), { store with disk := store.disk.perform (.bind name none) })

def unlink (missingOk : Bool) (name : FileName) : Step δ Unit :=
  Effect.operation fate .os (unlinkEntry missingOk name) fun _ => id

def unlinkAll : List FileName → Step δ Unit
  | [] => pure ()
  | name :: names => do
      unlink fate true name
      unlinkAll names

def unlinkSqliteSidecars (database : Database) : Step δ Unit :=
  unlinkAll fate (sqliteSidecars database)

/-- A new empty file under the temporary name. -/
def makeTemp (store : Store δ) : Store δ where
  disk :=
    { store.disk.perform (.bind (main .temp) (some store.nextFile)) with
      data := Function.update store.disk.data store.nextFile sqlite.emptyFile
      synced := Function.update store.disk.synced store.nextFile false }
  nextFile := store.nextFile + 1

def mkstemp : Step δ Unit :=
  Effect.operation fate .os (fun store => (.ok (), makeTemp sqlite store)) fun _ => id

def checkpointSqliteWal (database : Database) : Step δ Unit := do
  call sqlite paths fate (.checkpoint database)
  unlinkSqliteSidecars fate database

/-- The data of the temporary file reaches the disk. -/
def flushEntry (store : Store δ) : Except ReplaceError Unit × Store δ :=
  match store.disk.directory (main .temp) with
  | none => (.error .os, store)
  | some file => (.ok (), { store with disk := store.disk.syncFile file })

def flush : Step δ Unit := do
  systemCall fate .os
  Effect.ensuring (Effect.operation fate .os flushEntry fun _ => id) (systemCall fate .os)

/-- A failure is swallowed. -/
def fsyncDir : Step δ Unit :=
  Effect.handle
    (Effect.operation syncFate .os
      (fun store => (.ok (), { store with disk := store.disk.syncDirectory })) fun _ => id)
    fun _ => pure ()

def replaceEntry (store : Store δ) : Except ReplaceError Unit × Store δ :=
  match store.disk.directory (main .temp) with
  | none => (.error .os, store)
  | some file =>
      (.ok (), { store with disk := store.disk.perform (.rename (main .temp) (main .destination) file) })

def replace : Step δ Unit := Effect.operation fate .os replaceEntry fun _ => id

def hasSidecar (database : Database) (store : Store δ) : Bool :=
  (sqliteSidecars database).any fun name => (store.disk.directory name).isSome

/-- Sidecars of a database that cannot be read are removed; a database that may be in use
is left alone. -/
def neutralizeReplacedSidecars : Step δ Unit := do
  let present ← Effect.look (hasSidecar .destination)
  if present = false then pure ()
  else do
    let found ← Effect.look fun store => (store.disk.directory (main .destination)).isSome
    if found = false then unlinkSqliteSidecars fate .destination
    else
      Effect.handle (checkpointSqliteWal sqlite paths fate .destination) fun error =>
        if error = .database then unlinkSqliteSidecars fate .destination
        else MonadExcept.throw error

def inUse : ReplaceError :=
  .runtime ("SQLite database is in use: " ++ paths.database ++
    "; stop the service and close every Vinctor connection before reset/restore")

/-- What is done under the lease. -/
def swap : Step δ Unit := do
  neutralizeReplacedSidecars sqlite paths fate
  fsyncDir syncFate
  replace fate
  fsyncDir syncFate

/-- The body that is cleaned up after. -/
def install (build : Step δ (List Int)) : Step δ (List Int) := do
  let versions ← build
  checkpointSqliteWal sqlite paths fate .temp
  flush fate
  systemCall fate (inUse paths)
  Effect.ensuring (swap sqlite paths fate syncFate) (systemCall fate .os)
  return versions

def removeTemp (error : ReplaceError) : Step δ (List Int) := do
  unlinkSqliteSidecars fate .temp
  unlink fate true (main .temp)
  MonadExcept.throw error

def atomicReplaceSqlite (build : Step δ (List Int)) : Step δ (List Int) := do
  systemCall fate .os
  mkstemp sqlite fate
  systemCall fate .os
  Effect.handle (install sqlite paths fate syncFate build) (removeTemp fate)

/-- A head that cannot be read is reported and does not stop the operation. -/
def emitStorageOpTrace : Step δ Unit := do
  let found ← Effect.look fun store => (store.disk.directory (main .destination)).isSome
  if found then Effect.handle (call sqlite paths fate .readHead) fun _ => pure ()
  else pure ()

/-- The schema versions of the temporary database. -/
def tempVersions : Step δ (List Int) :=
  Effect.look fun store =>
    ((sqlite.content store.disk.current .temp).map sqlite.versions).getD []

def buildReset : Step δ (List Int) := do
  call sqlite paths fate .initSchema
  tempVersions sqlite

def resetSqlite : Step δ (List Int) := do
  emitStorageOpTrace sqlite paths fate
  atomicReplaceSqlite sqlite paths fate syncFate (buildReset sqlite paths fate)

/-- The copy of a snapshot is verified before it may replace the database. -/
def buildRestore (content : Content) : Step δ (List Int) := do
  call sqlite paths fate (.copy content)
  call sqlite paths fate .inspect
  let versions ← tempVersions sqlite
  let broken ← Effect.look fun store =>
    (sqlite.content store.disk.current .temp).bind sqlite.breakSeq
  if versions = [] then
    MonadExcept.throw (.value "restored snapshot has no schema metadata")
  else
    match broken with
    | some seq =>
        MonadExcept.throw
          (.value ("restored snapshot has a broken audit chain at seq " ++ toString seq))
    | none => pure versions

def restoreSqlite (input : Input Content) : Step δ (List Int) := do
  emitStorageOpTrace sqlite paths fate
  match input with
  | .missing => MonadExcept.throw (.fileNotFound ("backup input not found: " ++ paths.input))
  | .unreadable =>
      MonadExcept.throw
        (.value ("input is not a valid Vinctor SQLite snapshot: " ++ paths.input))
  | .snapshot content =>
      atomicReplaceSqlite sqlite paths fate syncFate (buildRestore sqlite paths fate content)

end Operations

end Replacement
end Vinctor
