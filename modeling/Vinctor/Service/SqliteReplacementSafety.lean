import Vinctor.Service.SqliteReplacement

/-!
# Crash safety of a replacement

At every point, a crash leaves either the old main file, read as before, or the new main
file with no sidecar beside it.  The calls on the temporary database spare the files of
the destination, and those on the destination spare the temporary file.
-/

namespace Vinctor
namespace Replacement

open Foundation

variable {δ Content : Type}

/-! ## What calls of SQLite may change -/

/-- Every image of the later store shows the files of a database as an image of the
earlier one did. -/
def Spares (database : Database) (before after : Store δ) : Prop :=
  ∀ image, after.disk.IsImage image → ∃ earlier, before.disk.IsImage earlier ∧
    (∀ name, name.database = database → image.directory name = earlier.directory name) ∧
    ∀ name file, name.database = database → earlier.directory name = some file →
      image.data file = earlier.data file

/-- A change within the files of one database: its main file stays under its name, and its
names get no files but their own and new ones. -/
structure Touches (database : Database) (before after : Store δ) : Prop where
  images : ∀ image, after.disk.IsImage image → ∃ earlier, before.disk.IsImage earlier ∧
    (∀ name, name.database ≠ database → image.directory name = earlier.directory name) ∧
    image.directory (main database) = earlier.directory (main database) ∧
    (∀ name file, image.directory name = some file →
      (∃ other, other.database = name.database ∧ earlier.directory other = some file) ∨
        before.nextFile ≤ file ∧ file < after.nextFile) ∧
    ∀ name file, name.database ≠ database → earlier.directory name = some file →
      image.data file = earlier.data file
  current : ∀ name, name.database ≠ database ∨ name = main database →
    after.disk.directory name = before.disk.directory name
  kept : ∀ name file, name.database ≠ database → before.disk.directory name = some file →
    after.disk.data file = before.disk.data file ∧
      (before.disk.synced file = true → after.disk.synced file = true)
  nextFile : before.nextFile ≤ after.nextFile

/-- The names of the two databases never stand for one file. -/
def Apart (store : Store δ) : Prop :=
  ∀ image other, store.disk.IsImage image → store.disk.IsImage other →
    ∀ name elsewhere file, name.database ≠ elsewhere.database →
      image.directory name = some file → other.directory elsewhere ≠ some file

/-- Files are numbered as they were made. -/
def Numbered (store : Store δ) : Prop :=
  ∀ image, store.disk.IsImage image → ∀ name file, image.directory name = some file →
    file < store.nextFile

/-- A directory without some of the sidecars of a database. -/
def Strips (database : Database) (before after : Directory FileName) : Prop :=
  ∀ name, after name = before name ∨ (name ∈ sqliteSidecars database ∧ after name = none)

namespace Sqlite

variable (sqlite : Sqlite δ Content)

/-- An opener of the database reads this after a crash at this point. -/
def Reads (database : Database) (content : Option Content) (store : Store δ) : Prop :=
  ∀ image, store.disk.IsImage image → sqlite.content image database = content

/-- The same with any of the sidecars removed: they carry nothing. -/
def Settled (database : Database) (content : Option Content) (store : Store δ) : Prop :=
  ∀ image, store.disk.IsImage image → ∀ directory, Strips database image.directory directory →
    sqlite.content ⟨directory, image.data⟩ database = content

/-- An empty temporary database. -/
def Empty (file : Nat) (store : Store δ) : Prop :=
  store.disk.directory (main .temp) = some file ∧ store.disk.data file = sqlite.emptyFile ∧
    ∀ name ∈ sqliteSidecars .temp, store.disk.directory name = none

/-- What a call may leave behind. -/
inductive Leaves (kind : Call Content) (store : Store δ) : Store δ → Prop
  | performed : Leaves kind store (sqlite.perform kind store).2
  | interrupted (progress : Nat) : Leaves kind store (sqlite.interrupted kind progress store)

/-- What the replacement relies on.  A successful checkpoint moves everything committed
into the main file, a call that only reads or checkpoints never loses what is committed,
and nothing is committed in a database that cannot be read. -/
structure Lawful : Prop where
  absent : ∀ sidecars, sqlite.read none sidecars = none
  touches : ∀ {kind : Call Content} {store after : Store δ}, Apart store →
    sqlite.Leaves kind store after → Touches kind.database store after
  initializes : ∀ {store : Store δ} {file : Nat}, sqlite.Empty file store →
    (sqlite.perform .initSchema store).1 = .done →
      sqlite.content (sqlite.perform .initSchema store).2.disk.current .temp =
        some sqlite.initialized
  copies : ∀ {store : Store δ} {content : Content},
    (sqlite.perform (.copy content) store).1 = .done →
      sqlite.content (sqlite.perform (.copy content) store).2.disk.current .temp = some content
  inspects : ∀ {store : Store δ}, (sqlite.perform .inspect store).1 = .done →
    sqlite.content (sqlite.perform .inspect store).2.disk.current .temp =
      sqlite.content store.disk.current .temp
  folds : ∀ {store : Store δ} {directory : Directory FileName},
    (sqlite.perform (.checkpoint .temp) store).1 = .done →
      Strips .temp (sqlite.perform (.checkpoint .temp) store).2.disk.directory directory →
        sqlite.content ⟨directory, (sqlite.perform (.checkpoint .temp) store).2.disk.data⟩ .temp =
          sqlite.content store.disk.current .temp
  keepsHead : ∀ {store after : Store δ} {content : Option Content},
    sqlite.Reads .destination content store → sqlite.Leaves .readHead store after →
      sqlite.Reads .destination content after
  keepsInterrupted : ∀ {store : Store δ} {content : Option Content} (progress : Nat),
    sqlite.Reads .destination content store →
      sqlite.Reads .destination content
        (sqlite.interrupted (.checkpoint .destination) progress store)
  keepsRefused : ∀ {store : Store δ} {content : Option Content},
    sqlite.Reads .destination content store →
      (sqlite.perform (.checkpoint .destination) store).1 = .busy ∨
          (sqlite.perform (.checkpoint .destination) store).1 = .operationalError →
        sqlite.Reads .destination content (sqlite.perform (.checkpoint .destination) store).2
  settles : ∀ {store : Store δ} {content : Option Content},
    sqlite.Reads .destination content store →
      (sqlite.perform (.checkpoint .destination) store).1 = .done →
        sqlite.Settled .destination content (sqlite.perform (.checkpoint .destination) store).2
  unreadable : ∀ {store : Store δ} {content : Option Content},
    sqlite.Reads .destination content store →
      (sqlite.perform (.checkpoint .destination) store).1 = .databaseError →
        content = none ∧
          sqlite.Settled .destination none (sqlite.perform (.checkpoint .destination) store).2

end Sqlite

/-! ## What is found after a crash -/

section Outcomes

variable (sqlite : Sqlite δ Content)

/-- The old main file, read as before. -/
def IsOld
    (file : Option Nat)
    (content : Option Content)
    (image : Image FileName δ) : Prop :=
  image.directory (main .destination) = file ∧ sqlite.content image .destination = content

/-- A main file made since, alone, with its content. -/
def IsNew
    (since : Nat)
    (content : Content)
    (image : Image FileName δ) : Prop :=
  (∃ file, since ≤ file ∧ image.directory (main .destination) = some file) ∧
    (∀ name ∈ sqliteSidecars .destination, image.directory name = none) ∧
    sqlite.content image .destination = some content

/-- The directory before a replacement: the destination is read the same after every crash,
no change of its main entry is pending, and the temporary names are not taken. -/
structure Ready (content : Option Content) (store : Store δ) : Prop where
  reads : sqlite.Reads .destination content store
  mainDurable : ∀ image, store.disk.IsImage image →
    image.directory (main .destination) = store.disk.directory (main .destination)
  numbered : Numbered store
  fresh : ∀ image, store.disk.IsImage image → ∀ name, name.database = .temp →
    image.directory name = none

end Outcomes

/-! ## Facts about the relations -/

theorem name_ne_main {name : FileName} {database : Database}
    (isSidecar : name ∈ sqliteSidecars database) : name ≠ main database := by
  simp only [sqliteSidecars, List.mem_cons, List.not_mem_nil, or_false] at isSidecar
  rcases isSidecar with rfl | rfl | rfl <;> simp [main]

theorem database_of_sidecar {name : FileName} {database : Database}
    (isSidecar : name ∈ sqliteSidecars database) : name.database = database := by
  simp only [sqliteSidecars, List.mem_cons, List.not_mem_nil, or_false] at isSidecar
  rcases isSidecar with rfl | rfl | rfl <;> rfl

theorem sidecar_mem (database : Database) (sidecar : Sidecar) :
    ⟨database, some sidecar⟩ ∈ sqliteSidecars database := by
  cases sidecar <;> simp [sqliteSidecars]

/-- What an opener reads is decided by the files of the database. -/
theorem content_congr
    (sqlite : Sqlite δ Content)
    {database : Database}
    {image other : Image FileName δ}
    (names : ∀ name, name.database = database → image.directory name = other.directory name)
    (data : ∀ name file, name.database = database → other.directory name = some file →
      image.data file = other.data file) :
    sqlite.content image database = sqlite.content other database := by
  have same (name : FileName) (own : name.database = database) :
      (image.directory name).map image.data = (other.directory name).map other.data := by
    rw [names name own]
    cases held : other.directory name with
    | none => rfl
    | some file => exact congrArg some (data name file own held)
  unfold Sqlite.content
  rw [same (main database) rfl]
  exact congrArg _ (funext fun sidecar => same ⟨database, some sidecar⟩ rfl)

theorem Touches.spares
    {database other : Database}
    {before after : Store δ}
    (touches : Touches database before after)
    (different : other ≠ database) : Spares other before after := by
  intro image isImage
  obtain ⟨earlier, wasImage, names, -, -, data⟩ := touches.images image isImage
  exact ⟨earlier, wasImage, fun name own => names name (own ▸ different),
    fun name file own held => data name file (own ▸ different) held⟩

theorem Sqlite.Reads.of_spares
    {sqlite : Sqlite δ Content}
    {database : Database}
    {content : Option Content}
    {before after : Store δ}
    (reads : sqlite.Reads database content before)
    (spares : Spares database before after) : sqlite.Reads database content after := by
  intro image isImage
  obtain ⟨earlier, wasImage, names, data⟩ := spares image isImage
  rw [content_congr sqlite names data]
  exact reads earlier wasImage

/-- A removed sidecar is a change within its database. -/
theorem touches_removed
    {store : Store δ}
    {database : Database}
    {name : FileName}
    (isSidecar : name ∈ sqliteSidecars database) :
    Touches database store { store with disk := store.disk.perform (.bind name none) } where
  images := by
    intro image isImage
    have own := database_of_sidecar isSidecar
    rcases isImage.perform_cases with same | ⟨earlier, wasImage, rfl⟩
    · exact ⟨image, same, fun _ _ => rfl, rfl, fun other file held => .inl ⟨other, rfl, held⟩,
        fun _ _ _ _ => rfl⟩
    · refine ⟨earlier, wasImage, fun other foreign => ?_, ?_, fun other file held => ?_,
        fun _ _ _ _ => rfl⟩
      · exact DirectoryOp.apply_bind_of_ne (by rintro rfl; exact foreign own) none _
      · exact DirectoryOp.apply_bind_of_ne (name_ne_main isSidecar).symm none _
      · by_cases same : other = name
        · rw [same] at held
          cases (DirectoryOp.apply_bind_self name none _).symm.trans held
        · exact .inl ⟨other, rfl, (DirectoryOp.apply_bind_of_ne same none _).symm.trans held⟩
  current := by
    intro other foreign
    rw [Disk.directory_perform]
    refine DirectoryOp.apply_bind_of_ne ?_ none _
    rintro rfl
    rcases foreign with elsewhere | isMain
    · exact elsewhere (database_of_sidecar isSidecar)
    · exact name_ne_main isSidecar isMain
  kept := fun _ _ _ _ => ⟨rfl, id⟩
  nextFile := Nat.le_refl _

theorem Touches.numbered
    {database : Database}
    {before after : Store δ}
    (touches : Touches database before after)
    (numbered : Numbered before) : Numbered after := by
  intro image isImage name file held
  obtain ⟨earlier, wasImage, -, -, origin, -⟩ := touches.images image isImage
  rcases origin name file held with ⟨other, -, wasHeld⟩ | ⟨-, early⟩
  · exact Nat.lt_of_lt_of_le (numbered earlier wasImage other file wasHeld) touches.nextFile
  · exact early

/-- Only the touched database has got files, and these are new. -/
theorem Touches.apart
    {database : Database}
    {before after : Store δ}
    (touches : Touches database before after)
    (numbered : Numbered before)
    (apart : Apart before) : Apart after := by
  -- a file that a name stands for now: an old one of the same database, or a new one
  have origin (image : Image FileName δ) (isImage : after.disk.IsImage image)
      (name : FileName) (file : Nat) (held : image.directory name = some file) :
      (∃ earlier other, before.disk.IsImage earlier ∧ other.database = name.database ∧
        earlier.directory other = some file) ∨
        (before.nextFile ≤ file ∧ name.database = database) := by
    obtain ⟨earlier, wasImage, names, -, origin, -⟩ := touches.images image isImage
    by_cases own : name.database = database
    · rcases origin name file held with ⟨other, same, wasHeld⟩ | ⟨late, -⟩
      · exact .inl ⟨earlier, other, wasImage, same, wasHeld⟩
      · exact .inr ⟨late, own⟩
    · exact .inl ⟨earlier, name, wasImage, rfl, names name own ▸ held⟩
  intro image other isImage isOther name elsewhere file different held heldToo
  rcases origin image isImage name file held with ⟨first, one, isFirst, ofName, holds⟩ | ⟨late, own⟩
  · rcases origin other isOther elsewhere file heldToo with
      ⟨second, two, isSecond, ofElsewhere, holdsToo⟩ | ⟨late, -⟩
    · exact apart first second isFirst isSecond one two file (by rwa [ofName, ofElsewhere])
        holds holdsToo
    · exact absurd (numbered first isFirst one file holds) (by omega)
  · rcases origin other isOther elsewhere file heldToo with
      ⟨second, two, isSecond, -, holdsToo⟩ | ⟨-, ownToo⟩
    · exact absurd (numbered second isSecond two file holdsToo) (by omega)
    · exact different (own.trans ownToo.symm)

end Replacement
end Vinctor
