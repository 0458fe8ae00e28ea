import Mathlib.Data.List.Basic
import Mathlib.Logic.Function.Basic

/-!
# What a crash leaves of a directory

Names of a directory stand for numbered files.  A change of the directory is pending until
the directory is synced; a crash leaves any of the pending changes, in their order, and of
a file that was not synced any data.
-/

namespace Foundation

/-- The file that each name stands for. -/
abbrev Directory (ν : Type u) := ν → Option Nat

inductive DirectoryOp (ν : Type u)
  | bind (name : ν) (file : Option Nat)
  | rename (source target : ν) (file : Nat)
  deriving DecidableEq, Repr

/-- A directory and its files.  `durable` is the directory at its last sync. -/
structure Disk (ν : Type u) (δ : Type v) where
  durable : Directory ν
  pending : List (DirectoryOp ν)
  data : Nat → δ
  synced : Nat → Bool

/-- A directory and the data of its files, as an opener finds them. -/
structure Image (ν : Type u) (δ : Type v) where
  directory : Directory ν
  data : Nat → δ

variable {ν : Type u} {δ : Type v} [DecidableEq ν]

namespace DirectoryOp

def apply : DirectoryOp ν → Directory ν → Directory ν
  | .bind name file, directory => Function.update directory name file
  | .rename source target file, directory =>
      Function.update (Function.update directory target (some file)) source none

@[simp] theorem apply_bind_self (name : ν) (file : Option Nat) (directory : Directory ν) :
    (bind name file).apply directory name = file := Function.update_self ..

theorem apply_bind_of_ne
    {name other : ν}
    (different : other ≠ name)
    (file : Option Nat)
    (directory : Directory ν) : (bind name file).apply directory other = directory other :=
  Function.update_of_ne different ..

theorem apply_rename_target
    {source target : ν}
    (different : target ≠ source)
    (file : Nat)
    (directory : Directory ν) : (rename source target file).apply directory target = some file := by
  rw [apply, Function.update_of_ne different, Function.update_self]

theorem apply_rename_of_ne
    {source target other : ν}
    (notSource : other ≠ source)
    (notTarget : other ≠ target)
    (file : Nat)
    (directory : Directory ν) :
    (rename source target file).apply directory other = directory other := by
  rw [apply, Function.update_of_ne notSource, Function.update_of_ne notTarget]

end DirectoryOp

namespace Disk

/-- The directory with all pending changes. -/
def directory (disk : Disk ν δ) : Directory ν :=
  disk.pending.foldl (fun directory op => op.apply directory) disk.durable

/-- What is found as long as the host does not go down. -/
def current (disk : Disk ν δ) : Image ν δ := ⟨disk.directory, disk.data⟩

/-- What may be found after a crash. -/
def IsImage (disk : Disk ν δ) (image : Image ν δ) : Prop :=
  (∃ ops : List (DirectoryOp ν), ops.Sublist disk.pending ∧
    image.directory = ops.foldl (fun directory op => op.apply directory) disk.durable) ∧
  ∀ file, disk.synced file = true → image.data file = disk.data file

def perform (disk : Disk ν δ) (op : DirectoryOp ν) : Disk ν δ :=
  { disk with pending := disk.pending ++ [op] }

def syncDirectory (disk : Disk ν δ) : Disk ν δ :=
  { disk with durable := disk.directory, pending := [] }

def syncFile (disk : Disk ν δ) (file : Nat) : Disk ν δ :=
  { disk with synced := Function.update disk.synced file true }

variable {disk : Disk ν δ} {image : Image ν δ}

theorem isImage_current (disk : Disk ν δ) : disk.IsImage disk.current :=
  ⟨⟨disk.pending, List.Sublist.refl _, rfl⟩, fun _ _ => rfl⟩

@[simp] theorem directory_perform (disk : Disk ν δ) (op : DirectoryOp ν) :
    (disk.perform op).directory = op.apply disk.directory := by
  simp [directory, perform]

@[simp] theorem directory_syncDirectory (disk : Disk ν δ) :
    disk.syncDirectory.directory = disk.directory := rfl

@[simp] theorem directory_syncFile (disk : Disk ν δ) (file : Nat) :
    (disk.syncFile file).directory = disk.directory := rfl

/-- The last change is missing after a crash, or it is there. -/
theorem IsImage.perform_cases
    {op : DirectoryOp ν}
    (isImage : (disk.perform op).IsImage image) :
    disk.IsImage image ∨ ∃ before : Image ν δ, disk.IsImage before ∧
      image = ⟨op.apply before.directory, before.data⟩ := by
  obtain ⟨⟨ops, sublist, directory⟩, data⟩ := isImage
  obtain ⟨earlier, last, rfl, inPending, inLast⟩ := List.sublist_append_iff.mp sublist
  rcases List.sublist_singleton.mp inLast with rfl | rfl
  · rw [List.append_nil] at directory
    exact .inl ⟨⟨earlier, inPending, directory⟩, data⟩
  · rw [List.foldl_append] at directory
    refine .inr ⟨⟨earlier.foldl (fun directory op => op.apply directory) disk.durable, image.data⟩,
      ⟨⟨earlier, inPending, rfl⟩, data⟩, ?_⟩
    cases image
    cases directory
    rfl

theorem isImage_perform
    {before : Image ν δ}
    (isImage : disk.IsImage before)
    (op : DirectoryOp ν) :
    (disk.perform op).IsImage ⟨op.apply before.directory, before.data⟩ := by
  obtain ⟨⟨ops, sublist, directory⟩, data⟩ := isImage
  refine ⟨⟨ops ++ [op], sublist.append_right [op], ?_⟩, data⟩
  rw [List.foldl_append, directory]
  rfl

/-- A synced directory is found as it is. -/
theorem IsImage.directory_of_synced
    (isImage : disk.syncDirectory.IsImage image) : image.directory = disk.directory := by
  obtain ⟨⟨ops, sublist, directory⟩, -⟩ := isImage
  rw [List.eq_nil_of_sublist_nil sublist] at directory
  exact directory

/-- A sync of the directory makes nothing possible that was not. -/
theorem IsImage.of_syncDirectory
    (isImage : disk.syncDirectory.IsImage image) : disk.IsImage image :=
  ⟨⟨disk.pending, List.Sublist.refl _, isImage.directory_of_synced⟩, isImage.2⟩

theorem IsImage.of_syncFile
    {file : Nat}
    (isImage : (disk.syncFile file).IsImage image) : disk.IsImage image := by
  refine ⟨isImage.1, fun other isSynced => isImage.2 other ?_⟩
  by_cases same : other = file
  · rw [same]
    exact Function.update_self ..
  · exact (Function.update_of_ne same ..).trans isSynced

theorem IsImage.data_of_synced
    (isImage : disk.IsImage image)
    {file : Nat}
    (synced : disk.synced file = true) : image.data file = disk.data file :=
  isImage.2 file synced

end Disk
end Foundation
