import Vinctor.Service.SqliteReplacementSafety

/-!
# Runs of a replacement

The stages of `reset_sqlite` and `restore_sqlite`.  Up to the rename the destination is in
its place, whatever happens to the temporary database; the rename finds a synced file and
a directory without sidecars.
-/

namespace Vinctor
namespace Replacement

open Foundation

variable {δ Content : Type}

/-! ## Stages -/

/-- What a replacement starts from and is to end in.  Files numbered below `since` are older
than the replacement. -/
structure Plan (Content : Type) where
  since : Nat
  file : Option Nat
  content : Option Content
  new : Content
  accepted : Prop

section Stages

variable
    (sqlite : Sqlite δ Content)
    (plan : Plan Content)

/-- The destination is in its place. -/
structure Placed (store : Store δ) : Prop where
  reads : sqlite.Reads .destination plan.content store
  mainAt : ∀ image, store.disk.IsImage image →
    image.directory (main .destination) = plan.file
  numbered : Numbered store
  apart : Apart store
  since : plan.since ≤ store.nextFile

/-- Something is known of the temporary file. -/
def Stage (known : Nat → Store δ → Prop) (store : Store δ) : Prop :=
  Placed sqlite plan store ∧
    ∃ file, plan.since ≤ file ∧ store.disk.directory (main .temp) = some file ∧ known file store

/-- The temporary database has the new content. -/
def Filled (_ : Nat) (store : Store δ) : Prop :=
  sqlite.content store.disk.current .temp = some plan.new

/-- It has it without its sidecars. -/
def Folded (_ : Nat) (store : Store δ) : Prop :=
  ∀ directory, Strips .temp store.disk.directory directory →
    sqlite.content ⟨directory, store.disk.data⟩ .temp = some plan.new

/-- The file alone has the new content. -/
def Alone (file : Nat) (store : Store δ) : Prop :=
  sqlite.read (some (store.disk.data file)) (fun _ => none) = some plan.new

def Flushed (file : Nat) (store : Store δ) : Prop :=
  Alone sqlite plan file store ∧ store.disk.synced file = true

/-- No sidecar of the destination is left. -/
def Cleared (store : Store δ) : Prop :=
  Stage sqlite plan (Flushed sqlite plan) store ∧
    ∀ name ∈ sqliteSidecars .destination, store.disk.directory name = none

/-- The sidecars of the destination carry nothing. -/
def Idle (store : Store δ) : Prop :=
  Stage sqlite plan (Flushed sqlite plan) store ∧
    sqlite.Settled .destination plan.content store

/-- None comes back after a crash. -/
def Bare (store : Store δ) : Prop :=
  Stage sqlite plan (Flushed sqlite plan) store ∧
    ∀ image, store.disk.IsImage image → ∀ name ∈ sqliteSidecars .destination,
      image.directory name = none

/-- A crash leaves the old database or the new one. -/
def Safe (store : Store δ) : Prop :=
  ∀ image, store.disk.IsImage image → IsOld sqlite plan.file plan.content image ∨
    (plan.accepted ∧ IsNew sqlite plan.since plan.new image)

/-- The new database is in its place, and a synced directory keeps it there. -/
def Renamed (store : Store δ) : Prop :=
  Safe sqlite plan store ∧ ∀ image, store.disk.IsImage image →
    image.directory = store.disk.directory → IsNew sqlite plan.since plan.new image

def Installed (store : Store δ) : Prop :=
  ∀ image, store.disk.IsImage image → IsNew sqlite plan.since plan.new image

end Stages

variable
    {sqlite : Sqlite δ Content}
    {plan : Plan Content}

theorem Placed.safe
    {store : Store δ}
    (placed : Placed sqlite plan store) : Safe sqlite plan store :=
  fun image isImage => .inl ⟨placed.mainAt image isImage, placed.reads image isImage⟩

/-- A change within the temporary database leaves the destination in its place. -/
theorem Placed.of_temp
    {store after : Store δ}
    (placed : Placed sqlite plan store)
    (touches : Touches .temp store after) : Placed sqlite plan after where
  reads := placed.reads.of_spares (touches.spares (by decide))
  mainAt image isImage := by
    obtain ⟨earlier, wasImage, names, -⟩ := touches.images image isImage
    exact (names (main .destination) (by decide)).trans (placed.mainAt earlier wasImage)
  numbered := touches.numbered placed.numbered
  apart := touches.apart placed.numbered placed.apart
  since := Nat.le_trans placed.since touches.nextFile

/-- So does a change within the destination that loses nothing. -/
theorem Placed.of_destination
    {store after : Store δ}
    (placed : Placed sqlite plan store)
    (touches : Touches .destination store after)
    (reads : sqlite.Reads .destination plan.content after) : Placed sqlite plan after where
  reads := reads
  mainAt image isImage := by
    obtain ⟨earlier, wasImage, -, atMain, -⟩ := touches.images image isImage
    exact atMain.trans (placed.mainAt earlier wasImage)
  numbered := touches.numbered placed.numbered
  apart := touches.apart placed.numbered placed.apart
  since := Nat.le_trans placed.since touches.nextFile

/-- Syncs only rule images out. -/
theorem Placed.of_images
    {store : Store δ}
    {disk : Disk FileName δ}
    (placed : Placed sqlite plan store)
    (fewer : ∀ image, disk.IsImage image → store.disk.IsImage image) :
    Placed sqlite plan { store with disk := disk } where
  reads image isImage := placed.reads image (fewer image isImage)
  mainAt image isImage := placed.mainAt image (fewer image isImage)
  numbered image isImage := placed.numbered image (fewer image isImage)
  apart image other isImage isOther := placed.apart image other (fewer image isImage) (fewer other isOther)
  since := placed.since

/-- The synced temporary file stays while the destination is worked on. -/
theorem flushed_of_destination
    {store after : Store δ}
    (stage : Stage sqlite plan (Flushed sqlite plan) store)
    (touches : Touches .destination store after)
    (reads : sqlite.Reads .destination plan.content after) :
    Stage sqlite plan (Flushed sqlite plan) after := by
  obtain ⟨placed, file, since, held, alone, synced⟩ := stage
  obtain ⟨sameData, stillSynced⟩ := touches.kept (main .temp) file (by decide) held
  refine ⟨placed.of_destination touches reads, file, since,
    (touches.current (main .temp) (.inl (by decide))).trans held, ?_, stillSynced synced⟩
  unfold Alone
  rw [sameData]
  exact alone

theorem Sqlite.Settled.reads
    {database : Database}
    {content : Option Content}
    {store : Store δ}
    (settled : sqlite.Settled database content store) : sqlite.Reads database content store :=
  fun image isImage => settled image isImage image.directory fun _ => .inl rfl

theorem Sqlite.Settled.removed
    {database : Database}
    {content : Option Content}
    {store : Store δ}
    (settled : sqlite.Settled database content store)
    {name : FileName}
    (isSidecar : name ∈ sqliteSidecars database) :
    sqlite.Settled database content { store with disk := store.disk.perform (.bind name none) } := by
  intro image isImage directory strips
  rcases isImage.perform_cases with same | ⟨earlier, wasImage, rfl⟩
  · exact settled image same directory strips
  · refine settled earlier wasImage directory fun other => ?_
    rcases strips other with same | gone
    · by_cases removed : other = name
      · exact .inr ⟨removed ▸ isSidecar, by
          rw [same, removed]
          exact DirectoryOp.apply_bind_self ..⟩
      · exact .inl (same.trans (DirectoryOp.apply_bind_of_ne removed none _))
    · exact .inr gone

/-- Nothing is read where there is no main file. -/
theorem Placed.settled_of_absent
    {store : Store δ}
    (lawful : sqlite.Lawful)
    (placed : Placed sqlite plan store)
    (absent : plan.file = none) : sqlite.Settled .destination plan.content store := by
  have reads_none (image : Image FileName δ)
      (atMain : image.directory (main .destination) = none) :
      sqlite.content image .destination = none := by
    rw [Sqlite.content, atMain, Option.map_none]
    exact lawful.absent _
  have unread : plan.content = none :=
    (placed.reads _ (Disk.isImage_current _)).symm.trans
      (reads_none _ ((placed.mainAt _ (Disk.isImage_current _)).trans absent))
  intro image isImage directory strips
  rw [unread]
  refine reads_none ⟨directory, image.data⟩ ?_
  rcases strips (main .destination) with same | ⟨isSidecar, -⟩
  · exact same.trans ((placed.mainAt image isImage).trans absent)
  · exact absurd rfl (name_ne_main isSidecar)

theorem Safe.of_spares
    {store after : Store δ}
    (safe : Safe sqlite plan store)
    (spares : Spares .destination store after) : Safe sqlite plan after := by
  intro image isImage
  obtain ⟨earlier, wasImage, names, data⟩ := spares image isImage
  have sameContent := content_congr sqlite names data
  have sameMain := names (main .destination) rfl
  rcases safe earlier wasImage with ⟨atMain, reads⟩ | ⟨accepted, ⟨file, since, atMain⟩, none, reads⟩
  · exact .inl ⟨sameMain.trans atMain, sameContent.trans reads⟩
  · exact .inr ⟨accepted, ⟨file, since, sameMain.trans atMain⟩,
      fun name isSidecar =>
        (names name (database_of_sidecar isSidecar)).trans (none name isSidecar),
      sameContent.trans reads⟩

/-! ## Single steps -/

section Steps

variable
    {paths : PathTexts}
    {fate syncFate : Nat → Fate}

/-- A call that changes no file keeps what holds. -/
theorem meets_systemCall
    {stage : Store δ → Prop}
    (failure : ReplaceError) :
    Effect.Meets stage (systemCall fate failure)
      (fun _ => stage) (fun _ => stage) stage :=
  Effect.Meets.operation (fun _ holds => holds) (fun _ _ _ holds _ => holds)
    fun _ _ holds => holds

theorem meets_unlink
    {stage : Store δ → Prop}
    {name : FileName}
    (removes : ∀ store, stage store →
      stage { store with disk := store.disk.perform (.bind name none) }) :
    Effect.Meets stage (unlink fate true name)
      (fun _ store => stage store ∧ store.disk.directory name = none) (fun _ => stage) stage := by
  refine Effect.Meets.operation (fun store holds => ?_) (fun _ _ _ holds _ => holds)
    fun _ _ holds => holds
  cases held : store.disk.directory name with
  | none =>
      have nothing : unlinkEntry true name store = (.ok (), store) := by simp [unlinkEntry, held]
      rw [nothing]
      exact ⟨holds, held⟩
  | some file =>
      simp only [unlinkEntry, held]
      refine ⟨removes store holds, ?_⟩
      rw [Disk.directory_perform]
      exact DirectoryOp.apply_bind_self ..

/-- Where all are removed, none is left. -/
theorem meets_unlinkAll
    {stage : Store δ → Prop}
    (names : List FileName)
    (removes : ∀ name ∈ names, ∀ store, stage store →
      stage { store with disk := store.disk.perform (.bind name none) }) :
    Effect.Meets stage (unlinkAll fate names)
      (fun _ store => stage store ∧ ∀ name ∈ names, store.disk.directory name = none)
      (fun _ => stage) stage := by
  -- what is known besides of a name already removed
  have further (stage : Store δ → Prop) (gone : FileName) (name : FileName)
      (removes : ∀ store, stage store →
        stage { store with disk := store.disk.perform (.bind name none) })
      (store : Store δ) (holds : stage store ∧ store.disk.directory gone = none) :
      stage { store with disk := store.disk.perform (.bind name none) } ∧
        (store.disk.perform (.bind name none)).directory gone = none := by
    refine ⟨removes store holds.1, ?_⟩
    rw [Disk.directory_perform]
    by_cases same : gone = name
    · rw [same]
      exact DirectoryOp.apply_bind_self ..
    · exact (DirectoryOp.apply_bind_of_ne same none _).trans holds.2
  induction names generalizing stage with
  | nil => exact Effect.Meets.pure () fun store holds => ⟨holds, by simp⟩
  | cons name names hypothesis =>
      refine Effect.Meets.bind _ (meets_unlink (removes name (List.mem_cons_self ..))) fun _ => ?_
      refine (hypothesis fun other among store holds =>
        further stage name other (removes other (List.mem_cons_of_mem _ among)) store
          holds).weaken (fun _ holds => holds) ?_ (fun _ _ holds => holds.1) fun _ holds => holds.1
      rintro - store ⟨⟨holds, gone⟩, others⟩
      exact ⟨holds, List.forall_mem_cons.mpr ⟨gone, others⟩⟩

/-- A call on the temporary database leaves the destination in its place. -/
theorem meets_tempCall
    (lawful : sqlite.Lawful)
    {kind : Call Content}
    (onTemp : kind.database = .temp)
    {pre post : Store δ → Prop}
    (placed : ∀ store, pre store → Placed sqlite plan store)
    (performs : ∀ store, pre store → (sqlite.perform kind store).1 = .done →
      Touches .temp store (sqlite.perform kind store).2 → post (sqlite.perform kind store).2) :
    Effect.Meets pre (call sqlite paths fate kind)
      (fun _ => post) (fun _ => Placed sqlite plan) (Placed sqlite plan) := by
  have leaves (store : Store δ) (holds : pre store) {after : Store δ}
      (left : sqlite.Leaves kind store after) : Touches .temp store after :=
    onTemp ▸ lawful.touches (placed store holds).apart left
  refine Effect.Meets.operation (fun store holds => ?_)
    (fun store _ progress holds _ =>
      (placed store holds).of_temp (leaves store holds (.interrupted progress)))
    fun store progress holds =>
      (placed store holds).of_temp (leaves store holds (.interrupted progress))
  have touches := leaves store holds .performed
  have stays := (placed store holds).of_temp touches
  cases answered : (sqlite.perform kind store).1 with
  | done => exact performs store holds answered touches
  | busy => exact stays
  | operationalError => exact stays
  | databaseError => exact stays

/-- A stage in which the sidecars of the temporary database carry nothing. -/
theorem meets_checkpointTemp (lawful : sqlite.Lawful) :
    Effect.Meets (Stage sqlite plan (Filled sqlite plan))
      (checkpointSqliteWal sqlite paths fate .temp)
      (fun _ => Stage sqlite plan (Alone sqlite plan))
      (fun _ => Placed sqlite plan) (Placed sqlite plan) := by
  refine Effect.Meets.bind (fun _ => Stage sqlite plan (Folded sqlite plan))
    (meets_tempCall lawful rfl (fun _ holds => holds.1) fun store holds done touches => ?_)
    fun _ => ?_
  · obtain ⟨placed, file, since, held, filled⟩ := holds
    exact ⟨placed.of_temp touches, file, since,
      (touches.current (main .temp) (.inr rfl)).trans held,
      fun directory strips => (lawful.folds done strips).trans filled⟩
  · refine (meets_unlinkAll (sqliteSidecars .temp) ?_).weaken (fun _ holds => holds) ?_
      (fun _ _ holds => holds.1) fun _ holds => holds.1
    · rintro name isSidecar store ⟨placed, file, since, held, folded⟩
      refine ⟨placed.of_temp (touches_removed isSidecar), file, since,
        ((touches_removed isSidecar).current (main .temp) (.inr rfl)).trans held,
        fun directory strips => folded directory fun other => ?_⟩
      rw [Disk.directory_perform] at strips
      rcases strips other with same | gone
      · by_cases removed : other = name
        · exact .inr ⟨removed ▸ isSidecar, by
            rw [same, removed]
            exact DirectoryOp.apply_bind_self ..⟩
        · exact .inl (same.trans (DirectoryOp.apply_bind_of_ne removed none _))
      · exact .inr gone
    · rintro - store ⟨⟨placed, file, since, held, folded⟩, gone⟩
      refine ⟨placed, file, since, held, ?_⟩
      have reads := folded store.disk.directory fun _ => .inl rfl
      have noSidecar (sidecar : Sidecar) : store.disk.directory ⟨.temp, some sidecar⟩ = none :=
        gone _ (sidecar_mem .temp sidecar)
      unfold Alone
      simpa only [Sqlite.content, held, noSidecar, Option.map_some, Option.map_none] using reads

/-- The file is synced. -/
theorem meets_flush :
    Effect.Meets (Stage sqlite plan (Alone sqlite plan)) (flush fate)
      (fun _ => Stage sqlite plan (Flushed sqlite plan))
      (fun _ => Placed sqlite plan) (Placed sqlite plan) := by
  refine Effect.Meets.bind (fun _ => Stage sqlite plan (Alone sqlite plan))
    ((meets_systemCall .os).weaken (fun _ holds => holds) (fun _ _ holds => holds)
      (fun _ _ holds => holds.1) fun _ holds => holds.1) fun _ => ?_
  refine Effect.Meets.ensuring (fun _ => Stage sqlite plan (Flushed sqlite plan))
    (fun _ => Placed sqlite plan)
    (Effect.Meets.operation (fun store holds => ?_) (fun _ _ _ holds _ => holds.1)
      fun _ _ holds => holds.1)
    (fun _ => (meets_systemCall .os).weaken (fun _ holds => holds) (fun _ _ holds => holds)
      (fun _ _ holds => holds.1) fun _ holds => holds.1)
    fun _ => meets_systemCall .os
  obtain ⟨placed, file, since, held, alone⟩ := holds
  simp only [flushEntry, held]
  exact ⟨placed.of_images fun _ isImage => isImage.of_syncFile, file, since, held, alone,
    Function.update_self ..⟩

theorem meets_clear :
    Effect.Meets (Idle sqlite plan) (unlinkSqliteSidecars fate .destination)
      (fun _ => Cleared sqlite plan) (fun _ => Idle sqlite plan) (Idle sqlite plan) := by
  refine (meets_unlinkAll (sqliteSidecars .destination) ?_).weaken (fun _ holds => holds) ?_
    (fun _ _ holds => holds) fun _ holds => holds
  · rintro name isSidecar store ⟨stage, settled⟩
    have stays := settled.removed isSidecar
    exact ⟨flushed_of_destination stage (touches_removed isSidecar) stays.reads, stays⟩
  · rintro - store ⟨⟨stage, -⟩, gone⟩
    exact ⟨stage, gone⟩

/-- A checkpoint of the destination settles it, or fails and has lost nothing. -/
theorem meets_checkpointCall (lawful : sqlite.Lawful) :
    Effect.Meets (Stage sqlite plan (Flushed sqlite plan))
      (call sqlite paths fate (.checkpoint .destination))
      (fun _ => Idle sqlite plan)
      (fun error store => Placed sqlite plan store ∧ (error = .database → Idle sqlite plan store))
      (Placed sqlite plan) := by
  have within (store : Store δ) (stage : Stage sqlite plan (Flushed sqlite plan) store)
      {after : Store δ} (left : sqlite.Leaves (.checkpoint .destination) store after) :
      Touches .destination store after :=
    lawful.touches stage.1.apart left
  have interrupted (store : Store δ) (progress : Nat)
      (stage : Stage sqlite plan (Flushed sqlite plan) store) :
      Placed sqlite plan (sqlite.interrupted (.checkpoint .destination) progress store) :=
    stage.1.of_destination (within store stage (.interrupted progress))
      (lawful.keepsInterrupted progress stage.1.reads)
  refine Effect.Meets.operation (fun store stage => ?_)
    (fun store _ progress stage _ => ⟨interrupted store progress stage, nofun⟩)
    fun store progress stage => interrupted store progress stage
  have touches := within store stage .performed
  have refused (answered : (sqlite.perform (.checkpoint .destination) store).1 = .busy ∨
      (sqlite.perform (.checkpoint .destination) store).1 = .operationalError) :=
    stage.1.of_destination touches (lawful.keepsRefused stage.1.reads answered)
  cases answered : (sqlite.perform (.checkpoint .destination) store).1 with
  | done =>
      have settled := lawful.settles stage.1.reads answered
      exact ⟨flushed_of_destination stage touches settled.reads, settled⟩
  | busy => exact ⟨refused (.inl answered), nofun⟩
  | operationalError => exact ⟨refused (.inr answered), nofun⟩
  | databaseError =>
      obtain ⟨unread, settled⟩ := lawful.unreadable stage.1.reads answered
      rw [← unread] at settled
      have idle : Idle sqlite plan (sqlite.perform (.checkpoint .destination) store).2 :=
        ⟨flushed_of_destination stage touches settled.reads, settled⟩
      exact ⟨idle.1.1, fun _ => idle⟩

/-- The sidecars that could be replayed into the new file are gone, and the old database
reads as before. -/
theorem meets_neutralize (lawful : sqlite.Lawful) :
    Effect.Meets (Stage sqlite plan (Flushed sqlite plan))
      (neutralizeReplacedSidecars sqlite paths fate)
      (fun _ => Cleared sqlite plan) (fun _ => Placed sqlite plan) (Placed sqlite plan) := by
  have clears : Effect.Meets (Idle sqlite plan) (unlinkSqliteSidecars fate .destination)
      (fun _ => Cleared sqlite plan) (fun _ => Placed sqlite plan) (Placed sqlite plan) :=
    meets_clear.weaken (fun _ idle => idle) (fun _ _ holds => holds) (fun _ _ idle => idle.1.1)
      fun _ idle => idle.1.1
  refine Effect.Meets.bind
    (fun present store => Stage sqlite plan (Flushed sqlite plan) store ∧
      hasSidecar .destination store = present)
    (Effect.Meets.look _ fun _ stage => ⟨stage, rfl⟩) fun present => ?_
  refine Effect.Meets.ite (fun nonePresent => ?_) fun _ => ?_
  · refine Effect.Meets.pure () ?_
    rintro store ⟨stage, looked⟩
    refine ⟨stage, fun name isSidecar => ?_⟩
    have absent := List.any_eq_false.mp (looked.trans nonePresent) name isSidecar
    exact Option.not_isSome_iff_eq_none.mp absent
  refine Effect.Meets.bind
    (fun found store => Stage sqlite plan (Flushed sqlite plan) store ∧
      (store.disk.directory (main .destination)).isSome = found)
    (Effect.Meets.look _ fun _ holds => ⟨holds.1, rfl⟩) fun found => ?_
  refine Effect.Meets.ite (fun notFound => ?_) fun _ => ?_
  · -- orphaned sidecars
    refine clears.weaken ?_ (fun _ _ holds => holds) (fun _ _ holds => holds) fun _ holds => holds
    rintro store ⟨stage, looked⟩
    have absent : store.disk.directory (main .destination) = none := by
      rw [← Option.not_isSome_iff_eq_none, looked, notFound]
      exact Bool.false_ne_true
    exact ⟨stage, stage.1.settled_of_absent lawful
      ((stage.1.mainAt _ (Disk.isImage_current _)).symm.trans absent)⟩
  · refine Effect.Meets.handle
      (fun error store =>
        Placed sqlite plan store ∧ (error = .database → Idle sqlite plan store)) ?_ fun error => ?_
    · refine Effect.Meets.bind (fun _ => Idle sqlite plan)
        ((meets_checkpointCall lawful).weaken (fun _ holds => holds.1) (fun _ _ holds => holds)
          (fun _ _ holds => holds) fun _ holds => holds) fun _ => ?_
      exact meets_clear.weaken (fun _ idle => idle) (fun _ _ holds => holds)
        (fun _ _ idle => ⟨idle.1.1, fun _ => idle⟩) fun _ idle => idle.1.1
    · refine Effect.Meets.ite (fun isDatabase => ?_) fun _ => ?_
      · exact clears.weaken (fun _ holds => holds.2 isDatabase) (fun _ _ holds => holds)
          (fun _ _ holds => holds) fun _ holds => holds
      · exact Effect.Meets.throw error fun _ holds => holds.1

/-- A sync of the directory, where it does not fail. -/
theorem meets_fsyncDir
    (syncs : ∀ clock progress, syncFate clock ≠ .fails progress)
    {stage post : Store δ → Prop}
    {raised : ReplaceError → Store δ → Prop}
    {lost : Store δ → Prop}
    (synced : ∀ store, stage store → post { store with disk := store.disk.syncDirectory })
    (gone : ∀ store, stage store → lost store) :
    Effect.Meets stage (fsyncDir syncFate) (fun _ => post) raised lost :=
  Effect.Meets.handle (fun _ _ => False)
    (Effect.Meets.operation (fun store holds => synced store holds)
      (fun _ clock progress _ fails => syncs clock progress fails) fun store _ holds =>
      gone store holds)
    fun _ => Effect.Meets.pure () fun _ impossible => impossible.elim

theorem Cleared.bare
    {store : Store δ}
    (cleared : Cleared sqlite plan store) :
    Bare sqlite plan { store with disk := store.disk.syncDirectory } := by
  obtain ⟨⟨placed, temp⟩, gone⟩ := cleared
  refine ⟨⟨placed.of_images fun _ isImage => isImage.of_syncDirectory, temp⟩,
    fun image isImage name isSidecar => ?_⟩
  rw [isImage.directory_of_synced]
  exact gone name isSidecar

theorem Bare.renamed
    {store : Store δ}
    {file : Nat}
    (bare : Bare sqlite plan store)
    (accepted : plan.accepted)
    (held : store.disk.directory (main .temp) = some file) :
    Renamed sqlite plan
      { store with disk := store.disk.perform (.rename (main .temp) (main .destination) file) } := by
  obtain ⟨⟨placed, other, since, heldToo, alone, synced⟩, noSidecars⟩ := bare
  cases held.symm.trans heldToo
  have isNew (earlier : Image FileName δ) (wasImage : store.disk.IsImage earlier) :
      IsNew sqlite plan.since plan.new
        ⟨(DirectoryOp.rename (main .temp) (main .destination) file).apply earlier.directory,
          earlier.data⟩ := by
    have atMain := DirectoryOp.apply_rename_target
      (show main .destination ≠ main .temp by decide) file earlier.directory
    have gone (name : FileName) (isSidecar : name ∈ sqliteSidecars .destination) :
        (DirectoryOp.rename (main .temp) (main .destination) file).apply earlier.directory name =
          none := by
      rw [DirectoryOp.apply_rename_of_ne ?_ (name_ne_main isSidecar)]
      · exact noSidecars earlier wasImage name isSidecar
      · rintro rfl
        exact absurd (database_of_sidecar isSidecar) (by decide)
    refine ⟨⟨file, since, atMain⟩, gone, ?_⟩
    have noSidecar (sidecar : Sidecar) := gone _ (sidecar_mem .destination sidecar)
    simp only [Sqlite.content, atMain, noSidecar, Option.map_some, Option.map_none]
    rw [wasImage.data_of_synced synced]
    exact alone
  refine ⟨fun image isImage => ?_, fun image isImage sameDirectory => ?_⟩
  · rcases isImage.perform_cases with same | ⟨earlier, wasImage, rfl⟩
    · exact placed.safe image same
    · exact .inr ⟨accepted, isNew earlier wasImage⟩
  · rcases isImage.perform_cases with same | ⟨earlier, wasImage, rfl⟩
    · -- the destination never stands for the temporary file before the rename
      have atMain : image.directory (main .destination) = some file := by
        rw [sameDirectory, Disk.directory_perform]
        exact DirectoryOp.apply_rename_target (by decide) file _
      exact absurd held (placed.apart image _ same (Disk.isImage_current _)
        (main .destination) (main .temp) file (by decide) atMain)
    · exact isNew earlier wasImage

theorem Renamed.installed
    {store : Store δ}
    (renamed : Renamed sqlite plan store) :
    Installed sqlite plan { store with disk := store.disk.syncDirectory } :=
  fun image isImage => renamed.2 image isImage.of_syncDirectory isImage.directory_of_synced

theorem Installed.safe
    {store : Store δ}
    (accepted : plan.accepted)
    (installed : Installed sqlite plan store) : Safe sqlite plan store :=
  fun image isImage => .inr ⟨accepted, installed image isImage⟩

/-- What is done under the lease puts the new database in its place. -/
theorem meets_swap
    (lawful : sqlite.Lawful)
    (syncs : ∀ clock progress, syncFate clock ≠ .fails progress) :
    Effect.Meets (fun store => plan.accepted ∧ Stage sqlite plan (Flushed sqlite plan) store)
      (swap sqlite paths fate syncFate)
      (fun _ store => plan.accepted ∧ Installed sqlite plan store)
      (fun _ => Safe sqlite plan) (Safe sqlite plan) := by
  refine Effect.Meets.bind (fun _ store => plan.accepted ∧ Cleared sqlite plan store)
    (((meets_neutralize lawful).framed plan.accepted).weaken (fun _ holds => holds)
      (fun _ _ holds => holds) (fun _ _ placed => placed.safe) fun _ placed => placed.safe)
    fun _ => ?_
  refine Effect.Meets.bind (fun _ store => plan.accepted ∧ Bare sqlite plan store)
    (meets_fsyncDir syncs (fun _ holds => ⟨holds.1, holds.2.bare⟩) fun _ holds =>
      holds.2.1.1.safe) fun _ => ?_
  refine Effect.Meets.bind (fun _ store => plan.accepted ∧ Renamed sqlite plan store)
    (Effect.Meets.operation ?_ (fun _ _ _ holds _ => holds.2.1.1.safe)
      fun _ _ holds => holds.2.1.1.safe)
    fun _ => meets_fsyncDir syncs (fun _ holds => ⟨holds.1, holds.2.installed⟩)
      fun _ holds => holds.2.1
  rintro store ⟨accepted, bare⟩
  obtain ⟨-, file, -, held, -⟩ := bare.1
  simp only [replaceEntry, held]
  exact ⟨accepted, bare.renamed accepted held⟩

end Steps

end Replacement
end Vinctor
