import Vinctor.Service.SqliteReplacementRuns

/-!
# Crashes of a replacement

A reset or a restore that ends anywhere, by an error or with the host, leaves the old
database or the new one.  One that returns has put the new one in its place for good.
-/

namespace Vinctor
namespace Replacement

open Foundation

variable
    {δ Content : Type}
    {sqlite : Sqlite δ Content}
    {plan : Plan Content}

/-! ## The whole replacement -/

section Replacements

variable
    {paths : PathTexts}
    {fate syncFate : Nat → Fate}


/-- The build, with the versions that it reports, ends in a temporary database with the new
content. -/
def Builds
    (sqlite : Sqlite δ Content)
    (plan : Plan Content)
    (build : Step δ (List Int)) : Prop :=
  Effect.Meets (Stage sqlite plan sqlite.Empty) build
    (fun versions store => (plan.accepted ∧ versions = sqlite.versions plan.new) ∧
      Stage sqlite plan (Filled sqlite plan) store)
    (fun _ => Placed sqlite plan) (Placed sqlite plan)

theorem meets_install
    (lawful : sqlite.Lawful)
    (syncs : ∀ clock progress, syncFate clock ≠ .fails progress)
    {build : Step δ (List Int)}
    (builds : Builds sqlite plan build) :
    Effect.Meets (Stage sqlite plan sqlite.Empty) (install sqlite paths fate syncFate build)
      (fun versions store => (plan.accepted ∧ versions = sqlite.versions plan.new) ∧
        Installed sqlite plan store)
      (fun _ => Safe sqlite plan) (Safe sqlite plan) := by
  have safely {pre post : Store δ → Prop} {step : Step δ Unit} (versions : List Int)
      (meets : Effect.Meets pre step (fun _ => post) (fun _ => Placed sqlite plan)
        (Placed sqlite plan)) :=
    (meets.framed (plan.accepted ∧ versions = sqlite.versions plan.new)).weaken
      (fun _ holds => holds) (fun _ _ holds => holds)
      (fun (_ : ReplaceError) _ placed => Placed.safe placed) fun _ placed => Placed.safe placed
  refine Effect.Meets.bind _
    (builds.weaken (fun _ holds => holds) (fun _ _ holds => holds) (fun _ _ placed => placed.safe)
      fun _ placed => placed.safe) fun versions => ?_
  refine Effect.Meets.bind _ (safely versions (meets_checkpointTemp lawful)) fun _ => ?_
  refine Effect.Meets.bind _ (safely versions meets_flush) fun _ => ?_
  refine Effect.Meets.bind _
    (safely versions ((meets_systemCall (inUse paths)).weaken (fun _ holds => holds)
      (fun _ _ holds => holds) (fun _ _ holds => holds.1) fun _ holds => holds.1)) fun _ => ?_
  refine Effect.Meets.bind
    (fun _ store => (plan.accepted ∧ versions = sqlite.versions plan.new) ∧
      Installed sqlite plan store) ?_ fun _ => Effect.Meets.pure versions fun _ holds => holds
  refine Effect.Meets.ensuring
    (fun _ store => (plan.accepted ∧ versions = sqlite.versions plan.new) ∧
      Installed sqlite plan store)
    (fun _ => Safe sqlite plan) ?_
    (fun _ => (meets_systemCall .os).weaken (fun _ holds => holds) (fun _ _ holds => holds)
      (fun _ _ holds => holds.2.safe holds.1.1) fun _ holds => holds.2.safe holds.1.1)
    fun _ => meets_systemCall .os
  exact ((meets_swap lawful syncs).framed (versions = sqlite.versions plan.new)).weaken
    (fun _ holds => ⟨holds.1.2, holds.1.1, holds.2⟩)
    (fun _ _ holds => ⟨⟨holds.2.1, holds.1⟩, holds.2.2⟩) (fun _ _ safe => safe) fun _ safe => safe

/-- The names of the other database are spared. -/
theorem spares_removed
    {database : Database}
    {name : FileName}
    (foreign : name.database ≠ database)
    (store : Store δ) :
    Spares database store { store with disk := store.disk.perform (.bind name none) } := by
  intro image isImage
  rcases isImage.perform_cases with same | ⟨earlier, wasImage, rfl⟩
  · exact ⟨image, same, fun _ _ => rfl, fun _ _ _ _ => rfl⟩
  · refine ⟨earlier, wasImage, fun other own => ?_, fun _ _ _ _ => rfl⟩
    exact DirectoryOp.apply_bind_of_ne (by rintro rfl; exact foreign own) none _

theorem meets_removeTemp
    (error : ReplaceError)
    {post : List Int → Store δ → Prop} :
    Effect.Meets (Safe sqlite plan) (removeTemp fate error) post
      (fun _ => Safe sqlite plan) (Safe sqlite plan) := by
  have removes (name : FileName) (isTemp : name.database = .temp) (store : Store δ)
      (safe : Safe sqlite plan store) :
      Safe sqlite plan { store with disk := store.disk.perform (.bind name none) } :=
    safe.of_spares (spares_removed (by rw [isTemp]; decide) store)
  refine Effect.Meets.bind _
    (meets_unlinkAll _ fun name isSidecar => removes name (database_of_sidecar isSidecar))
    fun _ => ?_
  refine Effect.Meets.bind (fun _ => Safe sqlite plan) ?_
    fun _ => Effect.Meets.throw error fun _ safe => safe
  exact (meets_unlink (removes (main .temp) rfl)).weaken (fun _ holds => holds.1)
    (fun _ _ holds => holds.1) (fun _ _ safe => safe) fun _ safe => safe

/-- The temporary names are not taken yet. -/
def Begun
    (sqlite : Sqlite δ Content)
    (plan : Plan Content)
    (store : Store δ) : Prop :=
  Placed sqlite plan store ∧ ∀ image, store.disk.IsImage image →
    ∀ name, name.database = .temp → image.directory name = none

/-- An image with a new temporary file shows the older files as before. -/
theorem images_makeTemp
    {store : Store δ}
    {image : Image FileName δ}
    (isImage : (makeTemp sqlite store).disk.IsImage image) :
    ∃ earlier, store.disk.IsImage earlier ∧
      (image.directory = earlier.directory ∨
        image.directory =
          (DirectoryOp.bind (main .temp) (some store.nextFile)).apply earlier.directory) ∧
      ∀ file, file ≠ store.nextFile → image.data file = earlier.data file := by
  -- the same image, with the earlier data of the new file
  let before : Image FileName δ :=
    ⟨image.directory, Function.update image.data store.nextFile (store.disk.data store.nextFile)⟩
  have wasImage :
      (store.disk.perform (.bind (main .temp) (some store.nextFile))).IsImage before := by
    refine ⟨isImage.1, fun file synced => ?_⟩
    by_cases isNew : file = store.nextFile
    · rw [isNew]
      exact Function.update_self ..
    · have stillSynced : (makeTemp sqlite store).disk.synced file = true :=
        (Function.update_of_ne isNew ..).trans synced
      have sameData : image.data file = store.disk.data file :=
        (isImage.2 file stillSynced).trans (Function.update_of_ne isNew ..)
      exact (Function.update_of_ne isNew ..).trans sameData
  have older (file : Nat) (isOlder : file ≠ store.nextFile) :
      image.data file = before.data file := (Function.update_of_ne isOlder ..).symm
  rcases wasImage.perform_cases with same | ⟨earlier, wasEarlier, isApplied⟩
  · exact ⟨before, same, .inl rfl, older⟩
  · refine ⟨earlier, wasEarlier, .inr (congrArg Image.directory isApplied), fun file isOlder => ?_⟩
    exact (older file isOlder).trans (congrArg (fun image => image.data file) isApplied)

/-- A new temporary file leaves the destination in its place. -/
theorem Begun.placed_makeTemp
    {store : Store δ}
    (begun : Begun sqlite plan store) : Placed sqlite plan (makeTemp sqlite store) := by
  obtain ⟨placed, fresh⟩ := begun
  -- a temporary name stands for the new file only, a name of the destination for its old one
  have temp (image : Image FileName δ) (isImage : (makeTemp sqlite store).disk.IsImage image)
      (name : FileName) (own : name.database = .temp) (file : Nat)
      (held : image.directory name = some file) : file = store.nextFile := by
    obtain ⟨earlier, wasImage, directory | directory, -⟩ := images_makeTemp isImage
    · rw [directory, fresh earlier wasImage name own] at held
      cases held
    · by_cases isMain : name = main .temp
      · rw [directory, isMain] at held
        exact (Option.some.inj
          ((DirectoryOp.apply_bind_self (main .temp) _ _).symm.trans held)).symm
      · rw [directory, DirectoryOp.apply_bind_of_ne isMain, fresh earlier wasImage name own] at held
        cases held
  have destination (image : Image FileName δ)
      (isImage : (makeTemp sqlite store).disk.IsImage image) :
      ∃ earlier, store.disk.IsImage earlier ∧
        (∀ name, name.database = .destination → image.directory name = earlier.directory name) ∧
        ∀ file, file ≠ store.nextFile → image.data file = earlier.data file := by
    obtain ⟨earlier, wasImage, directory | directory, data⟩ := images_makeTemp isImage
    · exact ⟨earlier, wasImage, fun _ _ => by rw [directory], data⟩
    · refine ⟨earlier, wasImage, fun name own => ?_, data⟩
      rw [directory]
      exact DirectoryOp.apply_bind_of_ne (by rintro rfl; cases own) _ _
  have older (image : Image FileName δ) (isImage : (makeTemp sqlite store).disk.IsImage image)
      (name : FileName) (own : name.database = .destination) (file : Nat)
      (held : image.directory name = some file) : file < store.nextFile := by
    obtain ⟨earlier, wasImage, names, -⟩ := destination image isImage
    exact placed.numbered earlier wasImage name file (names name own ▸ held)
  have numbered : Numbered (makeTemp sqlite store) := by
    intro image isImage name file held
    change file < store.nextFile + 1
    cases own : name.database with
    | destination => exact Nat.lt_succ_of_lt (older image isImage name own file held)
    | temp => exact (temp image isImage name own file held) ▸ Nat.lt_succ_self _
  refine ⟨?_, fun image isImage => ?_, numbered, ?_, Nat.le_succ_of_le placed.since⟩
  · refine placed.reads.of_spares fun image isImage => ?_
    obtain ⟨earlier, wasImage, names, data⟩ := destination image isImage
    exact ⟨earlier, wasImage, names, fun name file _ held =>
      data file (Nat.ne_of_lt (placed.numbered earlier wasImage name file held))⟩
  · obtain ⟨earlier, wasImage, names, -⟩ := destination image isImage
    exact (names (main .destination) rfl).trans (placed.mainAt earlier wasImage)
  · intro image other isImage isOther name elsewhere file different held heldToo
    cases own : name.database with
    | destination =>
        cases ownToo : elsewhere.database with
        | destination => exact different (own.trans ownToo.symm)
        | temp =>
            exact absurd (older image isImage name own file held)
              (temp other isOther elsewhere ownToo file heldToo ▸ Nat.lt_irrefl _)
    | temp =>
        cases ownToo : elsewhere.database with
        | destination =>
            exact absurd (older other isOther elsewhere ownToo file heldToo)
              (temp image isImage name own file held ▸ Nat.lt_irrefl _)
        | temp => exact different (own.trans ownToo.symm)

theorem Begun.made
    {store : Store δ}
    (begun : Begun sqlite plan store) :
    Stage sqlite plan sqlite.Empty (makeTemp sqlite store) := by
  have directory : (makeTemp sqlite store).disk.directory =
      (DirectoryOp.bind (main .temp) (some store.nextFile)).apply store.disk.directory :=
    store.disk.directory_perform (.bind (main .temp) (some store.nextFile))
  have held : (makeTemp sqlite store).disk.directory (main .temp) = some store.nextFile := by
    rw [directory]
    exact DirectoryOp.apply_bind_self ..
  refine ⟨begun.placed_makeTemp, store.nextFile, begun.1.since, held, held,
    Function.update_self .., fun name isSidecar => ?_⟩
  rw [directory, DirectoryOp.apply_bind_of_ne (name_ne_main isSidecar)]
  exact begun.2 _ (Disk.isImage_current _) name (database_of_sidecar isSidecar)

theorem meets_atomicReplace
    (lawful : sqlite.Lawful)
    (syncs : ∀ clock progress, syncFate clock ≠ .fails progress)
    {build : Step δ (List Int)}
    (builds : Builds sqlite plan build) :
    Effect.Meets (Begun sqlite plan) (atomicReplaceSqlite sqlite paths fate syncFate build)
      (fun versions store => (plan.accepted ∧ versions = sqlite.versions plan.new) ∧
        Installed sqlite plan store)
      (fun _ => Safe sqlite plan) (Safe sqlite plan) := by
  refine Effect.Meets.bind (fun _ => Begun sqlite plan)
    ((meets_systemCall .os).weaken (fun _ holds => holds) (fun _ _ holds => holds)
      (fun _ _ holds => holds.1.safe) fun _ holds => holds.1.safe) fun _ => ?_
  refine Effect.Meets.bind (fun _ => Stage sqlite plan sqlite.Empty)
    (Effect.Meets.operation (fun _ begun => begun.made) (fun _ _ _ begun _ => begun.1.safe)
      fun _ _ begun => begun.1.safe) fun _ => ?_
  refine Effect.Meets.bind (fun _ => Stage sqlite plan sqlite.Empty)
    ((meets_systemCall .os).weaken (fun _ holds => holds) (fun _ _ holds => holds)
      (fun _ _ holds => holds.1.safe) fun _ holds => holds.1.safe) fun _ => ?_
  exact Effect.Meets.handle (fun _ => Safe sqlite plan) (meets_install lawful syncs builds)
    fun error => meets_removeTemp error

/-- The report of the head leaves everything as it was. -/
theorem meets_trace (lawful : sqlite.Lawful) :
    Effect.Meets (Begun sqlite plan) (emitStorageOpTrace sqlite paths fate)
      (fun _ => Begun sqlite plan) (fun _ => Begun sqlite plan) (Begun sqlite plan) := by
  have stays (store : Store δ) (begun : Begun sqlite plan store) {after : Store δ}
      (left : sqlite.Leaves .readHead store after) : Begun sqlite plan after := by
    have touches : Touches .destination store after := lawful.touches begun.1.apart left
    refine ⟨begun.1.of_destination touches (lawful.keepsHead begun.1.reads left),
      fun image isImage name own => ?_⟩
    obtain ⟨earlier, wasImage, names, -⟩ := touches.images image isImage
    exact (names name (by rw [own]; decide)).trans (begun.2 earlier wasImage name own)
  refine Effect.Meets.bind (fun _ => Begun sqlite plan)
    (Effect.Meets.look _ fun _ begun => begun) fun found => ?_
  refine Effect.Meets.ite (fun _ => ?_) fun _ => Effect.Meets.pure () fun _ begun => begun
  refine Effect.Meets.handle (fun _ => Begun sqlite plan) ?_
    fun _ => Effect.Meets.pure () fun _ begun => begun
  refine Effect.Meets.operation (fun store begun => ?_)
    (fun store _ progress begun _ => stays store begun (.interrupted progress))
    fun store progress begun => stays store begun (.interrupted progress)
  have left := stays store begun .performed
  cases answered : (sqlite.perform .readHead store).1 with
  | done => exact left
  | busy => exact left
  | operationalError => exact left
  | databaseError => exact left

end Replacements

/-! ## Resets and restores -/

inductive StorageOp (Content : Type)
  | reset
  | restore (input : Input Content)

namespace StorageOp

def perform
    (sqlite : Sqlite δ Content)
    (paths : PathTexts)
    (fate syncFate : Nat → Fate) : StorageOp Content → Step δ (List Int)
  | .reset => resetSqlite sqlite paths fate syncFate
  | .restore input => restoreSqlite sqlite paths fate syncFate input

/-- The content that an operation may put in place of the old one. -/
def Installs (sqlite : Sqlite δ Content) : StorageOp Content → Content → Prop
  | .reset, new => new = sqlite.initialized
  | .restore (.snapshot content), new =>
      new = content ∧ sqlite.versions content ≠ [] ∧ sqlite.breakSeq content = none
  | .restore .missing, _ => False
  | .restore .unreadable, _ => False

end StorageOp

section Operations

variable
    {paths : PathTexts}
    {fate syncFate : Nat → Fate}

theorem builds_reset
    (lawful : sqlite.Lawful)
    (isInitial : plan.new = sqlite.initialized)
    (accepted : plan.accepted) : Builds sqlite plan (buildReset sqlite paths fate) := by
  refine Effect.Meets.bind (fun _ => Stage sqlite plan (Filled sqlite plan))
    (meets_tempCall lawful rfl (fun _ stage => stage.1) fun store stage done touches => ?_)
    fun _ => Effect.Meets.look _ fun store stage => ⟨⟨accepted, ?_⟩, stage⟩
  · obtain ⟨placed, file, since, held, empty⟩ := stage
    exact ⟨placed.of_temp touches, file, since,
      (touches.current (main .temp) (.inr rfl)).trans held,
      (lawful.initializes empty done).trans (congrArg some isInitial.symm)⟩
  · obtain ⟨-, file, -, -, filled⟩ := stage
    unfold Filled at filled
    rw [filled]
    rfl

theorem builds_restore
    (lawful : sqlite.Lawful)
    (isAccepted : sqlite.versions plan.new ≠ [] → sqlite.breakSeq plan.new = none →
      plan.accepted) :
    Builds sqlite plan (buildRestore sqlite paths fate plan.new) := by
  refine Effect.Meets.bind (fun _ => Stage sqlite plan (Filled sqlite plan))
    (meets_tempCall lawful rfl (fun _ stage => stage.1) fun store stage done touches => ?_)
    fun _ => ?_
  · obtain ⟨placed, file, since, held, -⟩ := stage
    exact ⟨placed.of_temp touches, file, since,
      (touches.current (main .temp) (.inr rfl)).trans held, lawful.copies done⟩
  refine Effect.Meets.bind (fun _ => Stage sqlite plan (Filled sqlite plan))
    (meets_tempCall lawful rfl (fun _ stage => stage.1) fun store stage done touches => ?_)
    fun _ => ?_
  · obtain ⟨placed, file, since, held, filled⟩ := stage
    exact ⟨placed.of_temp touches, file, since,
      (touches.current (main .temp) (.inr rfl)).trans held, (lawful.inspects done).trans filled⟩
  refine Effect.Meets.bind
    (fun versions store => versions = sqlite.versions plan.new ∧
      Stage sqlite plan (Filled sqlite plan) store)
    (Effect.Meets.look _ fun store stage => ⟨?_, stage⟩) fun versions => ?_
  · obtain ⟨-, file, -, -, filled⟩ := stage
    unfold Filled at filled
    rw [filled]
    rfl
  refine Effect.Meets.bind
    (fun broken store => (versions = sqlite.versions plan.new ∧
      broken = sqlite.breakSeq plan.new) ∧ Stage sqlite plan (Filled sqlite plan) store)
    (Effect.Meets.look _ fun store holds => ⟨⟨holds.1, ?_⟩, holds.2⟩) fun broken => ?_
  · obtain ⟨-, -, file, -, -, filled⟩ := holds
    unfold Filled at filled
    rw [filled]
    rfl
  refine Effect.Meets.ite (fun _ => Effect.Meets.throw _ fun _ holds => holds.2.1)
    fun someVersions => ?_
  cases broken with
  | some seq => exact Effect.Meets.throw _ fun _ holds => holds.2.1
  | none =>
      refine Effect.Meets.pure versions ?_
      rintro store ⟨⟨areVersions, intact⟩, stage⟩
      exact ⟨⟨isAccepted (areVersions ▸ someVersions) intact.symm, areVersions⟩, stage⟩

/-- An operation that builds meets its plan, and so does one that raises before. -/
theorem meets_traced
    (lawful : sqlite.Lawful)
    {step : Step δ (List Int)}
    (meets : Effect.Meets (Begun sqlite plan) step
      (fun versions store => (plan.accepted ∧ versions = sqlite.versions plan.new) ∧
        Installed sqlite plan store)
      (fun _ => Safe sqlite plan) (Safe sqlite plan)) :
    Effect.Meets (Begun sqlite plan)
      (do emitStorageOpTrace sqlite paths fate
          step)
      (fun versions store => (plan.accepted ∧ versions = sqlite.versions plan.new) ∧
        Installed sqlite plan store)
      (fun _ => Safe sqlite plan) (Safe sqlite plan) :=
  Effect.Meets.bind _
    ((meets_trace lawful).weaken (fun _ begun => begun) (fun _ _ begun => begun)
      (fun _ _ begun => begun.1.safe) fun _ begun => begun.1.safe) fun _ => meets

theorem meets_rejected (error : ReplaceError) :
    Effect.Meets (Begun sqlite plan) (MonadExcept.throw error : Step δ (List Int))
      (fun versions store => (plan.accepted ∧ versions = sqlite.versions plan.new) ∧
        Installed sqlite plan store)
      (fun _ => Safe sqlite plan) (Safe sqlite plan) :=
  Effect.Meets.throw error fun _ begun => begun.1.safe

/-- Every operation has a content to install, and a condition under which it does. -/
theorem meets_perform
    (lawful : sqlite.Lawful)
    (syncs : ∀ clock progress, syncFate clock ≠ .fails progress)
    (op : StorageOp Content) :
    ∃ new : Content, ∃ accepted : Prop, (accepted → op.Installs sqlite new) ∧
      ∀ plan : Plan Content, plan.new = new → plan.accepted = accepted →
        Effect.Meets (Begun sqlite plan) (op.perform sqlite paths fate syncFate)
          (fun versions store => (plan.accepted ∧ versions = sqlite.versions plan.new) ∧
            Installed sqlite plan store)
          (fun _ => Safe sqlite plan) (Safe sqlite plan) := by
  cases op with
  | reset =>
      refine ⟨sqlite.initialized, True, fun _ => rfl, fun plan isNew isAccepted => ?_⟩
      exact meets_traced lawful (meets_atomicReplace lawful syncs
        (builds_reset lawful isNew (isAccepted ▸ trivial)))
  | restore input =>
      cases input with
      | missing =>
          exact ⟨sqlite.initialized, False, False.elim, fun plan _ _ =>
            meets_traced lawful (meets_rejected _)⟩
      | unreadable =>
          exact ⟨sqlite.initialized, False, False.elim, fun plan _ _ =>
            meets_traced lawful (meets_rejected _)⟩
      | snapshot content =>
          refine ⟨content, sqlite.versions content ≠ [] ∧ sqlite.breakSeq content = none,
            fun accepted => ⟨rfl, accepted⟩, fun plan isNew isAccepted => ?_⟩
          subst isNew
          exact meets_traced lawful (meets_atomicReplace lawful syncs
            (builds_restore lawful fun someVersions intact => isAccepted ▸ ⟨someVersions, intact⟩))

theorem Ready.begun
    {content : Option Content}
    {store : Store δ}
    (ready : Ready sqlite content store)
    (new : Content)
    (accepted : Prop) :
    Begun sqlite
      ⟨store.nextFile, store.disk.directory (main .destination), content, new, accepted⟩ store := by
  refine ⟨⟨ready.reads, ready.mainDurable, ready.numbered, ?_, Nat.le_refl _⟩, ready.fresh⟩
  intro image other isImage isOther name elsewhere file different held heldToo
  cases own : name.database with
  | temp =>
      rw [ready.fresh image isImage name own] at held
      cases held
  | destination =>
      have isTemp : elsewhere.database = .temp := by
        cases ownToo : elsewhere.database with
        | destination => exact absurd (own.trans ownToo.symm) different
        | temp => rfl
      rw [ready.fresh other isOther elsewhere isTemp] at heldToo
      cases heldToo

/-- A reset or a restore with any failures, which the host may not survive, leaves the old
database as it was read before or a new one that the operation may install, without a
sidecar.  One that returns has installed it, so that no later crash brings the old one
back. -/
theorem replacement_is_crash_safe
    (lawful : sqlite.Lawful)
    (syncs : ∀ clock progress, syncFate clock ≠ .fails progress)
    (op : StorageOp Content)
    {content : Option Content}
    {store : Store δ}
    (ready : Ready sqlite content store) :
    let run := (op.perform sqlite paths fate syncFate).exec ⟨store, 0, false⟩
    (∀ image, run.2.state.disk.IsImage image →
      IsOld sqlite (store.disk.directory (main .destination)) content image ∨
        ∃ new, op.Installs sqlite new ∧ IsNew sqlite store.nextFile new image) ∧
    ∀ versions, run.1 = .ok versions → run.2.down = false →
      ∃ new, op.Installs sqlite new ∧ versions = sqlite.versions new ∧
        ∀ image, run.2.state.disk.IsImage image → IsNew sqlite store.nextFile new image := by
  intro run
  obtain ⟨new, accepted, installs, meets⟩ :=
    @meets_perform _ _ sqlite paths fate syncFate lawful syncs op
  have ended := (meets ⟨_, _, content, new, accepted⟩ rfl rfl).ends ⟨store, 0, false⟩ rfl
    (ready.begun new accepted)
  have safely {last : Store δ} (safe : Safe sqlite
      ⟨store.nextFile, store.disk.directory (main .destination), content, new, accepted⟩ last)
      (image : Image FileName δ) (isImage : last.disk.IsImage image) :
      IsOld sqlite (store.disk.directory (main .destination)) content image ∨
        ∃ new, op.Installs sqlite new ∧ IsNew sqlite store.nextFile new image :=
    (safe image isImage).imp_right fun isNew => ⟨new, installs isNew.1, isNew.2⟩
  change Effect.Ends _ _ _ run at ended
  unfold Effect.Ends at ended
  split at ended
  · next isDown =>
      exact ⟨safely ended, fun _ _ isUp => absurd isDown (by simp [isUp])⟩
  · split at ended
    · next versions returned =>
        obtain ⟨⟨isAccepted, areVersions⟩, installed⟩ := ended
        refine ⟨safely (Installed.safe isAccepted installed), fun reported isOk _ => ?_⟩
        cases returned.symm.trans isOk
        exact ⟨new, installs isAccepted, areVersions, installed⟩
    · next error raised =>
        exact ⟨safely ended, fun _ isOk _ => by cases raised.symm.trans isOk⟩

end Operations

/-! ## A database without sidecars -/

/-- Data written to the temporary file. -/
def written (file : Nat) (data : Option Nat) (store : Store (Option Nat)) : Store (Option Nat) :=
  { store with disk :=
      { store.disk with
        data := Function.update store.disk.data file data
        synced := Function.update store.disk.synced file false } }

def writeTemp (data : Option Nat) (store : Store (Option Nat)) :
    Answer × Store (Option Nat) :=
  match store.disk.directory (main .temp) with
  | none => (.operationalError, store)
  | some file => (.done, written file data store)

/-- A database that is a number in its main file. -/
def numberFile : Sqlite (Option Nat) Nat where
  emptyFile := none
  read file _ := file.join
  versions _ := [1]
  breakSeq _ := none
  initialized := 0
  perform kind store :=
    match kind with
    | .initSchema => writeTemp (some 0) store
    | .copy content => writeTemp (some content) store
    | .readHead | .inspect | .checkpoint _ => (.done, store)
  interrupted _ _ store := store

theorem touches_self {database : Database} (store : Store δ) : Touches database store store where
  images image isImage := ⟨image, isImage, fun _ _ => rfl, rfl,
    fun name _ held => .inl ⟨name, rfl, held⟩, fun _ _ _ _ => rfl⟩
  current _ _ := rfl
  kept _ _ _ _ := ⟨rfl, id⟩
  nextFile := Nat.le_refl _

theorem touches_written
    {store : Store (Option Nat)}
    (apart : Apart store)
    {file : Nat}
    (held : store.disk.directory (main .temp) = some file)
    (data : Option Nat) : Touches .temp store (written file data store) := by
  -- the destination has another file in every image
  have differs (image : Image FileName (Option Nat)) (isImage : store.disk.IsImage image)
      (name : FileName) (foreign : name.database ≠ .temp) (other : Nat)
      (heldToo : image.directory name = some other) : other ≠ file := by
    rintro rfl
    exact apart image _ isImage (Disk.isImage_current _) name (main .temp) other foreign heldToo held
  refine ⟨fun image isImage => ?_, fun _ _ => rfl, fun name other foreign heldToo => ?_,
    Nat.le_refl _⟩
  · let earlier : Image FileName (Option Nat) :=
      ⟨image.directory, Function.update image.data file (store.disk.data file)⟩
    have wasImage : store.disk.IsImage earlier := by
      refine ⟨isImage.1, fun other synced => ?_⟩
      by_cases same : other = file
      · rw [same]
        exact Function.update_self ..
      · have stillSynced : (written file data store).disk.synced other = true :=
          (Function.update_of_ne same ..).trans synced
        have sameData : image.data other = store.disk.data other :=
          (isImage.2 other stillSynced).trans (Function.update_of_ne same ..)
        exact (Function.update_of_ne same ..).trans sameData
    exact ⟨earlier, wasImage, fun _ _ => rfl, rfl, fun name _ heldToo => .inl ⟨name, rfl, heldToo⟩,
      fun name other foreign heldToo =>
        (Function.update_of_ne (differs earlier wasImage name foreign other heldToo) ..).symm⟩
  · have other_ne := differs _ (Disk.isImage_current _) name foreign other heldToo
    exact ⟨Function.update_of_ne other_ne .., (Function.update_of_ne other_ne ..).trans⟩

theorem touches_writeTemp
    {store : Store (Option Nat)}
    (apart : Apart store)
    (data : Option Nat) : Touches .temp store (writeTemp data store).2 := by
  cases held : store.disk.directory (main .temp) with
  | none =>
      have nothing : (writeTemp data store).2 = store := by simp [writeTemp, held]
      rw [nothing]
      exact touches_self store
  | some file =>
      have writes : (writeTemp data store).2 = written file data store := by
        simp [writeTemp, held]
      rw [writes]
      exact touches_written apart held data

theorem content_writeTemp
    {store : Store (Option Nat)}
    {data : Option Nat}
    (done : (writeTemp data store).1 = .done) :
    numberFile.content (writeTemp data store).2.disk.current .temp = data := by
  cases held : store.disk.directory (main .temp) with
  | none => simp [writeTemp, held] at done
  | some file =>
      have writes : (writeTemp data store).2 = written file data store := by
        simp [writeTemp, held]
      have stillHeld : (written file data store).disk.directory (main .temp) = some file := held
      rw [writes, Sqlite.content]
      dsimp only [Disk.current]
      rw [stillHeld]
      exact Function.update_self ..

/-- Sidecars are not read. -/
theorem content_numberFile_of_strips
    {image : Image FileName (Option Nat)}
    {directory : Directory FileName}
    {database : Database}
    (strips : Strips database image.directory directory) :
    numberFile.content ⟨directory, image.data⟩ database = numberFile.content image database := by
  have atMain : directory (main database) = image.directory (main database) :=
    (strips (main database)).resolve_right fun removed => name_ne_main removed.1 rfl
  simp [Sqlite.content, numberFile, atMain]

theorem numberFile_lawful : numberFile.Lawful where
  absent _ := rfl
  touches := by
    intro kind store after apart left
    cases left with
    | interrupted progress => exact touches_self store
    | performed =>
        cases kind with
        | initSchema => exact touches_writeTemp apart (some 0)
        | copy content => exact touches_writeTemp apart (some content)
        | readHead | inspect | checkpoint database => exact touches_self store
  initializes _ done := content_writeTemp done
  copies done := content_writeTemp done
  inspects _ := rfl
  folds := by
    intro store directory _ strips
    exact @content_numberFile_of_strips store.disk.current directory .temp strips
  keepsHead := by
    intro store after content reads left
    cases left with
    | performed => exact reads
    | interrupted progress => exact reads
  keepsInterrupted _ reads := reads
  keepsRefused reads _ := reads
  settles := by
    intro store content reads _ image isImage directory strips
    exact (content_numberFile_of_strips strips).trans (reads image isImage)
  unreadable _ answered := nomatch answered

/-- One database, with the number 7. -/
def sevenStore : Store (Option Nat) where
  disk :=
    { durable := fun name => if name = main .destination then some 0 else none
      pending := []
      data := fun _ => some 7
      synced := fun _ => true }
  nextFile := 1

theorem sevenStore_ready : Ready numberFile (some 7) sevenStore := by
  have directory (image : Image FileName (Option Nat)) (isImage : sevenStore.disk.IsImage image) :
      image.directory = sevenStore.disk.directory := by
    obtain ⟨⟨ops, sublist, directory⟩, -⟩ := isImage
    rw [List.eq_nil_of_sublist_nil sublist] at directory
    exact directory
  refine ⟨fun image isImage => ?_, fun image isImage => by rw [directory image isImage],
    fun image isImage name file held => ?_, fun image isImage name own => ?_⟩
  · have atMain : image.directory (main .destination) = some 0 := by
      rw [directory image isImage]
      rfl
    have data : image.data 0 = some 7 := isImage.data_of_synced rfl
    simp [Sqlite.content, numberFile, atMain, data]
  · rw [directory image isImage] at held
    change (if name = main .destination then some 0 else none) = some file at held
    split at held
    · cases held
      exact Nat.zero_lt_one
    · cases held
  · rw [directory image isImage]
    change (if name = main .destination then some 0 else none) = none
    rw [if_neg]
    rintro rfl
    cases own

def noPaths : PathTexts := ⟨"db", "db", "tmp", "input"⟩

/-- A restore of the number 9 that nothing hinders. -/
def restoredNine : Except ReplaceError (List Int) × Host (Store (Option Nat)) :=
  ((StorageOp.restore (.snapshot 9)).perform numberFile noPaths (fun _ => .done)
    fun _ => .done).exec ⟨sevenStore, 0, false⟩

theorem restored_nine_is_installed :
    ∃ new, (StorageOp.restore (.snapshot 9)).Installs numberFile new ∧
      [1] = numberFile.versions new ∧ ∀ image, restoredNine.2.state.disk.IsImage image →
        IsNew numberFile 1 new image :=
  (replacement_is_crash_safe numberFile_lawful (fun _ _ fails => by cases fails)
    (.restore (.snapshot 9))
    sevenStore_ready).2 [1] rfl rfl

end Replacement
end Vinctor
