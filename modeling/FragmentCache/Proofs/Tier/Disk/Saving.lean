import FragmentCache.Proofs.Tier.Disk.Site
import FragmentCache.Tier.Disk

/-!
# Saves amid mishaps

A save writes a temporary file and renames it over its path.  Whatever step meets with a
mishap, and whatever is in the way, the files are in the end those from before, with the
whole record at the path or without it.  On the way no file but the temporary one differs
from what it was, until the last step puts the whole record in place.
-/

namespace FragmentCache

open FileTree (SameFiles KeepsDirectories)

namespace SaveJob

variable {job next : SaveJob} {stage : Stage} {mishap : Option Mishap} {number : Nat}
  {before files after : FileTree} {place : FileTree.Place} {content : Bytes}

/-- A step that may fail goes on with what it changed, or cleans up. -/
theorem attempt_cases (job : SaveJob) (stage : Stage) (files : FileTree)
    (changed : Option FileTree) :
    (∃ after, changed = some after ∧ job.attempt stage files changed = (job.goTo stage, after)) ∨
      job.attempt stage files changed = (job.goTo .cleaning, files) := by
  cases changed with
  | none => exact .inr rfl
  | some after => exact .inl ⟨after, rfl, rfl⟩

/-! ## What a save leaves on its way -/

/-- The files are those from before, but for one at the temporary path. -/
def Aside (job : SaveJob) (before files : FileTree) : Prop :=
  ∀ place, files.fileEntry? job.temporary ≠ some place →
    files.contentAt? place = before.contentAt? place

/-- The temporary file holds these bytes. -/
def Holds (job : SaveJob) (files : FileTree) (content : Bytes) : Prop :=
  ∃ place, files.fileEntry? job.temporary = some place ∧ files.contentAt? place = some content

/-- The files are those from before, but for the bytes that are at the path now. -/
def Replaced (job : SaveJob) (before files : FileTree) : Prop :=
  ∃ place, files.fileEntry? job.path = some place ∧
    ∀ other, files.contentAt? other =
      if other = place then some job.bytes else before.contentAt? other

/-- How the files differ from those before the save, when it has come to a stage. -/
def Underway (job : SaveJob) (before files : FileTree) : Stage → Prop
  | .preparing | .creating | .finished false => SameFiles before files
  | .writing | .cleaning => job.Aside before files
  | .syncing | .renaming => job.Aside before files ∧ job.Holds files job.bytes
  | .finished true => job.Replaced before files

theorem aside_of_sameFiles (same : SameFiles before files) : job.Aside before files :=
  fun place _ => same place

/-- A write that succeeds leaves the content at the temporary name. -/
theorem holds_of_write?
    (written : files.write? job.temporary content = some after) :
    job.Holds after content := by
  have keeps := KeepsDirectories.write? written
  obtain ⟨place, found, -, rfl⟩ := FileTree.write?_eq_some_iff.1 written
  refine ⟨place, keeps.fileEntry found, ?_⟩
  rw [FileTree.contentAt?_setNode files (FileTree.ne_root_of_fileEntry found), if_pos rfl]
  rfl

/-- Whatever is written into the temporary file, the other files stay. -/
theorem Aside.write
    (aside : job.Aside before files)
    (written : files.write? job.temporary content = some after) :
    job.Aside before after := by
  have keeps := KeepsDirectories.write? written
  obtain ⟨place, found, -, rfl⟩ := FileTree.write?_eq_some_iff.1 written
  intro other elsewhere
  have differ : other ≠ place := by
    rintro rfl
    exact elsewhere (keeps.fileEntry found)
  rw [FileTree.contentAt?_setNode files (FileTree.ne_root_of_fileEntry found), if_neg differ]
  apply aside
  rw [found]
  exact fun same => differ (Option.some.inj same).symm

/-- Without its temporary file, a save has left the files as they were. -/
theorem Aside.clean
    (aside : job.Aside before files)
    (fresh : before.NoneNamed job.temporary) :
    SameFiles before ((files.removeFile? job.temporary).getD files) := by
  cases removed : files.removeFile? job.temporary with
  | none =>
      intro place
      rw [Option.getD_none]
      by_cases found : files.fileEntry? job.temporary = some place
      · rw [fresh.contentAt?_eq_none found]
        cases present : files.contentAt? place with
        | none => rfl
        | some content =>
            have erased := FileTree.removeFile?_eq_some_iff.2 ⟨place, content, found, present, rfl⟩
            rw [removed] at erased
            cases erased
      · exact aside place found
  | some after =>
      obtain ⟨there, content, found, present, rfl⟩ := FileTree.removeFile?_eq_some_iff.1 removed
      intro place
      rw [Option.getD_some,
        FileTree.contentAt?_eraseNode files (FileTree.ne_root_of_fileEntry found)]
      split
      · next same => rw [same, fresh.contentAt?_eq_none found]
      · next differ =>
          apply aside
          rw [found]
          exact fun same => differ (Option.some.inj same).symm

/-- The temporary file goes to the path, whatever was there. -/
theorem Holds.rename
    (holds : job.Holds files job.bytes)
    (temporary : job.temporary = temporaryPath job.path number)
    (renamed : files.rename? job.temporary job.path = some after) :
    ∃ source target, files.fileEntry? job.temporary = some source ∧ source ≠ target ∧
      after.fileEntry? job.path = some target ∧
      ∀ other, after.contentAt? other =
        if other = source then none
        else if other = target then some job.bytes else files.contentAt? other := by
  obtain ⟨source, found, present⟩ := holds
  obtain ⟨target, targetFound⟩ := FileTree.exists_fileEntry_of_rename? renamed
  have apart : source ≠ target := by
    rw [temporary] at found
    exact DiskTier.place_ne_of_temporaryPath (FileTree.place_of_fileEntry targetFound) found
  obtain ⟨content, moved, vacant, rfl⟩ :=
    (FileTree.rename?_eq_some_iff found targetFound apart).1 renamed
  obtain rfl := Option.some.inj (moved.symm.trans present)
  have inside := FileTree.ne_root_of_fileEntry found
  have targetInside := FileTree.ne_root_of_fileEntry targetFound
  have noDirectory : (files.setNode target (.file job.bytes)).node? source ≠ some .directory := by
    rw [FileTree.node?_setNode files targetInside, if_neg apart,
      FileTree.contentAt?_eq_some_iff.1 present]
    simp
  have keeps := (KeepsDirectories.setNode targetInside vacant (.file job.bytes)).trans
    (.eraseNode inside noDirectory)
  refine ⟨source, target, found, apart, keeps.fileEntry targetFound, fun other => ?_⟩
  rw [FileTree.contentAt?_eraseNode _ inside, FileTree.contentAt?_setNode files targetInside]
  rfl

/-- The temporary file takes the place of no other file, and goes from there. -/
theorem Aside.rename
    (aside : job.Aside before files)
    (holds : job.Holds files job.bytes)
    (fresh : before.NoneNamed job.temporary)
    (temporary : job.temporary = temporaryPath job.path number)
    (renamed : files.rename? job.temporary job.path = some after) :
    job.Replaced before after := by
  obtain ⟨source, target, found, apart, targetFound, content⟩ := holds.rename temporary renamed
  refine ⟨target, targetFound, fun other => ?_⟩
  rw [content]
  by_cases atSource : other = source
  · rw [if_pos atSource, atSource, if_neg apart, fresh.contentAt?_eq_none found]
  · rw [if_neg atSource]
    split
    · rfl
    · apply aside
      rw [found]
      exact fun same => atSource (Option.some.inj same).symm

/-! ## One step -/

/-- The preparation goes on to the temporary file, or the save has failed. -/
theorem prepare_cases (job : SaveJob) (mishap : Option Mishap) (files : FileTree) :
    ∃ after, job.prepare mishap files = (job.goTo .creating, after) ∨
      job.prepare mishap files = (job.goTo (.finished false), after) := by
  unfold prepare
  split
  · exact ⟨files, .inr rfl⟩
  · next directory _ =>
      split
      · refine ⟨(files.makeDirectories directory).1, ?_⟩
        dsimp only
        split
        · exact .inl rfl
        · exact .inr rfl
      · exact ⟨_, .inr rfl⟩

/-- What a step to a stage did, where the bytes at the two paths of a job depend on it. -/
structure StepTo (job : SaveJob) (files : FileTree) (stage : Stage) (after : FileTree) : Prop where
  written : stage = .syncing → files.write? job.temporary job.bytes = some after
  synced : stage = .renaming → job.stage = .syncing ∧ after = files
  renamed : stage = .finished true → job.stage = .finished true ∧ after = files ∨
    job.stage = .renaming ∧ files.rename? job.temporary job.path = some after

/-- Every step of a save is one of those listed. -/
theorem stepTo_of_step (stepped : job.step mishap files = (next, after)) :
    ∃ stage, next = job.goTo stage ∧ job.StepTo files stage after := by
  have failed : ∀ {same : FileTree}, (job.goTo .cleaning, same) = (next, after) →
      ∃ stage, next = job.goTo stage ∧ job.StepTo files stage after := by
    rintro same ⟨⟩
    exact ⟨_, rfl, nofun, nofun, nofun⟩
  unfold step at stepped
  split at stepped
  · obtain ⟨_, same | same⟩ := prepare_cases job mishap files <;> rw [same] at stepped <;>
      cases stepped <;> exact ⟨_, rfl, nofun, nofun, nofun⟩
  · obtain ⟨_, -, same⟩ | same := attempt_cases job .writing files
      (if mishap.isSome then none else files.write? job.temporary []) <;> rw [same] at stepped
    · cases stepped
      exact ⟨_, rfl, nofun, nofun, nofun⟩
    · exact failed stepped
  · unfold writeBytes at stepped
    split at stepped
    · obtain ⟨made, written, same⟩ | same := attempt_cases job .syncing files
        (files.write? job.temporary job.bytes) <;> rw [same] at stepped
      · cases stepped
        exact ⟨_, rfl, fun _ => written, nofun, nofun⟩
      · exact failed stepped
    · next mishap =>
        obtain ⟨_, -, same⟩ | same := attempt_cases job .cleaning files
          (files.write? job.temporary (job.bytes.take mishap.progress)) <;> rw [same] at stepped
        · cases stepped
          exact ⟨_, rfl, nofun, nofun, nofun⟩
        · exact failed stepped
  · next stage =>
      obtain ⟨rfl, rfl⟩ := Prod.mk.inj stepped
      refine ⟨_, rfl, ?_, fun _ => ⟨stage, rfl⟩, ?_⟩ <;> split <;> exact nofun
  · next stage =>
      obtain ⟨made, renamed, same⟩ | same := attempt_cases job (.finished true) files
        (if mishap.isSome then none else files.rename? job.temporary job.path) <;>
        rw [same] at stepped
      · cases stepped
        split at renamed
        · cases renamed
        · exact ⟨_, rfl, nofun, nofun, fun _ => .inr ⟨stage, renamed⟩⟩
      · exact failed stepped
  · cases stepped
    exact ⟨_, rfl, nofun, nofun, nofun⟩
  · next stored stage =>
      cases stepped
      exact ⟨job.stage, rfl, by simp [stage], by simp [stage], fun same => .inl ⟨same, rfl⟩⟩

/-- Number of steps that are left at most. -/
def Stage.stepsLeft : Stage → Nat
  | .preparing => 6
  | .creating => 5
  | .writing => 4
  | .syncing => 3
  | .renaming => 2
  | .cleaning => 1
  | .finished _ => 0

/-- Directories that are made on the way are no files. -/
theorem underway_prepare
    (same : SameFiles before files)
    (mishap : Option Mishap) :
    ∃ stage, (job.prepare mishap files).1 = job.goTo stage ∧ stage.stepsLeft ≤ 5 ∧
      job.Underway before (job.prepare mishap files).2 stage := by
  unfold prepare
  split
  · exact ⟨.finished false, rfl, Nat.zero_le _, same⟩
  · next directory _ =>
      split
      · have made := same.trans (files.sameFiles_makeDirectories directory)
        generalize files.makeDirectories directory = outcome at made
        obtain ⟨ready, complete⟩ := outcome
        cases complete with
        | true => exact ⟨.creating, rfl, Nat.le_refl _, made⟩
        | false => exact ⟨.finished false, rfl, Nat.zero_le _, made⟩
      · next mishap =>
          refine ⟨.finished false, rfl, Nat.zero_le _, ?_⟩
          change SameFiles before (Option.getD (Option.map _ _) files)
          cases ((FilePath.parents job.path).reverse.take mishap.progress).getLast? with
          | none => exact same
          | some last => exact same.trans (files.sameFiles_makeDirectories last)

/-- An attempt leads on if it changes the files, and to the cleanup if it fails. -/
theorem underway_attempt
    {next : Stage}
    {changed : Option FileTree}
    {left : Nat}
    (aside : job.Aside before files)
    (done : ∀ after, changed = some after → job.Underway before after next)
    (nearer : next.stepsLeft ≤ left)
    (unfinished : 1 ≤ left) :
    ∃ stage, (job.attempt next files changed).1 = job.goTo stage ∧ stage.stepsLeft ≤ left ∧
      job.Underway before (job.attempt next files changed).2 stage := by
  cases changed with
  | none => exact ⟨.cleaning, rfl, unfinished, aside⟩
  | some after => exact ⟨next, rfl, nearer, done after rfl⟩

/-- The bytes are written aside, all of them unless there is a mishap. -/
theorem underway_writeBytes
    (aside : job.Aside before files)
    (mishap : Option Mishap) :
    ∃ stage, (job.writeBytes mishap files).1 = job.goTo stage ∧ stage.stepsLeft ≤ 3 ∧
      job.Underway before (job.writeBytes mishap files).2 stage := by
  cases mishap with
  | none =>
      refine underway_attempt aside (fun after written => ?_) (Nat.le_refl _) (by decide)
      exact ⟨aside.write written, holds_of_write? written⟩
  | some mishap =>
      exact underway_attempt aside (fun after written => aside.write written) (by decide)
        (by decide)

/-- A step brings a save on its way nearer to its end. -/
theorem underway_step
    (fresh : before.NoneNamed job.temporary)
    (temporary : job.temporary = temporaryPath job.path number)
    (underway : job.Underway before files job.stage)
    (mishap : Option Mishap) :
    ∃ stage, (job.step mishap files).1 = job.goTo stage ∧
      stage.stepsLeft ≤ job.stage.stepsLeft - 1 ∧
      job.Underway before (job.step mishap files).2 stage := by
  cases stage : job.stage with
  | preparing =>
      rw [stage] at underway
      rw [step, stage]
      exact underway_prepare underway mishap
  | creating =>
      rw [stage] at underway
      have aside : job.Aside before files := aside_of_sameFiles underway
      rw [step, stage]
      refine underway_attempt aside (fun after changed => ?_) (Nat.le_refl _) (by decide)
      split at changed
      · cases changed
      · exact aside.write changed
  | writing =>
      rw [stage] at underway
      rw [step, stage]
      exact underway_writeBytes underway mishap
  | syncing =>
      rw [stage] at underway
      rw [step, stage]
      cases mishap with
      | none => exact ⟨.renaming, rfl, Nat.le_refl _, underway⟩
      | some mishap => exact ⟨.cleaning, rfl, by decide, underway.1⟩
  | «renaming» =>
      rw [stage] at underway
      obtain ⟨aside, holds⟩ := underway
      rw [step, stage]
      refine underway_attempt aside (fun after changed => ?_) (by decide) (Nat.le_refl _)
      split at changed
      · cases changed
      · exact aside.rename holds fresh temporary changed
  | cleaning =>
      rw [stage] at underway
      rw [step, stage]
      exact ⟨.finished false, rfl, Nat.le_refl _, Aside.clean underway fresh⟩
  | finished stored =>
      rw [step_of_finished stage]
      exact ⟨.finished stored, by rw [← stage]; rfl, Nat.zero_le _, stage ▸ underway⟩

/-! ## All steps -/

/-- Any number of steps keeps a save underway and uses up as many of those left. -/
theorem underway_steps
    (fresh : before.NoneNamed job.temporary)
    (temporary : job.temporary = temporaryPath job.path number)
    (underway : job.Underway before files job.stage)
    (mishaps : Mishaps)
    (count : Nat) :
    ∃ stage, (job.steps mishaps files count).1 = job.goTo stage ∧
      stage.stepsLeft ≤ job.stage.stepsLeft - count ∧
      job.Underway before (job.steps mishaps files count).2 stage := by
  induction count generalizing job files with
  | zero => exact ⟨job.stage, rfl, Nat.le_refl _, underway⟩
  | succ count inductionHypothesis =>
      obtain ⟨stage, stepped, nearer, next⟩ :=
        underway_step fresh temporary underway (mishaps job.stage)
      rw [steps]
      generalize job.step (mishaps job.stage) files = outcome at stepped next
      obtain ⟨_, after⟩ := outcome
      obtain rfl := stepped
      obtain ⟨last, ended, nearest, final⟩ :=
        @inductionHypothesis (job.goTo stage) after fresh temporary next
      refine ⟨last, ended, ?_, final⟩
      rw [stage_goTo] at nearest
      omega

/-- On the way there is at the path what was there before, or all of the bytes. -/
theorem Underway.content_at_path
    (underway : job.Underway before files stage)
    (temporary : job.temporary = temporaryPath job.path number)
    (reached : files.place job.path = .ok place) :
    files.contentAt? place = before.contentAt? place ∨
      files.contentAt? place = some job.bytes := by
  have aside : job.Aside before files → files.contentAt? place = before.contentAt? place := by
    intro aside
    apply aside
    intro found
    rw [temporary] at found
    exact DiskTier.place_ne_of_temporaryPath reached found rfl
  cases stage with
  | preparing => exact .inl (underway place)
  | creating => exact .inl (underway place)
  | writing => exact .inl (aside underway)
  | syncing => exact .inl (aside underway.1)
  | «renaming» => exact .inl (aside underway.1)
  | cleaning => exact .inl (aside underway)
  | finished stored =>
      cases stored with
      | false => exact .inl (underway place)
      | true =>
          obtain ⟨target, found, content⟩ := underway
          rw [FileTree.place_of_fileEntry found] at reached
          cases reached
          exact .inr ((content place).trans (if_pos rfl))

/-- A path does not end in the name of its temporary file. -/
theorem Replaced.noneNamed
    (replaced : job.Replaced before files)
    (fresh : before.NoneNamed job.temporary)
    (temporary : job.temporary = temporaryPath job.path number) :
    files.NoneNamed job.temporary := by
  obtain ⟨target, found, content⟩ := replaced
  intro place named
  rw [content, if_neg, fresh place named]
  rintro rfl
  rw [FileTree.getLast?_of_fileEntry found, temporary, DiskTier.temporaryPath_eq,
    FilePath.getLast?_segments_append (DiskTier.isPlain_mark number).noSlash] at named
  cases last : (FilePath.segments job.path).getLast? with
  | none => exact FilePath.segments_ne_nil _ (List.getLast?_eq_none_iff.1 last)
  | some name =>
      rw [last] at named
      have characters := congrArg String.toList (Option.some.inj named)
      simp [DiskTier.mark_ne_empty] at characters

/-- In the end all of the bytes are at the path, or the files are as they were. -/
theorem run_all_or_nothing
    (fresh : files.NoneNamed job.temporary)
    (temporary : job.temporary = temporaryPath job.path number)
    (begins : job.stage = .preparing)
    (mishaps : Mishaps) :
    ∃ after stored, job.run mishaps files = (after, stored) ∧
      if stored then job.Replaced files after else SameFiles files after := by
  have start : job.Underway files files job.stage := by
    rw [begins]
    exact fun _ => rfl
  obtain ⟨stage, ended, left, final⟩ :=
    underway_steps fresh temporary start mishaps longestRun
  rw [run]
  generalize job.steps mishaps files longestRun = outcome at ended final
  obtain ⟨last, after⟩ := outcome
  obtain rfl := ended
  rw [begins] at left
  cases stage with
  | finished stored =>
      refine ⟨after, stored, ?_, ?_⟩
      · cases stored <;> rfl
      · cases stored <;> exact final
  | preparing | creating | writing | syncing | «renaming» | cleaning =>
      exact absurd left (by decide)

/-! ## Saves beside a file of the temporary name -/

/-- All of the bytes are at the path. -/
def Stored (job : SaveJob) (files : FileTree) : Prop :=
  ∃ place, files.fileEntry? job.path = some place ∧ files.contentAt? place = some job.bytes

/-- Where the bytes are at a stage, whatever had the temporary name before the save. -/
def Carried (job : SaveJob) (files : FileTree) : Stage → Prop
  | .syncing | .renaming => job.Holds files job.bytes
  | .finished true => job.Stored files
  | .preparing | .creating | .writing | .cleaning | .finished false => True

theorem carried_step
    (temporary : job.temporary = temporaryPath job.path number)
    (carried : job.Carried files job.stage)
    (stepped : job.step mishap files = (next, after)) :
    ∃ stage, next = job.goTo stage ∧ job.Carried after stage := by
  obtain ⟨stage, rfl, stepTo⟩ := stepTo_of_step stepped
  refine ⟨stage, rfl, ?_⟩
  cases stage with
  | preparing | creating | writing | cleaning => trivial
  | syncing => exact holds_of_write? (stepTo.written rfl)
  | «renaming» =>
      obtain ⟨syncing, rfl⟩ := stepTo.synced rfl
      rw [syncing] at carried
      exact carried
  | finished stored =>
      cases stored with
      | false => trivial
      | true =>
          obtain ⟨before, rfl⟩ | ⟨before, renamed⟩ := stepTo.renamed rfl
          · rw [before] at carried
            exact carried
          · rw [before] at carried
            have holds : job.Holds files job.bytes := carried
            obtain ⟨source, target, -, apart, found, content⟩ := holds.rename temporary renamed
            refine ⟨target, found, ?_⟩
            rw [content, if_neg apart.symm, if_pos rfl]

/-- Any number of steps carries the bytes of a save on. -/
theorem carried_steps
    (temporary : job.temporary = temporaryPath job.path number)
    (carried : job.Carried files job.stage)
    (mishaps : Mishaps)
    (count : Nat) :
    ∃ stage, (job.steps mishaps files count).1 = job.goTo stage ∧
      job.Carried (job.steps mishaps files count).2 stage := by
  induction count generalizing job files with
  | zero => exact ⟨job.stage, rfl, carried⟩
  | succ count inductionHypothesis =>
      obtain ⟨next, after, stepped⟩ : ∃ next after,
          job.step (mishaps job.stage) files = (next, after) :=
        ⟨_, _, rfl⟩
      obtain ⟨stage, rfl, kept⟩ := carried_step temporary carried stepped
      rw [steps, stepped]
      exact @inductionHypothesis (job.goTo stage) after temporary kept

/-- A save that ends well has its bytes at the path. -/
theorem stored_of_run
    (temporary : job.temporary = temporaryPath job.path number)
    (begins : job.stage = .preparing)
    {mishaps : Mishaps}
    (ran : job.run mishaps files = (after, true)) :
    job.Stored after := by
  have start : job.Carried files job.stage := by
    rw [begins]
    trivial
  obtain ⟨stage, ended, final⟩ := carried_steps temporary start mishaps longestRun
  rw [run] at ran
  generalize job.steps mishaps files longestRun = outcome at ran ended final
  obtain ⟨last, left⟩ := outcome
  obtain rfl := ended
  obtain ⟨rfl, complete⟩ := Prod.mk.inj ran
  obtain rfl : stage = .finished true := eq_of_beq complete
  exact final

end SaveJob

namespace DiskTier

/-- A save amid mishaps stores its record or nothing.  When it fails, every file is as it
was; when it succeeds, only the file at the path of the key differs, and holds the whole
record.  The temporary file is gone in both cases.  Whoever looks at the path between two
steps finds what was there before, or the whole record. -/
theorem saveAmid_all_or_nothing
    (mishaps : SaveJob.Mishaps)
    (tier : DiskTier)
    (key : Key)
    (cached : Cached)
    (now : Timestamp)
    (number : Nat)
    (files : FileTree)
    (fresh : files.NoneNamed (SaveJob.temporaryPath (tier.pathFor key) number)) :
    ∃ saved after stored,
      tier.saveAmid mishaps key cached now number files = (saved, after, stored) ∧
      (stored = false → SameFiles files after ∧ saved = tier) ∧
      (stored = true →
        saved = { tier with writes := tier.writes + 1 } ∧
        ∃ place, after.place (tier.pathFor key) = .ok place ∧
          ∀ other, after.contentAt? other =
            if other = place then some (recordBytes key cached now)
            else files.contentAt? other) ∧
      after.NoneNamed (SaveJob.temporaryPath (tier.pathFor key) number) ∧
      ∀ count place,
        let job := SaveJob.new (tier.pathFor key) number (recordBytes key cached now)
        let midway := (job.steps mishaps files count).2
        midway.place (tier.pathFor key) = .ok place →
          midway.contentAt? place = files.contentAt? place ∨
            midway.contentAt? place = some (recordBytes key cached now) := by
  let job := SaveJob.new (tier.pathFor key) number (recordBytes key cached now)
  have jobFresh : files.NoneNamed job.temporary := fresh
  have temporary : job.temporary = SaveJob.temporaryPath job.path number := rfl
  have begins : job.stage = .preparing := rfl
  obtain ⟨after, stored, ran, final⟩ :=
    SaveJob.run_all_or_nothing jobFresh temporary begins mishaps
  have midway : ∀ count place,
      (job.steps mishaps files count).2.place (tier.pathFor key) = .ok place →
        (job.steps mishaps files count).2.contentAt? place = files.contentAt? place ∨
          (job.steps mishaps files count).2.contentAt? place =
            some (recordBytes key cached now) := by
    intro count place reached
    have start : job.Underway files files job.stage := fun _ => rfl
    obtain ⟨stage, -, -, underway⟩ :=
      SaveJob.underway_steps jobFresh temporary start mishaps count
    exact underway.content_at_path temporary reached
  refine ⟨{ tier with writes := tier.writes + if stored then 1 else 0 }, after, stored, ?_, ?_, ?_,
    ?_, midway⟩
  · rw [saveAmid, ran]
  · rintro rfl
    exact ⟨final, rfl⟩
  · rintro rfl
    obtain ⟨place, found, content⟩ := final
    exact ⟨rfl, place, FileTree.place_of_fileEntry found, content⟩
  · cases stored with
    | false => exact fun place named => (final place).trans (fresh place named)
    | true => exact final.noneNamed jobFresh temporary

def plainTier : DiskTier := { settings := { root := "cache" } }

def plainKey : Key := { text := "page", storageId := "70/616765" }

/-- The files after a first save. -/
def firstFiles : FileTree :=
  (plainTier.saveAt plainKey ⟨{ expireTime := 200 }, ⟨"<earlier/>", by decide⟩⟩ 100 0 .empty).2.1

def secondLeaf : Cached := ⟨{ expireTime := 400 }, ⟨"<second/>", by decide⟩⟩

/-- The write breaks off after some bytes. -/
def tornWrite : SaveJob.Mishaps
  | .writing => some { progress := 30 }
  | _ => none

/-- A second save leaves the first record when its write breaks off, and replaces it
otherwise. -/
theorem saveAmid_all_or_nothing_torn :
    firstFiles.NoneNamed (SaveJob.temporaryPath (plainTier.pathFor plainKey) 1) ∧
    (∃ after, plainTier.saveAmid tornWrite plainKey secondLeaf 150 1 firstFiles =
        (plainTier, after, false) ∧ SameFiles firstFiles after) ∧
    ∃ after place, plainTier.saveAmid SaveJob.noMishaps plainKey secondLeaf 150 1 firstFiles =
        ({ plainTier with writes := 1 }, after, true) ∧
      after.place (plainTier.pathFor plainKey) = .ok place ∧
      after.contentAt? place = some (recordBytes plainKey secondLeaf 150) := by
  have fresh : firstFiles.NoneNamed
      (SaveJob.temporaryPath (plainTier.pathFor plainKey) 1) :=
    FileTree.noneNamed_of_keys (by decide +kernel)
  refine ⟨fresh, ?_, ?_⟩
  · obtain ⟨saved, after, stored, ran, failed, -⟩ :=
      saveAmid_all_or_nothing tornWrite plainTier plainKey secondLeaf 150 1 firstFiles fresh
    have torn : (plainTier.saveAmid tornWrite plainKey secondLeaf 150 1 firstFiles).2.2 =
        false := by decide +kernel
    rw [ran] at torn
    obtain rfl : stored = false := torn
    obtain ⟨same, rfl⟩ := failed rfl
    exact ⟨after, ran, same⟩
  · obtain ⟨saved, after, stored, ran, -, done, -⟩ := saveAmid_all_or_nothing
      SaveJob.noMishaps plainTier plainKey secondLeaf 150 1 firstFiles fresh
    have complete : (plainTier.saveAmid SaveJob.noMishaps plainKey secondLeaf 150 1
        firstFiles).2.2 = true := by decide +kernel
    rw [ran] at complete
    obtain rfl : stored = true := complete
    obtain ⟨rfl, place, found, content⟩ := done rfl
    exact ⟨after, place, ran, found, (content place).trans (if_pos rfl)⟩

end DiskTier
end FragmentCache
