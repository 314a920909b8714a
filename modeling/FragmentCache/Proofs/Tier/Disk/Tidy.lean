import FragmentCache.Proofs.Tier.Disk.Site
import FragmentCache.Tier.Disk

/-!
# Saves and loads below a tidy root

A save below a tidy root succeeds and replaces what is at one place; a load acts on
one place at most.  The root stays tidy, and the files of other digests stay as they
are.
-/

namespace FragmentCache

/-! ## Saving in steps -/

namespace SaveJob

open FileTree

variable {files ready : FileTree} {job : SaveJob} {place temporaryPlace : Place}

theorem steps_of_step
    {mishaps : Mishaps}
    {next : SaveJob}
    (taken : job.step (mishaps job.stage) files = (next, ready))
    (count : Nat) :
    job.steps mishaps files (count + 1) = next.steps mishaps ready count := by
  rw [steps, taken]

theorem step_preparing
    {directory : String}
    (stage : job.stage = .preparing)
    (parent : FilePath.parent? job.path = some directory)
    (made : files.makeDirectories directory = (ready, true)) :
    job.step none files = (job.goTo .creating, ready) := by
  simp only [step, stage, prepare, parent, made]
  rfl

theorem step_creating
    (stage : job.stage = .creating)
    (found : files.fileEntry? job.temporary = some temporaryPlace)
    (vacant : files.node? temporaryPlace ≠ some .directory) :
    job.step none files = (job.goTo .writing, files.setNode temporaryPlace (.file [])) := by
  have written : files.write? job.temporary [] = some (files.setNode temporaryPlace (.file [])) :=
    write?_eq_some_iff.2 ⟨_, found, vacant, rfl⟩
  simp only [step, stage, attempt, Option.isSome_none, Bool.false_eq_true, if_false, written]

theorem step_writing
    (stage : job.stage = .writing)
    (found : files.fileEntry? job.temporary = some temporaryPlace)
    (vacant : files.node? temporaryPlace ≠ some .directory) :
    job.step none files =
      (job.goTo .syncing, files.setNode temporaryPlace (.file job.bytes)) := by
  have written : files.write? job.temporary job.bytes =
      some (files.setNode temporaryPlace (.file job.bytes)) :=
    write?_eq_some_iff.2 ⟨_, found, vacant, rfl⟩
  simp only [step, stage, writeBytes, attempt, written]

theorem step_syncing (stage : job.stage = .syncing) :
    job.step none files = (job.goTo .renaming, files) := by
  simp only [step, stage]
  rfl

/-- The last step puts the bytes in place and takes the temporary file away. -/
theorem step_renaming
    (stage : job.stage = .renaming)
    (temporaryFound : files.fileEntry? job.temporary = some temporaryPlace)
    (found : files.fileEntry? job.path = some place)
    (differ : temporaryPlace ≠ place)
    (present : files.contentAt? temporaryPlace = some job.bytes)
    (vacant : files.node? place ≠ some .directory) :
    job.step none files = (job.goTo (.finished true),
      (files.setNode place (.file job.bytes)).eraseNode temporaryPlace) := by
  have renamed := (rename?_eq_some_iff temporaryFound found differ).2 ⟨_, present, vacant, rfl⟩
  simp only [step, stage, attempt, Option.isSome_none, Bool.false_eq_true, if_false, renamed]

/-- A save without mishaps stores the bytes once the directory is made. -/
theorem run_noMishaps
    {directory : String}
    (stage : job.stage = .preparing)
    (parent : FilePath.parent? job.path = some directory)
    (made : files.makeDirectories directory = (ready, true))
    (found : ready.fileEntry? job.path = some place)
    (temporaryFound : ready.fileEntry? job.temporary = some temporaryPlace)
    (differ : temporaryPlace ≠ place)
    (vacant : ready.node? place ≠ some .directory)
    (temporaryVacant : ready.node? temporaryPlace ≠ some .directory) :
    job.run noMishaps files =
      ((((ready.setNode temporaryPlace (.file [])).setNode temporaryPlace
        (.file job.bytes)).setNode place (.file job.bytes)).eraseNode temporaryPlace, true) := by
  let created := ready.setNode temporaryPlace (.file [])
  let written := created.setNode temporaryPlace (.file job.bytes)
  have inside := ne_root_of_fileEntry temporaryFound
  have keepsCreated : KeepsDirectories ready created := .setNode inside temporaryVacant _
  have createdVacant : created.node? temporaryPlace ≠ some .directory := by
    rw [node?_setNode ready inside, if_pos rfl]
    simp
  have keeps : KeepsDirectories ready written :=
    keepsCreated.trans (.setNode inside createdVacant _)
  have present : written.contentAt? temporaryPlace = some job.bytes := by
    rw [contentAt?_setNode created inside, if_pos rfl]
    rfl
  have writtenVacant : written.node? place ≠ some .directory := by
    rw [node?_setNode created inside, if_neg differ.symm, node?_setNode ready inside,
      if_neg differ.symm]
    exact vacant
  have steps : job.steps noMishaps files longestRun = (job.goTo (.finished true),
      (written.setNode place (.file job.bytes)).eraseNode temporaryPlace) := by
    have creates : (job.goTo .creating).step none ready = (job.goTo .writing, created) :=
      step_creating rfl temporaryFound temporaryVacant
    have writes : (job.goTo .writing).step none created = (job.goTo .syncing, written) :=
      step_writing rfl (keepsCreated.fileEntry temporaryFound) createdVacant
    have syncs : (job.goTo .syncing).step none written = (job.goTo .renaming, written) :=
      step_syncing rfl
    have renames : (job.goTo .renaming).step none written = (job.goTo (.finished true),
        (written.setNode place (.file job.bytes)).eraseNode temporaryPlace) :=
      step_renaming rfl (keeps.fileEntry temporaryFound) (keeps.fileEntry found) differ present
        writtenVacant
    rw [longestRun, steps_of_step (step_preparing stage parent made), steps_of_step creates,
      steps_of_step writes, steps_of_step syncs, steps_of_step renames,
      steps_of_step (step_of_finished rfl _ _), steps_zero]
  rw [run, steps]
  rfl

end SaveJob

namespace DiskTier
namespace Site

open FileTree (Place Node KeepsDirectories Confined)

variable {site : Site} {files : FileTree} {text name : String}

theorem home_prefix_shardPlace (site : Site) (text : String) :
    site.home <+: site.shardPlace text :=
  List.prefix_append _ _

/-- Two texts have one place exactly if they have one digest. -/
theorem place_eq_iff {other : String} :
    site.place other = site.place text ↔ site.digest other = site.digest text := by
  constructor
  · exact place_inj
  · intro same
    rw [place, place, shardPlace, shardPlace, same]

/-! ## Tidy changes -/

/-- Making the directory of a shard keeps a site tidy. -/
theorem Tidy.makeShard
    (tidy : site.Tidy files)
    (missing : files.node? (site.shardPlace text) = none) :
    site.Tidy (files.setNode (site.shardPlace text) .directory) where
  toSettled := tidy.toSettled.of_keepsDirectories
    (KeepsDirectories.setNode (by simp [shardPlace]) (by simp [missing]) _)
  shards other content := by
    rw [FileTree.node?_setNode _ (by simp [shardPlace])]
    split
    · simp
    · exact tidy.shards other content
  records other name := by
    rw [FileTree.node?_setNode _ (by simp [shardPlace]),
      if_neg (site.shardPlace_ne other text name).symm]
    exact tidy.records other name
  missing other name nothing := by
    rw [FileTree.node?_setNode _ (by simp [shardPlace])] at nothing ⊢
    rw [if_neg (site.shardPlace_ne other text name).symm]
    split at nothing
    · cases nothing
    · exact tidy.missing other name nothing

/-- Putting a file into a shard keeps a site tidy. -/
theorem Tidy.putFile
    (tidy : site.Tidy files)
    (directory : files.node? (site.shardPlace text) = some .directory)
    (name : String)
    (content : Bytes) :
    site.Tidy (files.setNode (site.shardPlace text ++ [name]) (.file content)) where
  toSettled := tidy.toSettled.of_keepsDirectories
    (KeepsDirectories.setNode (by simp) (tidy.records text name) _)
  shards other content := by
    rw [FileTree.node?_setNode _ (by simp), if_neg (site.shardPlace_ne text other name)]
    exact tidy.shards other content
  records other otherName := by
    rw [FileTree.node?_setNode _ (by simp)]
    split
    · simp
    · exact tidy.records other otherName
  missing other otherName nothing := by
    rw [FileTree.node?_setNode _ (by simp), if_neg (site.shardPlace_ne text other name)] at nothing
    rw [FileTree.node?_setNode _ (by simp), if_neg]
    · exact tidy.missing other otherName nothing
    · intro same
      rw [(List.append_inj' same rfl).1, directory] at nothing
      cases nothing

/-- Erasing a file of a shard keeps a site tidy. -/
theorem Tidy.eraseFile
    (tidy : site.Tidy files)
    (text name : String) :
    site.Tidy (files.eraseNode (site.shardPlace text ++ [name])) where
  toSettled := tidy.toSettled.of_keepsDirectories
    (KeepsDirectories.eraseNode (by simp) (tidy.records text name))
  shards other content := by
    rw [FileTree.node?_eraseNode _ (by simp), if_neg (site.shardPlace_ne text other name)]
    exact tidy.shards other content
  records other otherName := by
    rw [FileTree.node?_eraseNode _ (by simp)]
    split
    · simp
    · exact tidy.records other otherName
  missing other otherName nothing := by
    rw [FileTree.node?_eraseNode _ (by simp), if_neg (site.shardPlace_ne text other name)] at nothing
    rw [FileTree.node?_eraseNode _ (by simp)]
    split
    · rfl
    · exact tidy.missing other otherName nothing

/-- What happens below a directory that lies apart leaves a root tidy. -/
theorem Tidy.of_confined
    (tidy : site.Tidy files)
    {home : Place}
    {after : FileTree}
    (confined : Confined home files after)
    (notBelow : ¬home <+: site.home)
    (notAbove : ¬site.home <+: home) :
    site.Tidy after where
  toSettled := tidy.toSettled.of_keepsDirectories confined.toKeepsDirectories
  shards text content := by
    rw [shardPlace, confined.node?_append notBelow notAbove]
    exact tidy.shards text content
  records text name := by
    rw [shardPlace, List.append_assoc, confined.node?_append notBelow notAbove,
      ← List.append_assoc]
    exact tidy.records text name
  missing text name nothing := by
    rw [shardPlace, confined.node?_append notBelow notAbove] at nothing
    rw [shardPlace, List.append_assoc, confined.node?_append notBelow notAbove,
      ← List.append_assoc]
    exact tidy.missing text name nothing

/-! ## Saving -/

/-- A save makes the directory of its key text when that is missing. -/
theorem Tidy.makeDirectories_shardPath
    (tidy : site.Tidy files)
    (text : String) :
    ∃ ready, files.makeDirectories (site.shardPath text) = (ready, true) ∧ site.Tidy ready ∧
      Confined site.home files ready ∧ ready.node? (site.shardPlace text) = some .directory ∧
        ∀ other, ready.contentAt? (site.place other) = files.contentAt? (site.place other) := by
  have reached := tidy.toSettled.place_shardPath text
  obtain missing | directory := tidy.shard_cases text
  · have entered := (site.endsIn_shardPath text).entry_eq_ok_iff.2 reached
    have vacant : files.node? (site.shardPlace text) ≠ some .directory := by simp [missing]
    have made : Confined site.home files (files.setNode (site.shardPlace text) .directory) :=
      .setNode (List.prefix_refl _) vacant _
    refine ⟨_, FileTree.makeDirectories_of_missing entered missing, tidy.makeShard missing, made,
      ?_, ?_⟩
    · rw [FileTree.node?_setNode _ (by simp [shardPlace]), if_pos rfl]
    · intro other
      rw [FileTree.contentAt?_setNode _ (by simp [shardPlace]), if_neg]
      exact (site.shardPlace_ne other text _).symm
  · exact ⟨files, FileTree.makeDirectories_of_directory reached directory, tidy, .refl _ _,
      directory, fun _ => rfl⟩

/-- The files of a site after the content for a key text became another one, or went. -/
structure Turned (site : Site) (files : FileTree) (text : String) (content : Option Bytes)
    (after : FileTree) : Prop where
  tidy : site.Tidy after
  confined : Confined site.home files after
  content : ∀ other, after.contentAt? (site.place other) =
    if site.digest other = site.digest text then content else files.contentAt? (site.place other)

/-- A save stores its bytes for its key text, and leaves the files of other digests. -/
theorem Tidy.save
    (tidy : site.Tidy files)
    (text : String)
    (number : Nat)
    (bytes : Bytes) :
    ∃ after, (SaveJob.new (site.path text) number bytes).run SaveJob.noMishaps files =
        (after, true) ∧ site.Turned files text (some bytes) after := by
  obtain ⟨ready, made, readyTidy, prepared, directory, same⟩ := tidy.makeDirectories_shardPath text
  let job := SaveJob.new (site.path text) number bytes
  have stage : job.stage = .preparing := rfl
  have saved := SaveJob.run_noMishaps stage (site.parent?_path text) made
    (readyTidy.toSettled.fileEntry?_path directory)
    (readyTidy.toSettled.fileEntry?_temporary directory number)
    (site.place_ne_temporaryPlace text number text).symm (readyTidy.records text _)
    (readyTidy.records text _)
  have inside : site.temporaryPlace text number ≠ [] := by simp [temporaryPlace]
  have below := site.home_prefix_shardPlace text
  let temporary := leaf (site.digest text) ++ mark number
  have created := readyTidy.putFile directory temporary []
  have creates := Confined.setNode below (readyTidy.records text temporary) (.file [])
  have createdDirectory := creates.directory _ directory
  have written := created.putFile createdDirectory temporary bytes
  have writes := Confined.setNode below (created.records text temporary) (.file bytes)
  have writtenDirectory := writes.directory _ createdDirectory
  have renamed := written.putFile writtenDirectory (leaf (site.digest text)) bytes
  have renames := Confined.setNode below (written.records text (leaf (site.digest text)))
    (.file bytes)
  have erases := Confined.eraseNode below (renamed.records text temporary)
  have confined := prepared.trans (creates.trans (writes.trans (renames.trans erases)))
  refine ⟨_, saved, renamed.eraseFile text _, confined, fun other => ?_⟩
  rw [FileTree.contentAt?_eraseNode _ inside,
    if_neg (site.place_ne_temporaryPlace other number text),
    FileTree.contentAt?_setNode _ (by simp [place])]
  simp only [place_eq_iff]
  split
  · rfl
  · rw [FileTree.contentAt?_setNode _ inside,
      if_neg (site.place_ne_temporaryPlace other number text),
      FileTree.contentAt?_setNode _ inside,
      if_neg (site.place_ne_temporaryPlace other number text), same]

/-! ## Acting on a verdict -/

/-- Where a text has a content, its shard is a directory. -/
theorem Tidy.directory_of_content
    (tidy : site.Tidy files)
    {content : Bytes}
    (present : files.contentAt? (site.place text) = some content) :
    files.node? (site.shardPlace text) = some .directory := by
  obtain missing | directory := tidy.shard_cases text
  · rw [FileTree.contentAt?, place, tidy.missing text _ missing] at present
    cases present
  · exact directory

/-- A file that is there can be reached by its path. -/
theorem Tidy.fileEntry?_path_iff
    (tidy : site.Tidy files)
    {there : Place}
    {content : Bytes} :
    files.fileEntry? (site.path text) = some there ∧ files.contentAt? there = some content ↔
      site.place text = there ∧ files.contentAt? (site.place text) = some content := by
  constructor
  · rintro ⟨found, present⟩
    have reached := FileTree.place_of_fileEntry found
    obtain ⟨rfl, -⟩ := (tidy.toSettled.place_below (start_path site files text)
      (site.endsIn_path text)).1 reached
    exact ⟨rfl, present⟩
  · rintro ⟨rfl, present⟩
    exact ⟨tidy.toSettled.fileEntry?_path (tidy.directory_of_content present), present⟩

/-- Removing the file of a text clears its place, if there is one. -/
theorem Tidy.removeFile?_path (tidy : site.Tidy files) (text : String) :
    files.removeFile? (site.path text) =
      (files.contentAt? (site.place text)).map fun _ => files.eraseNode (site.place text) := by
  apply Option.ext
  intro after
  rw [FileTree.removeFile?_eq_some_iff, Option.map_eq_some_iff]
  constructor
  · rintro ⟨there, content, found, present, rfl⟩
    obtain ⟨rfl, present⟩ := tidy.fileEntry?_path_iff.1 ⟨found, present⟩
    exact ⟨content, present, rfl⟩
  · rintro ⟨content, present, rfl⟩
    obtain ⟨found, present⟩ := tidy.fileEntry?_path_iff.2 ⟨rfl, present⟩
    exact ⟨_, content, found, present, rfl⟩

/-- Overwriting the file of a text changes the content at its place, if there is one. -/
theorem Tidy.overwrite?_path
    (tidy : site.Tidy files)
    (text : String)
    (offset : Nat)
    (bytes : Bytes) :
    files.overwrite? (site.path text) offset bytes =
      (files.contentAt? (site.place text)).map fun content =>
        files.setNode (site.place text) (.file (FileTree.overwrittenAt offset bytes content)) := by
  apply Option.ext
  intro after
  rw [FileTree.overwrite?_eq_some_iff, Option.map_eq_some_iff]
  constructor
  · rintro ⟨there, content, found, present, rfl⟩
    obtain ⟨rfl, present⟩ := tidy.fileEntry?_path_iff.1 ⟨found, present⟩
    exact ⟨content, present, rfl⟩
  · rintro ⟨content, present, rfl⟩
    obtain ⟨found, present⟩ := tidy.fileEntry?_path_iff.2 ⟨rfl, present⟩
    exact ⟨_, content, found, present, rfl⟩

theorem Tidy.unturned
    (tidy : site.Tidy files)
    (text : String) :
    site.Turned files text (files.contentAt? (site.place text)) files where
  tidy := tidy
  confined := .refl _ _
  content other := by
    split
    · next same => rw [place_eq_iff.2 same]
    · rfl

theorem Tidy.removed
    (tidy : site.Tidy files)
    (text : String) :
    site.Turned files text none ((files.removeFile? (site.path text)).getD files) := by
  rw [tidy.removeFile?_path]
  cases present : files.contentAt? (site.place text) with
  | none =>
      have unturned := tidy.unturned text
      rw [present] at unturned
      exact unturned
  | some content =>
      refine ⟨tidy.eraseFile text _, ?_, fun other => ?_⟩
      · exact .eraseNode (site.home_prefix_shardPlace text) (tidy.records text _)
      rw [Option.map_some, Option.getD_some, FileTree.contentAt?_eraseNode _ (by simp [place])]
      simp only [place_eq_iff]

/-- An overwriting turns the content of a text into the overwritten one. -/
theorem Tidy.overwritten
    (tidy : site.Tidy files)
    (text : String)
    (offset : Nat)
    (bytes : Bytes) :
    site.Turned files text
      ((files.contentAt? (site.place text)).map (FileTree.overwrittenAt offset bytes))
      ((files.overwrite? (site.path text) offset bytes).getD files) := by
  rw [tidy.overwrite?_path]
  cases present : files.contentAt? (site.place text) with
  | none =>
      have unturned := tidy.unturned text
      rw [present] at unturned
      exact unturned
  | some content =>
      refine ⟨tidy.putFile (tidy.directory_of_content present) _ _, ?_, fun other => ?_⟩
      · exact .setNode (site.home_prefix_shardPlace text) (tidy.records text _) _
      rw [Option.map_some, Option.getD_some, FileTree.contentAt?_setNode _ (by simp [place])]
      simp only [place_eq_iff]
      rfl

end Site

/-- What a load with a verdict leaves of the content of its file. -/
def Verdict.leaves : Verdict → Option Bytes → Option Bytes
  | .corrupt, _ | .expired, _ => none
  | .refresh, content => content.map (FileTree.overwrittenAt 0 markBytes)
  | .absent, content | .foreign, content | .hit _, content => content

/-- A load acts on the file of its key text only. -/
theorem Site.Tidy.act
    {site : Site}
    {files : FileTree}
    (tidy : site.Tidy files)
    (text : String)
    (verdict : Verdict) :
    site.Turned files text (verdict.leaves (files.contentAt? (site.place text)))
      (act files (site.path text) verdict) := by
  cases verdict with
  | absent => exact tidy.unturned text
  | corrupt => exact tidy.removed text
  | foreign => exact tidy.unturned text
  | expired => exact tidy.removed text
  | refresh => exact tidy.overwritten text 0 markBytes
  | hit cached => exact tidy.unturned text

end DiskTier
end FragmentCache
