import FragmentCache.Proofs.FileTree.Place

/-!
# Operations on files

An operation on a file changes what is at one place, and no directory goes away by
it.  Making directories adds directories where nothing was.
-/

namespace FragmentCache
namespace FileTree

/-- Content of a file. -/
def Node.content? : Node → Option Bytes
  | file content => some content
  | directory => none

/-- Content of the file at a place. -/
def contentAt? (tree : FileTree) (place : Place) : Option Bytes :=
  (tree.node? place).bind Node.content?

variable {tree after : FileTree} {place other : Place} {path : String} {content : Bytes}

theorem contentAt?_eq_some_iff :
    tree.contentAt? place = some content ↔ tree.node? place = some (.file content) := by
  rw [contentAt?, Option.bind_eq_some_iff]
  constructor
  · rintro ⟨node, found, same⟩
    cases node with
    | file content => cases same; exact found
    | directory => cases same
  · exact fun found => ⟨_, found, rfl⟩

theorem contentAt?_setNode
    (tree : FileTree)
    (inside : place ≠ [])
    (node : Node)
    (other : Place) :
    (tree.setNode place node).contentAt? other =
      if other = place then node.content? else tree.contentAt? other := by
  rw [contentAt?, contentAt?, node?_setNode tree inside]
  by_cases same : other = place
  · rw [if_pos same, if_pos same]
    rfl
  · rw [if_neg same, if_neg same]

theorem contentAt?_eraseNode
    (tree : FileTree)
    (inside : place ≠ [])
    (other : Place) :
    (tree.eraseNode place).contentAt? other =
      if other = place then none else tree.contentAt? other := by
  rw [contentAt?, contentAt?, node?_eraseNode tree inside]
  by_cases same : other = place
  · rw [if_pos same, if_pos same]
    rfl
  · rw [if_neg same, if_neg same]

/-! ## Files -/

/-- What is read by a path is the content of the file at its place. -/
theorem read?_eq_contentAt? (found : tree.place path = .ok place) :
    tree.read? path = tree.contentAt? place := by
  rw [read?, found?, found, contentAt?, Except.toOption, Option.bind_some]
  cases tree.node? place with
  | none => rfl
  | some node => cases node <;> rfl

/-- A file is written where a path leads to a name that is no directory. -/
theorem write?_eq_some_iff :
    tree.write? path content = some after ↔
      ∃ place, tree.fileEntry? path = some place ∧ tree.node? place ≠ some .directory ∧
        tree.setNode place (.file content) = after := by
  rw [write?]
  cases tree.fileEntry? path with
  | none => simp
  | some place => simp

/-- A file is removed where there is one. -/
theorem removeFile?_eq_some_iff :
    tree.removeFile? path = some after ↔
      ∃ place content, tree.fileEntry? path = some place ∧
        tree.contentAt? place = some content ∧ tree.eraseNode place = after := by
  rw [removeFile?]
  cases tree.fileEntry? path with
  | none => simp
  | some place =>
      simp only [contentAt?_eq_some_iff]
      cases found : tree.node? place with
      | none => simp [found]
      | some node => cases node <;> simp [found]

/-- Bytes are written over those of a file that is there. -/
theorem overwrite?_eq_some_iff {offset : Nat} {bytes : Bytes} :
    tree.overwrite? path offset bytes = some after ↔
      ∃ place content, tree.fileEntry? path = some place ∧
        tree.contentAt? place = some content ∧
          tree.setNode place (.file (overwrittenAt offset bytes content)) = after := by
  rw [overwrite?]
  constructor
  · intro overwritten
    obtain ⟨content, read, written⟩ := Option.bind_eq_some_iff.1 overwritten
    obtain ⟨place, found, -, changed⟩ := write?_eq_some_iff.1 written
    rw [read?_eq_contentAt? (place_of_fileEntry found)] at read
    exact ⟨place, content, found, read, changed⟩
  · rintro ⟨place, content, found, present, rfl⟩
    rw [read?_eq_contentAt? (place_of_fileEntry found), present]
    refine write?_eq_some_iff.2 ⟨place, found, ?_, rfl⟩
    rw [contentAt?_eq_some_iff.1 present]
    simp

/-- A file is moved to another place, where no directory is. -/
theorem rename?_eq_some_iff
    {source target : String}
    {sourcePlace targetPlace : Place}
    (sourceFound : tree.fileEntry? source = some sourcePlace)
    (targetFound : tree.fileEntry? target = some targetPlace)
    (differ : sourcePlace ≠ targetPlace) :
    tree.rename? source target = some after ↔
      ∃ content, tree.contentAt? sourcePlace = some content ∧
        tree.node? targetPlace ≠ some .directory ∧
          (tree.setNode targetPlace (.file content)).eraseNode sourcePlace = after := by
  have inside := ne_root_of_fileEntry targetFound
  have unequal : ¬some sourcePlace = some targetPlace := fun same => differ (Option.some.inj same)
  rw [rename?, read?_eq_contentAt? (place_of_fileEntry sourceFound), sourceFound, targetFound]
  simp only [if_neg unequal, Option.bind_eq_bind, Option.bind_eq_some_iff, write?_eq_some_iff,
    targetFound, removeFile?_eq_some_iff]
  constructor
  · rintro ⟨content, present, moved, ⟨_, same, vacant, rfl⟩, place, _, found, _, rfl⟩
    cases same
    rw [(KeepsDirectories.setNode inside vacant _).fileEntry sourceFound] at found
    cases found
    exact ⟨content, present, vacant, rfl⟩
  · rintro ⟨content, present, vacant, rfl⟩
    refine ⟨content, present, _, ⟨_, rfl, vacant, rfl⟩, sourcePlace, content,
      (KeepsDirectories.setNode inside vacant _).fileEntry sourceFound, ?_, rfl⟩
    rw [contentAt?_setNode tree inside, if_neg differ]
    exact present

/-- A file is renamed to a path that leads to some place. -/
theorem exists_fileEntry_of_rename?
    {source target : String}
    (renamed : tree.rename? source target = some after) :
    ∃ place, tree.fileEntry? target = some place := by
  obtain ⟨content, -, renamed⟩ := Option.bind_eq_some_iff.1 renamed
  obtain ⟨moved, written, -⟩ := Option.bind_eq_some_iff.1 renamed
  obtain ⟨place, found, -⟩ := write?_eq_some_iff.1 written
  exact ⟨place, found⟩

namespace KeepsDirectories

/-- Writing a file leaves the directories. -/
theorem write? (written : tree.write? path content = some after) :
    KeepsDirectories tree after := by
  obtain ⟨place, found, vacant, rfl⟩ := write?_eq_some_iff.1 written
  exact setNode (ne_root_of_fileEntry found) vacant _

/-- Removing a file leaves the directories. -/
theorem removeFile? (removed : tree.removeFile? path = some after) :
    KeepsDirectories tree after := by
  obtain ⟨place, content, found, present, rfl⟩ := removeFile?_eq_some_iff.1 removed
  refine eraseNode (ne_root_of_fileEntry found) ?_
  rw [contentAt?_eq_some_iff.1 present]
  simp

/-- Writing over a file leaves the directories. -/
theorem overwrite?
    {offset : Nat}
    {bytes : Bytes}
    (overwritten : tree.overwrite? path offset bytes = some after) :
    KeepsDirectories tree after := by
  obtain ⟨content, -, written⟩ := Option.bind_eq_some_iff.1 overwritten
  exact write? written

end KeepsDirectories

/-! ## Directories -/

theorem follow_blanks
    {blanks : List String}
    (blank : ∀ segment ∈ blanks, segment = "")
    (followed : tree.follow other blanks = .ok place) :
    other = place := by
  induction blanks generalizing other with
  | nil => exact Except.ok.inj followed
  | cons segment rest inductionHypothesis =>
      obtain ⟨rfl, blankRest⟩ := List.forall_mem_cons.1 blank
      rw [← List.singleton_append] at followed
      obtain ⟨between, idle, followed⟩ := follow_append_eq_ok_iff.1 followed
      obtain ⟨rfl, -⟩ := follow_idle_eq_ok_iff.1 idle
      exact inductionHypothesis blankRest followed

/-- The last segment that is not empty, with what is above and the empty ones behind. -/
theorem exists_split_of_dropWhile
    {segments above : List String}
    {last : String}
    (dropped : segments.reverse.dropWhile (· == "") = last :: above) :
    last ≠ "" ∧ ∃ blanks, segments = above.reverse ++ ([last] ++ blanks) ∧
      ∀ segment ∈ blanks, segment = "" := by
  have whole : segments.reverse.takeWhile (· == "") ++ segments.reverse.dropWhile (· == "") =
      segments.reverse := List.takeWhile_append_dropWhile
  have allBlank := List.all_eq_true.1 (List.all_takeWhile (p := (· == "")) (l := segments.reverse))
  have kept := List.head?_dropWhile_not (· == "") segments.reverse
  rw [dropped] at whole kept
  generalize segments.reverse.takeWhile (· == "") = blanks at whole allBlank
  refine ⟨by simpa using kept, blanks.reverse, ?_, ?_⟩
  · rw [← List.reverse_reverse segments, ← whole]
    simp
  · intro segment listed
    simpa using allBlank segment (List.mem_reverse.1 listed)

/-- Nothing can be made at a path where something is. -/
theorem makeDirectory_of_found
    (reached : tree.place path = .ok place)
    (present : (tree.node? place).isSome) :
    tree.makeDirectory path = .error .refused := by
  unfold FileTree.place at reached
  split at reached
  · cases reached
  · next nonempty =>
      split at reached
      · next valid =>
          rw [makeDirectory, entry, if_neg nonempty, if_neg (by simp [valid])]
          cases reversed : (FilePath.segments path).reverse.dropWhile (· == "") with
          | nil => rfl
          | cons last above =>
              obtain ⟨notBlank, blanks, split, allBlank⟩ := exists_split_of_dropWhile reversed
              rw [split] at reached
              obtain ⟨directory, up, rest⟩ := follow_append_eq_ok_iff.1 reached
              obtain ⟨named, down, idle⟩ := follow_append_eq_ok_iff.1 rest
              obtain rfl := follow_blanks allBlank idle
              have upper : tree.follow (tree.start path) ("" :: above).reverse =
                  .ok directory := by
                rw [List.reverse_cons]
                exact follow_append_eq_ok_iff.2 ⟨directory, up,
                  follow_idle_eq_ok_iff.2 ⟨rfl, directory_of_follow down⟩⟩
              dsimp only
              rw [upper]
              change Except.bind (if _ then _ else _) _ = _
              split
              · rfl
              · next allowed =>
                  simp only [not_or, Bool.not_eq_true', Bool.not_eq_false] at allowed
                  have names : Names last := by
                    refine ⟨?_, allowed.2.1, allowed.2.2⟩
                    simp [FilePath.isIdle, notBlank, allowed.1]
                  obtain ⟨rfl, -⟩ := (follow_name_eq_ok_iff names).1 down
                  change (if (tree.node? (directory ++ [last])).isSome then _ else _) = _
                  rw [if_pos present]
      · cases reached

/-- Nothing has to be made where a directory is. -/
theorem makeDirectories_of_directory
    (reached : tree.place path = .ok place)
    (directory : tree.node? place = some .directory) :
    tree.makeDirectories path = (tree, true) := by
  have nonempty : path ≠ "" := by
    rintro rfl
    cases reached
  have present : (tree.node? place).isSome := by rw [directory]; rfl
  rw [makeDirectories, makeDirectoriesAlong, if_neg nonempty,
    makeDirectory_of_found reached present]
  dsimp only
  rw [isDirectory, found?, reached]
  change (tree, tree.node? place == some .directory) = (tree, true)
  rw [directory]
  rfl

/-- A directory is made where nothing is in a directory. -/
theorem makeDirectories_of_missing
    (reached : tree.entry path = .ok place)
    (vacant : tree.node? place = none) :
    tree.makeDirectories path = (tree.setNode place .directory, true) := by
  have nonempty : path ≠ "" := by
    rintro rfl
    cases reached
  have made : tree.makeDirectory path = .ok (tree.setNode place .directory) := by
    rw [makeDirectory, reached]
    change (if (tree.node? place).isSome then _ else _) = _
    rw [vacant]
    rfl
  rw [makeDirectories, makeDirectoriesAlong, if_neg nonempty, made]

/-! ## Files that stay -/

/-- Every file has the content it had before, and there are no other ones. -/
def SameFiles (before after : FileTree) : Prop :=
  ∀ place, after.contentAt? place = before.contentAt? place

/-- No file bears the name that a path ends in. -/
def NoneNamed (tree : FileTree) (path : String) : Prop :=
  ∀ place, place.getLast? = (FilePath.segments path).getLast? → tree.contentAt? place = none

theorem SameFiles.trans
    {before between after : FileTree}
    (first : SameFiles before between)
    (second : SameFiles between after) :
    SameFiles before after :=
  fun place => (second place).trans (first place)

/-- There is no file at a path that ends in the name of none. -/
theorem NoneNamed.contentAt?_eq_none
    (none : tree.NoneNamed path)
    (found : after.fileEntry? path = some place) :
    tree.contentAt? place = .none :=
  none place (getLast?_of_fileEntry found)

/-- The names of all that is there are looked through for one that no file may bear. -/
theorem noneNamed_of_keys
    (differ : ∀ place ∈ tree.nodes.keys, place.getLast? ≠ (FilePath.segments path).getLast?) :
    tree.NoneNamed path := by
  intro place same
  have absent : tree.nodes.find? place = none := by
    rw [← Option.not_isSome_iff_eq_none, ← Table.mem_keys_iff]
    exact fun listed => differ place listed same
  rw [contentAt?, node?]
  split
  · rfl
  · rw [absent]
    rfl

/-- A directory that is made changes no file. -/
theorem sameFiles_makeDirectory (made : tree.makeDirectory path = .ok after) :
    SameFiles tree after := by
  rw [makeDirectory] at made
  cases entered : tree.entry path with
  | error fault => rw [entered] at made; cases made
  | ok place =>
      rw [entered] at made
      change (if (tree.node? place).isSome then _ else _) = _ at made
      split at made
      · cases made
      · next vacant =>
          have missing : tree.node? place = none := Option.not_isSome_iff_eq_none.1 vacant
          have inside : place ≠ [] := by
            rintro rfl
            cases missing
          cases made
          intro other
          rw [contentAt?_setNode tree inside]
          split
          · next same => rw [same, contentAt?, missing]; rfl
          · rfl

/-- Making directories leaves the files, even when it fails on the way. -/
theorem sameFiles_makeDirectoriesAlong (tree : FileTree) (paths : List String) :
    SameFiles tree (tree.makeDirectoriesAlong paths).1 := by
  induction paths with
  | nil => exact fun _ => rfl
  | cons path parents inductionHypothesis =>
      rw [makeDirectoriesAlong]
      split
      · exact fun _ => rfl
      · split
        · next made => exact sameFiles_makeDirectory made
        · exact fun _ => rfl
        · split
          · next outcome => rw [outcome] at inductionHypothesis; exact inductionHypothesis
          · next outcome =>
              rw [outcome] at inductionHypothesis
              split
              · next made => exact inductionHypothesis.trans (sameFiles_makeDirectory made)
              · exact inductionHypothesis

/-- Directories that are made change no file. -/
theorem sameFiles_makeDirectories (tree : FileTree) (path : String) :
    SameFiles tree (tree.makeDirectories path).1 :=
  sameFiles_makeDirectoriesAlong tree _

end FileTree
end FragmentCache
