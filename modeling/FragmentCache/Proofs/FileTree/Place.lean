import FragmentCache.FileTree
import FragmentCache.Proofs.FileTree.Path

/-!
# Places that paths lead to

A path that ends in a name leads to that name in the directory that the rest of the
path leads to.  Where a path leads depends on directories only, so it leads to the
same place for as long as no directory goes away.
-/

namespace FragmentCache
namespace FileTree

/-- A segment that names something in a directory. -/
structure Names (segment : String) : Prop where
  named : FilePath.isIdle segment = false
  below : segment ≠ ".."
  fits : FilePath.isName segment = true

variable {tree : FileTree} {here there : Place} {path segment : String} {above : List String}

theorem Names.ne_empty (names : Names segment) : segment ≠ "" := by
  rintro rfl
  exact absurd names.named (by decide)

theorem Names.ne_dot (names : Names segment) : segment ≠ "." := by
  rintro rfl
  exact absurd names.named (by decide)

/-! ## Following segments -/

theorem follow_cons (tree : FileTree) (here : Place) (segment : String) (rest : List String) :
    tree.follow here (segment :: rest) =
      (tree.follow here [segment]).bind fun there => tree.follow there rest := by
  simp only [follow]
  split
  · rfl
  · rfl
  · split
    · rfl
    · split
      · rfl
      · split <;> rfl

/-- Following some segments and then others is following all of them. -/
theorem follow_append (tree : FileTree) (here : Place) (front back : List String) :
    tree.follow here (front ++ back) =
      (tree.follow here front).bind fun there => tree.follow there back := by
  induction front generalizing here with
  | nil => rfl
  | cons segment rest inductionHypothesis =>
      rw [List.cons_append, follow_cons, follow_cons tree here segment rest]
      cases tree.follow here [segment] with
      | error fault => rfl
      | ok there => exact inductionHypothesis there

/-- Segments lead to a place by way of the place that the first ones lead to. -/
theorem follow_append_eq_ok_iff {front back : List String} :
    tree.follow here (front ++ back) = .ok there ↔
      ∃ between, tree.follow here front = .ok between ∧ tree.follow between back = .ok there := by
  rw [follow_append]
  cases tree.follow here front with
  | error fault => exact ⟨nofun, nofun⟩
  | ok between =>
      constructor
      · exact fun followed => ⟨between, rfl, followed⟩
      · rintro ⟨_, same, followed⟩
        cases same
        exact followed

/-- Whatever is looked up is looked up in a directory. -/
theorem directory_of_follow
    {rest : List String}
    (followed : tree.follow here (segment :: rest) = .ok there) :
    tree.node? here = some .directory := by
  rw [follow] at followed
  cases node : tree.node? here with
  | none => rw [node] at followed; cases followed
  | some found =>
      cases found with
      | file content => rw [node] at followed; cases followed
      | directory => rfl

/-- An empty segment stays in a directory. -/
theorem follow_idle_eq_ok_iff :
    tree.follow here [""] = .ok there ↔ here = there ∧ tree.node? here = some .directory := by
  rw [follow]
  cases tree.node? here with
  | none => simp
  | some node => cases node <;> simp [FilePath.isIdle]

/-- A name is looked up in a directory. -/
theorem follow_name_eq_ok_iff (names : Names segment) :
    tree.follow here [segment] = .ok there ↔
      here ++ [segment] = there ∧ tree.node? here = some .directory := by
  rw [follow]
  cases tree.node? here with
  | none => simp
  | some node => cases node <;> simp [names.named, names.below, names.fits]

/-! ## Paths that end in a name -/

/-- A path that ends in a name after some segments. -/
structure EndsIn (path : String) (above : List String) (name : String) : Prop where
  valid : FilePath.isValid path = true
  split : FilePath.segments path = above ++ [name]
  names : Names name

theorem EndsIn.ne_empty (ends : EndsIn path above segment) : path ≠ "" := by
  rintro rfl
  have split : [] ++ [""] = above ++ [segment] := ends.split
  obtain ⟨-, same⟩ := List.append_inj' split rfl
  exact ends.names.ne_empty (List.cons.inj same).1.symm

/-- A path that ends in a name leads there when what is above leads to a directory. -/
theorem EndsIn.place_eq_ok_iff (ends : EndsIn path above segment) :
    tree.place path = .ok there ↔
      ∃ directory, tree.follow (tree.start path) above = .ok directory ∧
        directory ++ [segment] = there ∧ tree.node? directory = some .directory := by
  rw [place, if_neg ends.ne_empty, if_pos ends.valid, ends.split, follow_append_eq_ok_iff]
  simp only [follow_name_eq_ok_iff ends.names]

/-- Something may be made under the last segment of a path when that is a name and what
is above leads to a directory. -/
theorem entry_of_split
    (tree : FileTree)
    (split : FilePath.segments path = above ++ [segment])
    (nonempty : path ≠ "")
    (named : segment ≠ "") :
    tree.entry path =
      if !FilePath.isValid path then .error .refused
      else (tree.follow (tree.start path) (above ++ [""])).bind fun directory =>
        if segment = "." ∨ segment = ".." ∨ !FilePath.isName segment then .error .refused
        else .ok (directory ++ [segment]) := by
  have reversed : (FilePath.segments path).reverse.dropWhile (· == "") =
      segment :: above.reverse := by
    rw [split, List.reverse_append, List.reverse_singleton, List.singleton_append,
      List.dropWhile_cons_of_neg (by simpa using named)]
  rw [entry, if_neg nonempty, reversed]
  dsimp only
  rw [List.reverse_cons, List.reverse_reverse]
  rfl

/-- A path that ends in a name has its entry at its place. -/
theorem EndsIn.entry_eq_ok_iff (ends : EndsIn path above segment) :
    tree.entry path = .ok there ↔ tree.place path = .ok there := by
  have allowed : ¬(segment = "." ∨ segment = ".." ∨ !FilePath.isName segment) := by
    simp [ends.names.ne_dot, ends.names.below, ends.names.fits]
  rw [entry_of_split tree ends.split ends.ne_empty ends.names.ne_empty, if_neg (by simp [ends.valid]),
    ends.place_eq_ok_iff]
  simp only [if_neg allowed]
  constructor
  · intro made
    cases followed : tree.follow (tree.start path) (above ++ [""]) with
    | error fault => rw [followed] at made; cases made
    | ok directory =>
        rw [followed] at made
        cases made
        obtain ⟨_, reached, idle⟩ := follow_append_eq_ok_iff.1 followed
        obtain ⟨rfl, isDirectory⟩ := follow_idle_eq_ok_iff.1 idle
        exact ⟨_, reached, rfl, isDirectory⟩
  · rintro ⟨directory, reached, rfl, isDirectory⟩
    rw [follow_append_eq_ok_iff.2 ⟨directory, reached, follow_idle_eq_ok_iff.2 ⟨rfl, isDirectory⟩⟩]
    rfl

theorem toOption_eq_some_iff {outcome : Except Fault Place} :
    outcome.toOption = some there ↔ outcome = .ok there := by
  cases outcome <;> simp [Except.toOption]

/-- A path that ends in a name has its file at its place. -/
theorem EndsIn.fileEntry?_eq_some_iff (ends : EndsIn path above segment) :
    tree.fileEntry? path = some there ↔ tree.place path = .ok there := by
  have noSlash := FilePath.endsInSlash_of_split ends.split ends.names.ne_empty
  unfold fileEntry?
  rw [noSlash, if_neg (by simp), toOption_eq_some_iff, ends.entry_eq_ok_iff]

/-- Only a path that ends in a name is one of a file. -/
theorem exists_endsIn
    (found : tree.fileEntry? path = some there) :
    ∃ above name, EndsIn path above name := by
  unfold fileEntry? at found
  split at found
  · cases found
  · next noSlash =>
      rw [Bool.not_eq_true] at noSlash
      rw [toOption_eq_some_iff] at found
      have nonempty : path ≠ "" := by
        rintro rfl
        cases found
      obtain ⟨above, name, split, named⟩ :=
        FilePath.exists_split_of_endsInSlash nonempty noSlash
      rw [entry_of_split tree split nonempty named] at found
      split at found
      · cases found
      · next valid =>
          cases followed : tree.follow (tree.start path) (above ++ [""]) with
          | error fault => rw [followed] at found; cases found
          | ok directory =>
              rw [followed] at found
              change (if _ then _ else _) = _ at found
              split at found
              · cases found
              · next allowed =>
                  simp only [not_or, Bool.not_eq_true', Bool.not_eq_false] at allowed valid
                  refine ⟨above, name, valid, split, ?_, allowed.2.1, allowed.2.2⟩
                  simp [FilePath.isIdle, named, allowed.1]

/-- The path of a file leads to where the file may be made. -/
theorem place_of_fileEntry
    (found : tree.fileEntry? path = some there) :
    tree.place path = .ok there := by
  obtain ⟨above, name, ends⟩ := exists_endsIn found
  exact ends.fileEntry?_eq_some_iff.1 found

/-- No file is at the root. -/
theorem ne_root_of_fileEntry
    (found : tree.fileEntry? path = some there) :
    there ≠ [] := by
  obtain ⟨above, name, ends⟩ := exists_endsIn found
  obtain ⟨directory, -, rfl, -⟩ := ends.place_eq_ok_iff.1 (place_of_fileEntry found)
  simp

/-- A segment leads nowhere, to the directory above, or to a name. -/
theorem follow_singleton_cases (followed : tree.follow here [segment] = .ok there) :
    there = here ∨ there = here.dropLast ∨ there = here ++ [segment] := by
  have directory := directory_of_follow followed
  rw [follow, directory] at followed
  dsimp only at followed
  split at followed
  · exact .inl (Except.ok.inj followed).symm
  · split at followed
    · exact .inr (.inl (Except.ok.inj followed).symm)
    · split at followed
      · exact .inr (.inr (Except.ok.inj followed).symm)
      · cases followed

/-- A path with something appended to its last segment is one of a file at another place. -/
theorem place_ne_of_append
    (reached : tree.place path = .ok there)
    {suffix : String}
    (plain : '/' ∉ suffix.toList)
    (nonempty : suffix ≠ "")
    {other : Place}
    (found : tree.fileEntry? (path ++ suffix) = some other) :
    other ≠ there := by
  unfold place at reached
  split at reached
  · cases reached
  · next pathNonempty =>
      split at reached
      · obtain empty | ⟨above, last, split⟩ := List.eq_nil_or_concat (FilePath.segments path)
        · exact absurd empty (FilePath.segments_ne_nil path)
        · rw [List.concat_eq_append] at split
          rw [split] at reached
          obtain ⟨otherAbove, name, ends⟩ := exists_endsIn found
          obtain ⟨directory, up, rfl, -⟩ := ends.place_eq_ok_iff.1 (place_of_fileEntry found)
          have otherSplit := FilePath.segments_append_plain plain split
          rw [ends.split] at otherSplit
          obtain ⟨rfl, sameName⟩ := List.append_inj' otherSplit rfl
          obtain rfl := (List.cons.inj sameName).1
          obtain ⟨between, upper, final⟩ := follow_append_eq_ok_iff.1 reached
          rw [start, FilePath.isAbsolute_append pathNonempty] at up
          obtain rfl : between = directory := Except.ok.inj (upper.symm.trans up)
          obtain same | same | same := follow_singleton_cases final
          · intro equal
            simpa [same] using congrArg List.length equal
          · intro equal
            have lengths := congrArg List.length equal
            rw [same, List.length_append, List.length_dropLast, List.length_singleton] at lengths
            omega
          · rw [same]
            intro equal
            obtain ⟨-, sameLast⟩ := List.append_inj' equal rfl
            have characters := congrArg String.toList (List.cons.inj sameLast).1
            simp [nonempty] at characters
      · cases reached

/-- The place of a file bears the name that the path ends in. -/
theorem getLast?_of_fileEntry (found : tree.fileEntry? path = some there) :
    there.getLast? = (FilePath.segments path).getLast? := by
  obtain ⟨above, name, ends⟩ := exists_endsIn found
  obtain ⟨directory, -, rfl, -⟩ := ends.place_eq_ok_iff.1 (place_of_fileEntry found)
  rw [ends.split, List.getLast?_concat, List.getLast?_concat]

/-! ## Directories that stay -/

/-- Every directory is still there, and relative paths start from the same one. -/
structure KeepsDirectories (before after : FileTree) : Prop where
  workingDirectory : after.workingDirectory = before.workingDirectory
  directory : ∀ place, before.node? place = some .directory → after.node? place = some .directory

namespace KeepsDirectories

variable {before between after : FileTree}

theorem trans
    (first : KeepsDirectories before between)
    (second : KeepsDirectories between after) :
    KeepsDirectories before after where
  workingDirectory := second.workingDirectory.trans first.workingDirectory
  directory place found := second.directory place (first.directory place found)

/-- What is put where no directory is leaves the directories. -/
theorem setNode
    (inside : there ≠ [])
    (vacant : tree.node? there ≠ some .directory)
    (node : Node) :
    KeepsDirectories tree (tree.setNode there node) where
  workingDirectory := rfl
  directory place found := by
    rw [node?_setNode tree inside]
    split
    · next same => exact absurd (same ▸ found) vacant
    · exact found

/-- What is erased leaves the directories if it is none itself. -/
theorem eraseNode
    (inside : there ≠ [])
    (noDirectory : tree.node? there ≠ some .directory) :
    KeepsDirectories tree (tree.eraseNode there) where
  workingDirectory := rfl
  directory place found := by
    rw [node?_eraseNode tree inside]
    split
    · next same => exact absurd (same ▸ found) noDirectory
    · exact found

theorem start (keeps : KeepsDirectories before after) (path : String) :
    after.start path = before.start path := by
  rw [FileTree.start, FileTree.start, keeps.workingDirectory]

/-- What was followed through directories is followed through them again. -/
theorem follow
    (keeps : KeepsDirectories before after)
    {segments : List String}
    (followed : before.follow here segments = .ok there) :
    after.follow here segments = .ok there := by
  induction segments generalizing here with
  | nil => exact followed
  | cons segment rest inductionHypothesis =>
      rw [FileTree.follow] at followed ⊢
      cases node : before.node? here with
      | none => rw [node] at followed; cases followed
      | some found =>
          rw [node] at followed
          cases found with
          | file content => cases followed
          | directory =>
              rw [keeps.directory here node]
              dsimp only at followed ⊢
              split
              · next idle => rw [if_pos idle] at followed; exact inductionHypothesis followed
              · next notIdle =>
                  rw [if_neg notIdle] at followed
                  split
                  · next up => rw [if_pos up] at followed; exact inductionHypothesis followed
                  · next notUp =>
                      rw [if_neg notUp] at followed
                      split
                      · next named =>
                          rw [if_pos named] at followed
                          exact inductionHypothesis followed
                      · next unnamed => rw [if_neg unnamed] at followed; cases followed

/-- Paths lead to the same places while directories stay. -/
theorem place
    (keeps : KeepsDirectories before after)
    (found : before.place path = .ok there) :
    after.place path = .ok there := by
  unfold FileTree.place at found ⊢
  rw [keeps.start]
  split at found
  · cases found
  · next nonempty =>
      split at found
      · next valid =>
          rw [if_neg nonempty, if_pos valid]
          exact keeps.follow found
      · cases found

/-- Paths lead to the same files while directories stay. -/
theorem fileEntry
    (keeps : KeepsDirectories before after)
    (found : before.fileEntry? path = some there) :
    after.fileEntry? path = some there := by
  obtain ⟨above, name, ends⟩ := exists_endsIn found
  rw [ends.fileEntry?_eq_some_iff] at found ⊢
  exact keeps.place found

end KeepsDirectories

/-! ## Changes below a directory -/

/-- Directories stay, and nothing changes but what is below a directory. -/
structure Confined (home : Place) (before after : FileTree) : Prop
    extends KeepsDirectories before after where
  outside : ∀ place, ¬home <+: place → after.node? place = before.node? place

namespace Confined

variable {home other : Place} {before between after : FileTree}

theorem refl (home : Place) (tree : FileTree) : Confined home tree tree where
  workingDirectory := rfl
  directory _ found := found
  outside _ _ := rfl

theorem trans
    (first : Confined home before between)
    (second : Confined home between after) :
    Confined home before after where
  toKeepsDirectories := first.toKeepsDirectories.trans second.toKeepsDirectories
  outside place elsewhere := (second.outside place elsewhere).trans (first.outside place elsewhere)

/-- What is put below a directory is confined to it. -/
theorem setNode
    {name : String}
    (below : home <+: there)
    (vacant : tree.node? (there ++ [name]) ≠ some .directory)
    (node : Node) :
    Confined home tree (tree.setNode (there ++ [name]) node) where
  toKeepsDirectories := .setNode (by simp) vacant node
  outside place elsewhere := by
    rw [node?_setNode tree (by simp), if_neg]
    rintro rfl
    exact elsewhere (below.trans (List.prefix_append _ _))

/-- What is erased below a directory is confined to it. -/
theorem eraseNode
    {name : String}
    (below : home <+: there)
    (noDirectory : tree.node? (there ++ [name]) ≠ some .directory) :
    Confined home tree (tree.eraseNode (there ++ [name])) where
  toKeepsDirectories := .eraseNode (by simp) noDirectory
  outside place elsewhere := by
    rw [node?_eraseNode tree (by simp), if_neg]
    rintro rfl
    exact elsewhere (below.trans (List.prefix_append _ _))

/-- What is below another directory, which lies apart, stays as it was. -/
theorem node?_append
    (confined : Confined home before after)
    (notBelow : ¬home <+: other)
    (notAbove : ¬other <+: home)
    (rest : List String) :
    after.node? (other ++ rest) = before.node? (other ++ rest) := by
  apply confined.outside
  intro below
  obtain above | below := List.prefix_or_prefix_of_prefix (List.prefix_append other rest) below
  · exact notAbove above
  · exact notBelow below

end Confined
end FileTree
end FragmentCache
