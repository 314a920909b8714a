import FragmentCache.Key
import FragmentCache.Proofs.Digest.Digits
import FragmentCache.Proofs.FileTree.Operation
import FragmentCache.Tier.Disk.SaveJob

/-!
# Where a disk tier keeps its files

The file of a key is named by a digest of the key text: its first two digits name a
directory below the root and the others name the file.  Nothing in such a name has a
meaning in a path, so every key text has a place of its own digest below the root.
-/

namespace FragmentCache

/-! ## Names made of a digest -/

namespace DiskTier

open FileTree (Place Names EndsIn)
open FilePath (IsPlain)
open Sha256 (IsDigest)

/-- The directory that a digest names. -/
def shard (digest : String) : String :=
  String.ofList (digest.toList.take Key.directoryWidth)

/-- The file that a digest names in its directory. -/
def leaf (digest : String) : String :=
  String.ofList (digest.toList.drop Key.directoryWidth)

/-- What the name of a temporary file has behind that of the file. -/
def mark (number : Nat) : String :=
  ".tmp." ++ String.ofList (Hex.padded SaveJob.numberWidth number)

variable {digest text : String} {number : Nat}

theorem splitDigest_eq (digest : String) :
    Key.splitDigest digest = shard digest ++ "/" ++ leaf digest := by
  rw [← String.toList_inj]
  simp [Key.splitDigest, shard, leaf]

theorem temporaryPath_eq (path : String) (number : Nat) :
    SaveJob.temporaryPath path number = path ++ mark number := by
  rw [SaveJob.temporaryPath, mark, String.append_assoc]

theorem shard_append_leaf (digest : String) : shard digest ++ leaf digest = digest := by
  rw [← String.toList_inj]
  simp [shard, leaf]

theorem isPlain_of_digits (digits : ∀ character ∈ text.toList, character ∈ Hex.digits) :
    IsPlain text := by
  have all : IsPlain "0123456789abcdef" := by decide
  exact fun character listed => all character (digits character listed)

theorem isPlain_shard (isDigest : IsDigest digest) : IsPlain (shard digest) := by
  apply isPlain_of_digits
  intro character listed
  rw [shard, String.toList_ofList] at listed
  exact isDigest.digits character (List.mem_of_mem_take listed)

theorem isPlain_leaf (isDigest : IsDigest digest) : IsPlain (leaf digest) := by
  apply isPlain_of_digits
  intro character listed
  rw [leaf, String.toList_ofList] at listed
  exact isDigest.digits character (List.mem_of_mem_drop listed)

theorem isPlain_mark (number : Nat) : IsPlain (mark number) := by
  refine IsPlain.append (by decide) (isPlain_of_digits fun character listed => ?_)
  rw [String.toList_ofList] at listed
  exact Hex.mem_padded listed

theorem length_shard (isDigest : IsDigest digest) : (shard digest).toList.length = 2 := by
  rw [shard, String.toList_ofList, List.length_take, isDigest.length]
  rfl

theorem length_leaf (isDigest : IsDigest digest) : (leaf digest).toList.length = 62 := by
  rw [leaf, String.toList_ofList, List.length_drop, isDigest.length]
  rfl

theorem length_mark (number : Nat) : (mark number).toList.length = 37 := by
  simp only [mark, String.toList_append, List.length_append, String.toList_ofList,
    Hex.length_padded]
  rfl

theorem mark_ne_empty (number : Nat) : mark number ≠ "" := by
  intro same
  have length := length_mark number
  rw [same] at length
  cases length

/-- The temporary file for a path is at another place than the path. -/
theorem place_ne_of_temporaryPath
    {files : FileTree}
    {path : String}
    {place other : Place}
    (reached : files.place path = .ok place)
    (found : files.fileEntry? (SaveJob.temporaryPath path number) = some other) :
    other ≠ place := by
  rw [temporaryPath_eq] at found
  exact FileTree.place_ne_of_append reached (isPlain_mark number).noSlash (mark_ne_empty number)
    found

/-- A plain text of more than two characters names something. -/
theorem names_of_long
    (plain : IsPlain text)
    (long : 2 < text.toList.length)
    (fits : text.toList.length ≤ FilePath.longestName) :
    Names text where
  named := by
    rw [FilePath.isIdle, Bool.or_eq_false_iff, beq_eq_false_iff_ne, beq_eq_false_iff_ne]
    constructor <;> rintro rfl <;> exact absurd long (by decide)
  below := by
    rintro rfl
    exact absurd long (by decide)
  fits := by
    rw [FilePath.isName, decide_eq_true_eq, plain.utf8ByteSize]
    exact fits

theorem names_shard (isDigest : IsDigest digest) : Names (shard digest) := by
  have two := length_shard isDigest
  refine ⟨?_, ?_, ?_⟩
  · rw [FilePath.isIdle, Bool.or_eq_false_iff, beq_eq_false_iff_ne, beq_eq_false_iff_ne]
    constructor <;> intro same <;> rw [same] at two <;> exact absurd two (by decide)
  · intro same
    have dot : '.' ∈ (shard digest).toList := by rw [same]; decide
    rw [shard, String.toList_ofList] at dot
    exact absurd (isDigest.digits '.' (List.mem_of_mem_take dot)) (by decide)
  · rw [FilePath.isName, decide_eq_true_eq, (isPlain_shard isDigest).utf8ByteSize, two]
    decide

theorem names_leaf (isDigest : IsDigest digest) : Names (leaf digest) := by
  have length := length_leaf isDigest
  apply names_of_long (isPlain_leaf isDigest) <;> rw [length] <;> decide

/-- A temporary name is a name of its own. -/
theorem names_temporary (isDigest : IsDigest digest) (number : Nat) :
    Names (leaf digest ++ mark number) := by
  have length : (leaf digest ++ mark number).toList.length = 99 := by
    rw [String.toList_append, List.length_append, length_leaf isDigest, length_mark]
  apply names_of_long ((isPlain_leaf isDigest).append (isPlain_mark number)) <;> rw [length] <;>
    decide

/-- No leaf is the temporary name of any record. -/
theorem leaf_ne_temporary (isDigest : IsDigest digest) {other : String}
    (otherIsDigest : IsDigest other) (number : Nat) :
    leaf digest ≠ leaf other ++ mark number := by
  intro same
  have lengths := congrArg (fun name => name.toList.length) same
  simp only [String.toList_append, List.length_append, length_leaf isDigest,
    length_leaf otherIsDigest, length_mark] at lengths
  omega

/-! ## Places below the root -/

/-- A name as long as the longest one made below a root, that of a temporary file with
its directory. -/
def longestFile : String := String.ofList (List.replicate 102 '0')

/-- All files that are made below a root can be looked up. -/
def HasRoom (root : String) : Prop := FilePath.isValid (FilePath.join root longestFile) = true

instance (root : String) : Decidable (HasRoom root) := inferInstanceAs (Decidable (_ = true))

/-- Where a disk tier keeps its files. -/
structure Site where
  root : String
  /-- Place of the root. -/
  home : Place
  /-- Digest that names the file of a key text. -/
  digest : String → String
  hasRoom : HasRoom root
  isDigest : ∀ text, IsDigest (digest text)

namespace Site

/-- Path of the file of a key text. -/
def path (site : Site) (text : String) : String :=
  FilePath.join site.root (Key.splitDigest (site.digest text))

/-- Path of the directory of a key text. -/
def shardPath (site : Site) (text : String) : String :=
  FilePath.lead site.root ++ shard (site.digest text)

/-- Place of the directory of a key text. -/
def shardPlace (site : Site) (text : String) : Place := site.home ++ [shard (site.digest text)]

/-- Place of the file of a key text. -/
def place (site : Site) (text : String) : Place :=
  site.shardPlace text ++ [leaf (site.digest text)]

/-- Place of a temporary file for a key text. -/
def temporaryPlace (site : Site) (text : String) (number : Nat) : Place :=
  site.shardPlace text ++ [leaf (site.digest text) ++ mark number]

variable (site : Site) (text : String) (number : Nat)

theorem relative_shard : FilePath.isAbsolute (shard (site.digest text)) = false :=
  (isPlain_shard (site.isDigest text)).isAbsolute

theorem relative_splitDigest :
    FilePath.isAbsolute (Key.splitDigest (site.digest text)) = false := by
  rw [splitDigest_eq, String.append_assoc,
    FilePath.isAbsolute_append (names_shard (site.isDigest text)).ne_empty, site.relative_shard]

theorem path_eq : site.path text = site.shardPath text ++ "/" ++ leaf (site.digest text) := by
  rw [path, FilePath.join_of_relative (site.relative_splitDigest text), splitDigest_eq, shardPath]
  simp only [String.append_assoc]

theorem segments_shardPath :
    FilePath.segments (site.shardPath text) =
      FilePath.approach site.root ++ [shard (site.digest text)] := by
  rw [shardPath, FilePath.segments_lead_append,
    FilePath.segments_of_plain (isPlain_shard (site.isDigest text)).noSlash]

/-- The path of a text leads over its shard to its leaf. -/
theorem segments_path :
    FilePath.segments (site.path text) =
      FilePath.approach site.root ++ [shard (site.digest text)] ++ [leaf (site.digest text)] := by
  rw [path_eq, FilePath.segments_append_slash, segments_shardPath,
    FilePath.segments_of_plain (isPlain_leaf (site.isDigest text)).noSlash]

/-- The path of a temporary file can be looked up. -/
theorem isValid_temporary :
    FilePath.isValid (SaveJob.temporaryPath (site.path text) number) = true := by
  have shardPlain := isPlain_shard (site.isDigest text)
  have leafPlain := isPlain_leaf (site.isDigest text)
  have slashPlain : '\x00' ∉ ("/" : String).toList := by decide
  have noNull : ∀ {name : String}, IsPlain name → '\x00' ∉ name.toList :=
    fun plain listed => (plain _ listed).2.2 rfl
  have room := site.hasRoom
  rw [HasRoom, FilePath.join_of_relative (by decide)] at room
  rw [temporaryPath_eq, path_eq, shardPath]
  simp only [String.append_assoc]
  refine FilePath.isValid_lead_append room ?_ ?_
  · simp only [String.utf8ByteSize_append, shardPlain.utf8ByteSize, leafPlain.utf8ByteSize,
      (isPlain_mark number).utf8ByteSize, length_shard (site.isDigest text),
      length_leaf (site.isDigest text), length_mark]
    decide
  · simp only [String.toList_append, List.mem_append, not_or]
    exact ⟨noNull shardPlain, slashPlain, noNull leafPlain, noNull (isPlain_mark number)⟩

theorem isValid_path : FilePath.isValid (site.path text) = true := by
  have valid := site.isValid_temporary text 0
  rw [temporaryPath_eq] at valid
  exact FilePath.isValid_of_append valid

theorem isValid_shardPath : FilePath.isValid (site.shardPath text) = true := by
  have valid := site.isValid_path text
  rw [path_eq, String.append_assoc] at valid
  exact FilePath.isValid_of_append valid

theorem endsIn_shardPath :
    EndsIn (site.shardPath text) (FilePath.approach site.root) (shard (site.digest text)) :=
  ⟨site.isValid_shardPath text, site.segments_shardPath text, names_shard (site.isDigest text)⟩

/-- The path of a text ends in its leaf. -/
theorem endsIn_path :
    EndsIn (site.path text) (FilePath.approach site.root ++ [shard (site.digest text)])
      (leaf (site.digest text)) :=
  ⟨site.isValid_path text, site.segments_path text, names_leaf (site.isDigest text)⟩

theorem endsIn_temporary :
    EndsIn (SaveJob.temporaryPath (site.path text) number)
      (FilePath.approach site.root ++ [shard (site.digest text)])
      (leaf (site.digest text) ++ mark number) where
  valid := site.isValid_temporary text number
  split := by
    rw [temporaryPath_eq,
      FilePath.segments_append_plain (isPlain_mark number).noSlash (site.segments_path text)]
  names := names_temporary (site.isDigest text) number

/-- The parent of a path is the path of its shard. -/
theorem parent?_path : FilePath.parent? (site.path text) = some (site.shardPath text) := by
  rw [path_eq]
  exact FilePath.parent?_append_slash (site.segments_shardPath text)
    (names_shard (site.isDigest text)).named (isPlain_leaf (site.isDigest text)).noSlash
    (names_leaf (site.isDigest text)).named

/-- Files of different digests have different places. -/
theorem place_inj {site : Site} {text other : String} (same : site.place text = site.place other) :
    site.digest text = site.digest other := by
  obtain ⟨sameShard, sameLeaf⟩ := List.append_inj' same rfl
  obtain ⟨-, sameShard⟩ := List.append_inj' sameShard rfl
  rw [← shard_append_leaf (site.digest text), ← shard_append_leaf (site.digest other),
    (List.cons.inj sameShard).1, (List.cons.inj sameLeaf).1]

/-- A temporary file takes the place of no file. -/
theorem place_ne_temporaryPlace (other : String) :
    site.place text ≠ site.temporaryPlace other number := by
  intro same
  obtain ⟨-, sameLeaf⟩ := List.append_inj' same rfl
  exact leaf_ne_temporary (site.isDigest text) (site.isDigest other) number
    (List.cons.inj sameLeaf).1

theorem shardPlace_ne (other : String) (name : String) :
    site.shardPlace other ≠ site.shardPlace text ++ [name] := by
  intro same
  have lengths := congrArg List.length same
  simp [shardPlace] at lengths

/-! ## A tidy root -/

/-- The root is the directory at the site's home. -/
structure Settled (site : Site) (files : FileTree) : Prop where
  leads : files.follow (files.start site.root) (FilePath.segments site.root) = .ok site.home
  directory : files.node? site.home = some .directory

/-- Below the root there are directories where digests have theirs, and no directories
where they have files. -/
structure Tidy (site : Site) (files : FileTree) : Prop extends site.Settled files where
  shards : ∀ text content, files.node? (site.shardPlace text) ≠ some (.file content)
  records : ∀ text name, files.node? (site.shardPlace text ++ [name]) ≠ some .directory
  /-- Nothing is in a directory that is missing. -/
  missing : ∀ text name, files.node? (site.shardPlace text) = none →
    files.node? (site.shardPlace text ++ [name]) = none

/-- A root with nothing below it is tidy. -/
theorem Settled.tidy
    {site : Site}
    {files : FileTree}
    (settled : site.Settled files)
    (empty : ∀ first rest, files.node? (site.home ++ first :: rest) = none) :
    site.Tidy files where
  toSettled := settled
  shards text content := by rw [shardPlace, empty]; simp
  records text name := by rw [shardPlace, List.append_assoc]; simp [empty]
  missing text name _ := by rw [shardPlace, List.append_assoc]; exact empty _ _

variable {site} {files after : FileTree} {text : String} {number : Nat} {there : Place}

/-- A site stays settled as long as no directory goes away. -/
theorem Settled.of_keepsDirectories
    (settled : site.Settled files)
    (keeps : FileTree.KeepsDirectories files after) :
    site.Settled after where
  leads := by
    rw [keeps.start]
    exact keeps.follow settled.leads
  directory := keeps.directory _ settled.directory

/-- A path at the front of a file's path can be looked up. -/
theorem isValid_root (site : Site) : FilePath.isValid site.root = true := by
  have room := site.hasRoom
  rw [HasRoom, FilePath.join_of_relative (by decide)] at room
  have leadValid := FilePath.isValid_of_append room
  unfold FilePath.lead at leadValid
  split at leadValid
  · next empty => rw [empty]; rfl
  · split at leadValid
    · exact leadValid
    · exact FilePath.isValid_of_append leadValid

/-- The root of a settled site is its home. -/
theorem Settled.place_root
    (settled : site.Settled files)
    (nonempty : site.root ≠ "") :
    files.place site.root = .ok site.home := by
  rw [FileTree.place, if_neg nonempty, if_pos site.isValid_root]
  exact settled.leads

theorem Settled.follow_approach (settled : site.Settled files) :
    files.follow (files.start site.root) (FilePath.approach site.root) = .ok site.home := by
  have leads : files.follow (files.start site.root)
      (FilePath.approach site.root ++ [""]) = .ok site.home := by
    rw [← FilePath.segments_lead]
    obtain same | same := FilePath.segments_lead_eq site.root
    · rw [same]
      exact settled.leads
    · rw [same]
      exact FileTree.follow_append_eq_ok_iff.2
        ⟨_, settled.leads, FileTree.follow_idle_eq_ok_iff.2 ⟨rfl, settled.directory⟩⟩
  obtain ⟨between, reached, idle⟩ := FileTree.follow_append_eq_ok_iff.1 leads
  obtain ⟨rfl, -⟩ := FileTree.follow_idle_eq_ok_iff.1 idle
  exact reached

theorem start_lead_append (files : FileTree) {name : String}
    (relative : FilePath.isAbsolute name = false) :
    files.start (FilePath.lead site.root ++ name) = files.start site.root := by
  rw [FileTree.start, FileTree.start, FilePath.isAbsolute_lead_append relative]

/-- At a settled site the path of a shard leads to its place. -/
theorem Settled.place_shardPath (settled : site.Settled files) (text : String) :
    files.place (site.shardPath text) = .ok (site.shardPlace text) := by
  rw [(site.endsIn_shardPath text).place_eq_ok_iff]
  refine ⟨site.home, ?_, rfl, settled.directory⟩
  rw [shardPath, start_lead_append files (site.relative_shard text)]
  exact settled.follow_approach

/-- What names something in the directory of a key text is found there. -/
theorem Settled.place_below
    (settled : site.Settled files)
    {path name : String}
    (startsAlike : files.start path = files.start site.root)
    (ends : EndsIn path (FilePath.approach site.root ++ [shard (site.digest text)]) name) :
    files.place path = .ok there ↔
      site.shardPlace text ++ [name] = there ∧
        files.node? (site.shardPlace text) = some .directory := by
  have reached : files.follow (files.start path)
      (FilePath.approach site.root ++ [shard (site.digest text)]) = .ok (site.shardPlace text) := by
    rw [startsAlike]
    refine FileTree.follow_append_eq_ok_iff.2 ⟨_, settled.follow_approach, ?_⟩
    exact (FileTree.follow_name_eq_ok_iff (names_shard (site.isDigest text))).2
      ⟨rfl, settled.directory⟩
  rw [ends.place_eq_ok_iff]
  constructor
  · rintro ⟨directory, followed, same, node⟩
    rw [reached] at followed
    cases followed
    exact ⟨same, node⟩
  · rintro ⟨same, node⟩
    exact ⟨_, reached, same, node⟩

theorem start_path (site : Site) (files : FileTree) (text : String) :
    files.start (site.path text) = files.start site.root := by
  rw [path, FilePath.join_of_relative (site.relative_splitDigest text),
    start_lead_append files (site.relative_splitDigest text)]

theorem start_temporary (site : Site) (files : FileTree) (text : String) (number : Nat) :
    files.start (SaveJob.temporaryPath (site.path text) number) = files.start site.root := by
  have start := start_path site files text
  rw [FileTree.start, FileTree.start] at start ⊢
  rw [temporaryPath_eq, FilePath.isAbsolute_append (site.endsIn_path text).ne_empty]
  exact start

/-- Where its shard is a directory, the path of a text leads to its place. -/
theorem Settled.fileEntry?_path
    (settled : site.Settled files)
    (directory : files.node? (site.shardPlace text) = some .directory) :
    files.fileEntry? (site.path text) = some (site.place text) := by
  rw [(site.endsIn_path text).fileEntry?_eq_some_iff,
    settled.place_below (start_path site files text) (site.endsIn_path text)]
  exact ⟨rfl, directory⟩

/-- Where its shard is a directory, a temporary path leads to its place. -/
theorem Settled.fileEntry?_temporary
    (settled : site.Settled files)
    (directory : files.node? (site.shardPlace text) = some .directory)
    (number : Nat) :
    files.fileEntry? (SaveJob.temporaryPath (site.path text) number) =
      some (site.temporaryPlace text number) := by
  rw [(site.endsIn_temporary text number).fileEntry?_eq_some_iff,
    settled.place_below (start_temporary site files text number) (site.endsIn_temporary text number)]
  exact ⟨rfl, directory⟩

/-- At a tidy site a shard is a directory or not there. -/
theorem Tidy.shard_cases (tidy : site.Tidy files) (text : String) :
    files.node? (site.shardPlace text) = none ∨
      files.node? (site.shardPlace text) = some .directory := by
  cases node : files.node? (site.shardPlace text) with
  | none => exact Or.inl rfl
  | some found =>
      cases found with
      | file content => exact absurd node (tidy.shards text content)
      | directory => exact Or.inr rfl

/-- What is read at the path of a key text is what is at its place. -/
theorem Tidy.read?_path (tidy : site.Tidy files) (text : String) :
    files.read? (site.path text) = files.contentAt? (site.place text) := by
  obtain missing | directory := tidy.shard_cases text
  · have nothing : files.contentAt? (site.place text) = none := by
      rw [FileTree.contentAt?, place, tidy.missing text _ missing]
      rfl
    have nowhere : ∀ there, files.place (site.path text) ≠ .ok there := by
      intro there reached
      obtain ⟨-, node⟩ := (tidy.toSettled.place_below (start_path site files text)
        (site.endsIn_path text)).1 reached
      rw [missing] at node
      cases node
    rw [nothing, FileTree.read?, FileTree.found?]
    cases reached : files.place (site.path text) with
    | error fault => rfl
    | ok there => exact absurd reached (nowhere there)
  · have found := tidy.toSettled.fileEntry?_path directory
    exact FileTree.read?_eq_contentAt? (FileTree.place_of_fileEntry found)

end Site
end DiskTier
end FragmentCache
