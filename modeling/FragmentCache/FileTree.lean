import FragmentCache.FileTree.Path
import FragmentCache.Table
import FragmentCache.Text.Bytes

/-!
# File trees

A file tree holds files and directories, one of which is the working directory that
relative paths start from.  There are no links and no permissions.  An operation
that fails leaves the tree as it was, apart from directories that it made or
cleared on the way.
-/

namespace FragmentCache
namespace FileTree

/-- What is found at a place. -/
inductive Node where
  | file (content : Bytes)
  | directory
  deriving DecidableEq

/-- A place: the names that lead to it from the root. -/
abbrev Place := List String

/-- Why a path leads nowhere. -/
inductive Fault where
  /-- There is nothing at it, or at a directory on the way. -/
  | missing
  /-- It cannot be what is asked for. -/
  | refused
  deriving DecidableEq

end FileTree

/-- Files and directories by place. -/
structure FileTree where
  nodes : Table FileTree.Place FileTree.Node := .empty
  /-- Where relative paths start. -/
  workingDirectory : FileTree.Place := []

namespace FileTree

instance : Inhabited FileTree := ⟨{}⟩

/-- The tree without files. -/
def empty : FileTree := {}

/-- What is at a place; the root is always there. -/
def node? (tree : FileTree) (place : Place) : Option Node :=
  if place = [] then some .directory else tree.nodes.find? place

/-- Put something at a place. -/
def setNode (tree : FileTree) (place : Place) (node : Node) : FileTree :=
  { tree with nodes := tree.nodes.put place node }

/-- Remove what is at a place. -/
def eraseNode (tree : FileTree) (place : Place) : FileTree :=
  { tree with nodes := tree.nodes.erase place }

theorem node?_setNode
    (tree : FileTree)
    {place : Place}
    (inside : place ≠ [])
    (node : Node)
    (other : Place) :
    (tree.setNode place node).node? other =
      if other = place then some node else tree.node? other := by
  simp only [node?, setNode, Table.find?_put]
  split <;> grind

theorem node?_eraseNode
    (tree : FileTree)
    {place : Place}
    (inside : place ≠ [])
    (other : Place) :
    (tree.eraseNode place).node? other = if other = place then none else tree.node? other := by
  simp only [node?, eraseNode, Table.find?_erase]
  split <;> grind

/-! ## Places -/

/-- Where a path starts. -/
def start (tree : FileTree) (path : String) : Place :=
  if FilePath.isAbsolute path then [] else tree.workingDirectory

/-- The place that segments lead to from another one.  What a segment is looked up
in has to be a directory; two dots at the root stay there. -/
def follow (tree : FileTree) (here : Place) : List String → Except Fault Place
  | [] => .ok here
  | segment :: rest =>
    match tree.node? here with
    | none => .error .missing
    | some (.file _) => .error .refused
    | some .directory =>
      if FilePath.isIdle segment then tree.follow here rest
      else if segment = ".." then tree.follow here.dropLast rest
      else if FilePath.isName segment then tree.follow (here ++ [segment]) rest
      else .error .refused

@[simp] theorem follow_nil (tree : FileTree) (here : Place) : tree.follow here [] = .ok here :=
  rfl

/-- The place of a path. -/
def place (tree : FileTree) (path : String) : Except Fault Place :=
  if path = "" then .error .missing
  else if FilePath.isValid path then tree.follow (tree.start path) (FilePath.segments path)
  else .error .refused

/-- The place of the name that a path ends in, where something may be made or
removed.  The directory above has to be there. -/
def entry (tree : FileTree) (path : String) : Except Fault Place :=
  if path = "" then .error .missing
  else if !FilePath.isValid path then .error .refused
  else match (FilePath.segments path).reverse.dropWhile (· == "") with
    | [] => .error .refused
    | last :: above => do
      let directory ← tree.follow (tree.start path) ("" :: above).reverse
      if last = "." ∨ last = ".." ∨ !FilePath.isName last then .error .refused
      else return directory ++ [last]

/-- The place of the name that the path of a file ends in. -/
def fileEntry? (tree : FileTree) (path : String) : Option Place :=
  if FilePath.endsInSlash path then none else (tree.entry path).toOption

/-- What is at a path. -/
def found? (tree : FileTree) (path : String) : Option Node :=
  (tree.place path).toOption.bind tree.node?

/-! ## Files -/

/-- Content of the file at a path. -/
def read? (tree : FileTree) (path : String) : Option Bytes :=
  match tree.found? path with
  | some (.file content) => some content
  | _ => none

/-- Put a file at a path where no directory is. -/
def write? (tree : FileTree) (path : String) (content : Bytes) : Option FileTree := do
  let place ← tree.fileEntry? path
  if tree.node? place = some .directory then none
  else some (tree.setNode place (.file content))

/-- Content after some bytes were written over it at an offset; a gap before them is
filled with zeros. -/
def overwrittenAt (offset : Nat) (bytes content : Bytes) : Bytes :=
  content.take offset ++ List.replicate (offset - content.length) 0 ++ bytes ++
    content.drop (offset + bytes.length)

/-- Write some bytes over the file at a path. -/
def overwrite? (tree : FileTree) (path : String) (offset : Nat) (bytes : Bytes) :
    Option FileTree := do
  let content ← tree.read? path
  tree.write? path (overwrittenAt offset bytes content)

/-- Remove the file at a path. -/
def removeFile? (tree : FileTree) (path : String) : Option FileTree := do
  let place ← tree.fileEntry? path
  match tree.node? place with
  | some (.file _) => some (tree.eraseNode place)
  | _ => none

/-- Move the file at a path to another one, in place of a file that is there. -/
def rename? (tree : FileTree) (source target : String) : Option FileTree := do
  let content ← tree.read? source
  let moved ← tree.write? target content
  if tree.fileEntry? source = tree.fileEntry? target then some tree
  else moved.removeFile? source

/-! ## Directories -/

/-- Whether a directory is at a path. -/
def isDirectory (tree : FileTree) (path : String) : Bool :=
  tree.found? path == some .directory

/-- Make a directory where nothing is. -/
def makeDirectory (tree : FileTree) (path : String) : Except Fault FileTree := do
  let place ← tree.entry path
  if (tree.node? place).isSome then .error .refused
  else return tree.setNode place .directory

/-- Make the first of some directories, of which each lies in the next one, and those
that are missing for it; false when one cannot be made. -/
def makeDirectoriesAlong (tree : FileTree) : List String → FileTree × Bool
  | [] => (tree, false)
  | path :: parents =>
    if path = "" then (tree, true)
    else match tree.makeDirectory path with
      | .ok made => (made, true)
      | .error .refused => (tree, tree.isDirectory path)
      | .error .missing =>
        match tree.makeDirectoriesAlong parents with
        | (tree, false) => (tree, false)
        | (tree, true) =>
          match tree.makeDirectory path with
          | .ok made => (made, true)
          | .error _ => (tree, tree.isDirectory path)

/-- Make a directory and the missing ones above it. -/
def makeDirectories (tree : FileTree) (path : String) : FileTree × Bool :=
  tree.makeDirectoriesAlong (path :: FilePath.parents path)

/-- Remove all that is below a place. -/
def clear (tree : FileTree) (place : Place) : FileTree :=
  (tree.nodes.keys.filter fun other => place.isPrefixOf other && other != place).foldl
    eraseNode tree

/-- Remove a directory with all that is below it; false when the directory itself
cannot be removed.  One whose path leads through what is below it is left. -/
def removeDirectory (tree : FileTree) (path : String) : FileTree × Bool :=
  match tree.place path with
  | .error _ => (tree, false)
  | .ok place =>
    if tree.node? place = some .directory then
      let cleared := tree.clear place
      match cleared.entry path with
      | .ok entry => (cleared.eraseNode entry, true)
      | .error fault => (cleared, fault == .missing)
    else (tree, false)

/-- Path and size of what is at a place, seen from a directory above it; a
directory's path ends in a slash and its size is zero. -/
def listedNode (depth : Nat) (place : Place) (node : Node) : String × Nat :=
  let path := "/".intercalate (place.drop depth)
  match node with
  | .file content => (path, content.length)
  | .directory => (path ++ "/", 0)

/-- Paths and sizes of all that is below a directory, in the order of paths. -/
def listing (tree : FileTree) (directory : Place) : List (String × Nat) :=
  let below := tree.nodes.entries.filter fun (place, _) =>
    directory.isPrefixOf place && directory.length < place.length
  (below.map fun (place, node) => listedNode directory.length place node).mergeSort
    fun first second => first.1 ≤ second.1

end FileTree
end FragmentCache
