import FragmentCache.Config
import FragmentCache.FileTree
import FragmentCache.Json.Read

/-!
# Configuration trees

A JSON value as a source of settings.  A path leads through the members of
objects and, by number, through the items of arrays; empty names in it are
skipped.
-/

namespace FragmentCache

/-- Settings held in a JSON value. -/
structure ConfigTree where
  root : Json := .null

namespace ConfigTree

/-- The tree that a JSON text holds. -/
def ofText (text : String) : Except Config.Fault ConfigTree :=
  match Json.ofText? text with
  | some root => .ok { root }
  | none => .error .malformedJson

/-- The tree that a file holds. -/
def ofFile (files : FileTree) (path : String) : Except Config.Fault ConfigTree :=
  match (files.read? path).bind Text.ofBytes? with
  | some text => ofText text
  | none => .error (.unreadableFile path)

/-- The child of a value under a name. -/
def child? (node : Json) (name : String) : Option Json :=
  match node with
  | .object members => Json.member? members name
  | .array items => do items[← Text.readNatural Config.largestWord name]?
  | _ => none

/-- The names in a path. -/
def names (path : String) : List String :=
  (FilePath.segments path).filter fun name => name != ""

/-- The value at a path. -/
def node? (tree : ConfigTree) (path : String) : Option Json :=
  (names path).foldlM child? tree.root

/-- Text of a scalar. -/
def scalarText? : Json → Option String
  | .string text => some text
  | .number number => some number.text
  | .bool value => some (toString value)
  | .null | .array _ | .object _ => none

/-- Names of the children of a value. -/
def childNames : Json → List String
  | .object members => members.map Prod.fst
  | .array items => (List.range items.length).map toString
  | _ => []

/-- A path without the slashes at its end. -/
def basePath (path : String) : String :=
  String.ofList (path.toList.reverse.dropWhile (· == '/')).reverse

/-- Text of the scalar at a path. -/
def value (tree : ConfigTree) (path : String) : Option String :=
  (tree.node? path).bind scalarText?

/-- Paths of the direct children of a path. -/
def subKeys (tree : ConfigTree) (path : String) : List String :=
  match tree.node? path with
  | some node => (childNames node).map fun name => basePath path ++ "/" ++ name
  | none => []

/-- Whether anything but null is at a path. -/
def contains (tree : ConfigTree) (path : String) : Bool :=
  match tree.node? path with
  | some .null | none => false
  | some _ => true

/-- The tree as a source of settings. -/
def toSource (tree : ConfigTree) : ConfigSource where
  value := tree.value
  subKeys := tree.subKeys
  contains := tree.contains

end ConfigTree
end FragmentCache
