/-!
# Paths

A path is a text of segments with slashes between them.  An empty segment or a
single dot leads nowhere, two dots lead to the directory above.
-/

namespace FragmentCache
namespace FilePath

/-- Split characters at slashes. -/
def splitAtSlashes : List Char → List (List Char)
  | [] => [[]]
  | '/' :: rest => [] :: splitAtSlashes rest
  | character :: rest =>
    match splitAtSlashes rest with
    | [] => [[character]]
    | first :: others => (character :: first) :: others

/-- The text between slashes. -/
def segments (path : String) : List String :=
  (splitAtSlashes path.toList).map String.ofList

/-- Whether a path starts at the root of the file system. -/
def isAbsolute (path : String) : Bool := path.toList.head? == some '/'

/-- Whether a path ends in a slash. -/
def endsInSlash (path : String) : Bool := path.toList.getLast? == some '/'

/-- The path of a name in a directory; an absolute path stands for itself. -/
def join (directory name : String) : String :=
  if isAbsolute name || directory == "" then name
  else if endsInSlash directory then directory ++ name
  else directory ++ "/" ++ name

/-! ## Directories above -/

/-- Whether a segment leads nowhere. -/
def isIdle (segment : String) : Bool := segment == "" || segment == "."

/-- The path with some segments, the last of them first. -/
def ofReversed (segments : List String) : String :=
  if segments = [""] then "/" else "/".intercalate segments.reverse

/-- The paths that end in a segment that is not idle, among those that start with the
same segments, the longest first.  The first segment counts in any case. -/
def ancestorsOf : List String → List String
  | [] => []
  | [first] => if first = "" then ["/"] else [first, ""]
  | segment :: above =>
    if isIdle segment then ancestorsOf above
    else ofReversed (segment :: above) :: ancestorsOf above

/-- The paths of the directories above, the nearest first.  A relative path lies
in the end below the empty one. -/
def parents (path : String) : List String :=
  if path = "" then [] else (ancestorsOf (segments path).reverse).tail

/-- The path of the directory that a path lies in. -/
def parent? (path : String) : Option String := (parents path).head?

/-! ## Limits -/

/-- Largest number of bytes in a name. -/
def longestName : Nat := 255

/-- Largest number of bytes in a path. -/
def longestPath : Nat := 4095

/-- Whether a segment can be looked up in a directory. -/
def isName (segment : String) : Bool := segment.utf8ByteSize ≤ longestName

/-- Whether a path can be looked up. -/
def isValid (path : String) : Bool :=
  path.utf8ByteSize ≤ longestPath && !path.toList.contains '\x00'

example : parents "/a//b/./c/." = ["/a//b", "/a", "/"] := by decide +kernel

example : parents "./a/.." = ["./a", ".", ""] := by decide +kernel

end FilePath
end FragmentCache
