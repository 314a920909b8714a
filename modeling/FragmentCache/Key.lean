import FragmentCache.Digest.Sha256

/-!
# Invocations and keys

An invocation names what was called and with which parameters.  Its key text
joins the parts with bars; bars and backslashes inside a part are escaped.  A key
also holds the identifier that a tier stores the entry under.
-/

namespace FragmentCache

/-- What a cached document is the result of. -/
structure Invocation where
  /-- Stylesheet applied to the result, when it depends on one. -/
  stylesheet : Option String := none
  /-- Name of the method or page. -/
  method : String
  /-- Parameters in call order. -/
  params : List String := []
  deriving DecidableEq, Inhabited

namespace KeyText

/-- Character between the parts. -/
def separator : Char := '|'

/-- Character before an escaped one. -/
def escape : Char := '\\'

/-- A character as it stands inside a part. -/
def escaped (character : Char) : List Char :=
  if character = separator ∨ character = escape then [escape, character] else [character]

/-- A part as it stands in a key text. -/
def part (text : String) : List Char := text.toList.flatMap escaped

/-- The parts joined by separators. -/
def join : List String → List Char
  | [] => []
  | [last] => part last
  | first :: rest => part first ++ separator :: join rest

end KeyText

namespace Invocation

/-- The parts of the key text; a missing stylesheet counts as an empty one. -/
def parts (invocation : Invocation) : List String :=
  invocation.stylesheet.getD "" :: invocation.method :: invocation.params

/-- Key text of an invocation. -/
def keyText (invocation : Invocation) : String :=
  String.ofList (KeyText.join invocation.parts)

end Invocation

/-- The key of an entry in a tier. -/
structure Key where
  /-- Key text of the invocation. -/
  text : String
  /-- What the tier stores the entry under. -/
  storageId : String
  deriving DecidableEq, Inhabited

namespace Key

/-- The key stored under its text. -/
def raw (invocation : Invocation) : Key := ⟨invocation.keyText, invocation.keyText⟩

/-- The key stored under a digest of its text. -/
def hashed (digest : String → String) (invocation : Invocation) : Key :=
  ⟨invocation.keyText, digest invocation.keyText⟩

/-- Number of leading characters of a digest that name the directory. -/
def directoryWidth : Nat := 2

/-- A digest as a path of a directory and a file in it. -/
def splitDigest (digest : String) : String :=
  String.ofList
    (digest.toList.take directoryWidth ++ '/' :: digest.toList.drop directoryWidth)

/-- The key stored under a digest of its text, split into a directory and a file. -/
def filed (digest : String → String) (invocation : Invocation) : Key :=
  ⟨invocation.keyText, splitDigest (digest invocation.keyText)⟩

@[simp] theorem raw_storageId (invocation : Invocation) :
    (raw invocation).storageId = invocation.keyText := rfl

end Key
end FragmentCache
