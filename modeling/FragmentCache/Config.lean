import FragmentCache.Text.Classes
import FragmentCache.Text.Numeral
import FragmentCache.Time

/-!
# Configuration

Settings are read from a source by paths such as `/cache/threads`.  A setting that
is missing or cannot be read has its default value.
-/

namespace FragmentCache

/-- Where settings come from. -/
structure ConfigSource where
  /-- Text of the scalar at a path. -/
  value : String → Option String
  /-- Paths of the direct children of a path. -/
  subKeys : String → List String
  /-- Whether anything is configured at a path. -/
  contains : String → Bool := fun path => (value path).isSome || !(subKeys path).isEmpty

namespace Config

/-- Why a configuration cannot be used. -/
inductive Fault where
  | unreadableFile (path : String)
  | malformedJson
  | missingRoot (sectionPath : String)
  | rootNotCreated (path : String)
  deriving DecidableEq

/-- Text of a fault. -/
def Fault.message : Fault → String
  | unreadableFile path => "Failed to read configuration file " ++ path
  | malformedJson => "Failed to parse JSON configuration"
  | missingRoot sectionPath => "Disk cache requires " ++ sectionPath ++ "/root-dir"
  | rootNotCreated path => "Failed to create disk cache root " ++ path

/-- Largest number of a word of 64 bits. -/
def largestWord : Nat := UInt64.size - 1

end Config

namespace ConfigSource

/-- The value at a path, read without the blanks around it. -/
def valueOr {α : Type} (source : ConfigSource) (read : String → Option α) (path : String)
    (default : α) : α :=
  match source.value path with
  | some text => (read (String.ofList (Text.trim text.toList))).getD default
  | none => default

/-- The text at a path. -/
def textOr (source : ConfigSource) (path default : String) : String :=
  source.valueOr some path default

/-- The natural number of at most `largest` at a path. -/
def naturalOr (source : ConfigSource) (largest : Nat) (path : String) (default : Nat) : Nat :=
  source.valueOr (Text.readNatural largest) path default

/-- The word of 64 bits at a path. -/
def wordOr (source : ConfigSource) (path : String) (default : Nat) : Nat :=
  source.naturalOr Config.largestWord path default

/-- The signed number at a path. -/
def integerOr (source : ConfigSource) (path : String) (default : Int64) : Int64 :=
  source.valueOr Text.readInteger path default

/-- The truth value at a path. -/
def boolOr (source : ConfigSource) (path : String) (default : Bool) : Bool :=
  source.valueOr Text.readBool path default

/-- The whole seconds at a path; of the default only whole seconds count. -/
def secondsOr (source : ConfigSource) (path : String) (default : Duration) : Duration :=
  .seconds (source.wordOr path default.wholeSeconds)

/-- The whole milliseconds at a path; of the default only those that fit a word
count. -/
def millisecondsOr (source : ConfigSource) (path : String) (default : Duration) : Duration :=
  .milliseconds (source.wordOr path (min default.wholeMilliseconds Config.largestWord))

end ConfigSource
end FragmentCache
