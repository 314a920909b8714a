/-!
# Points in time and durations

Times are whole Unix seconds in a signed 64-bit word; sums and differences of
them saturate at the ends of the word.  A duration is a number of nanoseconds.
-/

namespace FragmentCache

/-- Unix time in whole seconds. -/
abbrev Timestamp := Int64

namespace Timestamp

/-- The value that stands for an unknown or absent point in time. -/
def undefined : Timestamp := 0

/-- Largest number of seconds a timestamp can hold. -/
def maxSeconds : Int := Int64.maxValue.toInt

/-- The time that lies `seconds` after another one, saturating. -/
def saturatingAdd (time seconds : Timestamp) : Timestamp :=
  Int64.ofIntClamp (time.toInt + seconds.toInt)

/-- The seconds from `earlier` up to `later`, saturating. -/
def saturatingSub (later earlier : Timestamp) : Timestamp :=
  Int64.ofIntClamp (later.toInt - earlier.toInt)

end Timestamp

/-- A span of time of either whole or fractional seconds. -/
structure Duration where
  /-- Length in nanoseconds. -/
  nanoseconds : Nat
  deriving DecidableEq, Inhabited

namespace Duration

instance : LE Duration := ⟨fun left right => left.nanoseconds ≤ right.nanoseconds⟩

instance : LT Duration := ⟨fun left right => left.nanoseconds < right.nanoseconds⟩

instance (left right : Duration) : Decidable (left ≤ right) :=
  inferInstanceAs (Decidable (left.nanoseconds ≤ right.nanoseconds))

instance (left right : Duration) : Decidable (left < right) :=
  inferInstanceAs (Decidable (left.nanoseconds < right.nanoseconds))

instance : Min Duration := ⟨fun left right => if left ≤ right then left else right⟩

/-- The empty span. -/
def zero : Duration := ⟨0⟩

/-- A span of whole seconds. -/
def seconds (count : Nat) : Duration := ⟨count * 1000000000⟩

/-- A span of whole milliseconds. -/
def milliseconds (count : Nat) : Duration := ⟨count * 1000000⟩

/-- The longest span: all seconds of an unsigned 64-bit word, and a fraction
of one nanosecond less than another second. -/
def longest : Duration := ⟨(UInt64.size - 1) * 1000000000 + 999999999⟩

/-- Whole seconds in a span. -/
def wholeSeconds (span : Duration) : Nat := span.nanoseconds / 1000000000

/-- Whole milliseconds in a span. -/
def wholeMilliseconds (span : Duration) : Nat := span.nanoseconds / 1000000

/-- Nanoseconds past the last whole second. -/
def subsecond (span : Duration) : Nat := span.nanoseconds % 1000000000

/-- Whole seconds in a span as a number of timestamp seconds, saturating. -/
def clampedSeconds (span : Duration) : Timestamp :=
  Int64.ofIntClamp span.wholeSeconds

end Duration

end FragmentCache
