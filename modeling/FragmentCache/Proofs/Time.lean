import FragmentCache.Time
import Mathlib.Algebra.Group.Int.Defs

/-!
# Exact values of saturated times

A saturated sum or difference of timestamps is the exact one, cut off at the ends of the
word; so is the number of whole seconds in a span.  Spans are ordered by their lengths.
-/

namespace FragmentCache

/-! ## Timestamps -/

namespace Timestamp

theorem toInt_ofIntClamp (number : Int) :
    (Int64.ofIntClamp number).toInt = max (-2 ^ 63) (min number maxSeconds) := by
  have lowest : Int64.minValue.toInt = -2 ^ 63 := rfl
  have highest : Int64.maxValue.toInt = maxSeconds := rfl
  have range : (-2 ^ 63 : Int) ≤ maxSeconds := by decide
  rw [Int64.ofIntClamp]
  split
  · split
    · rw [Int64.toInt_ofIntLE]
      omega
    · rw [highest]
      omega
  · rw [lowest]
    omega

/-- Sums that leave the range of timestamps stay at its ends. -/
theorem toInt_saturatingAdd (time seconds : Timestamp) :
    (time.saturatingAdd seconds).toInt =
      max (-2 ^ 63) (min (time.toInt + seconds.toInt) maxSeconds) :=
  toInt_ofIntClamp _

/-- Differences that leave the range of timestamps stay at its ends. -/
theorem toInt_saturatingSub (later earlier : Timestamp) :
    (later.saturatingSub earlier).toInt =
      max (-2 ^ 63) (min (later.toInt - earlier.toInt) maxSeconds) :=
  toInt_ofIntClamp _

theorem le_maxSeconds (time : Timestamp) : time.toInt ≤ maxSeconds := Int64.toInt_le time

theorem lowest_le (time : Timestamp) : -2 ^ 63 ≤ time.toInt := time.le_toInt

end Timestamp

/-! ## Spans -/

namespace Duration

variable {left right span : Duration}

theorem le_iff : left ≤ right ↔ left.nanoseconds ≤ right.nanoseconds := Iff.rfl

instance : Std.IsLinearOrder Duration where
  le_refl span := Nat.le_refl span.nanoseconds
  le_trans _ _ _ := Nat.le_trans
  le_antisymm _ _ below above := congrArg Duration.mk (Nat.le_antisymm below above)
  le_total left right := Nat.le_total left.nanoseconds right.nanoseconds

instance : Std.LawfulOrderMin Duration where
  min_eq_or left right := by
    change (if left ≤ right then left else right) = left ∨
      (if left ≤ right then left else right) = right
    split
    · exact .inl rfl
    · exact .inr rfl
  le_min_iff span left right := by
    change span ≤ (if left ≤ right then left else right) ↔ span ≤ left ∧ span ≤ right
    split <;> simp only [le_iff] at * <;> omega

/-- A span that is longer than timestamps can say counts as the longest they can. -/
theorem toInt_clampedSeconds (span : Duration) :
    span.clampedSeconds.toInt = min (span.wholeSeconds : Int) Timestamp.maxSeconds := by
  have range : (-2 ^ 63 : Int) ≤ Timestamp.maxSeconds := by decide
  rw [clampedSeconds, Timestamp.toInt_ofIntClamp]
  omega

/-- A span is its whole seconds and what is left of the last one. -/
theorem nanoseconds_eq (span : Duration) :
    (span.nanoseconds : Int) = span.wholeSeconds * 1000000000 + span.subsecond := by
  unfold wholeSeconds subsecond
  omega

end Duration
end FragmentCache
