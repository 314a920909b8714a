import FragmentCache.Decimal.Fixed

/-!
# Shortest decimals

The shortest decimal of a binary number has the fewest digits among those that
round to the number, and lies closest to it among those of its length.
-/

namespace FragmentCache
namespace Decimal

/-- The value `digits * 10 ^ exponent`. -/
structure Scaled where
  /-- Decimal digits, read as a number. -/
  digits : Nat
  /-- Weight of the last digit. -/
  exponent : Int
  deriving DecidableEq

/-- Exponent of the leading digit of a positive fraction below one. -/
def leadingBelowOne (numerator denominator : Nat) : Nat → Int
  | 0 => 0
  | fuel + 1 =>
    if denominator ≤ 10 * numerator then -1
    else leadingBelowOne (10 * numerator) denominator fuel - 1

/-- Exponent of the leading digit of a positive magnitude. -/
def leadingExponent (magnitude : Magnitude) : Int :=
  let whole := magnitude.numerator / magnitude.denominator
  if whole = 0 then
    leadingBelowOne magnitude.numerator magnitude.denominator
      (-magnitude.exponent).toNat
  else (Nat.toDigits 10 whole).length - 1

/-- Order of `digits * 10 ^ exponent` and `numerator / denominator`. -/
def compareScaled (scaled : Scaled) (numerator denominator : Nat) : Ordering :=
  compare (scaled.digits * Nat.pow 10 scaled.exponent.toNat * denominator)
    (numerator * Nat.pow 10 (-scaled.exponent).toNat)

/-- Whether a decimal rounds to a binary number.  The numbers that do reach up
to the midpoints to both neighbours, and include the midpoints when the mantissa
is even; the neighbour below a power of two is half as far away. -/
def roundsTo (magnitude : Magnitude) (scaled : Scaled) : Bool :=
  let below :=
    if magnitude.mantissa = Magnitude.fractionRange ∧ Magnitude.leastExponent < magnitude.exponent
    then 1 else 2
  let weight := Nat.pow 2 magnitude.exponent.toNat
  let denominator := 4 * magnitude.denominator
  let lower := compareScaled scaled ((4 * magnitude.mantissa - below) * weight) denominator
  let upper := compareScaled scaled ((4 * magnitude.mantissa + 2) * weight) denominator
  if magnitude.mantissa % 2 = 0 then lower != .lt && upper != .gt
  else lower == .gt && upper == .lt

/-- The decimal of a given length closest to a magnitude, when it rounds to it. -/
def ofLength? (magnitude : Magnitude) (leading : Int) (length : Nat) : Option Scaled :=
  let exponent := leading + 1 - length
  let numerator := magnitude.numerator * Nat.pow 10 (-exponent).toNat
  let denominator := magnitude.denominator * Nat.pow 10 exponent.toNat
  let below : Scaled := ⟨numerator / denominator, exponent⟩
  let above : Scaled := ⟨numerator / denominator + 1, exponent⟩
  match roundsTo magnitude below, roundsTo magnitude above with
  | true, true =>
    some (if roundHalfEven numerator denominator = below.digits then below else above)
  | true, false => some below
  | false, true => some above
  | false, false => none

/-- Remove zeros from the end of the digits. -/
def stripZeros : Nat → Scaled → Scaled
  | 0, scaled => scaled
  | fuel + 1, scaled =>
    if scaled.digits % 10 = 0 then
      stripZeros fuel ⟨scaled.digits / 10, scaled.exponent + 1⟩
    else scaled

/-- Shortest decimal of a positive magnitude; seventeen digits always suffice. -/
def shortest (magnitude : Magnitude) : Scaled :=
  let leading := leadingExponent magnitude
  let found := (List.range 17).findSome? fun index =>
    ofLength? magnitude leading (index + 1)
  stripZeros 17 (found.getD ⟨0, 0⟩)

end Decimal
end FragmentCache
