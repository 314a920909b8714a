/-!
# Decimals with a fixed number of places

The magnitude of a finite binary number of 64 bits is `mantissa * 2 ^ exponent`.
Decimal texts are computed from it in exact arithmetic: with a fixed number of places, the
text is the decimal of that many places closest to the exact value.
-/

namespace FragmentCache
namespace Decimal

/-! ## Exact magnitudes of binary numbers -/

/-- The value `mantissa * 2 ^ exponent`. -/
structure Magnitude where
  /-- Significant bits. -/
  mantissa : Nat
  /-- Weight of the last bit. -/
  exponent : Int
  deriving DecidableEq

namespace Magnitude

/-- One more than the largest fraction, which has 52 bits. -/
def fractionRange : Nat := 0x10000000000000

/-- One more than the largest biased exponent, which has 11 bits. -/
def exponentRange : Nat := 0x800

/-- Weight of the last bit of the smallest numbers. -/
def leastExponent : Int := -1074

/-- Magnitude of the finite number with the given bits. -/
def ofBits (bits : UInt64) : Magnitude :=
  let fraction := bits.toNat % fractionRange
  let biased := bits.toNat / fractionRange % exponentRange
  if biased = 0 then ⟨fraction, leastExponent⟩
  else ⟨fractionRange + fraction, leastExponent + (biased - 1 : Nat)⟩

/-- Numerator of the magnitude as a fraction. -/
def numerator (magnitude : Magnitude) : Nat :=
  magnitude.mantissa * Nat.pow 2 magnitude.exponent.toNat

/-- Denominator of the magnitude as a fraction. -/
def denominator (magnitude : Magnitude) : Nat :=
  Nat.pow 2 (-magnitude.exponent).toNat

end Magnitude

/-- Whether the sign bit is set. -/
def isNegative (bits : UInt64) : Bool := Magnitude.fractionRange * Magnitude.exponentRange ≤ bits.toNat

/-- The whole number closest to a fraction; a tie goes to the even neighbour. -/
def roundHalfEven (numerator denominator : Nat) : Nat :=
  let quotient := numerator / denominator
  let remainder := numerator % denominator
  if 2 * remainder < denominator then quotient
  else if denominator < 2 * remainder then quotient + 1
  else quotient + quotient % 2

/-! ## A fixed number of places -/

/-- Digits of a number, filled up with zeros on the left. -/
def paddedDigits (width number : Nat) : List Char :=
  let digits := Nat.toDigits 10 number
  List.replicate (width - digits.length) '0' ++ digits

/-- Text of a finite number with a positive number of decimal places. -/
def fixed (places : Nat) (value : Float) : String :=
  let magnitude := Magnitude.ofBits value.toBits
  let unit := Nat.pow 10 places
  let scaled := roundHalfEven (magnitude.numerator * unit) magnitude.denominator
  let sign := if isNegative value.toBits then ['-'] else []
  String.ofList (sign ++ Nat.toDigits 10 (scaled / unit) ++
    '.' :: paddedDigits places (scaled % unit))

end Decimal
end FragmentCache
