import FragmentCache.Time

/-!
# Reading numbers and truth values

A number is a nonempty run of decimal digits after an optional sign, and has to
fit its type.  Leading zeros are allowed, surrounding blanks are not.
-/

namespace FragmentCache
namespace Text

/-- Value of a decimal digit. -/
def digitValue? (character : Char) : Option Nat :=
  if character.isDigit then some (character.toNat - 48) else none

/-- Value of a nonempty run of decimal digits. -/
def digitsValue? : List Char → Option Nat
  | [] => none
  | digits => digits.foldlM (fun value character =>
      (digitValue? character).map (10 * value + ·)) 0

/-- Read an unsigned number of at most `largest`; a plus sign may precede it. -/
def readNatural (largest : Nat) (text : String) : Option Nat := do
  let value ← match text.toList with
    | '+' :: digits => digitsValue? digits
    | digits => digitsValue? digits
  guard (value ≤ largest)
  return value

/-- Read a signed number of 64 bits; either sign may precede it. -/
def readInteger (text : String) : Option Int64 := do
  let value : Int ← match text.toList with
    | '+' :: digits => (digitsValue? digits).map Int.ofNat
    | '-' :: digits => (digitsValue? digits).map fun value => -Int.ofNat value
    | digits => (digitsValue? digits).map Int.ofNat
  guard (Int64.minValue.toInt ≤ value ∧ value ≤ Int64.maxValue.toInt)
  return Int64.ofInt value

/-- Read a truth value. -/
def readBool : String → Option Bool
  | "true" => some true
  | "false" => some false
  | _ => none

end Text
end FragmentCache
