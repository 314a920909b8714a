import FragmentCache.Decimal.Shortest

/-!
# JSON values

A number keeps the form it was read in: a natural number or a negative integer
of 64 bits, or else a binary number.
-/

namespace FragmentCache
namespace Json

/-- A number. -/
inductive Number where
  | natural (value : UInt64)
  | negative (value : Int64)
  | real (value : Float)

end Json

/-- A JSON value.  The members of an object are listed in the order of their
names, each name once. -/
inductive Json where
  | null
  | bool (value : Bool)
  | number (value : Json.Number)
  | string (value : String)
  | array (items : List Json)
  | object (members : List (String × Json))

namespace Json

/-- Shortest text of a finite binary number.  Numbers from `1e-5` up to `1e16`
are written with a decimal point, others with an exponent and its sign. -/
def realText (value : Float) : String :=
  let sign := if Decimal.isNegative value.toBits then "-" else ""
  let magnitude := Decimal.Magnitude.ofBits value.toBits
  if magnitude.mantissa = 0 then sign ++ "0.0"
  else
    let shortest := Decimal.shortest magnitude
    let digits := Nat.toDigits 10 shortest.digits
    let leading := digits.length - 1 + shortest.exponent
    let text :=
      if 0 ≤ leading ∧ leading < 16 then
        let whole := leading.toNat + 1
        let fraction := digits.drop whole
        digits.take whole ++ List.replicate (whole - digits.length) '0' ++
          '.' :: (if fraction.isEmpty then ['0'] else fraction)
      else if -5 ≤ leading ∧ leading < 0 then
        '0' :: '.' :: List.replicate (-leading - 1).toNat '0' ++ digits
      else
        let fraction := digits.drop 1
        digits.take 1 ++ (if fraction.isEmpty then [] else '.' :: fraction) ++
          ['e', if leading < 0 then '-' else '+'] ++ Nat.toDigits 10 leading.natAbs
    sign ++ String.ofList text

/-- Text of a number. -/
def Number.text : Number → String
  | natural value => toString value.toNat
  | negative value => toString value.toInt
  | real value => realText value

/-- Value of a member of an object. -/
def member? (members : List (String × Json)) (name : String) : Option Json :=
  members.lookup name

/-- Add a member in the order of names, in place of one of the same name. -/
def insertMember (name : String) (value : Json) :
    List (String × Json) → List (String × Json)
  | [] => [(name, value)]
  | (other, old) :: rest =>
    if name = other then (name, value) :: rest
    else if name < other then (name, value) :: (other, old) :: rest
    else (other, old) :: insertMember name value rest

end Json
end FragmentCache
