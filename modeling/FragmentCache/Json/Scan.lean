import FragmentCache.Json
import FragmentCache.Text.Bytes

/-!
# Scanning JSON text

The parts of JSON text that every reader shares: blanks, words, strings and
numbers.  A fault says whether the text ended too early, is not JSON, or is JSON
of another shape than the reader asks for; the first fault in the text counts.
-/

namespace FragmentCache
namespace Json

/-- Why a text was not read. -/
inductive Fault where
  /-- The text ended inside a value. -/
  | endOfText
  /-- The text is not JSON. -/
  | malformed
  /-- The value has another shape than required. -/
  | wrongShape
  deriving DecidableEq

/-- A reader takes characters from the front of a text. -/
abbrev Reader := StateT (List Char) (Except Fault)

namespace Reader

/-- Apply a reader to a whole text. -/
def runOn {α : Type} (reader : Reader α) (text : String) : Except Fault α :=
  (reader.run text.toList).map Prod.fst

/-- Next character, left in place. -/
def peek? : Reader (Option Char) := do return (← get).head?

/-- Remove the next character. -/
def skip : Reader Unit := modify fun characters => characters.drop 1

/-- Remove the next character and return it. -/
def next : Reader Char := do
  match ← get with
  | [] => throw .endOfText
  | character :: rest => set rest; return character

/-- Whether a character may stand between the parts of a value. -/
def isBlank (character : Char) : Bool :=
  character == ' ' || character == '\n' || character == '\t' || character == '\r'

/-- Remove blanks and look at the next character. -/
def peekAfterBlanks? : Reader (Option Char) := do
  modify fun characters => characters.dropWhile isBlank
  peek?

/-- Remove blanks and look at the next character, which has to be there. -/
def peekValue : Reader Char := do
  match ← peekAfterBlanks? with
  | some character => return character
  | none => throw .endOfText

/-- Remove the rest of a word. -/
def word : List Char → Reader Unit
  | [] => return ()
  | expected :: rest => do
    if (← next) = expected then word rest else throw .malformed

/-- Remove blanks after the last value; nothing else may follow. -/
def finish : Reader Unit := do
  if (← peekAfterBlanks?).isSome then throw .malformed

/-! ## Strings -/

/-- Value of the four hexadecimal digits of an escape. -/
def escapedUnit : Reader Nat := do
  let characters ← get
  match (characters.take 4).mapM Hex.value? with
  | some [first, second, third, fourth] =>
    set (characters.drop 4)
    return ((first * 16 + second) * 16 + third) * 16 + fourth
  | _ =>
    throw (if (String.ofList characters).utf8ByteSize < 4 then .endOfText else .malformed)

/-- Character of a `u` escape; the halves of a surrogate pair follow each other. -/
def escapedCharacter : Reader Char := do
  let unit ← escapedUnit
  if 0xDC00 ≤ unit ∧ unit ≤ 0xDFFF then throw .malformed
  else if unit < 0xD800 ∨ 0xDBFF < unit then return Char.ofNat unit
  else
    if (← next) ≠ '\\' then throw .malformed
    if (← next) ≠ 'u' then throw .malformed
    let low ← escapedUnit
    if low < 0xDC00 ∨ 0xDFFF < low then throw .malformed
    return Char.ofNat (0x10000 + (unit - 0xD800) * 0x400 + (low - 0xDC00))

/-- Character that a one-letter escape stands for. -/
def shortEscape? : Char → Option Char
  | '"' => some '"'
  | '\\' => some '\\'
  | '/' => some '/'
  | 'b' => some '\x08'
  | 'f' => some '\x0c'
  | 'n' => some '\n'
  | 'r' => some '\r'
  | 't' => some '\t'
  | _ => none

/-- Character after a backslash. -/
def escape : Reader Char := do
  let letter ← next
  match shortEscape? letter with
  | some character => return character
  | none => if letter = 'u' then escapedCharacter else throw .malformed

/-- Rest of a string after its opening quote, given what was read before it in
reverse.  Every round takes a character, so the fuel is the length of the text. -/
def stringRest : Nat → List Char → Reader String
  | 0, _ => throw .endOfText
  | fuel + 1, done => do
    let character ← next
    if character = '"' then return String.ofList done.reverse
    else if character = '\\' then stringRest fuel ((← escape) :: done)
    else if character.toNat < 0x20 then throw .malformed
    else stringRest fuel (character :: done)

/-- Rest of a string after its opening quote. -/
def string : Reader String := do stringRest ((← get).length + 1) []

/-- Remove the rest of a string after its opening quote.  Escapes need only the
right number of digits. -/
def skipStringRest : Nat → Reader Unit
  | 0 => throw .endOfText
  | fuel + 1 => do
    let character ← next
    if character = '"' then return ()
    else if character = '\\' then
      let letter ← next
      if (shortEscape? letter).isSome then skipStringRest fuel
      else if letter = 'u' then
        let _ ← escapedUnit
        skipStringRest fuel
      else throw .malformed
    else if character.toNat < 0x20 then throw .malformed
    else skipStringRest fuel

/-- Remove the rest of a string after its opening quote. -/
def skipString : Reader Unit := do skipStringRest ((← get).length + 1)

/-! ## Numbers -/

/-- Remove the digits in front and return them. -/
def digits : Reader (List Char) := do
  let characters ← get
  set (characters.dropWhile Char.isDigit)
  return characters.takeWhile Char.isDigit

/-- Largest significand; digits beyond it are dropped. -/
def largestSignificand : Nat := UInt64.size - 1

/-- Extend a significand by digits as long as it fits; also the number of digits
that were left. -/
def extend (significand : Nat) : List Char → Nat × Nat
  | [] => (significand, 0)
  | character :: rest =>
    let extended := 10 * significand + (character.toNat - 48)
    if largestSignificand < extended then (significand, rest.length + 1)
    else extend extended rest

/-- A power of ten as a binary number. -/
def powerOfTen (exponent : Nat) : Float := Float.ofScientific 1 false exponent

/-- Largest power of ten applied in one step. -/
def largestPower : Nat := 308

/-- Scale a binary number by a power of ten, in steps of at most the largest
power; an infinite result is an error. -/
def scale : Nat → Float → Int → Except Fault Float
  | 0, _, _ => .error .malformed
  | fuel + 1, value, exponent =>
    if exponent.natAbs ≤ largestPower then
      if 0 ≤ exponent then
        let scaled := value * powerOfTen exponent.natAbs
        if scaled.isInf then .error .malformed else .ok scaled
      else .ok (value / powerOfTen exponent.natAbs)
    else if value == 0 then .ok value
    else if 0 ≤ exponent then .error .malformed
    else scale fuel (value / powerOfTen largestPower) (exponent + largestPower)

/-- The number `significand * 10 ^ exponent`, rounded in every step.  Three steps
of the largest power turn every significand into zero. -/
def real (isNegative : Bool) (significand : Nat) (exponent : Int) : Reader Number := do
  let magnitude ← scale 5 significand.toUInt64.toFloat exponent
  return .real (if isNegative then -magnitude else magnitude)

/-- Largest exponent, that of a signed 32-bit word. -/
def largestExponent : Nat := 0x7FFFFFFF

/-- Rest of a number at its exponent. -/
def exponentPart (isNegative : Bool) (significand : Nat) (exponent : Int) :
    Reader Number := do
  skip
  let negativeExponent ← match ← peek? with
    | some '+' => skip; pure false
    | some '-' => skip; pure true
    | _ => pure false
  if !(← match ← peek? with
      | some character => pure character.isDigit
      | none => throw .endOfText) then
    throw .malformed
  let written := (← digits).foldl (fun value character =>
    10 * value + (character.toNat - 48)) 0
  if largestExponent < written then
    if significand ≠ 0 ∧ !negativeExponent then throw .malformed
    return .real (if isNegative then -0.0 else 0.0)
  let total := if negativeExponent then exponent - written else exponent + written
  real isNegative significand
    (max (-(largestExponent : Int) - 1) (min largestExponent total))

/-- Rest of a number that has no decimal point left. -/
def afterFraction (isNegative : Bool) (significand : Nat) (exponent : Int) :
    Reader Number := do
  match ← peek? with
  | some 'e' | some 'E' => exponentPart isNegative significand exponent
  | _ => real isNegative significand exponent

/-- Rest of a number at its decimal point. -/
def fractionPart (isNegative : Bool) (significand : Nat) (exponent : Int) :
    Reader Number := do
  skip
  let fraction ← digits
  if fraction.isEmpty then
    throw (if (← peek?).isSome then .malformed else .endOfText)
  let (extended, left) := extend significand fraction
  afterFraction isNegative extended (exponent - (fraction.length - left : Nat))

/-- Largest magnitude of a negative integer. -/
def largestNegative : Nat := Int64.minValue.toInt.natAbs

/-- Number after its sign.  A whole number that fits a 64-bit word stays whole,
except the negative zero. -/
def number (isNegative : Bool) : Reader Number := do
  let whole ← digits
  match whole with
  | [] => throw (if (← peek?).isSome then .malformed else .endOfText)
  | '0' :: _ :: _ => throw .malformed
  | _ =>
    let (significand, left) := extend 0 whole
    match ← peek? with
    | some '.' => fractionPart isNegative significand left
    | some 'e' | some 'E' => exponentPart isNegative significand left
    | _ =>
      if 0 < left then real isNegative significand left
      else if !isNegative then return .natural significand.toUInt64
      else if 0 < significand ∧ significand ≤ largestNegative then
        return .negative (Int64.ofInt (-(significand : Int)))
      else real isNegative significand 0

/-- Remove a nonempty run of digits. -/
def skipDigits : Reader Unit := do
  if (← digits).isEmpty then throw .malformed

/-- Remove a number after its sign.  Its size does not matter, and a missing
digit is malformed even at the end of the text. -/
def skipNumber : Reader Unit := do
  match ← digits with
  | [] => throw .malformed
  | '0' :: _ :: _ => throw .malformed
  | _ =>
    if (← peek?) = some '.' then
      skip
      skipDigits
    match ← peek? with
    | some 'e' | some 'E' =>
      skip
      match ← peek? with
      | some '+' | some '-' => skip
      | _ => pure ()
      skipDigits
    | _ => pure ()

end Reader
end Json
end FragmentCache
