/-!
# Bytes and text

Text is stored as UTF-8.  Reading is the exact inverse of writing: bytes are
accepted when they are the encoding of some text, and of that text only.
-/

namespace FragmentCache

/-- A string of bytes. -/
abbrev Bytes := List UInt8

namespace Text

/-- The UTF-8 encoding of a text. -/
def toBytes (text : String) : Bytes := text.toByteArray.data.toList

/-- The text that some bytes encode, when they are valid UTF-8. -/
def ofBytes? (bytes : Bytes) : Option String := String.fromUTF8? ⟨bytes.toArray⟩

theorem ofBytes?_eq_some_iff {bytes : Bytes} {text : String} :
    ofBytes? bytes = some text ↔ bytes = toBytes text := by
  constructor
  · intro read
    simp only [ofBytes?, String.fromUTF8?] at read
    split at read
    · simp only [Option.some.injEq] at read
      subst read
      simp [toBytes, String.fromUTF8]
    · simp at read
  · rintro rfl
    have valid := text.isValidUTF8
    simp [ofBytes?, toBytes, String.fromUTF8?, String.fromUTF8, valid]

@[simp] theorem ofBytes?_toBytes (text : String) :
    ofBytes? (toBytes text) = some text :=
  ofBytes?_eq_some_iff.2 rfl

end Text

namespace Hex

/-- The lower-case hexadecimal digit of a number below sixteen. -/
def digit (value : Nat) : Char :=
  if value < 10 then Char.ofNat (48 + value) else Char.ofNat (87 + value)

/-- The value of a hexadecimal digit of either case. -/
def value? (character : Char) : Option Nat :=
  let code := character.toNat
  if 48 ≤ code ∧ code ≤ 57 then some (code - 48)
  else if 97 ≤ code ∧ code ≤ 102 then some (code - 87)
  else if 65 ≤ code ∧ code ≤ 70 then some (code - 55)
  else none

/-- The last `width` hexadecimal digits of a number. -/
def padded : Nat → Nat → List Char
  | 0, _ => []
  | width + 1, number => padded width (number / 16) ++ [digit (number % 16)]

/-- Two digits for every byte. -/
def ofBytes (bytes : Bytes) : String :=
  String.ofList (bytes.flatMap fun byte => padded 2 byte.toNat)

/-- The bytes that pairs of digits spell. -/
def toBytes? : List Char → Option Bytes
  | [] => some []
  | [_] => none
  | high :: low :: rest => do
    let high ← value? high
    let low ← value? low
    let rest ← toBytes? rest
    some (UInt8.ofNat (16 * high + low) :: rest)

end Hex

end FragmentCache
