import FragmentCache.Document
import FragmentCache.Time

/-!
# Stored records

A stored record is a string of bytes with fields of fixed width, the lowest byte
first.  A reader takes its fields from the front and faults on the first one that
is not there.
-/

namespace FragmentCache

namespace LittleEndian

/-- The lowest bytes of a number, the lowest first. -/
def bytes : Nat → Nat → Bytes
  | 0, _ => []
  | width + 1, number => UInt8.ofNat number :: bytes width (number / 256)

/-- The number that some bytes spell, the lowest first. -/
def value : Bytes → Nat
  | [] => 0
  | byte :: rest => byte.toNat + 256 * value rest

@[simp] theorem length_bytes (width number : Nat) : (bytes width number).length = width := by
  induction width generalizing number <;> simp_all [bytes]

/-- Bytes of some width have the value of the number, up to what they can hold. -/
theorem value_bytes (width number : Nat) :
    value (bytes width number) = number % Nat.pow 256 width := by
  induction width generalizing number with
  | zero => simp [bytes, value, Nat.mod_one]
  | succ width ih =>
    have step : Nat.pow 256 (width + 1) = 256 * Nat.pow 256 width := Nat.pow_succ'
    rw [bytes, value, ih, step, Nat.mod_mul, UInt8.toNat_ofNat']

/-- Bytes are determined by their value and their number. -/
theorem bytes_value (stored : Bytes) : bytes stored.length (value stored) = stored := by
  induction stored with
  | nil => rfl
  | cons byte rest ih =>
    have low : UInt8.ofNat (byte.toNat + 256 * value rest) = byte := by
      apply UInt8.toNat_inj.1
      have bound := byte.toNat_lt
      simp only [UInt8.toNat_ofNat']
      omega
    have high : (byte.toNat + 256 * value rest) / 256 = value rest := by
      have bound := byte.toNat_lt
      omega
    rw [List.length_cons, value, bytes, low, high, ih]

end LittleEndian

namespace Record

/-- A field of a record. -/
inductive Field where
  | signature
  | expireTime
  | lastModified
  | storedTime
  | keyLength
  | key
  | document
  | documentStart
  | documentEnd
  deriving DecidableEq

namespace Field

/-- Name of a field. -/
def name : Field → String
  | signature => "signature"
  | expireTime => "expire time"
  | lastModified => "last modified"
  | storedTime => "stored time"
  | keyLength => "key length"
  | key => "key"
  | document => "document"
  | documentStart => "document start"
  | documentEnd => "document end"

end Field

/-- Why some bytes are not a record. -/
inductive Fault where
  | badSignature (signature : UInt32)
  | truncated (field : Field)
  | badDocumentSignature
  | invalidKey
  | invalidDocument (fault : Document.Fault)
  deriving DecidableEq

namespace Fault

/-- Text of a fault. -/
def message : Fault → String
  | badSignature signature =>
    "unrecognized record signature 0x" ++ String.ofList (Hex.padded 8 signature.toNat)
  | truncated field => "record truncated while reading " ++ field.name
  | badDocumentSignature => "document boundary signature mismatch"
  | invalidKey => "stored key is not valid UTF-8"
  | invalidDocument fault => "stored document is invalid: " ++ fault.message

end Fault

/-- A reader of fields. -/
abbrev Reader := StateT Bytes (Except Fault)

/-- Take some bytes of a field. -/
def take (count : Nat) (field : Field) : Reader Bytes := fun stored =>
  if stored.length < count then .error (.truncated field)
  else .ok (stored.take count, stored.drop count)

/-- Take a word of 32 bits. -/
def takeWord (field : Field) : Reader UInt32 := do
  return UInt32.ofNat (LittleEndian.value (← take 4 field))

/-- Take a timestamp. -/
def takeTime (field : Field) : Reader Timestamp := do
  return (UInt64.ofNat (LittleEndian.value (← take 8 field))).toInt64

/-- The bytes of a word of 32 bits. -/
def wordBytes (word : UInt32) : Bytes := LittleEndian.bytes 4 word.toNat

/-- The bytes of a timestamp. -/
def timeBytes (time : Timestamp) : Bytes := LittleEndian.bytes 8 time.toUInt64.toNat

/-- The document that some bytes encode. -/
def documentOf (stored : Bytes) : Except Fault Document :=
  (Document.ofBytes stored).mapError .invalidDocument

theorem take_append (field : Field) (front rest : Bytes) :
    take front.length field (front ++ rest) = .ok (front, rest) := by
  simp [take]

theorem takeWord_eq (field : Field) (stored : Bytes) :
    takeWord field stored = (take 4 field stored).map fun (word, rest) =>
      (UInt32.ofNat (LittleEndian.value word), rest) := by
  change Except.bind (take 4 field stored) _ = _
  cases take 4 field stored <;> rfl

theorem takeTime_eq (field : Field) (stored : Bytes) :
    takeTime field stored = (take 8 field stored).map fun (time, rest) =>
      ((UInt64.ofNat (LittleEndian.value time)).toInt64, rest) := by
  change Except.bind (take 8 field stored) _ = _
  cases take 8 field stored <;> rfl

theorem takeWord_append (field : Field) (word : UInt32) (rest : Bytes) :
    takeWord field (wordBytes word ++ rest) = .ok (word, rest) := by
  have taken := take_append field (wordBytes word) rest
  rw [wordBytes, LittleEndian.length_bytes] at taken
  have fits : word.toNat % Nat.pow 256 4 = word.toNat := Nat.mod_eq_of_lt word.toNat_lt
  rw [takeWord_eq, wordBytes, taken]
  simp [Except.map, LittleEndian.value_bytes, fits]

theorem takeTime_append (field : Field) (time : Timestamp) (rest : Bytes) :
    takeTime field (timeBytes time ++ rest) = .ok (time, rest) := by
  have taken := take_append field (timeBytes time) rest
  rw [timeBytes, LittleEndian.length_bytes] at taken
  have fits : time.toUInt64.toNat % Nat.pow 256 8 = time.toUInt64.toNat :=
    Nat.mod_eq_of_lt time.toUInt64.toNat_lt
  rw [takeTime_eq, timeBytes, taken]
  simp [Except.map, LittleEndian.value_bytes, fits]

end Record
end FragmentCache
