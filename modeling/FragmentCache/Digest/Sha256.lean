import FragmentCache.Text.Bytes

/-!
# SHA-256

The digest of a byte string: its blocks of sixteen words are mixed, one after
the other, into a state of eight words.
-/

namespace FragmentCache
namespace Sha256

/-- The state, eight words. -/
structure State where
  a : UInt32
  b : UInt32
  c : UInt32
  d : UInt32
  e : UInt32
  f : UInt32
  g : UInt32
  h : UInt32

/-- Fractional parts of the square roots of the first eight primes. -/
def start : State :=
  ⟨0x6a09e667, 0xbb67ae85, 0x3c6ef372, 0xa54ff53a, 0x510e527f, 0x9b05688c,
    0x1f83d9ab, 0x5be0cd19⟩

/-- Fractional parts of the cube roots of the first 64 primes. -/
def roundConstants : List UInt32 :=
  [0x428a2f98, 0x71374491, 0xb5c0fbcf, 0xe9b5dba5, 0x3956c25b, 0x59f111f1, 0x923f82a4,
    0xab1c5ed5, 0xd807aa98, 0x12835b01, 0x243185be, 0x550c7dc3, 0x72be5d74, 0x80deb1fe,
    0x9bdc06a7, 0xc19bf174, 0xe49b69c1, 0xefbe4786, 0x0fc19dc6, 0x240ca1cc, 0x2de92c6f,
    0x4a7484aa, 0x5cb0a9dc, 0x76f988da, 0x983e5152, 0xa831c66d, 0xb00327c8, 0xbf597fc7,
    0xc6e00bf3, 0xd5a79147, 0x06ca6351, 0x14292967, 0x27b70a85, 0x2e1b2138, 0x4d2c6dfc,
    0x53380d13, 0x650a7354, 0x766a0abb, 0x81c2c92e, 0x92722c85, 0xa2bfe8a1, 0xa81a664b,
    0xc24b8b70, 0xc76c51a3, 0xd192e819, 0xd6990624, 0xf40e3585, 0x106aa070, 0x19a4c116,
    0x1e376c08, 0x2748774c, 0x34b0bcb5, 0x391c0cb3, 0x4ed8aa4a, 0x5b9cca4f, 0x682e6ff3,
    0x748f82ee, 0x78a5636f, 0x84c87814, 0x8cc70208, 0x90befffa, 0xa4506ceb, 0xbef9a3f7,
    0xc67178f2]

/-- Rotate a word to the right by less than its width. -/
def rotate (word amount : UInt32) : UInt32 :=
  word >>> amount ||| word <<< (32 - amount)

/-- One word of the schedule after those before it, which stand in reverse. -/
def nextWord (words : List UInt32) : UInt32 :=
  let word index := words.getD index 0
  let late := word 1
  let early := word 14
  (rotate late 17 ^^^ rotate late 19 ^^^ late >>> 10) + word 6 +
    (rotate early 7 ^^^ rotate early 18 ^^^ early >>> 3) + word 15

/-- Extend the words of a block, in reverse, by further ones. -/
def extendWords : Nat → List UInt32 → List UInt32
  | 0, words => words
  | count + 1, words => extendWords count (nextWord words :: words)

/-- One word for every round. -/
def schedule (block : List UInt32) : List UInt32 :=
  (extendWords 48 block.reverse).reverse

/-- One round. -/
def round (state : State) (constant word : UInt32) : State :=
  let ⟨a, b, c, d, e, f, g, h⟩ := state
  let first := h + (rotate e 6 ^^^ rotate e 11 ^^^ rotate e 25) +
    ((e &&& f) ^^^ (~~~e &&& g)) + constant + word
  let second := (rotate a 2 ^^^ rotate a 13 ^^^ rotate a 22) +
    ((a &&& b) ^^^ (a &&& c) ^^^ (b &&& c))
  ⟨first + second, a, b, c, d + first, e, f, g⟩

/-- Mix a block into the state. -/
def absorb (state : State) (block : List UInt32) : State :=
  let mixed := (roundConstants.zip (schedule block)).foldl
    (fun state (constant, word) => round state constant word) state
  ⟨state.a + mixed.a, state.b + mixed.b, state.c + mixed.c, state.d + mixed.d,
    state.e + mixed.e, state.f + mixed.f, state.g + mixed.g, state.h + mixed.h⟩

/-- The bytes of a word, the highest first. -/
def wordBytes (word : UInt32) : Bytes :=
  [(word >>> 24).toUInt8, (word >>> 16).toUInt8, (word >>> 8).toUInt8, word.toUInt8]

/-- Words of four bytes each, the highest first. -/
def wordsOf : Bytes → List UInt32
  | first :: second :: third :: fourth :: rest =>
    (first.toUInt32 <<< 24 ||| second.toUInt32 <<< 16 ||| third.toUInt32 <<< 8 |||
      fourth.toUInt32) :: wordsOf rest
  | _ => []

/-- A message followed by a set bit, zeros up to a whole number of blocks, and its
length in bits. -/
def padded (message : Bytes) : Bytes :=
  let zeros := (119 - message.length % 64) % 64
  let bits := 8 * message.length
  message ++ 0x80 :: List.replicate zeros 0 ++
    wordBytes (UInt32.ofNat (bits / UInt32.size)) ++ wordBytes (UInt32.ofNat bits)

/-- The blocks of sixteen words. -/
def blocks (words : List UInt32) : List (List UInt32) :=
  (List.range (words.length / 16)).map fun index => (words.drop (16 * index)).take 16

/-- The digest of a message, 32 bytes. -/
def digest (message : Bytes) : Bytes :=
  let state := (blocks (wordsOf (padded message))).foldl absorb start
  [state.a, state.b, state.c, state.d, state.e, state.f, state.g, state.h].flatMap wordBytes

/-- The digest of a text in hexadecimal digits. -/
def hexDigest (text : String) : String := Hex.ofBytes (digest (Text.toBytes text))

@[simp] theorem length_digest (message : Bytes) : (digest message).length = 32 := by
  simp [digest, wordBytes]

end Sha256
end FragmentCache
