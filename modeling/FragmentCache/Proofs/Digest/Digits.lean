import FragmentCache.Digest.Sha256

/-!
# Digests and their digits

A digest is written with 64 hexadecimal digits.
-/

namespace FragmentCache

namespace Hex

/-- The digits that are written. -/
def digits : List Char := "0123456789abcdef".toList

theorem digit_mem_digits {value : Nat} (small : value < 16) : digit value ∈ digits := by
  have all : ∀ value : Fin 16, digit value ∈ digits := by decide
  exact all ⟨value, small⟩

/-- Only hexadecimal digits are written. -/
theorem mem_padded
    {width number : Nat}
    {character : Char}
    (written : character ∈ padded width number) :
    character ∈ digits := by
  induction width generalizing number with
  | zero => cases written
  | succ width inductionHypothesis =>
      rw [padded, List.mem_append, List.mem_singleton] at written
      obtain higher | rfl := written
      · exact inductionHypothesis higher
      · exact digit_mem_digits (Nat.mod_lt _ (by decide))

@[simp] theorem length_padded (width number : Nat) : (padded width number).length = width := by
  induction width generalizing number with
  | zero => rfl
  | succ width inductionHypothesis => rw [padded, List.length_append, inductionHypothesis]; rfl

end Hex

namespace Sha256

/-- A text that a digest is written as. -/
structure IsDigest (text : String) : Prop where
  length : text.toList.length = 64
  digits : ∀ character ∈ text.toList, character ∈ Hex.digits

/-- What SHA-256 is written as is 64 hexadecimal digits. -/
theorem isDigest_hexDigest (text : String) : IsDigest (hexDigest text) := by
  have written : (hexDigest text).toList =
      (digest (Text.toBytes text)).flatMap fun byte => Hex.padded 2 byte.toNat :=
    String.toList_ofList
  constructor
  · have pairs : ∀ bytes : Bytes,
        (bytes.flatMap fun byte => Hex.padded 2 byte.toNat).length = 2 * bytes.length := by
      intro bytes
      induction bytes with
      | nil => rfl
      | cons byte rest inductionHypothesis =>
          rw [List.flatMap_cons, List.length_append, Hex.length_padded, inductionHypothesis,
            List.length_cons]
          omega
    rw [written, pairs, length_digest]
  · intro character listed
    rw [written, List.mem_flatMap] at listed
    obtain ⟨byte, -, writtenByte⟩ := listed
    exact Hex.mem_padded writtenByte

end Sha256

end FragmentCache
