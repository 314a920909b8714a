import FragmentCache.Text.Numeral

/-!
# Reading written numbers

A number is written in decimal digits, and read back from them if it is not too large.
-/

namespace FragmentCache
namespace Text

/-- Digits are read as the number that they are written for. -/
theorem foldlM_digitValue?
    {digits : List Char}
    (decimal : ∀ digit ∈ digits, digit.isDigit = true)
    (start : Nat) :
    digits.foldlM (fun value digit => (digitValue? digit).map (10 * value + ·)) start =
      some (Nat.ofDigitChars 10 digits start) := by
  induction digits generalizing start with
  | nil => rfl
  | cons digit rest inductionHypothesis =>
      have first : digitValue? digit = some (digit.toNat - 48) :=
        if_pos (decimal digit List.mem_cons_self)
      rw [List.foldlM_cons, first, Option.map_some, Option.bind_eq_bind, Option.bind_some,
        inductionHypothesis fun other listed => decimal other (List.mem_cons_of_mem _ listed),
        Nat.ofDigitChars_cons]
      rfl

theorem isDigit_of_mem_toString
    {number : Nat}
    {digit : Char}
    (listed : digit ∈ (toString number).toList) :
    digit.isDigit = true := by
  rw [Nat.toString_eq_ofList_toDigits, String.toList_ofList] at listed
  exact Nat.isDigit_of_mem_toDigits (by decide) (by decide) listed

theorem toList_toString_ne_nil (number : Nat) : (toString number).toList ≠ [] := by
  rw [Nat.toString_eq_ofList_toDigits, String.toList_ofList]
  exact Nat.toDigits_ne_nil

/-- The digits of a number have its value. -/
theorem digitsValue?_toString (number : Nat) :
    digitsValue? (toString number).toList = some number := by
  rw [digitsValue?.eq_2 _ (toList_toString_ne_nil number),
    foldlM_digitValue? fun digit => isDigit_of_mem_toString, Nat.toString_eq_ofList_toDigits,
    String.toList_ofList, Nat.ofDigitChars_ten_toDigits]

/-- A number is read from its own digits. -/
theorem readNatural_toString {largest number : Nat} (fits : number ≤ largest) :
    readNatural largest (toString number) = some number := by
  have unsigned (digits : List Char) : (toString number).toList ≠ '+' :: digits := by
    intro signed
    have plus := isDigit_of_mem_toString (signed ▸ List.mem_cons_self)
    cases plus
  have passes : (guard (number ≤ largest) : Option Unit) = some () := if_pos fits
  rw [readNatural]
  split
  · next digits signed => exact absurd signed (unsigned digits)
  · rw [digitsValue?_toString, Option.bind_eq_bind, Option.bind_some]
    change (guard (number ≤ largest) >>= fun _ => some number) = _
    rw [passes]
    rfl

end Text
end FragmentCache
