import FragmentCache.Document
import Mathlib.Data.List.Basic

/-!
# What is read as a document

Whether a text is a document is decided by its first and its last character that is not
blank.  Bytes that are no document are refused for exactly one reason.
-/

namespace FragmentCache
namespace Text

variable {characters : List Char} {character : Char}

/-! ## The first and the last character -/

/-- The first character that is not blank. -/
def first? (characters : List Char) : Option Char :=
  characters.find? fun character => !isBlank character

/-- The last character that is not blank. -/
def last? (characters : List Char) : Option Char := first? characters.reverse

theorem first?_eq_none_iff :
    first? characters = none ↔ ∀ character ∈ characters, isBlank character = true := by
  simp [first?]

theorem isBlank_of_first? (found : first? characters = some character) :
    isBlank character = false := by
  simpa using List.find?_some found

theorem head?_trimStart (characters : List Char) :
    (trimStart characters).head? = first? characters := by
  unfold trimStart first?
  induction characters with
  | nil => rfl
  | cons character rest inductionHypothesis =>
      rw [List.dropWhile_cons, List.find?_cons]
      cases isBlank character with
      | true => exact inductionHypothesis
      | false => rfl

theorem trimEnd_cons (solid : isBlank character = false) (rest : List Char) :
    trimEnd (character :: rest) = character :: trimEnd rest := by
  unfold trimEnd
  rw [List.reverse_cons, List.dropWhile_append]
  cases rest.reverse.dropWhile isBlank with
  | nil => simp [solid]
  | cons other others => simp

/-- What is trimmed begins with the first character that is not blank. -/
theorem head?_trim (characters : List Char) :
    (trim characters).head? = first? characters := by
  have first := head?_trimStart characters
  unfold trim
  cases shape : trimStart characters with
  | nil =>
      rw [shape] at first
      exact first
  | cons character rest =>
      rw [shape] at first
      rw [trimEnd_cons (isBlank_of_first? first.symm)]
      exact first

/-- What is trimmed ends with the last character that is not blank. -/
theorem getLast?_trim (characters : List Char) :
    (trim characters).getLast? = last? characters := by
  have front : first? (characters.takeWhile isBlank).reverse = none := by
    rw [first?_eq_none_iff]
    intro character listed
    rw [List.mem_reverse] at listed
    exact List.all_eq_true.1 List.all_takeWhile character listed
  have parts : characters.takeWhile isBlank ++ trimStart characters = characters :=
    List.takeWhile_append_dropWhile
  rw [trim, trimEnd, List.getLast?_reverse]
  calc (trimStart (trimStart characters).reverse).head?
      = first? (trimStart characters).reverse := head?_trimStart _
    _ = (first? (trimStart characters).reverse).or
          (first? (characters.takeWhile isBlank).reverse) := by rw [front, Option.or_none]
    _ = first? (characters.takeWhile isBlank ++ trimStart characters).reverse := by
        rw [List.reverse_append]
        exact List.find?_append.symm
    _ = last? characters := by rw [parts, last?]

/-- Nothing is left of a text that is all blank. -/
theorem isEmpty_trim (characters : List Char) :
    (trim characters).isEmpty = true ↔
      ∀ character ∈ characters, isBlank character = true := by
  rw [← first?_eq_none_iff, ← head?_trim, List.isEmpty_iff, List.head?_eq_none_iff]

/-- A text is enclosed in markup when its first and last characters that are not blank
are the angle brackets. -/
theorem isMarkup_iff {text : String} :
    IsMarkup text ↔ first? text.toList = some '<' ∧ last? text.toList = some '>' := by
  rw [IsMarkup, head?_trim, getLast?_trim]

end Text

namespace Document

/-! ## Refusals -/

/-- A text is refused because it is blank, or because it is not enclosed in markup. -/
theorem ofText_eq_error_iff {text : String} {fault : Fault} :
    ofText text = .error fault ↔
      (fault = .empty ∧ ∀ character ∈ text.toList, Text.isBlank character = true) ∨
        (fault = .notMarkup ∧
          (∃ character ∈ text.toList, Text.isBlank character = false) ∧
            ¬Text.IsMarkup text) := by
  have blank := Text.isEmpty_trim text.toList
  unfold ofText
  by_cases empty : (Text.trim text.toList).isEmpty = true
  · have all := blank.1 empty
    rw [if_pos empty, Except.error.injEq]
    constructor
    · rintro rfl
      exact Or.inl ⟨rfl, all⟩
    · rintro (⟨rfl, -⟩ | ⟨-, ⟨character, listed, solid⟩, -⟩)
      · rfl
      · rw [all character listed] at solid
        cases solid
  · have solid : ∃ character ∈ text.toList, Text.isBlank character = false := by
      rw [blank] at empty
      push Not at empty
      simpa using empty
    have notAll : ¬∀ character ∈ text.toList, Text.isBlank character = true := mt blank.2 empty
    rw [if_neg empty]
    by_cases isMarkup : Text.IsMarkup text
    · rw [dif_pos isMarkup]
      simp [isMarkup, notAll]
    · rw [dif_neg isMarkup, Except.error.injEq]
      constructor
      · rintro rfl
        exact Or.inr ⟨rfl, solid, isMarkup⟩
      · rintro (⟨-, all⟩ | ⟨rfl, -⟩)
        · exact absurd all notAll
        · rfl

/-- What is wrong with bytes that are refused as a document. -/
def Fault.Explains (stored : Bytes) : Fault → Prop
  | .invalidEncoding => ∀ text, stored ≠ Text.toBytes text
  | .empty => ∃ text, stored = Text.toBytes text ∧
      ∀ character ∈ text.toList, Text.isBlank character = true
  | .notMarkup => ∃ text, stored = Text.toBytes text ∧
      (∃ character ∈ text.toList, Text.isBlank character = false) ∧
        ¬(Text.first? text.toList = some '<' ∧ Text.last? text.toList = some '>')

/-- Bytes are refused exactly for what is wrong with them. -/
theorem ofBytes_eq_error_iff {stored : Bytes} {fault : Fault} :
    ofBytes stored = .error fault ↔ fault.Explains stored := by
  unfold ofBytes
  cases decoded : Text.ofBytes? stored with
  | none =>
      have invalid (text : String) : stored ≠ Text.toBytes text := by
        intro encoded
        rw [Text.ofBytes?_eq_some_iff.2 encoded] at decoded
        cases decoded
      cases fault <;> simp [Fault.Explains, invalid]
  | some text =>
      have encoded := Text.ofBytes?_eq_some_iff.1 decoded
      have same (other : String) : stored = Text.toBytes other ↔ text = other := by
        rw [← Text.ofBytes?_eq_some_iff, decoded, Option.some.injEq]
      dsimp only
      rw [ofText_eq_error_iff, Text.isMarkup_iff]
      cases fault <;> simp [Fault.Explains, same]

end Document
end FragmentCache
