import FragmentCache.Key
import Mathlib.Data.List.Basic

/-!
# Key texts and their parts

A key text is taken apart at the bars that are not escaped.  So two invocations have the
same key text only if their parts are the same, which leaves open whether an empty
stylesheet or none was meant.
-/

namespace FragmentCache
namespace KeyText

/-! ## Reading a key text -/

/-- The characters of a text, each with whether it is escaped: whether an escape that is
not escaped itself stands right in front of it. -/
def signs (isEscaped : Bool) : List Char → List (Char × Bool)
  | [] => []
  | character :: rest =>
    (character, isEscaped) :: signs (!isEscaped && character == escape) rest

/-- Whether a character of a text stands between two parts. -/
def separates (sign : Char × Bool) : Bool := sign == (separator, false)

/-- Whether a character of a text only escapes the one behind it. -/
def escapes (sign : Char × Bool) : Bool := sign == (escape, false)

/-- The characters of a stretch of text without the escapes. -/
def unescaped (stretch : List (Char × Bool)) : List Char :=
  (stretch.filter fun sign => !escapes sign).map Prod.fst

/-- The parts that a text is read as: the stretches between the separators that are not
escaped, without the escapes. -/
def split (text : List Char) : List (List Char) :=
  ((signs false text).splitOnP separates).map unescaped

/-! ## Parts as they are read -/

/-- The character that an escaped one stands for, as it is read. -/
theorem signs_escaped (character : Char) :
    (∀ sign ∈ signs false (escaped character), separates sign = false) ∧
      unescaped (signs false (escaped character)) = [character] := by
  by_cases special : character = separator ∨ character = escape
  · rw [escaped, if_pos special]
    simp [signs, separates, unescaped, escapes, escape, separator]
  · rw [escaped, if_neg special]
    rw [not_or] at special
    simp [signs, separates, unescaped, escapes, special]

/-- What stands behind an escaped character is read on its own. -/
theorem signs_escaped_append (character : Char) (rest : List Char) :
    signs false (escaped character ++ rest) =
      signs false (escaped character) ++ signs false rest := by
  by_cases special : character = separator ∨ character = escape
  · rw [escaped, if_pos special]
    rfl
  · rw [escaped, if_neg special]
    rw [not_or] at special
    have ordinary : (character == escape) = false := by simpa using special.2
    rw [List.singleton_append, signs, ordinary]
    rfl

/-- A part is read on its own, whatever stands behind it. -/
theorem signs_part_append (text : String) (rest : List Char) :
    signs false (part text ++ rest) = signs false (part text) ++ signs false rest := by
  unfold part
  induction text.toList with
  | nil => rfl
  | cons character others inductionHypothesis =>
      rw [List.flatMap_cons, List.append_assoc, signs_escaped_append, inductionHypothesis,
        signs_escaped_append, List.append_assoc]

/-- A part is not taken apart, and without the escapes it is its text. -/
theorem signs_part (text : String) :
    (∀ sign ∈ signs false (part text), separates sign = false) ∧
      unescaped (signs false (part text)) = text.toList := by
  unfold part
  induction text.toList with
  | nil => exact ⟨fun _ unlisted => absurd unlisted List.not_mem_nil, rfl⟩
  | cons character others inductionHypothesis =>
      obtain ⟨whole, read⟩ := signs_escaped character
      obtain ⟨wholeRest, readRest⟩ := inductionHypothesis
      rw [List.flatMap_cons, signs_escaped_append]
      refine ⟨List.forall_mem_append.2 ⟨whole, wholeRest⟩, ?_⟩
      rw [unescaped, List.filter_append, List.map_append]
      change unescaped _ ++ unescaped _ = _
      rw [read, readRest, List.singleton_append]

/-- Taking a key text apart gives the parts that were joined. -/
theorem split_join {parts : List String} (nonempty : parts ≠ []) :
    split (join parts) = parts.map String.toList := by
  unfold split
  induction parts with
  | nil => exact absurd rfl nonempty
  | cons first rest inductionHypothesis =>
      obtain ⟨whole, read⟩ := signs_part first
      cases rest with
      | nil =>
          rw [join, List.splitOnP_eq_singleton whole, List.map_singleton, read]
          rfl
      | cons second others =>
          have between : signs false (separator :: join (second :: others)) =
              (separator, false) :: signs false (join (second :: others)) := rfl
          rw [join, signs_part_append, between,
            List.splitOnP_append_cons_of_forall_mem whole _ rfl, List.map_cons, read,
            inductionHypothesis (List.cons_ne_nil _ _)]
          · rfl
          · exact nofun

example : split "|m|a\\|b||".toList = ["", "m", "a|b", "", ""].map String.toList := by
  decide

end KeyText

namespace Invocation

variable {first second : Invocation}

theorem parts_ne_nil (invocation : Invocation) : invocation.parts ≠ [] :=
  List.cons_ne_nil _ _

/-- Split at its signs, a key text falls into its parts. -/
theorem split_keyText (invocation : Invocation) :
    KeyText.split invocation.keyText.toList = invocation.parts.map String.toList := by
  rw [keyText, String.toList_ofList, KeyText.split_join invocation.parts_ne_nil]

/-- Key texts are the same exactly if all parts are. -/
theorem keyText_eq_iff : first.keyText = second.keyText ↔ first.parts = second.parts := by
  constructor
  · intro same
    have taken := split_keyText first
    rw [same, split_keyText] at taken
    exact (List.map_injective_iff.2 (fun _ _ => String.toList_inj.1) taken).symm
  · intro same
    rw [keyText, keyText, same]

/-- Parts tell an invocation up to a missing stylesheet, which is as good as an empty one.
-/
theorem parts_eq_iff :
    first.parts = second.parts ↔ first.stylesheet.getD "" = second.stylesheet.getD "" ∧
      first.method = second.method ∧ first.params = second.params := by
  rw [parts, parts, List.cons.injEq, List.cons.injEq]

/-- A key text can be read back: taken apart at the separators that are not escaped, and
without the escapes, it is the stylesheet, the method and the parameters, whatever their
characters.  So invocations share a key text exactly if they share the method, the
parameters and the stylesheet, where none counts as an empty one. -/
theorem keyText_uniquely_decodable (first second : Invocation) :
    KeyText.split first.keyText.toList =
        (first.stylesheet.getD "" :: first.method :: first.params).map String.toList ∧
      (first.keyText = second.keyText ↔
        first.method = second.method ∧ first.params = second.params ∧
          first.stylesheet.getD "" = second.stylesheet.getD "") := by
  refine ⟨split_keyText first, ?_⟩
  rw [keyText_eq_iff, parts_eq_iff]
  constructor
  · rintro ⟨stylesheet, method, params⟩
    exact ⟨method, params, stylesheet⟩
  · rintro ⟨method, params, stylesheet⟩
    exact ⟨stylesheet, method, params⟩

end Invocation
end FragmentCache
