import FragmentCache.Document
import Mathlib.Data.List.Basic

/-!
# Error documents and their escapes

An error document quotes two texts.  Whatever they are, no bracket and no quote of theirs
gets into the document, and both can be read back from it.
-/

namespace FragmentCache
namespace Document

/-! ## Undoing escapes -/

/-- The characters of a text without the escapes. -/
def unescaped : List Char → List Char
  | '&' :: 'a' :: 'm' :: 'p' :: ';' :: rest => '&' :: unescaped rest
  | '&' :: 'l' :: 't' :: ';' :: rest => '<' :: unescaped rest
  | '&' :: 'g' :: 't' :: ';' :: rest => '>' :: unescaped rest
  | '&' :: 'q' :: 'u' :: 'o' :: 't' :: ';' :: rest => '"' :: unescaped rest
  | character :: rest => character :: unescaped rest
  | [] => []

/-- What stands behind an escaped character is read on its own. -/
theorem unescaped_escapedCharacter_append (character : Char) (rest : List Char) :
    unescaped (escapedCharacter character ++ rest) = character :: unescaped rest := by
  unfold escapedCharacter
  split
  · simp [unescaped]
  · simp [unescaped]
  · simp [unescaped]
  · simp [unescaped]
  · next ampersand _ _ _ =>
      rw [List.singleton_append, unescaped]
      all_goals
        intros
        contradiction

/-- Without the escapes, an escaped text is the text, escapes of its own included. -/
theorem unescaped_escaped (text : String) : unescaped (escaped text) = text.toList := by
  unfold escaped
  induction text.toList with
  | nil => rfl
  | cons character rest inductionHypothesis =>
      rw [List.flatMap_cons, unescaped_escapedCharacter_append, inductionHypothesis]

example : unescaped "&amp;quot; is &quot;".toList = "&quot; is \"".toList := by decide

/-- Different texts are escaped differently. -/
theorem escaped_injective {first second : String} (same : escaped first = escaped second) :
    first = second := by
  rw [← String.toList_inj, ← unescaped_escaped, same, unescaped_escaped]

/-! ## Marks -/

/-- The characters that a document is taken apart at. -/
def marks : List Char := ['<', '>', '"']

/-- No mark is left of an escaped character. -/
theorem notMem_escapedCharacter {mark : Char} (isMark : mark ∈ marks) (character : Char) :
    mark ∉ escapedCharacter character := by
  simp only [marks, List.mem_cons, List.not_mem_nil, or_false] at isMark
  have ordinary : ∀ text ∈ ["&amp;", "&lt;", "&gt;", "&quot;"], mark ∉ text.toList := by
    obtain rfl | rfl | rfl := isMark <;> decide
  unfold escapedCharacter
  split
  · exact ordinary _ (by simp)
  · exact ordinary _ (by simp)
  · exact ordinary _ (by simp)
  · exact ordinary _ (by simp)
  · next opening closing quote =>
      rw [List.mem_singleton]
      rintro rfl
      exact isMark.elim opening fun other => other.elim closing quote

/-- No mark of a text is left when it is escaped. -/
theorem notMem_escaped {mark : Char} (isMark : mark ∈ marks) (text : String) :
    mark ∉ escaped text := by
  rw [escaped, List.mem_flatMap]
  rintro ⟨character, -, listed⟩
  exact notMem_escapedCharacter isMark character listed

/-! ## Quoted texts -/

/-- Every second one of some stretches, from the second on. -/
def everySecond : List (List Char) → List (List Char)
  | _ :: second :: rest => second :: everySecond rest
  | _ => []

/-- The stretches of a text between its quotes: what stands behind the first quote, behind
the third, and so on, up to the next one. -/
def quotedStretches (text : List Char) : List (List Char) := everySecond (text.splitOn '"')

/-- The stretches of an error document between, before and behind its quotes. -/
def errorStretches (block message : String) : List (List Char) :=
  ["<invoke_failed block=".toList, escaped block, " error=".toList, escaped message,
    "/>".toList]

/-- The text of an error document is its stretches with quotes between them. -/
theorem toList_error (block message : String) :
    (error block message).text.toList = ['"'].intercalate (errorStretches block message) := by
  have front : '<' :: (errorName ++ " block=\"".toList) =
      "<invoke_failed block=".toList ++ ['"'] := by decide
  have middle : "\" error=\"".toList = ['"'] ++ " error=".toList ++ ['"'] := by decide
  have back : "\"/".toList ++ ['>'] = ['"'] ++ "/>".toList := by decide
  calc (error block message).text.toList
      = '<' :: errorElement block message ++ ['>'] := String.toList_ofList
    _ = '<' :: (errorName ++ " block=\"".toList) ++ escaped block ++ "\" error=\"".toList ++
          escaped message ++ ("\"/".toList ++ ['>']) := by
        simp only [errorElement, List.cons_append, List.append_assoc]
    _ = ['"'].intercalate (errorStretches block message) := by
        rw [front, middle, back]
        simp only [errorStretches, List.intercalate_cons_cons, List.intercalate_singleton,
          List.append_assoc]

/-- Taken apart at its quotes, an error document falls into its stretches. -/
theorem splitOn_error (block message : String) :
    (error block message).text.toList.splitOn '"' = errorStretches block message := by
  have clean := notMem_escaped (show '"' ∈ marks by decide)
  have fixed : ∀ text ∈ ["<invoke_failed block=", " error=", "/>"], '"' ∉ text.toList := by
    decide
  rw [toList_error]
  apply List.splitOn_intercalate
  · intro stretch listed
    simp only [errorStretches, List.mem_cons, List.not_mem_nil, or_false] at listed
    obtain rfl | rfl | rfl | rfl | rfl := listed
    · exact fixed _ (by simp)
    · exact clean block
    · exact fixed _ (by simp)
    · exact clean message
    · exact fixed _ (by simp)
  · exact List.cons_ne_nil _ _

/-- Between its quotes an error document has the two texts, escaped. -/
theorem quotedStretches_error (block message : String) :
    quotedStretches (error block message).text.toList = [escaped block, escaped message] := by
  rw [quotedStretches, splitOn_error]
  rfl

/-- The marks of an error document are its own, whatever it quotes. -/
theorem count_error {mark : Char} (isMark : mark ∈ marks) (block message : String) :
    (error block message).text.toList.count mark =
      (['"'].intercalate (errorStretches "" "")).count mark := by
  have clean (text : String) : (escaped text).count mark = 0 :=
    List.count_eq_zero.2 (notMem_escaped isMark text)
  rw [toList_error]
  simp only [errorStretches, List.intercalate_cons_cons, List.intercalate_singleton,
    List.count_append, clean]

/-- An error document is a document, and it says which texts it was made of: its only
angle brackets enclose it, its four quotes stand around the two texts, and without the
escapes what is quoted is the block and the message.  So different blocks or messages have
different error documents. -/
theorem error_lossless (block message : String) :
    ofBytes (error block message).toBytes = .ok (error block message) ∧
      (error block message).isError = true ∧
      (error block message).text.toList.head? = some '<' ∧
      (error block message).text.toList.count '<' = 1 ∧
      (error block message).text.toList.getLast? = some '>' ∧
      (error block message).text.toList.count '>' = 1 ∧
      (error block message).text.toList.count '"' = 4 ∧
      (quotedStretches (error block message).text.toList).map unescaped =
        [block.toList, message.toList] ∧
      ∀ otherBlock otherMessage : String,
        error otherBlock otherMessage = error block message ↔
          otherBlock = block ∧ otherMessage = message := by
  refine ⟨ofBytes_toBytes _, isError_error _ _, ?_, ?_, ?_, ?_, ?_, ?_, ?_⟩
  · exact congrArg List.head? String.toList_ofList
  · rw [count_error (by decide)]
    decide
  · exact (congrArg List.getLast? String.toList_ofList).trans List.getLast?_concat
  · rw [count_error (by decide)]
    decide
  · rw [count_error (by decide)]
    decide
  · rw [quotedStretches_error, List.map_cons, List.map_singleton, unescaped_escaped,
      unescaped_escaped]
  · intro otherBlock otherMessage
    constructor
    · intro same
      have quoted := quotedStretches_error otherBlock otherMessage
      rw [same, quotedStretches_error, List.cons.injEq, List.cons.injEq] at quoted
      exact ⟨escaped_injective quoted.1.symm, escaped_injective quoted.2.1.symm⟩
    · rintro ⟨rfl, rfl⟩
      rfl

end Document
end FragmentCache
