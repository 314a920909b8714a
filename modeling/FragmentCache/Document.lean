import FragmentCache.Text.Bytes
import FragmentCache.Text.Quoted

/-!
# Documents

A document is a text enclosed in markup: apart from blanks around it, it starts
with `<` and ends with `>`.  An error document stands in for one that could not
be made; it names the block and tells what happened.
-/

namespace FragmentCache

/-- The text, without the blanks around it, starts with `<` and ends with `>`. -/
def Text.IsMarkup (text : String) : Prop :=
  (Text.trim text.toList).head? = some '<' ∧ (Text.trim text.toList).getLast? = some '>'

instance (text : String) : Decidable (Text.IsMarkup text) := inferInstanceAs (Decidable (_ ∧ _))

/-- A serialized document. -/
structure Document where
  /-- The text as it was written, blanks included. -/
  text : String
  /-- The text is enclosed in markup. -/
  isMarkup : Text.IsMarkup text
  deriving DecidableEq

namespace Document

/-- Why something is not a document. -/
inductive Fault where
  | empty
  | invalidEncoding
  | notMarkup
  deriving DecidableEq

namespace Fault

/-- Text of a fault. -/
def message : Fault → String
  | empty => "document is empty"
  | invalidEncoding => "document is not valid UTF-8"
  | notMarkup => "document is not enclosed in markup"

end Fault

/-- The document with a given text. -/
def ofText (text : String) : Except Fault Document :=
  if (Text.trim text.toList).isEmpty then .error .empty
  else if isMarkup : Text.IsMarkup text then .ok ⟨text, isMarkup⟩
  else .error .notMarkup

/-- The document that some bytes encode. -/
def ofBytes (bytes : Bytes) : Except Fault Document :=
  match Text.ofBytes? bytes with
  | some text => ofText text
  | none => .error .invalidEncoding

/-- The bytes of a document. -/
def toBytes (document : Document) : Bytes := Text.toBytes document.text

/-- Number of bytes of a document. -/
def size (document : Document) : Nat := document.text.utf8ByteSize

/-! ## Error documents -/

/-- A character as it stands in the value of an attribute. -/
def escapedCharacter : Char → List Char
  | '&' => "&amp;".toList
  | '<' => "&lt;".toList
  | '>' => "&gt;".toList
  | '"' => "&quot;".toList
  | character => [character]

/-- A text as it stands in the value of an attribute. -/
def escaped (text : String) : List Char := text.toList.flatMap escapedCharacter

/-- Name of the element of an error document. -/
def errorName : List Char := "invoke_failed".toList

/-- An error document without the angle brackets. -/
def errorElement (block message : String) : List Char :=
  errorName ++ (" block=\"".toList ++ escaped block ++ "\" error=\"".toList ++
    escaped message ++ "\"/".toList)

/-- Nothing is trimmed from what stands between angle brackets. -/
theorem trim_enclosed (middle : List Char) :
    Text.trim ('<' :: middle ++ ['>']) = '<' :: middle ++ ['>'] := by
  have opening : Text.isBlank '<' = false := by decide
  have closing : Text.isBlank '>' = false := by decide
  simp [Text.trim, Text.trimStart, Text.trimEnd, opening, closing]

theorem isMarkup_enclosed (middle : List Char) :
    Text.IsMarkup (String.ofList ('<' :: middle ++ ['>'])) := by
  rw [Text.IsMarkup, String.toList_ofList, trim_enclosed]
  exact ⟨rfl, List.getLast?_concat⟩

/-- The document that reports the failure of a block. -/
def error (block message : String) : Document where
  text := String.ofList ('<' :: errorElement block message ++ ['>'])
  isMarkup := isMarkup_enclosed _

/-- The document of a block that did not finish in time. -/
def timedOut (block : String) : Document := error block "timed out"

/-- Whether a document reports a failure. -/
def isError (document : Document) : Bool :=
  ('<' :: errorName).isPrefixOf document.text.toList

/-- A document with its size and its quoted text, for people to read. -/
def debugText (document : Document) : String :=
  "Document \x7b len: " ++ toString document.size ++ ", text: " ++
    Text.quoted document.text ++ " \x7d"

/-- A text is a document exactly if it is the document's own text. -/
theorem ofText_eq_ok_iff {text : String} {document : Document} :
    ofText text = .ok document ↔ document.text = text := by
  obtain ⟨written, isMarkup⟩ := document
  have nonempty : Text.IsMarkup text → (Text.trim text.toList).isEmpty = false := by
    rintro ⟨head, -⟩
    cases shape : Text.trim text.toList <;> simp_all
  constructor
  · intro read
    unfold ofText at read
    split at read
    · simp at read
    · split at read
      · simpa using read.symm
      · simp at read
  · rintro rfl
    simp [ofText, nonempty isMarkup, isMarkup]

@[simp] theorem ofBytes_toBytes (document : Document) :
    ofBytes document.toBytes = .ok document := by
  simp [ofBytes, toBytes, ofText_eq_ok_iff]

@[simp] theorem isError_error (block message : String) :
    (error block message).isError = true := by
  simp only [isError, error, errorElement, String.toList_ofList]
  generalize errorName = name
  simp

end Document
end FragmentCache
