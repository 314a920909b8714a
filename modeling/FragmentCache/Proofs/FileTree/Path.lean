import FragmentCache.FileTree.Path
import Mathlib.Data.List.Basic

/-!
# Paths and their segments

A path is cut at every slash and nowhere else, so joining two paths with a slash
joins their segments, and what is written after the last slash belongs to the last
segment.
-/

namespace FragmentCache
namespace FilePath

/-! ## Splitting at slashes -/

theorem splitAtSlashes_ne_nil (text : List Char) : splitAtSlashes text ≠ [] := by
  fun_cases splitAtSlashes text <;> simp

/-- A text without slashes is one segment. -/
theorem splitAtSlashes_of_plain
    {text : List Char}
    (plain : '/' ∉ text) :
    splitAtSlashes text = [text] := by
  fun_induction splitAtSlashes text with
  | case1 => rfl
  | case2 rest inductionHypothesis => exact absurd List.mem_cons_self plain
  | case3 character rest differ none inductionHypothesis =>
      exact absurd none (splitAtSlashes_ne_nil rest)
  | case4 character rest differ first others split inductionHypothesis =>
      rw [inductionHypothesis fun listed => plain (List.mem_cons_of_mem _ listed)] at split
      cases split
      rfl

/-- No segment has a slash. -/
theorem notMem_of_mem_splitAtSlashes
    {text segment : List Char}
    (listed : segment ∈ splitAtSlashes text) :
    '/' ∉ segment := by
  fun_induction splitAtSlashes text generalizing segment with
  | case1 =>
      rw [List.mem_singleton.1 listed]
      exact List.not_mem_nil
  | case2 rest inductionHypothesis =>
      obtain rfl | listed := List.mem_cons.1 listed
      · exact List.not_mem_nil
      · exact inductionHypothesis listed
  | case3 character rest differ none inductionHypothesis =>
      exact absurd none (splitAtSlashes_ne_nil rest)
  | case4 character rest differ first others split inductionHypothesis =>
      rw [split] at inductionHypothesis
      obtain rfl | listed := List.mem_cons.1 listed
      · rw [List.mem_cons, not_or]
        exact ⟨fun same => differ same.symm, inductionHypothesis List.mem_cons_self⟩
      · exact inductionHypothesis (List.mem_cons_of_mem _ listed)

/-- Texts on both sides of a slash are split on their own. -/
theorem splitAtSlashes_append_slash (front back : List Char) :
    splitAtSlashes (front ++ '/' :: back) = splitAtSlashes front ++ splitAtSlashes back := by
  fun_induction splitAtSlashes front with
  | case1 => rfl
  | case2 rest inductionHypothesis =>
      rw [List.cons_append, splitAtSlashes, inductionHypothesis, List.cons_append]
  | case3 character rest differ none inductionHypothesis =>
      exact absurd none (splitAtSlashes_ne_nil rest)
  | case4 character rest differ first others split inductionHypothesis =>
      rw [List.cons_append, splitAtSlashes.eq_3 _ _ differ, inductionHypothesis, split,
        List.cons_append, List.cons_append]

/-- What has no slash belongs to the last segment. -/
theorem splitAtSlashes_append_plain
    {text suffix : List Char}
    (plain : '/' ∉ suffix)
    {above : List (List Char)}
    {last : List Char}
    (split : splitAtSlashes text = above ++ [last]) :
    splitAtSlashes (text ++ suffix) = above ++ [last ++ suffix] := by
  fun_induction splitAtSlashes text generalizing above last with
  | case1 =>
      obtain ⟨rfl, rfl⟩ : above = [] ∧ last = [] := by simpa [List.cons_eq_append_iff] using split
      exact splitAtSlashes_of_plain plain
  | case2 rest inductionHypothesis =>
      obtain _ | ⟨first, above⟩ := above
      · exact absurd (List.cons.inj split).2 (splitAtSlashes_ne_nil rest)
      · obtain ⟨rfl, restSplit⟩ := List.cons.inj split
        rw [List.cons_append, splitAtSlashes, inductionHypothesis restSplit]
        rfl
  | case3 character rest differ none inductionHypothesis =>
      exact absurd none (splitAtSlashes_ne_nil rest)
  | case4 character rest differ first others restSplit inductionHypothesis =>
      rw [List.cons_append, splitAtSlashes.eq_3 _ _ differ]
      obtain _ | ⟨head, above⟩ := above
      · obtain ⟨rfl, rfl⟩ := List.cons.inj split
        have appended := @inductionHypothesis [] first restSplit
        rw [appended]
        rfl
      · obtain ⟨rfl, rfl⟩ := List.cons.inj split
        have appended := @inductionHypothesis (first :: above) last restSplit
        rw [appended]
        rfl

/-- Segments joined with slashes are the text again. -/
theorem intercalate_splitAtSlashes (text : List Char) :
    ['/'].intercalate (splitAtSlashes text) = text := by
  fun_induction splitAtSlashes text with
  | case1 => rfl
  | case2 rest inductionHypothesis =>
      rw [List.intercalate_cons_of_ne_nil (splitAtSlashes_ne_nil rest), inductionHypothesis]
      rfl
  | case3 character rest differ none inductionHypothesis =>
      exact absurd none (splitAtSlashes_ne_nil rest)
  | case4 character rest differ first others split inductionHypothesis =>
      rw [split] at inductionHypothesis
      cases others with
      | nil =>
          rw [List.intercalate_singleton] at inductionHypothesis ⊢
          rw [inductionHypothesis]
      | cons second others =>
          rw [List.intercalate_cons_cons] at inductionHypothesis ⊢
          rw [List.cons_append, List.cons_append, inductionHypothesis]

/-! ## Segments -/

theorem segments_ne_nil (path : String) : segments path ≠ [] :=
  fun empty => splitAtSlashes_ne_nil _ (List.map_eq_nil_iff.1 empty)

theorem segments_of_plain
    {text : String}
    (plain : '/' ∉ text.toList) :
    segments text = [text] := by
  rw [segments, splitAtSlashes_of_plain plain, List.map_singleton, String.ofList_toList]

/-- Paths on both sides of a slash have segments of their own. -/
theorem segments_append_slash (front back : String) :
    segments (front ++ "/" ++ back) = segments front ++ segments back := by
  have characters : (front ++ "/" ++ back).toList = front.toList ++ '/' :: back.toList := by
    simp
  rw [segments, characters, splitAtSlashes_append_slash, List.map_append]
  rfl

/-- What is written after a path without a slash belongs to its last segment. -/
theorem segments_append_plain
    {path suffix : String}
    (plain : '/' ∉ suffix.toList)
    {above : List String}
    {last : String}
    (split : segments path = above ++ [last]) :
    segments (path ++ suffix) = above ++ [last ++ suffix] := by
  obtain ⟨front, back, characters, rfl, backSplit⟩ := List.map_eq_append_iff.1 split
  obtain ⟨lastCharacters, rfl, rfl⟩ := List.map_eq_singleton_iff.1 backSplit
  rw [segments, String.toList_append, splitAtSlashes_append_plain plain characters,
    List.map_append, List.map_singleton, String.ofList_append, String.ofList_toList]

/-- What has no slash is appended to the name that a path ends in. -/
theorem getLast?_segments_append
    {suffix : String}
    (plain : '/' ∉ suffix.toList)
    (path : String) :
    (segments (path ++ suffix)).getLast? = (segments path).getLast?.map (· ++ suffix) := by
  obtain empty | ⟨above, last, split⟩ := List.eq_nil_or_concat (segments path)
  · exact absurd empty (segments_ne_nil path)
  · rw [List.concat_eq_append] at split
    rw [segments_append_plain plain split, split, List.getLast?_concat, List.getLast?_concat]
    rfl

/-- Segments joined with slashes are the path again. -/
theorem intercalate_segments (path : String) : "/".intercalate (segments path) = path := by
  have inverse : List.map String.toList (segments path) = splitAtSlashes path.toList := by
    rw [segments, List.map_map]
    exact List.map_id'' (fun _ => String.toList_ofList) _
  rw [← String.toList_inj, String.toList_intercalate, inverse]
  exact intercalate_splitAtSlashes path.toList

/-- A path whose last segment is not empty does not end in a slash. -/
theorem endsInSlash_of_split
    {path : String}
    {above : List String}
    {last : String}
    (split : segments path = above ++ [last])
    (named : last ≠ "") :
    endsInSlash path = false := by
  rw [endsInSlash, beq_eq_false_iff_ne]
  intro slash
  obtain ⟨front, characters⟩ := List.getLast?_eq_some_iff.1 slash
  rw [segments, characters, splitAtSlashes_append_slash, List.map_append] at split
  exact named (List.cons.inj (List.append_inj' split rfl).2).1.symm

/-- A path that does not end in a slash has a last segment that is not empty. -/
theorem exists_split_of_endsInSlash
    {path : String}
    (nonempty : path ≠ "")
    (noSlash : endsInSlash path = false) :
    ∃ above last, segments path = above ++ [last] ∧ last ≠ "" := by
  obtain empty | ⟨front, final, characters⟩ := List.eq_nil_or_concat path.toList
  · exact absurd (String.toList_eq_nil_iff.1 empty) nonempty
  · rw [List.concat_eq_append] at characters
    have plain : '/' ∉ [final] := by
      rw [endsInSlash, beq_eq_false_iff_ne, characters, List.getLast?_concat] at noSlash
      intro listed
      exact noSlash (congrArg some (List.mem_singleton.1 listed).symm)
    obtain empty | ⟨above, last, split⟩ := List.eq_nil_or_concat (splitAtSlashes front)
    · exact absurd empty (splitAtSlashes_ne_nil front)
    · rw [List.concat_eq_append] at split
      refine ⟨above.map String.ofList, String.ofList (last ++ [final]), ?_, ?_⟩
      · rw [segments, characters, splitAtSlashes_append_plain plain split, List.map_append,
          List.map_singleton]
      · intro blank
        have none := congrArg String.toList blank
        simp at none

/-- What is written after a path does not change whether it is absolute. -/
theorem isAbsolute_append
    {path : String}
    (nonempty : path ≠ "")
    (suffix : String) :
    isAbsolute (path ++ suffix) = isAbsolute path := by
  cases characters : path.toList with
  | nil => exact absurd (String.toList_eq_nil_iff.1 characters) nonempty
  | cons first rest => rw [isAbsolute, isAbsolute, String.toList_append, characters]; rfl

/-- The front of a valid path is valid. -/
theorem isValid_of_append
    {path suffix : String}
    (valid : isValid (path ++ suffix) = true) :
    isValid path = true := by
  simp only [isValid, Bool.and_eq_true, decide_eq_true_eq, String.utf8ByteSize_append,
    String.toList_append, Bool.not_eq_true', List.contains_eq_mem, List.mem_append,
    decide_eq_false_iff_not, not_or] at valid ⊢
  exact ⟨by omega, valid.2.1⟩

/-! ## Plain texts -/

/-- A text of which every character is one byte that means nothing in a path. -/
def IsPlain (text : String) : Prop :=
  ∀ character ∈ text.toList, character.utf8Size = 1 ∧ character ≠ '/' ∧ character ≠ '\x00'

instance (text : String) : Decidable (IsPlain text) :=
  List.decidableBAll _ text.toList

variable {text other : String}

namespace IsPlain

theorem append (plain : IsPlain text) (otherPlain : IsPlain other) : IsPlain (text ++ other) := by
  intro character listed
  rw [String.toList_append, List.mem_append] at listed
  exact listed.elim (plain character) (otherPlain character)

theorem noSlash (plain : IsPlain text) : '/' ∉ text.toList :=
  fun listed => (plain '/' listed).2.1 rfl

/-- A plain text has one byte for each character. -/
theorem utf8ByteSize (plain : IsPlain text) : text.utf8ByteSize = text.toList.length := by
  have counted : ∀ characters : List Char, (∀ character ∈ characters, character.utf8Size = 1) →
      (String.ofList characters).utf8ByteSize = characters.length := by
    intro characters single
    induction characters with
    | nil => rfl
    | cons first rest inductionHypothesis =>
        obtain ⟨one, others⟩ := List.forall_mem_cons.1 single
        rw [String.ofList_cons, String.utf8ByteSize_append, String.utf8ByteSize_singleton, one,
          inductionHypothesis others, List.length_cons, Nat.add_comm]
  rw [← counted text.toList fun character listed => (plain character listed).1,
    String.ofList_toList]

theorem isAbsolute (plain : IsPlain text) : isAbsolute text = false := by
  rw [FilePath.isAbsolute, beq_eq_false_iff_ne]
  exact fun first => plain.noSlash (List.mem_of_mem_head? first)

end IsPlain

/-! ## Names in a directory -/

/-- What stands in front of a name in the path of a directory. -/
def lead (directory : String) : String :=
  if directory = "" then ""
  else if endsInSlash directory then directory
  else directory ++ "/"

/-- The segments that lead to a directory, without an empty last one. -/
def approach (directory : String) : List String := (segments (lead directory)).dropLast

/-- A relative name is joined by writing it after the directory. -/
theorem join_of_relative
    {name : String}
    (relative : isAbsolute name = false)
    (directory : String) :
    join directory name = lead directory ++ name := by
  by_cases empty : directory = ""
  · subst empty
    simp [join, lead]
  · by_cases slash : endsInSlash directory
    · simp [join, lead, relative, empty, slash]
    · simp [join, lead, relative, empty, slash]

/-- The path in front of a name is empty or ends in a slash. -/
theorem lead_eq (directory : String) :
    lead directory = "" ∨ ∃ front, lead directory = front ++ "/" ++ "" := by
  unfold lead
  split
  · exact Or.inl rfl
  · right
    split
    · next slash =>
        rw [endsInSlash, beq_iff_eq] at slash
        obtain ⟨front, characters⟩ := List.getLast?_eq_some_iff.1 slash
        refine ⟨String.ofList front, ?_⟩
        rw [← String.toList_inj, characters]
        simp
    · exact ⟨directory, by simp⟩

theorem segments_lead (directory : String) :
    segments (lead directory) = approach directory ++ [""] := by
  rw [approach]
  obtain empty | ⟨front, whole⟩ := lead_eq directory
  · rw [empty]
    rfl
  · rw [whole, segments_append_slash]
    exact List.dropLast_concat.symm ▸ rfl

/-- A name in a directory has the segments that lead to the directory, and then its own. -/
theorem segments_lead_append (directory name : String) :
    segments (lead directory ++ name) = approach directory ++ segments name := by
  have split := segments_lead directory
  obtain empty | ⟨front, whole⟩ := lead_eq directory
  · rw [empty] at split ⊢
    have none : [] ++ [""] = approach directory ++ [""] := split
    rw [← (List.append_inj' none rfl).1, String.empty_append]
    rfl
  · rw [whole, segments_append_slash] at split
    have same : segments front ++ [""] = approach directory ++ [""] := split
    rw [whole, String.append_empty, segments_append_slash, (List.append_inj' same rfl).1]

/-- What leads to the front of a name leads to the directory. -/
theorem segments_lead_eq (directory : String) :
    segments (lead directory) = segments directory ∨
      segments (lead directory) = segments directory ++ [""] := by
  unfold lead
  split
  · next empty => exact Or.inl (by rw [empty])
  · split
    · exact Or.inl rfl
    · right
      have split := segments_append_slash directory ""
      rw [String.append_empty] at split
      rw [split]
      rfl

theorem isAbsolute_lead_append
    {name : String}
    (relative : isAbsolute name = false)
    (directory : String) :
    isAbsolute (lead directory ++ name) = isAbsolute directory := by
  unfold lead
  split
  · next empty => rw [empty, String.empty_append, relative]; rfl
  · next nonempty =>
      split
      · exact isAbsolute_append nonempty name
      · rw [String.append_assoc]
        exact isAbsolute_append nonempty _

/-- Whether a name can be looked up in a directory depends on its length. -/
theorem isValid_lead_append
    {directory name template : String}
    (valid : isValid (lead directory ++ template) = true)
    (shorter : name.utf8ByteSize ≤ template.utf8ByteSize)
    (noNull : '\x00' ∉ name.toList) :
    isValid (lead directory ++ name) = true := by
  simp only [isValid, Bool.and_eq_true, decide_eq_true_eq, String.utf8ByteSize_append,
    String.toList_append, Bool.not_eq_true', List.contains_eq_mem, List.mem_append,
    decide_eq_false_iff_not, not_or] at valid ⊢
  exact ⟨by omega, valid.2.1, noNull⟩

/-! ## The directory above -/

/-- A file's path with its last segment cut off is the path of its directory. -/
theorem parent?_append_slash
    {directory name : String}
    {above : List String}
    {last : String}
    (split : segments directory = above ++ [last])
    (lastNamed : isIdle last = false)
    (plain : '/' ∉ name.toList)
    (named : isIdle name = false) :
    parent? (directory ++ "/" ++ name) = some directory := by
  have nonempty : directory ++ "/" ++ name ≠ "" := by
    intro empty
    have characters := congrArg String.toList empty
    simp at characters
  have whole : ofReversed (last :: above.reverse) = directory := by
    have notRoot : last :: above.reverse ≠ [""] := by
      intro root
      cases (List.cons.inj root).1
      cases lastNamed
    rw [ofReversed, if_neg notRoot, List.reverse_cons, List.reverse_reverse, ← split,
      intercalate_segments]
  have first : (ancestorsOf (last :: above.reverse)).head? = some directory := by
    rw [← whole]
    cases above.reverse with
    | nil =>
        have single : last ≠ "" := by
          rintro rfl
          cases lastNamed
        rw [ancestorsOf, if_neg single, ofReversed, if_neg (by simpa using single)]
        simp
    | cons second rest =>
        rw [ancestorsOf, lastNamed]
        · rfl
        · simp
  have reversed : (segments (directory ++ "/" ++ name)).reverse =
      name :: last :: above.reverse := by
    rw [segments_append_slash, split, segments_of_plain plain]
    simp
  rw [parent?, parents, if_neg nonempty, reversed, ancestorsOf, named]
  · exact first
  · simp

end FilePath
end FragmentCache
