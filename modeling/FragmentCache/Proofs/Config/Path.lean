import FragmentCache.Config.Tree
import FragmentCache.Proofs.FileTree.Path
import FragmentCache.Proofs.Text.Numeral

/-!
# Configuration paths

The names in a path are its segments, without the empty ones.  The path of a child has
the names of its parent's path, and behind them those that stand in the name of the child:
one, if that name is a segment, and no or several others, if it is not.
-/

namespace FragmentCache
namespace ConfigTree

variable {path name : String}

/-! ## Names in paths -/

/-- A name that is one name in a path. -/
def IsSegment (name : String) : Prop := name ≠ "" ∧ '/' ∉ name.toList

instance (name : String) : Decidable (IsSegment name) := inferInstanceAs (Decidable (_ ∧ _))

/-- The names in a path are names that a path can have. -/
theorem isSegment_of_mem_names (listed : name ∈ names path) : IsSegment name := by
  obtain ⟨segment, nonempty⟩ := List.mem_filter.1 listed
  obtain ⟨characters, split, rfl⟩ := List.mem_map.1 segment
  refine ⟨by simpa using nonempty, ?_⟩
  rw [String.toList_ofList]
  exact FilePath.notMem_of_mem_splitAtSlashes split

theorem names_of_isSegment (isSegment : IsSegment name) : names name = [name] := by
  rw [names, FilePath.segments_of_plain isSegment.2]
  simp [isSegment.1]

/-- The names of two paths with a slash between them are those of the first, then those of
the second. -/
theorem names_append_slash (front back : String) :
    names (front ++ "/" ++ back) = names front ++ names back := by
  rw [names, FilePath.segments_append_slash, List.filter_append]
  rfl

/-- The number of an item is one name in a path. -/
theorem isSegment_toString (number : Nat) : IsSegment (toString number) := by
  constructor
  · intro empty
    exact Text.toList_toString_ne_nil number (by rw [empty]; rfl)
  · intro slash
    cases Text.isDigit_of_mem_toString slash

/-! ## The path of a child -/

/-- Slashes at the end of a path add no name. -/
theorem names_basePath (path : String) : names (basePath path) = names path := by
  have trimmed (reversed : List Char) :
      names (String.ofList (reversed.dropWhile (· == '/')).reverse) =
        names (String.ofList reversed.reverse) := by
    induction reversed with
    | nil => rfl
    | cons character rest inductionHypothesis =>
        by_cases slash : character = '/'
        · have last : String.ofList (character :: rest).reverse =
              String.ofList rest.reverse ++ "/" ++ "" := by
            rw [← String.toList_inj]
            simp [slash]
          rw [last, names_append_slash, ← inductionHypothesis, slash]
          exact (List.append_nil _).symm
        · rw [List.dropWhile_cons_of_neg (by simpa using slash)]
  rw [basePath, trimmed, List.reverse_reverse, String.ofList_toList]

/-- The path under which a child is listed. -/
def childPath (path name : String) : String := basePath path ++ "/" ++ name

/-- The path of a child has the names of its parent's path, and behind them those in its own
name. -/
theorem names_childPath (path name : String) :
    names (childPath path name) = names path ++ names name := by
  rw [childPath, names_append_slash, names_basePath]

/-- Children with different names are listed under different paths. -/
theorem childPath_injective (path : String) : Function.Injective (childPath path) := by
  intro first second same
  have characters := congrArg String.toList same
  simp only [childPath, String.toList_append] at characters
  exact String.toList_inj.1 (List.append_cancel_left characters)

end ConfigTree
end FragmentCache
