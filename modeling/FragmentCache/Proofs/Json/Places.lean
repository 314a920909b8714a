import FragmentCache.Json
import Mathlib.Data.List.Nodup

/-!
# Places in a JSON value

A place is a list of numbers of children, from a value down to one inside it.  Equal
values may stand at several places, so a value inside another one is told by its place.
-/

namespace FragmentCache
namespace Json

variable {node child found : Json} {depth index : Nat} {place : List Nat}

/-- The values right below a value, in the order in which they are listed. -/
def children : Json → List Json
  | .array items => items
  | .object members => members.map Prod.snd
  | _ => []

/-- The value at a place inside a value. -/
def at? (node : Json) : List Nat → Option Json
  | [] => some node
  | index :: below => node.children[index]?.bind fun child => child.at? below

@[simp] theorem at?_nil (node : Json) : node.at? [] = some node := rfl

theorem at?_cons_eq_some_iff {below : List Nat} :
    node.at? (index :: below) = some found ↔
      ∃ child, node.children[index]? = some child ∧ child.at? below = some found :=
  Option.bind_eq_some_iff

theorem at?_cons (listed : node.children[index]? = some child) (below : List Nat) :
    node.at? (index :: below) = child.at? below := by
  rw [at?, listed, Option.bind_some]

/-- A place in two parts leads to the first one and on from there. -/
theorem at?_append (node : Json) (place below : List Nat) :
    node.at? (place ++ below) = (node.at? place).bind fun child => child.at? below := by
  induction place generalizing node with
  | nil => rfl
  | cons index rest inductionHypothesis =>
      rw [List.cons_append, at?, at?]
      cases node.children[index]? with
      | none => rfl
      | some child => exact inductionHypothesis child

/-- The place of a child is that of its parent with the child's number behind it. -/
theorem at?_concat (above : node.at? place = some found) (index : Nat) :
    node.at? (place ++ [index]) = found.children[index]? := by
  rw [at?_append, above, Option.bind_some, at?]
  cases found.children[index]? <;> rfl

/-- What every value in memory keeps to: an object lists each name once, and a word counts
the items of an array. -/
def IsProper : Json → Prop
  | .object members => (members.map Prod.fst).Nodup
  | .array items => items.length ≤ UInt64.size
  | _ => True

instance : DecidablePred IsProper
  | .null | .bool _ | .number _ | .string _ => isTrue trivial
  | .array items => inferInstanceAs (Decidable (items.length ≤ UInt64.size))
  | .object members => inferInstanceAs (Decidable (members.map Prod.fst).Nodup)

/-! ## Properties of all values inside -/

/-- A value and all values inside it have a property. -/
def Throughout (Property : Json → Prop) (node : Json) : Prop :=
  ∀ place found, node.at? place = some found → Property found

section Throughout

variable {Property : Json → Prop}

theorem Throughout.self (holds : node.Throughout Property) : Property node :=
  holds [] node rfl

theorem Throughout.below
    (holds : node.Throughout Property)
    (above : node.at? place = some found) :
    found.Throughout Property := by
  intro below inner inside
  refine holds (place ++ below) inner ?_
  rw [at?_append, above, Option.bind_some, inside]

/-- A property holds throughout a value exactly if it holds of the value and throughout its
children. -/
theorem throughout_iff :
    node.Throughout Property ↔
      Property node ∧ ∀ child ∈ node.children, child.Throughout Property := by
  constructor
  · intro holds
    refine ⟨holds.self, fun child listed => ?_⟩
    obtain ⟨index, listed⟩ := List.mem_iff_getElem?.1 listed
    have above : node.at? [index] = some child := at?_cons_eq_some_iff.2 ⟨child, listed, rfl⟩
    exact holds.below above
  · rintro ⟨self, below⟩ (_ | ⟨index, place⟩) found inside
    · rwa [← Option.some.inj inside]
    · obtain ⟨child, listed, inside⟩ := at?_cons_eq_some_iff.1 inside
      exact below child (List.mem_of_getElem? listed) place found inside

end Throughout

/-! ## All places -/

/-- The places in a value that are at most `depth` numbers long, outer ones first. -/
def places : Nat → Json → List (List Nat)
  | 0, _ => [[]]
  | depth + 1, node =>
    [] :: (node.children.mapIdx fun index child => (places depth child).map (index :: ·)).flatten

/-- The places that are listed are exactly those that lead to a value. -/
theorem mem_places :
    place ∈ node.places depth ↔ place.length ≤ depth ∧ (node.at? place).isSome = true := by
  induction depth generalizing node place with
  | zero => cases place <;> simp [places]
  | succ depth inductionHypothesis =>
      obtain _ | ⟨index, below⟩ := place
      · simp [places]
      · rw [places, List.mem_cons, List.mem_flatten, Option.isSome_iff_exists]
        simp only [List.mem_mapIdx, at?_cons_eq_some_iff]
        constructor
        · rintro (empty | ⟨_, ⟨other, bound, rfl⟩, listed⟩)
          · cases empty
          · obtain ⟨rest, inside, same⟩ := List.mem_map.1 listed
            obtain ⟨rfl, rfl⟩ := List.cons.inj same
            obtain ⟨short, leads⟩ := inductionHypothesis.1 inside
            obtain ⟨found, leads⟩ := Option.isSome_iff_exists.1 leads
            exact ⟨Nat.succ_le_succ short, found, _, List.getElem?_eq_getElem bound, leads⟩
        · rintro ⟨short, found, child, listed, leads⟩
          obtain ⟨bound, rfl⟩ := List.getElem?_eq_some_iff.1 listed
          refine Or.inr ⟨_, ⟨index, bound, rfl⟩, List.mem_map_of_mem ?_⟩
          exact inductionHypothesis.2
            ⟨Nat.le_of_succ_le_succ short, Option.isSome_iff_exists.2 ⟨found, leads⟩⟩

/-- No place is listed twice. -/
theorem nodup_places (depth : Nat) (node : Json) : (node.places depth).Nodup := by
  induction depth generalizing node with
  | zero => exact List.nodup_singleton _
  | succ depth inductionHypothesis =>
      rw [places, List.nodup_cons, List.nodup_flatten]
      refine ⟨?_, ?_, ?_⟩
      · rw [List.mem_flatten]
        rintro ⟨_, listed, inside⟩
        obtain ⟨index, bound, rfl⟩ := List.mem_mapIdx.1 listed
        obtain ⟨_, _, absurd⟩ := List.mem_map.1 inside
        cases absurd
      · intro _ listed
        obtain ⟨index, bound, rfl⟩ := List.mem_mapIdx.1 listed
        exact (inductionHypothesis _).map List.cons_injective
      · -- Places in different children differ in their first number.
        rw [List.pairwise_iff_getElem]
        intro first second firstBound secondBound before
        rw [List.getElem_mapIdx, List.getElem_mapIdx]
        intro place inFirst inSecond
        obtain ⟨_, _, rfl⟩ := List.mem_map.1 inFirst
        obtain ⟨_, _, same⟩ := List.mem_map.1 inSecond
        exact Nat.ne_of_gt before (List.cons.inj same).1

/-- A place that leads to a value is listed once. -/
theorem count_places (leads : (node.at? place).isSome = true) (short : place.length ≤ depth) :
    (node.places depth).count place = 1 :=
  List.count_eq_one_of_mem (nodup_places depth node) (mem_places.2 ⟨short, leads⟩)

example : (Json.array [.null, .object [("a", .bool true)]]).places 2 = [[], [0], [1], [1, 0]] :=
  rfl

end Json
end FragmentCache
