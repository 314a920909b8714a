import FragmentCache.Recency
import Mathlib.Data.List.Nodup

/-!
# The links of a recency list

A stretch of nodes is linked when every node names its two neighbours.  Taking a
node out closes the gap between the stretches on either side of it, and a node
without neighbours can be linked behind the last one.
-/

namespace FragmentCache
namespace Recency

variable {α : Type}

/-! ## Nodes after a change -/

theorem lt_size_of_node?
    {list : Recency α}
    {position : Position}
    {node : Node α}
    (found : list.node? position = some node) :
    position < list.slots.size := by
  by_contra outside
  rw [node?, Array.getElem?_eq_none (Nat.le_of_not_lt outside)] at found
  cases found

theorem node?_setSlot
    {list : Recency α}
    {position : Position}
    (inside : position < list.slots.size)
    (slot : Option (Node α))
    (other : Position) :
    node? { list with slots := list.slots.setIfInBounds position slot } other =
      if other = position then slot else list.node? other := by
  unfold node?
  rw [Array.getElem?_setIfInBounds]
  by_cases same : position = other
  · subst same
    simp [inside]
  · have differ : ¬other = position := fun equal => same equal.symm
    simp [same, differ]

/-- A change at a position changes the node there alone. -/
theorem node?_adjust
    (list : Recency α)
    (position other : Position)
    (change : Node α → Node α) :
    (list.adjust position change).node? other =
      if other = position then (list.node? other).map change else list.node? other := by
  unfold adjust
  cases found : list.node? position with
  | none =>
      by_cases same : other = position
      · subst same
        simp [found]
      · simp [same]
  | some node =>
      dsimp only
      rw [node?_setSlot (lt_size_of_node? found)]
      by_cases same : other = position
      · subst same
        simp [found]
      · simp [same]

/-- What a change of links leaves as it was: the number of slots, the free ones and
the number of nodes.  No slot comes into use. -/
structure SameSlots (list changed : Recency α) : Prop where
  slotCount : changed.slots.size = list.slots.size
  free : changed.free = list.free
  size : changed.size = list.size
  unused : ∀ position, list.node? position = none → changed.node? position = none

theorem SameSlots.trans
    {first second third : Recency α}
    (left : SameSlots first second)
    (right : SameSlots second third) :
    SameSlots first third where
  slotCount := right.slotCount.trans left.slotCount
  free := right.free.trans left.free
  size := right.size.trans left.size
  unused position absent := right.unused position (left.unused position absent)

theorem sameSlots_setHead (list : Recency α) (head : Option Position) :
    SameSlots list { list with head } :=
  ⟨rfl, rfl, rfl, fun _ absent => absent⟩

theorem sameSlots_setTail (list : Recency α) (tail : Option Position) :
    SameSlots list { list with tail } :=
  ⟨rfl, rfl, rfl, fun _ absent => absent⟩

theorem sameSlots_adjust
    (list : Recency α)
    (position : Position)
    (change : Node α → Node α) :
    SameSlots list (list.adjust position change) := by
  refine ⟨?_, ?_, ?_, fun other absent => ?_⟩
  · unfold adjust
    split <;> simp
  · unfold adjust
    split <;> rfl
  · unfold adjust
    split <;> rfl
  · rw [node?_adjust, absent]
    split <;> rfl

@[simp] theorem head_adjust
    (list : Recency α)
    (position : Position)
    (change : Node α → Node α) :
    (list.adjust position change).head = list.head := by
  unfold adjust
  split <;> rfl

@[simp] theorem tail_adjust
    (list : Recency α)
    (position : Position)
    (change : Node α → Node α) :
    (list.adjust position change).tail = list.tail := by
  unfold adjust
  split <;> rfl

/-! ## Joining the neighbours of a node -/

theorem node?_linkNext
    (list : Recency α)
    (previous next : Option Position)
    (other : Position) :
    (list.linkNext previous next).node? other =
      if previous = some other then (list.node? other).map fun node => { node with next }
      else list.node? other := by
  unfold linkNext
  cases previous with
  | none => rfl
  | some position =>
      dsimp only
      split
      · rw [node?_adjust]
        simp only [Option.some.injEq, eq_comm]
      · next absent =>
        by_cases same : position = other
        · subst same
          rw [Bool.not_eq_true, Option.isSome_eq_false_iff, Option.isNone_iff_eq_none] at absent
          change list.node? position = _
          simp [absent]
        · simp only [Option.some.injEq, same, if_false]
          rfl

theorem node?_linkPrevious
    (list : Recency α)
    (previous next : Option Position)
    (other : Position) :
    (list.linkPrevious previous next).node? other =
      if next = some other then (list.node? other).map fun node => { node with previous }
      else list.node? other := by
  unfold linkPrevious
  cases next with
  | none => rfl
  | some position =>
      dsimp only
      split
      · rw [node?_adjust]
        simp only [Option.some.injEq, eq_comm]
      · next absent =>
        by_cases same : position = other
        · subst same
          rw [Bool.not_eq_true, Option.isSome_eq_false_iff, Option.isNone_iff_eq_none] at absent
          change list.node? position = _
          simp [absent]
        · simp only [Option.some.injEq, same, if_false]
          rfl

/-- Joining two neighbours changes their links alone. -/
theorem node?_unlink
    (list : Recency α)
    (previous next : Option Position)
    (other : Position) :
    (list.unlink previous next).node? other =
      let joined :=
        if previous = some other then (list.node? other).map fun node => { node with next }
        else list.node? other
      if next = some other then joined.map fun node => { node with previous } else joined := by
  rw [unlink, node?_linkPrevious, node?_linkNext]

theorem sameSlots_unlink (list : Recency α) (previous next : Option Position) :
    SameSlots list (list.unlink previous next) := by
  have forward : SameSlots list (list.linkNext previous next) := by
    unfold linkNext
    repeat' split
    · exact sameSlots_adjust _ _ _
    · exact sameSlots_setHead _ _
    · exact sameSlots_setHead _ _
  have backward : SameSlots (list.linkNext previous next) (list.unlink previous next) := by
    unfold unlink linkPrevious
    repeat' split
    · exact sameSlots_adjust _ _ _
    · exact sameSlots_setTail _ _
    · exact sameSlots_setTail _ _
  exact forward.trans backward

theorem head_linkPrevious (list : Recency α) (previous next : Option Position) :
    (list.linkPrevious previous next).head = list.head := by
  unfold linkPrevious
  repeat' split
  · exact head_adjust _ _ _
  · rfl
  · rfl

theorem tail_linkNext (list : Recency α) (previous next : Option Position) :
    (list.linkNext previous next).tail = list.tail := by
  unfold linkNext
  repeat' split
  · exact tail_adjust _ _ _
  · rfl
  · rfl

@[simp] theorem head_unlink_none (list : Recency α) (next : Option Position) :
    (list.unlink none next).head = next := by
  rw [unlink, head_linkPrevious]
  rfl

theorem head_unlink_some
    {list : Recency α}
    {position : Position}
    (inUse : (list.node? position).isSome)
    (next : Option Position) :
    (list.unlink (some position) next).head = list.head := by
  rw [unlink, head_linkPrevious]
  simp [linkNext, inUse]

@[simp] theorem tail_unlink_none (list : Recency α) (previous : Option Position) :
    (list.unlink previous none).tail = previous := rfl

theorem tail_unlink_some
    {list : Recency α}
    {position : Position}
    (inUse : (list.node? position).isSome)
    (previous : Option Position) :
    (list.unlink previous (some position)).tail = list.tail := by
  have still : ((list.linkNext previous (some position)).node? position).isSome := by
    rw [node?_linkNext]
    split <;> simp [inUse]
  rw [← tail_linkNext list previous (some position)]
  simp [unlink, linkPrevious, still]

/-! ## Linked stretches -/

/-- Position of the first node of a stretch, or of what comes after an empty one. -/
def firstOf (after : Option Position) : List (Position × α) → Option Position
  | [] => after
  | node :: _ => some node.1

/-- Position of the last node of a stretch, or of what comes before an empty one. -/
def lastOf (before : Option Position) : List (Position × α) → Option Position
  | [] => before
  | node :: rest => lastOf (some node.1) rest

/-- Every node of a stretch names its neighbours; `before` and `after` are those of
the whole stretch. -/
def Linked (list : Recency α) (after : Option Position) :
    Option Position → List (Position × α) → Prop
  | _, [] => True
  | before, (position, value) :: rest =>
      list.node? position = some ⟨value, before, firstOf after rest⟩ ∧
        list.Linked after (some position) rest

/-- A stretch begins where its front does, or else where its back does. -/
theorem firstOf_append
    (after : Option Position)
    (front back : List (Position × α)) :
    firstOf after (front ++ back) = firstOf (firstOf after back) front := by
  cases front <;> rfl

/-- A stretch ends where its back does, or else where its front does. -/
theorem lastOf_append
    (before : Option Position)
    (front back : List (Position × α)) :
    lastOf before (front ++ back) = lastOf (lastOf before front) back := by
  induction front generalizing before with
  | nil => rfl
  | cons node rest inductionHypothesis => exact inductionHypothesis _

/-- The last position of a stretch with nodes does not depend on what comes before. -/
theorem lastOf_eq_of_ne_nil
    {stretch : List (Position × α)}
    (nonempty : stretch ≠ [])
    (before other : Option Position) :
    lastOf before stretch = lastOf other stretch := by
  cases stretch with
  | nil => exact absurd rfl nonempty
  | cons node rest => rfl

theorem exists_firstOf
    {stretch : List (Position × α)}
    (nonempty : stretch ≠ [])
    (after : Option Position) :
    ∃ position ∈ stretch.map Prod.fst, firstOf after stretch = some position := by
  cases stretch with
  | nil => exact absurd rfl nonempty
  | cons node rest => exact ⟨node.1, by simp, rfl⟩

theorem exists_lastOf
    {stretch : List (Position × α)}
    (nonempty : stretch ≠ [])
    (before : Option Position) :
    ∃ position ∈ stretch.map Prod.fst, lastOf before stretch = some position := by
  induction stretch generalizing before with
  | nil => exact absurd rfl nonempty
  | cons node rest inductionHypothesis =>
      by_cases single : rest = []
      · subst single
        exact ⟨node.1, by simp, rfl⟩
      · obtain ⟨position, listed, last⟩ := inductionHypothesis single (some node.1)
        exact ⟨position, List.mem_cons_of_mem _ listed, last⟩

/-- A stretch is linked exactly if its front and its back are, up to each other. -/
theorem linked_append
    (list : Recency α)
    (after before : Option Position)
    (front back : List (Position × α)) :
    list.Linked after before (front ++ back) ↔
      list.Linked (firstOf after back) before front ∧
        list.Linked after (lastOf before front) back := by
  induction front generalizing before with
  | nil => simp [Linked, lastOf]
  | cons node rest inductionHypothesis =>
      obtain ⟨position, value⟩ := node
      simp only [List.cons_append, Linked, lastOf, firstOf_append, inductionHypothesis,
        and_assoc]

/-- Every position of a linked stretch is in use. -/
theorem Linked.inUse
    {list : Recency α}
    {after before : Option Position}
    {stretch : List (Position × α)}
    (linked : list.Linked after before stretch)
    {position : Position}
    (listed : position ∈ stretch.map Prod.fst) :
    (list.node? position).isSome := by
  induction stretch generalizing before with
  | nil => simp at listed
  | cons node rest inductionHypothesis =>
      obtain ⟨found, linkedRest⟩ := linked
      rw [List.map_cons, List.mem_cons] at listed
      rcases listed with rfl | later
      · rw [found]
        rfl
      · exact inductionHypothesis linkedRest later

/-- A stretch stays linked as long as its nodes stay as they are. -/
theorem Linked.congr
    {list changed : Recency α}
    {after before : Option Position}
    {stretch : List (Position × α)}
    (linked : list.Linked after before stretch)
    (same : ∀ position ∈ stretch.map Prod.fst,
      changed.node? position = list.node? position) :
    changed.Linked after before stretch := by
  induction stretch generalizing before with
  | nil => trivial
  | cons node rest inductionHypothesis =>
      obtain ⟨found, linkedRest⟩ := linked
      refine ⟨?_, inductionHypothesis linkedRest fun position listed =>
        same position (List.mem_cons_of_mem _ listed)⟩
      rw [same node.1 (by simp), found]

/-- A stretch whose last node is told what comes after it, and nothing else. -/
theorem Linked.retargetNext
    {list changed : Recency α}
    {after next before : Option Position}
    {stretch : List (Position × α)}
    (linked : list.Linked after before stretch)
    (distinct : (stretch.map Prod.fst).Nodup)
    (told : ∀ position ∈ stretch.map Prod.fst,
      changed.node? position =
        if lastOf none stretch = some position then
          (list.node? position).map fun node => { node with next }
        else list.node? position) :
    changed.Linked next before stretch := by
  induction stretch generalizing before with
  | nil => trivial
  | cons node rest inductionHypothesis =>
      obtain ⟨position, value⟩ := node
      obtain ⟨found, linkedRest⟩ := linked
      rw [List.map_cons, List.nodup_cons] at distinct
      by_cases single : rest = []
      · subst single
        refine ⟨?_, trivial⟩
        rw [told position (by simp), found]
        simp [lastOf, firstOf]
      · have sameLast : lastOf none ((position, value) :: rest) = lastOf none rest :=
          lastOf_eq_of_ne_nil single _ _
        rw [sameLast] at told
        refine ⟨?_, inductionHypothesis linkedRest distinct.2 fun other listed =>
          told other (List.mem_cons_of_mem _ listed)⟩
        obtain ⟨last, listed, lastEq⟩ := exists_lastOf single none
        have notLast : ¬last = position := fun equal => distinct.1 (equal ▸ listed)
        rw [told position (by simp), found, lastEq]
        obtain ⟨head, tail, rfl⟩ := List.exists_cons_of_ne_nil single
        simp [notLast, firstOf]

/-- A stretch whose first node is told what comes before it, and nothing else. -/
theorem Linked.retargetPrevious
    {list changed : Recency α}
    {after before previous : Option Position}
    {stretch : List (Position × α)}
    (linked : list.Linked after before stretch)
    (distinct : (stretch.map Prod.fst).Nodup)
    (told : ∀ position ∈ stretch.map Prod.fst,
      changed.node? position =
        if firstOf none stretch = some position then
          (list.node? position).map fun node => { node with previous }
        else list.node? position) :
    changed.Linked after previous stretch := by
  cases stretch with
  | nil => trivial
  | cons node rest =>
      obtain ⟨position, value⟩ := node
      obtain ⟨found, linkedRest⟩ := linked
      rw [List.map_cons, List.nodup_cons] at distinct
      refine ⟨?_, linkedRest.congr fun other listed => ?_⟩
      · rw [told position (by simp), found]
        simp [firstOf]
      · have differ : ¬position = other := fun equal => distinct.1 (equal ▸ listed)
        rw [told other (List.mem_cons_of_mem _ listed)]
        simp [firstOf, differ]

end Recency
end FragmentCache
