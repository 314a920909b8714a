import FragmentCache.Proofs.Recency.Links

/-!
# Recency lists as sequences

A recency list stands for one sequence of positions and values.  Adding, removing
and touching a value change the sequence the way their names say, and all other
nodes keep their position, value and order.
-/

namespace FragmentCache
namespace Recency

variable {α : Type}

/-! ## Chains from the head to the tail -/

/-- The links from the head to the tail spell a sequence. -/
structure Spells (list : Recency α) (sequence : List (Position × α)) : Prop where
  linked : list.Linked none none sequence
  head : list.head = firstOf none sequence
  tail : list.tail = lastOf none sequence
  distinct : (sequence.map Prod.fst).Nodup

/-- A list still spells its sequence if its nodes and its ends stay as they are. -/
theorem Spells.congr
    {list changed : Recency α}
    {sequence : List (Position × α)}
    (spells : list.Spells sequence)
    (same : ∀ position ∈ sequence.map Prod.fst,
      changed.node? position = list.node? position)
    (head : changed.head = list.head)
    (tail : changed.tail = list.tail) :
    changed.Spells sequence where
  linked := spells.linked.congr same
  head := head.trans spells.head
  tail := tail.trans spells.tail
  distinct := spells.distinct

/-- The links spell two stretches that still name a position between them. -/
structure Gap
    (list : Recency α)
    (front : List (Position × α))
    (hole : Position)
    (back : List (Position × α)) : Prop where
  linkedFront : list.Linked (some hole) none front
  linkedBack : list.Linked none (some hole) back
  head : list.head = firstOf (some hole) front
  tail : list.tail = lastOf (some hole) back
  distinct : ((front ++ back).map Prod.fst).Nodup
  apart : hole ∉ (front ++ back).map Prod.fst

/-- Around each of its elements a list has a gap. -/
theorem Spells.gap
    {list : Recency α}
    {front back : List (Position × α)}
    {position : Position}
    {value : α}
    (spells : list.Spells (front ++ (position, value) :: back)) :
    list.Gap front position back := by
  have linked := (linked_append _ _ _ _ _).1 spells.linked
  have distinct := spells.distinct
  rw [List.map_append, List.map_cons, List.nodup_middle, List.nodup_cons,
    ← List.map_append] at distinct
  refine ⟨linked.1, linked.2.2, ?_, ?_, distinct.2, distinct.1⟩
  · rw [spells.head, firstOf_append]
    rfl
  · rw [spells.tail, lastOf_append]
    rfl

/-- The node of a sequence names the ends of the stretches on either side of it. -/
theorem Spells.node?_eq
    {list : Recency α}
    {front back : List (Position × α)}
    {position : Position}
    {value : α}
    (spells : list.Spells (front ++ (position, value) :: back)) :
    list.node? position = some ⟨value, lastOf none front, firstOf none back⟩ :=
  ((linked_append _ _ _ _ _).1 spells.linked).2.1

/-- A gap is not touched by changes at its own position. -/
theorem Gap.congr
    {list changed : Recency α}
    {front back : List (Position × α)}
    {hole : Position}
    (gap : list.Gap front hole back)
    (same : ∀ position, position ≠ hole → changed.node? position = list.node? position)
    (head : changed.head = list.head)
    (tail : changed.tail = list.tail) :
    changed.Gap front hole back where
  linkedFront := gap.linkedFront.congr fun position listed =>
    same position fun equal => gap.apart (by simp_all)
  linkedBack := gap.linkedBack.congr fun position listed =>
    same position fun equal => gap.apart (by simp_all)
  head := head.trans gap.head
  tail := tail.trans gap.tail
  distinct := gap.distinct
  apart := gap.apart

/-- Unlinking closes the gap. -/
theorem Gap.unlink
    {list : Recency α}
    {front back : List (Position × α)}
    {hole : Position}
    (gap : list.Gap front hole back) :
    (list.unlink (lastOf none front) (firstOf none back)).Spells (front ++ back) := by
  have distinct := gap.distinct
  rw [List.map_append, List.nodup_append] at distinct
  obtain ⟨frontDistinct, backDistinct, disjoint⟩ := distinct
  have linkedFront :
      (list.unlink (lastOf none front) (firstOf none back)).Linked
        (firstOf none back) none front := by
    refine gap.linkedFront.retargetNext frontDistinct fun position listed => ?_
    have notFirst : ¬firstOf none back = some position := by
      intro first
      by_cases empty : back = []
      · subst empty
        cases first
      · obtain ⟨other, otherListed, firstEq⟩ := exists_firstOf empty none
        rw [firstEq, Option.some.injEq] at first
        exact disjoint position listed other otherListed first.symm
    rw [node?_unlink]
    simp [notFirst]
  have linkedBack :
      (list.unlink (lastOf none front) (firstOf none back)).Linked
        none (lastOf none front) back := by
    refine gap.linkedBack.retargetPrevious backDistinct fun position listed => ?_
    have notLast : ¬lastOf none front = some position := by
      intro last
      by_cases empty : front = []
      · subst empty
        cases last
      · obtain ⟨other, otherListed, lastEq⟩ := exists_lastOf empty none
        rw [lastEq, Option.some.injEq] at last
        exact disjoint other otherListed position listed last
    rw [node?_unlink]
    simp [notLast]
  refine ⟨(linked_append _ _ _ _ _).2 ⟨linkedFront, linkedBack⟩, ?_, ?_, gap.distinct⟩
  · rw [firstOf_append]
    by_cases empty : front = []
    · subst empty
      exact head_unlink_none _ _
    · obtain ⟨last, listed, lastEq⟩ := exists_lastOf empty none
      rw [lastEq, head_unlink_some (gap.linkedFront.inUse listed), gap.head]
      obtain ⟨first, rest, rfl⟩ := List.exists_cons_of_ne_nil empty
      rfl
  · rw [lastOf_append]
    by_cases empty : back = []
    · subst empty
      exact tail_unlink_none _ _
    · obtain ⟨first, listed, firstEq⟩ := exists_firstOf empty none
      rw [firstEq, tail_unlink_some (gap.linkedBack.inUse listed), gap.tail]
      exact lastOf_eq_of_ne_nil empty _ _

theorem node?_linkBack
    (list : Recency α)
    (position other : Position) :
    (list.linkBack position).node? other =
      match list.tail with
      | some last =>
        let told :=
          if other = last then
            (list.node? other).map fun node => { node with next := some position }
          else list.node? other
        if other = position then told.map fun node => { node with previous := some last }
        else told
      | none => list.node? other := by
  unfold linkBack
  cases list.tail with
  | none => rfl
  | some last =>
      change ((list.adjust last _).adjust position _).node? other = _
      rw [node?_adjust, node?_adjust]

theorem sameSlots_linkBack (list : Recency α) (position : Position) :
    SameSlots list (list.linkBack position) := by
  unfold linkBack
  cases list.tail with
  | none => exact ⟨rfl, rfl, rfl, fun _ absent => absent⟩
  | some last =>
      have told := (sameSlots_adjust list last fun node =>
        { node with next := some position }).trans
          (sameSlots_adjust _ position fun node => { node with previous := some last })
      exact told.trans (sameSlots_setTail _ _)

/-- A node without neighbours goes to the end of the sequence. -/
theorem Spells.linkBack
    {list : Recency α}
    {sequence : List (Position × α)}
    (spells : list.Spells sequence)
    {position : Position}
    {value : α}
    (found : list.node? position = some ⟨value, none, none⟩)
    (apart : position ∉ sequence.map Prod.fst) :
    (list.linkBack position).Spells (sequence ++ [(position, value)]) := by
  have tail := spells.tail
  have distinct : ((sequence ++ [(position, value)]).map Prod.fst).Nodup := by
    simp only [List.map_append, List.map_cons, List.map_nil]
    rw [List.nodup_append]
    refine ⟨spells.distinct, by simp, fun other listed last isLast equal => ?_⟩
    rw [List.mem_singleton] at isLast
    exact apart (isLast ▸ equal ▸ listed)
  by_cases empty : sequence = []
  · subst empty
    change list.tail = none at tail
    have linked : (list.linkBack position).node? position = some ⟨value, none, none⟩ := by
      rw [node?_linkBack, tail]
      exact found
    refine ⟨⟨linked, trivial⟩, ?_, rfl, distinct⟩
    simp [Recency.linkBack, tail, firstOf]
  · obtain ⟨last, listed, lastEq⟩ := exists_lastOf empty none
    rw [lastEq] at tail
    have differ : ¬position = last := fun equal => apart (equal ▸ listed)
    have linkedFront : (list.linkBack position).Linked (some position) none sequence := by
      refine spells.linked.retargetNext spells.distinct fun other otherListed => ?_
      have notNew : ¬other = position := fun equal => apart (equal ▸ otherListed)
      rw [node?_linkBack, tail, lastEq]
      simp [notNew, eq_comm]
    have linkedNew :
        (list.linkBack position).node? position = some ⟨value, some last, none⟩ := by
      rw [node?_linkBack, tail]
      simp [differ, found]
    refine ⟨(linked_append _ _ _ _ _).2 ⟨linkedFront, ?_, trivial⟩, ?_, ?_, distinct⟩
    · rw [lastEq]
      exact linkedNew
    · obtain ⟨first, rest, rfl⟩ := List.exists_cons_of_ne_nil empty
      simp [Recency.linkBack, tail, spells.head, firstOf]
    · rw [lastOf_append]
      rfl

end Recency
end FragmentCache
