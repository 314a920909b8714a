import FragmentCache.Proofs.Recency.Sequence
import Mathlib.Data.List.Perm.Subperm

/-!
# Operations on recency lists

A recency list represents a sequence when its links spell it, every other slot is
free, and the size is the length.  Every operation keeps a list representing a
sequence, as long as there are positions enough.
-/

namespace FragmentCache
namespace Recency

variable {α : Type}

/-- The sequence of positions and values that a list stands for; each slot beside
it is listed as free once. -/
structure Represents (list : Recency α) (sequence : List (Position × α)) : Prop where
  spells : list.Spells sequence
  unused : ∀ position, position ∉ sequence.map Prod.fst → list.node? position = none
  freeDistinct : list.free.Nodup
  mem_free : ∀ position, position ∈ list.free ↔
    position < list.slots.size ∧ position ∉ sequence.map Prod.fst
  size : list.size = sequence.length

theorem represents_empty : (empty : Recency α).Represents [] where
  spells := ⟨trivial, rfl, rfl, List.nodup_nil⟩
  unused _ _ := by simp [node?, empty]
  freeDistinct := List.nodup_nil
  mem_free _ := by simp [empty]
  size := rfl

/-! ## Removing -/

/-- Removing a position takes out its value and nothing else. -/
theorem Represents.remove
    {list : Recency α}
    {front back : List (Position × α)}
    {position : Position}
    {value : α}
    (represents : list.Represents (front ++ (position, value) :: back)) :
    (list.remove position).2 = some value ∧
      (list.remove position).1.Represents (front ++ back) := by
  have found := represents.spells.node?_eq
  have inside := lt_size_of_node? found
  have gap := represents.spells.gap
  have listed (other : Position) :
      other ∉ (front ++ (position, value) :: back).map Prod.fst ↔
        other ≠ position ∧ other ∉ (front ++ back).map Prod.fst := by
    simp only [List.map_append, List.map_cons, List.mem_append, List.mem_cons]
    tauto
  let freed : Recency α := { list with slots := list.slots.setIfInBounds position none }
  have nodes (other : Position) :
      freed.node? other = if other = position then none else list.node? other :=
    node?_setSlot inside none other
  have freedGap : freed.Gap front position back :=
    gap.congr (fun other differ => by rw [nodes, if_neg differ]) rfl rfl
  have slots := sameSlots_unlink freed (lastOf none front) (firstOf none back)
  rw [Recency.remove, found]
  refine ⟨rfl, ⟨?_, fun other apart => ?_, ?_, fun other => ?_, ?_⟩⟩
  · exact freedGap.unlink.congr (fun _ _ => rfl) rfl rfl
  · refine slots.unused other ?_
    rw [nodes]
    split
    · rfl
    · next differ => exact represents.unused other ((listed other).2 ⟨differ, apart⟩)
  · change (position :: _).Nodup
    rw [slots.free, List.nodup_cons]
    refine ⟨fun free => ?_, represents.freeDistinct⟩
    exact ((listed position).1 ((represents.mem_free position).1 free).2).1 rfl
  · change other ∈ position :: _ ↔ other < Array.size _ ∧ _
    rw [slots.free, slots.slotCount, List.mem_cons, represents.mem_free, listed]
    have apart := gap.apart
    simp only [freed, Array.size_setIfInBounds]
    by_cases same : other = position
    · subst same
      exact ⟨fun _ => ⟨inside, apart⟩, fun _ => Or.inl rfl⟩
    · simp only [same, false_or, ne_eq, not_false_eq_true, true_and]
  · change Recency.size _ - 1 = _
    rw [slots.size]
    change list.size - 1 = _
    rw [represents.size]
    simp

/-- Popping the front takes the first element of the sequence. -/
theorem Represents.popFront
    {list : Recency α}
    {position : Position}
    {value : α}
    {rest : List (Position × α)}
    (represents : list.Represents ((position, value) :: rest)) :
    list.popFront.2 = some value ∧ list.popFront.1.Represents rest := by
  have atFront : list.Represents ([] ++ (position, value) :: rest) := represents
  rw [Recency.popFront, represents.spells.head]
  exact atFront.remove

/-! ## Touching -/

/-- Touching a position moves it to the end. -/
theorem Represents.moveToBack
    {list : Recency α}
    {front back : List (Position × α)}
    {position : Position}
    {value : α}
    (represents : list.Represents (front ++ (position, value) :: back)) :
    (list.moveToBack position).Represents (front ++ back ++ [(position, value)]) := by
  have found := represents.spells.node?_eq
  have gap := represents.spells.gap
  have isLast : list.tail = some position ↔ back = [] := by
    rw [gap.tail]
    constructor
    · intro last
      by_contra nonempty
      obtain ⟨other, listed, lastEq⟩ := exists_lastOf nonempty (some position)
      rw [lastEq, Option.some.injEq] at last
      subst last
      exact gap.apart (by simp_all)
    · rintro rfl
      rfl
  unfold Recency.moveToBack
  by_cases last : back = []
  · rw [if_pos (isLast.2 last)]
    subst last
    simpa using represents
  · rw [if_neg (mt isLast.1 last), found]
    let unlinked := list.unlink (lastOf none front) (firstOf none back)
    let alone := unlinked.adjust position fun node => { node with previous := none, next := none }
    have aloneNode : alone.node? position = some ⟨value, none, none⟩ := by
      rw [node?_adjust, if_pos rfl, node?_unlink, found]
      split <;> split <;> rfl
    have spells : alone.Spells (front ++ back) := by
      refine gap.unlink.congr (fun other listed => ?_) (head_adjust _ _ _) (tail_adjust _ _ _)
      have differ : other ≠ position := fun equal => gap.apart (equal ▸ listed)
      rw [node?_adjust, if_neg differ]
    have slots : SameSlots list (alone.linkBack position) :=
      ((sameSlots_unlink _ _ _).trans (sameSlots_adjust _ _ _)).trans (sameSlots_linkBack _ _)
    have perm : (front ++ back ++ [(position, value)]).Perm
        (front ++ (position, value) :: back) := by
      rw [List.append_assoc]
      exact (List.perm_append_singleton _ back).append_left front
    have listed (other : Position) := (perm.map Prod.fst).mem_iff (a := other)
    refine ⟨spells.linkBack aloneNode gap.apart, fun other apart => ?_, ?_, fun other => ?_, ?_⟩
    · exact slots.unused other (represents.unused other (mt (listed other).2 apart))
    · exact slots.free ▸ represents.freeDistinct
    · rw [listed]
      exact slots.free ▸ slots.slotCount ▸ represents.mem_free other
    · rw [perm.length_eq]
      exact slots.size.trans represents.size

/-! ## Adding -/

/-- Without free slots there are no more slots than values. -/
theorem Represents.slotCount_le
    {list : Recency α}
    {sequence : List (Position × α)}
    (represents : list.Represents sequence)
    (full : list.free = []) :
    list.slots.size ≤ sequence.length := by
  have covered : List.range list.slots.size ⊆ sequence.map Prod.fst := by
    intro position inside
    rw [List.mem_range] at inside
    by_contra apart
    have free := (represents.mem_free position).2 ⟨inside, apart⟩
    rw [full] at free
    cases free
  simpa using (List.subperm_of_subset List.nodup_range covered).length_le

/-- The position of a new node stood for no value, and only its slot changes. -/
theorem Represents.allocate
    {list : Recency α}
    {sequence : List (Position × α)}
    (represents : list.Represents sequence)
    (fits : list.size < positionCount)
    (value : α) :
    (list.allocate value).2 ∉ sequence.map Prod.fst ∧
      (∀ other, (list.allocate value).1.node? other =
        if other = (list.allocate value).2 then some ⟨value, none, none⟩
        else list.node? other) ∧
      (list.allocate value).1.free.Nodup ∧
      ∀ other, other ∈ (list.allocate value).1.free ↔
        other < (list.allocate value).1.slots.size ∧
          other ≠ (list.allocate value).2 ∧ other ∉ sequence.map Prod.fst := by
  have distinct := represents.freeDistinct
  have accounts := represents.mem_free
  unfold Recency.allocate
  cases free : list.free with
  | cons position rest =>
      rw [free] at distinct accounts
      rw [List.nodup_cons] at distinct
      obtain ⟨inside, apart⟩ := (accounts position).1 List.mem_cons_self
      refine ⟨apart, node?_setSlot inside _, distinct.2, fun other => ?_⟩
      have account := accounts other
      rw [List.mem_cons] at account
      simp only [Array.size_setIfInBounds]
      constructor
      · intro listed
        have ⟨otherInside, otherApart⟩ := account.1 (Or.inr listed)
        exact ⟨otherInside, fun equal => distinct.1 (equal ▸ listed), otherApart⟩
      · rintro ⟨otherInside, differ, otherApart⟩
        exact (account.2 ⟨otherInside, otherApart⟩).resolve_left differ
  | nil =>
      have bound := represents.slotCount_le free
      rw [← represents.size] at bound
      have position : min list.slots.size lastPosition = list.slots.size :=
        Nat.min_eq_left (Nat.le_trans bound (Nat.le_of_lt_succ fits))
      simp only [position]
      have apart : list.slots.size ∉ sequence.map Prod.fst := by
        intro listed
        obtain ⟨node, found⟩ := Option.isSome_iff_exists.1 (represents.spells.linked.inUse listed)
        exact absurd (lt_size_of_node? found) (Nat.lt_irrefl _)
      refine ⟨apart, fun other => ?_, by simp, fun other => ?_⟩
      · unfold node?
        rw [Array.getElem?_push]
        split <;> rfl
      · have account := accounts other
        rw [free] at account
        simp only [List.not_mem_nil, false_iff, not_and, not_not, Array.size_push] at account ⊢
        intro inside differ
        exact account (Nat.lt_of_le_of_ne (Nat.le_of_lt_succ inside) differ)

theorem size_pushBack (list : Recency α) (value : α) :
    (list.pushBack value).1.size = list.size + 1 := by
  have allocated : (list.allocate value).1.size = list.size := by
    unfold allocate
    split <;> rfl
  exact congrArg Nat.succ ((sameSlots_linkBack _ _).size.trans allocated)

/-- Adding a value puts it at the end, at a position that stood for no value. -/
theorem Represents.pushBack
    {list : Recency α}
    {sequence : List (Position × α)}
    (represents : list.Represents sequence)
    (fits : list.size < positionCount)
    (value : α) :
    (list.pushBack value).2 ∉ sequence.map Prod.fst ∧
      (list.pushBack value).1.Represents (sequence ++ [((list.pushBack value).2, value)]) := by
  have allocation := represents.allocate fits value
  have head : (list.allocate value).1.head = list.head := by
    unfold Recency.allocate
    split <;> rfl
  have tail : (list.allocate value).1.tail = list.tail := by
    unfold Recency.allocate
    split <;> rfl
  have size := list.size_pushBack value
  unfold Recency.pushBack at size ⊢
  generalize list.allocate value = taken at allocation head tail size ⊢
  obtain ⟨allocated, position⟩ := taken
  obtain ⟨apart, nodes, distinct, accounts⟩ := allocation
  have spells : allocated.Spells sequence := by
    refine represents.spells.congr (fun other listed => ?_) head tail
    have differ : other ≠ position := fun equal => apart (equal ▸ listed)
    rw [nodes, if_neg differ]
  have linked := spells.linkBack (by rw [nodes, if_pos rfl]) apart
  have slots := sameSlots_linkBack allocated position
  have listed (other : Position) :
      other ∉ (sequence ++ [(position, value)]).map Prod.fst ↔
        other ≠ position ∧ other ∉ sequence.map Prod.fst := by
    simp only [List.map_append, List.map_cons, List.map_nil, List.mem_append, List.mem_singleton]
    tauto
  refine ⟨apart, ⟨?_, fun other otherApart => ?_, ?_, fun other => ?_, ?_⟩⟩
  · exact linked.congr (fun _ _ => rfl) rfl rfl
  · have ⟨differ, unlisted⟩ := (listed other).1 otherApart
    refine slots.unused other ?_
    rw [nodes, if_neg differ, represents.unused other unlisted]
  · exact slots.free ▸ distinct
  · rw [listed]
    exact slots.free ▸ slots.slotCount ▸ accounts other
  · refine size.trans ?_
    rw [represents.size, List.length_append]
    rfl

/-! ## Reading -/

/-- Following the links of a stretch lists it, and then ends. -/
theorem Linked.itemsFrom
    {list : Recency α}
    {before : Option Position}
    {stretch : List (Position × α)}
    (linked : list.Linked none before stretch)
    (count : Nat) :
    list.itemsFrom count (firstOf none stretch) = stretch.take count := by
  induction stretch generalizing before count with
  | nil => cases count <;> rfl
  | cons node rest inductionHypothesis =>
      obtain ⟨position, value⟩ := node
      obtain ⟨found, linkedRest⟩ := linked
      cases count with
      | zero => rfl
      | succ count =>
          change list.itemsFrom (count + 1) (some position) = _
          rw [Recency.itemsFrom, found]
          dsimp only
          rw [inductionHypothesis linkedRest, List.take_succ_cons]

/-- There are at least as many slots as values. -/
theorem Spells.length_le
    {list : Recency α}
    {sequence : List (Position × α)}
    (spells : list.Spells sequence) :
    sequence.length ≤ list.slots.size := by
  have inside : sequence.map Prod.fst ⊆ List.range list.slots.size := by
    intro position listed
    obtain ⟨node, found⟩ := Option.isSome_iff_exists.1 (spells.linked.inUse listed)
    exact List.mem_range.2 (lt_size_of_node? found)
  simpa using (List.subperm_of_subset spells.distinct inside).length_le

/-- The links list the sequence that they spell. -/
theorem Spells.items_eq
    {list : Recency α}
    {sequence : List (Position × α)}
    (spells : list.Spells sequence) :
    list.items = sequence := by
  rw [Recency.items, spells.head, spells.linked.itemsFrom]
  exact List.take_of_length_le spells.length_le

/-- A value that a list holds at a position stands there in the sequence. -/
theorem Represents.mem_of_get?
    {list : Recency α}
    {sequence : List (Position × α)}
    (represents : list.Represents sequence)
    {position : Position}
    {value : α}
    (found : list.get? position = some value) :
    (position, value) ∈ sequence := by
  by_cases listed : position ∈ sequence.map Prod.fst
  · obtain ⟨⟨_, other⟩, member, rfl⟩ := List.mem_map.1 listed
    obtain ⟨front, back, rfl⟩ := List.append_of_mem member
    rw [get?, represents.spells.node?_eq] at found
    cases found
    exact member
  · rw [get?, represents.unused position listed] at found
    cases found

/-- An element of the sequence is read at its position. -/
theorem Represents.get?_of_mem
    {list : Recency α}
    {sequence : List (Position × α)}
    (represents : list.Represents sequence)
    {position : Position}
    {value : α}
    (listed : (position, value) ∈ sequence) :
    list.get? position = some value := by
  obtain ⟨front, back, rfl⟩ := List.append_of_mem listed
  rw [get?, represents.spells.node?_eq]
  rfl

end Recency
end FragmentCache
