import FragmentCache.Proofs.Pool.Refinement
import Mathlib.Data.List.Forall2

/-!
# Larger pools keep what smaller ones keep

Two pools of different capacities go through the same operations.  At any time the
entries of the smaller one that are not expired are among those of the larger one,
in the same order and with the same marks, and the larger one has at least as much
room left beside them.  So it never misses a document that the smaller one serves.
-/

namespace FragmentCache
namespace Shelf

open Pool (Operation Reply Observation)

variable {shelf : Shelf} {key : String} {now : Timestamp}

/-! ## Lists of entries -/

/-- A test leaves out at least as many elements of a list as of a part of it. -/
theorem length_filter_add_le
    {α : Type}
    {part whole : List α}
    (included : part.Sublist whole)
    (test : α → Bool) :
    (whole.filter test).length + part.length ≤ whole.length + (part.filter test).length := by
  have left := List.length_eq_length_filter_add (l := part) test
  have right := List.length_eq_length_filter_add (l := whole) test
  have fewer := (included.filter fun element => !test element).length_le
  omega

/-- The entries of the other keys. -/
def without (key : String) (entries : List (String × Item)) : List (String × Item) :=
  entries.filter fun entry => !decide (entry.1 = key)

/-- The entries with another item under a key. -/
def replaced (key : String) (item : Item) (entries : List (String × Item)) :
    List (String × Item) :=
  entries.map fun entry => if entry.1 = key then (key, item) else entry

theorem replaced_of_notMem
    {entries : List (String × Item)}
    (unlisted : key ∉ entries.map Prod.fst)
    (item : Item) :
    replaced key item entries = entries := by
  unfold replaced
  rw [List.map_congr_left (g := id), List.map_id]
  intro entry listed
  rw [if_neg]
  · rfl
  · intro same
    exact unlisted (same ▸ List.mem_map_of_mem listed)

theorem without_of_notMem
    {entries : List (String × Item)}
    (unlisted : key ∉ entries.map Prod.fst) :
    without key entries = entries :=
  Table.filter_ne_of_notMem unlisted

theorem notMem_without (key : String) (entries : List (String × Item)) :
    key ∉ (without key entries).map Prod.fst := by
  intro listed
  obtain ⟨entry, member, same⟩ := List.mem_map.1 listed
  have differ := (List.mem_filter.1 member).2
  simp [same] at differ

/-- Leaving out a listed key leaves out one entry. -/
theorem length_without
    {entries : List (String × Item)}
    (distinct : (entries.map Prod.fst).Nodup)
    (listed : key ∈ entries.map Prod.fst) :
    (without key entries).length + 1 = entries.length := by
  obtain ⟨entry, member, rfl⟩ := List.mem_map.1 listed
  obtain ⟨front, back, rfl⟩ := List.append_of_mem member
  unfold without
  rw [Table.filter_ne_of_split distinct, List.length_append, List.length_append,
    List.length_cons]
  omega

/-! ## Entries that are not expired -/

/-- The entries that are not expired at `now`, in the order of touches. -/
def fresh (shelf : Shelf) (now : Timestamp) : List (String × Item) :=
  shelf.items.entries.filter fun entry => !entry.2.expiredAt now

theorem length_fresh_le (shelf : Shelf) (now : Timestamp) :
    (shelf.fresh now).length ≤ shelf.size :=
  List.length_filter_le _ _

theorem nodup_fresh (shelf : Shelf) (now : Timestamp) :
    ((shelf.fresh now).map Prod.fst).Nodup :=
  shelf.items.nodup.sublist (List.filter_sublist.map Prod.fst)

/-- What is expired stays expired. -/
theorem Item.expiredAt_later
    {item : Item}
    {later : Timestamp}
    (expired : item.expiredAt now = true)
    (order : now ≤ later) :
    item.expiredAt later = true := by
  simp only [expiredAt, Tag.expiredAt, Bool.and_eq_true, decide_eq_true_eq] at expired ⊢
  exact ⟨expired.1, Int64.le_trans expired.2 order⟩

/-- What is fresh later is what was fresh before and has not expired since. -/
theorem fresh_later
    {later : Timestamp}
    (order : now ≤ later) :
    shelf.fresh later = (shelf.fresh now).filter fun entry => !entry.2.expiredAt later := by
  unfold fresh
  rw [List.filter_filter]
  refine List.filter_congr fun entry _ => ?_
  cases expired : entry.2.expiredAt now with
  | false => simp
  | true => simp [Item.expiredAt_later expired order]

/-- The fresh entries are those found under their keys that have not expired. -/
theorem mem_fresh_iff {item : Item} :
    (key, item) ∈ shelf.fresh now ↔
      shelf.items.find? key = some item ∧ item.expiredAt now = false := by
  rw [fresh, List.mem_filter, Table.find?_eq_some_iff]
  simp

theorem mem_keys_fresh_iff :
    key ∈ (shelf.fresh now).map Prod.fst ↔
      ∃ item, shelf.items.find? key = some item ∧ item.expiredAt now = false := by
  simp only [← mem_fresh_iff, List.mem_map, Prod.exists, exists_and_right, exists_eq_right]

theorem entries_erase (shelf : Shelf) (key : String) :
    (shelf.items.erase key).entries = without key shelf.items.entries :=
  rfl

/-- Expired entries and the entries under a key can be left out in either order. -/
theorem fresh_without (shelf : Shelf) (key : String) (now : Timestamp) :
    (without key shelf.items.entries).filter (fun entry => !entry.2.expiredAt now) =
      without key (shelf.fresh now) :=
  List.filter_comm _ _ _

/-- An item put last is the last of the fresh ones, unless it has expired. -/
theorem fresh_putLast (shelf : Shelf) (key : String) (item : Item) (now : Timestamp) :
    (shelf.putLast key item).fresh now =
      without key (shelf.fresh now) ++ [(key, item)].filter (fun entry => !entry.2.expiredAt now) := by
  rw [fresh, entries_putLast, entries_erase, List.filter_append, fresh_without]

/-- Marking a fresh entry leaves the fresh ones in their order. -/
theorem fresh_mark
    {item : Item}
    (listed : (key, item) ∈ shelf.fresh now) :
    (shelf.mark key item).fresh now =
      replaced key { item with prefetchMarked := true } (shelf.fresh now) := by
  obtain ⟨found, unexpired⟩ := mem_fresh_iff.1 listed
  obtain ⟨front, back, split⟩ := Table.exists_split found
  have unlisted := Table.notMem_of_split split
  rw [List.map_append, List.mem_append, not_or] at unlisted
  have outside : ∀ part : List (String × Item), key ∉ part.map Prod.fst →
      replaced key { item with prefetchMarked := true }
        (part.filter fun entry => !entry.2.expiredAt now) =
          part.filter fun entry => !entry.2.expiredAt now := by
    intro part unlisted
    apply replaced_of_notMem
    exact fun member => unlisted ((List.filter_sublist.map Prod.fst).subset member)
  have unmarked : !item.expiredAt now := by rw [unexpired]; rfl
  have marked : !{ item with prefetchMarked := true }.expiredAt now := unmarked
  unfold mark
  rw [fresh, fresh, Table.put_of_split split, split]
  simp only [List.filter_append, List.filter_cons, marked, unmarked, if_true]
  unfold replaced at outside ⊢
  rw [List.map_append, List.map_cons, if_pos rfl, outside front unlisted.1,
    outside back unlisted.2]

/-- A fresh entry that is touched moves to the end. -/
theorem fresh_touch
    {item : Item}
    (listed : (key, item) ∈ shelf.fresh now) :
    (shelf.putLast key item).fresh now = without key (shelf.fresh now) ++ [(key, item)] := by
  have unexpired : !item.expiredAt now := by
    rw [(mem_fresh_iff.1 listed).2]
    rfl
  rw [fresh_putLast, List.filter_singleton, unexpired]
  rfl

/-! ## Loads -/

/-- A load of a key without a fresh entry finds nothing to serve. -/
theorem perform_load_of_stale
    (stale : key ∉ (shelf.fresh now).map Prod.fst) :
    shelf.perform (.load key now) = (shelf, .answered .notFound) ∨
      shelf.perform (.load key now) = (shelf.expire key, .answered .expired) := by
  simp only [perform, load]
  cases found : shelf.items.find? key with
  | none => exact Or.inl rfl
  | some item =>
      have expired : item.expiredAt now = true := by
        rw [mem_keys_fresh_iff] at stale
        apply Bool.of_not_eq_false
        exact fun unexpired => stale ⟨item, found, unexpired⟩
      right
      simp only [expired, if_true]

/-- A load of a key with a fresh entry depends on that entry only. -/
theorem perform_load_of_fresh
    {item : Item}
    (listed : (key, item) ∈ shelf.fresh now) :
    shelf.perform (.load key now) =
      match item.dueAt now with
      | .error crash => (shelf, .crashed crash)
      | .ok true => (shelf.mark key item, .answered .needPrefetch)
      | .ok false => (shelf.putLast key item, .answered (.success item.cached)) := by
  obtain ⟨found, unexpired⟩ := mem_fresh_iff.1 listed
  simp only [perform, load, found, unexpired, Bool.false_eq_true, if_false]
  cases item.dueAt now with
  | error crash => rfl
  | ok due => cases due <;> rfl

/-! ## Capacity -/

/-- A bounded shelf has no more items than its capacity. -/
def Within (shelf : Shelf) : Prop := shelf.capacity = 0 ∨ shelf.size ≤ shelf.capacity

theorem capacity_shrink (shelf : Shelf) (now : Timestamp) :
    (shelf.shrink now).capacity = shelf.capacity := by
  unfold shrink
  dsimp only
  split <;> rfl

theorem capacity_roomFor (shelf : Shelf) (key : String) (now : Timestamp) :
    (shelf.roomFor key now).capacity = shelf.capacity := by
  unfold roomFor
  split
  · exact capacity_shrink shelf now
  · rfl

theorem capacity_perform (shelf : Shelf) (operation : Operation) :
    (shelf.perform operation).1.capacity = shelf.capacity := by
  cases operation with
  | load key now =>
      by_cases listed : key ∈ (shelf.fresh now).map Prod.fst
      · obtain ⟨⟨_, item⟩, member, rfl⟩ := List.mem_map.1 listed
        rw [perform_load_of_fresh member]
        split <;> rfl
      · obtain unchanged | expired := perform_load_of_stale listed
        · rw [unchanged]
        · rw [expired]
          rfl
  | save key cached now => exact capacity_roomFor shelf key now
  | remove key => rfl
  | shrink now => exact capacity_shrink shelf now
  | clear => rfl

theorem size_mark
    {item : Item}
    (found : shelf.items.find? key = some item) :
    (shelf.mark key item).size = shelf.size :=
  Table.size_put_of_present found _

theorem size_putLast (shelf : Shelf) (key : String) (item : Item) :
    (shelf.putLast key item).size = (without key shelf.items.entries).length + 1 := by
  change (shelf.putLast key item).items.entries.length = _
  rw [entries_putLast, entries_erase, List.length_append, List.length_singleton]

theorem length_without_le (key : String) (entries : List (String × Item)) :
    (without key entries).length ≤ entries.length :=
  List.length_filter_le _ _

/-- A bounded shelf that was shrunk has room for one more item. -/
theorem size_shrink_lt
    (bounded : 0 < shelf.capacity)
    (now : Timestamp) :
    (shelf.shrink now).size < shelf.capacity := by
  have unbounded : ¬(shelf.dropExpired now).capacity = 0 := Nat.ne_of_gt bounded
  rw [shrink, if_neg unbounded]
  change (List.drop ((shelf.dropExpired now).items.entries.length + 1 - shelf.capacity)
    (shelf.dropExpired now).items.entries).length < shelf.capacity
  rw [List.length_drop]
  omega

/-- Apart from a key, a bounded shelf with room for that key is not full. -/
theorem length_without_roomFor_lt
    (bounded : 0 < shelf.capacity)
    (within : shelf.Within)
    (key : String)
    (now : Timestamp) :
    (without key (shelf.roomFor key now).items.entries).length < shelf.capacity := by
  have fits : shelf.size ≤ shelf.capacity := within.resolve_left (Nat.ne_of_gt bounded)
  unfold roomFor
  split
  · exact Nat.lt_of_le_of_lt (length_without_le _ _) (size_shrink_lt bounded now)
  · next roomy =>
      cases contained : shelf.items.contains key with
      | true =>
          have listed : key ∈ shelf.items.keys := Table.mem_keys_iff.2 contained
          have oneLess := length_without shelf.items.nodup listed
          change (without key shelf.items.entries).length + 1 = shelf.size at oneLess
          omega
      | false =>
          have notFull : ¬shelf.IsFull := fun full => roomy ⟨contained, full⟩
          have less : shelf.size < shelf.capacity := by
            apply Nat.lt_of_not_le
            exact fun full => notFull ⟨bounded, full⟩
          exact Nat.lt_of_le_of_lt (length_without_le _ _) less

/-- Every operation keeps a bounded shelf within its capacity. -/
theorem Within.perform
    (within : shelf.Within)
    (operation : Operation) :
    (shelf.perform operation).1.Within := by
  rcases Nat.eq_zero_or_pos shelf.capacity with unbounded | bounded
  · exact Or.inl ((capacity_perform shelf operation).trans unbounded)
  have fits : shelf.size ≤ shelf.capacity := within.resolve_left (Nat.ne_of_gt bounded)
  right
  rw [capacity_perform]
  cases operation with
  | load key now =>
      by_cases listed : key ∈ (shelf.fresh now).map Prod.fst
      · obtain ⟨⟨_, item⟩, member, rfl⟩ := List.mem_map.1 listed
        have found := (mem_fresh_iff.1 member).1
        rw [perform_load_of_fresh member]
        split
        · exact fits
        · rw [size_mark found]
          exact fits
        · have oneLess := length_without shelf.items.nodup
            (Table.mem_keys_iff.2 (Option.isSome_of_eq_some found))
          change _ = shelf.size at oneLess
          rw [size_putLast, oneLess]
          exact fits
      · obtain unchanged | expired := perform_load_of_stale listed
        · rw [unchanged]
          exact fits
        · rw [expired]
          exact Nat.le_trans (length_without_le _ _) fits
  | save key cached now =>
      change ((shelf.roomFor key now).putLast key _).size ≤ _
      rw [size_putLast]
      exact length_without_roomFor_lt bounded within key now
  | remove key => exact Nat.le_trans (length_without_le _ _) fits
  | shrink now => exact Nat.le_of_lt (size_shrink_lt bounded now)
  | clear => exact Nat.zero_le _

/-- A shelf stays within its capacity over any run. -/
theorem Within.run
    (within : shelf.Within)
    (operations : List Operation) :
    (shelf.run operations).1.Within := by
  induction operations generalizing shelf with
  | nil => exact within
  | cons operation rest inductionHypothesis =>
      exact inductionHypothesis (within.perform operation)

theorem capacity_run (shelf : Shelf) (operations : List Operation) :
    (shelf.run operations).1.capacity = shelf.capacity := by
  induction operations generalizing shelf with
  | nil => rfl
  | cons operation rest inductionHypothesis =>
      exact (inductionHypothesis _).trans (capacity_perform shelf operation)

/-! ## Making room -/

/-- Fresh items that are evicted from a bounded shelf when it is shrunk. -/
def surplus (shelf : Shelf) (now : Timestamp) : Nat :=
  if shelf.capacity = 0 then 0 else (shelf.fresh now).length + 1 - shelf.capacity

/-- A shelf that is shrunk keeps its fresh entries but the surplus. -/
theorem entries_shrink (shelf : Shelf) (now : Timestamp) :
    (shelf.shrink now).items.entries = (shelf.fresh now).drop (shelf.surplus now) := by
  unfold shrink surplus
  change (if shelf.capacity = 0 then _ else _ : Shelf).items.entries = _
  split
  · rfl
  · rfl

/-- What is left after making room is not expired. -/
theorem fresh_shrink (shelf : Shelf) (now : Timestamp) :
    (shelf.shrink now).fresh now = (shelf.fresh now).drop (shelf.surplus now) := by
  rw [← entries_shrink, fresh, List.filter_eq_self]
  intro entry listed
  rw [entries_shrink] at listed
  exact (List.mem_filter.1 (List.mem_of_mem_drop listed)).2

/-- Fresh items that are evicted to make room for a key. -/
def surplusFor (shelf : Shelf) (key : String) (now : Timestamp) : Nat :=
  if shelf.items.contains key = false ∧ shelf.IsFull then shelf.surplus now else 0

/-- Making room for a key keeps the fresh entries but the surplus. -/
theorem fresh_roomFor (shelf : Shelf) (key : String) (now : Timestamp) :
    (shelf.roomFor key now).fresh now =
      (shelf.fresh now).drop (shelf.surplusFor key now) := by
  unfold roomFor surplusFor
  split
  · exact fresh_shrink shelf now
  · rfl

/-- A save keeps the fresh entries of other keys but the surplus. -/
theorem fresh_save (shelf : Shelf) (key : String) (cached : Cached) (now : Timestamp) :
    (shelf.save key cached now).fresh now =
      without key ((shelf.fresh now).drop (shelf.surplusFor key now)) ++
        [(key, { cached, storedTime := now })].filter fun entry => !entry.2.expiredAt now := by
  rw [save, fresh_putLast, fresh_roomFor]

/-! ## Domination -/

/-- At `now` a larger shelf keeps whatever a smaller one keeps. -/
structure Dominated (small large : Shelf) (now : Timestamp) : Prop where
  bounded : 0 < small.capacity
  wider : large.capacity = 0 ∨ small.capacity ≤ large.capacity
  smallWithin : small.Within
  largeWithin : large.Within
  /-- What is fresh in the small one is fresh in the large one, in the same order. -/
  included : (small.fresh now).Sublist (large.fresh now)
  /-- The large one has at least as much room besides. -/
  spare : large.capacity = 0 ∨
    (large.fresh now).length + small.capacity ≤ (small.fresh now).length + large.capacity

variable {small large : Shelf}

/-- An empty shelf is dominated by an empty one that is not narrower. -/
theorem dominated_empty
    {smallCapacity largeCapacity : Nat}
    (bounded : 0 < smallCapacity)
    (wider : largeCapacity = 0 ∨ smallCapacity ≤ largeCapacity)
    (now : Timestamp) :
    Dominated { capacity := smallCapacity } { capacity := largeCapacity } now where
  bounded := bounded
  wider := wider
  smallWithin := Or.inr (Nat.zero_le _)
  largeWithin := Or.inr (Nat.zero_le _)
  included := List.Sublist.refl []
  spare := wider.imp_right (Nat.add_le_add_left · 0)

/-- Nothing is lost by waiting. -/
theorem Dominated.later
    (dominated : Dominated small large now)
    {later : Timestamp}
    (order : now ≤ later) :
    Dominated small large later where
  bounded := dominated.bounded
  wider := dominated.wider
  smallWithin := dominated.smallWithin
  largeWithin := dominated.largeWithin
  included := by
    rw [fresh_later order, fresh_later order]
    exact dominated.included.filter _
  spare := by
    refine dominated.spare.imp_right fun spare => ?_
    rw [fresh_later order, fresh_later order]
    have fewer := length_filter_add_le dominated.included fun entry =>
      !entry.2.expiredAt later
    omega

/-- An operation keeps the small shelf dominated if it keeps what is fresh included
and enough room. -/
theorem Dominated.perform_of
    (dominated : Dominated small large now)
    {operation : Operation}
    {later : Timestamp}
    (included : ((small.perform operation).1.fresh later).Sublist
      ((large.perform operation).1.fresh later))
    (spare : large.capacity ≠ 0 →
      ((large.perform operation).1.fresh later).length + small.capacity ≤
        ((small.perform operation).1.fresh later).length + large.capacity) :
    Dominated (small.perform operation).1 (large.perform operation).1 later where
  bounded := by
    rw [capacity_perform]
    exact dominated.bounded
  wider := by
    rw [capacity_perform, capacity_perform]
    exact dominated.wider
  smallWithin := dominated.smallWithin.perform operation
  largeWithin := dominated.largeWithin.perform operation
  included := included
  spare := by
    rw [capacity_perform, capacity_perform]
    by_cases unbounded : large.capacity = 0
    · exact Or.inl unbounded
    · exact Or.inr (spare unbounded)

/-- A load that finds nothing to serve leaves alone what is fresh. -/
theorem fresh_perform_load_of_stale
    (stale : key ∉ (shelf.fresh now).map Prod.fst) :
    (shelf.perform (.load key now)).1.fresh now = shelf.fresh now := by
  obtain unchanged | expired := perform_load_of_stale stale
  · rw [unchanged]
  · rw [expired]
    change (without key shelf.items.entries).filter _ = _
    rw [fresh_without, without_of_notMem stale]

/-- A load leaves alone the fresh entries of other keys. -/
theorem without_fresh_perform_load (shelf : Shelf) (key : String) (now : Timestamp) :
    (without key (shelf.fresh now)).Sublist ((shelf.perform (.load key now)).1.fresh now) ∧
      ((shelf.perform (.load key now)).1.fresh now).length = (shelf.fresh now).length := by
  by_cases listed : key ∈ (shelf.fresh now).map Prod.fst
  · obtain ⟨⟨_, item⟩, member, rfl⟩ := List.mem_map.1 listed
    rw [perform_load_of_fresh member]
    split
    · exact ⟨List.filter_sublist, rfl⟩
    · rw [fresh_mark member]
      refine ⟨?_, List.length_map _⟩
      rw [← replaced_of_notMem (notMem_without _ _) { item with prefetchMarked := true }]
      exact List.filter_sublist.map _
    · rw [fresh_touch member]
      refine ⟨List.sublist_append_left _ _, ?_⟩
      rw [List.length_append]
      exact length_without (nodup_fresh shelf now) listed
  · rw [fresh_perform_load_of_stale listed]
    exact ⟨List.filter_sublist, rfl⟩

/-- A load keeps the smaller shelf dominated, and its answer is served by the larger one. -/
theorem Dominated.perform_load
    (dominated : Dominated small large now)
    (key : String) :
    Dominated (small.perform (.load key now)).1 (large.perform (.load key now)).1 now ∧
      (small.perform (.load key now)).2.ServedBy (large.perform (.load key now)).2 := by
  by_cases listed : key ∈ (small.fresh now).map Prod.fst
  · obtain ⟨⟨_, item⟩, member, rfl⟩ := List.mem_map.1 listed
    have memberLarge := dominated.included.subset member
    refine ⟨dominated.perform_of ?_ ?_, ?_⟩
    · rw [perform_load_of_fresh member, perform_load_of_fresh memberLarge]
      cases item.dueAt now with
      | error crash => exact dominated.included
      | ok due =>
          cases due with
          | true =>
              dsimp only
              rw [fresh_mark member, fresh_mark memberLarge]
              exact dominated.included.map _
          | false =>
              dsimp only
              rw [fresh_touch member, fresh_touch memberLarge]
              exact (dominated.included.filter _).append (.refl _)
    · intro limited
      rw [(without_fresh_perform_load small _ now).2, (without_fresh_perform_load large _ now).2]
      exact dominated.spare.resolve_left limited
    · rw [perform_load_of_fresh member, perform_load_of_fresh memberLarge]
      cases item.dueAt now with
      | error crash => exact ⟨nofun, nofun⟩
      | ok due => cases due <;> exact ⟨fun _ same => same, fun same => same⟩
  · have unchanged := fresh_perform_load_of_stale listed
    obtain ⟨kept, sameLength⟩ := without_fresh_perform_load large key now
    refine ⟨dominated.perform_of ?_ ?_, ?_⟩
    · rw [unchanged, ← without_of_notMem listed]
      exact (dominated.included.filter _).trans kept
    · intro limited
      rw [unchanged, sameLength]
      exact dominated.spare.resolve_left limited
    · obtain missed | expired := perform_load_of_stale listed
      · rw [missed]
        exact ⟨nofun, nofun⟩
      · rw [expired]
        exact ⟨nofun, nofun⟩

/-- A key that evicts a fresh item is new to a shelf full of fresh items. -/
theorem surplusFor_pos_iff (within : shelf.Within) :
    0 < shelf.surplusFor key now ↔
      shelf.items.contains key = false ∧ 0 < shelf.capacity ∧
        (shelf.fresh now).length = shelf.capacity := by
  have fewer := length_fresh_le shelf now
  unfold surplusFor surplus IsFull
  constructor
  · intro positive
    split at positive
    · next full =>
        obtain ⟨absent, bounded, -⟩ := full
        have fits := within.resolve_left (Nat.ne_of_gt bounded)
        rw [if_neg (Nat.ne_of_gt bounded)] at positive
        exact ⟨absent, bounded, by omega⟩
    · exact absurd positive (Nat.lt_irrefl 0)
  · rintro ⟨absent, bounded, full⟩
    rw [if_pos ⟨absent, bounded, full ▸ fewer⟩, if_neg (Nat.ne_of_gt bounded)]
    omega

/-- A shelf within its capacity has at most one entry too many for a new key. -/
theorem surplusFor_le_one (within : shelf.Within) : shelf.surplusFor key now ≤ 1 := by
  have fewer := length_fresh_le shelf now
  unfold surplusFor surplus
  split
  · next full =>
      have fits := within.resolve_left (Nat.ne_of_gt full.2.1)
      rw [if_neg (Nat.ne_of_gt full.2.1)]
      omega
  · exact Nat.zero_le 1

/-- Where the large shelf evicts a fresh item for a key, so does the small one. -/
theorem Dominated.surplusFor_pos
    (dominated : Dominated small large now)
    (evicts : 0 < large.surplusFor key now) :
    0 < small.surplusFor key now := by
  obtain ⟨absent, bounded, full⟩ := (surplusFor_pos_iff dominated.largeWithin).1 evicts
  have spare := dominated.spare.resolve_left (Nat.ne_of_gt bounded)
  have fits := dominated.smallWithin.resolve_left (Nat.ne_of_gt dominated.bounded)
  have fewer := length_fresh_le small now
  rw [surplusFor_pos_iff dominated.smallWithin]
  refine ⟨?_, dominated.bounded, by omega⟩
  -- The small shelf holds fresh items only, and the large one holds those too.
  have allFresh : small.fresh now = small.items.entries := by
    apply List.filter_sublist.eq_of_length_le
    change small.size ≤ (small.fresh now).length
    omega
  have included := dominated.included.map Prod.fst
  rw [allFresh] at included
  rw [Table.contains_eq_false_iff] at absent ⊢
  intro listed
  apply absent
  exact (List.filter_sublist.map Prod.fst).subset (included.subset listed)

/-- The larger shelf never has to drop more than the smaller one. -/
theorem Dominated.surplusFor_le (dominated : Dominated small large now) :
    large.surplusFor key now ≤ small.surplusFor key now := by
  rcases Nat.eq_zero_or_pos (large.surplusFor key now) with none | evicts
  · rw [none]
    exact Nat.zero_le _
  · have once : large.surplusFor key now ≤ 1 := surplusFor_le_one dominated.largeWithin
    have evictsToo := dominated.surplusFor_pos evicts
    omega

/-- Making room for a key leaves the larger shelf as much room to spare. -/
theorem Dominated.spare_save
    (dominated : Dominated small large now)
    (key : String)
    (limited : large.capacity ≠ 0) :
    (without key ((large.fresh now).drop (large.surplusFor key now))).length + small.capacity ≤
      (without key ((small.fresh now).drop (small.surplusFor key now))).length +
        large.capacity := by
  have spare := dominated.spare.resolve_left limited
  rcases Nat.eq_zero_or_pos (small.surplusFor key now) with none | evicts
  · have fewer := length_filter_add_le dominated.included fun entry =>
      !decide (entry.1 = key)
    have noneToo : large.surplusFor key now = 0 :=
      Nat.eq_zero_of_le_zero (none ▸ dominated.surplusFor_le)
    rw [none, noneToo, List.drop_zero, List.drop_zero]
    unfold without
    omega
  · -- The small shelf stays full, and the large one has room for the key.
    have room : (without key ((large.fresh now).drop (large.surplusFor key now))).length <
        large.capacity := by
      rw [← fresh_roomFor, ← fresh_without]
      exact Nat.lt_of_le_of_lt (List.length_filter_le _ _)
        (length_without_roomFor_lt (Nat.pos_of_ne_zero limited) dominated.largeWithin key now)
    have once : small.surplusFor key now ≤ 1 := surplusFor_le_one dominated.smallWithin
    obtain ⟨absent, bounded, full⟩ := (surplusFor_pos_iff dominated.smallWithin).1 evicts
    have unlisted : key ∉ ((small.fresh now).drop (small.surplusFor key now)).map Prod.fst := by
      rw [Table.contains_eq_false_iff] at absent
      intro listed
      apply absent
      exact (((List.drop_sublist _ _).trans List.filter_sublist).map Prod.fst).subset listed
    rw [without_of_notMem unlisted, List.length_drop]
    omega

/-- A save keeps the smaller shelf dominated. -/
theorem Dominated.perform_save
    (dominated : Dominated small large now)
    (key : String)
    (cached : Cached) :
    Dominated (small.perform (.save key cached now)).1
      (large.perform (.save key cached now)).1 now := by
  apply dominated.perform_of
  · change ((small.save key cached now).fresh now).Sublist ((large.save key cached now).fresh now)
    rw [fresh_save, fresh_save]
    apply List.Sublist.append _ (.refl _)
    apply List.Sublist.filter
    exact (dominated.included.drop _).trans
      (List.drop_sublist_drop_left _ dominated.surplusFor_le)
  · intro limited
    change ((large.save key cached now).fresh now).length + _ ≤
      ((small.save key cached now).fresh now).length + _
    rw [fresh_save, fresh_save, List.length_append, List.length_append]
    have spare := dominated.spare_save key limited
    omega

theorem Dominated.perform_remove
    (dominated : Dominated small large now)
    (key : String) :
    Dominated (small.perform (.remove key)).1 (large.perform (.remove key)).1 now := by
  have removed : ∀ shelf : Shelf,
      (shelf.perform (.remove key)).1.fresh now = without key (shelf.fresh now) := by
    intro shelf
    exact fresh_without shelf key now
  apply dominated.perform_of
  · rw [removed, removed]
    exact dominated.included.filter _
  · intro limited
    have spare := dominated.spare.resolve_left limited
    have fewer := length_filter_add_le dominated.included fun entry =>
      !decide (entry.1 = key)
    rw [removed, removed]
    unfold without
    omega

theorem Dominated.surplus_le (dominated : Dominated small large now) :
    large.surplus now ≤ small.surplus now := by
  unfold surplus
  rw [if_neg (Nat.ne_of_gt dominated.bounded)]
  split
  · exact Nat.zero_le _
  · next limited =>
      have spare := dominated.spare.resolve_left limited
      omega

/-- Shrinking both keeps the smaller shelf dominated. -/
theorem Dominated.perform_shrink (dominated : Dominated small large now) :
    Dominated (small.perform (.shrink now)).1 (large.perform (.shrink now)).1 now := by
  apply dominated.perform_of
  · change ((small.shrink now).fresh now).Sublist ((large.shrink now).fresh now)
    rw [fresh_shrink, fresh_shrink]
    exact (dominated.included.drop _).trans
      (List.drop_sublist_drop_left _ dominated.surplus_le)
  · intro limited
    have spare := dominated.spare.resolve_left limited
    have bounded := dominated.bounded
    change ((large.shrink now).fresh now).length + _ ≤ ((small.shrink now).fresh now).length + _
    rw [fresh_shrink, fresh_shrink, List.length_drop, List.length_drop, surplus, surplus,
      if_neg limited, if_neg (Nat.ne_of_gt bounded)]
    omega

theorem Dominated.perform_clear (dominated : Dominated small large now) :
    Dominated (small.perform .clear).1 (large.perform .clear).1 now := by
  apply dominated.perform_of
  · exact List.Sublist.refl []
  · intro limited
    exact Nat.add_le_add_left (dominated.wider.resolve_left limited) 0

/-- Every operation keeps the small shelf dominated, and the large one replies with
whatever the small one serves. -/
theorem Dominated.perform
    (dominated : Dominated small large now)
    (operation : Operation)
    (order : ∀ time ∈ operation.time?, now ≤ time) :
    Dominated (small.perform operation).1 (large.perform operation).1
        (operation.time?.getD now) ∧
      (small.perform operation).2.ServedBy (large.perform operation).2 := by
  cases operation with
  | load key time => exact (dominated.later (order time rfl)).perform_load key
  | save key cached time =>
      exact ⟨(dominated.later (order time rfl)).perform_save key cached, nofun, nofun⟩
  | remove key => exact ⟨dominated.perform_remove key, nofun, nofun⟩
  | shrink time => exact ⟨(dominated.later (order time rfl)).perform_shrink, nofun, nofun⟩
  | clear => exact ⟨dominated.perform_clear, nofun, nofun⟩

/-! ## Runs -/

/-- Each reply in a run of the small shelf is served by the large one. -/
theorem Dominated.run
    (dominated : Dominated small large now)
    {operations : List Operation}
    (notBefore : ∀ time ∈ operations.filterMap Operation.time?, now ≤ time)
    (inOrder : (operations.filterMap Operation.time?).Pairwise (· ≤ ·)) :
    List.Forall₂ (fun observed other => observed.reply.ServedBy other.reply)
      (small.run operations).2 (large.run operations).2 := by
  induction operations generalizing small large now with
  | nil => exact List.Forall₂.nil
  | cons operation rest inductionHypothesis =>
      rw [run_cons, run_cons]
      cases time : operation.time? with
      | none =>
          rw [List.filterMap_cons_none time] at notBefore inOrder
          obtain ⟨next, served⟩ := dominated.perform operation (by
            rw [time]
            exact nofun)
          rw [time] at next
          exact List.Forall₂.cons served (inductionHypothesis next notBefore inOrder)
      | some later =>
          rw [List.filterMap_cons_some time] at notBefore inOrder
          rw [List.pairwise_cons] at inOrder
          obtain ⟨next, served⟩ := dominated.perform operation (by
            rw [time]
            intro _ same
            rw [← Option.some.inj same]
            exact notBefore later List.mem_cons_self)
          rw [time] at next
          exact List.Forall₂.cons served (inductionHypothesis next inOrder.1 inOrder.2)

end Shelf

namespace Pool

/-- A larger pool never loses a hit: in two runs of the same operations in the order
of time, whatever document a pool serves, or calls to refresh, a larger or unbounded
pool does too, whatever order either visits its keys in to make room. -/
theorem servedBy_run
    (small large : Nat)
    (bounded : 0 < small)
    (wider : large = 0 ∨ small ≤ large)
    (visits otherVisits : Nat → Visit)
    (operations : List Operation)
    (inOrder : (operations.filterMap Operation.time?).Pairwise (· ≤ ·))
    (fits : ∀ observation ∈ (({ capacity := small } : Pool).run visits operations).2,
      observation.size ≤ Recency.positionCount)
    (otherFits : ∀ observation ∈ (({ capacity := large } : Pool).run otherVisits operations).2,
      observation.size ≤ Recency.positionCount) :
    List.Forall₂ (fun observed other => observed.reply.ServedBy other.reply)
      (({ capacity := small } : Pool).run visits operations).2
      (({ capacity := large } : Pool).run otherVisits operations).2 := by
  rw [((standsFor_empty small).run visits operations fits).2,
    ((standsFor_empty large).run otherVisits operations otherFits).2]
  have start : Shelf.Dominated { capacity := small } { capacity := large } Int64.minValue :=
    Shelf.dominated_empty bounded wider Int64.minValue
  exact start.run (fun time _ => Int64.minValue_le time) inOrder

/-- Pools of two and of three entries that visit their keys in opposite orders. -/
theorem servedBy_run_two_three :
    (sampleOperations.filterMap Operation.time?).Pairwise (· ≤ ·) ∧
    (∀ observation ∈ (({ capacity := 2 } : Pool).run (fun _ => .listed) sampleOperations).2,
      observation.size ≤ Recency.positionCount) ∧
    (∀ observation ∈ (({ capacity := 3 } : Pool).run (fun _ => .reversed) sampleOperations).2,
      observation.size ≤ Recency.positionCount) ∧
    List.Forall₂ (fun observed other => observed.reply.ServedBy other.reply)
      (({ capacity := 2 } : Pool).run (fun _ => .listed) sampleOperations).2
      (({ capacity := 3 } : Pool).run (fun _ => .reversed) sampleOperations).2 := by
  have inOrder : (sampleOperations.filterMap Operation.time?).Pairwise (· ≤ ·) := by
    decide +kernel
  have fits : ∀ observation ∈
      (({ capacity := 2 } : Pool).run (fun _ => .listed) sampleOperations).2,
      observation.size ≤ Recency.positionCount := by
    decide +kernel
  have otherFits : ∀ observation ∈
      (({ capacity := 3 } : Pool).run (fun _ => .reversed) sampleOperations).2,
      observation.size ≤ Recency.positionCount := by
    decide +kernel
  exact ⟨inOrder, fits, otherFits,
    servedBy_run 2 3 (by decide) (Or.inr (by decide)) (fun _ => .listed) (fun _ => .reversed)
      sampleOperations inOrder fits otherFits⟩

end Pool
end FragmentCache
