import FragmentCache.Proofs.Recency.Operations
import FragmentCache.Proofs.Table
import Mathlib.Data.List.Induction

/-!
# Runs of recency lists

A run may name any position: one in use, one that was freed, one that was never handed
out, or one that was freed and is in use again.  Whatever it names, a recency list goes
the way of a plain sequence of positions and values.
-/

namespace FragmentCache
namespace Recency

variable {α : Type}

/-- What is asked of a recency list. -/
inductive Operation (α : Type) where
  | pushBack (value : α)
  | popFront
  | remove (position : Position)
  | moveToBack (position : Position)
  | get (position : Position)
  | clear

/-- What a recency list replies to an operation. -/
inductive Reply (α : Type) where
  /-- The position of a value that was added. -/
  | placed (position : Position)
  | found (value : Option α)
  | done

/-- The reply to an operation, and the number of values after it. -/
structure Observation (α : Type) where
  reply : Reply α
  size : Nat

/-- Carry out one operation. -/
def perform (list : Recency α) : Operation α → Recency α × Reply α
  | .pushBack value => ((list.pushBack value).1, .placed (list.pushBack value).2)
  | .popFront => (list.popFront.1, .found list.popFront.2)
  | .remove position => ((list.remove position).1, .found (list.remove position).2)
  | .moveToBack position => (list.moveToBack position, .done)
  | .get position => (list, .found (list.get? position))
  | .clear => (.empty, .done)

/-- What is observed after an operation. -/
def observe (outcome : Recency α × Reply α) : Observation α := ⟨outcome.2, outcome.1.size⟩

/-- Carry out operations one after the other. -/
def run (list : Recency α) : List (Operation α) → Recency α × List (Observation α)
  | [] => (list, [])
  | operation :: rest =>
    let outcome := list.perform operation
    let (last, observations) := outcome.1.run rest
    (last, observe outcome :: observations)

/-! ## Sequences of positions and values -/

/-- What an operation makes of a sequence, and the reply to it.  A value that is added
may get any position that no other value has. -/
inductive Step :
    List (Position × α) → Operation α → Reply α → List (Position × α) → Prop where
  | pushBack {sequence value position} (apart : position ∉ sequence.map Prod.fst) :
      Step sequence (.pushBack value) (.placed position) (sequence ++ [(position, value)])
  | popFront {position value rest} :
      Step ((position, value) :: rest) .popFront (.found (some value)) rest
  | popFrontOfEmpty : Step [] .popFront (.found none) []
  | remove {front back position value} :
      Step (front ++ (position, value) :: back) (.remove position) (.found (some value))
        (front ++ back)
  | removeVacant {sequence position} (vacant : position ∉ sequence.map Prod.fst) :
      Step sequence (.remove position) (.found none) sequence
  | moveToBack {front back position value} :
      Step (front ++ (position, value) :: back) (.moveToBack position) .done
        (front ++ back ++ [(position, value)])
  | moveToBackVacant {sequence position} (vacant : position ∉ sequence.map Prod.fst) :
      Step sequence (.moveToBack position) .done sequence
  | get {sequence position} :
      Step sequence (.get position) (.found (sequence.lookup position)) sequence
  | clear {sequence} : Step sequence .clear .done []

/-- What operations make of a sequence one after the other, and what is observed. -/
inductive Steps :
    List (Position × α) → List (Operation α) → List (Observation α) → List (Position × α) →
      Prop where
  | nil {sequence} : Steps sequence [] [] sequence
  | cons {sequence next last operation reply rest observations}
      (step : Step sequence operation reply next)
      (steps : Steps next rest observations last) :
      Steps sequence (operation :: rest) (⟨reply, next.length⟩ :: observations) last

variable {list : Recency α} {sequence : List (Position × α)} {position : Position}

/-- A position that is not of the sequence is removed in vain. -/
theorem Represents.remove_of_vacant
    (represents : list.Represents sequence)
    (vacant : position ∉ sequence.map Prod.fst) :
    list.remove position = (list, none) := by
  rw [Recency.remove, represents.unused position vacant]

/-- A position that is not of the sequence is moved in vain. -/
theorem Represents.moveToBack_of_vacant
    (represents : list.Represents sequence)
    (vacant : position ∉ sequence.map Prod.fst) :
    list.moveToBack position = list := by
  rw [Recency.moveToBack, represents.unused position vacant]
  split <;> rfl

/-- Reading a position looks it up in the sequence. -/
theorem Represents.get?_eq_lookup
    (represents : list.Represents sequence)
    (position : Position) :
    list.get? position = sequence.lookup position := by
  let table : Table Position α := ⟨sequence, represents.spells.distinct⟩
  refine Option.ext fun value => ?_
  have listed : table.find? position = some value ↔ (position, value) ∈ table.entries :=
    Table.find?_eq_some_iff
  exact (Iff.intro represents.mem_of_get? represents.get?_of_mem).trans listed.symm

theorem Represents.popFront_of_empty (represents : list.Represents []) :
    list.popFront = (list, none) := by
  have head : list.head = none := represents.spells.head
  rw [Recency.popFront, head]

/-- A position stands for one value of a sequence, or for none. -/
theorem split_or_vacant (sequence : List (Position × α)) (position : Position) :
    (∃ front value back, sequence = front ++ (position, value) :: back) ∨
      position ∉ sequence.map Prod.fst := by
  by_cases listed : position ∈ sequence.map Prod.fst
  · obtain ⟨⟨_, value⟩, member, rfl⟩ := List.mem_map.1 listed
    obtain ⟨front, back, split⟩ := List.append_of_mem member
    exact Or.inl ⟨front, value, back, split⟩
  · exact Or.inr listed

/-- Every operation does to a list what it does to the sequence, as long as the positions
suffice. -/
theorem Represents.perform
    (represents : list.Represents sequence)
    (operation : Operation α)
    (fits : (list.perform operation).1.size ≤ positionCount) :
    ∃ next, Step sequence operation (list.perform operation).2 next ∧
      (list.perform operation).1.Represents next := by
  cases operation with
  | pushBack value =>
      change (list.pushBack value).1.size ≤ _ at fits
      rw [size_pushBack] at fits
      obtain ⟨apart, pushed⟩ := represents.pushBack fits value
      exact ⟨_, .pushBack apart, pushed⟩
  | popFront =>
      rw [Recency.perform]
      cases sequence with
      | nil =>
          rw [represents.popFront_of_empty]
          exact ⟨[], .popFrontOfEmpty, represents⟩
      | cons node rest =>
          have atFront : list.Represents ((node.1, node.2) :: rest) := represents
          obtain ⟨value, popped⟩ := atFront.popFront
          refine ⟨rest, ?_, popped⟩
          rw [value]
          exact .popFront
  | remove position =>
      rw [Recency.perform]
      rcases split_or_vacant sequence position with ⟨front, value, back, rfl⟩ | vacant
      · obtain ⟨value, removed⟩ := represents.remove
        refine ⟨front ++ back, ?_, removed⟩
        rw [value]
        exact .remove
      · rw [represents.remove_of_vacant vacant]
        exact ⟨sequence, .removeVacant vacant, represents⟩
  | moveToBack position =>
      rw [Recency.perform]
      rcases split_or_vacant sequence position with ⟨front, value, back, rfl⟩ | vacant
      · exact ⟨_, .moveToBack, represents.moveToBack⟩
      · rw [represents.moveToBack_of_vacant vacant]
        exact ⟨sequence, .moveToBackVacant vacant, represents⟩
  | get position =>
      refine ⟨sequence, ?_, represents⟩
      rw [Recency.perform, represents.get?_eq_lookup]
      exact .get
  | clear => exact ⟨[], .clear, represents_empty⟩

/-- A run does to a list what it does to the sequence, as long as the positions suffice. -/
theorem Represents.run
    (represents : list.Represents sequence)
    (operations : List (Operation α))
    (fits : ∀ observation ∈ (list.run operations).2, observation.size ≤ positionCount) :
    ∃ last, Steps sequence operations (list.run operations).2 last ∧
      (list.run operations).1.Represents last := by
  induction operations generalizing list sequence with
  | nil => exact ⟨sequence, .nil, represents⟩
  | cons operation rest inductionHypothesis =>
      rw [Recency.run] at fits ⊢
      obtain ⟨firstFits, restFits⟩ := List.forall_mem_cons.1 fits
      obtain ⟨next, step, nextRepresents⟩ := represents.perform operation firstFits
      obtain ⟨last, steps, lastRepresents⟩ := inductionHypothesis nextRepresents restFits
      refine ⟨last, ?_, lastRepresents⟩
      rw [observe, nextRepresents.size]
      exact .cons step steps

/-! ## Looking at a list -/

/-- Positions and values along the links back, starting at a node. -/
def itemsBackFrom (list : Recency α) : Nat → Option Position → List (Position × α)
  | 0, _ => []
  | _, none => []
  | fuel + 1, some position =>
    match list.node? position with
    | some node => (position, node.value) :: list.itemsBackFrom fuel node.previous
    | none => []

/-- Following the links of a stretch back lists it in reverse. -/
theorem Linked.itemsBackFrom
    {after : Option Position}
    {stretch : List (Position × α)}
    (linked : list.Linked after none stretch)
    (count : Nat) :
    list.itemsBackFrom count (lastOf none stretch) = stretch.reverse.take count := by
  induction stretch using List.reverseRecOn generalizing after count with
  | nil => cases count <;> rfl
  | append_singleton front node inductionHypothesis =>
      obtain ⟨position, value⟩ := node
      obtain ⟨linkedFront, found, -⟩ := (linked_append _ _ _ _ _).1 linked
      rw [lastOf_append, List.reverse_append]
      cases count with
      | zero => rfl
      | succ count =>
          change list.itemsBackFrom (count + 1) (some position) = _
          rw [Recency.itemsBackFrom, found]
          dsimp only
          rw [inductionHypothesis linkedFront]
          rfl

/-- From either end a list shows a sequence, by any position the value that has it, and
beside it each vacant slot once as free. -/
structure Shows (list : Recency α) (sequence : List (Position × α)) : Prop where
  distinct : (sequence.map Prod.fst).Nodup
  items : list.items = sequence
  /-- The links from the head give the pairs in order, and then end. -/
  forward : ∀ count, list.itemsFrom count list.head = sequence.take count
  /-- The links from the tail give the pairs in reverse, and then end. -/
  backward : ∀ count, list.itemsBackFrom count list.tail = sequence.reverse.take count
  get? : ∀ position, list.get? position = sequence.lookup position
  size : list.size = sequence.length
  freeDistinct : list.free.Nodup
  free : ∀ position, position ∈ list.free ↔ list.slots[position]? = some none

/-- A slot that is free holds no node. -/
theorem Represents.mem_free_iff
    (represents : list.Represents sequence)
    (position : Position) :
    position ∈ list.free ↔ list.slots[position]? = some none := by
  rw [represents.mem_free]
  constructor
  · rintro ⟨inside, apart⟩
    have vacant := represents.unused position apart
    rw [node?, Array.getElem?_eq_getElem inside] at vacant
    rw [Array.getElem?_eq_getElem inside]
    exact congrArg some vacant
  · intro vacant
    obtain ⟨inside, -⟩ := Array.getElem?_eq_some_iff.1 vacant
    refine ⟨inside, fun listed => ?_⟩
    have inUse := represents.spells.linked.inUse listed
    rw [node?, vacant] at inUse
    cases inUse

/-- A list shows the sequence that it represents. -/
theorem Represents.shows (represents : list.Represents sequence) : list.Shows sequence where
  distinct := represents.spells.distinct
  items := represents.spells.items_eq
  forward count := by
    rw [represents.spells.head]
    exact represents.spells.linked.itemsFrom count
  backward count := by
    rw [represents.spells.tail]
    exact represents.spells.linked.itemsBackFrom count
  get? := represents.get?_eq_lookup
  size := represents.size
  freeDistinct := represents.freeDistinct
  free := represents.mem_free_iff

/-- However a recency list is used, it goes the way of a plain sequence of positions and
values: every reply and every size are those of the sequence, and in the end the list
shows the sequence. -/
theorem run_goes_as_sequence
    (operations : List (Operation α))
    (fits : ∀ observation ∈ ((empty : Recency α).run operations).2,
      observation.size ≤ positionCount) :
    ∃ sequence,
      Steps [] operations ((empty : Recency α).run operations).2 sequence ∧
        ((empty : Recency α).run operations).1.Shows sequence := by
  obtain ⟨sequence, steps, represents⟩ := represents_empty.run operations fits
  exact ⟨sequence, steps, represents.shows⟩

/-- Operations on positions in use, freed, never handed out and handed out again. -/
def sampleOperations : List (Operation Char) :=
  [.pushBack 'a', .pushBack 'b', .pushBack 'c', .remove 1, .remove 1, .moveToBack 1,
    .remove 7, .pushBack 'd', .get 1, .moveToBack 0, .popFront, .get 2, .popFront, .popFront,
    .popFront, .pushBack 'e', .clear, .moveToBack 0, .pushBack 'f']

/-- A run in which a position is freed and taken again. -/
theorem run_goes_as_sequence_reused :
    (∀ observation ∈ ((empty : Recency Char).run sampleOperations).2,
      observation.size ≤ positionCount) ∧
    ∃ sequence,
      Steps [] sampleOperations ((empty : Recency Char).run sampleOperations).2 sequence ∧
        ((empty : Recency Char).run sampleOperations).1.Shows sequence := by
  have fits : ∀ observation ∈ ((empty : Recency Char).run sampleOperations).2,
      observation.size ≤ positionCount := by
    decide +kernel
  exact ⟨fits, run_goes_as_sequence sampleOperations fits⟩

end Recency
end FragmentCache
