import FragmentCache.Page.Slots

/-!
# Slots over time

Slots are made once, each of them is filled at most once, and closing them fills the rest.
What is there stays: a later state of the slots has the same labels, and the same document
in every slot that was filled.
-/

namespace FragmentCache
namespace Slots

/-! ## Steps -/

/-- What is done to slots under one lock. -/
inductive Step (slots : Slots) : Slots → Prop where
  | unchanged : Step slots slots
  | expected {labels : List String} {made : Slots}
      (done : slots.expectLabels labels = .ok made) : Step slots made
  | delivered {slot : Nat} {document : Document} {next : Slots}
      (done : slots.deliver slot document = (next, .ok true)) : Step slots next
  | stopped : Step slots slots.stop
  | closed : Step slots slots.close.1

/-- Whether no more slots can be made. -/
def isFixed (slots : Slots) : Bool := slots.isExpecting || slots.isStopped

variable {slots made next : Slots} {labels : List String} {slot : Nat} {document : Document}

/-- Slots that are fixed take no further label. -/
theorem expectLabels_of_isFixed
    (fixed : slots.isFixed = true)
    (labels : List String) :
    ∃ fault, slots.expectLabels labels = .error fault := by
  rw [isFixed, Bool.or_eq_true] at fixed
  unfold expectLabels
  split
  · exact ⟨_, rfl⟩
  · rename_i running
    rw [if_pos (fixed.resolve_right running)]
    exact ⟨_, rfl⟩

/-- Slots are made once and for all. -/
theorem of_expectLabels
    (done : slots.expectLabels labels = .ok made) :
    slots.isFixed = false ∧ made.isFixed = true ∧ made.labels = labels ∧
      made.documents = List.replicate labels.length none ∧ made.filled = slots.filled := by
  cases fixed : slots.isFixed with
  | true =>
      obtain ⟨fault, refused⟩ := expectLabels_of_isFixed fixed labels
      rw [refused] at done
      cases done
  | false =>
      rw [isFixed, Bool.or_eq_false_iff] at fixed
      rw [expectLabels, fixed.1, fixed.2] at done
      cases done
      exact ⟨rfl, rfl, rfl, rfl, rfl⟩

/-- A delivery fills its own slot, which was empty, or changes nothing. -/
theorem deliver_cases (slots : Slots) (slot : Nat) (document : Document) :
    (slots.documents[slot]? = some none ∧ slots.deliver slot document =
      ({ slots with
          documents := slots.documents.set slot (some document)
          filled := slots.filled + 1 }, .ok true)) ∨
    ∃ answer, answer ≠ .ok true ∧ slots.deliver slot document = (slots, answer) := by
  unfold deliver
  cases stopped : slots.isStopped with
  | true => exact .inr ⟨.ok false, nofun, rfl⟩
  | false =>
      cases here : slots.documents[slot]? with
      | none => exact .inr ⟨.error (.outOfRange slot slots.size), nofun, rfl⟩
      | some kept =>
          cases kept with
          | none => exact .inl ⟨rfl, rfl⟩
          | some old => exact .inr ⟨.ok false, nofun, rfl⟩

/-- A delivery that succeeds fills a slot that was empty, and nothing else changes. -/
theorem of_deliver
    (done : slots.deliver slot document = (next, .ok true)) :
    slots.documents[slot]? = some none ∧ next =
      { slots with
        documents := slots.documents.set slot (some document)
        filled := slots.filled + 1 } := by
  obtain ⟨empty, filled⟩ | ⟨answer, refused, same⟩ := slots.deliver_cases slot document
  · rw [filled] at done
    cases done
    exact ⟨empty, rfl⟩
  · rw [same] at done
    cases done
    exact absurd rfl refused

/-- Slots that are not stopped take a document for an empty slot. -/
theorem documents_deliver
    (running : slots.isStopped = false)
    (empty : slots.documents[slot]? = some none)
    (document : Document) :
    (slots.deliver slot document).1.documents[slot]? = some (some document) := by
  obtain ⟨inside, -⟩ := List.getElem?_eq_some_iff.1 empty
  rw [deliver, running, empty]
  exact List.getElem?_set_self inside

/-- A delivery leaves all other slots as they are. -/
theorem documents_deliver_of_ne
    {other : Nat}
    (differ : slot ≠ other)
    (document : Document) :
    (slots.deliver slot document).1.documents[other]? = slots.documents[other]? := by
  obtain ⟨-, filled⟩ | ⟨_, -, same⟩ := slots.deliver_cases slot document
  · rw [filled]
    exact List.getElem?_set_ne differ
  · rw [same]

theorem step_deliver (slots : Slots) (slot : Nat) (document : Document) :
    slots.Step (slots.deliver slot document).1 := by
  obtain ⟨-, filled⟩ | ⟨_, -, same⟩ := slots.deliver_cases slot document
  · rw [filled]
    exact .delivered filled
  · rw [same]
    exact .unchanged

/-- A delivery changes neither the labels nor whether slots are stopped. -/
theorem labels_deliver (slots : Slots) (slot : Nat) (document : Document) :
    (slots.deliver slot document).1.labels = slots.labels ∧
      (slots.deliver slot document).1.isStopped = slots.isStopped := by
  obtain ⟨-, filled⟩ | ⟨_, -, same⟩ := slots.deliver_cases slot document
  · rw [filled]
    exact ⟨rfl, rfl⟩
  · rw [same]
    exact ⟨rfl, rfl⟩

/-- After a closing every slot holds a document. -/
theorem isSome_of_close : ∀ document ∈ slots.close.1.documents, document.isSome = true := by
  intro document member
  obtain ⟨place, here⟩ := List.mem_iff_getElem?.1 member
  change (slots.documents.zipWith fillLate slots.labels)[place]? = some document at here
  rw [List.getElem?_zipWith] at here
  split at here
  · cases here
    rfl
  · cases here

/-! ## What always holds -/

/-- Labels and the number of filled slots agree with the slots, and there are no slots
before they are made. -/
structure Consistent (slots : Slots) : Prop where
  labels : slots.labels.length = slots.size
  filled : slots.filled = slots.documents.countP Option.isSome
  unmade : slots.isFixed = false → slots.documents = []

theorem consistent_empty : ({} : Slots).Consistent := ⟨rfl, rfl, fun _ => rfl⟩

/-- Slots that are not over have an empty one among them. -/
theorem Consistent.exists_empty
    (consistent : slots.Consistent)
    (unfinished : slots.isOver = false) :
    ∃ slot : Nat, slots.documents[slot]? = some none := by
  rw [isOver, Bool.or_eq_false_iff, isComplete, decide_eq_false_iff_not, consistent.filled,
    Nat.not_le] at unfinished
  have total : slots.size = slots.documents.countP Option.isSome +
      slots.documents.countP fun document => ¬document.isSome = true :=
    List.length_eq_countP_add_countP _
  have some : 0 < slots.documents.countP fun document => ¬document.isSome = true := by
    omega
  obtain ⟨document, member, empty⟩ := List.countP_pos_iff.1 some
  cases document with
  | none => exact List.mem_iff_getElem?.1 member
  | some document => cases empty

theorem Consistent.expected
    (consistent : slots.Consistent)
    (done : slots.expectLabels labels = .ok made) :
    made.Consistent := by
  obtain ⟨unfixed, fixed, sameLabels, documents, filled⟩ := of_expectLabels done
  refine ⟨?_, ?_, ?_⟩
  · rw [size, documents, sameLabels, List.length_replicate]
  · rw [filled, consistent.filled, consistent.unmade unfixed, documents, List.countP_replicate]
    rfl
  · rw [fixed]
    nofun

theorem Consistent.delivered
    (consistent : slots.Consistent)
    (done : slots.deliver slot document = (next, .ok true)) :
    next.Consistent := by
  obtain ⟨empty, rfl⟩ := of_deliver done
  obtain ⟨inside, here⟩ := List.getElem?_eq_some_iff.1 empty
  refine ⟨?_, ?_, ?_⟩
  · exact consistent.labels.trans List.length_set.symm
  · change slots.filled + 1 = (slots.documents.set slot (some document)).countP Option.isSome
    rw [List.countP_set inside, here, consistent.filled]
    rfl
  · intro unfixed
    rw [consistent.unmade unfixed] at inside
    exact absurd inside (Nat.not_lt_zero _)

theorem Consistent.closed
    (consistent : slots.Consistent) :
    slots.close.1.Consistent := by
  have length : slots.close.1.documents.length = slots.size := by
    change (slots.documents.zipWith fillLate slots.labels).length = slots.size
    rw [List.length_zipWith, consistent.labels]
    exact Nat.min_self _
  refine ⟨consistent.labels.trans length.symm, ?_, ?_⟩
  · rw [List.countP_eq_length.2 isSome_of_close, length]
    rfl
  · rw [isFixed, isStopped_close, Bool.or_true]
    nofun

/-- Every step keeps slots consistent. -/
theorem Consistent.step
    (consistent : slots.Consistent)
    (step : slots.Step next) :
    next.Consistent := by
  cases step with
  | unchanged => exact consistent
  | expected done => exact consistent.expected done
  | delivered done => exact consistent.delivered done
  | stopped =>
      refine ⟨consistent.labels, consistent.filled, ?_⟩
      rw [isFixed, isStopped_stop, Bool.or_true]
      nofun
  | closed => exact consistent.closed

/-- Slots that are stopped stay so. -/
theorem Step.isStopped
    (step : slots.Step next)
    (stopped : slots.isStopped = true) :
    next.isStopped = true := by
  cases step with
  | unchanged => exact stopped
  | expected done => simp [expectLabels, stopped] at done
  | delivered done =>
      obtain ⟨-, rfl⟩ := of_deliver done
      exact stopped
  | stopped => rfl
  | closed => rfl

/-- A slot that was empty holds the document that says its block was late, once they are
closed; any other slot holds the document it held. -/
theorem Consistent.getElem?_close
    (consistent : slots.Consistent)
    {label : String}
    (labelled : slots.labels[slot]? = some label) :
    ∃ kept, slots.documents[slot]? = some kept ∧
      slots.close.1.documents[slot]? = some (some (kept.getD (.timedOut label))) := by
  obtain ⟨inside, -⟩ := List.getElem?_eq_some_iff.1 labelled
  rw [consistent.labels] at inside
  refine ⟨slots.documents[slot], List.getElem?_eq_getElem inside, ?_⟩
  change (slots.documents.zipWith fillLate slots.labels)[slot]? = _
  rw [List.getElem?_zipWith, List.getElem?_eq_getElem inside, labelled]
  rfl

/-! ## Later states -/

/-- Slots as they may be later: no filled slot has changed, and no slots were made when they
could not be. -/
structure Later (before after : Slots) : Prop where
  kept : ∀ (slot : Nat) (document : Document), before.documents[slot]? = some (some document) →
    after.documents[slot]? = some (some document)
  fixed : before.isFixed = true →
    after.isFixed = true ∧ after.labels = before.labels ∧ after.size = before.size

theorem Later.refl (slots : Slots) : slots.Later slots :=
  ⟨fun _ _ filled => filled, fun fixed => ⟨fixed, rfl, rfl⟩⟩

theorem Later.trans
    {before between after : Slots}
    (first : before.Later between)
    (second : between.Later after) :
    before.Later after where
  kept slot document filled := second.kept slot document (first.kept slot document filled)
  fixed fixed := by
    obtain ⟨fixedBetween, labels, size⟩ := first.fixed fixed
    obtain ⟨fixedAfter, labelsAfter, sizeAfter⟩ := second.fixed fixedBetween
    exact ⟨fixedAfter, labelsAfter.trans labels, sizeAfter.trans size⟩

/-- A step never takes back what a slot was filled with. -/
theorem Consistent.later
    (consistent : slots.Consistent)
    (step : slots.Step next) :
    slots.Later next := by
  cases step with
  | unchanged => exact .refl slots
  | expected done =>
      obtain ⟨unfixed, -⟩ := of_expectLabels done
      refine ⟨?_, ?_⟩
      · rw [consistent.unmade unfixed]
        nofun
      · rw [unfixed]
        nofun
  | @delivered slot document _ done =>
      obtain ⟨empty, rfl⟩ := of_deliver done
      refine ⟨?_, fun fixed => ⟨fixed, rfl, List.length_set⟩⟩
      intro other kept filled
      have apart : slot ≠ other := by
        rintro rfl
        rw [empty] at filled
        cases filled
      exact (List.getElem?_set_ne apart).trans filled
  | stopped => exact ⟨fun _ _ filled => filled, fun _ => ⟨Bool.or_true _, rfl, rfl⟩⟩
  | closed =>
      refine ⟨?_, fun _ => ⟨Bool.or_true _, rfl, ?_⟩⟩
      · intro slot document filled
        obtain ⟨inside, -⟩ := List.getElem?_eq_some_iff.1 filled
        change slot < slots.size at inside
        rw [← consistent.labels] at inside
        obtain ⟨kept, here, closed⟩ :=
          consistent.getElem?_close (List.getElem?_eq_getElem inside)
        rw [filled] at here
        cases here
        exact closed
      · exact consistent.closed.labels.symm.trans consistent.labels

/-- Slots that are all filled stay as they are. -/
theorem Later.documents_eq
    {before after : Slots}
    (later : before.Later after)
    (fixed : before.isFixed = true)
    (filled : ∀ document ∈ before.documents, document.isSome = true) :
    after.documents = before.documents := by
  obtain ⟨-, -, size⟩ := later.fixed fixed
  apply List.ext_getElem size
  intro place insideAfter inside
  obtain ⟨document, here⟩ := Option.isSome_iff_exists.1 (filled _ (List.getElem_mem inside))
  have kept := later.kept place document (by rw [List.getElem?_eq_getElem inside, here])
  rw [List.getElem?_eq_getElem insideAfter, ← here] at kept
  exact Option.some.inj kept

end Slots
end FragmentCache
