import FragmentCache.Proofs.Page.Asleep
import Mathlib.Data.List.Basic

/-!
# What a wait reports

A slot is filled by a document that was delivered, or at the end of a wait by one that says
its block was late.  The first wait that ends reports how many slots are late.  It leaves no
slot empty, so every wait that ends after it reports that all were filled in time, whether
they were or not.
-/

namespace FragmentCache

/-! ## Empty slots -/

namespace Slots

variable {slots : Slots} {slot : Nat}

/-- The slots that are empty. -/
def missing (slots : Slots) : List Nat := slots.documents.findIdxs Option.isNone

/-- A slot is missing exactly if it holds no document yet. -/
theorem mem_missing_iff : slot ∈ slots.missing ↔ slots.documents[slot]? = some none := by
  rw [missing, List.mem_findIdxs_iff_exists_getElem_pos, List.getElem?_eq_some_iff]
  exact exists_congr fun inside => Option.isNone_iff_eq_none

/-- The end reports how many slots are empty. -/
theorem close_outcome :
    slots.close.2 =
      if slots.missing.length = 0 then .completed else .timedOut slots.missing.length := by
  rw [missing, List.length_findIdxs]
  rfl

/-- The end reports completion exactly if no slot is empty. -/
theorem close_eq_completed_iff :
    slots.close.2 = .completed ↔ ∀ slot : Nat, slots.documents[slot]? ≠ some none := by
  rw [close_outcome, ← forall_congr' fun slot => not_congr mem_missing_iff,
    ← List.eq_nil_iff_forall_not_mem, ← List.length_eq_zero_iff]
  split
  · next none => exact iff_of_true rfl none
  · next some => exact iff_of_false nofun some

/-- A closing that does not report completion reports how many documents were missing. -/
theorem close_eq_timedOut (uncompleted : slots.close.2 ≠ .completed) :
    slots.close.2 = .timedOut slots.missing.length := by
  rw [close_outcome] at uncompleted ⊢
  exact if_neg fun none => uncompleted (if_pos none)

end Slots

namespace Waiting

variable {waiting : Waiting} {move : Move} {id other : WaiterId} {slot : Nat}
  {document : Document} {earlier moves : List Move} {outcome : Slots.Outcome}

/-! ## Outcomes -/

/-- Outcome of a wait in a stage. -/
def Stage.outcome? : Stage → Option Slots.Outcome
  | finished outcome => some outcome
  | _ => none

theorem outcome?_eq (waiting : Waiting) (id : WaiterId) :
    waiting.outcome? id = (waiting.waiters.find? id).bind Stage.outcome? := by
  rw [outcome?]
  cases waiting.waiters.find? id with
  | none => rfl
  | some stage => cases stage <;> rfl

theorem outcome?_put (waiting : Waiting) (other : WaiterId) (stage : Stage) (id : WaiterId) :
    ({ waiting with waiters := waiting.waiters.put other stage } : Waiting).outcome? id =
      if id = other then stage.outcome? else waiting.outcome? id := by
  rw [outcome?_eq, outcome?_eq, Table.find?_put]
  split <;> rfl

/-- A closing tells its waiter how it ended and no other one anything. -/
theorem outcome?_close (waiting : Waiting) (other id : WaiterId) :
    (waiting.close other).outcome? id =
      if id = other then some waiting.slots.close.2 else waiting.outcome? id :=
  waiting.outcome?_put other (.finished waiting.slots.close.2) id

theorem outcome?_notifyAll (waiting : Waiting) (id : WaiterId) :
    waiting.notifyAll.outcome? id = waiting.outcome? id := by
  rw [outcome?_eq, outcome?_eq, find?_notifyAll]
  cases waiting.waiters.find? id with
  | none => rfl
  | some stage => cases stage <;> rfl

/-- Who parks without having ended its wait changes no outcome. -/
theorem outcome?_park
    (unended : waiting.outcome? other = none)
    (id : WaiterId) :
    ({ waiting with waiters := waiting.waiters.put other .parked } : Waiting).outcome? id =
      waiting.outcome? id := by
  rw [outcome?_put]
  split
  · next same =>
      rw [same, unended]
      rfl
  · rfl

theorem outcome?_of_absent (absent : ¬waiting.waiters.contains id = true) :
    waiting.outcome? id = none := by
  rw [Bool.not_eq_true, Table.contains_eq_false_iff] at absent
  rw [outcome?, Table.find?_eq_none_iff.2 absent]

theorem outcome?_of_isWaiter (waits : waiting.isWaiter id = true) :
    waiting.outcome? id = none := by
  rw [isWaiter, isAsleep, Bool.or_eq_true, beq_iff_eq, beq_iff_eq] at waits
  rw [outcome?]
  obtain parked | woken := waits
  · rw [parked]
  · rw [woken]

/-! ## What a move does to documents and outcomes -/

/-- A move ends no wait, and a document that is there after it was there before or is the one
that it delivers. -/
structure Delivers (waiting : Waiting) (move : Move) (next : Waiting) : Prop where
  outcome : ∀ id, next.outcome? id = waiting.outcome? id
  document : ∀ (slot : Nat) (document : Document),
    next.slots.documents[slot]? = some (some document) →
      waiting.slots.documents[slot]? = some (some document) ∨
      move = .deliver slot document ∧ (waiting.deliver slot document).2 = .ok true

/-- A move that delivers nothing ends the wait of somebody who had not ended it. -/
structure Closes (waiting : Waiting) (move : Move) (next : Waiting) (id : WaiterId) : Prop where
  waits : waiting.outcome? id = none
  closed : next = waiting.close id
  undelivered : ∀ slot document, move ≠ .deliver slot document

theorem delivers_of_eq
    {next : Waiting}
    (outcome : ∀ id, next.outcome? id = waiting.outcome? id)
    (documents : next.slots.documents = waiting.slots.documents) :
    waiting.Delivers move next :=
  ⟨outcome, fun _ _ filled => .inl (documents ▸ filled)⟩

/-- A delivery to a slot of its own fills that slot and ends no wait. -/
theorem delivers_deliver (waiting : Waiting) (slot : Nat) (document : Document) :
    waiting.Delivers (.deliver slot document) (waiting.deliver slot document).1 := by
  obtain ⟨empty, filled⟩ | ⟨answer, refused, same⟩ := waiting.slots.deliver_cases slot document
  · have taken : (waiting.deliver slot document).2 = .ok true := by
      rw [deliver, filled]
    have documents : (waiting.deliver slot document).1.slots.documents =
        waiting.slots.documents.set slot (some document) := by
      rw [deliver, filled]
      dsimp only
      split <;> rfl
    refine ⟨fun id => ?_, fun place kept here => ?_⟩
    · rw [deliver, filled]
      dsimp only
      split
      · exact outcome?_notifyAll _ id
      · rfl
    · rw [documents] at here
      by_cases same : slot = place
      · subst same
        obtain ⟨inside, -⟩ := List.getElem?_eq_some_iff.1 empty
        rw [List.getElem?_set_self inside] at here
        cases here
        exact .inr ⟨rfl, taken⟩
      · rw [List.getElem?_set_ne same] at here
        exact .inl here
  · have unchanged : (waiting.deliver slot document).1 = waiting := by
      rw [deliver, same]
      rcases answer with fault | _ | _
      · rfl
      · rfl
      · exact absurd rfl refused
    rw [unchanged]
    exact delivers_of_eq (fun _ => rfl) rfl

/-- Slots that are made are empty. -/
theorem delivers_expect (waiting : Waiting) (demand : Demand) :
    waiting.Delivers (.expect demand) (waiting.advance (.expect demand)) := by
  obtain ⟨slots, made, done⟩ | ⟨fault, refused⟩ := waiting.expect_cases demand
  · rw [Waiting.advance, done]
    refine ⟨fun _ => rfl, fun slot document here => ?_⟩
    obtain ⟨-, -, -, documents, -⟩ := Slots.of_expectLabels made
    change slots.documents[slot]? = some (some document) at here
    rw [documents, List.getElem?_replicate] at here
    split at here <;> cases here
  · rw [Waiting.advance, refused]
    exact delivers_of_eq (fun _ => rfl) rfl

/-- Who looks at the slots ends its wait or is parked. -/
theorem look_cases
    (waits : waiting.outcome? id = none)
    (undelivered : ∀ slot document, move ≠ .deliver slot document) :
    (∃ other, waiting.Closes move (waiting.look id) other) ∨
      waiting.Delivers move (waiting.look id) := by
  rw [look]
  split
  · exact .inl ⟨id, waits, rfl, undelivered⟩
  · exact .inr (delivers_of_eq (outcome?_park waits) rfl)

/-- A move ends one wait and closes the slots, or it ends none and delivers at most one
document. -/
theorem advance_cases (waiting : Waiting) (move : Move) :
    (∃ id, waiting.Closes move (waiting.advance move) id) ∨
      waiting.Delivers move (waiting.advance move) := by
  cases move with
  | expect demand => exact .inr (waiting.delivers_expect demand)
  | deliver slot document => exact .inr (waiting.delivers_deliver slot document)
  | stop => exact .inr (delivers_of_eq (fun _ => rfl) rfl)
  | notify =>
      right
      rw [Waiting.advance]
      split
      · exact delivers_of_eq (outcome?_notifyAll _) rfl
      · exact delivers_of_eq (fun _ => rfl) rfl
  | enter id =>
      rw [Waiting.advance]
      split
      · exact .inr (delivers_of_eq (fun _ => rfl) rfl)
      · next absent => exact look_cases (outcome?_of_absent absent) (by simp)
  | resume id =>
      rw [Waiting.advance, resume]
      split
      · next parked => exact look_cases (by rw [outcome?, parked]) (by simp)
      · next woken => exact look_cases (by rw [outcome?, woken]) (by simp)
      · exact .inr (delivers_of_eq (fun _ => rfl) rfl)
  | expire id =>
      rw [Waiting.advance, expire_eq]
      split
      · next waits => exact .inl ⟨id, outcome?_of_isWaiter waits, rfl, by simp⟩
      · exact .inr (delivers_of_eq (fun _ => rfl) rfl)

/-- A wait that ends in a move is the one that closes the slots. -/
theorem closes_of_ended
    (running : waiting.outcome? id = none)
    (ended : (waiting.advance move).outcome? id = some outcome) :
    waiting.Closes move (waiting.advance move) id ∧ outcome = waiting.slots.close.2 := by
  obtain ⟨other, closes⟩ | delivers := waiting.advance_cases move
  · rw [closes.closed, outcome?_close] at ended
    split at ended
    · next same =>
        cases ended
        exact ⟨same ▸ closes, rfl⟩
    · rw [running] at ended
      cases ended
  · rw [delivers.outcome, running] at ended
    cases ended

/-- What a wait has reported stays reported. -/
theorem outcome?_run_of_ended
    (ended : waiting.outcome? id = some outcome)
    (moves : List Move) :
    (waiting.run moves).outcome? id = some outcome := by
  induction moves generalizing waiting with
  | nil => exact ended
  | cons move rest inductionHypothesis =>
      apply inductionHypothesis
      obtain ⟨other, closes⟩ | delivers := waiting.advance_cases move
      · rw [closes.closed, outcome?_close, if_neg, ended]
        rintro rfl
        rw [closes.waits] at ended
        cases ended
      · rw [delivers.outcome, ended]

/-! ## Who filled a slot -/

/-- A slot holds a document that was delivered in a run of moves. -/
def HoldsDelivered (moves : List Move) (slot : Nat) : Prop :=
  ∃ earlier document later, moves = earlier ++ .deliver slot document :: later ∧
    ((run {} earlier).deliver slot document).2 = .ok true ∧
    (run {} moves).slots.documents[slot]? = some (some document)

/-- A move ends a wait. -/
def EndsWait (waiting : Waiting) (move : Move) : Prop :=
  ∃ id outcome, waiting.outcome? id = none ∧ (waiting.advance move).outcome? id = some outcome

/-- A slot holds the document that says its block was late, since a wait ended while it was
empty. -/
def HoldsLate (moves : List Move) (slot : Nat) : Prop :=
  ∃ earlier move later label, moves = earlier ++ move :: later ∧
    (run {} earlier).EndsWait move ∧
    (run {} earlier).slots.documents[slot]? = some none ∧
    (run {} earlier).slots.labels[slot]? = some label ∧
    (run {} moves).slots.documents[slot]? = some (some (.timedOut label))

/-- What a slot was filled with stays there under any further moves. -/
theorem documents_run_of_filled
    (filled : (run {} moves).slots.documents[slot]? = some (some document))
    (more : List Move) :
    (run {} (moves ++ more)).slots.documents[slot]? = some (some document) := by
  rw [run_append]
  exact ((sound_run moves).later_run more).kept slot document filled

theorem HoldsDelivered.append
    (holds : HoldsDelivered moves slot)
    (more : List Move) :
    HoldsDelivered (moves ++ more) slot := by
  obtain ⟨earlier, document, later, rfl, taken, here⟩ := holds
  exact ⟨earlier, document, later ++ more, by simp, taken, documents_run_of_filled here more⟩

/-- As long as no wait has ended, whatever fills a slot was delivered. -/
theorem holdsDelivered_of_unended
    (unended : ∀ id, (run {} moves).outcome? id = none)
    (filled : (run {} moves).slots.documents[slot]? = some (some document)) :
    HoldsDelivered moves slot := by
  induction moves using List.reverseRecOn generalizing document with
  | nil => cases filled
  | append_singleton earlier move inductionHypothesis =>
      have step : run {} (earlier ++ [move]) = (run {} earlier).advance move :=
        run_append {} earlier [move]
      have here := filled
      rw [step] at unended filled
      obtain ⟨id, closes⟩ | delivers := (run {} earlier).advance_cases move
      · have reported := unended id
        rw [closes.closed, outcome?_close, if_pos rfl] at reported
        cases reported
      · obtain before | ⟨rfl, taken⟩ := delivers.document slot document filled
        · have unendedBefore : ∀ id, (run {} earlier).outcome? id = none :=
            fun id => (delivers.outcome id).symm.trans (unended id)
          exact (inductionHypothesis unendedBefore before).append [move]
        · exact ⟨earlier, document, [], rfl, taken, here⟩

/-- Where a list is split, its last element is the one split off or it is behind that one. -/
theorem concat_eq_split
    {last split : Move}
    {front back : List Move}
    (same : earlier ++ [last] = front ++ split :: back) :
    (earlier = front ∧ last = split) ∨ ∃ rest, earlier = front ++ split :: rest := by
  obtain rfl | ⟨rest, final, rfl⟩ := List.eq_nil_or_concat back
  · obtain ⟨sameFront, sameLast⟩ := List.append_inj' same rfl
    exact .inl ⟨sameFront, List.singleton_inj.1 sameLast⟩
  · rw [List.concat_eq_append, ← List.cons_append, ← List.append_assoc] at same
    exact .inr ⟨rest, (List.append_inj' same rfl).1⟩

/-- What the end of the first wait leaves in a slot: what was delivered, or the document that
says its block was late. -/
theorem holds_of_first_end
    (unended : ∀ other, (run {} earlier).outcome? other = none)
    (closes : (run {} earlier).Closes move ((run {} earlier).advance move) id)
    (inside : slot < (run {} (earlier ++ [move])).slots.size) :
    ((∃ kept, (run {} earlier).slots.documents[slot]? = some (some kept)) ∧
      HoldsDelivered (earlier ++ [move]) slot) ∨
    ((run {} earlier).slots.documents[slot]? = some none ∧
      HoldsLate (earlier ++ [move]) slot) := by
  have step : run {} (earlier ++ [move]) = (run {} earlier).close id :=
    (run_append {} earlier [move]).trans closes.closed
  have consistent := (sound_run earlier).slots
  have labelled : slot < (run {} earlier).slots.labels.length := by
    have length := (sound_run (earlier ++ [move])).slots.labels
    rw [← length, step] at inside
    exact inside
  obtain ⟨kept, before, after⟩ :=
    consistent.getElem?_close (List.getElem?_eq_getElem labelled)
  cases kept with
  | some document =>
      exact .inl ⟨⟨document, before⟩, (holdsDelivered_of_unended unended before).append [move]⟩
  | none =>
      have ended : ((run {} earlier).advance move).outcome? id =
          some (run {} earlier).slots.close.2 := by
        rw [closes.closed, outcome?_close, if_pos rfl]
      refine .inr ⟨before, earlier, move, [], _, rfl, ⟨id, _, closes.waits, ended⟩, before,
        List.getElem?_eq_getElem labelled, ?_⟩
      rw [step]
      exact after

/-- A slot that is empty when the first wait ends was not delivered. -/
theorem not_holdsDelivered_of_empty
    (closes : (run {} earlier).Closes move ((run {} earlier).advance move) id)
    (empty : (run {} earlier).slots.documents[slot]? = some none) :
    ¬HoldsDelivered (earlier ++ [move]) slot := by
  rintro ⟨front, document, back, same, taken, -⟩
  obtain ⟨-, delivery⟩ | ⟨rest, rfl⟩ := concat_eq_split same
  · exact closes.undelivered slot document delivery
  · have filled : (run {} (front ++ [.deliver slot document])).slots.documents[slot]? =
        some (some document) := by
      obtain ⟨next, done, filled, -⟩ | ⟨answer, refused, done⟩ :=
        (run {} front).deliver_cases slot document
      · obtain ⟨hole, made⟩ := Slots.of_deliver filled
        obtain ⟨inside, -⟩ := List.getElem?_eq_some_iff.1 hole
        rw [run_append]
        change ((run {} front).deliver slot document).1.slots.documents[slot]? = _
        rw [done, made]
        exact List.getElem?_set_self inside
      · rw [done] at taken
        exact absurd taken refused
    have still := documents_run_of_filled filled rest
    rw [List.append_assoc, List.singleton_append, empty] at still
    cases still

/-- A slot that is late when the first wait ends was empty until then. -/
theorem empty_of_holdsLate
    (unended : ∀ other, (run {} earlier).outcome? other = none)
    (late : HoldsLate (earlier ++ [move]) slot) :
    (run {} earlier).slots.documents[slot]? = some none := by
  obtain ⟨front, split, back, label, same, ⟨id, outcome, -, ended⟩, empty, -⟩ := late
  obtain ⟨rfl, -⟩ | ⟨rest, rfl⟩ := concat_eq_split same
  · exact empty
  · have reported := outcome?_run_of_ended ended rest
    have step : run {} (front ++ split :: rest) = ((run {} front).advance split).run rest :=
      run_append {} front (split :: rest)
    rw [← step, unended] at reported
    cases reported

/-! ## What is reported -/

/-- A wait that ends with a run of moves reports who delivered: that all slots were filled in
time exactly if all hold documents that were delivered, and otherwise the number of those
that hold the document of a late block. -/
def Truthful (moves : List Move) (outcome : Slots.Outcome) : Prop :=
  (outcome = .completed ↔ ∀ slot < (run {} moves).slots.size, HoldsDelivered moves slot) ∧
  (outcome ≠ .completed → ∃ late : List Nat, late.Nodup ∧
    (∀ slot, slot ∈ late ↔ HoldsLate moves slot) ∧ outcome = .timedOut late.length)

/-- The end of a first wait leaves the number of slots as it is. -/
theorem size_of_closes
    (closes : (run {} earlier).Closes move ((run {} earlier).advance move) id) :
    (run {} (earlier ++ [move])).slots.size = (run {} earlier).slots.size := by
  have step : run {} (earlier ++ [move]) = (run {} earlier).close id :=
    (run_append {} earlier [move]).trans closes.closed
  have labels := (sound_run (earlier ++ [move])).slots.labels
  rw [← labels, step]
  exact (sound_run earlier).slots.labels

/-- The first wait that ends reports who delivered. -/
theorem truthful_of_first
    (unended : ∀ other, (run {} earlier).outcome? other = none)
    (closes : (run {} earlier).Closes move ((run {} earlier).advance move) id) :
    Truthful (earlier ++ [move]) (run {} earlier).slots.close.2 := by
  have size := size_of_closes closes
  constructor
  · rw [Slots.close_eq_completed_iff, size]
    constructor
    · intro full slot inside
      obtain ⟨-, delivered⟩ | ⟨empty, -⟩ := holds_of_first_end unended closes (size ▸ inside)
      · exact delivered
      · exact absurd empty (full slot)
    · intro delivered slot empty
      obtain ⟨inside, -⟩ := List.getElem?_eq_some_iff.1 empty
      exact not_holdsDelivered_of_empty closes empty (delivered slot inside)
  · intro uncompleted
    refine ⟨(run {} earlier).slots.missing, List.nodup_findIdxs, fun slot => ?_,
      Slots.close_eq_timedOut uncompleted⟩
    rw [Slots.mem_missing_iff]
    constructor
    · intro empty
      obtain ⟨inside, -⟩ := List.getElem?_eq_some_iff.1 empty
      change slot < (run {} earlier).slots.size at inside
      rw [← size] at inside
      obtain ⟨⟨kept, filled⟩, -⟩ | ⟨-, late⟩ := holds_of_first_end unended closes inside
      · rw [empty] at filled
        cases filled
      · exact late
    · exact empty_of_holdsLate unended

/-- A wait that ends after another one reports that all slots were filled in time. -/
theorem completed_of_ended
    {first : Slots.Outcome}
    (ended : (run {} earlier).outcome? other = some first) :
    (run {} earlier).slots.close.2 = .completed := by
  have filled := ((sound_run earlier).ended other first ended).2
  have none : (run {} earlier).slots.documents.countP Option.isNone = 0 := by
    rw [List.countP_eq_zero]
    intro document member
    rw [Bool.not_eq_true, Option.isNone_eq_false_iff]
    exact filled document member
  exact if_pos none

/-- In whatever order moves come: a wait that ends reports who delivered exactly if no wait
has ended before it or all slots hold documents that were delivered; any other one than the
first reports that all slots were filled in time. -/
theorem truthful_iff_first_or_delivered
    (earlier : List Move)
    (move : Move)
    {id : WaiterId}
    {outcome : Slots.Outcome}
    (running : (run {} earlier).outcome? id = none)
    (ended : (run {} (earlier ++ [move])).outcome? id = some outcome) :
    (Truthful (earlier ++ [move]) outcome ↔
      (∀ other, (run {} earlier).outcome? other = none) ∨
        ∀ slot < (run {} (earlier ++ [move])).slots.size,
          HoldsDelivered (earlier ++ [move]) slot) ∧
    ((∃ other first, (run {} earlier).outcome? other = some first) → outcome = .completed) := by
  rw [run_append] at ended
  obtain ⟨closes, rfl⟩ := closes_of_ended running ended
  refine ⟨⟨fun truthful => ?_, ?_⟩, fun ⟨_, _, before⟩ => completed_of_ended before⟩
  · by_cases unended : ∀ other, (run {} earlier).outcome? other = none
    · exact .inl unended
    · obtain ⟨other, reported⟩ := not_forall.1 unended
      obtain ⟨first, before⟩ := Option.ne_none_iff_exists'.1 reported
      exact .inr (truthful.1.1 (completed_of_ended before))
  · by_cases unended : ∀ other, (run {} earlier).outcome? other = none
    · exact fun _ => truthful_of_first unended closes
    · intro delivered
      obtain ⟨other, reported⟩ := not_forall.1 unended
      obtain ⟨first, before⟩ := Option.ne_none_iff_exists'.1 reported
      have completed := completed_of_ended before
      exact ⟨iff_of_true completed (delivered.resolve_left unended),
        fun uncompleted => absurd completed uncompleted⟩

/-- A wait for a slot ends for lack of time, and somebody waits again. -/
def againMoves : List Move := [.expect (.numbered 1), .enter 0, .expire 0, .enter 1]

/-- The second wait reports that all slots were filled in time, though nothing was
delivered. -/
theorem completed_though_late :
    (run {} againMoves).outcome? 0 = some (.timedOut 1) ∧
      (run {} againMoves).outcome? 1 = some .completed ∧ ¬Truthful againMoves .completed := by
  refine ⟨by decide, by decide, fun truthful => ?_⟩
  obtain ⟨front, document, back, same, -⟩ := truthful.1.1 rfl 0 (by decide)
  have delivery : Move.deliver 0 document ∈ againMoves := by
    rw [same]
    exact List.mem_append_right _ List.mem_cons_self
  simp [againMoves] at delivery

/-- The wait that ends first reports that one block was late. -/
theorem truthful_iff_first_or_delivered_news :
    Truthful (newsMoves ++ [.expire 0]) (.timedOut 1) := by
  have unended : ∀ other, (run {} newsMoves).outcome? other = none := by
    intro other
    have waiters : (run {} newsMoves).waiters = Table.empty.put 0 .parked := rfl
    rw [outcome?_eq, waiters, Table.find?_put]
    split <;> rfl
  exact (truthful_iff_first_or_delivered newsMoves (.expire 0) (unended 0) (by decide)).1.2
    (.inl unended)

end Waiting
end FragmentCache
