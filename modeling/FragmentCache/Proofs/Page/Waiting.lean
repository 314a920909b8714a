import FragmentCache.Page.Waiting
import FragmentCache.Proofs.Page.Slots
import FragmentCache.Proofs.Table

/-!
# Slots under any order of moves

Any number of threads make slots, fill them, stop them and wait for them.  What each of them
does under the lock is one move, and the moves come in any order; a wait may end for lack of
time at any moment, and whoever is parked may wake for no reason.
-/

namespace FragmentCache
namespace Waiting

/-! ## Moves -/

/-- Slots that somebody asks for. -/
inductive Demand where
  | labelled (labels : List String)
  | numbered (count : Nat)
  deriving DecidableEq

namespace Demand

/-- The labels of the slots. -/
def labels : Demand → List String
  | labelled labels => labels
  | numbered count => (List.range count).map Slots.numberedLabel

/-- Make the slots. -/
def made (demand : Demand) (slots : Slots) : Except Slots.Fault Slots :=
  match demand with
  | labelled labels => slots.expectLabels labels
  | numbered count => slots.expect count

theorem made_eq (demand : Demand) (slots : Slots) :
    demand.made slots = slots.expectLabels demand.labels := by
  cases demand <;> rfl

end Demand

/-- What somebody does under the lock. -/
inductive Move where
  | expect (demand : Demand)
  | deliver (slot : Nat) (document : Document)
  | stop
  /-- Wake everybody after a stop. -/
  | notify
  /-- Begin to wait, under a number that nobody has waited under. -/
  | enter (id : WaiterId)
  /-- Wake up and look again, also for no reason. -/
  | resume (id : WaiterId)
  /-- End a wait whose time is up. -/
  | expire (id : WaiterId)
  deriving DecidableEq

/-- Make slots; the answer says whether they were made. -/
def expect (waiting : Waiting) (demand : Demand) : Waiting × Except Slots.Fault Unit :=
  match demand.made waiting.slots with
  | .ok slots => ({ waiting with slots }, .ok ())
  | .error fault => (waiting, .error fault)

/-- Make a move. -/
def advance (waiting : Waiting) : Move → Waiting
  | .expect demand => (waiting.expect demand).1
  | .deliver slot document => (waiting.deliver slot document).1
  | .stop => waiting.stop
  | .notify => if 0 < waiting.pendingNotices then waiting.notify else waiting
  | .enter id => if waiting.waiters.contains id then waiting else waiting.look id
  | .resume id => waiting.resume id
  | .expire id => waiting.expire id

/-- Make moves one after the other. -/
def run (waiting : Waiting) (moves : List Move) : Waiting := moves.foldl advance waiting

variable {waiting next : Waiting} {id other : WaiterId} {outcome : Slots.Outcome}

/-! ## What a move does -/

/-- Slots are made, or nothing changes. -/
theorem expect_cases (waiting : Waiting) (demand : Demand) :
    (∃ slots, waiting.slots.expectLabels demand.labels = .ok slots ∧
      waiting.expect demand = ({ waiting with slots }, .ok ())) ∨
    ∃ fault, waiting.expect demand = (waiting, .error fault) := by
  rw [expect, demand.made_eq]
  cases waiting.slots.expectLabels demand.labels with
  | ok slots => exact .inl ⟨slots, rfl, rfl⟩
  | error fault => exact .inr ⟨fault, rfl⟩

/-- A waiter has an outcome exactly if its wait has finished with it. -/
theorem outcome?_eq_some_iff :
    waiting.outcome? id = some outcome ↔ waiting.waiters.find? id = some (.finished outcome) := by
  unfold outcome?
  cases waiting.waiters.find? id with
  | none => exact ⟨nofun, nofun⟩
  | some stage =>
      cases stage with
      | parked => exact ⟨nofun, nofun⟩
      | woken => exact ⟨nofun, nofun⟩
      | finished ended =>
          constructor
          · rintro ⟨⟩
            rfl
          · rintro ⟨⟩
            rfl

/-- A stage that was put ends no wait, unless it is the end of one and was not there before. -/
theorem ended_of_put
    {waiters : Table WaiterId Stage}
    {stage : Stage}
    (found : (waiters.put other stage).find? id = some (.finished outcome))
    (unended : waiters.find? other ≠ some stage → stage ≠ .finished outcome) :
    waiters.find? id = some (.finished outcome) := by
  rw [Table.find?_put] at found
  split at found
  · rename_i same
    subst same
    by_cases kept : waiters.find? id = some stage
    · exact kept.trans found
    · exact absurd (Option.some.inj found) (unended kept)
  · exact found

@[simp] theorem Stage.wake_wake (stage : Stage) : stage.wake.wake = stage.wake := by
  cases stage <;> rfl

/-- Waking one after the other wakes those who are listed. -/
theorem find?_wakeEach
    (keys : List WaiterId)
    (waiters : Table WaiterId Stage)
    (id : WaiterId) :
    (keys.foldl
      (fun waiters id => match waiters.find? id with
        | some stage => waiters.put id stage.wake
        | none => waiters)
      waiters).find? id =
      if id ∈ keys then (waiters.find? id).map Stage.wake else waiters.find? id := by
  induction keys generalizing waiters with
  | nil => simp
  | cons key rest inductionHypothesis =>
      rw [List.foldl_cons, inductionHypothesis]
      by_cases same : id = key
      · subst same
        cases found : waiters.find? id <;> simp [Table.find?_put, found]
      · cases waiters.find? key <;> simp [Table.find?_put, same]

/-- Notifying all wakes every waiter and nothing else. -/
theorem find?_notifyAll (waiting : Waiting) (id : WaiterId) :
    waiting.notifyAll.waiters.find? id = (waiting.waiters.find? id).map Stage.wake := by
  refine (find?_wakeEach _ _ _).trans ?_
  split
  · rfl
  · next unlisted =>
      rw [Table.find?_eq_none_iff.2 unlisted]
      rfl

theorem Stage.wake_eq_finished_iff {stage : Stage} :
    stage.wake = .finished outcome ↔ stage = .finished outcome := by
  cases stage <;> simp [wake]

/-- Waking everybody ends no wait. -/
theorem outcome?_of_notifyAll
    (found : waiting.notifyAll.outcome? id = some outcome) :
    waiting.outcome? id = some outcome := by
  rw [outcome?_eq_some_iff, find?_notifyAll, Option.map_eq_some_iff] at found
  obtain ⟨stage, here, woken⟩ := found
  rw [Stage.wake_eq_finished_iff] at woken
  rw [outcome?_eq_some_iff, here, woken]

/-- A document fills its own slot, which was empty, and ends no wait; or nothing changes. -/
theorem deliver_cases (waiting : Waiting) (slot : Nat) (document : Document) :
    (∃ next, waiting.deliver slot document = (next, .ok true) ∧
      waiting.slots.deliver slot document = (next.slots, .ok true) ∧
      ∀ id outcome, next.outcome? id = some outcome → waiting.outcome? id = some outcome) ∨
    ∃ answer, answer ≠ .ok true ∧ waiting.deliver slot document = (waiting, answer) := by
  obtain ⟨-, filled⟩ | ⟨answer, refused, same⟩ := waiting.slots.deliver_cases slot document
  · left
    rw [deliver, filled]
    dsimp only
    split
    · exact ⟨_, rfl, rfl, fun _ _ ended => outcome?_of_notifyAll ended⟩
    · exact ⟨_, rfl, rfl, fun _ _ ended => ended⟩
  · refine .inr ⟨answer, refused, ?_⟩
    rw [deliver, same]
    rcases answer with fault | _ | _
    · rfl
    · rfl
    · exact absurd rfl refused

/-- What a move does: it ends a wait and closes the slots, or it takes a step with the slots
and ends no wait. -/
inductive Effect (waiting : Waiting) : Waiting → Prop where
  | closed (id : WaiterId) : Effect waiting (waiting.close id)
  | unended {next : Waiting}
      (step : waiting.slots.Step next.slots)
      (ended : ∀ id outcome, next.outcome? id = some outcome →
        waiting.outcome? id = some outcome) :
      Effect waiting next

theorem effect_refl (waiting : Waiting) : waiting.Effect waiting :=
  .unended .unchanged fun _ _ ended => ended

theorem effect_look (waiting : Waiting) (id : WaiterId) : waiting.Effect (waiting.look id) := by
  rw [look]
  split
  · exact .closed id
  · refine .unended .unchanged fun other outcome ended => ?_
    rw [outcome?_eq_some_iff] at ended ⊢
    exact ended_of_put ended fun _ => nofun

/-- Every move has one of the effects. -/
theorem effect_advance (waiting : Waiting) (move : Move) :
    waiting.Effect (waiting.advance move) := by
  cases move with
  | expect demand =>
      obtain ⟨slots, made, done⟩ | ⟨fault, refused⟩ := waiting.expect_cases demand
      · rw [advance, done]
        exact .unended (.expected made) fun _ _ ended => ended
      · rw [advance, refused]
        exact effect_refl waiting
  | deliver slot document =>
      obtain ⟨next, done, filled, ended⟩ | ⟨answer, -, same⟩ :=
        waiting.deliver_cases slot document
      · rw [advance, done]
        exact .unended (.delivered filled) ended
      · rw [advance, same]
        exact effect_refl waiting
  | stop => exact .unended .stopped fun _ _ ended => ended
  | notify =>
      rw [advance]
      split
      · exact .unended .unchanged fun _ _ ended => outcome?_of_notifyAll ended
      · exact effect_refl waiting
  | enter id =>
      rw [advance]
      split
      · exact effect_refl waiting
      · exact effect_look waiting id
  | resume id =>
      rw [advance, resume]
      split
      · exact effect_look waiting id
      · exact effect_look waiting id
      · exact effect_refl waiting
  | expire id =>
      rw [advance, expire]
      split
      · exact .closed id
      · exact .closed id
      · exact effect_refl waiting

/-! ## What always holds -/

/-- The slots are consistent, and once a wait has ended they are all filled for good. -/
structure Sound (waiting : Waiting) : Prop where
  slots : waiting.slots.Consistent
  ended : ∀ id outcome, waiting.outcome? id = some outcome →
    waiting.slots.isFixed = true ∧ ∀ document ∈ waiting.slots.documents, document.isSome = true

theorem sound_empty : ({} : Waiting).Sound := ⟨Slots.consistent_empty, nofun⟩

theorem Effect.step (effect : waiting.Effect next) : waiting.slots.Step next.slots := by
  cases effect with
  | closed id => exact .closed
  | unended step ended => exact step

/-- Every effect of a move keeps the waiting sound. -/
theorem Sound.effect (sound : waiting.Sound) (effect : waiting.Effect next) : next.Sound := by
  refine ⟨sound.slots.step effect.step, ?_⟩
  cases effect with
  | closed id => exact fun _ _ _ => ⟨Bool.or_true _, Slots.isSome_of_close⟩
  | unended step ended =>
      -- A wait that had ended before left no slot empty, and filled slots stay.
      intro id outcome found
      obtain ⟨fixed, filled⟩ := sound.ended id outcome (ended id outcome found)
      have later := sound.slots.later step
      refine ⟨(later.fixed fixed).1, ?_⟩
      rw [later.documents_eq fixed filled]
      exact filled

/-- The waiting stays sound under any moves. -/
theorem Sound.run (sound : waiting.Sound) (moves : List Move) : (waiting.run moves).Sound := by
  induction moves generalizing waiting with
  | nil => exact sound
  | cons move rest inductionHypothesis =>
      exact inductionHypothesis (sound.effect (effect_advance waiting move))

/-- Moves fill slots at most, and make them when there were none. -/
theorem Sound.later_run (sound : waiting.Sound) (moves : List Move) :
    waiting.slots.Later (waiting.run moves).slots := by
  induction moves generalizing waiting with
  | nil => exact .refl _
  | cons move rest inductionHypothesis =>
      have effect := effect_advance waiting move
      exact (sound.slots.later effect.step).trans (inductionHypothesis (sound.effect effect))

/-- Slots are made where there were none, and after that they keep their labels and their
number, and no others are made. -/
theorem Sound.made_once
    (sound : waiting.Sound)
    {demand : Demand}
    (done : waiting.expect demand = (next, .ok ()))
    (later : List Move) :
    waiting.slots.documents = [] ∧
      next.slots.documents = List.replicate demand.labels.length none ∧
      (next.run later).slots.labels = demand.labels ∧
      (next.run later).slots.size = demand.labels.length ∧
      ∀ other, ∃ fault, (next.run later).expect other = (next.run later, .error fault) := by
  obtain ⟨slots, expected, same⟩ | ⟨fault, refused⟩ := waiting.expect_cases demand
  · rw [same] at done
    cases done
    obtain ⟨unfixed, fixed, labels, documents, -⟩ := Slots.of_expectLabels expected
    have effect : waiting.Effect { waiting with slots } :=
      .unended (.expected expected) fun _ _ ended => ended
    obtain ⟨fixedLater, labelsLater, sizeLater⟩ :=
      ((sound.effect effect).later_run later).fixed fixed
    refine ⟨sound.slots.unmade unfixed, documents, labelsLater.trans labels, ?_, ?_⟩
    · rw [sizeLater, Slots.size, documents, List.length_replicate]
    · intro other
      obtain ⟨made, again, -⟩ | refused :=
        expect_cases (Waiting.run { waiting with slots } later) other
      · obtain ⟨fault, refused⟩ := Slots.expectLabels_of_isFixed fixedLater other.labels
        rw [refused] at again
        cases again
      · exact refused
  · rw [refused] at done
    cases done

/-- A move that ends a wait leaves in every slot what was delivered there, or the text that
stands in for it. -/
theorem Sound.filled_at_end
    (sound : waiting.Sound)
    {move : Move}
    (running : waiting.outcome? id = none)
    (found : (waiting.advance move).outcome? id = some outcome)
    {slot : Nat}
    {label : String}
    (labelled : waiting.slots.labels[slot]? = some label)
    (later : List Move) :
    ∃ kept, waiting.slots.documents[slot]? = some kept ∧
      ((waiting.advance move).run later).slots.documents[slot]? =
        some (some (kept.getD (.timedOut label))) := by
  have effect := effect_advance waiting move
  have soundNext := sound.effect effect
  obtain ⟨fixed, filled⟩ := soundNext.ended id outcome found
  rw [(soundNext.later_run later).documents_eq fixed filled]
  generalize waiting.advance move = next at effect found
  cases effect with
  | closed id => exact sound.slots.getElem?_close labelled
  | unended step ended =>
      have ended := ended id outcome found
      rw [running] at ended
      cases ended

/-- In whatever order moves come: labels and the number of filled slots agree with the slots,
slots are made once and for all, a filled slot is never overwritten, a document that is not
taken changes nothing, and a wait that ends leaves every slot filled for good. -/
theorem run_keeps_slots
    (earlier later : List Move)
    {before : Waiting}
    (reached : run {} earlier = before) :
    (before.slots.labels.length = before.slots.size ∧
      before.slots.filled ≤ before.slots.size ∧
      before.slots.filled = before.slots.documents.countP Option.isSome) ∧
    (∀ demand made, before.expect demand = (made, .ok ()) →
      before.slots.documents = [] ∧
      made.slots.documents = List.replicate demand.labels.length none ∧
      (made.run later).slots.labels = demand.labels ∧
      (made.run later).slots.size = demand.labels.length ∧
      ∀ other, ∃ fault, (made.run later).expect other = (made.run later, .error fault)) ∧
    (∀ (slot : Nat) (document : Document),
      before.slots.documents[slot]? = some (some document) →
      (before.run later).slots.documents[slot]? = some (some document)) ∧
    (∀ slot document,
      (before.slots.documents[slot]? = some none ∧
        ∃ next, before.deliver slot document = (next, .ok true) ∧ next.slots =
          { before.slots with
            documents := before.slots.documents.set slot (some document)
            filled := before.slots.filled + 1 }) ∨
      ∃ answer, answer ≠ .ok true ∧ before.deliver slot document = (before, answer)) ∧
    (∀ id outcome, before.outcome? id = some outcome →
      (∀ document ∈ before.slots.documents, document.isSome = true) ∧
      (before.run later).slots.documents = before.slots.documents) ∧
    (∀ move id outcome, before.outcome? id = none →
      (before.advance move).outcome? id = some outcome →
      ∀ (slot : Nat) (label : String), before.slots.labels[slot]? = some label →
        ∃ kept, before.slots.documents[slot]? = some kept ∧
          ((before.advance move).run later).slots.documents[slot]? =
            some (some (kept.getD (.timedOut label)))) := by
  have sound : before.Sound := reached ▸ sound_empty.run earlier
  refine ⟨⟨sound.slots.labels, ?_, sound.slots.filled⟩, ?_, ?_, ?_, ?_, ?_⟩
  · rw [sound.slots.filled]
    exact List.countP_le_length
  · exact fun demand made done => sound.made_once done later
  · exact (sound.later_run later).kept
  · intro slot document
    obtain ⟨next, done, filled, -⟩ | refused := before.deliver_cases slot document
    · obtain ⟨empty, same⟩ := Slots.of_deliver filled
      exact .inl ⟨empty, next, done, same⟩
    · exact .inr refused
  · intro id outcome found
    obtain ⟨fixed, filled⟩ := sound.ended id outcome found
    exact ⟨filled, (sound.later_run later).documents_eq fixed filled⟩
  · intro move id outcome running found slot label labelled
    exact sound.filled_at_end running found labelled later

/-- Two slots are made, somebody waits, and the first slot is filled. -/
def newsMoves : List Move :=
  [.expect (.labelled ["news", "weather"]), .enter 0, .deliver 0 ⟨"<news/>", by decide⟩]

/-- A document that comes after the wait has ended, and slots that are made too late. -/
def lateMoves : List Move :=
  [.deliver 1 ⟨"<weather/>", by decide⟩, .expect (.numbered 3)]

/-- A slot delivered in time keeps its news, and a late delivery does not replace the text
that stands in for the other. -/
theorem run_keeps_slots_news :
    (((run {} newsMoves).advance (.expire 0)).outcome? 0 = some (.timedOut 1)) ∧
    (((run {} newsMoves).advance (.expire 0)).run lateMoves).slots.documents[0]? =
      some (some ⟨"<news/>", by decide⟩) ∧
    (((run {} newsMoves).advance (.expire 0)).run lateMoves).slots.documents[1]? =
      some (some (.timedOut "weather")) := by
  obtain ⟨-, -, -, -, -, closes⟩ :=
    run_keeps_slots newsMoves lateMoves (rfl : run {} newsMoves = _)
  have ended : ((run {} newsMoves).advance (.expire 0)).outcome? 0 = some (.timedOut 1) := by
    decide
  obtain ⟨_, news, first⟩ := closes (.expire 0) 0 (.timedOut 1) (by decide) ended 0 "news" rfl
  obtain ⟨_, weather, second⟩ :=
    closes (.expire 0) 0 (.timedOut 1) (by decide) ended 1 "weather" rfl
  cases news
  cases weather
  exact ⟨ended, first, second⟩

end Waiting
end FragmentCache
