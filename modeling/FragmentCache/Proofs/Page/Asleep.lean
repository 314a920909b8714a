import FragmentCache.Proofs.Page.Waiting
import Mathlib.Data.List.Induction

/-!
# Asleep on slots that are over

Filling the last slot wakes everybody who is parked, and so does a stop.  A wait whose time
is up closes the slots as well, but it wakes nobody: who is parked beside it sleeps on, until
somebody stops the slots once more, it wakes for no reason, or its own time is up.  Nobody
else is ever parked on slots that are over once all notices were given.
-/

namespace FragmentCache
namespace Waiting

variable {waiting : Waiting} {move : Move} {id other : WaiterId}

/-! ## Who is parked -/

/-- Whether somebody is parked. -/
def isAsleep (waiting : Waiting) (id : WaiterId) : Bool :=
  waiting.waiters.find? id == some .parked

/-- Whether somebody has begun to wait and not ended it. -/
def isWaiter (waiting : Waiting) (id : WaiterId) : Bool :=
  waiting.isAsleep id || waiting.waiters.find? id == some .woken

theorem isAsleep_iff : waiting.isAsleep id = true ↔ waiting.waiters.find? id = some .parked :=
  beq_iff_eq

@[simp] theorem isAsleep_close (waiting : Waiting) (other id : WaiterId) :
    (waiting.close other).isAsleep id = (waiting.isAsleep id && !decide (id = other)) := by
  change ((waiting.waiters.put other _).find? id == some Stage.parked) = _
  rw [Table.find?_put, isAsleep]
  by_cases same : id = other <;> simp [same]

/-- Who looks at slots that are over ends its wait. -/
theorem look_of_isOver (isOver : waiting.slots.isOver = true) (id : WaiterId) :
    waiting.look id = waiting.close id := by
  rw [look, if_pos isOver]

/-- Who wakes up ends its wait when the slots are over. -/
theorem resume_of_isOver (isOver : waiting.slots.isOver = true) (id : WaiterId) :
    waiting.resume id = if waiting.isWaiter id then waiting.close id else waiting := by
  rw [resume, look_of_isOver isOver, isWaiter, isAsleep]
  cases waiting.waiters.find? id with
  | none => rfl
  | some stage => cases stage <;> rfl

/-- A wait whose time is up ends, and nothing happens to those that have ended. -/
theorem expire_eq (waiting : Waiting) (id : WaiterId) :
    waiting.expire id = if waiting.isWaiter id then waiting.close id else waiting := by
  rw [expire, isWaiter, isAsleep]
  cases waiting.waiters.find? id with
  | none => rfl
  | some stage => cases stage <;> rfl

/-! ## Notices -/

theorem Stage.wake_ne_parked (stage : Stage) : stage.wake ≠ .parked := by
  cases stage <;> exact nofun

@[simp] theorem isAsleep_notifyAll (waiting : Waiting) (id : WaiterId) :
    waiting.notifyAll.isAsleep id = false := by
  rw [isAsleep, find?_notifyAll]
  cases waiting.waiters.find? id with
  | none => rfl
  | some stage => simpa using stage.wake_ne_parked

/-! ## What a move does to who is parked -/

/-- Somebody may be woken by a notice, or wake by itself, in a move. -/
def Move.rouses (move : Move) (id : WaiterId) : Prop :=
  move = .stop ∨ move = .resume id ∨ move = .expire id

/-- Who is parked on stopped slots with no notice to come stays so. -/
structure Stranded (waiting : Waiting) (id : WaiterId) : Prop where
  stopped : waiting.slots.isStopped = true
  silent : waiting.pendingNotices = 0
  asleep : waiting.isAsleep id = true

theorem Stranded.isOver (stranded : waiting.Stranded id) : waiting.slots.isOver = true := by
  rw [Slots.isOver, stranded.stopped, Bool.or_true]

theorem Stranded.close
    (stranded : waiting.Stranded id)
    (differ : id ≠ other) :
    (waiting.close other).Stranded id where
  stopped := rfl
  silent := stranded.silent
  asleep := by simpa [differ] using stranded.asleep

/-- Who is stranded stays so until something rouses it. -/
theorem Stranded.advance
    (stranded : waiting.Stranded id)
    (quiet : ¬move.rouses id) :
    (waiting.advance move).Stranded id := by
  rw [Move.rouses, not_or, not_or] at quiet
  obtain ⟨noStop, noResume, noExpiry⟩ := quiet
  have closes : ∀ other, id ≠ other →
      (if waiting.isWaiter other then waiting.close other else waiting).Stranded id := by
    intro other differ
    split
    · exact stranded.close differ
    · exact stranded
  cases move with
  | expect demand =>
      have fixed : waiting.slots.isFixed = true := by
        rw [Slots.isFixed, stranded.stopped, Bool.or_true]
      obtain ⟨slots, made, -⟩ | ⟨fault, refused⟩ := waiting.expect_cases demand
      · obtain ⟨fault, refused⟩ := Slots.expectLabels_of_isFixed fixed demand.labels
        simp [refused] at made
      · simpa only [Waiting.advance, refused] using stranded
  | deliver slot document =>
      simpa only [Waiting.advance, deliver, Slots.deliver_of_isStopped stranded.stopped]
        using stranded
  | stop => exact absurd rfl noStop
  | notify => simpa [Waiting.advance, stranded.silent] using stranded
  | enter other =>
      rw [Waiting.advance]
      split
      · exact stranded
      · next absent =>
          rw [look_of_isOver stranded.isOver]
          apply stranded.close
          rintro rfl
          rw [Table.contains, isAsleep_iff.1 stranded.asleep] at absent
          exact absent rfl
  | resume other =>
      rw [Waiting.advance, resume_of_isOver stranded.isOver]
      exact closes other fun same => noResume (same ▸ rfl)
  | expire other =>
      rw [Waiting.advance, expire_eq]
      exact closes other fun same => noExpiry (same ▸ rfl)

theorem isWaiter_of_isAsleep (asleep : waiting.isAsleep id = true) :
    waiting.isWaiter id = true := by
  rw [isWaiter, asleep, Bool.true_or]

/-- Slots that are not over were made. -/
theorem Sound.isFixed_of_not_isOver
    (sound : waiting.Sound)
    (running : waiting.slots.isOver = false) :
    waiting.slots.isFixed = true := by
  cases fixed : waiting.slots.isFixed with
  | true => rfl
  | false =>
      have none := sound.slots.unmade fixed
      simp [Slots.isOver, Slots.isComplete, Slots.size, none] at running

/-- Looking at slots that are not over leaves them so. -/
theorem slots_resume_of_not_isOver
    (running : waiting.slots.isOver = false)
    (id : WaiterId) :
    (waiting.resume id).slots = waiting.slots := by
  have looks : (waiting.look id).slots = waiting.slots := by simp [look, running]
  rw [resume]
  split
  · exact looks
  · exact looks
  · rfl

/-- Somebody is parked on slots that are over, and no notice is to come. -/
structure Oversleeps (waiting : Waiting) (id : WaiterId) : Prop where
  isOver : waiting.slots.isOver = true
  silent : waiting.pendingNotices = 0
  asleep : waiting.isAsleep id = true

/-- Who sleeps on beside a wait that ends is another one. -/
theorem Oversleeps.of_close (oversleeps : (waiting.close other).Oversleeps id) :
    other ≠ id ∧ waiting.isAsleep id = true ∧ waiting.pendingNotices = 0 := by
  have asleep := oversleeps.asleep
  rw [isAsleep_close, Bool.and_eq_true, Bool.not_eq_true', decide_eq_false_iff_not] at asleep
  exact ⟨Ne.symm asleep.2, asleep.1, oversleeps.silent⟩

/-- The last document wakes everybody. -/
theorem Oversleeps.of_deliver
    {slot : Nat}
    {document : Document}
    (oversleeps : (waiting.deliver slot document).1.Oversleeps id) :
    waiting.Oversleeps id := by
  obtain ⟨isOver, silent, asleep⟩ := oversleeps
  obtain ⟨-, filled⟩ | ⟨answer, refused, same⟩ := waiting.slots.deliver_cases slot document
  · rw [deliver, filled] at isOver silent asleep
    dsimp only at isOver silent asleep
    split at asleep
    · simp at asleep
    · next incomplete =>
        rw [if_neg incomplete] at isOver silent
        rw [Slots.isOver, Bool.or_eq_true] at isOver
        have stopped : waiting.slots.isStopped = true := isOver.resolve_left incomplete
        exact ⟨by simp [Slots.isOver, stopped], silent, asleep⟩
  · rw [deliver, same] at isOver silent asleep
    rcases answer with fault | _ | _
    · exact ⟨isOver, silent, asleep⟩
    · exact ⟨isOver, silent, asleep⟩
    · exact absurd rfl refused

/-- Slots that are made wake nobody, and nobody was parked before. -/
theorem Oversleeps.of_expect
    {demand : Demand}
    (oversleeps : (waiting.advance (.expect demand)).Oversleeps id)
    (sound : waiting.Sound) :
    waiting.Oversleeps id := by
  obtain ⟨slots, made, done⟩ | ⟨fault, refused⟩ := waiting.expect_cases demand
  · rw [Waiting.advance, done] at oversleeps
    refine ⟨?_, oversleeps.silent, oversleeps.asleep⟩
    -- Slots that are made now were not there before.
    by_contra running
    have fixed := sound.isFixed_of_not_isOver (Bool.eq_false_iff.2 running)
    obtain ⟨fault, refused⟩ := Slots.expectLabels_of_isFixed fixed demand.labels
    simp [refused] at made
  · rwa [Waiting.advance, refused] at oversleeps

/-- A notice leaves nobody parked. -/
theorem Oversleeps.of_notify (oversleeps : (waiting.advance .notify).Oversleeps id) :
    waiting.Oversleeps id := by
  rw [Waiting.advance] at oversleeps
  split at oversleeps
  · have asleep := oversleeps.asleep
    rw [notify, isAsleep_notifyAll] at asleep
    cases asleep
  · exact oversleeps

/-- Nobody parks on slots that are over already. -/
theorem Oversleeps.of_enter (oversleeps : (waiting.advance (.enter other)).Oversleeps id) :
    waiting.Oversleeps id := by
  rw [Waiting.advance, look] at oversleeps
  split at oversleeps
  · exact oversleeps
  · split at oversleeps
    · next isOver =>
        obtain ⟨-, asleep, silent⟩ := oversleeps.of_close
        exact ⟨isOver, silent, asleep⟩
    · next running => exact absurd oversleeps.isOver running

/-- Who wakes up does not oversleep, and looking at slots does not end them. -/
theorem Oversleeps.of_resume (oversleeps : (waiting.advance (.resume other)).Oversleeps id) :
    waiting.Oversleeps id ∧ other ≠ id := by
  rw [Waiting.advance] at oversleeps
  cases before : waiting.slots.isOver with
  | false =>
      have isOver := oversleeps.isOver
      rw [slots_resume_of_not_isOver before, before] at isOver
      cases isOver
  | true =>
      rw [resume_of_isOver before] at oversleeps
      split at oversleeps
      · obtain ⟨differ, asleep, silent⟩ := oversleeps.of_close
        exact ⟨⟨before, silent, asleep⟩, differ⟩
      · next gone =>
          refine ⟨oversleeps, ?_⟩
          rintro rfl
          exact gone (isWaiter_of_isAsleep oversleeps.asleep)

/-- When the time of a wait is up, it is that wait which closes slots that were not over. -/
theorem Oversleeps.of_expire (oversleeps : (waiting.advance (.expire other)).Oversleeps id) :
    other ≠ id ∧ (waiting.Oversleeps id ∨
      waiting.slots.isOver = false ∧ waiting.isWaiter other = true ∧
        waiting.isAsleep id = true) := by
  rw [Waiting.advance, expire_eq] at oversleeps
  split at oversleeps
  · next waits =>
      obtain ⟨differ, asleep, silent⟩ := oversleeps.of_close
      refine ⟨differ, ?_⟩
      cases before : waiting.slots.isOver with
      | true => exact .inl ⟨before, silent, asleep⟩
      | false => exact .inr ⟨rfl, waits, asleep⟩
  · next gone =>
      refine ⟨?_, .inl oversleeps⟩
      rintro rfl
      exact gone (isWaiter_of_isAsleep oversleeps.asleep)

/-- Who oversleeps after a move did so before it, and the move did not rouse it; or the time
of another wait was up beside it. -/
theorem Sound.oversleeps_of_advance
    (sound : waiting.Sound)
    (oversleeps : (waiting.advance move).Oversleeps id) :
    (waiting.Oversleeps id ∧ ¬move.rouses id) ∨
      ∃ other, other ≠ id ∧ move = .expire other ∧ waiting.slots.isOver = false ∧
        waiting.isWaiter other = true ∧ waiting.isAsleep id = true := by
  cases move with
  | expect demand => exact .inl ⟨oversleeps.of_expect sound, by simp [Move.rouses]⟩
  | deliver slot document => exact .inl ⟨oversleeps.of_deliver, by simp [Move.rouses]⟩
  | stop => exact absurd oversleeps.silent (Nat.succ_ne_zero _)
  | notify => exact .inl ⟨oversleeps.of_notify, by simp [Move.rouses]⟩
  | enter other => exact .inl ⟨oversleeps.of_enter, by simp [Move.rouses]⟩
  | resume other =>
      obtain ⟨before, differ⟩ := oversleeps.of_resume
      exact .inl ⟨before, by simp [Move.rouses, differ]⟩
  | expire other =>
      obtain ⟨differ, before | ⟨running, waits, asleep⟩⟩ := oversleeps.of_expire
      · exact .inl ⟨before, by simp [Move.rouses, differ]⟩
      · exact .inr ⟨other, differ, rfl, running, waits, asleep⟩

/-! ## Over a whole run -/

/-- The time of another wait was up beside somebody who was parked, before the slots were
over, and nothing roused it since. -/
def LeftAsleep (moves : List Move) (id : WaiterId) : Prop :=
  ∃ earlier other later, moves = earlier ++ .expire other :: later ∧ other ≠ id ∧
    (run {} earlier).slots.isOver = false ∧ (run {} earlier).isWaiter other = true ∧
    (run {} earlier).isAsleep id = true ∧ ∀ move ∈ later, ¬move.rouses id

theorem run_append (waiting : Waiting) (moves more : List Move) :
    waiting.run (moves ++ more) = (waiting.run moves).run more :=
  List.foldl_append

theorem sound_run (moves : List Move) : (run {} moves).Sound := sound_empty.run moves

/-- Only a stop owes a notice. -/
theorem pendingNotices_advance (waiting : Waiting) (move : Move) :
    move = .stop ∨ (waiting.advance move).pendingNotices ≤ waiting.pendingNotices := by
  have looks : ∀ id, (waiting.look id).pendingNotices ≤ waiting.pendingNotices := by
    intro id
    rw [look]
    split <;> exact Nat.le_refl _
  cases move with
  | expect demand =>
      right
      obtain ⟨slots, -, done⟩ | ⟨fault, refused⟩ := waiting.expect_cases demand
      · simp [Waiting.advance, done]
      · simp [Waiting.advance, refused]
  | deliver slot document =>
      right
      rw [Waiting.advance, deliver]
      rcases waiting.slots.deliver slot document with ⟨slots, fault | _ | _⟩
      · exact Nat.le_refl _
      · exact Nat.le_refl _
      · dsimp only
        split <;> exact Nat.le_refl _
  | stop => exact .inl rfl
  | notify =>
      right
      rw [Waiting.advance]
      split
      · exact Nat.sub_le _ _
      · exact Nat.le_refl _
  | enter id =>
      right
      rw [Waiting.advance]
      split
      · exact Nat.le_refl _
      · exact looks id
  | resume id =>
      right
      rw [Waiting.advance, resume]
      split
      · exact looks id
      · exact looks id
      · exact Nat.le_refl _
  | expire id =>
      right
      rw [Waiting.advance, expire_eq]
      split <;> exact Nat.le_refl _

/-- As long as nobody has stopped the slots, no notice is to come. -/
theorem pendingNotices_run
    (moves : List Move)
    (running : (run {} moves).slots.isStopped = false) :
    (run {} moves).pendingNotices = 0 := by
  induction moves using List.reverseRecOn with
  | nil => rfl
  | append_singleton earlier move inductionHypothesis =>
      rw [run_append] at running ⊢
      have before : (run {} earlier).slots.isStopped = false := by
        by_contra stopped
        have later := (effect_advance (run {} earlier) move).step.isStopped
          (Bool.not_eq_false _ ▸ stopped)
        exact absurd (running.symm.trans later) nofun
      obtain rfl | fewer := pendingNotices_advance (run {} earlier) move
      · cases running
      · rw [inductionHypothesis before] at fewer
        exact Nat.le_zero.1 fewer

/-- Who is stranded stays so as long as nothing rouses it. -/
theorem Stranded.run
    (stranded : waiting.Stranded id)
    {moves : List Move}
    (quiet : ∀ move ∈ moves, ¬move.rouses id) :
    (waiting.run moves).Stranded id := by
  induction moves generalizing waiting with
  | nil => exact stranded
  | cons move rest inductionHypothesis =>
      rw [List.forall_mem_cons] at quiet
      exact inductionHypothesis (stranded.advance quiet.1) quiet.2

/-- Who was left asleep is stranded. -/
theorem LeftAsleep.stranded {moves : List Move} (left : LeftAsleep moves id) :
    (run {} moves).Stranded id := by
  obtain ⟨earlier, other, later, rfl, differ, running, waits, asleep, quiet⟩ := left
  rw [run_append]
  have stopped : (run {} earlier).slots.isStopped = false := by
    rw [Slots.isOver, Bool.or_eq_false_iff] at running
    exact running.2
  have closed : ((run {} earlier).advance (.expire other)).Stranded id := by
    rw [Waiting.advance, expire_eq, if_pos waits]
    exact {
      stopped := rfl
      silent := pendingNotices_run earlier stopped
      asleep := by simp [asleep, Ne.symm differ] }
  exact closed.run quiet

/-- Whoever oversleeps was left asleep by a wait whose time was up. -/
theorem leftAsleep_of_oversleeps
    (moves : List Move)
    (oversleeps : (run {} moves).Oversleeps id) :
    LeftAsleep moves id := by
  induction moves using List.reverseRecOn with
  | nil => cases oversleeps.asleep
  | append_singleton earlier move inductionHypothesis =>
      rw [run_append] at oversleeps
      obtain ⟨before, quiet⟩ | ⟨other, differ, rfl, running, waits, asleep⟩ :=
        (sound_run earlier).oversleeps_of_advance oversleeps
      · obtain ⟨first, other, later, rfl, differ, running, waits, asleep, quietBefore⟩ :=
          inductionHypothesis before
        refine ⟨first, other, later ++ [move], by simp, differ, running, waits, asleep, ?_⟩
        rw [List.forall_mem_append, List.forall_mem_singleton]
        exact ⟨quietBefore, quiet⟩
      · exact ⟨earlier, other, [], rfl, differ, running, waits, asleep, by simp⟩

/-- In whatever order moves come: when the slots are over and all notices were given,
somebody is still parked exactly if the time of another wait was up beside it before the
slots were over, and since then nobody stopped them, it did not wake for no reason, and its
own time was not up. -/
theorem asleep_when_over_iff_left_asleep
    (moves : List Move)
    (isOver : (run {} moves).slots.isOver = true)
    (silent : (run {} moves).pendingNotices = 0)
    (id : WaiterId) :
    (run {} moves).isAsleep id = true ↔ LeftAsleep moves id :=
  ⟨fun asleep => leftAsleep_of_oversleeps moves ⟨isOver, silent, asleep⟩,
    fun left => left.stranded.asleep⟩

/-- Two wait for a slot, and the time of the second one is up. -/
def besideMoves : List Move := [.expect (.numbered 1), .enter 0, .enter 1, .expire 1]

/-- The first one is parked, though the second one has closed the slots and no notice is to
come. -/
theorem parked_on_closed_slots :
    (run {} besideMoves).slots.isOver = true ∧ (run {} besideMoves).pendingNotices = 0 ∧
      (run {} besideMoves).outcome? 1 = some (.timedOut 1) ∧
      (run {} besideMoves).waiters.find? 0 = some .parked := by
  decide +kernel

/-- The first one was left asleep when the time of the second one was up. -/
theorem asleep_when_over_iff_left_asleep_beside :
    (run {} besideMoves).slots.isOver = true ∧ (run {} besideMoves).pendingNotices = 0 ∧
      LeftAsleep besideMoves 0 := by
  have isOver : (run {} besideMoves).slots.isOver = true := by decide +kernel
  have silent : (run {} besideMoves).pendingNotices = 0 := by decide +kernel
  refine ⟨isOver, silent, (asleep_when_over_iff_left_asleep besideMoves isOver silent 0).1 ?_⟩
  decide +kernel

end Waiting
end FragmentCache
