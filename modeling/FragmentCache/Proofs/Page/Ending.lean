import FragmentCache.Proofs.Page.Standing

/-!
# How a wait comes about and ends

The caller has a number of steps to take until it waits, eleven for each block at most.  No
move of anybody makes it more, and each step of the caller makes it less unless the call of its
block is held up.  A wait ends at once when the time is up or all slots are filled; if neither,
a block that was left to the crew is at work, or some worker is awake that takes the oldest
task.
-/

namespace FragmentCache
namespace Page

open Block (Answer)

variable {τ σ : Type}

/-- Largest number of steps until a block is done that was handed out. -/
def callLeft (page : Page τ σ) (slot : Slot) : Nat :=
  (page.calls.find? slot).elim 0 Block.Call.Stage.stepsLeft + 1

/-- Largest number of steps that the caller takes until it waits. -/
def callerLeft (page : Page τ σ) : Nat :=
  11 * (page.blocks.length - page.handedOut) + page.onCaller.elim 0 page.callLeft

/-- Whether the caller runs a block whose call waits for a lock that it cannot get. -/
def isHeldUp (page : Page τ σ) : Bool :=
  (page.onCaller.bind page.calls.find?).any (Block.Call.Stage.isHeldUp page.shared)

/-- Whether the caller is on its way to its wait, and not held up. -/
def isOnTheWay (page : Page τ σ) : Bool :=
  !page.isAnswered && !page.isWaiting && !page.isHeldUp

variable {page next : Page τ σ} {events : List Event} {slot : Slot} {block : Block σ}

/-- A page is answered when its time is up. -/
theorem isAnswered_expire (waiting : page.isWaiting = true) : page.expire.isAnswered = true := by
  rw [expire, if_pos waiting]
  rfl

/-- Handing out a block is one of the steps that the caller has left. -/
theorem callerLeft_of_handsOut
    (free : page.onCaller = none)
    (here : page.blocks[page.handedOut]? = some block)
    (handed : page.HandsOut next events) :
    next.callerLeft < page.callerLeft := by
  have inside : page.handedOut < page.blocks.length := lt_of_getElem? here
  cases handed with
  | left queued =>
      simp only [callerLeft, free, Option.elim_none]
      omega
  | kept spares =>
      simp only [callerLeft, callLeft, free, Option.elim_none, Option.elim_some, Table.find?_put,
        if_true, Block.Call.Stage.stepsLeft]
      omega

variable [CacheTier τ]

/-- A step of the call of a block brings this block nearer to its end. -/
theorem callLeft_called
    {stage after : Block.Call.Stage}
    {shared : Block.Shared τ σ}
    (now : page.calls.find? slot = some stage)
    (stepped : Block.Call.step? block page.request stage page.shared = some (after, shared))
    (other : Slot) :
    callLeft { page with calls := page.calls.put slot after, shared } other +
      (if other = slot then 1 else 0) ≤ page.callLeft other := by
  simp only [callLeft, Table.find?_put]
  split
  · next same =>
      subst same
      rw [now]
      exact Nat.succ_le_succ (Block.Call.stepsLeft_step stepped)
  · exact Nat.le_refl _

/-- No move gives the caller more to do. -/
theorem Effect.callerLeft_le (effect : page.Effect next events) :
    next.callerLeft ≤ page.callerLeft := by
  cases effect with
  | @called slot block stage after shared here now stepped =>
      have less := callLeft_called now stepped
      simp only [callerLeft]
      cases page.onCaller with
      | none => exact Nat.le_refl _
      | some other => exact Nat.add_le_add_left (Nat.le_of_add_right_le (less other)) _
  | handedOut free here handed => exact Nat.le_of_lt (callerLeft_of_handsOut free here handed)
  | returned here answered =>
      rw [deliver_eq]
      exact Nat.add_le_add_left (Nat.zero_le _) _
  | ended busy answered =>
      rw [deliver_eq]
      exact Nat.le_refl _
  | _ => exact Nat.le_refl _

/-- A step of the caller leaves it less to do on the way to its wait. -/
theorem callerLeft_stepCallerWaking
    (each : ∀ (slot : Slot) (block : Block σ), page.blocks[slot]? = some block →
      ∃ progress, page.Standing slot block progress)
    (sound : page.Sound)
    (onTheWay : page.isOnTheWay = true)
    (chosen : Nat) :
    (page.stepCallerWaking chosen).callerLeft < page.callerLeft := by
  rw [isOnTheWay, Bool.and_eq_true, Bool.and_eq_true, Bool.not_eq_true', Bool.not_eq_true',
    Bool.not_eq_true'] at onTheWay
  obtain ⟨⟨unanswered, busy⟩, free⟩ := onTheWay
  cases running : page.onCaller with
  | none =>
      cases here : page.blocks[page.handedOut]? with
      | some block =>
          exact callerLeft_of_handsOut running here (handsOut_stepCallerWaking running here chosen)
      | none =>
          rw [isWaiting_of running here unanswered] at busy
          cases busy
  | some slot =>
      obtain ⟨block, here⟩ : ∃ block, page.blocks[slot]? = some block :=
        ⟨_, List.getElem?_eq_getElem (sound.onCaller slot running)⟩
      obtain ⟨progress, standing⟩ := each slot block here
      have begun := standing.onCaller.1 running
      obtain ⟨stage, now, -⟩ := standing.call (by rw [begun]; nofun)
      rw [stepCallerWaking, running]
      dsimp only
      rw [stepCaller, running]
      dsimp only
      cases answered : page.answer? slot with
      | some answer =>
          dsimp only
          rw [deliver_eq]
          simp only [callerLeft, running, callLeft, Option.elim_none, Option.elim_some]
          omega
      | none =>
          rw [answer?, now, Option.bind_some] at answered
          rw [isHeldUp, running, Option.bind_some, now, Option.any_some] at free
          obtain ⟨after, shared, stepped⟩ := Block.Call.exists_step block page.request answered free
          dsimp only
          rw [stepCall, here, now]
          dsimp only
          rw [stepped]
          have less := callLeft_called now stepped slot
          rw [if_pos rfl] at less
          simp only [callerLeft, running, Option.elim_some]
          exact Nat.add_lt_add_left less _

/-- Number of steps that the caller takes in some moves on the way to its wait. -/
def Course.callerSteps (course : Course τ σ) : List (Move τ σ) → Nat
  | [] => 0
  | .caller chosen :: rest =>
    course.page.isOnTheWay.toNat + (course.advance (.caller chosen)).callerSteps rest
  | move :: rest => (course.advance move).callerSteps rest

/-! ## The end of a wait -/

/-- The wait ends when all slots are filled. -/
theorem isAnswered_stepCallerWaking
    (waiting : page.isWaiting = true)
    (isOver : page.slots.isOver = true)
    (chosen : Nat) :
    (page.stepCallerWaking chosen).isAnswered = true := by
  obtain ⟨unanswered, free, handedOut⟩ := of_isWaiting waiting
  have none : page.blocks[page.handedOut]? = none := List.getElem?_eq_none handedOut
  rw [stepCallerWaking, free, none]
  dsimp only
  rw [stepCaller, free]
  dsimp only
  rw [none]
  dsimp only
  rw [unanswered, isOver]
  rfl

/-- As long as some slot is empty, a block of the page is with a worker, or it is in the queue
and a worker is awake that takes the oldest task in its next step. -/
theorem exists_withCrew
    (each : ∀ (slot : Slot) (block : Block σ), page.blocks[slot]? = some block →
      ∃ progress, page.Standing slot block progress)
    (sound : page.Sound)
    (waiting : page.isWaiting = true)
    (unfinished : page.slots.isOver = false) :
    ∃ slot < page.blocks.length,
      (∃ index, page.crew.task? index = some slot) ∨
      slot ∈ page.crew.queue ∧
        ∃ index : Nat, page.crew.workers[index]? = some .woken ∧
          (page.crew.step index).task? index = page.crew.queue.head? := by
  obtain ⟨slot, empty⟩ := sound.consistent.exists_empty unfinished
  have inside : slot < page.blocks.length := by
    rw [← sound.size]
    exact (List.getElem?_eq_some_iff.1 empty).1
  obtain ⟨block, here⟩ : ∃ block, page.blocks[slot]? = some block :=
    ⟨_, List.getElem?_eq_getElem inside⟩
  obtain ⟨progress, standing⟩ := each slot block here
  have undone : documentAfter? block.name progress = none := by
    have document := standing.document (of_isWaiting waiting).1
    rw [empty] at document
    exact (Option.some.inj document).symm
  refine ⟨slot, inside, ?_⟩
  obtain withCrew | ⟨answer, rfl⟩ := standing.isSettled here waiting
  · rcases progress with _ | _ | ⟨_ | worker⟩ | ⟨_ | worker, answer⟩
    · cases withCrew
    · have queued : slot ∈ page.crew.queue := by
        rw [← List.count_pos_iff, standing.tracks.queued]
        exact Nat.one_pos
      obtain ⟨first, rest, queue⟩ := List.exists_cons_of_ne_nil (List.ne_nil_of_mem queued)
      obtain ⟨index, woken, taken⟩ := sound.manned.exists_taker queue
      exact .inr ⟨queued, index, woken, by rw [taken, queue, List.head?_cons]⟩
    · cases withCrew
    · exact .inl ⟨worker, (standing.tracks.busy worker).2 rfl⟩
    · cases withCrew
    · cases undone
  · cases undone

end Page
end FragmentCache
