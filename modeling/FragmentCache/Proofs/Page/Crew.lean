import FragmentCache.Page.Crew

/-!
# Idle workers

A task is queued only if there is an idle worker for it, and a notice wakes one worker that
is parked, whichever it is.  Who is woken may find that its task was taken by a worker that
came by, and a notice may find nobody parked.  What holds at all times is that the idle
workers are counted, and that those of them who are awake are at least as many as the tasks
that are queued.
-/

namespace FragmentCache
namespace Crew

variable {α : Type}

/-! ## The parts of an offer -/

/-- Wake the chosen worker if it is parked, or else the first one that is. -/
def notifyOne (chosen : Nat) (workers : List (Worker α)) : List (Worker α) :=
  match workers[chosen]? with
  | some .parked => workers.set chosen .woken
  | _ => wakeFirst workers

/-- Offer a task under the lock. -/
def offer (crew : Crew α) (chosen : Nat) (task : α) : Crew α × Dispatch :=
  if crew.isRunning ∧ crew.queue.length < crew.idle then
    ({ crew with
        queue := crew.queue ++ [task]
        workers := notifyOne chosen crew.workers }, .queued)
  else (crew, .inline)

/-- Count a task that was offered. -/
def countOffer (crew : Crew α) : Dispatch → Crew α
  | .queued => { crew with queuedRuns := crew.queuedRuns + 1 }
  | .inline => { crew with inlineRuns := crew.inlineRuns + 1 }

/-- A worker that is parked wakes for no reason. -/
def stir (crew : Crew α) (index : Nat) : Crew α :=
  match crew.workers[index]? with
  | some .parked => crew.setWorker index .woken
  | _ => crew

variable {crew : Crew α} {workers : List (Worker α)} {worker : Worker α} {index : Nat} {task : α}

/-- To invoke is to offer, with no particular worker to wake, and to count. -/
theorem invoke_eq (crew : Crew α) (task : α) :
    crew.invoke task =
      ((crew.offer crew.size task).1.countOffer (crew.offer crew.size task).2,
        (crew.offer crew.size task).2) := by
  have nobody : crew.workers[crew.size]? = none := List.getElem?_eq_none (Nat.le_refl _)
  rw [invoke, offer]
  split
  · rw [notifyOne, nobody]
    rfl
  · rfl

/-! ## Notices -/

/-- A notice wakes somebody who is parked, or finds nobody. -/
inductive Notice (workers : List (Worker α)) : List (Worker α) → Prop where
  | nobody (awake : .parked ∉ workers) : Notice workers workers
  | woken (index : Nat) (parked : workers[index]? = some .parked) :
      Notice workers (workers.set index .woken)

theorem Notice.cons
    {noticed : List (Worker α)}
    (notice : Notice workers noticed)
    (awake : worker ≠ .parked) :
    Notice (worker :: workers) (worker :: noticed) := by
  cases notice with
  | nobody unparked => exact .nobody (by simp [unparked, Ne.symm awake])
  | woken index parked => exact .woken (index + 1) parked

/-- Waking the first worker that is parked is a notice. -/
theorem notice_wakeFirst (workers : List (Worker α)) : Notice workers (wakeFirst workers) := by
  induction workers with
  | nil => exact .nobody List.not_mem_nil
  | cons worker rest inductionHypothesis =>
      cases worker with
      | parked => exact .woken 0 rfl
      | starting => exact inductionHypothesis.cons nofun
      | woken => exact inductionHypothesis.cons nofun
      | busy task => exact inductionHypothesis.cons nofun
      | exited => exact inductionHypothesis.cons nofun

/-- Waking a chosen worker is a notice. -/
theorem notice_notifyOne (chosen : Nat) (workers : List (Worker α)) :
    Notice workers (notifyOne chosen workers) := by
  rw [notifyOne]
  split
  · next parked => exact .woken chosen parked
  · exact notice_wakeFirst workers

/-- A task is queued for an idle worker and a notice is given, or nothing changes. -/
theorem offer_cases (crew : Crew α) (chosen : Nat) (task : α) :
    (crew.isRunning = true ∧ crew.queue.length < crew.idle ∧
      ∃ workers, Notice crew.workers workers ∧
        crew.offer chosen task = ({ crew with queue := crew.queue ++ [task], workers }, .queued)) ∨
    crew.offer chosen task = (crew, .inline) := by
  rw [offer]
  split
  · next free => exact .inl ⟨free.1, free.2, _, notice_notifyOne chosen crew.workers, rfl⟩
  · exact .inr rfl

/-- Who stirs was parked, or nothing happens. -/
theorem stir_cases (crew : Crew α) (index : Nat) :
    (crew.workers[index]? = some .parked ∧ crew.stir index = crew.setWorker index .woken) ∨
      crew.stir index = crew := by
  rw [stir]
  split
  · next parked => exact .inl ⟨parked, rfl⟩
  · exact .inr rfl

/-! ## What a worker does -/

namespace Worker

/-- Whether a worker has said that it is idle. -/
def isIdle : Worker α → Bool
  | parked | woken => true
  | _ => false

/-- Whether a worker is idle and awake. -/
def isWoken : Worker α → Bool
  | woken => true
  | _ => false

/-- Whether a worker looks for a task in its next step. -/
def isSeeking : Worker α → Bool
  | starting => true
  | worker => worker.isIdle

/-- The task of a busy worker. -/
def task? : Worker α → Option α
  | busy task => some task
  | _ => none

/-- One for a worker that has yet to say that it is idle. -/
def arrival : Worker α → Nat
  | starting => 1
  | _ => 0

end Worker

/-- What a worker does under the lock. -/
inductive Turn (crew : Crew α) (index : Nat) : Crew α → Prop where
  | rest (unseeking : ∀ worker, crew.workers[index]? = some worker → worker.isSeeking = false) :
      Turn crew index crew
  | took {worker : Worker α} {task : α} {queue : List α}
      (here : crew.workers[index]? = some worker) (seeking : worker.isSeeking = true)
      (queued : crew.queue = task :: queue) :
      Turn crew index
        { crew with
          queue, idle := crew.idle + worker.arrival - 1
          workers := crew.workers.set index (.busy task) }
  | parked {worker : Worker α}
      (here : crew.workers[index]? = some worker) (seeking : worker.isSeeking = true)
      (unqueued : crew.queue = []) (running : crew.isRunning = true) :
      Turn crew index
        { crew with
          idle := crew.idle + worker.arrival
          workers := crew.workers.set index .parked }
  | exited {worker : Worker α}
      (here : crew.workers[index]? = some worker) (seeking : worker.isSeeking = true)
      (unqueued : crew.queue = []) (halted : crew.isRunning = false) :
      Turn crew index
        { crew with
          idle := crew.idle + worker.arrival - 1
          workers := crew.workers.set index .exited }

/-- A worker that looks for a task takes one, parks or exits. -/
theorem turn_look
    (here : crew.workers[index]? = some worker)
    (seeking : worker.isSeeking = true) :
    crew.Turn index ({ crew with idle := crew.idle + worker.arrival }.look index) := by
  rw [look]
  dsimp only
  split
  · next queued => exact .took here seeking queued
  · next unqueued =>
      split
      · next running => exact .parked here seeking unqueued running
      · next halted => exact .exited here seeking unqueued (Bool.eq_false_iff.2 halted)

/-- Every step of a worker is a turn. -/
theorem turn_step (crew : Crew α) (index : Nat) : crew.Turn index (crew.step index) := by
  unfold step
  cases here : crew.workers[index]? with
  | none => exact .rest (by simp [here])
  | some worker =>
      cases worker with
      | starting => exact turn_look here rfl
      | parked => exact turn_look here rfl
      | woken => exact turn_look here rfl
      | busy task => exact .rest (by simp [here, Worker.isSeeking, Worker.isIdle])
      | exited => exact .rest (by simp [here, Worker.isSeeking, Worker.isIdle])

theorem task?_eq (crew : Crew α) (index : Nat) :
    crew.task? index = crew.workers[index]?.bind Worker.task? := by
  unfold Crew.task?
  cases crew.workers[index]? with
  | none => rfl
  | some worker => cases worker <;> rfl

theorem task?_eq_some_iff :
    crew.task? index = some task ↔ crew.workers[index]? = some (.busy task) := by
  rw [task?_eq]
  cases crew.workers[index]? with
  | none => simp
  | some worker => cases worker <;> simp [Worker.task?]

/-- The end of a task is counted, and its worker starts anew. -/
theorem finish_of_task? (busy : crew.task? index = some task) (crashed : Bool) :
    crew.finish index crashed = (crew.countEnd crashed).setWorker index .starting := by
  rw [finish, busy]

theorem finish_of_not_busy (unbusy : crew.task? index = none) (crashed : Bool) :
    crew.finish index crashed = crew := by
  rw [finish, unbusy]

/-! ## Steps of a crew -/

/-- What is done to a crew at once. -/
inductive Step (crew : Crew α) : Crew α → Prop where
  | unchanged : Step crew crew
  | offered (chosen : Nat) (task : α) : Step crew (crew.offer chosen task).1
  | offerCounted (dispatch : Dispatch) : Step crew (crew.countOffer dispatch)
  | endCounted (crashed : Bool) : Step crew (crew.countEnd crashed)
  | turned {index : Nat} {next : Crew α} (turn : crew.Turn index next) : Step crew next
  | finished (index : Nat) (crashed : Bool) : Step crew (crew.finish index crashed)
  | stirred (index : Nat) : Step crew (crew.stir index)
  | halted : Step crew crew.halt
  | allWoken : Step crew crew.wakeAll

/-! ## Counting workers -/

/-- Changing an element changes the number of those of a kind by that element alone. -/
theorem countP_set_add
    {β : Type}
    {list : List β}
    {old : β}
    (here : list[index]? = some old)
    (new : β)
    (test : β → Bool) :
    (list.set index new).countP test + (test old).toNat =
      list.countP test + (test new).toNat := by
  obtain ⟨inside, rfl⟩ := List.getElem?_eq_some_iff.1 here
  have counted : (test list[index]).toNat ≤ list.countP test := by
    cases satisfied : test list[index] with
    | false => exact Nat.zero_le _
    | true => exact List.countP_pos_iff.2 ⟨_, List.getElem_mem inside, satisfied⟩
  rw [List.countP_set inside]
  revert counted
  generalize list.countP test = count
  cases test list[index] <;> cases test new <;> simp <;> omega

/-- The idle workers are counted, and enough of them are awake for the tasks that are
queued. -/
structure Manned (crew : Crew α) : Prop where
  idle : crew.idle = crew.workers.countP Worker.isIdle
  queued : crew.queue.length ≤ crew.workers.countP Worker.isWoken

/-- A new crew has no task that is left without a worker. -/
theorem manned_new (count : Nat) : (new count : Crew α).Manned where
  idle := by simp [new, List.countP_replicate, Worker.isIdle]
  queued := by simp [new]

theorem countP_isWoken_le (workers : List (Worker α)) :
    workers.countP Worker.isWoken ≤ workers.countP Worker.isIdle := by
  apply List.countP_mono_left
  intro worker _ woken
  cases worker <;> simp_all [Worker.isWoken, Worker.isIdle]

/-- Everybody who is idle is counted, so the number of idle workers can be lowered for it. -/
theorem Manned.idle_pos
    (manned : crew.Manned)
    (here : crew.workers[index]? = some worker)
    (isIdle : worker.isIdle = true) :
    0 < crew.idle := by
  rw [manned.idle]
  exact List.countP_pos_iff.2 ⟨worker, List.mem_of_getElem? here, isIdle⟩

/-- There are no more tasks queued than workers idle. -/
theorem Manned.queued_le_idle (manned : crew.Manned) : crew.queue.length ≤ crew.idle := by
  rw [manned.idle]
  exact Nat.le_trans manned.queued (countP_isWoken_le crew.workers)

/-- If nobody is parked, whoever is idle is awake. -/
theorem countP_isIdle_of_awake (awake : .parked ∉ workers) :
    workers.countP Worker.isIdle = workers.countP Worker.isWoken := by
  apply List.countP_congr
  intro worker member
  cases worker with
  | parked => exact absurd member awake
  | _ => simp [Worker.isIdle, Worker.isWoken]

/-- A task is queued only if a worker is there to take it. -/
theorem Manned.offer (manned : crew.Manned) (chosen : Nat) (task : α) :
    (crew.offer chosen task).1.Manned := by
  obtain ⟨-, free, workers, notice, offered⟩ | refused := crew.offer_cases chosen task
  · rw [offered]
    rw [manned.idle] at free
    cases notice with
    | nobody awake =>
        -- The notice is lost on nobody: all idle workers are awake, and one was to spare.
        refine ⟨manned.idle, ?_⟩
        rw [countP_isIdle_of_awake awake] at free
        simpa [Nat.succ_le_iff] using free
    | woken index parked =>
        have sameIdle := countP_set_add parked .woken Worker.isIdle
        have moreWoken := countP_set_add parked .woken Worker.isWoken
        have queued := manned.queued
        simp only [Worker.isIdle, Worker.isWoken, Bool.toNat_true, Bool.toNat_false,
          Nat.add_zero, Nat.add_right_cancel_iff] at sameIdle moreWoken
        constructor
        · exact manned.idle.trans sameIdle.symm
        · simp only [List.length_append, List.length_singleton]
          omega
  · rw [refused]
    exact manned

/-- A worker's turn leaves enough workers awake for the tasks that are queued. -/
theorem Manned.turn
    (manned : crew.Manned)
    {next : Crew α}
    (turn : crew.Turn index next) :
    next.Manned := by
  have idle := manned.idle
  have queuedWoken := manned.queued
  cases turn with
  | rest => exact manned
  | @took worker task queue here seeking queued =>
      have lessIdle := countP_set_add here (.busy task) Worker.isIdle
      have lessWoken := countP_set_add here (.busy task) Worker.isWoken
      rw [queued, List.length_cons] at queuedWoken
      constructor
      · dsimp only
        cases worker <;>
          simp [Worker.isSeeking, Worker.isIdle, Worker.arrival] at seeking lessIdle ⊢ <;> omega
      · dsimp only
        cases worker <;>
          simp [Worker.isSeeking, Worker.isIdle, Worker.isWoken] at seeking lessWoken ⊢ <;> omega
  | @parked worker here seeking unqueued running =>
      have sameIdle := countP_set_add here .parked Worker.isIdle
      constructor
      · dsimp only
        cases worker <;>
          simp [Worker.isSeeking, Worker.isIdle, Worker.arrival] at seeking sameIdle ⊢ <;> omega
      · simp [unqueued]
  | @exited worker here seeking unqueued halted =>
      have lessIdle := countP_set_add here .exited Worker.isIdle
      constructor
      · dsimp only
        cases worker <;>
          simp [Worker.isSeeking, Worker.isIdle, Worker.arrival] at seeking lessIdle ⊢ <;> omega
      · simp [unqueued]

/-- The end of a task leaves enough workers awake for those that are queued. -/
theorem Manned.finish (manned : crew.Manned) (index : Nat) (crashed : Bool) :
    (crew.finish index crashed).Manned := by
  cases busy : crew.task? index with
  | none =>
      rw [finish_of_not_busy busy]
      exact manned
  | some task =>
      rw [finish_of_task? busy]
      have here := task?_eq_some_iff.1 busy
      constructor
      · exact manned.idle.trans (countP_set_add here .starting Worker.isIdle).symm
      · exact Nat.le_trans manned.queued
          (Nat.le_of_eq (countP_set_add here .starting Worker.isWoken).symm)

theorem Manned.stir (manned : crew.Manned) (index : Nat) : (crew.stir index).Manned := by
  obtain ⟨parked, woken⟩ | same := crew.stir_cases index
  · have moreWoken := countP_set_add parked .woken Worker.isWoken
    simp only [Worker.isWoken, Bool.toNat_true, Bool.toNat_false, Nat.add_zero] at moreWoken
    rw [woken]
    constructor
    · exact manned.idle.trans
        (Nat.add_right_cancel (countP_set_add parked .woken Worker.isIdle)).symm
    · exact Nat.le_trans manned.queued (Nat.le.intro moreWoken.symm)
  · rw [same]
    exact manned

theorem parked_notMem_wakeAll (workers : List (Worker α)) :
    .parked ∉ workers.map Worker.wake := by
  rw [List.mem_map]
  rintro ⟨worker, -, parked⟩
  cases worker <;> cases parked

/-- Waking all leaves enough workers awake. -/
theorem Manned.wakeAll (manned : crew.Manned) : crew.wakeAll.Manned := by
  have sameIdle : (crew.workers.map Worker.wake).countP Worker.isIdle =
      crew.workers.countP Worker.isIdle := by
    rw [List.countP_map]
    apply List.countP_congr
    intro worker _
    cases worker <;> simp [Worker.wake, Worker.isIdle]
  have awake := parked_notMem_wakeAll crew.workers
  constructor
  · exact manned.idle.trans sameIdle.symm
  · change crew.queue.length ≤ (crew.workers.map Worker.wake).countP Worker.isWoken
    rw [← countP_isIdle_of_awake awake, sameIdle, ← manned.idle]
    exact manned.queued_le_idle

/-- Whatever is done to a crew leaves enough workers awake for the tasks that are queued. -/
theorem Manned.step
    (manned : crew.Manned)
    {next : Crew α}
    (step : crew.Step next) :
    next.Manned := by
  cases step with
  | unchanged => exact manned
  | offered chosen task => exact manned.offer chosen task
  | offerCounted dispatch => cases dispatch <;> exact ⟨manned.idle, manned.queued⟩
  | endCounted crashed => exact ⟨manned.idle, manned.queued⟩
  | turned turn => exact manned.turn turn
  | finished index crashed => exact manned.finish index crashed
  | stirred index => exact manned.stir index
  | halted => exact ⟨manned.idle, manned.queued⟩
  | allWoken => exact manned.wakeAll

/-- If a task is queued, some worker is awake that takes the oldest one in its next step. -/
theorem Manned.exists_taker
    (manned : crew.Manned)
    {queue : List α}
    (queued : crew.queue = task :: queue) :
    ∃ index, crew.workers[index]? = some .woken ∧ (crew.step index).task? index = some task := by
  have someWoken : 0 < crew.workers.countP Worker.isWoken := by
    have enough := manned.queued
    rw [queued] at enough
    exact Nat.lt_of_lt_of_le (Nat.succ_pos _) enough
  obtain ⟨worker, member, isWoken⟩ := List.countP_pos_iff.1 someWoken
  obtain ⟨index, here⟩ := List.mem_iff_getElem?.1 member
  cases worker with
  | woken =>
      obtain ⟨inside, -⟩ := List.getElem?_eq_some_iff.1 here
      refine ⟨index, here, ?_⟩
      rw [task?_eq_some_iff, Crew.step, here]
      simp [look, queued, setWorker, inside]
  | _ => cases isWoken

end Crew
end FragmentCache
