import FragmentCache.Page
import FragmentCache.Proofs.Block.Transcript
import FragmentCache.Proofs.Page.Slots
import FragmentCache.Proofs.Page.Tasks

/-!
# The course of a page

A page is put together by its caller and by the workers of a crew that other pages use as
well.  Its course lists what happens to its tasks; the tasks of other pages have numbers past
its own.  Whoever else is around may change what the calls share in any way, and may use the
crew in any way for tasks of its own.  Whatever comes next has one of a few effects.
-/

namespace FragmentCache

/-! ## Stages of a call -/

namespace Block.Call

/-- The stages that a call of a block gets to, whatever others do to what they share. -/
inductive Reaches (τ : Type) {σ : Type} [CacheTier τ] (block : Block σ) (request : Request) :
    Stage → Prop where
  | asking : Reaches τ block request .asking
  | step {stage next : Stage} {shared after : Shared τ σ} (before : Reaches τ block request stage)
      (stepped : step? block request stage shared = some (next, after)) :
      Reaches τ block request next

/-- Largest number of steps that a call still takes. -/
def Stage.stepsLeft : Stage → Nat
  | asking => 9
  | arriving => 8
  | waiting _ _ => 7
  | rechecking _ => 6
  | starting _ => 5
  | running _ _ => 4
  | releasing _ _ => 3
  | sweeping _ _ => 2
  | departing _ _ => 1
  | finished _ => 0

/-- Whether a call waits for a lock that it cannot get. -/
def Stage.isHeldUp {τ σ : Type} (shared : Shared τ σ) : Stage → Bool
  | waiting caller contended => (acquire? caller contended shared).isNone
  | _ => false

variable {τ σ : Type} [CacheTier τ] {block : Block σ} {request : Request} {stage next : Stage}
  {shared after : Shared τ σ}

/-- A step of a call leaves fewer steps. -/
theorem stepsLeft_step (stepped : step? block request stage shared = some (next, after)) :
    next.stepsLeft < stage.stepsLeft := by
  cases stage with
  | asking =>
      simp only [step?, ask, Option.some.injEq, Prod.mk.injEq] at stepped
      obtain ⟨rfl, -⟩ := stepped
      split <;> simp [Stage.stepsLeft]
  | arriving =>
      cases stepped
      simp [Stage.stepsLeft]
  | waiting caller contended =>
      simp only [step?, acquire?, Option.map_eq_some_iff, Prod.mk.injEq] at stepped
      obtain ⟨-, -, rfl, -⟩ := stepped
      split <;> simp [Stage.stepsLeft]
  | rechecking caller =>
      simp only [step?, recheck, Option.some.injEq, Prod.mk.injEq] at stepped
      obtain ⟨rfl, -⟩ := stepped
      split <;> simp [Stage.stepsLeft]
  | starting caller =>
      cases stepped
      simp [Stage.stepsLeft]
  | running caller run =>
      simp only [step?, Option.some.injEq] at stepped
      unfold conclude at stepped
      split at stepped <;> cases stepped <;> simp [Stage.stepsLeft]
  | releasing caller answer =>
      cases stepped
      simp [Stage.stepsLeft]
  | sweeping caller answer =>
      cases stepped
      simp [Stage.stepsLeft]
  | departing caller answer =>
      cases stepped
      simp [Stage.stepsLeft]
  | finished answer => cases stepped

/-- A call that is not finished goes on unless it is held up. -/
theorem exists_step
    (block : Block σ)
    (request : Request)
    (unfinished : stage.answer? = none)
    (free : stage.isHeldUp shared = false) :
    ∃ next after, step? block request stage shared = some (next, after) := by
  cases stage with
  | waiting caller contended =>
      rw [Stage.isHeldUp, Option.isNone_eq_false_iff, Option.isSome_iff_exists] at free
      obtain ⟨reached, acquired⟩ := free
      exact ⟨reached.1, reached.2, acquired⟩
  | finished answer => cases unfinished
  | _ => exact ⟨_, _, rfl⟩

/-- Every stage that a call gets to is reached in some transcript. -/
theorem exists_transcript_of_reaches
    (reaches : Reaches τ block request stage) :
    ∃ states : List (Shared τ σ), (transcript block request states).2 = stage := by
  induction reaches with
  | asking => exact ⟨[], rfl⟩
  | @step stage next shared after before stepped inductionHypothesis =>
      obtain ⟨states, rfl⟩ := inductionHypothesis
      obtain ⟨seen, observed, -⟩ := exists_observed stepped
      refine ⟨states ++ [shared], ?_⟩
      rw [transcript, List.foldl_append, List.foldl_cons, List.foldl_nil, ← transcript, follow,
        observed]

end Block.Call

/-! ## Others who use a crew -/

namespace Crew

/-- What others do to a crew with tasks of their own. -/
inductive Elsewhere where
  | offer (chosen other : Nat)
  | countOffer (dispatch : Dispatch)
  | finish (index : Nat) (crashed : Bool)
  | countEnd (crashed : Bool)
  | stir (index : Nat)
  | halt
  | wakeAll

/-- Do something for a task whose number is not below `count`. -/
def actElsewhere (crew : Crew TaskId) (count : Nat) : Elsewhere → Crew TaskId
  | .offer chosen other => (crew.offer chosen (count + other)).1
  | .countOffer dispatch => crew.countOffer dispatch
  | .finish index crashed =>
    if (crew.task? index).any (· < count) then crew else crew.finish index crashed
  | .countEnd crashed => crew.countEnd crashed
  | .stir index => crew.stir index
  | .halt => crew.halt
  | .wakeAll => crew.wakeAll

/-- A crew with the same tasks below `count` at the same places, and with enough workers awake
if there were. -/
structure Spares (ρ : Type) (count : Nat) (crew next : Crew TaskId) : Prop where
  tracks : ∀ task < count, ∀ progress : Progress ρ, crew.Tracks task progress →
    next.Tracks task progress
  manned : crew.Manned → next.Manned

/-- Whether a task is queued does not depend on who is woken for it. -/
theorem dispatch_offer (crew : Crew TaskId) (chosen other : Nat) (task : TaskId) :
    (crew.offer chosen task).2 = (crew.offer other task).2 := by
  rw [offer, offer]
  split <;> rfl

theorem Spares.refl {ρ : Type} (count : Nat) (crew : Crew TaskId) : Spares ρ count crew crew :=
  ⟨fun _ _ _ tracks => tracks, fun manned => manned⟩

theorem spares_countOffer
    {ρ : Type}
    (count : Nat)
    (crew : Crew TaskId)
    (dispatch : Dispatch) :
    Spares ρ count crew (crew.countOffer dispatch) :=
  ⟨fun _ _ _ tracks => tracks.countOffer dispatch,
    fun manned => manned.step (.offerCounted dispatch)⟩

/-- Doing something elsewhere is one step of the crew. -/
theorem step_actElsewhere (crew : Crew TaskId) (count : Nat) (act : Elsewhere) :
    crew.Step (crew.actElsewhere count act) := by
  cases act with
  | offer chosen other => exact .offered chosen (count + other)
  | countOffer dispatch => exact .offerCounted dispatch
  | finish index crashed =>
      rw [actElsewhere]
      split
      · exact .unchanged
      · exact .finished index crashed
  | countEnd crashed => exact .endCounted crashed
  | stir index => exact .stirred index
  | halt => exact .halted
  | wakeAll => exact .allWoken

/-- What others do with tasks of their own spares the tasks of a page. -/
theorem spares_actElsewhere {ρ : Type} (count : Nat) (crew : Crew TaskId) (act : Elsewhere) :
    Spares ρ count crew (crew.actElsewhere count act) := by
  refine ⟨fun task own progress tracks => ?_,
    fun manned => manned.step (crew.step_actElsewhere count act)⟩
  cases act with
  | offer chosen other =>
      have past : count + other ≠ task :=
        Ne.symm (Nat.ne_of_lt (Nat.lt_of_lt_of_le own (Nat.le_add_right count other)))
      exact tracks.offer_other past chosen
  | countOffer dispatch => exact tracks.countOffer dispatch
  | finish index crashed =>
      rw [actElsewhere]
      split
      · exact tracks
      · next foreign =>
          refine tracks.finish_other (fun busy => ?_) crashed
          rw [busy] at foreign
          exact foreign (decide_eq_true own)
  | countEnd crashed => exact tracks.countEnd crashed
  | stir index => exact tracks.stir index
  | halt => exact tracks.halt
  | wakeAll => exact tracks.wakeAll

end Crew

namespace Page

open Block (Answer)

/-- What happens to a task of a page. -/
abbrev Event := Crew.Event Answer

variable {τ σ : Type}

/-- A page with what happened to its tasks. -/
structure Course (τ σ : Type) where
  page : Page τ σ
  log : List Event := []
  /-- The log as it was when the wait ended. -/
  atEnd? : Option (List Event) := none

/-- What happens next. -/
inductive Move (τ σ : Type) where
  /-- The caller takes a step, and may give a notice to the chosen worker. -/
  | caller (chosen : Nat)
  /-- The caller's time is up. -/
  | expire
  /-- A worker takes a step. -/
  | worker (index : Nat)
  /-- Others change what all calls share. -/
  | share (shared : Block.Shared τ σ)
  /-- Others use the crew. -/
  | elsewhere (act : Crew.Elsewhere)

namespace Course

/-- Begin a page with a crew whose workers have not looked for tasks. -/
def start (blocks : List (Block σ)) (request : Request) (count : Nat)
    (shared : Block.Shared τ σ) : Course τ σ :=
  { page := Page.new blocks request (Crew.new count) shared }

/-- The course after something happened. -/
def after (course : Course τ σ) (page : Page τ σ) (events : List Event) : Course τ σ where
  page := page
  log := course.log ++ events
  atEnd? := if page.isAnswered && !course.page.isAnswered then some course.log else course.atEnd?

end Course

/-! ## Parts of a page -/

theorem isWaiting_of
    {page : Page τ σ}
    (free : page.onCaller = none)
    (none : page.blocks[page.handedOut]? = none)
    (unanswered : page.isAnswered = false) :
    page.isWaiting = true := by
  rw [isWaiting, free, unanswered]
  simpa using none

/-- A block that the crew queues is left to the workers. -/
theorem handOut_of_queued
    {page : Page τ σ}
    {block : Block σ}
    (threaded : block.isThreaded = true)
    (queued : (page.crew.offer page.crew.size page.handedOut).2 = .queued) :
    page.handOut block =
      { page with
        handedOut := page.handedOut + 1
        calls := page.calls.put page.handedOut .asking
        crew := (page.crew.offer page.crew.size page.handedOut).1.countOffer .queued } := by
  rw [handOut, if_pos threaded, Crew.invoke_eq, queued]

/-- A block that the crew refuses is run by the caller. -/
theorem handOut_of_inline
    {page : Page τ σ}
    {block : Block σ}
    (threaded : block.isThreaded = true)
    (inline : (page.crew.offer page.crew.size page.handedOut).2 = .inline) :
    page.handOut block =
      { page with
        handedOut := page.handedOut + 1
        calls := page.calls.put page.handedOut .asking
        crew := page.crew.countOffer .inline
        onCaller := some page.handedOut } := by
  rw [handOut, if_pos threaded, Crew.invoke_eq, inline, Crew.offer_of_inline inline]
  rfl

theorem deliver_eq (page : Page τ σ) (slot : Slot) (answer : Answer) :
    page.deliver slot answer = { page with slots := (page.deliver slot answer).slots } := by
  rw [deliver]
  split <;> rfl

/-- A block delivers the document for its answer into its own slot. -/
theorem slots_deliver
    {page : Page τ σ}
    {slot : Slot}
    {block : Block σ}
    (here : page.blocks[slot]? = some block)
    (answer : Answer) :
    (page.deliver slot answer).slots =
      (page.slots.deliver slot (documentOf block.name answer)).1 := by
  rw [deliver, here]

/-- The slots after a delivery are a step later, with the same labels. -/
theorem step_deliver (page : Page τ σ) (slot : Slot) (answer : Answer) :
    page.slots.Step (page.deliver slot answer).slots ∧
      (page.deliver slot answer).slots.labels = page.slots.labels ∧
      (page.deliver slot answer).slots.isStopped = page.slots.isStopped := by
  rw [deliver]
  split
  · exact ⟨page.slots.step_deliver _ _, page.slots.labels_deliver _ _⟩
  · exact ⟨.unchanged, rfl, rfl⟩

/-- A delivery leaves the other slots. -/
theorem documents_deliver_of_ne
    {slot other : Slot}
    (differ : slot ≠ other)
    (page : Page τ σ)
    (answer : Answer) :
    (page.deliver slot answer).slots.documents[other]? = page.slots.documents[other]? := by
  rw [deliver]
  split
  · exact Slots.documents_deliver_of_ne differ _
  · rfl

variable [CacheTier τ]

/-! ## Steps of a page -/

/-- The caller takes a step; when it offers a task to the crew, the chosen worker may be woken
for it. -/
def stepCallerWaking (page : Page τ σ) (chosen : Nat) : Page τ σ :=
  match page.onCaller, page.blocks[page.handedOut]? with
  | none, some block =>
    if block.isThreaded then
      let (crew, dispatch) := page.crew.offer chosen page.handedOut
      { page.handOut block with crew := crew.countOffer dispatch }
    else page.handOut block
  | _, _ => page.stepCaller

/-- What a step of the caller adds to the log. -/
def callerEvents (page : Page τ σ) (chosen : Nat) : List Event :=
  match page.onCaller with
  | some slot => (page.answer? slot).toList.map fun answer => .ended slot .caller answer
  | none =>
    match page.blocks[page.handedOut]? with
    | some block =>
      if block.isThreaded ∧ (page.crew.offer chosen page.handedOut).2 = .queued then
        [.queued page.handedOut]
      else [.begun page.handedOut .caller]
    | none => []

/-- What a step of a worker adds to the log. -/
def workerEvents (page : Page τ σ) (index : Nat) : List Event :=
  match page.crew.task? index with
  | some slot => (page.answer? slot).toList.map fun answer => .ended slot (.worker index) answer
  | none => page.crew.beginnings index

namespace Course

/-- Make a move. -/
def advance (course : Course τ σ) : Move τ σ → Course τ σ
  | .caller chosen =>
    course.after (course.page.stepCallerWaking chosen) (course.page.callerEvents chosen)
  | .expire => course.after course.page.expire []
  | .worker index => course.after (course.page.stepWorker index) (course.page.workerEvents index)
  | .share shared => course.after { course.page with shared } []
  | .elsewhere act =>
    course.after
      { course.page with crew := course.page.crew.actElsewhere course.page.blocks.length act } []

/-- Make moves one after the other. -/
def run (course : Course τ σ) (moves : List (Move τ σ)) : Course τ σ := moves.foldl advance course

end Course

/-- When the first worker that is parked is woken, it is the usual step. -/
theorem stepCallerWaking_size (page : Page τ σ) :
    page.stepCallerWaking page.crew.size = page.stepCaller := by
  rw [stepCallerWaking, stepCaller]
  cases page.onCaller with
  | some slot => rfl
  | none =>
      cases page.blocks[page.handedOut]? with
      | none => rfl
      | some block =>
          dsimp only
          split
          · next threaded =>
              cases invoked : page.crew.invoke page.handedOut with
              | mk crew dispatch =>
                  rw [handOut, if_pos threaded, invoked]
                  rw [Crew.invoke_eq, Prod.mk.injEq] at invoked
                  rw [invoked.1]
                  cases dispatch <;> rfl
          · rfl

/-! ## Effects -/

/-- How the next block is handed out, and what this adds to the log. -/
inductive HandsOut (page : Page τ σ) : Page τ σ → List Event → Prop where
  /-- It is left to the crew. -/
  | left {chosen : Nat} (queued : (page.crew.offer chosen page.handedOut).2 = .queued) :
      HandsOut page
        { page with
          handedOut := page.handedOut + 1
          calls := page.calls.put page.handedOut .asking
          crew := (page.crew.offer chosen page.handedOut).1.countOffer .queued }
        [.queued page.handedOut]
  /-- The caller begins it. -/
  | kept {crew : Crew Slot}
      (spares : Crew.Spares Answer page.blocks.length page.crew crew) :
      HandsOut page
        { page with
          handedOut := page.handedOut + 1
          calls := page.calls.put page.handedOut .asking
          crew, onCaller := some page.handedOut }
        [.begun page.handedOut .caller]

/-- What a move does to a page, and what it adds to the log. -/
inductive Effect (page : Page τ σ) : Page τ σ → List Event → Prop where
  /-- Others did something. -/
  | spared {shared : Block.Shared τ σ} {crew : Crew Slot}
      (spares : Crew.Spares Answer page.blocks.length page.crew crew) :
      Effect page { page with shared, crew } []
  /-- A call took a step. -/
  | called {slot : Slot} {block : Block σ} {stage next : Block.Call.Stage}
      {shared : Block.Shared τ σ} (here : page.blocks[slot]? = some block)
      (now : page.calls.find? slot = some stage)
      (stepped : Block.Call.step? block page.request stage page.shared = some (next, shared)) :
      Effect page { page with calls := page.calls.put slot next, shared } []
  /-- The caller handed out the next block. -/
  | handedOut {block : Block σ} {next : Page τ σ} {events : List Event}
      (free : page.onCaller = none) (here : page.blocks[page.handedOut]? = some block)
      (handed : HandsOut page next events) : Effect page next events
  /-- A worker looked for a task. -/
  | looked {index : Nat} :
      Effect page { page with crew := page.crew.step index } (page.crew.beginnings index)
  /-- The caller was done with its block. -/
  | returned {slot : Slot} {answer : Answer} (here : page.onCaller = some slot)
      (answered : page.answer? slot = some answer) :
      Effect page { page.deliver slot answer with onCaller := none } [.ended slot .caller answer]
  /-- A worker was done with its block. -/
  | ended {index : Nat} {slot : Slot} {answer : Answer} (busy : page.crew.task? index = some slot)
      (answered : page.answer? slot = some answer) :
      Effect page { page.deliver slot answer with crew := page.crew.finish index false }
        [.ended slot (.worker index) answer]
  /-- The wait ended. -/
  | closed (waiting : page.isWaiting = true) : Effect page page.close []

theorem Effect.refl (page : Page τ σ) : page.Effect page [] :=
  .spared (.refl page.blocks.length page.crew)

/-- A step of a call changes what is shared, and nothing else of a page. -/
theorem effect_stepCall (page : Page τ σ) (slot : Slot) : page.Effect (page.stepCall slot) [] := by
  rw [stepCall]
  split
  · next block stage here now =>
      split
      · next stepped => exact .called here now stepped
      · exact .refl page
  · exact .refl page

theorem effect_expire (page : Page τ σ) : page.Effect page.expire [] := by
  rw [expire]
  split
  · next waiting => exact .closed waiting
  · exact .refl page

/-- What a step of a worker does to a page. -/
theorem effect_stepWorker (page : Page τ σ) (index : Nat) :
    page.Effect (page.stepWorker index) (page.workerEvents index) := by
  rw [stepWorker, workerEvents]
  cases busy : page.crew.task? index with
  | none => exact .looked
  | some slot =>
      dsimp only
      cases answered : page.answer? slot with
      | some answer => exact .ended busy answered
      | none => exact effect_stepCall page slot

/-- A caller that is free hands out the next block. -/
theorem handsOut_stepCallerWaking
    {page : Page τ σ}
    {block : Block σ}
    (free : page.onCaller = none)
    (here : page.blocks[page.handedOut]? = some block)
    (chosen : Nat) :
    page.HandsOut (page.stepCallerWaking chosen) (page.callerEvents chosen) := by
  rw [stepCallerWaking, callerEvents, free, here]
  dsimp only
  cases threaded : block.isThreaded with
  | false =>
      rw [handOut, threaded]
      exact .kept (.refl _ _)
  | true =>
      have same := page.crew.dispatch_offer page.crew.size chosen page.handedOut
      cases dispatched : (page.crew.offer chosen page.handedOut).2 with
      | queued =>
          rw [handOut_of_queued threaded (same.trans dispatched)]
          exact .left dispatched
      | inline =>
          rw [handOut_of_inline threaded (same.trans dispatched), Crew.offer_of_inline dispatched]
          exact .kept (Crew.spares_countOffer _ _ .inline)

/-- What a step of the caller does to a page, whomever it wakes. -/
theorem effect_stepCallerWaking (page : Page τ σ) (chosen : Nat) :
    page.Effect (page.stepCallerWaking chosen) (page.callerEvents chosen) := by
  cases caller : page.onCaller with
  | some slot =>
      rw [stepCallerWaking, callerEvents, caller]
      dsimp only
      rw [stepCaller, caller]
      dsimp only
      cases answered : page.answer? slot with
      | some answer => exact .returned caller answered
      | none => exact effect_stepCall page slot
  | none =>
      cases here : page.blocks[page.handedOut]? with
      | some block => exact .handedOut caller here (handsOut_stepCallerWaking caller here chosen)
      | none =>
          rw [stepCallerWaking, callerEvents, caller, here]
          dsimp only
          rw [stepCaller, caller, here]
          dsimp only
          split
          · next isOver =>
              rw [Bool.and_eq_true, Bool.not_eq_true'] at isOver
              exact .closed (isWaiting_of caller here isOver.1)
          · exact .refl page

/-- No move changes the blocks of a page or its request. -/
theorem Effect.blocks_eq
    {page next : Page τ σ}
    {events : List Event}
    (effect : page.Effect next events) :
    next.blocks = page.blocks ∧ next.request = page.request := by
  cases effect with
  | handedOut free here handed => cases handed <;> exact ⟨rfl, rfl⟩
  | returned here answered =>
      rw [deliver_eq]
      exact ⟨rfl, rfl⟩
  | ended busy answered =>
      rw [deliver_eq]
      exact ⟨rfl, rfl⟩
  | _ => exact ⟨rfl, rfl⟩

/-- Every move has one of the effects. -/
theorem effect_advance (course : Course τ σ) (move : Move τ σ) :
    ∃ page events, course.page.Effect page events ∧
      course.advance move = course.after page events := by
  cases move with
  | caller chosen => exact ⟨_, _, effect_stepCallerWaking course.page chosen, rfl⟩
  | expire => exact ⟨_, _, effect_expire course.page, rfl⟩
  | worker index => exact ⟨_, _, effect_stepWorker course.page index, rfl⟩
  | share shared => exact ⟨_, _, .spared (.refl _ course.page.crew), rfl⟩
  | elsewhere act => exact ⟨_, _, .spared (Crew.spares_actElsewhere _ _ act), rfl⟩

end Page
end FragmentCache
