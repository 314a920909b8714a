import FragmentCache.Proofs.Page.Ending
import FragmentCache.Tier.Memory

/-!
# One document for each block

A page ends its wait with one document for every block, in their order.  It is what the call
of the block answered, unless the block was left to the crew and was not done by then.  Later
results change nothing.  The caller gets to its wait unless one of its calls is held up, and a
wait ends when the time is up, or when the crew is done with what was left to it.
-/

namespace FragmentCache
namespace Page

open Block (Answer)
open Block.Call (Reaches)

variable {τ σ : Type} [CacheTier τ] {page next : Page τ σ} {events : List Event} {slot : Slot}
  {block : Block σ} {progress : Progress}

/-! ## The end of the wait -/

/-- An answered page stays as it is. -/
theorem Effect.of_isAnswered
    (effect : page.Effect next events)
    (sound : page.Sound)
    (answered : page.isAnswered = true) :
    next.isAnswered = true ∧ next.slots = page.slots := by
  have stopped := sound.stopped.trans answered
  have refused : ∀ slot answer, (page.deliver slot answer).slots = page.slots := by
    intro slot answer
    rw [deliver]
    split
    · rw [Slots.deliver_of_isStopped stopped]
    · rfl
  cases effect with
  | handedOut free here handed => cases handed <;> exact ⟨answered, rfl⟩
  | @returned slot answer here ended =>
      rw [deliver_eq]
      exact ⟨answered, refused slot answer⟩
  | @ended index slot answer busy ended =>
      rw [deliver_eq]
      exact ⟨answered, refused slot answer⟩
  | closed waiting =>
      rw [(of_isWaiting waiting).1] at answered
      cases answered
  | _ => exact ⟨answered, rfl⟩

/-- A page is answered when its wait ends. -/
theorem Effect.closes
    (effect : page.Effect next events)
    (unanswered : page.isAnswered = false)
    (answered : next.isAnswered = true) :
    page.isWaiting = true ∧ next = page.close ∧ events = [] := by
  have still : ¬page.isAnswered = true := by
    rw [unanswered]
    nofun
  cases effect with
  | handedOut free here handed => cases handed <;> exact absurd answered still
  | returned here ended =>
      rw [deliver_eq] at answered
      exact absurd answered still
  | ended busy ended =>
      rw [deliver_eq] at answered
      exact absurd answered still
  | closed waiting => exact ⟨waiting, rfl, rfl⟩
  | _ => exact absurd answered still

namespace Course

variable {course : Course τ σ}

/-- Where a block was when the wait ended, and the document of the block. -/
structure Ends (course : Course τ σ) (slot : Slot) (block : Block σ) (last : Progress) : Prop where
  settled : IsSettled last
  events : ∃ atEnd, course.atEnd? = some atEnd ∧ Crew.Event.about atEnd slot = last.events slot
  reaches : ∀ runner answer, last = .ended runner answer →
    Reaches τ block course.page.request (.finished answer)
  document : course.page.slots.documents[slot]? =
    some (some ((documentAfter? block.name last).getD (.timedOut block.name)))

/-- Where a block is according to the page and the log, and how it ended. -/
structure At (course : Course τ σ) (slot : Slot) (block : Block σ) (progress : Progress) :
    Prop where
  standing : course.page.Standing slot block progress
  events : Crew.Event.about course.log slot = progress.events slot
  ends : course.page.isAnswered = true → ∃ last, course.Ends slot block last

/-- Closing the slots gives every block its document. -/
theorem At.close
    (now : course.At slot block progress)
    (sound : course.page.Sound)
    (here : course.page.blocks[slot]? = some block)
    (waiting : course.page.isWaiting = true) :
    (course.after course.page.close []).Ends slot block progress where
  settled := now.standing.isSettled here waiting
  events := by
    refine ⟨course.log, ?_, now.events⟩
    rw [after, (of_isWaiting waiting).1]
    rfl
  reaches := now.standing.reaches
  document := by
    have labelled : course.page.slots.labels[slot]? = some block.name := by
      rw [sound.labels, List.getElem?_map, here]
      rfl
    obtain ⟨kept, held, closed⟩ := sound.consistent.getElem?_close labelled
    rw [now.standing.document (of_isWaiting waiting).1] at held
    cases held
    exact closed

/-- Wherever a block was, it is somewhere after what a move does. -/
theorem At.after
    (now : course.At slot block progress)
    (sound : course.page.Sound)
    (here : course.page.blocks[slot]? = some block)
    (effect : course.page.Effect next events) :
    ∃ progress, (course.after next events).At slot block progress := by
  obtain ⟨further, standing, added⟩ := now.standing.effect sound here effect
  refine ⟨further, standing, ?_, fun answered => ?_⟩
  · rw [added, ← now.events]
    exact List.filter_append _ _
  · cases before : course.page.isAnswered with
    | true =>
        -- Its slots are stopped, so what a late worker delivers is not taken.
        obtain ⟨last, settled, ⟨atEnd, noted, events⟩, reaches, document⟩ := now.ends before
        refine ⟨last, settled, ⟨atEnd, ?_, events⟩, ?_, ?_⟩
        · rw [Course.after, before, Bool.not_true, Bool.and_false]
          exact noted
        · change ∀ runner answer, _ → Reaches τ block next.request _
          rw [effect.blocks_eq.2]
          exact reaches
        · change next.slots.documents[slot]? = _
          rw [(effect.of_isAnswered sound before).2]
          exact document
    | false =>
        obtain ⟨waiting, rfl, rfl⟩ := effect.closes before answered
        exact ⟨progress, now.close sound here waiting⟩

/-- What holds in the course of a page that began with some blocks and a request. -/
structure Orderly (course : Course τ σ) (blocks : List (Block σ)) (request : Request) :
    Prop where
  sameBlocks : course.page.blocks = blocks
  sameRequest : course.page.request = request
  sound : course.page.Sound
  ended : course.page.isAnswered = true →
    ∃ atEnd, course.atEnd? = some atEnd ∧ atEnd <+: course.log
  each : ∀ (slot : Slot) (block : Block σ), blocks[slot]? = some block →
    ∃ progress, course.At slot block progress

variable {blocks : List (Block σ)} {request : Request}

/-- A move keeps the course of a page in order. -/
theorem Orderly.advance (orderly : course.Orderly blocks request) (move : Move τ σ) :
    (course.advance move).Orderly blocks request := by
  obtain ⟨sameBlocks, sameRequest, sound, ended, each⟩ := orderly
  obtain ⟨next, events, effect, advanced⟩ := effect_advance course move
  rw [advanced]
  obtain ⟨nextBlocks, nextRequest⟩ := effect.blocks_eq
  refine ⟨nextBlocks.trans sameBlocks, nextRequest.trans sameRequest, sound.effect effect,
    fun answered => ?_, fun slot block here => ?_⟩
  · cases before : course.page.isAnswered with
    | true =>
        obtain ⟨atEnd, noted, earlier⟩ := ended before
        refine ⟨atEnd, ?_, earlier.trans (List.prefix_append _ _)⟩
        rw [after, before, Bool.not_true, Bool.and_false]
        exact noted
    | false =>
        refine ⟨course.log, ?_, List.prefix_append _ _⟩
        change next.isAnswered = true at answered
        rw [after, before, answered]
        rfl
  · obtain ⟨progress, now⟩ := each slot block here
    rw [← sameBlocks] at here
    exact now.after sound here effect

/-- A page begins in order. -/
theorem orderly_start
    (blocks : List (Block σ))
    (request : Request)
    (count : Nat)
    (shared : Block.Shared τ σ) :
    (start blocks request count shared).Orderly blocks request where
  sameBlocks := rfl
  sameRequest := rfl
  sound := by
    have made : ({} : Slots).expectLabels (blocks.map Block.name) =
        .ok (start blocks request count shared).page.slots := rfl
    exact ⟨Slots.consistent_empty.expected made, rfl, rfl, Nat.zero_le _, nofun, nofun,
      Crew.manned_new count⟩
  ended := nofun
  each slot block here := by
    refine ⟨.ahead, ⟨Crew.tracks_new count slot, ?_, ?_, fun begun => absurd rfl begun, nofun,
      fun _ => ?_⟩, rfl, nofun⟩
    · exact ⟨fun _ => Nat.zero_le slot, fun _ => rfl⟩
    · exact ⟨nofun, nofun⟩
    · have inside : slot < (blocks.map Block.name).length := by
        rw [List.length_map]
        exact (List.getElem?_eq_some_iff.1 here).1
      exact List.getElem?_replicate_of_lt inside

/-- The course of a page stays in order under any moves. -/
theorem Orderly.run (orderly : course.Orderly blocks request) (moves : List (Move τ σ)) :
    (course.run moves).Orderly blocks request := by
  induction moves generalizing course with
  | nil => exact orderly
  | cons move rest inductionHypothesis => exact inductionHypothesis (orderly.advance move)

/-! ## What an answered page shows -/

/-- The document that a page may show for a block, by what had happened to the block when the
wait ended. -/
inductive Shows (τ : Type) [CacheTier τ] (block : Block σ) (request : Request) (slot : Slot) :
    List Event → Document → Prop where
  /-- The caller ran the block. -/
  | ownCall {answer : Answer} (reaches : Reaches τ block request (.finished answer)) :
      Shows τ block request slot [.begun slot .caller, .ended slot .caller answer]
        (documentOf block.name answer)
  /-- A worker ran the block. -/
  | inTime {index : Nat} {answer : Answer} (reaches : Reaches τ block request (.finished answer)) :
      Shows τ block request slot
        [.queued slot, .begun slot (.worker index), .ended slot (.worker index) answer]
        (documentOf block.name answer)
  /-- No worker had begun the block. -/
  | unbegun : Shows τ block request slot [.queued slot] (.timedOut block.name)
  /-- A worker was not done with the block. -/
  | unended {index : Nat} :
      Shows τ block request slot [.queued slot, .begun slot (.worker index)] (.timedOut block.name)

/-- The document of a block in the page, and what had happened to the block. -/
theorem Ends.shows
    {last : Progress}
    (ends : course.Ends slot block last)
    (here : course.page.blocks[slot]? = some block) :
    ∃ atEnd document, course.atEnd? = some atEnd ∧
      course.page.documents[slot]? = some document ∧
      Shows τ block course.page.request slot (Crew.Event.about atEnd slot) document := by
  obtain ⟨settled, ⟨atEnd, noted, events⟩, reaches, filled⟩ := ends
  refine ⟨atEnd, (documentAfter? block.name last).getD (.timedOut block.name), noted, ?_, ?_⟩
  · rw [documents, List.getElem?_zipWith, filled, here]
    rfl
  · rw [events]
    obtain withCrew | ⟨answer, rfl⟩ := settled
    · rcases last with _ | _ | ⟨_ | worker⟩ | ⟨_ | worker, answer⟩
      · cases withCrew
      · exact .unbegun
      · cases withCrew
      · exact .unended
      · cases withCrew
      · exact .inTime (reaches _ _ rfl)
    · exact .ownCall (reaches _ _ rfl)

end Course

/-- Whether an event is the beginning of a task. -/
def begins (slot : Slot) : Event → Bool
  | .begun task _ => task == slot
  | _ => false

/-- A block that is anywhere in its course was begun once or not at all. -/
theorem countP_begins_le
    {log : List Event}
    (events : Crew.Event.about log slot = progress.events slot) :
    log.countP (begins slot) ≤ 1 := by
  have same : log.countP (begins slot) = (Crew.Event.about log slot).countP (begins slot) := by
    rw [Crew.Event.about, List.countP_filter]
    apply List.countP_congr
    intro event _
    cases event <;> simp [begins, Crew.Event.task]
  rw [same, events]
  rcases progress with _ | _ | ⟨_ | worker⟩ | ⟨_ | worker, answer⟩ <;>
    simp [Crew.Progress.events, Crew.Runner.handOver, begins]

namespace Course

variable {course : Course τ σ} {blocks : List (Block σ)} {request : Request}

/-- A page has one document for every block. -/
theorem Orderly.size_documents
    (orderly : course.Orderly blocks request) :
    course.page.documents.length = blocks.length := by
  rw [documents, List.length_zipWith, orderly.sound.size, orderly.sameBlocks, Nat.min_self]

/-- An answered page keeps its documents. -/
theorem Orderly.documents_run
    (orderly : course.Orderly blocks request)
    (answered : course.page.isAnswered = true)
    (later : List (Move τ σ)) :
    (course.run later).page.isAnswered = true ∧
      (course.run later).page.documents = course.page.documents := by
  induction later generalizing course with
  | nil => exact ⟨answered, rfl⟩
  | cons move rest inductionHypothesis =>
      have next := orderly.advance move
      obtain ⟨page, events, effect, advanced⟩ := effect_advance course move
      obtain ⟨stillAnswered, sameSlots⟩ := effect.of_isAnswered orderly.sound answered
      have same : (course.advance move).page.documents = course.page.documents := by
        rw [documents, documents, next.sameBlocks, orderly.sameBlocks, advanced]
        change page.slots.documents.zipWith _ _ = _
        rw [sameSlots]
      rw [← same]
      exact inductionHypothesis next (by rw [advanced]; exact stillAnswered)

/-- In an orderly course every block is somewhere. -/
theorem Orderly.standing
    (orderly : course.Orderly blocks request)
    (slot : Slot)
    (block : Block σ)
    (here : course.page.blocks[slot]? = some block) :
    ∃ progress, course.page.Standing slot block progress := by
  rw [orderly.sameBlocks] at here
  obtain ⟨progress, now⟩ := orderly.each slot block here
  exact ⟨progress, now.standing⟩

/-- What the caller has left to do, and the steps that it took, were left before. -/
theorem Orderly.callerLeft_run
    (orderly : course.Orderly blocks request)
    (moves : List (Move τ σ)) :
    (course.run moves).page.callerLeft + course.callerSteps moves ≤ course.page.callerLeft := by
  induction moves generalizing course with
  | nil => exact Nat.le_refl _
  | cons move rest inductionHypothesis =>
      have further := inductionHypothesis (orderly.advance move)
      have noMore : (course.advance move).page.callerLeft ≤ course.page.callerLeft := by
        obtain ⟨page, events, effect, advanced⟩ := effect_advance course move
        rw [advanced]
        exact effect.callerLeft_le
      cases move with
      | caller chosen =>
          rw [callerSteps]
          cases onTheWay : course.page.isOnTheWay with
          | true =>
              have less : (course.advance (.caller chosen)).page.callerLeft < course.page.callerLeft :=
                callerLeft_stepCallerWaking orderly.standing orderly.sound onTheWay chosen
              rw [Bool.toNat_true, Nat.add_left_comm]
              exact Nat.le_trans (Nat.add_le_add_left further 1) (Nat.one_add _ ▸ less)
          | false =>
              rw [Bool.toNat_false, Nat.zero_add]
              exact Nat.le_trans further noMore
      | _ => exact Nat.le_trans further noMore

/-- In whatever order the caller, the workers and others make their moves, and whenever the time
is up:

* the call of each block is begun once at most;
* an answered page has one document for each block, which is the one that it may show by what
  had happened to this block when the wait ended;
* nothing that comes later changes its documents;
* the caller takes at most eleven steps for each block until it waits, not counting those that
  try to get a lock in vain;
* a wait ends when the time is up and when all slots are filled, and as long as one is empty,
  a block of the page is with a worker, or is in the queue and some worker takes the oldest
  task in its next step. -/
theorem each_block_shown
    (blocks : List (Block σ))
    (request : Request)
    (count : Nat)
    (shared : Block.Shared τ σ)
    (moves : List (Move τ σ))
    {course : Course τ σ}
    (reached : (start blocks request count shared).run moves = course) :
    (∀ slot < blocks.length, course.log.countP (begins slot) ≤ 1) ∧
    (course.page.isAnswered = true →
      course.page.documents.length = blocks.length ∧
      ∃ atEnd, course.atEnd? = some atEnd ∧ atEnd <+: course.log ∧
        ∀ (slot : Slot) (block : Block σ), blocks[slot]? = some block →
          ∃ document, course.page.documents[slot]? = some document ∧
            Shows τ block request slot (Crew.Event.about atEnd slot) document) ∧
    (course.page.isAnswered = true → ∀ later,
      (course.run later).page.isAnswered = true ∧
      (course.run later).page.documents = course.page.documents) ∧
    (start blocks request count shared).callerSteps moves ≤ 11 * blocks.length ∧
    (course.page.isWaiting = true →
      (course.advance .expire).page.isAnswered = true ∧
      (course.page.slots.isOver = true → ∀ chosen,
        (course.advance (.caller chosen)).page.isAnswered = true) ∧
      (course.page.slots.isOver = false → ∃ slot < blocks.length,
        (∃ index, course.page.crew.task? index = some slot) ∨
        slot ∈ course.page.crew.queue ∧
          ∃ index : Nat, course.page.crew.workers[index]? = some .woken ∧
            (course.page.crew.step index).task? index = course.page.crew.queue.head?)) := by
  subst reached
  have bound := (orderly_start blocks request count shared).callerLeft_run moves
  have orderly := (orderly_start blocks request count shared).run moves
  generalize (start blocks request count shared).run moves = course at bound orderly
  refine ⟨?_, ?_, ?_, ?_, ?_⟩
  · intro slot inside
    obtain ⟨progress, now⟩ := orderly.each slot _ (List.getElem?_eq_getElem inside)
    exact countP_begins_le now.events
  · intro answered
    obtain ⟨atEnd, noted, earlier⟩ := orderly.ended answered
    refine ⟨orderly.size_documents, atEnd, noted, earlier, fun slot block here => ?_⟩
    obtain ⟨progress, now⟩ := orderly.each slot block here
    obtain ⟨last, ends⟩ := now.ends answered
    rw [← orderly.sameBlocks] at here
    obtain ⟨sameEnd, document, sameNoted, shown, shows⟩ := ends.shows here
    rw [noted] at sameNoted
    cases sameNoted
    rw [orderly.sameRequest] at shows
    exact ⟨document, shown, shows⟩
  · exact orderly.documents_run
  · exact Nat.le_trans (Nat.le_add_left _ _) bound
  · intro waiting
    refine ⟨isAnswered_expire waiting, isAnswered_stepCallerWaking waiting, fun unfinished => ?_⟩
    rw [← orderly.sameBlocks]
    exact exists_withCrew orderly.standing orderly.sound waiting unfinished

/-- A block that always has the same outcome. -/
def steadyBlock (name : String) (isThreaded : Bool) (outcome : Block.Outcome) : Block Unit where
  name := name
  isThreaded := isThreaded
  invocation _ := { method := name }
  execute _ _ := ((), { outcome })

def menu : Cached := ⟨{}, ⟨"<menu/>", by decide⟩⟩

/-- Two blocks of one name for the crew, and one that crashes. -/
def mixedBlocks : List (Block Unit) :=
  [steadyBlock "menu" true (.ok (.ok menu)), steadyBlock "menu" true (.ok (.ok menu)),
    steadyBlock "news" false (.error (.work "no news"))]

def mixedShared : Block.Shared MemoryTier Unit :=
  { chain := .ofTiers [], surroundings := {}, work := () }

/-- A worker runs the first block and the caller the last one, and then the time is up. -/
def mixedMoves : List (Move MemoryTier Unit) :=
  [.worker 0, .worker 1, .caller 1, .caller 0] ++ List.replicate 5 (.worker 1) ++
    List.replicate 5 (.caller 0) ++ [.expire]

/-- The other worker runs the block that is left. -/
def lateMoves : List (Move MemoryTier Unit) := List.replicate 5 (.worker 0)

/-- A page with two blocks of one name, one that crashes and one that is late. -/
theorem each_block_shown_mixed :
    ∃ course, (start mixedBlocks {} 2 mixedShared).run mixedMoves = course ∧
      course.page.documents =
        [menu.document, .timedOut "menu", .error "news" "block panicked"] ∧
      Crew.Event.about (course.run lateMoves).log 1 =
        [.queued 1, .begun 1 (.worker 0), .ended 1 (.worker 0) (.ok (.ok menu.document))] ∧
      (course.run lateMoves).page.documents = course.page.documents ∧
      (course.run lateMoves).log.countP (begins 1) ≤ 1 := by
  refine ⟨_, rfl, rfl, rfl, ?_, ?_⟩
  · obtain ⟨-, -, kept, -⟩ := each_block_shown mixedBlocks {} 2 mixedShared mixedMoves rfl
    exact (kept rfl lateMoves).2
  · obtain ⟨once, -⟩ := each_block_shown mixedBlocks {} 2 mixedShared (mixedMoves ++ lateMoves)
      List.foldl_append
    exact once 1 (by decide)

end Course

end Page
end FragmentCache
