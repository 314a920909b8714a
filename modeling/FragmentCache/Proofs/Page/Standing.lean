import FragmentCache.Proofs.Page.Course

/-!
# Where the blocks of a page stand

Every block of a page is ahead, in the queue of the crew, at work or done, and the caller, the
crew, the calls and the slots of the page agree about it.  Whatever happens takes a block one
event further or leaves it where it is, and the document of a block that is done in time is in
the slot of this block.
-/

namespace FragmentCache
namespace Page

open Block (Answer)
open Block.Call (Reaches)

/-- Where the task of a block is. -/
abbrev Progress := Crew.Progress Answer

/-- The document of a block that is done. -/
def documentAfter? (name : String) : Progress → Option Document
  | .ended _ answer => some (documentOf name answer)
  | _ => none

/-- Whether the caller is through with a block, which it has done or left to the crew. -/
def IsSettled (progress : Progress) : Prop :=
  progress.isWithCrew = true ∨ ∃ answer, progress = .ended .caller answer

variable {τ σ : Type}

/-- What holds of a page in its course. -/
structure Sound (page : Page τ σ) : Prop where
  consistent : page.slots.Consistent
  labels : page.slots.labels = page.blocks.map Block.name
  stopped : page.slots.isStopped = page.isAnswered
  handedOut : page.handedOut ≤ page.blocks.length
  onCaller : ∀ slot, page.onCaller = some slot → slot < page.blocks.length
  answered : page.isAnswered = true → page.onCaller = none ∧ page.handedOut = page.blocks.length
  manned : page.crew.Manned

variable {page next : Page τ σ} {events : List Event} {slot : Slot} {block : Block σ}
  {progress : Progress}

/-! ## The page -/

theorem lt_of_getElem? (here : page.blocks[slot]? = some block) : slot < page.blocks.length :=
  (List.getElem?_eq_some_iff.1 here).1

/-- A page that waits has nothing more to hand out, and the caller runs no block. -/
theorem of_isWaiting (waiting : page.isWaiting = true) :
    page.isAnswered = false ∧ page.onCaller = none ∧ page.blocks.length ≤ page.handedOut := by
  simp only [isWaiting, Bool.and_eq_true, Bool.not_eq_true', decide_eq_true_eq,
    Option.isNone_iff_eq_none] at waiting
  exact ⟨waiting.2, waiting.1.1, waiting.1.2⟩

namespace Sound

theorem size (sound : page.Sound) : page.slots.documents.length = page.blocks.length := by
  have labels := sound.consistent.labels
  rw [sound.labels, List.length_map] at labels
  exact labels.symm

/-- Whoever hands out a block has not answered. -/
theorem unanswered (sound : page.Sound) (here : page.blocks[page.handedOut]? = some block) :
    page.isAnswered = false := by
  cases answered : page.isAnswered with
  | false => rfl
  | true =>
      have inside := lt_of_getElem? here
      rw [(sound.answered answered).2] at inside
      exact absurd inside (Nat.lt_irrefl _)

theorem delivered (sound : page.Sound) (slot : Slot) (answer : Answer) :
    (page.deliver slot answer).Sound := by
  obtain ⟨step, labels, stopped⟩ := page.step_deliver slot answer
  rw [deliver_eq]
  exact ⟨sound.consistent.step step, labels.trans sound.labels, stopped.trans sound.stopped,
    sound.handedOut, sound.onCaller, sound.answered, sound.manned⟩

theorem closed (sound : page.Sound) (waiting : page.isWaiting = true) : page.close.Sound := by
  obtain ⟨-, free, handedOut⟩ := of_isWaiting waiting
  exact ⟨sound.consistent.closed, sound.labels, rfl, sound.handedOut, sound.onCaller,
    fun _ => ⟨free, Nat.le_antisymm sound.handedOut handedOut⟩, sound.manned⟩

/-- Every effect of a move keeps a page sound. -/
theorem effect [CacheTier τ] (sound : page.Sound) (effect : page.Effect next events) :
    next.Sound := by
  have ⟨consistent, labels, stopped, handedOut, onCaller, answered, manned⟩ := sound
  cases effect with
  | spared spares =>
      exact ⟨consistent, labels, stopped, handedOut, onCaller, answered, spares.manned manned⟩
  | called here now stepped =>
      exact ⟨consistent, labels, stopped, handedOut, onCaller, answered, manned⟩
  | handedOut free here handed =>
      have unanswered : ¬page.isAnswered = true := by
        rw [sound.unanswered here]
        nofun
      have inside := lt_of_getElem? here
      cases handed with
      | @left chosen queued =>
          have offered := manned.offer chosen page.handedOut
          exact ⟨consistent, labels, stopped, inside, onCaller,
            fun ended => absurd ended unanswered, offered.step (.offerCounted .queued)⟩
      | kept spares =>
          refine ⟨consistent, labels, stopped, inside, ?_, fun ended => absurd ended unanswered,
            spares.manned manned⟩
          rintro _ ⟨⟩
          exact inside
  | looked =>
      exact ⟨consistent, labels, stopped, handedOut, onCaller, answered,
        manned.turn (page.crew.turn_step _)⟩
  | @returned slot answer here ended =>
      have delivered := sound.delivered slot answer
      exact ⟨delivered.consistent, delivered.labels, delivered.stopped, delivered.handedOut, nofun,
        fun ended => ⟨rfl, (delivered.answered ended).2⟩, delivered.manned⟩
  | @ended index slot answer busy ended =>
      have delivered := sound.delivered slot answer
      exact ⟨delivered.consistent, delivered.labels, delivered.stopped, delivered.handedOut,
        delivered.onCaller, delivered.answered, manned.finish index false⟩
  | closed waiting => exact sound.closed waiting

end Sound

/-! ## Its blocks -/

section

variable [CacheTier τ]

/-- Where a block is according to the parts of a page. -/
structure Standing (page : Page τ σ) (slot : Slot) (block : Block σ) (progress : Progress) :
    Prop where
  tracks : page.crew.Tracks slot progress
  ahead : progress = .ahead ↔ page.handedOut ≤ slot
  onCaller : page.onCaller = some slot ↔ progress = .begun .caller
  call : progress ≠ .ahead →
    ∃ stage, page.calls.find? slot = some stage ∧ Reaches τ block page.request stage
  reaches : ∀ runner answer, progress = .ended runner answer →
    Reaches τ block page.request (.finished answer)
  document : page.isAnswered = false →
    page.slots.documents[slot]? = some (documentAfter? block.name progress)

/-- When the wait ends, the caller is through with all blocks. -/
theorem Standing.isSettled
    (standing : page.Standing slot block progress)
    (here : page.blocks[slot]? = some block)
    (waiting : page.isWaiting = true) :
    IsSettled progress := by
  obtain ⟨-, free, handedOut⟩ := of_isWaiting waiting
  rcases progress with _ | _ | ⟨_ | worker⟩ | ⟨_ | worker, answer⟩
  · have outside := standing.ahead.1 rfl
    exact absurd (Nat.lt_of_lt_of_le (lt_of_getElem? here) handedOut) (Nat.not_lt.2 outside)
  · exact .inl rfl
  · rw [standing.onCaller.2 rfl] at free
    cases free
  · exact .inl rfl
  · exact .inr ⟨answer, rfl⟩
  · exact .inl rfl

/-- A call that is finished has reached its answer. -/
theorem Standing.of_answer?
    (standing : page.Standing slot block progress)
    {answer : Answer}
    (begun : progress ≠ .ahead)
    (answered : page.answer? slot = some answer) :
    Reaches τ block page.request (.finished answer) := by
  obtain ⟨stage, now, reaches⟩ := standing.call begun
  rw [answer?, now, Option.bind_some] at answered
  cases stage with
  | finished given =>
      cases answered
      exact reaches
  | _ => cases answered

/-- A step of another block's call leaves a block where it stands. -/
theorem Standing.called
    (standing : page.Standing slot block progress)
    (inside : page.blocks[slot]? = some block)
    {other : Slot}
    {caller : Block σ}
    {stage after : Block.Call.Stage}
    {shared : Block.Shared τ σ}
    (here : page.blocks[other]? = some caller)
    (now : page.calls.find? other = some stage)
    (stepped : Block.Call.step? caller page.request stage page.shared = some (after, shared)) :
    Standing { page with calls := page.calls.put other after, shared } slot block progress := by
  refine ⟨standing.tracks, standing.ahead, standing.onCaller, ?_, standing.reaches,
    standing.document⟩
  intro begun
  obtain ⟨before, found, reaches⟩ := standing.call begun
  rw [Table.find?_put]
  split
  · next same =>
      subst same
      rw [inside] at here
      cases here
      rw [found] at now
      cases now
      exact ⟨after, rfl, reaches.step stepped⟩
  · exact ⟨before, found, reaches⟩

/-- The block that is handed out leaves the ones ahead. -/
theorem Standing.handedOut
    (standing : page.Standing page.handedOut block progress)
    {crew : Crew Slot}
    {onCaller : Option Slot}
    {after : Progress}
    (tracks : crew.Tracks page.handedOut after)
    (caller : onCaller = some page.handedOut ↔ after = .begun .caller)
    (unstarted : after ≠ .ahead)
    (unended : ∀ runner answer, after ≠ .ended runner answer) :
    Standing
      { page with
        handedOut := page.handedOut + 1
        calls := page.calls.put page.handedOut .asking
        crew, onCaller }
      page.handedOut block after where
  tracks := tracks
  ahead := by simp [unstarted]
  onCaller := caller
  call _ := ⟨.asking, by simp [Table.find?_put], .asking⟩
  reaches runner answer ended := absurd ended (unended runner answer)
  document unanswered := by
    have ahead := standing.ahead.2 (Nat.le_refl _)
    subst ahead
    rw [standing.document unanswered]
    cases after with
    | ended runner answer => exact absurd rfl (unended runner answer)
    | _ => rfl

/-- A block that is not the one handed out stays where it is. -/
theorem Standing.handedOut_of_ne
    (standing : page.Standing slot block progress)
    (differ : page.handedOut ≠ slot)
    {crew : Crew Slot}
    {onCaller : Option Slot}
    (tracks : crew.Tracks slot progress)
    (caller : onCaller = some slot ↔ progress = .begun .caller) :
    Standing
      { page with
        handedOut := page.handedOut + 1
        calls := page.calls.put page.handedOut .asking
        crew, onCaller }
      slot block progress where
  tracks := tracks
  ahead := by
    rw [standing.ahead]
    change _ ↔ page.handedOut + 1 ≤ slot
    omega
  onCaller := caller
  call := by
    rw [Table.find?_put, if_neg (Ne.symm differ)]
    exact standing.call
  reaches := standing.reaches
  document := standing.document

/-- A block that is done is in its slot, if it is done in time. -/
theorem Standing.delivered
    (standing : page.Standing slot block progress)
    (sound : page.Sound)
    (here : page.blocks[slot]? = some block)
    {runner : Crew.Runner}
    (begun : progress = .begun runner)
    {answer : Answer}
    (answered : page.answer? slot = some answer)
    {crew : Crew Slot}
    {onCaller : Option Slot}
    (tracks : crew.Tracks slot (.ended runner answer : Progress))
    (caller : onCaller ≠ some slot) :
    Standing { page with slots := (page.deliver slot answer).slots, crew, onCaller } slot block
      (.ended runner answer) := by
  subst begun
  refine ⟨tracks, ?_, ?_, fun _ => standing.call nofun, ?_, fun unanswered => ?_⟩
  · rw [← standing.ahead]
    exact ⟨nofun, nofun⟩
  · exact ⟨fun same => absurd same caller, nofun⟩
  · rintro _ _ ⟨⟩
    exact standing.of_answer? nofun answered
  · rw [slots_deliver here]
    exact Slots.documents_deliver (sound.stopped.trans unanswered) (standing.document unanswered) _

/-- A block that is not the one that is done stays where it is. -/
theorem Standing.delivered_of_ne
    (standing : page.Standing slot block progress)
    {other : Slot}
    (differ : other ≠ slot)
    (answer : Answer)
    {crew : Crew Slot}
    {onCaller : Option Slot}
    (tracks : crew.Tracks slot progress)
    (caller : onCaller = some slot ↔ progress = .begun .caller) :
    Standing { page with slots := (page.deliver other answer).slots, crew, onCaller } slot block
      progress := by
  refine ⟨tracks, standing.ahead, caller, standing.call, standing.reaches, fun unanswered => ?_⟩
  rw [documents_deliver_of_ne differ]
  exact standing.document unanswered

/-! ## What takes a block further -/

/-- A block has gone as far as some more events take it. -/
def GoesOn (page : Page τ σ) (slot : Slot) (block : Block σ) (before : Progress)
    (events : List Event) : Prop :=
  ∃ after, page.Standing slot block after ∧
    after.events slot = before.events slot ++ Crew.Event.about events slot

theorem goesOn_nil (standing : page.Standing slot block progress) :
    page.GoesOn slot block progress [] :=
  ⟨progress, standing, (List.append_nil _).symm⟩

/-- An event of another task leaves a block where it is. -/
theorem goesOn_of_ne
    (standing : page.Standing slot block progress)
    (event : Event)
    (differ : event.task ≠ slot) :
    page.GoesOn slot block progress [event] := by
  refine ⟨progress, standing, ?_⟩
  rw [Crew.Event.about_singleton_of_ne event differ, List.append_nil]

/-- An event of its own takes a block further. -/
theorem goesOn_of_event
    {after : Progress}
    (standing : page.Standing slot block after)
    (event : Event)
    (same : event.task = slot)
    (further : after.events slot = progress.events slot ++ [event]) :
    page.GoesOn slot block progress [event] := by
  subst same
  refine ⟨after, standing, ?_⟩
  rw [Crew.Event.about_singleton, further]

namespace Standing

/-- When the crew queues the next block, every block goes as far as its events say. -/
theorem left
    (standing : page.Standing slot block progress)
    {chosen : Nat}
    (free : page.onCaller = none)
    (queued : (page.crew.offer chosen page.handedOut).2 = .queued) :
    GoesOn
      { page with
        handedOut := page.handedOut + 1
        calls := page.calls.put page.handedOut .asking
        crew := (page.crew.offer chosen page.handedOut).1.countOffer .queued }
      slot block progress [.queued page.handedOut] := by
  by_cases same : page.handedOut = slot
  · subst same
    have ahead := standing.ahead.2 (Nat.le_refl _)
    subst ahead
    have tracks := (standing.tracks.offer queued).countOffer .queued
    exact goesOn_of_event (standing.handedOut tracks (by simp [free]) nofun nofun) _ rfl rfl
  · have tracks := (standing.tracks.offer_other same chosen).countOffer .queued
    exact goesOn_of_ne (standing.handedOut_of_ne same tracks standing.onCaller) _ same

/-- When the caller keeps the next block, every block goes as far as its events say. -/
theorem kept
    (standing : page.Standing slot block progress)
    (here : page.blocks[slot]? = some block)
    {crew : Crew Slot}
    (free : page.onCaller = none)
    (spares : Crew.Spares Answer page.blocks.length page.crew crew) :
    GoesOn
      { page with
        handedOut := page.handedOut + 1
        calls := page.calls.put page.handedOut .asking
        crew, onCaller := some page.handedOut }
      slot block progress [.begun page.handedOut .caller] := by
  have tracks := spares.tracks slot (lt_of_getElem? here) progress standing.tracks
  by_cases same : page.handedOut = slot
  · subst same
    have ahead := standing.ahead.2 (Nat.le_refl _)
    subst ahead
    exact goesOn_of_event (standing.handedOut tracks.begin (by simp) nofun nofun) _ rfl rfl
  · have caller : some page.handedOut = some slot ↔ progress = .begun .caller := by
      rw [← standing.onCaller, free]
      simp [same]
    exact goesOn_of_ne (standing.handedOut_of_ne same tracks caller) _ same

/-- When a worker looks for a task, every block goes as far as its events say. -/
theorem looked (standing : page.Standing slot block progress) (index : Nat) :
    GoesOn { page with crew := page.crew.step index } slot block progress
      (page.crew.beginnings index) := by
  by_cases taken : page.crew.taken? index = some slot
  · have queued := standing.tracks.isQueued_of_taken taken
    rw [Crew.beginnings_of_taken taken]
    cases progress with
    | queued =>
        have begun : Standing { page with crew := page.crew.step index } slot block
            (.begun (.worker index)) := by
          refine ⟨standing.tracks.step_taken taken, ?_, ?_, fun _ => standing.call nofun, nofun,
            standing.document⟩
          · rw [← standing.ahead]
            exact ⟨nofun, nofun⟩
          · rw [standing.onCaller]
            exact ⟨nofun, nofun⟩
        exact goesOn_of_event begun _ rfl rfl
    | _ => cases queued
  · refine ⟨progress, ⟨standing.tracks.step_other taken, standing.ahead, standing.onCaller,
      standing.call, standing.reaches, standing.document⟩, ?_⟩
    rw [← List.nil_append (page.crew.beginnings index), Crew.about_append_beginnings taken]
    exact (List.append_nil _).symm

/-- When the caller ends a block, every block goes as far as its events say. -/
theorem returned
    (standing : page.Standing slot block progress)
    (sound : page.Sound)
    (here : page.blocks[slot]? = some block)
    {other : Slot}
    {answer : Answer}
    (running : page.onCaller = some other)
    (answered : page.answer? other = some answer) :
    GoesOn { page.deliver other answer with onCaller := none } slot block progress
      [.ended other .caller answer] := by
  rw [deliver_eq]
  by_cases same : other = slot
  · subst same
    have begun := standing.onCaller.1 running
    subst begun
    have tracks := standing.tracks.finishCall answer
    have caller : none ≠ some other := nofun
    exact goesOn_of_event (standing.delivered sound here rfl answered tracks caller) _ rfl rfl
  · have caller : none = some slot ↔ progress = .begun .caller := by
      rw [← standing.onCaller, running]
      simp [same]
    exact goesOn_of_ne (standing.delivered_of_ne same answer standing.tracks caller) _ same

/-- When a worker ends a block, every block goes as far as its events say. -/
theorem ended
    (standing : page.Standing slot block progress)
    (sound : page.Sound)
    (here : page.blocks[slot]? = some block)
    {index : Nat}
    {other : Slot}
    {answer : Answer}
    (busy : page.crew.task? index = some other)
    (answered : page.answer? other = some answer) :
    GoesOn { page.deliver other answer with crew := page.crew.finish index false } slot block
      progress [.ended other (.worker index) answer] := by
  rw [deliver_eq]
  by_cases same : other = slot
  · subst same
    have begun := (standing.tracks.busy index).1 busy
    subst begun
    have caller : page.onCaller ≠ some other := by
      rw [Ne, standing.onCaller]
      nofun
    have tracks := standing.tracks.finish busy false answer
    exact goesOn_of_event (standing.delivered sound here rfl answered tracks caller) _ rfl rfl
  · have unbusy : page.crew.task? index ≠ some slot := by
      rw [busy]
      simpa using same
    have tracks := standing.tracks.finish_other unbusy false
    exact goesOn_of_ne (standing.delivered_of_ne same answer tracks standing.onCaller) _ same

/-- Whatever happens takes a block one event further, or leaves it where it is. -/
theorem effect
    (standing : page.Standing slot block progress)
    (sound : page.Sound)
    (here : page.blocks[slot]? = some block)
    (effect : page.Effect next events) :
    next.GoesOn slot block progress events := by
  cases effect with
  | spared spares =>
      exact goesOn_nil ⟨spares.tracks slot (lt_of_getElem? here) progress standing.tracks,
        standing.ahead, standing.onCaller, standing.call, standing.reaches, standing.document⟩
  | called there now stepped => exact goesOn_nil (standing.called here there now stepped)
  | handedOut free there handed =>
      cases handed with
      | left queued => exact standing.left free queued
      | kept spares => exact standing.kept here free spares
  | @looked index => exact standing.looked index
  | returned running answered => exact standing.returned sound here running answered
  | ended busy answered => exact standing.ended sound here busy answered
  | closed waiting =>
      exact goesOn_nil ⟨standing.tracks, standing.ahead, standing.onCaller, standing.call,
        standing.reaches, nofun⟩

end Standing

end

end Page
end FragmentCache
