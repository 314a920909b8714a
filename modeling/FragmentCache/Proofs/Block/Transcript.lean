import FragmentCache.Proofs.Block.Observed
import FragmentCache.Tier.Memory
import Mathlib.Control.Monad.Basic

/-!
# What a call does

Between the steps of a call others may change what is shared in any way, and the tiers may
answer anything.  All the same a call does its work once at most, it answers with the document
of the first hit or with what came of its work, and it stores nothing but the document that it
answers with.
-/

namespace FragmentCache
namespace Block
namespace Call

variable {τ σ : Type} [CacheTier τ]

/-! ## Transcripts -/

/-- Go on with a call that was observed so far, if it is not held up. -/
def follow (block : Block σ) (request : Request) (observed : List (Deed τ) × Stage)
    (shared : Shared τ σ) : List (Deed τ) × Stage :=
  match stepSeen? block request observed.2 shared with
  | some (seen, next, _) => (observed.1 ++ seen, next)
  | none => observed

/-- What is observed of a call and where it is, when it finds what is shared in one state
after the other. -/
def transcript (block : Block σ) (request : Request) (states : List (Shared τ σ)) :
    List (Deed τ) × Stage :=
  states.foldl (follow block request) ([], .asking)

/-- Loads in rounds that all miss, each over the tiers of one of the states. -/
inductive Misses (invocation : Invocation) (states : List (Shared τ σ)) :
    List (Deed τ) → Prop where
  | start : Misses invocation states []
  | round {earlier : List (Deed τ)} {shared : Shared τ σ}
      (before : Misses invocation states earlier) (found : shared ∈ states) :
      Misses invocation states (earlier ++ Deed.ofCalls
        (Chain.missesFrom invocation 0 (shared.chain.tiers.map Counted.tier)))

/-- Loads of which only the very last one does not miss. -/
inductive EndsByLoad (invocation : Invocation) (states : List (Shared τ σ)) :
    List (Deed τ) → Answer → Prop where
  | last {misses loads : List (Deed τ)} {shared : Shared τ σ} {answer : Answer}
      (missed : Misses invocation states misses) (found : shared ∈ states)
      (finds : Finds invocation (shared.chain.tiers.map Counted.tier) loads answer) :
      EndsByLoad invocation states (misses ++ loads) answer

/-- How a call ends. -/
inductive Ends (block : Block σ) (request : Request) (states : List (Shared τ σ)) :
    List (Deed τ) → Answer → Prop where
  | byLoad {done : List (Deed τ)} {answer : Answer}
      (byLoad : EndsByLoad (block.invocation request) states done answer) :
      Ends block request states done answer
  | unstored {misses : List (Deed τ)} {outcome : Outcome}
      (missed : Misses (block.invocation request) states misses) :
      Ends block request states (misses ++ [.executed request outcome]) outcome.answer
  | stored {misses saves : List (Deed τ)} {made : Cached} {shared : Shared τ σ}
      (missed : Misses (block.invocation request) states misses) (found : shared ∈ states)
      (stores : Stores block request made shared saves) :
      Ends block request states (misses ++ [.executed request (.ok (.ok made))] ++ saves)
        (.ok (.ok made.document))

variable {block : Block σ} {request : Request} {invocation : Invocation}
  {stage next : Stage} {shared after : Shared τ σ} {states : List (Shared τ σ)}
  {misses done seen : List (Deed τ)} {answer : Answer}

/-! ## Steps -/

/-- What was observed of a call that is in a stage. -/
def Told (block : Block σ) (request : Request) (states : List (Shared τ σ))
    (done : List (Deed τ)) : Stage → Prop
  | .asking => done = []
  | .arriving | .waiting _ _ | .rechecking _ | .starting _ =>
    Misses (block.invocation request) states done
  | .running _ run => ∃ misses, Misses (block.invocation request) states misses ∧
    done = misses ++ [.executed request run.outcome]
  | .releasing _ answer | .sweeping _ answer | .departing _ answer | .finished answer =>
    Ends block request states done answer

/-- What is told of a call up to a stage goes on with what the next step shows. -/
theorem Told.step
    (told : Told block request states done stage)
    (found : shared ∈ states)
    (shows : Shows block request shared stage seen next) :
    Told block request states (done ++ seen) next := by
  cases shows with
  | skipped past =>
      obtain rfl := told
      exact Misses.start
  | found uses finds =>
      obtain rfl := told
      exact .byLoad (.last .start found finds)
  | missed uses =>
      obtain rfl := told
      exact .round .start found
  | acquired caller contended =>
      rw [List.append_nil]
      cases contended <;> exact told
  | foundAgain caller finds => exact .byLoad (.last told found finds)
  | missedAgain caller => exact .round told found
  | started caller run => exact ⟨done, told, rfl⟩
  | ended run | endedUnstored caller run =>
      obtain ⟨misses, missed, rfl⟩ := told
      rw [List.append_nil]
      exact .unstored missed
  | endedStored caller outcome stores =>
      obtain ⟨misses, missed, rfl⟩ := told
      rw [outcome]
      exact .stored missed found stores
  | _ =>
      -- The other steps show nothing, and keep what holds of the stage before them.
      rw [List.append_nil]
      exact told

/-- Stages of a call that goes past the cache. -/
def Stage.isPast : Stage → Bool
  | starting none | running none _ | finished _ => true
  | _ => false

/-- A call that goes past the cache asks no tier, and stays past it. -/
theorem past_step
    (shows : Shows block request shared stage seen next)
    (past : stage.isPast = true) :
    next.isPast = true ∧ seen.filterMap Deed.call? = [] := by
  cases shows with
  | started caller run => cases caller with
      | none => exact ⟨rfl, rfl⟩
      | some caller => cases past
  | ended run => exact ⟨rfl, rfl⟩
  | _ => cases past

/-- Going on with a call keeps what its steps keep. -/
theorem follow_induction
    (keeps : List (Deed τ) → Stage → Prop)
    {observed : List (Deed τ) × Stage}
    (start : keeps observed.1 observed.2)
    (step : ∀ shared ∈ states, ∀ (done seen : List (Deed τ)) (stage next : Stage),
      keeps done stage → Shows block request shared stage seen next → keeps (done ++ seen) next) :
    keeps (states.foldl (follow block request) observed).1
      (states.foldl (follow block request) observed).2 := by
  induction states generalizing observed with
  | nil => exact start
  | cons shared rest inductionHypothesis =>
      refine inductionHypothesis ?_ fun later listed => step later (List.mem_cons_of_mem _ listed)
      rw [follow]
      cases stepped : stepSeen? block request observed.2 shared with
      | none => exact start
      | some reached =>
          exact step shared List.mem_cons_self _ _ _ _ start (shows_of_observed stepped)

/-- The transcript of a call tells what it did up to the stage that it is in. -/
theorem told_transcript (block : Block σ) (request : Request) (states : List (Shared τ σ)) :
    Told block request states (transcript block request states).1
      (transcript block request states).2 :=
  follow_induction (Told block request states) rfl
    fun _ found _ _ _ _ told shows => told.step found shows

/-- A block that does not use the cache is skipped, and so is every block without tiers. -/
theorem skipReason?_ne_none
    {τ : Type}
    {chain : Chain τ}
    (past : (∀ time, block.policy ≠ .cached true time) ∨ chain.tiers = []) :
    block.skipReason? chain ≠ none := by
  rw [skipReason?]
  split
  · exact Option.some_ne_none _
  · exact Option.some_ne_none _
  · next time enabled =>
      rw [past.resolve_left fun off => off time enabled]
      exact Option.some_ne_none _

/-- A call that finds caching switched off or no tiers asks none. -/
theorem unasked_transcript
    {first : Shared τ σ}
    (past : (∀ time, block.policy ≠ .cached true time) ∨ first.chain.tiers = [])
    (others : List (Shared τ σ)) :
    (transcript block request (first :: others)).1.filterMap Deed.call? = [] := by
  -- The first step is never held up, so that it is the one that looks for tiers.
  have begun : follow block request ([], .asking) first = ([], .starting none) := by
    rcases asked : ask block (block.invocation request) first with ⟨next, after⟩
    have stepped : step? block request .asking first = some (next, after) := congrArg some asked
    obtain ⟨seen, observed, shows⟩ := exists_observed stepped
    rw [follow, observed]
    cases shows with
    | skipped past => rfl
    | found uses finds => exact absurd uses (skipReason?_ne_none past)
    | missed uses => exact absurd uses (skipReason?_ne_none past)
  rw [transcript, List.foldl_cons, begun]
  refine (follow_induction
    (fun done stage => stage.isPast = true ∧ done.filterMap Deed.call? = []) ⟨rfl, rfl⟩ ?_).2
  rintro shared - done seen stage next ⟨past, unasked⟩ shows
  obtain ⟨stays, quiet⟩ := past_step shows past
  refine ⟨stays, ?_⟩
  rw [List.filterMap_append, unasked, quiet, List.nil_append]

/-! ## What a call keeps to -/

/-- Tiers that missed were asked by loads that found nothing. -/
theorem eq_miss_of_mem
    {place : Nat}
    {tiers : List τ}
    {deed : Deed τ}
    (member : deed ∈ Deed.ofCalls (Chain.missesFrom invocation place tiers)) :
    ∃ place tier key, deed = .asked place (.load tier key (.ok none)) := by
  simp only [Deed.ofCalls, Chain.missesFrom, List.map_map, List.mem_map] at member
  obtain ⟨⟨tier, place⟩, -, rfl⟩ := member
  exact ⟨place, tier, _, rfl⟩

/-- A document is stored by saves only. -/
theorem eq_save_of_mem
    {made : Cached}
    {saves : List (Deed τ)}
    {deed : Deed τ}
    (stores : Stores block request made shared saves)
    (member : deed ∈ saves) :
    ∃ place tier key cached, deed = .asked place (.save tier key cached) := by
  cases stores with
  | toAll worthy filled =>
      simp only [Deed.ofCalls, Chain.savesFrom, List.map_map, List.mem_map] at member
      obtain ⟨⟨tier, place⟩, -, rfl⟩ := member
      exact ⟨place, tier, _, _, rfl⟩

/-- Nothing but misses is seen in loads that all miss. -/
theorem filterMap_misses
    {α : Type}
    {see : Deed τ → Option α}
    (blind : ∀ place tier key, see (.asked place (.load tier key (.ok none))) = none)
    (tiers : List τ) :
    (Deed.ofCalls (Chain.missesFrom invocation 0 tiers)).filterMap see = [] := by
  refine List.filterMap_eq_nil_iff.2 fun deed member => ?_
  obtain ⟨place, tier, key, rfl⟩ := eq_miss_of_mem member
  exact blind place tier key

/-- Misses show nothing to somebody who is blind to them. -/
theorem Misses.filterMap
    {α : Type}
    {see : Deed τ → Option α}
    (missed : Misses invocation states misses)
    (blind : ∀ place tier key, see (.asked place (.load tier key (.ok none))) = none) :
    misses.filterMap see = [] := by
  induction missed with
  | start => rfl
  | round before found inductionHypothesis =>
      rw [List.filterMap_append, inductionHypothesis, filterMap_misses blind, List.append_nil]

theorem Misses.filterMap_append
    {α : Type}
    {see : Deed τ → Option α}
    (missed : Misses invocation states misses)
    (blind : ∀ place tier key, see (.asked place (.load tier key (.ok none))) = none)
    (rest : List (Deed τ)) :
    (misses ++ rest).filterMap see = rest.filterMap see := by
  rw [List.filterMap_append, missed.filterMap blind, List.nil_append]

theorem Finds.filterMap
    {α : Type}
    {tiers : List τ}
    {see : Deed τ → Option α}
    (finds : Finds invocation tiers done answer)
    (blind : ∀ place tier key reply, see (.asked place (.load tier key reply)) = none) :
    done.filterMap see = [] := by
  cases finds with
  | hit before after tier cached =>
      rw [List.filterMap_append, filterMap_misses fun place tier key => blind place tier key _]
      exact List.filterMap_cons_none (blind _ _ _ _)
  | crash before after tier crash =>
      rw [List.filterMap_append, filterMap_misses fun place tier key => blind place tier key _]
      exact List.filterMap_cons_none (blind _ _ _ _)

/-- No load ends a call with a fault. -/
theorem EndsByLoad.ne_fault
    (byLoad : EndsByLoad invocation states done answer)
    (fault : Fault) :
    answer ≠ .ok (.error fault) := by
  cases byLoad with
  | @last _ _ shared _ missed found finds =>
      generalize shared.chain.tiers.map Counted.tier = tiers at finds
      cases finds <;> exact nofun

theorem Stores.filterMap
    {α : Type}
    {made : Cached}
    {see : Deed τ → Option α}
    (stores : Stores block request made shared done)
    (blind : ∀ place tier key cached, see (.asked place (.save tier key cached)) = none) :
    done.filterMap see = [] := by
  refine List.filterMap_eq_nil_iff.2 fun deed member => ?_
  obtain ⟨place, tier, key, cached, rfl⟩ := eq_save_of_mem stores member
  exact blind place tier key cached

/-- Each tier is asked to save once. -/
theorem Stores.nodup
    {made : Cached}
    (stores : Stores block request made shared done) :
    (done.filterMap Deed.savedAt?).Nodup := by
  cases stores with
  | @toAll tag worthy filled =>
      let tiers := shared.chain.tiers.map Counted.tier
      have places : (Deed.ofCalls (Chain.savesFrom (block.invocation request)
          { made with tag } 0 tiers)).filterMap Deed.savedAt? = List.range' 0 tiers.length := by
        rw [Deed.ofCalls, Chain.savesFrom, List.map_map, List.filterMap_map,
          ← List.zipIdx_map_snd]
        exact congrFun List.filterMap_eq_map tiers.zipIdx
      rw [places]
      exact List.nodup_range'

/-- What a call keeps to, by what was observed of it up to its answer and by the states in
which it found what is shared. -/
structure KeepsToWork (block : Block σ) (request : Request) (states : List (Shared τ σ))
    (done : List (Deed τ)) (answer : Answer) : Prop where
  /-- The work is done at most once. -/
  once : (done.filterMap Deed.execution?).length ≤ 1
  /-- A fault is that of the work, and then nothing is saved. -/
  fault : ∀ fault, answer = .ok (.error fault) →
    done.filterMap Deed.execution? = [(request, .ok (.error fault))] ∧
      done.filterMap Deed.savedAt? = []
  /-- A crash is that of the work or of a load, and then nothing is saved. -/
  crash : ∀ crash, answer = .error crash →
    (done.filterMap Deed.execution? = [(request, .error crash)] ∨
      EndsByLoad (block.invocation request) states done (.error crash)) ∧
      done.filterMap Deed.savedAt? = []
  /-- A document is that of the first hit, without any work, or that of the work, without any
  hit. -/
  document : ∀ document, answer = .ok (.ok document) →
    EndsByLoad (block.invocation request) states done (.ok (.ok document)) ∧
      done.filterMap Deed.execution? = [] ∨
    ∃ made, done.filterMap Deed.execution? = [(request, .ok (.ok made))] ∧
      made.document = document ∧ done.filterMap Deed.hit? = []
  /-- Whatever is saved is saved after the work, and is the document that is answered. -/
  saves : done.filterMap Deed.savedAt? = [] ∨
    ∃ earlier made saves, ∃ shared ∈ states,
      done = earlier ++ [.executed request (.ok (.ok made))] ++ saves ∧
      earlier.filterMap Deed.savedAt? = [] ∧ answer = .ok (.ok made.document) ∧
      Stores block request made shared saves
  /-- No tier is asked to save twice. -/
  savesOnce : (done.filterMap Deed.savedAt?).Nodup
  /-- With caching switched off, or with no tiers when the call begins, no tier is asked. -/
  past : (∀ time, block.policy ≠ .cached true time) ∨
      (∃ first ∈ states.head?, first.chain.tiers = []) →
    done.filterMap Deed.call? = []

section Endings

variable
  (past : (∀ time, block.policy ≠ .cached true time) ∨
      (∃ first ∈ states.head?, first.chain.tiers = []) →
    done.filterMap Deed.call? = [])

include past

/-- A call that ends by a load did no work and stored nothing. -/
theorem KeepsToWork.of_byLoad
    (byLoad : EndsByLoad (block.invocation request) states done answer) :
    KeepsToWork block request states done answer := by
  have unseen : ∀ {α : Type} {see : Deed τ → Option α},
      (∀ place tier key reply, see (.asked place (.load tier key reply)) = none) →
      done.filterMap see = [] := by
    intro α see blind
    cases byLoad with
    | last missed found finds =>
        rw [missed.filterMap_append fun place tier key => blind place tier key _,
          finds.filterMap blind]
  have unworked : done.filterMap Deed.execution? = [] := unseen fun _ _ _ _ => rfl
  have unsaved : done.filterMap Deed.savedAt? = [] := unseen fun _ _ _ _ => rfl
  refine ⟨?_, ?_, ?_, ?_, .inl unsaved, ?_, past⟩
  · rw [unworked]
    exact Nat.zero_le 1
  · intro fault failed
    exact absurd failed (byLoad.ne_fault fault)
  · rintro crash rfl
    exact ⟨.inr byLoad, unsaved⟩
  · rintro document rfl
    exact .inl ⟨byLoad, unworked⟩
  · rw [unsaved]
    exact List.nodup_nil

/-- A call whose work made nothing to store has worked once and stored nothing. -/
theorem KeepsToWork.of_unstored
    {outcome : Outcome}
    (missed : Misses (block.invocation request) states misses)
    (all : done = misses ++ [.executed request outcome]) :
    KeepsToWork block request states done outcome.answer := by
  have worked : done.filterMap Deed.execution? = [(request, outcome)] :=
    all ▸ missed.filterMap_append (fun _ _ _ => rfl) _
  have unsaved : done.filterMap Deed.savedAt? = [] :=
    all ▸ missed.filterMap_append (fun _ _ _ => rfl) _
  have noHit : done.filterMap Deed.hit? = [] :=
    all ▸ missed.filterMap_append (fun _ _ _ => rfl) _
  refine ⟨?_, ?_, ?_, ?_, .inl unsaved, ?_, past⟩
  · rw [worked]
    exact Nat.le_refl 1
  · rcases outcome with crash | fault | made
    · exact nofun
    · rintro _ ⟨⟩
      exact ⟨worked, unsaved⟩
    · exact nofun
  · rcases outcome with crash | fault | made
    · rintro _ ⟨⟩
      exact ⟨.inl worked, unsaved⟩
    · exact nofun
    · exact nofun
  · rcases outcome with crash | fault | made
    · exact nofun
    · exact nofun
    · rintro _ ⟨⟩
      exact .inr ⟨made, worked, rfl, noHit⟩
  · rw [unsaved]
    exact List.nodup_nil

/-- A call that stores what its work made has worked once and saves once in every tier. -/
theorem KeepsToWork.of_stored
    {made : Cached}
    {saves : List (Deed τ)}
    (missed : Misses (block.invocation request) states misses)
    (found : shared ∈ states)
    (stores : Stores block request made shared saves)
    (all : done = misses ++ [.executed request (.ok (.ok made))] ++ saves) :
    KeepsToWork block request states done (.ok (.ok made.document)) := by
  have worked : done.filterMap Deed.execution? = [(request, .ok (.ok made))] := by
    rw [all, List.append_assoc, missed.filterMap_append fun _ _ _ => rfl, List.filterMap_append,
      stores.filterMap fun _ _ _ _ => rfl]
    rfl
  have noHit : done.filterMap Deed.hit? = [] := by
    rw [all, List.append_assoc, missed.filterMap_append fun _ _ _ => rfl, List.filterMap_append,
      stores.filterMap fun _ _ _ _ => rfl]
    rfl
  have saved : done.filterMap Deed.savedAt? = saves.filterMap Deed.savedAt? := by
    rw [all, List.append_assoc, missed.filterMap_append fun _ _ _ => rfl]
    rfl
  refine ⟨?_, nofun, nofun, ?_, ?_, ?_, past⟩
  · rw [worked]
    exact Nat.le_refl 1
  · rintro _ ⟨⟩
    exact .inr ⟨made, worked, rfl, noHit⟩
  · exact .inr ⟨misses, made, saves, shared, found, all, missed.filterMap fun _ _ _ => rfl, rfl,
      stores⟩
  · rw [saved]
    exact stores.nodup

end Endings

/-- Whatever the tiers answer and whatever others do to what is shared, a call that ended
keeps to its work. -/
theorem keepsToWork_of_transcript
    (ended : transcript block request states = (done, .finished answer)) :
    KeepsToWork block request states done answer := by
  have told := told_transcript block request states
  have past : (∀ time, block.policy ≠ .cached true time) ∨
        (∃ first ∈ states.head?, first.chain.tiers = []) →
      (transcript block request states).1.filterMap Deed.call? = [] := by
    intro past
    cases states with
    | nil => rfl
    | cons first others =>
        refine unasked_transcript (past.imp_right ?_) others
        rintro ⟨_, ⟨⟩, none⟩
        exact none
  rw [ended] at told past
  cases told with
  | byLoad byLoad => exact .of_byLoad past byLoad
  | unstored missed => exact .of_unstored past missed rfl
  | stored missed found stores => exact .of_stored past missed found stores rfl

/-! ## Calls with nobody else around -/

/-- What a call leaves after each of its next steps. -/
def leftBehind (block : Block σ) (request : Request) :
    Nat → Stage → Shared τ σ → List (Shared τ σ)
  | 0, _, _ => []
  | fuel + 1, stage, shared =>
    match step? block request stage shared with
    | some (next, after) => after :: leftBehind block request fuel next after
    | none => []

/-- A call that always finds what it left goes where it goes without being observed. -/
theorem snd_foldl_leftBehind
    (block : Block σ)
    (request : Request)
    (fuel : Nat)
    (observed : List (Deed τ) × Stage)
    (shared : Shared τ σ) :
    ((shared :: leftBehind block request fuel observed.2 shared).foldl
        (follow block request) observed).2 =
      (advance block request (fun _ => false) (fuel + 1) observed.2 shared).1 := by
  induction fuel generalizing observed shared with
  | zero =>
      rw [List.foldl_cons, leftBehind, List.foldl_nil, follow, advance]
      cases stepped : step? block request observed.2 shared with
      | none =>
          rw [stepSeen?_eq_none stepped]
          rfl
      | some reached =>
          obtain ⟨seen, told, -⟩ := exists_observed stepped
          rw [told]
          rfl
  | succ fuel inductionHypothesis =>
      rw [List.foldl_cons, leftBehind, follow, advance]
      cases stepped : step? block request observed.2 shared with
      | none =>
          rw [stepSeen?_eq_none stepped]
          rfl
      | some reached =>
          obtain ⟨seen, told, -⟩ := exists_observed stepped
          rw [told]
          exact inductionHypothesis (observed.1 ++ seen, reached.1) reached.2

theorem eq_finished_of_answer?
    {answer : Answer}
    (answered : stage.answer? = some answer) :
    stage = .finished answer := by
  cases stage with
  | finished answer =>
      cases answered
      rfl
  | _ => cases answered

/-- A call that answers with nobody else around is observed up to that answer. -/
theorem exists_transcript_of_call
    {answer : Answer}
    (answered : (call block request shared).2 = some answer) :
    ∃ done, transcript block request (shared :: leftBehind block request 8 .asking shared) =
      (done, .finished answer) :=
  ⟨_, Prod.ext rfl ((snd_foldl_leftBehind block request 8 ([], .asking) shared).trans
    (eq_finished_of_answer? answered))⟩

/-- A document that is worth storing. -/
def news : Document := ⟨"<headline/>", by decide⟩

/-- A block that makes that document. -/
def headline : Block Unit where
  name := "headline"
  policy := .cached true none
  invocation _ := { method := "headline" }
  execute _ _ := ((), { outcome := .ok (.ok ⟨{ lastModified := 1 }, news⟩) })

/-- One memory tier that nothing was stored in. -/
def blank : Shared MemoryTier Unit where
  chain := halfPastFive
  surroundings := {}
  work := ()

/-- What the first call of the block finds. -/
def firstCall : List (Shared MemoryTier Unit) := blank :: leftBehind headline {} 8 .asking blank

/-- The first call of a block works once and saves its document in the only tier. -/
theorem keepsToWork_of_transcript_first :
    ∃ done, transcript headline {} firstCall = (done, .finished (.ok (.ok news))) ∧
      done.filterMap Deed.savedAt? = [0] ∧
      KeepsToWork headline {} firstCall done (.ok (.ok news)) := by
  have answered : (call headline {} blank).2 = some (.ok (.ok news)) := by decide +kernel
  have saved : (transcript headline {} firstCall).1.filterMap Deed.savedAt? = [0] := by
    decide +kernel
  obtain ⟨done, ended⟩ : ∃ done, transcript headline {} firstCall = (done, .finished _) :=
    exists_transcript_of_call answered
  rw [ended] at saved
  exact ⟨done, ended, saved, keepsToWork_of_transcript ended⟩

end Call
end Block
end FragmentCache
