import FragmentCache.Proofs.Chain.Run
import Mathlib.Algebra.Ring.Nat

/-!
# Accounts of a chain

A load calls the tiers in order, each of them once, up to the first that finds a document;
those behind it are left as they were.  A save calls every tier once.  So what one tier
missed is what the next one was asked, and the counters of the tiers add up to those of the
chain at any moment between two operations, whatever the tiers do.
-/

namespace FragmentCache
namespace Chain

variable {τ : Type}

/-! ## Calls -/

/-- Call tiers one after the other, each of them once. -/
def callEach {α : Type} (call : τ → Surroundings → τ × Surroundings × α) :
    List τ → Surroundings → List τ × Surroundings × List α
  | [], surroundings => ([], surroundings, [])
  | tier :: rest, surroundings =>
    let (tier, surroundings, answer) := call tier surroundings
    let (rest, surroundings, answers) := callEach call rest surroundings
    (tier :: rest, surroundings, answer :: answers)

theorem callEach_cons
    {α : Type}
    {call : τ → Surroundings → τ × Surroundings × α}
    {tier changed : τ}
    {rest next : List τ}
    {surroundings between later : Surroundings}
    {answer : α}
    {answers : List α}
    (first : call tier surroundings = (changed, between, answer))
    (others : callEach call rest between = (next, later, answers)) :
    callEach call (tier :: rest) surroundings = (changed :: next, later, answer :: answers) := by
  simp only [callEach, first, others]

/-- The tiers without their counters. -/
def bare (tiers : List (Counted τ)) : List τ := tiers.map Counted.tier

section Calls

variable [CacheTier τ]

/-- Call a tier for the document of an invocation. -/
def lookUp (invocation : Invocation) (tier : τ) (surroundings : Surroundings) :
    τ × Surroundings × Except Crash (Option Cached) :=
  CacheTier.load tier (CacheTier.keyFor tier invocation) surroundings

/-- Call a tier to store the document of an invocation. -/
def store (invocation : Invocation) (cached : Cached) (tier : τ) (surroundings : Surroundings) :
    τ × Surroundings × Bool :=
  CacheTier.save tier (CacheTier.keyFor tier invocation) cached surroundings

variable {invocation : Invocation} {cached : Cached} {surroundings later : Surroundings}
  {tiers next : List (Counted τ)} {reply : Except Crash (Option Cached)}

/-- A load calls some first tiers, each once: all but the last of them miss, and the last one
gives the answer.  The tiers behind are left as they were, and there are none when the answer
is a miss. -/
structure AsksInOrder (invocation : Invocation) (tiers : List (Counted τ))
    (surroundings : Surroundings) (next : List (Counted τ)) (later : Surroundings)
    (reply : Except Crash (Option Cached)) (called changed behind : List (Counted τ)) : Prop where
  before : tiers = called ++ behind
  after : next = changed ++ behind
  calls : ∃ answers,
    callEach (lookUp invocation) (bare called) surroundings = (bare changed, later, answers) ∧
    answers.getLast?.getD (.ok none) = reply ∧
    ∀ earlier ∈ answers.dropLast, earlier = .ok none
  exhausted : reply = .ok none → behind = []

/-- A load asks the tiers in order, up to the first one that does not miss. -/
theorem LoadsFrom.asksInOrder
    (loads : LoadsFrom invocation tiers surroundings next later reply) :
    ∃ called changed behind,
      AsksInOrder invocation tiers surroundings next later reply called changed behind := by
  induction loads with
  | exhausted => exact ⟨[], [], [], rfl, rfl, ⟨[], rfl, rfl, nofun⟩, fun _ => rfl⟩
  | @stopped counted changed rest surroundings later reply asked stops =>
      have call : lookUp invocation counted.tier surroundings = (changed.tier, later, reply) :=
        Counted.load_tier asked
      refine ⟨[counted], [changed], rest, rfl, rfl,
        ⟨[reply], callEach_cons call rfl, rfl, nofun⟩, ?_⟩
      rintro rfl
      cases stops
  | @missed counted changed _ _ surroundings between _ _ asked _ inductionHypothesis =>
      have call : lookUp invocation counted.tier surroundings =
          (changed.tier, between, .ok none) :=
        Counted.load_tier asked
      obtain ⟨called, changedRest, behind, before, after, ⟨answers, calls, last, misses⟩,
        exhausted⟩ := inductionHypothesis
      refine ⟨counted :: called, changed :: changedRest, behind, by rw [before]; rfl,
        by rw [after]; rfl, ⟨.ok none :: answers, callEach_cons call calls, ?_, ?_⟩, exhausted⟩
      · rw [← last, List.getLast?_cons]
        rfl
      · intro earlier member
        cases answers with
        | nil => cases member
        | cons answer answers =>
            rw [List.dropLast_cons_cons] at member
            rcases List.mem_cons.1 member with rfl | member
            · rfl
            · exact misses earlier member

/-- A save calls every tier once. -/
theorem saveTo_eq_callEach
    {stored : Bool}
    (saved : saveTo invocation cached tiers surroundings = (next, later, stored)) :
    ∃ answers, callEach (store invocation cached) (bare tiers) surroundings =
      (bare next, later, answers) ∧ answers.any id = stored := by
  induction tiers generalizing surroundings next stored with
  | nil =>
      cases saved
      exact ⟨[], rfl, rfl⟩
  | cons counted rest inductionHypothesis =>
      rcases asked : counted.save (CacheTier.keyFor counted.tier invocation) cached
        surroundings with ⟨changed, between, first⟩
      have headCall : store invocation cached counted.tier surroundings =
          (changed.tier, between, first) := Counted.save_tier asked
      rcases restSaved : saveTo invocation cached rest between with ⟨restNext, restLater, others⟩
      rw [saveTo_of_save asked restSaved] at saved
      cases saved
      obtain ⟨answers, calls, some⟩ := inductionHypothesis restSaved
      refine ⟨first :: answers, callEach_cons headCall calls, ?_⟩
      rw [List.any_cons, some]
      rfl

end Calls

/-! ## Counters of the tiers -/

/-- A tier is asked what the one before it missed; the last one leaves the rest unanswered. -/
def Passes : Nat → List (Counted τ) → Nat → Prop
  | asked, [], unanswered => asked = unanswered
  | asked, counted :: rest, unanswered =>
    counted.hits + counted.misses = asked ∧ Passes counted.misses rest unanswered

section Counters

variable {asked unanswered : Nat} {tiers : List (Counted τ)} {counted other : Counted τ}

/-- Whatever is asked is found by some tier or left unanswered. -/
theorem Passes.sum
    (passes : Passes asked tiers unanswered) :
    asked = (tiers.map Counted.hits).sum + unanswered := by
  induction tiers generalizing asked with
  | nil => rw [passes, List.map_nil, List.sum_nil, Nat.zero_add]
  | cons counted rest inductionHypothesis =>
      obtain ⟨answered, passesRest⟩ := passes
      rw [← answered, inductionHypothesis passesRest, List.map_cons, List.sum_cons, Nat.add_assoc]

/-- The first tier is asked what the chain is asked. -/
theorem Passes.head
    (passes : Passes asked tiers unanswered)
    (first : tiers.head? = some counted) :
    counted.hits + counted.misses = asked := by
  cases tiers with
  | nil => cases first
  | cons head rest =>
      cases first
      exact passes.1

/-- A tier is asked exactly what the one before it missed. -/
theorem Passes.next
    (passes : Passes asked tiers unanswered)
    {place : Nat}
    (here : tiers[place]? = some counted)
    (behind : tiers[place + 1]? = some other) :
    other.hits + other.misses = counted.misses := by
  induction tiers generalizing asked place with
  | nil => cases here
  | cons head rest inductionHypothesis =>
      cases place with
      | zero =>
          cases here
          rw [List.getElem?_cons_succ, ← List.head?_eq_getElem?] at behind
          exact passes.2.head behind
      | succ place => exact inductionHypothesis passes.2 here behind

/-- What the last tier misses is left unanswered. -/
theorem Passes.last
    (passes : Passes asked tiers unanswered)
    (final : tiers.getLast? = some counted) :
    counted.misses = unanswered := by
  induction tiers generalizing asked with
  | nil => cases final
  | cons head rest inductionHypothesis =>
      cases rest with
      | nil =>
          cases final
          exact passes.2
      | cons second rest =>
          rw [List.getLast?_cons_cons] at final
          exact inductionHypothesis passes.2 final

end Counters

/-- The counters of the tiers fit those of the chain. -/
structure Balanced (size : Nat) (chain : Chain τ) : Prop where
  size : chain.tiers.length = size
  passes : Passes chain.requests chain.tiers chain.misses
  hits : (chain.tiers.map Counted.hits).sum = chain.hits
  saves : ∀ number ∈ chain.tiers.map Counted.saves, number = chain.saves + chain.saveFailures

/-- Counters that are all zero fit each other. -/
theorem balanced_ofTiers (tiers : List τ) : (ofTiers tiers).Balanced tiers.length where
  size := List.length_map _
  passes := by
    change Passes 0 (tiers.map Counted.new) 0
    induction tiers with
    | nil => rfl
    | cons tier rest inductionHypothesis => exact ⟨rfl, inductionHypothesis⟩
  hits := by
    change ((tiers.map Counted.new).map Counted.hits).sum = 0
    induction tiers with
    | nil => rfl
    | cons tier rest inductionHypothesis =>
        rw [List.map_cons, List.map_cons, List.sum_cons, inductionHypothesis]
        rfl
  saves := by
    intro number member
    obtain ⟨counted, listed, rfl⟩ := List.mem_map.1 member
    obtain ⟨tier, -, rfl⟩ := List.mem_map.1 listed
    rfl

section Steps

variable [CacheTier τ] {asked unanswered : Nat} {tiers next : List (Counted τ)}
  {counted changed : Counted τ} {key : Key} {invocation : Invocation} {cached : Cached}
  {surroundings later : Surroundings}

/-- A tier that answers counts the answer as a hit or a miss. -/
theorem counters_of_load
    {found : Option Cached}
    (loaded : counted.load key surroundings = (changed, later, .ok found)) :
    changed.hits = counted.hits + found.isSome.toNat ∧
      changed.misses = counted.misses + found.isNone.toNat := by
  rcases answered : CacheTier.load counted.tier key surroundings with ⟨tier, between, answer⟩
  rw [Counted.load, answered] at loaded
  cases loaded
  cases found with
  | none => exact ⟨rfl, rfl⟩
  | some hit => exact ⟨rfl, rfl⟩

theorem saves_of_load
    {reply : Except Crash (Option Cached)}
    (loaded : counted.load key surroundings = (changed, later, reply)) :
    changed.saves = counted.saves := by
  rcases answered : CacheTier.load counted.tier key surroundings with ⟨tier, between, answer⟩
  rw [Counted.load, answered] at loaded
  cases loaded
  rcases reply with crash | _ | hit <;> rfl

/-- A load that is answered is passed on by the tiers that miss, and counted as a hit by the
tier that does not. -/
theorem Passes.loadsFrom
    (passes : Passes asked tiers unanswered)
    {reply : Except Crash (Option Cached)}
    {found : Option Cached}
    (loads : LoadsFrom invocation tiers surroundings next later reply)
    (answered : reply = .ok found) :
    Passes (asked + 1) next (unanswered + found.isNone.toNat) ∧
      (next.map Counted.hits).sum = (tiers.map Counted.hits).sum + found.isSome.toNat := by
  induction loads generalizing asked with
  | exhausted =>
      cases answered
      exact ⟨congrArg (· + 1) passes, rfl⟩
  | @stopped counted changed rest _ _ _ called stops =>
      obtain ⟨balance, passesRest⟩ := passes
      obtain rfl := answered
      cases found with
      | none => cases stops
      | some hit =>
          obtain ⟨hits, misses⟩ := counters_of_load called
          change changed.hits = counted.hits + 1 at hits
          change changed.misses = counted.misses at misses
          refine ⟨⟨?_, ?_⟩, ?_⟩
          · rw [hits, misses, Nat.add_right_comm, balance]
          · rw [misses]
            exact passesRest
          · rw [List.map_cons, List.map_cons, List.sum_cons, List.sum_cons, hits,
              Nat.add_right_comm]
            rfl
  | @missed counted changed _ _ _ _ _ _ called _ inductionHypothesis =>
      obtain ⟨balance, passesRest⟩ := passes
      obtain ⟨hits, misses⟩ := counters_of_load called
      change changed.hits = counted.hits at hits
      change changed.misses = counted.misses + 1 at misses
      obtain ⟨passesNext, sum⟩ := inductionHypothesis passesRest answered
      refine ⟨⟨?_, ?_⟩, ?_⟩
      · rw [hits, misses, ← Nat.add_assoc, balance]
      · rw [misses]
        exact passesNext
      · rw [List.map_cons, List.map_cons, List.sum_cons, List.sum_cons, hits, sum, Nat.add_assoc]

/-- A load changes no tier's number of saves. -/
theorem LoadsFrom.saves
    {reply : Except Crash (Option Cached)}
    (loads : LoadsFrom invocation tiers surroundings next later reply) :
    next.map Counted.saves = tiers.map Counted.saves := by
  induction loads with
  | exhausted => rfl
  | stopped called => rw [List.map_cons, List.map_cons, saves_of_load called]
  | missed called _ inductionHypothesis =>
      rw [List.map_cons, List.map_cons, saves_of_load called, inductionHypothesis]

/-- A save counts as one at every tier, and changes no other counter but that of failures. -/
theorem Passes.saveTo
    (passes : Passes asked tiers unanswered)
    {stored : Bool}
    (saved : saveTo invocation cached tiers surroundings = (next, later, stored)) :
    Passes asked next unanswered ∧ next.map Counted.hits = tiers.map Counted.hits ∧
      next.map Counted.saves = tiers.map fun counted => counted.saves + 1 := by
  induction tiers generalizing asked surroundings next stored with
  | nil =>
      cases saved
      exact ⟨passes, rfl, rfl⟩
  | cons counted rest inductionHypothesis =>
      obtain ⟨answered, passesRest⟩ := passes
      rcases called : counted.save (CacheTier.keyFor counted.tier invocation) cached
        surroundings with ⟨changed, between, first⟩
      rcases restSaved : Chain.saveTo invocation cached rest between with ⟨restNext, _, _⟩
      rw [saveTo_of_save called restSaved] at saved
      cases saved
      cases called
      obtain ⟨passesNext, hits, saves⟩ := inductionHypothesis passesRest restSaved
      refine ⟨⟨answered, passesNext⟩, ?_, ?_⟩
      · rw [List.map_cons, List.map_cons, hits]
        rfl
      · rw [List.map_cons, List.map_cons, saves]
        rfl

end Steps

/-! ## Counters of the chain -/

section Runs

variable [CacheTier τ] {size : Nat} {chain next : Chain τ} {invocation : Invocation}
  {cached : Cached} {operation : Operation} {operations : List Operation}
  {surroundings later : Surroundings}

/-- A load that does not crash keeps the counters in balance. -/
theorem Balanced.load
    (balanced : chain.Balanced size)
    {found : Option Cached}
    (loaded : chain.load invocation surroundings = (next, later, .ok found)) :
    next.Balanced size := by
  rcases asked : Chain.loadFrom invocation chain.tiers surroundings with ⟨tiers, _, _⟩
  rw [Chain.load, asked] at loaded
  cases loaded
  have loads := loadsFrom_of_loadFrom asked
  obtain ⟨passes, hits⟩ := balanced.passes.loadsFrom loads rfl
  have saves := loads.saves
  have length : tiers.length = size := by
    rw [← List.length_map Counted.saves, saves, List.length_map, balanced.size]
  have counted : ∀ number ∈ tiers.map Counted.saves, number = chain.saves + chain.saveFailures := by
    rw [saves]
    exact balanced.saves
  cases found with
  | none => exact ⟨length, passes, hits.trans balanced.hits, counted⟩
  | some hit => exact ⟨length, passes, hits.trans (congrArg (· + 1) balanced.hits), counted⟩

/-- A save keeps the counters in balance, whether or not a tier stores the document. -/
theorem Balanced.save
    (balanced : chain.Balanced size)
    {stored : Bool}
    (saved : chain.save invocation cached surroundings = (next, later, stored)) :
    next.Balanced size := by
  rcases asked : Chain.saveTo invocation cached chain.tiers surroundings with ⟨tiers, _, _⟩
  rw [Chain.save, asked] at saved
  cases saved
  obtain ⟨passes, hits, saves⟩ := balanced.passes.saveTo asked
  have length : tiers.length = size := by
    rw [← List.length_map Counted.saves, saves, List.length_map, balanced.size]
  have total : ∀ number ∈ tiers.map Counted.saves,
      number = chain.saves + chain.saveFailures + 1 := by
    intro number member
    rw [saves] at member
    obtain ⟨counted, listed, rfl⟩ := List.mem_map.1 member
    rw [balanced.saves _ (List.mem_map_of_mem listed)]
  cases stored with
  | true =>
      refine ⟨length, passes, hits ▸ balanced.hits, fun number member => ?_⟩
      rw [total number member]
      exact Nat.add_right_comm _ _ _
  | false => exact ⟨length, passes, hits ▸ balanced.hits, total⟩

/-- The chain, the surroundings and the operation at the start of every operation of a run. -/
def starts (chain : Chain τ) (surroundings : Surroundings) :
    List Operation → List (Chain τ × Surroundings × Operation)
  | [] => []
  | operation :: rest =>
    let (next, later) := chain.after surroundings operation
    (chain, surroundings, operation) :: next.starts later rest

/-- Whether an operation is a load that crashes. -/
def crashes : Chain τ × Surroundings × Operation → Bool
  | (chain, surroundings, .load invocation) =>
    (chain.load invocation surroundings).2.2.toOption.isNone
  | (_, _, .save _ _) => false

/-- Whether an operation is a save that every tier rejects. -/
def isRejected : Chain τ × Surroundings × Operation → Bool
  | (_, _, .load _) => false
  | (chain, surroundings, .save invocation cached) =>
    (callEach (store invocation cached) (bare chain.tiers) surroundings).2.2.all (! ·)

/-- What an operation does to the counters, if it is no load that crashes. -/
theorem Balanced.after
    (balanced : chain.Balanced size)
    (answers : crashes (chain, surroundings, operation) = false)
    (reached : chain.after surroundings operation = (next, later)) :
    next.Balanced size := by
  cases operation with
  | load invocation =>
      rcases loaded : chain.load invocation surroundings with ⟨_, _, crash | found⟩
      · rw [crashes, loaded] at answers
        cases answers
      · rw [Chain.after, loaded] at reached
        cases reached
        exact balanced.load loaded
  | save invocation cached =>
      rcases saved : chain.save invocation cached surroundings with ⟨_, _, stored⟩
      rw [Chain.after, saved] at reached
      cases reached
      exact balanced.save saved

/-- A run without crashes keeps the counters in balance. -/
theorem Balanced.afterAll
    (balanced : chain.Balanced size)
    (answers : ∀ start ∈ chain.starts surroundings operations, crashes start = false)
    (reached : chain.afterAll surroundings operations = (next, later)) :
    next.Balanced size := by
  induction operations generalizing chain surroundings with
  | nil =>
      cases reached
      exact balanced
  | cons operation rest inductionHypothesis =>
      rcases done : chain.after surroundings operation with ⟨between, middle⟩
      rw [starts, done] at answers
      rw [Chain.afterAll, done] at reached
      obtain ⟨first, others⟩ := List.forall_mem_cons.1 answers
      exact inductionHypothesis (balanced.after first done) others reached

/-- A failed save is one that every tier rejects. -/
theorem saveFailures_after
    (reached : chain.after surroundings operation = (next, later)) :
    next.saveFailures =
      chain.saveFailures + (isRejected (chain, surroundings, operation)).toNat := by
  cases operation with
  | load invocation =>
      rcases loaded : Chain.loadFrom invocation chain.tiers surroundings with
        ⟨_, _, crash | _ | hit⟩
      all_goals
        rw [Chain.after, Chain.load, loaded] at reached
        cases reached
        rfl
  | save invocation cached =>
      rcases saved : Chain.saveTo invocation cached chain.tiers surroundings with ⟨_, _, stored⟩
      obtain ⟨answers, calls, some⟩ := saveTo_eq_callEach saved
      rw [Chain.after, Chain.save, saved] at reached
      cases reached
      have rejected : isRejected (chain, surroundings, .save invocation cached) = !stored := by
        rw [isRejected, calls, ← some]
        exact List.not_any_eq_all_not.symm
      rw [rejected]
      cases stored <;> rfl

/-- The failures of a chain are the saves of its run that every tier rejects. -/
theorem saveFailures_afterAll
    (reached : chain.afterAll surroundings operations = (next, later)) :
    next.saveFailures =
      chain.saveFailures + (chain.starts surroundings operations).countP isRejected := by
  induction operations generalizing chain surroundings with
  | nil =>
      cases reached
      rfl
  | cons operation rest inductionHypothesis =>
      rcases done : chain.after surroundings operation with ⟨between, middle⟩
      rw [Chain.afterAll, done] at reached
      rw [inductionHypothesis reached, saveFailures_after done, starts, done, List.countP_cons,
        Nat.add_assoc]
      congr 1
      cases isRejected (chain, surroundings, operation) with
      | true => exact Nat.add_comm _ _
      | false => exact Nat.zero_add _

/-- What the counters of a chain and of its tiers say about each other. -/
structure Accounted (chain : Chain τ) (size rejected : Nat) : Prop where
  size : chain.reports.length = size
  requests : chain.stats.requests = chain.stats.hits + chain.stats.misses
  first : ∀ report, chain.reports.head? = some report →
    report.hits + report.misses = chain.stats.requests
  /-- What a tier missed is what the one behind it was asked. -/
  passed : ∀ place report behind, chain.reports[place]? = some report →
    chain.reports[place + 1]? = some behind → behind.hits + behind.misses = report.misses
  hits : (chain.reports.map Counted.Report.hits).sum = chain.stats.hits
  last : ∀ report, chain.reports.getLast? = some report → report.misses = chain.stats.misses
  saves : ∀ report ∈ chain.reports, report.saves = chain.stats.saves + chain.stats.saveFailures
  rejected : chain.stats.saveFailures = rejected

/-- Balanced counters say about each other what they should. -/
theorem Balanced.accounted
    (balanced : chain.Balanced size)
    {rejected : Nat}
    (failures : chain.saveFailures = rejected) :
    chain.Accounted size rejected where
  size := (List.length_map _).trans balanced.size
  requests := by
    change chain.requests = chain.hits + chain.misses
    rw [← balanced.hits]
    exact balanced.passes.sum
  first := by
    intro report head
    rw [reports, List.head?_map] at head
    obtain ⟨counted, first, rfl⟩ := Option.map_eq_some_iff.1 head
    exact balanced.passes.head first
  passed := by
    intro place report behind here next
    rw [reports, List.getElem?_map] at here next
    obtain ⟨counted, atPlace, rfl⟩ := Option.map_eq_some_iff.1 here
    obtain ⟨other, afterPlace, rfl⟩ := Option.map_eq_some_iff.1 next
    exact balanced.passes.next atPlace afterPlace
  hits := by
    rw [reports, List.map_map]
    exact balanced.hits
  last := by
    intro report final
    rw [reports, List.getLast?_map] at final
    obtain ⟨counted, last, rfl⟩ := Option.map_eq_some_iff.1 final
    exact balanced.passes.last last
  saves := by
    intro report member
    obtain ⟨counted, listed, rfl⟩ := List.mem_map.1 member
    exact balanced.saves _ (List.mem_map_of_mem listed)
  rejected := failures

/-- A load of a chain calls its tiers in order up to the first that finds a document, a save
calls all of them and succeeds when one of them does, and the counters agree after any run
in which no load crashes. -/
theorem afterAll_accounted
    (tiers : List τ)
    (surroundings : Surroundings)
    (operations : List Operation)
    {chain : Chain τ}
    {later : Surroundings}
    (reached : (ofTiers tiers).afterAll surroundings operations = (chain, later)) :
    (∀ invocation next after reply,
      chain.load invocation later = (next, after, reply) →
      ∃ called changed behind,
        AsksInOrder invocation chain.tiers later next.tiers after reply called changed behind) ∧
    (∀ invocation cached next after stored,
      chain.save invocation cached later = (next, after, stored) →
      ∃ answers, callEach (store invocation cached) (bare chain.tiers) later =
        (bare next.tiers, after, answers) ∧ answers.any id = stored) ∧
    ((∀ start ∈ (ofTiers tiers).starts surroundings operations, crashes start = false) →
      chain.Accounted tiers.length
        (((ofTiers tiers).starts surroundings operations).countP isRejected)) := by
  refine ⟨?_, ?_, ?_⟩
  · intro invocation next after reply loaded
    rcases asked : loadFrom invocation chain.tiers later with ⟨nextTiers, _, _⟩
    rw [Chain.load, asked] at loaded
    cases loaded
    rw [tiers_countLoad]
    exact (loadsFrom_of_loadFrom asked).asksInOrder
  · intro invocation cached next after stored saved
    rcases asked : saveTo invocation cached chain.tiers later with ⟨nextTiers, _, _⟩
    rw [Chain.save, asked] at saved
    cases saved
    rw [tiers_countSave]
    exact saveTo_eq_callEach asked
  · intro answers
    have failures := saveFailures_afterAll reached
    rw [ofTiers, Nat.zero_add] at failures
    exact ((balanced_ofTiers tiers).afterAll answers reached).accounted failures

end Runs

/-- A tier with room for one document, which rejects any other. -/
structure SingleTier where
  kept : Option Cached := none
  deriving DecidableEq

instance : CacheTier SingleTier where
  name _ := "Single"
  minimalCacheTime _ := .zero
  keyFor _ := Key.raw
  load tier _ surroundings := (tier, surroundings, .ok tier.kept)
  save tier _ cached surroundings :=
    (⟨tier.kept.or (some cached)⟩, surroundings, tier.kept.isNone)

def singlePage : Invocation := { method := "page" }

def singleLeaf : Cached := ⟨{ modified := false, expireTime := 200 }, ⟨"<single/>", by decide⟩⟩

/-- A miss, a save, a hit at the first tier, and a save that both tiers reject. -/
def singleRun : List Operation :=
  [.load singlePage, .save singlePage singleLeaf, .load singlePage, .save singlePage singleLeaf]

/-- The chain of two such tiers after the run. -/
def singleReached : Chain SingleTier × Surroundings :=
  (ofTiers [{}, {}]).afterAll {} singleRun

/-- A chain of two tiers with room for one document each, after a run of every kind of
outcome. -/
theorem afterAll_accounted_single :
    (∃ called changed behind,
      AsksInOrder singlePage singleReached.1.tiers singleReached.2
        (singleReached.1.load singlePage singleReached.2).1.tiers singleReached.2
        (.ok (some singleLeaf)) called changed behind) ∧
    singleReached.1.Accounted 2 1 ∧
    (singleReached.1.hits, singleReached.1.misses, singleReached.1.saves) = (1, 1, 1) := by
  obtain ⟨loads, -, accounts⟩ :=
    afterAll_accounted [({} : SingleTier), {}] {} singleRun (Prod.eta singleReached).symm
  exact ⟨loads singlePage _ _ _ rfl, accounts (by decide), rfl⟩

end Chain
end FragmentCache
