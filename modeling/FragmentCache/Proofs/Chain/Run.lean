import FragmentCache.Chain

/-!
# Runs of a chain

Loads and saves of a chain one after the other, what they saved last under a key text, and
the tier that answers a load.  Counting an answer changes nothing but counters.
-/

namespace FragmentCache

/-! ## Counted tiers -/

namespace Counted

theorem tier_countLoad
    {τ : Type}
    (counted : Counted τ)
    (answer : Except Crash (Option Cached)) :
    (counted.countLoad answer).tier = counted.tier := by
  unfold countLoad
  split <;> rfl

variable {τ : Type} [CacheTier τ] {counted changed : Counted τ} {key : Key}
  {surroundings later : Surroundings}

theorem load_tier
    {answer : Except Crash (Option Cached)}
    (asked : counted.load key surroundings = (changed, later, answer)) :
    CacheTier.load counted.tier key surroundings = (changed.tier, later, answer) := by
  rw [load] at asked
  cases asked
  rw [tier_countLoad]
  rfl

theorem save_tier
    {cached : Cached}
    {stored : Bool}
    (asked : counted.save key cached surroundings = (changed, later, stored)) :
    CacheTier.save counted.tier key cached surroundings = (changed.tier, later, stored) := by
  rw [save] at asked
  cases asked
  rfl

end Counted

namespace Chain

/-! ## Counters -/

theorem tiers_countLoad
    {τ : Type}
    (chain : Chain τ)
    (answer : Except Crash (Option Cached)) :
    (chain.countLoad answer).tiers = chain.tiers := by
  unfold countLoad
  split <;> rfl

theorem tiers_countSave
    {τ : Type}
    (chain : Chain τ)
    (stored : Bool) :
    (chain.countSave stored).tiers = chain.tiers := by
  unfold countSave
  split <;> rfl

theorem flights_countLoad
    {τ : Type}
    (chain : Chain τ)
    (answer : Except Crash (Option Cached)) :
    (chain.countLoad answer).flights = chain.flights := by
  unfold countLoad
  split <;> rfl

/-! ## Operations -/

/-- What is asked of a chain. -/
inductive Operation where
  | load (invocation : Invocation)
  | save (invocation : Invocation) (cached : Cached)
  deriving DecidableEq

/-- Key text of an operation. -/
def Operation.keyText : Operation → String
  | load invocation | save invocation _ => invocation.keyText

/-- What an operation saves under a key text. -/
def Operation.saved? (text : String) : Operation → Option Cached
  | load _ => none
  | save invocation cached => if invocation.keyText = text then some cached else none

/-- What was saved last under a key text. -/
def lastSaved (operations : List Operation) (text : String) : Option Cached :=
  (operations.filterMap (Operation.saved? text)).getLast?

/-- What later operations save counts before what the first one saves. -/
theorem lastSaved_cons (operation : Operation) (rest : List Operation) (text : String) :
    lastSaved (operation :: rest) text = (lastSaved rest text).or (operation.saved? text) := by
  unfold lastSaved
  cases saved : operation.saved? text with
  | none => rw [List.filterMap_cons_none saved, Option.or_none]
  | some cached => rw [List.filterMap_cons_some saved, List.getLast?_cons, Option.or_some]

section Runs

variable {τ : Type} [CacheTier τ]

/-- The chain and the surroundings after an operation. -/
def after (chain : Chain τ) (surroundings : Surroundings) : Operation → Chain τ × Surroundings
  | .load invocation =>
    ((chain.load invocation surroundings).1, (chain.load invocation surroundings).2.1)
  | .save invocation cached =>
    ((chain.save invocation cached surroundings).1, (chain.save invocation cached surroundings).2.1)

/-- The chain and the surroundings after operations one after the other. -/
def afterAll (chain : Chain τ) (surroundings : Surroundings) :
    List Operation → Chain τ × Surroundings
  | [] => (chain, surroundings)
  | operation :: rest =>
    let (chain, surroundings) := chain.after surroundings operation
    chain.afterAll surroundings rest

/-! ## Answers -/

/-- Whether the next tier is asked after an answer. -/
def asksNext : Except Crash (Option Cached) → Bool
  | .ok none => true
  | _ => false

/-- The next tier is asked only after a miss. -/
theorem eq_miss_of_asksNext
    {reply : Except Crash (Option Cached)}
    (asks : asksNext reply = true) :
    reply = .ok none := by
  rcases reply with crash | _ | found
  · cases asks
  · rfl
  · cases asks

/-- The reading of the clock at which a load is answered: that of the tier after which no
other one is asked. -/
def answeredAt (invocation : Invocation) : List (Counted τ) → Surroundings → Option Timestamp
  | [], _ => none
  | counted :: rest, surroundings =>
    let asked := counted.load (CacheTier.keyFor counted.tier invocation) surroundings
    if asksNext asked.2.2 then answeredAt invocation rest asked.2.1
    else some surroundings.readClock.1

variable {counted changed : Counted τ} {rest : List (Counted τ)} {invocation : Invocation}
  {surroundings between : Surroundings} {reply : Except Crash (Option Cached)}

/-- An answer that is no miss ends the load. -/
theorem loadFrom_of_stop
    (asked : counted.load (CacheTier.keyFor counted.tier invocation) surroundings =
      (changed, between, reply))
    (stops : asksNext reply = false) :
    loadFrom invocation (counted :: rest) surroundings = (changed :: rest, between, reply) := by
  rw [loadFrom, asked]
  rcases reply with crash | found
  · rfl
  · cases found with
    | none => cases stops
    | some cached => rfl

/-- After a miss the rest of the tiers is asked. -/
theorem loadFrom_of_miss
    (asked : counted.load (CacheTier.keyFor counted.tier invocation) surroundings =
      (changed, between, .ok none)) :
    loadFrom invocation (counted :: rest) surroundings =
      (changed :: (loadFrom invocation rest between).1, (loadFrom invocation rest between).2) := by
  rw [loadFrom, asked]

/-- A load asks tier after tier up to one that does not miss. -/
inductive LoadsFrom (invocation : Invocation) : List (Counted τ) → Surroundings →
    List (Counted τ) → Surroundings → Except Crash (Option Cached) → Prop where
  | exhausted {surroundings : Surroundings} :
      LoadsFrom invocation [] surroundings [] surroundings (.ok none)
  | stopped {counted changed : Counted τ} {rest : List (Counted τ)}
      {surroundings later : Surroundings} {reply : Except Crash (Option Cached)}
      (asked : counted.load (CacheTier.keyFor counted.tier invocation) surroundings =
        (changed, later, reply))
      (stops : asksNext reply = false) :
      LoadsFrom invocation (counted :: rest) surroundings (changed :: rest) later reply
  | missed {counted changed : Counted τ} {rest next : List (Counted τ)}
      {surroundings between later : Surroundings} {reply : Except Crash (Option Cached)}
      (asked : counted.load (CacheTier.keyFor counted.tier invocation) surroundings =
        (changed, between, .ok none))
      (others : LoadsFrom invocation rest between next later reply) :
      LoadsFrom invocation (counted :: rest) surroundings (changed :: next) later reply

/-- Every load asks tier after tier up to one that does not miss. -/
theorem loadsFrom_of_loadFrom
    {tiers next : List (Counted τ)}
    {later : Surroundings}
    (loaded : loadFrom invocation tiers surroundings = (next, later, reply)) :
    LoadsFrom invocation tiers surroundings next later reply := by
  induction tiers generalizing surroundings next with
  | nil =>
      cases loaded
      exact .exhausted
  | cons counted rest inductionHypothesis =>
      rcases asked : counted.load (CacheTier.keyFor counted.tier invocation) surroundings with
        ⟨changed, between, first⟩
      cases stops : asksNext first with
      | false =>
          rw [loadFrom_of_stop asked stops] at loaded
          cases loaded
          exact .stopped asked stops
      | true =>
          obtain rfl := eq_miss_of_asksNext stops
          rcases restLoaded : loadFrom invocation rest between with ⟨restNext, restLater, answer⟩
          rw [loadFrom_of_miss asked, restLoaded] at loaded
          cases loaded
          exact .missed asked (inductionHypothesis restLoaded)

/-- A save asks one tier and then the others. -/
theorem saveTo_of_save
    {cached : Cached}
    {next : List (Counted τ)}
    {later : Surroundings}
    {stored storedLater : Bool}
    (asked : counted.save (CacheTier.keyFor counted.tier invocation) cached surroundings =
      (changed, between, stored))
    (others : saveTo invocation cached rest between = (next, later, storedLater)) :
    saveTo invocation cached (counted :: rest) surroundings =
      (changed :: next, later, stored || storedLater) := by
  rw [saveTo, asked]
  dsimp only
  rw [others]

theorem answeredAt_of_stop
    (asked : counted.load (CacheTier.keyFor counted.tier invocation) surroundings =
      (changed, between, reply))
    (stops : asksNext reply = false) :
    answeredAt invocation (counted :: rest) surroundings = some surroundings.readClock.1 := by
  simp only [answeredAt, asked, stops, Bool.false_eq_true, if_false]

/-- A load that misses in the first tier is answered when the rest of the tiers is asked. -/
theorem answeredAt_of_miss
    (asked : counted.load (CacheTier.keyFor counted.tier invocation) surroundings =
      (changed, between, .ok none)) :
    answeredAt invocation (counted :: rest) surroundings = answeredAt invocation rest between := by
  have next : asksNext (.ok none) = true := rfl
  simp only [answeredAt, asked, next, if_true]

end Runs
end Chain
end FragmentCache
