import FragmentCache.Config
import FragmentCache.Key
import FragmentCache.Proofs.Pool.Shelf

/-!
# Ledgers

A ledger says what is kept under every key text, and how that answers a load: expired
items go, an item that is due for a refresh is marked and says so once, and any other
item is a hit.  It is what a tier of any kind stands for, as long as nothing is
evicted.
-/

namespace FragmentCache

/-- The document as one that its producer reported as new. -/
def Cached.asNew (cached : Cached) : Cached :=
  { cached with tag := { cached.tag with modified := true } }

/-- What is kept under every key text. -/
abbrev Ledger := String → Option Shelf.Item

namespace Ledger

open FragmentCache.Shelf (Item)

/-- Nothing is kept. -/
def empty : Ledger := fun _ => none

/-- Keep something else under a key text, or nothing. -/
def put (ledger : Ledger) (text : String) (kept : Option Item) : Ledger :=
  fun other => if other = text then kept else ledger other

/-- What a load at `now` leaves of what was kept, and how it is answered. -/
def ask (kept : Option Item) (now : Timestamp) : Except Crash (Option Item × Pool.Answer) :=
  match kept with
  | none => .ok (none, .notFound)
  | some item =>
    if item.expiredAt now then .ok (none, .expired)
    else (item.dueAt now).map fun
      | true => (some { item with prefetchMarked := true }, .needPrefetch)
      | false => (some item, .success item.cached)

@[simp] theorem ask_none (now : Timestamp) : ask none now = .ok (none, .notFound) := rfl

/-- An item that has expired is given up. -/
theorem ask_of_expired
    {item : Item}
    {now : Timestamp}
    (expired : item.expiredAt now = true) :
    ask (some item) now = .ok (none, .expired) := by
  rw [ask, if_pos expired]

/-- An item that is fresh is kept; it is marked if it is due. -/
theorem ask_of_fresh
    {item : Item}
    {now : Timestamp}
    (fresh : item.expiredAt now = false) :
    ask (some item) now = (item.dueAt now).map fun
      | true => (some { item with prefetchMarked := true }, .needPrefetch)
      | false => (some item, .success item.cached) := by
  rw [ask, if_neg (by simp [fresh])]

/-- What a load that does not crash came upon, case by case. -/
theorem ask_cases
    {kept next : Option Item}
    {now : Timestamp}
    {answer : Pool.Answer}
    (asked : ask kept now = .ok (next, answer)) :
    (kept = none ∧ next = none ∧ answer = .notFound) ∨
    (∃ item, kept = some item ∧ item.expiredAt now = true ∧ next = none ∧ answer = .expired) ∨
    (∃ item, kept = some item ∧ item.expiredAt now = false ∧ item.dueAt now = .ok true ∧
      next = some { item with prefetchMarked := true } ∧ answer = .needPrefetch) ∨
    (∃ item, kept = some item ∧ item.expiredAt now = false ∧ item.dueAt now = .ok false ∧
      next = some item ∧ answer = .success item.cached) := by
  cases kept with
  | none =>
      cases asked
      exact .inl ⟨rfl, rfl, rfl⟩
  | some item =>
      cases expired : item.expiredAt now with
      | true =>
          rw [ask_of_expired expired] at asked
          cases asked
          exact .inr (.inl ⟨item, rfl, expired, rfl, rfl⟩)
      | false =>
          rw [ask_of_fresh expired] at asked
          cases due : item.dueAt now with
          | error crash => rw [due] at asked; cases asked
          | ok isDue =>
              rw [due] at asked
              cases isDue with
              | true =>
                  cases asked
                  exact .inr (.inr (.inl ⟨item, rfl, expired, due, rfl, rfl⟩))
              | false =>
                  cases asked
                  exact .inr (.inr (.inr ⟨item, rfl, expired, due, rfl, rfl⟩))

/-- Load what is kept under a key text at `now`. -/
def load (ledger : Ledger) (text : String) (now : Timestamp) :
    Except Crash (Ledger × Pool.Answer) :=
  (ask (ledger text) now).map (Prod.map (ledger.put text) id)

/-- A load puts back what asking for the item leaves of it. -/
theorem load_eq_ok
    {ledger next : Ledger}
    {text : String}
    {now : Timestamp}
    {answer : Pool.Answer}
    (loaded : ledger.load text now = .ok (next, answer)) :
    ∃ kept, ask (ledger text) now = .ok (kept, answer) ∧ next = ledger.put text kept := by
  rw [load] at loaded
  cases asked : ask (ledger text) now with
  | error crash =>
      rw [asked] at loaded
      cases loaded
  | ok kept =>
      rw [asked] at loaded
      cases loaded
      exact ⟨kept.1, rfl, rfl⟩

theorem load_eq_error
    {ledger : Ledger}
    {text : String}
    {now : Timestamp}
    {crash : Crash}
    (crashed : ledger.load text now = .error crash) :
    ask (ledger text) now = .error crash := by
  rw [load] at crashed
  cases asked : ask (ledger text) now with
  | error other =>
      rw [asked] at crashed
      cases crashed
      rfl
  | ok kept =>
      rw [asked] at crashed
      cases crashed

/-- What loads as a ledger does answers what the ledger was asked. -/
theorem exists_answer_of_ask
    {σ : Type}
    {view : σ → Ledger}
    {outcome : Except Crash (σ × Pool.Answer)}
    {ledger : Ledger}
    {text : String}
    {now : Timestamp}
    {kept : Option Item}
    {answer : Pool.Answer}
    (same : outcome.map (Prod.map view id) = ledger.load text now)
    (asked : ask (ledger text) now = .ok (kept, answer)) :
    ∃ next, outcome = .ok (next, answer) := by
  rw [load, asked] at same
  cases outcome with
  | error crash => cases same
  | ok answered =>
      have sameAnswer : answered.2 = answer := (Prod.mk.inj (Except.ok.inj same)).2
      exact ⟨answered.1, by rw [← sameAnswer]⟩

/-- Save a document under a key text at `now`. -/
def save (ledger : Ledger) (text : String) (cached : Cached) (now : Timestamp) : Ledger :=
  ledger.put text (some { cached, storedTime := now })

@[simp] theorem put_same (ledger : Ledger) (text : String) (kept : Option Item) :
    ledger.put text kept text = kept :=
  if_pos rfl

theorem put_other
    {text other : String}
    (differ : text ≠ other)
    (ledger : Ledger)
    (kept : Option Item) :
    ledger.put text kept other = ledger other :=
  if_neg differ.symm

@[simp] theorem put_self (ledger : Ledger) (text : String) :
    ledger.put text (ledger text) = ledger := by
  funext other
  rw [put]
  split
  · next same => rw [same]
  · rfl

/-- One ledger keeps nothing but what another one keeps. -/
def Within (small large : Ledger) : Prop :=
  ∀ text item, small text = some item → large text = some item

namespace Within

variable {small middle large : Ledger}

theorem refl (ledger : Ledger) : ledger.Within ledger := fun _ _ kept => kept

theorem trans (first : small.Within middle) (second : middle.Within large) :
    small.Within large :=
  fun text item kept => second text item (first text item kept)

/-- Ledgers of which one keeps less stay so when the same is put into both. -/
theorem put (within : small.Within large) (text : String) (kept : Option Item) :
    (small.put text kept).Within (large.put text kept) := by
  intro other item found
  rw [Ledger.put] at found ⊢
  split
  · next same => rwa [if_pos same] at found
  · next differ => rw [if_neg differ] at found; exact within other item found

end Within

/-- Less is kept when nothing is kept under a key text. -/
theorem put_none_within (ledger : Ledger) (text : String) :
    (ledger.put text none).Within ledger := by
  intro other item found
  rw [put] at found
  split at found
  · cases found
  · exact found

/-! ## Operations -/

/-- What is asked of a tier. -/
inductive Operation where
  | load (invocation : Invocation) (now : Timestamp)
  /-- The number is one for a temporary file. -/
  | save (invocation : Invocation) (cached : Cached) (now : Timestamp) (number : Nat)
  /-- Create the tier again where it is. -/
  | reopen
  deriving DecidableEq

/-- Key text of an operation. -/
def Operation.keyText? : Operation → Option String
  | load invocation _ | save invocation _ _ _ => some invocation.keyText
  | reopen => none

/-- What a tier replies. -/
inductive Reply where
  /-- A document, or a miss. -/
  | found (hit : Option Cached)
  /-- The load crashed and changed nothing. -/
  | crashed (crash : Crash)
  | saved (stored : Bool)
  | reopened (done : Bool)
  deriving DecidableEq

/-- The reply when every document counts as new. -/
def Reply.asNew : Reply → Reply
  | found hit => found (hit.map Cached.asNew)
  | crashed crash => crashed crash
  | saved stored => saved stored
  | reopened done => reopened done

/-- Reply to an operation. -/
def answer (ledger : Ledger) : Operation → Ledger × Reply
  | .load invocation now =>
    match ledger.load invocation.keyText now with
    | .ok (ledger, answer) => (ledger, .found answer.hit?)
    | .error crash => (ledger, .crashed crash)
  | .save invocation cached now _ => (ledger.save invocation.keyText cached now, .saved true)
  | .reopen => (ledger, .reopened true)

/-- Carry out operations one after the other. -/
def run (ledger : Ledger) : List Operation → List Reply
  | [] => []
  | operation :: rest =>
    let (ledger, reply) := ledger.answer operation
    reply :: run ledger rest

theorem run_cons (ledger : Ledger) (operation : Operation) (rest : List Operation) :
    ledger.run (operation :: rest) =
      (ledger.answer operation).2 :: run (ledger.answer operation).1 rest :=
  rfl

end Ledger
end FragmentCache
