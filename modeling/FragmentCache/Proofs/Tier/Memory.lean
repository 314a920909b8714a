import FragmentCache.Proofs.Pool.Item
import FragmentCache.Tier.Memory

/-!
# Memory tiers and their ledgers

A memory tier whose pools have no capacity replies to any operations as a ledger does.
-/

namespace FragmentCache
namespace MemoryTier

open Ledger (Operation Reply)

/-- The items under the key texts. -/
def ledger (tier : MemoryTier) : Ledger := tier.pool.ledger

/-- Reply to an operation.  A tier in memory has nowhere to be opened again. -/
def answer (tier : MemoryTier) : Operation → MemoryTier × Reply
  | .load invocation now =>
    match tier.loadAt (CacheTier.keyFor tier invocation) now with
    | .ok (tier, hit) => (tier, .found hit)
    | .error crash => (tier, .crashed crash)
  | .save invocation cached now _ =>
    let (tier, stored) := tier.saveAt (CacheTier.keyFor tier invocation) cached now
    (tier, .saved stored)
  | .reopen => (tier, .reopened true)

/-- Carry out operations one after the other. -/
def run (tier : MemoryTier) : List Operation → List Reply
  | [] => []
  | operation :: rest =>
    let (tier, reply) := tier.answer operation
    reply :: run tier rest

theorem run_cons (tier : MemoryTier) (operation : Operation) (rest : List Operation) :
    tier.run (operation :: rest) =
      (tier.answer operation).2 :: (tier.answer operation).1.run rest :=
  rfl

/-- A load answers as what is kept under its key says. -/
theorem loadAt_ledger (tier : MemoryTier) (key : Key) (now : Timestamp) :
    (tier.loadAt key now).map (Prod.map ledger id) =
      (tier.ledger.load key.storageId now).map (Prod.map id Pool.Answer.hit?) := by
  have loaded := tier.pool.load_ledger key.storageId now
  change _ = (tier.pool.ledger.load key.storageId now).map _
  rw [← loaded, loadAt]
  cases tier.pool.load key.storageId now <;> rfl

/-- A memory tier stays unbounded when it is asked. -/
theorem unbounded_loadAt
    {tier next : MemoryTier}
    {key : Key}
    {now : Timestamp}
    {hit : Option Cached}
    (unbounded : tier.pool.Unbounded)
    (loaded : tier.loadAt key now = .ok (next, hit)) :
    next.pool.Unbounded := by
  rw [loadAt] at loaded
  cases outcome : tier.pool.load key.storageId now with
  | error crash => rw [outcome] at loaded; cases loaded
  | ok answered =>
      rw [outcome] at loaded
      cases loaded
      exact unbounded.load outcome

/-- A tier without capacities replies as its ledger, and stands for the next one. -/
theorem answer_ledger
    {tier : MemoryTier}
    (unbounded : tier.pool.Unbounded)
    (operation : Operation) :
    (tier.answer operation).1.pool.Unbounded ∧
      tier.ledger.answer operation =
        ((tier.answer operation).1.ledger, (tier.answer operation).2) := by
  cases operation with
  | load invocation now =>
      have loaded := tier.loadAt_ledger (CacheTier.keyFor tier invocation) now
      rw [answer, Ledger.answer]
      change _ = (tier.ledger.load invocation.keyText now).map _ at loaded
      cases outcome : tier.loadAt (CacheTier.keyFor tier invocation) now with
      | error crash =>
          rw [outcome] at loaded
          cases asked : tier.ledger.load invocation.keyText now with
          | error other => rw [asked] at loaded; cases loaded; exact ⟨unbounded, rfl⟩
          | ok answered => rw [asked] at loaded; cases loaded
      | ok answered =>
          rw [outcome] at loaded
          cases asked : tier.ledger.load invocation.keyText now with
          | error other => rw [asked] at loaded; cases loaded
          | ok kept =>
              rw [asked] at loaded
              obtain ⟨changed, same⟩ := Prod.mk.inj (Except.ok.inj loaded)
              refine ⟨unbounded_loadAt unbounded outcome, ?_⟩
              change (kept.1, Reply.found kept.2.hit?) = (answered.1.ledger, .found answered.2)
              change answered.2 = kept.2.hit? at same
              rw [same]
              exact congrArg (·, _) changed.symm
  | save invocation cached now number =>
      exact ⟨unbounded.save _ _ _,
        congrArg (·, _) (ShardedPool.save_ledger unbounded invocation.keyText cached now).symm⟩
  | reopen => exact ⟨unbounded, rfl⟩

/-- An unbounded memory tier answers a run as its ledger does. -/
theorem run_eq_ledger_run_of_unbounded
    {tier : MemoryTier}
    (unbounded : tier.pool.Unbounded)
    (operations : List Operation) :
    tier.run operations = tier.ledger.run operations := by
  induction operations generalizing tier with
  | nil => rfl
  | cons operation rest inductionHypothesis =>
      obtain ⟨unboundedNext, answered⟩ := answer_ledger unbounded operation
      rw [run_cons, Ledger.run_cons, answered, inductionHypothesis unboundedNext]

/-- A new tier without capacities replies as an empty ledger. -/
theorem run_new
    {settings : Settings}
    (unbounded : settings.poolSize = 0)
    (operations : List Operation) :
    (new settings).run operations = Ledger.empty.run operations := by
  have none : (new settings).ledger = Ledger.empty := ShardedPool.ledger_new _ _
  rw [← none]
  apply run_eq_ledger_run_of_unbounded
  rw [new, unbounded]
  exact ShardedPool.unbounded_new _

end MemoryTier
end FragmentCache
