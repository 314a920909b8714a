import FragmentCache.Proofs.Pool.Item
import FragmentCache.Proofs.Pool.Run
import FragmentCache.Proofs.Refresh

/-!
# Calls to refresh from a pool

A pool keeps the mark of an entry through touches, saves of other keys and the removal of
other entries.  So what happens to one key in a run is a history in which the document of a
save is there until something removes it.
-/

namespace FragmentCache
namespace Pool

open Refresh (Event Finding History)

/-! ## The history of a key -/

/-- What an operation and the reply to it are to a key.  A save of a new key into a full pool
may remove any other. -/
def event? (pool : Pool) (key : String) : Operation → Reply → Option Event
  | .load other now, .answered answer =>
    if other = key then some (.loaded now (pool.entries.contains other) (.of id answer)) else none
  | .load other now, .crashed crash =>
    if other = key then some (.loaded now (pool.entries.contains other) (.crashed crash)) else none
  | .load _ _, _ => none
  | .save other cached now, _ =>
    if other = key then some (.saved cached now)
    else if pool.entries.contains other = false ∧ 0 < pool.capacity ∧ pool.capacity ≤ pool.size then
      some .swept
    else none
  | .remove other, _ => if other = key then some .swept else none
  | .shrink _, _ | .clear, _ => some .swept

/-- What happens to a key in a run. -/
def history (pool : Pool) (key : String) (visits : Nat → Visit) : List Operation → List Event
  | [] => []
  | operation :: rest =>
    let outcome := pool.perform (visits 0) operation
    (pool.event? key operation outcome.2).toList ++
      outcome.1.history key (fun turn => visits (turn + 1)) rest

variable {pool : Pool} {key other : String} {now : Timestamp} {rest : List Event}

theorem contains_eq_isSome_ledger (pool : Pool) (key : String) :
    pool.entries.contains key = (pool.ledger key).isSome := by
  rw [ledger, Option.isSome_map]
  rfl

/-! ## One operation -/

/-- A load continues the history of a key's signals. -/
theorem history_load
    (pool : Pool)
    (key other : String)
    (now : Timestamp)
    (visit : Visit)
    (others : History id ((pool.perform visit (.load other now)).1.ledger key) rest) :
    History id (pool.ledger key)
      ((pool.event? key (.load other now) (pool.perform visit (.load other now)).2).toList ++
        rest) := by
  rw [perform] at others ⊢
  cases loaded : pool.load other now with
  | error crash =>
      rw [loaded] at others
      rw [event?, contains_eq_isSome_ledger]
      have asked := ask_of_load_crashed loaded
      have unchanged : History id (pool.ledger.put other (pool.ledger other) key) rest := by
        rw [Ledger.put_self]
        exact others
      exact unchanged.put (.crashed asked)
  | ok answered =>
      obtain ⟨next, answer⟩ := answered
      obtain ⟨kept, asked, changed⟩ := asked_of_load loaded
      rw [loaded] at others
      dsimp only at others ⊢
      rw [changed] at others
      rw [event?, contains_eq_isSome_ledger]
      exact others.put (.loaded asked)

/-- A save continues the history of a key's signals. -/
theorem history_save
    (pool : Pool)
    (key other : String)
    (cached : Cached)
    (now : Timestamp)
    (visit : Visit)
    (others : History id
      ((pool.perform visit (.save other cached now)).1.ledger key) rest) :
    History id (pool.ledger key)
      ((pool.event? key (.save other cached now) .done).toList ++ rest) := by
  obtain ⟨kept, saved, within, keepsAll⟩ :=
    exists_ledger_saveAlong (visit.order pool.entries.keys) pool other cached now
  rw [perform, saved, Ledger.save] at others
  rw [event?]
  by_cases same : other = key
  · subst same
    rw [Ledger.put_same] at others
    rw [if_pos rfl]
    exact .saved others
  · rw [Ledger.put_other same] at others
    rw [if_neg same]
    split
    · exact .swept (fun item found => within key item found) others
    · rename_i roomy
      rw [keepsAll] at others
      · exact others
      · intro absent full
        exact roomy ⟨by rw [Table.contains, absent]; rfl, full⟩

/-- What happens to a key in one operation is followed by what happens to it afterwards. -/
theorem history_perform
    (pool : Pool)
    (key : String)
    (visit : Visit)
    (operation : Operation)
    (others : History id ((pool.perform visit operation).1.ledger key) rest) :
    History id (pool.ledger key)
      ((pool.event? key operation (pool.perform visit operation).2).toList ++ rest) := by
  cases operation with
  | load other now => exact history_load pool key other now visit others
  | save other cached now => exact history_save pool key other cached now visit others
  | remove other =>
      have removed : (pool.perform visit (.remove other)).1.ledger =
          pool.ledger.put other none := ledger_remove pool other
      rw [removed] at others
      refine others.put fun rest => .swept ?_ rest
      nofun
  | shrink now =>
      refine .swept (fun item found => ?_) others
      exact shrinkAlong_within _ pool now key item found
  | clear =>
      refine .swept ?_ others
      nofun

/-- The events of one key over a run are a history of its signals. -/
theorem history_run
    (pool : Pool)
    (key : String)
    (visits : Nat → Visit)
    (operations : List Operation) :
    History id (pool.ledger key) (pool.history key visits operations) := by
  induction operations generalizing pool visits with
  | nil => exact .nil
  | cons operation rest inductionHypothesis =>
      exact history_perform pool key (visits 0) operation (inductionHypothesis _ _)

end Pool
end FragmentCache
