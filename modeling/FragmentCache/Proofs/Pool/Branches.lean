import FragmentCache.Pool

/-!
# Branches of loads and saves

What a pool does for a key depends on the entry under it: whether there is one,
whether it is expired, and whether it is due for a refresh.  Only a save of a new
key looks at the other entries, which may leave no room.
-/

namespace FragmentCache
namespace Pool

variable {pool : Pool} {key : String} {now : Timestamp} {entry : Entry}

/-- A key that is absent is not found, and the pool stays as it is. -/
theorem load_of_absent (absent : pool.entries.find? key = none) :
    pool.load key now = .ok (pool, .notFound) := by
  rw [load, absent]
  rfl

/-- An entry that has expired is removed and counted, and the answer says so. -/
theorem load_of_expired
    (found : pool.entries.find? key = some entry)
    (expired : entry.tag.expiredAt now = true) :
    pool.load key now =
      .ok ({ (pool.remove key).1 with expired := (pool.remove key).1.expired + 1 },
        .expired) := by
  rw [load, found]
  dsimp only
  rw [if_pos expired]
  rfl

/-- A load of an entry that is not expired goes on with the question whether the
entry is due for a refresh. -/
theorem load_of_not_expired
    (found : pool.entries.find? key = some entry)
    (fresh : entry.tag.expiredAt now = false) :
    pool.load key now = (entry.dueAt now).map fun
      | true =>
        ({ pool with entries := pool.entries.put key { entry with prefetchMarked := true } },
          .needPrefetch)
      | false =>
        ({ pool with order := pool.order.moveToBack entry.position },
          .success ⟨entry.tag, entry.document⟩) := by
  rw [load, found]
  dsimp only
  rw [if_neg (by rw [fresh]; exact Bool.false_ne_true)]
  cases entry.dueAt now with
  | error crash => rfl
  | ok due => cases due <;> rfl

/-- Saving under a key that is present overwrites its entry. -/
theorem saveAlong_of_present
    (found : pool.entries.find? key = some entry)
    (keys : List String)
    (cached : Cached) :
    pool.saveAlong keys key cached now = pool.overwrite key entry cached now := by
  rw [saveAlong, found]

/-- Saving under a new key in a full pool makes room first. -/
theorem saveAlong_of_full
    (absent : pool.entries.find? key = none)
    (full : 0 < pool.capacity ∧ pool.capacity ≤ pool.size)
    (keys : List String)
    (cached : Cached) :
    pool.saveAlong keys key cached now =
      (pool.shrinkAlong keys now).insert key cached now := by
  rw [saveAlong, absent]
  dsimp only
  rw [if_pos full]

/-- Saving under a new key with room left inserts an entry. -/
theorem saveAlong_of_room
    (absent : pool.entries.find? key = none)
    (roomy : ¬(0 < pool.capacity ∧ pool.capacity ≤ pool.size))
    (keys : List String)
    (cached : Cached) :
    pool.saveAlong keys key cached now = pool.insert key cached now := by
  rw [saveAlong, absent]
  dsimp only
  rw [if_neg roomy]

end Pool
end FragmentCache
