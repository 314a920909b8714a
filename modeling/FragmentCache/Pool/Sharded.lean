import FragmentCache.Pool

/-!
# Sharded pools

A sharded pool spreads its keys over pools by a checksum, so that work on one
pool does not touch the others.
-/

namespace FragmentCache

/-! ## The checksum of a key

CRC-32 is the cyclic checksum of a byte string with the reversed polynomial `0xEDB88320`;
the register starts and ends inverted.
-/

namespace Crc32

/-- The polynomial, its lowest power in the highest bit. -/
def polynomial : UInt32 := 0xEDB88320

/-- Shift one bit out of the register. -/
def shift (register : UInt32) : UInt32 :=
  if register &&& 1 = 1 then register >>> 1 ^^^ polynomial else register >>> 1

/-- Take one byte into the register. -/
def absorb (register : UInt32) (byte : UInt8) : UInt32 :=
  Nat.repeat shift 8 (register ^^^ byte.toUInt32)

/-- The checksum of some bytes. -/
def checksum (bytes : Bytes) : UInt32 := ~~~(bytes.foldl absorb 0xFFFFFFFF)

/-- The checksum of a text. -/
def ofText (text : String) : Nat := (checksum (Text.toBytes text)).toNat

end Crc32

/-! ## Pools that share the keys -/

/-- Pools that share the keys. -/
structure ShardedPool where
  /-- The pools. -/
  shards : List Pool
  /-- There is at least one pool. -/
  nonempty : 0 < shards.length
  /-- Number that decides which pool a key belongs to. -/
  checksum : String → Nat := Crc32.ofText

namespace ShardedPool

/-- Pools of equal capacity; at least one is made. -/
def new (count capacity : Nat) : ShardedPool where
  shards := List.replicate (max count 1) { capacity }
  nonempty := by rw [List.length_replicate]; omega

/-- Number of pools. -/
def count (pool : ShardedPool) : Nat := pool.shards.length

/-- Which pool a key belongs to. -/
def index (pool : ShardedPool) (key : String) : Nat := pool.checksum key % pool.count

theorem index_lt_count (pool : ShardedPool) (key : String) : pool.index key < pool.count :=
  Nat.mod_lt _ pool.nonempty

/-- The pool that a key belongs to. -/
def shard (pool : ShardedPool) (key : String) : Pool :=
  pool.shards.get ⟨pool.index key, pool.index_lt_count key⟩

/-- Change the pool that a key belongs to. -/
def setShard (pool : ShardedPool) (key : String) (shard : Pool) : ShardedPool :=
  { pool with
    shards := pool.shards.set (pool.index key) shard
    nonempty := by rw [List.length_set]; exact pool.nonempty }

/-- Load the document under a key at `now`. -/
def load (pool : ShardedPool) (key : String) (now : Timestamp) :
    Except Crash (ShardedPool × Pool.Answer) :=
  ((pool.shard key).load key now).map fun (shard, answer) => (pool.setShard key shard, answer)

/-- Save a document under a key at `now`. -/
def save (pool : ShardedPool) (key : String) (cached : Cached) (now : Timestamp) :
    ShardedPool :=
  pool.setShard key ((pool.shard key).save key cached now)

/-- Remove a key, and tell whether it was there. -/
def remove (pool : ShardedPool) (key : String) : ShardedPool × Bool :=
  let (shard, found) := (pool.shard key).remove key
  (pool.setShard key shard, found)

/-- Remove all entries; the counters stay. -/
def clear (pool : ShardedPool) : ShardedPool :=
  { pool with
    shards := pool.shards.map Pool.clear
    nonempty := by rw [List.length_map]; exact pool.nonempty }

/-- Number of entries in all pools. -/
def size (pool : ShardedPool) : Nat :=
  pool.shards.foldr (fun shard total => shard.size + total) 0

/-- Whether there are no entries. -/
def isEmpty (pool : ShardedPool) : Bool := pool.size == 0

/-- Gauges of all pools together. -/
def usage (pool : ShardedPool) : Usage := Usage.total (pool.shards.map Pool.usage)

end ShardedPool
end FragmentCache
