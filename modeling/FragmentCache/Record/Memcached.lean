import FragmentCache.Record
import FragmentCache.Tag

/-!
# Memcached values

A memcached value holds the two times of the tag and the document.  The server
enforces the expiry itself, so there is no stored time and no prefetch mark.
-/

namespace FragmentCache

/-- A document with its tag, as a memcached server holds it. -/
structure MemcachedValue where
  /-- Freshness of the document. -/
  tag : Tag
  /-- The document itself. -/
  document : Document
  deriving DecidableEq

namespace MemcachedValue

/-- Name of the layout. -/
def layoutName : String := "memcached-value"

/-- Bytes of a value. -/
def encode (stored : MemcachedValue) : Bytes :=
  Record.timeBytes stored.tag.lastModified ++ Record.timeBytes stored.tag.expireTime ++
    stored.document.toBytes

/-- Read a value up to the end. -/
def read : Record.Reader MemcachedValue := do
  let lastModified ← Record.takeTime .lastModified
  let expireTime ← Record.takeTime .expireTime
  let document ← Record.documentOf (← get)
  return { tag := { lastModified, expireTime }, document }

/-- The value that some bytes hold. -/
def decode (stored : Bytes) : Except Record.Fault MemcachedValue :=
  (read stored).map Prod.fst

end MemcachedValue
end FragmentCache
