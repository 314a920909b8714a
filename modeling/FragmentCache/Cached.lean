import FragmentCache.Document
import FragmentCache.Tag

/-!
# Cached documents, crashes and gauges

What the parts of a cache hand to each other: documents with their tags, the crash that an
operation ends with, and gauges of what is held.
-/

namespace FragmentCache

/-- A document with its tag. -/
structure Cached where
  /-- Freshness of the document. -/
  tag : Tag
  /-- The document itself. -/
  document : Document
  deriving DecidableEq

/-! ## Crashes

A crash ends the computation that ran into it.  Whoever runs a computation of
its own on behalf of others catches its crash and goes on.
-/

/-- Cause of a crash. -/
inductive Crash where
  /-- A difference of timestamps does not fit a timestamp. -/
  | timeOverflow
  /-- The work of a block gave up with a message. -/
  | work (message : String)
  deriving DecidableEq

namespace Crash

/-- Text of a crash. -/
def message : Crash → String
  | timeOverflow => "attempt to subtract with overflow"
  | work message => message

end Crash

/-! ## Gauges -/

/-- What a part of the cache holds and what happened to its entries; gauges that a part does
not track stay zero. -/
structure Usage where
  /-- Entries held now. -/
  entries : Nat := 0
  /-- Bytes of the documents held now. -/
  usedMemory : Nat := 0
  /-- Entries that left to make room. -/
  evicted : Nat := 0
  /-- Entries that left because they had expired. -/
  expired : Nat := 0
  /-- Stored records rejected as corrupt. -/
  corrupt : Nat := 0
  /-- Records found under the identifier of another key. -/
  keyClashes : Nat := 0
  /-- Records written. -/
  writes : Nat := 0
  deriving DecidableEq, Inhabited

namespace Usage

/-- Gauges of two parts taken together. -/
def add (first second : Usage) : Usage where
  entries := first.entries + second.entries
  usedMemory := first.usedMemory + second.usedMemory
  evicted := first.evicted + second.evicted
  expired := first.expired + second.expired
  corrupt := first.corrupt + second.corrupt
  keyClashes := first.keyClashes + second.keyClashes
  writes := first.writes + second.writes

/-- Gauges of several parts taken together. -/
def total (parts : List Usage) : Usage := parts.foldl add {}

end Usage

end FragmentCache
