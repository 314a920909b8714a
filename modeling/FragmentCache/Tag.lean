import FragmentCache.Time

/-!
# Freshness tags

A tag travels with a cached document.  It tells when the source data was last
modified and when the cached copy stops being valid; either may be undefined.
-/

namespace FragmentCache

/-- Freshness of a cached document. -/
structure Tag where
  /-- Whether the producer reported new content. -/
  modified : Bool := true
  /-- Last modification of the source data. -/
  lastModified : Timestamp := Timestamp.undefined
  /-- End of the copy's validity. -/
  expireTime : Timestamp := Timestamp.undefined
  deriving DecidableEq, Inhabited

namespace Tag

/-- The tag of new content that expires `lifetime` after `now`. -/
def expiringIn (now : Timestamp) (lifetime : Duration) : Tag :=
  { expireTime := now.saturatingAdd lifetime.clampedSeconds }

/-- The tag of new content that never expires. -/
def nonExpiring : Tag := {}

/-- Whether the end of validity is defined. -/
def hasExpireTime (tag : Tag) : Bool := tag.expireTime != Timestamp.undefined

/-- Whether the last modification is defined. -/
def hasLastModified (tag : Tag) : Bool := tag.lastModified != Timestamp.undefined

/-- Whether validity has ended at `now`. -/
def expiredAt (tag : Tag) (now : Timestamp) : Bool :=
  tag.hasExpireTime && decide (tag.expireTime ≤ now)

/-- Seconds of validity left at `now`; none when it never ends. -/
def timeToLiveAt (tag : Tag) (now : Timestamp) : Option Timestamp :=
  if tag.hasExpireTime then some (tag.expireTime.saturatingSub now) else none

end Tag

end FragmentCache
