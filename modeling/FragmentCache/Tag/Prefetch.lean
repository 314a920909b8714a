import FragmentCache.Cached

/-!
# Early refresh

Shortly before a copy expires one caller is told to refresh it.  The window in
which that happens grows linearly with the time the copy is cached for, from one
second up to five seconds for a minute or more.
-/

namespace FragmentCache
namespace Tag

/-- Shortest window, in seconds. -/
def shortestWindow : Timestamp := 1

/-- Longest window, in seconds. -/
def longestWindow : Timestamp := 5

/-- Cache time from which on the window is longest, in seconds. -/
def fullCacheTime : Timestamp := 60

/-- The seconds from `now` up to a later time, which have to fit a timestamp. -/
def secondsLeft (later now : Timestamp) : Except Crash Timestamp :=
  if Timestamp.maxSeconds < later.toInt - now.toInt then .error .timeOverflow
  else .ok (later - now)

/-- When a copy was taken: the time it was stored, else the last modification of
its source. -/
def takenAt? (tag : Tag) (stored : Timestamp) : Option Timestamp :=
  if stored ≠ Timestamp.undefined then some stored
  else if tag.hasLastModified then some tag.lastModified
  else none

/-- The window of a copy cached for less than the full cache time. -/
def scaledWindow (cacheTime : Timestamp) : Float :=
  let span := (longestWindow - shortestWindow).toUInt64.toFloat
  shortestWindow.toUInt64.toFloat +
    span * (max cacheTime 0).toUInt64.toFloat / fullCacheTime.toUInt64.toFloat

/-- Whether the last `left` seconds of a copy's validity lie in its window, given
when it was taken. -/
def inWindow (tag : Tag) (taken : Option Timestamp) (left : Timestamp) : Bool :=
  match taken with
  | none => decide (left ≤ shortestWindow)
  | some taken =>
    let cacheTime := tag.expireTime.saturatingSub taken
    if fullCacheTime ≤ cacheTime then decide (left ≤ longestWindow)
    else decide (left.toUInt64.toFloat ≤ scaledWindow cacheTime)

/-- Whether a copy stored at `stored` is due for a refresh at `now`. -/
def prefetchDueAt (tag : Tag) (stored now : Timestamp) : Except Crash Bool :=
  if !tag.hasExpireTime then .ok false
  else if tag.expireTime ≤ now then .ok true
  else (secondsLeft tag.expireTime now).map (tag.inWindow (tag.takenAt? stored))

end Tag
end FragmentCache
