import FragmentCache.Proofs.Tag.Window
import FragmentCache.Proofs.Time

/-!
# When a copy is due

Whether a copy is due for a refresh is one law in whole numbers, whichever way it is
computed: it is expired, or fifteen times the seconds left are at most fifteen and the
seconds it is kept for, of which at most sixty count.  Only where the seconds left do not fit
a timestamp is there no answer.
-/

namespace FragmentCache
namespace Tag

/-! ## The law -/

/-- The time from which on a copy counts as kept: when it was stored, else the last
modification of its source, else the end of its validity. -/
def keptSince (tag : Tag) (stored : Timestamp) : Timestamp :=
  if stored ≠ Timestamp.undefined then stored
  else if tag.lastModified ≠ Timestamp.undefined then tag.lastModified
  else tag.expireTime

/-- Seconds from the start of a copy to the end of its validity, counted from none up to a
minute. -/
def countedSeconds (tag : Tag) (stored : Timestamp) : Int :=
  min 60 (max 0 (tag.expireTime.toInt - (tag.keptSince stored).toInt))

/-- A copy that expires does so by now, or its seconds left lie in its window. -/
def IsDue (tag : Tag) (stored now : Timestamp) : Prop :=
  tag.expireTime ≠ Timestamp.undefined ∧
    (tag.expireTime ≤ now ∨
      15 * (tag.expireTime.toInt - now.toInt) ≤ 15 + tag.countedSeconds stored)

/-- A copy is valid for more seconds than a timestamp can hold. -/
def OutlastsTimestamps (tag : Tag) (now : Timestamp) : Prop :=
  tag.expireTime ≠ Timestamp.undefined ∧ now < tag.expireTime ∧
    2 ^ 63 - 1 < tag.expireTime.toInt - now.toInt

variable {tag : Tag} {stored now next : Timestamp}

theorem hasExpireTime_iff : tag.hasExpireTime = true ↔ tag.expireTime ≠ Timestamp.undefined :=
  bne_iff_ne

theorem hasLastModified_iff :
    tag.hasLastModified = true ↔ tag.lastModified ≠ Timestamp.undefined :=
  bne_iff_ne

/-- A cut-off difference counts up to a minute as the exact one does. -/
theorem counted_saturatingSub (later earlier : Timestamp) :
    min 60 (max 0 (later.saturatingSub earlier).toInt) =
      min 60 (max 0 (later.toInt - earlier.toInt)) := by
  have large : (60 : Int) ≤ Timestamp.maxSeconds := by decide
  rw [Timestamp.toInt_saturatingSub]
  omega

/-- All ways to find the window come to the same law. -/
theorem inWindow_takenAt?_iff
    (tag : Tag)
    (stored : Timestamp)
    {left : Timestamp}
    (positive : 0 < left) :
    tag.inWindow (tag.takenAt? stored) left = true ↔
      15 * left.toInt ≤ 15 + tag.countedSeconds stored := by
  have counted : ∀ taken, tag.inWindow (some taken) left = true ↔
      15 * left.toInt ≤ 15 + min 60 (max 0 (tag.expireTime.toInt - taken.toInt)) := by
    intro taken
    rw [inWindow_iff tag taken positive, counted_saturatingSub]
  rw [countedSeconds, keptSince, takenAt?]
  by_cases storedDefined : stored ≠ Timestamp.undefined
  · rw [if_pos storedDefined, if_pos storedDefined]
    exact counted stored
  · rw [if_neg storedDefined, if_neg storedDefined]
    by_cases modified : tag.lastModified ≠ Timestamp.undefined
    · rw [if_pos (hasLastModified_iff.2 modified), if_pos modified]
      exact counted tag.lastModified
    · have shortest : left ≤ shortestWindow ↔ left.toInt ≤ 1 := Int64.le_iff_toInt_le
      rw [if_neg (mt hasLastModified_iff.1 modified), if_neg modified]
      change decide (left ≤ shortestWindow) = true ↔ _
      rw [decide_eq_true_iff, shortest]
      omega

/-! ## Answers -/

/-- What never expires is never due. -/
theorem prefetchDueAt_of_endless
    (endless : tag.expireTime = Timestamp.undefined)
    (stored now : Timestamp) :
    tag.prefetchDueAt stored now = .ok false := by
  have without : tag.hasExpireTime = false := by simpa [hasExpireTime] using endless
  rw [prefetchDueAt, without]
  rfl

/-- Whatever lasts longer than timestamps can say crashes the check. -/
theorem prefetchDueAt_of_outlasts
    (outlasts : tag.OutlastsTimestamps now)
    (stored : Timestamp) :
    tag.prefetchDueAt stored now = .error .timeOverflow := by
  obtain ⟨expires, ahead, long⟩ := outlasts
  have overflow : Timestamp.maxSeconds < tag.expireTime.toInt - now.toInt := long
  rw [prefetchDueAt, hasExpireTime_iff.2 expires, if_neg (Int64.not_le.2 ahead), secondsLeft,
    if_pos overflow]
  rfl

/-- Where the seconds left fit a timestamp, the answer follows the law. -/
theorem exists_prefetchDueAt_eq
    (spans : ¬tag.OutlastsTimestamps now)
    (stored : Timestamp) :
    ∃ due, tag.prefetchDueAt stored now = .ok due ∧ (due = true ↔ tag.IsDue stored now) := by
  by_cases expires : tag.expireTime ≠ Timestamp.undefined
  · by_cases expired : tag.expireTime ≤ now
    · refine ⟨true, ?_, iff_of_true rfl ⟨expires, .inl expired⟩⟩
      rw [prefetchDueAt, hasExpireTime_iff.2 expires, if_pos expired]
      rfl
    · have ahead := Int64.not_le.1 expired
      have aheadInt := Int64.lt_iff_toInt_lt.1 ahead
      have fits : tag.expireTime.toInt - now.toInt ≤ 2 ^ 63 - 1 :=
        Int.not_lt.1 fun long => spans ⟨expires, ahead, long⟩
      let left := Int64.ofInt (tag.expireTime.toInt - now.toInt)
      have leftEq : left.toInt = tag.expireTime.toInt - now.toInt := by
        apply Int64.toInt_ofInt_of_le <;> omega
      have positive : 0 < left := by
        rw [Int64.lt_iff_toInt_lt, leftEq, Int64.toInt_zero]
        omega
      refine ⟨_, prefetchDueAt_of_ahead (hasExpireTime_iff.2 expires) ahead leftEq, ?_⟩
      rw [inWindow_takenAt?_iff tag stored positive, leftEq, IsDue, and_iff_right expires,
        or_iff_right expired]
  · have endless := not_not.1 expires
    exact ⟨false, prefetchDueAt_of_endless endless stored now,
      iff_of_false Bool.false_ne_true fun due => due.1 endless⟩

/-- From the epoch on nothing lasts longer than timestamps can say. -/
theorem not_outlastsTimestamps_of_nonneg (nonnegative : 0 ≤ now) :
    ¬tag.OutlastsTimestamps now := by
  rintro ⟨-, -, long⟩
  have nonnegativeInt : 0 ≤ now.toInt := Int64.le_iff_toInt_le.1 nonnegative
  have highest : tag.expireTime.toInt ≤ 2 ^ 63 - 1 := Timestamp.le_maxSeconds _
  omega

/-- A tag is due exactly by the law, as long as its time left can be said. -/
theorem prefetchDueAt_eq_true_iff :
    tag.prefetchDueAt stored now = .ok true ↔
      tag.IsDue stored now ∧ ¬tag.OutlastsTimestamps now := by
  by_cases outlasts : tag.OutlastsTimestamps now
  · rw [prefetchDueAt_of_outlasts outlasts]
    exact iff_of_false nofun fun due => due.2 outlasts
  · obtain ⟨due, answered, law⟩ := exists_prefetchDueAt_eq outlasts stored
    rw [answered, Except.ok.injEq, law, and_iff_left outlasts]

/-- A window is one second long at least and five seconds at most. -/
theorem countedSeconds_bounds (tag : Tag) (stored : Timestamp) :
    0 ≤ tag.countedSeconds stored ∧ tag.countedSeconds stored ≤ 60 := by
  rw [countedSeconds]
  omega

/-- Once due, a copy stays due. -/
theorem IsDue.of_le
    (due : tag.IsDue stored now)
    (later : now ≤ next) :
    tag.IsDue stored next := by
  refine ⟨due.1, due.2.imp (fun expired => Int64.le_trans expired later) fun within => ?_⟩
  have laterInt := Int64.le_iff_toInt_le.1 later
  omega

/-- What outlasts timestamps did so at all earlier times. -/
theorem OutlastsTimestamps.of_le
    (outlasts : tag.OutlastsTimestamps next)
    (later : now ≤ next) :
    tag.OutlastsTimestamps now := by
  obtain ⟨expires, ahead, long⟩ := outlasts
  have laterInt := Int64.le_iff_toInt_le.1 later
  exact ⟨expires, Int64.lt_of_le_of_lt later ahead, by omega⟩

/-- There is no answer exactly if a copy is valid for more seconds than a timestamp holds,
which takes a time before the first one.  Otherwise the answer is the law: it stays yes once
it is, it is no as long as more than five seconds are left, and yes with one second or less. -/
theorem prefetchDueAt_follows_law (tag : Tag) (stored now : Timestamp) :
    (∀ crash, tag.prefetchDueAt stored now = .error crash ↔
      crash = .timeOverflow ∧ tag.OutlastsTimestamps now) ∧
    (0 ≤ now → ¬tag.OutlastsTimestamps now) ∧
    (¬tag.OutlastsTimestamps now →
      ∃ due, tag.prefetchDueAt stored now = .ok due ∧ (due = true ↔ tag.IsDue stored now)) ∧
    (∀ next, now ≤ next → tag.prefetchDueAt stored now = .ok true →
      tag.prefetchDueAt stored next = .ok true) ∧
    (5 < tag.expireTime.toInt - now.toInt → tag.prefetchDueAt stored now ≠ .ok true) ∧
    (tag.expireTime ≠ Timestamp.undefined → tag.expireTime.toInt - now.toInt ≤ 1 →
      tag.prefetchDueAt stored now = .ok true) := by
  obtain ⟨atLeast, atMost⟩ := tag.countedSeconds_bounds stored
  refine ⟨?_, not_outlastsTimestamps_of_nonneg, fun spans => exists_prefetchDueAt_eq spans stored,
    ?_, ?_, ?_⟩
  · intro crash
    by_cases outlasts : tag.OutlastsTimestamps now
    · rw [prefetchDueAt_of_outlasts outlasts, Except.error.injEq, and_iff_left outlasts, eq_comm]
    · obtain ⟨due, answered, -⟩ := exists_prefetchDueAt_eq outlasts stored
      rw [answered]
      exact iff_of_false nofun fun failed => outlasts failed.2
  · intro next later due
    rw [prefetchDueAt_eq_true_iff] at due ⊢
    exact ⟨due.1.of_le later, fun outlasts => due.2 (outlasts.of_le later)⟩
  · intro far due
    obtain ⟨⟨-, expired | within⟩, -⟩ := prefetchDueAt_eq_true_iff.1 due
    · have expiredInt := Int64.le_iff_toInt_le.1 expired
      omega
    · omega
  · intro expires close
    refine prefetchDueAt_eq_true_iff.2 ⟨⟨expires, .inr (by omega)⟩, ?_⟩
    rintro ⟨-, -, long⟩
    omega

/-- A copy kept for half a minute is due from three seconds before its end on. -/
theorem prefetchDueAt_follows_law_half_minute :
    ({ expireTime := 130 } : Tag).prefetchDueAt 100 126 = .ok false ∧
      ({ expireTime := 130 } : Tag).prefetchDueAt 100 127 = .ok true ∧
      ({ expireTime := 130 } : Tag).prefetchDueAt 100 128 = .ok true ∧
      ({ expireTime := 130 } : Tag).prefetchDueAt 100 (-9223372036854775808) =
        .error .timeOverflow := by
  have spans : ∀ now : Timestamp, 0 ≤ now → ¬({ expireTime := 130 } : Tag).OutlastsTimestamps now :=
    fun now => (prefetchDueAt_follows_law { expireTime := 130 } 100 now).2.1
  have answer : ∀ now : Timestamp, 0 ≤ now → ∃ due,
      ({ expireTime := 130 } : Tag).prefetchDueAt 100 now = .ok due ∧
        (due = true ↔ ({ expireTime := 130 } : Tag).IsDue 100 now) :=
    fun now after =>
      (prefetchDueAt_follows_law { expireTime := 130 } 100 now).2.2.1 (spans now after)
  obtain ⟨first, firstAnswer, firstLaw⟩ := answer 126 (by decide)
  obtain ⟨second, secondAnswer, secondLaw⟩ := answer 127 (by decide)
  have firstNo : first = false := by
    rw [Bool.eq_false_iff, Ne, firstLaw]
    rintro ⟨-, expired | within⟩
    · exact absurd expired (by decide)
    · exact absurd within (by decide)
  have secondYes : second = true := secondLaw.2 ⟨by decide, .inr (by decide)⟩
  refine ⟨firstNo ▸ firstAnswer, secondYes ▸ secondAnswer, ?_, ?_⟩
  · exact (prefetchDueAt_follows_law { expireTime := 130 } 100 127).2.2.2.1 128 (by decide)
      (secondYes ▸ secondAnswer)
  · exact ((prefetchDueAt_follows_law { expireTime := 130 } 100 _).1 .timeOverflow).2
      ⟨rfl, by decide, by decide, by decide⟩

end Tag
end FragmentCache
