import FragmentCache.Block
import FragmentCache.Proofs.Time
import FragmentCache.Tier.Memory

/-!
# What is worth storing

A new document is stored by one of three rules: its end is open but its last modification is
known, the configured cache time reaches the least one that a tier finds worth storing, or
the validity left does.  The validity left is compared with the whole seconds of that
minimum only, so a document that falls short of it by a fraction is stored all the same.
-/

namespace FragmentCache

/-! ## The least cache time -/

namespace Chain

variable {τ : Type} [CacheTier τ]

/-- The minimum of a chain is the least one among its tiers, and zero without tiers. -/
structure HasMinimum (chain : Chain τ) (minimum : Duration) : Prop where
  least : ∀ counted ∈ chain.tiers, minimum ≤ CacheTier.minimalCacheTime counted.tier
  reached : chain.tiers ≠ [] →
    ∃ counted ∈ chain.tiers, minimum = CacheTier.minimalCacheTime counted.tier
  zero : chain.tiers = [] → minimum = .zero

/-- The minimum of a chain is the least one among its tiers. -/
theorem hasMinimum (chain : Chain τ) : chain.HasMinimum chain.minimalCacheTime := by
  let times := chain.tiers.map fun counted => CacheTier.minimalCacheTime counted.tier
  have minimum : chain.minimalCacheTime = times.min?.getD .zero := rfl
  cases found : times.min? with
  | none =>
      have empty : chain.tiers = [] := List.map_eq_nil_iff.1 (List.min?_eq_none_iff.1 found)
      rw [minimum, found]
      refine ⟨?_, fun nonempty => absurd empty nonempty, fun _ => rfl⟩
      rw [empty]
      exact nofun
  | some time =>
      obtain ⟨member, least⟩ := List.min?_eq_some_iff.1 found
      obtain ⟨counted, listed, same⟩ := List.mem_map.1 member
      rw [minimum, found]
      refine ⟨fun other among => least _ (List.mem_map_of_mem among),
        fun _ => ⟨counted, listed, same.symm⟩, fun empty => ?_⟩
      rw [empty] at listed
      cases listed

end Chain

namespace Block

/-! ## The rules -/

/-- The end of validity is open, but the last modification is known. -/
def IsOpenEnded (tag : Tag) : Prop :=
  tag.expireTime = Timestamp.undefined ∧ tag.lastModified ≠ Timestamp.undefined

/-- The configured cache time reaches the minimum. -/
def ReachesMinimum (cacheTime : Option Duration) (minimum : Duration) : Prop :=
  ∃ time, cacheTime = some time ∧ minimum ≤ time

/-- Seconds of validity left at `now`. -/
def secondsValid (tag : Tag) (now : Timestamp) : Int := tag.expireTime.toInt - now.toInt

/-- The validity left, to the nanosecond, reaches the minimum. -/
def LastsMinimum (tag : Tag) (minimum : Duration) (now : Timestamp) : Prop :=
  tag.expireTime ≠ Timestamp.undefined ∧
    (minimum.nanoseconds : Int) ≤ secondsValid tag now * 1000000000

/-- The validity left reaches the minimum without its fraction of a second, and with no more
seconds than a timestamp can hold, but not the minimum itself. -/
def FallsShort (tag : Tag) (minimum : Duration) (now : Timestamp) : Prop :=
  tag.expireTime ≠ Timestamp.undefined ∧
    min (minimum.wholeSeconds : Int) Timestamp.maxSeconds ≤ secondsValid tag now ∧
    secondsValid tag now * 1000000000 < minimum.nanoseconds

variable {tag : Tag} {minimum : Duration} {now : Timestamp} {cacheTime : Option Duration}

theorem isOpenEnded_iff :
    (!tag.hasExpireTime && tag.hasLastModified) = true ↔ IsOpenEnded tag := by
  simp [IsOpenEnded, Tag.hasExpireTime, Tag.hasLastModified]

/-- The minimum is compared without its fraction of a second, and cut off where timestamps
end. -/
theorem any_timeToLiveAt_iff :
    ((tag.timeToLiveAt now).any fun left => decide (minimum.clampedSeconds ≤ left)) = true ↔
      tag.expireTime ≠ Timestamp.undefined ∧
        min (minimum.wholeSeconds : Int) Timestamp.maxSeconds ≤ secondsValid tag now := by
  have range : (0 : Int) ≤ Timestamp.maxSeconds := by decide
  cases expires : tag.hasExpireTime with
  | false =>
      have endless : tag.expireTime = Timestamp.undefined := by
        simpa [Tag.hasExpireTime] using expires
      simp [Tag.timeToLiveAt, expires, endless]
  | true =>
      have ends : tag.expireTime ≠ Timestamp.undefined := bne_iff_ne.1 expires
      rw [Tag.timeToLiveAt, if_pos expires, Option.any_some, decide_eq_true_iff,
        Int64.le_iff_toInt_le, Duration.toInt_clampedSeconds, Timestamp.toInt_saturatingSub,
        and_iff_right ends, secondsValid]
      omega

/-- In exact seconds, the rule for what is left and the case that falls short of it together
say that the whole seconds of the minimum are reached. -/
theorem lastsMinimum_or_fallsShort_iff :
    LastsMinimum tag minimum now ∨ FallsShort tag minimum now ↔
      tag.expireTime ≠ Timestamp.undefined ∧
        min (minimum.wholeSeconds : Int) Timestamp.maxSeconds ≤ secondsValid tag now := by
  have exactly := minimum.nanoseconds_eq
  constructor
  · rintro (⟨ends, lasts⟩ | ⟨ends, reaches, -⟩)
    · exact ⟨ends, by omega⟩
    · exact ⟨ends, reaches⟩
  · rintro ⟨ends, reaches⟩
    rcases Int.lt_or_le (secondsValid tag now * 1000000000) minimum.nanoseconds with short | lasts
    · exact .inr ⟨ends, reaches, short⟩
    · exact .inl ⟨ends, lasts⟩

/-- Nothing falls short of a minimum of whole seconds that a timestamp can hold. -/
theorem not_fallsShort_of_whole
    (whole : minimum.subsecond = 0)
    (fits : (minimum.wholeSeconds : Int) ≤ Timestamp.maxSeconds) :
    ¬FallsShort tag minimum now := by
  rintro ⟨-, reaches, short⟩
  have exactly := minimum.nanoseconds_eq
  omega

/-! ## The decision -/

/-- The decision goes through the rules in order; only the second one changes the tag. -/
theorem shouldStoreAt_cases
    (cacheTime : Option Duration)
    (minimum : Duration)
    (tag : Tag)
    (now : Timestamp) :
    (IsOpenEnded tag ∧ shouldStoreAt cacheTime minimum tag now = (true, tag)) ∨
    (¬IsOpenEnded tag ∧ ∃ time, cacheTime = some time ∧ minimum ≤ time ∧
      shouldStoreAt cacheTime minimum tag now =
        (true, if tag.hasExpireTime then tag
          else { tag with expireTime := now.saturatingAdd time.clampedSeconds })) ∨
    (¬IsOpenEnded tag ∧ ¬ReachesMinimum cacheTime minimum ∧
      shouldStoreAt cacheTime minimum tag now =
        ((tag.timeToLiveAt now).any fun left => decide (minimum.clampedSeconds ≤ left), tag)) := by
  unfold shouldStoreAt
  by_cases openEnded : IsOpenEnded tag
  · rw [if_pos (isOpenEnded_iff.2 openEnded)]
    exact .inl ⟨openEnded, rfl⟩
  · rw [if_neg (mt isOpenEnded_iff.1 openEnded)]
    right
    cases cacheTime with
    | none => exact .inr ⟨openEnded, nofun, rfl⟩
    | some time =>
        dsimp only
        by_cases reaches : minimum ≤ time
        · rw [if_pos reaches]
          exact .inl ⟨openEnded, time, rfl, reaches, rfl⟩
        · rw [if_neg reaches]
          refine .inr ⟨openEnded, ?_, rfl⟩
          rintro ⟨_, ⟨⟩, reached⟩
          exact reaches reached

/-- A document is worth storing by one of the three rules, or because its seconds are
compared with the whole seconds of the minimum. -/
theorem shouldStoreAt_iff :
    (shouldStoreAt cacheTime minimum tag now).1 = true ↔
      (IsOpenEnded tag ∨ ReachesMinimum cacheTime minimum ∨ LastsMinimum tag minimum now) ∨
        FallsShort tag minimum now := by
  rw [or_assoc, or_assoc, lastsMinimum_or_fallsShort_iff]
  obtain ⟨openEnded, decided⟩ | ⟨-, time, configured, reaches, decided⟩ |
    ⟨notOpen, below, decided⟩ := shouldStoreAt_cases cacheTime minimum tag now
  · exact iff_of_true (by rw [decided]) (.inl openEnded)
  · exact iff_of_true (by rw [decided]) (.inr (.inl ⟨time, configured, reaches⟩))
  · rw [decided, or_iff_right notOpen, or_iff_right below]
    exact any_timeToLiveAt_iff

/-- What is stored keeps its tag, but for an open end that is filled. -/
theorem filled_of_worthy
    {filled : Tag}
    (worthy : shouldStoreAt cacheTime minimum tag now = (true, filled)) :
    filled = tag ∨ tag.expireTime = Timestamp.undefined ∧
      filled = { tag with expireTime := filled.expireTime } := by
  obtain ⟨-, decided⟩ | ⟨-, time, -, -, decided⟩ | ⟨-, -, decided⟩ :=
    shouldStoreAt_cases cacheTime minimum tag now
  · rw [decided] at worthy
    cases worthy
    exact .inl rfl
  · rw [decided] at worthy
    cases worthy
    cases expires : tag.hasExpireTime with
    | true => exact .inl rfl
    | false => exact .inr ⟨by simpa [Tag.hasExpireTime] using expires, rfl⟩
  · rw [decided, Prod.mk.injEq] at worthy
    exact .inl worthy.2.symm

/-- Seconds of a cache time past `now`, with no more of them than a timestamp can hold, and
cut off where timestamps end. -/
theorem toInt_filled (now : Timestamp) (time : Duration) :
    (now.saturatingAdd time.clampedSeconds).toInt =
      min (now.toInt + min (time.wholeSeconds : Int) Timestamp.maxSeconds)
        Timestamp.maxSeconds := by
  have lowest := now.lowest_le
  have range : (0 : Int) ≤ Timestamp.maxSeconds := by decide
  rw [Timestamp.toInt_saturatingAdd, Duration.toInt_clampedSeconds]
  omega

/-- A new document is stored exactly if one of the three rules says so, or its validity falls
short of the minimum by no more than a fraction of a second or by what timestamps cannot hold;
a minimum of whole seconds that a timestamp can hold leaves the three rules alone.  The tag
changes only where the configured cache time fills an open end. -/
theorem stored_by_rules_or_short
    {τ : Type}
    [CacheTier τ]
    (chain : Chain τ)
    (cacheTime : Option Duration)
    (tag : Tag)
    (now : Timestamp) :
    ∃ minimum, chain.minimalCacheTime = minimum ∧ chain.HasMinimum minimum ∧
      ((shouldStoreAt cacheTime minimum tag now).1 = true ↔
        (IsOpenEnded tag ∨ ReachesMinimum cacheTime minimum ∨ LastsMinimum tag minimum now) ∨
          FallsShort tag minimum now) ∧
      (minimum.subsecond = 0 → (minimum.wholeSeconds : Int) ≤ Timestamp.maxSeconds →
        ¬FallsShort tag minimum now) ∧
      (¬IsOpenEnded tag → tag.expireTime = Timestamp.undefined →
        ∀ time, cacheTime = some time → minimum ≤ time →
          ∃ filled : Timestamp,
            (shouldStoreAt cacheTime minimum tag now).2 = { tag with expireTime := filled } ∧
            filled.toInt =
              min (now.toInt + min (time.wholeSeconds : Int) Timestamp.maxSeconds)
                Timestamp.maxSeconds) ∧
      (IsOpenEnded tag ∨ tag.expireTime ≠ Timestamp.undefined ∨
          ¬ReachesMinimum cacheTime minimum →
        (shouldStoreAt cacheTime minimum tag now).2 = tag) := by
  refine ⟨_, rfl, chain.hasMinimum, shouldStoreAt_iff, not_fallsShort_of_whole, ?_, ?_⟩
  · intro notOpen endless time configured reaches
    have without : tag.hasExpireTime = false := by simpa [Tag.hasExpireTime] using endless
    obtain ⟨openEnded, -⟩ | ⟨-, other, same, -, decided⟩ | ⟨-, below, -⟩ :=
      shouldStoreAt_cases cacheTime chain.minimalCacheTime tag now
    · exact absurd openEnded notOpen
    · rw [configured] at same
      cases same
      rw [decided, without]
      exact ⟨_, rfl, toInt_filled now time⟩
    · exact absurd ⟨time, configured, reaches⟩ below
  · intro kept
    obtain ⟨-, decided⟩ | ⟨notOpen, time, configured, reaches, decided⟩ | ⟨-, -, decided⟩ :=
      shouldStoreAt_cases cacheTime chain.minimalCacheTime tag now
    · rw [decided]
    · have ends : tag.hasExpireTime = true :=
        bne_iff_ne.2 ((kept.resolve_left notOpen).resolve_right
          (not_not_intro ⟨time, configured, reaches⟩))
      rw [decided, ends]
      rfl
    · rw [decided]

/-- A tier that finds five seconds and a half worth storing. -/
def halfPastFive : Chain MemoryTier := .ofTiers [.new { minimalCacheTime := ⟨5500000000⟩ }]

/-- Five seconds of validity do not reach the minimum, but are stored. -/
theorem short_document_is_stored :
    (shouldStoreAt none halfPastFive.minimalCacheTime { expireTime := 105 } 100).1 = true ∧
      ¬(IsOpenEnded { expireTime := 105 } ∨ ReachesMinimum none halfPastFive.minimalCacheTime ∨
        LastsMinimum { expireTime := 105 } halfPastFive.minimalCacheTime 100) := by
  refine ⟨by decide, ?_⟩
  rintro (openEnded | ⟨_, ⟨⟩, -⟩ | lasts)
  · exact absurd openEnded.1 (by decide)
  · exact absurd lasts.2 (by decide)

/-- Six seconds reach the minimum, whether they are configured or left. -/
theorem stored_by_rules_or_short_half :
    (shouldStoreAt (some (.seconds 6)) halfPastFive.minimalCacheTime {} 100).2 =
        { expireTime := 106 } ∧
      (shouldStoreAt none halfPastFive.minimalCacheTime { expireTime := 106 } 100).1 = true := by
  obtain ⟨_, rfl, -, -, -, fills, -⟩ :=
    stored_by_rules_or_short halfPastFive (some (.seconds 6)) {} 100
  obtain ⟨_, rfl, -, decided, -⟩ :=
    stored_by_rules_or_short halfPastFive none { expireTime := 106 } 100
  constructor
  · obtain ⟨filled, changed, exactly⟩ :=
      fills (fun openEnded => openEnded.2 rfl) rfl (.seconds 6) rfl (by decide)
    have hundredSix : filled = 106 := Int64.toInt_inj.1 (exactly.trans (by decide))
    rw [changed, hundredSix]
  · exact decided.2 (.inl (.inr (.inr ⟨by decide, by decide⟩)))

end Block
end FragmentCache
