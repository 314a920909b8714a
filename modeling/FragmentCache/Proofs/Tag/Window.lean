import FragmentCache.Tag.Prefetch
import Mathlib.Tactic.Ring

/-!
# The window of early refreshes

The window is computed with binary fractions of double precision, but no rounding shows:
a copy is in its window exactly when fifteen times the seconds left are at most fifteen
and the cache time, cut off at one minute.  Numbers of seconds that fit three bits are
tried one by one; larger ones are larger than every window because of their exponents.
-/

namespace FragmentCache
namespace Tag

/-! ## Large numbers in double precision -/

open Float.Model Float.Model.UnpackedFloat

theorem log2_of_full
    {mantissa : Nat}
    (full : 2 ^ 52 ≤ mantissa)
    (narrow : mantissa < 2 ^ 53) :
    mantissa.log2 = 52 :=
  (Nat.log2_eq_iff (by omega)).2 ⟨full, narrow⟩

/-- The bits of a full mantissa spell its value with the hidden bit in front. -/
theorem toNat_hiddenBit_append
    {mantissa : Nat}
    (full : 2 ^ 52 ≤ mantissa)
    (narrow : mantissa < 2 ^ 53) :
    (1#1 ++ BitVec.ofNat 52 mantissa).toNat = mantissa := by
  rw [BitVec.toNat_append, ← Nat.shiftLeft_add_eq_or_of_lt (BitVec.ofNat 52 mantissa).isLt,
    BitVec.toNat_ofNat, Nat.shiftLeft_eq]
  change 1 * 2 ^ 52 + mantissa % 2 ^ 52 = mantissa
  omega

/-- The sign bit of what is packed as positive is zero. -/
theorem unpackSign_positive (exponent : BitVec 11) (mantissa : BitVec 52) :
    unpackSign (packComponents .binary64 .positive exponent mantissa) = 0#1 := by
  have top : (packComponents .binary64 .positive exponent mantissa).getLsbD 63 = false := by
    change (0#1 ++ exponent ++ mantissa).getLsbD 63 = false
    rw [BitVec.getLsbD_append, BitVec.getLsbD_append]
    rfl
  apply BitVec.eq_of_getLsbD_eq
  intro place bound
  obtain rfl : place = 0 := by omega
  delta unpackSign
  rw [BitVec.getLsbD_cast, BitVec.getLsbD_extractLsb]
  exact Bool.and_eq_false_iff.2 (Or.inr top)

/-- A full mantissa is packed without its hidden bit, next to the biased exponent. -/
theorem pack_of_full
    {mantissa : Nat}
    {exponent : Int}
    (positive : 0 < mantissa)
    (full : 2 ^ 52 ≤ mantissa)
    (narrow : mantissa < 2 ^ 53)
    (below : exponent ≤ 971) :
    UnpackedFloat.pack .binary64 (.finite .positive mantissa exponent positive) =
      packComponents .binary64 .positive (BitVec.ofNat 11 (exponent + 1075).toNat)
        (BitVec.ofNat 52 mantissa) := by
  have bias : (exponent + Format.binary64.exponentBias +
      Format.binary64.mantissaBitsWithoutImplicit).toNat = (exponent + 1075).toNat := by
    change (exponent + (1023 : Nat) + (52 : Nat)).toNat = _
    omega
  have finite : ¬2 ^ Format.binary64.exponentBits ≤ (exponent + 1075).toNat + 1 := by
    change ¬2048 ≤ (exponent + 1075).toNat + 1
    omega
  have whole : 52 + 1 = Format.binary64.mantissaBits := rfl
  delta UnpackedFloat.pack
  dsimp only
  rw [log2_of_full full narrow, bias, if_neg finite, if_pos whole]

/-- What is packed with a full mantissa and an exponent in range is unpacked again. -/
theorem unpack_pack
    {mantissa : Nat}
    {exponent : Int}
    (positive : 0 < mantissa)
    (full : 2 ^ 52 ≤ mantissa)
    (narrow : mantissa < 2 ^ 53)
    (above : -1074 ≤ exponent)
    (below : exponent ≤ 971) :
    UnpackedFloat.unpack .binary64
        (UnpackedFloat.pack .binary64 (.finite .positive mantissa exponent positive)) =
      .finite .positive mantissa exponent positive := by
  let biased := (exponent + 1075).toNat
  let bits := packComponents .binary64 .positive (BitVec.ofNat 11 biased) (BitVec.ofNat 52 mantissa)
  have exponentField : (BitVec.ofNat 11 biased).toNat = biased := by
    rw [BitVec.toNat_ofNat]
    exact Nat.mod_eq_of_lt (by omega)
  have notOnes : BitVec.ofNat 11 biased ≠ -1#11 := by
    intro same
    have ones : biased = 2047 := by rw [← exponentField, same]; rfl
    omega
  have notZeros : BitVec.ofNat 11 biased ≠ 0#11 := by
    intro same
    have zeros : biased = 0 := by rw [← exponentField, same]; rfl
    omega
  have exponentBits : unpackExponent bits = BitVec.ofNat 11 biased :=
    unpackExponent_packComponents ..
  have mantissaBits : unpackMantissa bits = BitVec.ofNat 52 mantissa :=
    unpackMantissa_packComponents ..
  have packed :
      UnpackedFloat.pack .binary64 (.finite .positive mantissa exponent positive) = bits :=
    pack_of_full positive full narrow below
  rw [packed]
  delta UnpackedFloat.unpack
  dsimp only
  rw [if_neg (exponentBits ▸ notOnes), if_neg (exponentBits ▸ notZeros), UnpackedFloat.finite.injEq]
  refine ⟨congrArg Sign.ofBitVec (unpackSign_positive _ _), ?_, ?_⟩
  · rw [mantissaBits]
    exact toNat_hiddenBit_append full narrow
  · rw [exponentBits, exponentField]
    change (biased : Int) - ((1023 : Nat) + (52 : Nat)) = exponent
    omega

theorem mantissa_shiftRight (extended : ExtendedMantissa) (amount : Nat) :
    (extended >>> amount).mantissa = extended.mantissa / 2 ^ amount := by
  change (Nat.repeat ExtendedMantissa.shiftRightOne amount extended).mantissa = _
  induction amount with
  | zero => exact (Nat.div_one _).symm
  | succ amount inductionHypothesis =>
      change (Nat.repeat ExtendedMantissa.shiftRightOne amount extended).mantissa / 2 = _
      rw [inductionHypothesis, Nat.div_div_eq_div_mul, Nat.pow_succ]

/-- Rounding adds at most one to a mantissa. -/
theorem roundedMantissa_bounds (extended : ExtendedMantissa) :
    extended.mantissa ≤ extended.roundedMantissa ∧
      extended.roundedMantissa ≤ extended.mantissa + 1 := by
  obtain ⟨mantissa, roundBit, stickyBit⟩ := extended
  cases roundBit <;> cases stickyBit <;>
    simp [ExtendedMantissa.roundedMantissa, ExtendedMantissa.accuracy,
      Accuracy.roundToNearestEven]
  omega

/-- A mantissa that is full is shifted to the right until it has 53 bits. -/
theorem shiftToTargetExponent_of_full
    {mantissa : Nat}
    {exponent : Int}
    (full : 2 ^ 52 ≤ mantissa)
    (above : -1074 ≤ exponent) :
    shiftToTargetExponent .binary64 mantissa exponent .exact =
      ((⟨mantissa, false, false⟩ : ExtendedMantissa) >>> (mantissa.log2 - 52),
        exponent + (mantissa.log2 - 52 : Nat)) := by
  have large : 52 ≤ mantissa.log2 := (Nat.le_log2 (by omega)).2 full
  have target : Format.binary64.targetExponent (totalExponent mantissa exponent) =
      exponent + (mantissa.log2 - 52 : Nat) := by
    change max ((mantissa.log2 : Int) + 1 + exponent - (53 : Nat)) (-1074) = _
    omega
  rw [shiftToTargetExponent, target, shiftToExponent]
  have amount : (exponent + (mantissa.log2 - 52 : Nat) - exponent).toNat = mantissa.log2 - 52 := by
    omega
  rw [amount]
  rfl

/-- Rounding up may carry into one more bit, which is shifted out again. -/
theorem shiftedOut_bounds
    {rounded : Nat}
    (full : 2 ^ 52 ≤ rounded)
    (atMost : rounded ≤ 2 ^ 53) :
    2 ^ 52 ≤ rounded / 2 ^ (rounded.log2 - 52) ∧ rounded / 2 ^ (rounded.log2 - 52) < 2 ^ 53 ∧
      rounded.log2 - 52 ≤ 1 := by
  by_cases carried : rounded < 2 ^ 53
  · rw [log2_of_full full carried, Nat.sub_self, Nat.pow_zero, Nat.div_one]
    exact ⟨full, carried, Nat.zero_le _⟩
  · obtain rfl : rounded = 2 ^ 53 := by omega
    rw [Nat.log2_two_pow]
    decide

/-- Rounding makes a full mantissa one of 53 bits; the exponent grows by what is shifted
out, or by one more. -/
theorem roundWithAccuracy_of_full
    {mantissa : Nat}
    {exponent : Int}
    (full : 2 ^ 52 ≤ mantissa)
    (above : -1074 ≤ exponent) :
    ∃ rounded shifted positive,
      roundWithAccuracy .binary64 .positive mantissa exponent .exact =
        .finite .positive rounded shifted positive ∧
      2 ^ 52 ≤ rounded ∧ rounded < 2 ^ 53 ∧
      exponent + (mantissa.log2 - 52 : Nat) ≤ shifted ∧
      shifted ≤ exponent + (mantissa.log2 - 52 : Nat) + 1 := by
  have positive : mantissa ≠ 0 := by omega
  have large : 52 ≤ mantissa.log2 := (Nat.le_log2 positive).2 full
  obtain ⟨atLeast, below⟩ := (Nat.log2_eq_iff positive).1 rfl
  let amount := mantissa.log2 - 52
  let shifted : ExtendedMantissa := (⟨mantissa, false, false⟩ : ExtendedMantissa) >>> amount
  have quotient : shifted.mantissa = mantissa / 2 ^ amount := mantissa_shiftRight _ amount
  have split : 2 ^ mantissa.log2 = 2 ^ 52 * 2 ^ amount := by
    rw [← Nat.pow_add]
    congr 1
    omega
  have quotientFull : 2 ^ 52 ≤ shifted.mantissa := by
    rw [quotient, Nat.le_div_iff_mul_le (Nat.two_pow_pos amount), ← split]
    exact atLeast
  have quotientNarrow : shifted.mantissa < 2 ^ 53 := by
    rw [quotient, Nat.div_lt_iff_lt_mul (Nat.two_pow_pos amount)]
    calc mantissa < 2 ^ (mantissa.log2 + 1) := below
      _ = 2 * (2 ^ 52 * 2 ^ amount) := by rw [Nat.pow_succ, split, Nat.mul_comm]
      _ = 2 ^ 53 * 2 ^ amount := by ring
  obtain ⟨roundedDown, roundedUp⟩ := roundedMantissa_bounds shifted
  have roundedFull : 2 ^ 52 ≤ shifted.roundedMantissa := by omega
  have first := shiftToTargetExponent_of_full full above
  have second := shiftToTargetExponent_of_full roundedFull
    (by omega : -1074 ≤ exponent + (amount : Nat))
  let further := shifted.roundedMantissa.log2 - 52
  let final : ExtendedMantissa := (⟨shifted.roundedMantissa, false, false⟩ : ExtendedMantissa) >>>
    further
  have finalQuotient : final.mantissa = shifted.roundedMantissa / 2 ^ further :=
    mantissa_shiftRight _ further
  obtain ⟨finalFull, finalNarrow, atMostOne⟩ := shiftedOut_bounds roundedFull (by omega)
  rw [← finalQuotient] at finalFull finalNarrow
  have nonzero : final.mantissa ≠ 0 := by omega
  refine ⟨final.mantissa, exponent + (amount : Nat) + (further : Nat), by omega, ?_, finalFull,
    finalNarrow, by omega, by omega⟩
  rw [roundWithAccuracy, first]
  dsimp only
  rw [second]
  exact dif_neg nonzero

/-- A positive number of 64 bits has a full mantissa, and an exponent as large as it is. -/
theorem ofNat_of_positive
    {number : Nat}
    (positive : 0 < number)
    (bounded : number < 2 ^ 64) :
    ∃ mantissa exponent nonzero,
      (Float.Model.pack (UnpackedFloat.ofNat .binary64 number)).unpack =
        .finite .positive mantissa exponent nonzero ∧
      (number.log2 : Int) - 52 ≤ exponent := by
  have nonzero : number ≠ 0 := by omega
  have log2 : number.log2 < 64 := (Nat.log2_lt nonzero).2 bounded
  obtain ⟨atLeast, below⟩ := (Nat.log2_eq_iff nonzero).1 rfl
  let amount := 52 - number.log2
  let mantissa := number <<< amount
  have product : mantissa = number * 2 ^ amount := Nat.shiftLeft_eq number amount
  have wide : mantissa.log2 = number.log2 + amount := by
    refine (Nat.log2_eq_iff ?_).2 ⟨?_, ?_⟩
    · rw [product]
      exact Nat.mul_ne_zero nonzero (Nat.two_pow_pos amount).ne'
    · rw [product, Nat.pow_add]
      exact Nat.mul_le_mul_right _ atLeast
    · rw [product, Nat.add_right_comm, Nat.pow_add]
      exact Nat.mul_lt_mul_of_pos_right below (Nat.two_pow_pos amount)
  have full : 2 ^ 52 ≤ mantissa := by
    have nonzeroMantissa : mantissa ≠ 0 := by
      rw [product]
      exact Nat.mul_ne_zero nonzero (Nat.two_pow_pos amount).ne'
    exact (Nat.le_log2 nonzeroMantissa).1 (by omega)
  have rounds : UnpackedFloat.ofNat .binary64 number =
      roundWithAccuracy .binary64 .positive mantissa (-(amount : Int)) .exact := by
    have target : Format.binary64.targetExponent (totalExponent number 0) =
        (number.log2 : Int) - 52 := by
      change max ((number.log2 : Int) + 1 + 0 - (53 : Nat)) (-1074) = _
      omega
    have shift : ((0 : Int) - ((number.log2 : Int) - 52)).toNat = amount := by omega
    have greater : compare (number : Int) 0 = .gt := by
      rw [Int.compare_eq_gt]
      omega
    rw [UnpackedFloat.ofNat, UnpackedFloat.ofInt, UnpackedFloat.normalize, greater]
    dsimp only
    rw [UnpackedFloat.round, Int.toNat_natCast, target, decreaseExponent, shift]
    dsimp only
    rw [Int.zero_sub]
  obtain ⟨rounded, exponent, roundedPositive, roundedEq, roundedFull, roundedNarrow, lower, upper⟩ :=
    roundWithAccuracy_of_full full (by omega : -1074 ≤ -(amount : Int))
  refine ⟨rounded, exponent, roundedPositive, ?_, by omega⟩
  rw [rounds, roundedEq]
  exact unpack_pack roundedPositive roundedFull roundedNarrow (by omega) (by omega)

/-- A fraction that is less than eight, by its exponent. -/
def IsBelowEight (fraction : Float) : Prop :=
  match fraction.toModel.unpack with
  | .finite .positive _ exponent _ => exponent < -49
  | _ => False

instance (fraction : Float) : Decidable (IsBelowEight fraction) := by
  unfold IsBelowEight
  split <;> infer_instance

/-- A large number is larger than any fraction below eight. -/
theorem not_toFloat_le
    {number : UInt64}
    (large : 8 ≤ number)
    {fraction : Float}
    (below : IsBelowEight fraction) :
    ¬number.toFloat ≤ fraction := by
  have atLeast : 8 ≤ number.toNat := large
  obtain ⟨mantissa, exponent, nonzero, unpacked, lower⟩ :=
    ofNat_of_positive (by omega) number.toNat_lt
  have exponents : 3 ≤ number.toNat.log2 := (Nat.le_log2 (by omega)).2 atLeast
  intro atMost
  have compared : (Float.Model.pack (UnpackedFloat.ofNat .binary64 number.toNat)).unpack.le
      fraction.toModel.unpack = true := of_decide_eq_true atMost
  unfold IsBelowEight at below
  split at below
  · next other otherExponent otherNonzero otherUnpacked =>
      have greater : compare exponent otherExponent = .gt := by
        rw [Int.compare_eq_gt]
        omega
      rw [unpacked, otherUnpacked] at compared
      delta UnpackedFloat.le UnpackedFloat.compare at compared
      dsimp only at compared
      rw [greater] at compared
      cases compared
  · exact below.elim

/-! ## The law -/

/-- For the first seven seconds and every cache time below a minute. -/
theorem toFloat_le_scaledWindow_small :
    ∀ left : Fin 8, ∀ cacheTime : Fin 60,
      (UInt64.ofNat left).toFloat ≤ scaledWindow (Int64.ofNat cacheTime) ↔
        15 * left.val ≤ 15 + cacheTime.val := by
  decide +kernel

/-- With less than a minute of cache time the scaled window is below eight. -/
theorem isBelowEight_scaledWindow :
    ∀ cacheTime : Fin 60, IsBelowEight (scaledWindow (Int64.ofNat cacheTime)) := by
  decide +kernel

theorem ofNat_toNat_toInt
    {number : Timestamp}
    (nonnegative : 0 ≤ number.toInt) :
    Int64.ofNat number.toInt.toNat = number := by
  rw [← Int64.ofInt_eq_ofNat, Int.toNat_of_nonneg nonnegative, Int64.ofInt_toInt]

/-- A negative cache time counts as none. -/
theorem scaledWindow_eq (cacheTime : Timestamp) :
    scaledWindow cacheTime = scaledWindow (Int64.ofNat (max 0 cacheTime.toInt).toNat) := by
  by_cases nonnegative : 0 ≤ cacheTime.toInt
  · rw [Int.max_eq_right nonnegative, ofNat_toNat_toInt nonnegative]
  · have below : cacheTime ≤ 0 := Int64.le_iff_toInt_le.2 (Int.le_of_lt (Int.not_le.1 nonnegative))
    have none : max cacheTime 0 = 0 := if_pos below
    rw [Int.max_eq_left (Int.le_of_lt (Int.not_le.1 nonnegative)), scaledWindow, scaledWindow, none]
    rfl

/-- The window is one second and a fifteenth of the cache time, which counts up to a
minute. -/
theorem inWindow_iff
    (tag : Tag)
    (taken : Timestamp)
    {left : Timestamp}
    (positive : 0 < left) :
    tag.inWindow (some taken) left = true ↔
      15 * left.toInt ≤ 15 + min 60 (max 0 (tag.expireTime.saturatingSub taken).toInt) := by
  let cacheTime := tag.expireTime.saturatingSub taken
  have positiveInt : 0 < left.toInt := Int64.lt_iff_toInt_lt.1 positive
  change (if fullCacheTime ≤ cacheTime then decide (left ≤ longestWindow)
    else decide (left.toUInt64.toFloat ≤ scaledWindow cacheTime)) = true ↔
      15 * left.toInt ≤ 15 + min 60 (max 0 cacheTime.toInt)
  by_cases full : fullCacheTime ≤ cacheTime
  · have fullInt : 60 ≤ cacheTime.toInt := Int64.le_iff_toInt_le.1 full
    have longest : left ≤ longestWindow ↔ left.toInt ≤ 5 := Int64.le_iff_toInt_le
    rw [if_pos full, decide_eq_true_iff, longest]
    omega
  · have notFull : ¬60 ≤ cacheTime.toInt := fun atLeast => full (Int64.le_iff_toInt_le.2 atLeast)
    let seconds := (max 0 cacheTime.toInt).toNat
    have leftWord : left.toUInt64 = UInt64.ofNat left.toInt.toNat := by
      conv_lhs => rw [← ofNat_toNat_toInt (Int.le_of_lt positiveInt)]
      rfl
    rw [if_neg full, decide_eq_true_iff, scaledWindow_eq, leftWord]
    by_cases small : left.toInt.toNat < 8
    · rw [toFloat_le_scaledWindow_small ⟨left.toInt.toNat, small⟩ ⟨seconds, by omega⟩]
      dsimp only
      omega
    · have large : 8 ≤ UInt64.ofNat left.toInt.toNat := by
        have below : left.toInt < 2 ^ 63 := left.toInt_lt
        have bounded : left.toInt.toNat < UInt64.size := by
          change left.toInt.toNat < 2 ^ 64
          omega
        rw [UInt64.le_iff_toNat_le, UInt64.toNat_ofNat_of_lt' bounded]
        exact Nat.not_lt.1 small
      have never := not_toFloat_le large (isBelowEight_scaledWindow ⟨seconds, by omega⟩)
      constructor
      · exact fun within => absurd within never
      · intro within
        omega

/-- No window is longer than the longest one. -/
theorem le_longestWindow_of_inWindow
    {tag : Tag}
    {taken : Option Timestamp}
    {left : Timestamp}
    (positive : 0 < left)
    (within : tag.inWindow taken left = true) :
    left.toInt ≤ 5 := by
  cases taken with
  | none =>
      have shortest : left ≤ shortestWindow := of_decide_eq_true within
      exact Int.le_trans (Int64.le_iff_toInt_le.1 shortest) (by decide)
  | some taken =>
      have := (inWindow_iff tag taken positive).1 within
      omega

/-- Once in its window, a copy stays there. -/
theorem inWindow_of_le
    {tag : Tag}
    {taken : Option Timestamp}
    {left fewer : Timestamp}
    (positive : 0 < fewer)
    (atMost : fewer ≤ left)
    (within : tag.inWindow taken left = true) :
    tag.inWindow taken fewer = true := by
  cases taken with
  | none => exact decide_eq_true (Int64.le_trans atMost (of_decide_eq_true within))
  | some taken =>
      have fewerInt := Int64.le_iff_toInt_le.1 atMost
      have enough := (inWindow_iff tag taken (Int64.lt_of_lt_of_le positive atMost)).1 within
      exact (inWindow_iff tag taken positive).2 (by omega)

/-! ## Due copies -/

variable {tag : Tag} {stored other now next : Timestamp}

/-- The seconds left are the difference, as long as it can be said. -/
theorem secondsLeft_eq_ok_iff {later left : Timestamp} (ahead : now < later) :
    secondsLeft later now = .ok left ↔ left.toInt = later.toInt - now.toInt := by
  have aheadInt := Int64.lt_iff_toInt_lt.1 ahead
  have range : left.toInt ≤ Timestamp.maxSeconds := Int64.toInt_le left
  have lowest : -2 ^ 63 ≤ now.toInt ∧ -2 ^ 63 ≤ later.toInt := ⟨now.le_toInt, later.le_toInt⟩
  have highest : Timestamp.maxSeconds = 2 ^ 63 - 1 := rfl
  rw [secondsLeft]
  split
  · constructor
    · exact nofun
    · intro same
      omega
  · next fits =>
      have exactly : (later - now).toInt = later.toInt - now.toInt := by
        rw [Int64.toInt_sub]
        apply Int.bmod_eq_of_le <;> omega
      rw [Except.ok.injEq, ← exactly]
      exact ⟨fun same => by rw [same], fun same => (Int64.toInt_inj.1 same).symm⟩

/-- A fresh copy is due in its window. -/
theorem prefetchDueAt_of_ahead
    {left : Timestamp}
    (expires : tag.hasExpireTime = true)
    (ahead : now < tag.expireTime)
    (leftEq : left.toInt = tag.expireTime.toInt - now.toInt) :
    tag.prefetchDueAt stored now = .ok (tag.inWindow (tag.takenAt? stored) left) := by
  rw [prefetchDueAt, if_neg (by simp [expires]), if_neg (Int64.not_le.2 ahead),
    (secondsLeft_eq_ok_iff ahead).2 leftEq]
  rfl

/-- A copy without an end of validity is never due. -/
theorem hasExpireTime_of_due (due : tag.prefetchDueAt stored now = .ok true) :
    tag.hasExpireTime = true := by
  by_contra endless
  rw [prefetchDueAt, if_pos (by simpa using endless)] at due
  cases due

/-- A copy that is due and fresh is in its window. -/
theorem exists_left_of_due
    (due : tag.prefetchDueAt stored now = .ok true)
    (ahead : now < tag.expireTime) :
    ∃ left, left.toInt = tag.expireTime.toInt - now.toInt ∧
      tag.inWindow (tag.takenAt? stored) left = true := by
  have expires := hasExpireTime_of_due due
  rw [prefetchDueAt, if_neg (by simp [expires]), if_neg (Int64.not_le.2 ahead)] at due
  cases seconds : secondsLeft tag.expireTime now with
  | error crash => rw [seconds] at due; cases due
  | ok left =>
      rw [seconds] at due
      exact ⟨left, (secondsLeft_eq_ok_iff ahead).1 seconds, Except.ok.inj due⟩

/-- Where a copy was due once, another copy with its tag is judged later without a
crash: by the window while it is fresh. -/
theorem prefetchDueAt_later
    (due : tag.prefetchDueAt stored now = .ok true)
    (later : now ≤ next)
    (ahead : next < tag.expireTime) :
    ∃ left, 0 < left ∧ left.toInt ≤ 5 ∧
      (∀ other, tag.prefetchDueAt other next = .ok (tag.inWindow (tag.takenAt? other) left)) ∧
      tag.inWindow (tag.takenAt? stored) left = true := by
  have expires := hasExpireTime_of_due due
  obtain ⟨before, beforeEq, within⟩ :=
    exists_left_of_due due (Int64.lt_of_le_of_lt later ahead)
  have laterInt := Int64.le_iff_toInt_le.1 later
  have aheadInt := Int64.lt_iff_toInt_lt.1 ahead
  have longest : before.toInt ≤ 5 := by
    refine le_longestWindow_of_inWindow (Int64.lt_iff_toInt_lt.2 ?_) within
    rw [Int64.toInt_zero]
    omega
  have size : (Int64.ofInt (tag.expireTime.toInt - next.toInt)).toInt =
      tag.expireTime.toInt - next.toInt := by
    apply Int64.toInt_ofInt_of_le <;> omega
  have positive : 0 < Int64.ofInt (tag.expireTime.toInt - next.toInt) := by
    rw [Int64.lt_iff_toInt_lt, size, Int64.toInt_zero]
    omega
  refine ⟨_, positive, by omega, fun other => prefetchDueAt_of_ahead expires ahead size, ?_⟩
  refine inWindow_of_le positive (Int64.le_iff_toInt_le.2 ?_) within
  omega

/-- What expires some time and has not yet has its end ahead. -/
theorem ahead_of_fresh
    (expires : tag.hasExpireTime = true)
    (fresh : tag.expiredAt now = false) :
    now < tag.expireTime := by
  rw [expiredAt, expires, Bool.true_and, decide_eq_false_iff_not] at fresh
  exact Int64.not_le.1 fresh

/-- What is fresh was fresh before. -/
theorem fresh_of_le
    (later : now ≤ next)
    (fresh : tag.expiredAt next = false) :
    tag.expiredAt now = false := by
  rw [expiredAt, Bool.and_eq_false_iff, decide_eq_false_iff_not] at fresh ⊢
  exact fresh.imp_right fun ahead past => ahead (Int64.le_trans past later)

/-- Of two copies with one tag, the one is due and the other is not at a later time only
if that one was stored at another time, and is kept for less than a minute. -/
theorem apart_of_due_of_not_due
    (due : tag.prefetchDueAt stored now = .ok true)
    (later : now ≤ next)
    (fresh : tag.expiredAt next = false)
    (notDue : tag.prefetchDueAt other next = .ok false) :
    stored ≠ other ∧
      (other ≠ Timestamp.undefined → tag.expireTime.saturatingSub other < fullCacheTime) := by
  obtain ⟨left, positive, atMost, judged, within⟩ :=
    prefetchDueAt_later due later (ahead_of_fresh (hasExpireTime_of_due due) fresh)
  have outside : tag.inWindow (tag.takenAt? other) left = false :=
    Except.ok.inj ((judged other).symm.trans notDue)
  constructor
  · rintro rfl
    rw [within] at outside
    cases outside
  · intro defined
    rw [takenAt?, if_pos defined] at outside
    by_contra full
    have fullInt : 60 ≤ (tag.expireTime.saturatingSub other).toInt :=
      Int64.le_iff_toInt_le.1 (Int64.not_lt.1 full)
    have inside := (inWindow_iff tag other positive).2 (by omega)
    rw [outside] at inside
    cases inside

end Tag
end FragmentCache
