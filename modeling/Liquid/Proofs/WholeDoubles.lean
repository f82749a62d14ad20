import Liquid.Number.Basic
import Mathlib

/-!
# Whole numbers as doubles

Where a whole number meets a double, it is rounded to the nearest one, of two nearest ones to that
with the even mantissa. Beyond `2 ^ 53` different whole numbers may meet in one double, but none
ever passes another.

## Main results

`Double.rank?_ofInt`: a whole number of up to 64 bits becomes a double that is a number, of a rank
known in closed form. `Double.wholeRank_mono`: the ranks keep the order. `Double.wholeRank_eq_zero`:
only zero becomes zero.

## Proof strategy

Rounding drops bits one by one and remembers of the dropped ones what the nearest neighbour depends
on. Counted in quarters of the last place kept (`Double.quarters`), each step is monotone and so is
the last choice of a neighbour. The bits of a double count the doubles upwards from zero, so a
mantissa that overflows by rounding just carries into the exponent.
-/

namespace Liquid.Double

open Float.Model Float.Model.UnpackedFloat

/-! ### Dropping bits -/

/-- A mantissa with its residual bits, in quarters of its last place. -/
def quarters (m : ExtendedMantissa) : Nat :=
  4 * m.mantissa + 2 * m.roundBit.toNat + m.stickyBit.toNat

private theorem quarters_shiftRightOne_mono {m n : ExtendedMantissa}
    (le : quarters m ≤ quarters n) :
    quarters m.shiftRightOne ≤ quarters n.shiftRightOne := by
  obtain ⟨m, roundBit, stickyBit⟩ := m
  obtain ⟨n, roundBit', stickyBit'⟩ := n
  have twice (k : Nat) : 4 * (k / 2) + 2 * (k % 2 != 0).toNat = 2 * k := by
    rcases Nat.mod_two_eq_zero_or_one k with even | odd
    · simp [even]; omega
    · simp [odd]; omega
  simp only [quarters, ExtendedMantissa.shiftRightOne, twice] at le ⊢
  cases roundBit <;> cases stickyBit <;> cases roundBit' <;> cases stickyBit' <;>
    simp at le ⊢ <;> omega

private theorem roundedMantissa_mono {m n : ExtendedMantissa} (le : quarters m ≤ quarters n) :
    m.roundedMantissa ≤ n.roundedMantissa := by
  obtain ⟨m, roundBit, stickyBit⟩ := m
  obtain ⟨n, roundBit', stickyBit'⟩ := n
  simp only [quarters] at le
  cases roundBit <;> cases stickyBit <;> cases roundBit' <;> cases stickyBit' <;>
    simp [ExtendedMantissa.roundedMantissa, ExtendedMantissa.accuracy,
      Accuracy.roundToNearestEven] at le ⊢ <;> omega

theorem shift_succ (m : ExtendedMantissa) (k : Nat) :
    m >>> (k + 1) = (m >>> k).shiftRightOne := rfl

private theorem quarters_shift_mono {m n : ExtendedMantissa} (le : quarters m ≤ quarters n)
    (k : Nat) :
    quarters (m >>> k) ≤ quarters (n >>> k) := by
  induction k with
  | zero => exact le
  | succ k ih =>
    rw [shift_succ, shift_succ]
    exact quarters_shiftRightOne_mono ih

/-- No bits behind the last place. -/
def exactly (m : Nat) : ExtendedMantissa := ⟨m, false, false⟩

private theorem exactly_shiftRightOne (m : Nat) : (exactly (2 * m)).shiftRightOne = exactly m := by
  simp [exactly, ExtendedMantissa.shiftRightOne]

private theorem shift_exactly (m j : Nat) : exactly (m * 2 ^ j) >>> j = exactly m := by
  induction j generalizing m with
  | zero => simp only [Nat.pow_zero, Nat.mul_one]; rfl
  | succ j ih =>
    have halves : m * 2 ^ (j + 1) = 2 * m * 2 ^ j := by ring
    rw [halves, shift_succ, ih]
    exact exactly_shiftRightOne m

private theorem shift_scaled (m j k : Nat) : exactly (m * 2 ^ j) >>> (j + k) = exactly m >>> k := by
  induction k with
  | zero => exact shift_exactly m j
  | succ k ih => rw [← Nat.add_assoc, shift_succ, ih, shift_succ]

/-- The whole number nearest to `m / 2 ^ places`. -/
def rounded (m places : Nat) : Nat := (exactly m >>> places).roundedMantissa

theorem rounded_mono {m n : Nat} (le : m ≤ n) (places : Nat) :
    rounded m places ≤ rounded n places :=
  roundedMantissa_mono (quarters_shift_mono (by simp [quarters, exactly, le]) places)

private theorem rounded_scaled (m places j : Nat) :
    rounded (m * 2 ^ j) (j + places) = rounded m places := by
  rw [rounded, shift_scaled, rounded]

@[simp] theorem rounded_zero_places (m : Nat) : rounded m 0 = m := rfl

private theorem rounded_exact (m places : Nat) : rounded (m * 2 ^ places) places = m :=
  rounded_scaled m 0 places

/-- Rounding to 53 bits may carry into one bit more. -/
theorem rounded_bounds {m places : Nat} (bits : m.log2 = 52 + places) :
    2 ^ 52 ≤ rounded m places ∧ rounded m places ≤ 2 ^ 53 := by
  have positive : m ≠ 0 := by
    rintro rfl
    simp at bits
    omega
  constructor
  · have low : 2 ^ 52 * 2 ^ places ≤ m := by
      rw [← Nat.pow_add, ← bits]
      exact Nat.log2_self_le positive
    simpa only [rounded_exact] using rounded_mono low places
  · have high : m ≤ 2 ^ 53 * 2 ^ places := by
      rw [← Nat.pow_add]
      have below := Nat.lt_log2_self (n := m)
      rw [bits, show 52 + places + 1 = 53 + places by omega] at below
      exact below.le
    simpa only [rounded_exact] using rounded_mono high places

/-! ### Rounding to a double -/

/-- What has at least 53 bits loses those behind them. -/
theorem shiftToTargetExponent_eq {m places : Nat} {e : Int} (bits : m.log2 = 52 + places)
    (low : -1074 ≤ e + places) :
    shiftToTargetExponent Format.binary64 m e .exact = (exactly m >>> places, e + places) := by
  have target : Format.binary64.targetExponent (totalExponent m e) = e + places := by
    simp only [Format.targetExponent, totalExponent, Format.mantissaBits, Format.minExponent]
    omega
  have drop : (e + places - e).toNat = places := by omega
  simp only [shiftToTargetExponent, shiftToExponent, target, drop]
  rfl

/-- A mantissa of at least 53 bits is rounded to one of 53, with a carry into the exponent. -/
theorem roundWithAccuracy_eq (s : Sign) {m places : Nat} {e : Int} (bits : m.log2 = 52 + places)
    (low : -1074 ≤ e + places) :
    ∃ mantissa exponent, ∃ positive : 0 < mantissa,
      roundWithAccuracy Format.binary64 s m e .exact = .finite s mantissa exponent positive ∧
      mantissa.log2 = 52 ∧ e + places ≤ exponent ∧ exponent ≤ e + places + 1 ∧
      exponent * 2 ^ 52 + mantissa = (e + places) * 2 ^ 52 + rounded m places := by
  obtain ⟨atLeast, atMost⟩ := rounded_bounds bits
  have first := shiftToTargetExponent_eq bits low
  have found : (exactly m >>> places).roundedMantissa = rounded m places := rfl
  -- The mantissa is rounded, and what a carry left too long is shifted once more.
  rcases atMost.lt_or_eq with fits | carries
  · have width : (rounded m places).log2 = 52 + 0 :=
      (Nat.log2_eq_iff (by omega)).mpr ⟨atLeast, fits⟩
    have second := shiftToTargetExponent_eq (e := e + places) width (by omega)
    refine ⟨rounded m places, e + places, by omega, ?_, width, by omega, by omega, rfl⟩
    simp only [roundWithAccuracy, first, found, second]
    have whole : (exactly (rounded m places) >>> 0).mantissa = rounded m places := rfl
    simp only [whole]
    rw [dif_neg (by omega)]
    simp
  · have width : (rounded m places).log2 = 52 + 1 := by rw [carries, Nat.log2_two_pow]
    have second := shiftToTargetExponent_eq (e := e + places) width (by omega)
    rw [carries] at second
    refine ⟨2 ^ 52, e + places + 1, by decide, ?_, Nat.log2_two_pow, by omega, by omega, ?_⟩
    · simp only [roundWithAccuracy, first, found, second, carries]
      have half : (exactly (2 ^ 53) >>> 1).mantissa = 2 ^ 52 := by decide
      simp only [half]
      rw [dif_neg (by decide)]
      simp
    · rw [carries]
      omega

/-! ### Bits -/

private theorem toNat_packComponents (s : Sign) (exponent : BitVec 11) (mantissa : BitVec 52) :
    (packComponents Format.binary64 s exponent mantissa).toNat =
      s.toBitVec.toNat * 2 ^ 63 + exponent.toNat * 2 ^ 52 + mantissa.toNat := by
  have m := mantissa.isLt
  have e := exponent.isLt
  change (s.toBitVec ++ exponent ++ mantissa).toNat = _
  rw [BitVec.toNat_append, ← Nat.shiftLeft_add_eq_or_of_lt m, BitVec.toNat_append,
    ← Nat.shiftLeft_add_eq_or_of_lt e]
  simp only [Nat.shiftLeft_eq]
  omega

/-- A mantissa of 53 bits loses its leading one, which stands for one more in the exponent. -/
theorem pack_eq (s : Sign) {mantissa : Nat} {exponent : Int} (positive : 0 < mantissa)
    (bits : mantissa.log2 = 52) (low : -1074 ≤ exponent) (high : exponent ≤ 971) :
    UnpackedFloat.pack Format.binary64 (.finite s mantissa exponent positive) =
      packComponents Format.binary64 s (BitVec.ofNat 11 (exponent + 1075).toNat)
        (BitVec.ofNat 52 mantissa) := by
  have biased : exponent + (Format.binary64.exponentBias : Int) + 52 = exponent + 1075 := by
    simp [Format.exponentBias]
    omega
  have room : ¬ 2 ^ 11 ≤ (exponent + 1075).toNat + 1 := by omega
  have normal : mantissa.log2 + 1 = Format.binary64.mantissaBits := by
    rw [bits]
    rfl
  simp only [UnpackedFloat.pack]
  rw [if_neg (by simpa [biased] using room), if_pos normal]
  simp [biased]

/-- The bit of a sign. -/
def signBit (s : Sign) : Nat := s.toBitVec.toNat

private theorem toBits_pack (s : Sign) {mantissa : Nat} {exponent : Int} (positive : 0 < mantissa)
    (bits : mantissa.log2 = 52) (low : -1074 ≤ exponent) (high : exponent ≤ 971) :
    ((Float.ofModel (.pack (.finite s mantissa exponent positive))).toBits.toNat : Int) =
      signBit s * 2 ^ 63 + ((exponent + 1074) * 2 ^ 52 + mantissa) := by
  obtain ⟨atLeast, below⟩ := (Nat.log2_eq_iff positive.ne').mp bits
  change ((UnpackedFloat.pack Format.binary64
    (.finite s mantissa exponent positive)).toNat : Int) = _
  rw [pack_eq s positive bits low high, toNat_packComponents, BitVec.toNat_ofNat,
    BitVec.toNat_ofNat, ← signBit]
  omega

private theorem finite_congr {s s' : Sign} {m m' : Nat} {e e' : Int} {p : 0 < m} {p' : 0 < m'}
    (sign : s = s') (mantissa : m = m') (exponent : e = e') :
    UnpackedFloat.finite s m e p = .finite s' m' e' p' := by
  subst sign mantissa exponent
  rfl

/-- Packing loses nothing of a double with 53 bits. -/
theorem unpack_pack (s : Sign) {mantissa : Nat} {exponent : Int} (positive : 0 < mantissa)
    (bits : mantissa.log2 = 52) (low : -1074 ≤ exponent) (high : exponent ≤ 971) :
    (Float.Model.pack (.finite s mantissa exponent positive)).unpack =
      .finite s mantissa exponent positive := by
  obtain ⟨atLeast, below⟩ := (Nat.log2_eq_iff positive.ne').mp bits
  change UnpackedFloat.unpack Format.binary64
    (UnpackedFloat.pack Format.binary64 (.finite s mantissa exponent positive)) = _
  rw [pack_eq s positive bits low high]
  have field : (BitVec.ofNat 11 (exponent + 1075).toNat).toNat = (exponent + 1075).toNat := by
    rw [BitVec.toNat_ofNat]
    omega
  -- All ones in the exponent are kept for what is not finite, all zeros for a missing leading one.
  have finite : BitVec.ofNat 11 (exponent + 1075).toNat ≠ -1#11 := by
    intro same
    have ones := congrArg BitVec.toNat same
    rw [field] at ones
    simp at ones
    omega
  have normal : BitVec.ofNat 11 (exponent + 1075).toNat ≠ 0#11 := by
    intro same
    have zeros := congrArg BitVec.toNat same
    rw [field] at zeros
    simp at zeros
    omega
  simp only [UnpackedFloat.unpack, unpackExponent_packComponents, unpackMantissa_packComponents,
    unpackSign_packComponents]
  rw [if_neg finite, if_neg normal]
  apply finite_congr
  · exact Sign.ofBitVec_toBitVec s
  · rw [BitVec.toNat_append, ← Nat.shiftLeft_add_eq_or_of_lt (BitVec.isLt _), BitVec.toNat_ofNat,
      Nat.shiftLeft_eq]
    simp
    omega
  · rw [field]
    simp [Format.exponentBias]
    omega

/-! ### Ranks -/

private theorem shape_ne_nan {f : Float} (field : f.toBits.toNat / 2 ^ 52 % 2 ^ 11 ≠ 2047) :
    shape f ≠ .nan := by
  have field' : ¬ f.toBits.toNat / twoPow 52 % twoPow 11 = 2047 := field
  simp only [shape, shapeOfBits]
  rw [if_neg field']
  split <;> simp

/-- The bits of a double that is a number, the sign apart, are its rank. -/
theorem rank?_of_toBits {f : Float} {s : Sign} {magnitude : Nat}
    (bits : f.toBits.toNat = signBit s * 2 ^ 63 + magnitude) (below : magnitude < 2047 * 2 ^ 52) :
    rank? f = some (s.apply magnitude) := by
  have number : shape f ≠ .nan := shape_ne_nan (by omega)
  have magnitude_eq : f.toBits.toNat % 2 ^ 63 = magnitude := by omega
  have sign_eq : f.toBits.toNat / 2 ^ 63 % 2 = signBit s := by
    have bit : signBit s < 2 := s.toBitVec.isLt
    omega
  have signed_eq : signed (signBit s == 1) magnitude = s.apply magnitude := by cases s <;> rfl
  simp only [rank?, twoPow, Nat.pow_eq, magnitude_eq, sign_eq, signed_eq]

/-- A mantissa of at least 53 bits becomes the double of its rounding. -/
theorem rank?_roundWithAccuracy (s : Sign) {m places : Nat} {e : Int}
    (bits : m.log2 = 52 + places) (low : -1074 ≤ e + places) (high : e + places ≤ 970) :
    rank? (Float.ofModel (.pack (roundWithAccuracy Format.binary64 s m e .exact))) =
      some (s.apply ((e + places + 1074) * 2 ^ 52 + rounded m places)) := by
  obtain ⟨atLeast, atMost⟩ := rounded_bounds bits
  obtain ⟨mantissa, exponent, positive, same, width, above, below, total⟩ :=
    roundWithAccuracy_eq s bits low
  have least : -1074 ≤ exponent := by omega
  have packed := toBits_pack s positive width least (by omega)
  rw [same]
  obtain ⟨magnitude, equal⟩ : ∃ magnitude : Nat,
      (magnitude : Int) = (e + places + 1074) * 2 ^ 52 + rounded m places :=
    ⟨((e + places + 1074) * 2 ^ 52 + rounded m places).toNat, by omega⟩
  rw [← equal]
  exact rank?_of_toBits (by omega) (by omega)

/-! ### Whole numbers -/

/-- The rank of the double nearest to a positive whole number. Its mantissa is prepared with more
bits than the double keeps, so that one rounding is all that happens. -/
def magnitude (n : Nat) : Nat :=
  if n = 0 then 0 else (n.log2 + 1022) * 2 ^ 52 + rounded (n * 2 ^ 52) n.log2

theorem log2_mul_two_pow {n : Nat} (positive : n ≠ 0) (j : Nat) :
    (n * 2 ^ j).log2 = n.log2 + j := by
  obtain ⟨low, high⟩ := (Nat.log2_eq_iff positive).mp rfl
  have size : 0 < 2 ^ j := Nat.two_pow_pos j
  refine (Nat.log2_eq_iff (Nat.mul_ne_zero positive size.ne')).mpr ⟨?_, ?_⟩
  · rw [Nat.pow_add]
    exact Nat.mul_le_mul_right _ low
  · rw [Nat.add_right_comm, Nat.pow_add]
    exact Nat.mul_lt_mul_of_pos_right high size

/-- However many zeros are appended to the mantissa, the rounding is the same. -/
theorem rank?_scaled (s : Sign) {n j : Nat} (positive : n ≠ 0) (small : n < 2 ^ 64)
    (enough : 52 ≤ j) (few : j ≤ 1000) :
    rank? (Float.ofModel (.pack
      (roundWithAccuracy Format.binary64 s (n * 2 ^ j) (-j) .exact))) =
      some (s.apply (magnitude n)) := by
  have width : n.log2 < 64 := (Nat.log2_lt positive).mpr small
  obtain ⟨i, rfl⟩ := Nat.exists_eq_add_of_le enough
  have bits : (n * 2 ^ (52 + i)).log2 = 52 + (i + n.log2) := by
    rw [log2_mul_two_pow positive]
    omega
  have kept : rounded (n * 2 ^ (52 + i)) (i + n.log2) = rounded (n * 2 ^ 52) n.log2 := by
    rw [Nat.pow_add, ← Nat.mul_assoc, rounded_scaled]
  rw [rank?_roundWithAccuracy s bits (by omega) (by omega), kept, magnitude, if_neg positive]
  congr 2
  push_cast
  ring

/-- From `2 ^ 53` on. -/
theorem ofNat_large {n : Nat} (large : 2 ^ 53 ≤ n) :
    Float.ofNat n = .ofModel (.pack
      (roundWithAccuracy Format.binary64 .positive (n * 2 ^ 53) (-(53 : Nat)) .exact)) := by
  have positive : n ≠ 0 := by omega
  have unlike : ¬ (n < 2 ^ 53 ∧ 0 ≤ 22) := by omega
  have tiny : ¬ Int.ofNat 0 < -((2 ^ Format.binary64.exponentBits : Int) + n.log2) := by simp
  change Float.ofScientific n false 0 = _
  rw [Float.ofScientific, dif_neg unlike]
  change Float.ofModel (.pack (UnpackedFloat.ofScientific Format.binary64 n (Int.ofNat 0))) = _
  rw [UnpackedFloat.ofScientific, dif_neg positive, if_neg (by decide), if_neg tiny,
    if_pos (by decide)]
  simp only [UnpackedFloat.mul, Nat.shiftLeft_eq]
  have one : 10 ^ (Int.ofNat 0).toNat = 1 := rfl
  rw [one, Nat.mul_one, Int.add_zero]
  rfl

/-- A mantissa of 53 bits stays as it is. -/
theorem roundWithAccuracy_of_bits (s : Sign) {m : Nat} {e : Int} (positive : 0 < m)
    (bits : m.log2 = 52) (low : -1074 ≤ e) :
    roundWithAccuracy Format.binary64 s m e .exact = .finite s m e positive := by
  have low' : -1074 ≤ e + (0 : Nat) := by omega
  obtain ⟨mantissa, exponent, positive', same, width, above, below, total⟩ :=
    roundWithAccuracy_eq s bits low'
  have range := (Nat.log2_eq_iff positive.ne').mp bits
  have range' := (Nat.log2_eq_iff positive'.ne').mp width
  rw [rounded_zero_places] at total
  rw [same]
  exact finite_congr rfl (by omega) (by omega)

/-- The double of a whole number of at most 53 bits is that number. -/
theorem ofUInt64_small {n : Nat} (positive : n ≠ 0) (small : n < 2 ^ 53) :
    ∃ mantissa_pos, (Float.Model.ofUInt64 n.toUInt64).unpack =
      .finite .positive (n * 2 ^ (52 - n.log2)) (-(52 - n.log2 : Nat)) mantissa_pos := by
  have width : n.log2 < 53 := (Nat.log2_lt positive).mpr small
  have bits : (n * 2 ^ (52 - n.log2)).log2 = 52 := by
    rw [log2_mul_two_pow positive]
    omega
  have mantissa_pos : 0 < n * 2 ^ (52 - n.log2) :=
    Nat.mul_pos (Nat.pos_of_ne_zero positive) (Nat.two_pow_pos _)
  have read : n.toUInt64.toNat = n := by
    rw [Nat.toUInt64_eq, UInt64.toNat_ofNat']
    omega
  have target : Format.binary64.targetExponent (totalExponent n 0) = -(52 - n.log2 : Nat) := by
    simp only [Format.targetExponent, totalExponent, Format.mantissaBits, Format.minExponent]
    omega
  have aligned : decreaseExponent n 0 (-(52 - n.log2 : Nat)) =
      (n * 2 ^ (52 - n.log2), -((52 - n.log2 : Nat) : Int)) := by
    simp [decreaseExponent, Nat.shiftLeft_eq]
  have normal : UnpackedFloat.ofUInt64 Format.binary64 n.toUInt64 =
      .finite .positive (n * 2 ^ (52 - n.log2)) (-(52 - n.log2 : Nat)) mantissa_pos := by
    have sign : compare (n : Int) 0 = .gt := Int.compare_eq_gt.mpr (by omega)
    have low : -1074 ≤ -((52 - n.log2 : Nat) : Int) := by omega
    simp only [UnpackedFloat.ofUInt64, UnpackedFloat.ofNat, UnpackedFloat.ofInt,
      UnpackedFloat.normalize, read, sign, UnpackedFloat.round, Int.toNat_natCast, target, aligned]
    exact roundWithAccuracy_of_bits .positive mantissa_pos bits low
  refine ⟨mantissa_pos, ?_⟩
  change (Float.Model.pack (UnpackedFloat.ofUInt64 Format.binary64 n.toUInt64)).unpack = _
  rw [normal]
  exact unpack_pack .positive mantissa_pos bits (by omega) (by omega)

/-- Below `2 ^ 53`, by way of the multiplication by one. -/
theorem ofNat_small {n : Nat} (positive : n ≠ 0) (small : n < 2 ^ 53) :
    Float.ofNat n = .ofModel (.pack (roundWithAccuracy Format.binary64 .positive
      (n * 2 ^ (104 - n.log2)) (-(104 - n.log2 : Nat)) .exact)) := by
  have width : n.log2 < 53 := (Nat.log2_lt positive).mpr small
  obtain ⟨_, left⟩ := ofUInt64_small positive small
  change Float.ofScientific n false 0 = _
  rw [Float.ofScientific, dif_pos ⟨small, by decide⟩]
  simp only [Bool.false_eq_true, if_false]
  -- The number itself is exact, so the product with one is what is rounded.
  have one : (Float.exactlyRepresentablePowersOfTen[0]).toModel.unpack =
      .finite .positive (2 ^ 52) (-52) (by decide) := by
    rfl
  change Float.ofModel (.pack (UnpackedFloat.mul Format.binary64
    (Float.Model.ofUInt64 n.toUInt64).unpack _)) = _
  rw [left, one]
  simp only [UnpackedFloat.mul]
  have zeros : n * 2 ^ (52 - n.log2) * 2 ^ 52 = n * 2 ^ (104 - n.log2) := by
    rw [Nat.mul_assoc, ← Nat.pow_add]
    congr 2
    omega
  have place : (-(52 - n.log2 : Nat) + -52 : Int) = -(104 - n.log2 : Nat) := by omega
  rw [zeros, place]
  rfl

/-- Either way, zeros are appended to the mantissa and the whole is rounded once. -/
theorem ofNat_eq {n : Nat} (positive : n ≠ 0) : ∃ j : Nat, 52 ≤ j ∧ j ≤ 1000 ∧
    Float.ofNat n = .ofModel (.pack
      (roundWithAccuracy Format.binary64 .positive (n * 2 ^ j) (-j) .exact)) := by
  rcases Nat.lt_or_ge n (2 ^ 53) with small | large
  · have width : n.log2 < 53 := (Nat.log2_lt positive).mpr small
    exact ⟨104 - n.log2, by omega, by omega, ofNat_small positive small⟩
  · exact ⟨53, by decide, by decide, ofNat_large large⟩

private theorem roundWithAccuracy_neg (m : Nat) (e : Int) (a : Accuracy) :
    (roundWithAccuracy Format.binary64 .positive m e a).neg =
      roundWithAccuracy Format.binary64 .negative m e a := by
  simp only [roundWithAccuracy]
  split <;> rfl

private theorem neg_rounded {m places : Nat} {e : Int} (bits : m.log2 = 52 + places)
    (low : -1074 ≤ e + places) (high : e + places ≤ 970) :
    Float.neg (.ofModel (.pack (roundWithAccuracy Format.binary64 .positive m e .exact))) =
      .ofModel (.pack (roundWithAccuracy Format.binary64 .negative m e .exact)) := by
  obtain ⟨mantissa, exponent, positive, same, width, above, below, total⟩ :=
    roundWithAccuracy_eq .positive bits low
  rw [← roundWithAccuracy_neg, same]
  change Float.ofModel (.pack (Float.Model.unpack (.pack _)).neg) = _
  rw [unpack_pack .positive positive width (by omega) (by omega)]

/-- The rank of the double nearest to a whole number. -/
def wholeRank : Int → Int
  | .ofNat n => magnitude n
  | .negSucc n => -magnitude (n + 1)

private theorem rank?_ofNat {n : Nat} (small : n < 2 ^ 64) :
    rank? (Float.ofNat n) = some (magnitude n : Int) := by
  by_cases positive : n = 0
  · subst positive
    decide
  · obtain ⟨j, enough, few, same⟩ := ofNat_eq positive
    rw [same, rank?_scaled .positive positive small enough few]
    rfl

private theorem rank?_neg_ofNat {n : Nat} (positive : n ≠ 0) (small : n < 2 ^ 64) :
    rank? (Float.neg (Float.ofNat n)) = some (-magnitude n : Int) := by
  have width : n.log2 < 64 := (Nat.log2_lt positive).mpr small
  obtain ⟨j, enough, few, same⟩ := ofNat_eq positive
  have bits : (n * 2 ^ j).log2 = 52 + (n.log2 + j - 52) := by
    rw [log2_mul_two_pow positive]
    omega
  rw [same, neg_rounded bits (by omega) (by omega),
    rank?_scaled .negative positive small enough few]
  rfl

theorem rank?_ofInt {i : Int} (small : i.natAbs < 2 ^ 64) :
    rank? (Float.ofInt i) = some (wholeRank i) := by
  cases i with
  | ofNat n => exact rank?_ofNat small
  | negSucc n => exact rank?_neg_ofNat n.succ_ne_zero small

/-! ### Order -/

theorem rounded_whole_bounds {n : Nat} (positive : n ≠ 0) :
    2 ^ 52 ≤ rounded (n * 2 ^ 52) n.log2 ∧ rounded (n * 2 ^ 52) n.log2 ≤ 2 ^ 53 :=
  rounded_bounds ((log2_mul_two_pow positive 52).trans (Nat.add_comm _ _))

private theorem magnitude_pos {n : Nat} (positive : n ≠ 0) : 0 < magnitude n := by
  have bounds := rounded_whole_bounds positive
  rw [magnitude, if_neg positive]
  omega

private theorem magnitude_mono {m n : Nat} (le : m ≤ n) : magnitude m ≤ magnitude n := by
  by_cases zero : m = 0
  · simp [magnitude, zero]
  have positive : n ≠ 0 := by omega
  rw [magnitude, magnitude, if_neg zero, if_neg positive]
  have widths : m.log2 ≤ n.log2 :=
    (Nat.le_log2 positive).mpr ((Nat.log2_self_le zero).trans le)
  rcases widths.eq_or_lt with same | wider
  · rw [same]
    exact Nat.add_le_add_left (rounded_mono (Nat.mul_le_mul_right _ le) _) _
  · -- The larger number starts at or behind the end of the smaller one's binade.
    have left := rounded_whole_bounds zero
    have right := rounded_whole_bounds positive
    omega

theorem wholeRank_mono {i j : Int} (le : i ≤ j) : wholeRank i ≤ wholeRank j := by
  cases i with
  | ofNat m =>
    cases j with
    | ofNat n => exact Int.ofNat_le.mpr (magnitude_mono (Int.ofNat_le.mp le))
    | negSucc n =>
      rw [Int.ofNat_eq_natCast] at le
      omega
  | negSucc m =>
    cases j with
    | ofNat n =>
      simp only [wholeRank]
      omega
    | negSucc n =>
      have le' : n + 1 ≤ m + 1 := by omega
      have reversed := magnitude_mono le'
      simp only [wholeRank]
      omega

theorem wholeRank_eq_zero {i : Int} : wholeRank i = 0 ↔ i = 0 := by
  cases i with
  | ofNat n =>
    by_cases zero : n = 0
    · simp [wholeRank, magnitude, zero]
    · have positive := magnitude_pos zero
      simp only [wholeRank, Int.ofNat_eq_natCast]
      omega
  | negSucc n =>
    have positive := magnitude_pos n.succ_ne_zero
    simp only [wholeRank, Nat.succ_eq_add_one] at positive ⊢
    omega

end Liquid.Double

namespace Liquid.Number

theorem rank?_toFloat (i : Int64) :
    Double.rank? (Number.int i).toFloat = some (Double.wholeRank i.toInt) := by
  have low : -9223372036854775808 ≤ i.toInt := i.minValue_le_toInt
  have high : i.toInt ≤ 9223372036854775807 := i.toInt_le
  exact Double.rank?_ofInt (by omega)

theorem isZero_int (i : Int64) : (Number.int i).isZero = decide (i.toInt = 0) := by
  rw [isZero, Double.isZero, rank?_toFloat]
  simp [Bool.beq_eq_decide_eq, Double.wholeRank_eq_zero]

end Liquid.Number
