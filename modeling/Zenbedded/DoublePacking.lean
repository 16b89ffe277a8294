import Zenbedded.DoubleOrder

/-!
# Doubles and whole numbers

Packing loses no double, so that the integers of at most 53 bits are doubles; the conversions
to integers cut the fraction off or round it.
-/

namespace Doubles

open Float.Model (Format totalExponent UnpackedFloat)
open Float.Model.UnpackedFloat

/-! ## Packing -/

theorem isNaN_unpack {bits : BitVec Format.binary64.numBits} :
    (unpack .binary64 bits).isNaN = true ↔
      unpackExponent bits = -1#_ ∧ unpackMantissa bits ≠ 0#_ := by
  unfold unpack
  dsimp only
  split
  case isTrue ones =>
    split
    · simp_all [UnpackedFloat.isNaN]
    · simp_all [UnpackedFloat.isNaN]
  case isFalse notOnes =>
    refine iff_of_false ?_ fun both => notOnes both.1
    split
    · split <;> simp [UnpackedFloat.isNaN]
    · simp [UnpackedFloat.isNaN]

theorem isNaN_unpack_pack (unpacked : UnpackedFloat) :
    (unpack .binary64 (pack .binary64 unpacked)).isNaN = unpacked.isNaN := by
  rw [Bool.eq_iff_iff, isNaN_unpack]
  cases unpacked with
  | notANumber => decide
  | infinity sign => cases sign <;> decide
  | zero sign => cases sign <;> decide
  | finite sign mantissa exponent positive =>
      refine iff_of_false ?_ Bool.false_ne_true
      rintro ⟨ones, nonzero⟩
      unfold pack at ones nonzero
      dsimp only at ones nonzero
      split at ones
      case isTrue overflow =>
        rw [if_pos overflow] at nonzero
        exact nonzero unpackMantissa_packComponents
      case isFalse inRange =>
        split at ones
        · rw [unpackExponent_packComponents] at ones
          have field := congrArg BitVec.toNat ones
          rw [BitVec.toNat_ofNat, Nat.mod_eq_of_lt (by omega)] at field
          change _ = 2047 at field
          change ¬ 2048 ≤ _ at inRange
          omega
        · rw [unpackExponent_packComponents] at ones
          cases ones

theorem unpack_pack {sign : Sign} {mantissa : Nat} {exponent : Int} (positive : 0 < mantissa)
    (canonical : Canonical (.finite sign mantissa exponent positive)) :
    unpack .binary64 (pack .binary64 (.finite sign mantissa exponent positive)) =
      .finite sign mantissa exponent positive := by
  obtain ⟨above, low, few, normal⟩ := canonical
  have signEq : Sign.ofBitVec sign.toBitVec = sign := by cases sign <;> rfl
  have bias : Format.binary64.exponentBias = 1023 := by decide
  have logBelow : mantissa.log2 < 53 := (Nat.log2_lt positive.ne').mpr few
  have inRange : ¬ 2 ^ 11 ≤
      (exponent + Format.binary64.exponentBias + (52 : Nat)).toNat + 1 := by
    rw [bias]
    omega
  unfold pack
  dsimp only
  rw [if_neg inRange]
  rcases Nat.lt_or_ge mantissa (2 ^ 52) with subnormal | normal
  · have least : exponent = -1074 := by omega
    have short : mantissa.log2 + 1 ≠ Format.binary64.mantissaBits := by
      have := (Nat.log2_lt positive.ne').mpr subnormal
      change mantissa.log2 + 1 ≠ 53
      omega
    rw [if_neg short]
    have field : (BitVec.ofNat 52 mantissa).toNat = mantissa := by
      rw [BitVec.toNat_ofNat, Nat.mod_eq_of_lt subnormal]
    have nonzero : BitVec.ofNat 52 mantissa ≠ 0#52 := by
      intro zero
      rw [zero] at field
      exact positive.ne field
    unfold unpack
    simp only [unpackExponent_packComponents, unpackMantissa_packComponents,
      unpackSign_packComponents, signEq]
    rw [if_neg (by decide), if_pos trivial, dif_neg nonzero]
    simp only [field, bias, least]
    rfl
  · have long : mantissa.log2 + 1 = Format.binary64.mantissaBits := by
      have := (Nat.le_log2 positive.ne').mpr normal
      change mantissa.log2 + 1 = 53
      omega
    rw [if_pos long]
    have mantissaEq : ((1#1 : BitVec 1) ++ BitVec.ofNat 52 mantissa).toNat = mantissa := by
      rw [toNat_implicitBit, BitVec.toNat_ofNat]
      omega
    have fieldEq : (exponent + Format.binary64.exponentBias + (52 : Nat)).toNat =
        (exponent + 1075).toNat := by
      rw [bias]
      omega
    rw [fieldEq]
    have field : (BitVec.ofNat 11 (exponent + 1075).toNat).toNat = (exponent + 1075).toNat := by
      rw [BitVec.toNat_ofNat]
      omega
    have notOnes : BitVec.ofNat 11 (exponent + 1075).toNat ≠ -1#11 := by
      intro ones
      have isMost : (BitVec.ofNat 11 (exponent + 1075).toNat).toNat = 2047 :=
        congrArg BitVec.toNat ones
      omega
    have notZero : BitVec.ofNat 11 (exponent + 1075).toNat ≠ 0#11 := by
      intro zero
      have isLeast : (BitVec.ofNat 11 (exponent + 1075).toNat).toNat = 0 :=
        congrArg BitVec.toNat zero
      omega
    unfold unpack
    simp only [unpackExponent_packComponents, unpackMantissa_packComponents,
      unpackSign_packComponents, signEq]
    rw [if_neg notOnes, if_neg notZero]
    simp only [field, mantissaEq, bias, UnpackedFloat.finite.injEq, true_and]
    omega

/-! ## Integers -/

@[irreducible]
def one : Nat := scaled 1 0

theorem one_pos : 0 < one := by
  unfold one
  exact scaled_pos Nat.one_pos _

theorem two_pow_eq_one {count : Nat} (equal : count = 1074) : 2 ^ count = one := by
  have exponent : ((0 : Int) + 1074).toNat = count := by omega
  unfold one scaled
  rw [Nat.one_mul, exponent]

/-- The double nearest to an integer. -/
def ofInt (number : Int) : Float :=
  .ofModel (.ofInt number)

theorem roundWithAccuracy_of_fits (sign : Sign) {mantissa : Nat} {exponent : Int}
    (positive : 0 < mantissa)
    (fits : Format.binary64.targetExponent (totalExponent mantissa exponent) = exponent) :
    roundWithAccuracy .binary64 sign mantissa exponent .exact =
      .finite sign mantissa exponent positive := by
  have unshifted (extended : ExtendedMantissa) : extended >>> (0 : Nat) = extended := rfl
  simp [roundWithAccuracy, shiftToTargetExponent, shiftToExponent, fits, unshifted,
    ExtendedMantissa.ofMantissaAndAccuracy, ExtendedMantissa.roundedMantissa,
    ExtendedMantissa.accuracy, Accuracy.roundToNearestEven, positive.ne']

theorem targetExponent_eq (mantissa : Nat) (exponent : Int) :
    Format.binary64.targetExponent (totalExponent mantissa exponent) =
      max (mantissa.log2 + exponent - 52) (-1074) := by
  have least : Format.binary64.minExponent = -1074 := by decide
  have bits : Format.binary64.mantissaBits = 53 := rfl
  rw [Format.targetExponent, totalExponent, least, bits]
  congr 1
  omega

/-- An integer of at most 53 bits is a double. -/
theorem round_of_few {number : Nat} (positive : 0 < number) (few : number < 2 ^ 53)
    (sign : Sign) :
    ∃ normalized,
      UnpackedFloat.round .binary64 sign number 0 =
        .finite sign (number * 2 ^ (52 - number.log2)) (number.log2 - 52) normalized ∧
      Canonical (.finite sign (number * 2 ^ (52 - number.log2)) (number.log2 - 52)
        normalized) := by
  have logBelow : number.log2 < 53 := (Nat.log2_lt positive.ne').mpr few
  have low : 2 ^ 52 ≤ number * 2 ^ (52 - number.log2) := by
    calc 2 ^ 52 = 2 ^ number.log2 * 2 ^ (52 - number.log2) := by
          rw [← Nat.pow_add]; congr 1; omega
      _ ≤ number * 2 ^ (52 - number.log2) :=
          Nat.mul_le_mul_right _ (Nat.log2_self_le positive.ne')
  have high : number * 2 ^ (52 - number.log2) < 2 ^ 53 := by
    calc number * 2 ^ (52 - number.log2)
        < 2 ^ (number.log2 + 1) * 2 ^ (52 - number.log2) :=
          Nat.mul_lt_mul_of_pos_right Nat.lt_log2_self (Nat.two_pow_pos _)
      _ = 2 ^ 53 := by rw [← Nat.pow_add]; congr 1; omega
  have normalized : 0 < number * 2 ^ (52 - number.log2) := by omega
  have log : (number * 2 ^ (52 - number.log2)).log2 = 52 :=
    (Nat.log2_eq_iff normalized.ne').mpr ⟨low, high⟩
  refine ⟨normalized, ?_, by omega, by omega, high, .inr low⟩
  have shift : ((0 : Int) - (number.log2 - 52)).toNat = 52 - number.log2 := by omega
  have target : Format.binary64.targetExponent (totalExponent number 0) =
      (number.log2 : Int) - 52 := by
    rw [targetExponent_eq]
    omega
  have exponent : (0 : Int) - (52 - number.log2 : Nat) = (number.log2 : Int) - 52 := by omega
  simp only [UnpackedFloat.round, decreaseExponent, target, shift, exponent, Nat.shiftLeft_eq]
  apply roundWithAccuracy_of_fits
  rw [targetExponent_eq, log]
  omega

theorem scaled_of_few {number : Nat} (few : number < 2 ^ 53) :
    scaled (number * 2 ^ (52 - number.log2)) (number.log2 - 52) = number * one := by
  have logBelow : number.log2 < 53 := by
    rcases Nat.eq_zero_or_pos number with rfl | positive
    · decide
    · exact (Nat.log2_lt positive.ne').mpr few
  have exponents : 52 - number.log2 + ((number.log2 : Int) - 52 + 1074).toNat = 1074 := by omega
  rw [scaled, Nat.mul_assoc, ← Nat.pow_add, two_pow_eq_one exponents]

theorem isNaN_of_isFinite {x : Float} (finite : x.isFinite = true) : x.isNaN = false := by
  change x.toModel.unpack.isFinite = true at finite
  change x.toModel.unpack.isNaN = false
  cases unpacked : x.toModel.unpack with
  | notANumber => rw [unpacked] at finite; cases finite
  | _ => rfl

theorem units_ofInt {number : Int} (few : number.natAbs < 2 ^ 53) :
    (ofInt number).isFinite = true ∧ units (ofInt number) = number * one := by
  have packed : (ofInt number).toModel.unpack =
      unpack .binary64
        (pack .binary64 (UnpackedFloat.normalize .binary64 number 0 .positive)) := rfl
  have finite (sign : Sign) (magnitude : Nat) (positive : 0 < magnitude)
      (fewBits : magnitude < 2 ^ 53)
      (normalized : UnpackedFloat.normalize .binary64 number 0 .positive =
        UnpackedFloat.round .binary64 sign magnitude 0)
      (value : sign.apply magnitude = number) :
      (ofInt number).isFinite = true ∧ units (ofInt number) = number * one := by
    obtain ⟨positive, rounds, canonical⟩ := round_of_few positive fewBits sign
    rw [normalized, rounds, unpack_pack positive canonical] at packed
    refine ⟨congrArg UnpackedFloat.isFinite packed, (congrArg key packed).trans ?_⟩
    rw [key, scaled_of_few fewBits, ← value]
    cases sign <;> simp [Sign.apply]
  rcases lt_trichotomy number 0 with negative | rfl | positive
  · refine finite .negative (-number).toNat ?_ ?_ ?_ ?_
    · omega
    · omega
    · rw [UnpackedFloat.normalize, compare_lt_iff_lt.mpr negative]
    · change -((-number).toNat : Int) = number
      omega
  · rw [Int.zero_mul]
    exact ⟨rfl, rfl⟩
  · refine finite .positive number.toNat ?_ ?_ ?_ ?_
    · omega
    · omega
    · rw [UnpackedFloat.normalize, compare_gt_iff_gt.mpr positive]
    · change (number.toNat : Int) = number
      omega

/-! ## Whole numbers -/

theorem mantissa_shiftRight (extended : ExtendedMantissa) (count : Nat) :
    (extended >>> count).mantissa = extended.mantissa / 2 ^ count := by
  induction count with
  | zero => exact (Nat.div_one _).symm
  | succ count ih =>
      change (extended >>> count).mantissa / 2 = _
      rw [ih, Nat.div_div_eq_div_mul, Nat.pow_succ]

theorem roundToInt_eq {mantissa : Nat} {exponent : Int} (above : -1074 ≤ exponent) :
    roundToInt .positive mantissa exponent = (scaled mantissa exponent / one : Nat) := by
  have shifted : roundToInt .positive mantissa exponent =
      (mantissa * 2 ^ exponent.toNat / 2 ^ (-exponent).toNat : Nat) := by
    have rest : (0 - (exponent - (exponent.toNat : Nat))).toNat = (-exponent).toNat := by omega
    simp only [roundToInt, decreaseExponent, shiftToExponent, mantissa_shiftRight, Sign.apply,
      ExtendedMantissa.ofMantissaAndAccuracy, Nat.shiftLeft_eq, Int.sub_zero, rest]
  rw [shifted, scaled]
  congr 1
  rcases Int.lt_or_le exponent 0 with negative | positive
  · have split : (-exponent).toNat + (exponent + 1074).toNat = 1074 := by omega
    rw [← two_pow_eq_one split, Nat.pow_add, Nat.mul_div_mul_right _ _ (Nat.two_pow_pos _),
      Int.toNat_of_nonpos negative.le, Nat.pow_zero, Nat.mul_one]
  · have split : (exponent + 1074).toNat = exponent.toNat + 1074 := by omega
    have whole {count : Nat} (equal : count = 1074) :
        2 ^ (exponent.toNat + count) = 2 ^ exponent.toNat * one := by
      rw [Nat.pow_add, two_pow_eq_one equal]
    rw [split, whole rfl, ← Nat.mul_assoc, Nat.mul_div_cancel _ one_pos,
      Int.toNat_of_nonpos (show -exponent ≤ 0 by omega), Nat.pow_zero, Nat.div_one]

/-- The conversion to 64 bits cuts the fraction off. -/
theorem toNat_toUInt64 {x : Float} (finite : x.isFinite = true) (positive : 0 ≤ units x)
    (few : units x < 2 ^ 64 * one) : x.toUInt64.toNat = (units x).toNat / one := by
  change x.toModel.unpack.isFinite = true at finite
  change 0 ≤ key x.toModel.unpack at positive
  change key x.toModel.unpack < 2 ^ 64 * one at few
  change (UInt64.ofNatClamp (x.toModel.unpack.toInt 0 (UInt64.size - 1)).toNat).toNat =
    (key x.toModel.unpack).toNat / one
  have canonical := canonical_unpack x.toModel.toBits.toBitVec
  change Canonical x.toModel.unpack at canonical
  cases unpacked : x.toModel.unpack with
  | notANumber => rw [unpacked] at finite; cases finite
  | infinity sign => rw [unpacked] at finite; cases finite
  | zero sign => exact (Nat.zero_div _).symm
  | finite sign mantissa exponent least =>
      rw [unpacked] at canonical positive few
      have above := scaled_pos least exponent
      cases sign with
      | negative =>
          change 0 ≤ -(scaled mantissa exponent : Int) at positive
          omega
      | positive =>
          change (scaled mantissa exponent : Int) < 2 ^ 64 * one at few
          have fewNat : scaled mantissa exponent < one * 2 ^ 64 := by
            rw [Nat.mul_comm]
            exact_mod_cast few
          have below : scaled mantissa exponent / one < UInt64.size :=
            Nat.div_lt_of_lt_mul fewNat
          have cut : UnpackedFloat.toInt 0 (UInt64.size - 1)
              (.finite .positive mantissa exponent least) =
              (scaled mantissa exponent / one : Nat) := roundToInt_eq canonical.1
          rw [cut]
          exact UInt64.toNat_ofNatClamp_of_lt below

/-- The nearest integer, halves away from zero. -/
def lround (x : Float) : Int :=
  if 0 ≤ units x then (2 * units x + one) / (2 * one)
  else -((2 * -units x + one) / (2 * one))

theorem lround_bounds {x : Float} {low high : Int} (above : low * one ≤ units x)
    (below : units x ≤ high * one) : low ≤ lround x ∧ lround x ≤ high := by
  have positive : (0 : Int) < 2 * one := by
    have := one_pos
    omega
  unfold lround
  split
  case isTrue =>
    refine ⟨(Int.le_ediv_iff_mul_le positive).mpr ?_,
      Int.lt_add_one_iff.mp ((Int.ediv_lt_iff_lt_mul positive).mpr ?_)⟩
    · linarith
    · linarith
  case isFalse =>
    refine ⟨le_neg.mpr (Int.lt_add_one_iff.mp ((Int.ediv_lt_iff_lt_mul positive).mpr ?_)),
      neg_le.mpr ((Int.le_ediv_iff_mul_le positive).mpr ?_)⟩
    · linarith
    · linarith

/-- A double between two integers becomes an integer between them. -/
theorem toUInt64_bounds {x : Float} {low high : Nat} (finite : x.isFinite = true)
    (ordered : low ≤ high) (few : high < 2 ^ 53) (above : ¬ x < ofInt low)
    (below : ¬ ofInt high < x) : low ≤ x.toUInt64.toNat ∧ x.toUInt64.toNat ≤ high := by
  have number := isNaN_of_isFinite finite
  obtain ⟨finiteLow, unitsLow⟩ := @units_ofInt low (by omega)
  obtain ⟨finiteHigh, unitsHigh⟩ := @units_ofInt high (by omega)
  have least := units_le_of_not_lt number (isNaN_of_isFinite finiteLow) above
  have most := units_le_of_not_lt (isNaN_of_isFinite finiteHigh) number below
  rw [unitsLow] at least
  rw [unitsHigh] at most
  have leastNat : low * one ≤ (units x).toNat := by
    have cast : ((low * one : Nat) : Int) = low * one := Nat.cast_mul ..
    omega
  have mostNat : (units x).toNat ≤ high * one := by
    have cast : ((high * one : Nat) : Int) = high * one := Nat.cast_mul ..
    omega
  have positive : 0 ≤ units x := le_trans (by positivity) least
  have small : units x < 2 ^ 64 * one := by
    refine most.trans_lt ?_
    have onePos : (0 : Int) < one := by exact_mod_cast one_pos
    refine mul_lt_mul_of_pos_right ?_ onePos
    omega
  rw [toNat_toUInt64 finite positive small]
  exact ⟨(Nat.le_div_iff_mul_le one_pos).mpr leastNat,
    Nat.div_le_of_le_mul (mostNat.trans_eq (Nat.mul_comm ..))⟩

end Doubles
