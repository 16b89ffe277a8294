import Zenbedded.DoublePacking

/-!
# Exceptional values in the arithmetic of doubles

Where NaN comes from and that it stays, and the zeros.
-/

namespace Doubles

open Float.Model (Format totalExponent UnpackedFloat)
open Float.Model.UnpackedFloat

/-! ## Arithmetic -/

theorem isNaN_roundWithAccuracy (sign : Sign) (mantissa : Nat) (exponent : Int)
    (accuracy : Accuracy) :
    (roundWithAccuracy .binary64 sign mantissa exponent accuracy).isNaN = false := by
  unfold roundWithAccuracy
  dsimp only
  split <;> rfl

theorem isNaN_normalize (mantissa exponent : Int) (sign : Sign) :
    (UnpackedFloat.normalize .binary64 mantissa exponent sign).isNaN = false := by
  unfold UnpackedFloat.normalize
  split
  · exact isNaN_roundWithAccuracy ..
  · rfl
  · exact isNaN_roundWithAccuracy ..

theorem isNaN_model (unpacked : UnpackedFloat) :
    (Float.ofModel (.pack unpacked)).isNaN = unpacked.isNaN :=
  isNaN_unpack_pack unpacked

theorem unpack_of_isNaN {x : Float} (nan : x.isNaN = true) : x.toModel.unpack = .notANumber := by
  change x.toModel.unpack.isNaN = true at nan
  cases unpacked : x.toModel.unpack with
  | notANumber => rfl
  | _ => rw [unpacked] at nan; cases nan

theorem isNaN_add_of_left {x : Float} (nan : x.isNaN = true) (y : Float) :
    (x + y).isNaN = true := by
  refine (isNaN_model (add .binary64 x.toModel.unpack y.toModel.unpack)).trans ?_
  rw [unpack_of_isNaN nan]
  rfl

theorem isNaN_add_of_right (x : Float) {y : Float} (nan : y.isNaN = true) :
    (x + y).isNaN = true := by
  refine (isNaN_model (add .binary64 x.toModel.unpack y.toModel.unpack)).trans ?_
  rw [unpack_of_isNaN nan]
  cases x.toModel.unpack <;> rfl

theorem isNaN_mul_of_left {x : Float} (nan : x.isNaN = true) (y : Float) :
    (x * y).isNaN = true := by
  refine (isNaN_model (mul .binary64 x.toModel.unpack y.toModel.unpack)).trans ?_
  rw [unpack_of_isNaN nan]
  rfl

theorem isNaN_div_of_right (x : Float) {y : Float} (nan : y.isNaN = true) :
    (x / y).isNaN = true := by
  refine (isNaN_model (div .binary64 x.toModel.unpack y.toModel.unpack)).trans ?_
  rw [unpack_of_isNaN nan]
  cases x.toModel.unpack <;> rfl

theorem isNaN_neg (x : Float) : (-x).isNaN = x.isNaN := by
  refine (isNaN_model x.toModel.unpack.neg).trans ?_
  change _ = x.toModel.unpack.isNaN
  cases x.toModel.unpack <;> rfl

/-- Only infinities of different signs have no sum. -/
theorem isNaN_add {x y : Float} (finite : x.isFinite = true) (number : y.isNaN = false) :
    (x + y).isNaN = false := by
  change x.toModel.unpack.isFinite = true at finite
  change y.toModel.unpack.isNaN = false at number
  refine (isNaN_model (add .binary64 x.toModel.unpack y.toModel.unpack)).trans ?_
  cases left : x.toModel.unpack with
  | notANumber => rw [left] at finite; cases finite
  | infinity signLeft => rw [left] at finite; cases finite
  | zero signLeft =>
      cases right : y.toModel.unpack with
      | notANumber => rw [right] at number; cases number
      | infinity signRight => rfl
      | zero signRight => cases signLeft <;> cases signRight <;> rfl
      | finite signRight mantissa exponent positive => rfl
  | finite signLeft mantissa exponent positive =>
      cases right : y.toModel.unpack with
      | notANumber => rw [right] at number; cases number
      | infinity signRight => rfl
      | zero signRight => rfl
      | finite signRight mantissa exponent positive => exact isNaN_normalize ..

/-- Only zeros and infinities have no product. -/
theorem isNaN_mul {x y : Float} (number : x.isNaN = false) (finite : y.isFinite = true)
    (nonzero : (y == 0) = false) : (x * y).isNaN = false := by
  change x.toModel.unpack.isNaN = false at number
  change y.toModel.unpack.isFinite = true at finite
  change (y.toModel.unpack.compare (.zero .positive) == some .eq) = false at nonzero
  refine (isNaN_model (mul .binary64 x.toModel.unpack y.toModel.unpack)).trans ?_
  cases right : y.toModel.unpack with
  | notANumber => rw [right] at finite; cases finite
  | infinity sign => rw [right] at finite; cases finite
  | zero sign => rw [right] at nonzero; cases nonzero
  | finite signRight mantissa exponent positive =>
      cases left : x.toModel.unpack with
      | notANumber => rw [left] at number; cases number
      | infinity signLeft => rfl
      | zero signLeft => rfl
      | finite signLeft mantissa exponent positive => exact isNaN_roundWithAccuracy ..

/-! ## Zeros -/

theorem unpack_of_beq_zero {x : Float} (zero : (x == 0) = true) :
    ∃ sign, x.toModel.unpack = .zero sign := by
  change (x.toModel.unpack.compare (.zero .positive) == some .eq) = true at zero
  cases unpacked : x.toModel.unpack with
  | notANumber => rw [unpacked] at zero; cases zero
  | infinity sign => rw [unpacked] at zero; cases sign <;> cases zero
  | zero sign => exact ⟨sign, rfl⟩
  | finite sign mantissa exponent positive =>
      rw [unpacked] at zero
      cases sign <;> cases zero

theorem beq_zero_model (sign : Sign) : (Float.ofModel (.pack (.zero sign)) == 0) = true := by
  cases sign <;> decide

theorem add_beq_zero {x y : Float} (zeroX : (x == 0) = true) (zeroY : (y == 0) = true) :
    (x + y == 0) = true := by
  obtain ⟨signX, unpackedX⟩ := unpack_of_beq_zero zeroX
  obtain ⟨signY, unpackedY⟩ := unpack_of_beq_zero zeroY
  have sum : ∃ sign, add .binary64 x.toModel.unpack y.toModel.unpack = .zero sign := by
    rw [unpackedX, unpackedY]
    cases signX <;> cases signY <;> exact ⟨_, rfl⟩
  obtain ⟨sign, sumEq⟩ := sum
  change (Float.ofModel (.pack (add .binary64 x.toModel.unpack y.toModel.unpack)) == 0) = true
  rw [sumEq]
  exact beq_zero_model sign

theorem mul_beq_zero {x y : Float} (zero : (x == 0) = true) (finite : y.isFinite = true) :
    (x * y == 0) = true := by
  obtain ⟨signX, unpackedX⟩ := unpack_of_beq_zero zero
  change y.toModel.unpack.isFinite = true at finite
  have product : ∃ sign, mul .binary64 x.toModel.unpack y.toModel.unpack = .zero sign := by
    rw [unpackedX]
    cases unpackedY : y.toModel.unpack with
    | notANumber => rw [unpackedY] at finite; cases finite
    | infinity signY => rw [unpackedY] at finite; cases finite
    | zero signY => exact ⟨_, rfl⟩
    | finite signY mantissa exponent positive => exact ⟨_, rfl⟩
  obtain ⟨sign, productEq⟩ := product
  change (Float.ofModel (.pack (mul .binary64 x.toModel.unpack y.toModel.unpack)) == 0) = true
  rw [productEq]
  exact beq_zero_model sign

/-! ## Clamping -/

/-- A double, or the bound of an interval that it is beyond. -/
def clamp (x low high : Float) : Float :=
  if x < low then low else if high < x then high else x

section Clamping

variable {x low high : Float}

theorem not_lt_self (x : Float) : ¬ x < x :=
  fun less => (lt_iff.mp less).2.2.false

theorem not_clamp_lt (x : Float) (ordered : ¬ high < low) : ¬ clamp x low high < low := by
  unfold clamp
  split
  · exact not_lt_self low
  · split
    · exact ordered
    · assumption

theorem not_lt_clamp (x : Float) (ordered : ¬ high < low) : ¬ high < clamp x low high := by
  unfold clamp
  split
  · exact ordered
  · split
    · exact not_lt_self high
    · assumption

theorem clamp_of_isNaN (nan : x.isNaN = true) : clamp x low high = x := by
  have notLess : ¬ x < low := fun less => by cases nan.symm.trans (lt_iff.mp less).1
  have notGreater : ¬ high < x := fun less => by cases nan.symm.trans (lt_iff.mp less).2.1
  rw [clamp, if_neg notLess, if_neg notGreater]

theorem clamp_of_zero (zero : (x == 0) = true) (below : low < 0) (above : 0 < high) :
    clamp x low high = x := by
  obtain ⟨-, -, unitsX⟩ := beq_iff.mp zero
  have notLess : ¬ x < low := fun less => by
    have := (lt_iff.mp less).2.2.trans (lt_iff.mp below).2.2
    omega
  have notGreater : ¬ high < x := fun less => by
    have := (lt_iff.mp above).2.2.trans (lt_iff.mp less).2.2
    omega
  rw [clamp, if_neg notLess, if_neg notGreater]

/-- A bound that a double keeps is kept behind the clamp. -/
theorem not_clamp_lt_of (low : Float) {bound : Float} (aboveX : ¬ x < bound)
    (aboveHigh : ¬ high < bound) : ¬ clamp x low high < bound := by
  unfold clamp
  split
  case isTrue less =>
    intro below
    obtain ⟨numberX, -, unitsX⟩ := lt_iff.mp less
    obtain ⟨-, numberBound, unitsLow⟩ := lt_iff.mp below
    exact aboveX (lt_iff.mpr ⟨numberX, numberBound, unitsX.trans unitsLow⟩)
  case isFalse =>
    split
    · exact aboveHigh
    · exact aboveX

theorem isFinite_clamp (numberX : x.isNaN = false) (finiteLow : low.isFinite = true)
    (finiteHigh : high.isFinite = true) : (clamp x low high).isFinite = true := by
  unfold clamp
  split
  case isTrue => exact finiteLow
  case isFalse notLess =>
    split
    case isTrue => exact finiteHigh
    case isFalse notGreater =>
      obtain ⟨numberLow, aboveLow, -⟩ := isFinite_iff.mp finiteLow
      obtain ⟨numberHigh, -, belowHigh⟩ := isFinite_iff.mp finiteHigh
      have least := units_le_of_not_lt numberX numberLow notLess
      have most := units_le_of_not_lt numberHigh numberX notGreater
      exact isFinite_iff.mpr ⟨numberX, by omega, by omega⟩

theorem units_clamp (numberX : x.isNaN = false) (numberLow : low.isNaN = false)
    (numberHigh : high.isNaN = false) (ordered : units low ≤ units high) :
    units low ≤ units (clamp x low high) ∧ units (clamp x low high) ≤ units high := by
  unfold clamp
  split
  case isTrue => exact ⟨le_rfl, ordered⟩
  case isFalse notLess =>
    split
    case isTrue => exact ⟨ordered, le_rfl⟩
    case isFalse notGreater =>
      exact ⟨units_le_of_not_lt numberX numberLow notLess,
        units_le_of_not_lt numberHigh numberX notGreater⟩

end Clamping

end Doubles
