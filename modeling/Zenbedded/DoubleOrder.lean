import Mathlib

/-!
# The order of doubles

Every double that is a number is a multiple of the least positive one, 2^-1074.  Doubles
compare as these multiples do, and integers of at most 53 bits are exact among them.
-/

namespace Doubles

open Float.Model (Format totalExponent UnpackedFloat)
open Float.Model.UnpackedFloat

/-! ## Unpacked doubles -/

/-- The finite forms that unpacking answers: 53 bits, unless the exponent is the least one. -/
def Canonical : UnpackedFloat → Prop
  | .finite _ mantissa exponent _ =>
      -1074 ≤ exponent ∧ exponent ≤ 971 ∧ mantissa < 2 ^ 53 ∧
        (exponent = -1074 ∨ 2 ^ 52 ≤ mantissa)
  | _ => True

/-- What a mantissa and an exponent denote, in multiples of 2^-1074. -/
def scaled (mantissa : Nat) (exponent : Int) : Nat :=
  mantissa * 2 ^ (exponent + 1074).toNat

/-- More multiples of 2^-1074 than any finite double has. -/
@[irreducible]
def beyond : Nat := scaled (2 ^ 53) 971

/-- A double in multiples of 2^-1074. -/
def key : UnpackedFloat → Int
  | .infinity sign => sign.apply beyond
  | .notANumber => 0
  | .zero _ => 0
  | .finite sign mantissa exponent _ => sign.apply (scaled mantissa exponent)

theorem toNat_implicitBit (mantissa : BitVec 52) :
    ((1#1 : BitVec 1) ++ mantissa).toNat = 2 ^ 52 + mantissa.toNat := by
  rw [BitVec.toNat_append, ← Nat.shiftLeft_add_eq_or_of_lt mantissa.isLt]
  rfl

theorem canonical_unpack (bits : BitVec Format.binary64.numBits) :
    Canonical (unpack .binary64 bits) := by
  have bias : Format.binary64.exponentBias = 1023 := by decide
  unfold unpack
  dsimp only
  split
  case isTrue => split <;> trivial
  case isFalse notOnes =>
    have belowOnes : (unpackExponent bits).toNat < 2047 := by
      have below : (unpackExponent bits).toNat < 2048 := (unpackExponent bits).isLt
      have different : (unpackExponent bits).toNat ≠ 2047 := fun equal =>
        notOnes (BitVec.eq_of_toNat_eq equal)
      omega
    have mantissaBelow : (unpackMantissa bits).toNat < 2 ^ 52 := (unpackMantissa bits).isLt
    split
    case isTrue zero =>
      split
      case isTrue => trivial
      case isFalse =>
        rw [zero, bias]
        exact ⟨by decide, by decide, by omega, .inl (by decide)⟩
    case isFalse nonzero =>
      have positive : (unpackExponent bits).toNat ≠ 0 := fun equal =>
        nonzero (BitVec.eq_of_toNat_eq equal)
      have mantissa := toNat_implicitBit (unpackMantissa bits)
      rw [bias]
      refine ⟨by omega, by omega, ?_, .inr ?_⟩
      · rw [mantissa]; omega
      · rw [mantissa]; omega

/-! ## Comparing -/

theorem scaled_pos {mantissa : Nat} (positive : 0 < mantissa) (exponent : Int) :
    0 < scaled mantissa exponent :=
  Nat.mul_pos positive (Nat.two_pow_pos _)

theorem scaled_lt_beyond {mantissa : Nat} {exponent : Int} (few : mantissa < 2 ^ 53)
    (low : exponent ≤ 971) : scaled mantissa exponent < beyond := by
  have exponents : (exponent + 1074).toNat ≤ ((971 : Int) + 1074).toNat := by omega
  unfold beyond scaled
  calc mantissa * 2 ^ (exponent + 1074).toNat
      < 2 ^ 53 * 2 ^ (exponent + 1074).toNat :=
        Nat.mul_lt_mul_of_pos_right few (Nat.two_pow_pos _)
    _ ≤ 2 ^ 53 * 2 ^ ((971 : Int) + 1074).toNat := by
        gcongr
        decide

theorem scaled_lt_of_exponent_lt {left right : Nat} {low high : Int} (ordered : low < high)
    (above : -1074 ≤ low) (few : left < 2 ^ 53) (normal : 2 ^ 52 ≤ right) :
    scaled left low < scaled right high := by
  have shift : (high + 1074).toNat = (low + 1074).toNat + 1 + (high - low - 1).toNat := by omega
  calc scaled left low
      < 2 ^ 53 * 2 ^ (low + 1074).toNat := Nat.mul_lt_mul_of_pos_right few (Nat.two_pow_pos _)
    _ = 2 ^ 52 * 2 ^ ((low + 1074).toNat + 1) := by ring
    _ ≤ right * 2 ^ (high + 1074).toNat := by
        apply Nat.mul_le_mul normal
        exact Nat.pow_le_pow_right (by decide) (by omega)

/-- Canonical magnitudes compare by their exponents first. -/
theorem then_compare_eq {left right : Nat} {low high : Int}
    (aboveLeft : -1074 ≤ low) (aboveRight : -1074 ≤ high)
    (fewLeft : left < 2 ^ 53) (fewRight : right < 2 ^ 53)
    (normalLeft : low = -1074 ∨ 2 ^ 52 ≤ left) (normalRight : high = -1074 ∨ 2 ^ 52 ≤ right) :
    (compare low high).then (compare left right) =
      compare (scaled left low) (scaled right high) := by
  rcases lt_trichotomy low high with less | rfl | greater
  · have scaledLess := scaled_lt_of_exponent_lt less aboveLeft fewLeft
      (normalRight.resolve_left (by omega))
    rw [compare_lt_iff_lt.mpr less, compare_lt_iff_lt.mpr scaledLess]
    rfl
  · rw [compare_eq_iff_eq.mpr rfl, Ordering.then]
    rcases lt_trichotomy left right with less | rfl | greater
    · have scaledLess : scaled left low < scaled right low :=
        Nat.mul_lt_mul_of_pos_right less (Nat.two_pow_pos _)
      rw [compare_lt_iff_lt.mpr less, compare_lt_iff_lt.mpr scaledLess]
    · rw [compare_eq_iff_eq.mpr rfl, compare_eq_iff_eq.mpr rfl]
    · have scaledGreater : scaled right low < scaled left low :=
        Nat.mul_lt_mul_of_pos_right greater (Nat.two_pow_pos _)
      rw [compare_gt_iff_gt.mpr greater, compare_gt_iff_gt.mpr scaledGreater]
  · have scaledGreater := scaled_lt_of_exponent_lt greater aboveRight fewRight
      (normalLeft.resolve_left (by omega))
    rw [compare_gt_iff_gt.mpr greater, compare_gt_iff_gt.mpr scaledGreater]
    rfl

theorem beyond_pos : 0 < beyond := by
  unfold beyond
  exact scaled_pos (by decide) _

theorem compare_natCast (left right : Nat) :
    compare (left : Int) (right : Int) = compare left right := by
  rcases lt_trichotomy left right with less | rfl | greater
  · rw [compare_lt_iff_lt.mpr less]
    exact compare_lt_iff_lt.mpr (by omega)
  · rw [compare_eq_iff_eq.mpr rfl, compare_eq_iff_eq.mpr rfl]
  · rw [compare_gt_iff_gt.mpr greater]
    exact compare_gt_iff_gt.mpr (by omega)

theorem compare_neg_natCast (left right : Nat) :
    compare (-(left : Int)) (-(right : Int)) = (compare left right).swap := by
  rcases lt_trichotomy left right with less | rfl | greater
  · rw [compare_lt_iff_lt.mpr less]
    exact compare_gt_iff_gt.mpr (by omega)
  · rw [compare_eq_iff_eq.mpr rfl, compare_eq_iff_eq.mpr rfl]
    rfl
  · rw [compare_gt_iff_gt.mpr greater]
    exact compare_lt_iff_lt.mpr (by omega)

theorem compare_eq {left right : UnpackedFloat} (canonicalLeft : Canonical left)
    (canonicalRight : Canonical right) (numberLeft : left.isNaN = false)
    (numberRight : right.isNaN = false) :
    left.compare right = some (compare (key left) (key right)) := by
  have inside := beyond_pos
  have lt {a b : Int} (less : a < b) : some Ordering.lt = some (compare a b) :=
    congrArg some (compare_lt_iff_lt.mpr less).symm
  have gt {a b : Int} (greater : b < a) : some Ordering.gt = some (compare a b) :=
    congrArg some (compare_gt_iff_gt.mpr greater).symm
  have eq {a b : Int} (equal : a = b) : some Ordering.eq = some (compare a b) :=
    congrArg some (compare_eq_iff_eq.mpr equal).symm
  cases left with
  | notANumber => cases numberLeft
  | infinity signLeft =>
      cases right with
      | notANumber => cases numberRight
      | infinity signRight =>
          cases signLeft <;> cases signRight
          · exact eq rfl
          · exact lt (show -(beyond : Int) < beyond by omega)
          · exact gt (show -(beyond : Int) < beyond by omega)
          · exact eq rfl
      | zero signRight =>
          cases signLeft
          · exact lt (show -(beyond : Int) < 0 by omega)
          · exact gt (show 0 < (beyond : Int) by omega)
      | finite signRight mantissa exponent positive =>
          obtain ⟨-, low, few, -⟩ := canonicalRight
          have least := scaled_pos positive exponent
          have below := scaled_lt_beyond few low
          cases signLeft
          · refine lt (show -(beyond : Int) < signRight.apply (scaled mantissa exponent) from ?_)
            cases signRight <;> simp only [Sign.apply] <;> omega
          · refine gt (show signRight.apply (scaled mantissa exponent) < (beyond : Int) from ?_)
            cases signRight <;> simp only [Sign.apply] <;> omega
  | zero signLeft =>
      cases right with
      | notANumber => cases numberRight
      | infinity signRight =>
          cases signRight
          · exact gt (show -(beyond : Int) < 0 by omega)
          · exact lt (show 0 < (beyond : Int) by omega)
      | zero signRight => exact eq rfl
      | finite signRight mantissa exponent positive =>
          have least := scaled_pos positive exponent
          cases signRight
          · exact gt (show -(scaled mantissa exponent : Int) < 0 by omega)
          · exact lt (show 0 < (scaled mantissa exponent : Int) by omega)
  | finite signLeft mantissaLeft exponentLeft positiveLeft =>
      obtain ⟨aboveLeft, lowLeft, fewLeft, normalLeft⟩ := canonicalLeft
      have leastLeft := scaled_pos positiveLeft exponentLeft
      have belowLeft := scaled_lt_beyond fewLeft lowLeft
      cases right with
      | notANumber => cases numberRight
      | infinity signRight =>
          cases signRight
          · refine gt (show -(beyond : Int) <
              signLeft.apply (scaled mantissaLeft exponentLeft) from ?_)
            cases signLeft <;> simp only [Sign.apply] <;> omega
          · refine lt (show signLeft.apply (scaled mantissaLeft exponentLeft) <
              (beyond : Int) from ?_)
            cases signLeft <;> simp only [Sign.apply] <;> omega
      | zero signRight =>
          cases signLeft
          · exact lt (show -(scaled mantissaLeft exponentLeft : Int) < 0 by omega)
          · exact gt (show 0 < (scaled mantissaLeft exponentLeft : Int) by omega)
      | finite signRight mantissaRight exponentRight positiveRight =>
          obtain ⟨aboveRight, -, fewRight, normalRight⟩ := canonicalRight
          have leastRight := scaled_pos positiveRight exponentRight
          have magnitudes := then_compare_eq aboveLeft aboveRight fewLeft fewRight normalLeft
            normalRight
          cases signLeft <;> cases signRight
          · refine congrArg some ?_
            rw [magnitudes]
            exact (compare_neg_natCast _ _).symm
          · exact lt (show -(scaled mantissaLeft exponentLeft : Int) <
              scaled mantissaRight exponentRight by omega)
          · exact gt (show -(scaled mantissaRight exponentRight : Int) <
              scaled mantissaLeft exponentLeft by omega)
          · refine congrArg some ?_
            rw [magnitudes]
            exact (compare_natCast _ _).symm

/-! ## Doubles -/

def units (x : Float) : Int :=
  key x.toModel.unpack

theorem compare_units (x y : Float) :
    x.toModel.unpack.compare y.toModel.unpack =
      if x.isNaN ∨ y.isNaN then none else some (compare (units x) (units y)) := by
  split
  case isTrue unordered =>
    rcases unordered with nan | nan
    · change x.toModel.unpack.isNaN = true at nan
      cases unpacked : x.toModel.unpack with
      | notANumber => rfl
      | _ => rw [unpacked] at nan; cases nan
    · change y.toModel.unpack.isNaN = true at nan
      cases unpacked : y.toModel.unpack with
      | notANumber => cases x.toModel.unpack <;> rfl
      | _ => rw [unpacked] at nan; cases nan
  case isFalse ordered =>
    obtain ⟨numberX, numberY⟩ := not_or.mp ordered
    exact compare_eq (canonical_unpack _) (canonical_unpack _)
      (Bool.not_eq_true _ ▸ numberX) (Bool.not_eq_true _ ▸ numberY)

theorem lt_iff {x y : Float} :
    x < y ↔ x.isNaN = false ∧ y.isNaN = false ∧ units x < units y := by
  have unfolded : x < y ↔ x.toModel.unpack.compare y.toModel.unpack = some .lt := by
    change decide (x.toModel < y.toModel) = true ↔ _
    rw [decide_eq_true_iff]
    exact beq_iff_eq
  rw [unfolded, compare_units]
  cases x.isNaN <;> cases y.isNaN <;> simp [compare_lt_iff_lt]

theorem units_le_of_not_lt {x y : Float} (numberX : x.isNaN = false) (numberY : y.isNaN = false)
    (notLess : ¬ x < y) : units y ≤ units x :=
  Int.not_lt.mp fun less => notLess (lt_iff.mpr ⟨numberX, numberY, less⟩)

theorem beq_iff {x y : Float} :
    (x == y) = true ↔ x.isNaN = false ∧ y.isNaN = false ∧ units x = units y := by
  have unfolded : (x == y) = true ↔
      x.toModel.unpack.compare y.toModel.unpack = some .eq := by
    change (x.toModel.unpack.compare y.toModel.unpack == some .eq) = true ↔ _
    exact beq_iff_eq
  rw [unfolded, compare_units]
  cases x.isNaN <;> cases y.isNaN <;> simp

/-- The finite doubles are those that infinity is beyond. -/
theorem isFinite_iff {x : Float} :
    x.isFinite = true ↔ x.isNaN = false ∧ -(beyond : Int) < units x ∧ units x < beyond := by
  have positive := beyond_pos
  have canonical : Canonical x.toModel.unpack := canonical_unpack _
  change x.toModel.unpack.isFinite = true ↔ x.toModel.unpack.isNaN = false ∧ _
  unfold units
  cases unpacked : x.toModel.unpack with
  | notANumber => exact ⟨fun finite => (by cases finite), fun number => (by cases number.1)⟩
  | infinity sign =>
      refine ⟨fun finite => (by cases finite), fun bounded => ?_⟩
      obtain ⟨-, above, below⟩ := bounded
      cases sign with
      | positive => exact absurd below (lt_irrefl (beyond : Int))
      | negative => exact absurd above (lt_irrefl (-(beyond : Int)))
  | zero sign =>
      refine ⟨fun _ => ⟨rfl, ?_, ?_⟩, fun _ => rfl⟩
      · change -(beyond : Int) < 0
        omega
      · change (0 : Int) < beyond
        omega
  | finite sign mantissa exponent nonzero =>
      rw [unpacked] at canonical
      have less := scaled_lt_beyond canonical.2.2.1 canonical.2.1
      refine ⟨fun _ => ⟨rfl, ?_, ?_⟩, fun _ => rfl⟩
      · rw [key]
        cases sign <;> simp only [Sign.apply] <;> omega
      · rw [key]
        cases sign <;> simp only [Sign.apply] <;> omega

end Doubles
