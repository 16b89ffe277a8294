import Mathlib.Algebra.Order.Ring.Int
import Mathlib.Tactic.Common
import Mathlib.Tactic.Linarith

/-!
# Numbers of the format binary64

A double is kept by its 64 bits: a sign, eleven bits of exponent and 52 bits of fraction.
Its number is a significand times a power of two, so truncation and the conversion of
integers are described without real numbers.
-/

namespace Binary64

/-! ## The parts of a double -/

def negative (bits : UInt64) : Bool :=
  2 ^ 63 ≤ bits.toNat

def exponent (bits : UInt64) : Nat :=
  bits.toNat / 2 ^ 52 % 2 ^ 11

def fraction (bits : UInt64) : Nat :=
  bits.toNat % 2 ^ 52

def finite (bits : UInt64) : Bool :=
  exponent bits ≠ 2047

/-- A finite double is its significand times `2 ^ (scale - 1075)`. -/
def significand (bits : UInt64) : Nat :=
  if exponent bits = 0 then fraction bits else 2 ^ 52 + fraction bits

def scale (bits : UInt64) : Nat :=
  max (exponent bits) 1

/-- The two parts of the quotient that the magnitude of a finite double is. -/
def numerator (bits : UInt64) : Nat :=
  significand bits * 2 ^ (scale bits - 1075)

def denominator (bits : UInt64) : Nat :=
  2 ^ (1075 - scale bits)

def isZero (bits : UInt64) : Bool :=
  bits.toNat % 2 ^ 63 = 0

def signed (negative : Bool) (magnitude : Nat) : Int :=
  if negative then -magnitude else magnitude

/-- A number without its fractional part; `none` when the double is no number. -/
def truncate (bits : UInt64) : Option Int :=
  if finite bits then some (signed (negative bits) (numerator bits / denominator bits))
  else none

/-- The double is a number without fractional part. -/
def IsInteger (bits : UInt64) (number : Int) : Prop :=
  finite bits = true ∧ signed (negative bits) (numerator bits) = number * denominator bits

instance (bits : UInt64) (number : Int) : Decidable (IsInteger bits number) :=
  inferInstanceAs (Decidable (_ ∧ _))

/-- The bits of one double, or the two zeros. -/
def SameNumber (bits other : UInt64) : Prop :=
  bits = other ∨ (isZero bits = true ∧ isZero other = true)

/-! ## Conversion of integers -/

/-- Division by a power of two, to the nearest and with ties to even. -/
def shiftRounded (number shift : Nat) : Nat :=
  let quotient := number / 2 ^ shift
  let rest := number % 2 ^ shift
  if 2 ^ shift < 2 * rest ∨ (2 ^ shift = 2 * rest ∧ quotient % 2 = 1) then quotient + 1
  else quotient

/-- The bits of the magnitude next to a number; a carry goes into the exponent. -/
def magnitudeBits (number : Nat) : Nat :=
  if number = 0 then 0
  else if number.log2 ≤ 52 then
    (number.log2 + 1022) * 2 ^ 52 + number * 2 ^ (52 - number.log2)
  else
    (number.log2 + 1022) * 2 ^ 52 + shiftRounded number (number.log2 - 52)

/-- The double next to an integer of at most 64 bits. -/
def ofInt (number : Int) : UInt64 :=
  UInt64.ofNat (magnitudeBits number.natAbs + if number < 0 then 2 ^ 63 else 0)

/-! ## Exact conversions -/

variable {bits : UInt64} {number : Int}

theorem toNat_eq (bits : UInt64) :
    bits.toNat = exponent bits * 2 ^ 52 + fraction bits +
      if negative bits then 2 ^ 63 else 0 := by
  have bound := bits.toNat_lt
  simp only [negative, exponent, fraction, decide_eq_true_eq]
  split <;> omega

theorem fraction_lt (bits : UInt64) : fraction bits < 2 ^ 52 :=
  Nat.mod_lt _ (by decide)

theorem denominator_pos (bits : UInt64) : 0 < denominator bits :=
  Nat.two_pow_pos _

theorem natAbs_signed (negative : Bool) (magnitude : Nat) :
    (signed negative magnitude).natAbs = magnitude := by
  cases negative <;> simp [signed]

theorem signed_natAbs_of_iff {negative : Bool} (sign : negative = true ↔ number < 0) :
    signed negative number.natAbs = number := by
  cases negative with
  | false =>
      simp only [Bool.false_eq_true, false_iff] at sign
      simp only [signed, Bool.false_eq_true, if_false]
      omega
  | true =>
      simp only [true_iff] at sign
      simp only [signed, if_true]
      omega

theorem IsInteger.numerator_eq (isInteger : IsInteger bits number) :
    numerator bits = number.natAbs * denominator bits := by
  have magnitudes := congrArg Int.natAbs isInteger.2
  rwa [natAbs_signed, Int.natAbs_mul, Int.natAbs_natCast] at magnitudes

/-- The sign bit of an integer other than zero. -/
theorem IsInteger.negative_iff (isInteger : IsInteger bits number) (nonzero : number ≠ 0) :
    negative bits = true ↔ number < 0 := by
  have positive : (0 : Int) < denominator bits := by exact_mod_cast denominator_pos bits
  have valueEq := isInteger.2
  cases sign : negative bits with
  | false =>
      rw [sign] at valueEq
      simp only [signed, Bool.false_eq_true, if_false] at valueEq
      have nonneg : 0 ≤ number * denominator bits := valueEq ▸ Int.natCast_nonneg _
      simpa using nonneg_of_mul_nonneg_left nonneg positive
  | true =>
      rw [sign] at valueEq
      simp only [signed, if_true] at valueEq
      have nonpos : number * denominator bits ≤ 0 := by omega
      have : number ≤ 0 := nonpos_of_mul_nonpos_left nonpos positive
      simp only [true_iff]
      omega

theorem IsInteger.truncate_eq (isInteger : IsInteger bits number) :
    truncate bits = some number := by
  rw [truncate, if_pos isInteger.1, isInteger.numerator_eq,
    Nat.mul_div_cancel _ (denominator_pos bits)]
  rcases eq_or_ne number 0 with rfl | nonzero
  · cases negative bits <;> rfl
  · rw [signed_natAbs_of_iff (isInteger.negative_iff nonzero)]

theorem shiftRounded_mul (number shift : Nat) :
    shiftRounded (number * 2 ^ shift) shift = number := by
  have positive := Nat.two_pow_pos shift
  have back : number * 2 ^ shift / 2 ^ shift = number := Nat.mul_div_cancel _ positive
  have exact : number * 2 ^ shift % 2 ^ shift = 0 := Nat.mul_mod_left ..
  rw [shiftRounded, back, exact]
  simp only [Nat.mul_zero]
  rw [if_neg (by omega)]

/-- A number below 53 bits, shifted so that it has all of them. -/
theorem log2_of_shifted {number shift : Nat} (few : shift ≤ 52)
    (low : 2 ^ 52 ≤ number * 2 ^ shift) (high : number * 2 ^ shift < 2 ^ 53) :
    number.log2 = 52 - shift := by
  have positive := Nat.two_pow_pos shift
  have lower : 2 ^ (52 - shift) * 2 ^ shift = 2 ^ 52 := by
    rw [← Nat.pow_add, Nat.sub_add_cancel few]
  have upper : 2 ^ (52 - shift + 1) * 2 ^ shift = 2 ^ 53 := by
    rw [← Nat.pow_add, show 52 - shift + 1 + shift = 53 by omega]
  have nonzero : number ≠ 0 := by
    rintro rfl
    simp at low
  rw [Nat.log2_eq_iff nonzero]
  exact ⟨Nat.le_of_mul_le_mul_right (lower ▸ low) positive,
    Nat.lt_of_mul_lt_mul_right (upper ▸ high)⟩

theorem log2_of_significand {significand shift : Nat} (low : 2 ^ 52 ≤ significand)
    (high : significand < 2 ^ 53) : (significand * 2 ^ shift).log2 = 52 + shift := by
  have positive := Nat.two_pow_pos shift
  have nonzero : significand * 2 ^ shift ≠ 0 := Nat.mul_ne_zero (by omega) positive.ne'
  rw [Nat.log2_eq_iff nonzero, Nat.add_right_comm, Nat.pow_add, Nat.pow_add]
  exact ⟨Nat.mul_le_mul_right _ low, Nat.mul_lt_mul_of_pos_right high positive⟩

/-- A number that is a significand times a power of two is converted exactly. -/
theorem magnitudeBits_eq {number field rest : Nat} (nonzero : number ≠ 0)
    (below : rest < 2 ^ 52)
    (scaled : (2 ^ 52 + rest) * 2 ^ (field - 1075) = number * 2 ^ (1075 - field)) :
    magnitudeBits number = field * 2 ^ 52 + rest := by
  rcases Nat.le_total field 1075 with small | large
  · have shifted : number * 2 ^ (1075 - field) = 2 ^ 52 + rest := by
      rw [← scaled, Nat.sub_eq_zero_of_le small, Nat.pow_zero, Nat.mul_one]
    have few : 1075 - field < 53 := by
      have grows := Nat.le_mul_of_pos_left (2 ^ (1075 - field)) (Nat.pos_of_ne_zero nonzero)
      exact (Nat.pow_lt_pow_iff_right (by decide)).mp
        (show 2 ^ (1075 - field) < 2 ^ 53 by omega)
    have logEq : number.log2 = 52 - (1075 - field) :=
      log2_of_shifted (by omega) (by omega) (by omega)
    have back : 52 - number.log2 = 1075 - field := by omega
    rw [magnitudeBits, if_neg nonzero, if_pos (by omega), back, shifted]
    omega
  · have numberEq : number = (2 ^ 52 + rest) * 2 ^ (field - 1075) := by
      rw [scaled, Nat.sub_eq_zero_of_le large, Nat.pow_zero, Nat.mul_one]
    have logEq : number.log2 = 52 + (field - 1075) :=
      numberEq ▸ log2_of_significand (by omega) (by omega)
    rcases Nat.eq_zero_or_pos (field - 1075) with none | some
    · rw [none, Nat.pow_zero, Nat.mul_one] at numberEq
      rw [magnitudeBits, if_neg nonzero, if_pos (by omega), logEq, none, numberEq]
      omega
    · have back : number.log2 - 52 = field - 1075 := by omega
      rw [magnitudeBits, if_neg nonzero, if_neg (by omega), back, numberEq,
        shiftRounded_mul, ← numberEq]
      omega

/-- A number other than zero without fractional part is a normal one. -/
theorem IsInteger.exponent_ne_zero (isInteger : IsInteger bits number) (nonzero : number ≠ 0) :
    exponent bits ≠ 0 := by
  intro subnormal
  have lowest : scale bits = 1 := by rw [scale, subnormal]; rfl
  have short : numerator bits < 2 ^ 52 := by
    rw [numerator, significand, if_pos subnormal, lowest, Nat.sub_eq_zero_of_le (by decide),
      Nat.pow_zero, Nat.mul_one]
    exact fraction_lt bits
  have long : 2 ^ 52 ≤ denominator bits :=
    Nat.pow_le_pow_right (by decide) (by rw [lowest]; decide)
  have grows := Nat.le_mul_of_pos_left (denominator bits)
    (Nat.pos_of_ne_zero (Int.natAbs_ne_zero.mpr nonzero))
  rw [isInteger.numerator_eq] at short
  omega

theorem IsInteger.ofInt_eq (isInteger : IsInteger bits number) (nonzero : number ≠ 0) :
    ofInt number = bits := by
  have normal := isInteger.exponent_ne_zero nonzero
  have scaled := isInteger.numerator_eq
  rw [numerator, denominator, significand, if_neg normal,
    show scale bits = exponent bits from Nat.max_eq_left (by omega)] at scaled
  have magnitude := magnitudeBits_eq (Int.natAbs_ne_zero.mpr nonzero) (fraction_lt bits) scaled
  have sign := isInteger.negative_iff nonzero
  have sameSign : (if number < 0 then 2 ^ 63 else 0) = if negative bits then 2 ^ 63 else 0 :=
    if_congr sign.symm rfl rfl
  rw [ofInt, magnitude, sameSign, ← toNat_eq, UInt64.ofNat_toNat]

theorem IsInteger.isZero (isInteger : IsInteger bits 0) : isZero bits = true := by
  have valueEq := isInteger.numerator_eq
  simp only [Int.natAbs_zero, Nat.zero_mul, numerator, Nat.mul_eq_zero] at valueEq
  have noSignificand := valueEq.resolve_right (Nat.two_pow_pos _).ne'
  have parts := toNat_eq bits
  rw [significand] at noSignificand
  split at noSignificand
  case isTrue subnormal =>
    rw [subnormal, noSignificand] at parts
    rw [Binary64.isZero, parts]
    split <;> rfl
  case isFalse => omega

/-- Converting back what a double says exactly gives the double, up to the sign of zero. -/
theorem IsInteger.sameNumber (isInteger : IsInteger bits number) :
    SameNumber bits (ofInt number) := by
  rcases eq_or_ne number 0 with rfl | nonzero
  · exact .inr ⟨isInteger.isZero, rfl⟩
  · exact .inl (isInteger.ofInt_eq nonzero).symm

/-! ## The shorter format -/

/-- A magnitude behind infinity is a NaN; one in the lower half of these signals, and a conversion
makes it quiet. -/
def quiet (infinity half magnitude : Nat) : Nat :=
  if infinity < magnitude ∧ magnitude < infinity + half then magnitude + half else magnitude

/-- The magnitude of a float as that of a double; a NaN keeps its payload. -/
def widenMagnitude (magnitude : Nat) : Nat :=
  if magnitude = 0 then 0
  else if magnitude < 2 ^ 23 then
    (magnitude.log2 + 873) * 2 ^ 52 + magnitude * 2 ^ (52 - magnitude.log2)
  else if magnitude < 255 * 2 ^ 23 then magnitude * 2 ^ 29 + 896 * 2 ^ 52
  else quiet (255 * 2 ^ 23) (2 ^ 22) magnitude * 2 ^ 29 + 1792 * 2 ^ 52

/-- The magnitude of the float next to a double; a NaN keeps the front of its payload. -/
def narrowMagnitude (magnitude : Nat) : Nat :=
  if magnitude < 873 * 2 ^ 52 then 0
  else if magnitude < 897 * 2 ^ 52 then
    shiftRounded (2 ^ 52 + magnitude % 2 ^ 52) (926 - magnitude / 2 ^ 52)
  else if magnitude < 2047 * 2 ^ 52 then
    min (shiftRounded (magnitude - 896 * 2 ^ 52) 29) (255 * 2 ^ 23)
  else (quiet (2047 * 2 ^ 52) (2 ^ 51) magnitude - 1792 * 2 ^ 52) / 2 ^ 29

def ofFloat (bits : UInt32) : UInt64 :=
  UInt64.ofNat (widenMagnitude (bits.toNat % 2 ^ 31) + bits.toNat / 2 ^ 31 * 2 ^ 63)

def toFloat (bits : UInt64) : UInt32 :=
  UInt32.ofNat (narrowMagnitude (bits.toNat % 2 ^ 63) + bits.toNat / 2 ^ 63 * 2 ^ 31)

theorem shifted_bounds {number : Nat} (nonzero : number ≠ 0) (short : number.log2 ≤ 52) :
    2 ^ 52 ≤ number * 2 ^ (52 - number.log2) ∧ number * 2 ^ (52 - number.log2) < 2 ^ 53 := by
  have positive := Nat.two_pow_pos (52 - number.log2)
  obtain ⟨low, high⟩ := (Nat.log2_eq_iff nonzero).mp rfl
  have lower := Nat.mul_le_mul_right (2 ^ (52 - number.log2)) low
  have upper := Nat.mul_lt_mul_of_pos_right high positive
  rw [← Nat.pow_add] at lower upper
  rw [show number.log2 + (52 - number.log2) = 52 by omega] at lower
  rw [show number.log2 + 1 + (52 - number.log2) = 53 by omega] at upper
  exact ⟨lower, upper⟩

theorem log2_le_of_subnormal {magnitude : Nat} (nonzero : magnitude ≠ 0)
    (subnormal : magnitude < 2 ^ 23) : magnitude.log2 ≤ 22 :=
  Nat.le_of_lt_succ ((Nat.log2_lt nonzero).mpr subnormal)

theorem quiet_cases (infinity half magnitude : Nat) :
    (infinity < magnitude ∧ magnitude < infinity + half ∧
      quiet infinity half magnitude = magnitude + half) ∨
    ((magnitude ≤ infinity ∨ infinity + half ≤ magnitude) ∧
      quiet infinity half magnitude = magnitude) := by
  unfold quiet
  split <;> omega

theorem widenMagnitude_lt {magnitude : Nat} (below : magnitude < 2 ^ 31) :
    widenMagnitude magnitude < 2 ^ 63 := by
  have quieted := quiet_cases (255 * 2 ^ 23) (2 ^ 22) magnitude
  unfold widenMagnitude
  split_ifs with zero subnormal finite
  · decide
  · have short := log2_le_of_subnormal zero subnormal
    have bounds := shifted_bounds zero (by omega)
    omega
  · omega
  · omega

/-- Narrowing gives back the float that was widened, a signalling NaN as a quiet one. -/
theorem narrowMagnitude_widenMagnitude {magnitude : Nat} (below : magnitude < 2 ^ 31) :
    narrowMagnitude (widenMagnitude magnitude) = quiet (255 * 2 ^ 23) (2 ^ 22) magnitude := by
  have quieted := quiet_cases (255 * 2 ^ 23) (2 ^ 22) magnitude
  unfold widenMagnitude
  split_ifs with zero subnormal finite
  · rw [zero]
    rfl
  · have short := log2_le_of_subnormal zero subnormal
    obtain ⟨low, high⟩ := shifted_bounds zero (by omega)
    generalize shiftedEq : magnitude * 2 ^ (52 - magnitude.log2) = shifted at *
    have field : ((magnitude.log2 + 873) * 2 ^ 52 + shifted) / 2 ^ 52 = magnitude.log2 + 874 := by
      omega
    have rest : 2 ^ 52 + ((magnitude.log2 + 873) * 2 ^ 52 + shifted) % 2 ^ 52 = shifted := by
      omega
    rw [narrowMagnitude, if_neg (by omega), if_pos (by omega), field, rest, ← shiftedEq,
      show 926 - (magnitude.log2 + 874) = 52 - magnitude.log2 by omega, shiftRounded_mul]
    omega
  · rw [narrowMagnitude, if_neg (by omega), if_neg (by omega), if_pos (by omega),
      Nat.add_sub_cancel, shiftRounded_mul]
    omega
  · have still := quiet_cases (2047 * 2 ^ 52) (2 ^ 51)
      (quiet (255 * 2 ^ 23) (2 ^ 22) magnitude * 2 ^ 29 + 1792 * 2 ^ 52)
    rw [narrowMagnitude, if_neg (by omega), if_neg (by omega), if_neg (by omega)]
    omega

theorem widenMagnitude_quiet {magnitude : Nat} :
    widenMagnitude (quiet (255 * 2 ^ 23) (2 ^ 22) magnitude) = widenMagnitude magnitude := by
  rcases quiet_cases (255 * 2 ^ 23) (2 ^ 22) magnitude with ⟨above, signals, quieted⟩ | ⟨-, same⟩
  · have still : quiet (255 * 2 ^ 23) (2 ^ 22) (magnitude + 2 ^ 22) = magnitude + 2 ^ 22 := by
      have cases := quiet_cases (255 * 2 ^ 23) (2 ^ 22) (magnitude + 2 ^ 22)
      omega
    have behind (number : Nat) (infinite : 255 * 2 ^ 23 ≤ number) : widenMagnitude number =
        quiet (255 * 2 ^ 23) (2 ^ 22) number * 2 ^ 29 + 1792 * 2 ^ 52 := by
      rw [widenMagnitude, if_neg (by omega), if_neg (by omega), if_neg (by omega)]
    rw [quieted, behind _ (by omega), behind _ (by omega), still, quieted]
  · rw [same]

theorem toNat_ofFloat (bits : UInt32) :
    (ofFloat bits).toNat =
      widenMagnitude (bits.toNat % 2 ^ 31) + bits.toNat / 2 ^ 31 * 2 ^ 63 := by
  have bound := bits.toNat_lt
  have below : bits.toNat % 2 ^ 31 < 2 ^ 31 := Nat.mod_lt _ (by decide)
  have widened := widenMagnitude_lt below
  exact UInt64.toNat_ofNat_of_lt' (by change _ < 2 ^ 64; omega)

/-- Narrowing undoes widening, up to what widening does not tell apart. -/
theorem ofFloat_toFloat_ofFloat (bits : UInt32) :
    ofFloat (toFloat (ofFloat bits)) = ofFloat bits := by
  have bound := bits.toNat_lt
  have below : bits.toNat % 2 ^ 31 < 2 ^ 31 := Nat.mod_lt _ (by decide)
  have widened := widenMagnitude_lt below
  have narrowed := narrowMagnitude_widenMagnitude below
  have quieted := quiet_cases (255 * 2 ^ 23) (2 ^ 22) (bits.toNat % 2 ^ 31)
  have wide := toNat_ofFloat bits
  have front : (ofFloat bits).toNat % 2 ^ 63 = widenMagnitude (bits.toNat % 2 ^ 31) := by omega
  have sign : (ofFloat bits).toNat / 2 ^ 63 = bits.toNat / 2 ^ 31 := by omega
  have narrow : (toFloat (ofFloat bits)).toNat =
      quiet (255 * 2 ^ 23) (2 ^ 22) (bits.toNat % 2 ^ 31) + bits.toNat / 2 ^ 31 * 2 ^ 31 := by
    rw [toFloat, front, sign, narrowed]
    exact UInt32.toNat_ofNat_of_lt' (by change _ < 2 ^ 32; omega)
  have narrowFront : (toFloat (ofFloat bits)).toNat % 2 ^ 31 =
      quiet (255 * 2 ^ 23) (2 ^ 22) (bits.toNat % 2 ^ 31) := by omega
  have narrowSign : (toFloat (ofFloat bits)).toNat / 2 ^ 31 = bits.toNat / 2 ^ 31 := by omega
  refine UInt64.toNat_inj.mp ?_
  rw [toNat_ofFloat, narrowFront, narrowSign, widenMagnitude_quiet, wide]

end Binary64
