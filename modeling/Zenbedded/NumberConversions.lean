import Zenbedded.Binary64
import Zenbedded.SchemaFields

/-!
# Conversions of field values

The host takes every field as a double.  Conversions between doubles and the integer types
of fields are fixed by the language where the integer lies in the range of its type; a
conversion of anything else to an integer type is undefined.
-/

namespace Zenbedded

def FieldType.integers : FieldType → Option (Int × Int)
  | .float32 | .float64 => none
  | .int32 => some (-2 ^ 31, 2 ^ 31 - 1)
  | .uint64 => some (0, 2 ^ 64 - 1)
  | .int16 => some (-2 ^ 15, 2 ^ 15 - 1)
  | .uint8 => some (0, 2 ^ 8 - 1)

def FieldType.InRange (type : FieldType) (number : Int) : Prop :=
  ∀ bounds, type.integers = some bounds → bounds.1 ≤ number ∧ number ≤ bounds.2

namespace Casts

def truncated (undefined : UInt64 → Int) (lowest highest : Int) (value : UInt64) : Int :=
  match Binary64.truncate value with
  | none => undefined value
  | some number =>
      if lowest ≤ number ∧ number ≤ highest then number else undefined value

/-- The conversions of the language, with those of `float` and with what comes out of an
undefined conversion to an integer. -/
def standard (floatToDouble : UInt32 → UInt64) (doubleToFloat : UInt64 → UInt32)
    (undefined : UInt64 → Int) : Casts where
  floatToDouble
  int32ToDouble value := Binary64.ofInt value.toInt
  uint64ToDouble value := Binary64.ofInt value.toNat
  int16ToDouble value := Binary64.ofInt value.toInt
  uint8ToDouble value := Binary64.ofInt value.toNat
  doubleToFloat
  doubleToInt32 value := Int32.ofInt (truncated undefined (-2 ^ 31) (2 ^ 31 - 1) value)
  doubleToUint64 value := UInt64.ofInt (truncated undefined 0 (2 ^ 64 - 1) value)
  doubleToInt16 value := Int16.ofInt (truncated undefined (-2 ^ 15) (2 ^ 15 - 1) value)
  doubleToUint8 value := UInt8.ofInt (truncated undefined 0 (2 ^ 8 - 1) value)

variable {floatToDouble : UInt32 → UInt64} {doubleToFloat : UInt64 → UInt32}
  {undefined : UInt64 → Int} {value : UInt64} {number : Int}

theorem truncated_of_isInteger {lowest highest : Int} (isInteger : Binary64.IsInteger value number)
    (low : lowest ≤ number) (high : number ≤ highest) :
    truncated undefined lowest highest value = number := by
  simp only [truncated, isInteger.truncate_eq]
  exact if_pos ⟨low, high⟩

theorem toDouble_ofDouble_standard {type : FieldType} {bounds : Int × Int}
    (integers : type.integers = some bounds) (isInteger : Binary64.IsInteger value number)
    (inRange : type.InRange number) :
    (standard floatToDouble doubleToFloat undefined).toDouble (fieldTypeToCType type)
        ((standard floatToDouble doubleToFloat undefined).ofDouble (fieldTypeToCType type)
          value) =
      Binary64.ofInt number := by
  obtain ⟨low, high⟩ := inRange bounds integers
  cases type with
  | float32 => cases integers
  | float64 => cases integers
  | int32 =>
      cases integers
      simp only [fieldTypeToCType, toDouble, ofDouble, standard, UInt32.ofNat_toNat,
        truncated_of_isInteger isInteger low high, Int32.toInt32_toUInt32]
      rw [Int32.toInt_ofInt_of_le low (by omega)]
  | uint64 =>
      cases integers
      simp only [fieldTypeToCType, toDouble, ofDouble, standard, UInt64.ofNat_toNat,
        truncated_of_isInteger isInteger low high]
      have below : number.toNat < 2 ^ 64 := by omega
      rw [UInt64.ofInt, Int.emod_eq_of_lt low (by omega), UInt64.toNat_ofNat_of_lt' below,
        Int.toNat_of_nonneg low]
  | int16 =>
      cases integers
      simp only [fieldTypeToCType, toDouble, ofDouble, standard, UInt16.ofNat_toNat,
        truncated_of_isInteger isInteger low high, Int16.toInt16_toUInt16]
      rw [Int16.toInt_ofInt_of_le low (by omega)]
  | uint8 =>
      cases integers
      simp only [fieldTypeToCType, toDouble, ofDouble, standard, UInt8.ofNat_toNat,
        truncated_of_isInteger isInteger low high]
      have below : number.toNat < 2 ^ 8 := by omega
      rw [UInt8.ofInt, Int.emod_eq_of_lt low (by omega), UInt8.toNat_ofNat_of_lt' below,
        Int.toNat_of_nonneg low]

end Casts

/-! ## Values that a field can hold -/

/-- A double that is exactly a value of a field's type. -/
def Representable (floatToDouble : UInt32 → UInt64) (type : FieldType) (value : UInt64) : Prop :=
  match type with
  | .float32 => ∃ bits, floatToDouble bits = value
  | .float64 => True
  | .int32 | .uint64 | .int16 | .uint8 =>
      ∃ number, Binary64.IsInteger value number ∧ type.InRange number

theorem Representable.sameNumber {floatToDouble : UInt32 → UInt64}
    {doubleToFloat : UInt64 → UInt32}
    (undone : ∀ bits, floatToDouble (doubleToFloat (floatToDouble bits)) = floatToDouble bits)
    (undefined : UInt64 → Int) {type : FieldType} {value : UInt64}
    (representable : Representable floatToDouble type value) :
    let casts := Casts.standard floatToDouble doubleToFloat undefined
    Binary64.SameNumber value (casts.toDouble (fieldTypeToCType type)
      (casts.ofDouble (fieldTypeToCType type) value)) := by
  intro casts
  have back {bounds : Int × Int} (integers : type.integers = some bounds)
      (isInteger : ∃ number, Binary64.IsInteger value number ∧ type.InRange number) :
      Binary64.SameNumber value (casts.toDouble (fieldTypeToCType type)
        (casts.ofDouble (fieldTypeToCType type) value)) := by
    obtain ⟨number, isInteger, inRange⟩ := isInteger
    rw [Casts.toDouble_ofDouble_standard integers isInteger inRange]
    exact isInteger.sameNumber
  cases type with
  | float32 =>
      obtain ⟨bits, rfl⟩ := representable
      left
      simp [casts, fieldTypeToCType, Casts.toDouble, Casts.ofDouble, Casts.standard, undone]
  | float64 =>
      left
      simp [fieldTypeToCType, Casts.toDouble, Casts.ofDouble]
  | int32 => exact back rfl representable
  | uint64 => exact back rfl representable
  | int16 => exact back rfl representable
  | uint8 => exact back rfl representable

end Zenbedded
