import Zenbedded.GeneratorDescription
import Zenbedded.PackedRecord
import Zenbedded.Codecs

/-!
# Fields of the wire

How the host reads and writes single fields of a payload, and what a member of a packed
struct holds.  Both ends are little-endian.  A number is kept by its bits; the conversions
between the numeric types are the compiler's.
-/

namespace Zenbedded

open ByteBlock ByteOrder PackedRecord

/-- `static_cast` between `double` and the other field types, on their bits. -/
structure Casts where
  floatToDouble : UInt32 → UInt64
  int32ToDouble : Int32 → UInt64
  uint64ToDouble : UInt64 → UInt64
  int16ToDouble : Int16 → UInt64
  uint8ToDouble : UInt8 → UInt64
  doubleToFloat : UInt64 → UInt32
  doubleToInt32 : UInt64 → Int32
  doubleToUint64 : UInt64 → UInt64
  doubleToInt16 : UInt64 → Int16
  doubleToUint8 : UInt64 → UInt8

namespace Casts

/-- The conversions of IEEE 754 numbers. -/
def ieee : Casts where
  floatToDouble bits := (Float32.ofBits bits).toFloat.toBits
  int32ToDouble value := value.toFloat.toBits
  uint64ToDouble value := value.toFloat.toBits
  int16ToDouble value := value.toFloat.toBits
  uint8ToDouble value := value.toFloat.toBits
  doubleToFloat bits := (Float.ofBits bits).toFloat32.toBits
  doubleToInt32 bits := (Float.ofBits bits).toInt32
  doubleToUint64 bits := (Float.ofBits bits).toUInt64
  doubleToInt16 bits := (Float.ofBits bits).toInt16
  doubleToUint8 bits := (Float.ofBits bits).toUInt8

variable (casts : Casts)

def toDouble : CType → Nat → UInt64
  | .float, bits => casts.floatToDouble (UInt32.ofNat bits)
  | .double, bits => UInt64.ofNat bits
  | .int32, bits => casts.int32ToDouble (UInt32.ofNat bits).toInt32
  | .uint64, bits => casts.uint64ToDouble (UInt64.ofNat bits)
  | .int16, bits => casts.int16ToDouble (UInt16.ofNat bits).toInt16
  | .uint8, bits => casts.uint8ToDouble (UInt8.ofNat bits)

def ofDouble : CType → UInt64 → Nat
  | .float, value => (casts.doubleToFloat value).toNat
  | .double, value => value.toNat
  | .int32, value => (casts.doubleToInt32 value).toUInt32.toNat
  | .uint64, value => (casts.doubleToUint64 value).toNat
  | .int16, value => (casts.doubleToInt16 value).toUInt16.toNat
  | .uint8, value => (casts.doubleToUint8 value).toNat

theorem ofDouble_lt (type : CType) (value : UInt64) :
    casts.ofDouble type value < 256 ^ type.sizeof := by
  cases type with
  | float => exact (casts.doubleToFloat value).toNat_lt
  | double => exact value.toNat_lt
  | int32 => exact (casts.doubleToInt32 value).toUInt32.toNat_lt
  | uint64 => exact (casts.doubleToUint64 value).toNat_lt
  | int16 => exact (casts.doubleToInt16 value).toUInt16.toNat_lt
  | uint8 => exact (casts.doubleToUint8 value).toNat_lt

end Casts

/-! ## Fields on the host -/

section Host

variable (casts : Casts) (fields : List FlatField) {size : Nat}

/-- `read_state_field` and `read_command_field`, on the fields of their section; `none` is a
read outside the buffer. -/
def readField (buffer : Block UInt8 size) (fieldIndex : Nat) : Option UInt64 :=
  match fields[fieldIndex]? with
  | none => some 0
  | some f =>
      match f.type with
      | .float32 => do
          let v ← buffer.load f.byteOffset 4
          some (casts.floatToDouble (UInt32.ofNat (littleEndianValue v)))
      | .float64 => do
          let v ← buffer.load f.byteOffset 8
          some (UInt64.ofNat (littleEndianValue v))
      | .int32 => do
          let v ← buffer.load f.byteOffset 4
          some (casts.int32ToDouble (UInt32.ofNat (littleEndianValue v)).toInt32)
      | .uint64 => do
          let v ← buffer.load f.byteOffset 8
          some (casts.uint64ToDouble (UInt64.ofNat (littleEndianValue v)))
      | .int16 => do
          let v ← buffer.load f.byteOffset 2
          some (casts.int16ToDouble (UInt16.ofNat (littleEndianValue v)).toInt16)
      | .uint8 => do
          let v ← buffer.load f.byteOffset 1
          some (casts.uint8ToDouble (UInt8.ofNat (littleEndianValue v)))

/-- `write_command_field`, on the fields of the section; `none` is a write outside the
buffer. -/
def writeField (buffer : Block UInt8 size) (fieldIndex : Nat) (value : UInt64) :
    Option (Block UInt8 size) :=
  match fields[fieldIndex]? with
  | none => some buffer
  | some f =>
      match f.type with
      | .float32 =>
          buffer.store f.byteOffset (littleEndian 4 (casts.doubleToFloat value).toNat)
      | .float64 => buffer.store f.byteOffset (littleEndian 8 value.toNat)
      | .int32 =>
          buffer.store f.byteOffset (littleEndian 4 (casts.doubleToInt32 value).toUInt32.toNat)
      | .uint64 =>
          buffer.store f.byteOffset (littleEndian 8 (casts.doubleToUint64 value).toNat)
      | .int16 =>
          buffer.store f.byteOffset (littleEndian 2 (casts.doubleToInt16 value).toUInt16.toNat)
      | .uint8 =>
          buffer.store f.byteOffset (littleEndian 1 (casts.doubleToUint8 value).toNat)

variable {casts fields} {buffer : Block UInt8 size} {fieldIndex : Nat} {f : FlatField}

theorem readField_eq (found : fields[fieldIndex]? = some f) :
    readField casts fields buffer fieldIndex =
      (buffer.load f.byteOffset (fieldByteSize f.type)).map fun bytes =>
        casts.toDouble (fieldTypeToCType f.type) (littleEndianValue bytes) := by
  obtain ⟨component, field, type, byteOffset⟩ := f
  rw [readField, found]
  cases type with
  | float32 => cases loaded : buffer.load byteOffset 4 <;> simp [fieldByteSize, loaded]; rfl
  | float64 => cases loaded : buffer.load byteOffset 8 <;> simp [fieldByteSize, loaded]; rfl
  | int32 => cases loaded : buffer.load byteOffset 4 <;> simp [fieldByteSize, loaded]; rfl
  | uint64 => cases loaded : buffer.load byteOffset 8 <;> simp [fieldByteSize, loaded]; rfl
  | int16 => cases loaded : buffer.load byteOffset 2 <;> simp [fieldByteSize, loaded]; rfl
  | uint8 => cases loaded : buffer.load byteOffset 1 <;> simp [fieldByteSize, loaded]; rfl

theorem writeField_eq (found : fields[fieldIndex]? = some f) (value : UInt64) :
    writeField casts fields buffer fieldIndex value =
      buffer.store f.byteOffset (littleEndian (fieldByteSize f.type)
        (casts.ofDouble (fieldTypeToCType f.type) value)) := by
  obtain ⟨component, field, type, byteOffset⟩ := f
  rw [writeField, found]
  cases type <;> rfl

end Host

/-! ## Where the fields of a schema lie -/

def specWidths (specs : List FieldSpec) : List Nat :=
  specs.map fun spec => fieldByteSize spec.type

@[simp]
theorem length_specWidths (specs : List FieldSpec) : (specWidths specs).length = specs.length :=
  List.length_map _

theorem sum_specWidths (specs : List FieldSpec) : (specWidths specs).sum = specsByteSize specs :=
  rfl

theorem getElem?_layout (start : Nat) (specs : List FieldSpec) (index : Nat) :
    (layout start specs)[index]? = specs[index]?.map fun spec =>
      ⟨spec.component, spec.field, spec.type, start + offset (specWidths specs) index⟩ := by
  induction specs generalizing start index with
  | nil => simp [layout]
  | cons spec specs ih =>
      cases index with
      | zero => simp [layout]
      | succ index =>
          simp [layout, ih, offset, specWidths, Nat.add_assoc]

section Spec

variable {specs : List FieldSpec} {index : Nat} {spec : FieldSpec}

theorem getElem?_specWidths (found : specs[index]? = some spec) :
    (specWidths specs)[index]? = some (fieldByteSize spec.type) := by
  simp [specWidths, found]

theorem offset_add_le_specsByteSize (found : specs[index]? = some spec) :
    offset (specWidths specs) index + fieldByteSize spec.type ≤ specsByteSize specs :=
  offset_add_le_sum (getElem?_specWidths found)

theorem flatField_of_spec (found : specs[index]? = some spec) :
    (layout 0 specs)[index]? = some
      ⟨spec.component, spec.field, spec.type, offset (specWidths specs) index⟩ := by
  simp [getElem?_layout, found]

end Spec

/-! ## Members of a packed struct -/

def memberWidths (members : List CMember) : List Nat :=
  members.map fun member => member.type.sizeof

/-- `sizeof` of a packed struct; one without members has size 1. -/
def structSize (members : List CMember) : Nat :=
  if members = [] then 1 else (memberWidths members).sum

def memberBits (members : List CMember) (object : Block UInt8 (structSize members))
    (index : Nat) : Option Nat := do
  let member ← members[index]?
  let bytes ← object.load (offset (memberWidths members) index) member.type.sizeof
  some (littleEndianValue bytes)

theorem sizeof_fieldTypeToCType (type : FieldType) :
    (fieldTypeToCType type).sizeof = fieldByteSize type := by
  cases type <;> rfl

/-- The members of a generated struct have the widths of the fields they are for. -/
theorem memberWidths_map_member (specs : List FieldSpec) :
    memberWidths (specs.map FieldSpec.member) = specWidths specs := by
  rw [memberWidths, List.map_map]
  exact List.map_congr_left fun spec _ => sizeof_fieldTypeToCType spec.type

theorem structSize_map_member {specs : List FieldSpec} (some : specs ≠ []) :
    structSize (specs.map FieldSpec.member) = specsByteSize specs := by
  rw [structSize, if_neg (by simpa using some), memberWidths_map_member, sum_specWidths]

end Zenbedded
