import Mathlib.Data.List.Basic
import Mathlib.Tactic.Common
import Mathlib.Tactic.Ring

/-!
# Byte orders of fixed-width numbers

Numbers and arrays of numbers of one fixed width, spelled as bytes in little
or big endian order, together with the readers that recover them.
-/

namespace ByteOrder

inductive Endianness
  | little
  | big
  deriving DecidableEq, Repr

/-- The `width` low-order bytes of a number, least significant byte first. -/
def littleEndian : Nat → Nat → List UInt8
  | 0, _ => []
  | width + 1, value => UInt8.ofNat value :: littleEndian width (value / 256)

/-- The `width` low-order bytes of a number in the given order. -/
def Endianness.encode : Endianness → Nat → Nat → List UInt8
  | .little, width, value => littleEndian width value
  | .big, width, value => (littleEndian width value).reverse

/-- The number spelled by bytes, least significant byte first. -/
def littleEndianValue (bytes : List UInt8) : Nat :=
  bytes.foldr (fun byte rest => byte.toNat + 256 * rest) 0

@[simp]
theorem length_littleEndian (width value : Nat) :
    (littleEndian width value).length = width := by
  induction width generalizing value with
  | zero => rfl
  | succ width ih => simp [littleEndian, ih]

@[simp]
theorem length_encode (order : Endianness) (width value : Nat) :
    (order.encode width value).length = width := by
  cases order <;> simp [Endianness.encode]

theorem littleEndianValue_littleEndian {width value : Nat}
    (bounded : value < 256 ^ width) :
    littleEndianValue (littleEndian width value) = value := by
  induction width generalizing value with
  | zero =>
      have : value = 0 := by simpa using bounded
      simp [littleEndian, littleEndianValue, this]
  | succ width ih =>
      have quotientBound : value / 256 < 256 ^ width := by
        rw [pow_succ] at bounded
        omega
      have quotient := ih quotientBound
      simp only [littleEndianValue, littleEndian, List.foldr_cons] at quotient ⊢
      rw [quotient, UInt8.toNat_ofNat']
      omega

def words (width : Nat) (values : List Nat) : List UInt8 :=
  values.flatMap (littleEndian width)

/-- Read `count` little-endian words. -/
def wordValues (width : Nat) : Nat → List UInt8 → List Nat
  | 0, _ => []
  | count + 1, bytes =>
      littleEndianValue (bytes.take width) :: wordValues width count (bytes.drop width)

@[simp]
theorem words_nil (width : Nat) : words width [] = [] :=
  rfl

@[simp]
theorem words_cons (width value : Nat) (values : List Nat) :
    words width (value :: values) = littleEndian width value ++ words width values :=
  rfl

@[simp]
theorem length_words (width : Nat) (values : List Nat) :
    (words width values).length = width * values.length := by
  induction values with
  | nil => rfl
  | cons value values ih => simp [ih, Nat.mul_succ, Nat.add_comm]

@[simp]
theorem length_wordValues (width count : Nat) (bytes : List UInt8) :
    (wordValues width count bytes).length = count := by
  induction count generalizing bytes with
  | zero => rfl
  | succ count ih => simp [wordValues, ih]

/-- Reading back a written array, whatever follows it. -/
theorem wordValues_words_append {width : Nat} {values : List Nat} (rest : List UInt8)
    (bounded : ∀ value ∈ values, value < 256 ^ width) :
    wordValues width values.length (words width values ++ rest) = values := by
  induction values with
  | nil => rfl
  | cons value values ih =>
      have headBound := bounded value List.mem_cons_self
      have tailValues := ih fun other member => bounded other (List.mem_cons_of_mem _ member)
      simp only [List.length_cons, wordValues, words_cons, List.append_assoc]
      rw [List.take_append_of_le_length (by simp), List.take_of_length_le (by simp),
        littleEndianValue_littleEndian headBound, List.drop_append_of_le_length (by simp),
        List.drop_of_length_le (by simp), List.nil_append, tailValues]

theorem wordValues_words {width : Nat} {values : List Nat}
    (bounded : ∀ value ∈ values, value < 256 ^ width) :
    wordValues width values.length (words width values) = values := by
  simpa using wordValues_words_append [] bounded

/-- Numbers of one width, spelled one after the other. -/
def Endianness.spell (order : Endianness) (width : Nat) (values : List Nat) : List UInt8 :=
  values.flatMap (order.encode width)

@[simp]
theorem length_spell (order : Endianness) (width : Nat) (values : List Nat) :
    (order.spell width values).length = width * values.length := by
  induction values with
  | nil => rfl
  | cons value values ih =>
      simp only [Endianness.spell, List.flatMap_cons, List.length_append, length_encode,
        List.length_cons] at ih ⊢
      rw [ih, Nat.mul_succ, Nat.add_comm]

theorem drop_spell (order : Endianness) (width dropped : Nat) (values : List Nat) :
    (order.spell width values).drop (width * dropped) =
      order.spell width (values.drop dropped) := by
  induction dropped generalizing values with
  | zero => simp
  | succ dropped ih =>
      cases values with
      | nil => simp [Endianness.spell]
      | cons value values =>
          have tail := ih values
          simp only [Endianness.spell, List.flatMap_cons, List.drop_succ_cons] at tail ⊢
          rw [Nat.mul_succ, Nat.add_comm, ← List.drop_drop, ← tail]
          congr 1
          simp

/-- What a little-endian reader finds where a number is spelled. -/
def Endianness.asLittle (order : Endianness) (width value : Nat) : Nat :=
  littleEndianValue (order.encode width value)

@[simp]
theorem asLittle_little {width value : Nat} (bounded : value < 256 ^ width) :
    Endianness.little.asLittle width value = value :=
  littleEndianValue_littleEndian bounded

theorem head?_wordValues_spell (order : Endianness) {width count value : Nat}
    {values : List Nat} :
    (wordValues width (count + 1) (order.spell width (value :: values))).head? =
      some (order.asLittle width value) := by
  simp [wordValues, Endianness.spell, Endianness.asLittle]

theorem drop_wordValues (width dropped count : Nat) (bytes : List UInt8) :
    (wordValues width (dropped + count) bytes).drop dropped =
      wordValues width count (bytes.drop (width * dropped)) := by
  induction dropped generalizing bytes with
  | zero => simp
  | succ dropped ih =>
      rw [Nat.succ_add, wordValues, List.drop_succ_cons, ih, List.drop_drop]
      congr 2
      ring

end ByteOrder
