import Zenbedded.SerializationLayout

/-!
# Patching holes in place

The serializers overwrite the stamp and the arrays of a template and nothing
else.  These are the two stores they consist of, for a buffer known as a
concatenation around the hole.
-/

namespace Zenbedded

open ByteOrder ByteBlock

variable {size : Nat}

def JointNames.arrayBytes (jointNames : JointNames) : Nat :=
  (8 * jointNames.numJoints).toNat

theorem JointNames.arrayBytes_eq (jointNames : JointNames) :
    (jointNames.numJoints * 8).toNat = jointNames.arrayBytes := by
  rw [arrayBytes, UInt32.mul_comm]

theorem JointNames.arrayBytes_of_lt {jointNames : JointNames}
    (few : jointNames.names.length < 2 ^ 29) :
    jointNames.arrayBytes = 8 * jointNames.names.length := by
  simp only [arrayBytes, numJoints, UInt32.toNat_mul, UInt32.toNat_ofNat', UInt32.reduceToNat]
  omega

def stampBytes (stamp : Stamp) : List UInt8 :=
  uint32Bytes stamp.sec.toUInt32 ++ uint32Bytes stamp.nanosec

@[simp]
theorem length_stampBytes (stamp : Stamp) : (stampBytes stamp).length = 8 := by
  simp [stampBytes]

@[simp]
theorem length_doubleBytes (values : List UInt64) :
    (doubleBytes values).length = 8 * values.length := by
  simp [doubleBytes]

/-- The contents of an array's hole after a call that was given `array`. -/
def patched (arrayBytes : Nat) (old : List UInt8) : Option (List UInt64) → List UInt8
  | none => old
  | some values => (doubleBytes values).take arrayBytes

/-- An array argument is null or long enough to copy from. -/
def Supplies (arrayBytes : Nat) (array : Option (List UInt64)) : Prop :=
  ∀ values, array = some values → arrayBytes ≤ 8 * values.length

theorem length_patched {arrayBytes : Nat} {old : List UInt8} {array : Option (List UInt64)}
    (oldLength : old.length = arrayBytes) (supplies : Supplies arrayBytes array) :
    (patched arrayBytes old array).length = arrayBytes := by
  cases array with
  | none => exact oldLength
  | some values => simpa [patched] using supplies values rfl

theorem supplies_of_length_eq {arrayBytes : Nat} {values : List UInt64}
    (sameBytes : 8 * values.length = arrayBytes) : Supplies arrayBytes (some values) := by
  rintro _ ⟨⟩
  omega

theorem patched_of_length_eq {arrayBytes : Nat} {old : List UInt8} {values : List UInt64}
    (sameBytes : 8 * values.length = arrayBytes) :
    patched arrayBytes old (some values) = doubleBytes values :=
  List.take_of_length_le (by simp [sameBytes])

theorem supplies_of_room {arrayBytes count : Nat} {argument : Option (List UInt64)}
    (numBytes : arrayBytes = 8 * count) (room : ∀ array ∈ argument, count ≤ array.length) :
    Supplies arrayBytes argument := by
  intro array given
  have := room array given
  omega

theorem storeStamp_segment {buffer : Block UInt8 size} {before old after : List UInt8}
    (contents : buffer.bytes = before ++ old ++ after) (oldLength : old.length = 8)
    (stamp : Stamp) :
    ∃ stored, storeStamp buffer before.length stamp.sec stamp.nanosec = some stored ∧
      stored.bytes = before ++ stampBytes stamp ++ after := by
  have split : buffer.bytes = before ++ old.take 4 ++ (old.drop 4 ++ after) := by
    rw [contents]
    conv_lhs => rw [← List.take_append_drop 4 old]
    simp only [List.append_assoc]
  obtain ⟨middle, middleEq, middleBytes⟩ :=
    Block.store_segment (uint32Bytes stamp.sec.toUInt32) split (by simp [oldLength])
  have resplit : middle.bytes =
      (before ++ uint32Bytes stamp.sec.toUInt32) ++ old.drop 4 ++ after := by
    rw [middleBytes]
    simp only [List.append_assoc]
  obtain ⟨stored, storedEq, storedBytes⟩ :=
    Block.store_segment (uint32Bytes stamp.nanosec) resplit (by simp [oldLength])
  refine ⟨stored, ?_, by rw [storedBytes, stampBytes]; simp⟩
  rw [storeStamp, middleEq]
  simpa using storedEq

theorem storeArray_segment {buffer : Block UInt8 size} {before old after : List UInt8}
    {array : Option (List UInt64)} {arrayBytes : Nat}
    (contents : buffer.bytes = before ++ old ++ after) (oldLength : old.length = arrayBytes)
    (supplies : Supplies arrayBytes array) :
    ∃ stored, storeArray buffer before.length array arrayBytes = some stored ∧
      stored.bytes = before ++ patched arrayBytes old array ++ after := by
  cases array with
  | none => exact ⟨buffer, rfl, contents⟩
  | some values =>
      have enough := supplies values rfl
      obtain ⟨stored, storedEq, storedBytes⟩ :=
        Block.store_segment ((doubleBytes values).take arrayBytes) contents
          (by simpa [oldLength] using enough)
      exact ⟨stored, by simp [storeArray, memcpy, enough, storedEq], storedBytes⟩

/-! ## Reading holes back -/

theorem loadUInt32_segment {buffer : Block UInt8 size} {before after : List UInt8}
    {value : UInt32} (contents : buffer.bytes = before ++ uint32Bytes value ++ after) :
    loadUInt32 buffer before.length = some value := by
  have loaded := Block.load_segment contents
  have bounded : value.toNat < 256 ^ 4 := value.toNat_lt
  rw [length_uint32Bytes] at loaded
  rw [loadUInt32, loaded]
  simp [uint32Bytes, littleEndianValue_littleEndian bounded]

theorem loadStamp_segment {buffer : Block UInt8 size} {before after : List UInt8}
    {stamp : Stamp} (contents : buffer.bytes = before ++ stampBytes stamp ++ after) :
    UInt32.toInt32 <$> loadUInt32 buffer before.length = some stamp.sec ∧
      loadUInt32 buffer (before.length + 4) = some stamp.nanosec := by
  have aroundSec : buffer.bytes = before ++ uint32Bytes stamp.sec.toUInt32 ++
      (uint32Bytes stamp.nanosec ++ after) := by
    simpa only [stampBytes, List.append_assoc] using contents
  have aroundNanosec : buffer.bytes = (before ++ uint32Bytes stamp.sec.toUInt32) ++
      uint32Bytes stamp.nanosec ++ after := by
    simpa only [stampBytes, List.append_assoc] using contents
  have sec := loadUInt32_segment aroundSec
  have nanosec := loadUInt32_segment aroundNanosec
  rw [List.length_append, length_uint32Bytes] at nanosec
  exact ⟨by rw [sec]; rfl, nanosec⟩

/-- Filling an output argument, when filling it succeeds unless it is null. -/
theorem mapM_eq_some_map {α β : Type} (argument : Option α) {fill : α → Option β}
    {filled : α → β} (fills : ∀ old, argument = some old → fill old = some (filled old)) :
    argument.mapM fill = some (argument.map filled) := by
  cases argument with
  | none => rfl
  | some old => simp [fills old rfl]

/-- An array after `memcpy` over its front from a hole. -/
def overlaid (arrayBytes : Nat) (hole : List UInt8) (array : List UInt64) : List UInt64 :=
  bytesDoubles (arrayBytes / 8) hole ++ array.drop (arrayBytes / 8)

theorem loadArray_segment {buffer : Block UInt8 size} {before hole after : List UInt8}
    {arrayBytes : Nat} {array : List UInt64}
    (contents : buffer.bytes = before ++ hole ++ after) (holeLength : hole.length = arrayBytes)
    (enough : arrayBytes ≤ 8 * array.length) :
    loadArray buffer before.length arrayBytes array =
      some (overlaid arrayBytes hole array) := by
  have loaded := Block.load_segment contents
  rw [holeLength] at loaded
  simp [loadArray, loaded, enough, overlaid]

theorem bytesDoubles_doubleBytes (values : List UInt64) :
    bytesDoubles values.length (doubleBytes values) = values := by
  have bounded : ∀ value ∈ values.map UInt64.toNat, value < 256 ^ 8 := by
    intro value member
    obtain ⟨word, _, rfl⟩ := List.mem_map.mp member
    exact word.toNat_lt
  have read := wordValues_words bounded
  rw [List.length_map] at read
  rw [bytesDoubles, doubleBytes, read, List.map_map]
  simp [Function.comp_def]

/-- The doubles of a hole replace the front of an array. -/
theorem overlaid_doubleBytes (values array : List UInt64) :
    overlaid (8 * values.length) (doubleBytes values) array =
      values ++ array.drop values.length := by
  rw [overlaid, Nat.mul_div_cancel_left _ (by omega), bytesDoubles_doubleBytes]

end Zenbedded
