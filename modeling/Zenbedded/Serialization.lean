import Zenbedded.ByteBlock
import Mathlib.Data.List.TakeWhile
import Zenbedded.RosMessage

/-!
# The Tier 1 serializer

A translation of `serialization.c`.  Output and input buffers are memory blocks;
a memory access outside its block makes a function answer `none`.  The host is
little endian, as the source notes.  `uint32_t` values are `UInt32` and wrap;
`size_t` sums are natural numbers.
-/

namespace Zenbedded

open ByteOrder ByteBlock

/-- A C string: the bytes in front of the terminator. -/
structure CString where
  bytes : List UInt8
  nulFree : 0 ∉ bytes
  deriving DecidableEq

def CString.strlen (text : CString) : Nat :=
  text.bytes.length

/-- The C string a source literal denotes. -/
def CString.ofString (text : String) : CString where
  bytes := (text.toList.map fun char => UInt8.ofNat char.toNat).takeWhile (· ≠ 0)
  nulFree member := by simpa using List.mem_takeWhile_imp member

/-- `joint_names` together with `num_joints`. -/
structure JointNames where
  names : List CString
  length_lt : names.length < 2 ^ 32
  deriving DecidableEq

def JointNames.numJoints (jointNames : JointNames) : UInt32 :=
  UInt32.ofNat jointNames.names.length

def cdrHeaderSize : Nat := 4

/-- `ALIGN_UP`; masking with `~(alignment - 1)` rounds down to a multiple. -/
def alignUp (offset alignment : Nat) : Nat :=
  cdrHeaderSize + (((offset - cdrHeaderSize) + alignment - 1) / alignment * alignment)

/-- `kCdrHeader` -/
def kCdrHeader : List UInt8 := [0x00, 0x01, 0x00, 0x00]

def uint32Bytes (value : UInt32) : List UInt8 :=
  littleEndian 4 value.toNat

/-- The memory of an array of doubles. -/
def doubleBytes (values : List UInt64) : List UInt8 :=
  words 8 (values.map UInt64.toNat)

def bytesDoubles (count : Nat) (bytes : List UInt8) : List UInt64 :=
  (wordValues 8 count bytes).map UInt64.ofNat

/-- `memcpy` from an object holding `source` into a buffer. -/
def memcpy {size : Nat} (destination : Block UInt8 size) (offset : Nat)
    (source : List UInt8) (count : Nat) : Option (Block UInt8 size) :=
  if count ≤ source.length then destination.store offset (source.take count) else none

/-! ## Laying out a template -/

/-- `out_buffer` and `cursor` while a template is laid out. -/
structure Cursor (size : Nat) where
  outBuffer : Block UInt8 size
  cursor : Nat

namespace Cursor

variable {size : Nat}

/-- Copy bytes to the cursor and move it past them. -/
def put (state : Cursor size) (data : List UInt8) : Option (Cursor size) := do
  let outBuffer ← state.outBuffer.store state.cursor data
  some ⟨outBuffer, state.cursor + data.length⟩

/-- `cursor += count` -/
def advance (state : Cursor size) (count : Nat) : Cursor size :=
  { state with cursor := state.cursor + count }

/-- `cursor = ALIGN_UP(cursor, alignment)` -/
def align (state : Cursor size) (alignment : Nat) : Cursor size :=
  { state with cursor := Zenbedded.alignUp state.cursor alignment }

/-- A length word and the text with its terminator; `NULL` is the empty text. -/
def putString (state : Cursor size) (text : Option CString) : Option (Cursor size) :=
  match text with
  | some text => do
      let length := UInt32.ofNat (text.strlen + 1)
      let state ← state.put (uint32Bytes length)
      state.put ((text.bytes ++ [0]).take length.toNat)
  | none => do
      let state ← state.put (uint32Bytes 1)
      state.put [0]

/-- The loop over `joint_names`. -/
def putNames (state : Cursor size) : List CString → Option (Cursor size)
  | [] => some state
  | name :: names => do
      let state ← (state.align 4).putString (some name)
      state.putNames names

/-- An element count, and the aligned space for that many doubles; also answers
the offset of that space. -/
def putArraySpace (state : Cursor size) (numJoints : UInt32) :
    Option (Nat × Cursor size) := do
  let state ← (state.align 4).put (uint32Bytes numJoints)
  let state := state.align 8
  some (state.cursor, state.advance (8 * numJoints).toNat)

/-- The encapsulation header, the space of the stamp, the frame id and the names. -/
def putPreamble (state : Cursor size) (frameId : Option CString)
    (jointNames : JointNames) : Option (Nat × Cursor size) := do
  let state ← state.put kCdrHeader
  let offsetTimestamp := state.cursor
  let state ← (state.advance 8).putString frameId
  let state ← (state.align 4).put (uint32Bytes jointNames.numJoints)
  let state ← state.putNames jointNames.names
  some (offsetTimestamp, state)

end Cursor

/-! ## Joint states -/

/-- `zcdr_joint_state_ctx_t` -/
structure JointStateCtx where
  numJoints : UInt32
  offsetTimestamp : Nat
  offsetPosition : Nat
  offsetVelocity : Nat
  offsetEffort : Nat
  payloadSize : Nat
  deriving DecidableEq

/-- The output arguments of a deserializer; `none` is a null pointer. -/
structure JointStateOut where
  stampSec : Option Int32
  stampNanosec : Option UInt32
  positions : Option (List UInt64)
  velocities : Option (List UInt64)
  efforts : Option (List UInt64)
  deriving DecidableEq

variable {size : Nat}

/-- `zcdr_init_joint_state` -/
def zcdrInitJointState (frameId : Option CString) (jointNames : JointNames)
    (outBuffer : Block UInt8 size) : Option (JointStateCtx × Block UInt8 size) := do
  let (offsetTimestamp, state) ← Cursor.putPreamble ⟨outBuffer, 0⟩ frameId jointNames
  let (offsetPosition, state) ← state.putArraySpace jointNames.numJoints
  let (offsetVelocity, state) ← state.putArraySpace jointNames.numJoints
  let (offsetEffort, state) ← state.putArraySpace jointNames.numJoints
  some ({ numJoints := jointNames.numJoints
          offsetTimestamp, offsetPosition, offsetVelocity, offsetEffort
          payloadSize := state.cursor }, state.outBuffer)

/-- `memcpy` of a stamp into a buffer. -/
def storeStamp (buffer : Block UInt8 size) (offset : Nat) (sec : Int32)
    (nanosec : UInt32) : Option (Block UInt8 size) := do
  let buffer ← buffer.store offset (uint32Bytes sec.toUInt32)
  buffer.store (offset + 4) (uint32Bytes nanosec)

/-- `memcpy` of an array into a buffer unless the array is null. -/
def storeArray (buffer : Block UInt8 size) (offset : Nat) (array : Option (List UInt64))
    (arrayBytes : Nat) : Option (Block UInt8 size) :=
  match array with
  | none => some buffer
  | some values => memcpy buffer offset (doubleBytes values) arrayBytes

/-- `zcdr_serialize_joint_state` -/
def zcdrSerializeJointState (ctx : JointStateCtx) (stampSec : Int32)
    (stampNanosec : UInt32) (positions velocities efforts : Option (List UInt64))
    (outBuffer : Block UInt8 size) : Option (Block UInt8 size) := do
  let buffer ← storeStamp outBuffer ctx.offsetTimestamp stampSec stampNanosec
  let arrayBytes := (ctx.numJoints * 8).toNat
  let buffer ← storeArray buffer ctx.offsetPosition positions arrayBytes
  let buffer ← storeArray buffer ctx.offsetVelocity velocities arrayBytes
  storeArray buffer ctx.offsetEffort efforts arrayBytes

def loadUInt32 (buffer : Block UInt8 size) (offset : Nat) : Option UInt32 := do
  let bytes ← buffer.load offset 4
  some (UInt32.ofNat (littleEndianValue bytes))

/-- `memcpy` from a buffer over the front of an array. -/
def loadArray (buffer : Block UInt8 size) (offset arrayBytes : Nat)
    (array : List UInt64) : Option (List UInt64) := do
  let bytes ← buffer.load offset arrayBytes
  if arrayBytes ≤ 8 * array.length then
    some (bytesDoubles (arrayBytes / 8) bytes ++ array.drop (arrayBytes / 8))
  else
    none

/-- `zcdr_deserialize_joint_state` -/
def zcdrDeserializeJointState (ctx : JointStateCtx) (inBuffer : Block UInt8 size)
    (bufferSize : Nat) (out : JointStateOut) : Option (Bool × JointStateOut) :=
  if bufferSize < ctx.payloadSize then
    some (false, out)
  else do
    let stampSec ← out.stampSec.mapM fun _ =>
      UInt32.toInt32 <$> loadUInt32 inBuffer ctx.offsetTimestamp
    let stampNanosec ← out.stampNanosec.mapM fun _ =>
      loadUInt32 inBuffer (ctx.offsetTimestamp + 4)
    let arrayBytes := (ctx.numJoints * 8).toNat
    let positions ← out.positions.mapM (loadArray inBuffer ctx.offsetPosition arrayBytes)
    let velocities ← out.velocities.mapM (loadArray inBuffer ctx.offsetVelocity arrayBytes)
    let efforts ← out.efforts.mapM (loadArray inBuffer ctx.offsetEffort arrayBytes)
    some (true, { stampSec, stampNanosec, positions, velocities, efforts })

/-! ## Joint commands -/

/-- `zcdr_joint_command_ctx_t` -/
structure JointCommandCtx where
  numJoints : UInt32
  offsetTimestamp : Nat
  offsetValues : Nat
  payloadSize : Nat
  deriving DecidableEq

/-- The output arguments of a deserializer; `none` is a null pointer. -/
structure JointCommandOut where
  stampSec : Option Int32
  stampNanosec : Option UInt32
  values : Option (List UInt64)
  deriving DecidableEq

/-- `zcdr_init_joint_command` -/
def zcdrInitJointCommand (frameId : Option CString) (jointNames : JointNames)
    (interfaceName : Option CString) (outBuffer : Block UInt8 size) :
    Option (JointCommandCtx × Block UInt8 size) := do
  let (offsetTimestamp, state) ← Cursor.putPreamble ⟨outBuffer, 0⟩ frameId jointNames
  let state ← (state.align 4).putString interfaceName
  let (offsetValues, state) ← state.putArraySpace jointNames.numJoints
  some ({ numJoints := jointNames.numJoints
          offsetTimestamp, offsetValues
          payloadSize := state.cursor }, state.outBuffer)

/-- `zcdr_serialize_joint_command` -/
def zcdrSerializeJointCommand (ctx : JointCommandCtx) (stampSec : Int32)
    (stampNanosec : UInt32) (values : Option (List UInt64))
    (outBuffer : Block UInt8 size) : Option (Block UInt8 size) := do
  let buffer ← storeStamp outBuffer ctx.offsetTimestamp stampSec stampNanosec
  storeArray buffer ctx.offsetValues values (ctx.numJoints * 8).toNat

/-- `zcdr_deserialize_joint_command` -/
def zcdrDeserializeJointCommand (ctx : JointCommandCtx) (inBuffer : Block UInt8 size)
    (bufferSize : Nat) (out : JointCommandOut) : Option (Bool × JointCommandOut) :=
  if bufferSize < ctx.payloadSize then
    some (false, out)
  else do
    let stampSec ← out.stampSec.mapM fun _ =>
      UInt32.toInt32 <$> loadUInt32 inBuffer ctx.offsetTimestamp
    let stampNanosec ← out.stampNanosec.mapM fun _ =>
      loadUInt32 inBuffer (ctx.offsetTimestamp + 4)
    let values ← out.values.mapM
      (loadArray inBuffer ctx.offsetValues (ctx.numJoints * 8).toNat)
    some (true, { stampSec, stampNanosec, values })

end Zenbedded
