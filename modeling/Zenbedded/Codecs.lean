import Zenbedded.Serialization

/-!
# Codecs

The codec concept of the client library and its three codecs.  A codec function
answers `none` when it accesses memory outside the buffer it was given.
-/

namespace Zenbedded

open ByteBlock

structure StateCodec where
  Ctx : Type
  InitParams : Type
  Value : Type
  /-- The value-initialized context. -/
  emptyCtx : Ctx
  init : {size : Nat} → Ctx → InitParams → Block UInt8 size → Option (Ctx × Block UInt8 size)
  payloadSize : Ctx → Nat
  write : {size : Nat} → Ctx → Value → Block UInt8 size → Option (Block UInt8 size)

structure CommandCodec where
  Ctx : Type
  InitParams : Type
  Value : Type
  /-- The value-initialized context. -/
  emptyCtx : Ctx
  init : {size : Nat} → Ctx → InitParams → Block UInt8 size → Option (Ctx × Block UInt8 size)
  payloadSize : Ctx → Nat
  read : {size : Nat} → Ctx → Block UInt8 size → Nat → Value → Option (Bool × Value)

/-! ## Raw values -/

/-- `RawCodec<T>` as a state codec; a value is the memory of a `T`. -/
def RawCodec.state (sizeofT : Nat) : StateCodec where
  Ctx := Unit
  InitParams := Unit
  Value := Block UInt8 sizeofT
  emptyCtx := ()
  init ctx _ buf := some (ctx, buf)
  payloadSize _ := sizeofT
  write _ value buf := memcpy buf 0 value.bytes sizeofT

/-- `RawCodec<T>` as a command codec. -/
def RawCodec.command (sizeofT : Nat) : CommandCodec where
  Ctx := Unit
  InitParams := Unit
  Value := Block UInt8 sizeofT
  emptyCtx := ()
  init ctx _ buf := some (ctx, buf)
  payloadSize _ := sizeofT
  read _ buf size out :=
    if size < sizeofT then
      some (false, out)
    else do
      let bytes ← buf.load 0 sizeofT
      let out ← memcpy out 0 bytes sizeofT
      some (true, out)

/-- `RawCodec::write` copies the memory of its value to the front of the buffer. -/
theorem rawCodec_write {sizeofT size : Nat} (object : Block UInt8 sizeofT)
    (buffer : Block UInt8 size) (fits : sizeofT ≤ size) :
    ∃ written, (RawCodec.state sizeofT).write () object buffer = some written ∧
      written.bytes.take sizeofT = object.bytes := by
  have whole : object.bytes.take sizeofT = object.bytes :=
    List.take_of_length_le object.length_bytes.le
  obtain ⟨written, stored⟩ := buffer.exists_store 0 object.bytes (by simpa using fits)
  refine ⟨written, ?_, ?_⟩
  · simp only [RawCodec.state, memcpy, Block.length_bytes, le_refl, if_true, whole]
    exact stored
  · rw [(Block.store_eq_some_iff.mp stored).2]
    simp

/-- `RawCodec::read` copies the front of the buffer, whatever its value held before. -/
theorem rawCodec_read {sizeofT size : Nat} (ctx : Unit) {buffer : Block UInt8 size}
    {value : Block UInt8 sizeofT} (fits : sizeofT ≤ size)
    (contents : buffer.bytes.take sizeofT = value.bytes) (out : Block UInt8 sizeofT) :
    (RawCodec.command sizeofT).read ctx buffer sizeofT out = some (true, value) := by
  have whole := value.length_bytes
  have loaded : buffer.load 0 sizeofT = some value.bytes := by
    rw [Block.load, if_pos (by omega), List.drop_zero, contents]
  have stored : memcpy out 0 value.bytes sizeofT = some value := by
    rw [memcpy, if_pos whole.ge, List.take_of_length_le whole.le, Block.store_eq_some_iff, whole]
    exact ⟨by omega, by simp [List.drop_of_length_le, out.length_bytes]⟩
  simp only [RawCodec.command, lt_irrefl, if_false, loaded, Option.bind_eq_bind, Option.bind_some,
    stored]

/-! ## Joint states and commands -/

/-- `JointStateCodec::InitParams` -/
structure JointStateParams where
  frameId : Option CString
  jointNames : JointNames
  deriving DecidableEq

/-- `JointStateCodec::Value` -/
structure JointStateValue where
  stampSec : Int32
  stampNanosec : UInt32
  positions : Option (List UInt64)
  velocities : Option (List UInt64)
  efforts : Option (List UInt64)
  deriving DecidableEq

def JointStateCodec : StateCodec where
  Ctx := JointStateCtx
  InitParams := JointStateParams
  Value := JointStateValue
  emptyCtx := ⟨0, 0, 0, 0, 0, 0⟩
  init _ params buf := zcdrInitJointState params.frameId params.jointNames buf
  payloadSize ctx := ctx.payloadSize
  write ctx value buf := zcdrSerializeJointState ctx value.stampSec value.stampNanosec
    value.positions value.velocities value.efforts buf

/-- `JointCommandCodec::InitParams` -/
structure JointCommandParams where
  frameId : Option CString
  jointNames : JointNames
  interfaceName : Option CString
  deriving DecidableEq

/-- `JointCommandCodec::Value` -/
structure JointCommandValue where
  stampSec : Int32
  stampNanosec : UInt32
  values : Option (List UInt64)
  deriving DecidableEq

/-- The value whose members `read` was given the addresses of. -/
def JointCommandValue.ofOut (out : JointCommandOut) (old : JointCommandValue) :
    JointCommandValue where
  stampSec := out.stampSec.getD old.stampSec
  stampNanosec := out.stampNanosec.getD old.stampNanosec
  values := out.values

def JointCommandCodec : CommandCodec where
  Ctx := JointCommandCtx
  InitParams := JointCommandParams
  Value := JointCommandValue
  emptyCtx := ⟨0, 0, 0, 0⟩
  init _ params buf :=
    zcdrInitJointCommand params.frameId params.jointNames params.interfaceName buf
  payloadSize ctx := ctx.payloadSize
  read ctx buf size out := do
    let (accepted, filled) ← zcdrDeserializeJointCommand ctx buf size
      ⟨some out.stampSec, some out.stampNanosec, out.values⟩
    some (accepted, .ofOut filled out)

end Zenbedded
