import Zenbedded.BlockRegions
import Zenbedded.Codecs
import Zenbedded.JointCommandTemplate
import Zenbedded.JointStateTemplate

/-!
# The serializers as patches

The stamp and the arrays of a template are regions that do not overlap.  A serializer
call is a patch of these regions, and a deserializer call reads their contents; neither
depends on what else a buffer holds.
-/

namespace Zenbedded

open ByteOrder ByteBlock

variable {size : Nat}

/-! ## Regions -/

/-- What a joint state buffer has room for. -/
inductive StateField
  | stampSec
  | stampNanosec
  | positions
  | velocities
  | efforts
  deriving DecidableEq

/-- What a joint command buffer has room for. -/
inductive CommandField
  | stampSec
  | stampNanosec
  | values
  deriving DecidableEq

def StateField.order : List StateField :=
  [.stampSec, .stampNanosec, .positions, .velocities, .efforts]

def CommandField.order : List CommandField :=
  [.stampSec, .stampNanosec, .values]

def StateField.region (ctx : JointStateCtx) : StateField → Region
  | .stampSec => ⟨ctx.offsetTimestamp, 4⟩
  | .stampNanosec => ⟨ctx.offsetTimestamp + 4, 4⟩
  | .positions => ⟨ctx.offsetPosition, (ctx.numJoints * 8).toNat⟩
  | .velocities => ⟨ctx.offsetVelocity, (ctx.numJoints * 8).toNat⟩
  | .efforts => ⟨ctx.offsetEffort, (ctx.numJoints * 8).toNat⟩

def CommandField.region (ctx : JointCommandCtx) : CommandField → Region
  | .stampSec => ⟨ctx.offsetTimestamp, 4⟩
  | .stampNanosec => ⟨ctx.offsetTimestamp + 4, 4⟩
  | .values => ⟨ctx.offsetValues, (ctx.numJoints * 8).toNat⟩

theorem StateField.order_nodup : StateField.order.Nodup := by
  decide

theorem StateField.order_complete (field : StateField) : field ∈ StateField.order := by
  cases field <;> decide

theorem CommandField.order_nodup : CommandField.order.Nodup := by
  decide

theorem CommandField.order_complete (field : CommandField) : field ∈ CommandField.order := by
  cases field <;> decide

theorem StateTemplate.separate (template : StateTemplate) :
    Separate (StateField.region template.layout) template.layout.payloadSize := by
  have bytes : (template.layout.numJoints * 8).toNat = template.arrayBytes :=
    template.jointNames.arrayBytes_eq
  have timestamp : template.layout.offsetTimestamp = 4 := rfl
  have positions : template.layout.offsetPosition = 4 + (8 + template.positionFront.length) := rfl
  have velocities : template.layout.offsetVelocity = 4 + (8 + template.positionFront.length +
      template.arrayBytes + template.velocityFront.length) := rfl
  have efforts : template.layout.offsetEffort = 4 + (template.velocityEnd +
      template.effortFront.length) := rfl
  have velocityEnd : template.velocityEnd = 8 + template.positionFront.length +
      template.arrayBytes + template.velocityFront.length + template.arrayBytes := rfl
  have payload : template.layout.payloadSize = 4 + (template.velocityEnd +
      template.effortFront.length + template.arrayBytes) := rfl
  constructor
  · intro field other different
    cases field <;> cases other <;>
      simp only [ne_eq, reduceCtorEq, not_true_eq_false, not_false_eq_true] at different <;>
      simp only [Region.Apart, StateField.region] <;> omega
  · intro field
    cases field <;> simp only [StateField.region] <;> omega

theorem CommandTemplate.separate (template : CommandTemplate) :
    Separate (CommandField.region template.layout) template.layout.payloadSize := by
  have bytes : (template.layout.numJoints * 8).toNat = template.arrayBytes :=
    template.jointNames.arrayBytes_eq
  have timestamp : template.layout.offsetTimestamp = 4 := rfl
  have values : template.layout.offsetValues = 4 + (8 + template.valuesFront.length) := rfl
  have payload : template.layout.payloadSize = 4 + (8 + template.valuesFront.length +
      template.arrayBytes) := rfl
  constructor
  · intro field other different
    cases field <;> cases other <;>
      simp only [ne_eq, reduceCtorEq, not_true_eq_false, not_false_eq_true] at different <;>
      simp only [Region.Apart, CommandField.region] <;> omega
  · intro field
    cases field <;> simp only [CommandField.region] <;> omega

/-! ## Serializer calls -/

def JointStateValue.given (value : JointStateValue) : StateField → Option (List UInt8)
  | .stampSec => some (uint32Bytes value.stampSec.toUInt32)
  | .stampNanosec => some (uint32Bytes value.stampNanosec)
  | .positions => value.positions.map doubleBytes
  | .velocities => value.velocities.map doubleBytes
  | .efforts => value.efforts.map doubleBytes

/-- The arguments of a command serializer call are a command value, too. -/
def JointCommandValue.given (value : JointCommandValue) : CommandField → Option (List UInt8)
  | .stampSec => some (uint32Bytes value.stampSec.toUInt32)
  | .stampNanosec => some (uint32Bytes value.stampNanosec)
  | .values => value.values.map doubleBytes

/-- An array argument is null or has one element for each joint. -/
def PerJoint (jointNames : JointNames) (array : Option (List UInt64)) : Prop :=
  ∀ values, array = some values → values.length = jointNames.names.length

/-- The arrays of a call have one element for each joint. -/
structure JointStateValue.Complete (jointNames : JointNames) (value : JointStateValue) :
    Prop where
  positions : PerJoint jointNames value.positions
  velocities : PerJoint jointNames value.velocities
  efforts : PerJoint jointNames value.efforts

/-- `zcdr_serialize_joint_state` with the members of a value as its arguments. -/
def JointStateValue.serialize (ctx : JointStateCtx) (value : JointStateValue)
    (outBuffer : Block UInt8 size) : Option (Block UInt8 size) :=
  zcdrSerializeJointState ctx value.stampSec value.stampNanosec value.positions
    value.velocities value.efforts outBuffer

/-- `zcdr_serialize_joint_command` with the members of a value as its arguments. -/
def JointCommandValue.serialize (ctx : JointCommandCtx) (value : JointCommandValue)
    (outBuffer : Block UInt8 size) : Option (Block UInt8 size) :=
  zcdrSerializeJointCommand ctx value.stampSec value.stampNanosec value.values outBuffer

theorem storeArray_of_perJoint {jointNames : JointNames}
    (few : jointNames.names.length < 2 ^ 29) {array : Option (List UInt64)}
    (perJoint : PerJoint jointNames array) (buffer : Block UInt8 size) (offset : Nat) :
    storeArray buffer offset array jointNames.arrayBytes =
      buffer.storeGiven offset (array.map doubleBytes) := by
  cases array with
  | none => rfl
  | some values =>
      have sameBytes : 8 * values.length = jointNames.arrayBytes := by
        rw [perJoint values rfl, JointNames.arrayBytes_of_lt few]
      simp [storeArray, memcpy, Block.storeGiven, sameBytes, List.take_of_length_le]

theorem fits_of_perJoint {jointNames : JointNames}
    (few : jointNames.names.length < 2 ^ 29) {array : Option (List UInt64)}
    (perJoint : PerJoint jointNames array) {data : List UInt8}
    (given : array.map doubleBytes = some data) :
    data.length = (jointNames.numJoints * 8).toNat := by
  obtain ⟨values, rfl, rfl⟩ := Option.map_eq_some_iff.mp given
  rw [length_doubleBytes, perJoint values rfl, jointNames.arrayBytes_eq,
    JointNames.arrayBytes_of_lt few]

section State

variable {template : StateTemplate} (few : template.jointNames.names.length < 2 ^ 29)
  {value : JointStateValue}

include few

theorem JointStateValue.serialize_eq (complete : value.Complete template.jointNames)
    (buffer : Block UInt8 size) :
    value.serialize template.layout buffer =
      patch (StateField.region template.layout) StateField.order value.given buffer := by
  have numBytes : (template.layout.numJoints * 8).toNat = template.jointNames.arrayBytes :=
    template.jointNames.arrayBytes_eq
  simp only [serialize, zcdrSerializeJointState, storeStamp, numBytes,
    storeArray_of_perJoint few complete.positions, storeArray_of_perJoint few complete.velocities,
    storeArray_of_perJoint few complete.efforts, patch, StateField.order, List.foldlM_cons,
    List.foldlM_nil, given, StateField.region]
  simp [Option.bind_assoc, Block.storeGiven]

theorem JointStateValue.fitsRegions (complete : value.Complete template.jointNames) :
    FitsRegions (StateField.region template.layout) value.given := by
  intro field data given
  cases field with
  | stampSec => cases given; rfl
  | stampNanosec => cases given; rfl
  | positions => exact fits_of_perJoint few complete.positions given
  | velocities => exact fits_of_perJoint few complete.velocities given
  | efforts => exact fits_of_perJoint few complete.efforts given

end State

section Command

variable {template : CommandTemplate} (few : template.jointNames.names.length < 2 ^ 29)
  {value : JointCommandValue}

include few

theorem JointCommandValue.serialize_eq (complete : PerJoint template.jointNames value.values)
    (buffer : Block UInt8 size) :
    value.serialize template.layout buffer =
      patch (CommandField.region template.layout) CommandField.order value.given buffer := by
  have numBytes : (template.layout.numJoints * 8).toNat = template.jointNames.arrayBytes :=
    template.jointNames.arrayBytes_eq
  simp only [serialize, zcdrSerializeJointCommand, storeStamp, numBytes,
    storeArray_of_perJoint few complete, patch, CommandField.order, List.foldlM_cons,
    List.foldlM_nil, given, CommandField.region]
  simp [Option.bind_assoc, Block.storeGiven]

theorem JointCommandValue.fitsRegions (complete : PerJoint template.jointNames value.values) :
    FitsRegions (CommandField.region template.layout) value.given := by
  intro field data given
  cases field with
  | stampSec => cases given; rfl
  | stampNanosec => cases given; rfl
  | values => exact fits_of_perJoint few complete given

end Command

/-! ## Deserializer calls -/

def wordOf (bytes : List UInt8) : UInt32 :=
  UInt32.ofNat (littleEndianValue bytes)

@[simp]
theorem wordOf_uint32Bytes (value : UInt32) : wordOf (uint32Bytes value) = value := by
  have bounded : value.toNat < 256 ^ 4 := value.toNat_lt
  simp [wordOf, uint32Bytes, littleEndianValue_littleEndian bounded]

/-- What a deserializer makes of the contents of the regions. -/
def StateField.read (arrayBytes : Nat) (contents : StateField → List UInt8)
    (out : JointStateOut) : JointStateOut where
  stampSec := out.stampSec.map fun _ => (wordOf (contents .stampSec)).toInt32
  stampNanosec := out.stampNanosec.map fun _ => wordOf (contents .stampNanosec)
  positions := out.positions.map (overlaid arrayBytes (contents .positions))
  velocities := out.velocities.map (overlaid arrayBytes (contents .velocities))
  efforts := out.efforts.map (overlaid arrayBytes (contents .efforts))

def CommandField.read (arrayBytes : Nat) (contents : CommandField → List UInt8)
    (out : JointCommandOut) : JointCommandOut where
  stampSec := out.stampSec.map fun _ => (wordOf (contents .stampSec)).toInt32
  stampNanosec := out.stampNanosec.map fun _ => wordOf (contents .stampNanosec)
  values := out.values.map (overlaid arrayBytes (contents .values))

theorem loadUInt32_region (buffer : Block UInt8 size) {region : Region}
    (inside : region.offset + region.length ≤ size) (word : region.length = 4) :
    loadUInt32 buffer region.offset = some (wordOf (region.contents buffer)) := by
  rw [loadUInt32, ← word, Region.load_region buffer inside]
  rfl

theorem loadArray_region (buffer : Block UInt8 size) {region : Region}
    (inside : region.offset + region.length ≤ size) {array : List UInt64}
    (room : region.length ≤ 8 * array.length) :
    loadArray buffer region.offset region.length array =
      some (overlaid region.length (region.contents buffer) array) := by
  rw [loadArray, Region.load_region buffer inside]
  simp [room, overlaid]

/-- A deserializer call reads the regions and nothing else. -/
theorem zcdrDeserializeJointState_eq {ctx : JointStateCtx}
    (separate : Separate (StateField.region ctx) ctx.payloadSize)
    {buffer : Block UInt8 size} (holds : ctx.payloadSize ≤ size) {bufferSize : Nat}
    (complete : ctx.payloadSize ≤ bufferSize) {out : JointStateOut}
    (roomPositions : Supplies (ctx.numJoints * 8).toNat out.positions)
    (roomVelocities : Supplies (ctx.numJoints * 8).toNat out.velocities)
    (roomEfforts : Supplies (ctx.numJoints * 8).toNat out.efforts) :
    zcdrDeserializeJointState ctx buffer bufferSize out =
      some (true, StateField.read (ctx.numJoints * 8).toNat
        (fun field => (field.region ctx).contents buffer) out) := by
  have inside (field : StateField) := Nat.le_trans (separate.inside field) holds
  have secRead := mapM_eq_some_map out.stampSec fun _ _ =>
    congrArg (UInt32.toInt32 <$> ·) (loadUInt32_region buffer (inside .stampSec) rfl)
  have nanosecRead := mapM_eq_some_map out.stampNanosec fun _ _ =>
    loadUInt32_region buffer (inside .stampNanosec) rfl
  have positionsRead := mapM_eq_some_map out.positions fun array given =>
    loadArray_region buffer (inside .positions) (roomPositions array given)
  have velocitiesRead := mapM_eq_some_map out.velocities fun array given =>
    loadArray_region buffer (inside .velocities) (roomVelocities array given)
  have effortsRead := mapM_eq_some_map out.efforts fun array given =>
    loadArray_region buffer (inside .efforts) (roomEfforts array given)
  simp only [StateField.region] at secRead nanosecRead positionsRead velocitiesRead effortsRead
  rw [zcdrDeserializeJointState, if_neg (by omega)]
  simp only [secRead, nanosecRead, positionsRead, velocitiesRead, effortsRead,
    Option.bind_eq_bind, Option.bind_some, StateField.read, StateField.region]

theorem zcdrDeserializeJointCommand_eq {ctx : JointCommandCtx}
    (separate : Separate (CommandField.region ctx) ctx.payloadSize)
    {buffer : Block UInt8 size} (holds : ctx.payloadSize ≤ size) {bufferSize : Nat}
    (complete : ctx.payloadSize ≤ bufferSize) {out : JointCommandOut}
    (room : Supplies (ctx.numJoints * 8).toNat out.values) :
    zcdrDeserializeJointCommand ctx buffer bufferSize out =
      some (true, CommandField.read (ctx.numJoints * 8).toNat
        (fun field => (field.region ctx).contents buffer) out) := by
  have inside (field : CommandField) := Nat.le_trans (separate.inside field) holds
  have secRead := mapM_eq_some_map out.stampSec fun _ _ =>
    congrArg (UInt32.toInt32 <$> ·) (loadUInt32_region buffer (inside .stampSec) rfl)
  have nanosecRead := mapM_eq_some_map out.stampNanosec fun _ _ =>
    loadUInt32_region buffer (inside .stampNanosec) rfl
  have valuesRead := mapM_eq_some_map out.values fun array given =>
    loadArray_region buffer (inside .values) (room array given)
  simp only [CommandField.region] at secRead nanosecRead valuesRead
  rw [zcdrDeserializeJointCommand, if_neg (by omega)]
  simp only [secRead, nanosecRead, valuesRead, Option.bind_eq_bind, Option.bind_some,
    CommandField.read, CommandField.region]

end Zenbedded
