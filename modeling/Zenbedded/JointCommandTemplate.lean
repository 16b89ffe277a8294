import Zenbedded.SerializationPatch

/-!
# The joint command template

The command counterpart of the joint state template: holes for the stamp and one
array, and the interface name in front of the array.
-/

namespace Zenbedded

open ByteOrder ByteBlock

variable {size : Nat}

/-- The contents of the holes of a joint command template. -/
structure CommandHoles where
  stamp : List UInt8
  values : List UInt8

structure CommandHoles.Fit (arrayBytes : Nat) (holes : CommandHoles) : Prop where
  stamp : holes.stamp.length = 8
  values : holes.values.length = arrayBytes

/-- What is fixed when a joint command client is set up. -/
structure CommandTemplate where
  frameId : Option CString
  jointNames : JointNames
  interfaceName : Option CString

namespace CommandTemplate

variable (template : CommandTemplate)

def arrayBytes : Nat :=
  template.jointNames.arrayBytes

def strings : List UInt8 :=
  Cdr.andThen (stringsImage template.frameId template.jointNames)
    (Cdr.andThen (Cdr.pad 4) (Cdr.raw (stringImage template.interfaceName))) 8

def stringsEnd : Nat :=
  8 + template.strings.length

def valuesFront : List UInt8 :=
  template.strings ++ arrayFront template.jointNames.numJoints template.stringsEnd

def layout : JointCommandCtx where
  numJoints := template.jointNames.numJoints
  offsetTimestamp := 4
  offsetValues := 4 + (8 + template.valuesFront.length)
  payloadSize := 4 + (8 + template.valuesFront.length + template.arrayBytes)

/-- How far the initializer writes: to the end of the element count. -/
def extent : Nat :=
  4 + (template.stringsEnd +
    (countImage template.jointNames.numJoints template.stringsEnd).length)

/-- The template with its holes filled. -/
def image (holes : CommandHoles) : List UInt8 :=
  kCdrHeader ++ holes.stamp ++ template.valuesFront ++ holes.values

/-- The holes as the initializer leaves them in a zeroed buffer. -/
def zeroHoles : CommandHoles where
  stamp := List.replicate 8 0
  values := List.replicate template.arrayBytes 0

theorem zeroHoles_fit : template.zeroHoles.Fit template.arrayBytes := by
  constructor <;> simp [zeroHoles]

theorem length_image {holes : CommandHoles} (fit : holes.Fit template.arrayBytes) :
    (template.image holes).length = template.layout.payloadSize := by
  simp only [image, layout, List.length_append, length_kCdrHeader, fit.stamp, fit.values]
  omega

theorem extent_le_payloadSize : template.extent ≤ template.layout.payloadSize := by
  simp only [extent, layout, stringsEnd, valuesFront, arrayFront, Cdr.andThen_apply,
    List.length_append]
  omega

/-- `zcdr_init_joint_command` succeeds exactly in buffers it does not overrun, and
then computes the layout; a zeroed buffer that holds the payload gets the template. -/
theorem zcdrInitJointCommand_needs (outBuffer : Block UInt8 size) :
    Needs size template.extent
      (zcdrInitJointCommand template.frameId template.jointNames template.interfaceName
        outBuffer)
      (fun outcome => outcome.1 = template.layout ∧
        (outBuffer = Block.filled size 0 → template.layout.payloadSize ≤ size →
          outcome.2.Prefixed 0 (template.image template.zeroHoles))) := by
  obtain ⟨stamp, stampEq⟩ : ∃ stamp : List UInt8, stamp = List.replicate 8 0 := ⟨_, rfl⟩
  have stampLength : stamp.length = 8 := by rw [stampEq, List.length_replicate]
  have preamble := Cursor.putPreamble_needs outBuffer template.frameId template.jointNames
  rw [← stampEq] at preamble
  have spaceEq : (8 * template.jointNames.numJoints).toNat = template.arrayBytes := rfl
  have stringsEq : stamp ++ template.strings =
      stamp ++ stringsImage template.frameId template.jointNames 8 ++
        Cdr.pad 4 (stamp ++ stringsImage template.frameId template.jointNames 8).length ++
        stringImage template.interfaceName := by
    simp [strings, Cdr.andThen_apply, stampLength]
  have stringsLength : (stamp ++ template.strings).length = template.stringsEnd := by
    simp [stringsEnd, stampLength]
  have preambleLe : 8 + (stringsImage template.frameId template.jointNames 8).length ≤
      template.stringsEnd := by
    simp [stringsEnd, strings, Cdr.andThen_apply]
  refine preamble.bind ?_ (by simp only [extent]; omega)
  rintro ⟨offsetTimestamp, afterNames⟩ ⟨timestampEq, laidNames⟩
  have interface := (laidNames.2.align 4 (by omega)).putString
    template.interfaceName
  rw [← stringsEq, stringsLength] at interface
  refine interface.bind ?_ (by simp only [extent]; omega)
  intro afterStrings laidStrings
  refine (Cursor.LaidAt.putArraySpace ⟨stringsLength, laidStrings⟩ _).bind_some ?_
  rintro ⟨offsetValues, afterValues⟩ ⟨valuesEq, laidValues⟩
  rw [spaceEq] at laidValues
  have payloadEq : afterValues.cursor = template.layout.payloadSize := by
    rw [laidValues.2.1, List.length_append, laidValues.1]
    simp only [layout, stringsEnd, valuesFront, List.length_append, length_kCdrHeader]
    omega
  constructor
  · simp only [layout, JointCommandCtx.mk.injEq, true_and]
    refine ⟨timestampEq, valuesEq.trans ?_, payloadEq⟩
    simp only [valuesFront, stringsEnd, List.length_append]
    omega
  · intro zeroed holds
    have prefixed := laidValues.2.2 zeroed (by rw [← laidValues.2.1, payloadEq]; exact holds)
    simpa [image, zeroHoles, valuesFront, stampEq] using prefixed

def beforeValues (holes : CommandHoles) : List UInt8 :=
  kCdrHeader ++ holes.stamp ++ template.valuesFront

variable {template} {holes : CommandHoles} {buffer : Block UInt8 size} {rest : List UInt8}

theorem length_beforeValues (fit : holes.Fit template.arrayBytes) :
    (template.beforeValues holes).length = template.layout.offsetValues := by
  simp [beforeValues, layout, fit.stamp, Nat.add_assoc]

/-- A buffer that starts with the filled template. -/
def Shows (template : CommandTemplate) (holes : CommandHoles) (rest : List UInt8)
    (buffer : Block UInt8 size) : Prop :=
  holes.Fit template.arrayBytes ∧ buffer.bytes = template.image holes ++ rest

theorem Shows.around_stamp (shows : template.Shows holes rest buffer) :
    buffer.bytes = kCdrHeader ++ holes.stamp ++
      (template.valuesFront ++ holes.values ++ rest) := by
  simp only [shows.2, image, List.append_assoc]

theorem Shows.around_values (shows : template.Shows holes rest buffer) :
    buffer.bytes = template.beforeValues holes ++ holes.values ++ rest := by
  simp only [shows.2, image, beforeValues, List.append_assoc]

def patch (template : CommandTemplate) (holes : CommandHoles) (stamp : Stamp)
    (values : Option (List UInt64)) : CommandHoles where
  stamp := stampBytes stamp
  values := patched template.arrayBytes holes.values values

/-- `zcdr_serialize_joint_command` replaces hole contents in place. -/
theorem Shows.serialize (shows : template.Shows holes rest buffer) (stamp : Stamp)
    {values : Option (List UInt64)} (supplies : Supplies template.arrayBytes values) :
    ∃ stored, zcdrSerializeJointCommand template.layout stamp.sec stamp.nanosec values buffer =
        some stored ∧
      template.Shows (template.patch holes stamp values) rest stored := by
  obtain ⟨stamped, stampedEq, stampedBytes⟩ :=
    storeStamp_segment shows.around_stamp shows.1.stamp stamp
  have showsStamp : template.Shows { holes with stamp := stampBytes stamp } rest stamped :=
    ⟨{ shows.1 with stamp := length_stampBytes stamp }, by
      simpa only [image, List.append_assoc] using stampedBytes⟩
  obtain ⟨stored, storedEq, storedBytes⟩ :=
    storeArray_segment showsStamp.around_values shows.1.values supplies
  rw [length_beforeValues showsStamp.1] at storedEq
  refine ⟨stored, ?_,
    { stamp := length_stampBytes stamp, values := length_patched shows.1.values supplies }, ?_⟩
  · have numBytes : (template.layout.numJoints * 8).toNat = template.arrayBytes :=
      template.jointNames.arrayBytes_eq
    have timestampOffset : template.layout.offsetTimestamp = kCdrHeader.length := rfl
    simp only [zcdrSerializeJointCommand, numBytes, timestampOffset, stampedEq, storedEq,
      Option.bind_eq_bind, Option.bind_some]
  · simpa only [image, patch, beforeValues, List.append_assoc] using storedBytes

/-- `zcdr_deserialize_joint_command` reads the holes into every argument it is given. -/
theorem Shows.deserialize (shows : template.Shows holes rest buffer) {stamp : Stamp}
    (stampEq : holes.stamp = stampBytes stamp)
    {bufferSize : Nat} (complete : template.layout.payloadSize ≤ bufferSize)
    {out : JointCommandOut} (room : Supplies template.arrayBytes out.values) :
    zcdrDeserializeJointCommand template.layout buffer bufferSize out =
      some (true,
        { stampSec := out.stampSec.map fun _ => stamp.sec
          stampNanosec := out.stampNanosec.map fun _ => stamp.nanosec
          values := out.values.map (overlaid template.arrayBytes holes.values) }) := by
  have numBytes : (template.layout.numJoints * 8).toNat = template.arrayBytes :=
    template.jointNames.arrayBytes_eq
  obtain ⟨sec, nanosec⟩ := loadStamp_segment (stampEq ▸ shows.around_stamp)
  have secRead := mapM_eq_some_map out.stampSec fun _ _ => sec
  have nanosecRead := mapM_eq_some_map out.stampNanosec fun _ _ => nanosec
  have valuesRead := mapM_eq_some_map out.values fun array given =>
    loadArray_segment shows.around_values shows.1.values (room array given)
  rw [length_beforeValues shows.1] at valuesRead
  rw [zcdrDeserializeJointCommand, if_neg (by omega), numBytes]
  have timestampOffset : template.layout.offsetTimestamp = kCdrHeader.length := rfl
  simp only [timestampOffset, secRead, nanosecRead, valuesRead, Option.bind_eq_bind,
    Option.bind_some]

end CommandTemplate

end Zenbedded
