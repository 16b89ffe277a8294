import Zenbedded.SerializationPatch

/-!
# The joint state template

A joint state template is a byte string with holes for the stamp and three
arrays.  The initializer computes the offsets of the holes and, in a zeroed
buffer, leaves the template with zeroed holes; the serializer replaces the
contents of holes and keeps everything else.
-/

namespace Zenbedded

open ByteOrder ByteBlock

variable {size : Nat}

/-- The contents of the holes of a joint state template. -/
structure StateHoles where
  stamp : List UInt8
  positions : List UInt8
  velocities : List UInt8
  efforts : List UInt8

structure StateHoles.Fit (arrayBytes : Nat) (holes : StateHoles) : Prop where
  stamp : holes.stamp.length = 8
  positions : holes.positions.length = arrayBytes
  velocities : holes.velocities.length = arrayBytes
  efforts : holes.efforts.length = arrayBytes

/-- What is fixed when a joint state client is set up. -/
structure StateTemplate where
  frameId : Option CString
  jointNames : JointNames

namespace StateTemplate

variable (template : StateTemplate)

def arrayBytes : Nat :=
  template.jointNames.arrayBytes

def stringsEnd : Nat :=
  8 + (stringsImage template.frameId template.jointNames 8).length

def positionFront : List UInt8 :=
  stringsImage template.frameId template.jointNames 8 ++
    arrayFront template.jointNames.numJoints template.stringsEnd

def positionEnd : Nat :=
  8 + template.positionFront.length + template.arrayBytes

def velocityFront : List UInt8 :=
  arrayFront template.jointNames.numJoints template.positionEnd

def velocityEnd : Nat :=
  template.positionEnd + template.velocityFront.length + template.arrayBytes

def effortFront : List UInt8 :=
  arrayFront template.jointNames.numJoints template.velocityEnd

def layout : JointStateCtx where
  numJoints := template.jointNames.numJoints
  offsetTimestamp := 4
  offsetPosition := 4 + (8 + template.positionFront.length)
  offsetVelocity := 4 + (template.positionEnd + template.velocityFront.length)
  offsetEffort := 4 + (template.velocityEnd + template.effortFront.length)
  payloadSize := 4 + (template.velocityEnd + template.effortFront.length + template.arrayBytes)

/-- How far the initializer writes: to the end of the last element count. -/
def extent : Nat :=
  4 + (template.velocityEnd +
    (countImage template.jointNames.numJoints template.velocityEnd).length)

/-- The template with its holes filled. -/
def image (holes : StateHoles) : List UInt8 :=
  kCdrHeader ++ holes.stamp ++ template.positionFront ++ holes.positions ++
    template.velocityFront ++ holes.velocities ++ template.effortFront ++ holes.efforts

/-- The holes as the initializer leaves them in a zeroed buffer. -/
def zeroHoles : StateHoles where
  stamp := List.replicate 8 0
  positions := List.replicate template.arrayBytes 0
  velocities := List.replicate template.arrayBytes 0
  efforts := List.replicate template.arrayBytes 0

theorem zeroHoles_fit : template.zeroHoles.Fit template.arrayBytes := by
  constructor <;> simp [zeroHoles]

theorem length_image {holes : StateHoles} (fit : holes.Fit template.arrayBytes) :
    (template.image holes).length = template.layout.payloadSize := by
  obtain ⟨stampFit, positionsFit, velocitiesFit, effortsFit⟩ := fit
  simp only [image, layout, velocityEnd, positionEnd, List.length_append, length_kCdrHeader,
    stampFit, positionsFit, velocitiesFit, effortsFit]
  omega

theorem extent_le_payloadSize : template.extent ≤ template.layout.payloadSize := by
  simp only [extent, layout, effortFront, arrayFront, Cdr.andThen_apply, List.length_append]
  omega

/-- `zcdr_init_joint_state` succeeds exactly in buffers it does not overrun, and
then computes the layout; a zeroed buffer that holds the payload gets the template. -/
theorem zcdrInitJointState_needs (outBuffer : Block UInt8 size) :
    Needs size template.extent
      (zcdrInitJointState template.frameId template.jointNames outBuffer)
      (fun outcome => outcome.1 = template.layout ∧
        (outBuffer = Block.filled size 0 → template.layout.payloadSize ≤ size →
          outcome.2.Prefixed 0 (template.image template.zeroHoles))) := by
  have preamble := Cursor.putPreamble_needs outBuffer template.frameId template.jointNames
  have countLe (position : Nat) :
      (countImage template.jointNames.numJoints position).length ≤
        (arrayFront template.jointNames.numJoints position).length := by
    simp [arrayFront, Cdr.andThen_apply]
  have firstCount := countLe template.stringsEnd
  have secondCount := countLe template.positionEnd
  have positionEndEq : template.stringsEnd +
      (arrayFront template.jointNames.numJoints template.stringsEnd).length +
        template.arrayBytes = template.positionEnd := by
    simp only [positionEnd, positionFront, stringsEnd, List.length_append]
    omega
  have velocityEndEq : template.positionEnd +
      (arrayFront template.jointNames.numJoints template.positionEnd).length +
        template.arrayBytes = template.velocityEnd := rfl
  have spaceEq : (8 * template.jointNames.numJoints).toNat = template.arrayBytes := rfl
  have extentEq : 4 + (template.velocityEnd +
    (countImage template.jointNames.numJoints template.velocityEnd).length) =
      template.extent := rfl
  rw [← stringsEnd] at preamble
  refine preamble.bind ?_ (by omega)
  rintro ⟨offsetTimestamp, afterNames⟩ ⟨timestampEq, laidNames⟩
  refine (laidNames.putArraySpace _).bind ?_ (by omega)
  rintro ⟨offsetPosition, afterPositions⟩ ⟨positionEq, laidPositions⟩
  rw [spaceEq, positionEndEq] at laidPositions
  refine (laidPositions.putArraySpace _).bind ?_ (by omega)
  rintro ⟨offsetVelocity, afterVelocities⟩ ⟨velocityEq, laidVelocities⟩
  rw [spaceEq, velocityEndEq] at laidVelocities
  refine (laidVelocities.putArraySpace _).bind_some ?_
  rintro ⟨offsetEffort, afterEfforts⟩ ⟨effortEq, laidEfforts⟩
  rw [spaceEq] at laidEfforts
  have payloadEq : afterEfforts.cursor = template.layout.payloadSize := by
    rw [laidEfforts.2.1, List.length_append, laidEfforts.1]
    rfl
  constructor
  · simp only [layout, JointStateCtx.mk.injEq, true_and]
    refine ⟨timestampEq, positionEq.trans ?_, velocityEq, effortEq, payloadEq⟩
    simp only [positionFront, stringsEnd, List.length_append]
    omega
  · intro zeroed holds
    have prefixed := laidEfforts.2.2 zeroed (by rw [← laidEfforts.2.1, payloadEq]; exact holds)
    simpa [image, zeroHoles, positionFront, velocityFront, effortFront] using prefixed

/-! ## The buffer around each hole -/

def beforePositions (holes : StateHoles) : List UInt8 :=
  kCdrHeader ++ holes.stamp ++ template.positionFront

def beforeVelocities (holes : StateHoles) : List UInt8 :=
  template.beforePositions holes ++ holes.positions ++ template.velocityFront

def beforeEfforts (holes : StateHoles) : List UInt8 :=
  template.beforeVelocities holes ++ holes.velocities ++ template.effortFront

variable {template} {holes : StateHoles} {buffer : Block UInt8 size} {rest : List UInt8}

theorem length_beforePositions (fit : holes.Fit template.arrayBytes) :
    (template.beforePositions holes).length = template.layout.offsetPosition := by
  simp [beforePositions, layout, fit.stamp, Nat.add_assoc]

theorem length_beforeVelocities (fit : holes.Fit template.arrayBytes) :
    (template.beforeVelocities holes).length = template.layout.offsetVelocity := by
  simp [beforeVelocities, length_beforePositions fit, layout, positionEnd, fit.positions,
    Nat.add_assoc]

theorem length_beforeEfforts (fit : holes.Fit template.arrayBytes) :
    (template.beforeEfforts holes).length = template.layout.offsetEffort := by
  simp [beforeEfforts, length_beforeVelocities fit, layout, velocityEnd, fit.velocities,
    Nat.add_assoc]

/-- A buffer that starts with the filled template. -/
def Shows (template : StateTemplate) (holes : StateHoles) (rest : List UInt8)
    (buffer : Block UInt8 size) : Prop :=
  holes.Fit template.arrayBytes ∧ buffer.bytes = template.image holes ++ rest

theorem Shows.around_stamp (shows : template.Shows holes rest buffer) :
    buffer.bytes = kCdrHeader ++ holes.stamp ++
      (template.positionFront ++ holes.positions ++ template.velocityFront ++
        holes.velocities ++ template.effortFront ++ holes.efforts ++ rest) := by
  simp only [shows.2, image, List.append_assoc]

theorem Shows.around_positions (shows : template.Shows holes rest buffer) :
    buffer.bytes = template.beforePositions holes ++ holes.positions ++
      (template.velocityFront ++ holes.velocities ++ template.effortFront ++
        holes.efforts ++ rest) := by
  simp only [shows.2, image, beforePositions, List.append_assoc]

theorem Shows.around_velocities (shows : template.Shows holes rest buffer) :
    buffer.bytes = template.beforeVelocities holes ++ holes.velocities ++
      (template.effortFront ++ holes.efforts ++ rest) := by
  simp only [shows.2, image, beforeVelocities, beforePositions, List.append_assoc]

theorem Shows.around_efforts (shows : template.Shows holes rest buffer) :
    buffer.bytes = template.beforeEfforts holes ++ holes.efforts ++ rest := by
  simp only [shows.2, image, beforeEfforts, beforeVelocities, beforePositions,
    List.append_assoc]

theorem Shows.storeStamp (shows : template.Shows holes rest buffer) (stamp : Stamp) :
    ∃ stored, storeStamp buffer template.layout.offsetTimestamp stamp.sec stamp.nanosec =
        some stored ∧
      template.Shows { holes with stamp := stampBytes stamp } rest stored := by
  obtain ⟨stored, storedEq, storedBytes⟩ :=
    storeStamp_segment shows.around_stamp shows.1.stamp stamp
  refine ⟨stored, storedEq, { shows.1 with stamp := length_stampBytes stamp }, ?_⟩
  simpa only [image, List.append_assoc] using storedBytes

variable {array : Option (List UInt64)}

theorem Shows.storePositions (shows : template.Shows holes rest buffer)
    (supplies : Supplies template.arrayBytes array) :
    ∃ stored, storeArray buffer template.layout.offsetPosition array template.arrayBytes =
        some stored ∧
      template.Shows
        { holes with positions := patched template.arrayBytes holes.positions array }
        rest stored := by
  obtain ⟨stored, storedEq, storedBytes⟩ :=
    storeArray_segment shows.around_positions shows.1.positions supplies
  rw [length_beforePositions shows.1] at storedEq
  refine ⟨stored, storedEq,
    { shows.1 with positions := length_patched shows.1.positions supplies }, ?_⟩
  simpa only [image, beforePositions, List.append_assoc] using storedBytes

theorem Shows.storeVelocities (shows : template.Shows holes rest buffer)
    (supplies : Supplies template.arrayBytes array) :
    ∃ stored, storeArray buffer template.layout.offsetVelocity array template.arrayBytes =
        some stored ∧
      template.Shows
        { holes with velocities := patched template.arrayBytes holes.velocities array }
        rest stored := by
  obtain ⟨stored, storedEq, storedBytes⟩ :=
    storeArray_segment shows.around_velocities shows.1.velocities supplies
  rw [length_beforeVelocities shows.1] at storedEq
  refine ⟨stored, storedEq,
    { shows.1 with velocities := length_patched shows.1.velocities supplies }, ?_⟩
  simpa only [image, beforeVelocities, beforePositions, List.append_assoc] using storedBytes

theorem Shows.storeEfforts (shows : template.Shows holes rest buffer)
    (supplies : Supplies template.arrayBytes array) :
    ∃ stored, storeArray buffer template.layout.offsetEffort array template.arrayBytes =
        some stored ∧
      template.Shows
        { holes with efforts := patched template.arrayBytes holes.efforts array }
        rest stored := by
  obtain ⟨stored, storedEq, storedBytes⟩ :=
    storeArray_segment shows.around_efforts shows.1.efforts supplies
  rw [length_beforeEfforts shows.1] at storedEq
  refine ⟨stored, storedEq,
    { shows.1 with efforts := length_patched shows.1.efforts supplies }, ?_⟩
  simpa only [image, beforeEfforts, beforeVelocities, beforePositions, List.append_assoc]
    using storedBytes

/-! ## Whole calls -/

def patch (template : StateTemplate) (holes : StateHoles) (stamp : Stamp)
    (positions velocities efforts : Option (List UInt64)) : StateHoles where
  stamp := stampBytes stamp
  positions := patched template.arrayBytes holes.positions positions
  velocities := patched template.arrayBytes holes.velocities velocities
  efforts := patched template.arrayBytes holes.efforts efforts

/-- `zcdr_serialize_joint_state` replaces hole contents in place. -/
theorem Shows.serialize (shows : template.Shows holes rest buffer) (stamp : Stamp)
    {positions velocities efforts : Option (List UInt64)}
    (suppliesPositions : Supplies template.arrayBytes positions)
    (suppliesVelocities : Supplies template.arrayBytes velocities)
    (suppliesEfforts : Supplies template.arrayBytes efforts) :
    ∃ stored, zcdrSerializeJointState template.layout stamp.sec stamp.nanosec
        positions velocities efforts buffer = some stored ∧
      template.Shows (template.patch holes stamp positions velocities efforts) rest stored := by
  obtain ⟨stamped, stampedEq, showsStamp⟩ := shows.storeStamp stamp
  obtain ⟨placed, placedEq, showsPlaced⟩ := showsStamp.storePositions suppliesPositions
  obtain ⟨moving, movingEq, showsMoving⟩ := showsPlaced.storeVelocities suppliesVelocities
  obtain ⟨stored, storedEq, showsStored⟩ := showsMoving.storeEfforts suppliesEfforts
  refine ⟨stored, ?_, showsStored⟩
  have numBytes : (template.layout.numJoints * 8).toNat = template.arrayBytes :=
    template.jointNames.arrayBytes_eq
  simp only [zcdrSerializeJointState, numBytes, stampedEq, placedEq, movingEq, storedEq,
    Option.bind_eq_bind, Option.bind_some]

/-- `zcdr_deserialize_joint_state` reads the holes into every argument it is given. -/
theorem Shows.deserialize (shows : template.Shows holes rest buffer) {stamp : Stamp}
    (stampEq : holes.stamp = stampBytes stamp)
    {bufferSize : Nat} (complete : template.layout.payloadSize ≤ bufferSize)
    {out : JointStateOut}
    (roomPositions : Supplies template.arrayBytes out.positions)
    (roomVelocities : Supplies template.arrayBytes out.velocities)
    (roomEfforts : Supplies template.arrayBytes out.efforts) :
    zcdrDeserializeJointState template.layout buffer bufferSize out =
      some (true,
        { stampSec := out.stampSec.map fun _ => stamp.sec
          stampNanosec := out.stampNanosec.map fun _ => stamp.nanosec
          positions := out.positions.map (overlaid template.arrayBytes holes.positions)
          velocities := out.velocities.map (overlaid template.arrayBytes holes.velocities)
          efforts := out.efforts.map (overlaid template.arrayBytes holes.efforts) }) := by
  have numBytes : (template.layout.numJoints * 8).toNat = template.arrayBytes :=
    template.jointNames.arrayBytes_eq
  obtain ⟨sec, nanosec⟩ := loadStamp_segment (stampEq ▸ shows.around_stamp)
  have secRead := mapM_eq_some_map out.stampSec fun _ _ => sec
  have nanosecRead := mapM_eq_some_map out.stampNanosec fun _ _ => nanosec
  have positionsRead := mapM_eq_some_map out.positions fun array given =>
    loadArray_segment shows.around_positions shows.1.positions (roomPositions array given)
  have velocitiesRead := mapM_eq_some_map out.velocities fun array given =>
    loadArray_segment shows.around_velocities shows.1.velocities (roomVelocities array given)
  have effortsRead := mapM_eq_some_map out.efforts fun array given =>
    loadArray_segment shows.around_efforts shows.1.efforts (roomEfforts array given)
  rw [length_beforePositions shows.1] at positionsRead
  rw [length_beforeVelocities shows.1] at velocitiesRead
  rw [length_beforeEfforts shows.1] at effortsRead
  rw [zcdrDeserializeJointState, if_neg (by omega), numBytes]
  have timestampOffset : template.layout.offsetTimestamp = kCdrHeader.length := rfl
  simp only [timestampOffset, secRead, nanosecRead, positionsRead, velocitiesRead, effortsRead,
    Option.bind_eq_bind, Option.bind_some]

end StateTemplate

end Zenbedded
