import Zenbedded.CommandDecoding
import Zenbedded.CommandProgress
import Zenbedded.PendulumStepper
import Zenbedded.SerializationRegions

/-!
# The first firmware of the pendulum

It publishes the angles of the stepper and of the encoder, and lets the stepper run at the
commanded velocity.
-/

namespace Zenbedded

open ByteBlock ByteOrder Doubles

def microstepsToAngle (res : MicroStepRes) (microsteps : Int32) : Float :=
  2.0 * mPi * ofInt microsteps.toInt / ofInt res.microStepsPerRev.toInt

/-- A `sensor_value`: a whole part and millionths. -/
structure SensorValue where
  val1 : Int32
  val2 : Int32

def sensorValueToDouble (val : SensorValue) : Float :=
  ofInt val.val1.toInt + ofInt val.val2.toInt / 1000000

/-- The angle of the encoder in a sample, if the sensor had one. -/
def getEncoderAngleDeg (sample : Option SensorValue) : Option Float :=
  sample.map fun val => sensorValueToDouble val * mPi / 180

namespace Tier1

structure Motion where
  stepperAngleOffset : Float
  encoderAngleOffset : Float
  stepperAngle : Float
  encoderAngle : Float
  stepperAngularVelocity : Float

/-- What the drivers and the clock answer at the beginning of a cycle. -/
structure Sensors where
  stepperPosition : Option Int32
  encoderSample : Option SensorValue
  tvSec : Int64
  tvNsec : Int64

def sense (res : MicroStepRes) (sensors : Sensors) (motion : Motion) : JointStateValue × Motion :=
  let stepperAngle := match sensors.stepperPosition with
    | some stepperPosition => microstepsToAngle res stepperPosition - motion.stepperAngleOffset
    | none => motion.stepperAngle
  let encoderAngle := match getEncoderAngleDeg sensors.encoderSample with
    | some rawEncoderAngle => rawEncoderAngle - motion.encoderAngleOffset
    | none => motion.encoderAngle
  ({ stampSec := sensors.tvSec.toInt32
     stampNanosec := sensors.tvNsec.toUInt64.toUInt32
     positions := some [stepperAngle.toBits, encoderAngle.toBits]
     velocities := none
     efforts := none },
    { motion with stepperAngle, encoderAngle })

/-- The velocity is `cmd[0]`; there is no such command without values. -/
def command (value : JointCommandValue) (motion : Motion) : Option Motion := do
  let values ← value.values
  let velocity ← values.head?
  some { motion with stepperAngularVelocity := .ofBits velocity }

def timeOut (motion : Motion) : Motion :=
  if (motion.stepperAngularVelocity == 0.0) = false then
    { motion with stepperAngularVelocity := 0.0 }
  else
    motion

def drive (res : MicroStepRes) (answers : StepperAnswers) (motion : Motion) :
    List StepperCall × Motion :=
  (setStepperAngularVel res answers motion.stepperAngularVelocity, motion)

/-- The loop of `main`. -/
def loopBody (res : MicroStepRes) : LoopBody JointCommandCodec.Value where
  Motion := Motion
  Sensors := Sensors
  State := JointStateValue
  Answers := StepperAnswers
  Call := StepperCall
  sense := sense res
  command := command
  timeOut := timeOut
  drive := drive res

def jointNames : JointNames where
  names := [CString.ofString "stepper_motor", CString.ofString "magnetic_encoder"]
  length_lt := by decide

def stateParams : JointStateParams where
  frameId := some (CString.ofString "base_link")
  jointNames := jointNames

def cmdParams : JointCommandParams where
  frameId := some (CString.ofString "base_link")
  jointNames := jointNames
  interfaceName := some (CString.ofString "velocity")

def initialMotion (res : MicroStepRes) (stepperPosition : Int32) (encoderAngleOffset : Float) :
    Motion where
  stepperAngleOffset := microstepsToAngle res stepperPosition
  encoderAngleOffset := encoderAngleOffset
  stepperAngle := 0
  encoderAngle := 0
  stepperAngularVelocity := 0

def Starts (res : MicroStepRes) (motion : Motion) : Prop :=
  ∃ stepperPosition encoderAngleOffset,
    motion = initialMotion res stepperPosition encoderAngleOffset

/-! ## Stale commands -/

def Resting (motion : Motion) : Prop :=
  (motion.stepperAngularVelocity == 0.0) = true

theorem zero_beq_zero : ((0.0 : Float) == 0.0) = true := by
  decide +kernel

theorem resting_timeOut (motion : Motion) : Resting (timeOut motion) := by
  unfold timeOut
  split
  case isTrue => exact zero_beq_zero
  case isFalse zero => simpa [Resting] using zero

theorem rests (res : MicroStepRes) : (loopBody res).Rests Resting where
  timeOut := resting_timeOut
  sense _ _ holds := holds
  drive _ _ holds := holds

theorem setStepperAngularVel_of_resting (res : MicroStepRes) (answers : StepperAnswers)
    {motion : Motion} (resting : Resting motion) :
    setStepperAngularVel res answers motion.stepperAngularVelocity = [.stop] := by
  rw [setStepperAngularVel, microstepIntervalNs_of_zero _ _ resting]

/-! ## Received commands -/

def Commanded (value : JointCommandValue) (motion : Motion) : Prop :=
  ∃ velocity rest, value.values = some (velocity :: rest) ∧
    motion.stepperAngularVelocity = .ofBits velocity

theorem commanded_of_command {value : JointCommandValue} {motion next : Motion}
    (commands : command value motion = some next) : Commanded value next := by
  obtain ⟨values, valuesEq, commands⟩ := Option.bind_eq_some_iff.mp commands
  obtain ⟨velocity, headEq, commands⟩ := Option.bind_eq_some_iff.mp commands
  cases commands
  cases values with
  | nil => cases headEq
  | cons first rest =>
      cases headEq
      exact ⟨velocity, rest, valuesEq, rfl⟩

theorem keeps (res : MicroStepRes) : (loopBody res).Keeps Commanded where
  command _ _ _ commands := commanded_of_command commands
  sense _ _ _ holds := holds
  drive _ _ _ holds := holds

/-! ## Commands in the CDR format -/

theorem exists_decoded {template : CommandTemplate}
    (few : template.jointNames.names.length < 2 ^ 29) {order : Endianness} {message : JointCommand}
    (size : (message.serialize order).length = template.layout.payloadSize)
    (perJoint : message.values.length = template.jointNames.names.length) {velocity : UInt64}
    {rest : List UInt64} (seen : (message.seenIn order).values = velocity :: rest)
    {capacity : Nat} {received : Block UInt8 capacity}
    (holds : template.layout.payloadSize ≤ capacity)
    (contents : received.bytes.take template.layout.payloadSize = message.serialize order)
    {out : JointCommandValue} {array : List UInt64} (arrayEq : out.values = some array)
    (room : template.jointNames.names.length ≤ array.length) :
    ∃ value, JointCommandCodec.read template.layout received template.layout.payloadSize out =
        some (true, value) ∧
      ∃ others, value.values = some (velocity :: others) := by
  have numBytes : (template.layout.numJoints * 8).toNat =
      8 * template.jointNames.names.length := by
    rw [← JointNames.arrayBytes_of_lt few]
    exact template.jointNames.arrayBytes_eq
  have supplies : Supplies (template.layout.numJoints * 8).toNat out.values := by
    intro values valuesEq
    cases arrayEq.symm.trans valuesEq
    omega
  have filledEq := @zcdrDeserializeJointCommand_eq _ _ template.separate received holds
    template.layout.payloadSize le_rfl ⟨some out.stampSec, some out.stampNanosec, out.values⟩
    supplies
  obtain ⟨value, valueEq⟩ : ∃ value, JointCommandCodec.read template.layout received
      template.layout.payloadSize out = some (true, value) ∧
      value.values = some (overlaid (template.layout.numJoints * 8).toNat
        ((CommandField.values.region template.layout).contents received) array) := by
    refine ⟨_, Option.bind_eq_some_iff.mpr ⟨_, filledEq, rfl⟩, ?_⟩
    exact congrArg (Option.map _) arrayEq
  obtain ⟨readEq, valuesEq⟩ := valueEq
  have split : received.bytes = message.serialize order ++
      received.bytes.drop template.layout.payloadSize := by
    rw [← contents, List.take_append_drop]
  obtain ⟨-, -, decoded⟩ := CommandTemplate.decode few split size readEq
  have some : 0 < message.values.length := by
    have lengths := congrArg List.length seen
    simp only [JointCommand.seenIn, List.length_map, List.length_cons] at lengths
    omega
  have first := decoded _ valuesEq 0 0 (by omega) some (by omega)
  rw [seen, List.getElem?_cons_zero, ← List.head?_eq_getElem?] at first
  obtain ⟨others, othersEq⟩ := List.head?_eq_some_iff.mp first
  exact ⟨value, readEq, others, by rw [valuesEq, othersEq]⟩

/-- The commanded velocity is zero, or it was read last. -/
def Follows (read : Option JointCommandValue) (motion : Motion) : Prop :=
  Resting motion ∨ ∃ value, read = some value ∧ Commanded value motion

theorem follows (res : MicroStepRes) : (loopBody res).Follows (Starts res) Follows where
  initial motion starts := by
    obtain ⟨_, _, rfl⟩ := starts
    exact .inl zero_beq_zero
  command _ value _ _ _ commands := .inr ⟨value, rfl, commanded_of_command commands⟩
  timeOut _ motion _ := .inl (resting_timeOut motion)
  sense _ _ _ holds := holds
  drive _ _ _ holds := holds

/-- What a call of the first firmware may ask for. -/
def Safe : StepperCall → Prop
  | .stop => True
  | .setMicrostepInterval intervalNs =>
      kMinMicrostepIntervalNs ≤ intervalNs ∧ intervalNs ≤ kMaxMicrostepIntervalNs
  | .run _ => True
  | .moveTo _ => False

theorem setStepperAngularVel_safe (res : MicroStepRes) (answers : StepperAnswers)
    (radsPerSec : Float) : ∀ call ∈ setStepperAngularVel res answers radsPerSec, Safe call := by
  intro call called
  unfold setStepperAngularVel at called
  split at called
  case h_1 =>
    rw [List.mem_singleton.mp called]
    trivial
  case h_2 intervalNs steps =>
    rcases List.mem_cons.mp called with rfl | called
    · exact interval_bounds (by decide) steps
    · split at called
      case isTrue => cases called
      case isFalse =>
        rw [List.mem_singleton.mp called]
        trivial

end Tier1

/-! ## Progress -/

/-- A joint command that is delivered while the loop waits is driven by the next cycle. -/
theorem Tier1.exists_driven_command {kconfig : Kconfig}
    {client : ZenbeddedClient kconfig JointStateCodec JointCommandCodec}
    {template : CommandTemplate} (layoutEq : client.cmdCtx = template.layout)
    (sizeEq : client.cmdPayloadSize = template.layout.payloadSize)
    (fits : client.cmdPayloadSize ≤ kconfig.maxCmdBufferSize)
    (few : template.jointNames.names.length < 2 ^ 29) {res : MicroStepRes}
    {before : TimedLoop kconfig Tier1.Motion} {contents : Block UInt8 kconfig.maxCmdBufferSize}
    (sound : before.flow.cmd.Sound contents) (idle : before.flow.cmd.writer = .idle)
    (allCounted : before.flow.mustCount = false) (entered : before.entered = true)
    (waiting : before.flow.loop = .waiting)
    (unseen : before.flow.cmdAcceptedCount + 1 ≠ before.flow.lastCommandCount)
    {order : Endianness} {message : JointCommand}
    (size : (message.serialize order).length = client.cmdPayloadSize)
    (perJoint : message.values.length = template.jointNames.names.length) {velocity : UInt64}
    {rest : List UInt64} (seen : (message.seenIn order).values = velocity :: rest)
    {out : JointCommandValue} {array : List UInt64} (arrayEq : out.values = some array)
    (room : template.jointNames.names.length ≤ array.length) (sensors : Tier1.Sensors)
    (answers : StepperAnswers) :
    ∃ delivery state count value after,
      deliveredPayloads client.cmdPayloadSize delivery = [message.serialize order] ∧
      (timedLoop client (Tier1.loopBody res) (Tier1.Starts res)).Run before
        (delivery ++ [.look sensors state count, .readCommand out (true, value),
          .drive answers (Tier1.setStepperAngularVel res answers (.ofBits velocity))]) after := by
  have decodes : ∀ received : Block UInt8 kconfig.maxCmdBufferSize,
      received.bytes.take client.cmdPayloadSize = message.serialize order →
      ∃ value, JointCommandCodec.read client.cmdCtx received client.cmdPayloadSize out =
        some (true, value) ∧ ∃ others, value.values = some (velocity :: others) := by
    intro received taken
    rw [sizeEq] at taken fits size
    rw [layoutEq, sizeEq]
    exact Tier1.exists_decoded few size perJoint seen fits taken arrayEq room
  have commands : ∀ (value : JointCommandValue) (motion : Tier1.Motion),
      (∃ others, value.values = some (velocity :: others)) →
      ∃ next, Tier1.command value motion = some next := by
    rintro value motion ⟨others, valuesEq⟩
    exact ⟨{ motion with stepperAngularVelocity := .ofBits velocity },
      by simp [Tier1.command, valuesEq]⟩
  obtain ⟨delivery, state, count, value, motion, after, ⟨others, valuesEq⟩, commandEq, brings,
      run, -⟩ :=
    @exists_driven _ _ _ client (Tier1.loopBody res) (Tier1.Starts res) before contents sound idle
      allCounted fits entered waiting unseen _ size out _ decodes sensors answers commands
  have commanded : motion.stepperAngularVelocity = .ofBits velocity := by
    obtain ⟨first, others', firstEq, commanded⟩ := Tier1.commanded_of_command commandEq
    cases valuesEq.symm.trans firstEq
    exact commanded
  refine ⟨delivery, state, count, value, after, brings, ?_⟩
  rw [← commanded]
  exact run

end Zenbedded
