import Zenbedded.CommandProgress
import Zenbedded.PendulumTier1
import Zenbedded.SchemaFields

/-!
# The second firmware of the pendulum

It publishes the angles and the velocities, and integrates the commanded acceleration to the
velocity of the stepper.
-/

namespace Zenbedded

open ByteBlock ByteOrder Doubles

namespace Tier2

/-! ## The interfaces -/

/-- The `interface_schema.yaml` of the firmware. -/
def interfaceSchema : YamlNode :=
  .mapping [
    ("state_interfaces", .mapping [
      ("motor_joint", .mapping [("position", .scalar "float64"), ("velocity", .scalar "float64")]),
      ("pendulum_joint",
        .mapping [("position", .scalar "float64"), ("velocity", .scalar "float64")])]),
    ("command_interfaces", .mapping [
      ("motor_joint", .mapping [("acceleration", .scalar "float64")])])]

def header : CHeader where
  stateByteSize := 32
  commandByteSize := 8
  state :=
    [⟨.double, "motor_joint_position"⟩, ⟨.double, "motor_joint_velocity"⟩,
      ⟨.double, "pendulum_joint_position"⟩, ⟨.double, "pendulum_joint_velocity"⟩]
  command := [⟨.double, "motor_joint_acceleration"⟩]

example : generateHeader interfaceSchema = .ok header := rfl

/-- The values of a `zenbedded_state_t`. -/
structure StateVal where
  motorJointPosition : Float
  motorJointVelocity : Float
  pendulumJointPosition : Float
  pendulumJointVelocity : Float

/-- The memory of a `zenbedded_command_t`. -/
abbrev CommandVal := Block UInt8 (structSize header.command)

/-! ## The loop -/

/-- The variables of the loop, with the travel that was computed before it. -/
structure Motion where
  travel : Travel
  stepperAngleOffset : Float
  stepperAngle : Float
  prevStepperAngle : Float
  stepperAngularVelocity : Float
  commandedAcceleration : Float
  lastStateTime : UInt32

/-- What the driver, the encoder thread and the two looks at the clock answer in a cycle. -/
structure Sensors where
  stepperPosition : Option Int32
  encoderAngle : Float
  encoderVelocity : Float
  stateTime : UInt32
  nextStateTime : UInt32

def sense (res : MicroStepRes) (sensors : Sensors) (motion : Motion) : StateVal × Motion :=
  let stepperAngle := match sensors.stepperPosition with
    | some stepperPosition => microstepsToAngle res stepperPosition - motion.stepperAngleOffset
    | none => motion.stepperAngle
  let dt := ofInt (sensors.stateTime - motion.lastStateTime).toNat / 1000.0
  let motorJointVelocity :=
    if dt > 0.0 then (stepperAngle - motion.prevStepperAngle) / dt else 0.0
  ({ motorJointPosition := stepperAngle
     motorJointVelocity
     pendulumJointPosition := sensors.encoderAngle
     pendulumJointVelocity := sensors.encoderVelocity },
    { motion with
      stepperAngle
      prevStepperAngle := stepperAngle
      lastStateTime := sensors.nextStateTime })

/-- The member `motor_joint_acceleration`. -/
def acceleration (value : CommandVal) : Option Float :=
  (memberBits header.command value 0).map fun bits => .ofBits (.ofNat bits)

def command (value : CommandVal) (motion : Motion) : Option Motion := do
  let commandedAcceleration ← acceleration value
  some { motion with commandedAcceleration }

def timeOut (motion : Motion) : Motion :=
  if (motion.commandedAcceleration == 0.0) = false ∨
      (motion.stepperAngularVelocity == 0.0) = false then
    { motion with commandedAcceleration := 0.0, stepperAngularVelocity := 0.0 }
  else
    motion

def kStepperAngleLimitRad : Float := 135.0 * mPi / 180.0

def enforceStepperHardStop (stepperAngle stepperAngularVelocity : Float) : Float :=
  if stepperAngle ≥ kStepperAngleLimitRad ∧ stepperAngularVelocity > 0.0 ∨
      stepperAngle ≤ -kStepperAngleLimitRad ∧ stepperAngularVelocity < 0.0 then
    0.0
  else
    stepperAngularVelocity

def integrate (motion : Motion) : Float :=
  enforceStepperHardStop motion.stepperAngle
    (clamp (motion.stepperAngularVelocity + motion.commandedAcceleration * kControlPeriodSec)
      (-kMaxAngularVelocity) kMaxAngularVelocity)

def drive (res : MicroStepRes) (answers : StepperAnswers) (motion : Motion) :
    List StepperCall × Motion :=
  (setStepperAngularVel res motion.travel answers (integrate motion),
    { motion with stepperAngularVelocity := integrate motion })

/-- The loop of `main`. -/
def loopBody (res : MicroStepRes) : LoopBody CommandVal where
  Motion := Motion
  Sensors := Sensors
  State := StateVal
  Answers := StepperAnswers
  Call := StepperCall
  sense := sense res
  command := command
  timeOut := timeOut
  drive := drive res

/-! ## The travel -/

def stepperLimitMicrosteps (res : MicroStepRes) : Int :=
  lround (kStepperAngleLimitRad / (2.0 * mPi) * ofInt res.microStepsPerRev.toInt)

theorem stepperLimitMicrosteps_eq (res : MicroStepRes) :
    stepperLimitMicrosteps res = 75 * res.value.toNat := by
  have each : [1, 2, 4, 8, 16, 32, 64, 128, 256].all (fun value =>
      lround (kStepperAngleLimitRad / (2.0 * mPi) *
        ofInt (motorStepsPerRev * value).toInt32.toInt) = 75 * value.toNat) = true := by
    decide +kernel
  exact of_decide_eq_true (List.all_eq_true.mp each res.value res.admitted)

/-- The travel around a position, if its ends are positions. -/
def Travel.around (res : MicroStepRes) (stepperPosition : Int32) : Option Travel :=
  if inside : -2 ^ 31 ≤ stepperPosition.toInt - stepperLimitMicrosteps res ∧
      stepperPosition.toInt + stepperLimitMicrosteps res < 2 ^ 31 then
    some {
      minPosition := .ofInt (stepperPosition.toInt - stepperLimitMicrosteps res)
      maxPosition := .ofInt (stepperPosition.toInt + stepperLimitMicrosteps res)
      ordered := by
        rw [stepperLimitMicrosteps_eq] at inside ⊢
        rw [Int32.toInt_ofInt_of_le (by omega) (by omega),
          Int32.toInt_ofInt_of_le (by omega) (by omega)]
        omega }
  else
    none

def initialMotion (res : MicroStepRes) (stepperPosition : Int32) (travel : Travel)
    (lastStateTime : UInt32) : Motion where
  travel
  stepperAngleOffset := microstepsToAngle res stepperPosition
  stepperAngle := 0
  prevStepperAngle := 0
  stepperAngularVelocity := 0
  commandedAcceleration := 0.0
  lastStateTime

/-- The loop starts at a position of the stepper that is so far from the ends of its type that the
travel can be computed. -/
def Starts (res : MicroStepRes) (stepperPosition : Int32) (motion : Motion) : Prop :=
  ∃ travel lastStateTime, Travel.around res stepperPosition = some travel ∧
    motion = initialMotion res stepperPosition travel lastStateTime

/-! ## The velocity of a cycle -/

/-- Not faster than `kMaxAngularVelocity`; NaN is not fast. -/
def Bounded (velocity : Float) : Prop :=
  ¬ velocity < -kMaxAngularVelocity ∧ ¬ kMaxAngularVelocity < velocity

theorem bounded_enforceStepperHardStop {velocity : Float} (bounded : Bounded velocity)
    (stepperAngle : Float) : Bounded (enforceStepperHardStop stepperAngle velocity) := by
  unfold enforceStepperHardStop
  split
  · exact ⟨by decide +kernel, by decide +kernel⟩
  · exact bounded

theorem bounded_integrate (motion : Motion) : Bounded (integrate motion) := by
  have ordered : ¬ kMaxAngularVelocity < -kMaxAngularVelocity := by
    decide +kernel
  exact bounded_enforceStepperHardStop ⟨not_clamp_lt _ ordered, not_lt_clamp _ ordered⟩ _

/-- Beyond the limit no cycle turns the stepper further out. -/
theorem integrate_at_limit (motion : Motion) :
    (kStepperAngleLimitRad ≤ motion.stepperAngle → ¬ 0.0 < integrate motion) ∧
      (motion.stepperAngle ≤ -kStepperAngleLimitRad → ¬ integrate motion < 0.0) := by
  unfold integrate enforceStepperHardStop
  split
  case isTrue => exact ⟨fun _ => not_lt_self 0.0, fun _ => not_lt_self 0.0⟩
  case isFalse inside =>
    obtain ⟨below, above⟩ := not_or.mp inside
    exact ⟨fun limit further => below ⟨limit, further⟩, fun limit further => above ⟨limit, further⟩⟩

theorem isNaN_enforceStepperHardStop {velocity : Float} (nan : velocity.isNaN = true)
    (stepperAngle : Float) : (enforceStepperHardStop stepperAngle velocity).isNaN = true := by
  unfold enforceStepperHardStop
  split
  case isTrue moves =>
    rcases moves with ⟨-, further⟩ | ⟨-, further⟩
    · cases nan.symm.trans (lt_iff.mp further).2.1
    · cases nan.symm.trans (lt_iff.mp further).1
  case isFalse => exact nan

/-- A velocity that is NaN stays NaN, and an acceleration that is NaN makes it so. -/
theorem isNaN_integrate {motion : Motion} (nan : motion.stepperAngularVelocity.isNaN = true ∨
    motion.commandedAcceleration.isNaN = true) : (integrate motion).isNaN = true := by
  have sum : (motion.stepperAngularVelocity +
      motion.commandedAcceleration * kControlPeriodSec).isNaN = true := by
    rcases nan with velocity | acceleration
    · exact isNaN_add_of_left velocity _
    · exact isNaN_add_of_right _ (isNaN_mul_of_left acceleration _)
  apply isNaN_enforceStepperHardStop
  rw [clamp_of_isNaN sum]
  exact sum

/-- Nothing else does. -/
theorem isFinite_integrate {motion : Motion}
    (velocity : motion.stepperAngularVelocity.isFinite = true)
    (acceleration : motion.commandedAcceleration.isNaN = false) :
    (integrate motion).isFinite = true := by
  have product := isNaN_mul acceleration (show kControlPeriodSec.isFinite = true by decide +kernel)
    (by decide +kernel)
  have clamped := isFinite_clamp (isNaN_add velocity product)
    (show (-kMaxAngularVelocity).isFinite = true by decide +kernel)
    (show kMaxAngularVelocity.isFinite = true by decide +kernel)
  unfold integrate enforceStepperHardStop
  split
  · decide +kernel
  · exact clamped

/-! ## Laws of the loop -/

def Resting (motion : Motion) : Prop :=
  (motion.commandedAcceleration == 0.0) = true ∧ (motion.stepperAngularVelocity == 0.0) = true

theorem resting_timeOut (motion : Motion) : Resting (timeOut motion) := by
  unfold timeOut
  split
  case isTrue => exact ⟨Tier1.zero_beq_zero, Tier1.zero_beq_zero⟩
  case isFalse zero => simpa [Resting, not_or] using zero

theorem integrate_of_resting {motion : Motion} (resting : Resting motion) :
    (integrate motion == 0.0) = true := by
  have zero : ((0.0 : Float) == 0) = true := by
    decide +kernel
  have toZero {x : Float} (isZero : (x == 0.0) = true) : (x == 0) = true := by
    obtain ⟨numberX, -, unitsX⟩ := beq_iff.mp isZero
    obtain ⟨-, numberZero, unitsZero⟩ := beq_iff.mp zero
    exact beq_iff.mpr ⟨numberX, numberZero, unitsX.trans unitsZero⟩
  have ofZero {x : Float} (isZero : (x == 0) = true) : (x == 0.0) = true := by
    obtain ⟨numberX, -, unitsX⟩ := beq_iff.mp isZero
    obtain ⟨numberZero, -, unitsZero⟩ := beq_iff.mp zero
    exact beq_iff.mpr ⟨numberX, numberZero, unitsX.trans unitsZero.symm⟩
  have product := mul_beq_zero (toZero resting.1)
    (show kControlPeriodSec.isFinite = true by decide +kernel)
  have sum := add_beq_zero (toZero resting.2) product
  unfold integrate enforceStepperHardStop
  split
  · exact Tier1.zero_beq_zero
  · rw [clamp_of_zero sum (by decide +kernel) (by decide +kernel)]
    exact ofZero sum

variable (res : MicroStepRes)

theorem rests : (loopBody res).Rests Resting where
  timeOut := resting_timeOut
  sense _ _ holds := holds
  drive _ _ holds := ⟨holds.1, integrate_of_resting holds⟩

theorem drive_of_resting (answers : StepperAnswers) {motion : Motion} (resting : Resting motion) :
    (drive res answers motion).1 = [.stop] := by
  have zero := integrate_of_resting resting
  simp only [drive, setStepperAngularVel, microstepIntervalNs_of_zero _ _ zero]

theorem drive_of_isNaN (answers : StepperAnswers) {motion : Motion}
    (nan : (integrate motion).isNaN = true) : (drive res answers motion).1 = [.stop] := by
  simp only [drive, setStepperAngularVel, microstepIntervalNs_of_isNaN _ _ nan]

def Commanded (value : CommandVal) (motion : Motion) : Prop :=
  acceleration value = some motion.commandedAcceleration

theorem command_eq_some_iff {value : CommandVal} {motion next : Motion} :
    command value motion = some next ↔ ∃ commandedAcceleration,
      acceleration value = some commandedAcceleration ∧
        next = { motion with commandedAcceleration } := by
  simp only [command, Option.bind_eq_bind, Option.bind_eq_some_iff, Option.some.injEq]
  exact exists_congr fun _ => and_congr_right fun _ => eq_comm

theorem timeOut_frame (motion : Motion) :
    (timeOut motion).travel = motion.travel ∧
      (timeOut motion).stepperAngle = motion.stepperAngle := by
  unfold timeOut
  split <;> exact ⟨rfl, rfl⟩

theorem keeps : (loopBody res).Keeps Commanded where
  command value motion next commands := by
    obtain ⟨_, accelerationEq, rfl⟩ := command_eq_some_iff.mp commands
    exact accelerationEq
  sense _ _ _ holds := holds
  drive _ _ _ holds := holds

theorem shows : (loopBody res).Shows fun state motion =>
    motion.stepperAngle = state.motorJointPosition where
  sense _ _ := rfl
  timeOut _ motion holds := (timeOut_frame motion).2.trans holds
  command _ _ _ _ holds commands := by
    obtain ⟨_, -, rfl⟩ := command_eq_some_iff.mp commands
    exact holds
  drive _ _ _ holds := holds

/-- The travel is the one around the start; without a command the stepper rests. -/
def Follows (stepperPosition : Int32) (read : Option CommandVal) (motion : Motion) : Prop :=
  Travel.around res stepperPosition = some motion.travel ∧ (Resting motion ∨ read ≠ none)

theorem follows (stepperPosition : Int32) :
    (loopBody res).Follows (Starts res stepperPosition) (Follows res stepperPosition) where
  initial motion starts := by
    obtain ⟨travel, lastStateTime, around, rfl⟩ := starts
    exact ⟨around, .inl ⟨Tier1.zero_beq_zero, Tier1.zero_beq_zero⟩⟩
  command _ _ _ _ holds commands := by
    obtain ⟨_, -, rfl⟩ := command_eq_some_iff.mp commands
    exact ⟨holds.1, .inr (by simp)⟩
  timeOut _ motion holds :=
    ⟨holds.1.trans (congrArg some (timeOut_frame motion).1.symm), .inl (resting_timeOut motion)⟩
  sense _ _ _ holds := holds
  drive read answers motion holds := by
    refine ⟨holds.1, holds.2.imp_left fun resting => ?_⟩
    exact (rests res).drive answers motion resting

/-! ## Progress -/

theorem exists_decoded {capacity : Nat} {received : Block UInt8 capacity} (fits : 8 ≤ capacity)
    {bits : UInt64} (contents : received.bytes.take 8 = littleEndian 8 bits.toNat)
    (out : CommandVal) :
    ∃ value, (RawCodec.command (structSize header.command)).read () received 8 out =
        some (true, value) ∧
      acceleration value = some (.ofBits bits) := by
  have bytes : (littleEndian 8 bits.toNat).length = 8 := length_littleEndian 8 _
  have whole : (littleEndian 8 bits.toNat).take 8 = littleEndian 8 bits.toNat :=
    List.take_of_length_le bytes.le
  let value : CommandVal := ⟨littleEndian 8 bits.toNat, bytes⟩
  have member : memberBits header.command value 0 =
      some (littleEndianValue (littleEndian 8 bits.toNat)) := by
    have own : value.load 0 8 = some (littleEndian 8 bits.toNat) := by
      rw [Block.load, if_pos (by decide), List.drop_zero, whole]
    have first : header.command[0]? = some ⟨.double, "motor_joint_acceleration"⟩ := rfl
    have start : PackedRecord.offset (memberWidths header.command) 0 = 0 := rfl
    rw [memberBits, first, Option.bind_eq_bind, Option.bind_some, start]
    rw [show CType.double.sizeof = 8 from rfl, own]
    exact Option.bind_some ..
  refine ⟨value, rawCodec_read () fits contents out, ?_⟩
  rw [acceleration, member, littleEndianValue_littleEndian bits.toNat_lt]
  simp

variable {kconfig : Kconfig} {stateCodec : StateCodec} {stepperPosition : Int32}
  {client : ZenbeddedClient kconfig stateCodec (RawCodec.command (structSize header.command))}
  {before : TimedLoop kconfig Motion} {contents : Block UInt8 kconfig.maxCmdBufferSize}

/-- An acceleration that is delivered while the loop waits is integrated by the next cycle. -/
theorem exists_integrated (sizeEq : client.cmdPayloadSize = 8)
    (fits : client.cmdPayloadSize ≤ kconfig.maxCmdBufferSize)
    (sound : before.flow.cmd.Sound contents) (idle : before.flow.cmd.writer = .idle)
    (allCounted : before.flow.mustCount = false) (entered : before.entered = true)
    (waiting : before.flow.loop = .waiting)
    (unseen : before.flow.cmdAcceptedCount + 1 ≠ before.flow.lastCommandCount) (bits : UInt64)
    (out : CommandVal) (sensors : Sensors) (answers : StepperAnswers) :
    let motion : Motion := { (sense res sensors before.motion).2 with
      commandedAcceleration := .ofBits bits }
    ∃ delivery state count value after,
      acceleration value = some (.ofBits bits) ∧
      deliveredPayloads client.cmdPayloadSize delivery = [littleEndian 8 bits.toNat] ∧
      (timedLoop client (loopBody res) (Starts res stepperPosition)).Run before
        (delivery ++ [.look sensors state count, .readCommand out (true, value),
          .drive answers (setStepperAngularVel res motion.travel answers (integrate motion))])
        after ∧
      after.entered = true ∧ after.flow.loop = .waiting ∧
      after.flow.cmdAcceptedCount = after.flow.lastCommandCount := by
  intro motion
  have decodes : ∀ received : Block UInt8 kconfig.maxCmdBufferSize,
      received.bytes.take client.cmdPayloadSize = littleEndian 8 bits.toNat →
      ∃ value, (RawCodec.command (structSize header.command)).read client.cmdCtx received
        client.cmdPayloadSize out = some (true, value) ∧
        acceleration value = some (.ofBits bits) := by
    intro received taken
    rw [sizeEq] at taken fits ⊢
    exact exists_decoded fits taken out
  have commands : ∀ (value : CommandVal) (motion : Motion),
      acceleration value = some (.ofBits bits) → ∃ next, command value motion = some next :=
    fun value motion accelerationEq => ⟨_, command_eq_some_iff.mpr ⟨_, accelerationEq, rfl⟩⟩
  obtain ⟨delivery, state, count, value, next, after, accelerationEq, commandEq, brings, run,
      rest⟩ :=
    @exists_driven _ _ _ client (loopBody res) (Starts res stepperPosition) before contents sound
      idle allCounted fits entered waiting unseen (littleEndian 8 bits.toNat)
      ((length_littleEndian 8 _).trans sizeEq.symm) out _ decodes sensors answers commands
  have nextEq : next = motion := by
    obtain ⟨_, readEq, rfl⟩ := command_eq_some_iff.mp commandEq
    cases accelerationEq.symm.trans readEq
    rfl
  rw [nextEq] at run
  exact ⟨delivery, state, count, value, after, accelerationEq, brings, run, rest⟩

end Tier2

end Zenbedded
