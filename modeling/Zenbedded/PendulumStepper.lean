import Zenbedded.DoubleArithmetic

/-!
# The stepper of the pendulum

How both firmwares command an angular velocity.  A velocity that cannot be stepped stops the
stepper; the other ones give it an interval and a direction, or an interval and a target.
-/

namespace Zenbedded

open Doubles

/-- `M_PI` -/
def mPi : Float := 3.14159265358979323846

def motorStepsPerRev : UInt32 := 200

/-- The `micro_step_res` of a stepper driver in the device tree. -/
structure MicroStepRes where
  value : UInt32
  admitted : value ∈ [1, 2, 4, 8, 16, 32, 64, 128, 256]

def MicroStepRes.microStepsPerRev (res : MicroStepRes) : Int32 :=
  (motorStepsPerRev * res.value).toInt32

def kMaxMicrostepIntervalNs : UInt64 := 1000000000

inductive StepperCall
  | stop
  | setMicrostepInterval (intervalNs : UInt64)
  | run (positive : Bool)
  | moveTo (position : Int32)
  deriving DecidableEq

/-- What the stepper driver answers while a velocity is commanded. -/
structure StepperAnswers where
  setMicrostepInterval : Int
  /-- What `stepper_ctrl_get_actual_position` stores, if it stores anything. -/
  actualPosition : Option Int32

def microstepsPerSec (res : MicroStepRes) (radsPerSec : Float) : Float :=
  radsPerSec.abs * ofInt res.microStepsPerRev.toInt / (2 * mPi)

def microstepIntervalNs (res : MicroStepRes) (kMinMicrostepIntervalNs : UInt64)
    (radsPerSec : Float) : Option Float :=
  if radsPerSec.isFinite = false ∨ (radsPerSec == 0.0) = true then
    none
  else
    let intervalNs := 1e9 / microstepsPerSec res radsPerSec
    if intervalNs.isFinite = false ∨ intervalNs < kMinMicrostepIntervalNs.toFloat ∨
        intervalNs > kMaxMicrostepIntervalNs.toFloat then
      none
    else
      some intervalNs

namespace Tier1

def kMinMicrostepIntervalNs : UInt64 := 20000

def setStepperAngularVel (res : MicroStepRes) (answers : StepperAnswers) (radsPerSec : Float) :
    List StepperCall :=
  match microstepIntervalNs res kMinMicrostepIntervalNs radsPerSec with
  | none => [.stop]
  | some intervalNs =>
      .setMicrostepInterval intervalNs.toUInt64 ::
        if answers.setMicrostepInterval ≠ 0 then [] else [.run (decide (radsPerSec > 0.0))]

end Tier1

namespace Tier2

def kControlPeriodSec : Float := 10 / 1000.0

def kMoveToProjectionPeriods : Float := 2.0

def kMaxAngularVelocity : Float := 7

def kMinMicrostepIntervalNs : UInt64 := 60000

def kStepIntervalForMaxVelNs (res : MicroStepRes) : UInt64 :=
  (1e9 * 2.0 * mPi / (kMaxAngularVelocity * ofInt res.microStepsPerRev.toInt)).toUInt64

/-- The travel of the stepper, `stepper_min_position` and `stepper_max_position`. -/
structure Travel where
  minPosition : Int32
  maxPosition : Int32
  ordered : minPosition.toInt ≤ maxPosition.toInt

def targetPosition (res : MicroStepRes) (travel : Travel) (actualPosition : Int32)
    (radsPerSec : Float) : Float :=
  let signedMicrostepsPerSec :=
    if radsPerSec > 0.0 then microstepsPerSec res radsPerSec
    else -microstepsPerSec res radsPerSec
  let projectedMicrosteps := signedMicrostepsPerSec * kControlPeriodSec * kMoveToProjectionPeriods
  clamp (ofInt actualPosition.toInt + projectedMicrosteps) (ofInt travel.minPosition.toInt)
    (ofInt travel.maxPosition.toInt)

def setStepperAngularVel (res : MicroStepRes) (travel : Travel) (answers : StepperAnswers)
    (radsPerSec : Float) : List StepperCall :=
  match microstepIntervalNs res kMinMicrostepIntervalNs radsPerSec with
  | none => [.stop]
  | some intervalNs =>
      let intervalNs := clamp intervalNs (kStepIntervalForMaxVelNs res).toFloat
        kMaxMicrostepIntervalNs.toFloat
      .setMicrostepInterval intervalNs.toUInt64 ::
        if answers.setMicrostepInterval ≠ 0 then []
        else [.moveTo (Int32.ofInt (lround
          (targetPosition res travel (answers.actualPosition.getD 0) radsPerSec)))]

end Tier2

/-! ## Stopping -/

theorem microstepIntervalNs_of_zero (res : MicroStepRes) (kMinMicrostepIntervalNs : UInt64)
    {radsPerSec : Float} (zero : (radsPerSec == 0.0) = true) :
    microstepIntervalNs res kMinMicrostepIntervalNs radsPerSec = none :=
  if_pos (.inr zero)

theorem microstepIntervalNs_of_isNaN (res : MicroStepRes) (kMinMicrostepIntervalNs : UInt64)
    {radsPerSec : Float} (nan : radsPerSec.isNaN = true) :
    microstepIntervalNs res kMinMicrostepIntervalNs radsPerSec = none := by
  refine if_pos (.inl ?_)
  rw [Bool.eq_false_iff]
  intro finite
  cases nan.symm.trans (isNaN_of_isFinite finite)

/-! ## Intervals -/

theorem toFloat_eq (number : UInt64) : number.toFloat = ofInt number.toNat :=
  rfl

section Intervals

variable {res : MicroStepRes} {kMinMicrostepIntervalNs : UInt64} {radsPerSec intervalNs : Float}

theorem microstepIntervalNs_some
    (steps : microstepIntervalNs res kMinMicrostepIntervalNs radsPerSec = some intervalNs) :
    intervalNs = 1e9 / microstepsPerSec res radsPerSec ∧ intervalNs.isFinite = true ∧
      ¬ intervalNs < kMinMicrostepIntervalNs.toFloat ∧
      ¬ intervalNs > kMaxMicrostepIntervalNs.toFloat := by
  unfold microstepIntervalNs at steps
  split at steps
  case isTrue => cases steps
  case isFalse =>
    dsimp only at steps
    split at steps
    case isTrue => cases steps
    case isFalse inRange =>
      cases steps
      obtain ⟨finite, rest⟩ := not_or.mp inRange
      obtain ⟨above, below⟩ := not_or.mp rest
      exact ⟨rfl, by simpa using finite, above, below⟩

theorem microstepsPerSec_number
    (steps : microstepIntervalNs res kMinMicrostepIntervalNs radsPerSec = some intervalNs) :
    (microstepsPerSec res radsPerSec).isNaN = false := by
  obtain ⟨rfl, finite, -, -⟩ := microstepIntervalNs_some steps
  rw [Bool.eq_false_iff]
  intro nan
  cases (isNaN_of_isFinite finite).symm.trans (isNaN_div_of_right 1e9 nan)

theorem interval_bounds (few : kMinMicrostepIntervalNs ≤ kMaxMicrostepIntervalNs)
    (steps : microstepIntervalNs res kMinMicrostepIntervalNs radsPerSec = some intervalNs) :
    kMinMicrostepIntervalNs ≤ intervalNs.toUInt64 ∧
      intervalNs.toUInt64 ≤ kMaxMicrostepIntervalNs := by
  obtain ⟨-, finite, above, below⟩ := microstepIntervalNs_some steps
  rw [toFloat_eq] at above below
  simp only [UInt64.le_iff_toNat_le] at few ⊢
  exact toUInt64_bounds finite few (by decide) above below

end Intervals

namespace Tier2

theorem kStepIntervalForMaxVelNs_le (res : MicroStepRes) :
    kStepIntervalForMaxVelNs res ≤ kMaxMicrostepIntervalNs := by
  have each : [1, 2, 4, 8, 16, 32, 64, 128, 256].all (fun value =>
      (1e9 * 2.0 * mPi / (kMaxAngularVelocity *
        ofInt (motorStepsPerRev * value).toInt32.toInt)).toUInt64 ≤ kMaxMicrostepIntervalNs) =
      true := by
    decide +kernel
  exact of_decide_eq_true (List.all_eq_true.mp each res.value res.admitted)

variable {res : MicroStepRes} {travel : Travel} {answers : StepperAnswers}
  {radsPerSec intervalNs : Float}

theorem ofInt_position (position : Int32) :
    (ofInt position.toInt).isFinite = true ∧
      units (ofInt position.toInt) = position.toInt * one := by
  apply units_ofInt
  have low := position.le_toInt
  have high := position.toInt_lt
  omega

/-- Every target is inside the travel. -/
theorem lround_targetPosition (travel : Travel) (actualPosition : Int32)
    (steps : microstepIntervalNs res kMinMicrostepIntervalNs radsPerSec = some intervalNs) :
    travel.minPosition.toInt ≤ lround (targetPosition res travel actualPosition radsPerSec) ∧
      lround (targetPosition res travel actualPosition radsPerSec) ≤ travel.maxPosition.toInt := by
  have number := microstepsPerSec_number steps
  have signed : (if radsPerSec > 0.0 then microstepsPerSec res radsPerSec
      else -microstepsPerSec res radsPerSec).isNaN = false := by
    split
    · exact number
    · rw [isNaN_neg]
      exact number
  have period := isNaN_mul signed (show kControlPeriodSec.isFinite = true by decide +kernel)
    (by decide +kernel)
  have projected := isNaN_mul period
    (show kMoveToProjectionPeriods.isFinite = true by decide +kernel) (by decide +kernel)
  obtain ⟨finite, -⟩ := ofInt_position actualPosition
  obtain ⟨finiteMin, unitsMin⟩ := ofInt_position travel.minPosition
  obtain ⟨finiteMax, unitsMax⟩ := ofInt_position travel.maxPosition
  have ordered : units (ofInt travel.minPosition.toInt) ≤ units (ofInt travel.maxPosition.toInt) :=
    by
      rw [unitsMin, unitsMax]
      exact mul_le_mul_of_nonneg_right travel.ordered (by positivity)
  have inside := units_clamp (isNaN_add finite projected) (isNaN_of_isFinite finiteMin)
    (isNaN_of_isFinite finiteMax) ordered
  rw [unitsMin, unitsMax] at inside
  exact lround_bounds inside.1 inside.2

/-- What a firmware may ask of the stepper: neither more than 7 rad/s nor more than the stepper
can do, and no target outside the travel. -/
def Safe (res : MicroStepRes) (travel : Travel) : StepperCall → Prop
  | .stop => True
  | .setMicrostepInterval intervalNs =>
      kMinMicrostepIntervalNs ≤ intervalNs ∧ kStepIntervalForMaxVelNs res ≤ intervalNs ∧
        intervalNs ≤ kMaxMicrostepIntervalNs
  | .run _ => False
  | .moveTo position => travel.minPosition ≤ position ∧ position ≤ travel.maxPosition

theorem isFinite_toFloat {number : UInt64} (few : number ≤ kMaxMicrostepIntervalNs) :
    number.toFloat.isFinite = true := by
  rw [UInt64.le_iff_toNat_le] at few
  have bound : kMaxMicrostepIntervalNs.toNat = 1000000000 := rfl
  exact (units_ofInt (by omega)).1

theorem not_toFloat_lt {less more : UInt64} (ordered : less ≤ more)
    (few : more ≤ kMaxMicrostepIntervalNs) : ¬ more.toFloat < less.toFloat := by
  rw [UInt64.le_iff_toNat_le] at ordered few
  have bound : kMaxMicrostepIntervalNs.toNat = 1000000000 := rfl
  obtain ⟨-, unitsLess⟩ := @units_ofInt less.toNat (by omega)
  obtain ⟨-, unitsMore⟩ := @units_ofInt more.toNat (by omega)
  intro below
  have units := (lt_iff.mp below).2.2
  rw [toFloat_eq, toFloat_eq, unitsLess, unitsMore] at units
  have scaled : (less.toNat : Int) * one ≤ more.toNat * one :=
    mul_le_mul_of_nonneg_right (by exact_mod_cast ordered) (by positivity)
  omega

theorem clampedInterval_bounds
    (steps : microstepIntervalNs res kMinMicrostepIntervalNs radsPerSec = some intervalNs) :
    Safe res travel (.setMicrostepInterval (clamp intervalNs
      (kStepIntervalForMaxVelNs res).toFloat kMaxMicrostepIntervalNs.toFloat).toUInt64) := by
  obtain ⟨-, finite, above, -⟩ := microstepIntervalNs_some steps
  have few := kStepIntervalForMaxVelNs_le res
  have finiteClamped := isFinite_clamp (isNaN_of_isFinite finite) (isFinite_toFloat few)
    (isFinite_toFloat (UInt64.le_refl _))
  have ordered := not_toFloat_lt few (UInt64.le_refl _)
  have fastest := not_clamp_lt intervalNs ordered
  have slowest := not_lt_clamp intervalNs ordered
  have possible := not_clamp_lt_of (kStepIntervalForMaxVelNs res).toFloat above
    (not_toFloat_lt (show kMinMicrostepIntervalNs ≤ kMaxMicrostepIntervalNs by decide)
      (UInt64.le_refl _))
  simp only [Safe, UInt64.le_iff_toNat_le] at few ⊢
  have least := toUInt64_bounds finiteClamped (show 60000 ≤ 1000000000 by decide) (by decide)
    possible slowest
  have step := toUInt64_bounds finiteClamped few (by decide) fastest slowest
  exact ⟨least.1, step⟩

theorem setStepperAngularVel_safe (res : MicroStepRes) (travel : Travel)
    (answers : StepperAnswers) (radsPerSec : Float) :
    ∀ call ∈ setStepperAngularVel res travel answers radsPerSec, Safe res travel call := by
  intro call called
  unfold setStepperAngularVel at called
  split at called
  case h_1 =>
    rw [List.mem_singleton.mp called]
    trivial
  case h_2 intervalNs steps =>
    rcases List.mem_cons.mp called with rfl | called
    · exact clampedInterval_bounds steps
    · split at called
      case isTrue => cases called
      case isFalse =>
        obtain ⟨least, most⟩ := lround_targetPosition travel
          (answers.actualPosition.getD 0) steps
        rw [List.mem_singleton.mp called]
        have low := travel.minPosition.le_toInt
        have high := travel.maxPosition.toInt_lt
        have toInt : (Int32.ofInt (lround (targetPosition res travel
            (answers.actualPosition.getD 0) radsPerSec))).toInt =
            lround (targetPosition res travel (answers.actualPosition.getD 0) radsPerSec) :=
          Int32.toInt_ofInt_of_le (by omega) (by omega)
        simp only [Safe, Int32.le_iff_toInt_le, toInt]
        exact ⟨least, most⟩

end Tier2

end Zenbedded
