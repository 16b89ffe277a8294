import Zenbedded.CommandTimeout

/-!
# How long a command lasts

A command is in force for 20 cycles after it was read.  Without further commands the loop rests
from the 22nd look at the counter on.
-/

namespace Zenbedded

variable {kconfig : Kconfig} {stateCodec : StateCodec} {commandCodec : CommandCodec}

/-! ## When a command times out -/

section Timeout

variable {client : ZenbeddedClient kconfig stateCodec commandCodec}
  {body : LoopBody commandCodec.Value} {resting : body.Motion → Prop}

/-- A condition that a timeout establishes and that lasts until the next command. -/
structure LoopBody.Rests {Value : Type} (body : LoopBody Value) (resting : body.Motion → Prop) :
    Prop where
  timeOut : ∀ motion, resting (body.timeOut motion)
  sense : ∀ sensors motion, resting motion → resting (body.sense sensors motion).2
  drive : ∀ answers motion, resting motion → resting (body.drive answers motion).2

/-- The timeout told by the looks since the counter moved. -/
structure Timed (resting : body.Motion → Prop) (looks : Nat)
    (world : TimedLoop kconfig body.Motion) : Prop where
  within : world.cyclesSinceCommand ≤ kCommandTimeoutCycles
  seen : 0 < looks → world.flow.lastCommandCount = world.flow.cmdAcceptedCount
  counted : min looks 21 ≤ world.cyclesSinceCommand.toNat + 1
  idle : 2 ≤ looks → world.flow.loop ≠ .reading
  rest : 22 ≤ looks → resting world.motion

variable {looks : Nat} {before after : TimedLoop kconfig body.Motion}

/-- A delivery is no concern of the loop until it is counted. -/
theorem frame_of_delivers {action : FlowAction commandCodec.Value} {flow next : CommandFlow kconfig}
    (delivers : action.delivers) (steps : flow.Step client action next) :
    next.loop = flow.loop ∧ next.lastCommandCount = flow.lastCommandCount ∧
      (action ≠ .count → next.cmdAcceptedCount = flow.cmdAcceptedCount) := by
  cases action with
  | deliver payload =>
      obtain ⟨-, -, delivered⟩ := steps
      split at delivered
      · rw [delivered]; exact ⟨rfl, rfl, fun _ => rfl⟩
      · obtain ⟨cmd, -, rfl⟩ := delivered
        exact ⟨rfl, rfl, fun _ => rfl⟩
  | copyByte offset =>
      obtain ⟨cmd, -, rfl⟩ := steps
      exact ⟨rfl, rfl, fun _ => rfl⟩
  | commit =>
      obtain ⟨cmd, -, rfl⟩ := steps
      exact ⟨rfl, rfl, fun _ => rfl⟩
  | count =>
      obtain ⟨-, rfl⟩ := steps
      exact ⟨rfl, rfl, fun different => absurd rfl different⟩
  | observe count => cases delivers
  | readCommand out answer => cases delivers
  | finish => cases delivers

theorem Timed.transport (timed : Timed resting looks before)
    {action : FlowAction commandCodec.Value}
    (steps : before.Step client body (.transport action) after) :
    Timed resting ((LoopAction.transport action : LoopAction body).looksAfterCount looks)
      after := by
  obtain ⟨delivers, flow, flowSteps, rfl⟩ := steps
  obtain ⟨loop, seen, accepted⟩ := frame_of_delivers delivers flowSteps
  by_cases counts : action = .count
  · rw [counts]
    exact ⟨timed.within, by simp [LoopAction.looksAfterCount], by simp [LoopAction.looksAfterCount],
      by simp [LoopAction.looksAfterCount], by simp [LoopAction.looksAfterCount]⟩
  · have same : (LoopAction.transport action : LoopAction body).looksAfterCount looks = looks := by
      cases action with
      | count => exact absurd rfl counts
      | _ => rfl
    rw [same]
    refine ⟨timed.within, fun looked => ?_, timed.counted, fun looked => ?_, timed.rest⟩
    · rw [seen, accepted counts]
      exact timed.seen looked
    · rw [loop]
      exact timed.idle looked

theorem Timed.look (rests : body.Rests resting) (timed : Timed resting looks before)
    {sensors : body.Sensors} {state : body.State} {count : UInt32}
    (steps : before.Step client body (.look sensors state count) after) :
    Timed resting (looks + 1) after := by
  obtain ⟨-, flow, motion, ⟨waiting, countEq, flowEq⟩, senses, afterEq⟩ := steps
  have flowSeen : flow.lastCommandCount = flow.cmdAcceptedCount := by
    rw [flowEq]
    split
    case isTrue same => exact same.symm.trans countEq
    case isFalse => exact countEq
  have motionRest : 22 ≤ looks → resting motion := fun looked => by
    have sensed := rests.sense sensors before.motion (timed.rest looked)
    rwa [senses] at sensed
  have counted := timed.counted
  split at afterEq
  case isTrue moved =>
    -- The counter moved since the last look, so that this look is the first one.
    have first : looks = 0 := by
      by_contra looked
      exact moved (countEq.trans (timed.seen (Nat.pos_of_ne_zero looked)).symm)
    subst first
    rw [afterEq]
    exact ⟨show (0 : UInt32) ≤ kCommandTimeoutCycles by decide, fun _ => flowSeen,
      show min (0 + 1) 21 ≤ (0 : UInt32).toNat + 1 by decide, by simp, by simp⟩
  case isFalse still =>
    have loop : flow.loop = .done := by
      rw [flowEq, if_pos (not_not.mp still)]
    split at afterEq
    case isTrue early =>
      have bound : before.cyclesSinceCommand.toNat < 20 := UInt32.lt_iff_toNat_lt.mp early
      have toNat : (before.cyclesSinceCommand + 1).toNat =
          before.cyclesSinceCommand.toNat + 1 := by
        rw [UInt32.toNat_add, UInt32.toNat_one]
        omega
      rw [afterEq]
      refine ⟨UInt32.le_iff_toNat_le.mpr ?_, fun _ => flowSeen, ?_, ?_, fun looked => ?_⟩
      · rw [toNat]
        exact bound
      · rw [toNat]
        omega
      · simp [loop]
      · omega
    case isFalse late =>
      rw [afterEq]
      have bound : 20 ≤ before.cyclesSinceCommand.toNat :=
        Nat.le_of_not_lt fun less => late (UInt32.lt_iff_toNat_lt.mpr less)
      refine ⟨timed.within, fun _ => flowSeen, ?_, ?_, fun _ => rests.timeOut motion⟩
      · simp only
        omega
      · simp [loop]

theorem Timed.step (rests : body.Rests resting) (timed : Timed resting looks before)
    {action : LoopAction body} (steps : before.Step client body action after) :
    Timed resting (action.looksAfterCount looks) after := by
  cases action with
  | transport action => exact timed.transport steps
  | enter =>
      obtain ⟨-, rfl⟩ := steps
      exact ⟨timed.within, fun _ => rfl, timed.counted, timed.idle, timed.rest⟩
  | look sensors state count => exact timed.look rests steps
  | readCommand out answer =>
      obtain ⟨flow, motion, ⟨reading, -, flowEq⟩, -, rfl⟩ := steps
      have few : looks < 2 := by
        by_contra looked
        exact timed.idle (by omega) reading
      refine ⟨timed.within, fun looked => ?_, timed.counted, by simp [flowEq],
        fun looked => ?_⟩
      · simp only [flowEq]
        exact timed.seen looked
      · simp only [LoopAction.looksAfterCount] at looked
        omega
  | drive answers calls =>
      obtain ⟨flow, motion, ⟨-, flowEq⟩, drives, rfl⟩ := steps
      refine ⟨timed.within, fun looked => ?_, timed.counted, by simp [flowEq],
        fun looked => ?_⟩
      · simp only [flowEq]
        exact timed.seen looked
      · have driven := rests.drive answers before.motion (timed.rest looked)
        rwa [drives] at driven

/-! ## How long a command stays -/

/-- What a command makes of the motion, until the next one or a timeout. -/
structure LoopBody.Keeps {Value : Type} (body : LoopBody Value)
    (holds : Value → body.Motion → Prop) : Prop where
  command : ∀ value motion next, body.command value motion = some next → holds value next
  sense : ∀ value sensors motion, holds value motion → holds value (body.sense sensors motion).2
  drive : ∀ value answers motion, holds value motion → holds value (body.drive answers motion).2

/-- The last command is in force while the loop has looked at most 20 times since. -/
structure Kept (holds : commandCodec.Value → body.Motion → Prop)
    (read : Option commandCodec.Value) (looks : Nat) (world : TimedLoop kconfig body.Motion) :
    Prop where
  reading : world.flow.loop = .reading → world.cyclesSinceCommand = 0
  kept : ∀ value, read = some value → looks ≤ 20 →
    holds value world.motion ∧ world.cyclesSinceCommand.toNat ≤ looks

variable {holds : commandCodec.Value → body.Motion → Prop} {read : Option commandCodec.Value}

theorem Kept.look (keeps : body.Keeps holds) (kept : Kept holds read looks before)
    {sensors : body.Sensors} {state : body.State} {count : UInt32}
    (steps : before.Step client body (.look sensors state count) after) :
    Kept holds read (looks + 1) after := by
  obtain ⟨-, flow, motion, ⟨waiting, countEq, flowEq⟩, senses, afterEq⟩ := steps
  have sensed {value : commandCodec.Value} (isRead : read = some value) (few : looks + 1 ≤ 20) :
      holds value motion ∧ before.cyclesSinceCommand.toNat ≤ looks := by
    obtain ⟨held, cycles⟩ := kept.kept value isRead (by omega)
    have sensed := keeps.sense value sensors before.motion held
    rw [senses] at sensed
    exact ⟨sensed, cycles⟩
  split at afterEq
  case isTrue moved =>
    rw [afterEq]
    exact ⟨fun _ => rfl, fun value isRead few => ⟨(sensed isRead few).1, Nat.zero_le _⟩⟩
  case isFalse still =>
    have loop : flow.loop ≠ .reading := by
      rw [flowEq, if_pos (not_not.mp still)]
      simp
    split at afterEq
    case isTrue early =>
      rw [afterEq]
      refine ⟨fun reading => absurd reading loop, fun value isRead few => ?_⟩
      obtain ⟨held, cycles⟩ := sensed isRead few
      refine ⟨held, ?_⟩
      change (before.cyclesSinceCommand + 1).toNat ≤ looks + 1
      rw [UInt32.toNat_add, UInt32.toNat_one]
      omega
    case isFalse late =>
      rw [afterEq]
      refine ⟨fun reading => absurd reading loop, fun value isRead few => ?_⟩
      have bound : 20 ≤ before.cyclesSinceCommand.toNat :=
        Nat.le_of_not_lt fun less => late (UInt32.lt_iff_toNat_lt.mpr less)
      obtain ⟨-, cycles⟩ := sensed isRead few
      omega

theorem Kept.step (keeps : body.Keeps holds) (kept : Kept holds read looks before)
    {action : LoopAction body} (steps : before.Step client body action after) :
    Kept holds (action.reads.or read) (action.looksAfterRead looks) after := by
  cases action with
  | transport action =>
      obtain ⟨delivers, flow, flowSteps, rfl⟩ := steps
      obtain ⟨loop, -, -⟩ := frame_of_delivers delivers flowSteps
      exact ⟨fun reading => kept.reading (loop.symm.trans reading), kept.kept⟩
  | enter =>
      obtain ⟨-, rfl⟩ := steps
      exact ⟨kept.reading, kept.kept⟩
  | look sensors state count => exact kept.look keeps steps
  | readCommand out answer =>
      obtain ⟨flow, motion, ⟨reading, -, flowEq⟩, commands, rfl⟩ := steps
      have zero := kept.reading reading
      have done : flow.loop ≠ .reading := by simp [flowEq]
      obtain ⟨accepted, value⟩ := answer
      cases accepted with
      | true =>
          refine ⟨fun isReading => absurd isReading done, fun other isRead _ => ?_⟩
          cases isRead
          exact ⟨keeps.command value before.motion motion commands, by simp [zero]⟩
      | false =>
          cases commands
          exact ⟨fun isReading => absurd isReading done, kept.kept⟩
  | drive answers calls =>
      obtain ⟨flow, motion, ⟨-, flowEq⟩, drives, rfl⟩ := steps
      refine ⟨fun isReading => by simp [flowEq] at isReading, fun value isRead few => ?_⟩
      obtain ⟨held, cycles⟩ := kept.kept value isRead few
      have driven := keeps.drive value answers before.motion held
      rw [drives] at driven
      exact ⟨driven, cycles⟩

end Timeout

end Zenbedded
