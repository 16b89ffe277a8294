import Zenbedded.PendulumTier2

/-!
# Runs of the second firmware of the pendulum

The stepper stays in its travel whatever is commanded, it moves on received commands only, and an
acceleration that is not a number stops it for good.
-/

namespace Zenbedded

open ByteBlock ByteOrder Doubles

namespace Tier2

def CommandsNumber (value : CommandVal) : Prop :=
  ∀ commandedAcceleration, acceleration value = some commandedAcceleration →
    commandedAcceleration.isNaN = false

def Numeric (motion : Motion) : Prop :=
  motion.commandedAcceleration.isNaN = false ∧ motion.stepperAngularVelocity.isFinite = true

theorem zero_numeric : (0.0 : Float).isNaN = false ∧ (0.0 : Float).isFinite = true := by
  decide +kernel

theorem numeric_timeOut {motion : Motion} (numeric : Numeric motion) :
    Numeric (timeOut motion) := by
  unfold timeOut
  split
  · exact zero_numeric
  · exact numeric

variable (res : MicroStepRes)

theorem stays : (loopBody res).Stays CommandsNumber Numeric where
  sense _ _ numeric := numeric
  timeOut _ numeric := numeric_timeOut numeric
  command _ _ _ number numeric commands := by
    obtain ⟨_, accelerationEq, rfl⟩ := command_eq_some_iff.mp commands
    exact ⟨number _ accelerationEq, numeric.2⟩
  drive _ _ numeric := ⟨numeric.1, isFinite_integrate numeric.2 numeric.1⟩

/-- A velocity that is NaN stays so until a timeout. -/
theorem latches : (loopBody res).Latches fun motion : Motion =>
    motion.stepperAngularVelocity.isNaN = true where
  sense _ _ latched := latched
  command _ _ _ latched commands := by
    obtain ⟨_, -, rfl⟩ := command_eq_some_iff.mp commands
    exact latched
  drive _ _ latched := isNaN_integrate (.inl latched)

end Tier2

/-! ## A firmware that came up -/

namespace Tier2

abbrev DefaultClient :=
  ZenbeddedClient (Kconfig.default .tier2) (RawCodec.state (structSize header.state))
    (RawCodec.command (structSize header.command))

theorem exists_client :
    ∃ status, ∃ client : DefaultClient, ∃ afterTransport,
      (.construct : DefaultClient).init () .zero 100 () () (Block.filled _ 0)
          ⟨⟨true, true, true, true, []⟩, ⟨true, true, [], []⟩, ⟨true, true, [], []⟩⟩ =
        some (status, client, afterTransport) ∧
      client.initialized = true ∧ client.cmdPayloadSize = 8 := by
  have runs : ((.construct : DefaultClient).init () .zero 100 () () (Block.filled _ 0)
      ⟨⟨true, true, true, true, []⟩, ⟨true, true, [], []⟩, ⟨true, true, [], []⟩⟩).map
        (fun result => (result.2.1.initialized, result.2.1.cmdPayloadSize)) = some (true, 8) := by
    decide +kernel
  obtain ⟨⟨status, client, afterTransport⟩, initEq, facts⟩ := Option.map_eq_some_iff.mp runs
  obtain ⟨up, size⟩ := Prod.mk.inj facts
  exact ⟨status, client, afterTransport, initEq, up, size⟩

def sixteenth : MicroStepRes where
  value := 16
  admitted := by decide

def wholeTravel : Travel where
  minPosition := -1200
  maxPosition := 1200
  ordered := by decide

theorem around_zero : Travel.around sixteenth 0 = some wholeTravel := by
  have limit : stepperLimitMicrosteps sixteenth = 1200 := stepperLimitMicrosteps_eq sixteenth
  rw [Travel.around, dif_pos (by rw [limit]; decide)]
  simp only [limit]
  rfl

/-- The firmware at the beginning of its loop, and before. -/
def booted (client : DefaultClient) (entered : Bool) (lastCommandCount : UInt32) :
    TimedLoop (Kconfig.default .tier2) Motion where
  flow := ⟨⟨client.cmdBuffer, .idle, []⟩, false, client.cmdAcceptedCount, .waiting,
    lastCommandCount⟩
  entered := entered
  cyclesSinceCommand := 0
  motion := initialMotion sixteenth 0 wholeTravel 0

theorem starts_booted (client : DefaultClient) :
    (timedLoop client (loopBody sixteenth) (Starts sixteenth 0)).start
      (booted client false 0) :=
  ⟨rfl, rfl, rfl, wholeTravel, 0, around_zero, rfl⟩

theorem enter_booted (client : DefaultClient) :
    (timedLoop client (loopBody sixteenth) (Starts sixteenth 0)).step (booted client false 0)
      .enter (booted client true client.cmdAcceptedCount) :=
  ⟨rfl, rfl⟩

theorem sound_booted (client : DefaultClient) (lastCommandCount : UInt32) :
    (booted client true lastCommandCount).flow.cmd.Sound client.cmdBuffer.latest :=
  @BufferWorld.sound_of_start _ ⟨client.cmdBuffer, .idle, []⟩ rfl rfl

theorem exists_first_cycle {client : DefaultClient} (size : client.cmdPayloadSize = 8)
    (bits : UInt64) {calls : List StepperCall}
    (callsEq : setStepperAngularVel sixteenth wholeTravel ⟨0, some 0⟩
      (integrate { (sense sixteenth ⟨none, 0, 0, 0, 0⟩
        (initialMotion sixteenth 0 wholeTravel 0)).2 with
          commandedAcceleration := .ofBits bits }) = calls) :
    ∃ earlier value after,
      acceleration value = some (.ofBits bits) ∧
      (timedLoop client (loopBody sixteenth) (Starts sixteenth 0)).Run (booted client false 0)
        (earlier ++ [.readCommand (Block.filled _ 0) (true, value)] ++ [.drive ⟨0, some 0⟩ calls])
        after ∧
      after.entered = true ∧ after.flow.loop = .waiting ∧
      after.flow.cmdAcceptedCount = after.flow.lastCommandCount := by
  obtain ⟨delivery, state, count, value, after, accelerationEq, -, run, rest⟩ :=
    exists_integrated sixteenth size (by rw [size]; decide) (sound_booted client _) rfl rfl rfl rfl
      (next_ne_self client.cmdAcceptedCount) bits (Block.filled _ 0) ⟨none, 0, 0, 0, 0⟩
      ⟨0, some 0⟩
  have motionEq : (booted client true client.cmdAcceptedCount).motion =
      initialMotion sixteenth 0 wholeTravel 0 := rfl
  rw [motionEq] at run
  refine ⟨.enter :: (delivery ++ [.look ⟨none, 0, 0, 0, 0⟩ state count]), value, after,
    accelerationEq, ?_, rest⟩
  rw [← callsEq, List.append_assoc, List.cons_append, List.append_assoc]
  exact .cons (enter_booted client) run

theorem nan_calls :
    setStepperAngularVel sixteenth wholeTravel ⟨0, some 0⟩
      (integrate { (sense sixteenth ⟨none, 0, 0, 0, 0⟩
        (initialMotion sixteenth 0 wholeTravel 0)).2 with
          commandedAcceleration := .ofBits 0x7ff8000000000000 }) = [.stop] := by
  decide +kernel

theorem push_calls :
    setStepperAngularVel sixteenth wholeTravel ⟨0, some 0⟩
      (integrate { (sense sixteenth ⟨none, 0, 0, 0, 0⟩
        (initialMotion sixteenth 0 wholeTravel 0)).2 with
          commandedAcceleration := .ofBits 0x4059000000000000 }) =
      [.setMicrostepInterval 1963495, .moveTo 10] := by
  decide +kernel

end Tier2

/-! ## Every run -/

/-- Whatever is commanded, measured and answered: every target of the stepper is within three
eighths of a revolution of its start, no interval between micro steps is shorter than the stepper
or the greatest velocity allow, and the velocity never points further out when the published
angle is beyond the limit.  It is a number if all accelerations that were read are numbers. -/
theorem stepper_stays_in_travel {kconfig : Kconfig} {stateCodec : StateCodec}
    {client : ZenbeddedClient kconfig stateCodec
      (RawCodec.command (structSize Tier2.header.command))}
    {res : MicroStepRes} {stepperPosition : Int32} {start last : TimedLoop kconfig Tier2.Motion}
    {actions : List (LoopAction (Tier2.loopBody res))}
    (starts : (timedLoop client (Tier2.loopBody res) (Tier2.Starts res stepperPosition)).start
      start)
    (run : (timedLoop client (Tier2.loopBody res) (Tier2.Starts res stepperPosition)).Run start
      actions last) :
    ∀ front answers calls back, actions = front ++ .drive answers calls :: back →
      (∀ target, StepperCall.moveTo target ∈ calls →
        (target.toInt - stepperPosition.toInt).natAbs ≤ 75 * res.value.toNat) ∧
      (∀ intervalNs, StepperCall.setMicrostepInterval intervalNs ∈ calls →
        Tier2.kMinMicrostepIntervalNs ≤ intervalNs ∧
          Tier2.kStepIntervalForMaxVelNs res ≤ intervalNs ∧
          intervalNs ≤ kMaxMicrostepIntervalNs) ∧
      (∀ positive, StepperCall.run positive ∉ calls) ∧
      ∃ travel, ∃ world driven : TimedLoop kconfig Tier2.Motion, ∃ state : Tier2.StateVal,
        Tier2.Travel.around res stepperPosition = some travel ∧
        (timedLoop client (Tier2.loopBody res) (Tier2.Starts res stepperPosition)).Run start front
          world ∧
        (timedLoop client (Tier2.loopBody res) (Tier2.Starts res stepperPosition)).step world
          (.drive answers calls) driven ∧
        lastShown front = some state ∧
        let velocity := driven.motion.stepperAngularVelocity
        velocity = Tier2.integrate world.motion ∧
        calls = Tier2.setStepperAngularVel res travel answers velocity ∧
        ¬ velocity < -Tier2.kMaxAngularVelocity ∧ ¬ Tier2.kMaxAngularVelocity < velocity ∧
        (Tier2.kStepperAngleLimitRad ≤ state.motorJointPosition → ¬ 0.0 < velocity) ∧
        (state.motorJointPosition ≤ -Tier2.kStepperAngleLimitRad → ¬ velocity < 0.0) ∧
        ((∀ action ∈ front, ∀ value, action.reads = some value → Tier2.CommandsNumber value) →
          velocity.isFinite = true) := by
  intro front answers calls back split
  rw [split] at run
  obtain ⟨world, earlier, looked, drives, driven, steps, motionEq, -⟩ := drive_of_split run
  have callsEq : calls = Tier2.setStepperAngularVel res world.motion.travel answers
      (Tier2.integrate world.motion) := drives
  have velocityEq : driven.motion.stepperAngularVelocity = Tier2.integrate world.motion :=
    congrArg Tier2.Motion.stepperAngularVelocity motionEq
  obtain ⟨around, -⟩ := follows_of_run starts (Tier2.follows res stepperPosition) earlier
  have safe := Tier2.setStepperAngularVel_safe res world.motion.travel answers
    (Tier2.integrate world.motion)
  rw [← callsEq] at safe
  refine ⟨?targets, fun intervalNs called => safe _ called, fun positive called => safe _ called,
    ?velocity⟩
  case targets =>
    intro target called
    obtain ⟨least, most⟩ := safe _ called
    rw [Int32.le_iff_toInt_le] at least most
    have low := stepperPosition.le_toInt
    have high := stepperPosition.toInt_lt
    unfold Tier2.Travel.around at around
    split at around
    case isFalse => cases around
    case isTrue inside =>
      rw [← Option.some.inj around] at least most
      rw [Tier2.stepperLimitMicrosteps_eq] at inside
      simp only [Tier2.stepperLimitMicrosteps_eq] at least most
      rw [Int32.toInt_ofInt_of_le (by omega) (by omega)] at least most
      omega
  case velocity =>
    obtain ⟨notBelow, notAbove⟩ := Tier2.bounded_integrate world.motion
    obtain ⟨state, isShown⟩ := exists_shown_of_run starts earlier (by rw [looked]; decide)
    have angle := shown_of_run (Tier2.shows res) earlier state isShown
    obtain ⟨outward, inward⟩ := Tier2.integrate_at_limit world.motion
    refine ⟨_, world, driven, state, around, earlier, steps, isShown, ?_⟩
    intro velocity
    simp only [velocity, velocityEq]
    refine ⟨trivial, callsEq, notBelow, notAbove, ?_, ?_, fun numbers => ?_⟩
    · rw [← angle]
      exact outward
    · rw [← angle]
      exact inward
    · obtain ⟨-, -, -, _, _, -, motionEq⟩ := starts
      have numeric := stays_of_run (Tier2.stays res) earlier numbers
        (by rw [motionEq]; exact Tier2.zero_numeric)
      exact Tier2.isFinite_integrate numeric.2 numeric.1

theorem stepper_stays_in_travel_push :
    ∃ client : Tier2.DefaultClient, ∃ front last,
      let calls := [StepperCall.setMicrostepInterval 1963495, StepperCall.moveTo 10]
      (timedLoop client (Tier2.loopBody Tier2.sixteenth) (Tier2.Starts Tier2.sixteenth 0)).Run
        (Tier2.booted client false 0) (front ++ [.drive ⟨0, some 0⟩ calls]) last ∧
      ((10 : Int32).toInt - (0 : Int32).toInt).natAbs ≤ 75 * Tier2.sixteenth.value.toNat ∧
      ∃ travel, ∃ world driven : TimedLoop (Kconfig.default .tier2) Tier2.Motion,
        Tier2.Travel.around Tier2.sixteenth 0 = some travel ∧
        driven.motion.stepperAngularVelocity = Tier2.integrate world.motion ∧
        calls = Tier2.setStepperAngularVel Tier2.sixteenth travel ⟨0, some 0⟩
          driven.motion.stepperAngularVelocity ∧
        ¬ Tier2.kMaxAngularVelocity < driven.motion.stepperAngularVelocity := by
  obtain ⟨status, client, afterTransport, -, -, size⟩ := Tier2.exists_client
  obtain ⟨earlier, value, after, -, run, -⟩ :=
    Tier2.exists_first_cycle size 0x4059000000000000 Tier2.push_calls
  obtain ⟨targets, -, -, travel, world, driven, state, around, -, -, -, velocityEq, callsEq, -,
    notAbove, -⟩ := stepper_stays_in_travel (Tier2.starts_booted client) run _ _ _ [] rfl
  have moves : StepperCall.moveTo 10 ∈
      [StepperCall.setMicrostepInterval 1963495, StepperCall.moveTo 10] :=
    List.mem_cons_of_mem _ List.mem_cons_self
  exact ⟨client, _, after, run, targets 10 moves, travel, world, driven, around, velocityEq,
    callsEq, notAbove⟩

/-- The stepper moves on received commands only.  A cycle that does not stop it follows a command
out of a payload that was delivered before, and the counter of accepted commands moved at most 21
looks ago. -/
theorem only_received_commands_move_the_stepper {kconfig : Kconfig} {stateCodec : StateCodec}
    {UserData : Type} {self : UserData}
    {created client : ZenbeddedClient kconfig stateCodec
      (RawCodec.command (structSize Tier2.header.command))}
    {transport afterTransport : ZenohTransport kconfig RecvCb UserData} {controlFreq : UInt32}
    {stateParams : stateCodec.InitParams} {cmdLayoutScratch : Block UInt8 kconfig.maxCmdBufferSize}
    {outcome : ClientOutcome} {status : Int} (fresh : created.initialized = false)
    (initEq : created.init self transport controlFreq stateParams () cmdLayoutScratch outcome =
      some (status, client, afterTransport))
    (up : client.initialized = true) {res : MicroStepRes} {stepperPosition : Int32}
    {start last : TimedLoop kconfig Tier2.Motion}
    {actions : List (LoopAction (Tier2.loopBody res))}
    (starts : (timedLoop client (Tier2.loopBody res) (Tier2.Starts res stepperPosition)).start
      start)
    (run : (timedLoop client (Tier2.loopBody res) (Tier2.Starts res stepperPosition)).Run start
      actions last) :
    ∀ front answers calls back, actions = front ++ .drive answers calls :: back →
      calls ≠ [StepperCall.stop] →
      looksSinceCount front ≤ 21 ∧
        ∃ earlier out value later, front = earlier ++ .readCommand out (true, value) :: later ∧
          ∃ payload ∈ deliveredPayloads client.cmdPayloadSize earlier,
            Decodes client payload out (true, value) := by
  intro front answers calls back split moves
  obtain ⟨_, _, _, _, _, _, _, _, _, _, fits, _, _, zero⟩ :=
    created.init_up self transport controlFreq outcome fresh initEq up
  rw [split] at run
  obtain ⟨world, earlier, -, callsEq, -⟩ := drive_of_split run
  have active : ¬ Tier2.Resting world.motion := fun resting =>
    moves (callsEq.trans (Tier2.drive_of_resting res answers resting))
  refine ⟨?_, ?_⟩
  · by_contra stale
    exact active ((timed_of_run starts (Tier2.rests res) earlier).rest (Nat.lt_of_not_le stale))
  · obtain ⟨-, resting | hasRead⟩ :=
      follows_of_run starts (Tier2.follows res stepperPosition) earlier
    · exact absurd resting active
    · obtain ⟨value, isRead⟩ := Option.ne_none_iff_exists'.mp hasRead
      obtain ⟨before, out, later, rfl, -⟩ := split_of_lastRead isRead
      exact ⟨before, out, value, later, rfl, read_of_split starts zero fits earlier⟩

theorem only_received_commands_move_the_stepper_push :
    ∃ client : Tier2.DefaultClient, ∃ front last,
      (timedLoop client (Tier2.loopBody Tier2.sixteenth) (Tier2.Starts Tier2.sixteenth 0)).Run
        (Tier2.booted client false 0)
        (front ++ [.drive ⟨0, some 0⟩
          [StepperCall.setMicrostepInterval 1963495, StepperCall.moveTo 10]]) last ∧
      looksSinceCount front ≤ 21 := by
  obtain ⟨status, client, afterTransport, initEq, up, size⟩ := Tier2.exists_client
  obtain ⟨earlier, value, after, -, run, -⟩ :=
    Tier2.exists_first_cycle size 0x4059000000000000 Tier2.push_calls
  obtain ⟨recent, -⟩ := only_received_commands_move_the_stepper rfl initEq up
    (Tier2.starts_booted client) run _ _ _ [] rfl (by decide)
  exact ⟨client, _, after, run, recent⟩

/-- An acceleration that is NaN stops the stepper for good: once a cycle has integrated it, every
later cycle stops the stepper as well, whatever is commanded, until no command was read for 20
cycles. -/
theorem nan_acceleration_stops_the_stepper {kconfig : Kconfig} {stateCodec : StateCodec}
    {client : ZenbeddedClient kconfig stateCodec
      (RawCodec.command (structSize Tier2.header.command))}
    {res : MicroStepRes} {stepperPosition : Int32} {start last : TimedLoop kconfig Tier2.Motion}
    {actions : List (LoopAction (Tier2.loopBody res))}
    (starts : (timedLoop client (Tier2.loopBody res) (Tier2.Starts res stepperPosition)).start
      start)
    (run : (timedLoop client (Tier2.loopBody res) (Tier2.Starts res stepperPosition)).Run start
      actions last) :
    ∀ front answers calls back, actions = front ++ .drive answers calls :: back →
      ∀ value acceleration, lastRead front = some value → looksSinceRead front ≤ 20 →
        Tier2.acceleration value = some acceleration → acceleration.isNaN = true →
        calls = [StepperCall.stop] ∧
        ∀ middle laterAnswers laterCalls rest,
          back = middle ++ .drive laterAnswers laterCalls :: rest →
          (∀ shorter, shorter <+: middle →
            looksSinceRead (front ++ .drive answers calls :: shorter) ≤ 20) →
          laterCalls = [StepperCall.stop] := by
  intro front answers calls back split value acceleration isRead few accelerationEq nan
  rw [split] at run
  obtain ⟨world, earlier, -, callsEq, driven, steps, motionEq, later⟩ := drive_of_split run
  have keeps := Tier2.keeps res
  obtain ⟨commanded, -⟩ := (kept_of_run starts keeps earlier).kept value isRead few
  have integrated : (Tier2.integrate world.motion).isNaN = true := by
    cases accelerationEq.symm.trans commanded
    exact Tier2.isNaN_integrate (.inr nan)
  have latched : driven.motion.stepperAngularVelocity.isNaN = true := by
    rw [motionEq]
    exact integrated
  refine ⟨callsEq.trans (Tier2.drive_of_isNaN res answers integrated), ?_⟩
  intro middle laterAnswers laterCalls rest backEq inForce
  rw [backEq] at later
  obtain ⟨next, between, -, laterEq, -⟩ := drive_of_split later
  have hasRead : lastRead (front ++ [.drive answers calls]) ≠ none := by
    rw [lastRead_concat, isRead]
    exact Option.some_ne_none value
  have few : ∀ shorter, shorter <+: middle →
      looksSinceRead (front ++ [.drive answers calls] ++ shorter) ≤ 20 := by
    intro shorter isPrefix
    rw [List.append_assoc]
    exact inForce shorter isPrefix
  have still := latched_of_run starts (Tier2.latches res) keeps (earlier.append (.single steps))
    between hasRead few latched
  exact laterEq.trans (Tier2.drive_of_isNaN res laterAnswers (Tier2.isNaN_integrate (.inl still)))

theorem nan_acceleration_stops_the_stepper_next :
    ∃ client : Tier2.DefaultClient, ∃ front state count calls last,
      (timedLoop client (Tier2.loopBody Tier2.sixteenth) (Tier2.Starts Tier2.sixteenth 0)).Run
        (Tier2.booted client false 0)
        (front ++ .drive ⟨0, some 0⟩ [StepperCall.stop] ::
          [.look ⟨none, 0, 0, 0, 0⟩ state count, .drive ⟨0, some 0⟩ calls]) last ∧
      calls = [StepperCall.stop] := by
  obtain ⟨status, client, afterTransport, -, -, size⟩ := Tier2.exists_client
  obtain ⟨earlier, value, after, accelerationEq, run, entered, waiting, seen⟩ :=
    Tier2.exists_first_cycle size 0x7ff8000000000000 Tier2.nan_calls
  obtain ⟨state, count, calls, last, idle⟩ :=
    @exists_idle_cycle _ _ _ client (Tier2.loopBody Tier2.sixteenth)
      (Tier2.Starts Tier2.sixteenth 0) after entered waiting seen ⟨none, 0, 0, 0, 0⟩ ⟨0, some 0⟩
  let front : List (LoopAction (Tier2.loopBody Tier2.sixteenth)) :=
    earlier ++ [.readCommand (Block.filled _ 0) (true, value)]
  have whole := run.append idle
  rw [List.append_assoc] at whole
  have isRead : lastRead front = some value := lastRead_concat ..
  have justRead : looksSinceRead front = 0 := looksSinceRead_concat ..
  obtain ⟨-, later⟩ := nan_acceleration_stops_the_stepper (Tier2.starts_booted client) whole front
    _ _ _ rfl value _ isRead (by omega) accelerationEq (by decide +kernel)
  refine ⟨client, front, state, count, calls, last, whole, ?_⟩
  refine later [.look ⟨none, 0, 0, 0, 0⟩ state count] ⟨0, some 0⟩ calls [] rfl ?_
  intro shorter isPrefix
  have folded : looksSinceRead (front ++ .drive ⟨0, some 0⟩ [StepperCall.stop] :: shorter) =
      shorter.foldl LoopAction.looksAfterRead 0 := by
    rw [looksSinceRead, List.foldl_append, ← looksSinceRead, justRead]
    rfl
  refine folded.le.trans ?_
  rcases List.prefix_cons_iff.mp isPrefix with rfl | ⟨rest, rfl, restPrefix⟩
  · exact Nat.zero_le 20
  · rw [List.prefix_nil.mp restPrefix]
    exact Nat.le_of_ble_eq_true rfl

/-- Whatever happened before: when the loop waits, no delivery is under way and the counter does
not run into the count that the loop saw last, an acceleration can be delivered, and the next
cycle integrates it. -/
theorem delivered_acceleration_is_integrated {kconfig : Kconfig} {stateCodec : StateCodec}
    {UserData : Type} {self : UserData}
    {created client : ZenbeddedClient kconfig stateCodec
      (RawCodec.command (structSize Tier2.header.command))}
    {transport afterTransport : ZenohTransport kconfig RecvCb UserData} {controlFreq : UInt32}
    {stateParams : stateCodec.InitParams} {cmdLayoutScratch : Block UInt8 kconfig.maxCmdBufferSize}
    {outcome : ClientOutcome} {status : Int} (fresh : created.initialized = false)
    (initEq : created.init self transport controlFreq stateParams () cmdLayoutScratch outcome =
      some (status, client, afterTransport))
    (up : client.initialized = true) {res : MicroStepRes} {stepperPosition : Int32}
    {start before : TimedLoop kconfig Tier2.Motion}
    {actions : List (LoopAction (Tier2.loopBody res))}
    (starts : (timedLoop client (Tier2.loopBody res) (Tier2.Starts res stepperPosition)).start
      start)
    (run : (timedLoop client (Tier2.loopBody res) (Tier2.Starts res stepperPosition)).Run start
      actions before)
    (entered : before.entered = true) (waiting : before.flow.loop = .waiting)
    (idle : before.flow.cmd.writer = .idle) (allCounted : before.flow.mustCount = false)
    (unseen : before.flow.cmdAcceptedCount + 1 ≠ before.flow.lastCommandCount) (bits : UInt64)
    (out : Tier2.CommandVal) (sensors : Tier2.Sensors) (answers : StepperAnswers) :
    let motion : Tier2.Motion := { (Tier2.sense res sensors before.motion).2 with
      commandedAcceleration := .ofBits bits }
    ∃ delivery state count value after,
      deliveredPayloads client.cmdPayloadSize delivery = [littleEndian 8 bits.toNat] ∧
      (timedLoop client (Tier2.loopBody res) (Tier2.Starts res stepperPosition)).Run before
        (delivery ++ [.look sensors state count, .readCommand out (true, value),
          .drive answers (Tier2.setStepperAngularVel res motion.travel answers
            (Tier2.integrate motion))]) after := by
  intro motion
  obtain ⟨_, _, _, _, _, _, _, _, size, _, fits, _, _, zero⟩ :=
    created.init_up self transport controlFreq outcome fresh initEq up
  have supplied := supplied_of_run starts zero fits run
  obtain ⟨delivery, state, count, value, after, -, brings, continued, -⟩ :=
    @Tier2.exists_integrated res _ _ stepperPosition client before _ size fits supplied.sound idle
      allCounted entered waiting unseen bits out sensors answers
  exact ⟨delivery, state, count, value, after, brings, continued⟩

theorem delivered_acceleration_is_integrated_push :
    ∃ client : Tier2.DefaultClient, ∃ delivery state count value, ∃ calls : List StepperCall,
      ∃ last,
      deliveredPayloads client.cmdPayloadSize delivery = [littleEndian 8 0x4059000000000000] ∧
      calls = [.setMicrostepInterval 1963495, .moveTo 10] ∧
      (timedLoop client (Tier2.loopBody Tier2.sixteenth) (Tier2.Starts Tier2.sixteenth 0)).Run
        (Tier2.booted client true client.cmdAcceptedCount)
        (delivery ++ [.look ⟨none, 0, 0, 0, 0⟩ state count,
          .readCommand (Block.filled _ 0) (true, value), .drive ⟨0, some 0⟩ calls]) last := by
  obtain ⟨status, client, afterTransport, initEq, up, -⟩ := Tier2.exists_client
  obtain ⟨delivery, state, count, value, after, brings, run⟩ :=
    delivered_acceleration_is_integrated rfl initEq up (Tier2.starts_booted client)
      (.single (Tier2.enter_booted client)) rfl rfl rfl rfl (next_ne_self client.cmdAcceptedCount)
      0x4059000000000000 (Block.filled _ 0) ⟨none, 0, 0, 0, 0⟩ ⟨0, some 0⟩
  exact ⟨client, delivery, state, count, value, _, after, brings, Tier2.push_calls, run⟩

end Zenbedded
