import Zenbedded.PendulumTier1

/-!
# Runs of the first firmware of the pendulum

The stepper obeys the commands that were received, in time, and nothing else.
-/

namespace Zenbedded

open ByteBlock ByteOrder Doubles

/-! ## A firmware that came up -/

/-- A command for one joint, at a velocity of 1 rad/s. -/
def slowTurn : JointCommand :=
  ⟨⟨5, 6⟩, (CString.ofString "base_link").bytes, Tier1.jointNames.names.map CString.bytes,
    (CString.ofString "velocity").bytes, [0x3ff0000000000000, 0]⟩

theorem exists_slowTurn :
    let created : ZenbeddedClient (Kconfig.default .tier1) JointStateCodec JointCommandCodec :=
      .construct
    ∃ status client afterTransport,
      created.init () .zero 50 Tier1.stateParams Tier1.cmdParams (Block.filled _ 0)
          ⟨⟨true, true, true, true, []⟩, ⟨true, true, [], []⟩, ⟨true, true, [], []⟩⟩ =
        some (status, client, afterTransport) ∧
      client.initialized = true ∧ client.cmdAcceptedCount = 0 ∧
      (slowTurn.serialize .little).length = client.cmdPayloadSize := by
  intro created
  have runs : (created.init () .zero 50 Tier1.stateParams Tier1.cmdParams (Block.filled _ 0)
      ⟨⟨true, true, true, true, []⟩, ⟨true, true, [], []⟩, ⟨true, true, [], []⟩⟩).map
        (fun result => (result.2.1.initialized, result.2.1.cmdAcceptedCount,
          result.2.1.cmdPayloadSize)) =
      some (true, 0, (slowTurn.serialize .little).length) := by
    decide +kernel
  obtain ⟨⟨status, client, afterTransport⟩, initEq, facts⟩ := Option.map_eq_some_iff.mp runs
  simp only [Prod.mk.injEq] at facts
  obtain ⟨up, zero, size⟩ := facts
  exact ⟨status, client, afterTransport, initEq, up, zero, size.symm⟩

/-- The firmware before its loop. -/
def Tier1.atBoot (client : ZenbeddedClient (Kconfig.default .tier1) JointStateCodec
    JointCommandCodec) (res : MicroStepRes) : TimedLoop (Kconfig.default .tier1) Tier1.Motion where
  flow := ⟨⟨client.cmdBuffer, .idle, []⟩, false, client.cmdAcceptedCount, .waiting, 0⟩
  entered := false
  cyclesSinceCommand := 0
  motion := Tier1.initialMotion res 0 0

section AtBoot

variable {client : ZenbeddedClient (Kconfig.default .tier1) JointStateCodec JointCommandCodec}
  (res : MicroStepRes)

theorem starts_atBoot :
    (timedLoop client (Tier1.loopBody res) (Tier1.Starts res)).start
      (Tier1.atBoot client res) :=
  ⟨rfl, rfl, rfl, 0, 0, rfl⟩

theorem enter_atBoot :
    (timedLoop client (Tier1.loopBody res) (Tier1.Starts res)).step (Tier1.atBoot client res)
      .enter { Tier1.atBoot client res with
        entered := true
        flow := { (Tier1.atBoot client res).flow with
          lastCommandCount := client.cmdAcceptedCount } } :=
  ⟨rfl, rfl⟩

end AtBoot

/-! ## Every run -/

/-- The stepper obeys the commands that were read, and no others.  While a command was read at
most 20 looks ago, each cycle commands its velocity.  A cycle that does not stop the stepper
commands the velocity that was read last, out of a payload that was delivered before, and the
counter of accepted commands moved at most 21 looks ago. -/
theorem stepper_obeys_received_commands {kconfig : Kconfig} {UserData : Type} {self : UserData}
    {created client : ZenbeddedClient kconfig JointStateCodec JointCommandCodec}
    {transport afterTransport : ZenohTransport kconfig RecvCb UserData} {controlFreq : UInt32}
    {stateParams : JointStateParams} {cmdParams : JointCommandParams}
    {cmdLayoutScratch : Block UInt8 kconfig.maxCmdBufferSize} {outcome : ClientOutcome}
    {status : Int} (fresh : created.initialized = false)
    (initEq : created.init self transport controlFreq stateParams cmdParams cmdLayoutScratch
      outcome = some (status, client, afterTransport))
    (up : client.initialized = true) {res : MicroStepRes}
    {start last : TimedLoop kconfig Tier1.Motion}
    {actions : List (LoopAction (Tier1.loopBody res))}
    (starts : (timedLoop client (Tier1.loopBody res) (Tier1.Starts res)).start start)
    (run : (timedLoop client (Tier1.loopBody res) (Tier1.Starts res)).Run start actions last) :
    ∀ front answers calls back, actions = front ++ .drive answers calls :: back →
      (∀ call ∈ calls, Tier1.Safe call) ∧
      (∀ value, lastRead front = some value → looksSinceRead front ≤ 20 →
        ∃ velocity rest, value.values = some (velocity :: rest) ∧
          calls = Tier1.setStepperAngularVel res answers (.ofBits velocity)) ∧
      (calls ≠ [.stop] → looksSinceCount front ≤ 21 ∧
        ∃ earlier out value later velocity rest,
          front = earlier ++ .readCommand out (true, value) :: later ∧
          (∀ action ∈ later, action.reads = none) ∧
          (∃ payload ∈ deliveredPayloads client.cmdPayloadSize earlier,
            Decodes client payload out (true, value)) ∧
          value.values = some (velocity :: rest) ∧
          calls = Tier1.setStepperAngularVel res answers (.ofBits velocity)) := by
  intro front answers calls back split
  obtain ⟨_, _, _, _, _, _, _, _, _, _, fits, _, _, zero⟩ :=
    created.init_up self transport controlFreq outcome fresh initEq up
  rw [split] at run
  obtain ⟨world, earlier, -, callsEq, -⟩ := drive_of_split run
  have drives : calls =
      Tier1.setStepperAngularVel res answers world.motion.stepperAngularVelocity := callsEq
  refine ⟨?safe, ?inForce, ?onlyRead⟩
  case safe =>
    rw [drives]
    exact Tier1.setStepperAngularVel_safe res answers _
  case inForce =>
    intro value isRead few
    obtain ⟨⟨velocity, rest, valuesEq, commanded⟩, -⟩ :=
      (kept_of_run starts (Tier1.keeps res) earlier).kept value isRead few
    exact ⟨velocity, rest, valuesEq, by rw [drives, commanded]⟩
  case onlyRead =>
    intro moves
    have active : ¬ Tier1.Resting world.motion := fun resting =>
      moves (drives.trans (Tier1.setStepperAngularVel_of_resting res answers resting))
    refine ⟨?_, ?_⟩
    · by_contra stale
      exact active ((timed_of_run starts (Tier1.rests res) earlier).rest (by omega))
    · obtain resting | ⟨value, isRead, velocity, rest, valuesEq, commanded⟩ :=
        follows_of_run starts (Tier1.follows res) earlier
      · exact absurd resting active
      · obtain ⟨before, out, later, rfl, silent⟩ := split_of_lastRead isRead
        exact ⟨before, out, value, later, velocity, rest, rfl, silent,
          read_of_split starts zero fits earlier, valuesEq, by rw [drives, commanded]⟩

theorem stepper_obeys_received_commands_slow :
    let res : MicroStepRes := ⟨16, by decide⟩
    ∃ client, ∃ last, ∃ actions : List (LoopAction (Tier1.loopBody res)), ∃ front,
      (timedLoop client (Tier1.loopBody res) (Tier1.Starts res)).Run (Tier1.atBoot client res)
        actions last ∧
      actions = front ++ [.drive ⟨0, some 0⟩ [.setMicrostepInterval 1963495, .run true]] ∧
      looksSinceCount front ≤ 21 := by
  intro res
  obtain ⟨status, client, afterTransport, initEq, up, zero, size⟩ := exists_slowTurn
  obtain ⟨layoutEq, sizeEq, fits⟩ := ZenbeddedClient.init_command_layout rfl initEq up
  obtain ⟨delivery, state, count, value, after, -, run⟩ :=
    @Tier1.exists_driven_command _ client _ layoutEq sizeEq fits (by decide) res
      { Tier1.atBoot client res with
        entered := true
        flow := { (Tier1.atBoot client res).flow with
          lastCommandCount := client.cmdAcceptedCount } } client.cmdBuffer.latest
      (@BufferWorld.sound_of_start _ ⟨client.cmdBuffer, .idle, []⟩ rfl rfl) rfl rfl rfl rfl
      (next_ne_self _) .little slowTurn size rfl 0x3ff0000000000000 [0]
      (by rw [slowTurn.seenIn_little]; rfl) ⟨0, 0, some [0, 0]⟩ [0, 0] rfl (by decide)
      ⟨none, none, 0, 0⟩ ⟨0, some 0⟩
  have calls : Tier1.setStepperAngularVel res ⟨0, some 0⟩ (.ofBits 0x3ff0000000000000) =
      [.setMicrostepInterval 1963495, .run true] := by
    decide +kernel
  rw [calls] at run
  have started := StepSystem.Run.cons (enter_atBoot res) run
  let front : List (LoopAction (Tier1.loopBody res)) :=
    .enter :: (delivery ++ [.look ⟨none, none, 0, 0⟩ state count,
      .readCommand ⟨0, 0, some [0, 0]⟩ (true, value)])
  have split : LoopAction.enter :: (delivery ++ [.look ⟨none, none, 0, 0⟩ state count,
      .readCommand ⟨0, 0, some [0, 0]⟩ (true, value),
      .drive ⟨0, some 0⟩ [.setMicrostepInterval 1963495, .run true]]) =
      front ++ [.drive ⟨0, some 0⟩ [.setMicrostepInterval 1963495, .run true]] := by
    rw [List.cons_append, List.append_assoc]
    rfl
  have active : [StepperCall.setMicrostepInterval 1963495, .run true] ≠ [.stop] := by
    decide
  obtain ⟨-, -, moves⟩ := stepper_obeys_received_commands rfl initEq up (starts_atBoot res)
    started front _ _ [] split
  exact ⟨client, _, _, front, started, split, (moves active).1⟩

/-- Whatever happened before: when the loop waits, no delivery is under way and the counter does
not run into the count that the loop saw last, a joint command of the expected size with one value
for each joint can be delivered, and the next cycle drives the stepper at its first value, read as
little endian. -/
theorem delivered_command_is_obeyed {kconfig : Kconfig} (admitted : kconfig.Admitted)
    {UserData : Type} {self : UserData}
    {created client : ZenbeddedClient kconfig JointStateCodec JointCommandCodec}
    {transport afterTransport : ZenohTransport kconfig RecvCb UserData} {controlFreq : UInt32}
    {stateParams : JointStateParams} {cmdParams : JointCommandParams}
    {cmdLayoutScratch : Block UInt8 kconfig.maxCmdBufferSize} {outcome : ClientOutcome}
    {status : Int} (fresh : created.initialized = false)
    (initEq : created.init self transport controlFreq stateParams cmdParams cmdLayoutScratch
      outcome = some (status, client, afterTransport))
    (up : client.initialized = true) {res : MicroStepRes}
    {start before : TimedLoop kconfig Tier1.Motion}
    {actions : List (LoopAction (Tier1.loopBody res))}
    (starts : (timedLoop client (Tier1.loopBody res) (Tier1.Starts res)).start start)
    (run : (timedLoop client (Tier1.loopBody res) (Tier1.Starts res)).Run start actions before)
    (entered : before.entered = true) (waiting : before.flow.loop = .waiting)
    (idle : before.flow.cmd.writer = .idle) (allCounted : before.flow.mustCount = false)
    (unseen : before.flow.cmdAcceptedCount + 1 ≠ before.flow.lastCommandCount)
    {order : Endianness} {message : JointCommand}
    (size : (message.serialize order).length = client.cmdPayloadSize)
    (perJoint : message.values.length = cmdParams.jointNames.names.length) {velocity : UInt64}
    {rest : List UInt64} (seen : (message.seenIn order).values = velocity :: rest)
    {out : JointCommandValue} {array : List UInt64} (arrayEq : out.values = some array)
    (room : cmdParams.jointNames.names.length ≤ array.length) (sensors : Tier1.Sensors)
    (answers : StepperAnswers) :
    ∃ delivery state count value after,
      deliveredPayloads client.cmdPayloadSize delivery = [message.serialize order] ∧
      (timedLoop client (Tier1.loopBody res) (Tier1.Starts res)).Run before
        (delivery ++ [.look sensors state count, .readCommand out (true, value),
          .drive answers (Tier1.setStepperAngularVel res answers (.ofBits velocity))]) after := by
  obtain ⟨_, _, _, _, _, _, _, _, _, _, _, _, _, zero⟩ :=
    created.init_up self transport controlFreq outcome fresh initEq up
  obtain ⟨layoutEq, sizeEq, fits⟩ := ZenbeddedClient.init_command_layout fresh initEq up
  have few : cmdParams.template.jointNames.names.length < 2 ^ 29 := by
    have counted := le_commandPayload cmdParams.frameId cmdParams.jointNames
      cmdParams.interfaceName
    have payloadEq : cmdParams.template.layout.payloadSize = commandPayload cmdParams.frameId
      cmdParams.jointNames cmdParams.interfaceName := cmdParams.template.payloadSize_eq
    have bounded := admitted.maxCmdBufferSize.2
    simp only [JointCommandParams.template] at payloadEq sizeEq ⊢
    omega
  have supplied := supplied_of_run starts zero fits run
  exact Tier1.exists_driven_command layoutEq sizeEq fits few supplied.sound idle allCounted entered
    waiting unseen size perJoint seen arrayEq room sensors answers

theorem delivered_command_is_obeyed_slow :
    let res : MicroStepRes := ⟨16, by decide⟩
    ∃ client, ∃ front : List (LoopAction (Tier1.loopBody res)), ∃ last,
      deliveredPayloads client.cmdPayloadSize front = [slowTurn.serialize .little] ∧
      (timedLoop client (Tier1.loopBody res) (Tier1.Starts res)).Run (Tier1.atBoot client res)
        (front ++ [.drive ⟨0, some 0⟩ [.setMicrostepInterval 1963495, .run true]]) last := by
  intro res
  obtain ⟨status, client, afterTransport, initEq, up, zero, size⟩ := exists_slowTurn
  obtain ⟨delivery, state, count, value, after, brings, run⟩ :=
    delivered_command_is_obeyed (Kconfig.default_admitted .tier1) rfl initEq up
      (starts_atBoot res) (.single (enter_atBoot res)) rfl rfl rfl rfl (next_ne_self _) size rfl
      (by rw [slowTurn.seenIn_little]; rfl) (show (⟨0, 0, some [0, 0]⟩ : JointCommandValue).values =
        some [0, 0] from rfl) (by decide) ⟨none, none, 0, 0⟩ ⟨0, some 0⟩
  have calls : Tier1.setStepperAngularVel res ⟨0, some 0⟩ (.ofBits 0x3ff0000000000000) =
      [.setMicrostepInterval 1963495, .run true] := by
    decide +kernel
  rw [calls] at run
  have started := StepSystem.Run.cons (enter_atBoot res) run
  refine ⟨client, .enter :: (delivery ++ [.look ⟨none, none, 0, 0⟩ state count,
    .readCommand ⟨0, 0, some [0, 0]⟩ (true, value)]), after, ?_, ?_⟩
  · simpa [deliveredPayloads, LoopAction.brings] using brings
  · rw [List.cons_append, List.append_assoc]
    exact started

end Zenbedded
