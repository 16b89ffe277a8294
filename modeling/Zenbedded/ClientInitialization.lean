import Zenbedded.ZenbeddedClient

/-!
# Initializing a client

What `init_base` and `init` do, by the first check or transport call that fails.
-/

namespace Zenbedded

open ByteBlock

variable {kconfig : Kconfig} {UserData : Type}

namespace ZenbeddedClientBase

theorem startThread_frame (client : ZenbeddedClientBase kconfig) (controlFreq : UInt32) :
    let after := (client.startThread controlFreq).2
    after.initialized = client.initialized ∧
      after.statePayloadSize = client.statePayloadSize ∧
      after.cmdPayloadSize = client.cmdPayloadSize ∧
      after.pub = client.pub ∧ after.sub = client.sub ∧
      after.stateBuffer = client.stateBuffer ∧ after.cmdBuffer = client.cmdBuffer ∧
      after.cmdAcceptedCount = client.cmdAcceptedCount := by
  unfold startThread stopThread
  split
  · simp
  split
  · simp
  split <;> simp

theorem startThread_status {client : ZenbeddedClientBase kconfig} (up : client.initialized = true)
    (controlFreq : UInt32) :
    (client.startThread controlFreq).1 = if controlFreq = 0 then -einval else 0 := by
  unfold startThread
  split
  · simp_all
  split <;> simp_all

theorem stopThread_frame (client : ZenbeddedClientBase kconfig) :
    let after := client.stopThread
    after.initialized = client.initialized ∧
      after.statePayloadSize = client.statePayloadSize ∧
      after.cmdPayloadSize = client.cmdPayloadSize ∧
      after.pub = client.pub ∧ after.sub = client.sub ∧
      after.stateBuffer = client.stateBuffer ∧ after.cmdBuffer = client.cmdBuffer ∧
      after.cmdAcceptedCount = client.cmdAcceptedCount := by
  unfold stopThread
  split <;> simp

section InitBase

variable (self : UserData) (client : ZenbeddedClientBase kconfig)
  (transport : ZenohTransport kconfig RecvCb UserData) (controlFreq : UInt32)
  (statePayloadSize cmdPayloadSize : Nat) (outcome : ClientOutcome)

/-- The transport calls of `init_base`, in their order. -/
def transportOpened : Int × ZenohTransport kconfig RecvCb UserData :=
  transport.init kconfig.domainId kconfig.nodeName kconfig.zenohMode
    (some kconfig.zenohIpPort) outcome.init

def publisherDeclared :
    Option (Fin kconfig.maxPublishers) × ZenohTransport kconfig RecvCb UserData :=
  (transportOpened transport outcome).2.declarePublisher kconfig.rclPubTopic
    (stateType kconfig) outcome.pub

def subscriberDeclared :
    Option (Fin kconfig.maxSubscribers) × ZenohTransport kconfig RecvCb UserData :=
  (publisherDeclared transport outcome).2.declareSubscriber kconfig.rclSubTopic
    (cmdType kconfig) (some .onTransportCmdCb) (some self) outcome.sub

/-- How a call of `init_base` on an uninitialized client can go. -/
inductive InitBaseCase
    (result : Int × ZenbeddedClientBase kconfig × ZenohTransport kconfig RecvCb UserData) : Prop
  | tooLarge
      (exceeds : kconfig.maxStateBufferSize < statePayloadSize ∨
        kconfig.maxCmdBufferSize < cmdPayloadSize)
      (status : result.1 = -enomem) (down : result.2.1.initialized = false)
      (untouched : result.2.2 = transport)
  | notOpened
      (stateFits : statePayloadSize ≤ kconfig.maxStateBufferSize)
      (cmdFits : cmdPayloadSize ≤ kconfig.maxCmdBufferSize)
      (fails : (transportOpened transport outcome).1 ≠ 0)
      (status : result.1 = -eio) (down : result.2.1.initialized = false)
      (kept : result.2.2 = (transportOpened transport outcome).2)
  | noPublisher
      (stateFits : statePayloadSize ≤ kconfig.maxStateBufferSize)
      (cmdFits : cmdPayloadSize ≤ kconfig.maxCmdBufferSize)
      (opens : (transportOpened transport outcome).1 = 0)
      (fails : (publisherDeclared transport outcome).1 = none)
      (status : result.1 = -eio) (down : result.2.1.initialized = false)
      (destroyed : result.2.2 = (publisherDeclared transport outcome).2.destroy)
  | noSubscriber
      (stateFits : statePayloadSize ≤ kconfig.maxStateBufferSize)
      (cmdFits : cmdPayloadSize ≤ kconfig.maxCmdBufferSize)
      (opens : (transportOpened transport outcome).1 = 0)
      (pub : Fin kconfig.maxPublishers)
      (declared : (publisherDeclared transport outcome).1 = some pub)
      (fails : (subscriberDeclared self transport outcome).1 = none)
      (status : result.1 = -eio) (down : result.2.1.initialized = false)
      (destroyed : result.2.2 = (subscriberDeclared self transport outcome).2.destroy)
  | up
      (stateFits : statePayloadSize ≤ kconfig.maxStateBufferSize)
      (cmdFits : cmdPayloadSize ≤ kconfig.maxCmdBufferSize)
      (opens : (transportOpened transport outcome).1 = 0)
      (pub : Fin kconfig.maxPublishers)
      (declaredPub : (publisherDeclared transport outcome).1 = some pub)
      (sub : Fin kconfig.maxSubscribers)
      (declaredSub : (subscriberDeclared self transport outcome).1 = some sub)
      (status : result.1 = if controlFreq = 0 then -einval else 0)
      (isUp : result.2.1.initialized = true)
      (stateSize : result.2.1.statePayloadSize = statePayloadSize)
      (cmdSize : result.2.1.cmdPayloadSize = cmdPayloadSize)
      (ownsPub : result.2.1.pub = some pub) (ownsSub : result.2.1.sub = some sub)
      (kept : result.2.2 = (subscriberDeclared self transport outcome).2)

variable {self transport controlFreq statePayloadSize cmdPayloadSize outcome} in
theorem InitBaseCase.status_cases
    {result : Int × ZenbeddedClientBase kconfig × ZenohTransport kconfig RecvCb UserData}
    (cases : InitBaseCase self transport controlFreq statePayloadSize cmdPayloadSize outcome
      result) :
    result.2.1.initialized = true ∧ result.1 = (if controlFreq = 0 then -einval else 0) ∨
      result.2.1.initialized = false ∧ result.1 ≠ 0 := by
  cases cases with
  | tooLarge _ status down => exact .inr ⟨down, by rw [status]; decide⟩
  | notOpened _ _ _ status down => exact .inr ⟨down, by rw [status]; decide⟩
  | noPublisher _ _ _ _ status down => exact .inr ⟨down, by rw [status]; decide⟩
  | noSubscriber _ _ _ _ _ _ status down => exact .inr ⟨down, by rw [status]; decide⟩
  | up _ _ _ _ _ _ _ status isUp => exact .inl ⟨isUp, status⟩

variable {client}

variable {statePayloadSize cmdPayloadSize} in
/-- A payload that exceeds its buffer is rejected before the transport is touched. -/
theorem initBase_of_too_large (fresh : client.initialized = false)
    (exceeds : kconfig.maxStateBufferSize < statePayloadSize ∨
      kconfig.maxCmdBufferSize < cmdPayloadSize) :
    ∃ after, client.initBase self transport controlFreq statePayloadSize cmdPayloadSize outcome =
        (-enomem, after, transport) ∧ after.initialized = false := by
  by_cases stateTooLarge : kconfig.maxStateBufferSize < statePayloadSize
  · exact ⟨{ client with statePayloadSize }, by simp [initBase, fresh, stateTooLarge], fresh⟩
  · have cmdTooLarge := exceeds.resolve_left stateTooLarge
    exact ⟨{ client with statePayloadSize, cmdPayloadSize },
      by simp [initBase, fresh, stateTooLarge, cmdTooLarge], fresh⟩

theorem initBase_cases (fresh : client.initialized = false) :
    InitBaseCase self transport controlFreq statePayloadSize cmdPayloadSize outcome
      (client.initBase self transport controlFreq statePayloadSize cmdPayloadSize outcome) := by
  by_cases exceeds : kconfig.maxStateBufferSize < statePayloadSize ∨
    kconfig.maxCmdBufferSize < cmdPayloadSize
  · obtain ⟨after, resultEq, down⟩ :=
      initBase_of_too_large self transport controlFreq outcome fresh exceeds
    rw [resultEq]
    exact .tooLarge exceeds rfl down rfl
  obtain ⟨stateTooLarge, cmdTooLarge⟩ := not_or.mp exceeds
  have stateFits := Nat.le_of_not_lt stateTooLarge
  have cmdFits := Nat.le_of_not_lt cmdTooLarge
  by_cases opens : (transportOpened transport outcome).1 = 0
  case neg =>
    have fails := opens
    rw [transportOpened] at fails
    apply InitBaseCase.notOpened stateFits cmdFits opens <;>
      simp [initBase, fresh, stateTooLarge, cmdTooLarge, fails, transportOpened]
  have opened := opens
  rw [transportOpened] at opened
  cases declaredPub : (publisherDeclared transport outcome).1 with
  | none =>
      have fails := declaredPub
      rw [publisherDeclared, transportOpened] at fails
      apply InitBaseCase.noPublisher stateFits cmdFits opens declaredPub <;>
        simp [initBase, fresh, stateTooLarge, cmdTooLarge, opened, fails, publisherDeclared,
          transportOpened]
  | some pub =>
      have declared := declaredPub
      rw [publisherDeclared, transportOpened] at declared
      cases declaredSub : (subscriberDeclared self transport outcome).1 with
      | none =>
          have fails := declaredSub
          rw [subscriberDeclared, publisherDeclared, transportOpened] at fails
          apply InitBaseCase.noSubscriber stateFits cmdFits opens pub declaredPub declaredSub <;>
            simp [initBase, fresh, stateTooLarge, cmdTooLarge, opened, declared, fails,
              subscriberDeclared, publisherDeclared, transportOpened]
      | some sub =>
          have declaredToo := declaredSub
          rw [subscriberDeclared, publisherDeclared, transportOpened] at declaredToo
          apply InitBaseCase.up stateFits cmdFits opens pub declaredPub sub declaredSub <;>
            simp [initBase, fresh, stateTooLarge, cmdTooLarge, opened, declared, declaredToo,
              startThread_frame, startThread_status, subscriberDeclared, publisherDeclared,
              transportOpened]

variable (client) in
/-- The buffers and the counter are left to `init`. -/
theorem initBase_keeps :
    let after := (client.initBase self transport controlFreq statePayloadSize cmdPayloadSize
      outcome).2.1
    after.stateBuffer = client.stateBuffer ∧ after.cmdBuffer = client.cmdBuffer ∧
      after.cmdAcceptedCount = client.cmdAcceptedCount := by
  unfold initBase
  split
  · simp
  split
  · simp
  split
  · simp
  dsimp only
  split
  · simp
  split
  · simp
  split
  · simp
  · simp [startThread_frame]

end InitBase

end ZenbeddedClientBase

namespace ZenbeddedClient

variable {stateCodec : StateCodec} {commandCodec : CommandCodec}

/-- The buffers of a client whose template both slots hold. -/
def templated (client : ZenbeddedClient kconfig stateCodec commandCodec)
    (first second : Block UInt8 kconfig.maxStateBufferSize) : ZenbeddedClientBase kconfig :=
  { client.toZenbeddedClientBase.resetBuffers with
    stateBuffer := (DoubleByteBuffer.reset.setSlot 0 first).setSlot 1 second }

section Init

variable (self : UserData) {client : ZenbeddedClient kconfig stateCodec commandCodec}
  (transport : ZenohTransport kconfig RecvCb UserData) (controlFreq : UInt32)
  {stateParams : stateCodec.InitParams} {cmdParams : commandCodec.InitParams}
  {cmdLayoutScratch scratch : Block UInt8 kconfig.maxCmdBufferSize} (outcome : ClientOutcome)
  (fresh : client.initialized = false)
  {firstCtx stateCtx : stateCodec.Ctx} {cmdCtx : commandCodec.Ctx}
  {first second : Block UInt8 kconfig.maxStateBufferSize}

include fresh

/-- Initialization once the codecs have laid out their templates. -/
theorem init_eq
    (firstEq : stateCodec.init client.stateCtx stateParams (Block.filled _ 0) =
      some (firstCtx, first))
    (secondEq : stateCodec.init firstCtx stateParams (Block.filled _ 0) =
      some (stateCtx, second))
    (cmdEq : commandCodec.init client.cmdCtx cmdParams cmdLayoutScratch =
      some (cmdCtx, scratch)) :
    client.init self transport controlFreq stateParams cmdParams cmdLayoutScratch outcome =
      (let result := (client.templated first second).initBase self transport controlFreq
        (stateCodec.payloadSize stateCtx) (commandCodec.payloadSize cmdCtx) outcome
      some (result.1, { result.2.1 with stateCtx, cmdCtx }, result.2.2)) := by
  have firstSlot : (client.toZenbeddedClientBase.resetBuffers.stateBuffer.buffer 0) =
      Block.filled _ 0 := rfl
  have secondSlot : ((client.toZenbeddedClientBase.resetBuffers.stateBuffer.setSlot 0
      first).buffer 1) = Block.filled _ 0 := rfl
  simp only [init, fresh, Bool.false_eq_true, if_false, firstSlot, firstEq,
    Option.bind_eq_bind, Option.bind_some, secondSlot, secondEq, cmdEq]
  rfl

/-- A codec that stores outside a slot of the state buffer. -/
theorem init_of_state_stuck
    (stateStuck : stateCodec.init client.stateCtx stateParams
      (Block.filled kconfig.maxStateBufferSize 0) = none) :
    client.init self transport controlFreq stateParams cmdParams cmdLayoutScratch outcome =
      none := by
  have firstSlot : (client.toZenbeddedClientBase.resetBuffers.stateBuffer.buffer 0) =
      Block.filled _ 0 := rfl
  simp only [init, fresh, Bool.false_eq_true, if_false, firstSlot, stateStuck,
    Option.bind_eq_bind, Option.bind_none]

theorem init_of_second_stuck
    (firstEq : stateCodec.init client.stateCtx stateParams (Block.filled _ 0) =
      some (firstCtx, first))
    (secondStuck : stateCodec.init firstCtx stateParams
      (Block.filled kconfig.maxStateBufferSize 0) = none) :
    client.init self transport controlFreq stateParams cmdParams cmdLayoutScratch outcome =
      none := by
  have firstSlot : (client.toZenbeddedClientBase.resetBuffers.stateBuffer.buffer 0) =
      Block.filled _ 0 := rfl
  have secondSlot : ((client.toZenbeddedClientBase.resetBuffers.stateBuffer.setSlot 0
      first).buffer 1) = Block.filled _ 0 := rfl
  simp only [init, fresh, Bool.false_eq_true, if_false, firstSlot, firstEq, secondSlot,
    secondStuck, Option.bind_eq_bind, Option.bind_some, Option.bind_none]

/-- A codec that stores outside the scratch buffer. -/
theorem init_of_cmd_stuck
    (cmdStuck : commandCodec.init client.cmdCtx cmdParams cmdLayoutScratch = none) :
    client.init self transport controlFreq stateParams cmdParams cmdLayoutScratch outcome =
      none := by
  simp only [init, fresh, Bool.false_eq_true, if_false, cmdStuck, Option.bind_eq_bind,
    Option.bind_none, Option.bind_fun_none]

/-- An initialization that ends has laid out all templates. -/
theorem exists_of_init {result : Int × ZenbeddedClient kconfig stateCodec commandCodec ×
      ZenohTransport kconfig RecvCb UserData}
    (ended : client.init self transport controlFreq stateParams cmdParams cmdLayoutScratch
      outcome = some result) :
    ∃ firstCtx first stateCtx second cmdCtx scratch,
      stateCodec.init client.stateCtx stateParams (Block.filled _ 0) = some (firstCtx, first) ∧
      stateCodec.init firstCtx stateParams (Block.filled _ 0) = some (stateCtx, second) ∧
      commandCodec.init client.cmdCtx cmdParams cmdLayoutScratch = some (cmdCtx, scratch) ∧
      let base := (client.templated first second).initBase self transport controlFreq
        (stateCodec.payloadSize stateCtx) (commandCodec.payloadSize cmdCtx) outcome
      result = (base.1, { base.2.1 with stateCtx, cmdCtx }, base.2.2) := by
  obtain ⟨⟨firstCtx, first⟩, firstEq⟩ := Option.ne_none_iff_exists'.mp fun stuck => by
    rw [init_of_state_stuck self transport controlFreq outcome fresh stuck] at ended
    cases ended
  obtain ⟨⟨stateCtx, second⟩, secondEq⟩ := Option.ne_none_iff_exists'.mp fun stuck => by
    rw [init_of_second_stuck self transport controlFreq outcome fresh firstEq stuck] at ended
    cases ended
  obtain ⟨⟨cmdCtx, scratch⟩, cmdEq⟩ := Option.ne_none_iff_exists'.mp fun stuck => by
    rw [init_of_cmd_stuck self transport controlFreq outcome fresh stuck] at ended
    cases ended
  have initEq := init_eq self transport controlFreq outcome fresh firstEq secondEq cmdEq
  exact ⟨firstCtx, first, stateCtx, second, cmdCtx, scratch, firstEq, secondEq, cmdEq,
    Option.some.inj (ended.symm.trans initEq)⟩

omit fresh in
variable (client stateParams cmdParams cmdLayoutScratch) in
/-- The codecs lay out payloads that fit into the buffers. -/
def PayloadsFit : Prop :=
  ∃ firstCtx first stateCtx second cmdCtx scratch,
    stateCodec.init client.stateCtx stateParams (Block.filled kconfig.maxStateBufferSize 0) =
      some (firstCtx, first) ∧
    stateCodec.init firstCtx stateParams (Block.filled kconfig.maxStateBufferSize 0) =
      some (stateCtx, second) ∧
    commandCodec.init client.cmdCtx cmdParams cmdLayoutScratch = some (cmdCtx, scratch) ∧
    stateCodec.payloadSize stateCtx ≤ kconfig.maxStateBufferSize ∧
    commandCodec.payloadSize cmdCtx ≤ kconfig.maxCmdBufferSize

omit fresh in
theorem payloadsFit_iff
    (firstEq : stateCodec.init client.stateCtx stateParams (Block.filled _ 0) =
      some (firstCtx, first))
    (secondEq : stateCodec.init firstCtx stateParams (Block.filled _ 0) =
      some (stateCtx, second))
    (cmdEq : commandCodec.init client.cmdCtx cmdParams cmdLayoutScratch =
      some (cmdCtx, scratch)) :
    client.PayloadsFit stateParams cmdParams cmdLayoutScratch ↔
      stateCodec.payloadSize stateCtx ≤ kconfig.maxStateBufferSize ∧
        commandCodec.payloadSize cmdCtx ≤ kconfig.maxCmdBufferSize := by
  constructor
  · rintro ⟨_, _, _, _, _, _, firstToo, secondToo, cmdToo, fits⟩
    cases firstEq.symm.trans firstToo
    cases secondEq.symm.trans secondToo
    cases cmdEq.symm.trans cmdToo
    exact fits
  · intro fits
    exact ⟨_, _, _, _, _, _, firstEq, secondEq, cmdEq, fits⟩

theorem init_cases {status : Int} {started : ZenbeddedClient kconfig stateCodec commandCodec}
    {after : ZenohTransport kconfig RecvCb UserData}
    (ended : client.init self transport controlFreq stateParams cmdParams cmdLayoutScratch
      outcome = some (status, started, after)) :
    ∃ statePayloadSize cmdPayloadSize,
      (statePayloadSize ≤ kconfig.maxStateBufferSize ∧
          cmdPayloadSize ≤ kconfig.maxCmdBufferSize ↔
        client.PayloadsFit stateParams cmdParams cmdLayoutScratch) ∧
      ZenbeddedClientBase.InitBaseCase self transport controlFreq statePayloadSize
        cmdPayloadSize outcome (status, started.toZenbeddedClientBase, after) := by
  obtain ⟨firstCtx, first, stateCtx, second, cmdCtx, scratch, firstEq, secondEq, cmdEq,
    resultEq⟩ := exists_of_init self transport controlFreq outcome fresh ended
  refine ⟨stateCodec.payloadSize stateCtx, commandCodec.payloadSize cmdCtx,
    (payloadsFit_iff firstEq secondEq cmdEq).symm, ?_⟩
  have freshBase : (client.templated first second).initialized = false := fresh
  have cases := ZenbeddedClientBase.initBase_cases self transport controlFreq
    (stateCodec.payloadSize stateCtx) (commandCodec.payloadSize cmdCtx) outcome freshBase
  simp only [Prod.mk.injEq] at resultEq
  obtain ⟨rfl, rfl, rfl⟩ := resultEq
  exact cases

/-- What a client that came up is set up with. -/
theorem init_up {status : Int} {started : ZenbeddedClient kconfig stateCodec commandCodec}
    {after : ZenohTransport kconfig RecvCb UserData}
    (ended : client.init self transport controlFreq stateParams cmdParams cmdLayoutScratch
      outcome = some (status, started, after))
    (up : started.initialized = true) :
    ∃ firstCtx first second scratch,
      stateCodec.init client.stateCtx stateParams (Block.filled _ 0) = some (firstCtx, first) ∧
      stateCodec.init firstCtx stateParams (Block.filled _ 0) =
        some (started.stateCtx, second) ∧
      commandCodec.init client.cmdCtx cmdParams cmdLayoutScratch =
        some (started.cmdCtx, scratch) ∧
      started.statePayloadSize = stateCodec.payloadSize started.stateCtx ∧
      started.cmdPayloadSize = commandCodec.payloadSize started.cmdCtx ∧
      started.statePayloadSize ≤ kconfig.maxStateBufferSize ∧
      started.cmdPayloadSize ≤ kconfig.maxCmdBufferSize ∧
      started.stateBuffer = (DoubleByteBuffer.reset.setSlot 0 first).setSlot 1 second ∧
      started.cmdBuffer = .reset ∧ started.cmdAcceptedCount = 0 := by
  obtain ⟨firstCtx, first, stateCtx, second, cmdCtx, scratch, firstEq, secondEq, cmdEq,
    resultEq⟩ := exists_of_init self transport controlFreq outcome fresh ended
  have freshBase : (client.templated first second).initialized = false := fresh
  have cases := ZenbeddedClientBase.initBase_cases self transport controlFreq
    (stateCodec.payloadSize stateCtx) (commandCodec.payloadSize cmdCtx) outcome freshBase
  have keeps := ZenbeddedClientBase.initBase_keeps self (client.templated first second)
    transport controlFreq (stateCodec.payloadSize stateCtx) (commandCodec.payloadSize cmdCtx)
    outcome
  simp only [Prod.mk.injEq] at resultEq
  obtain ⟨-, rfl, -⟩ := resultEq
  refine ⟨firstCtx, first, second, scratch, firstEq, secondEq, cmdEq, ?_⟩
  cases cases with
  | tooLarge _ _ down => simp_all
  | notOpened _ _ _ _ down => simp_all
  | noPublisher _ _ _ _ _ down => simp_all
  | noSubscriber _ _ _ _ _ _ _ down => simp_all
  | up stateFits cmdFits _ _ _ _ _ _ _ stateSize cmdSize =>
      exact ⟨stateSize, cmdSize, stateSize.trans_le stateFits,
        cmdSize.trans_le cmdFits, keeps⟩

end Init

end ZenbeddedClient

end Zenbedded
