import Zenbedded.ClientInitialization
import Zenbedded.StepSystem

/-!
# Calls on an initialized client

The calls that change a client between its initialization and its destruction, and
what each of them leaves alone.  Publishing a state and reading a command change
nothing in the client.
-/

namespace Zenbedded

open ByteBlock

/-- A call on an initialized client that may change it. -/
inductive ClientCall (stateCodec : StateCodec)
  | startThread (controlFreq : UInt32)
  | stopThread
  | writeState (value : stateCodec.Value)
  | onTransportCmdCb (payload : List UInt8)

/-- A state goes to the slot that is not shown, which is shown then. -/
theorem ZenbeddedClient.writeState_of_write {kconfig : Kconfig} {stateCodec : StateCodec}
    {commandCodec : CommandCodec} {client : ZenbeddedClient kconfig stateCodec commandCodec}
    (up : client.initialized = true) {value : stateCodec.Value}
    {written : Block UInt8 kconfig.maxStateBufferSize}
    (writeEq : stateCodec.write client.stateCtx value
      (client.stateBuffer.buffer client.stateBuffer.prepareWrite) = some written) :
    client.writeState value = some { client with
      stateBuffer := (client.stateBuffer.setSlot client.stateBuffer.prepareWrite
        written).commitWrite client.stateBuffer.prepareWrite } := by
  rw [writeState, if_neg (by simp [up])]
  dsimp only
  rw [writeEq]
  rfl

namespace ClientCall

variable {kconfig : Kconfig} {stateCodec : StateCodec} {commandCodec : CommandCodec}

def apply (call : ClientCall stateCodec)
    (client : ZenbeddedClient kconfig stateCodec commandCodec) :
    Option (ZenbeddedClient kconfig stateCodec commandCodec) :=
  match call with
  | .startThread controlFreq =>
      some { client with
        toZenbeddedClientBase := (client.toZenbeddedClientBase.startThread controlFreq).2 }
  | .stopThread =>
      some { client with toZenbeddedClientBase := client.toZenbeddedClientBase.stopThread }
  | .writeState value => client.writeState value
  | .onTransportCmdCb payload => do
      let base ← client.toZenbeddedClientBase.onTransportCmdCb payload payload.length
      some { client with toZenbeddedClientBase := base }

/-- The delivery of a command of the size the client expects. -/
def Accepted (client : ZenbeddedClient kconfig stateCodec commandCodec) :
    ClientCall stateCodec → Prop
  | .onTransportCmdCb payload => payload.length = client.cmdPayloadSize
  | _ => False

/-- What no call changes. -/
structure SameSetup (before after : ZenbeddedClient kconfig stateCodec commandCodec) :
    Prop where
  initialized : after.initialized = before.initialized
  statePayloadSize : after.statePayloadSize = before.statePayloadSize
  cmdPayloadSize : after.cmdPayloadSize = before.cmdPayloadSize
  pub : after.pub = before.pub
  sub : after.sub = before.sub
  stateCtx : after.stateCtx = before.stateCtx
  cmdCtx : after.cmdCtx = before.cmdCtx

variable {before after : ZenbeddedClient kconfig stateCodec commandCodec}

theorem SameSetup.refl (client : ZenbeddedClient kconfig stateCodec commandCodec) :
    SameSetup client client :=
  ⟨rfl, rfl, rfl, rfl, rfl, rfl, rfl⟩

theorem SameSetup.trans {middle : ZenbeddedClient kconfig stateCodec commandCodec}
    (first : SameSetup before middle) (second : SameSetup middle after) :
    SameSetup before after where
  initialized := second.initialized.trans first.initialized
  statePayloadSize := second.statePayloadSize.trans first.statePayloadSize
  cmdPayloadSize := second.cmdPayloadSize.trans first.cmdPayloadSize
  pub := second.pub.trans first.pub
  sub := second.sub.trans first.sub
  stateCtx := second.stateCtx.trans first.stateCtx
  cmdCtx := second.cmdCtx.trans first.cmdCtx

theorem apply_of_other_size {payload : List UInt8}
    (otherSize : payload.length ≠ before.cmdPayloadSize) :
    (onTransportCmdCb payload : ClientCall stateCodec).apply before = some before := by
  simp [apply, ZenbeddedClientBase.onTransportCmdCb, otherSize]

theorem apply_of_same_size {payload : List UInt8}
    (sameSize : payload.length = before.cmdPayloadSize)
    (fits : before.cmdPayloadSize ≤ kconfig.maxCmdBufferSize) :
    ∃ cmdBuffer : DoubleByteBuffer kconfig.maxCmdBufferSize,
      (onTransportCmdCb payload : ClientCall stateCodec).apply before =
        some { before with
          cmdBuffer, cmdAcceptedCount := before.cmdAcceptedCount + 1 } ∧
      cmdBuffer.latest.bytes.take before.cmdPayloadSize = payload := by
  obtain ⟨written, writeEq, contents⟩ :=
    before.cmdBuffer.write_spec (sameSize.trans_le fits) (le_refl payload.length)
  refine ⟨written, ?_, by rw [← sameSize]; exact contents.trans List.take_length⟩
  have called : before.toZenbeddedClientBase.onTransportCmdCb payload payload.length =
      some { before.toZenbeddedClientBase with
        cmdBuffer := written, cmdAcceptedCount := before.cmdAcceptedCount + 1 } := by
    rw [ZenbeddedClientBase.onTransportCmdCb, if_neg (not_not.mpr sameSize),
      ZenbeddedClientBase.writeCommandToBuffer, writeEq]
    rfl
  rw [apply, called]
  rfl

theorem apply_sameSetup {call : ClientCall stateCodec}
    (applied : call.apply before = some after) : SameSetup before after := by
  cases call with
  | startThread controlFreq =>
      obtain ⟨initialized, stateSize, cmdSize, pub, sub, -⟩ :=
        before.toZenbeddedClientBase.startThread_frame controlFreq
      cases applied
      exact ⟨initialized, stateSize, cmdSize, pub, sub, rfl, rfl⟩
  | stopThread =>
      obtain ⟨initialized, stateSize, cmdSize, pub, sub, -⟩ :=
        before.toZenbeddedClientBase.stopThread_frame
      cases applied
      exact ⟨initialized, stateSize, cmdSize, pub, sub, rfl, rfl⟩
  | writeState value =>
      simp only [apply, ZenbeddedClient.writeState] at applied
      split at applied
      · cases applied
        constructor <;> rfl
      · obtain ⟨buf, -, stored⟩ := Option.bind_eq_some_iff.mp applied
        cases stored
        constructor <;> rfl
  | onTransportCmdCb payload =>
      obtain ⟨base, called, stored⟩ := Option.bind_eq_some_iff.mp applied
      cases stored
      rw [ZenbeddedClientBase.onTransportCmdCb] at called
      split at called
      · cases called
        constructor <;> rfl
      · obtain ⟨written, -, counted⟩ := Option.bind_eq_some_iff.mp called
        cases counted
        constructor <;> rfl

/-- Only accepted deliveries concern the command buffer and the counter. -/
theorem apply_keeps_commands {call : ClientCall stateCodec}
    (applied : call.apply before = some after) (ignored : ¬ call.Accepted before) :
    after.cmdBuffer = before.cmdBuffer ∧ after.cmdAcceptedCount = before.cmdAcceptedCount := by
  cases call with
  | startThread controlFreq =>
      cases applied
      simp [ZenbeddedClientBase.startThread_frame]
  | stopThread =>
      cases applied
      simp [ZenbeddedClientBase.stopThread_frame]
  | writeState value =>
      simp only [apply, ZenbeddedClient.writeState] at applied
      split at applied
      · cases applied
        exact ⟨rfl, rfl⟩
      · obtain ⟨buf, -, stored⟩ := Option.bind_eq_some_iff.mp applied
        cases stored
        exact ⟨rfl, rfl⟩
  | onTransportCmdCb payload =>
      cases applied.symm.trans (apply_of_other_size ignored)
      exact ⟨rfl, rfl⟩

end ClientCall

/-! ## Runs of calls -/

/-- Calls on an initialized client, one after another. -/
def clientCalls (kconfig : Kconfig) (stateCodec : StateCodec) (commandCodec : CommandCodec) :
    StepSystem (ZenbeddedClient kconfig stateCodec commandCodec) (ClientCall stateCodec) where
  start client := client.initialized = true
  step before call after := call.apply before = some after

variable {kconfig : Kconfig} {stateCodec : StateCodec} {commandCodec : CommandCodec}
  {before after : ZenbeddedClient kconfig stateCodec commandCodec}
  {calls : List (ClientCall stateCodec)}

theorem clientCalls_sameSetup
    (run : (clientCalls kconfig stateCodec commandCodec).Run before calls after) :
    ClientCall.SameSetup before after := by
  induction run with
  | nil => exact .refl _
  | cons steps _ ih => exact (ClientCall.apply_sameSetup steps).trans ih

/-- A run without accepted deliveries leaves the command buffer alone. -/
theorem clientCalls_keep_commands
    (run : (clientCalls kconfig stateCodec commandCodec).Run before calls after)
    (ignored : ∀ call ∈ calls, ¬ call.Accepted before) :
    after.cmdBuffer = before.cmdBuffer ∧ after.cmdAcceptedCount = before.cmdAcceptedCount := by
  induction run with
  | nil => exact ⟨rfl, rfl⟩
  | @cons first middle last call calls steps _ ih =>
      obtain ⟨bufferSame, countSame⟩ :=
        ClientCall.apply_keeps_commands steps (ignored call List.mem_cons_self)
      have sameSize := (ClientCall.apply_sameSetup steps).cmdPayloadSize
      obtain ⟨bufferRest, countRest⟩ := ih fun other member accepted => by
        refine ignored other (List.mem_cons_of_mem _ member) ?_
        cases other with
        | onTransportCmdCb payload => exact Eq.trans accepted sameSize
        | startThread => exact accepted
        | stopThread => exact accepted
        | writeState => exact accepted
      exact ⟨bufferRest.trans bufferSame, countRest.trans countSame⟩

end Zenbedded
