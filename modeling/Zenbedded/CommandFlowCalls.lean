import Zenbedded.CommandDecoding
import Zenbedded.CommandFreshness

/-!
# The calls of the command flow

What the steps of a delivery leave in a client, among any steps of the control loop, is what
`on_transport_cmd_cb` leaves when it is taken at once; and what the loop reads is what
`read_command` answers.
-/

namespace Zenbedded

open ByteBlock

variable {kconfig : Kconfig} {stateCodec : StateCodec} {commandCodec : CommandCodec}
  {client : ZenbeddedClient kconfig stateCodec commandCodec}
  {before after found : CommandFlow kconfig} {contents : Block UInt8 kconfig.maxCmdBufferSize}
  {payload : List UInt8}

/-- The client with the commands that a flow has brought to it. -/
def CommandFlow.broughtTo (flow : CommandFlow kconfig)
    (client : ZenbeddedClient kconfig stateCodec commandCodec) :
    ZenbeddedClient kconfig stateCodec commandCodec :=
  { client with cmdBuffer := flow.cmd.buffer, cmdAcceptedCount := flow.cmdAcceptedCount }

/-- A delivery copies its payload over a flow that it found, or is about to count it. -/
structure CommandFlow.Delivers (found : CommandFlow kconfig)
    (contents : Block UInt8 kconfig.maxCmdBufferSize) (payload : List UInt8)
    (flow : CommandFlow kconfig) : Prop where
  sound : flow.cmd.Sound contents
  uncounted : flow.cmdAcceptedCount = found.cmdAcceptedCount
  place :
    flow.mustCount = false ∧ flow.cmd.CopiesOver found.cmd.buffer found.cmd.buffer.prepareWrite
      (payload.take payload.length) ∨
    flow.cmd.writer = .idle ∧
      found.cmd.buffer.write (some payload) payload.length = some (true, flow.cmd.buffer)

theorem CommandFlow.Delivers.step (delivers : found.Delivers contents payload before)
    (fits : payload.length ≤ kconfig.maxCmdBufferSize) {action : FlowAction commandCodec.Value}
    (other : ∀ payload, action ≠ .deliver payload) (uncounted : action ≠ .count)
    (steps : before.Step client action after) : found.Delivers contents payload after := by
  obtain ⟨sound, sameCount, place⟩ := delivers
  cases action with
  | deliver payload => exact absurd rfl (other payload)
  | count => exact absurd rfl uncounted
  | copyByte offset =>
      obtain ⟨cmd, copies, rfl⟩ := steps
      refine ⟨sound.step copies, sameCount, place.imp (fun copying => ?_) fun written => ?_⟩
      · exact ⟨copying.1, copying.2.copyByte copies⟩
      · obtain ⟨_, _, _, _, _, copying, -⟩ := copies
        cases written.1.symm.trans copying
  | commit =>
      obtain ⟨cmd, commits, rfl⟩ := steps
      refine ⟨sound.step commits, sameCount, .inr ?_⟩
      obtain ⟨writeIdx, data, finished, rfl⟩ := commits
      rcases place with ⟨-, copying⟩ | ⟨idle, -⟩
      · exact ⟨rfl, write_of_copiesOver sound fits le_rfl copying finished⟩
      · cases idle.symm.trans finished
  | observe count =>
      obtain ⟨-, -, rfl⟩ := steps
      split <;> exact ⟨sound, sameCount, place⟩
  | readCommand out answer =>
      obtain ⟨-, -, rfl⟩ := steps
      exact ⟨sound, sameCount, place⟩
  | finish =>
      obtain ⟨-, rfl⟩ := steps
      exact ⟨sound, sameCount, place⟩

/-- A delivery among steps of the loop leaves what the call of `on_transport_cmd_cb` leaves. -/
theorem delivery_at_once (sound : before.cmd.Sound contents)
    (size : payload.length = client.cmdPayloadSize)
    (fits : client.cmdPayloadSize ≤ kconfig.maxCmdBufferSize)
    {actions : List (FlowAction commandCodec.Value)}
    (run : (commandFlow client).Run before (.deliver payload :: (actions ++ [.count])) after)
    (others : ∀ action ∈ actions, (∀ payload, action ≠ .deliver payload) ∧ action ≠ .count) :
    (ClientCall.onTransportCmdCb payload).apply (before.broughtTo client) =
      some (after.broughtTo client) := by
  have small : ¬ kconfig.maxCmdBufferSize < payload.length := by omega
  cases run with
  | cons delivers rest =>
      obtain ⟨idle, -, delivered⟩ := delivers
      rw [if_neg (not_not.mpr size)] at delivered
      obtain ⟨cmd, writes, rfl⟩ := delivered
      obtain ⟨middle, copying, counting⟩ := rest.of_append
      have copies := (writes.copiesOver (Nat.le_of_not_lt small)).2
      obtain ⟨-, sameCount, place⟩ : before.Delivers contents payload middle := by
        refine copying.preserves (fun _ _ _ among holds steps => ?_) others
          ⟨sound.step writes, rfl, .inl ⟨decide_eq_false small, copies⟩⟩
        exact holds.step (Nat.le_of_not_lt small) among.1 among.2 steps
      cases counting with
      | cons counts nothing =>
          cases nothing
          obtain ⟨mustCount, rfl⟩ := counts
          rcases place with ⟨notCounted, -⟩ | ⟨-, written⟩
          · cases mustCount.symm.trans notCounted
          · simp only [ClientCall.apply, ZenbeddedClientBase.onTransportCmdCb,
              ZenbeddedClientBase.writeCommandToBuffer, CommandFlow.broughtTo, size, ne_eq,
              not_true_eq_false, if_false]
            rw [size] at written
            rw [written, sameCount]
            rfl

/-! ## Reads -/

/-- The loop reads what `read_command` can answer, whatever the stack held. -/
theorem decodes_iff_readCommand (up : client.initialized = true)
    (fits : client.cmdPayloadSize ≤ kconfig.maxCmdBufferSize) {out : commandCodec.Value}
    {answer : Bool × commandCodec.Value} :
    Decodes client (before.cmd.buffer.latest.bytes.take client.cmdPayloadSize) out answer ↔
      ∃ tmp fuel, (before.broughtTo client).readCommand tmp fuel out = some answer := by
  constructor
  · rintro ⟨received, same, readEq⟩
    have length : (before.cmd.buffer.latest.bytes.take client.cmdPayloadSize).length =
        client.cmdPayloadSize := by simpa using fits
    have stored : memcpy received 0 before.cmd.buffer.latest.bytes client.cmdPayloadSize =
        some received := by
      rw [memcpy, if_pos (by simpa using fits), Block.store_eq_some_iff, length]
      refine ⟨by omega, ?_⟩
      rw [List.take_zero, List.nil_append, Nat.zero_add, ← same, List.take_append_drop]
    refine ⟨received, 1, ?_⟩
    simpa [ZenbeddedClient.readCommand, CommandFlow.broughtTo, up,
      ZenbeddedClientBase.readLatestCommandRaw, DoubleByteBuffer.readLatest,
      Nat.not_lt.mpr fits, stored] using readEq
  · rintro ⟨tmp, fuel, readEq⟩
    exact @ZenbeddedClient.exists_of_readCommand _ _ _ (before.broughtTo client) up fits _ _ _ _
      readEq

end Zenbedded
