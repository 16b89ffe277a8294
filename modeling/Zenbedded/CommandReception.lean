import Zenbedded.ClientSlots

/-!
# Receiving commands

The size of a command is checked against the command buffer when a client is initialized,
and against the receive buffer of the transport when a sample arrives.  An initialized
client receives its commands exactly when they fit into the latter.
-/

namespace Zenbedded

open ByteBlock

namespace ClientWorld

variable {kconfig : Kconfig} {Id : Type} [DecidableEq Id] {stateCodec : Id → StateCodec}
  {commandCodec : Id → CommandCodec}

/-- The command size that a client is set up with once its initialization succeeded. -/
def commandSize (world : ClientWorld kconfig stateCodec commandCodec) (id : Id)
    (cmdParams : (commandCodec id).InitParams)
    (cmdLayoutScratch : Block UInt8 kconfig.maxCmdBufferSize) : Option Nat :=
  if world.live id then
    some (world.client id).cmdPayloadSize
  else do
    let (cmdCtx, _) ← (commandCodec id).init (world.client id).cmdCtx cmdParams cmdLayoutScratch
    some ((commandCodec id).payloadSize cmdCtx)

/-- A sample is stored as the latest command of a client and counted. -/
def Stores (world : ClientWorld kconfig stateCodec commandCodec) (id : Id)
    (slot : Fin kconfig.maxSubscribers) (payload : List UInt8) : Prop :=
  ∃ after, world.Step (.sample slot payload) after ∧
    (after.client id).cmdBuffer.latest.bytes.take payload.length = payload ∧
    (after.client id).cmdAcceptedCount = (world.client id).cmdAcceptedCount + 1

def CommandsFit (world : ClientWorld kconfig stateCodec commandCodec) : Prop :=
  ∀ id, world.live id = true → (world.client id).cmdPayloadSize ≤ kconfig.maxCmdBufferSize

variable {before after : ClientWorld kconfig stateCodec commandCodec}
  {action : ClientWorldAction kconfig stateCodec commandCodec} {id : Id}

theorem CommandsFit.step (fit : before.CommandsFit) (steps : before.Step action after) :
    after.CommandsFit := by
  intro id isLive
  cases clientChange steps id with
  | same clientEq =>
      rw [live, clientEq] at isLive
      rw [clientEq]
      exact fit id isLive
  | called call applied =>
      have setup := ClientCall.apply_sameSetup applied
      rw [setup.cmdPayloadSize]
      exact fit id (setup.initialized.symm.trans isLive)
  | initialized wasDown controlFreq _ _ _ outcome _ _ _ initEq =>
      obtain ⟨_, _, _, _, _, _, _, _, _, _, fits, _⟩ :=
        (before.client id).init_up id before.transport controlFreq outcome wasDown initEq isLive
      exact fits
  | destroyed cause =>
      subst cause
      cases isLive.symm.trans (destroyed_down steps)

theorem commandsFit_invariant :
    (clientWorlds kconfig stateCodec commandCodec).Invariant CommandsFit where
  start := by
    rintro _ rfl id isLive
    cases isLive
  step _ _ _ fit steps := fit.step steps

/-- A client that is initialized is set up anew only after its destruction. -/
theorem sameSetup_of_step (steps : before.Step action after) (isLive : before.live id = true)
    (stays : action ≠ .destroy id) :
    ClientCall.SameSetup (before.client id) (after.client id) := by
  cases clientChange steps id with
  | same clientEq => rw [clientEq]; exact .refl _
  | called call applied => exact ClientCall.apply_sameSetup applied
  | initialized wasDown => cases isLive.symm.trans wasDown
  | destroyed cause => exact absurd cause stays

theorem sameSetup_of_run {actions : List (ClientWorldAction kconfig stateCodec commandCodec)}
    (run : (clientWorlds kconfig stateCodec commandCodec).Run before actions after)
    (isLive : before.live id = true) (stays : ∀ action ∈ actions, action ≠ .destroy id) :
    ClientCall.SameSetup (before.client id) (after.client id) := by
  induction run with
  | nil => exact .refl _
  | cons steps _ ih =>
      have setup := sameSetup_of_step steps isLive (stays _ List.mem_cons_self)
      exact setup.trans (ih (setup.initialized.trans isLive)
        fun action member => stays action (List.mem_cons_of_mem _ member))

theorem live_of_init {controlFreq : UInt32} {stateParams : (stateCodec id).InitParams}
    {cmdParams : (commandCodec id).InitParams}
    {cmdLayoutScratch : Block UInt8 kconfig.maxCmdBufferSize} {outcome : ClientOutcome}
    (steps : before.Step (.init id controlFreq stateParams cmdParams cmdLayoutScratch outcome 0)
      after) :
    after.live id = true ∧ before.commandSize id cmdParams cmdLayoutScratch =
      some (after.client id).cmdPayloadSize := by
  obtain ⟨client, transport, initEq, rfl⟩ := steps
  suffices facts : client.initialized = true ∧
      before.commandSize id cmdParams cmdLayoutScratch = some client.cmdPayloadSize by
    simpa [live] using facts
  cases wasLive : before.live id with
  | true =>
      have up : (before.client id).initialized = true := wasLive
      rw [ZenbeddedClient.init, if_pos up] at initEq
      cases initEq
      exact ⟨up, if_pos wasLive⟩
  | false =>
      obtain ⟨_, _, -, cases⟩ :=
        (before.client id).init_cases id before.transport controlFreq outcome wasLive initEq
      have isUp : client.initialized = true :=
        (cases.status_cases.resolve_right fun fails => fails.2 rfl).1
      obtain ⟨_, _, _, scratch, _, _, cmdEq, _, cmdSize, _⟩ :=
        (before.client id).init_up id before.transport controlFreq outcome wasLive initEq isUp
      refine ⟨isUp, ?_⟩
      rw [commandSize, if_neg (by simp [wasLive]), cmdEq, cmdSize]
      rfl

omit [DecidableEq Id] in
/-- The transport hands over what is neither empty nor larger than its receive buffer. -/
theorem handler_of_feeds {world : ClientWorld kconfig stateCodec commandCodec}
    {slot : Fin kconfig.maxSubscribers} (feeds : world.Feeds slot id) (payload : List UInt8) :
    world.transport.internalSubHandler slot payload =
      if 0 < payload.length ∧ payload.length ≤ kconfig.maxRxBufferSize then
        some (.onTransportCmdCb, payload, some id)
      else
        none := by
  obtain ⟨-, callback, userData⟩ := feeds
  rw [ZenohTransport.internalSubHandler, callback, userData]
  by_cases fits : 0 < payload.length ∧ payload.length ≤ kconfig.maxRxBufferSize
  · rw [if_pos fits]
    exact if_neg (by omega)
  · rw [if_neg fits]
    exact if_pos (by omega)

/-- A command of the expected size is stored exactly if the transport hands it over. -/
theorem stores_iff {world : ClientWorld kconfig stateCodec commandCodec} (fit : world.CommandsFit)
    (isLive : world.live id = true) {slot : Fin kconfig.maxSubscribers}
    (feeds : world.Feeds slot id) {payload : List UInt8}
    (sameSize : payload.length = (world.client id).cmdPayloadSize) :
    world.Stores id slot payload ↔
      0 < payload.length ∧ payload.length ≤ kconfig.maxRxBufferSize := by
  have handled := handler_of_feeds feeds payload
  constructor
  · rintro ⟨after, ⟨-, delivered⟩, -, counted⟩
    by_contra dropped
    rw [handled, if_neg dropped] at delivered
    rw [delivered] at counted
    simp at counted
  · intro received
    obtain ⟨client, applied, stored, counted⟩ : ∃ client,
        (ClientCall.onTransportCmdCb payload).apply (world.client id) = some client ∧
        client.cmdBuffer.latest.bytes.take payload.length = payload ∧
        client.cmdAcceptedCount = (world.client id).cmdAcceptedCount + 1 := by
      obtain ⟨cmdBuffer, applied, contents⟩ :=
        ClientCall.apply_of_same_size sameSize (fit id isLive)
      exact ⟨_, applied, by rw [sameSize]; exact contents, rfl⟩
    refine ⟨world.setClient id client, ⟨feeds.1, ?_⟩, ?_⟩
    · rw [handled, if_pos received]
      exact ⟨client, applied, rfl⟩
    · rw [client_setClient_self]
      exact ⟨stored, counted⟩

end ClientWorld

open ClientWorld in
/-- A client whose initialization succeeded receives every command of its size, as long as
it stays initialized, if and only if that size is not zero and fits the receive buffer. -/
theorem initialized_client_receives_commands_iff {kconfig : Kconfig} {Id : Type}
    [DecidableEq Id] [Fintype Id] {stateCodec : Id → StateCodec}
    {commandCodec : Id → CommandCodec} (admitted : kconfig.Admitted)
    {before middle after : ClientWorld kconfig stateCodec commandCodec} {id : Id}
    {controlFreq : UInt32} {stateParams : (stateCodec id).InitParams}
    {cmdParams : (commandCodec id).InitParams}
    {cmdLayoutScratch : Block UInt8 kconfig.maxCmdBufferSize} {outcome : ClientOutcome}
    {actions : List (ClientWorldAction kconfig stateCodec commandCodec)}
    (reached : (clientWorlds kconfig stateCodec commandCodec).Reachable before)
    (inits : (clientWorlds kconfig stateCodec commandCodec).step before
      (.init id controlFreq stateParams cmdParams cmdLayoutScratch outcome 0) middle)
    (run : (clientWorlds kconfig stateCodec commandCodec).Run middle actions after)
    (stays : ∀ action ∈ actions, action ≠ .destroy id) :
    (∃ slot, after.subOf id = some slot ∧ after.subUsed slot = true ∧
      ∀ payload, payload.length = (after.client id).cmdPayloadSize →
        after.Stores id slot payload) ↔
      ∃ size, before.commandSize id cmdParams cmdLayoutScratch = some size ∧
        0 < size ∧ size ≤ kconfig.maxRxBufferSize := by
  obtain ⟨isUp, sizeEq⟩ := live_of_init inits
  have setup := sameSetup_of_run run isUp stays
  have isLive : after.live id = true := setup.initialized.trans isUp
  have reachedAfter := (reached.step inits).run run
  have fit := commandsFit_invariant.reachable reachedAfter
  have linked := (linked_invariant admitted).reachable reachedAfter
  obtain ⟨slot, ownsSub, feeds⟩ := linked.sub id isLive
  rw [sizeEq, ← setup.cmdPayloadSize]
  constructor
  · rintro ⟨other, otherOwns, -, stores⟩
    cases ownsSub.symm.trans otherOwns
    have length : (List.replicate (after.client id).cmdPayloadSize (0 : UInt8)).length =
        (after.client id).cmdPayloadSize := List.length_replicate
    have received := (stores_iff fit isLive feeds length).mp (stores _ length)
    rw [length] at received
    exact ⟨_, rfl, received⟩
  · rintro ⟨size, sameSize, received⟩
    cases sameSize
    refine ⟨slot, ownsSub, feeds.1, fun payload length => ?_⟩
    rw [← length] at received
    exact (stores_iff fit isLive feeds length).mpr received

/-- Commands of 100 bytes pass the initialization with default buffers, and are dropped by
the receive buffer of 64 bytes. -/
theorem large_command_is_never_stored :
    ∃ before after : ClientWorld (Kconfig.default .tier2) (fun _ : Unit => RawCodec.state 1)
        (fun _ => RawCodec.command 100),
      (clientWorlds _ _ _).Reachable before ∧
      (∃ outcome, before.Step (.init () 1000 () () (Block.filled _ 0) outcome 0) after) ∧
      ∃ payload, payload.length = (after.client ()).cmdPayloadSize ∧
        ∀ slot, ¬ after.Stores () slot payload := by
  let outcome : ClientOutcome :=
    ⟨⟨true, true, true, true, []⟩, ⟨true, true, [], []⟩, ⟨true, true, [], []⟩⟩
  obtain ⟨after, inits, size⟩ := ClientWorld.exists_first_init (Kconfig.default .tier2)
    (fun _ : Unit => RawCodec.state 1) (fun _ => RawCodec.command 100) () 1000 () ()
    (Block.filled _ 0) outcome 0 (·.cmdPayloadSize) 100 (by decide +kernel)
  refine ⟨_, after, .start rfl, ⟨outcome, inits⟩, List.replicate 100 0, size.symm, ?_⟩
  rintro slot ⟨later, ⟨-, delivered⟩, -, counted⟩
  have dropped : after.transport.internalSubHandler slot (List.replicate 100 0) = none := by
    rw [ZenohTransport.internalSubHandler]
    cases (after.transport.subPool slot).userCb <;> rfl
  rw [dropped] at delivered
  rw [delivered] at counted
  simp at counted

open ClientWorld in
theorem initialized_client_receives_commands_iff_byte :
    ∃ before after : ClientWorld (Kconfig.default .tier2) (fun _ : Unit => RawCodec.state 1)
        (fun _ => RawCodec.command 1),
      (clientWorlds _ _ _).Reachable before ∧
      (∃ outcome, before.Step (.init () 1000 () () (Block.filled _ 0) outcome 0) after) ∧
      ∃ slot, after.Stores () slot [7] := by
  let outcome : ClientOutcome :=
    ⟨⟨true, true, true, true, []⟩, ⟨true, true, [], []⟩, ⟨true, true, [], []⟩⟩
  obtain ⟨after, inits, size⟩ := exists_first_init (Kconfig.default .tier2)
    (fun _ : Unit => RawCodec.state 1) (fun _ => RawCodec.command 1) () 1000 () ()
    (Block.filled _ 0) outcome 0 (·.cmdPayloadSize) 1 (by decide +kernel)
  obtain ⟨slot, -, -, stores⟩ := (initialized_client_receives_commands_iff
    (Kconfig.default_admitted .tier2) (.start rfl) inits (.nil after) (by simp)).mpr
      ⟨1, rfl, by decide⟩
  exact ⟨_, after, .start rfl, ⟨outcome, inits⟩, slot, stores [7] size.symm⟩

end Zenbedded
