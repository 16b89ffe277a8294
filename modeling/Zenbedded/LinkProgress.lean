import Zenbedded.LinkCommands
import Zenbedded.StateDoubleBuffering

/-!
# Progress of the link

Whatever happened on a link before, a state that the firmware writes and a command that the
host writes get to the other end once they are put, carried and read.
-/

namespace Zenbedded

open ByteBlock ZenbeddedHardware

/-! ## Reading a command -/

namespace Tier2Client

variable {kconfig : Kconfig} {header : CHeader} {client : Tier2Client kconfig header}

theorem exists_readCommand (up : client.initialized = true) (sized : client.Sized)
    (tmp : Block UInt8 kconfig.maxCmdBufferSize) (fuel : Nat)
    (old : Block UInt8 (structSize header.command)) :
    ∃ out : Block UInt8 (structSize header.command),
      client.readCommand tmp (fuel + 1) old = some (true, out) := by
  have fits := sized.commandFits
  obtain ⟨raw, -, rawEq⟩ := client.cmdBuffer.readUntilDone_of_fits fits fits tmp
  let out : Block UInt8 (structSize header.command) :=
    ⟨raw.bytes.take (structSize header.command), by simpa using fits⟩
  have front : raw.bytes.take (structSize header.command) = out.bytes := rfl
  refine ⟨out, ?_⟩
  unfold ZenbeddedClient.readCommand
  rw [if_neg (by simp [up]), ZenbeddedClientBase.readLatestCommandRaw_eq, sized.command, rawEq]
  exact rawCodec_read client.cmdCtx fits front old

end Tier2Client

/-- What the command interfaces ask for: their numbers, and the last commands for the rest. -/
def ZenbeddedHardware.requestedCommands (hw : ZenbeddedHardware) : List (String × UInt64) :=
  List.zipWith (fun interface command =>
    (interface.memberName, if isNan interface.value then command else interface.value))
    hw.commandInterfaces hw.hwCommands

/-- Interfaces that all hold numbers ask for these. -/
theorem requestedCommands_of_numbers {state command : List FieldSpec} {hw : ZenbeddedHardware}
    (allocated : hw.Allocated state command)
    (numbers : ∀ interface ∈ hw.commandInterfaces, isNan interface.value = false) :
    hw.requestedCommands =
      hw.commandInterfaces.map fun interface => (interface.memberName, interface.value) := by
  have count := allocated.hwCommands.trans allocated.commandInterfaces.symm
  refine List.ext_getElem (by simp [ZenbeddedHardware.requestedCommands, count]) ?_
  intro index inRequested inInterfaces
  have number := numbers _ (List.getElem_mem (by simpa using inInterfaces))
  simp [ZenbeddedHardware.requestedCommands, number]

theorem namedCommands_written (hw : ZenbeddedHardware) (payload : List UInt8) :
    ZenbeddedHardware.namedCommands { hw with
      hwCommands := hw.writtenCommands, commandBuffer := payload } = hw.requestedCommands := by
  refine List.ext_getElem? fun index => ?_
  simp only [namedCommands, requestedCommands, writtenCommands, List.getElem?_zipWith',
    List.getElem?_mapIdx]
  cases interfaceAt : hw.commandInterfaces[index]? with
  | none => rfl
  | some interface =>
      cases valueAt : hw.hwCommands[index]? with
      | none => rfl
      | some value =>
          simp only [Option.map_some, Option.bind_some, takenCommand, interfaceAt]

theorem structSize_pos (members : List CMember) : 0 < structSize members := by
  cases members with
  | nil => exact Nat.one_pos
  | cons member members =>
      have first : 0 < member.type.sizeof := by cases member.type <;> decide
      simp only [structSize, memberWidths, List.map_cons, List.sum_cons, reduceCtorEq, if_false]
      omega

namespace LinkWorld

variable {casts : Casts} {yaml : YamlCpp} {files : String → Option String} {kconfig : Kconfig}
  {root : YamlNode} {header : CHeader} {world : LinkWorld kconfig header}

/-! ## Steps of the firmware -/

theorem exists_writeState
    (reached : (orderedLink casts yaml files kconfig root header).Reachable world)
    (up : world.client.initialized = true) (value : Block UInt8 (structSize header.state)) :
    ∃ after : LinkWorld kconfig header,
      (orderedLink casts yaml files kconfig root header).step world
        (.firmware (.call () (.writeState value))) after ∧
      after.host = world.host ∧ after.shown = world.shown ∧
      after.statesCarried = world.statesCarried ∧ after.statePuts = world.statePuts ∧
      after.client.initialized = true ∧
      after.client.stateBuffer.latest.bytes.take (structSize header.state) = value.bytes := by
  have sized := Tier2Client.sized_of_reachable (reachable_firmware reached.of_restrict) up
  obtain ⟨written, writeEq, -⟩ := rawCodec_write value
    (world.client.stateBuffer.buffer world.client.stateBuffer.prepareWrite) sized.stateFits
  have applied := ZenbeddedClient.writeState_of_write up writeEq
  have contents := (Tier2Client.latest_of_writeState up sized.stateFits applied).2
  refine ⟨_, ⟨trivial, trivial, _, ⟨_, applied, rfl⟩, rfl⟩, rfl, rfl, rfl, rfl, ?_⟩
  simp only [LinkWorld.client, ClientWorld.client_setClient_self]
  exact ⟨up, contents⟩

theorem exists_publishState (admitted : kconfig.Admitted)
    (reached : (orderedLink casts yaml files kconfig root header).Reachable world)
    (up : world.client.initialized = true) (tmp : Block UInt8 kconfig.maxStateBufferSize)
    (timestampNs : Int64) (ok : Bool) :
    ∃ status, ∃ after : LinkWorld kconfig header,
      (orderedLink casts yaml files kconfig root header).step world
        (.firmware (.publishState () tmp 1 timestampNs ok status)) after ∧
      after.host = world.host ∧ after.shown = world.shown ∧
      after.statesCarried = world.statesCarried ∧ after.client.initialized = true ∧
      after.statePuts = world.statePuts ++
        [world.client.stateBuffer.latest.bytes.take (structSize header.state)] := by
  have firmware := reachable_firmware reached.of_restrict
  have sized : world.client.Sized := Tier2Client.sized_of_reachable firmware up
  have linked := (ClientWorld.linked_invariant admitted).reachable firmware
  obtain ⟨slot, ownsPub, used⟩ := linked.pub () up
  obtain ⟨status, transport, entity, attachment, published, logged⟩ :=
    ZenbeddedClientBase.zenohPublishState_sends up (sized.state.trans_le sized.stateFits) ownsPub
      used tmp 0 timestampNs ok
  refine ⟨status, _, ⟨trivial, trivial, _, ⟨transport, published, rfl⟩, rfl⟩, rfl, rfl, rfl, up, ?_⟩
  simp only [statePuts, ZenohTransport.puts, logged, List.filterMap_append, List.map_append]
  rw [sized.state]
  rfl

/-! ## States -/

theorem exists_carryState
    (reached : (orderedLink casts yaml files kconfig root header).Reachable world)
    (subscribed : world.host.hardware.stateSub ≠ none) {front : List (List UInt8)}
    {payload : List UInt8} (puts : world.statePuts = front ++ [payload])
    (behind : world.statesCarried ≤ front.length)
    (fits : payload.length = world.host.hardware.schema.stateBufferSize) :
    ∃ after : LinkWorld kconfig header,
      (orderedLink casts yaml files kconfig root header).step world (.carryState front.length)
        after ∧
      after.firmware = world.firmware ∧ after.shown = world.shown ∧
      after.host.hardware.stateSub ≠ none ∧ after.host.latestSample = payload := by
  obtain ⟨state, command, -, allocated⟩ := exists_specs reached.of_restrict
  obtain ⟨host, nextEq, change⟩ := hardwareChange_deliver casts state world.host payload
  have found : world.statePuts[front.length]? = some payload := by simp [puts]
  refine ⟨_, ⟨behind, payload, host, found, nextEq, rfl⟩, rfl, rfl, ?_⟩
  have schema := (allocated.of_next nextEq).schema.trans allocated.schema.symm
  cases change with
  | unheard unsubscribed => exact absurd unsubscribed subscribed
  | dropped _ misfits => exact absurd fits misfits
  | stored => exact ⟨subscribed, latestSample_append_of_fits world.host schema rfl fits⟩

theorem exists_read
    (reached : (orderedLink casts yaml files kconfig root header).Reachable world) :
    ∃ after : LinkWorld kconfig header,
      (orderedLink casts yaml files kconfig root header).step world (.host (.read true)) after ∧
      after.firmware = world.firmware ∧
      after.host.hardware.stateSub = world.host.hardware.stateSub ∧
      after.shown = world.shown ++
        [structStates casts header.state world.host.latestSample] := by
  obtain ⟨state, command, headerEq, allocated⟩ := exists_specs reached.of_restrict
  have reachedHost := reachable_host reached.of_restrict
  obtain ⟨hardware, readEq, read⟩ := allocated.read_hit casts
  have nextEq := HardwareWorld.next_read readEq
  have isLocal (bytes : List UInt8) : HardwareEvent.read true ≠ .deliver bytes := nofun
  have sameSub : hardware.stateSub = world.host.hardware.stateSub := by rw [read.frame]
  refine ⟨_, ⟨trivial, isLocal, _, nextEq, rfl⟩, rfl, sameSub, ?_⟩
  have members : header.state = state.map FieldSpec.member := by
    rw [headerEq]
    rfl
  rw [members, ← namedStates_of_read reachedHost allocated nextEq]
  rfl

/-- A state that is written now is shown after one round over the link. -/
theorem exists_shown (admitted : kconfig.Admitted)
    (reached : (orderedLink casts yaml files kconfig root header).Reachable world)
    (up : world.client.initialized = true) (subscribed : world.host.hardware.stateSub ≠ none)
    (someState : header.state ≠ []) (value : Block UInt8 (structSize header.state))
    (tmp : Block UInt8 kconfig.maxStateBufferSize) (timestampNs : Int64) (ok : Bool) :
    ∃ status, ∃ after : LinkWorld kconfig header,
      (orderedLink casts yaml files kconfig root header).Run world
        [.firmware (.call () (.writeState value)),
          .firmware (.publishState () tmp 1 timestampNs ok status),
          .carryState world.statePuts.length, .host (.read true)] after ∧
      after.shown = world.shown ++ [structStates casts header.state value.bytes] ∧
      after.client.initialized = true ∧ after.host.hardware.stateSub ≠ none := by
  obtain ⟨wrote, writeStep, host, shown, carried, puts, stillUp, contents⟩ :=
    exists_writeState reached up value
  obtain ⟨status, published, publishStep, hostP, shownP, carriedP, upP, putsP⟩ :=
    exists_publishState admitted (reached.step writeStep) stillUp tmp timestampNs ok
  rw [contents, puts] at putsP
  have inside := (received_carried reached).inside
  obtain ⟨state, command, headerEq, allocated⟩ := exists_specs reached.of_restrict
  have fits : value.bytes.length = published.host.hardware.schema.stateBufferSize := by
    rw [hostP, host, allocated.schema, value.length_bytes]
    subst headerEq
    refine structSize_map_member ?_
    rintro rfl
    exact someState rfl
  have reachedP := (reached.step writeStep).step publishStep
  obtain ⟨delivered, carryStep, firmwareC, shownC, subscribedC, latest⟩ :=
    exists_carryState reachedP (by rw [hostP, host]; exact subscribed) putsP
      (by rw [carriedP, carried]; exact inside) fits
  obtain ⟨after, readStep, firmwareR, subR, shownR⟩ := exists_read (reachedP.step carryStep)
  refine ⟨status, after, .cons writeStep (.cons publishStep (.cons carryStep
    (.single readStep))), ?_, ?_, by rwa [subR]⟩
  · rw [shownR, shownC, shownP, shown, latest]
  · rwa [client, firmwareR, firmwareC]

/-- States that are written one after another are shown one after another. -/
theorem exists_allShown (admitted : kconfig.Admitted)
    (reached : (orderedLink casts yaml files kconfig root header).Reachable world)
    (up : world.client.initialized = true) (subscribed : world.host.hardware.stateSub ≠ none)
    (someState : header.state ≠ []) (values : List (Block UInt8 (structSize header.state)))
    (tmp : Block UInt8 kconfig.maxStateBufferSize) (timestampNs : Int64) (ok : Bool) :
    ∃ events, ∃ after : LinkWorld kconfig header,
      (orderedLink casts yaml files kconfig root header).Run world events after ∧
      after.shown =
        world.shown ++ values.map fun value => structStates casts header.state value.bytes := by
  induction values generalizing world with
  | nil => exact ⟨[], world, .nil world, by simp⟩
  | cons value values ih =>
      obtain ⟨status, middle, run, shown, upM, subscribedM⟩ :=
        exists_shown admitted reached up subscribed someState value tmp timestampNs ok
      obtain ⟨events, after, rest, shownAfter⟩ := ih (reached.run run) upM subscribedM
      exact ⟨_, after, run.append rest, by rw [shownAfter, shown]; simp⟩

/-! ## Commands -/

theorem exists_write
    (reached : (orderedLink casts yaml files kconfig root header).Reachable world)
    (declared : world.host.hardware.commandPub ≠ none) :
    ∃ payload, ∃ after : LinkWorld kconfig header,
      (orderedLink casts yaml files kconfig root header).step world (.host .write) after ∧
      after.firmware = world.firmware ∧ after.taken = world.taken ∧
      after.commandsCarried = world.commandsCarried ∧
      after.host.hardware.commandPub ≠ none ∧
      after.host.hardware.commandInterfaces = world.host.hardware.commandInterfaces ∧
      after.host.published = world.host.published ++ [payload] ∧
      payload.length = world.host.hardware.schema.commandBufferSize ∧
      structCommands header.command payload =
        castCommands casts header.command world.host.hardware.requestedCommands := by
  obtain ⟨state, command, headerEq, allocated⟩ := exists_specs reached.of_restrict
  obtain ⟨commandPub, pubEq⟩ := Option.ne_none_iff_exists'.mp declared
  obtain ⟨payload, writeEq, size, encodes⟩ := allocated.write_published casts pubEq
  have nextEq := HardwareWorld.next_write writeEq
  have named : ZenbeddedHardware.Named { world.host.hardware with
      hwCommands := world.host.hardware.writtenCommands, commandBuffer := payload } :=
    (interfaces_keep_their_names casts yaml files).reachable
      ((reachable_host reached.of_restrict).step nextEq)
  have isLocal (bytes : List UInt8) : HardwareEvent.write ≠ .deliver bytes := nofun
  refine ⟨payload, _, ⟨trivial, isLocal, _, nextEq, rfl⟩, rfl, rfl, rfl, declared, rfl, rfl,
    size, ?_⟩
  have holds := structCommands_of_encodes (allocated.of_next nextEq) named encodes
  rw [namedCommands_written] at holds
  have members : header.command = command.map FieldSpec.member := by
    rw [headerEq]
    rfl
  rw [members]
  exact holds

theorem exists_carryCommand (admitted : kconfig.Admitted)
    (reached : (orderedLink casts yaml files kconfig root header).Reachable world)
    (up : world.client.initialized = true) {front : List (List UInt8)} {payload : List UInt8}
    (puts : world.host.published = front ++ [payload])
    (behind : world.commandsCarried ≤ front.length)
    (size : payload.length = structSize header.command)
    (received : structSize header.command ≤ kconfig.maxRxBufferSize) :
    ∃ slot, ∃ after : LinkWorld kconfig header,
      (orderedLink casts yaml files kconfig root header).step world
        (.carryCommand front.length slot) after ∧
      after.host = world.host ∧ after.taken = world.taken ∧ after.client.initialized = true ∧
      after.client.cmdBuffer.latest.bytes.take (structSize header.command) = payload := by
  have firmware := reachable_firmware reached.of_restrict
  have sized : world.client.Sized := Tier2Client.sized_of_reachable firmware up
  have linked := (ClientWorld.linked_invariant admitted).reachable firmware
  obtain ⟨slot, -, feeds⟩ := linked.sub () up
  have sameSize : payload.length = world.client.cmdPayloadSize := size.trans sized.command.symm
  obtain ⟨cmdBuffer, applied, contents⟩ := ClientCall.apply_of_same_size sameSize
    (sized.command.trans_le sized.commandFits)
  have found : world.host.published[front.length]? = some payload := by simp [puts]
  have positive : 0 < structSize header.command := structSize_pos header.command
  have handled := ClientWorld.handler_of_feeds feeds payload
  rw [if_pos (by omega)] at handled
  have sampled : world.firmware.Step (.sample slot payload) (world.firmware.setClient ()
      { world.client with cmdBuffer, cmdAcceptedCount := world.client.cmdAcceptedCount + 1 }) := by
    refine ⟨feeds.1, ?_⟩
    rw [handled]
    exact ⟨_, applied, rfl⟩
  refine ⟨slot, _, ⟨behind, payload, _, found, sampled, rfl⟩, rfl, rfl, ?_⟩
  simp only [LinkWorld.client, ClientWorld.client_setClient_self]
  rw [sized.command] at contents
  exact ⟨up, contents⟩

theorem exists_readCommand
    (reached : (orderedLink casts yaml files kconfig root header).Reachable world)
    (up : world.client.initialized = true) (tmp : Block UInt8 kconfig.maxCmdBufferSize)
    (old : Block UInt8 (structSize header.command)) :
    ∃ out, ∃ after : LinkWorld kconfig header,
      (orderedLink casts yaml files kconfig root header).step world
        (.readCommand tmp 1 old true) after ∧
      after.host = world.host ∧ after.firmware = world.firmware ∧
      after.taken = world.taken ++ [out] ∧
      out.bytes = world.client.cmdBuffer.latest.bytes.take (structSize header.command) := by
  have sized : world.client.Sized :=
    Tier2Client.sized_of_reachable (reachable_firmware reached.of_restrict) up
  obtain ⟨out, readEq⟩ := Tier2Client.exists_readCommand up sized tmp 0 old
  exact ⟨out, _, ⟨trivial, out, readEq, rfl⟩, rfl, rfl, rfl,
    (Tier2Client.bytes_of_readCommand sized readEq).2⟩

/-- A command that is written now is read after one round over the link. -/
theorem exists_taken (admitted : kconfig.Admitted)
    (reached : (orderedLink casts yaml files kconfig root header).Reachable world)
    (up : world.client.initialized = true) (declared : world.host.hardware.commandPub ≠ none)
    (someCommand : header.command ≠ [])
    (received : structSize header.command ≤ kconfig.maxRxBufferSize)
    (tmp : Block UInt8 kconfig.maxCmdBufferSize)
    (old : Block UInt8 (structSize header.command)) :
    ∃ slot out, ∃ after : LinkWorld kconfig header,
      (orderedLink casts yaml files kconfig root header).Run world
        [.host .write, .carryCommand world.host.published.length slot,
          .readCommand tmp 1 old true] after ∧
      after.taken = world.taken ++ [out] ∧ structCommands header.command out.bytes =
        castCommands casts header.command world.host.hardware.requestedCommands ∧
      after.client.initialized = true ∧ after.host.hardware.commandPub ≠ none ∧
      after.host.hardware.commandInterfaces = world.host.hardware.commandInterfaces := by
  obtain ⟨payload, wrote, writeStep, firmware, taken, carried, declaredW, interfaces, puts, size,
      holds⟩ :=
    exists_write reached declared
  obtain ⟨state, command, headerEq, allocated⟩ := exists_specs reached.of_restrict
  have length : payload.length = structSize header.command := by
    rw [size, allocated.schema]
    subst headerEq
    refine (structSize_map_member ?_).symm
    rintro rfl
    exact someCommand rfl
  have stillUp : wrote.client.initialized = true := by
    rw [LinkWorld.client, firmware]
    exact up
  obtain ⟨slot, stored, carryStep, hostC, takenC, upC, contents⟩ := exists_carryCommand admitted
    (reached.step writeStep) stillUp puts
    (carried.trans_le (stored_carried reached).inside) length received
  obtain ⟨out, after, readStep, hostR, firmwareR, takenR, outEq⟩ :=
    exists_readCommand ((reached.step writeStep).step carryStep) upC tmp old
  refine ⟨slot, out, after, .cons writeStep (.cons carryStep (.single readStep)), ?_, ?_, ?_, ?_,
    ?_⟩
  · rw [takenR, takenC, taken]
  · rw [outEq, contents, holds]
  · rwa [client, firmwareR]
  · rwa [hostR, hostC]
  · rw [hostR, hostC, interfaces]

end LinkWorld

end Zenbedded
