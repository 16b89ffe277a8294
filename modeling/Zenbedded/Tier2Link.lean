import Zenbedded.PayloadSizes
import Zenbedded.ZenohTransportPuts

/-!
# The Tier 2 link

A host with its hardware interface, a firmware with its client, and a network between them.
The network hands over payloads that the other end put, in any order, any number of times or
never.  A network that keeps the order hands over none twice and none behind a later one.
-/

namespace Zenbedded

open ByteBlock ByteOrder PackedRecord

/-! ## Named values -/

/-- The members of a packed struct with their bits. -/
def structMembers (members : List CMember) (bytes : List UInt8) : List (CMember × Nat) :=
  members.mapIdx fun index member =>
    (member, littleEndianValue
      ((bytes.drop (offset (memberWidths members) index)).take member.type.sizeof))

/-- The members of a state as the host converts them, under their names. -/
def structStates (casts : Casts) (members : List CMember) (bytes : List UInt8) :
    List (String × UInt64) :=
  (structMembers members bytes).map fun entry =>
    (entry.1.name, casts.toDouble entry.1.type entry.2)

/-- The members of a command, under their names. -/
def structCommands (members : List CMember) (bytes : List UInt8) : List (String × Nat) :=
  (structMembers members bytes).map fun entry => (entry.1.name, entry.2)

/-- Named commands in the types of the members that they are for. -/
def castCommands (casts : Casts) (members : List CMember)
    (commands : List (String × UInt64)) : List (String × Nat) :=
  List.zipWith (fun member command => (command.1, casts.ofDouble member.type command.2)) members
    commands

def InterfaceHandle.memberName (interface : InterfaceHandle) : String :=
  interface.component ++ "_" ++ interface.field

namespace ZenbeddedHardware

def namedStates (hw : ZenbeddedHardware) : List (String × UInt64) :=
  hw.stateInterfaces.map fun interface => (interface.memberName, interface.value)

def namedCommands (hw : ZenbeddedHardware) : List (String × UInt64) :=
  List.zipWith (fun interface command => (interface.memberName, command)) hw.commandInterfaces
    hw.hwCommands

end ZenbeddedHardware

/-! ## Both ends -/

abbrev Tier2Client (kconfig : Kconfig) (header : CHeader) :=
  ZenbeddedClient kconfig (RawCodec.state (structSize header.state))
    (RawCodec.command (structSize header.command))

abbrev Tier2Action (kconfig : Kconfig) (header : CHeader) :=
  ClientWorldAction kconfig (fun _ : Unit => RawCodec.state (structSize header.state))
    fun _ : Unit => RawCodec.command (structSize header.command)

namespace Tier2Action

variable {kconfig : Kconfig} {header : CHeader}

/-- What the firmware does of its own; samples come from the network. -/
def Local : Tier2Action kconfig header → Prop
  | .sample _ _ => False
  | .call _ (.onTransportCmdCb _) => False
  | _ => True

/-- An initialization of a client that is not initialized empties its buffers. -/
def restarts (client : Tier2Client kconfig header) : Tier2Action kconfig header → Bool
  | .init .. => !client.initialized
  | _ => false

/-- What an action writes to the state buffer; a restart writes zeros. -/
def written (client : Tier2Client kconfig header) :
    Tier2Action kconfig header → List (Block UInt8 (structSize header.state))
  | .init .. => if client.initialized then [] else [Block.filled _ 0]
  | .call _ (.writeState value) => if client.initialized then [value] else []
  | _ => []

end Tier2Action

/-- Both ends of a link with what they have done so far. -/
structure LinkWorld (kconfig : Kconfig) (header : CHeader) where
  host : HardwareWorld
  firmware : Tier2World kconfig Unit header
  /-- How many of the firmware's puts lie behind the network, in their order. -/
  statesCarried : Nat
  /-- How many of the host's puts lie behind the network, in their order. -/
  commandsCarried : Nat
  /-- The states that the firmware wrote. -/
  written : List (Block UInt8 (structSize header.state))
  /-- What the state interfaces showed behind each read that got the lock. -/
  shown : List (List (String × UInt64))
  /-- The commands of each write that was put. -/
  commanded : List (List (String × UInt64))
  /-- The payloads that the client stored since its buffers were emptied. -/
  stored : List (List UInt8)
  /-- The commands that the firmware read since then. -/
  taken : List (Block UInt8 (structSize header.command))

inductive LinkEvent (kconfig : Kconfig) (header : CHeader)
  | host (event : HardwareEvent)
  | firmware (action : Tier2Action kconfig header)
  | readCommand (tmp : Block UInt8 kconfig.maxCmdBufferSize) (fuel : Nat)
      (out : Block UInt8 (structSize header.command)) (accepted : Bool)
  | carryState (place : Nat)
  | carryCommand (place : Nat) (slot : Fin kconfig.maxSubscribers)

namespace LinkWorld

variable {kconfig : Kconfig} {header : CHeader}

def client (world : LinkWorld kconfig header) : Tier2Client kconfig header :=
  world.firmware.client ()

def statePuts (world : LinkWorld kconfig header) : List (List UInt8) :=
  world.firmware.transport.puts.map ZenohPut.payload

def newlyShown (host : HardwareWorld) : HardwareEvent → List (List (String × UInt64))
  | .read true => [host.hardware.namedStates]
  | _ => []

def newlyCommanded (before after : HardwareWorld) : List (List (String × UInt64)) :=
  if after.published.length = before.published.length then [] else [after.hardware.namedCommands]

/-- One event.  A payload goes over the network when it was put, whatever came before. -/
def Step (casts : Casts) (before : LinkWorld kconfig header) :
    LinkEvent kconfig header → LinkWorld kconfig header → Prop
  | .host event, after =>
      (∀ bytes, event ≠ .deliver bytes) ∧ ∃ host, before.host.next casts event = some host ∧
        after = { before with
          host
          shown := before.shown ++ newlyShown host event
          commanded := before.commanded ++ newlyCommanded before.host host }
  | .firmware action, after =>
      action.Local ∧ ∃ firmware, before.firmware.Step action firmware ∧
        after = { before with
          firmware
          written := before.written ++ action.written before.client
          stored := if action.restarts before.client then [] else before.stored
          taken := if action.restarts before.client then [] else before.taken }
  | .readCommand tmp fuel old accepted, after =>
      ∃ out : Block UInt8 (structSize header.command),
        before.client.readCommand tmp fuel old = some (accepted, out) ∧
        after = { before with taken := before.taken ++ if accepted then [out] else [] }
  | .carryState place, after =>
      ∃ payload host, before.statePuts[place]? = some payload ∧
        before.host.next casts (.deliver payload) = some host ∧
        after = { before with host, statesCarried := place + 1 }
  | .carryCommand place slot, after =>
      ∃ payload firmware, before.host.published[place]? = some payload ∧
        before.firmware.Step (.sample slot payload) firmware ∧
        after = { before with
          firmware
          commandsCarried := place + 1
          stored := before.stored ++
            if (firmware.client ()).cmdAcceptedCount = before.client.cmdAcceptedCount then []
            else [payload] }

/-- A network that keeps the order of what it hands over. -/
def InOrder (world : LinkWorld kconfig header) : LinkEvent kconfig header → Prop
  | .carryState place => world.statesCarried ≤ place
  | .carryCommand place _ => world.commandsCarried ≤ place
  | _ => True

end LinkWorld

/-- A host and a firmware that were both made from one document. -/
def tier2Link (casts : Casts) (yaml : YamlCpp) (files : String → Option String)
    (kconfig : Kconfig) (root : YamlNode) (header : CHeader) :
    StepSystem (LinkWorld kconfig header) (LinkEvent kconfig header) where
  start world := ∃ host what, (hardwareSystem casts yaml files).start host ∧
    host.hardware.schema = .fromRoot root what ∧ generateHeader root = .ok header ∧
    world = {
      host
      firmware := ⟨fun _ => .construct, .zero⟩
      statesCarried := 0
      commandsCarried := 0
      written := []
      shown := []
      commanded := []
      stored := []
      taken := [] }
  step := LinkWorld.Step casts

def orderedLink (casts : Casts) (yaml : YamlCpp) (files : String → Option String)
    (kconfig : Kconfig) (root : YamlNode) (header : CHeader) :
    StepSystem (LinkWorld kconfig header) (LinkEvent kconfig header) :=
  (tier2Link casts yaml files kconfig root header).restrict LinkWorld.InOrder

/-! ## A client with packed structs -/

namespace Tier2Client

variable {kconfig : Kconfig} {header : CHeader} {client after : Tier2Client kconfig header}

theorem same_of_init {UserData : Type} {self : UserData}
    {transport opened : ZenohTransport kconfig RecvCb UserData} {controlFreq : UInt32}
    {cmdLayoutScratch : Block UInt8 kconfig.maxCmdBufferSize} {outcome : ClientOutcome}
    {status : Int} (up : client.initialized = true)
    (ended : client.init self transport controlFreq () () cmdLayoutScratch outcome =
      some (status, after, opened)) : after = client := by
  unfold ZenbeddedClient.init at ended
  rw [if_pos up] at ended
  cases ended
  rfl

theorem latest_of_init {UserData : Type} {self : UserData}
    {transport opened : ZenohTransport kconfig RecvCb UserData} {controlFreq : UInt32}
    {cmdLayoutScratch : Block UInt8 kconfig.maxCmdBufferSize} {outcome : ClientOutcome}
    {status : Int} (fresh : client.initialized = false)
    (ended : client.init self transport controlFreq () () cmdLayoutScratch outcome =
      some (status, after, opened)) (up : after.initialized = true) :
    after.stateBuffer.latest = Block.filled _ 0 ∧ after.cmdBuffer.latest = Block.filled _ 0 := by
  obtain ⟨_, first, second, _, firstEq, -, -, -, -, -, -, stateBuffer, cmdBuffer, -⟩ :=
    ZenbeddedClient.init_up self transport controlFreq outcome fresh ended up
  cases firstEq
  rw [stateBuffer, cmdBuffer]
  exact ⟨rfl, rfl⟩

/-- An initialized client has the sizes of its structs, which fit its buffers. -/
structure Sized (client : Tier2Client kconfig header) : Prop where
  state : client.statePayloadSize = structSize header.state
  command : client.cmdPayloadSize = structSize header.command
  stateFits : structSize header.state ≤ kconfig.maxStateBufferSize
  commandFits : structSize header.command ≤ kconfig.maxCmdBufferSize

theorem sized_of_init {UserData : Type} {self : UserData}
    {transport opened : ZenohTransport kconfig RecvCb UserData} {controlFreq : UInt32}
    {cmdLayoutScratch : Block UInt8 kconfig.maxCmdBufferSize} {outcome : ClientOutcome}
    {status : Int} (fresh : client.initialized = false)
    (ended : client.init self transport controlFreq () () cmdLayoutScratch outcome =
      some (status, after, opened)) (up : after.initialized = true) : Sized after := by
  obtain ⟨_, _, _, _, -, -, -, state, command, stateFits, commandFits, -⟩ :=
    ZenbeddedClient.init_up self transport controlFreq outcome fresh ended up
  exact ⟨state, command, state.symm.trans_le stateFits, command.symm.trans_le commandFits⟩

theorem latest_of_writeState (up : client.initialized = true)
    (fits : structSize header.state ≤ kconfig.maxStateBufferSize)
    {value : Block UInt8 (structSize header.state)}
    (written : client.writeState value = some after) :
    after = { client with stateBuffer := after.stateBuffer } ∧
      after.stateBuffer.latest.bytes.take (structSize header.state) = value.bytes := by
  obtain ⟨slot, writeEq, contents⟩ := rawCodec_write value
    (client.stateBuffer.buffer client.stateBuffer.prepareWrite) fits
  cases (ZenbeddedClient.writeState_of_write up writeEq).symm.trans written
  refine ⟨rfl, ?_⟩
  dsimp only
  rw [DoubleByteBuffer.latest_commitWrite_setSlot]
  exact contents

theorem sized_of_reachable {world : Tier2World kconfig Unit header}
    (reached : (tier2Worlds kconfig Unit header).Reachable world)
    (up : (world.client ()).initialized = true) : Sized (world.client ()) := by
  obtain ⟨state, command⟩ := ClientWorld.sizedByCodecs_invariant.reachable reached () up
  obtain ⟨stateFits, commandFits⟩ :=
    ClientWorld.payloadsFitBuffers_invariant.reachable reached () up
  exact ⟨state, command, state.symm.trans_le stateFits, command.symm.trans_le commandFits⟩

/-- A delivery concerns the commands only. -/
theorem apply_onTransportCmdCb {payload : List UInt8}
    (applied : (ClientCall.onTransportCmdCb payload).apply client = some after) :
    after.initialized = client.initialized ∧ after.stateBuffer = client.stateBuffer := by
  obtain ⟨base, called, stored⟩ := Option.bind_eq_some_iff.mp applied
  cases stored
  rw [ZenbeddedClientBase.onTransportCmdCb] at called
  split at called
  · cases called
    exact ⟨rfl, rfl⟩
  · obtain ⟨written, -, counted⟩ := Option.bind_eq_some_iff.mp called
    cases counted
    exact ⟨rfl, rfl⟩

/-- A delivery to an initialized client is dropped, or stored and counted. -/
theorem stored_of_delivery (up : client.initialized = true) (sized : client.Sized)
    {payload : List UInt8}
    (applied : (ClientCall.onTransportCmdCb payload).apply client = some after) :
    after = client ∨ after.initialized = true ∧
      after.cmdAcceptedCount = client.cmdAcceptedCount + 1 ∧
      after.cmdBuffer.latest.bytes.take (structSize header.command) = payload := by
  by_cases sameSize : payload.length = client.cmdPayloadSize
  · obtain ⟨cmdBuffer, stored, contents⟩ := ClientCall.apply_of_same_size sameSize
      (sized.command.trans_le sized.commandFits)
    cases stored.symm.trans applied
    rw [sized.command] at contents
    exact .inr ⟨up, rfl, contents⟩
  · cases (ClientCall.apply_of_other_size sameSize).symm.trans applied
    exact .inl rfl

/-- A read answers the front of the slot that is shown. -/
theorem bytes_of_readCommand (sized : client.Sized)
    {tmp : Block UInt8 kconfig.maxCmdBufferSize} {fuel : Nat}
    {old out : Block UInt8 (structSize header.command)}
    (read : client.readCommand tmp fuel old = some (true, out)) :
    client.initialized = true ∧
      out.bytes = client.cmdBuffer.latest.bytes.take (structSize header.command) := by
  have fits := sized.commandFits
  unfold ZenbeddedClient.readCommand at read
  split at read
  case isTrue => cases read
  case isFalse up =>
    obtain ⟨raw, rawEq, read⟩ := Option.bind_eq_some_iff.mp read
    rw [sized.command] at rawEq read
    have contents : raw.bytes.take (structSize header.command) =
        client.cmdBuffer.latest.bytes.take (structSize header.command) := by
      rw [ZenbeddedClientBase.readLatestCommandRaw_eq] at rawEq
      cases fuel with
      | zero => cases rawEq
      | succ fuel =>
          obtain ⟨once, onceEq, untilEq⟩ := client.cmdBuffer.readUntilDone_of_fits fits fits tmp
          obtain ⟨other, otherEq, contents⟩ := client.cmdBuffer.readLatest_spec tmp fits fits
          cases onceEq.symm.trans otherEq
          cases (untilEq fuel).symm.trans rawEq
          exact contents
    let value : Block UInt8 (structSize header.command) :=
      ⟨raw.bytes.take (structSize header.command), by simpa using fits⟩
    have front : raw.bytes.take (structSize header.command) = value.bytes := rfl
    have decoded := (rawCodec_read client.cmdCtx fits front old).symm.trans read
    have same : value = out := congrArg Prod.snd (Option.some.inj decoded)
    exact ⟨by simpa using up, by rw [← same]; exact contents⟩

/-- A sample is for nobody, or it is delivered to the client. -/
theorem sample_cases {before after : Tier2World kconfig Unit header}
    {slot : Fin kconfig.maxSubscribers} {payload : List UInt8}
    (steps : before.Step (.sample slot payload) after) :
    after = before ∨ ∃ client : Tier2Client kconfig header,
      (ClientCall.onTransportCmdCb payload).apply (before.client ()) = some client ∧
        after = before.setClient () client := by
  obtain ⟨-, delivered⟩ := steps
  split at delivered
  case h_1 => exact .inl delivered
  case h_2 => exact delivered.elim
  case h_3 received id handled =>
    obtain ⟨client, applied, afterEq⟩ := delivered
    obtain ⟨callback, -, handled⟩ := Option.bind_eq_some_iff.mp handled
    split at handled
    case isTrue => cases handled
    case isFalse =>
      obtain ⟨-, rest⟩ := Prod.mk.inj (Option.some.inj handled)
      obtain ⟨rfl, -⟩ := Prod.mk.inj rest
      exact .inr ⟨client, applied, afterEq⟩

end Tier2Client

/-! ## The ends by themselves -/

/-- Schemas that are the same are laid out from as many fields and bytes. -/
theorem ZenbeddedHardware.Allocated.of_schema {own ownCommand state command : List FieldSpec}
    {hw : ZenbeddedHardware} (allocated : hw.Allocated own ownCommand)
    (schema : hw.schema = .ofSpecs state command) : hw.Allocated state command := by
  have same := allocated.schema.symm.trans schema
  have states := congrArg (·.stateFlatFields.length) same
  have commands := congrArg (·.commandFlatFields.length) same
  simp only [InterfaceSchema.ofSpecs, length_layout] at states commands
  exact {
    schema
    hwStates := allocated.hwStates.trans states
    hwCommands := allocated.hwCommands.trans commands
    stateBuffer := allocated.stateBuffer.trans (congrArg (·.stateBufferSize) same)
    commandBuffer := allocated.commandBuffer.trans (congrArg (·.commandBufferSize) same)
    stateInterfaces := allocated.stateInterfaces.trans states
    commandInterfaces := allocated.commandInterfaces.trans commands }

namespace LinkWorld

variable {casts : Casts} {yaml : YamlCpp} {files : String → Option String} {kconfig : Kconfig}
  {root : YamlNode} {header : CHeader} {world : LinkWorld kconfig header}

theorem reachable_host
    (reached : (tier2Link casts yaml files kconfig root header).Reachable world) :
    (hardwareSystem casts yaml files).Reachable world.host := by
  induction reached with
  | start starts =>
      obtain ⟨host, what, hostStarts, -, -, rfl⟩ := starts
      exact .start hostStarts
  | @step before after event _ steps ih =>
      cases event with
      | host event =>
          obtain ⟨-, host, nextEq, rfl⟩ := steps
          exact ih.step nextEq
      | firmware action =>
          obtain ⟨-, firmware, -, rfl⟩ := steps
          exact ih
      | readCommand tmp fuel old accepted =>
          obtain ⟨out, -, rfl⟩ := steps
          exact ih
      | carryState place =>
          obtain ⟨payload, host, -, nextEq, rfl⟩ := steps
          exact ih.step nextEq
      | carryCommand place slot =>
          obtain ⟨payload, firmware, -, -, rfl⟩ := steps
          exact ih

theorem reachable_firmware
    (reached : (tier2Link casts yaml files kconfig root header).Reachable world) :
    (tier2Worlds kconfig Unit header).Reachable world.firmware := by
  induction reached with
  | start starts =>
      obtain ⟨host, what, -, -, -, rfl⟩ := starts
      exact .start rfl
  | @step before after event _ steps ih =>
      cases event with
      | host event =>
          obtain ⟨-, host, -, rfl⟩ := steps
          exact ih
      | firmware action =>
          obtain ⟨-, firmware, stepEq, rfl⟩ := steps
          exact ih.step stepEq
      | readCommand tmp fuel old accepted =>
          obtain ⟨out, -, rfl⟩ := steps
          exact ih
      | carryState place =>
          obtain ⟨payload, host, -, -, rfl⟩ := steps
          exact ih
      | carryCommand place slot =>
          obtain ⟨payload, firmware, -, stepEq, rfl⟩ := steps
          have sampled : (tier2Worlds kconfig Unit header).step before.firmware
            (.sample slot payload) firmware := stepEq
          exact ih.step sampled

/-- The fields that both ends were made for. -/
theorem exists_specs
    (reached : (tier2Link casts yaml files kconfig root header).Reachable world) :
    ∃ state command, header = .ofSpecs state command ∧
      world.host.hardware.Allocated state command := by
  induction reached with
  | start starts =>
      obtain ⟨host, what, hostStarts, schemaEq, generated, rfl⟩ := starts
      obtain ⟨base, parameters, hardware, initialized, rfl⟩ := hostStarts
      obtain ⟨own, ownCommand, holds⟩ := ZenbeddedHardware.onInit_initialized initialized
      dsimp only at schemaEq ⊢
      have valid : (InterfaceSchema.fromRoot root what).valid = true := by
        rw [← schemaEq, holds.schema]
        rfl
      obtain ⟨state, command, -, described, headerEq⟩ := specs_of_accepted valid generated
      exact ⟨state, command, headerEq, holds.toAllocated.of_schema (schemaEq.trans described)⟩
  | @step before after event _ steps ih =>
      obtain ⟨state, command, headerEq, allocated⟩ := ih
      refine ⟨state, command, headerEq, ?_⟩
      cases event with
      | host event =>
          obtain ⟨-, host, nextEq, rfl⟩ := steps
          exact allocated.of_next nextEq
      | firmware action =>
          obtain ⟨-, firmware, -, rfl⟩ := steps
          exact allocated
      | readCommand tmp fuel old accepted =>
          obtain ⟨out, -, rfl⟩ := steps
          exact allocated
      | carryState place =>
          obtain ⟨payload, host, -, nextEq, rfl⟩ := steps
          exact allocated.of_next nextEq
      | carryCommand place slot =>
          obtain ⟨payload, firmware, -, -, rfl⟩ := steps
          exact allocated

end LinkWorld

end Zenbedded
