import Zenbedded.InterfaceNames
import Zenbedded.LinkStates

/-!
# Commands over the link

Each command that the firmware reads is what one write of the host took from the command
interfaces, in the types of the struct, or zeros.  Over a network that keeps the order, the
firmware reads them in the order of the writes.
-/

namespace Zenbedded

open ByteBlock ByteOrder PackedRecord ZenbeddedHardware

/-! ## What the host puts -/

section Encoding

variable {casts : Casts} {state command : List FieldSpec} {hw : ZenbeddedHardware}

/-- A payload that encodes the commands holds them in the types of the struct. -/
theorem structCommands_of_encodes (allocated : hw.Allocated state command) (named : hw.Named)
    {payload : List UInt8} (encodes : EncodesCommands casts hw.schema hw.hwCommands payload) :
    structCommands (command.map FieldSpec.member) payload =
      castCommands casts (command.map FieldSpec.member) hw.namedCommands := by
  have names := named.commands
  rw [allocated.schema] at names encodes
  refine List.ext_getElem? fun index => ?_
  rw [structCommands, castCommands, namedCommands, List.getElem?_map, getElem?_structMembers,
    List.getElem?_zipWith', List.getElem?_zipWith', List.getElem?_map]
  rcases Nat.lt_or_ge index command.length with below | beyond
  · obtain ⟨spec, specAt⟩ : ∃ spec, command[index]? = some spec :=
      ⟨_, List.getElem?_eq_getElem below⟩
    obtain ⟨interface, interfaceAt⟩ : ∃ interface, hw.commandInterfaces[index]? = some interface :=
      ⟨_, List.getElem?_eq_getElem (allocated.commandInterfaces ▸ below)⟩
    obtain ⟨value, valueAt⟩ : ∃ value, hw.hwCommands[index]? = some value :=
      ⟨_, List.getElem?_eq_getElem (allocated.hwCommands ▸ below)⟩
    have name := memberName_of_names names interfaceAt specAt
    have field := encodes index _ value (flatField_of_spec specAt) valueAt
    have bounded := casts.ofDouble_lt (fieldTypeToCType spec.type) value
    rw [sizeof_fieldTypeToCType] at bounded
    dsimp only at field
    rw [specAt, interfaceAt, valueAt, Option.map_some, Option.map_some, field,
      littleEndianValue_littleEndian bounded]
    simp only [Option.map_some, Option.bind_some, name]
    rfl
  · rw [List.getElem?_eq_none beyond]
    rfl

end Encoding

namespace LinkWorld

variable {kconfig : Kconfig} {header : CHeader} {before after world : LinkWorld kconfig header}
  {casts : Casts} {yaml : YamlCpp} {files : String → Option String} {root : YamlNode}

theorem published_of_next {before after : HardwareWorld} {event : HardwareEvent}
    {state command : List FieldSpec} (allocated : before.hardware.Allocated state command)
    (named : after.hardware.Named) (nextEq : before.next casts event = some after) :
    newlyCommanded before after = [] ∧ after.published = before.published ∨
      ∃ payload, newlyCommanded before after = [after.hardware.namedCommands] ∧
        after.published = before.published ++ [payload] ∧
        structCommands (command.map FieldSpec.member) payload =
          castCommands casts (command.map FieldSpec.member) after.hardware.namedCommands := by
  have afterAllocated := allocated.of_next nextEq
  cases allocated.change nextEq with
  | published _ _ encodes =>
      refine .inr ⟨_, by simp [newlyCommanded], rfl, ?_⟩
      refine structCommands_of_encodes afterAllocated named ?_
      exact encodes
  | onActivate => exact .inl ⟨if_pos rfl, rfl⟩
  | onDeactivate => exact .inl ⟨if_pos rfl, rfl⟩
  | missed => exact .inl ⟨if_pos rfl, rfl⟩
  | read => exact .inl ⟨if_pos rfl, rfl⟩
  | unpublished => exact .inl ⟨if_pos rfl, rfl⟩
  | unheard => exact .inl ⟨if_pos rfl, rfl⟩
  | dropped => exact .inl ⟨if_pos rfl, rfl⟩
  | stored => exact .inl ⟨if_pos rfl, rfl⟩
  | setCommand => exact .inl ⟨if_pos rfl, rfl⟩

theorem published_of_deliver {before after : HardwareWorld} {payload : List UInt8}
    (nextEq : before.next casts (.deliver payload) = some after) :
    after.published = before.published := by
  cases nextEq
  rfl

/-- Each put of the host holds the commands of its write. -/
theorem commanded_eq_published
    (reached : (tier2Link casts yaml files kconfig root header).Reachable world) :
    world.host.published.map (structCommands header.command) =
      world.commanded.map (castCommands casts header.command) := by
  induction reached with
  | start starts =>
      obtain ⟨host, what, ⟨base, parameters, hardware, -, rfl⟩, -, -, rfl⟩ := starts
      rfl
  | @step before after event reachedBefore steps ih =>
      cases event with
      | host event =>
          obtain ⟨-, host, nextEq, rfl⟩ := steps
          obtain ⟨state, command, headerEq, allocated⟩ := exists_specs reachedBefore
          have members : header.command = command.map FieldSpec.member := by
            rw [headerEq]
            rfl
          have named : host.hardware.Named := (interfaces_keep_their_names casts yaml
            files).reachable ((reachable_host reachedBefore).step nextEq)
          rcases published_of_next allocated named nextEq with ⟨none, same⟩ |
            ⟨payload, one, put, holds⟩
          · simp only [none, same, List.append_nil, ih]
          · rw [← members] at holds
            simp only [one, put, List.map_append, List.map_cons, List.map_nil, ih, holds]
      | firmware action =>
          obtain ⟨-, firmware, -, rfl⟩ := steps
          exact ih
      | readCommand tmp fuel old accepted =>
          obtain ⟨out, -, rfl⟩ := steps
          exact ih
      | carryState place =>
          obtain ⟨payload, host, -, nextEq, rfl⟩ := steps
          exact (published_of_deliver nextEq).symm ▸ ih
      | carryCommand place slot =>
          obtain ⟨payload, firmware, -, -, rfl⟩ := steps
          exact ih

/-! ## What the firmware reads -/

/-- The commands that a client stored, from the zeros on that its buffer starts with. -/
def commandSource (world : LinkWorld kconfig header) : List (List UInt8) :=
  (Block.filled (structSize header.command) 0).bytes :: world.stored

/-- The command buffer of an initialized client holds the last command, and what was read are
commands in their order. -/
structure CommandsTaken (world : LinkWorld kconfig header) : Prop where
  latest : world.client.initialized = true → world.commandSource.getLast? =
    some (world.client.cmdBuffer.latest.bytes.take (structSize header.command))
  taken : Resamples world.commandSource (world.taken.map Block.bytes)

theorem CommandsTaken.of_same (holds : before.CommandsTaken)
    (stored : after.stored = before.stored) (taken : after.taken = before.taken)
    (same : after.client.initialized = true → before.client.initialized = true ∧
      after.client.cmdBuffer = before.client.cmdBuffer) : after.CommandsTaken := by
  have source : after.commandSource = before.commandSource := by
    rw [commandSource, commandSource, stored]
  refine ⟨fun up => ?_, ?_⟩
  · obtain ⟨wasUp, buffer⟩ := same up
    rw [source, buffer]
    exact holds.latest wasUp
  · rw [source, taken]
    exact holds.taken

/-- What the firmware does of its own stores no commands. -/
theorem CommandsTaken.firmware {action : Tier2Action kconfig header}
    (holds : before.CommandsTaken) (isLocal : action.Local)
    (steps : before.firmware.Step action after.firmware)
    (stored : after.stored = if action.restarts before.client then [] else before.stored)
    (taken : after.taken = if action.restarts before.client then [] else before.taken) :
    after.CommandsTaken := by
  cases action with
  | init id controlFreq stateParams cmdParams cmdLayoutScratch outcome status =>
      obtain ⟨client, transport, initEq, firmwareEq⟩ := steps
      have clientEq : after.client = client := by
        rw [LinkWorld.client, firmwareEq]
        exact ClientWorld.client_setClient_self before.firmware id client
      cases wasUp : before.client.initialized with
      | true =>
          have unchanged : client = before.client := Tier2Client.same_of_init wasUp initEq
          simp only [Tier2Action.restarts, wasUp, Bool.not_true, Bool.false_eq_true,
            if_false] at stored taken
          exact holds.of_same stored taken fun _ => by
            rw [clientEq, unchanged]
            exact ⟨wasUp, rfl⟩
      | false =>
          simp only [Tier2Action.restarts, wasUp, Bool.not_false, if_true] at stored taken
          refine ⟨fun up => ?_, by rw [taken]; exact .nil _⟩
          rw [clientEq] at up ⊢
          rw [commandSource, stored, (Tier2Client.latest_of_init wasUp initEq up).2]
          have fits := (Tier2Client.sized_of_init wasUp initEq up).commandFits
          simp [Block.filled, fits]
  | destroy id =>
      have down : after.client.initialized = false := ClientWorld.destroyed_down steps
      refine holds.of_same stored taken fun up => ?_
      cases down.symm.trans up
  | call id call =>
      obtain ⟨client, applied, firmwareEq⟩ := steps
      have clientEq : after.client = client := by
        rw [LinkWorld.client, firmwareEq]
        exact ClientWorld.client_setClient_self before.firmware id client
      have setup := ClientCall.apply_sameSetup applied
      have ignored : ¬ call.Accepted (before.firmware.client id) := by
        cases call with
        | onTransportCmdCb payload => exact isLocal.elim
        | startThread => exact not_false
        | stopThread => exact not_false
        | writeState => exact not_false
      refine holds.of_same stored taken fun up => ?_
      rw [clientEq] at up ⊢
      exact ⟨setup.initialized.symm.trans up, (ClientCall.apply_keeps_commands applied ignored).1⟩
  | publishState id tmp fuel timestampNs ok status =>
      obtain ⟨transport, -, firmwareEq⟩ := steps
      have clientEq : after.client = before.client := by
        rw [LinkWorld.client, firmwareEq]
        rfl
      refine holds.of_same stored taken fun up => ?_
      rw [clientEq] at up ⊢
      exact ⟨up, rfl⟩
  | sample slot payload => exact isLocal.elim

/-- What the client stores of a payload becomes the last command. -/
theorem CommandsTaken.carried (holds : before.CommandsTaken)
    (sized : before.client.initialized = true → before.client.Sized)
    {slot : Fin kconfig.maxSubscribers} {payload : List UInt8}
    (steps : before.firmware.Step (.sample slot payload) after.firmware)
    (stored : after.stored = before.stored ++
      if after.client.cmdAcceptedCount = before.client.cmdAcceptedCount then [] else [payload])
    (taken : after.taken = before.taken) : after.CommandsTaken := by
  have source : after.commandSource = before.commandSource ++
      if after.client.cmdAcceptedCount = before.client.cmdAcceptedCount then [] else [payload] := by
    rw [commandSource, commandSource, stored, List.cons_append]
  refine ⟨fun up => ?_, by rw [source, taken]; exact holds.taken.append _⟩
  rcases Tier2Client.sample_cases steps with firmwareEq | ⟨client, applied, firmwareEq⟩
  · have clientEq : after.client = before.client := by
      rw [LinkWorld.client, firmwareEq]
      rfl
    rw [source, clientEq, if_pos rfl, List.append_nil]
    exact holds.latest (clientEq ▸ up)
  · have clientEq : after.client = client := by
      rw [LinkWorld.client, firmwareEq]
      exact ClientWorld.client_setClient_self before.firmware () client
    rw [clientEq] at up source ⊢
    have wasUp : before.client.initialized = true :=
      (Tier2Client.apply_onTransportCmdCb applied).1.symm.trans up
    rcases Tier2Client.stored_of_delivery wasUp (sized wasUp) applied with same |
      ⟨-, counted, contents⟩
    · have clientSame : client = before.client := same
      rw [source, clientSame, if_pos rfl, List.append_nil]
      exact holds.latest wasUp
    · have counts : client.cmdAcceptedCount ≠ before.client.cmdAcceptedCount := by
        rw [counted]
        simp [LinkWorld.client]
      rw [source, if_neg counts, contents]
      simp

theorem CommandsTaken.read (holds : before.CommandsTaken)
    (sized : before.client.initialized = true → before.client.Sized)
    {tmp : Block UInt8 kconfig.maxCmdBufferSize} {fuel : Nat}
    {old out : Block UInt8 (structSize header.command)} {accepted : Bool}
    (read : before.client.readCommand tmp fuel old = some (accepted, out)) :
    Resamples before.commandSource
      ((before.taken ++ if accepted then [out] else []).map Block.bytes) := by
  cases accepted with
  | false => simpa using holds.taken
  | true =>
      cases up : before.client.initialized with
      | false =>
          simp only [ZenbeddedClient.readCommand, up, if_true] at read
          cases read
      | true =>
          have contents := (Tier2Client.bytes_of_readCommand (sized up) read).2
          rw [if_pos rfl, List.map_append, List.map_singleton, contents]
          exact holds.taken.snoc (holds.latest up)

theorem commandsTaken_of_reachable
    (reached : (tier2Link casts yaml files kconfig root header).Reachable world) :
    world.CommandsTaken := by
  induction reached with
  | start starts =>
      obtain ⟨host, what, -, -, -, rfl⟩ := starts
      exact ⟨fun up => (Bool.false_ne_true up).elim, .nil _⟩
  | @step before after event reachedBefore steps ih =>
      have sized := Tier2Client.sized_of_reachable (reachable_firmware reachedBefore)
      cases event with
      | host event =>
          obtain ⟨-, host, -, rfl⟩ := steps
          exact ih.of_same rfl rfl fun up => ⟨up, rfl⟩
      | firmware action =>
          obtain ⟨isLocal, firmware, stepEq, rfl⟩ := steps
          exact ih.firmware isLocal stepEq rfl rfl
      | readCommand tmp fuel old accepted =>
          obtain ⟨out, readEq, rfl⟩ := steps
          exact ⟨ih.latest, ih.read sized readEq⟩
      | carryState place =>
          obtain ⟨payload, host, -, -, rfl⟩ := steps
          exact ih.of_same rfl rfl fun up => ⟨up, rfl⟩
      | carryCommand place slot =>
          obtain ⟨payload, firmware, -, stepEq, rfl⟩ := steps
          exact ih.carried sized stepEq rfl rfl

/-! ## What the network hands over -/

theorem published_extends {before after : HardwareWorld} {event : HardwareEvent}
    (nextEq : before.next casts event = some after) : before.published <+: after.published := by
  cases event with
  | write =>
      obtain ⟨wrote, -, nextEq⟩ := Option.bind_eq_some_iff.mp nextEq
      cases nextEq
      exact List.prefix_append _ _
  | read hit =>
      obtain ⟨hardware, -, nextEq⟩ := Option.bind_eq_some_iff.mp nextEq
      cases nextEq
      exact List.prefix_refl _
  | onActivate id throws =>
      cases nextEq
      exact List.prefix_refl _
  | onDeactivate =>
      cases nextEq
      exact List.prefix_refl _
  | deliver bytes =>
      cases nextEq
      exact List.prefix_refl _
  | setCommand index value =>
      cases nextEq
      exact List.prefix_refl _

theorem stored_subset
    (reached : (tier2Link casts yaml files kconfig root header).Reachable world) :
    world.stored ⊆ world.host.published := by
  induction reached with
  | start starts =>
      obtain ⟨host, what, -, -, -, rfl⟩ := starts
      exact List.nil_subset _
  | @step before after event reachedBefore steps ih =>
      cases event with
      | host event =>
          obtain ⟨-, host, nextEq, rfl⟩ := steps
          exact List.Subset.trans ih (published_extends nextEq).subset
      | firmware action =>
          obtain ⟨-, firmware, -, rfl⟩ := steps
          dsimp only
          split
          · exact List.nil_subset _
          · exact ih
      | readCommand tmp fuel old accepted =>
          obtain ⟨out, -, rfl⟩ := steps
          exact ih
      | carryState place =>
          obtain ⟨payload, host, -, nextEq, rfl⟩ := steps
          exact List.Subset.trans ih (published_extends nextEq).subset
      | carryCommand place slot =>
          obtain ⟨payload, firmware, found, -, rfl⟩ := steps
          have isPut : payload ∈ before.host.published := List.mem_of_getElem? found
          refine List.append_subset.mpr ⟨ih, ?_⟩
          split
          · exact List.nil_subset _
          · exact List.cons_subset.mpr ⟨isPut, List.nil_subset _⟩

/-- Over a network that keeps the order, the client stores puts in their order. -/
theorem stored_carried
    (reached : (orderedLink casts yaml files kconfig root header).Reachable world) :
    Carried world.host.published world.commandsCarried world.stored := by
  induction reached with
  | start starts =>
      obtain ⟨host, what, -, -, -, rfl⟩ := starts
      exact .start _
  | @step before after event reachedBefore steps ih =>
      obtain ⟨inOrder, steps⟩ := steps
      cases event with
      | host event =>
          obtain ⟨-, host, nextEq, rfl⟩ := steps
          exact ih.extend (published_extends nextEq)
      | firmware action =>
          obtain ⟨-, firmware, -, rfl⟩ := steps
          dsimp only
          split
          · exact ⟨ih.inside, List.nil_sublist _⟩
          · exact ih
      | readCommand tmp fuel old accepted =>
          obtain ⟨out, -, rfl⟩ := steps
          exact ih
      | carryState place =>
          obtain ⟨payload, host, -, nextEq, rfl⟩ := steps
          exact ih.extend (published_extends nextEq)
      | carryCommand place slot =>
          obtain ⟨payload, firmware, found, -, rfl⟩ := steps
          dsimp only
          split
          · exact (List.append_nil before.stored).symm ▸ ih.lose inOrder found
          · exact ih.hand inOrder found

end LinkWorld

end Zenbedded
