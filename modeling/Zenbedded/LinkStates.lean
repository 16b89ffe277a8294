import Zenbedded.InterfaceNames
import Zenbedded.Resampling
import Zenbedded.StateSamples
import Zenbedded.Tier2Link

/-!
# States over the link

What the host shows after a read are the members of one struct that the firmware wrote, or
zeros.  Over a network that keeps the order, what the host shows follows what the firmware
wrote: it may miss states and repeat them, and never goes back.
-/

namespace Zenbedded

open ByteBlock ByteOrder PackedRecord ZenbeddedHardware

/-! ## What the host makes of a payload -/

/-- The members of a generated struct lie behind the widths of the fields before them. -/
theorem getElem?_structMembers (specs : List FieldSpec) (bytes : List UInt8) (index : Nat) :
    (structMembers (specs.map FieldSpec.member) bytes)[index]? = specs[index]?.map fun spec =>
      (spec.member, littleEndianValue
        ((bytes.drop (offset (specWidths specs) index)).take (fieldByteSize spec.type))) := by
  rw [structMembers, List.getElem?_mapIdx, List.getElem?_map, memberWidths_map_member]
  cases specs[index]? with
  | none => rfl
  | some spec =>
      have size : spec.member.type.sizeof = fieldByteSize spec.type :=
        sizeof_fieldTypeToCType spec.type
      rw [Option.map_some, Option.map_some, Option.map_some, size]

section Showing

variable {casts : Casts} {state command : List FieldSpec} {hw : ZenbeddedHardware}

theorem memberName_of_names {interfaces : List InterfaceHandle} {specs : List FieldSpec}
    (named : interfaces.map InterfaceHandle.name = (layout 0 specs).map FlatField.name)
    {index : Nat} {interface : InterfaceHandle} (interfaceAt : interfaces[index]? = some interface)
    {spec : FieldSpec} (specAt : specs[index]? = some spec) :
    interface.memberName = spec.member.name := by
  have here := congrArg (·[index]?) named
  simp only [List.getElem?_map, interfaceAt, getElem?_layout, specAt, Option.map_some,
    Option.some.injEq] at here
  obtain ⟨component, field⟩ := Prod.mk.inj here
  rw [InterfaceHandle.memberName, component, field]
  rfl

theorem namedStates_of_shows (schema : hw.schema = .ofSpecs state command) (named : hw.Named)
    {payload : List UInt8} (shows : hw.ShowsPayload casts payload) :
    hw.namedStates = structStates casts (state.map FieldSpec.member) payload := by
  have count : hw.schema.totalStateInterfaces = state.length := by
    rw [schema]
    exact length_layout 0 state
  refine List.ext_getElem? fun index => ?_
  rw [namedStates, structStates, List.getElem?_map, List.getElem?_map, getElem?_structMembers]
  rcases Nat.lt_or_ge index state.length with below | beyond
  · have specAt : state[index]? = some state[index] := List.getElem?_eq_getElem below
    obtain ⟨value, readable, -, valueAt⟩ := shows.shown index (count ▸ below)
    obtain ⟨interface, interfaceAt, valueEq⟩ := Option.map_eq_some_iff.mp valueAt
    have names := named.states
    rw [schema] at names readable
    have name := memberName_of_names names interfaceAt specAt
    rw [InterfaceSchema.readStateField, InterfaceSchema.ofSpecs,
      readField_eq (flatField_of_spec specAt)] at readable
    obtain ⟨bytes, loaded, converted⟩ := Option.map_eq_some_iff.mp readable
    have bytesEq := (Block.load_eq_some_iff.mp loaded).2
    rw [interfaceAt, specAt, Option.map_some, Option.map_some, Option.map_some, name, valueEq,
      ← converted, bytesEq]
    rfl
  · rw [List.getElem?_eq_none (by rw [shows.stateInterfaces, count]; exact beyond),
      List.getElem?_eq_none beyond]
    rfl

end Showing

/-! ## What the firmware puts -/

namespace LinkWorld

variable {kconfig : Kconfig} {header : CHeader}

/-- The states of a firmware, from the zeros on that its buffer starts with. -/
def stateSource (world : LinkWorld kconfig header) : List (List UInt8) :=
  (Block.filled (structSize header.state) 0 :: world.written).map Block.bytes

/-- The state buffer of an initialized client holds the last state, and what was put are
states in their order. -/
structure StatesPut (world : LinkWorld kconfig header) : Prop where
  latest : world.client.initialized = true → world.stateSource.getLast? =
    some (world.client.stateBuffer.latest.bytes.take (structSize header.state))
  puts : Resamples world.stateSource world.statePuts

variable {before after : LinkWorld kconfig header}

theorem statePuts_of_puts (same : after.firmware.transport.puts = before.firmware.transport.puts) :
    after.statePuts = before.statePuts :=
  congrArg (List.map ZenohPut.payload) same

theorem stateSource_of_written (written : after.written = before.written) :
    after.stateSource = before.stateSource := by
  rw [stateSource, stateSource, written]

theorem stateSource_append {states : List (Block UInt8 (structSize header.state))}
    (written : after.written = before.written ++ states) :
    after.stateSource = before.stateSource ++ states.map Block.bytes := by
  rw [stateSource, stateSource, written, ← List.cons_append, List.map_append]

theorem StatesPut.of_same (holds : before.StatesPut) (written : after.written = before.written)
    (puts : after.firmware.transport.puts = before.firmware.transport.puts)
    (same : after.client.initialized = true → before.client.initialized = true ∧
      after.client.stateBuffer = before.client.stateBuffer) : after.StatesPut := by
  have source := stateSource_of_written written
  refine ⟨fun up => ?_, ?_⟩
  · obtain ⟨wasUp, buffer⟩ := same up
    rw [source, buffer]
    exact holds.latest wasUp
  · rw [source, statePuts_of_puts puts]
    exact holds.puts

theorem StatesPut.of_written (holds : before.StatesPut)
    {state : Block UInt8 (structSize header.state)}
    (written : after.written = before.written ++ [state])
    (puts : after.firmware.transport.puts = before.firmware.transport.puts)
    (shown : after.client.initialized = true →
      after.client.stateBuffer.latest.bytes.take (structSize header.state) = state.bytes) :
    after.StatesPut := by
  have source : after.stateSource = before.stateSource ++ [state.bytes] :=
    stateSource_append written
  refine ⟨fun up => ?_, ?_⟩
  · rw [source, shown up]
    simp
  · rw [source, statePuts_of_puts puts]
    exact holds.puts.append _

/-- What the firmware does of its own keeps its puts among its states. -/
theorem StatesPut.firmware {action : Tier2Action kconfig header} (holds : before.StatesPut)
    (sized : before.client.initialized = true → before.client.Sized)
    (isLocal : action.Local) (steps : before.firmware.Step action after.firmware)
    (written : after.written = before.written ++ action.written before.client) :
    after.StatesPut := by
  cases action with
  | init id controlFreq stateParams cmdParams cmdLayoutScratch outcome status =>
      obtain ⟨client, transport, initEq, firmwareEq⟩ := steps
      have clientEq : after.client = client := by
        rw [LinkWorld.client, firmwareEq]
        exact ClientWorld.client_setClient_self before.firmware id client
      have puts : after.firmware.transport.puts = before.firmware.transport.puts := by
        rw [firmwareEq]
        exact ZenbeddedClient.puts_init initEq
      cases wasUp : before.client.initialized with
      | true =>
          have unchanged : client = before.client := Tier2Client.same_of_init wasUp initEq
          simp only [Tier2Action.written, wasUp, if_true, List.append_nil] at written
          exact holds.of_same written puts fun _ => by rw [clientEq, unchanged]; exact ⟨wasUp, rfl⟩
      | false =>
          simp only [Tier2Action.written, wasUp, Bool.false_eq_true, if_false] at written
          refine holds.of_written written puts fun up => ?_
          rw [clientEq] at up ⊢
          rw [(Tier2Client.latest_of_init wasUp initEq up).1]
          have fits := (Tier2Client.sized_of_init wasUp initEq up).stateFits
          simp [Block.filled, fits]
  | destroy id =>
      have down : after.client.initialized = false := ClientWorld.destroyed_down steps
      refine holds.of_same (by rw [written]; exact List.append_nil _) ?_ fun up => ?_
      · rw [steps]
        exact ZenbeddedClientBase.puts_destroy _ _
      · cases down.symm.trans up
  | call id call =>
      obtain ⟨client, applied, firmwareEq⟩ := steps
      have clientEq : after.client = client := by
        rw [LinkWorld.client, firmwareEq]
        exact ClientWorld.client_setClient_self before.firmware id client
      have puts : after.firmware.transport.puts = before.firmware.transport.puts := by
        rw [firmwareEq]
        rfl
      have setup := ClientCall.apply_sameSetup applied
      have wasUp (up : after.client.initialized = true) : before.client.initialized = true := by
        rw [clientEq, setup.initialized] at up
        exact up
      cases call with
      | startThread controlFreq =>
          refine holds.of_same (by rw [written]; exact List.append_nil _) puts fun up =>
            ⟨wasUp up, ?_⟩
          rw [clientEq]
          cases applied
          exact (ZenbeddedClientBase.startThread_frame _ controlFreq).2.2.2.2.2.1
      | stopThread =>
          refine holds.of_same (by rw [written]; exact List.append_nil _) puts fun up =>
            ⟨wasUp up, ?_⟩
          rw [clientEq]
          cases applied
          exact (ZenbeddedClientBase.stopThread_frame _).2.2.2.2.2.1
      | writeState value =>
          cases up : before.client.initialized with
          | false =>
              simp only [Tier2Action.written, up, Bool.false_eq_true, if_false,
                List.append_nil] at written
              refine holds.of_same written puts fun nowUp => ?_
              cases up.symm.trans (wasUp nowUp)
          | true =>
              simp only [Tier2Action.written, up, if_true] at written
              refine holds.of_written written puts fun _ => ?_
              rw [clientEq]
              exact (Tier2Client.latest_of_writeState up (sized up).stateFits applied).2
      | onTransportCmdCb payload => exact isLocal.elim
  | publishState id tmp fuel timestampNs ok status =>
      obtain ⟨transport, published, firmwareEq⟩ := steps
      have clientEq : after.client = before.client := by
        rw [LinkWorld.client, firmwareEq]
        rfl
      have writtenSame : after.written = before.written := written.trans (List.append_nil _)
      have same (up : after.client.initialized = true) : before.client.initialized = true ∧
          after.client.stateBuffer = before.client.stateBuffer := by
        rw [clientEq] at up ⊢
        exact ⟨up, rfl⟩
      rcases ZenbeddedClientBase.puts_zenohPublishState published with silent | ⟨up, put⟩
      · exact holds.of_same writtenSame (by rw [firmwareEq]; exact silent) same
      · obtain ⟨entity, attachment, put⟩ := put
        have source := stateSource_of_written writtenSame
        have puts : after.statePuts = before.statePuts ++
            [before.client.stateBuffer.latest.bytes.take (structSize header.state)] := by
          have size : (before.firmware.client id).statePayloadSize = structSize header.state :=
            (sized up).state
          rw [statePuts, firmwareEq, put, List.map_append, size]
          rfl
        refine ⟨fun _ => ?_, ?_⟩
        · rw [source, clientEq]
          exact holds.latest up
        · rw [source, puts]
          exact holds.puts.snoc (holds.latest up)
  | sample slot payload => exact isLocal.elim

variable {casts : Casts} {yaml : YamlCpp} {files : String → Option String} {root : YamlNode}
  {world : LinkWorld kconfig header}

theorem statesPut_of_reachable
    (reached : (tier2Link casts yaml files kconfig root header).Reachable world) :
    world.StatesPut := by
  induction reached with
  | start starts =>
      obtain ⟨host, what, -, -, -, rfl⟩ := starts
      exact ⟨fun up => (Bool.false_ne_true up).elim, .nil _⟩
  | @step before after event reachedBefore steps ih =>
      cases event with
      | host event =>
          obtain ⟨-, host, -, rfl⟩ := steps
          exact ih.of_same rfl rfl fun up => ⟨up, rfl⟩
      | firmware action =>
          obtain ⟨isLocal, firmware, stepEq, rfl⟩ := steps
          exact ih.firmware (Tier2Client.sized_of_reachable (reachable_firmware reachedBefore))
            isLocal stepEq rfl
      | readCommand tmp fuel old accepted =>
          obtain ⟨out, -, rfl⟩ := steps
          exact ih.of_same rfl rfl fun up => ⟨up, rfl⟩
      | carryState place =>
          obtain ⟨payload, host, -, -, rfl⟩ := steps
          exact ih.of_same rfl rfl fun up => ⟨up, rfl⟩
      | carryCommand place slot =>
          obtain ⟨payload, firmware, -, stepEq, rfl⟩ := steps
          rcases Tier2Client.sample_cases stepEq with rfl | ⟨client, applied, rfl⟩
          · exact ih.of_same rfl rfl fun up => ⟨up, rfl⟩
          · obtain ⟨initialized, buffer⟩ := Tier2Client.apply_onTransportCmdCb applied
            refine ih.of_same rfl rfl fun up => ?_
            simp only [LinkWorld.client, ClientWorld.client_setClient_self] at up ⊢
            exact ⟨initialized.symm.trans up, buffer⟩

/-! ## What the host shows -/

/-- The samples of the right size that a host got, from its zeros on. -/
def sampleSource (world : LinkWorld kconfig header) : List (List UInt8) :=
  let size := world.host.hardware.schema.stateBufferSize
  List.replicate size 0 :: world.host.received.filter fun bytes => bytes.length == size

theorem getLast?_sampleSource (world : LinkWorld kconfig header) :
    world.sampleSource.getLast? = some world.host.latestSample :=
  List.getLast?_cons

theorem received_of_next {before after : HardwareWorld} {event : HardwareEvent}
    (nextEq : before.next casts event = some after) (isLocal : ∀ bytes, event ≠ .deliver bytes) :
    after.received = before.received := by
  cases event with
  | onActivate id throws =>
      cases nextEq
      rfl
  | onDeactivate =>
      cases nextEq
      rfl
  | read hit =>
      obtain ⟨hardware, -, nextEq⟩ := Option.bind_eq_some_iff.mp nextEq
      cases nextEq
      rfl
  | write =>
      obtain ⟨wrote, -, nextEq⟩ := Option.bind_eq_some_iff.mp nextEq
      cases nextEq
      rfl
  | deliver bytes => exact absurd rfl (isLocal bytes)
  | setCommand index value =>
      cases nextEq
      rfl

/-- A host whose callback is declared gets the payload. -/
theorem received_of_deliver {before after : HardwareWorld} {payload : List UInt8}
    (nextEq : before.next casts (.deliver payload) = some after) :
    after.received = before.received ∨ after.received = before.received ++ [payload] := by
  cases nextEq
  cases before.hardware.stateSub with
  | none => exact .inl (List.append_nil _)
  | some stateSub => exact .inr rfl

theorem sampleSource_of_received {more : List (List UInt8)}
    (schema : after.host.hardware.schema = before.host.hardware.schema)
    (received : after.host.received = before.host.received ++ more) :
    ∃ later, after.sampleSource = before.sampleSource ++ later := by
  refine ⟨more.filter fun bytes => bytes.length == before.host.hardware.schema.stateBufferSize, ?_⟩
  simp only [sampleSource, schema, received, List.filter_append, List.cons_append]

/-- A read that gets the lock shows the last sample of the right size. -/
theorem namedStates_of_read {state command : List FieldSpec} {before after : HardwareWorld}
    (reached : (hardwareSystem casts yaml files).Reachable before)
    (allocated : before.hardware.Allocated state command)
    (nextEq : before.next casts (.read true) = some after) :
    after.hardware.namedStates =
      structStates casts (state.map FieldSpec.member) before.latestSample := by
  have named : after.hardware.Named :=
    (interfaces_keep_their_names casts yaml files).reachable (reached.step nextEq)
  have schema := (allocated.of_next nextEq).schema
  obtain ⟨hardware, readEq, read⟩ := allocated.read_hit casts
  cases (HardwareWorld.next_read readEq).symm.trans nextEq
  rw [← stateBuffer_eq_latestSample reached]
  exact namedStates_of_shows schema named (allocated.showsPayload_of_read read)

/-- What was shown are the states in samples of the right size, in their order. -/
theorem shown_of_reachable
    (reached : (tier2Link casts yaml files kconfig root header).Reachable world) :
    Resamples (world.sampleSource.map (structStates casts header.state)) world.shown := by
  induction reached with
  | start starts =>
      obtain ⟨host, what, -, -, -, rfl⟩ := starts
      exact .nil _
  | @step before after event reachedBefore steps ih =>
      obtain ⟨state, command, headerEq, allocated⟩ := exists_specs reachedBefore
      have grows {more : List (List UInt8)} (host : HardwareWorld)
          (schema : host.hardware.schema = before.host.hardware.schema)
          (received : host.received = before.host.received ++ more) :
          Resamples (({ before with host } : LinkWorld kconfig header).sampleSource.map
            (structStates casts header.state)) before.shown := by
        obtain ⟨later, source⟩ :=
          @sampleSource_of_received _ _ before { before with host } more schema received
        rw [source, List.map_append]
        exact ih.append _
      cases event with
      | host event =>
          obtain ⟨isLocal, host, nextEq, rfl⟩ := steps
          have schema := (allocated.of_next nextEq).schema.trans allocated.schema.symm
          have received := received_of_next nextEq isLocal
          have shown := grows host schema (received.trans (List.append_nil _).symm)
          cases event with
          | read hit =>
              cases hit with
              | true =>
                  have latest : host.latestSample = before.host.latestSample :=
                    latestSample_of_same schema received
                  have members : header.state = state.map FieldSpec.member := by
                    rw [headerEq]
                    rfl
                  refine shown.snoc ?_
                  rw [List.getLast?_map, getLast?_sampleSource, namedStates_of_read
                    (reachable_host reachedBefore) allocated nextEq, ← latest, ← members]
                  rfl
              | false => exact (List.append_nil _).symm ▸ shown
          | onActivate id throws => exact (List.append_nil _).symm ▸ shown
          | onDeactivate => exact (List.append_nil _).symm ▸ shown
          | write => exact (List.append_nil _).symm ▸ shown
          | deliver bytes => exact absurd rfl (isLocal bytes)
          | setCommand index value => exact (List.append_nil _).symm ▸ shown
      | firmware action =>
          obtain ⟨-, firmware, -, rfl⟩ := steps
          exact ih
      | readCommand tmp fuel old accepted =>
          obtain ⟨out, -, rfl⟩ := steps
          exact ih
      | carryState place =>
          obtain ⟨payload, host, -, nextEq, rfl⟩ := steps
          have schema := (allocated.of_next nextEq).schema.trans allocated.schema.symm
          rcases received_of_deliver nextEq with unheard | heard
          · exact grows host schema (unheard.trans (List.append_nil _).symm)
          · exact grows host schema heard
      | carryCommand place slot =>
          obtain ⟨payload, firmware, -, -, rfl⟩ := steps
          exact ih

/-! ## What the network hands over -/

theorem statePuts_of_firmware {action : Tier2Action kconfig header}
    (steps : before.firmware.Step action after.firmware) :
    before.statePuts <+: after.statePuts :=
  (ClientWorld.puts_of_step steps).map _

theorem received_subset
    (reached : (tier2Link casts yaml files kconfig root header).Reachable world) :
    world.host.received ⊆ world.statePuts := by
  induction reached with
  | start starts =>
      obtain ⟨host, what, ⟨base, parameters, hardware, -, rfl⟩, -, -, rfl⟩ := starts
      exact List.nil_subset _
  | @step before after event reachedBefore steps ih =>
      cases event with
      | host event =>
          obtain ⟨isLocal, host, nextEq, rfl⟩ := steps
          exact (received_of_next nextEq isLocal).symm ▸ ih
      | firmware action =>
          obtain ⟨-, firmware, stepEq, rfl⟩ := steps
          exact List.Subset.trans ih (statePuts_of_firmware stepEq).subset
      | readCommand tmp fuel old accepted =>
          obtain ⟨out, -, rfl⟩ := steps
          exact ih
      | carryState place =>
          obtain ⟨payload, host, found, nextEq, rfl⟩ := steps
          rcases received_of_deliver nextEq with unheard | heard
          · exact unheard.symm ▸ ih
          · have isPut : payload ∈ before.statePuts := List.mem_of_getElem? found
            exact heard.symm ▸ List.append_subset.mpr
              ⟨ih, List.cons_subset.mpr ⟨isPut, List.nil_subset _⟩⟩
      | carryCommand place slot =>
          obtain ⟨payload, firmware, -, stepEq, rfl⟩ := steps
          have sampled : ClientWorld.Step before.firmware (.sample slot payload) firmware := stepEq
          exact List.Subset.trans ih (statePuts_of_firmware sampled).subset

/-- Over a network that keeps the order, the host gets puts in their order. -/
theorem received_carried
    (reached : (orderedLink casts yaml files kconfig root header).Reachable world) :
    Carried world.statePuts world.statesCarried world.host.received := by
  induction reached with
  | start starts =>
      obtain ⟨host, what, ⟨base, parameters, hardware, -, rfl⟩, -, -, rfl⟩ := starts
      exact .start _
  | @step before after event reachedBefore steps ih =>
      obtain ⟨inOrder, steps⟩ := steps
      cases event with
      | host event =>
          obtain ⟨isLocal, host, nextEq, rfl⟩ := steps
          exact (received_of_next nextEq isLocal).symm ▸ ih
      | firmware action =>
          obtain ⟨-, firmware, stepEq, rfl⟩ := steps
          exact ih.extend (statePuts_of_firmware stepEq)
      | readCommand tmp fuel old accepted =>
          obtain ⟨out, -, rfl⟩ := steps
          exact ih
      | carryState place =>
          obtain ⟨payload, host, found, nextEq, rfl⟩ := steps
          rcases received_of_deliver nextEq with unheard | heard
          · exact unheard.symm ▸ ih.lose inOrder found
          · exact heard.symm ▸ ih.hand inOrder found
      | carryCommand place slot =>
          obtain ⟨payload, firmware, -, stepEq, rfl⟩ := steps
          have sampled : ClientWorld.Step before.firmware (.sample slot payload) firmware := stepEq
          exact ih.extend (statePuts_of_firmware sampled)

/-! ## From end to end -/

/-- Zeros show zeros, whatever their number. -/
theorem structStates_zeros
    (reached : (tier2Link casts yaml files kconfig root header).Reachable world) :
    structStates casts header.state
        (List.replicate world.host.hardware.schema.stateBufferSize 0) =
      structStates casts header.state (Block.filled (structSize header.state) 0).bytes := by
  obtain ⟨state, command, rfl, allocated⟩ := exists_specs reached
  rw [allocated.schema]
  rcases eq_or_ne state [] with rfl | some
  · rfl
  · have size : structSize (CHeader.ofSpecs state command).state = specsByteSize state :=
      structSize_map_member some
    rw [Block.bytes_filled, size]
    rfl

end LinkWorld

end Zenbedded
