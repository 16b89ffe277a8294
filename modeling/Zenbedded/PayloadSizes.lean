import Zenbedded.CommandReception
import Zenbedded.HardwareRuns

/-!
# The payload sizes of a Tier 2 link

The firmware takes the size of a payload from its struct, the host from its schema.
They are the same for structs that have members; one without members has size 1, where
the host expects no bytes.
-/

namespace Zenbedded

open ByteBlock

/-! ## Documents with fields -/

def YamlNode.hasEntry : YamlNode → Bool
  | .mapping (_ :: _) => true
  | _ => false

def YamlNode.hasField (sectionName : String) : YamlNode → Bool
  | .mapping sections =>
      match sections.lookup sectionName with
      | some (.mapping components) => components.any fun component => component.2.hasEntry
      | _ => false
  | _ => false

theorem generatorFieldSpecs_ne_nil (componentName : String) (field : String × YamlNode) :
    generatorFieldSpecs componentName field ≠ some [] := by
  unfold generatorFieldSpecs
  split
  case h_1 text _ => cases (parseFieldType text).toOption <;> simp
  case h_2 => simp

theorem generatorComponentSpecs_ne_nil_iff {component : String × YamlNode}
    {specs : List FieldSpec} (described : generatorComponentSpecs component = some specs) :
    specs ≠ [] ↔ component.2.hasEntry = true := by
  obtain ⟨name, node⟩ := component
  cases node with
  | mapping fields =>
      rw [ne_nil_of_collect_iff described]
      cases fields with
      | nil => simp [YamlNode.hasEntry]
      | cons field fields =>
          exact iff_of_true ⟨field, List.mem_cons_self, generatorFieldSpecs_ne_nil name field⟩ rfl
  | null => cases described
  | scalar text => cases described
  | sequence items => cases described

theorem generatorSectionSpecs_ne_nil_iff {components : List (String × YamlNode)}
    {specs : List FieldSpec}
    (described : generatorSectionSpecs (.mapping components) = some specs) :
    specs ≠ [] ↔ (components.any fun component => component.2.hasEntry) = true := by
  rw [ne_nil_of_collect_iff described, List.any_eq_true]
  refine exists_congr fun component => and_congr_right fun member => ?_
  have readable := isSome_collect_iff.mp (Option.isSome_of_eq_some described) component member
  obtain ⟨first, firstEq⟩ := Option.isSome_iff_exists.mp readable
  rw [firstEq, Ne, Option.some.injEq]
  exact generatorComponentSpecs_ne_nil_iff firstEq

/-- Which sections of a document describe a field. -/
theorem generatorSpecs_ne_nil_iff {root : YamlNode} {state command : List FieldSpec}
    (described : generatorSpecs root = some (state, command)) :
    (state ≠ [] ↔ root.hasField "state_interfaces" = true) ∧
      (command ≠ [] ↔ root.hasField "command_interfaces" = true) := by
  cases root with
  | mapping sections =>
      obtain ⟨stateSpecs, stateEq, described⟩ := Option.bind_eq_some_iff.mp described
      obtain ⟨commandSpecs, commandEq, described⟩ := Option.bind_eq_some_iff.mp described
      cases described
      have describes {sectionName : String} {specs : List FieldSpec}
          (specsEq : generatorSectionSpecs ((sections.lookup sectionName).getD (.mapping [])) =
            some specs) :
          specs ≠ [] ↔ (YamlNode.mapping sections).hasField sectionName = true := by
        rw [YamlNode.hasField]
        cases found : sections.lookup sectionName with
        | none =>
            rw [found] at specsEq
            simpa using generatorSectionSpecs_ne_nil_iff specsEq
        | some node =>
            rw [found, Option.getD_some] at specsEq
            cases node with
            | mapping components => exact generatorSectionSpecs_ne_nil_iff specsEq
            | null => cases specsEq
            | scalar text => cases specsEq
            | sequence items => cases specsEq
      exact ⟨describes stateEq, describes commandEq⟩
  | null => cases described
  | scalar text => cases described
  | sequence items => cases described

/-! ## Sizes of clients -/

section Clients

variable {kconfig : Kconfig} {Id : Type} [DecidableEq Id] {stateCodec : Id → StateCodec}
  {commandCodec : Id → CommandCodec}

/-- The payload sizes of initialized clients are those of their codecs. -/
def ClientWorld.SizedByCodecs (world : ClientWorld kconfig stateCodec commandCodec) : Prop :=
  ∀ id, world.live id = true →
    (world.client id).statePayloadSize =
        (stateCodec id).payloadSize (world.client id).stateCtx ∧
      (world.client id).cmdPayloadSize = (commandCodec id).payloadSize (world.client id).cmdCtx

open ClientWorld in
theorem ClientWorld.sizedByCodecs_invariant :
    (clientWorlds kconfig stateCodec commandCodec).Invariant SizedByCodecs where
  start := by
    rintro _ rfl id isLive
    cases isLive
  step before action after sized steps id isLive := by
    cases clientChange steps id with
    | same clientEq =>
        rw [live, clientEq] at isLive
        rw [clientEq]
        exact sized id isLive
    | called call applied =>
        have setup := ClientCall.apply_sameSetup applied
        rw [setup.statePayloadSize, setup.cmdPayloadSize, setup.stateCtx, setup.cmdCtx]
        exact sized id (setup.initialized.symm.trans isLive)
    | initialized wasDown controlFreq _ _ _ outcome _ _ _ initEq =>
        obtain ⟨_, _, _, _, -, -, -, stateSize, cmdSize, -⟩ :=
          (before.client id).init_up id before.transport controlFreq outcome wasDown initEq isLive
        exact ⟨stateSize, cmdSize⟩
    | destroyed cause =>
        subst cause
        cases isLive.symm.trans (destroyed_down steps)

theorem ZenohTransport.length_of_publish {Callback UserData : Type}
    {transport after : ZenohTransport kconfig Callback UserData}
    {pub : Option (Fin kconfig.maxPublishers)} {size payloadSize : Nat}
    {payload : Block UInt8 size} {timestampNs : Int64} {ok : Bool} {status : Int}
    (published : transport.publish pub payload payloadSize timestampNs ok = some (status, after))
    {entity : Option Nat} {bytes : List UInt8} {attachment : Option RmwZenohAttachment}
    (logged : after.log = transport.log ++ [.put entity bytes attachment ok]) :
    bytes.length = payloadSize := by
  have unlogged {same : ZenohTransport kconfig Callback UserData}
      (answered : some (-1, transport) = some (status, same))
      (logged : same.log = transport.log ++ [.put entity bytes attachment ok]) : False := by
    cases answered
    simp at logged
  unfold publish at published
  cases pub with
  | none => exact (unlogged published logged).elim
  | some slot =>
      dsimp only at published
      split at published
      case isTrue => exact (unlogged published logged).elim
      case isFalse =>
          obtain ⟨loaded, loadEq, published⟩ := Option.bind_eq_some_iff.mp published
          have inside := Block.load_eq_some_iff.mp loadEq
          obtain ⟨oldEntity, oldAttachment, put⟩ : ∃ oldEntity oldAttachment,
              after.log = transport.log ++ [.put oldEntity loaded oldAttachment ok] := by
            cases tier : kconfig.tier <;> rw [tier] at published <;> cases published <;>
              exact ⟨_, _, rfl⟩
          have same : loaded = bytes := by
            cases List.append_cancel_left (put.symm.trans logged)
            rfl
          rw [← same, inside.2, List.length_take, List.length_drop, payload.length_bytes]
          omega

theorem ZenbeddedClientBase.length_of_zenohPublishState {UserData : Type}
    {client : ZenbeddedClientBase kconfig}
    {transport after : ZenohTransport kconfig RecvCb UserData}
    {tmp : Block UInt8 kconfig.maxStateBufferSize} {fuel : Nat} {timestampNs : Int64} {ok : Bool}
    {status : Int}
    (published : client.zenohPublishState transport tmp fuel timestampNs ok = some (status, after))
    {entity : Option Nat} {bytes : List UInt8} {attachment : Option RmwZenohAttachment}
    (logged : after.log = transport.log ++ [.put entity bytes attachment ok]) :
    client.initialized = true ∧ bytes.length = client.statePayloadSize := by
  rw [zenohPublishState] at published
  split at published
  case isTrue down =>
      cases published
      simp at logged
  case isFalse up =>
      obtain ⟨read, -, published⟩ := Option.bind_eq_some_iff.mp published
      exact ⟨by simpa using up, ZenohTransport.length_of_publish published logged⟩

end Clients

/-! ## Links -/

abbrev Tier2World (kconfig : Kconfig) (Id : Type) (header : CHeader) :=
  ClientWorld kconfig (fun _ : Id => RawCodec.state (structSize header.state))
    (fun _ : Id => RawCodec.command (structSize header.command))

abbrev tier2Worlds (kconfig : Kconfig) (Id : Type) [DecidableEq Id] (header : CHeader) :
    StepSystem (Tier2World kconfig Id header) (ClientWorldAction kconfig
      (fun _ : Id => RawCodec.state (structSize header.state))
      fun _ : Id => RawCodec.command (structSize header.command)) :=
  clientWorlds kconfig (fun _ : Id => RawCodec.state (structSize header.state))
    (fun _ : Id => RawCodec.command (structSize header.command))

/-- The structs, the macros and the schema have one size for each direction, and both ends
take what the other end puts. -/
structure SamePayloadSizes (schema : InterfaceSchema) (header : CHeader) : Prop where
  stateStruct : structSize header.state = schema.stateBufferSize
  stateMacro : header.stateByteSize = schema.stateBufferSize
  commandStruct : structSize header.command = schema.commandBufferSize
  commandMacro : header.commandByteSize = schema.commandBufferSize
  states : ∀ {kconfig : Kconfig} {Id : Type} [DecidableEq Id]
    {before after : Tier2World kconfig Id header} {id tmp fuel timestampNs ok status},
    (tier2Worlds kconfig Id header).Reachable before →
    before.Step (.publishState id tmp fuel timestampNs ok status) after →
    ∀ entity bytes attachment,
      after.transport.log = before.transport.log ++ [.put entity bytes attachment ok] →
      ∀ hw : ZenbeddedHardware, hw.schema = schema →
        hw.stateCallback bytes = { hw with stateBuffer := bytes }
  commands : ∀ {casts : Casts} {yaml : YamlCpp} {files : String → Option String}
    {before after : HardwareWorld},
    (hardwareSystem casts yaml files).Reachable before → before.hardware.schema = schema →
    before.next casts .write = some after →
    ∀ payload, after.published = before.published ++ [payload] →
      ∀ {kconfig : Kconfig} {Id : Type} [DecidableEq Id] {clients : Tier2World kconfig Id header}
        {id}, (tier2Worlds kconfig Id header).Reachable clients → clients.live id = true →
        (clients.client id).onTransportCmdCb payload payload.length =
          (clients.client id).writeCommandToBuffer payload payload.length

theorem length_of_write {casts : Casts} {yaml : YamlCpp} {files : String → Option String}
    {before after : HardwareWorld} (reached : (hardwareSystem casts yaml files).Reachable before)
    (steps : before.next casts .write = some after) {payload : List UInt8}
    (published : after.published = before.published ++ [payload]) :
    payload.length = before.hardware.schema.commandBufferSize := by
  obtain ⟨state, command, allocated⟩ := exists_allocated reached
  cases allocated.change steps with
  | unpublished => simp at published
  | published _ size =>
      obtain rfl := List.singleton_inj.mp (List.append_cancel_left published)
      exact size

theorem samePayloadSizes_of_specs {state command : List FieldSpec} (someState : state ≠ [])
    (someCommand : command ≠ []) :
    SamePayloadSizes (.ofSpecs state command) (.ofSpecs state command) where
  stateStruct := structSize_map_member someState
  stateMacro := rfl
  commandStruct := structSize_map_member someCommand
  commandMacro := rfl
  states reached steps entity bytes attachment logged hw schemaEq := by
    obtain ⟨transport, published, rfl⟩ := steps
    obtain ⟨up, length⟩ := ZenbeddedClientBase.length_of_zenohPublishState published logged
    have sized := (ClientWorld.sizedByCodecs_invariant.reachable reached _ up).1
    have size : structSize (state.map FieldSpec.member) = specsByteSize state :=
      structSize_map_member someState
    unfold ZenbeddedHardware.stateCallback
    rw [if_neg]
    rw [not_not, length, sized, schemaEq]
    exact size
  commands reached schemaEq steps payload published kconfig Id _ clients id clientsReached up := by
    have length := length_of_write reached steps published
    have sized := (ClientWorld.sizedByCodecs_invariant.reachable clientsReached _ up).2
    have size : structSize (command.map FieldSpec.member) = specsByteSize command :=
      structSize_map_member someCommand
    rw [ZenbeddedClientBase.onTransportCmdCb, if_neg]
    rw [not_not, length, sized, schemaEq]
    exact size.symm

/-- Both ends use the same payload sizes exactly if both sections have a field. -/
theorem same_payload_sizes_iff {root : YamlNode} {what : String} {header : CHeader}
    (valid : (InterfaceSchema.fromRoot root what).valid = true)
    (generated : generateHeader root = .ok header) :
    SamePayloadSizes (InterfaceSchema.fromRoot root what) header ↔
      root.hasField "state_interfaces" = true ∧ root.hasField "command_interfaces" = true := by
  obtain ⟨state, command, generatorRead, schemaEq, headerEq⟩ := specs_of_accepted valid generated
  obtain ⟨stateIff, commandIff⟩ := generatorSpecs_ne_nil_iff generatorRead
  rw [schemaEq, headerEq, ← stateIff, ← commandIff]
  constructor
  · intro same
    constructor
    · rintro rfl
      exact absurd same.stateStruct Nat.one_ne_zero
    · rintro rfl
      exact absurd same.commandStruct Nat.one_ne_zero
  · rintro ⟨someState, someCommand⟩
    exact samePayloadSizes_of_specs someState someCommand

theorem same_payload_sizes_arm :
    let root : YamlNode := .mapping
      [("state_interfaces", .mapping [("arm", .mapping [("position", .scalar "float32")])]),
        ("command_interfaces", .mapping [("arm", .mapping [("effort", .scalar "int16")])])]
    SamePayloadSizes (.fromRoot root "")
      ⟨4, 2, [⟨.float, "arm_position"⟩], [⟨.int16, "arm_effort"⟩]⟩ := by
  intro root
  have valid : (InterfaceSchema.fromRoot root "").valid = true := rfl
  have generated : generateHeader root = .ok
      ⟨4, 2, [⟨.float, "arm_position"⟩], [⟨.int16, "arm_effort"⟩]⟩ := rfl
  exact (same_payload_sizes_iff valid generated).mpr ⟨rfl, rfl⟩

/-- An arm without commands: the struct of its commands has size 1, its schema size 0. -/
theorem payload_sizes_differ_without_commands :
    let root : YamlNode := .mapping
      [("state_interfaces", .mapping [("arm", .mapping [("position", .scalar "float32")])]),
        ("command_interfaces", .mapping [])]
    let header : CHeader := ⟨4, 0, [⟨.float, "arm_position"⟩], []⟩
    (InterfaceSchema.fromRoot root "").valid = true ∧ generateHeader root = .ok header ∧
      structSize header.command = 1 ∧ (InterfaceSchema.fromRoot root "").commandBufferSize = 0 ∧
      ¬ SamePayloadSizes (.fromRoot root "") header :=
  ⟨rfl, rfl, rfl, rfl, fun same => absurd same.commandStruct Nat.one_ne_zero⟩

end Zenbedded
