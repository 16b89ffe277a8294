import Zenbedded.HardwareRuns
import Zenbedded.NumberConversions

/-!
# The conversions of a write

A write converts each command to the type of its field.  The hardware keeps NaN away from
these conversions: it takes no NaN from a controller, and an activation puts 0 in place of
what is still unset.  It does not look at the range of a number.
-/

namespace Zenbedded

open ZenbeddedHardware PackedRecord ByteBlock

/-- A conversion to an integer type is defined when the truncated operand is in its range. -/
def FieldType.Defined (type : FieldType) (operand : UInt64) : Prop :=
  type.integers ≠ none → ∃ number, Binary64.truncate operand = some number ∧ type.InRange number

/-- The conversion of a double in `write_command_field`: the type and the operand. -/
def fieldConversions (fields : List FlatField) (fieldIndex : Nat) (value : UInt64) :
    List (FieldType × UInt64) :=
  match fields[fieldIndex]? with
  | none => []
  | some f => [(f.type, value)]

namespace ZenbeddedHardware

/-- The conversions in a call of `write`. -/
def writeConversions (hw : ZenbeddedHardware) : List (FieldType × UInt64) :=
  match hw.commandPub with
  | none => []
  | some _ => (List.range hw.schema.totalCommandInterfaces).flatMap fun i =>
      fieldConversions hw.schema.commandFlatFields i (hw.writtenValue i)

/-- Every interface holds a NaN or what its field can be made from. -/
def InterfacesConvert (hw : ZenbeddedHardware) : Prop :=
  ∀ (i : Nat) (f : FlatField) (interface : InterfaceHandle),
    hw.schema.commandFlatFields[i]? = some f →
    hw.commandInterfaces[i]? = some interface →
    isNan interface.value = true ∨ f.type.Defined interface.value

/-- Every command can be converted; before the first activation it may be NaN. -/
def CommandsConvert (hw : ZenbeddedHardware) : Prop :=
  ∀ (i : Nat) (f : FlatField) (command : UInt64),
    hw.schema.commandFlatFields[i]? = some f → hw.hwCommands[i]? = some command →
    f.type.Defined command ∨ (isNan command = true ∧ hw.commandPub = none)

end ZenbeddedHardware

/-! ## What a write depends on -/

section Conversions

variable {fields : List FlatField} {interfaces : List InterfaceHandle} {casts other : Casts}

/-- The conversions to the type of a field have the same result. -/
def Casts.AgreeOn (casts other : Casts) (conversion : FieldType × UInt64) : Prop :=
  casts.ofDouble (fieldTypeToCType conversion.1) conversion.2 =
    other.ofDouble (fieldTypeToCType conversion.1) conversion.2

theorem writeField_congr {size : Nat} (buffer : Block UInt8 size) {index : Nat} {value : UInt64}
    (agree : ∀ conversion ∈ fieldConversions fields index value, casts.AgreeOn other conversion) :
    writeField casts fields buffer index value = writeField other fields buffer index value := by
  cases found : fields[index]? with
  | none => simp [writeField, found]
  | some f =>
      have same : casts.AgreeOn other (f.type, value) :=
        agree _ (by simp [fieldConversions, found])
      rw [writeField_eq found, writeField_eq found, same]

theorem writeOne_keeps {size index place : Nat} {before after : List UInt64 × Block UInt8 size}
    (different : index ≠ place)
    (wrote : writeOne casts fields interfaces index before = some after) :
    after.1[place]? = before.1[place]? := by
  obtain ⟨command, -, wrote⟩ := Option.bind_eq_some_iff.mp wrote
  obtain ⟨buffer, -, wrote⟩ := Option.bind_eq_some_iff.mp wrote
  cases wrote
  exact List.getElem?_set_ne different

theorem forEach_writeOne_keeps {size count place : Nat}
    {before after : List UInt64 × Block UInt8 size} (beyond : count ≤ place)
    (wrote : forEach count (writeOne casts fields interfaces) before = some after) :
    after.1[place]? = before.1[place]? := by
  induction count generalizing after with
  | zero =>
      cases wrote
      rfl
  | succ count ih =>
      rw [forEach_succ] at wrote
      obtain ⟨middle, first, last⟩ := Option.bind_eq_some_iff.mp wrote
      rw [writeOne_keeps (by omega) last, ih (by omega) first]

theorem forEach_writeOne_congr {size count : Nat} (start : List UInt64 × Block UInt8 size)
    (agree : ∀ i < count, ∀ command, start.1[i]? = some command →
      ∀ conversion ∈ fieldConversions fields i (takenCommand interfaces i command),
        casts.AgreeOn other conversion) :
    forEach count (writeOne casts fields interfaces) start =
      forEach count (writeOne other fields interfaces) start := by
  induction count with
  | zero => rfl
  | succ count ih =>
      rw [forEach_succ, forEach_succ, ← ih fun i below => agree i (by omega)]
      cases first : forEach count (writeOne casts fields interfaces) start with
      | none => rfl
      | some middle =>
          have current := forEach_writeOne_keeps le_rfl first
          rw [Option.bind_some, Option.bind_some, writeOne, writeOne, current]
          cases found : start.1[count]? with
          | none => rfl
          | some command =>
              simp only [Option.bind_eq_bind, Option.bind_some]
              rw [writeField_congr _ (agree count (by omega) command found)]

/-- The result of a write depends on no other conversions than those listed for it. -/
theorem ZenbeddedHardware.write_congr {hw : ZenbeddedHardware}
    (agree : ∀ conversion ∈ hw.writeConversions, casts.AgreeOn other conversion) :
    hw.write casts = hw.write other := by
  cases declared : hw.commandPub with
  | none => simp [ZenbeddedHardware.write, declared]
  | some commandPub =>
      simp only [ZenbeddedHardware.write, declared]
      rw [forEach_writeOne_congr]
      intro i below command found conversion member
      refine agree conversion ?_
      rw [writeConversions, declared]
      refine List.mem_flatMap.mpr ⟨i, List.mem_range.mpr below, ?_⟩
      simpa [writtenValue, writtenCommands, found] using member

end Conversions

/-! ## Commands that can be converted -/

section Runs

variable {casts : Casts} {yaml : YamlCpp} {files : String → Option String}
  {state command : List FieldSpec} {hw : ZenbeddedHardware} {before after : HardwareWorld}

theorem FieldType.defined_zero (type : FieldType) : type.Defined 0 := by
  intro integer
  have truncated : Binary64.truncate 0 = some 0 := by decide +kernel
  refine ⟨0, truncated, fun bounds found => ?_⟩
  cases type with
  | float32 => cases found
  | float64 => cases found
  | int32 => cases found; decide
  | uint64 => cases found; decide
  | int16 => cases found; decide
  | uint8 => cases found; decide

namespace ZenbeddedHardware

theorem CommandsConvert.of_same (convert : hw.CommandsConvert) {later : ZenbeddedHardware}
    (schema : later.schema = hw.schema) (commands : later.hwCommands = hw.hwCommands)
    (publisher : later.commandPub = hw.commandPub ∨ later.commandPub = none) :
    later.CommandsConvert := by
  intro i f value found current
  rw [schema] at found
  rw [commands] at current
  refine (convert i f value found current).imp_right fun unset => ⟨unset.1, ?_⟩
  exact publisher.elim (·.trans unset.2) id

theorem CommandsConvert.showValues (convert : hw.CommandsConvert) {later : ZenbeddedHardware}
    (schema : later.schema = hw.schema) (commands : later.hwCommands = hw.hwCommands) :
    later.showValues.CommandsConvert := by
  intro i f value found current
  have shown : (hw.hwCommands.map zeroIfNan)[i]? = some value := commands ▸ current
  rw [List.getElem?_map] at shown
  obtain ⟨old, oldFound, rfl⟩ := Option.map_eq_some_iff.mp shown
  left
  unfold zeroIfNan
  split
  case isTrue => exact f.type.defined_zero
  case isFalse number =>
    exact (convert i f old (schema ▸ found) oldFound).resolve_right fun unset => number unset.1

theorem CommandsConvert.onActivate (convert : hw.CommandsConvert) (id : Nat)
    (throws : Option ActivationStep) : (hw.onActivate id throws).1.CommandsConvert := by
  rcases onActivate_cases id throws hw with ⟨-, result⟩ | ⟨-, session, result⟩ |
    ⟨-, session, stateSub, result⟩ | ⟨-, session, stateSub, commandPub, result⟩
  · rw [result]
    exact convert
  · rw [result]
    exact convert.of_same rfl rfl (.inl rfl)
  · rw [result]
    exact convert.of_same rfl rfl (.inl rfl)
  · rw [result]
    exact convert.showValues rfl rfl

/-- What a write takes for a field: the number of the interface, or the command so far. -/
theorem CommandsConvert.defined_takenCommand (convert : hw.CommandsConvert)
    (interfaces : hw.InterfacesConvert) (published : hw.commandPub ≠ none) {i : Nat}
    {f : FlatField} {command : UInt64} (found : hw.schema.commandFlatFields[i]? = some f)
    (current : hw.hwCommands[i]? = some command) :
    f.type.Defined (takenCommand hw.commandInterfaces i command) := by
  have kept : f.type.Defined command :=
    (convert i f command found current).resolve_right fun unset => published unset.2
  unfold takenCommand
  split
  case h_1 => exact kept
  case h_2 interface interfaceFound =>
    split
    case isTrue => exact kept
    case isFalse number => exact (interfaces i f interface found interfaceFound).resolve_left number

theorem CommandsConvert.written (convert : hw.CommandsConvert) (interfaces : hw.InterfacesConvert)
    (published : hw.commandPub ≠ none) {payload : List UInt8} :
    CommandsConvert { hw with hwCommands := hw.writtenCommands, commandBuffer := payload } := by
  intro i f value found current
  left
  rw [writtenCommands, List.getElem?_mapIdx] at current
  obtain ⟨command, commandFound, rfl⟩ := Option.map_eq_some_iff.mp current
  exact convert.defined_takenCommand interfaces published found commandFound

end ZenbeddedHardware

/-- A write of a hardware with a publisher finds convertible interfaces. -/
def HardwareWorld.WritesConvert (world : HardwareWorld) (event : HardwareEvent) : Prop :=
  event = .write → world.hardware.commandPub ≠ none → world.hardware.InterfacesConvert

/-- Controllers that keep to the ranges keep the commands convertible. -/
theorem ZenbeddedHardware.CommandsConvert.next (allocated : Allocated state command before.hardware)
    (convert : before.hardware.CommandsConvert) {event : HardwareEvent}
    (meets : before.WritesConvert event) (steps : before.next casts event = some after) :
    after.hardware.CommandsConvert := by
  cases allocated.change steps with
  | onActivate id throws => exact convert.onActivate id throws
  | onDeactivate => exact convert.of_same rfl rfl (.inr rfl)
  | missed => exact convert
  | read read =>
      rw [read.frame]
      exact convert.of_same rfl rfl (.inl rfl)
  | unpublished => exact convert
  | published declared => exact convert.written (meets rfl declared) declared
  | unheard => exact convert
  | dropped => exact convert
  | stored => exact convert.of_same rfl rfl (.inl rfl)
  | setCommand index value => exact convert.of_same rfl rfl (.inl rfl)

theorem commandsConvert_invariant :
    ((hardwareSystem casts yaml files).restrict HardwareWorld.WritesConvert).Invariant
      fun world => (∃ state command, Allocated state command world.hardware) ∧
        world.hardware.CommandsConvert where
  start := by
    rintro _ ⟨base, parameters, hardware, initialized, rfl⟩
    obtain ⟨state, command, holds⟩ := onInit_initialized initialized
    refine ⟨⟨state, command, holds.toAllocated⟩, fun i f value found current => ?_⟩
    have unset := hwCommands_of_onInit initialized value (List.mem_of_getElem? current)
    exact .inr ⟨by rw [unset]; decide, holds.commandPub⟩
  step before event after holds steps := by
    obtain ⟨⟨state, command, allocated⟩, convert⟩ := holds
    exact ⟨⟨state, command, allocated.of_next steps.2⟩, convert.next allocated steps.1 steps.2⟩

/-- The conversions of a write are those of the commands that it takes. -/
theorem mem_writeConversions_iff (allocated : Allocated state command hw)
    (published : hw.commandPub ≠ none) {conversion : FieldType × UInt64} :
    conversion ∈ hw.writeConversions ↔ ∃ (i : Nat) (f : FlatField) (command : UInt64),
      hw.schema.commandFlatFields[i]? = some f ∧ hw.hwCommands[i]? = some command ∧
        conversion = (f.type, takenCommand hw.commandInterfaces i command) := by
  obtain ⟨commandPub, declared⟩ := Option.ne_none_iff_exists'.mp published
  have fields : hw.schema.commandFlatFields.length = hw.hwCommands.length := by
    rw [allocated.schema, allocated.hwCommands]
    exact length_layout 0 command
  rw [writeConversions, declared]
  simp only [List.mem_flatMap, List.mem_range, InterfaceSchema.totalCommandInterfaces]
  constructor
  · rintro ⟨i, below, member⟩
    have found := List.getElem?_eq_getElem below
    have current := List.getElem?_eq_getElem (fields ▸ below)
    refine ⟨i, _, _, found, current, ?_⟩
    simpa [fieldConversions, found, writtenValue, writtenCommands, current] using member
  · rintro ⟨i, f, old, found, current, rfl⟩
    refine ⟨i, (List.getElem?_eq_some_iff.mp found).1, ?_⟩
    simp [fieldConversions, found, writtenValue, writtenCommands, current]

/-- Behind a run whose writes found convertible interfaces, a write with a publisher converts
only what can be converted if and only if it finds convertible interfaces too. -/
theorem write_conversions_defined_iff {world : HardwareWorld}
    (reached : ((hardwareSystem casts yaml files).restrict
      HardwareWorld.WritesConvert).Reachable world)
    (published : world.hardware.commandPub ≠ none) :
    (∀ conversion ∈ world.hardware.writeConversions, conversion.1.Defined conversion.2) ↔
      world.hardware.InterfacesConvert := by
  obtain ⟨⟨state, command, allocated⟩, convert⟩ := commandsConvert_invariant.reachable reached
  constructor
  · intro defined i f interface found interfaceFound
    cases isNumber : isNan interface.value with
    | true => exact .inl rfl
    | false =>
        right
        have below : i < world.hardware.hwCommands.length := by
          rw [allocated.hwCommands, ← allocated.commandInterfaces]
          exact (List.getElem?_eq_some_iff.mp interfaceFound).1
        have taken := defined _ ((mem_writeConversions_iff allocated published).mpr
          ⟨i, f, _, found, List.getElem?_eq_getElem below, rfl⟩)
        simpa [takenCommand, interfaceFound, isNumber] using taken
  · rintro interfaces conversion member
    obtain ⟨i, f, old, found, current, rfl⟩ :=
      (mem_writeConversions_iff allocated published).mp member
    exact convert.defined_takenCommand interfaces published found current

end Runs

/-! ## A gripper -/

def gripperYaml : YamlCpp where
  load _ := .ok (.mapping
    [("state_interfaces", .mapping []),
      ("command_interfaces", .mapping [("gripper", .mapping [("speed", .scalar "uint8")])])])
  what _ := ""

def gripperStart : HardwareWorld where
  hardware := (constructed.onInit gripperYaml armFiles .success armParameters).1
  lifecycle := .inactive
  received := []
  published := []

theorem gripperStart_starts (casts : Casts) :
    (hardwareSystem casts gripperYaml armFiles).start gripperStart :=
  ⟨.success, armParameters, _, rfl, rfl⟩

/-- A controller asks for speed 300, which a byte cannot hold, and the write converts it. -/
theorem write_converts_out_of_range :
    ∃ before after, gripperStart.run .ieee [.onActivate 0 none, .setCommand 0 0x4072c00000000000] =
        some before ∧
      before.hardware.commandPub ≠ none ∧ before.next .ieee .write = some after ∧
      (FieldType.uint8, 0x4072c00000000000) ∈ before.hardware.writeConversions ∧
      ¬ FieldType.uint8.Defined 0x4072c00000000000 := by
  obtain ⟨before, ran⟩ : ∃ before, gripperStart.run .ieee
      [.onActivate 0 none, .setCommand 0 0x4072c00000000000] = some before := ⟨_, rfl⟩
  have reached := (StepSystem.Reachable.start (gripperStart_starts .ieee)).run (run_of_eq_some ran)
  obtain ⟨after, writes⟩ := exists_next reached .write
  cases ran
  refine ⟨_, after, rfl, nofun, writes, List.mem_singleton.mpr rfl, fun defined => ?_⟩
  obtain ⟨number, truncated, inRange⟩ := defined nofun
  have truncates : Binary64.truncate 0x4072c00000000000 = some 300 := by decide +kernel
  cases truncates.symm.trans truncated
  have bound := (inRange _ rfl).2
  revert bound
  decide

/-- A speed of 100 is converted as it should. -/
theorem write_conversions_defined_iff_gripper :
    ∃ world, gripperStart.run .ieee [.onActivate 0 none, .setCommand 0 0x4059000000000000] =
        some world ∧
      ∀ conversion ∈ world.hardware.writeConversions, conversion.1.Defined conversion.2 := by
  let system := (hardwareSystem .ieee gripperYaml armFiles).restrict HardwareWorld.WritesConvert
  let activated : HardwareWorld :=
    { gripperStart with
      hardware := (gripperStart.hardware.onActivate 0 none).1
      lifecycle := .active }
  let world : HardwareWorld :=
    { activated with hardware := activated.hardware.setCommand 0 0x4059000000000000 }
  have activates : system.step gripperStart (.onActivate 0 none) activated := ⟨nofun, rfl⟩
  have sets : system.step activated (.setCommand 0 0x4059000000000000) world := ⟨nofun, rfl⟩
  have starts : system.Reachable gripperStart := .start (gripperStart_starts .ieee)
  have reached := (starts.step activates).step sets
  refine ⟨world, rfl, (write_conversions_defined_iff reached nofun).mpr ?_⟩
  intro i f interface found interfaceFound
  cases i with
  | zero =>
      cases found
      cases interfaceFound
      have truncates : Binary64.truncate 0x4059000000000000 = some 100 := by decide +kernel
      refine .inr fun _ => ⟨100, truncates, ?_⟩
      rintro _ ⟨⟩
      decide
  | succ i => cases found

end Zenbedded
