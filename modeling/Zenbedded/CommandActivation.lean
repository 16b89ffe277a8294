import Zenbedded.HardwareRuns

/-!
# The commands behind an activation

An activation puts 0 in place of commands that are NaN and shows all commands on their
interfaces.  Commands of an earlier activation are numbers and stay, so that the next
activation shows them and the next write puts them again.
-/

namespace Zenbedded

open ZenbeddedHardware

/-- A command that `on_activate` makes 0. -/
def ActivatesToZero (command : UInt64) : Prop :=
  isNan command = true ∨ command = 0

structure ZeroCommands (hw : ZenbeddedHardware) : Prop where
  commands : ∀ command ∈ hw.hwCommands, command = 0
  interfaces : ∀ interface ∈ hw.commandInterfaces, interface.value = 0

def HardwareEvent.IsSetCommand : HardwareEvent → Prop
  | .setCommand _ _ => True
  | _ => False

/-- An activation that leaves 0 on the command interfaces, and writes of 0 until a
controller sets a command. -/
structure StartsInitialized (casts : Casts) (activated : HardwareWorld) : Prop where
  interfaces : ∀ interface ∈ activated.hardware.commandInterfaces, interface.value = 0
  payloads : ∀ events written, activated.run casts events = some written →
    (∀ event ∈ events, ¬ event.IsSetCommand) →
    ∀ after payload, written.next casts .write = some after →
      after.published = written.published ++ [payload] →
      EncodesCommands casts activated.hardware.schema
        (List.replicate activated.hardware.schema.totalCommandInterfaces 0) payload

section Activation

variable {casts : Casts} {yaml : YamlCpp} {files : String → Option String}
  {state command : List FieldSpec} {hw : ZenbeddedHardware} {before after : HardwareWorld}

/-! ## Commands of 0 -/

theorem zeroIfNan_eq_zero_iff {bits : UInt64} : zeroIfNan bits = 0 ↔ ActivatesToZero bits := by
  unfold zeroIfNan ActivatesToZero
  split
  case isTrue nan => simp [nan]
  case isFalse number => simp [number]

theorem value_showValues (allocated : Allocated state command hw) {index : Nat}
    (below : index < hw.hwCommands.length) :
    hw.showValues.commandInterfaces[index]?.map InterfaceHandle.value =
      some (zeroIfNan hw.hwCommands[index]) := by
  have inside : index < hw.commandInterfaces.length := by
    rw [allocated.commandInterfaces, ← allocated.hwCommands]
    exact below
  exact value_setValues inside (by simp [below])

/-- An activation turns commands of 0 and NaN into 0. -/
theorem zeroCommands_showValues (allocated : Allocated state command hw)
    (zero : ∀ command ∈ hw.hwCommands, ActivatesToZero command) : ZeroCommands hw.showValues where
  commands shown member := by
    obtain ⟨old, oldMember, rfl⟩ := List.mem_map.mp member
    exact zeroIfNan_eq_zero_iff.mpr (zero old oldMember)
  interfaces interface member := by
    obtain ⟨index, found⟩ := List.mem_iff_getElem?.mp member
    obtain ⟨inside, -⟩ := List.getElem?_eq_some_iff.mp found
    rw [allocated.showValues.commandInterfaces, ← allocated.hwCommands] at inside
    have value := value_showValues allocated inside
    rw [found, Option.map_some, Option.some.injEq] at value
    rw [value, zeroIfNan_eq_zero_iff]
    exact zero _ (List.getElem_mem inside)

/-- Only commands of 0 and NaN leave 0 on the interfaces. -/
theorem activatesToZero_of_showValues (allocated : Allocated state command hw)
    (zero : ∀ interface ∈ hw.showValues.commandInterfaces, interface.value = 0) :
    ∀ command ∈ hw.hwCommands, ActivatesToZero command := by
  intro old member
  obtain ⟨index, below, rfl⟩ := List.mem_iff_getElem.mp member
  obtain ⟨interface, found, valueEq⟩ :=
    Option.map_eq_some_iff.mp (value_showValues allocated below)
  rw [← zeroIfNan_eq_zero_iff, ← valueEq]
  exact zero interface (List.mem_of_getElem? found)

theorem ZeroCommands.takenCommand (zero : ZeroCommands hw) (i : Nat) :
    takenCommand hw.commandInterfaces i 0 = 0 := by
  unfold ZenbeddedHardware.takenCommand
  split
  case h_1 => rfl
  case h_2 interface found =>
      rw [zero.interfaces interface (List.mem_of_getElem? found)]
      rfl

theorem ZeroCommands.writtenCommands (zero : ZeroCommands hw) :
    hw.writtenCommands = List.replicate hw.hwCommands.length 0 := by
  refine List.eq_replicate_iff.mpr ⟨List.length_mapIdx, fun written member => ?_⟩
  obtain ⟨index, below, rfl⟩ := List.mem_mapIdx.mp member
  rw [zero.commands _ (List.getElem_mem below), zero.takenCommand]

/-! ## Runs without controllers -/

theorem ZeroCommands.onActivate (allocated : Allocated state command hw)
    (zero : ZeroCommands hw) (id : Nat) (throws : Option ActivationStep) :
    ZeroCommands (hw.onActivate id throws).1 := by
  rcases onActivate_cases id throws hw with ⟨-, result⟩ | ⟨-, session, result⟩ |
    ⟨-, session, stateSub, result⟩ | ⟨-, session, stateSub, commandPub, result⟩
  · rw [result]
    exact zero
  · rw [result]
    exact ⟨zero.commands, zero.interfaces⟩
  · rw [result]
    exact ⟨zero.commands, zero.interfaces⟩
  · rw [result]
    exact zeroCommands_showValues { allocated with } fun old member =>
      .inr (zero.commands old member)

theorem ZeroCommands.next (allocated : Allocated state command before.hardware)
    (zero : ZeroCommands before.hardware) {event : HardwareEvent}
    (noSet : ¬ event.IsSetCommand) (steps : before.next casts event = some after) :
    ZeroCommands after.hardware := by
  cases allocated.change steps with
  | onActivate id throws => exact zero.onActivate allocated id throws
  | onDeactivate => exact ⟨zero.commands, zero.interfaces⟩
  | missed => exact zero
  | read read =>
      rw [read.frame]
      exact ⟨zero.commands, zero.interfaces⟩
  | unpublished => exact zero
  | published =>
      refine ⟨fun written member => ?_, zero.interfaces⟩
      rw [zero.writtenCommands] at member
      exact List.eq_of_mem_replicate member
  | unheard => exact zero
  | dropped => exact zero
  | stored => exact ⟨zero.commands, zero.interfaces⟩
  | setCommand index value => exact absurd trivial noSet

theorem ZeroCommands.run (allocated : Allocated state command before.hardware)
    (zero : ZeroCommands before.hardware) {events : List HardwareEvent}
    (ran : before.run casts events = some after) (noSet : ∀ event ∈ events, ¬ event.IsSetCommand) :
    Allocated state command after.hardware ∧ ZeroCommands after.hardware := by
  induction events generalizing before with
  | nil =>
      cases ran
      exact ⟨allocated, zero⟩
  | cons event events ih =>
      obtain ⟨middle, steps, rest⟩ := Option.bind_eq_some_iff.mp ran
      exact ih (allocated.of_next steps) (zero.next allocated (noSet _ List.mem_cons_self) steps)
        rest fun later member => noSet later (List.mem_cons_of_mem _ member)

theorem ZeroCommands.encodes (allocated : Allocated state command before.hardware)
    (zero : ZeroCommands before.hardware) {payload : List UInt8}
    (steps : before.next casts .write = some after)
    (published : after.published = before.published ++ [payload]) :
    EncodesCommands casts (.ofSpecs state command) (List.replicate command.length 0) payload := by
  cases allocated.change steps with
  | unpublished => simp at published
  | published _ _ encodes =>
      obtain rfl := List.singleton_inj.mp (List.append_cancel_left published)
      rwa [zero.writtenCommands, allocated.schema, allocated.hwCommands] at encodes

theorem ZeroCommands.startsInitialized (allocated : Allocated state command before.hardware)
    (zero : ZeroCommands before.hardware) : StartsInitialized casts before where
  interfaces := zero.interfaces
  payloads events written ran noSet after payload steps published := by
    obtain ⟨writtenAllocated, writtenZero⟩ := zero.run allocated ran noSet
    have encodes := writtenZero.encodes writtenAllocated steps published
    have count : (InterfaceSchema.ofSpecs state command).totalCommandInterfaces = command.length :=
      length_layout 0 command
    rwa [allocated.schema, count]

/-- In every run an activation starts from commands of 0 exactly if it finds no command
that is neither NaN nor 0. -/
theorem activation_starts_initialized_iff {start activated : HardwareWorld}
    {front : List HardwareEvent} (starts : (hardwareSystem casts yaml files).start start)
    (run : StepSystem.Run (hardwareSystem casts yaml files) start front before) {id : Nat}
    {throws : Option ActivationStep}
    (success : (before.hardware.onActivate id throws).2 = .success)
    (activates : before.next casts (.onActivate id throws) = some activated) :
    StartsInitialized casts activated ↔
      ∀ command ∈ before.hardware.hwCommands, ActivatesToZero command := by
  obtain ⟨state, command, allocated⟩ :=
    exists_allocated ((StepSystem.Reachable.start starts).run run)
  have activatedAllocated := allocated.of_next activates
  cases activates
  rcases onActivate_cases id throws before.hardware with ⟨-, result⟩ | ⟨-, session, result⟩ |
    ⟨-, session, stateSub, result⟩ | ⟨-, session, stateSub, commandPub, result⟩
  case inr.inr.inr =>
    have activatedEq := congrArg Prod.fst result
    constructor
    · intro initialized
      have zero := initialized.interfaces
      rw [activatedEq] at zero
      exact activatesToZero_of_showValues { allocated with } zero
    · intro zero
      refine ZeroCommands.startsInitialized activatedAllocated ?_
      rw [activatedEq]
      exact zeroCommands_showValues { allocated with } zero
  all_goals
    rw [result] at success
    cases success

end Activation

/-- A second activation of an arm starts from commands of 0 when 0.0 was written last. -/
theorem activation_starts_initialized_again :
    ∃ before activated,
      armStart.run .ieee [.onActivate 0 none, .setCommand 0 0x3ff8000000000000, .write,
          .setCommand 0 0, .write, .onDeactivate] = some before ∧
        before.published.length = 2 ∧ before.next .ieee (.onActivate 1 none) = some activated ∧
        StartsInitialized .ieee activated := by
  obtain ⟨before, ran, published, commands, success⟩ : ∃ before,
      armStart.run .ieee [.onActivate 0 none, .setCommand 0 0x3ff8000000000000, .write,
          .setCommand 0 0, .write, .onDeactivate] = some before ∧
        before.published.length = 2 ∧ before.hardware.hwCommands = [0] ∧
        (before.hardware.onActivate 1 none).2 = .success :=
    ⟨_, rfl, by decide +kernel, by decide +kernel, rfl⟩
  refine ⟨before, _, ran, published, rfl, (activation_starts_initialized_iff
    (armStart_starts .ieee) (run_of_eq_some ran) success rfl).mpr ?_⟩
  intro command member
  rw [commands] at member
  obtain rfl := List.mem_singleton.mp member
  exact .inr rfl

/-- The second activation of an arm puts the command 1.5 of the first one again. -/
theorem earlier_command_is_replayed :
    ∃ before activated after,
      armStart.run .ieee [.onActivate 0 none, .setCommand 0 0x3ff8000000000000, .write,
          .onDeactivate] = some before ∧
        (before.hardware.onActivate 1 none).2 = .success ∧
        before.next .ieee (.onActivate 1 none) = some activated ∧
        activated.next .ieee .write = some after ∧
        after.published = activated.published ++ [[0, 0, 0, 0, 0, 0, 0xf8, 0x3f]] ∧
        ¬ StartsInitialized .ieee activated := by
  refine ⟨_, _, _, rfl, rfl, rfl, rfl, by decide +kernel, fun initialized => ?_⟩
  have value := initialized.interfaces _ List.mem_cons_self
  revert value
  decide +kernel

end Zenbedded
