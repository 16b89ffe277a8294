import Zenbedded.HardwareRuns

/-!
# The names of the interfaces

Each interface is made for a field of the schema.  Whatever happens later, it keeps the
component and the field that it was made for.
-/

namespace Zenbedded

open ByteBlock PackedRecord ZenbeddedHardware

def InterfaceHandle.name (interface : InterfaceHandle) : String × String :=
  (interface.component, interface.field)

def FlatField.name (field : FlatField) : String × String :=
  (field.component, field.field)

@[simp]
theorem names_interfacesOf (fields : List FlatField) :
    (interfacesOf fields).map InterfaceHandle.name = fields.map FlatField.name := by
  simp [interfacesOf, InterfaceHandle.name, FlatField.name]

@[simp]
theorem names_setValue (interfaces : List InterfaceHandle) (index : Nat) (value : UInt64) :
    (setValue interfaces index value).map InterfaceHandle.name =
      interfaces.map InterfaceHandle.name := by
  refine List.ext_getElem? fun place => ?_
  rw [List.getElem?_map, List.getElem?_map, setValue, List.getElem?_modify]
  split
  case isTrue => cases interfaces[place]? <;> rfl
  case isFalse => cases interfaces[place]? <;> rfl

@[simp]
theorem names_setValues (interfaces : List InterfaceHandle) (values : List UInt64) :
    (setValues interfaces values).map InterfaceHandle.name =
      interfaces.map InterfaceHandle.name := by
  refine List.ext_getElem? fun place => ?_
  rw [List.getElem?_map, List.getElem?_map, setValues, List.getElem?_mapIdx]
  cases interfaces[place]? with
  | none => rfl
  | some interface =>
      simp only [Option.map_some]
      cases values[place]? <;> rfl

namespace ZenbeddedHardware

/-- Every interface has the name of the field at its index. -/
structure Named (hw : ZenbeddedHardware) : Prop where
  states : hw.stateInterfaces.map InterfaceHandle.name =
    hw.schema.stateFlatFields.map FlatField.name
  commands : hw.commandInterfaces.map InterfaceHandle.name =
    hw.schema.commandFlatFields.map FlatField.name

variable {casts : Casts} {hw after : ZenbeddedHardware}

theorem Named.showValues (named : Named hw) : Named hw.showValues where
  states := (names_setValues _ _).trans named.states
  commands := (names_setValues _ _).trans named.commands

theorem Named.onActivate (named : Named hw) (id : Nat) (throws : Option ActivationStep) :
    Named (hw.onActivate id throws).1 := by
  rcases onActivate_cases id throws hw with ⟨-, result⟩ | ⟨-, session, result⟩ |
    ⟨-, session, stateSub, result⟩ | ⟨-, session, stateSub, commandPub, result⟩
  · rw [result]
    exact named
  · rw [result]
    exact { named with }
  · rw [result]
    exact { named with }
  · rw [result]
    exact Named.showValues { named with }

theorem Named.readOne (named : Named hw) {payload : List UInt8} {index : Nat}
    (read : readOne casts payload index hw = some after) : Named after := by
  obtain ⟨value, -, stored⟩ := Option.bind_eq_some_iff.mp read
  split at stored
  case isTrue =>
    cases stored
    exact { named with states := (names_setValue _ _ _).trans named.states }
  case isFalse => cases stored

theorem Named.read (named : Named hw) {hit : Bool} (read : hw.read casts hit = some after) :
    Named after := by
  unfold ZenbeddedHardware.read at read
  split at read
  case isTrue =>
    exact forEach_preserves Named (fun _ _ _ one named => named.readOne one) read named
  case isFalse =>
    cases read
    exact named

theorem Named.write (named : Named hw) {payload : Option (List UInt8)}
    (write : hw.write casts = some (after, payload)) : Named after := by
  unfold ZenbeddedHardware.write at write
  split at write
  case h_1 =>
    cases write
    exact named
  case h_2 =>
    obtain ⟨wrote, -, result⟩ := Option.bind_eq_some_iff.mp write
    cases result
    exact { named with }

theorem Named.deliver (named : Named hw) (bytes : List UInt8) : Named (hw.deliver bytes) := by
  unfold ZenbeddedHardware.deliver ZenbeddedHardware.stateCallback
  split
  case h_1 => exact named
  case h_2 =>
    split
    case isTrue => exact named
    case isFalse => exact { named with }

theorem Named.of_onInit {yaml : YamlCpp} {files : String → Option String}
    {base : CallbackReturn} {parameters : List (String × String)}
    (initialized : constructed.onInit yaml files base parameters = (hw, .success)) :
    Named hw := by
  obtain ⟨named, complete, state, command, -, rfl⟩ := allocate_of_onInit initialized
  exact ⟨names_interfacesOf _, names_interfacesOf _⟩

/-- No event renames an interface. -/
theorem Named.next {before next : HardwareWorld} (named : Named before.hardware)
    {event : HardwareEvent} (steps : before.next casts event = some next) :
    Named next.hardware := by
  cases event with
  | onActivate id throws =>
      cases steps
      exact named.onActivate id throws
  | onDeactivate =>
      cases steps
      exact { named with }
  | read hit =>
      obtain ⟨hardware, readEq, nextEq⟩ := Option.bind_eq_some_iff.mp steps
      cases nextEq
      exact named.read readEq
  | write =>
      obtain ⟨wrote, writeEq, nextEq⟩ := Option.bind_eq_some_iff.mp steps
      cases nextEq
      exact named.write writeEq
  | deliver bytes =>
      cases steps
      exact named.deliver bytes
  | setCommand index value =>
      cases steps
      exact { named with commands := (names_setValue _ _ _).trans named.commands }

end ZenbeddedHardware

theorem interfaces_keep_their_names (casts : Casts) (yaml : YamlCpp)
    (files : String → Option String) :
    (hardwareSystem casts yaml files).Invariant fun world => world.hardware.Named where
  start world starts := by
    obtain ⟨base, parameters, hardware, initialized, rfl⟩ := starts
    exact .of_onInit initialized
  step before event after named steps := named.next steps

end Zenbedded
