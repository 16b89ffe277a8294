import Zenbedded.SchemaFields

/-!
# The hardware interface of the host

`zenbedded_hardware.cpp`.  Doubles are kept by their bits.  The surroundings are inputs:
what the base class answers, which step of an activation throws, and whether `try_get`
gets the lock of the state buffer.  Interfaces always take and give their values.
-/

namespace Zenbedded

open ByteBlock PackedRecord

/-! ## Values -/

/-- `std::isnan` -/
def isNan (bits : UInt64) : Bool :=
  0x7ff0000000000000 < bits &&& 0x7fffffffffffffff

/-- `std::numeric_limits<double>::quiet_NaN()` -/
def quietNaN : UInt64 :=
  0x7ff8000000000000

def zeroIfNan (bits : UInt64) : UInt64 :=
  if isNan bits then 0 else bits

/-- `std::vector::resize` -/
def resize {α : Type*} (values : List α) (size : Nat) (fill : α) : List α :=
  values.take size ++ List.replicate (size - values.length) fill

/-- A `StateInterface` or a `CommandInterface`. -/
structure InterfaceHandle where
  component : String
  field : String
  value : UInt64
  deriving DecidableEq

/-- The interfaces that `on_init` makes for the fields of a section. -/
def interfacesOf (fields : List FlatField) : List InterfaceHandle :=
  fields.map fun f => ⟨f.component, f.field, 0⟩

/-- `set_value` on the interface at an index, if there is one. -/
def setValue (interfaces : List InterfaceHandle) (index : Nat) (value : UInt64) :
    List InterfaceHandle :=
  interfaces.modify index fun interface => { interface with value }

/-- `set_value` on all interfaces that have a value at their index. -/
def setValues (interfaces : List InterfaceHandle) (values : List UInt64) :
    List InterfaceHandle :=
  interfaces.mapIdx fun index interface =>
    match values[index]? with
    | some value => { interface with value }
    | none => interface

/-- `read_state_field` on the data of a vector. -/
def InterfaceSchema.readStateField (casts : Casts) (schema : InterfaceSchema)
    (buf : List UInt8) (fieldIndex : Nat) : Option UInt64 :=
  readField casts schema.stateFlatFields (⟨buf, rfl⟩ : Block UInt8 buf.length) fieldIndex

/-! ## Members -/

/-- A `zenoh::Session` with the configuration it was opened with. -/
structure HostSession where
  id : Nat
  endpoints : String
  mode : String
  deriving DecidableEq

/-- A `zenoh::Subscriber` or a `zenoh::Publisher`. -/
structure HostDeclaration where
  sessionId : Nat
  keyexpr : String
  deriving DecidableEq

/-- The members of `ZenbeddedHardware`; the state buffer is what its box holds. -/
structure ZenbeddedHardware where
  session : Option HostSession
  schema : InterfaceSchema
  stateBuffer : List UInt8
  commandBuffer : List UInt8
  stateSub : Option HostDeclaration
  commandPub : Option HostDeclaration
  hwCommands : List UInt64
  hwStates : List UInt64
  stateInterfaces : List InterfaceHandle
  commandInterfaces : List InterfaceHandle
  zenohEndpoint : String
  zenohMode : String
  stateTopic : String
  commandTopic : String
  deriving DecidableEq

inductive CallbackReturn
  | success
  | error
  deriving DecidableEq

/-- Where `on_activate` may throw. -/
inductive ActivationStep
  | config
  | session
  | stateKeyexpr
  | subscriber
  | commandKeyexpr
  | publisher
  deriving DecidableEq

namespace ZenbeddedHardware

def constructed : ZenbeddedHardware where
  session := none
  schema := .empty
  stateBuffer := []
  commandBuffer := []
  stateSub := none
  commandPub := none
  hwCommands := []
  hwStates := []
  stateInterfaces := []
  commandInterfaces := []
  zenohEndpoint := ""
  zenohMode := ""
  stateTopic := ""
  commandTopic := ""

/-! ## Initialization -/

/-- The lookups of the first `try` block; `false` is a missing parameter, and the members
assigned before it keep what they got. -/
def loadParameters (parameters : List (String × String)) (hw : ZenbeddedHardware) :
    ZenbeddedHardware × Bool :=
  match parameters.lookup "zenoh_endpoint" with
  | none => (hw, false)
  | some zenohEndpoint =>
      let hw := { hw with zenohEndpoint }
      match parameters.lookup "state_topic" with
      | none => (hw, false)
      | some stateTopic =>
          let hw := { hw with stateTopic }
          match parameters.lookup "command_topic" with
          | none => (hw, false)
          | some commandTopic =>
              ({ hw with
                commandTopic
                zenohMode := (parameters.lookup "zenoh_mode").getD "client" }, true)

/-- The vectors, buffers and interfaces for the schema. -/
def allocate (hw : ZenbeddedHardware) : ZenbeddedHardware :=
  { hw with
    hwStates := resize hw.hwStates hw.schema.totalStateInterfaces quietNaN
    hwCommands := resize hw.hwCommands hw.schema.totalCommandInterfaces quietNaN
    stateBuffer := List.replicate hw.schema.stateBufferSize 0
    commandBuffer := resize hw.commandBuffer hw.schema.commandBufferSize 0
    stateInterfaces := interfacesOf hw.schema.stateFlatFields
    commandInterfaces := interfacesOf hw.schema.commandFlatFields }

/-- `on_init`; `base` is what the base class answers, and `files` what the files hold. -/
def onInit (yaml : YamlCpp) (files : String → Option String) (base : CallbackReturn)
    (parameters : List (String × String)) (hw : ZenbeddedHardware) :
    ZenbeddedHardware × CallbackReturn :=
  match base with
  | .error => (hw, .error)
  | .success =>
      match hw.loadParameters parameters with
      | (hw, false) => (hw, .error)
      | (hw, true) =>
          match parameters.lookup "schema_path" with
          | none => (hw, .error)
          | some schemaPath =>
              let hw := { hw with schema := .fromYamlFile yaml schemaPath (files schemaPath) }
              if hw.schema.valid then (hw.allocate, .success) else (hw, .error)

/-! ## Activation -/

/-- The loops of `on_activate`. -/
def showValues (hw : ZenbeddedHardware) : ZenbeddedHardware :=
  { hw with
    hwStates := hw.hwStates.map zeroIfNan
    stateInterfaces := setValues hw.stateInterfaces (hw.hwStates.map zeroIfNan)
    hwCommands := hw.hwCommands.map zeroIfNan
    commandInterfaces := setValues hw.commandInterfaces (hw.hwCommands.map zeroIfNan) }

/-- `on_activate`; the handler of its `try` block leaves the members as they are. -/
def onActivate (id : Nat) (throws : Option ActivationStep) (hw : ZenbeddedHardware) :
    ZenbeddedHardware × CallbackReturn :=
  if throws = some .config then (hw, .error) else
  if throws = some .session then (hw, .error) else
  let session := ⟨id, "[\"" ++ hw.zenohEndpoint ++ "\"]", "\"" ++ hw.zenohMode ++ "\""⟩
  let hw := { hw with session := some session }
  if throws = some .stateKeyexpr then (hw, .error) else
  if throws = some .subscriber then (hw, .error) else
  let hw := { hw with stateSub := some ⟨id, hw.stateTopic⟩ }
  if throws = some .commandKeyexpr then (hw, .error) else
  if throws = some .publisher then (hw, .error) else
  let hw := { hw with commandPub := some ⟨id, hw.commandTopic⟩ }
  (hw.showValues, .success)

/-- `on_deactivate` -/
def onDeactivate (hw : ZenbeddedHardware) : ZenbeddedHardware :=
  { hw with stateSub := none, commandPub := none, session := none }

/-! ## Samples -/

/-- The callback of the state subscriber. -/
def stateCallback (bytes : List UInt8) (hw : ZenbeddedHardware) : ZenbeddedHardware :=
  if bytes.length ≠ hw.schema.stateBufferSize then hw else { hw with stateBuffer := bytes }

/-- A sample on the state topic; without a subscriber nobody is called back. -/
def deliver (bytes : List UInt8) (hw : ZenbeddedHardware) : ZenbeddedHardware :=
  match hw.stateSub with
  | none => hw
  | some _ => hw.stateCallback bytes

/-- The body of the loop in `read`; `none` is an access outside a buffer or a vector. -/
def readOne (casts : Casts) (buf : List UInt8) (i : Nat) (hw : ZenbeddedHardware) :
    Option ZenbeddedHardware := do
  let value ← hw.schema.readStateField casts buf i
  if i < hw.hwStates.length then
    some { hw with
      hwStates := hw.hwStates.set i value
      stateInterfaces := setValue hw.stateInterfaces i value }
  else
    none

/-- `read`; `hit` tells whether `try_get` gets the lock. -/
def read (casts : Casts) (hit : Bool) (hw : ZenbeddedHardware) : Option ZenbeddedHardware :=
  if hit ∧ hw.stateBuffer.length = hw.schema.stateBufferSize then
    forEach hw.schema.totalStateInterfaces (readOne casts hw.stateBuffer) hw
  else
    some hw

/-! ## Commands -/

def setCommand (index : Nat) (value : UInt64) (hw : ZenbeddedHardware) : ZenbeddedHardware :=
  { hw with commandInterfaces := setValue hw.commandInterfaces index value }

/-- What `hw_commands_[i]` becomes when the interface at its index holds a number. -/
def takenCommand (interfaces : List InterfaceHandle) (i : Nat) (command : UInt64) : UInt64 :=
  match interfaces[i]? with
  | none => command
  | some interface => if isNan interface.value then command else interface.value

/-- The body of the loop in `write`, on the commands and the buffer. -/
def writeOne (casts : Casts) (fields : List FlatField) (interfaces : List InterfaceHandle)
    {size : Nat} (i : Nat) (writing : List UInt64 × Block UInt8 size) :
    Option (List UInt64 × Block UInt8 size) := do
  let command ← writing.1[i]?
  let command := takenCommand interfaces i command
  let buffer ← writeField casts fields writing.2 i command
  some (writing.1.set i command, buffer)

/-- `write`, with the payload it puts. -/
def write (casts : Casts) (hw : ZenbeddedHardware) :
    Option (ZenbeddedHardware × Option (List UInt8)) :=
  match hw.commandPub with
  | none => some (hw, none)
  | some _ => do
      let (commands, buffer) ← forEach hw.schema.totalCommandInterfaces
        (writeOne casts hw.schema.commandFlatFields hw.commandInterfaces)
        (hw.hwCommands, (⟨hw.commandBuffer, rfl⟩ : Block UInt8 hw.commandBuffer.length))
      some ({ hw with hwCommands := commands, commandBuffer := buffer.bytes },
        some buffer.bytes)

end ZenbeddedHardware

end Zenbedded
