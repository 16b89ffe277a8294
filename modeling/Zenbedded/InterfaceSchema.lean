import Mathlib.Data.List.Basic
import Mathlib.Tactic.Common

/-!
# The interface schema of the host

`interface_schema.cpp` up to the parsed schema.  A document is the tree that the YAML
parser delivers; an exception ends the reading where it is raised, and the fields read
so far stay in the schema.
-/

namespace Zenbedded

/-! ## Parsed documents -/

/-- A parsed YAML node; a mapping has its entries in document order. -/
inductive YamlNode
  | null
  | scalar (text : String)
  | sequence (items : List YamlNode)
  | mapping (entries : List (String × YamlNode))

namespace YamlNode

/-- What iterating a yaml-cpp node yields; the entries of a sequence have no key. -/
def iterate : YamlNode → List (Option String × YamlNode)
  | .null | .scalar _ => []
  | .sequence items => items.map fun item => (none, item)
  | .mapping entries => entries.map fun entry => (some entry.1, entry.2)

/-- `as<std::string>()` of a yaml-cpp node; `none` is an exception. -/
def asString : YamlNode → Option String
  | .null => some "null"
  | .scalar text => some text
  | .sequence _ | .mapping _ => none

/-- What a yaml-cpp node has under a key; a scalar cannot be subscripted. -/
def subscript (key : String) : YamlNode → Option (Option YamlNode)
  | .null | .sequence _ => some none
  | .scalar _ => none
  | .mapping entries => some (entries.lookup key)

end YamlNode

/-- The YAML parser of the host. -/
structure YamlCpp where
  /-- `YAML::Load`, with the text of its exception. -/
  load : String → Except String YamlNode
  /-- The text of the exception that reading a document raises. -/
  what : YamlNode → String

/-! ## Fields -/

inductive FieldType
  | float32
  | float64
  | int32
  | uint64
  | int16
  | uint8
  deriving DecidableEq, Repr

/-- `InterfaceSchema::field_byte_size` -/
def fieldByteSize : FieldType → Nat
  | .float32 => 4
  | .float64 => 8
  | .int32 => 4
  | .uint64 => 8
  | .int16 => 2
  | .uint8 => 1

/-- `parse_field_type`, with the error it reports. -/
def parseFieldType (typeStr : String) : Except String FieldType :=
  if typeStr = "float32" then .ok .float32
  else if typeStr = "float64" ∨ typeStr = "double" then .ok .float64
  else if typeStr = "int32" then .ok .int32
  else if typeStr = "uint64" then .ok .uint64
  else if typeStr = "int16" then .ok .int16
  else if typeStr = "uint8" then .ok .uint8
  else .error ("Unknown type: " ++ typeStr)

structure FlatField where
  component : String
  field : String
  type : FieldType
  byteOffset : Nat
  deriving DecidableEq, Repr

structure FlatFields where
  fields : List FlatField
  bufferSize : Nat
  deriving DecidableEq

inductive SchemaFailure
  | error (text : String)
  | exception
  deriving DecidableEq

/-- A loop over entries that stops at the first failure and keeps what it did. -/
def readEach {Entry State Failure : Type} (body : Entry → State → State × Option Failure) :
    List Entry → State → State × Option Failure
  | [], state => (state, none)
  | entry :: entries, state =>
      match body entry state with
      | (state, none) => readEach body entries state
      | (state, some failure) => (state, some failure)

/-- The body of the loop in `parse_component_fields`. -/
def parseField (componentName : String) (field : Option String × YamlNode) (read : FlatFields) :
    FlatFields × Option SchemaFailure :=
  match field.1, field.2.asString with
  | some fieldName, some typeStr =>
      match parseFieldType typeStr with
      | .error typeError =>
          (read, some (.error ("Field '" ++ fieldName ++ "' in component '" ++ componentName ++
            "': " ++ typeError)))
      | .ok type =>
          ({ fields := read.fields ++ [⟨componentName, fieldName, type, read.bufferSize⟩]
             bufferSize := read.bufferSize + fieldByteSize type }, none)
  | _, _ => (read, some .exception)

/-- `parse_component_fields` -/
def parseComponentFields (componentNode : YamlNode) (componentName : String)
    (read : FlatFields) : FlatFields × Option SchemaFailure :=
  readEach (parseField componentName) componentNode.iterate read

/-- The body of the loops over the components of a section. -/
def parseComponent (component : Option String × YamlNode) (read : FlatFields) :
    FlatFields × Option SchemaFailure :=
  match component.1 with
  | some name => parseComponentFields component.2 name read
  | none => (read, some .exception)

/-! ## Schemas -/

structure InterfaceSchema where
  valid : Bool
  error : String
  stateBufferSize : Nat
  commandBufferSize : Nat
  stateFlatFields : List FlatField
  commandFlatFields : List FlatField
  deriving DecidableEq

namespace InterfaceSchema

def empty : InterfaceSchema where
  valid := false
  error := ""
  stateBufferSize := 0
  commandBufferSize := 0
  stateFlatFields := []
  commandFlatFields := []

/-- The fields that were read, with why the reading stopped; `what` is the text of an
exception. -/
def ofFlatFields (state command : FlatFields) (failure : Option SchemaFailure) (what : String) :
    InterfaceSchema where
  valid := failure.isNone
  error := match failure with
    | none => ""
    | some (.error text) => text
    | some .exception => "YAML parse error: " ++ what
  stateBufferSize := state.bufferSize
  commandBufferSize := command.bufferSize
  stateFlatFields := state.fields
  commandFlatFields := command.fields

/-- Both sections of a document, the state interfaces first. -/
def parseSections (state command : YamlNode) (what : String) : InterfaceSchema :=
  match readEach parseComponent state.iterate ⟨[], 0⟩ with
  | (stateRead, some failure) => ofFlatFields stateRead ⟨[], 0⟩ (some failure) what
  | (stateRead, none) =>
      let (commandRead, failure) := readEach parseComponent command.iterate ⟨[], 0⟩
      ofFlatFields stateRead commandRead failure what

/-- `InterfaceSchema::from_yaml` behind the YAML parser. -/
def fromRoot (root : YamlNode) (what : String) : InterfaceSchema :=
  match root.subscript "state_interfaces", root.subscript "command_interfaces" with
  | some (some state), some (some command) => parseSections state command what
  | some none, _ => { empty with error := "Missing 'state_interfaces' in schema" }
  | some (some _), some none =>
      { empty with error := "Missing 'command_interfaces' in schema" }
  | _, _ => { empty with error := "YAML parse error: " ++ what }

/-- `InterfaceSchema::from_yaml` -/
def fromYaml (yaml : YamlCpp) (yamlText : String) : InterfaceSchema :=
  match yaml.load yamlText with
  | .ok root => fromRoot root (yaml.what root)
  | .error what => { empty with error := "YAML parse error: " ++ what }

/-- `InterfaceSchema::from_yaml_file`; `content` is what the file holds, if it can be opened. -/
def fromYamlFile (yaml : YamlCpp) (filePath : String) (content : Option String) :
    InterfaceSchema :=
  match content with
  | some content => fromYaml yaml content
  | none => { empty with error := "Cannot open file: " ++ filePath }

def totalStateInterfaces (schema : InterfaceSchema) : Nat :=
  schema.stateFlatFields.length

def totalCommandInterfaces (schema : InterfaceSchema) : Nat :=
  schema.commandFlatFields.length

end InterfaceSchema

end Zenbedded
