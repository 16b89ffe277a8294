import Zenbedded.SchemaDescription

/-!
# The generated payload headers

The header that `generate_tier2_payload.py` writes for the firmware, and the one that
the host's `write_c_header` writes.  A header is kept as its macros and its struct
members, together with its text.
-/

namespace Zenbedded

/-! ## Headers -/

inductive CType
  | float
  | double
  | int32
  | uint64
  | int16
  | uint8
  deriving DecidableEq, Repr

namespace CType

def text : CType → String
  | .float => "float"
  | .double => "double"
  | .int32 => "int32_t"
  | .uint64 => "uint64_t"
  | .int16 => "int16_t"
  | .uint8 => "uint8_t"

/-- `sizeof` on the firmware's target. -/
def sizeof : CType → Nat
  | .float => 4
  | .double => 8
  | .int32 => 4
  | .uint64 => 8
  | .int16 => 2
  | .uint8 => 1

end CType

structure CMember where
  type : CType
  name : String
  deriving DecidableEq, Repr

structure CHeader where
  /-- `ZENBEDDED_STATE_BYTE_SIZE` -/
  stateByteSize : Nat
  /-- `ZENBEDDED_COMMAND_BYTE_SIZE` -/
  commandByteSize : Nat
  /-- The members of `zenbedded_state_t`. -/
  state : List CMember
  /-- The members of `zenbedded_command_t`. -/
  command : List CMember
  deriving DecidableEq, Repr

def CMember.line (member : CMember) : String :=
  "  " ++ member.type.text ++ " " ++ member.name ++ ";"

namespace CHeader

def guard : String :=
  "ZENBEDDED_SCHEMA__GENERATED__INTERFACE_DATA_H_"

/-- The text around the bodies of the two structs. -/
def textAround (header : CHeader) (stateBody commandBody : String) : String :=
  "#ifndef " ++ guard ++ "\n" ++
  "#define " ++ guard ++ "\n\n" ++
  "#include <stdint.h>\n\n" ++
  "#define ZENBEDDED_STATE_BYTE_SIZE " ++ toString header.stateByteSize ++ "\n" ++
  "#define ZENBEDDED_COMMAND_BYTE_SIZE " ++ toString header.commandByteSize ++ "\n\n" ++
  "#pragma pack(push, 1)\n" ++
  "typedef struct\n\x7b\n" ++ stateBody ++ "\x7d zenbedded_state_t;\n\n" ++
  "typedef struct\n\x7b\n" ++ commandBody ++ "\x7d zenbedded_command_t;\n" ++
  "#pragma pack(pop)\n\n" ++
  "#endif  // " ++ guard ++ "\n"

/-- The lines of a struct as `write_c_header` writes them. -/
def writtenBody (members : List CMember) : String :=
  members.foldl (fun body member => body ++ (member.line ++ "\n")) ""

/-- The lines of a struct as `generate_header` joins them. -/
def joinedBody (members : List CMember) : String :=
  "\n".intercalate (members.map CMember.line) ++ "\n"

end CHeader

/-! ## The generator of the firmware -/

/-- How the generator ends without a header. -/
inductive GeneratorFailure
  | exit (message : String)
  | attributeError
  | typeError
  deriving DecidableEq

/-- `TYPE_MAP` -/
def typeMap : List (String × CType × Nat) :=
  [("float32", .float, 4),
   ("float64", .double, 8),
   ("double", .double, 8),
   ("int32", .int32, 4),
   ("uint64", .uint64, 8),
   ("int16", .int16, 2),
   ("uint8", .uint8, 1)]

/-- The entries of a Python dictionary; nothing else has `get` or `items`. -/
def dictItems : YamlNode → Except GeneratorFailure (List (String × YamlNode))
  | .mapping entries => .ok entries
  | _ => .error .attributeError

structure GeneratedFields where
  fields : List CMember
  size : Nat
  deriving DecidableEq

/-- What `TYPE_MAP` has for a type; lists and dictionaries cannot be looked up. -/
def mappedType (ftype : YamlNode) (place : String) : Except GeneratorFailure (CType × Nat) :=
  match ftype with
  | .scalar text =>
      match typeMap.lookup text with
      | some mapped => .ok mapped
      | none => .error (.exit ("Error: Unknown type '" ++ text ++ "' in " ++ place))
  | .null => .error (.exit ("Error: Unknown type 'None' in " ++ place))
  | .sequence _ | .mapping _ => .error .typeError

/-- The body of the loop over the fields of a component. -/
def generateField (sectionName component : String) (field : String × YamlNode)
    (generated : GeneratedFields) : Except GeneratorFailure GeneratedFields := do
  let (ctype, size) ← mappedType field.2 (sectionName ++ " " ++ component ++ "." ++ field.1)
  .ok { fields := generated.fields ++ [⟨ctype, component ++ "_" ++ field.1⟩]
        size := generated.size + size }

/-- The body of the loop over the components of a section. -/
def generateComponent (sectionName : String) (component : String × YamlNode)
    (generated : GeneratedFields) : Except GeneratorFailure GeneratedFields := do
  let fields ← dictItems component.2
  fields.foldlM (fun generated field => generateField sectionName component.1 field generated)
    generated

/-- A section; a missing one has no components. -/
def generateSection (sectionName : String) (node : Option YamlNode) :
    Except GeneratorFailure GeneratedFields := do
  let components ← dictItems (node.getD (.mapping []))
  components.foldlM
    (fun generated component => generateComponent sectionName component generated) ⟨[], 0⟩

/-- `generate_header` behind the YAML parser. -/
def generateHeader (data : YamlNode) : Except GeneratorFailure CHeader := do
  let sections ← dictItems data
  let state ← generateSection "state" (sections.lookup "state_interfaces")
  let command ← generateSection "command" (sections.lookup "command_interfaces")
  .ok { stateByteSize := state.size
        commandByteSize := command.size
        state := state.fields
        command := command.fields }

/-- The text that `generate_header` writes. -/
def CHeader.generatedText (header : CHeader) : String :=
  header.textAround (joinedBody header.state) (joinedBody header.command)

/-! ## The header of the host -/

/-- `field_type_to_c_type` -/
def fieldTypeToCType : FieldType → CType
  | .float32 => .float
  | .float64 => .double
  | .int32 => .int32
  | .uint64 => .uint64
  | .int16 => .int16
  | .uint8 => .uint8

def FlatField.member (field : FlatField) : CMember :=
  ⟨fieldTypeToCType field.type, field.component ++ "_" ++ field.field⟩

/-- What `write_c_header` writes of a schema; an invalid one is not written. -/
def InterfaceSchema.writeCHeader (schema : InterfaceSchema) : Option CHeader :=
  if schema.valid then
    some {
      stateByteSize := schema.stateBufferSize
      commandByteSize := schema.commandBufferSize
      state := schema.stateFlatFields.map FlatField.member
      command := schema.commandFlatFields.map FlatField.member }
  else
    none

/-- The text that `write_c_header` writes. -/
def CHeader.writtenText (header : CHeader) : String :=
  header.textAround (writtenBody header.state) (writtenBody header.command)

end Zenbedded
