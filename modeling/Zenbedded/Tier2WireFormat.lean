import Zenbedded.SchemaFields
import Zenbedded.SchemaAgreement

/-!
# The Tier 2 wire format

The host's schema, the firmware's generated structs and the header that the host can
write are three descriptions of one format.
-/

namespace Zenbedded

open ByteBlock ByteOrder PackedRecord

/-! ## Headers -/

theorem map_member_layout (start : Nat) (specs : List FieldSpec) :
    (layout start specs).map FlatField.member = specs.map FieldSpec.member := by
  induction specs generalizing start with
  | nil => rfl
  | cons spec specs ih =>
      simp only [layout, List.map_cons, ih]
      rfl

/-- The host writes the header that the generator writes. -/
theorem writeCHeader_ofSpecs (state command : List FieldSpec) :
    (InterfaceSchema.ofSpecs state command).writeCHeader =
      some (CHeader.ofSpecs state command) := by
  simp [InterfaceSchema.writeCHeader, InterfaceSchema.ofSpecs, CHeader.ofSpecs,
    map_member_layout]

theorem foldl_lines_append (front : String) (lines : List String) :
    lines.foldl (fun body line => body ++ (line ++ "\n")) front =
      front ++ lines.foldl (fun body line => body ++ (line ++ "\n")) "" := by
  induction lines generalizing front with
  | nil => simp
  | cons line lines ih =>
      rw [List.foldl_cons, List.foldl_cons, ih, ih ("" ++ (line ++ "\n")), String.empty_append,
        String.append_assoc]

theorem intercalate_newline (line : String) (lines : List String) :
    "\n".intercalate (line :: lines) ++ "\n" =
      (line :: lines).foldl (fun body line => body ++ (line ++ "\n")) "" := by
  induction lines generalizing line with
  | nil => simp
  | cons next lines ih =>
      rw [String.intercalate_cons_cons, String.append_assoc, ih next,
        List.foldl_cons (b := "") (a := line), foldl_lines_append ("" ++ (line ++ "\n")),
        String.empty_append]

/-- The two writers agree on the lines of a struct that has members. -/
theorem joinedBody_eq_writtenBody {members : List CMember} (nonempty : members ≠ []) :
    CHeader.joinedBody members = CHeader.writtenBody members := by
  cases members with
  | nil => exact absurd rfl nonempty
  | cons member members =>
      rw [CHeader.joinedBody, CHeader.writtenBody, List.map_cons, intercalate_newline,
        ← List.map_cons, List.foldl_map]

/-- With members in both structs the two headers are the same text. -/
theorem generatedText_eq_writtenText {header : CHeader} (state : header.state ≠ [])
    (command : header.command ≠ []) : header.generatedText = header.writtenText := by
  rw [CHeader.generatedText, CHeader.writtenText, joinedBody_eq_writtenBody state,
    joinedBody_eq_writtenBody command]

theorem specs_agree {root : YamlNode} {host generator : List FieldSpec × List FieldSpec}
    (hostRead : hostSpecs root = some host) (generatorRead : generatorSpecs root = some generator) :
    host = generator := by
  cases root with
  | mapping sections =>
      obtain ⟨state, command, stateAt, commandAt, -⟩ :=
        (isSome_hostSpecs_iff sections).mp (by simp [hostRead])
      simp only [generatorSpecs, stateAt, commandAt, Option.getD_some] at generatorRead
      obtain ⟨stateSpecs, stateEq, generatorRead⟩ := Option.bind_eq_some_iff.mp generatorRead
      obtain ⟨commandSpecs, commandEq, generatorRead⟩ := Option.bind_eq_some_iff.mp generatorRead
      have stateHost := YamlNode.sectionSpecs_of_generatorSectionSpecs stateEq
      have commandHost := YamlNode.sectionSpecs_of_generatorSectionSpecs commandEq
      simp only [hostSpecs, YamlNode.subscript, stateAt, commandAt, Option.join_some,
        Option.bind_eq_bind, Option.bind_some, stateHost, commandHost] at hostRead
      exact Option.some.inj (hostRead.symm.trans generatorRead)
  | null => cases generatorRead
  | scalar text => cases generatorRead
  | sequence items => cases generatorRead

/-! ## States -/

section State

variable {casts : Casts} {specs : List FieldSpec}

theorem readField_layout {members : List CMember} (memberEq : members = specs.map FieldSpec.member)
    {size : Nat} {buffer : Block UInt8 size} {object : Block UInt8 (structSize members)}
    (copied : buffer.bytes.take (structSize members) = object.bytes) {index : Nat}
    {member : CMember} (found : members[index]? = some member) :
    ∃ bits, memberBits members object index = some bits ∧
      readField casts (layout 0 specs) buffer index = some (casts.toDouble member.type bits) := by
  subst memberEq
  obtain ⟨spec, specFound, rfl⟩ : ∃ spec, specs[index]? = some spec ∧ spec.member = member := by
    simpa using found
  have nonempty : specs ≠ [] := by
    rintro rfl
    simp at specFound
  have structEq := structSize_map_member nonempty
  have inside := offset_add_le_specsByteSize specFound
  have sizes := congrArg List.length copied
  simp only [List.length_take, Block.length_bytes] at sizes
  have objectLoad : object.load (offset (specWidths specs) index) (fieldByteSize spec.type) =
      some ((object.bytes.drop (offset (specWidths specs) index)).take
        (fieldByteSize spec.type)) := by
    rw [Block.load, if_pos (by omega)]
  have bufferLoad : buffer.load (offset (specWidths specs) index) (fieldByteSize spec.type) =
      some ((object.bytes.drop (offset (specWidths specs) index)).take
        (fieldByteSize spec.type)) := by
    rw [Block.load, if_pos (by omega), ← copied, List.drop_take, List.take_take,
      Nat.min_eq_left (by omega)]
  refine ⟨littleEndianValue ((object.bytes.drop (offset (specWidths specs) index)).take
    (fieldByteSize spec.type)), ?_, ?_⟩
  · simp only [memberBits, List.getElem?_map, specFound, Option.map_some, Option.bind_eq_bind,
      Option.bind_some, memberWidths_map_member]
    rw [show spec.member.type.sizeof = fieldByteSize spec.type from
      sizeof_fieldTypeToCType spec.type, objectLoad]
    rfl
  · rw [readField_eq (flatField_of_spec specFound), bufferLoad]
    rfl

end State

/-! ## Commands -/

section Command

variable {casts : Casts} {specs : List FieldSpec}

def fieldData (casts : Casts) (specs : List FieldSpec) (values : Nat → UInt64) (index : Nat) :
    List UInt8 :=
  match specs[index]? with
  | some spec => littleEndian (fieldByteSize spec.type)
      (casts.ofDouble (fieldTypeToCType spec.type) (values index))
  | none => []

theorem length_fieldData (values : Nat → UInt64) (index width : Nat)
    (found : (specWidths specs)[index]? = some width) :
    (fieldData casts specs values index).length = width := by
  obtain ⟨spec, specFound, rfl⟩ : ∃ spec, specs[index]? = some spec ∧
      fieldByteSize spec.type = width := by
    simpa [specWidths] using found
  rw [fieldData, specFound, length_littleEndian]

theorem writeField_layout {index size : Nat} (below : index < specs.length)
    (values : Nat → UInt64) (buffer : Block UInt8 size) :
    writeField casts (layout 0 specs) buffer index (values index) =
      buffer.store (offset (specWidths specs) index) (fieldData casts specs values index) := by
  have specFound : specs[index]? = some specs[index] := List.getElem?_eq_getElem below
  rw [writeField_eq (flatField_of_spec specFound), fieldData, specFound]

def writeCommandFields (casts : Casts) (fields : List FlatField) (values : Nat → UInt64)
    {size : Nat} (buffer : Block UInt8 size) : Option (Block UInt8 size) :=
  forEach fields.length
    (fun index buffer => writeField casts fields buffer index (values index)) buffer

theorem writeCommandFields_layout {size : Nat} (inside : specsByteSize specs ≤ size)
    (values : Nat → UInt64) (buffer : Block UInt8 size) :
    ∃ filled, writeCommandFields casts (layout 0 specs) values buffer = some filled ∧
      HoldsUpTo (specWidths specs) (fieldData casts specs values) specs.length filled := by
  have same := fun index (below : index < specs.length) (buffer : Block UInt8 size) =>
    (writeField_layout below values buffer :
      writeField casts (layout 0 specs) buffer index (values index) = _)
  rw [writeCommandFields, length_layout, forEach_congr same, ← length_specWidths]
  exact forEach_store (length_fieldData values) inside buffer

/-- A member of a struct that was copied from a filled buffer. -/
theorem memberBits_of_filled {members : List CMember}
    (memberEq : members = specs.map FieldSpec.member) {values : Nat → UInt64}
    {filled : Block UInt8 (specsByteSize specs)} {object : Block UInt8 (structSize members)}
    (holds : HoldsUpTo (specWidths specs) (fieldData casts specs values) specs.length filled)
    (copied : object.bytes = filled.bytes) {index : Nat} {member : CMember}
    (found : members[index]? = some member) :
    memberBits members object index = some (casts.ofDouble member.type (values index)) := by
  subst memberEq
  obtain ⟨spec, specFound, rfl⟩ : ∃ spec, specs[index]? = some spec ∧ spec.member = member := by
    simpa using found
  have inside := offset_add_le_specsByteSize specFound
  obtain ⟨below, -⟩ := List.getElem?_eq_some_iff.mp specFound
  have contents := holds index below (fieldByteSize spec.type) (getElem?_specWidths specFound)
  have sizes := congrArg List.length copied
  simp only [Block.length_bytes] at sizes
  have size := sizeof_fieldTypeToCType spec.type
  have loaded : object.load (offset (specWidths specs) index) (fieldByteSize spec.type) =
      some (fieldData casts specs values index) := by
    rw [← contents, Block.load, if_pos (by omega), copied]
    rfl
  simp only [memberBits, List.getElem?_map, specFound, Option.map_some, Option.bind_eq_bind,
    Option.bind_some, memberWidths_map_member]
  rw [show spec.member.type.sizeof = fieldByteSize spec.type from size, loaded, Option.bind_some,
    fieldData, specFound]
  have bounded := casts.ofDouble_lt (fieldTypeToCType spec.type) (values index)
  rw [size] at bounded
  exact congrArg some (littleEndianValue_littleEndian bounded)

end Command

/-! ## Agreement -/

def SameOffsets (fields : List FlatField) (members : List CMember) : Prop :=
  ∀ index field, fields[index]? = some field →
    field.byteOffset = offset (memberWidths members) index

theorem sameOffsets_layout (specs : List FieldSpec) :
    SameOffsets (layout 0 specs) (specs.map FieldSpec.member) := by
  intro index field found
  rw [getElem?_layout, memberWidths_map_member] at *
  obtain ⟨spec, -, rfl⟩ := Option.map_eq_some_iff.mp found
  exact Nat.zero_add _

/-- The host reads every state that the firmware writes. -/
def ReadsStates (casts : Casts) (schema : InterfaceSchema) (members : List CMember) : Prop :=
  ∀ (object : Block UInt8 (structSize members)) (size : Nat) (buffer : Block UInt8 size),
    structSize members ≤ size → ∃ written,
      (RawCodec.state (structSize members)).write () object buffer = some written ∧
      ∀ index member, members[index]? = some member →
        ∃ bits, memberBits members object index = some bits ∧
          readField casts schema.stateFlatFields written index =
            some (casts.toDouble member.type bits)

/-- The firmware reads every command that the host writes. -/
def ReadsCommands (casts : Casts) (schema : InterfaceSchema) (members : List CMember) : Prop :=
  ∀ (values : Nat → UInt64) (buffer : Block UInt8 schema.commandBufferSize),
    ∃ filled, writeCommandFields casts schema.commandFlatFields values buffer = some filled ∧
      ∀ old : Block UInt8 (structSize members), ∃ accepted out,
        (RawCodec.command (structSize members)).read () filled schema.commandBufferSize old =
          some (accepted, out) ∧
        ∀ index member, members[index]? = some member →
          accepted = true ∧
            memberBits members out index = some (casts.ofDouble member.type (values index))

theorem readsStates_ofSpecs (casts : Casts) (state command : List FieldSpec) :
    ReadsStates casts (.ofSpecs state command) (state.map FieldSpec.member) := by
  intro object size buffer fits
  obtain ⟨written, writes, copied⟩ := rawCodec_write object buffer fits
  exact ⟨written, writes, fun index member found => readField_layout rfl copied found⟩

theorem readsCommands_ofSpecs (casts : Casts) (state command : List FieldSpec) :
    ReadsCommands casts (.ofSpecs state command) (command.map FieldSpec.member) := by
  intro values buffer
  obtain ⟨filled, filledEq, holds⟩ := writeCommandFields_layout le_rfl values buffer
  refine ⟨filled, filledEq, fun old => ?_⟩
  rcases eq_or_ne command [] with rfl | nonempty
  · exact ⟨false, old, rfl, by simp⟩
  · have size := structSize_map_member nonempty
    let out : Block UInt8 (structSize (command.map FieldSpec.member)) :=
      ⟨filled.bytes, filled.length_bytes.trans size.symm⟩
    have front : filled.bytes.take (structSize (command.map FieldSpec.member)) = out.bytes :=
      List.take_of_length_le out.length_bytes.le
    have reads : ∀ count, count = structSize (command.map FieldSpec.member) →
        (RawCodec.command (structSize (command.map FieldSpec.member))).read () filled count old =
          some (true, out) := by
      rintro _ rfl
      exact rawCodec_read () size.le front old
    exact ⟨true, out, reads _ size.symm, fun index member found =>
      ⟨rfl, memberBits_of_filled rfl holds rfl found⟩⟩

/-- A document that both sides accept is laid out from the same fields by both. -/
theorem specs_of_accepted {root : YamlNode} {what : String} {header : CHeader}
    (valid : (InterfaceSchema.fromRoot root what).valid = true)
    (generated : generateHeader root = .ok header) :
    ∃ state command, generatorSpecs root = some (state, command) ∧
      InterfaceSchema.fromRoot root what = .ofSpecs state command ∧
      header = .ofSpecs state command := by
  rw [InterfaceSchema.fromRoot_valid_iff] at valid
  have generatorRead := (generateHeader_isOk_iff root).mp ⟨header, generated⟩
  obtain ⟨⟨state, command⟩, hostRead⟩ := Option.isSome_iff_exists.mp valid
  obtain ⟨specs, specsRead⟩ := Option.isSome_iff_exists.mp generatorRead
  obtain rfl := specs_agree hostRead specsRead
  exact ⟨state, command, specsRead, InterfaceSchema.fromRoot_of_hostSpecs hostRead what,
    Except.ok.inj (generated.symm.trans (generateHeader_of_specs specsRead))⟩

/-- Host, generator and generated firmware describe one wire format. -/
theorem tier2_wire_formats_agree (casts : Casts) {root : YamlNode} {what : String}
    {header : CHeader} (valid : (InterfaceSchema.fromRoot root what).valid = true)
    (generated : generateHeader root = .ok header) :
    let schema := InterfaceSchema.fromRoot root what
    schema.writeCHeader = some header ∧
      SameOffsets schema.stateFlatFields header.state ∧
      SameOffsets schema.commandFlatFields header.command ∧
      ReadsStates casts schema header.state ∧ ReadsCommands casts schema header.command := by
  obtain ⟨state, command, -, schemaEq, headerEq⟩ := specs_of_accepted valid generated
  rw [schemaEq, headerEq]
  exact ⟨writeCHeader_ofSpecs state command, sameOffsets_layout state,
    sameOffsets_layout command, readsStates_ofSpecs casts state command,
    readsCommands_ofSpecs casts state command⟩

theorem tier2_wire_formats_agree_arm :
    let root : YamlNode := .mapping
      [("state_interfaces", .mapping [("arm", .mapping [("position", .scalar "float32"),
          ("count", .scalar "uint8")]), ("leg", .mapping [("position", .scalar "double")])]),
       ("command_interfaces", .mapping [("arm", .mapping [("effort", .scalar "int16")])])]
    ReadsStates .ieee (.fromRoot root "")
        [⟨.float, "arm_position"⟩, ⟨.uint8, "arm_count"⟩, ⟨.double, "leg_position"⟩] ∧
      ReadsCommands .ieee (.fromRoot root "") [⟨.int16, "arm_effort"⟩] := by
  intro root
  have valid : (InterfaceSchema.fromRoot root "").valid = true := rfl
  have generated : generateHeader root = .ok ⟨13, 2,
      [⟨.float, "arm_position"⟩, ⟨.uint8, "arm_count"⟩, ⟨.double, "leg_position"⟩],
      [⟨.int16, "arm_effort"⟩]⟩ := rfl
  exact (tier2_wire_formats_agree .ieee valid generated).2.2.2

end Zenbedded
