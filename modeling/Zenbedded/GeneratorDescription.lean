import Zenbedded.PayloadGenerator

/-!
# What a schema document describes to the generator

The generator reads mappings only, and a missing section as one without components.
It writes the header of what a document describes to it, and none if the document
describes nothing.
-/

namespace Zenbedded

/-! ## What a document describes to the generator -/

def generatorFieldSpecs (componentName : String) (field : String × YamlNode) :
    Option (List FieldSpec) :=
  match field.2 with
  | .scalar text =>
      (parseFieldType text).toOption.map fun type => [⟨componentName, field.1, type⟩]
  | _ => none

def generatorComponentSpecs (component : String × YamlNode) : Option (List FieldSpec) :=
  match component.2 with
  | .mapping fields => collect (generatorFieldSpecs component.1) fields
  | _ => none

def generatorSectionSpecs : YamlNode → Option (List FieldSpec)
  | .mapping components => collect generatorComponentSpecs components
  | _ => none

/-- What a document describes to the generator: its state and its command fields. -/
def generatorSpecs : YamlNode → Option (List FieldSpec × List FieldSpec)
  | .mapping sections => do
      let state ← generatorSectionSpecs ((sections.lookup "state_interfaces").getD (.mapping []))
      let command ←
        generatorSectionSpecs ((sections.lookup "command_interfaces").getD (.mapping []))
      some (state, command)
  | _ => none

/-! ## The generator lays out what is described -/

def FieldSpec.member (spec : FieldSpec) : CMember :=
  ⟨fieldTypeToCType spec.type, spec.component ++ "_" ++ spec.field⟩

def GeneratedFields.extend (generated : GeneratedFields) (specs : List FieldSpec) :
    GeneratedFields where
  fields := generated.fields ++ specs.map FieldSpec.member
  size := generated.size + specsByteSize specs

@[simp]
theorem GeneratedFields.extend_nil (generated : GeneratedFields) :
    generated.extend [] = generated := by
  simp [GeneratedFields.extend, specsByteSize]

theorem GeneratedFields.extend_append (generated : GeneratedFields)
    (first second : List FieldSpec) :
    generated.extend (first ++ second) = (generated.extend first).extend second := by
  simp [GeneratedFields.extend, specsByteSize_append, Nat.add_assoc]

/-- The type tables of the host and of the generator agree. -/
theorem lookup_typeMap (text : String) :
    typeMap.lookup text =
      (parseFieldType text).toOption.map fun type =>
        (fieldTypeToCType type, fieldByteSize type) := by
  rcases eq_or_ne text "float32" with rfl | float32
  · rfl
  rcases eq_or_ne text "float64" with rfl | float64
  · rfl
  rcases eq_or_ne text "double" with rfl | double
  · rfl
  rcases eq_or_ne text "int32" with rfl | int32
  · rfl
  rcases eq_or_ne text "uint64" with rfl | uint64
  · rfl
  rcases eq_or_ne text "int16" with rfl | int16
  · rfl
  rcases eq_or_ne text "uint8" with rfl | uint8
  · rfl
  simp [parseFieldType, typeMap, List.lookup_cons, Except.toOption, float32, float64, double,
    int32, uint64, int16, uint8, beq_false_of_ne]

/-- A step of the generator lays out what its entry describes, and fails where it describes
nothing. -/
def Generates {Entry : Type} (describe : Entry → Option (List FieldSpec))
    (body : Entry → GeneratedFields → Except GeneratorFailure GeneratedFields) : Prop :=
  ∀ entry generated,
    (∀ specs, describe entry = some specs → body entry generated = .ok (generated.extend specs)) ∧
      (describe entry = none → ∃ failure, body entry generated = .error failure)

theorem Generates.foldlM {Entry : Type} {describe : Entry → Option (List FieldSpec)}
    {body : Entry → GeneratedFields → Except GeneratorFailure GeneratedFields}
    (generates : Generates describe body) :
    Generates (collect describe)
      fun entries generated => entries.foldlM (fun generated entry => body entry generated)
        generated := by
  intro entries generated
  induction entries generalizing generated with
  | nil => exact ⟨fun specs described => by cases described; simp; rfl, by simp⟩
  | cons entry entries ih =>
      obtain ⟨succeeds, fails⟩ := generates entry generated
      dsimp only
      rw [List.foldlM_cons]
      constructor
      · intro specs described
        obtain ⟨first, firstEq, described⟩ := Option.bind_eq_some_iff.mp described
        obtain ⟨rest, restEq, described⟩ := Option.bind_eq_some_iff.mp described
        obtain rfl := Option.some.inj described
        rw [succeeds first firstEq, GeneratedFields.extend_append]
        exact (ih (generated.extend first)).1 rest restEq
      · intro undescribed
        cases firstEq : describe entry with
        | none =>
            obtain ⟨failure, failed⟩ := fails firstEq
            exact ⟨failure, by rw [failed]; rfl⟩
        | some first =>
            rw [succeeds first firstEq]
            refine (ih (generated.extend first)).2 ?_
            simpa [firstEq] using collect_cons_eq_none_iff.mp undescribed

theorem generateField_generates (sectionName component : String) :
    Generates (generatorFieldSpecs component) (generateField sectionName component) := by
  rintro ⟨fieldName, node⟩ generated
  cases node with
  | scalar text =>
      have table := lookup_typeMap text
      cases parsed : (parseFieldType text).toOption with
      | none =>
          rw [parsed] at table
          simp [generatorFieldSpecs, generateField, mappedType, parsed, table, bind, Except.bind]
      | some type =>
          rw [parsed] at table
          simp [generatorFieldSpecs, generateField, mappedType, parsed, table, bind, Except.bind,
            GeneratedFields.extend, FieldSpec.member, specsByteSize]
  | null => simp [generatorFieldSpecs, generateField, mappedType, bind, Except.bind]
  | sequence items => simp [generatorFieldSpecs, generateField, mappedType, bind, Except.bind]
  | mapping entries => simp [generatorFieldSpecs, generateField, mappedType, bind, Except.bind]

theorem generateComponent_generates (sectionName : String) :
    Generates generatorComponentSpecs (generateComponent sectionName) := by
  rintro ⟨component, node⟩ generated
  cases node with
  | mapping fields =>
      exact (generateField_generates sectionName component).foldlM fields generated
  | null => simp [generatorComponentSpecs, generateComponent, dictItems, bind, Except.bind]
  | scalar text => simp [generatorComponentSpecs, generateComponent, dictItems, bind, Except.bind]
  | sequence items =>
      simp [generatorComponentSpecs, generateComponent, dictItems, bind, Except.bind]

def CHeader.ofSpecs (state command : List FieldSpec) : CHeader where
  stateByteSize := specsByteSize state
  commandByteSize := specsByteSize command
  state := state.map FieldSpec.member
  command := command.map FieldSpec.member

theorem generateSection_of_specs {sectionName : String} {node : Option YamlNode}
    {specs : List FieldSpec}
    (described : generatorSectionSpecs (node.getD (.mapping [])) = some specs) :
    generateSection sectionName node = .ok (GeneratedFields.extend ⟨[], 0⟩ specs) := by
  unfold generateSection
  cases nodeEq : node.getD (.mapping []) with
  | mapping components =>
      rw [nodeEq] at described
      exact ((generateComponent_generates sectionName).foldlM components ⟨[], 0⟩).1 specs
        described
  | null => simp [nodeEq, generatorSectionSpecs] at described
  | scalar text => simp [nodeEq, generatorSectionSpecs] at described
  | sequence items => simp [nodeEq, generatorSectionSpecs] at described

theorem generateSection_fails (sectionName : String) {node : Option YamlNode}
    (undescribed : generatorSectionSpecs (node.getD (.mapping [])) = none) :
    ∃ failure, generateSection sectionName node = .error failure := by
  unfold generateSection
  cases nodeEq : node.getD (.mapping []) with
  | mapping components =>
      rw [nodeEq] at undescribed
      exact ((generateComponent_generates sectionName).foldlM components ⟨[], 0⟩).2 undescribed
  | null => exact ⟨.attributeError, rfl⟩
  | scalar text => exact ⟨.attributeError, rfl⟩
  | sequence items => exact ⟨.attributeError, rfl⟩

/-- The generator writes a header exactly for the documents that describe something to it. -/
theorem generateHeader_of_specs {root : YamlNode} {state command : List FieldSpec}
    (described : generatorSpecs root = some (state, command)) :
    generateHeader root = .ok (CHeader.ofSpecs state command) := by
  cases root with
  | mapping sections =>
      obtain ⟨stateSpecs, stateEq, described⟩ := Option.bind_eq_some_iff.mp described
      obtain ⟨commandSpecs, commandEq, described⟩ := Option.bind_eq_some_iff.mp described
      cases described
      simp [generateHeader, dictItems, generateSection_of_specs stateEq,
        generateSection_of_specs commandEq, bind, Except.bind, GeneratedFields.extend,
        CHeader.ofSpecs]
  | null => cases described
  | scalar text => cases described
  | sequence items => cases described

theorem generateHeader_fails {root : YamlNode} (undescribed : generatorSpecs root = none) :
    ∃ failure, generateHeader root = .error failure := by
  cases root with
  | mapping sections =>
      cases stateEq : generatorSectionSpecs
          ((sections.lookup "state_interfaces").getD (.mapping [])) with
      | none =>
          obtain ⟨failure, failed⟩ := generateSection_fails "state" stateEq
          exact ⟨failure, by simp [generateHeader, dictItems, failed, bind, Except.bind]⟩
      | some state =>
          have commandEq : generatorSectionSpecs
              ((sections.lookup "command_interfaces").getD (.mapping [])) = none := by
            by_contra described
            obtain ⟨command, commandEq⟩ := Option.ne_none_iff_exists'.mp described
            simp [generatorSpecs, stateEq, commandEq] at undescribed
          obtain ⟨failure, failed⟩ := generateSection_fails "command" commandEq
          refine ⟨failure, ?_⟩
          simp [generateHeader, dictItems, generateSection_of_specs stateEq, failed, bind,
            Except.bind]
  | null => exact ⟨.attributeError, rfl⟩
  | scalar text => exact ⟨.attributeError, rfl⟩
  | sequence items => exact ⟨.attributeError, rfl⟩

theorem generateHeader_isOk_iff (root : YamlNode) :
    (∃ header, generateHeader root = .ok header) ↔ (generatorSpecs root).isSome := by
  cases described : generatorSpecs root with
  | none =>
      obtain ⟨failure, failed⟩ := generateHeader_fails described
      simp [failed]
  | some specs => simp [generateHeader_of_specs described]

end Zenbedded
