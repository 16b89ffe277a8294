import Zenbedded.GeneratorDescription

/-!
# Host and firmware on one document

Where the host and the generator differ: the host reads a node that holds nothing as a
section or a component without fields, the generator reads a missing section as one
without components.
-/

namespace Zenbedded

/-! ## Shapes of documents -/

namespace YamlNode

def isKnownType : YamlNode → Bool
  | .scalar text => (parseFieldType text).isOk
  | _ => false

def isProperComponent : YamlNode → Bool
  | .mapping fields => fields.all fun field => field.2.isKnownType
  | _ => false

def isProperSection : YamlNode → Bool
  | .mapping components => components.all fun component => component.2.isProperComponent
  | _ => false

/-- No mapping, but iterating it yields nothing. -/
def isHollow : YamlNode → Bool
  | .null | .scalar _ | .sequence [] => true
  | _ => false

/-- A section whose components are proper or hollow, or that is hollow itself. -/
def isToleratedSection : YamlNode → Bool
  | .mapping components =>
      components.all fun component => component.2.isHollow || component.2.isProperComponent
  | node => node.isHollow

theorem isSome_generatorFieldSpecs (componentName : String) (field : String × YamlNode) :
    (generatorFieldSpecs componentName field).isSome = field.2.isKnownType := by
  obtain ⟨fieldName, node⟩ := field
  cases node with
  | scalar text =>
      cases parsed : parseFieldType text <;>
        simp [generatorFieldSpecs, isKnownType, parsed, Except.toOption, Except.isOk, Except.toBool]
  | null => rfl
  | sequence items => rfl
  | mapping entries => rfl

theorem isSome_generatorComponentSpecs (component : String × YamlNode) :
    (generatorComponentSpecs component).isSome = component.2.isProperComponent := by
  obtain ⟨name, node⟩ := component
  cases node with
  | mapping fields =>
      rw [Bool.eq_iff_iff, generatorComponentSpecs, isSome_collect_iff, isProperComponent,
        List.all_eq_true]
      simp only [isSome_generatorFieldSpecs]
  | null => rfl
  | scalar text => rfl
  | sequence items => rfl

theorem isSome_generatorSectionSpecs (node : YamlNode) :
    (generatorSectionSpecs node).isSome = node.isProperSection := by
  cases node with
  | mapping components =>
      rw [Bool.eq_iff_iff, generatorSectionSpecs, isSome_collect_iff, isProperSection,
        List.all_eq_true]
      simp only [isSome_generatorComponentSpecs]
  | null => rfl
  | scalar text => rfl
  | sequence items => rfl

/-- The host describes a field of a mapping as the generator does. -/
theorem fieldSpecs_some (componentName : String) (field : String × YamlNode) :
    fieldSpecs componentName (some field.1, field.2) = generatorFieldSpecs componentName field := by
  obtain ⟨fieldName, node⟩ := field
  cases node with
  | scalar text =>
      cases parsed : (parseFieldType text).toOption <;>
        simp [fieldSpecs, generatorFieldSpecs, asString, parsed]
  | null => rfl
  | sequence items => rfl
  | mapping entries => rfl

/-- The host describes a mapping as the generator does. -/
theorem componentSpecs_mapping (name : String) (fields : List (String × YamlNode)) :
    componentSpecs (some name, .mapping fields) =
      generatorComponentSpecs (name, .mapping fields) := by
  simp only [componentSpecs, iterate, Option.bind_eq_bind, Option.bind_some, collect_map,
    fieldSpecs_some, generatorComponentSpecs]

theorem isSome_componentSpecs (name : String) (node : YamlNode) :
    (componentSpecs (some name, node)).isSome = (node.isHollow || node.isProperComponent) := by
  cases node with
  | mapping fields =>
      rw [componentSpecs_mapping, isSome_generatorComponentSpecs]
      rfl
  | null => rfl
  | scalar text => rfl
  | sequence items =>
      cases items with
      | nil => rfl
      | cons item items => rfl

theorem isSome_sectionSpecs (node : YamlNode) :
    (sectionSpecs node).isSome = node.isToleratedSection := by
  cases node with
  | mapping components =>
      rw [Bool.eq_iff_iff, sectionSpecs, iterate, collect_map, isSome_collect_iff,
        isToleratedSection, List.all_eq_true]
      simp only [isSome_componentSpecs]
  | null => rfl
  | scalar text => rfl
  | sequence items =>
      cases items with
      | nil => rfl
      | cons item items => rfl

/-- Every proper section is tolerated, and described alike. -/
theorem sectionSpecs_of_generatorSectionSpecs {node : YamlNode} {specs : List FieldSpec}
    (described : generatorSectionSpecs node = some specs) : sectionSpecs node = some specs := by
  cases node with
  | mapping components =>
      rw [sectionSpecs, iterate, collect_map]
      refine collect_of_le (fun component _ specs described => ?_) described
      obtain ⟨name, node⟩ := component
      cases node with
      | mapping fields => rwa [componentSpecs_mapping]
      | null => cases described
      | scalar text => cases described
      | sequence items => cases described
  | null => cases described
  | scalar text => cases described
  | sequence items => cases described

end YamlNode

theorem isSome_generatorSpecs_iff (sections : List (String × YamlNode)) :
    (generatorSpecs (.mapping sections)).isSome ↔
      ((sections.lookup "state_interfaces").getD (.mapping [])).isProperSection = true ∧
        ((sections.lookup "command_interfaces").getD (.mapping [])).isProperSection = true := by
  rw [← YamlNode.isSome_generatorSectionSpecs, ← YamlNode.isSome_generatorSectionSpecs,
    generatorSpecs]
  cases generatorSectionSpecs ((sections.lookup "state_interfaces").getD (.mapping [])) <;>
    cases generatorSectionSpecs ((sections.lookup "command_interfaces").getD (.mapping [])) <;>
    simp

theorem isSome_hostSpecs_iff (sections : List (String × YamlNode)) :
    (hostSpecs (.mapping sections)).isSome ↔
      ∃ state command, sections.lookup "state_interfaces" = some state ∧
        sections.lookup "command_interfaces" = some command ∧
        state.isToleratedSection = true ∧ command.isToleratedSection = true := by
  simp only [← YamlNode.isSome_sectionSpecs]
  cases stateAt : sections.lookup "state_interfaces" with
  | none => simp [hostSpecs, YamlNode.subscript, stateAt]
  | some state =>
      cases commandAt : sections.lookup "command_interfaces" with
      | none => simp [hostSpecs, YamlNode.subscript, stateAt, commandAt]
      | some command =>
          cases stateEq : sectionSpecs state <;> cases commandEq : sectionSpecs command <;>
            simp [hostSpecs, YamlNode.subscript, stateAt, commandAt, stateEq, commandEq]

/-! ## Agreement -/

/-- Host and generator accept a document both or not at all, and a valid schema is one whose
components are all written out. -/
structure AcceptedAlike (root : YamlNode) (what : String) : Prop where
  same : (InterfaceSchema.fromRoot root what).valid = true ↔
    ∃ header, generateHeader root = .ok header
  writtenOut : (InterfaceSchema.fromRoot root what).valid = true →
    ∃ sections state command, root = .mapping sections ∧
      sections.lookup "state_interfaces" = some state ∧
      sections.lookup "command_interfaces" = some command ∧
      state.isProperSection = true ∧ command.isProperSection = true

/-- Neither what only the host accepts nor what only the generator accepts. -/
structure Unambiguous (sections : List (String × YamlNode)) : Prop where
  nothingHollow : ∀ state command, sections.lookup "state_interfaces" = some state →
    sections.lookup "command_interfaces" = some command →
    state.isToleratedSection = true → command.isToleratedSection = true →
    state.isProperSection = true ∧ command.isProperSection = true
  nothingMissing :
    ((sections.lookup "state_interfaces").getD (.mapping [])).isProperSection = true →
    ((sections.lookup "command_interfaces").getD (.mapping [])).isProperSection = true →
    (sections.lookup "state_interfaces").isSome ∧ (sections.lookup "command_interfaces").isSome

theorem YamlNode.isToleratedSection_of_proper {node : YamlNode}
    (proper : node.isProperSection = true) : node.isToleratedSection = true := by
  cases node with
  | mapping components =>
      rw [isProperSection, List.all_eq_true] at proper
      rw [isToleratedSection, List.all_eq_true]
      intro component member
      rw [proper component member, Bool.or_true]
  | null => rfl
  | scalar text => rfl
  | sequence items => cases proper

theorem AcceptedAlike.of_rejected {root : YamlNode} (host : hostSpecs root = none)
    (generator : generatorSpecs root = none) (what : String) : AcceptedAlike root what := by
  constructor
  · simp [InterfaceSchema.fromRoot_valid_iff, generateHeader_isOk_iff, host, generator]
  · simp [InterfaceSchema.fromRoot_valid_iff, host]

/-- Which documents the host and the generator accept alike. -/
theorem accepted_alike_iff (root : YamlNode) (what : String) :
    AcceptedAlike root what ↔ ∀ sections, root = .mapping sections → Unambiguous sections := by
  cases root with
  | mapping sections =>
      have host := (InterfaceSchema.fromRoot_valid_iff (.mapping sections) what).trans
        (isSome_hostSpecs_iff sections)
      have generator := (generateHeader_isOk_iff (.mapping sections)).trans
        (isSome_generatorSpecs_iff sections)
      constructor
      · rintro alike _ ⟨⟩
        constructor
        · intro state command stateAt commandAt stateRead commandRead
          have valid := host.mpr ⟨state, command, stateAt, commandAt, stateRead, commandRead⟩
          have proper := generator.mp (alike.same.mp valid)
          rwa [stateAt, commandAt] at proper
        · intro stateProper commandProper
          have valid := alike.same.mpr (generator.mpr ⟨stateProper, commandProper⟩)
          obtain ⟨state, command, stateAt, commandAt, -⟩ := host.mp valid
          simp [stateAt, commandAt]
      · intro unambiguous
        obtain ⟨nothingHollow, nothingMissing⟩ := unambiguous sections rfl
        constructor
        · rw [host, generator]
          constructor
          · rintro ⟨state, command, stateAt, commandAt, stateRead, commandRead⟩
            rw [stateAt, commandAt]
            exact nothingHollow state command stateAt commandAt stateRead commandRead
          · rintro ⟨stateProper, commandProper⟩
            obtain ⟨stateSome, commandSome⟩ := nothingMissing stateProper commandProper
            obtain ⟨state, stateAt⟩ := Option.isSome_iff_exists.mp stateSome
            obtain ⟨command, commandAt⟩ := Option.isSome_iff_exists.mp commandSome
            rw [stateAt] at stateProper
            rw [commandAt] at commandProper
            exact ⟨state, command, stateAt, commandAt,
              YamlNode.isToleratedSection_of_proper stateProper,
              YamlNode.isToleratedSection_of_proper commandProper⟩
        · intro valid
          obtain ⟨state, command, stateAt, commandAt, stateRead, commandRead⟩ := host.mp valid
          exact ⟨sections, state, command, rfl, stateAt, commandAt,
            nothingHollow state command stateAt commandAt stateRead commandRead⟩
  | null => exact iff_of_true (.of_rejected rfl rfl what) (by rintro _ ⟨⟩)
  | scalar text => exact iff_of_true (.of_rejected rfl rfl what) (by rintro _ ⟨⟩)
  | sequence items => exact iff_of_true (.of_rejected rfl rfl what) (by rintro _ ⟨⟩)

/-- An empty component is accepted by the host only, a missing section by the generator only. -/
theorem hollow_and_missing_divide :
    let hollow : YamlNode := .mapping [("state_interfaces", .mapping [("arm", .null)]),
      ("command_interfaces", .mapping [])]
    let missing : YamlNode := .mapping [("state_interfaces", .mapping [])]
    ((InterfaceSchema.fromRoot hollow "").valid = true ∧
        generateHeader hollow = .error .attributeError) ∧
      (InterfaceSchema.fromRoot missing "").valid = false ∧
        generateHeader missing = .ok ⟨0, 0, [], []⟩ :=
  ⟨⟨rfl, rfl⟩, rfl, rfl⟩

end Zenbedded
