import Mathlib.Algebra.GroupWithZero.Nat
import Zenbedded.InterfaceSchema

/-!
# What a schema document describes

A section of a document describes its fields in order, or nothing where it cannot be
read.  The fields are laid out one behind the other, and a valid schema is the layout
of what its document describes.
-/

namespace Zenbedded

/-! ## Collecting descriptions -/

section Collect

variable {Entry Spec : Type}

/-- What all entries describe, in order, unless one of them cannot be read. -/
def collect (describe : Entry → Option (List Spec)) : List Entry → Option (List Spec)
  | [] => some []
  | entry :: entries => do
      let first ← describe entry
      let rest ← collect describe entries
      some (first ++ rest)

variable {describe : Entry → Option (List Spec)}

@[simp]
theorem collect_nil : collect describe [] = some [] :=
  rfl

theorem collect_cons_of_some {entry : Entry} {entries : List Entry} {first rest : List Spec}
    (firstEq : describe entry = some first) (restEq : collect describe entries = some rest) :
    collect describe (entry :: entries) = some (first ++ rest) := by
  simp [collect, firstEq, restEq]

theorem collect_cons_eq_none_iff {entry : Entry} {entries : List Entry} :
    collect describe (entry :: entries) = none ↔
      describe entry = none ∨ collect describe entries = none := by
  cases describeEq : describe entry <;> cases restEq : collect describe entries <;>
    simp [collect, describeEq, restEq]

theorem isSome_collect_iff {entries : List Entry} :
    (collect describe entries).isSome ↔ ∀ entry ∈ entries, (describe entry).isSome := by
  induction entries with
  | nil => simp
  | cons entry entries ih =>
      cases describeEq : describe entry <;> cases restEq : collect describe entries <;>
        simp_all [collect]

theorem ne_nil_of_collect_iff {entries : List Entry} {specs : List Spec}
    (collected : collect describe entries = some specs) :
    specs ≠ [] ↔ ∃ entry ∈ entries, describe entry ≠ some [] := by
  induction entries generalizing specs with
  | nil =>
      cases collected
      simp
  | cons entry entries ih =>
      obtain ⟨first, firstEq, collected⟩ := Option.bind_eq_some_iff.mp collected
      obtain ⟨rest, restEq, collected⟩ := Option.bind_eq_some_iff.mp collected
      obtain rfl := Option.some.inj collected
      simp only [ne_eq, List.append_eq_nil_iff, not_and_or, List.mem_cons, exists_eq_or_imp,
        firstEq, Option.some.injEq]
      exact or_congr_right (ih restEq)

theorem collect_map {Other : Type} (through : Other → Entry) (entries : List Other) :
    collect describe (entries.map through) =
      collect (fun entry => describe (through entry)) entries := by
  induction entries with
  | nil => rfl
  | cons entry entries ih => simp only [List.map_cons, collect, ih]

/-- A reader that is at least as tolerant collects the same. -/
theorem collect_of_le {other : Entry → Option (List Spec)} {entries : List Entry}
    {specs : List Spec}
    (tolerant : ∀ entry ∈ entries, ∀ described, describe entry = some described →
      other entry = some described)
    (collected : collect describe entries = some specs) : collect other entries = some specs := by
  induction entries generalizing specs with
  | nil => exact collected
  | cons entry entries ih =>
      obtain ⟨first, firstEq, collected⟩ := Option.bind_eq_some_iff.mp collected
      obtain ⟨rest, restEq, collected⟩ := Option.bind_eq_some_iff.mp collected
      obtain rfl := Option.some.inj collected
      refine collect_cons_of_some (tolerant entry List.mem_cons_self first firstEq) ?_
      exact ih (fun entry member => tolerant entry (List.mem_cons_of_mem _ member)) restEq

end Collect

/-! ## Descriptions of fields -/

structure FieldSpec where
  component : String
  field : String
  type : FieldType
  deriving DecidableEq, Repr

def fieldSpecs (componentName : String) (field : Option String × YamlNode) :
    Option (List FieldSpec) := do
  let fieldName ← field.1
  let typeStr ← field.2.asString
  let type ← (parseFieldType typeStr).toOption
  some [⟨componentName, fieldName, type⟩]

def componentSpecs (component : Option String × YamlNode) : Option (List FieldSpec) := do
  let name ← component.1
  collect (fieldSpecs name) component.2.iterate

def sectionSpecs (node : YamlNode) : Option (List FieldSpec) :=
  collect componentSpecs node.iterate

/-! ## Layout -/

def specsByteSize (specs : List FieldSpec) : Nat :=
  (specs.map fun spec => fieldByteSize spec.type).sum

/-- Fields one behind the other, from an offset on. -/
def layout : Nat → List FieldSpec → List FlatField
  | _, [] => []
  | offset, spec :: specs =>
      ⟨spec.component, spec.field, spec.type, offset⟩ ::
        layout (offset + fieldByteSize spec.type) specs

@[simp]
theorem length_layout (offset : Nat) (specs : List FieldSpec) :
    (layout offset specs).length = specs.length := by
  induction specs generalizing offset with
  | nil => rfl
  | cons spec specs ih => simp [layout, ih]

theorem specsByteSize_append (first second : List FieldSpec) :
    specsByteSize (first ++ second) = specsByteSize first + specsByteSize second := by
  simp [specsByteSize]

theorem layout_append (offset : Nat) (first second : List FieldSpec) :
    layout offset (first ++ second) =
      layout offset first ++ layout (offset + specsByteSize first) second := by
  induction first generalizing offset with
  | nil => rfl
  | cons spec first ih => simp [layout, ih, specsByteSize, Nat.add_assoc]

/-- Flat fields with the layout of more fields behind them. -/
def FlatFields.extend (read : FlatFields) (specs : List FieldSpec) : FlatFields where
  fields := read.fields ++ layout read.bufferSize specs
  bufferSize := read.bufferSize + specsByteSize specs

@[simp]
theorem FlatFields.extend_nil (read : FlatFields) : read.extend [] = read := by
  simp [FlatFields.extend, layout, specsByteSize]

theorem FlatFields.extend_append (read : FlatFields) (first second : List FieldSpec) :
    read.extend (first ++ second) = (read.extend first).extend second := by
  simp [FlatFields.extend, layout_append, specsByteSize_append, Nat.add_assoc]

/-! ## Reading lays out what is described -/

/-- A reading step lays out what its entry describes, and fails where it describes nothing. -/
def LaysOut {Entry : Type} (describe : Entry → Option (List FieldSpec))
    (body : Entry → FlatFields → FlatFields × Option SchemaFailure) : Prop :=
  ∀ entry read,
    (∀ specs, describe entry = some specs → body entry read = (read.extend specs, none)) ∧
      (describe entry = none → (body entry read).2 ≠ none)

theorem LaysOut.readEach {Entry : Type} {describe : Entry → Option (List FieldSpec)}
    {body : Entry → FlatFields → FlatFields × Option SchemaFailure}
    (laysOut : LaysOut describe body) : LaysOut (collect describe) (readEach body) := by
  intro entries read
  induction entries generalizing read with
  | nil => exact ⟨fun specs described => by cases described; simp [Zenbedded.readEach], by simp⟩
  | cons entry entries ih =>
      obtain ⟨succeeds, fails⟩ := laysOut entry read
      constructor
      · intro specs described
        obtain ⟨first, firstEq, described⟩ := Option.bind_eq_some_iff.mp described
        obtain ⟨rest, restEq, described⟩ := Option.bind_eq_some_iff.mp described
        obtain rfl := Option.some.inj described
        rw [Zenbedded.readEach, succeeds first firstEq, FlatFields.extend_append]
        exact (ih (read.extend first)).1 rest restEq
      · intro undescribed
        rw [Zenbedded.readEach]
        cases firstEq : describe entry with
        | none =>
            have failed := fails firstEq
            split
            case h_1 noFailure => simp [noFailure] at failed
            case h_2 => simp
        | some first =>
            rw [succeeds first firstEq]
            refine (ih (read.extend first)).2 ?_
            simpa [firstEq] using collect_cons_eq_none_iff.mp undescribed

theorem parseField_laysOut (componentName : String) :
    LaysOut (fieldSpecs componentName) (parseField componentName) := by
  rintro ⟨key, node⟩ read
  cases key with
  | none => simp [fieldSpecs, parseField]
  | some fieldName =>
      cases typeEq : node.asString with
      | none => simp [fieldSpecs, parseField, typeEq]
      | some typeStr =>
          cases parsed : parseFieldType typeStr with
          | error typeError => simp [fieldSpecs, parseField, typeEq, parsed, Except.toOption]
          | ok type =>
              simp [fieldSpecs, parseField, typeEq, parsed, Except.toOption, FlatFields.extend,
                layout, specsByteSize]

theorem parseComponent_laysOut : LaysOut componentSpecs parseComponent := by
  rintro ⟨key, node⟩ read
  cases key with
  | none => simp [componentSpecs, parseComponent]
  | some name => exact (parseField_laysOut name).readEach node.iterate read

/-! ## Documents -/

/-- What a document describes to the host: its state and its command fields. -/
def hostSpecs (root : YamlNode) : Option (List FieldSpec × List FieldSpec) := do
  let state ← (root.subscript "state_interfaces").join
  let command ← (root.subscript "command_interfaces").join
  let stateSpecs ← sectionSpecs state
  let commandSpecs ← sectionSpecs command
  some (stateSpecs, commandSpecs)

namespace InterfaceSchema

def ofSpecs (state command : List FieldSpec) : InterfaceSchema where
  valid := true
  error := ""
  stateBufferSize := specsByteSize state
  commandBufferSize := specsByteSize command
  stateFlatFields := layout 0 state
  commandFlatFields := layout 0 command

theorem parseSections_of_specs {state command : YamlNode} {stateSpecs commandSpecs : List FieldSpec}
    (stateEq : sectionSpecs state = some stateSpecs)
    (commandEq : sectionSpecs command = some commandSpecs) (what : String) :
    parseSections state command what = ofSpecs stateSpecs commandSpecs := by
  have stateRead := (parseComponent_laysOut.readEach state.iterate ⟨[], 0⟩).1 stateSpecs stateEq
  have commandRead :=
    (parseComponent_laysOut.readEach command.iterate ⟨[], 0⟩).1 commandSpecs commandEq
  rw [parseSections, stateRead]
  dsimp only
  rw [commandRead]
  simp [ofFlatFields, ofSpecs, FlatFields.extend]

theorem parseSections_invalid {state command : YamlNode}
    (undescribed : sectionSpecs state = none ∨ sectionSpecs command = none) (what : String) :
    (parseSections state command what).valid = false := by
  unfold parseSections
  split
  case h_1 => rfl
  case h_2 stateRead readEq =>
    have stateDescribed : sectionSpecs state ≠ none := by
      intro stateNone
      have failed := (parseComponent_laysOut.readEach state.iterate ⟨[], 0⟩).2 stateNone
      rw [readEq] at failed
      exact failed rfl
    have commandNone : sectionSpecs command = none := undescribed.resolve_left stateDescribed
    have failed := (parseComponent_laysOut.readEach command.iterate ⟨[], 0⟩).2 commandNone
    simpa [ofFlatFields, Option.isSome_iff_ne_none] using failed

/-- A schema is valid exactly when its document describes both sections. -/
theorem fromRoot_of_hostSpecs {root : YamlNode} {stateSpecs commandSpecs : List FieldSpec}
    (described : hostSpecs root = some (stateSpecs, commandSpecs)) (what : String) :
    fromRoot root what = ofSpecs stateSpecs commandSpecs := by
  obtain ⟨state, stateAt, described⟩ := Option.bind_eq_some_iff.mp described
  obtain ⟨command, commandAt, described⟩ := Option.bind_eq_some_iff.mp described
  obtain ⟨stateRead, stateEq, described⟩ := Option.bind_eq_some_iff.mp described
  obtain ⟨commandRead, commandEq, described⟩ := Option.bind_eq_some_iff.mp described
  cases described
  rw [fromRoot, Option.join_eq_some_iff.mp stateAt, Option.join_eq_some_iff.mp commandAt]
  exact parseSections_of_specs stateEq commandEq what

theorem fromRoot_invalid {root : YamlNode} (undescribed : hostSpecs root = none)
    (what : String) : (fromRoot root what).valid = false := by
  unfold fromRoot
  split
  case h_1 state command stateAt commandAt =>
    refine parseSections_invalid ?_ what
    by_contra both
    obtain ⟨stateSome, commandSome⟩ := not_or.mp both
    obtain ⟨stateSpecs, stateEq⟩ := Option.ne_none_iff_exists'.mp stateSome
    obtain ⟨commandSpecs, commandEq⟩ := Option.ne_none_iff_exists'.mp commandSome
    simp [hostSpecs, stateAt, commandAt, stateEq, commandEq] at undescribed
  all_goals rfl

theorem fromRoot_valid_iff (root : YamlNode) (what : String) :
    (fromRoot root what).valid = true ↔ (hostSpecs root).isSome := by
  cases described : hostSpecs root with
  | none => simp [fromRoot_invalid described]
  | some specs => simp [fromRoot_of_hostSpecs described, ofSpecs]

/-- A valid schema is the layout of what its document describes. -/
theorem ofSpecs_of_fromYaml {yaml : YamlCpp} {yamlText : String}
    (valid : (fromYaml yaml yamlText).valid = true) :
    ∃ state command, fromYaml yaml yamlText = ofSpecs state command := by
  unfold fromYaml at valid ⊢
  cases loaded : yaml.load yamlText with
  | error what =>
      rw [loaded] at valid
      cases valid
  | ok root =>
      rw [loaded] at valid
      obtain ⟨⟨state, command⟩, hostRead⟩ := Option.isSome_iff_exists.mp
        ((fromRoot_valid_iff root (yaml.what root)).mp valid)
      exact ⟨state, command, fromRoot_of_hostSpecs hostRead _⟩

end InterfaceSchema

end Zenbedded
