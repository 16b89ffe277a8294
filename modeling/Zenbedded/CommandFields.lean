import Zenbedded.NumberConversions

/-!
# Command fields as cells

The fields of a section tile its buffer.  A write to a field replaces the bytes of that
field and no others, and reading it gives the value back, so the fields are cells that do
not know of each other.
-/

namespace Zenbedded

open ByteBlock ByteOrder PackedRecord

/-! ## The bytes of the fields -/

section Regions

variable {specs : List FieldSpec}

/-- Where a described field lies in the buffer of its section. -/
def fieldRegion (specs : List FieldSpec) (index : Fin specs.length) : Region :=
  region (specWidths specs) index (fieldByteSize specs[index].type)

theorem getElem?_specWidths_fin (index : Fin specs.length) :
    (specWidths specs)[index.val]? = some (fieldByteSize specs[index].type) :=
  getElem?_specWidths (List.getElem?_eq_getElem index.isLt)

theorem fieldRegion_separate (specs : List FieldSpec) :
    Separate (fieldRegion specs) (specsByteSize specs) where
  apart index other different :=
    apart_region (getElem?_specWidths_fin index) (getElem?_specWidths_fin other)
      fun same => different (Fin.ext same)
  inside index := offset_add_le_sum (getElem?_specWidths_fin index)

theorem exists_fieldRegion_covers {place : Nat} (inside : place < specsByteSize specs) :
    ∃ index, (fieldRegion specs index).Covers place := by
  obtain ⟨index, width, found, covers⟩ := exists_covering (sum_specWidths specs ▸ inside)
  have below : index < specs.length := by
    simpa using (List.getElem?_eq_some_iff.mp found).1
  obtain rfl := Option.some.inj (found.symm.trans (getElem?_specWidths_fin ⟨index, below⟩))
  exact ⟨⟨index, below⟩, covers⟩

theorem eq_of_contents {block other : Block UInt8 (specsByteSize specs)}
    (same : ∀ index, (fieldRegion specs index).contents other =
      (fieldRegion specs index).contents block) : other = block := by
  have agree : AgreeOutside (fieldRegion specs) block other := fun place uncovered => by
    have beyond : specsByteSize specs ≤ place := by
      by_contra inside
      obtain ⟨index, covers⟩ := exists_fieldRegion_covers (Nat.lt_of_not_le inside)
      exact uncovered index covers
    rw [List.getElem?_eq_none (by simpa using beyond),
      List.getElem?_eq_none (by simpa using beyond)]
  exact agree.eq_of_contents same

end Regions

/-! ## Reading and writing -/

def writeEach (casts : Casts) (fields : List FlatField) {size : Nat}
    (writes : List (Nat × UInt64)) (buffer : Block UInt8 size) : Option (Block UInt8 size) :=
  writes.foldlM (fun buffer write => writeField casts fields buffer write.1 write.2) buffer

def lastWrite (index : Nat) (writes : List (Nat × UInt64)) : Option UInt64 :=
  lastGiven (fun write => if write.1 = index then some write.2 else none) writes

section Cells

variable {casts : Casts} {specs : List FieldSpec}

def cellBytes (casts : Casts) (specs : List FieldSpec) (index : Fin specs.length)
    (value : UInt64) : List UInt8 :=
  littleEndian (fieldByteSize specs[index].type)
    (casts.ofDouble (fieldTypeToCType specs[index].type) value)

def cellValue (casts : Casts) (specs : List FieldSpec) (index : Fin specs.length)
    (bytes : List UInt8) : UInt64 :=
  casts.toDouble (fieldTypeToCType specs[index].type) (littleEndianValue bytes)

/-- What a write gives to a field. -/
def givenTo (casts : Casts) (specs : List FieldSpec) (write : Nat × UInt64)
    (index : Fin specs.length) : Option (List UInt8) :=
  (if write.1 = index then some write.2 else none).map (cellBytes casts specs index)

theorem readField_cell (buffer : Block UInt8 (specsByteSize specs)) (index : Fin specs.length) :
    readField casts (layout 0 specs) buffer index =
      some (cellValue casts specs index ((fieldRegion specs index).contents buffer)) := by
  have loaded := Region.load_region buffer ((fieldRegion_separate specs).inside index)
  rw [readField_eq (flatField_of_spec (List.getElem?_eq_getElem index.isLt))]
  exact congrArg (Option.map _) loaded

theorem cellValue_cellBytes (index : Fin specs.length) (value : UInt64) :
    cellValue casts specs index (cellBytes casts specs index value) =
      casts.toDouble (fieldTypeToCType specs[index].type)
        (casts.ofDouble (fieldTypeToCType specs[index].type) value) := by
  have bounded := casts.ofDouble_lt (fieldTypeToCType specs[index].type) value
  rw [sizeof_fieldTypeToCType] at bounded
  rw [cellValue, cellBytes, littleEndianValue_littleEndian bounded]

theorem writeField_of_length_le {size : Nat} (buffer : Block UInt8 size) {index : Nat}
    (outside : specs.length ≤ index) (value : UInt64) :
    writeField casts (layout 0 specs) buffer index value = some buffer := by
  rw [writeField, List.getElem?_eq_none (by simpa using outside)]

/-- One write gives its field the bytes of the value and leaves the others alone. -/
theorem writeField_cells (write : Nat × UInt64) (buffer : Block UInt8 (specsByteSize specs)) :
    ∃ written, writeField casts (layout 0 specs) buffer write.1 write.2 = some written ∧
      ∀ index, (fieldRegion specs index).contents written =
        (givenTo casts specs write index).getD ((fieldRegion specs index).contents buffer) := by
  obtain ⟨target, value⟩ := write
  rcases Nat.lt_or_ge target specs.length with below | outside
  · have fits : FitsRegions (fieldRegion specs) (givenTo casts specs (target, value)) := by
      intro index data given
      obtain ⟨_, -, rfl⟩ := Option.map_eq_some_iff.mp given
      exact length_littleEndian ..
    obtain ⟨written, storeEq, here, elsewhere, -⟩ :=
      store_spec (fieldRegion_separate specs) fits buffer ⟨target, below⟩
    refine ⟨written, ?_, fun index => ?_⟩
    · have given : givenTo casts specs (target, value) ⟨target, below⟩ =
          some (cellBytes casts specs ⟨target, below⟩ value) := by
        simp [givenTo]
      rw [given] at storeEq
      rw [writeField_eq (flatField_of_spec (List.getElem?_eq_getElem below))]
      exact storeEq
    · rcases eq_or_ne index ⟨target, below⟩ with rfl | different
      · exact here
      · have notGiven : target ≠ index.val := fun same => different (Fin.ext same.symm)
        rw [elsewhere index different, givenTo, if_neg notGiven]
        rfl
  · refine ⟨buffer, writeField_of_length_le buffer outside value, fun index => ?_⟩
    have notGiven : target ≠ index.val := by
      have := index.isLt
      omega
    rw [givenTo, if_neg notGiven]
    rfl

/-- A sequence of writes leaves in each field the bytes of the last value for it. -/
theorem writeEach_cells (writes : List (Nat × UInt64))
    (buffer : Block UInt8 (specsByteSize specs)) :
    ∃ written, writeEach casts (layout 0 specs) writes buffer = some written ∧
      ∀ index, (fieldRegion specs index).contents written =
        ((lastWrite index writes).map (cellBytes casts specs index)).getD
          ((fieldRegion specs index).contents buffer) := by
  induction writes generalizing buffer with
  | nil => exact ⟨buffer, rfl, fun _ => rfl⟩
  | cons write writes ih =>
      obtain ⟨first, firstEq, given⟩ := writeField_cells write buffer
      obtain ⟨written, writtenEq, last⟩ := ih first
      refine ⟨written, ?_, fun index => ?_⟩
      · rw [writeEach, List.foldlM_cons, firstEq]
        exact writtenEq
      · rw [last index, given index, lastWrite, lastWrite, lastGiven_cons, givenTo]
        cases lastGiven (fun write => if write.1 = index.val then some write.2 else none)
          writes <;> rfl

end Cells

/-! ## Schemas -/

/-- The fields of a section behave as cells of a buffer: reads and writes stay inside, a read
gives the last value that the field can hold, other bytes stay, and a value for every field
leaves nothing of the old buffer. -/
structure Cells (casts : Casts) (representable : FieldType → UInt64 → Prop)
    (fields : List FlatField) (size : Nat) : Prop where
  written : ∀ (writes : List (Nat × UInt64)) (buffer : Block UInt8 size),
    ∃ after, writeEach casts fields writes buffer = some after ∧
      ∀ index f, fields[index]? = some f →
        ∃ old new, readField casts fields buffer index = some old ∧
          readField casts fields after index = some new ∧
          match lastWrite index writes with
          | some value => representable f.type value → Binary64.SameNumber value new
          | none => new = old ∧ ∀ place, f.byteOffset ≤ place →
              place < f.byteOffset + fieldByteSize f.type →
              after.bytes[place]? = buffer.bytes[place]?
  outside : ∀ (buffer : Block UInt8 size) (index : Nat) (value : UInt64),
    fields.length ≤ index →
      writeField casts fields buffer index value = some buffer ∧
        readField casts fields buffer index = some 0
  determined : ∀ (writes : List (Nat × UInt64)) (buffer other : Block UInt8 size),
    (∀ index < fields.length, ∃ write ∈ writes, write.1 = index) →
      writeEach casts fields writes buffer = writeEach casts fields writes other

theorem lastWrite_isSome_iff (index : Nat) (writes : List (Nat × UInt64)) :
    (lastWrite index writes).isSome ↔ ∃ write ∈ writes, write.1 = index := by
  rw [lastWrite, lastGiven, List.getLast?_isSome, Ne, List.filterMap_eq_nil_iff]
  simp

theorem cells_layout (specs : List FieldSpec) {floatToDouble : UInt32 → UInt64}
    {doubleToFloat : UInt64 → UInt32}
    (undone : ∀ bits, floatToDouble (doubleToFloat (floatToDouble bits)) = floatToDouble bits)
    (undefined : UInt64 → Int) :
    Cells (.standard floatToDouble doubleToFloat undefined) (Representable floatToDouble)
      (layout 0 specs) (specsByteSize specs) where
  written writes buffer := by
    obtain ⟨after, afterEq, contents⟩ := writeEach_cells writes buffer
    refine ⟨after, afterEq, fun index f found => ?_⟩
    have below : index < specs.length := by
      simpa using (List.getElem?_eq_some_iff.mp found).1
    obtain rfl := Option.some.inj
      (found.symm.trans (flatField_of_spec (List.getElem?_eq_getElem below)))
    have held := contents ⟨index, below⟩
    refine ⟨_, _, readField_cell buffer ⟨index, below⟩, readField_cell after ⟨index, below⟩, ?_⟩
    rw [held]
    split
    case h_1 value last =>
      intro representable
      rw [last, Option.map_some, Option.getD_some, cellValue_cellBytes]
      exact representable.sameNumber undone undefined
    case h_2 none =>
      rw [none] at held ⊢
      exact ⟨rfl, fun place fromStart beforeEnd =>
        Region.getElem?_of_contents_eq held ⟨fromStart, beforeEnd⟩⟩
  outside buffer index value beyond := by
    rw [length_layout] at beyond
    exact ⟨writeField_of_length_le buffer beyond value,
      by rw [readField, List.getElem?_eq_none (by simpa using beyond)]⟩
  determined writes buffer other complete := by
    obtain ⟨after, afterEq, contents⟩ := writeEach_cells writes buffer
    obtain ⟨otherAfter, otherEq, otherContents⟩ := writeEach_cells writes other
    rw [afterEq, otherEq]
    congr 1
    refine eq_of_contents fun index => ?_
    obtain ⟨value, last⟩ := Option.isSome_iff_exists.mp
      ((lastWrite_isSome_iff index writes).mpr (complete index (by simp)))
    rw [contents index, otherContents index, last]
    rfl

/-- The command fields of an accepted document are independent cells, if narrowing undoes the
widening of a float up to what widening does not tell apart. -/
theorem command_fields_are_independent_cells {yaml : YamlCpp} {yamlText : String}
    (accepted : (InterfaceSchema.fromYaml yaml yamlText).valid = true)
    {floatToDouble : UInt32 → UInt64} {doubleToFloat : UInt64 → UInt32}
    (undone : ∀ bits, floatToDouble (doubleToFloat (floatToDouble bits)) = floatToDouble bits)
    (undefined : UInt64 → Int) :
    let schema := InterfaceSchema.fromYaml yaml yamlText
    Cells (.standard floatToDouble doubleToFloat undefined) (Representable floatToDouble)
      schema.commandFlatFields schema.commandBufferSize := by
  obtain ⟨state, command, schemaEq⟩ := InterfaceSchema.ofSpecs_of_fromYaml accepted
  rw [schemaEq]
  exact cells_layout command undone undefined

/-- The commands of a document with all types; the integer is written twice. -/
theorem command_fields_are_independent_cells_all_types :
    let root : YamlNode := .mapping
      [("state_interfaces", .mapping []),
       ("command_interfaces", .mapping [("arm", .mapping [("a", .scalar "float32"),
          ("b", .scalar "double"), ("c", .scalar "int32"), ("d", .scalar "uint64"),
          ("e", .scalar "int16"), ("f", .scalar "uint8")])])]
    let casts := Casts.standard Binary64.ofFloat Binary64.toFloat fun _ => 0
    let fields := (InterfaceSchema.fromRoot root "").commandFlatFields
    ∃ after value other,
      writeEach casts fields [(5, 0x4028000000000000), (2, 0xc058c00000000000),
        (0, 0x3ff8000000000000), (9, 0x401c000000000000), (2, 0x4008000000000000)]
        (Block.filled 27 0) = some after ∧
      readField casts fields after 2 = some value ∧
      Binary64.SameNumber 0x4008000000000000 value ∧
      readField casts fields after 0 = some other ∧
      Binary64.SameNumber 0x3ff8000000000000 other := by
  intro root casts fields
  let yaml : YamlCpp := ⟨fun _ => .ok root, fun _ => ""⟩
  have accepted : (InterfaceSchema.fromYaml yaml "").valid = true := rfl
  have cells := command_fields_are_independent_cells accepted Binary64.ofFloat_toFloat_ofFloat
    fun _ => 0
  obtain ⟨after, afterEq, read⟩ := cells.written [(5, 0x4028000000000000),
    (2, 0xc058c00000000000), (0, 0x3ff8000000000000), (9, 0x401c000000000000),
    (2, 0x4008000000000000)] (Block.filled 27 0)
  obtain ⟨_, value, -, valueEq, integer⟩ := read 2 ⟨"arm", "c", .int32, 12⟩ rfl
  obtain ⟨_, other, -, otherEq, float⟩ := read 0 ⟨"arm", "a", .float32, 0⟩ rfl
  refine ⟨after, value, other, afterEq, valueEq, integer ⟨3, ?_, ?_⟩, otherEq,
    float ⟨0x3fc00000, ?_⟩⟩
  · decide +kernel
  · rintro _ ⟨⟩
    decide
  · decide +kernel

end Zenbedded
