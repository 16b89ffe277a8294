import Zenbedded.ZenbeddedHardware
import Zenbedded.Tier2WireFormat

/-!
# The operations of the hardware

What each operation of an initialized hardware does: which members it touches, what it
leaves in them, and that it stays inside its buffers and vectors.
-/

namespace Zenbedded

open ByteBlock ByteOrder PackedRecord

/-! ## Vectors and interfaces -/

section Vectors

variable {interfaces : List InterfaceHandle} {index : Nat} {value : UInt64}

@[simp]
theorem length_resize {α : Type*} (values : List α) (size : Nat) (fill : α) :
    (resize values size fill).length = size := by
  simp only [resize, List.length_append, List.length_take, List.length_replicate]
  omega

@[simp]
theorem length_interfacesOf (fields : List FlatField) :
    (interfacesOf fields).length = fields.length :=
  List.length_map _

@[simp]
theorem length_setValue : (setValue interfaces index value).length = interfaces.length := by
  simp [setValue]

@[simp]
theorem length_setValues (values : List UInt64) :
    (setValues interfaces values).length = interfaces.length := by
  simp [setValues]

theorem value_setValue (inside : index < interfaces.length) :
    (setValue interfaces index value)[index]?.map InterfaceHandle.value = some value := by
  simp [setValue, List.getElem?_eq_getElem inside]

theorem getElem?_setValue_of_ne {other : Nat} (different : index ≠ other) :
    (setValue interfaces index value)[other]? = interfaces[other]? := by
  simp [setValue, different]

theorem value_setValues {values : List UInt64} (inside : index < interfaces.length)
    (found : values[index]? = some value) :
    (setValues interfaces values)[index]?.map InterfaceHandle.value = some value := by
  simp [setValues, List.getElem?_mapIdx, List.getElem?_eq_getElem inside, found]

end Vectors

namespace ZenbeddedHardware

/-! ## Initialized hardware -/

/-- The vectors, buffers and interfaces fit the described schema. -/
structure Allocated (state command : List FieldSpec) (hw : ZenbeddedHardware) : Prop where
  schema : hw.schema = .ofSpecs state command
  hwStates : hw.hwStates.length = state.length
  hwCommands : hw.hwCommands.length = command.length
  stateBuffer : hw.stateBuffer.length = specsByteSize state
  commandBuffer : hw.commandBuffer.length = specsByteSize command
  stateInterfaces : hw.stateInterfaces.length = state.length
  commandInterfaces : hw.commandInterfaces.length = command.length

theorem loadParameters_frame {parameters : List (String × String)}
    {before after : ZenbeddedHardware} {complete : Bool}
    (loaded : before.loadParameters parameters = (after, complete)) :
    after = { before with
      zenohEndpoint := after.zenohEndpoint
      zenohMode := after.zenohMode
      stateTopic := after.stateTopic
      commandTopic := after.commandTopic } := by
  unfold loadParameters at loaded
  cases endpointAt : parameters.lookup "zenoh_endpoint" with
  | none =>
      simp only [endpointAt] at loaded
      cases loaded
      rfl
  | some endpoint =>
      cases stateAt : parameters.lookup "state_topic" with
      | none =>
          simp only [endpointAt, stateAt] at loaded
          cases loaded
          rfl
      | some stateTopic =>
          cases commandAt : parameters.lookup "command_topic" <;>
            simp only [endpointAt, stateAt, commandAt] at loaded <;>
            cases loaded <;> rfl

/-- A valid schema read from a file is the layout of what the file describes. -/
theorem ofSpecs_of_fromYamlFile {yaml : YamlCpp} {path : String} {content : Option String}
    (valid : (InterfaceSchema.fromYamlFile yaml path content).valid = true) :
    ∃ state command, InterfaceSchema.fromYamlFile yaml path content = .ofSpecs state command := by
  cases content with
  | none => cases valid
  | some text => exact InterfaceSchema.ofSpecs_of_fromYaml valid

structure Initialized (state command : List FieldSpec) (hw : ZenbeddedHardware) : Prop
    extends Allocated state command hw where
  session : hw.session = none
  stateSub : hw.stateSub = none
  commandPub : hw.commandPub = none
  stateZero : hw.stateBuffer = List.replicate (specsByteSize state) 0

/-- A successful `on_init` allocates what a valid schema needs. -/
theorem allocate_of_onInit {yaml : YamlCpp} {files : String → Option String}
    {base : CallbackReturn} {parameters : List (String × String)} {before hw : ZenbeddedHardware}
    (initialized : before.onInit yaml files base parameters = (hw, .success)) :
    ∃ named complete state command, before.loadParameters parameters = (named, complete) ∧
      hw = { named with schema := .ofSpecs state command }.allocate := by
  cases base with
  | error => cases initialized
  | success =>
      simp only [onInit] at initialized
      rcases loaded : before.loadParameters parameters with ⟨named, complete⟩
      rw [loaded] at initialized
      cases complete with
      | false => cases initialized
      | true =>
          cases pathAt : parameters.lookup "schema_path" with
          | none =>
              rw [pathAt] at initialized
              cases initialized
          | some path =>
              simp only [pathAt] at initialized
              split at initialized
              case isFalse invalid => cases initialized
              case isTrue valid =>
                  obtain ⟨state, command, schemaEq⟩ := ofSpecs_of_fromYamlFile valid
                  rw [schemaEq] at initialized
                  cases initialized
                  exact ⟨named, true, state, command, rfl, rfl⟩

theorem onInit_initialized {yaml : YamlCpp} {files : String → Option String}
    {base : CallbackReturn} {parameters : List (String × String)} {hw : ZenbeddedHardware}
    (initialized : constructed.onInit yaml files base parameters = (hw, .success)) :
    ∃ state command, Initialized state command hw := by
  obtain ⟨named, complete, state, command, loaded, rfl⟩ := allocate_of_onInit initialized
  rw [loadParameters_frame loaded]
  refine ⟨state, command, ⟨rfl, ?_, ?_, ?_, ?_, ?_, ?_⟩, rfl, rfl, rfl, rfl⟩ <;>
    simp [allocate, InterfaceSchema.ofSpecs, InterfaceSchema.totalStateInterfaces,
      InterfaceSchema.totalCommandInterfaces]

theorem hwCommands_of_onInit {yaml : YamlCpp} {files : String → Option String}
    {base : CallbackReturn} {parameters : List (String × String)} {hw : ZenbeddedHardware}
    (initialized : constructed.onInit yaml files base parameters = (hw, .success)) :
    ∀ command ∈ hw.hwCommands, command = quietNaN := by
  obtain ⟨named, complete, state, command, loaded, rfl⟩ := allocate_of_onInit initialized
  intro value member
  rw [loadParameters_frame loaded] at member
  simp only [allocate, constructed, resize, List.take_nil, List.nil_append] at member
  exact List.eq_of_mem_replicate member

/-! ## Activation -/

/-- How far an activation gets. -/
theorem onActivate_cases (id : Nat) (throws : Option ActivationStep) (hw : ZenbeddedHardware) :
    ((throws = some .config ∨ throws = some .session) ∧
        hw.onActivate id throws = (hw, .error)) ∨
      ((throws = some .stateKeyexpr ∨ throws = some .subscriber) ∧
        ∃ session, hw.onActivate id throws = ({ hw with session := some session }, .error)) ∨
      ((throws = some .commandKeyexpr ∨ throws = some .publisher) ∧ ∃ session stateSub,
        hw.onActivate id throws =
          ({ hw with session := some session, stateSub := some stateSub }, .error)) ∨
      (throws = none ∧ ∃ session stateSub commandPub, hw.onActivate id throws =
        ({ hw with
          session := some session
          stateSub := some stateSub
          commandPub := some commandPub }.showValues, .success)) := by
  cases throws with
  | none => exact .inr (.inr (.inr ⟨rfl, _, _, _, rfl⟩))
  | some step =>
      cases step with
      | config => exact .inl ⟨.inl rfl, rfl⟩
      | session => exact .inl ⟨.inr rfl, rfl⟩
      | stateKeyexpr => exact .inr (.inl ⟨.inl rfl, _, rfl⟩)
      | subscriber => exact .inr (.inl ⟨.inr rfl, _, rfl⟩)
      | commandKeyexpr => exact .inr (.inr (.inl ⟨.inl rfl, _, _, rfl⟩))
      | publisher => exact .inr (.inr (.inl ⟨.inr rfl, _, _, rfl⟩))

section Operations

variable {state command : List FieldSpec} {hw : ZenbeddedHardware} {casts : Casts}

theorem Allocated.showValues (allocated : Allocated state command hw) :
    Allocated state command hw.showValues where
  schema := allocated.schema
  hwStates := (List.length_map _).trans allocated.hwStates
  hwCommands := (List.length_map _).trans allocated.hwCommands
  stateBuffer := allocated.stateBuffer
  commandBuffer := allocated.commandBuffer
  stateInterfaces := (length_setValues _).trans allocated.stateInterfaces
  commandInterfaces := (length_setValues _).trans allocated.commandInterfaces

theorem Allocated.onActivate (allocated : Allocated state command hw) (id : Nat)
    (throws : Option ActivationStep) : Allocated state command (hw.onActivate id throws).1 := by
  rcases onActivate_cases id throws hw with ⟨-, result⟩ | ⟨-, session, result⟩ |
    ⟨-, session, stateSub, result⟩ | ⟨-, session, stateSub, commandPub, result⟩
  · rw [result]
    exact allocated
  · rw [result]
    exact { allocated with }
  · rw [result]
    exact { allocated with }
  · rw [result]
    exact Allocated.showValues { allocated with }

theorem stateBuffer_onActivate (id : Nat) (throws : Option ActivationStep)
    (hw : ZenbeddedHardware) : (hw.onActivate id throws).1.stateBuffer = hw.stateBuffer := by
  rcases onActivate_cases id throws hw with ⟨-, result⟩ | ⟨-, session, result⟩ |
    ⟨-, session, stateSub, result⟩ | ⟨-, session, stateSub, commandPub, result⟩
  · rw [result]
  · rw [result]
  · rw [result]
  · rw [result]
    rfl

theorem Allocated.setCommand (allocated : Allocated state command hw) (index : Nat)
    (value : UInt64) : Allocated state command (hw.setCommand index value) :=
  { allocated with
    commandInterfaces := length_setValue.trans allocated.commandInterfaces }

/-! ## Reading -/

def ShowsField (casts : Casts) (payload : List UInt8) (hw : ZenbeddedHardware) (i : Nat) : Prop :=
  ∃ value, hw.schema.readStateField casts payload i = some value ∧
    hw.hwStates[i]? = some value ∧
    hw.stateInterfaces[i]?.map InterfaceHandle.value = some value

/-- All states and their interfaces show the fields of one payload. -/
structure ShowsPayload (casts : Casts) (payload : List UInt8) (hw : ZenbeddedHardware) :
    Prop where
  hwStates : hw.hwStates.length = hw.schema.totalStateInterfaces
  stateInterfaces : hw.stateInterfaces.length = hw.schema.totalStateInterfaces
  shown : ∀ i < hw.schema.totalStateInterfaces, ShowsField casts payload hw i

theorem exists_readStateField (casts : Casts) {payload : List UInt8}
    (size : payload.length = specsByteSize state) {i : Nat} (below : i < state.length) :
    ∃ value, (InterfaceSchema.ofSpecs state command).readStateField casts payload i =
      some value := by
  have specFound : state[i]? = some state[i] := List.getElem?_eq_getElem below
  have inside := offset_add_le_specsByteSize specFound
  rw [InterfaceSchema.readStateField, InterfaceSchema.ofSpecs,
    readField_eq (flatField_of_spec specFound), Block.load, if_pos (by simp only [size]; omega)]
  exact ⟨_, rfl⟩

/-- What the loop of `read` has done before an index. -/
structure ReadUpTo (casts : Casts) (payload : List UInt8) (before : ZenbeddedHardware)
    (index : Nat) (after : ZenbeddedHardware) : Prop where
  frame : after = { before with
    hwStates := after.hwStates
    stateInterfaces := after.stateInterfaces }
  hwStates : after.hwStates.length = before.hwStates.length
  stateInterfaces : after.stateInterfaces.length = before.stateInterfaces.length
  shown : ∀ i < index, ShowsField casts payload after i

theorem Allocated.of_readUpTo (allocated : Allocated state command hw) {payload : List UInt8}
    {index : Nat} {after : ZenbeddedHardware} (read : ReadUpTo casts payload hw index after) :
    Allocated state command after := by
  have states := read.hwStates.trans allocated.hwStates
  have interfaces := read.stateInterfaces.trans allocated.stateInterfaces
  rw [read.frame]
  exact { allocated with hwStates := states, stateInterfaces := interfaces }

theorem ReadUpTo.step (allocated : Allocated state command hw) {payload : List UInt8}
    (size : payload.length = specsByteSize state) {index : Nat} (below : index < state.length)
    {middle : ZenbeddedHardware} (read : ReadUpTo casts payload hw index middle) :
    ∃ next, readOne casts payload index middle = some next ∧
      ReadUpTo casts payload hw (index + 1) next := by
  have middleAllocated := allocated.of_readUpTo read
  obtain ⟨value, readable⟩ : ∃ value, middle.schema.readStateField casts payload index =
      some value := by
    rw [middleAllocated.schema]
    exact exists_readStateField casts size below
  have inStates : index < middle.hwStates.length := by
    rw [middleAllocated.hwStates]
    exact below
  have inInterfaces : index < middle.stateInterfaces.length := by
    rw [middleAllocated.stateInterfaces]
    exact below
  have stepped : readOne casts payload index middle = some { middle with
      hwStates := middle.hwStates.set index value
      stateInterfaces := setValue middle.stateInterfaces index value } := by
    simp only [readOne, readable, Option.bind_eq_bind, Option.bind_some, if_pos inStates]
  refine ⟨_, stepped, ?_, ?_, ?_, fun i upTo => ?_⟩
  · rw [read.frame]
  · simpa using read.hwStates
  · simpa using read.stateInterfaces
  · rcases eq_or_ne index i with rfl | different
    · exact ⟨value, readable, by simp [inStates], value_setValue inInterfaces⟩
    · obtain ⟨older, olderReadable, inState, inInterface⟩ := read.shown i (by omega)
      refine ⟨older, olderReadable, ?_, ?_⟩
      · rw [List.getElem?_set_ne different, inState]
      · rw [getElem?_setValue_of_ne different, inInterface]

/-- A read that gets the lock shows the payload in the buffer, and touches nothing else. -/
theorem Allocated.read_hit (allocated : Allocated state command hw) (casts : Casts) :
    ∃ after, hw.read casts true = some after ∧
      ReadUpTo casts hw.stateBuffer hw state.length after := by
  have size : hw.stateBuffer.length = hw.schema.stateBufferSize := by
    rw [allocated.schema]
    exact allocated.stateBuffer
  have count : hw.schema.totalStateInterfaces = state.length := by
    rw [allocated.schema]
    exact length_layout 0 state
  rw [ZenbeddedHardware.read, if_pos ⟨rfl, size⟩, count]
  refine forEach_invariant (ReadUpTo casts hw.stateBuffer hw)
    ⟨rfl, rfl, rfl, fun _ below => absurd below (Nat.not_lt_zero _)⟩
    fun index below middle read => read.step allocated allocated.stateBuffer below

theorem Allocated.showsPayload_of_read (allocated : Allocated state command hw)
    {payload : List UInt8} {after : ZenbeddedHardware}
    (read : ReadUpTo casts payload hw state.length after) : ShowsPayload casts payload after := by
  have afterAllocated := allocated.of_readUpTo read
  have count : after.schema.totalStateInterfaces = state.length := by
    rw [afterAllocated.schema]
    exact length_layout 0 state
  exact ⟨afterAllocated.hwStates.trans count.symm, afterAllocated.stateInterfaces.trans count.symm,
    fun i below => read.shown i (by omega)⟩

theorem read_miss (casts : Casts) (hw : ZenbeddedHardware) : hw.read casts false = some hw := by
  simp [ZenbeddedHardware.read]

/-! ## Writing -/

/-- The commands after a write, each with the number of its interface if it holds one. -/
def writtenCommands (hw : ZenbeddedHardware) : List UInt64 :=
  hw.hwCommands.mapIdx (takenCommand hw.commandInterfaces)

def writtenValue (hw : ZenbeddedHardware) (i : Nat) : UInt64 :=
  hw.writtenCommands[i]?.getD 0

/-- Every command field of a payload holds the encoding of its value. -/
def EncodesCommands (casts : Casts) (schema : InterfaceSchema) (values : List UInt64)
    (payload : List UInt8) : Prop :=
  ∀ (i : Nat) (f : FlatField) (value : UInt64), schema.commandFlatFields[i]? = some f →
    values[i]? = some value → (payload.drop f.byteOffset).take (fieldByteSize f.type) =
      littleEndian (fieldByteSize f.type) (casts.ofDouble (fieldTypeToCType f.type) value)

/-- What the loop of `write` has done before an index. -/
structure WroteUpTo (casts : Casts) (specs : List FieldSpec) (hw : ZenbeddedHardware)
    {size : Nat} (index : Nat) (writing : List UInt64 × Block UInt8 size) : Prop where
  length : writing.1.length = hw.hwCommands.length
  written : ∀ i < index, writing.1[i]? = hw.writtenCommands[i]?
  others : ∀ i, index ≤ i → writing.1[i]? = hw.hwCommands[i]?
  holds : HoldsUpTo (specWidths specs) (fieldData casts specs hw.writtenValue) index writing.2

theorem WroteUpTo.step (allocated : Allocated state command hw) {size : Nat}
    (inside : specsByteSize command ≤ size) {index : Nat} (below : index < command.length)
    {writing : List UInt64 × Block UInt8 size}
    (wrote : WroteUpTo casts command hw index writing) :
    ∃ next, writeOne casts (layout 0 command) hw.commandInterfaces index writing = some next ∧
      WroteUpTo casts command hw (index + 1) next := by
  have inCommands : index < hw.hwCommands.length := by
    rw [allocated.hwCommands]
    exact below
  have inWriting : index < writing.1.length := by
    rw [wrote.length]
    exact inCommands
  have current : writing.1[index]? = some hw.hwCommands[index] := by
    rw [wrote.others index le_rfl, List.getElem?_eq_getElem inCommands]
  have taken : hw.writtenCommands[index]? =
      some (takenCommand hw.commandInterfaces index hw.hwCommands[index]) := by
    simp [writtenCommands, inCommands]
  have specFound : command[index]? = some command[index] := List.getElem?_eq_getElem below
  have width := getElem?_specWidths specFound
  have ends := offset_add_le_specsByteSize specFound
  have fits : (fieldData casts command hw.writtenValue index).length = _ :=
    length_fieldData hw.writtenValue index _ width
  obtain ⟨stored, storeEq⟩ := writing.2.exists_store (offset (specWidths command) index)
    (fieldData casts command hw.writtenValue index) (by omega)
  have fieldWrite := (writeField_layout below hw.writtenValue writing.2).trans storeEq
  simp only [writtenValue, taken, Option.getD_some] at fieldWrite
  have stepped : writeOne casts (layout 0 command) hw.commandInterfaces index writing =
      some (writing.1.set index (takenCommand hw.commandInterfaces index hw.hwCommands[index]),
        stored) := by
    simp only [writeOne, current, Option.bind_eq_bind, Option.bind_some, fieldWrite]
  refine ⟨_, stepped, by simpa using wrote.length, fun i upTo => ?_, fun i beyond => ?_,
    wrote.holds.store width fits storeEq⟩
  · rcases eq_or_ne index i with rfl | different
    · rw [taken, List.getElem?_set_self inWriting]
    · rw [List.getElem?_set_ne different, wrote.written i (by omega)]
  · rw [List.getElem?_set_ne (by omega), wrote.others i (by omega)]

theorem write_of_no_publisher (none : hw.commandPub = none) :
    hw.write casts = some (hw, .none) := by
  simp [ZenbeddedHardware.write, none]

/-- A write with a publisher puts a payload of the commands. -/
theorem Allocated.write_published (allocated : Allocated state command hw) (casts : Casts)
    {commandPub : HostDeclaration} (declared : hw.commandPub = some commandPub) :
    ∃ payload, hw.write casts = some
        ({ hw with hwCommands := hw.writtenCommands, commandBuffer := payload }, some payload) ∧
      payload.length = hw.schema.commandBufferSize ∧
      EncodesCommands casts hw.schema hw.writtenCommands payload := by
  have fields : hw.schema.commandFlatFields = layout 0 command := by
    rw [allocated.schema]
    rfl
  have count : hw.schema.totalCommandInterfaces = command.length := by
    rw [allocated.schema]
    exact length_layout 0 command
  obtain ⟨⟨commands, buffer⟩, looped, wrote⟩ : ∃ final,
      forEach command.length (writeOne casts (layout 0 command) hw.commandInterfaces)
        (hw.hwCommands, (⟨hw.commandBuffer, rfl⟩ : Block UInt8 hw.commandBuffer.length)) =
          some final ∧
      WroteUpTo casts command hw command.length final :=
    forEach_invariant (WroteUpTo casts command hw) ⟨rfl, by simp, by simp, holdsUpTo_zero _ _⟩
      fun index below writing wrote => wrote.step allocated allocated.commandBuffer.ge below
  have all : commands = hw.writtenCommands := by
    refine List.ext_getElem? fun i => ?_
    rcases Nat.lt_or_ge i command.length with below | beyond
    · exact wrote.written i below
    · have longEnough := allocated.hwCommands
      rw [wrote.others i beyond, List.getElem?_eq_none (by omega),
        List.getElem?_eq_none (by simp [writtenCommands]; omega)]
  have holds := wrote.holds
  subst all
  refine ⟨buffer.bytes, ?_, ?_, fun i f value found valueAt => ?_⟩
  · rw [ZenbeddedHardware.write, declared, count, fields]
    simp only [looped, Option.bind_eq_bind, Option.bind_some]
  · rw [buffer.length_bytes, allocated.commandBuffer, allocated.schema]
    rfl
  · rw [fields, getElem?_layout] at found
    obtain ⟨spec, specFound, rfl⟩ := Option.map_eq_some_iff.mp found
    obtain ⟨below, -⟩ := List.getElem?_eq_some_iff.mp specFound
    have contents := holds i below _ (getElem?_specWidths specFound)
    rw [fieldData, specFound] at contents
    simpa [Region.contents, region, writtenValue, valueAt] using contents

end Operations

end ZenbeddedHardware

end Zenbedded
