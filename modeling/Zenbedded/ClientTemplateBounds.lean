import Zenbedded.JointStateTemplate
import Zenbedded.JointCommandTemplate
import Zenbedded.ClientInitialization

/-!
# Which templates stay within their buffers

The template initializers run before the payload sizes are checked.  Whether they
stay within the buffers of the client depends on how far they write, which is a sum
over the lengths of the configured strings.
-/

namespace Zenbedded

open ByteBlock

/-! ## How far the initializers write -/

def roundUp (alignment position : Nat) : Nat :=
  (position + alignment - 1) / alignment * alignment

/-- The bytes of a length word and of the text it counts; the length is 32 bits wide. -/
def stringSpan : Option CString → Nat
  | some text => 4 + (text.strlen + 1) % 2 ^ 32
  | none => 5

def namesEnd (position : Nat) (names : List CString) : Nat :=
  names.foldl (fun position name => roundUp 4 position + stringSpan (some name)) position

def countEnd (position : Nat) : Nat :=
  roundUp 4 position + 4

/-- The end of an array of doubles, one for each joint; its size is 32 bits wide. -/
def arrayEnd (jointNames : JointNames) (position : Nat) : Nat :=
  roundUp 8 (countEnd position) + 8 * jointNames.names.length % 2 ^ 32

def preambleEnd (frameId : Option CString) (jointNames : JointNames) : Nat :=
  namesEnd (countEnd (8 + stringSpan frameId)) jointNames.names

/-- How far `zcdr_init_joint_state` writes: the last thing is the count of the efforts. -/
def stateExtent (frameId : Option CString) (jointNames : JointNames) : Nat :=
  4 + countEnd (arrayEnd jointNames (arrayEnd jointNames (preambleEnd frameId jointNames)))

/-- How far `zcdr_init_joint_command` writes: the last thing is the count of the values. -/
def commandExtent (frameId : Option CString) (jointNames : JointNames)
    (interfaceName : Option CString) : Nat :=
  4 + countEnd (roundUp 4 (preambleEnd frameId jointNames) + stringSpan interfaceName)

/-- The payload size that `zcdr_init_joint_state` computes. -/
def statePayload (frameId : Option CString) (jointNames : JointNames) : Nat :=
  4 + arrayEnd jointNames (arrayEnd jointNames (arrayEnd jointNames
    (preambleEnd frameId jointNames)))

/-- The payload size that `zcdr_init_joint_command` computes. -/
def commandPayload (frameId : Option CString) (jointNames : JointNames)
    (interfaceName : Option CString) : Nat :=
  4 + arrayEnd jointNames
    (roundUp 4 (preambleEnd frameId jointNames) + stringSpan interfaceName)

theorem add_padding_eq_roundUp (alignment : Nat) (positive : 0 < alignment)
    (position : Nat) : position + Cdr.padding alignment position = roundUp alignment position :=
  Cdr.add_padding position positive

theorem le_roundUp {alignment : Nat} (positive : 0 < alignment) (position : Nat) :
    position ≤ roundUp alignment position := by
  rw [← add_padding_eq_roundUp alignment positive]
  omega

theorem le_arrayEnd (jointNames : JointNames) (position : Nat) :
    position ≤ arrayEnd jointNames position := by
  have counted := le_roundUp (show 0 < 4 by omega) position
  have padded := le_roundUp (show 0 < 8 by omega) (countEnd position)
  simp only [arrayEnd, countEnd] at padded ⊢
  omega

theorem le_namesEnd (names : List CString) (position : Nat) :
    position + 4 * names.length ≤ namesEnd position names := by
  induction names generalizing position with
  | nil => exact le_rfl
  | cons name names ih =>
      have padded := le_roundUp (show 0 < 4 by omega) position
      have rest := ih (roundUp 4 position + stringSpan (some name))
      simp only [namesEnd, List.foldl_cons, List.length_cons, stringSpan] at rest ⊢
      omega

theorem le_statePayload (frameId : Option CString) (jointNames : JointNames) :
    4 * jointNames.names.length ≤ statePayload frameId jointNames := by
  have named := le_namesEnd jointNames.names (countEnd (8 + stringSpan frameId))
  have positions := le_arrayEnd jointNames (preambleEnd frameId jointNames)
  have velocities := le_arrayEnd jointNames
    (arrayEnd jointNames (preambleEnd frameId jointNames))
  have efforts := le_arrayEnd jointNames
    (arrayEnd jointNames (arrayEnd jointNames (preambleEnd frameId jointNames)))
  simp only [statePayload, preambleEnd] at positions velocities efforts ⊢
  omega

theorem le_commandPayload (frameId : Option CString) (jointNames : JointNames)
    (interfaceName : Option CString) :
    4 * jointNames.names.length ≤ commandPayload frameId jointNames interfaceName := by
  have named := le_namesEnd jointNames.names (countEnd (8 + stringSpan frameId))
  have padded := le_roundUp (show 0 < 4 by omega) (preambleEnd frameId jointNames)
  have valued := le_arrayEnd jointNames
    (roundUp 4 (preambleEnd frameId jointNames) + stringSpan interfaceName)
  simp only [commandPayload, preambleEnd] at padded valued ⊢
  omega

theorem length_stringImage (text : Option CString) :
    (stringImage text).length = stringSpan text := by
  cases text with
  | none => rfl
  | some text =>
      have lengthLe : (text.strlen + 1) % 2 ^ 32 ≤ text.strlen + 1 := Nat.mod_le _ _
      simp only [stringImage, stringSpan, List.length_append, length_uint32Bytes,
        List.length_take, UInt32.toNat_ofNat', List.length_singleton]
      simp only [CString.strlen] at lengthLe ⊢
      omega

theorem add_length_countImage (count : UInt32) (position : Nat) :
    position + (countImage count position).length = countEnd position := by
  have padded := add_padding_eq_roundUp 4 (by omega) position
  simp only [countImage, countEnd, Cdr.length_andThen, Cdr.length_pad, Cdr.raw_apply,
    length_uint32Bytes]
  omega

theorem add_length_namesImage (names : List CString) (position : Nat) :
    position + (namesImage names position).length = namesEnd position names := by
  induction names generalizing position with
  | nil => rfl
  | cons name names ih =>
      have padded := add_padding_eq_roundUp 4 (by omega) position
      have rest := ih (roundUp 4 position + stringSpan (some name))
      simp only [namesImage, Cdr.length_andThen, Cdr.length_pad, Cdr.raw_apply,
        length_stringImage, padded]
      simp only [namesEnd, List.foldl_cons] at rest ⊢
      omega

theorem add_length_stringsImage (frameId : Option CString) (jointNames : JointNames) :
    8 + (stringsImage frameId jointNames 8).length = preambleEnd frameId jointNames := by
  have counted := add_length_countImage jointNames.numJoints (8 + stringSpan frameId)
  have named := add_length_namesImage jointNames.names (countEnd (8 + stringSpan frameId))
  simp only [stringsImage, Cdr.length_andThen, Cdr.raw_apply, length_stringImage, counted,
    preambleEnd]
  omega

theorem add_length_arrayFront (jointNames : JointNames) (position : Nat) :
    position + (arrayFront jointNames.numJoints position).length + jointNames.arrayBytes =
      arrayEnd jointNames position := by
  have counted := add_length_countImage jointNames.numJoints position
  have padded := add_padding_eq_roundUp 8 (by omega) (countEnd position)
  have arrayBytes : jointNames.arrayBytes = 8 * jointNames.names.length % 2 ^ 32 := by
    simp [JointNames.arrayBytes, JointNames.numJoints]
  simp only [arrayFront, Cdr.length_andThen, Cdr.length_pad, counted, arrayEnd]
  omega

namespace StateTemplate

variable (template : StateTemplate)

theorem velocityEnd_eq : template.velocityEnd =
    arrayEnd template.jointNames (arrayEnd template.jointNames
      (preambleEnd template.frameId template.jointNames)) := by
  have strings : template.stringsEnd = preambleEnd template.frameId template.jointNames :=
    add_length_stringsImage _ _
  have positions : template.positionEnd =
      arrayEnd template.jointNames template.stringsEnd := by
    rw [← add_length_arrayFront]
    simp only [positionEnd, positionFront, stringsEnd, List.length_append, arrayBytes]
    omega
  have velocities : template.velocityEnd =
      arrayEnd template.jointNames template.positionEnd :=
    add_length_arrayFront _ _
  rw [velocities, positions, strings]

theorem extent_eq :
    template.extent = stateExtent template.frameId template.jointNames := by
  rw [extent, add_length_countImage, velocityEnd_eq, stateExtent]

theorem payloadSize_eq :
    template.layout.payloadSize = statePayload template.frameId template.jointNames := by
  have efforts := add_length_arrayFront template.jointNames template.velocityEnd
  rw [statePayload, ← velocityEnd_eq, ← efforts]
  rfl

end StateTemplate

namespace CommandTemplate

variable (template : CommandTemplate)

theorem stringsEnd_eq : template.stringsEnd =
    roundUp 4 (preambleEnd template.frameId template.jointNames) +
      stringSpan template.interfaceName := by
  have strings := add_length_stringsImage template.frameId template.jointNames
  have padded := add_padding_eq_roundUp 4 (by omega)
    (preambleEnd template.frameId template.jointNames)
  simp only [stringsEnd, CommandTemplate.strings, Cdr.length_andThen, Cdr.length_pad,
    Cdr.raw_apply, length_stringImage, strings]
  omega

theorem extent_eq : template.extent =
    commandExtent template.frameId template.jointNames template.interfaceName := by
  rw [extent, add_length_countImage, stringsEnd_eq, commandExtent]

theorem payloadSize_eq : template.layout.payloadSize =
    commandPayload template.frameId template.jointNames template.interfaceName := by
  have values := add_length_arrayFront template.jointNames template.stringsEnd
  rw [commandPayload, ← stringsEnd_eq, ← values]
  simp only [layout, valuesFront, stringsEnd, arrayBytes, List.length_append]
  omega

end CommandTemplate

/-! ## Initialization of a client -/

section Client

variable {kconfig : Kconfig} {UserData : Type} (self : UserData)
  {client : ZenbeddedClient kconfig JointStateCodec JointCommandCodec}
  (transport : ZenohTransport kconfig RecvCb UserData) (controlFreq : UInt32)
  (stateParams : JointStateParams) (cmdParams : JointCommandParams)
  (cmdLayoutScratch : Block UInt8 kconfig.maxCmdBufferSize) (outcome : ClientOutcome)

def JointStateParams.template : StateTemplate :=
  ⟨stateParams.frameId, stateParams.jointNames⟩

def JointCommandParams.template : CommandTemplate :=
  ⟨cmdParams.frameId, cmdParams.jointNames, cmdParams.interfaceName⟩

/-- What initialization goes on with once both templates are laid out. -/
theorem ZenbeddedClient.init_of_templates (fresh : client.initialized = false)
    (stateFits : stateParams.template.extent ≤ kconfig.maxStateBufferSize)
    (cmdFits : cmdParams.template.extent ≤ kconfig.maxCmdBufferSize) :
    ∃ slot : Block UInt8 kconfig.maxStateBufferSize,
      (stateParams.template.layout.payloadSize ≤ kconfig.maxStateBufferSize →
        slot.Prefixed 0 (stateParams.template.image stateParams.template.zeroHoles)) ∧
      client.init self transport controlFreq stateParams cmdParams cmdLayoutScratch outcome =
        (let result := (client.templated slot slot).initBase self transport controlFreq
          stateParams.template.layout.payloadSize cmdParams.template.layout.payloadSize outcome
        some (result.1,
          { result.2.1 with
            stateCtx := stateParams.template.layout, cmdCtx := cmdParams.template.layout },
          result.2.2)) := by
  obtain ⟨⟨stateCtx, slot⟩, stateEq, rfl, prefixed⟩ :=
    (stateParams.template.zcdrInitJointState_needs
      (Block.filled kconfig.maxStateBufferSize 0)).fits stateFits
  obtain ⟨⟨cmdCtx, scratch⟩, cmdEq, rfl, -⟩ :=
    (cmdParams.template.zcdrInitJointCommand_needs cmdLayoutScratch).fits cmdFits
  exact ⟨slot, prefixed rfl,
    client.init_eq self transport controlFreq outcome fresh stateEq stateEq cmdEq⟩

/-- No byte is stored outside the slots and the scratch buffer, and payloads that are
too large are reported; that is so exactly if both templates end inside their buffers. -/
theorem layout_initialization_stays_inside_iff (fresh : client.initialized = false) :
    (∃ status after afterTransport,
      client.init self transport controlFreq stateParams cmdParams cmdLayoutScratch outcome =
        some (status, after, afterTransport) ∧
      (kconfig.maxStateBufferSize < statePayload stateParams.frameId stateParams.jointNames ∨
        kconfig.maxCmdBufferSize < commandPayload cmdParams.frameId cmdParams.jointNames
          cmdParams.interfaceName → status = -enomem)) ↔
    stateExtent stateParams.frameId stateParams.jointNames ≤ kconfig.maxStateBufferSize ∧
      commandExtent cmdParams.frameId cmdParams.jointNames cmdParams.interfaceName ≤
        kconfig.maxCmdBufferSize := by
  have stateEq := stateParams.template.extent_eq
  have cmdEq := cmdParams.template.extent_eq
  constructor
  · rintro ⟨status, after, afterTransport, initEq, -⟩
    by_contra overruns
    rcases Decidable.not_and_iff_or_not.mp overruns with stateOverruns | cmdOverruns
    · have stuck := (stateParams.template.zcdrInitJointState_needs
        (Block.filled kconfig.maxStateBufferSize 0)).overflows
          (by rw [stateEq]; exact Nat.lt_of_not_le stateOverruns)
      cases initEq.symm.trans
        (client.init_of_state_stuck self transport controlFreq outcome fresh stuck)
    · have stuck := (cmdParams.template.zcdrInitJointCommand_needs cmdLayoutScratch).overflows
        (by rw [cmdEq]; exact Nat.lt_of_not_le cmdOverruns)
      cases initEq.symm.trans
        (client.init_of_cmd_stuck self transport controlFreq outcome fresh stuck)
  · rintro ⟨stateFits, cmdFits⟩
    obtain ⟨slot, -, initEq⟩ := client.init_of_templates self transport controlFreq stateParams
      cmdParams cmdLayoutScratch outcome fresh (by rw [stateEq]; exact stateFits)
      (by rw [cmdEq]; exact cmdFits)
    refine ⟨_, _, _, initEq, fun tooLarge => ?_⟩
    have statePayloadEq : stateParams.template.layout.payloadSize =
        statePayload stateParams.frameId stateParams.jointNames :=
      stateParams.template.payloadSize_eq
    have cmdPayloadEq : cmdParams.template.layout.payloadSize =
        commandPayload cmdParams.frameId cmdParams.jointNames cmdParams.interfaceName :=
      cmdParams.template.payloadSize_eq
    rw [← statePayloadEq, ← cmdPayloadEq] at tooLarge
    obtain ⟨after, baseEq, -⟩ := ZenbeddedClientBase.initBase_of_too_large self transport
      controlFreq outcome (show (client.templated slot slot).initialized = false from fresh)
      tooLarge
    rw [baseEq]

end Client

/-- A frame id of 300 bytes runs over the end of a state slot of the default size. -/
theorem layout_initialization_overruns_slot :
    let noJoints : JointNames := ⟨[], by decide⟩
    let client : ZenbeddedClient (Kconfig.default .tier1) JointStateCodec JointCommandCodec :=
      .construct
    client.init () .zero 0
      (show JointStateParams from ⟨some ⟨List.replicate 300 0x61, by decide⟩, noJoints⟩)
      (show JointCommandParams from ⟨none, noJoints, none⟩) (Block.filled _ 0)
      ⟨⟨true, true, true, true, []⟩, ⟨true, true, [], []⟩, ⟨true, true, [], []⟩⟩ = none := by
  decide +kernel

theorem layout_initialization_stays_inside_iff_leg :
    let leg : JointNames := ⟨[CString.ofString "hip", CString.ofString "knee"], by decide⟩
    let client : ZenbeddedClient (Kconfig.default .tier1) JointStateCodec JointCommandCodec :=
      .construct
    ∃ status after afterTransport,
      client.init () .zero 0 (show JointStateParams from ⟨none, leg⟩)
        (show JointCommandParams from ⟨none, leg, none⟩) (Block.filled _ 0)
        ⟨⟨false, true, true, true, []⟩, ⟨true, true, [], []⟩, ⟨true, true, [], []⟩⟩ =
      some (status, after, afterTransport) := by
  intro leg client
  obtain ⟨status, after, afterTransport, initEq, -⟩ :=
    (layout_initialization_stays_inside_iff () .zero 0 ⟨none, leg⟩ ⟨none, leg, none⟩
      (Block.filled _ 0)
      ⟨⟨false, true, true, true, []⟩, ⟨true, true, [], []⟩, ⟨true, true, [], []⟩⟩
      (show client.initialized = false from rfl)).mpr (by decide)
  exact ⟨status, after, afterTransport, initEq⟩

end Zenbedded
