import Zenbedded.JointStateTemplate
import Zenbedded.JointCommandTemplate

/-!
# The serializers produce and read CDR

For messages that fit 32-bit lengths the filled templates are the reference
serialization, so what the serializers leave in a zeroed buffer is the reference
serialization and the deserializers recover a message from it.

The list of joints is nonempty: the template aligns the elements of an array even
where there are none, which the reference does not.
-/

namespace Zenbedded

open ByteOrder ByteBlock

/-- The text of an optional string; a null pointer stands for the empty text. -/
def textBytes : Option CString → List UInt8
  | some text => text.bytes
  | none => []

def JointNames.texts (jointNames : JointNames) : List (List UInt8) :=
  jointNames.names.map CString.bytes

/-- A length that its 32-bit word can spell. -/
def Countable (text : List UInt8) : Prop :=
  text.length + 1 < 2 ^ 32

theorem stringImage_eq {text : Option CString} (countable : Countable (textBytes text)) :
    stringImage text = uint32Bytes (UInt32.ofNat ((textBytes text).length + 1)) ++
      (textBytes text ++ [0]) := by
  cases text with
  | none => rfl
  | some text =>
      have unwrapped : (UInt32.ofNat (text.strlen + 1)).toNat = text.bytes.length + 1 := by
        rw [UInt32.toNat_ofNat']
        exact Nat.mod_eq_of_lt countable
      simp only [stringImage, unwrapped, textBytes]
      rw [List.take_of_length_le (by simp)]
      rfl

theorem string_eq_stringImage (text : Option CString)
    (countable : Countable (textBytes text)) :
    Cdr.string .little (textBytes text) =
      Cdr.andThen (Cdr.pad 4) (Cdr.raw (stringImage text)) := by
  have unwrapped : (UInt32.ofNat ((textBytes text).length + 1)).toNat =
      (textBytes text).length + 1 := by
    rw [UInt32.toNat_ofNat']
    exact Nat.mod_eq_of_lt countable
  rw [stringImage_eq countable, Cdr.string, Cdr.word, Cdr.andThen_assoc, Cdr.raw_andThen_raw,
    uint32Bytes, unwrapped]
  rfl

theorem word_eq_countImage {count : Nat} (countable : count < 2 ^ 32) :
    Cdr.word .little 4 count = countImage (UInt32.ofNat count) := by
  have unwrapped : (UInt32.ofNat count).toNat = count := by
    rw [UInt32.toNat_ofNat']
    exact Nat.mod_eq_of_lt countable
  rw [countImage, uint32Bytes, unwrapped]
  rfl

theorem all_strings_eq_namesImage {names : List CString}
    (countable : ∀ name ∈ names, Countable name.bytes) :
    Cdr.all ((names.map CString.bytes).map (Cdr.string .little)) = namesImage names := by
  induction names with
  | nil => rfl
  | cons name names ih =>
      have first := string_eq_stringImage (some name)
        (countable name List.mem_cons_self)
      have rest := ih fun other member => countable other (List.mem_cons_of_mem _ member)
      simp only [textBytes] at first
      simp only [List.map_cons, Cdr.all, namesImage, first, rest, Cdr.andThen_assoc]

theorem stringsEncoder_eq {jointNames : JointNames}
    (countable : ∀ name ∈ jointNames.names, Countable name.bytes) :
    stringsEncoder .little jointNames.texts =
      Cdr.andThen (countImage jointNames.numJoints) (namesImage jointNames.names) := by
  have lengthEq : (jointNames.texts.map (Cdr.string .little)).length =
      jointNames.names.length := by
    simp [JointNames.texts]
  rw [stringsEncoder, Cdr.sequence, lengthEq, word_eq_countImage jointNames.length_lt]
  rw [JointNames.texts, all_strings_eq_namesImage countable]
  rfl

theorem doublesEncoder_eq {jointNames : JointNames} {values : List UInt64}
    (nonempty : jointNames.names ≠ []) (sameLength : values.length = jointNames.names.length) :
    doublesEncoder .little values =
      Cdr.andThen (arrayFront jointNames.numJoints) (Cdr.raw (doubleBytes values)) := by
  have wordsNonempty : values.map UInt64.toNat ≠ [] := by
    intro empty
    apply nonempty
    rw [← List.length_eq_zero_iff, ← sameLength, ← List.length_map UInt64.toNat, empty,
      List.length_nil]
  rw [doublesEncoder, Cdr.sequence_words_of_ne_nil (by omega) wordsNonempty,
    List.length_map, sameLength, word_eq_countImage jointNames.length_lt, arrayFront,
    Cdr.andThen_assoc]
  rfl

theorem stampEncoder_eq (stamp : Stamp) : stamp.encoder .little 0 = stampBytes stamp := by
  rw [Stamp.encoder, Cdr.andThen_apply, Cdr.word_of_aligned rfl, length_encode,
    Cdr.word_of_aligned rfl]
  rfl

/-! ## Lengths -/

theorem atLeast_strings (order : Endianness) {texts : List (List UInt8)} {text : List UInt8}
    (member : text ∈ texts) :
    Cdr.AtLeast (text.length + 1) (stringsEncoder order texts) :=
  ((Cdr.atLeast_string order text).all_of_mem (List.mem_map_of_mem member)).andThen_right _

theorem atLeast_doubles (values : List UInt64) :
    Cdr.AtLeast (8 * values.length) (doublesEncoder .little values) := by
  intro position
  obtain ⟨front, frontEq⟩ := Cdr.exists_sequence_words_eq_append .little 8
    (values.map UInt64.toNat) (by omega) position
  rw [doublesEncoder, frontEq]
  simp

/-- Every length of the strings and names fits its word. -/
structure Spellable (frameId : Option CString) (jointNames : JointNames) : Prop where
  frame : Countable (textBytes frameId)
  names : ∀ name ∈ jointNames.names, Countable name.bytes
  few : jointNames.names.length < 2 ^ 29

/-- A message that is short enough has lengths that their words can spell. -/
theorem spellable_of_length_lt {stamp : Stamp} {frameId : Option CString}
    {jointNames : JointNames} {rest : Cdr.Encoder}
    (long : Cdr.AtLeast (8 * jointNames.names.length) rest)
    (small : (kCdrHeader ++ Cdr.andThen (stamp.encoder .little)
      (Cdr.andThen (Cdr.string .little (textBytes frameId))
        (Cdr.andThen (stringsEncoder .little jointNames.texts) rest)) 0).length < 2 ^ 32) :
    Spellable frameId jointNames := by
  rw [List.length_append] at small
  have body := Nat.lt_of_le_of_lt (Nat.le_add_left _ _) small
  refine ⟨?frame, ?names, ?few⟩
  case frame =>
    have longFrame := ((Cdr.atLeast_string .little (textBytes frameId)).andThen_left
      (Cdr.andThen (stringsEncoder .little jointNames.texts) rest)).andThen_right
        (stamp.encoder .little)
    exact Nat.lt_of_le_of_lt (longFrame 0) body
  case names =>
    intro name member
    have inTexts : name.bytes ∈ jointNames.texts := List.mem_map_of_mem member
    have longName := (((atLeast_strings .little inTexts).andThen_left rest).andThen_right
      (Cdr.string .little (textBytes frameId))).andThen_right (stamp.encoder .little)
    exact Nat.lt_of_le_of_lt (longName 0) body
  case few =>
    have longRest := ((long.andThen_right (stringsEncoder .little jointNames.texts)).andThen_right
      (Cdr.string .little (textBytes frameId))).andThen_right (stamp.encoder .little)
    have bounded := longRest 0
    omega

theorem front_eq {frameId : Option CString} {jointNames : JointNames} (stamp : Stamp)
    (spellable : Spellable frameId jointNames) (rest : Cdr.Encoder) :
    Cdr.andThen (stamp.encoder .little) (Cdr.andThen (Cdr.string .little (textBytes frameId))
      (Cdr.andThen (stringsEncoder .little jointNames.texts) rest)) 0 =
    stampBytes stamp ++ (stringsImage frameId jointNames 8 ++
      rest (8 + (stringsImage frameId jointNames 8).length)) := by
  rw [Cdr.andThen_apply, stampEncoder_eq, length_stampBytes, stringsEncoder_eq spellable.names,
    string_eq_stringImage frameId spellable.frame, Cdr.andThen_apply]
  have aligned : Cdr.andThen (Cdr.pad 4) (Cdr.raw (stringImage frameId)) (0 + 8) =
      stringImage frameId := by
    simp [Cdr.andThen_apply, Cdr.pad_of_aligned]
  simp [aligned, stringsImage, Cdr.andThen_apply, Nat.add_assoc]

/-! ## Joint states -/

/-- Every array argument is null or has room for so many values. -/
structure JointStateOut.Room (count : Nat) (out : JointStateOut) : Prop where
  positions : ∀ array ∈ out.positions, count ≤ array.length
  velocities : ∀ array ∈ out.velocities, count ≤ array.length
  efforts : ∀ array ∈ out.efforts, count ≤ array.length

namespace StateTemplate

variable (template : StateTemplate)

/-- The message with the template's strings and the given stamp and arrays. -/
def message (stamp : Stamp) (position velocity effort : List UInt64) : JointState where
  stamp
  frameId := textBytes template.frameId
  name := template.jointNames.texts
  position
  velocity
  effort

def holding (stamp : Stamp) (position velocity effort : List UInt64) : StateHoles where
  stamp := stampBytes stamp
  positions := doubleBytes position
  velocities := doubleBytes velocity
  efforts := doubleBytes effort

/-- One value for each joint in every array. -/
structure Complete (jointNames : JointNames) (position velocity effort : List UInt64) :
    Prop where
  position : position.length = jointNames.names.length
  velocity : velocity.length = jointNames.names.length
  effort : effort.length = jointNames.names.length

variable {template} {stamp : Stamp} {position velocity effort : List UInt64}

def arraysEncoder (position velocity effort : List UInt64) : Cdr.Encoder :=
  Cdr.andThen (doublesEncoder .little position)
    (Cdr.andThen (doublesEncoder .little velocity) (doublesEncoder .little effort))

theorem serialize_message_eq :
    (template.message stamp position velocity effort).serialize .little =
      kCdrHeader ++ Cdr.andThen (stamp.encoder .little)
        (Cdr.andThen (Cdr.string .little (textBytes template.frameId))
          (Cdr.andThen (stringsEncoder .little template.jointNames.texts)
            (arraysEncoder position velocity effort))) 0 :=
  rfl

theorem spellable (complete : Complete template.jointNames position velocity effort)
    (small : ((template.message stamp position velocity effort).serialize .little).length <
      2 ^ 32) :
    Spellable template.frameId template.jointNames := by
  rw [serialize_message_eq] at small
  refine spellable_of_length_lt ?_ small
  have long := (atLeast_doubles position).andThen_left
    (Cdr.andThen (doublesEncoder .little velocity) (doublesEncoder .little effort))
  rwa [complete.position] at long

variable (complete : Complete template.jointNames position velocity effort)
  (spelled : Spellable template.frameId template.jointNames)

include complete spelled

theorem holding_fit : (holding stamp position velocity effort).Fit template.arrayBytes := by
  have numBytes : template.arrayBytes = _ := JointNames.arrayBytes_of_lt spelled.few
  constructor <;> simp [holding, numBytes, complete.position, complete.velocity, complete.effort]

theorem serialize_message (nonempty : template.jointNames.names ≠ []) :
    (template.message stamp position velocity effort).serialize .little =
      template.image (holding stamp position velocity effort) := by
  have numBytes : template.arrayBytes = _ := JointNames.arrayBytes_of_lt spelled.few
  have positionFits : 8 * position.length = template.arrayBytes := by
    rw [numBytes, complete.position]
  have velocityFits : 8 * velocity.length = template.arrayBytes := by
    rw [numBytes, complete.velocity]
  rw [serialize_message_eq, front_eq stamp spelled, arraysEncoder,
    doublesEncoder_eq nonempty complete.position,
    doublesEncoder_eq nonempty complete.velocity, doublesEncoder_eq nonempty complete.effort]
  simp only [Cdr.andThen_apply, Cdr.raw_apply, List.length_append, length_doubleBytes,
    positionFits, velocityFits, image, holding, positionFront, velocityFront, effortFront,
    velocityEnd, positionEnd, stringsEnd, kCdrHeader, List.append_assoc, Nat.add_assoc]

variable (stamp) in
theorem length_message (nonempty : template.jointNames.names ≠ []) :
    ((template.message stamp position velocity effort).serialize .little).length =
      template.layout.payloadSize := by
  rw [serialize_message complete spelled nonempty,
    length_image template (holding_fit complete spelled)]

theorem write_message (nonempty : template.jointNames.names ≠ []) {size : Nat}
    (holds : ((template.message stamp position velocity effort).serialize .little).length ≤
      size) :
    ∃ initialized written : Block UInt8 size,
      zcdrInitJointState template.frameId template.jointNames (Block.filled size 0) =
        some (template.layout, initialized) ∧
      zcdrSerializeJointState template.layout stamp.sec stamp.nanosec (some position)
        (some velocity) (some effort) initialized = some written ∧
      written.bytes.take template.layout.payloadSize =
        (template.message stamp position velocity effort).serialize .little := by
  rw [length_message stamp complete spelled nonempty] at holds
  obtain ⟨⟨ctx, initialized⟩, initializedEq, layoutEq, prefixed⟩ :=
    (template.zcdrInitJointState_needs (Block.filled size 0)).fits
      (Nat.le_trans template.extent_le_payloadSize holds)
  obtain rfl : ctx = template.layout := layoutEq
  have shows : template.Shows template.zeroHoles _ initialized :=
    ⟨template.zeroHoles_fit, (prefixed rfl holds).2⟩
  have numBytes : template.arrayBytes = _ := JointNames.arrayBytes_of_lt spelled.few
  have positionBytes : 8 * position.length = template.arrayBytes := by
    rw [numBytes, complete.position]
  have velocityBytes : 8 * velocity.length = template.arrayBytes := by
    rw [numBytes, complete.velocity]
  have effortBytes : 8 * effort.length = template.arrayBytes := by
    rw [numBytes, complete.effort]
  obtain ⟨written, writtenEq, fit, contents⟩ := shows.serialize stamp
    (supplies_of_length_eq positionBytes) (supplies_of_length_eq velocityBytes)
    (supplies_of_length_eq effortBytes)
  refine ⟨initialized, written, initializedEq, writtenEq, ?_⟩
  have holesEq : template.patch template.zeroHoles stamp (some position) (some velocity)
      (some effort) = holding stamp position velocity effort := by
    simp only [patch, holding, patched_of_length_eq positionBytes,
      patched_of_length_eq velocityBytes, patched_of_length_eq effortBytes]
  rw [contents, ← length_image template fit, List.take_left, holesEq,
    serialize_message complete spelled nonempty]

theorem read_message (nonempty : template.jointNames.names ≠ []) {size bufferSize : Nat}
    {inBuffer : Block UInt8 size} {rest : List UInt8}
    (contents : inBuffer.bytes =
      (template.message stamp position velocity effort).serialize .little ++ rest)
    (covered : ((template.message stamp position velocity effort).serialize .little).length ≤
      bufferSize) {out : JointStateOut}
    (room : out.Room template.jointNames.names.length) :
    zcdrDeserializeJointState template.layout inBuffer bufferSize out =
      some (true,
        { stampSec := out.stampSec.map fun _ => stamp.sec
          stampNanosec := out.stampNanosec.map fun _ => stamp.nanosec
          positions := out.positions.map fun array => position ++ array.drop position.length
          velocities := out.velocities.map fun array => velocity ++ array.drop velocity.length
          efforts := out.efforts.map fun array => effort ++ array.drop effort.length }) := by
  have numBytes : template.arrayBytes = _ := JointNames.arrayBytes_of_lt spelled.few
  have shows : template.Shows (holding stamp position velocity effort) rest inBuffer :=
    ⟨holding_fit complete spelled, by
      rw [contents, serialize_message complete spelled nonempty]⟩
  rw [length_message stamp complete spelled nonempty] at covered
  have read := shows.deserialize rfl covered (supplies_of_room numBytes room.positions)
    (supplies_of_room numBytes room.velocities) (supplies_of_room numBytes room.efforts)
  have positionBytes : template.arrayBytes = 8 * position.length := by
    rw [numBytes, complete.position]
  have velocityBytes : template.arrayBytes = 8 * velocity.length := by
    rw [numBytes, complete.velocity]
  have effortBytes : template.arrayBytes = 8 * effort.length := by
    rw [numBytes, complete.effort]
  simp only [holding] at read
  rw [read]
  congr 3
  · rw [positionBytes, funext (overlaid_doubleBytes position)]
  · rw [velocityBytes, funext (overlaid_doubleBytes velocity)]
  · rw [effortBytes, funext (overlaid_doubleBytes effort)]

end StateTemplate

/-! ## Joint commands -/

namespace CommandTemplate

variable (template : CommandTemplate)

/-- The message with the template's strings and the given stamp and values. -/
def message (stamp : Stamp) (values : List UInt64) : JointCommand where
  stamp
  frameId := textBytes template.frameId
  jointNames := template.jointNames.texts
  interfaceName := textBytes template.interfaceName
  values

def holding (stamp : Stamp) (values : List UInt64) : CommandHoles where
  stamp := stampBytes stamp
  values := doubleBytes values

variable {template} {stamp : Stamp} {values : List UInt64}

theorem serialize_message_eq :
    (template.message stamp values).serialize .little =
      kCdrHeader ++ Cdr.andThen (stamp.encoder .little)
        (Cdr.andThen (Cdr.string .little (textBytes template.frameId))
          (Cdr.andThen (stringsEncoder .little template.jointNames.texts)
            (Cdr.andThen (Cdr.string .little (textBytes template.interfaceName))
              (doublesEncoder .little values)))) 0 :=
  rfl

theorem spellable (complete : values.length = template.jointNames.names.length)
    (small : ((template.message stamp values).serialize .little).length < 2 ^ 32) :
    Spellable template.frameId template.jointNames := by
  rw [serialize_message_eq] at small
  refine spellable_of_length_lt ?_ small
  have long := (atLeast_doubles values).andThen_right
    (Cdr.string .little (textBytes template.interfaceName))
  rwa [complete] at long

theorem interface_countable
    (small : ((template.message stamp values).serialize .little).length < 2 ^ 32) :
    Countable (textBytes template.interfaceName) := by
  have long := ((((Cdr.atLeast_string .little (textBytes template.interfaceName)).andThen_left
    (doublesEncoder .little values)).andThen_right
    (stringsEncoder .little template.jointNames.texts)).andThen_right
    (Cdr.string .little (textBytes template.frameId))).andThen_right (stamp.encoder .little)
  have bounded := long 0
  rw [serialize_message_eq, List.length_append] at small
  simp only [Countable]
  omega

variable (complete : values.length = template.jointNames.names.length)
  (spelled : Spellable template.frameId template.jointNames)

include complete spelled

theorem holding_fit : (holding stamp values).Fit template.arrayBytes := by
  have numBytes : template.arrayBytes = _ := JointNames.arrayBytes_of_lt spelled.few
  constructor <;> simp [holding, numBytes, complete]

variable (interfaceCountable : Countable (textBytes template.interfaceName))
  (nonempty : template.jointNames.names ≠ [])

include interfaceCountable nonempty

theorem serialize_message :
    (template.message stamp values).serialize .little =
      template.image (holding stamp values) := by
  rw [serialize_message_eq, front_eq stamp spelled, string_eq_stringImage _ interfaceCountable,
    doublesEncoder_eq nonempty complete]
  simp only [Cdr.andThen_apply, Cdr.raw_apply, List.length_append, image, holding,
    valuesFront, strings, stringsEnd, kCdrHeader, List.append_assoc, Nat.add_assoc]

variable (stamp) in
theorem length_message :
    ((template.message stamp values).serialize .little).length =
      template.layout.payloadSize := by
  rw [serialize_message complete spelled interfaceCountable nonempty,
    length_image template (holding_fit complete spelled)]

theorem write_message {size : Nat}
    (holds : ((template.message stamp values).serialize .little).length ≤ size) :
    ∃ initialized written : Block UInt8 size,
      zcdrInitJointCommand template.frameId template.jointNames template.interfaceName
        (Block.filled size 0) = some (template.layout, initialized) ∧
      zcdrSerializeJointCommand template.layout stamp.sec stamp.nanosec (some values)
        initialized = some written ∧
      written.bytes.take template.layout.payloadSize =
        (template.message stamp values).serialize .little := by
  rw [length_message stamp complete spelled interfaceCountable nonempty] at holds
  obtain ⟨⟨ctx, initialized⟩, initializedEq, layoutEq, prefixed⟩ :=
    (template.zcdrInitJointCommand_needs (Block.filled size 0)).fits
      (Nat.le_trans template.extent_le_payloadSize holds)
  obtain rfl : ctx = template.layout := layoutEq
  have shows : template.Shows template.zeroHoles _ initialized :=
    ⟨template.zeroHoles_fit, (prefixed rfl holds).2⟩
  have valueBytes : 8 * values.length = template.arrayBytes := by
    rw [complete]
    exact (JointNames.arrayBytes_of_lt spelled.few).symm
  obtain ⟨written, writtenEq, fit, contents⟩ :=
    shows.serialize stamp (supplies_of_length_eq valueBytes)
  refine ⟨initialized, written, initializedEq, writtenEq, ?_⟩
  have holesEq : template.patch template.zeroHoles stamp (some values) =
      holding stamp values := by
    simp only [patch, holding, patched_of_length_eq valueBytes]
  rw [contents, ← length_image template fit, List.take_left, holesEq,
    serialize_message complete spelled interfaceCountable nonempty]

theorem read_message {size bufferSize : Nat} {inBuffer : Block UInt8 size}
    {rest : List UInt8}
    (contents : inBuffer.bytes = (template.message stamp values).serialize .little ++ rest)
    (covered : ((template.message stamp values).serialize .little).length ≤ bufferSize)
    {out : JointCommandOut}
    (room : ∀ array ∈ out.values, template.jointNames.names.length ≤ array.length) :
    zcdrDeserializeJointCommand template.layout inBuffer bufferSize out =
      some (true,
        { stampSec := out.stampSec.map fun _ => stamp.sec
          stampNanosec := out.stampNanosec.map fun _ => stamp.nanosec
          values := out.values.map fun array => values ++ array.drop values.length }) := by
  have numBytes : template.arrayBytes = _ := JointNames.arrayBytes_of_lt spelled.few
  have shows : template.Shows (holding stamp values) rest inBuffer :=
    ⟨holding_fit complete spelled, by
      rw [contents, serialize_message complete spelled interfaceCountable nonempty]⟩
  rw [length_message stamp complete spelled interfaceCountable nonempty] at covered
  have read := shows.deserialize rfl covered (supplies_of_room numBytes room)
  have valueBytes : template.arrayBytes = 8 * values.length := by
    rw [numBytes, complete]
  simp only [holding] at read
  rw [read, valueBytes, funext (overlaid_doubleBytes values)]

end CommandTemplate

/-! ## Conformance -/

/-- In a zeroed buffer the serializers write the reference serialization, and with
the context of that buffer the deserializers recover every message with the same
strings from its reference serialization. -/
theorem serializers_conform_to_cdr (frameId : Option CString) (jointNames : JointNames)
    (interfaceName : Option CString) (nonempty : jointNames.names ≠ []) :
    (∀ (stamp : Stamp) (position velocity effort : List UInt64) (size : Nat),
      StateTemplate.Complete jointNames position velocity effort →
      let message := StateTemplate.message ⟨frameId, jointNames⟩
      let reference := (message stamp position velocity effort).serialize .little
      reference.length < 2 ^ 32 → reference.length ≤ size →
      ∃ (ctx : JointStateCtx) (initialized written : Block UInt8 size),
        zcdrInitJointState frameId jointNames (Block.filled size 0) =
          some (ctx, initialized) ∧
        zcdrSerializeJointState ctx stamp.sec stamp.nanosec (some position) (some velocity)
          (some effort) initialized = some written ∧
        written.bytes.take ctx.payloadSize = reference ∧
        ctx.payloadSize = reference.length ∧
        ∀ (stamp : Stamp) (position velocity effort : List UInt64) (rest : List UInt8)
          (inSize bufferSize : Nat) (inBuffer : Block UInt8 inSize) (out : JointStateOut),
          StateTemplate.Complete jointNames position velocity effort →
          inBuffer.bytes = (message stamp position velocity effort).serialize .little ++ rest →
          reference.length ≤ bufferSize →
          out.Room jointNames.names.length →
          zcdrDeserializeJointState ctx inBuffer bufferSize out =
            some (true,
              { stampSec := out.stampSec.map fun _ => stamp.sec
                stampNanosec := out.stampNanosec.map fun _ => stamp.nanosec
                positions := out.positions.map (position ++ ·.drop position.length)
                velocities := out.velocities.map (velocity ++ ·.drop velocity.length)
                efforts := out.efforts.map (effort ++ ·.drop effort.length) })) ∧
    (∀ (stamp : Stamp) (values : List UInt64) (size : Nat),
      values.length = jointNames.names.length →
      let message := CommandTemplate.message ⟨frameId, jointNames, interfaceName⟩
      let reference := (message stamp values).serialize .little
      reference.length < 2 ^ 32 → reference.length ≤ size →
      ∃ (ctx : JointCommandCtx) (initialized written : Block UInt8 size),
        zcdrInitJointCommand frameId jointNames interfaceName (Block.filled size 0) =
          some (ctx, initialized) ∧
        zcdrSerializeJointCommand ctx stamp.sec stamp.nanosec (some values) initialized =
          some written ∧
        written.bytes.take ctx.payloadSize = reference ∧
        ctx.payloadSize = reference.length ∧
        ∀ (stamp : Stamp) (values : List UInt64) (rest : List UInt8)
          (inSize bufferSize : Nat) (inBuffer : Block UInt8 inSize) (out : JointCommandOut),
          values.length = jointNames.names.length →
          inBuffer.bytes = (message stamp values).serialize .little ++ rest →
          reference.length ≤ bufferSize →
          (∀ array ∈ out.values, jointNames.names.length ≤ array.length) →
          zcdrDeserializeJointCommand ctx inBuffer bufferSize out =
            some (true,
              { stampSec := out.stampSec.map fun _ => stamp.sec
                stampNanosec := out.stampNanosec.map fun _ => stamp.nanosec
                values := out.values.map (values ++ ·.drop values.length) })) := by
  constructor
  · intro stamp position velocity effort size complete message reference small holds
    have spelled := StateTemplate.spellable complete small
    have length := StateTemplate.length_message stamp complete spelled nonempty
    obtain ⟨initialized, written, initializedEq, writtenEq, bytes⟩ :=
      StateTemplate.write_message complete spelled nonempty holds
    refine ⟨_, initialized, written, initializedEq, writtenEq, bytes, length.symm, ?_⟩
    intro stamp position velocity effort rest inSize bufferSize inBuffer out complete contents
      covered room
    have sameLength := StateTemplate.length_message stamp complete spelled nonempty
    exact StateTemplate.read_message complete spelled nonempty contents
      (sameLength.trans length.symm ▸ covered) room
  · intro stamp values size complete message reference small holds
    have spelled := CommandTemplate.spellable complete small
    have interfaceCountable := CommandTemplate.interface_countable small
    have length := CommandTemplate.length_message stamp complete spelled
      interfaceCountable nonempty
    obtain ⟨initialized, written, initializedEq, writtenEq, bytes⟩ :=
      CommandTemplate.write_message complete spelled interfaceCountable nonempty holds
    refine ⟨_, initialized, written, initializedEq, writtenEq, bytes, length.symm, ?_⟩
    intro stamp values rest inSize bufferSize inBuffer out complete contents covered room
    have sameLength := CommandTemplate.length_message stamp complete spelled
      interfaceCountable nonempty
    exact CommandTemplate.read_message complete spelled interfaceCountable nonempty contents
      (sameLength.trans length.symm ▸ covered) room

theorem serializers_conform_to_cdr_leg :
    let leg : JointNames := ⟨[CString.ofString "hip", CString.ofString "knee"], by decide⟩
    let stamp : Stamp := ⟨-1, 7⟩
    let later : Stamp := ⟨5, 6⟩
    (∃ (ctx : JointStateCtx) (initialized written : Block UInt8 160),
      zcdrInitJointState none leg (Block.filled 160 0) = some (ctx, initialized) ∧
      zcdrSerializeJointState ctx stamp.sec stamp.nanosec (some [1, 2]) (some [3, 4])
        (some [5, 6]) initialized = some written ∧
      written.bytes.take ctx.payloadSize =
        (StateTemplate.message ⟨none, leg⟩ stamp [1, 2] [3, 4] [5, 6]).serialize .little ∧
      zcdrDeserializeJointState ctx
        ⟨(StateTemplate.message ⟨none, leg⟩ later [7, 8] [9, 10] [11, 12]).serialize .little,
          rfl⟩ 116 ⟨some 0, none, some [0, 0, 0], none, some [0, 0]⟩ =
        some (true, ⟨some 5, none, some [7, 8, 0], none, some [11, 12]⟩)) ∧
    ∃ (ctx : JointCommandCtx) (initialized written : Block UInt8 100),
      zcdrInitJointCommand none leg (some (CString.ofString "effort")) (Block.filled 100 0) =
        some (ctx, initialized) ∧
      zcdrSerializeJointCommand ctx stamp.sec stamp.nanosec (some [1, 2]) initialized =
        some written ∧
      written.bytes.take ctx.payloadSize =
        (CommandTemplate.message ⟨none, leg, some (CString.ofString "effort")⟩ stamp
          [1, 2]).serialize .little := by
  intro leg stamp later
  have conform := serializers_conform_to_cdr none leg (some (CString.ofString "effort"))
    (by decide)
  constructor
  · obtain ⟨ctx, initialized, written, initializedEq, writtenEq, bytes, _, reads⟩ :=
      conform.1 stamp [1, 2] [3, 4] [5, 6] 160 ⟨rfl, rfl, rfl⟩ (by decide +kernel)
        (by decide +kernel)
    refine ⟨ctx, initialized, written, initializedEq, writtenEq, bytes, ?_⟩
    exact reads later [7, 8] [9, 10] [11, 12] [] _ 116 _ _ ⟨rfl, rfl, rfl⟩
      (List.append_nil _).symm (by decide +kernel)
      ⟨by decide, by decide, by decide⟩
  · obtain ⟨ctx, initialized, written, initializedEq, writtenEq, bytes, _⟩ :=
      conform.2 stamp [1, 2] 100 rfl (by decide +kernel) (by decide +kernel)
    exact ⟨ctx, initialized, written, initializedEq, writtenEq, bytes⟩

end Zenbedded
