import Zenbedded.CdrConformance
import Zenbedded.ClientTemplateBounds
import Zenbedded.SerializationRegions

/-!
# In-place patching round-trips

Whatever a buffer held before its template was laid out, any sequence of serializer
calls on it leaves in the stamp and the arrays what was last given for them, and nothing
else changes.
-/

namespace Zenbedded

open ByteBlock

variable {size : Nat}

/-! ## Sizes without overflow -/

/-- The end of a string with its length word and its terminator. -/
def exactString (position : Nat) (text : Option CString) : Nat :=
  position + 4 + text.elim 0 CString.strlen + 1

def exactNames (position : Nat) (names : List CString) : Nat :=
  names.foldl (fun position name => exactString (roundUp 4 position) (some name)) position

def exactArray (count position : Nat) : Nat :=
  roundUp 8 (countEnd position) + 8 * count

def exactPreamble (frameId : Option CString) (names : List CString) : Nat :=
  exactNames (countEnd (exactString 8 frameId)) names

/-- The payload size of a joint state, as a sum that does not wrap. -/
def exactStatePayload (frameId : Option CString) (names : List CString) : Nat :=
  4 + exactArray names.length (exactArray names.length (exactArray names.length
    (exactPreamble frameId names)))

def exactCommandPayload (frameId : Option CString) (names : List CString)
    (interfaceName : Option CString) : Nat :=
  4 + exactArray names.length
    (exactString (roundUp 4 (exactPreamble frameId names)) interfaceName)

theorem le_exactNames (position : Nat) (names : List CString) :
    position ≤ exactNames position names := by
  induction names generalizing position with
  | nil => exact le_rfl
  | cons name names ih =>
      have padded := le_roundUp (show 0 < 4 by omega) position
      have rest := ih (exactString (roundUp 4 position) (some name))
      simp only [exactNames, List.foldl_cons, exactString] at rest ⊢
      omega

theorem stringSpan_exact {position : Nat} {text : Option CString}
    (small : exactString position text < 2 ^ 32) :
    position + stringSpan text = exactString position text := by
  cases text with
  | none => rfl
  | some text =>
      simp only [exactString, Option.elim] at small
      simp only [stringSpan, exactString, Option.elim]
      rw [Nat.mod_eq_of_lt (by omega)]
      omega

theorem namesEnd_exact {position : Nat} {names : List CString}
    (small : exactNames position names < 2 ^ 32) :
    namesEnd position names = exactNames position names := by
  induction names generalizing position with
  | nil => rfl
  | cons name names ih =>
      have rest := le_exactNames (exactString (roundUp 4 position) (some name)) names
      have named : exactString (roundUp 4 position) (some name) < 2 ^ 32 :=
        Nat.lt_of_le_of_lt rest small
      have step := ih small
      simp only [namesEnd, exactNames, List.foldl_cons] at step ⊢
      rw [stringSpan_exact named, step]

theorem le_exactArray (count position : Nat) :
    position ≤ exactArray count position ∧ 8 * count ≤ exactArray count position := by
  have counted := le_roundUp (show 0 < 4 by omega) position
  have padded := le_roundUp (show 0 < 8 by omega) (countEnd position)
  simp only [exactArray, countEnd] at padded ⊢
  omega

theorem arrayEnd_exact {jointNames : JointNames} (small : 8 * jointNames.names.length < 2 ^ 32)
    (position : Nat) :
    arrayEnd jointNames position = exactArray jointNames.names.length position := by
  rw [arrayEnd, exactArray, Nat.mod_eq_of_lt small]

theorem preambleEnd_exact {frameId : Option CString} {jointNames : JointNames}
    (small : exactPreamble frameId jointNames.names < 2 ^ 32) :
    preambleEnd frameId jointNames = exactPreamble frameId jointNames.names := by
  have named := le_exactNames (countEnd (exactString 8 frameId)) jointNames.names
  have counted : exactString 8 frameId ≤ countEnd (exactString 8 frameId) :=
    Nat.le_add_right_of_le (le_roundUp (by omega) _)
  rw [exactPreamble] at small
  rw [preambleEnd, exactPreamble, stringSpan_exact (by omega), namesEnd_exact small]

/-- A payload below four gigabytes is the one that the initializer computes. -/
theorem statePayload_exact {frameId : Option CString} {jointNames : JointNames}
    (small : exactStatePayload frameId jointNames.names < 2 ^ 32) :
    statePayload frameId jointNames = exactStatePayload frameId jointNames.names ∧
      jointNames.names.length < 2 ^ 29 := by
  obtain ⟨first, joints⟩ := le_exactArray jointNames.names.length
    (exactPreamble frameId jointNames.names)
  obtain ⟨second, -⟩ := le_exactArray jointNames.names.length
    (exactArray jointNames.names.length (exactPreamble frameId jointNames.names))
  obtain ⟨third, -⟩ := le_exactArray jointNames.names.length
    (exactArray jointNames.names.length
      (exactArray jointNames.names.length (exactPreamble frameId jointNames.names)))
  simp only [exactStatePayload] at small ⊢
  have few : 8 * jointNames.names.length < 2 ^ 32 := by omega
  rw [statePayload, preambleEnd_exact (by omega), arrayEnd_exact few, arrayEnd_exact few,
    arrayEnd_exact few]
  exact ⟨rfl, by omega⟩

theorem commandPayload_exact {frameId interfaceName : Option CString} {jointNames : JointNames}
    (small : exactCommandPayload frameId jointNames.names interfaceName < 2 ^ 32) :
    commandPayload frameId jointNames interfaceName =
        exactCommandPayload frameId jointNames.names interfaceName ∧
      jointNames.names.length < 2 ^ 29 := by
  have padded := le_roundUp (show 0 < 4 by omega) (exactPreamble frameId jointNames.names)
  have text : roundUp 4 (exactPreamble frameId jointNames.names) ≤
      exactString (roundUp 4 (exactPreamble frameId jointNames.names)) interfaceName := by
    simp only [exactString]
    omega
  obtain ⟨first, joints⟩ := le_exactArray jointNames.names.length
    (exactString (roundUp 4 (exactPreamble frameId jointNames.names)) interfaceName)
  simp only [exactCommandPayload] at small ⊢
  have few : 8 * jointNames.names.length < 2 ^ 32 := by omega
  rw [commandPayload, preambleEnd_exact (by omega), stringSpan_exact (by omega),
    arrayEnd_exact few]
  exact ⟨rfl, by omega⟩

/-! ## Sequences of calls -/

/-- What the deserializer yields after a sequence of serializer calls. -/
structure StateRecovered (calls : List JointStateValue) (out result : JointStateOut) :
    Prop where
  stampSec : ∀ last, calls.getLast? = some last →
    result.stampSec = out.stampSec.map fun _ => last.stampSec
  stampNanosec : ∀ last, calls.getLast? = some last →
    result.stampNanosec = out.stampNanosec.map fun _ => last.stampNanosec
  positions : ∀ values, lastGiven (·.positions) calls = some values →
    result.positions = out.positions.map (values ++ ·.drop values.length)
  velocities : ∀ values, lastGiven (·.velocities) calls = some values →
    result.velocities = out.velocities.map (values ++ ·.drop values.length)
  efforts : ∀ values, lastGiven (·.efforts) calls = some values →
    result.efforts = out.efforts.map (values ++ ·.drop values.length)

structure CommandRecovered (calls : List JointCommandValue) (out result : JointCommandOut) :
    Prop where
  stampSec : ∀ last, calls.getLast? = some last →
    result.stampSec = out.stampSec.map fun _ => last.stampSec
  stampNanosec : ∀ last, calls.getLast? = some last →
    result.stampNanosec = out.stampNanosec.map fun _ => last.stampNanosec
  values : ∀ values, lastGiven (·.values) calls = some values →
    result.values = out.values.map (values ++ ·.drop values.length)

/-- An array that was given last is read back over the front of the output. -/
theorem overlaid_lastGiven {jointNames : JointNames} (few : jointNames.names.length < 2 ^ 29)
    {Call : Type} {given : Call → Option (List UInt64)} {calls : List Call}
    (perJoint : ∀ call ∈ calls, PerJoint jointNames (given call)) {values : List UInt64}
    (last : lastGiven given calls = some values) (initial : List UInt8) :
    overlaid (jointNames.numJoints * 8).toNat
        ((lastGiven (fun call => (given call).map doubleBytes) calls).getD initial) =
      (values ++ ·.drop values.length) := by
  have length : values.length = jointNames.names.length := by
    obtain ⟨call, member, givenEq⟩ := List.mem_filterMap.mp (List.mem_of_getLast? last)
    exact perJoint call member values givenEq
  funext array
  rw [lastGiven_optionMap, last, jointNames.arrayBytes_eq, JointNames.arrayBytes_of_lt few,
    ← length]
  exact overlaid_doubleBytes values array

theorem StateField.read_recovers {template : StateTemplate}
    (few : template.jointNames.names.length < 2 ^ 29) {calls : List JointStateValue}
    (complete : ∀ call ∈ calls, call.Complete template.jointNames)
    (initial : StateField → List UInt8) (out : JointStateOut) :
    StateRecovered calls out (StateField.read (template.layout.numJoints * 8).toNat
      (fun field => (lastGiven (fun call => call.given field) calls).getD (initial field))
      out) where
  stampSec last lastEq := by
    simp [StateField.read, JointStateValue.given, lastGiven_some, lastEq]
  stampNanosec last lastEq := by
    simp [StateField.read, JointStateValue.given, lastGiven_some, lastEq]
  positions values last := congrArg (out.positions.map ·)
    (overlaid_lastGiven few (fun call member => (complete call member).positions) last _)
  velocities values last := congrArg (out.velocities.map ·)
    (overlaid_lastGiven few (fun call member => (complete call member).velocities) last _)
  efforts values last := congrArg (out.efforts.map ·)
    (overlaid_lastGiven few (fun call member => (complete call member).efforts) last _)

theorem CommandField.read_recovers {template : CommandTemplate}
    (few : template.jointNames.names.length < 2 ^ 29) {calls : List JointCommandValue}
    (complete : ∀ call ∈ calls, PerJoint template.jointNames call.values)
    (initial : CommandField → List UInt8) (out : JointCommandOut) :
    CommandRecovered calls out (CommandField.read (template.layout.numJoints * 8).toNat
      (fun field => (lastGiven (fun call => call.given field) calls).getD (initial field))
      out) where
  stampSec last lastEq := by
    simp [CommandField.read, JointCommandValue.given, lastGiven_some, lastEq]
  stampNanosec last lastEq := by
    simp [CommandField.read, JointCommandValue.given, lastGiven_some, lastEq]
  values values last := congrArg (out.values.map ·)
    (overlaid_lastGiven few (fun call member => complete call member) last _)

/-- A sequence of state serializer calls, and what is read back after it. -/
theorem serialize_state_calls (template : StateTemplate)
    (few : template.jointNames.names.length < 2 ^ 29)
    (holds : template.layout.payloadSize ≤ size) (initialized : Block UInt8 size)
    {calls : List JointStateValue}
    (complete : ∀ call ∈ calls, call.Complete template.jointNames) :
    ∃ written,
      calls.foldlM (fun buffer call => call.serialize template.layout buffer) initialized =
        some written ∧
      calls.foldlM (fun buffer call => call.serialize template.layout buffer)
          (initialized.front _ holds) = some (written.front _ holds) ∧
      AgreeOutside (StateField.region template.layout) initialized written ∧
      ∀ bufferSize out, template.layout.payloadSize ≤ bufferSize →
        out.Room template.jointNames.names.length →
        ∃ result,
          zcdrDeserializeJointState template.layout written bufferSize out =
            some (true, result) ∧
          zcdrDeserializeJointState template.layout (written.front _ holds) bufferSize out =
            some (true, result) ∧
          StateRecovered calls out result := by
  have separate := template.separate
  obtain ⟨written, writtenEq, frontEq, contents, agree⟩ := foldlM_patch_spec separate
    StateField.order_nodup StateField.order_complete holds
    (fun call member size block =>
      JointStateValue.serialize_eq few (complete call member) block)
    (fun call member => JointStateValue.fitsRegions few (complete call member)) initialized
  refine ⟨written, writtenEq, frontEq, agree, ?_⟩
  intro bufferSize out covered room
  have numBytes : (template.layout.numJoints * 8).toNat =
      8 * template.jointNames.names.length :=
    template.jointNames.arrayBytes_eq.trans (JointNames.arrayBytes_of_lt few)
  have supplies := supplies_of_room numBytes room.positions
  have suppliesVelocities := supplies_of_room numBytes room.velocities
  have suppliesEfforts := supplies_of_room numBytes room.efforts
  refine ⟨_, zcdrDeserializeJointState_eq separate holds covered supplies suppliesVelocities
    suppliesEfforts, ?_, ?_⟩
  · rw [zcdrDeserializeJointState_eq separate le_rfl covered supplies suppliesVelocities
      suppliesEfforts]
    simp only [Block.contents_front _ holds (separate.inside _)]
  · have recovered := StateField.read_recovers few complete
      (fun field => (field.region template.layout).contents initialized) out
    simpa only [contents] using recovered

theorem serialize_command_calls (template : CommandTemplate)
    (few : template.jointNames.names.length < 2 ^ 29)
    (holds : template.layout.payloadSize ≤ size) (initialized : Block UInt8 size)
    {calls : List JointCommandValue}
    (complete : ∀ call ∈ calls, PerJoint template.jointNames call.values) :
    ∃ written,
      calls.foldlM (fun buffer call => call.serialize template.layout buffer) initialized =
        some written ∧
      calls.foldlM (fun buffer call => call.serialize template.layout buffer)
          (initialized.front _ holds) = some (written.front _ holds) ∧
      AgreeOutside (CommandField.region template.layout) initialized written ∧
      ∀ bufferSize out, template.layout.payloadSize ≤ bufferSize →
        (∀ array ∈ out.values, template.jointNames.names.length ≤ array.length) →
        ∃ result,
          zcdrDeserializeJointCommand template.layout written bufferSize out =
            some (true, result) ∧
          zcdrDeserializeJointCommand template.layout (written.front _ holds) bufferSize out =
            some (true, result) ∧
          CommandRecovered calls out result := by
  have separate := template.separate
  obtain ⟨written, writtenEq, frontEq, contents, agree⟩ := foldlM_patch_spec separate
    CommandField.order_nodup CommandField.order_complete holds
    (fun call member size block =>
      JointCommandValue.serialize_eq few (complete call member) block)
    (fun call member => JointCommandValue.fitsRegions few (complete call member)) initialized
  refine ⟨written, writtenEq, frontEq, agree, ?_⟩
  intro bufferSize out covered room
  have numBytes : (template.layout.numJoints * 8).toNat =
      8 * template.jointNames.names.length :=
    template.jointNames.arrayBytes_eq.trans (JointNames.arrayBytes_of_lt few)
  have supplies := supplies_of_room numBytes room
  refine ⟨_, zcdrDeserializeJointCommand_eq separate holds covered supplies, ?_, ?_⟩
  · rw [zcdrDeserializeJointCommand_eq separate le_rfl covered supplies]
    simp only [Block.contents_front _ holds (separate.inside _)]
  · have recovered := CommandField.read_recovers few complete
      (fun field => (field.region template.layout).contents initialized) out
    simpa only [contents] using recovered

/-- In a buffer that a template was laid out in, any sequence of serializer calls changes
the stamp and the arrays only, accesses nothing behind the payload, and is read back as
the last stamp and the last of each array. -/
theorem patching_round_trips (frameId : Option CString) (jointNames : JointNames)
    (interfaceName : Option CString) (outBuffer : Block UInt8 size) :
    (exactStatePayload frameId jointNames.names < 2 ^ 32 →
      exactStatePayload frameId jointNames.names ≤ size →
      ∃ ctx initialized, ∃ holds : ctx.payloadSize ≤ size,
        zcdrInitJointState frameId jointNames outBuffer = some (ctx, initialized) ∧
        ctx.payloadSize = exactStatePayload frameId jointNames.names ∧
        Separate (StateField.region ctx) ctx.payloadSize ∧
        ∀ calls : List JointStateValue, (∀ call ∈ calls, call.Complete jointNames) →
          ∃ written,
            calls.foldlM (fun buffer call => call.serialize ctx buffer) initialized =
              some written ∧
            calls.foldlM (fun buffer call => call.serialize ctx buffer)
                (initialized.front _ holds) = some (written.front _ holds) ∧
            AgreeOutside (StateField.region ctx) initialized written ∧
            (∀ bufferSize out, ctx.payloadSize ≤ bufferSize →
              out.Room jointNames.names.length →
              ∃ result,
                zcdrDeserializeJointState ctx written bufferSize out = some (true, result) ∧
                zcdrDeserializeJointState ctx (written.front _ holds) bufferSize out =
                  some (true, result) ∧
                StateRecovered calls out result) ∧
            ∀ bufferSize out, bufferSize < ctx.payloadSize →
              zcdrDeserializeJointState ctx written bufferSize out = some (false, out)) ∧
    (exactCommandPayload frameId jointNames.names interfaceName < 2 ^ 32 →
      exactCommandPayload frameId jointNames.names interfaceName ≤ size →
      ∃ ctx initialized, ∃ holds : ctx.payloadSize ≤ size,
        zcdrInitJointCommand frameId jointNames interfaceName outBuffer =
          some (ctx, initialized) ∧
        ctx.payloadSize = exactCommandPayload frameId jointNames.names interfaceName ∧
        Separate (CommandField.region ctx) ctx.payloadSize ∧
        ∀ calls : List JointCommandValue, (∀ call ∈ calls, PerJoint jointNames call.values) →
          ∃ written,
            calls.foldlM (fun buffer call => call.serialize ctx buffer) initialized =
              some written ∧
            calls.foldlM (fun buffer call => call.serialize ctx buffer)
                (initialized.front _ holds) = some (written.front _ holds) ∧
            AgreeOutside (CommandField.region ctx) initialized written ∧
            (∀ bufferSize out, ctx.payloadSize ≤ bufferSize →
              (∀ array ∈ out.values, jointNames.names.length ≤ array.length) →
              ∃ result,
                zcdrDeserializeJointCommand ctx written bufferSize out = some (true, result) ∧
                zcdrDeserializeJointCommand ctx (written.front _ holds) bufferSize out =
                  some (true, result) ∧
                CommandRecovered calls out result) ∧
            ∀ bufferSize out, bufferSize < ctx.payloadSize →
              zcdrDeserializeJointCommand ctx written bufferSize out = some (false, out)) := by
  constructor
  · intro small fits
    obtain ⟨payloadEq, few⟩ := statePayload_exact small
    let template : StateTemplate := ⟨frameId, jointNames⟩
    have sizeEq := template.payloadSize_eq.trans payloadEq
    have holds : template.layout.payloadSize ≤ size := sizeEq.trans_le fits
    obtain ⟨⟨ctx, initialized⟩, initEq, rfl, -⟩ :=
      (template.zcdrInitJointState_needs outBuffer).fits
        (template.extent_le_payloadSize.trans holds)
    refine ⟨template.layout, initialized, holds, initEq, sizeEq, template.separate, ?_⟩
    intro calls complete
    obtain ⟨written, writtenEq, frontEq, agree, reads⟩ :=
      serialize_state_calls template few holds initialized complete
    exact ⟨written, writtenEq, frontEq, agree, reads, fun _ _ tooShort => if_pos tooShort⟩
  · intro small fits
    obtain ⟨payloadEq, few⟩ := commandPayload_exact small
    let template : CommandTemplate := ⟨frameId, jointNames, interfaceName⟩
    have sizeEq := template.payloadSize_eq.trans payloadEq
    have holds : template.layout.payloadSize ≤ size := sizeEq.trans_le fits
    obtain ⟨⟨ctx, initialized⟩, initEq, rfl, -⟩ :=
      (template.zcdrInitJointCommand_needs outBuffer).fits
        (template.extent_le_payloadSize.trans holds)
    refine ⟨template.layout, initialized, holds, initEq, sizeEq, template.separate, ?_⟩
    intro calls complete
    obtain ⟨written, writtenEq, frontEq, agree, reads⟩ :=
      serialize_command_calls template few holds initialized complete
    exact ⟨written, writtenEq, frontEq, agree, reads, fun _ _ tooShort => if_pos tooShort⟩

theorem patching_round_trips_leg :
    let leg : JointNames := ⟨[CString.ofString "hip", CString.ofString "knee"], by decide⟩
    let calls : List JointStateValue :=
      [⟨1, 2, some [3, 4], none, some [5, 6]⟩, ⟨7, 8, none, none, some [9, 10]⟩]
    ∃ ctx initialized written result,
      zcdrInitJointState none leg (Block.filled 160 255) = some (ctx, initialized) ∧
      calls.foldlM (fun buffer call => call.serialize ctx buffer) initialized = some written ∧
      zcdrDeserializeJointState ctx written 160 ⟨some 0, none, some [0, 0], none, some [0, 0]⟩ =
        some (true, result) ∧
      result.positions = some [3, 4] ∧ result.efforts = some [9, 10] := by
  intro leg calls
  obtain ⟨ctx, initialized, _, initEq, sizeEq, -, sequences⟩ :=
    (patching_round_trips none leg none (Block.filled 160 255)).1 (by decide) (by decide)
  obtain ⟨written, writtenEq, -, -, reads, -⟩ := sequences calls (by
    intro call member
    simp only [calls, List.mem_cons, List.not_mem_nil, or_false] at member
    rcases member with rfl | rfl <;> constructor <;> rintro values ⟨⟩ <;> rfl)
  obtain ⟨result, readEq, -, recovered⟩ := reads 160
    ⟨some 0, none, some [0, 0], none, some [0, 0]⟩ (by rw [sizeEq]; decide)
    ⟨by decide, by decide, by decide⟩
  exact ⟨ctx, initialized, written, result, initEq, writtenEq, readEq,
    recovered.positions [3, 4] rfl, recovered.efforts [9, 10] rfl⟩

end Zenbedded
