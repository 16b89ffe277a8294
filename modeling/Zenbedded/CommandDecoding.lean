import Zenbedded.ClientCalls
import Zenbedded.ClientTemplateBounds

/-!
# What a received command is decoded as

A joint command is accepted by its size alone.  The decoder reads the stamp at the
start and the values at the end of what was received; it compares neither names nor
the interface nor the encapsulation header with what the client is configured for.
-/

namespace Zenbedded

open ByteOrder ByteBlock

/-! ## Reading the latest command -/

section Reading

variable {kconfig : Kconfig} (client : ZenbeddedClientBase kconfig) {size outSize : Nat}
  (fits : size ≤ kconfig.maxCmdBufferSize) (room : size ≤ outSize)

include fits room

theorem ZenbeddedClientBase.readLatestCommandRaw_succ (fuel : Nat) (data : Block UInt8 outSize) :
    ∃ read, client.readLatestCommandRaw size (fuel + 1) data = some read ∧
      read.bytes.take size = client.cmdBuffer.latest.bytes.take size := by
  obtain ⟨read, readEq, contents⟩ := client.cmdBuffer.readLatest_spec data fits room
  refine ⟨read, ?_, contents⟩
  rw [readLatestCommandRaw, readEq]
  rfl

theorem ZenbeddedClientBase.readLatestCommandRaw_contents {fuel : Nat}
    {data read : Block UInt8 outSize}
    (readEq : client.readLatestCommandRaw size fuel data = some read) :
    read.bytes.take size = client.cmdBuffer.latest.bytes.take size := by
  cases fuel with
  | zero => cases readEq
  | succ fuel =>
      obtain ⟨first, firstEq, contents⟩ :=
        client.readLatestCommandRaw_succ fits room fuel data
      cases readEq.symm.trans firstEq
      exact contents

end Reading

/-- The codec reads what the buffer last took. -/
theorem ZenbeddedClient.exists_of_readCommand {kconfig : Kconfig} {stateCodec : StateCodec}
    {commandCodec : CommandCodec} {client : ZenbeddedClient kconfig stateCodec commandCodec}
    (up : client.initialized = true) (fits : client.cmdPayloadSize ≤ kconfig.maxCmdBufferSize)
    {tmp : Block UInt8 kconfig.maxCmdBufferSize} {fuel : Nat} {out : commandCodec.Value}
    {answer : Bool × commandCodec.Value}
    (readEq : client.readCommand tmp fuel out = some answer) :
    ∃ received : Block UInt8 kconfig.maxCmdBufferSize,
      received.bytes.take client.cmdPayloadSize =
        client.cmdBuffer.latest.bytes.take client.cmdPayloadSize ∧
      commandCodec.read client.cmdCtx received client.cmdPayloadSize out = some answer := by
  rw [readCommand, if_neg (by simp [up])] at readEq
  obtain ⟨received, receivedEq, decodeEq⟩ := Option.bind_eq_some_iff.mp readEq
  exact ⟨received, client.readLatestCommandRaw_contents fits fits receivedEq, decodeEq⟩

/-! ## Messages as a little-endian reader sees them -/

def Stamp.seenIn (order : Endianness) (stamp : Stamp) : Stamp where
  sec := (UInt32.ofNat (order.asLittle 4 stamp.sec.toUInt32.toNat)).toInt32
  nanosec := UInt32.ofNat (order.asLittle 4 stamp.nanosec.toNat)

def doubleSeenIn (order : Endianness) (value : UInt64) : UInt64 :=
  UInt64.ofNat (order.asLittle 8 value.toNat)

/-- The numbers of a message that was spelled in some byte order. -/
def JointCommand.seenIn (order : Endianness) (message : JointCommand) : JointCommand :=
  { message with
    stamp := message.stamp.seenIn order
    values := message.values.map (doubleSeenIn order) }

theorem JointCommand.seenIn_little (message : JointCommand) :
    message.seenIn .little = message := by
  have stampSame : message.stamp.seenIn .little = message.stamp := by
    have secBounded : message.stamp.sec.toUInt32.toNat < 256 ^ 4 := UInt32.toNat_lt _
    have nanosecBounded : message.stamp.nanosec.toNat < 256 ^ 4 := UInt32.toNat_lt _
    simp [Stamp.seenIn, asLittle_little secBounded, asLittle_little nanosecBounded]
  have doubleSame : doubleSeenIn .little = id := by
    funext value
    have bounded : value.toNat < 256 ^ 8 := value.toNat_lt
    simp [doubleSeenIn, asLittle_little bounded]
  simp [seenIn, stampSame, doubleSame]

theorem JointCommand.serialize_eq (order : Endianness) (message : JointCommand) :
    ∃ middle, message.serialize order =
      Cdr.encapsulationHeader order ++
        (order.encode 4 message.stamp.sec.toUInt32.toNat ++
          order.encode 4 message.stamp.nanosec.toNat) ++
        middle ++ order.spell 8 (message.values.map UInt64.toNat) := by
  have stampEq : message.stamp.encoder order 0 =
      order.encode 4 message.stamp.sec.toUInt32.toNat ++
        order.encode 4 message.stamp.nanosec.toNat := by
    rw [Stamp.encoder, Cdr.andThen_apply, Cdr.word_of_aligned rfl, length_encode,
      Cdr.word_of_aligned rfl]
  obtain ⟨front, frontEq⟩ := Cdr.exists_sequence_words_eq_append order 8
    (message.values.map UInt64.toNat) (by omega)
    (8 + (Cdr.andThen (Cdr.string order message.frameId)
      (Cdr.andThen (stringsEncoder order message.jointNames)
        (Cdr.string order message.interfaceName)) 8).length)
  refine ⟨Cdr.andThen (Cdr.string order message.frameId)
      (Cdr.andThen (stringsEncoder order message.jointNames)
        (Cdr.string order message.interfaceName)) 8 ++ front, ?_⟩
  have encoderEq : message.encoder order =
      Cdr.andThen (message.stamp.encoder order)
        (Cdr.andThen (Cdr.andThen (Cdr.string order message.frameId)
          (Cdr.andThen (stringsEncoder order message.jointNames)
            (Cdr.string order message.interfaceName)))
          (doublesEncoder order message.values)) := by
    simp only [JointCommand.encoder, Cdr.andThen_assoc]
  rw [serialize, Cdr.encapsulate, encoderEq, Cdr.andThen_apply, stampEq, Cdr.andThen_apply]
  simp only [List.length_append, length_encode, doublesEncoder]
  rw [frontEq]
  simp only [List.append_assoc]

/-! ## Decoding -/

section Decoding

variable {size : Nat} {buffer : Block UInt8 size} {rest : List UInt8}

theorem loadUInt32_spelled {before after : List UInt8} {order : Endianness} {value : Nat}
    (contents : buffer.bytes = before ++ order.encode 4 value ++ after) :
    loadUInt32 buffer before.length = some (UInt32.ofNat (order.asLittle 4 value)) := by
  have loaded := Block.load_segment contents
  rw [length_encode] at loaded
  rw [loadUInt32, loaded]
  rfl

/-- The doubles at the end of a message that ends with spelled doubles: counted from the
end, they are the same. -/
theorem getElem?_bytesDoubles_end {order : Endianness} {front : List UInt8}
    {values : List UInt64} {offset count index other : Nat}
    (ends : (front ++ order.spell 8 (values.map UInt64.toNat)).length = offset + 8 * count)
    (indexLt : index < count) (otherLt : other < values.length)
    (fromEnd : count - index = values.length - other) :
    (bytesDoubles count ((front ++ order.spell 8 (values.map UInt64.toNat)).drop offset))[index]? =
      (values.map (doubleSeenIn order))[other]? := by
  simp only [List.length_append, length_spell, List.length_map] at ends
  have dropped : ((front ++ order.spell 8 (values.map UInt64.toNat)).drop offset).drop
      (8 * index) = order.spell 8 ((values.map UInt64.toNat).drop other) := by
    rw [List.drop_drop, List.drop_append, List.drop_of_length_le (by omega), List.nil_append,
      ← drop_spell]
    congr 1
    omega
  obtain ⟨more, countEq⟩ : ∃ more, count = index + (more + 1) := ⟨count - index - 1, by omega⟩
  have fromIndex : (wordValues 8 count ((front ++ order.spell 8
      (values.map UInt64.toNat)).drop offset))[index]? =
      some (order.asLittle 8 (values[other]).toNat) := by
    rw [← List.head?_drop, countEq, drop_wordValues, dropped,
      List.drop_eq_getElem_cons (by simpa using otherLt), head?_wordValues_spell]
    simp
  rw [bytesDoubles, List.getElem?_map, fromIndex, List.getElem?_map,
    List.getElem?_eq_getElem otherLt]
  rfl

/-- What is loaded into an array whose bytes lie at the end of the first part of a buffer. -/
theorem loadArray_at_end {bytes : List UInt8} {offset count : Nat} {array loaded : List UInt64}
    (contents : buffer.bytes = bytes ++ rest) (ends : bytes.length = offset + 8 * count)
    (loadEq : loadArray buffer offset (8 * count) array = some loaded) :
    loaded = bytesDoubles count (bytes.drop offset) ++ array.drop count := by
  obtain ⟨taken, takenEq, filled⟩ := Option.bind_eq_some_iff.mp loadEq
  obtain ⟨-, rfl⟩ := Block.load_eq_some_iff.mp takenEq
  have segment : (buffer.bytes.drop offset).take (8 * count) = bytes.drop offset := by
    rw [contents, List.drop_append_of_le_length (by omega), List.take_append_of_le_length
      (by simp; omega), List.take_of_length_le (by simp; omega)]
  split at filled
  · rw [segment, Nat.mul_div_cancel_left _ (by omega)] at filled
    exact (Option.some.inj filled).symm
  · cases filled

variable {template : CommandTemplate} {order : Endianness} {message : JointCommand}

/-- Decoding a message that has the size of the template. -/
theorem CommandTemplate.decode (few : template.jointNames.names.length < 2 ^ 29)
    (contents : buffer.bytes = message.serialize order ++ rest)
    (sameSize : (message.serialize order).length = template.layout.payloadSize)
    {bufferSize : Nat} {out read : JointCommandValue}
    (readEq : JointCommandCodec.read template.layout buffer bufferSize out = some (true, read)) :
    read.stampSec = (message.seenIn order).stamp.sec ∧
      read.stampNanosec = (message.seenIn order).stamp.nanosec ∧
      ∀ values, read.values = some values → ∀ index other,
        index < template.jointNames.names.length → other < message.values.length →
        template.jointNames.names.length - index = message.values.length - other →
        values[index]? = (message.seenIn order).values[other]? := by
  obtain ⟨⟨accepted, filled⟩, filledEq, answer⟩ := Option.bind_eq_some_iff.mp readEq
  cases answer
  have numBytes : (template.layout.numJoints * 8).toNat =
      8 * template.jointNames.names.length := by
    rw [← JointNames.arrayBytes_of_lt few]
    exact template.jointNames.arrayBytes_eq
  obtain ⟨middle, serializeEq⟩ := message.serialize_eq order
  have aroundSec : buffer.bytes = Cdr.encapsulationHeader order ++
      order.encode 4 message.stamp.sec.toUInt32.toNat ++
      (order.encode 4 message.stamp.nanosec.toNat ++ middle ++
        order.spell 8 (message.values.map UInt64.toNat) ++ rest) := by
    rw [contents, serializeEq]
    simp only [List.append_assoc]
  have aroundNanosec : buffer.bytes = (Cdr.encapsulationHeader order ++
      order.encode 4 message.stamp.sec.toUInt32.toNat) ++
      order.encode 4 message.stamp.nanosec.toNat ++ (middle ++
        order.spell 8 (message.values.map UInt64.toNat) ++ rest) := by
    rw [contents, serializeEq]
    simp only [List.append_assoc]
  have sec := loadUInt32_spelled aroundSec
  have nanosec := loadUInt32_spelled aroundNanosec
  simp only [List.length_append, Cdr.length_encapsulationHeader, length_encode] at sec nanosec
  rw [zcdrDeserializeJointCommand] at filledEq
  split at filledEq
  · cases filledEq
  have offset : template.layout.offsetTimestamp = 4 := rfl
  simp only [offset, sec, nanosec, numBytes, Option.mapM_some, Option.map_eq_map,
    Option.map_some, Option.bind_eq_bind, Option.bind_some] at filledEq
  obtain ⟨loaded, loadedEq, filledValue⟩ := Option.bind_eq_some_iff.mp filledEq
  cases filledValue
  refine ⟨rfl, rfl, fun values valuesEq index other indexLt otherLt fromEnd => ?_⟩
  obtain rfl : loaded = some values := valuesEq
  cases arrayEq : out.values with
  | none => simp [arrayEq] at loadedEq
  | some array =>
      rw [arrayEq, Option.mapM_some] at loadedEq
      have loadEq : loadArray buffer template.layout.offsetValues
          (8 * template.jointNames.names.length) array = some values := by
        simpa using loadedEq
      have payloadEq : template.layout.payloadSize =
          template.layout.offsetValues + 8 * template.jointNames.names.length := by
        rw [← JointNames.arrayBytes_of_lt few]
        simp only [layout, arrayBytes]
        omega
      have decoded := loadArray_at_end contents (sameSize.trans payloadEq) loadEq
      rw [serializeEq] at sameSize decoded
      rw [decoded, List.getElem?_append_left (by simpa [bytesDoubles] using indexLt)]
      exact getElem?_bytesDoubles_end (sameSize.trans payloadEq) indexLt otherLt fromEnd

end Decoding

/-! ## Clients -/

section Client

variable {kconfig : Kconfig} {stateCodec : StateCodec} {UserData : Type}

/-- A client that came up holds the layout of its command template. -/
theorem ZenbeddedClient.init_command_layout {self : UserData}
    {client started : ZenbeddedClient kconfig stateCodec JointCommandCodec}
    {transport afterTransport : ZenohTransport kconfig RecvCb UserData} {controlFreq : UInt32}
    {stateParams : stateCodec.InitParams} {cmdParams : JointCommandParams}
    {cmdLayoutScratch : Block UInt8 kconfig.maxCmdBufferSize} {outcome : ClientOutcome}
    {status : Int} (fresh : client.initialized = false)
    (initEq : client.init self transport controlFreq stateParams cmdParams cmdLayoutScratch
      outcome = some (status, started, afterTransport))
    (up : started.initialized = true) :
    started.cmdCtx = cmdParams.template.layout ∧
      started.cmdPayloadSize = cmdParams.template.layout.payloadSize ∧
      started.cmdPayloadSize ≤ kconfig.maxCmdBufferSize := by
  obtain ⟨_, _, _, scratch, _, _, cmdEq, _, cmdSize, _, cmdFits, _⟩ :=
    client.init_up self transport controlFreq outcome fresh initEq up
  have layoutEq : started.cmdCtx = cmdParams.template.layout :=
    ((cmdParams.template.zcdrInitJointCommand_needs cmdLayoutScratch).post_of_eq_some cmdEq).1
  refine ⟨layoutEq, ?_, cmdFits⟩
  rw [cmdSize, layoutEq]
  rfl

/-- An accepted command is decoded by position: the stamp is the message's, and the
values are the message's when counted from the end, all as a little-endian reader sees
them.  Nothing else of the message matters. -/
theorem command_decoding_by_position (admitted : kconfig.Admitted) {self : UserData}
    {client started : ZenbeddedClient kconfig stateCodec JointCommandCodec}
    {transport afterTransport : ZenohTransport kconfig RecvCb UserData} {controlFreq : UInt32}
    {stateParams : stateCodec.InitParams} {cmdParams : JointCommandParams}
    {cmdLayoutScratch : Block UInt8 kconfig.maxCmdBufferSize} {outcome : ClientOutcome}
    {status : Int} (fresh : client.initialized = false)
    (initEq : client.init self transport controlFreq stateParams cmdParams cmdLayoutScratch
      outcome = some (status, started, afterTransport))
    (up : started.initialized = true)
    {earlier later : List (ClientCall stateCodec)}
    {before delivered after : ZenbeddedClient kconfig stateCodec JointCommandCodec}
    (reached : (clientCalls kconfig stateCodec JointCommandCodec).Run started earlier before)
    {order : Endianness} {message : JointCommand}
    (delivery : (ClientCall.onTransportCmdCb (message.serialize order)).apply before =
      some delivered)
    (accepted : delivered.acceptedCommandCount = before.acceptedCommandCount + 1)
    (continued : (clientCalls kconfig stateCodec JointCommandCodec).Run delivered later after)
    (noNewer : ∀ call ∈ later, ¬ call.Accepted delivered)
    {tmp : Block UInt8 kconfig.maxCmdBufferSize} {fuel : Nat} {out read : JointCommandValue}
    (readEq : after.readCommand tmp fuel out = some (true, read)) :
    let seen := message.seenIn order
    read.stampSec = seen.stamp.sec ∧ read.stampNanosec = seen.stamp.nanosec ∧
      (∀ values, read.values = some values → ∀ joint other,
        joint < cmdParams.jointNames.names.length → other < message.values.length →
        cmdParams.jointNames.names.length - joint = message.values.length - other →
        values[joint]? = seen.values[other]?) ∧
      (order = .little → seen = message) := by
  intro seen
  obtain ⟨layoutEq, sizeEq, cmdFits⟩ := client.init_command_layout fresh initEq up
  have few : cmdParams.template.jointNames.names.length < 2 ^ 29 := by
    have counted := le_commandPayload cmdParams.frameId cmdParams.jointNames
      cmdParams.interfaceName
    have payloadEq : cmdParams.template.layout.payloadSize = commandPayload cmdParams.frameId
      cmdParams.jointNames cmdParams.interfaceName := cmdParams.template.payloadSize_eq
    have bounded := admitted.maxCmdBufferSize.2
    simp only [JointCommandParams.template] at payloadEq sizeEq ⊢
    omega
  have sameBefore := clientCalls_sameSetup reached
  have sameAfter := (ClientCall.apply_sameSetup delivery).trans (clientCalls_sameSetup continued)
  have beforeSize : before.cmdPayloadSize = cmdParams.template.layout.payloadSize :=
    sameBefore.cmdPayloadSize.trans sizeEq
  have sameSize : (message.serialize order).length = before.cmdPayloadSize := by
    by_contra otherSize
    cases delivery.symm.trans (ClientCall.apply_of_other_size otherSize)
    simp [ZenbeddedClientBase.acceptedCommandCount] at accepted
  have fits : before.cmdPayloadSize ≤ kconfig.maxCmdBufferSize := by omega
  obtain ⟨cmdBuffer, deliveryEq, contents⟩ :=
    ClientCall.apply_of_same_size sameSize fits
  cases delivery.symm.trans deliveryEq
  obtain ⟨bufferSame, -⟩ := clientCalls_keep_commands continued noNewer
  have upAfter : after.initialized = true :=
    sameAfter.initialized.trans (sameBefore.initialized.trans up)
  obtain ⟨received, receivedContents, decodeEq⟩ :=
    after.exists_of_readCommand upAfter (by rw [sameAfter.cmdPayloadSize]; exact fits) readEq
  rw [bufferSame, sameAfter.cmdPayloadSize, contents] at receivedContents
  have splitContents : received.bytes = message.serialize order ++
      received.bytes.drop before.cmdPayloadSize := by
    rw [← receivedContents, List.take_append_drop]
  rw [sameAfter.cmdCtx, sameBefore.cmdCtx, layoutEq] at decodeEq
  obtain ⟨sec, nanosec, values⟩ := CommandTemplate.decode few splitContents
    (sameSize.trans beforeSize) decodeEq
  exact ⟨sec, nanosec, values, fun little => by rw [← message.seenIn_little, ← little]⟩

end Client

/-- A command for the same joints in another order and for another interface is decoded
as if it were for this client. -/
theorem swapped_joints_are_decoded :
    let hip := CString.ofString "hip"
    let toe := CString.ofString "toe"
    let cmdParams : JointCommandParams :=
      ⟨none, ⟨[hip, toe], by decide⟩, some (CString.ofString "effort")⟩
    let client : ZenbeddedClient (Kconfig.default .tier1) (RawCodec.state 8)
      JointCommandCodec := .construct
    let message : JointCommand :=
      ⟨⟨5, 6⟩, [], [toe.bytes, hip.bytes], (CString.ofString "torque").bytes, [1, 2]⟩
    (do let (_, started, _) ← client.init () .zero 1000 () cmdParams (Block.filled _ 0)
          ⟨⟨true, true, true, true, []⟩, ⟨true, true, [], []⟩, ⟨true, true, [], []⟩⟩
        let delivered ← (ClientCall.onTransportCmdCb (message.serialize .little)).apply started
        let answer ← delivered.readCommand (Block.filled _ 0) 1
          (show JointCommandValue from ⟨0, 0, some [0, 0]⟩)
        some (started.initialized, delivered.acceptedCommandCount - started.acceptedCommandCount,
          show Bool × JointCommandValue from answer)) =
      some (true, 1, true, ⟨5, 6, some [1, 2]⟩) ∧
    message.jointNames ≠ cmdParams.jointNames.names.map CString.bytes ∧
    some message.interfaceName ≠ cmdParams.interfaceName.map CString.bytes := by
  decide +kernel

theorem command_decoding_by_position_leg :
    let cmdParams : JointCommandParams :=
      ⟨none, ⟨[CString.ofString "hip", CString.ofString "toe"], by decide⟩,
        some (CString.ofString "effort")⟩
    let client : ZenbeddedClient (Kconfig.default .tier1) (RawCodec.state 8)
      JointCommandCodec := .construct
    let message : JointCommand :=
      ⟨⟨5, 6⟩, [], [(CString.ofString "toe").bytes, (CString.ofString "hip").bytes],
        (CString.ofString "torque").bytes, [1, 2]⟩
    ∃ status started afterTransport delivered,
      client.init () .zero 1000 () cmdParams (Block.filled _ 0)
          ⟨⟨true, true, true, true, []⟩, ⟨true, true, [], []⟩, ⟨true, true, [], []⟩⟩ =
        some (status, started, afterTransport) ∧
      (ClientCall.onTransportCmdCb (message.serialize .little)).apply started =
        some delivered ∧
      ∃ read : JointCommandValue, delivered.readCommand (Block.filled _ 0) 1
          (show JointCommandValue from ⟨0, 0, some [0, 0]⟩) = some (true, read) ∧
        read.stampSec = 5 ∧ ∀ values, read.values = some values → values[1]? = some 2 := by
  intro cmdParams client message
  have runs : (do
      let (status, started, afterTransport) ← client.init () .zero 1000 () cmdParams
          (Block.filled _ 0)
          ⟨⟨true, true, true, true, []⟩, ⟨true, true, [], []⟩, ⟨true, true, [], []⟩⟩
      let delivered ← (ClientCall.onTransportCmdCb (message.serialize .little)).apply started
      let answer ← delivered.readCommand (Block.filled _ 0) 1
          (show JointCommandValue from ⟨0, 0, some [0, 0]⟩)
      some (started.initialized, started.acceptedCommandCount,
        delivered.acceptedCommandCount, answer.1)) = some (true, 0, 1, true) := by
    decide +kernel
  obtain ⟨⟨status, started, afterTransport⟩, initEq, runs⟩ := Option.bind_eq_some_iff.mp runs
  obtain ⟨delivered, deliveryEq, runs⟩ := Option.bind_eq_some_iff.mp runs
  obtain ⟨⟨ok, read⟩, readEq, runs⟩ := Option.bind_eq_some_iff.mp runs
  simp only [Option.some.injEq, Prod.mk.injEq] at runs
  obtain ⟨up, before, counted, rfl⟩ := runs
  obtain ⟨sec, _, values, little⟩ := command_decoding_by_position
    (Kconfig.default_admitted .tier1) (show client.initialized = false from rfl) initEq up
    (.nil started) deliveryEq (by rw [before, counted]; rfl) (.nil delivered) (by simp) readEq
  rw [little rfl] at sec values
  exact ⟨status, started, afterTransport, delivered, initEq, deliveryEq, read, readEq, sec,
    fun array arrayEq => values array arrayEq 1 1 (by decide) (by decide) rfl⟩

end Zenbedded
