import Zenbedded.ClientCalls
import Zenbedded.ClientTemplateBounds
import Zenbedded.SerializationRegions
import Zenbedded.ZenohTransportPools

/-!
# Joint states in a double buffer

A state codec patches the slot that is not shown, which holds the call before the last.
An array that a call omits is thus taken from the calls that went to the same slot, and
not from all calls.
-/

namespace Zenbedded

open ByteBlock

/-! ## The calls of a slot -/

/-- The calls that went to the slot that is shown, and those that went to the other one. -/
def slotCalls {Call : Type} (calls : List Call) : List Call × List Call :=
  calls.foldl (fun slots call => (slots.2 ++ [call], slots.1)) ([], [])

/-- The calls that went to the slot of the last one. -/
def shownCalls {Call : Type} (calls : List Call) : List Call :=
  (slotCalls calls).1

theorem slotCalls_append {Call : Type} (calls : List Call) (call : Call) :
    slotCalls (calls ++ [call]) = ((slotCalls calls).2 ++ [call], (slotCalls calls).1) := by
  simp [slotCalls]

/-- The calls of both slots are among the calls, and the last call is shown. -/
theorem mem_slotCalls {Call : Type} (calls : List Call) :
    (∀ call ∈ (slotCalls calls).1, call ∈ calls) ∧
      ∀ call ∈ (slotCalls calls).2, call ∈ calls := by
  induction calls using List.reverseRecOn with
  | nil => simp [slotCalls]
  | append_singleton calls last ih =>
      obtain ⟨shown, hidden⟩ := ih
      simp only [slotCalls_append, List.mem_append, List.mem_singleton]
      exact ⟨fun call member => member.imp_left (hidden call),
        fun call member => .inl (shown call member)⟩

theorem getLast?_shownCalls {Call : Type} (calls : List Call) :
    (shownCalls calls).getLast? = calls.getLast? := by
  induction calls using List.reverseRecOn with
  | nil => rfl
  | append_singleton calls last _ => simp [shownCalls, slotCalls_append]

/-! ## Doubles -/

theorem doubleBytes_injective {values others : List UInt64}
    (same : doubleBytes values = doubleBytes others) : values = others := by
  have lengths := congrArg List.length same
  simp only [length_doubleBytes] at lengths
  have sameLength : values.length = others.length := by omega
  have read := bytesDoubles_doubleBytes values
  rw [same, sameLength, bytesDoubles_doubleBytes] at read
  exact read.symm

theorem doubleBytes_zero (count : Nat) :
    doubleBytes (List.replicate count 0) = List.replicate (8 * count) 0 := by
  induction count with
  | zero => rfl
  | succ count ih =>
      rw [List.replicate_succ, show 8 * (count + 1) = 8 + 8 * count by omega,
        ← List.replicate_append_replicate, ← ih]
      rfl

/-! ## Writing states -/

/-- An array as a buffer shows it that got some calls: the last one, or zeros. -/
def shownArray (count : Nat) (given : JointStateValue → Option (List UInt64))
    (calls : List JointStateValue) : List UInt64 :=
  (lastGiven given calls).getD (List.replicate count 0)

/-- The calls that went to the slot of the last one show the arrays of all calls. -/
structure ArraysCurrent (count : Nat) (calls : List JointStateValue) : Prop where
  positions : shownArray count (·.positions) (shownCalls calls) =
    shownArray count (·.positions) calls
  velocities : shownArray count (·.velocities) (shownCalls calls) =
    shownArray count (·.velocities) calls
  efforts : shownArray count (·.efforts) (shownCalls calls) =
    shownArray count (·.efforts) calls

section Writing

variable {kconfig : Kconfig} {commandCodec : CommandCodec} (template : StateTemplate)
  (initial : Block UInt8 kconfig.maxStateBufferSize)

def HoldsCalls {size : Nat} (initial : Block UInt8 size) (calls : List JointStateValue)
    (block : Block UInt8 size) : Prop :=
  patchAll (StateField.region template.layout) StateField.order
    (calls.map JointStateValue.given) initial = some block

/-- Each slot of an initialized client got its share of the calls. -/
structure SlotsHold (calls : List JointStateValue)
    (client : ZenbeddedClient kconfig JointStateCodec commandCodec) : Prop where
  up : client.initialized = true
  ctx : client.stateCtx = template.layout
  payloadSize : client.statePayloadSize = template.layout.payloadSize
  shown : HoldsCalls template initial (slotCalls calls).1 client.stateBuffer.latest
  hidden : HoldsCalls template initial (slotCalls calls).2
    (client.stateBuffer.buffer client.stateBuffer.prepareWrite)

variable {template initial} (few : template.jointNames.names.length < 2 ^ 29)
  (fits : template.layout.payloadSize ≤ kconfig.maxStateBufferSize)
  {calls : List JointStateValue}
  {client : ZenbeddedClient kconfig JointStateCodec commandCodec}

include few fits in
/-- One more call goes to the slot that is not shown, and shows it. -/
theorem SlotsHold.writeState (holds : SlotsHold template initial calls client)
    {value : JointStateValue} (complete : value.Complete template.jointNames) :
    ∃ after, client.writeState value = some after ∧
      SlotsHold template initial (calls ++ [value]) after ∧ after.pub = client.pub := by
  have separate := template.separate
  have separateAll : Separate (StateField.region template.layout) kconfig.maxStateBufferSize :=
    ⟨separate.apart, fun field => (separate.inside field).trans fits⟩
  obtain ⟨written, patchEq, -⟩ := patch_spec separateAll
    (JointStateValue.fitsRegions few complete) StateField.order_nodup
    (client.stateBuffer.buffer client.stateBuffer.prepareWrite)
  have writeEq : JointStateCodec.write client.stateCtx value
      (client.stateBuffer.buffer client.stateBuffer.prepareWrite) = some written := by
    rw [holds.ctx]
    exact (JointStateValue.serialize_eq few complete _).trans patchEq
  refine ⟨_, ZenbeddedClient.writeState_of_write holds.up writeEq,
    ⟨holds.up, holds.ctx, holds.payloadSize, ?_, ?_⟩, rfl⟩
  · rw [DoubleByteBuffer.latest_commitWrite_setSlot, slotCalls_append]
    have hidden := holds.hidden
    rw [HoldsCalls, patchAll] at hidden ⊢
    rw [List.map_append, List.foldlM_append, hidden]
    simpa using patchEq
  · rw [DoubleByteBuffer.buffer_prepareWrite_commitWrite_setSlot, slotCalls_append]
    exact holds.shown

include few fits in
theorem SlotsHold.writeStates (holds : SlotsHold template initial [] client)
    (complete : ∀ call ∈ calls, call.Complete template.jointNames) :
    ∃ after, calls.foldlM (fun client call => client.writeState call) client = some after ∧
      SlotsHold template initial calls after ∧ after.pub = client.pub := by
  induction calls using List.reverseRecOn with
  | nil => exact ⟨client, rfl, holds, rfl⟩
  | append_singleton calls last ih =>
      obtain ⟨before, beforeEq, holdsBefore, pubBefore⟩ :=
        ih fun call member => complete call (List.mem_append_left _ member)
      obtain ⟨after, afterEq, holdsAfter, pubAfter⟩ :=
        holdsBefore.writeState few fits (complete last (by simp))
      refine ⟨after, ?_, holdsAfter, pubAfter.trans pubBefore⟩
      rw [List.foldlM_append, beforeEq]
      simpa using afterEq

end Writing

/-! ## What the slots show -/

section Showing

variable {size : Nat} {template : StateTemplate} {rest : List UInt8}
  {initial : Block UInt8 size} (few : template.jointNames.names.length < 2 ^ 29)
  (shows : template.Shows template.zeroHoles rest initial)

include shows

theorem contents_initial {field : StateField}
    (isArray : field ≠ .stampSec ∧ field ≠ .stampNanosec) :
    (field.region template.layout).contents initial =
      List.replicate template.arrayBytes 0 := by
  have numBytes : (template.layout.numJoints * 8).toNat = template.arrayBytes :=
    template.jointNames.arrayBytes_eq
  have fit := shows.1
  cases field with
  | stampSec => exact absurd rfl isArray.1
  | stampNanosec => exact absurd rfl isArray.2
  | positions =>
      exact Region.contents_of_segment shows.around_positions
        (StateTemplate.length_beforePositions fit).symm (numBytes.trans fit.positions.symm)
  | velocities =>
      exact Region.contents_of_segment shows.around_velocities
        (StateTemplate.length_beforeVelocities fit).symm (numBytes.trans fit.velocities.symm)
  | efforts =>
      exact Region.contents_of_segment shows.around_efforts
        (StateTemplate.length_beforeEfforts fit).symm (numBytes.trans fit.efforts.symm)

include few

theorem array_contents {field : StateField}
    (isArray : field ≠ .stampSec ∧ field ≠ .stampNanosec)
    {given : JointStateValue → Option (List UInt64)}
    (gives : ∀ call : JointStateValue, call.given field = (given call).map doubleBytes)
    (calls : List JointStateValue) :
    (lastGiven (fun call => call.given field) calls).getD
        ((field.region template.layout).contents initial) =
      doubleBytes (shownArray template.jointNames.names.length given calls) := by
  simp only [gives]
  rw [lastGiven_optionMap, contents_initial shows isArray, shownArray]
  cases lastGiven given calls with
  | none =>
      rw [Option.getD_none, doubleBytes_zero, ← JointNames.arrayBytes_of_lt few]
      rfl
  | some values => rfl

/-- Two sequences of calls leave the same payload if they give the same last stamp and the
same arrays. -/
theorem take_payload_eq_iff (fits : template.layout.payloadSize ≤ size)
    {calls : List JointStateValue}
    (complete : ∀ call ∈ calls, call.Complete template.jointNames) {shown single : Block UInt8 size}
    (shownHolds : HoldsCalls template initial (shownCalls calls) shown)
    (singleHolds : HoldsCalls template initial calls single) :
    shown.bytes.take template.layout.payloadSize =
        single.bytes.take template.layout.payloadSize ↔
      ArraysCurrent template.jointNames.names.length calls := by
  have separate := template.separate
  have separateAll : Separate (StateField.region template.layout) size :=
    ⟨separate.apart, fun field => (separate.inside field).trans fits⟩
  have spec {calls : List JointStateValue} {block : Block UInt8 size}
      (complete : ∀ call ∈ calls, call.Complete template.jointNames)
      (holds : HoldsCalls template initial calls block) :
      (∀ field, (field.region template.layout).contents block =
          (lastGiven (fun call => call.given field) calls).getD
            ((field.region template.layout).contents initial)) ∧
        AgreeOutside (StateField.region template.layout) initial block := by
    have fitsAll : ∀ call ∈ calls.map JointStateValue.given,
        FitsRegions (StateField.region template.layout) call := by
      intro call member
      obtain ⟨value, valueMember, rfl⟩ := List.mem_map.mp member
      exact JointStateValue.fitsRegions few (complete value valueMember)
    obtain ⟨patched, patchEq, contents, agree⟩ := patchAll_spec separateAll
      StateField.order_nodup StateField.order_complete _ fitsAll initial
    cases holds.symm.trans patchEq
    exact ⟨fun field => by rw [contents field, lastGiven_map], agree⟩
  obtain ⟨shownContents, shownAgree⟩ := spec
    (fun call member => complete call ((mem_slotCalls calls).1 call member)) shownHolds
  obtain ⟨singleContents, singleAgree⟩ := spec complete singleHolds
  have isArray : ∀ field : StateField, field = .positions ∨ field = .velocities ∨
      field = .efforts → field ≠ .stampSec ∧ field ≠ .stampNanosec := by
    rintro field (rfl | rfl | rfl) <;> decide
  have sameArray {field : StateField}
      (oneOf : field = .positions ∨ field = .velocities ∨ field = .efforts)
      {given : JointStateValue → Option (List UInt64)}
      (gives : ∀ call : JointStateValue, call.given field = (given call).map doubleBytes) :
      (field.region template.layout).contents shown =
          (field.region template.layout).contents single ↔
        shownArray template.jointNames.names.length given (shownCalls calls) =
          shownArray template.jointNames.names.length given calls := by
    rw [shownContents field, singleContents field,
      array_contents few shows (isArray field oneOf) gives,
      array_contents few shows (isArray field oneOf) gives]
    exact ⟨doubleBytes_injective, congrArg doubleBytes⟩
  constructor
  · intro same
    have sameFront : shown.front _ fits = single.front _ fits := Block.ext same
    have sameContents (field : StateField) : (field.region template.layout).contents shown =
        (field.region template.layout).contents single := by
      rw [← Block.contents_front shown fits (separate.inside field), sameFront,
        Block.contents_front single fits (separate.inside field)]
    exact ⟨(sameArray (.inl rfl) fun _ => rfl).mp (sameContents .positions),
      (sameArray (.inr (.inl rfl)) fun _ => rfl).mp (sameContents .velocities),
      (sameArray (.inr (.inr rfl)) fun _ => rfl).mp (sameContents .efforts)⟩
  · intro current
    have sameLast : (slotCalls calls).1.getLast? = calls.getLast? :=
      getLast?_shownCalls calls
    have equal : shown = single := by
      refine (singleAgree.symm.trans shownAgree).eq_of_contents fun field => ?_
      cases field with
      | stampSec =>
          rw [shownContents, singleContents]
          simp only [JointStateValue.given, lastGiven_some, sameLast]
      | stampNanosec =>
          rw [shownContents, singleContents]
          simp only [JointStateValue.given, lastGiven_some, sameLast]
      | positions => exact (sameArray (.inl rfl) fun _ => rfl).mpr current.positions
      | velocities => exact (sameArray (.inr (.inl rfl)) fun _ => rfl).mpr current.velocities
      | efforts => exact (sameArray (.inr (.inr rfl)) fun _ => rfl).mpr current.efforts
    rw [equal]

end Showing

/-! ## Publishing states -/

section Publishing

variable {kconfig : Kconfig} {UserData : Type}

/-- What a client sends is the front of the slot that is shown. -/
theorem ZenbeddedClientBase.zenohPublishState_sends {client : ZenbeddedClientBase kconfig}
    (up : client.initialized = true)
    (fits : client.statePayloadSize ≤ kconfig.maxStateBufferSize)
    {transport : ZenohTransport kconfig RecvCb UserData} {slot : Fin kconfig.maxPublishers}
    (ownsPub : client.pub = some slot) (used : (transport.pubPool slot).inUse = true)
    (tmp : Block UInt8 kconfig.maxStateBufferSize) (fuel : Nat) (timestampNs : Int64)
    (ok : Bool) :
    ∃ status after entity attachment,
      client.zenohPublishState transport tmp (fuel + 1) timestampNs ok = some (status, after) ∧
      after.log = transport.log ++
        [.put entity (client.stateBuffer.latest.bytes.take client.statePayloadSize) attachment
          ok] := by
  obtain ⟨read, readEq, contents⟩ := client.stateBuffer.readLatest_spec tmp fits fits
  obtain ⟨status, after, entity, attachment, published, logged⟩ :=
    ZenohTransport.publish_puts used read fits timestampNs ok
  refine ⟨status, after, entity, attachment, ?_, contents ▸ logged⟩
  rw [zenohPublishState, if_neg (by simp [up]), readLatestState, readEq, ownsPub]
  exact published

end Publishing

/-- A client sends the bytes that one buffer would hold after the same calls if and only if
the calls that went to the slot of the last one show the same arrays as all calls. -/
theorem published_state_is_single_buffer_iff {kconfig : Kconfig} {UserData : Type}
    {commandCodec : CommandCodec} {self : UserData}
    {created client : ZenbeddedClient kconfig JointStateCodec commandCodec}
    {transport afterTransport : ZenohTransport kconfig RecvCb UserData} {controlFreq : UInt32}
    {stateParams : JointStateParams} {cmdParams : commandCodec.InitParams}
    {cmdLayoutScratch : Block UInt8 kconfig.maxCmdBufferSize} {outcome : ClientOutcome}
    {status : Int} (admitted : kconfig.Admitted) (fresh : created.initialized = false)
    (initEq : created.init self transport controlFreq stateParams cmdParams cmdLayoutScratch
      outcome = some (status, client, afterTransport))
    (up : client.initialized = true) {calls : List JointStateValue}
    (complete : ∀ call ∈ calls, call.Complete stateParams.jointNames) :
    ∃ after ctx initialized single sent,
      calls.foldlM (fun client call => client.writeState call) client = some after ∧
      zcdrInitJointState stateParams.frameId stateParams.jointNames
        (Block.filled kconfig.maxStateBufferSize 0) = some (ctx, initialized) ∧
      calls.foldlM (fun buffer call => call.serialize ctx buffer) initialized = some single ∧
      (∀ (transport : ZenohTransport kconfig RecvCb UserData) slot tmp fuel timestampNs ok,
        after.pub = some slot → (transport.pubPool slot).inUse = true →
        ∃ status afterTransport entity attachment,
          after.zenohPublishState transport tmp (fuel + 1) timestampNs ok =
            some (status, afterTransport) ∧
          afterTransport.log = transport.log ++ [.put entity sent attachment ok]) ∧
      (sent = single.bytes.take ctx.payloadSize ↔
        ArraysCurrent stateParams.jointNames.names.length calls) := by
  obtain ⟨firstCtx, first, second, _, firstEq, secondEq, -, payloadSize, -, fits, -, buffer, -⟩ :=
    created.init_up self transport controlFreq outcome fresh initEq up
  let template : StateTemplate := stateParams.template
  have laid := template.zcdrInitJointState_needs (Block.filled kconfig.maxStateBufferSize 0)
  obtain ⟨ctxEq, prefixed⟩ := laid.post_of_eq_some firstEq
  cases firstEq.symm.trans secondEq
  have ctxEq : client.stateCtx = template.layout := ctxEq
  have sizeEq : client.statePayloadSize = template.layout.payloadSize :=
    payloadSize.trans (congrArg JointStateCtx.payloadSize ctxEq)
  have fits : template.layout.payloadSize ≤ kconfig.maxStateBufferSize := sizeEq ▸ fits
  have shows : template.Shows template.zeroHoles _ first :=
    ⟨template.zeroHoles_fit, (prefixed rfl fits).2⟩
  have few : template.jointNames.names.length < 2 ^ 29 := by
    have small := admitted.maxStateBufferSize.2
    have sum : template.layout.payloadSize = _ := template.payloadSize_eq
    have joints := le_statePayload template.frameId template.jointNames
    omega
  have holds : SlotsHold template first [] client := by
    refine ⟨up, ctxEq, sizeEq, ?_, ?_⟩ <;> rw [buffer] <;> rfl
  obtain ⟨after, afterEq, holdsAfter, -⟩ := holds.writeStates few fits complete
  have separateAll : Separate (StateField.region template.layout) kconfig.maxStateBufferSize :=
    ⟨template.separate.apart, fun field => (template.separate.inside field).trans fits⟩
  obtain ⟨single, singleHolds, -⟩ := patchAll_spec separateAll StateField.order_nodup
    StateField.order_complete (calls.map JointStateValue.given) (by
      intro call member
      obtain ⟨value, valueMember, rfl⟩ := List.mem_map.mp member
      exact JointStateValue.fitsRegions few (complete value valueMember)) first
  refine ⟨after, template.layout, first, single,
    after.stateBuffer.latest.bytes.take after.statePayloadSize, afterEq, ?_, ?_, ?_, ?_⟩
  · exact ctxEq ▸ firstEq
  · exact (foldlM_eq_patchAll (fun call member block =>
      JointStateValue.serialize_eq few (complete call member) block) first).trans singleHolds
  · intro transport slot tmp fuel timestampNs ok ownsPub used
    exact ZenbeddedClientBase.zenohPublishState_sends holdsAfter.up
      (holdsAfter.payloadSize ▸ fits) ownsPub used tmp fuel timestampNs ok
  · rw [holdsAfter.payloadSize]
    exact take_payload_eq_iff few shows fits complete holdsAfter.shown singleHolds

def lastSent {publishers subscribers : Nat} (log : List (ZenohCall publishers subscribers)) :
    Option (List UInt8) :=
  match log.getLast? with
  | some (.put _ payload _ _) => some payload
  | _ => none

/-- A joint moves to 1, and then a stamp alone is written: the client sends position zero,
where one buffer would still show the 1. -/
theorem omitted_positions_are_stale :
    let hip : JointNames := ⟨[CString.ofString "hip"], by decide⟩
    let created : ZenbeddedClient (Kconfig.default .tier1) JointStateCodec (RawCodec.command 1) :=
      .construct
    let moved : JointStateValue := ⟨1, 0, some [0x3FF0000000000000], none, none⟩
    let stamped : JointStateValue := ⟨2, 0, none, none, none⟩
    let sent := do
      let (_, client, transport) ← created.init () .zero 1000
        (show JointStateParams from ⟨none, hip⟩) () (Block.filled _ 0)
        ⟨⟨true, true, true, true, []⟩, ⟨true, true, [], []⟩, ⟨true, true, [], []⟩⟩
      let client ← client.writeState moved
      let client ← client.writeState stamped
      let (_, transport) ← client.zenohPublishState transport (Block.filled _ 0) 1 0 true
      lastSent transport.log
    let single := do
      let (ctx, buffer) ← zcdrInitJointState none hip (Block.filled 256 0)
      let buffer ← moved.serialize ctx buffer
      let buffer ← stamped.serialize ctx buffer
      some (buffer.bytes.take ctx.payloadSize)
    sent.isSome ∧ single.isSome ∧ sent ≠ single := by
  decide +kernel

/-- A joint stays at 1 for two calls, and then a stamp alone is written. -/
theorem published_state_is_single_buffer_iff_still :
    let kconfig := Kconfig.default .tier1
    let hip : JointNames := ⟨[CString.ofString "hip"], by decide⟩
    let created : ZenbeddedClient kconfig JointStateCodec (RawCodec.command 1) := .construct
    let calls : List JointStateValue := [⟨1, 0, some [0x3FF0000000000000], none, none⟩,
      ⟨2, 0, some [0x3FF0000000000000], none, none⟩, ⟨3, 0, none, none, none⟩]
    ∃ status client afterTransport after ctx initialized single,
      created.init () .zero 1000 (show JointStateParams from ⟨none, hip⟩) () (Block.filled _ 0)
        ⟨⟨true, true, true, true, []⟩, ⟨true, true, [], []⟩, ⟨true, true, [], []⟩⟩ =
          some (status, client, afterTransport) ∧
      calls.foldlM (fun client call => client.writeState call) client = some after ∧
      zcdrInitJointState none hip (Block.filled kconfig.maxStateBufferSize 0) =
        some (ctx, initialized) ∧
      calls.foldlM (fun buffer call => call.serialize ctx buffer) initialized = some single ∧
      ∀ (transport : ZenohTransport kconfig RecvCb Unit) slot tmp timestampNs ok,
        after.pub = some slot → (transport.pubPool slot).inUse = true →
        ∃ status afterTransport entity attachment,
          after.zenohPublishState transport tmp 1 timestampNs ok =
            some (status, afterTransport) ∧
          afterTransport.log =
            transport.log ++ [.put entity (single.bytes.take ctx.payloadSize) attachment ok] := by
  intro kconfig hip created calls
  have runs : (created.init () .zero 1000 (show JointStateParams from ⟨none, hip⟩) ()
      (Block.filled _ 0)
      ⟨⟨true, true, true, true, []⟩, ⟨true, true, [], []⟩, ⟨true, true, [], []⟩⟩).map
        (fun result => result.2.1.initialized) = some true := by
    decide +kernel
  obtain ⟨⟨status, client, afterTransport⟩, initEq, up⟩ := Option.map_eq_some_iff.mp runs
  have complete : ∀ call ∈ calls, call.Complete hip := by
    have one : PerJoint hip (some [0x3FF0000000000000]) := by
      rintro values ⟨⟩
      rfl
    simp only [calls, List.forall_mem_cons]
    exact ⟨⟨one, nofun, nofun⟩, ⟨one, nofun, nofun⟩, ⟨nofun, nofun, nofun⟩, nofun⟩
  obtain ⟨after, ctx, initialized, single, sent, afterEq, laid, singleEq, sends, same⟩ :=
    published_state_is_single_buffer_iff (Kconfig.default_admitted .tier1) rfl initEq up complete
  -- The first and the last call went to one slot, the second one to the other.
  obtain rfl := same.mpr ⟨rfl, rfl, rfl⟩
  exact ⟨status, client, afterTransport, after, ctx, initialized, single, initEq, afterEq, laid,
    singleEq, fun transport slot tmp timestampNs ok => sends transport slot tmp 0 timestampNs ok⟩

end Zenbedded
