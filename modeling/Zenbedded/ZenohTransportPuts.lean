import Zenbedded.RetryLoops

/-!
# What the transport puts

The samples among the calls into zenoh.  Only a publish adds one; opening, declaring,
undeclaring and closing leave them as they are.
-/

namespace Zenbedded

open ByteBlock

/-- A sample that was handed to zenoh. -/
structure ZenohPut where
  entity : Option Nat
  payload : List UInt8
  attachment : Option RmwZenohAttachment
  ok : Bool
  deriving DecidableEq

/-- The sample of a call that puts one. -/
def ZenohCall.put? {publishers subscribers : Nat} :
    ZenohCall publishers subscribers → Option ZenohPut
  | .put entity payload attachment ok => some { entity, payload, attachment, ok }
  | _ => none

namespace ZenohTransport

variable {kconfig : Kconfig} {Callback UserData : Type}

def puts (transport : ZenohTransport kconfig Callback UserData) : List ZenohPut :=
  transport.log.filterMap ZenohCall.put?

section Frame

variable (transport : ZenohTransport kconfig Callback UserData)

theorem puts_call (zenohCall : ZenohCall kconfig.maxPublishers kconfig.maxSubscribers) :
    (transport.call zenohCall).puts = transport.puts ++ zenohCall.put?.toList := by
  cases called : zenohCall.put? <;> simp [puts, called]

theorem puts_call_of_none {zenohCall : ZenohCall kconfig.maxPublishers kconfig.maxSubscribers}
    (silent : zenohCall.put? = none) : (transport.call zenohCall).puts = transport.puts := by
  simp [puts_call, silent]

@[simp]
theorem puts_setPub (slot : Fin kconfig.maxPublishers) (pub : ZenbeddedPub) :
    (transport.setPub slot pub).puts = transport.puts := rfl

@[simp]
theorem puts_setSub (slot : Fin kconfig.maxSubscribers) (sub : ZenbeddedSub Callback UserData) :
    (transport.setSub slot sub).puts = transport.puts := rfl

@[simp]
theorem puts_undeclareLvToken (token : Option Nat) :
    (transport.undeclareLvToken token).puts = transport.puts := by
  cases tier : kconfig.tier <;> simp [undeclareLvToken, tier, puts_call, ZenohCall.put?]

theorem puts_init (domainId : UInt32) (nodeName mode : CString) (locator : Option CString)
    (outcome : InitOutcome) :
    (transport.init domainId nodeName mode locator outcome).2.puts = transport.puts := by
  unfold init
  split
  case isTrue => rfl
  case isFalse =>
    dsimp only
    split
    case isTrue => exact puts_call_of_none _ rfl
    case isFalse =>
      cases tier : kconfig.tier <;> simp [puts, ZenohCall.put?]

theorem puts_declarePublisher (topicName : CString) (typeName : Option CString)
    (outcome : DeclareOutcome) :
    (transport.declarePublisher topicName typeName outcome).2.puts = transport.puts := by
  unfold declarePublisher
  split
  case isTrue => rfl
  case isFalse =>
    cases firstFree fun slot => (transport.pubPool slot).inUse with
    | none => rfl
    | some slot =>
        simp only [declarePublisherAt]
        cases transport.topicKeyexpr topicName typeName with
        | none => rfl
        | some keyexpr =>
            dsimp only
            split
            case isTrue => exact puts_call_of_none _ rfl
            case isFalse => cases tier : kconfig.tier <;> simp [puts_call, ZenohCall.put?]

theorem puts_declareSubscriber (topicName : CString) (typeName : Option CString)
    (callback : Option Callback) (userData : Option UserData) (outcome : DeclareOutcome) :
    (transport.declareSubscriber topicName typeName callback userData outcome).2.puts =
      transport.puts := by
  unfold declareSubscriber
  split
  case isTrue => rfl
  case isFalse =>
    cases firstFree fun slot => (transport.subPool slot).inUse with
    | none => rfl
    | some slot =>
        simp only [declareSubscriberAt]
        cases transport.topicKeyexpr topicName typeName with
        | none => rfl
        | some keyexpr =>
            dsimp only
            split
            case isTrue => exact puts_call_of_none _ rfl
            case isFalse => cases tier : kconfig.tier <;> simp [puts_call, ZenohCall.put?]

theorem puts_undeclarePublisher (pub : Option (Fin kconfig.maxPublishers)) :
    (transport.undeclarePublisher pub).2.puts = transport.puts := by
  cases pub with
  | none => rfl
  | some slot =>
      simp only [undeclarePublisher]
      split
      case isTrue => rfl
      case isFalse => simp [puts_call, ZenohCall.put?]

theorem puts_undeclareSubscriber (sub : Option (Fin kconfig.maxSubscribers)) :
    (transport.undeclareSubscriber sub).2.puts = transport.puts := by
  cases sub with
  | none => rfl
  | some slot =>
      simp only [undeclareSubscriber]
      split
      case isTrue => rfl
      case isFalse => simp [puts_call, ZenohCall.put?]

theorem puts_releasePubs (slots : List (Fin kconfig.maxPublishers)) :
    (slots.foldl releasePub transport).puts = transport.puts := by
  induction slots generalizing transport with
  | nil => rfl
  | cons slot slots ih =>
      rw [List.foldl_cons, ih, releasePub]
      split
      case isTrue => exact transport.puts_undeclarePublisher (some slot)
      case isFalse => rfl

theorem puts_releaseSubs (slots : List (Fin kconfig.maxSubscribers)) :
    (slots.foldl releaseSub transport).puts = transport.puts := by
  induction slots generalizing transport with
  | nil => rfl
  | cons slot slots ih =>
      rw [List.foldl_cons, ih, releaseSub]
      split
      case isTrue => exact transport.puts_undeclareSubscriber (some slot)
      case isFalse => rfl

theorem puts_closeSession : transport.closeSession.puts = transport.puts := by
  rw [puts, log_closeSession, List.filterMap_append]
  exact (List.append_nil _).trans (transport.puts_undeclareLvToken transport.nodeLvToken)

theorem puts_destroy : transport.destroy.puts = transport.puts := by
  unfold destroy
  split
  case isTrue => rfl
  case isFalse =>
    dsimp only
    split
    case isTrue => rfl
    case isFalse =>
      rw [puts_closeSession, puts_releaseSubs, puts_releasePubs]
      rfl

end Frame

/-- A publish puts the front of its payload, or nothing. -/
theorem puts_publish {transport after : ZenohTransport kconfig Callback UserData}
    {pub : Option (Fin kconfig.maxPublishers)} {size payloadSize : Nat}
    {payload : Block UInt8 size} {timestampNs : Int64} {ok : Bool} {status : Int}
    (published : transport.publish pub payload payloadSize timestampNs ok =
      some (status, after)) :
    after.puts = transport.puts ∨ ∃ entity attachment,
      after.puts = transport.puts ++
        [⟨entity, payload.bytes.take payloadSize, attachment, ok⟩] := by
  unfold publish at published
  cases pub with
  | none =>
      cases published
      exact .inl rfl
  | some slot =>
      dsimp only at published
      split at published
      case isTrue =>
        cases published
        exact .inl rfl
      case isFalse =>
        obtain ⟨bytes, loaded, sent⟩ := Option.bind_eq_some_iff.mp published
        have front : bytes = payload.bytes.take payloadSize :=
          (Block.load_eq_some_iff.mp loaded).2
        subst front
        right
        cases tier : kconfig.tier <;> rw [tier] at sent <;> cases sent <;>
          exact ⟨_, _, by rw [puts_call]; rfl⟩

end ZenohTransport

/-! ## Clients -/

namespace ZenbeddedClientBase

variable {kconfig : Kconfig} {UserData : Type}

theorem puts_initBase (self : UserData) {client : ZenbeddedClientBase kconfig}
    (transport : ZenohTransport kconfig RecvCb UserData) (controlFreq : UInt32)
    (statePayloadSize cmdPayloadSize : Nat) (outcome : ClientOutcome)
    (fresh : client.initialized = false) :
    (client.initBase self transport controlFreq statePayloadSize cmdPayloadSize
      outcome).2.2.puts = transport.puts := by
  have opened : (transportOpened transport outcome).2.puts = transport.puts :=
    transport.puts_init ..
  have published : (publisherDeclared transport outcome).2.puts = transport.puts :=
    (ZenohTransport.puts_declarePublisher _ _ _ _).trans opened
  have subscribed : (subscriberDeclared self transport outcome).2.puts = transport.puts :=
    (ZenohTransport.puts_declareSubscriber _ _ _ _ _ _).trans published
  cases initBase_cases self transport controlFreq statePayloadSize cmdPayloadSize outcome
    fresh with
  | tooLarge _ _ _ untouched => rw [untouched]
  | notOpened _ _ _ _ _ kept => rw [kept, opened]
  | noPublisher _ _ _ _ _ _ destroyed => rw [destroyed, ZenohTransport.puts_destroy, published]
  | noSubscriber _ _ _ _ _ _ _ _ destroyed =>
      rw [destroyed, ZenohTransport.puts_destroy, subscribed]
  | up _ _ _ _ _ _ _ _ _ _ _ _ _ kept => rw [kept, subscribed]

/-- A client puts the front of the slot that is shown, or nothing. -/
theorem puts_zenohPublishState {client : ZenbeddedClientBase kconfig}
    {transport after : ZenohTransport kconfig RecvCb UserData}
    {tmp : Block UInt8 kconfig.maxStateBufferSize} {fuel : Nat} {timestampNs : Int64}
    {ok : Bool} {status : Int}
    (published : client.zenohPublishState transport tmp fuel timestampNs ok =
      some (status, after)) :
    after.puts = transport.puts ∨ client.initialized = true ∧ ∃ entity attachment,
      after.puts = transport.puts ++
        [⟨entity, client.stateBuffer.latest.bytes.take client.statePayloadSize, attachment,
          ok⟩] := by
  rw [zenohPublishState] at published
  split at published
  case isTrue =>
    cases published
    exact .inl rfl
  case isFalse up =>
    obtain ⟨read, readEq, published⟩ := Option.bind_eq_some_iff.mp published
    have contents : read.bytes.take client.statePayloadSize =
        client.stateBuffer.latest.bytes.take client.statePayloadSize := by
      rw [readLatestState_eq] at readEq
      rcases Nat.lt_or_ge kconfig.maxStateBufferSize client.statePayloadSize with large | fits
      · rw [client.stateBuffer.readUntilDone_of_large large] at readEq
        cases readEq
      · cases fuel with
        | zero => cases readEq
        | succ fuel =>
            obtain ⟨once, onceEq, untilEq⟩ :=
              client.stateBuffer.readUntilDone_of_fits fits fits tmp
            obtain ⟨other, otherEq, contents⟩ := client.stateBuffer.readLatest_spec tmp fits fits
            cases onceEq.symm.trans otherEq
            cases (untilEq fuel).symm.trans readEq
            exact contents
    rcases ZenohTransport.puts_publish published with silent | put
    · exact .inl silent
    · rw [contents] at put
      exact .inr ⟨by simpa using up, put⟩

theorem puts_destroy (client : ZenbeddedClientBase kconfig)
    (transport : ZenohTransport kconfig RecvCb UserData) :
    (client.destroy transport).2.puts = transport.puts := by
  unfold destroy
  split
  case isTrue => rfl
  case isFalse => exact transport.puts_destroy

end ZenbeddedClientBase

theorem ZenbeddedClient.puts_init {kconfig : Kconfig} {UserData : Type}
    {stateCodec : StateCodec} {commandCodec : CommandCodec} {self : UserData}
    {client started : ZenbeddedClient kconfig stateCodec commandCodec}
    {transport after : ZenohTransport kconfig RecvCb UserData} {controlFreq : UInt32}
    {stateParams : stateCodec.InitParams} {cmdParams : commandCodec.InitParams}
    {cmdLayoutScratch : Block UInt8 kconfig.maxCmdBufferSize} {outcome : ClientOutcome}
    {status : Int}
    (ended : client.init self transport controlFreq stateParams cmdParams cmdLayoutScratch
      outcome = some (status, started, after)) :
    after.puts = transport.puts := by
  cases up : client.initialized with
  | true =>
      rw [init, if_pos up] at ended
      cases ended
      rfl
  | false =>
      obtain ⟨_, first, stateCtx, second, cmdCtx, _, _, _, _, resultEq⟩ :=
        exists_of_init self transport controlFreq outcome up ended
      cases resultEq
      exact ZenbeddedClientBase.puts_initBase self transport controlFreq _ _ outcome up

/-- Clients only add to what was put. -/
theorem ClientWorld.puts_of_step {kconfig : Kconfig} {Id : Type} [DecidableEq Id]
    {stateCodec : Id → StateCodec} {commandCodec : Id → CommandCodec}
    {before after : ClientWorld kconfig stateCodec commandCodec}
    {action : ClientWorldAction kconfig stateCodec commandCodec}
    (steps : before.Step action after) : before.transport.puts <+: after.transport.puts := by
  cases action with
  | init id controlFreq stateParams cmdParams cmdLayoutScratch outcome status =>
      obtain ⟨client, transport, initEq, rfl⟩ := steps
      exact (ZenbeddedClient.puts_init initEq).symm ▸ List.prefix_refl _
  | destroy id =>
      obtain rfl := steps
      exact (ZenbeddedClientBase.puts_destroy _ _).symm ▸ List.prefix_refl _
  | call id call =>
      obtain ⟨client, -, rfl⟩ := steps
      exact List.prefix_refl _
  | publishState id tmp fuel timestampNs ok status =>
      obtain ⟨transport, published, rfl⟩ := steps
      rcases ZenbeddedClientBase.puts_zenohPublishState published with silent | ⟨-, _, _, put⟩
      · exact silent.symm ▸ List.prefix_refl _
      · exact put.symm ▸ List.prefix_append _ _
  | sample slot payload =>
      obtain ⟨-, delivered⟩ := steps
      split at delivered
      case h_1 => exact delivered ▸ List.prefix_refl _
      case h_2 => exact delivered.elim
      case h_3 =>
        obtain ⟨client, -, rfl⟩ := delivered
        exact List.prefix_refl _

end Zenbedded
