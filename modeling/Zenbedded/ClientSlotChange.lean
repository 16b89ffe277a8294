import Zenbedded.ClientWorld

/-!
# What a step does to the slots

A call or sample either leaves the slots alone, or takes two of them for a client, or
releases all of them, or leaves slots in use that no initialized client owns.
-/

namespace Zenbedded

open ByteBlock

namespace ClientWorld

variable {kconfig : Kconfig} {Id : Type} [DecidableEq Id] {stateCodec : Id → StateCodec}
  {commandCodec : Id → CommandCodec}

variable {before : ClientWorld kconfig stateCodec commandCodec} {id : Id}
  {client : ZenbeddedClient kconfig (stateCodec id) (commandCodec id)}

theorem sameClient_of_ne (transport : ZenohTransport kconfig RecvCb Id) {other : Id}
    (different : other ≠ id) :
    SameClient before { before.setClient id client with transport } other := by
  constructor <;> simp [live, pubOf, subOf, different]

theorem sameClients_of_down (transport : ZenohTransport kconfig RecvCb Id)
    (wasDown : before.live id = false) (isDown : client.initialized = false) (other : Id) :
    SameClient before { before.setClient id client with transport } other := by
  rcases eq_or_ne other id with rfl | different
  · exact ⟨by simp [live, isDown, show (before.client other).initialized = false from wasDown],
      by simp [wasDown], by simp [wasDown]⟩
  · exact sameClient_of_ne transport different

theorem sameClients_of_same (transport : ZenohTransport kconfig RecvCb Id)
    (liveSame : client.initialized = (before.client id).initialized)
    (pubSame : client.pub = (before.client id).pub)
    (subSame : client.sub = (before.client id).sub) (other : Id) :
    SameClient before { before.setClient id client with transport } other := by
  rcases eq_or_ne other id with rfl | different
  · constructor <;> simp [live, pubOf, subOf, liveSame, pubSame, subSame]
  · exact sameClient_of_ne transport different

variable [Fintype Id]

omit [DecidableEq Id] in
/-- There are no more initialized clients than publishers, so that the count never wraps. -/
theorem Linked.count_lt (linked : before.Linked) (admitted : kconfig.Admitted) :
    before.transport.transportRefCount.toNat < 2 ^ 16 := by
  have few : before.liveClients.card ≤
      (Finset.univ : Finset (Option (Fin kconfig.maxPublishers))).card := by
    refine Finset.card_le_card_of_injOn before.pubOf (fun _ _ => Finset.mem_univ _) ?_
    intro first firstLive second secondLive same
    simp only [liveClients, Finset.coe_filter, Finset.mem_univ, true_and,
      Set.mem_ofPred_eq] at firstLive secondLive
    exact linked.pubOwner first second firstLive secondLive same
  have slots := admitted.maxPublishers
  rw [Finset.card_univ, Fintype.card_option, Fintype.card_fin] at few
  rw [linked.counts]
  omega

omit [DecidableEq Id] in
theorem Linked.live_iff_counted (linked : before.Linked) :
    (∃ id, before.live id = true) ↔ 0 < before.transport.transportRefCount.toNat := by
  rw [linked.counts, Finset.card_pos]
  constructor
  · rintro ⟨id, isLive⟩
    exact ⟨id, by simp [liveClients, isLive]⟩
  · rintro ⟨id, member⟩
    exact ⟨id, by simpa [liveClients] using member⟩

omit [DecidableEq Id] in
theorem Linked.counts_of_closed (linked : before.Linked)
    (closed : before.transport.isInitialized = false) :
    before.transport.transportRefCount = 0 := by
  have none : ¬∃ id, before.live id = true := fun some_ => by
    cases closed.symm.trans (linked.opened.mpr some_)
  rw [linked.live_iff_counted] at none
  exact UInt32.toNat_inj.mp (by simpa using none)

omit [DecidableEq Id] in
/-- The transport in the middle of `init_base`: opened once more, slots as before. -/
theorem Linked.opening (linked : before.Linked) (admitted : kconfig.Admitted)
    (outcome : ClientOutcome)
    (opens : (ZenbeddedClientBase.transportOpened before.transport outcome).1 = 0) :
    let opened := (ZenbeddedClientBase.transportOpened before.transport outcome).2
    opened.isInitialized = true ∧
      opened.transportRefCount.toNat = before.transport.transportRefCount.toNat + 1 ∧
      opened.transportRefCount = (if before.transport.isInitialized then
        before.transport.transportRefCount + 1 else 1) ∧
      opened.pubPool = before.transport.pubPool ∧ opened.subPool = before.transport.subPool := by
  have few := linked.count_lt admitted
  obtain ⟨pubs, subs, outcomes⟩ := before.transport.init_cases kconfig.domainId
    kconfig.nodeName kconfig.zenohMode (some kconfig.zenohIpPort) outcome.init
  rcases outcomes with ⟨-, -, opened, counts⟩ | ⟨fails, -⟩
  · refine ⟨opened, ?_, counts, pubs, subs⟩
    cases wasOpen : before.transport.isInitialized with
    | true =>
        rw [wasOpen, if_pos rfl] at counts
        rw [ZenbeddedClientBase.transportOpened, counts, UInt32.toNat_add]
        exact Nat.mod_eq_of_lt (by simp; omega)
    | false =>
        rw [wasOpen, if_neg (by simp)] at counts
        rw [ZenbeddedClientBase.transportOpened, counts, linked.counts_of_closed wasOpen]
        rfl
  · exact absurd opens fails

omit [DecidableEq Id] in
/-- Taking back the count that `init_base` took leaves the count; what is in use then
depends on whether the transport was open before. -/
theorem Linked.destroy_opened (linked : before.Linked)
    {transport : ZenohTransport kconfig RecvCb Id} (opened : transport.isInitialized = true)
    (counts : transport.transportRefCount.toNat =
      before.transport.transportRefCount.toNat + 1) :
    transport.destroy.isInitialized = before.transport.isInitialized ∧
      transport.destroy.transportRefCount = before.transport.transportRefCount ∧
      (before.transport.isInitialized = false ∧
          (∀ slot, (transport.destroy.pubPool slot).inUse = false) ∧
          (∀ slot, (transport.destroy.subPool slot).inUse = false) ∨
        before.transport.isInitialized = true ∧
          transport.destroy.pubPool = transport.pubPool ∧
          transport.destroy.subPool = transport.subPool) := by
  rcases ZenohTransport.destroy_cases opened (by omega) with
    ⟨one, closes, zero, pubs, subs⟩ | ⟨more, staysOpen, back, pubs, subs⟩
  · have none : ¬∃ id, before.live id = true := by
      rw [linked.live_iff_counted]
      omega
    have closed : before.transport.isInitialized = false := by
      rw [← linked.opened] at none
      simpa using none
    exact ⟨closes.trans closed.symm, zero.trans (linked.counts_of_closed closed).symm,
      .inl ⟨closed, pubs, subs⟩⟩
  · have wasOpen : before.transport.isInitialized = true :=
      linked.opened.mpr (linked.live_iff_counted.mpr (by omega))
    exact ⟨staysOpen.trans wasOpen.symm, UInt32.toNat_inj.mp (by omega),
      .inr ⟨wasOpen, pubs, subs⟩⟩

/-- The message types of both tiers are known to the transport. -/
theorem typeKnown_stateType :
    ZenohTransport.TypeKnown kconfig (ZenbeddedClientBase.stateType kconfig) := by
  intro tier
  rw [ZenbeddedClientBase.stateType, tier]
  decide

theorem typeKnown_cmdType :
    ZenohTransport.TypeKnown kconfig (ZenbeddedClientBase.cmdType kconfig) := by
  intro tier
  rw [ZenbeddedClientBase.cmdType, tier]
  decide

section Init

variable {outcome : ClientOutcome}

open ZenbeddedClientBase

omit [DecidableEq Id] in
theorem Linked.published (linked : before.Linked) (admitted : kconfig.Admitted)
    (opens : (transportOpened before.transport outcome).1 = 0) :
    let result := publisherDeclared before.transport outcome
    result.2.isInitialized = true ∧
      result.2.transportRefCount.toNat = before.transport.transportRefCount.toNat + 1 ∧
      result.2.transportRefCount = (if before.transport.isInitialized then
        before.transport.transportRefCount + 1 else 1) ∧
      result.2.subPool = before.transport.subPool ∧
      (result.1.isSome ↔ (∃ slot, before.pubUsed slot = false) ∧ outcome.pub.declared = true) ∧
      (result.1 = none → ∀ slot, (result.2.pubPool slot).inUse = before.pubUsed slot) ∧
      ∀ slot, result.1 = some slot → before.pubUsed slot = false ∧
        ∀ other, (result.2.pubPool other).inUse =
          (before.pubUsed other || decide (other = slot)) := by
  intro result
  obtain ⟨opened, counts, countsWord, pubs, subs⟩ := linked.opening admitted outcome opens
  obtain ⟨openedSame, countSame, subsSame, outcomes⟩ :
      let result := publisherDeclared before.transport outcome; _ :=
    (transportOpened before.transport outcome).2.declarePublisher_cases kconfig.rclPubTopic
      (stateType kconfig) outcome.pub
  have declares : result.1.isSome ↔ _ :=
    (transportOpened before.transport outcome).2.isSome_declarePublisher_iff
      kconfig.rclPubTopic (stateType kconfig) outcome.pub
  rw [pubs] at declares outcomes
  refine ⟨openedSame.trans opened, by rw [← counts, ← countSame]; rfl,
    countSame.trans countsWord, subsSame.trans subs, ?_, ?_, ?_⟩
  · rw [declares]
    exact ⟨fun ⟨_, free, _, declared⟩ => ⟨free, declared⟩,
      fun ⟨free, declared⟩ => ⟨opened, free, typeKnown_stateType, declared⟩⟩
  · intro answersNone
    rcases outcomes with ⟨-, same⟩ | ⟨slot, _, answers, -⟩
    · exact same
    · cases answersNone.symm.trans answers
  · intro slot answersSlot
    rcases outcomes with ⟨answers, -⟩ | ⟨taken, pub, answers, free, used, poolEq⟩
    · cases answersSlot.symm.trans answers
    · cases answersSlot.symm.trans answers
      refine ⟨free, fun other => ?_⟩
      rw [show result.2.pubPool = _ from poolEq]
      rcases eq_or_ne other slot with rfl | different
      · simp [used]
      · simp [different, pubUsed]

omit [DecidableEq Id] in
theorem Linked.subscribed (linked : before.Linked) (admitted : kconfig.Admitted)
    (opens : (transportOpened before.transport outcome).1 = 0) :
    let result := subscriberDeclared id before.transport outcome
    let published := (publisherDeclared before.transport outcome).2
    result.2.isInitialized = true ∧
      result.2.transportRefCount = published.transportRefCount ∧
      result.2.pubPool = published.pubPool ∧
      (result.1.isSome ↔ (∃ slot, before.subUsed slot = false) ∧ outcome.sub.declared = true) ∧
      (result.1 = none → (∀ slot, (result.2.subPool slot).inUse = before.subUsed slot) ∧
        ∀ slot, before.subUsed slot = true →
          result.2.subPool slot = before.transport.subPool slot) ∧
      ∀ slot, result.1 = some slot → before.subUsed slot = false ∧
        ((result.2.subPool slot).inUse = true ∧
          (result.2.subPool slot).userCb = some .onTransportCmdCb ∧
          (result.2.subPool slot).userData = some id) ∧
        ∀ other, other ≠ slot → result.2.subPool other = before.transport.subPool other := by
  intro result published
  obtain ⟨opened, -, -, subs, -⟩ := linked.published admitted opens
  obtain ⟨openedSame, countSame, pubsSame, outcomes⟩ :
      let result := subscriberDeclared id before.transport outcome; _ :=
    published.declareSubscriber_cases kconfig.rclSubTopic (cmdType kconfig)
      (some .onTransportCmdCb) (some id) outcome.sub
  have declares : result.1.isSome ↔ _ := published.isSome_declareSubscriber_iff
    kconfig.rclSubTopic (cmdType kconfig) (some .onTransportCmdCb) (some id) outcome.sub
  rw [show published.subPool = _ from subs] at outcomes declares
  refine ⟨openedSame.trans opened, countSame, pubsSame, ?_, ?_, ?_⟩
  · rw [declares]
    exact ⟨fun ⟨_, free, _, declared⟩ => ⟨free, declared⟩,
      fun ⟨free, declared⟩ => ⟨opened, free, typeKnown_cmdType, declared⟩⟩
  · intro answersNone
    rcases outcomes with ⟨-, same, kept⟩ | ⟨slot, _, answers, -⟩
    · exact ⟨same, kept⟩
    · cases answersNone.symm.trans answers
  · intro slot answersSlot
    rcases outcomes with ⟨answers, -⟩ | ⟨taken, sub, answers, free, used, callback, userData,
      poolEq⟩
    · cases answersSlot.symm.trans answers
    · cases answersSlot.symm.trans answers
      rw [show result.2.subPool = _ from poolEq]
      exact ⟨free, by simp [used, callback, userData],
        fun other different => Function.update_of_ne different _ _⟩

variable {controlFreq : UInt32} {statePayloadSize cmdPayloadSize : Nat} {status : Int}
  {transport : ZenohTransport kconfig RecvCb Id}
  {action : ClientWorldAction kconfig stateCodec commandCodec}

theorem Linked.initBase_change (linked : before.Linked) (admitted : kconfig.Admitted)
    (wasDown : before.live id = false)
    (cases : InitBaseCase id before.transport controlFreq statePayloadSize cmdPayloadSize
      outcome (status, client.toZenbeddedClientBase, transport))
    (losing : statePayloadSize ≤ kconfig.maxStateBufferSize →
      cmdPayloadSize ≤ kconfig.maxCmdBufferSize →
      (∃ slot, before.pubUsed slot = false) → outcome.pub.declared = true →
      ¬((∃ slot, before.subUsed slot = false) ∧ outcome.sub.declared = true) →
      before.LosesSubscriber action) :
    SlotChange before action { before.setClient id client with transport } := by
  cases cases with
  | tooLarge _ _ down untouched =>
      subst untouched
      exact .unchanged (sameClients_of_down _ wasDown down) rfl rfl (fun _ => rfl)
        ⟨fun _ => rfl, fun _ _ => rfl⟩
  | notOpened _ _ fails _ down kept =>
      subst kept
      obtain ⟨pubs, subs, outcomes⟩ := before.transport.init_cases kconfig.domainId
        kconfig.nodeName kconfig.zenohMode (some kconfig.zenohIpPort) outcome.init
      rcases outcomes with ⟨opens, -⟩ | ⟨-, wasClosed, -, isClosed, counts⟩
      · exact absurd opens fails
      · exact .unchanged (sameClients_of_down _ wasDown down) (isClosed.trans wasClosed.symm)
          counts (fun slot => congrArg (fun pool => (pool slot).inUse) pubs)
          ⟨fun slot => congrArg (fun pool => (pool slot).inUse) subs,
            fun slot _ => congrFun subs slot⟩
  | noPublisher _ _ opens fails _ down destroyed =>
      subst destroyed
      obtain ⟨opened, counts, -, subs, -, pubs, -⟩ := linked.published admitted opens
      obtain ⟨openSame, countSame, outcomes⟩ := linked.destroy_opened opened counts
      refine .unchanged (sameClients_of_down _ wasDown down) openSame countSame ?_ ?_
      · intro slot
        rcases outcomes with ⟨closed, pubsFree, -⟩ | ⟨-, pubsSame, -⟩
        · exact (pubsFree slot).trans (linked.closedPubs closed slot).symm
        · rw [← pubs fails slot]
          exact congrArg (fun pool => (pool slot).inUse) pubsSame
      · rcases outcomes with ⟨closed, -, subsFree⟩ | ⟨-, -, subsSame⟩
        · refine ⟨fun slot => (subsFree slot).trans (linked.closedSubs closed slot).symm,
            fun slot used => ?_⟩
          cases used.symm.trans (linked.closedSubs closed slot)
        · rw [subs] at subsSame
          exact ⟨fun slot => congrArg (fun pool => (pool slot).inUse) subsSame,
            fun slot _ => congrFun subsSame slot⟩
  | noSubscriber stateFits cmdFits opens pub declared fails _ down destroyed =>
      subst destroyed
      obtain ⟨opened, counts, -, -, free, -, taken⟩ := linked.published admitted opens
      obtain ⟨subOpened, subCounts, subPubs, subDeclared, subNone, -⟩ :=
        linked.subscribed admitted opens
      obtain ⟨subsUsed, subsKept⟩ := subNone fails
      have unavailable := mt subDeclared.mpr (by simp [fails])
      obtain ⟨openSame, countSame, outcomes⟩ := linked.destroy_opened subOpened
        (by rw [subCounts]; exact counts)
      obtain ⟨pubFree, declaredPub⟩ := free.mp (by rw [declared]; rfl)
      rcases outcomes with ⟨closed, pubsFree, subsFree⟩ | ⟨wasOpen, pubsSame, subsSame⟩
      · refine .unchanged (sameClients_of_down _ wasDown down) openSame countSame
          (fun slot => (pubsFree slot).trans (linked.closedPubs closed slot).symm)
          ⟨fun slot => (subsFree slot).trans (linked.closedSubs closed slot).symm,
            fun slot used => ?_⟩
        cases used.symm.trans (linked.closedSubs closed slot)
      · refine .leaked (losing stateFits cmdFits pubFree declaredPub unavailable)
          (sameClients_of_down _ wasDown down) openSame countSame wasOpen pub
          (fun slot => ?_) ⟨fun slot => ?_, fun slot used => ?_⟩
        · rw [← (taken pub declared).2 slot, ← subPubs]
          exact congrArg (fun pool => (pool slot).inUse) pubsSame
        · rw [← subsUsed slot]
          exact congrArg (fun pool => (pool slot).inUse) subsSame
        · rw [← subsKept slot used]
          exact congrFun subsSame slot
  | up stateFits cmdFits opens pub declaredPub sub declaredSub _ isUp _ _ ownsPub ownsSub kept =>
      subst kept
      obtain ⟨opened, -, countsWord, -, -, -, takenPub⟩ := linked.published admitted opens
      obtain ⟨subOpened, subCounts, subPubs, -, -, takenSub⟩ := linked.subscribed admitted opens
      obtain ⟨pubFree, pubs⟩ := takenPub pub declaredPub
      obtain ⟨subFree, feeds, subs⟩ := takenSub sub declaredSub
      refine .taken id wasDown (by simpa [live] using isUp)
        (fun other different => sameClient_of_ne _ different) subOpened
        (subCounts.trans countsWord) pub (by simpa [pubOf] using ownsPub) pubFree
        (fun slot => ?_) sub (by simpa [subOf] using ownsSub) subFree feeds subs
      rw [← pubs slot, ← subPubs]
      rfl

end Init

variable {after : ClientWorld kconfig stateCodec commandCodec}

omit [Fintype Id] in
theorem change_of_client (action : ClientWorldAction kconfig stateCodec commandCodec)
    {call : ClientCall (stateCodec id)} (applied : call.apply (before.client id) = some client) :
    SlotChange before action (before.setClient id client) := by
  have same := ClientCall.apply_sameSetup applied
  exact .unchanged (sameClients_of_same _ same.initialized same.pub same.sub) rfl rfl
    (fun _ => rfl) ⟨fun _ => rfl, fun _ _ => rfl⟩

theorem Linked.init_change (linked : before.Linked) (admitted : kconfig.Admitted)
    {controlFreq : UInt32} {stateParams : (stateCodec id).InitParams}
    {cmdParams : (commandCodec id).InitParams}
    {cmdLayoutScratch : Block UInt8 kconfig.maxCmdBufferSize} {outcome : ClientOutcome}
    {status : Int}
    (steps : before.Step (.init id controlFreq stateParams cmdParams cmdLayoutScratch outcome
      status) after) :
    SlotChange before
      (.init id controlFreq stateParams cmdParams cmdLayoutScratch outcome status) after := by
  obtain ⟨client, transport, initEq, rfl⟩ := steps
  cases wasLive : before.live id with
  | true =>
      have answered : (before.client id).init id before.transport controlFreq stateParams
          cmdParams cmdLayoutScratch outcome =
          some (0, before.client id, before.transport) := by
        simp [ZenbeddedClient.init, show (before.client id).initialized = true from wasLive]
      cases initEq.symm.trans answered
      exact .unchanged (sameClients_of_same _ rfl rfl rfl) rfl rfl (fun _ => rfl)
        ⟨fun _ => rfl, fun _ _ => rfl⟩
  | false =>
      obtain ⟨stateSize, cmdSize, fits, cases⟩ :=
        (before.client id).init_cases id before.transport controlFreq outcome wasLive initEq
      exact linked.initBase_change admitted wasLive cases
        fun stateFits cmdFits pubFree declared unavailable =>
          ⟨wasLive, fits.mp ⟨stateFits, cmdFits⟩, pubFree, declared, unavailable⟩

theorem Linked.destroy_change (linked : before.Linked) (steps : before.Step (.destroy id) after) :
    SlotChange before (.destroy id) after := by
  obtain rfl := steps
  cases wasLive : before.live id with
  | false =>
      have destroyed : (before.client id).toZenbeddedClientBase.destroy before.transport =
          ((before.client id).toZenbeddedClientBase, before.transport) := by
        simp [ZenbeddedClientBase.destroy,
          show (before.client id).initialized = false from wasLive]
      simp only [destroyed]
      exact .unchanged (sameClients_of_same _ rfl rfl rfl) rfl rfl (fun _ => rfl)
        ⟨fun _ => rfl, fun _ _ => rfl⟩
  | true =>
      have opened := linked.opened.mpr ⟨id, wasLive⟩
      have counted := linked.live_iff_counted.mp ⟨id, wasLive⟩
      have up : (before.client id).initialized = true := wasLive
      have transportEq : ((before.client id).toZenbeddedClientBase.destroy
          before.transport).2 = before.transport.destroy := by
        simp [ZenbeddedClientBase.destroy, up]
      have isDown : ((before.client id).toZenbeddedClientBase.destroy
          before.transport).1.initialized = false := by
        simp [ZenbeddedClientBase.destroy, up]
      rcases ZenohTransport.destroy_cases opened counted with
        ⟨one, closes, zero, pubs, subs⟩ | ⟨more, staysOpen, back, pubs, subs⟩
      · refine .closed id wasLive (by simpa [live] using isDown)
          (fun other different => sameClient_of_ne _ different) ?_ one ?_ ?_ ?_
        all_goals simp only [pubUsed, subUsed, transportEq]
        exacts [closes, zero, pubs, subs]
      · refine .released id rfl wasLive (by simpa [live] using isDown)
          (fun other different => sameClient_of_ne _ different) ?_ more ?_ (fun slot => ?_)
          ⟨fun slot => ?_, fun slot _ => ?_⟩
        all_goals simp only [pubUsed, subUsed, transportEq]
        · exact staysOpen
        · exact back
        · rw [pubs]
        · rw [subs]
        · rw [subs]

theorem Linked.change (linked : before.Linked) (admitted : kconfig.Admitted)
    {action : ClientWorldAction kconfig stateCodec commandCodec}
    (steps : before.Step action after) : SlotChange before action after := by
  cases action with
  | init id controlFreq stateParams cmdParams cmdLayoutScratch outcome status =>
      exact linked.init_change admitted steps
  | destroy id => exact linked.destroy_change steps
  | call id call =>
      obtain ⟨client, applied, rfl⟩ := steps
      exact change_of_client _ applied
  | publishState id tmp fuel timestampNs ok status =>
      obtain ⟨transport, published, rfl⟩ := steps
      rw [ZenbeddedClientBase.zenohPublishState] at published
      split at published
      · cases published
        exact .unchanged (fun _ => ⟨rfl, fun _ => rfl, fun _ => rfl⟩) rfl rfl (fun _ => rfl)
          ⟨fun _ => rfl, fun _ _ => rfl⟩
      · obtain ⟨read, -, sent⟩ := Option.bind_eq_some_iff.mp published
        obtain ⟨opened, counts, pubs, subs⟩ := ZenohTransport.publish_frame sent
        exact .unchanged (fun _ => ⟨rfl, fun _ => rfl, fun _ => rfl⟩) opened counts pubs
          ⟨fun slot => congrArg (fun pool => (pool slot).inUse) subs,
            fun slot _ => congrFun subs slot⟩
  | sample slot payload =>
      obtain ⟨-, delivered⟩ := steps
      split at delivered
      case h_1 =>
        rw [delivered]
        exact .unchanged (fun _ => ⟨rfl, fun _ => rfl, fun _ => rfl⟩) rfl rfl (fun _ => rfl)
          ⟨fun _ => rfl, fun _ _ => rfl⟩
      case h_2 => exact delivered.elim
      case h_3 received id _ =>
        obtain ⟨client, applied, rfl⟩ := delivered
        exact change_of_client _ applied

end ClientWorld

end Zenbedded
