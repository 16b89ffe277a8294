import Zenbedded.SharedTransport

/-!
# What operations do to handles

An operation keeps what a handle stands for, ends it, or lets a handle that stands for
nothing stand for an entity that zenoh has just handed out.
-/

namespace Zenbedded

open ByteBlock

namespace ZenohTransport

variable {kconfig : Kconfig} {Callback UserData : Type}
  {before after : ZenohTransport kconfig Callback UserData}

/-! ## Changes of handles -/

theorem entity_of_free {handle : TransportHandle kconfig} (free : before.inUse handle = false) :
    before.entity handle = none := by
  cases handle with
  | pub slot => exact if_neg (by rw [show (before.pubPool slot).inUse = false from free]; simp)
  | sub slot => exact if_neg (by rw [show (before.subPool slot).inUse = false from free]; simp)

theorem inUse_of_entity {handle : TransportHandle kconfig} {entity : Nat}
    (stands : before.entity handle = some entity) : before.inUse handle = true := by
  by_contra unused
  cases (entity_of_free (by simpa using unused)).symm.trans stands

theorem zPub_of_entity {slot : Fin kconfig.maxPublishers} {entity : Nat}
    (stands : before.entity (.pub slot) = some entity) :
    (before.pubPool slot).zPub = some entity := by
  have used : (before.pubPool slot).inUse = true := inUse_of_entity stands
  simpa [ZenohTransport.entity, pubHeld, used] using stands

/-- What an operation that reserves a slot, or none, does to a handle. -/
inductive HandleChange (before : ZenohTransport kconfig Callback UserData)
    (reserving : Option (TransportHandle kconfig))
    (after : ZenohTransport kconfig Callback UserData) (handle : TransportHandle kconfig) : Prop
  | kept (inUse : after.inUse handle = before.inUse handle)
      (entity : after.entity handle = before.entity handle)
  | ended (free : after.inUse handle = false)
  | reserved (reserves : reserving = some handle) (free : before.inUse handle = false)
      (empty : after.entity handle = none)
  | declared (empty : before.entity handle = none)
      (declares : after.entity handle = some before.log.length)
      (grows : before.log.length < after.log.length)

/-- What a handle stands for, it stood for before or was handed out by this operation. -/
theorem HandleChange.entity_after {reserving : Option (TransportHandle kconfig)}
    {handle : TransportHandle kconfig} (change : before.HandleChange reserving after handle)
    {entity : Nat} (stands : after.entity handle = some entity) :
    before.entity handle = some entity ∨
      entity = before.log.length ∧ before.log.length < after.log.length := by
  cases change with
  | kept _ same => exact .inl (same ▸ stands)
  | ended free => cases (entity_of_free free).symm.trans stands
  | reserved _ _ empty => cases empty.symm.trans stands
  | declared _ declares grows =>
      rw [declares] at stands
      exact .inr ⟨(Option.some.inj stands).symm, grows⟩

/-- Slots are in use in a session only, and a free slot holds no publisher. -/
structure SlotsSound (transport : ZenohTransport kconfig Callback UserData) : Prop where
  opened : ∀ handle, transport.inUse handle = true → transport.isInitialized = true
  free : ∀ slot, transport.inUse (.pub slot) = false → (transport.pubPool slot).zPub = none

structure HandleChanges (before : ZenohTransport kconfig Callback UserData)
    (reserving : Option (TransportHandle kconfig))
    (after : ZenohTransport kconfig Callback UserData) : Prop where
  sound : after.SlotsSound
  handles : ∀ handle, before.HandleChange reserving after handle
  grows : before.log <+: after.log

section Pools

variable {reserving : Option (TransportHandle kconfig)}

theorem HandleChange.of_pools {handle : TransportHandle kconfig}
    (pubs : after.pubPool = before.pubPool) (subs : after.subPool = before.subPool) :
    before.HandleChange reserving after handle := by
  cases handle with
  | pub slot => exact .kept (by simp [inUse, pubs]) (by simp [entity, pubHeld, pubs])
  | sub slot => exact .kept (by simp [inUse, subs]) (by simp [entity, subHeld, subs])

theorem SlotsSound.changes_of_pools (sound : before.SlotsSound)
    (pubs : after.pubPool = before.pubPool) (subs : after.subPool = before.subPool)
    (opens : before.isInitialized = true → after.isInitialized = true)
    (grows : before.log <+: after.log) : before.HandleChanges reserving after where
  sound :=
    { opened := by
        intro handle used
        refine opens (sound.opened handle ?_)
        cases handle with
        | pub slot => simpa [inUse, pubs] using used
        | sub slot => simpa [inUse, subs] using used
      free := by simpa [inUse, pubs] using sound.free }
  handles _ := .of_pools pubs subs
  grows := grows

theorem SlotsSound.changes_of_pub (sound : before.SlotsSound)
    (slot : Fin kconfig.maxPublishers) (pub : ZenbeddedPub)
    (pubs : after.pubPool = Function.update before.pubPool slot pub)
    (subs : after.subPool = before.subPool)
    (opened : pub.inUse = true → before.isInitialized = true)
    (isInitialized : after.isInitialized = before.isInitialized)
    (free : pub.inUse = false → pub.zPub = none)
    (own : before.HandleChange reserving after (.pub slot))
    (grows : before.log <+: after.log) : before.HandleChanges reserving after where
  sound :=
    { opened := by
        intro handle used
        rw [isInitialized]
        cases handle with
        | pub other =>
            rcases eq_or_ne other slot with rfl | different
            · exact opened (by simpa [inUse, pubs] using used)
            · exact sound.opened (.pub other) (by simpa [inUse, pubs, different] using used)
        | sub other => exact sound.opened (.sub other) (by simpa [inUse, subs] using used)
      free := by
        intro other unused
        rcases eq_or_ne other slot with rfl | different
        · simpa [pubs] using free (by simpa [inUse, pubs] using unused)
        · simpa [pubs, different] using
            sound.free other (by simpa [inUse, pubs, different] using unused) }
  handles := by
    intro handle
    cases handle with
    | pub other =>
        rcases eq_or_ne other slot with rfl | different
        · exact own
        · exact .kept (by simp [inUse, pubs, different])
            (by simp [entity, pubHeld, pubs, different])
    | sub other => exact .kept (by simp [inUse, subs]) (by simp [entity, subHeld, subs])
  grows := grows

theorem SlotsSound.changes_of_sub (sound : before.SlotsSound)
    (slot : Fin kconfig.maxSubscribers) (sub : ZenbeddedSub Callback UserData)
    (pubs : after.pubPool = before.pubPool)
    (subs : after.subPool = Function.update before.subPool slot sub)
    (opened : sub.inUse = true → before.isInitialized = true)
    (isInitialized : after.isInitialized = before.isInitialized)
    (own : before.HandleChange reserving after (.sub slot))
    (grows : before.log <+: after.log) : before.HandleChanges reserving after where
  sound :=
    { opened := by
        intro handle used
        rw [isInitialized]
        cases handle with
        | pub other => exact sound.opened (.pub other) (by simpa [inUse, pubs] using used)
        | sub other =>
            rcases eq_or_ne other slot with rfl | different
            · exact opened (by simpa [inUse, subs] using used)
            · exact sound.opened (.sub other) (by simpa [inUse, subs, different] using used)
      free := by simpa [inUse, pubs] using sound.free }
  handles := by
    intro handle
    cases handle with
    | pub other => exact .kept (by simp [inUse, pubs]) (by simp [entity, pubHeld, pubs])
    | sub other =>
        rcases eq_or_ne other slot with rfl | different
        · exact own
        · exact .kept (by simp [inUse, subs, different])
            (by simp [entity, subHeld, subs, different])
  grows := grows

theorem SlotsSound.unchanged (sound : before.SlotsSound) :
    before.HandleChanges reserving before :=
  sound.changes_of_pools rfl rfl id List.prefix_rfl

end Pools

/-! ## The operations -/

theorem SlotsSound.init (sound : before.SlotsSound) (domainId : UInt32) (nodeName mode : CString)
    (locator : Option CString) (outcome : InitOutcome) :
    before.HandleChanges none (before.init domainId nodeName mode locator outcome).2 := by
  obtain ⟨pubs, subs, cases⟩ := before.init_cases domainId nodeName mode locator outcome
  refine sound.changes_of_pools pubs subs (fun opened => ?_) ?_
  · rcases cases with ⟨-, -, nowOpen, -⟩ | ⟨-, closed, -⟩
    · exact nowOpen
    · cases opened.symm.trans closed
  · unfold ZenohTransport.init
    split
    · exact List.prefix_rfl
    · split
      · exact List.prefix_append _ _
      · cases kconfig.tier <;> simp [call]

theorem undeclarePublisher_of_free {slot : Fin kconfig.maxPublishers}
    (free : before.inUse (.pub slot) = false) :
    before.undeclarePublisher (some slot) = (-einval, before) :=
  if_pos (.inr free)

theorem undeclareSubscriber_of_free {slot : Fin kconfig.maxSubscribers}
    (free : before.inUse (.sub slot) = false) :
    before.undeclareSubscriber (some slot) = (-einval, before) :=
  if_pos (.inr free)

theorem undeclarePublisher_of_used {slot : Fin kconfig.maxPublishers}
    (opened : before.isInitialized = true) (used : before.inUse (.pub slot) = true) :
    (before.undeclarePublisher (some slot)).1 = 0 ∧
      (before.undeclarePublisher (some slot)).2.inUse (.pub slot) = false := by
  rw [undeclarePublisher_eq opened used]
  exact ⟨rfl, by simp [inUse]⟩

theorem undeclareSubscriber_of_used {slot : Fin kconfig.maxSubscribers}
    (opened : before.isInitialized = true) (used : before.inUse (.sub slot) = true) :
    (before.undeclareSubscriber (some slot)).1 = 0 ∧
      (before.undeclareSubscriber (some slot)).2.inUse (.sub slot) = false := by
  rw [undeclareSubscriber_eq opened used]
  exact ⟨rfl, by simp [inUse]⟩

theorem SlotsSound.undeclarePublisher (sound : before.SlotsSound)
    (pub : Option (Fin kconfig.maxPublishers)) :
    before.HandleChanges none (before.undeclarePublisher pub).2 := by
  cases pub with
  | none => exact sound.unchanged
  | some slot =>
      by_cases used : (before.pubPool slot).inUse = true
      · have opened : before.isInitialized = true := sound.opened (.pub slot) used
        rw [undeclarePublisher_eq opened used]
        apply sound.changes_of_pub slot
          { before.pubPool slot with inUse := false, zPub := none, lvToken := none }
        case pubs => simp
        case subs => simp
        case opened => simp
        case isInitialized => simp
        case free => simp
        case own => exact .ended (by simp [inUse])
        case grows =>
          exact (log_undeclareLvToken_extends before _).trans (List.prefix_append _ _)
      · simpa [ZenohTransport.undeclarePublisher, used] using sound.unchanged

theorem SlotsSound.undeclareSubscriber (sound : before.SlotsSound)
    (sub : Option (Fin kconfig.maxSubscribers)) :
    before.HandleChanges none (before.undeclareSubscriber sub).2 := by
  cases sub with
  | none => exact sound.unchanged
  | some slot =>
      by_cases used : (before.subPool slot).inUse = true
      · have opened : before.isInitialized = true := sound.opened (.sub slot) used
        rw [undeclareSubscriber_eq opened used]
        apply sound.changes_of_sub slot
          { before.subPool slot with inUse := false, zSub := none, lvToken := none }
        case pubs => simp
        case subs => simp
        case opened => simp
        case isInitialized => simp
        case own => exact .ended (by simp [inUse])
        case grows =>
          exact (log_undeclareLvToken_extends before _).trans (List.prefix_append _ _)
      · simpa [ZenohTransport.undeclareSubscriber, used] using sound.unchanged

theorem SlotsSound.releasePubs (sound : before.SlotsSound)
    (slots : List (Fin kconfig.maxPublishers)) :
    (slots.foldl releasePub before).SlotsSound := by
  induction slots generalizing before with
  | nil => exact sound
  | cons slot slots ih =>
      refine ih ?_
      unfold releasePub
      split
      · exact (sound.undeclarePublisher (some slot)).sound
      · exact sound

theorem SlotsSound.releaseSubs (sound : before.SlotsSound)
    (slots : List (Fin kconfig.maxSubscribers)) :
    (slots.foldl releaseSub before).SlotsSound := by
  induction slots generalizing before with
  | nil => exact sound
  | cons slot slots ih =>
      refine ih ?_
      unfold releaseSub
      split
      · exact (sound.undeclareSubscriber (some slot)).sound
      · exact sound

/-- The last destroy ends all declarations, any other keeps them. -/
theorem SlotsSound.destroy (sound : before.SlotsSound) :
    before.HandleChanges none before.destroy := by
  have counted (count : UInt32) : SlotsSound { before with transportRefCount := count } :=
    ⟨sound.opened, sound.free⟩
  by_cases opened : before.isInitialized = true
  · by_cases one : before.transportRefCount = 1
    · obtain ⟨-, -, pubsFree, subsFree⟩ := releaseAll_frame opened
      obtain ⟨calls, logEq⟩ := log_destroy_of_eq_one opened one
      have released : before.releaseAll.SlotsSound := ((counted 0).releasePubs _).releaseSubs _
      have isFree : ∀ handle, before.destroy.inUse handle = false := by
        intro handle
        rw [destroy_of_eq_one opened one]
        cases handle with
        | pub slot => simpa [inUse] using pubsFree slot
        | sub slot => simpa [inUse] using subsFree slot
      refine ⟨⟨fun handle used => ?_, fun slot _ => ?_⟩, fun handle => .ended (isFree handle), ?_⟩
      · rw [isFree handle] at used
        cases used
      · rw [destroy_of_eq_one opened one, pubPool_closeSession]
        exact released.free slot (pubsFree slot)
      · rw [logEq, List.append_assoc]
        exact List.prefix_append _ _
    · by_cases zero : before.transportRefCount = 0
      · simpa [ZenohTransport.destroy, zero] using sound.unchanged
      · have others : 1 < before.transportRefCount := by
          have counts := before.transportRefCount.toNat
          rw [← UInt32.toNat_inj] at one zero
          rw [UInt32.lt_iff_toNat_lt]
          simp at one zero ⊢
          omega
        rw [destroy_of_lt opened others]
        exact sound.changes_of_pools rfl rfl id List.prefix_rfl
  · rw [destroy_of_closed (by simpa using opened)]
    exact sound.unchanged

theorem SlotsSound.reservePublisher (sound : before.SlotsSound) :
    let after := before.reservePublisher.2
    before.HandleChanges (before.reservePublisher.1.map .pub) after ∧
      ∀ slot, before.reservePublisher.1 = some slot →
        after.inUse (.pub slot) = true ∧ after.entity (.pub slot) = none := by
  unfold ZenohTransport.reservePublisher
  split
  case isTrue => exact ⟨sound.unchanged, by simp⟩
  case isFalse opened =>
    cases found : firstFree fun slot => (before.pubPool slot).inUse with
    | none => exact ⟨sound.unchanged, by simp⟩
    | some slot =>
        have free : (before.pubPool slot).inUse = false := inUse_of_firstFree found
        have empty := sound.free slot free
        refine ⟨?_, ?_⟩
        · apply sound.changes_of_pub slot { before.pubPool slot with inUse := true }
          case pubs => rfl
          case subs => rfl
          case opened => simpa using opened
          case isInitialized => rfl
          case free => simp
          case own => exact .reserved rfl free (by simp [entity, empty])
          case grows => exact List.prefix_rfl
        · rintro _ ⟨⟩
          exact ⟨by simp [inUse], by simp [entity, empty]⟩

/-- What a declaration leaves in a slot that holds nothing yet. -/
theorem declarePublisherAt_slot {slot : Fin kconfig.maxPublishers}
    (empty : (before.pubPool slot).zPub = none) (topicName : CString)
    (typeName : Option CString) (outcome : DeclareOutcome) :
    let after := (before.declarePublisherAt slot topicName typeName outcome).2
    before.log <+: after.log ∧ ∃ pub, after.pubPool = Function.update before.pubPool slot pub ∧
      (pub.inUse = false ∧ pub.zPub = none ∨
        pub.inUse = true ∧ pub.zPub = some before.log.length ∧
          before.log.length < after.log.length) := by
  unfold declarePublisherAt
  cases before.topicKeyexpr topicName typeName with
  | none => exact ⟨List.prefix_rfl, _, rfl, .inl ⟨rfl, empty⟩⟩
  | some keyexpr =>
      cases declaredEq : outcome.declared with
      | false => exact ⟨List.prefix_append _ _, _, rfl, .inl ⟨rfl, rfl⟩⟩
      | true =>
          cases tierEq : kconfig.tier with
          | tier1 =>
              refine ⟨?_, _, rfl, .inr ⟨rfl, rfl, ?_⟩⟩
              · exact (List.prefix_append _ _).trans (List.prefix_append _ _)
              · simp
          | tier2 => exact ⟨List.prefix_append _ _, _, rfl, .inr ⟨rfl, rfl, by simp⟩⟩

/-- What a declaration leaves in a slot. -/
theorem declareSubscriberAt_slot (slot : Fin kconfig.maxSubscribers) (topicName : CString)
    (typeName : Option CString) (callback : Option Callback) (userData : Option UserData)
    (outcome : DeclareOutcome) :
    let after := (before.declareSubscriberAt slot topicName typeName callback userData outcome).2
    before.log <+: after.log ∧ ∃ sub, after.subPool = Function.update before.subPool slot sub ∧
      (sub.inUse = false ∨ sub.inUse = true ∧ sub.zSub = some before.log.length ∧
        before.log.length < after.log.length) := by
  unfold declareSubscriberAt
  cases before.topicKeyexpr topicName typeName with
  | none => exact ⟨List.prefix_rfl, _, rfl, .inl rfl⟩
  | some keyexpr =>
      cases declaredEq : outcome.declared with
      | false => exact ⟨List.prefix_append _ _, _, rfl, .inl rfl⟩
      | true =>
          cases tierEq : kconfig.tier with
          | tier1 =>
              refine ⟨?_, _, rfl, .inr ⟨rfl, rfl, ?_⟩⟩
              · exact (List.prefix_append _ _).trans (List.prefix_append _ _)
              · simp
          | tier2 => exact ⟨List.prefix_append _ _, _, rfl, .inr ⟨rfl, rfl, by simp⟩⟩

/-- The rest of a declaration that has reserved its slot. -/
theorem SlotsSound.declarePublisherAt (sound : before.SlotsSound)
    {slot : Fin kconfig.maxPublishers} (reserved : before.inUse (.pub slot) = true)
    (unheld : before.entity (.pub slot) = none) (topicName : CString)
    (typeName : Option CString) (outcome : DeclareOutcome) :
    let after := (before.declarePublisherAt slot topicName typeName outcome).2
    before.HandleChanges none after ∧
      (after.inUse (.pub slot) = true → (after.entity (.pub slot)).isSome) := by
  intro after
  have opened := sound.opened _ reserved
  have empty : (before.pubPool slot).zPub = none := by
    simp only [inUse] at reserved
    simpa [entity, pubHeld, reserved] using unheld
  obtain ⟨isInitialized, -, subs, -⟩ :=
    declarePublisherAt_frame before topicName typeName outcome slot
  obtain ⟨grows, pub, pubs, free⟩ := declarePublisherAt_slot empty topicName typeName outcome
  have inUseEq : after.inUse (.pub slot) = pub.inUse := by simp [inUse, after, pubs]
  have entityEq : after.entity (.pub slot) = if pub.inUse then pub.zPub else none := by
    simp [entity, pubHeld, after, pubs]
  rcases free with ⟨unused, released⟩ | ⟨used, declares, longer⟩
  · have own : before.HandleChange none after (.pub slot) := .ended (inUseEq.trans unused)
    refine ⟨sound.changes_of_pub slot pub pubs subs (fun _ => opened) isInitialized
      (fun _ => released) own grows, fun stillUsed => ?_⟩
    rw [inUseEq, unused] at stillUsed
    cases stillUsed
  · have own : before.HandleChange none after (.pub slot) := by
      refine .declared unheld ?_ longer
      rw [entityEq, used, declares, if_pos rfl]
    refine ⟨sound.changes_of_pub slot pub pubs subs (fun _ => opened) isInitialized ?_ own grows,
      fun _ => ?_⟩
    · simp [used]
    · rw [entityEq, used, declares, if_pos rfl]
      rfl

theorem SlotsSound.declareSubscriber (sound : before.SlotsSound) (topicName : CString)
    (typeName : Option CString) (callback : Option Callback) (userData : Option UserData)
    (outcome : DeclareOutcome) :
    before.HandleChanges none
      (before.declareSubscriber topicName typeName callback userData outcome).2 := by
  unfold ZenohTransport.declareSubscriber
  split
  case isTrue => exact sound.unchanged
  case isFalse opened =>
    cases found : firstFree fun slot => (before.subPool slot).inUse with
    | none => exact sound.unchanged
    | some slot =>
        have empty : before.entity (.sub slot) = none :=
          entity_of_free (inUse_of_firstFree found)
        obtain ⟨isInitialized, -, pubs, -⟩ :=
          declareSubscriberAt_frame before topicName typeName callback userData outcome slot
        obtain ⟨grows, sub, subs, free⟩ :=
          declareSubscriberAt_slot slot topicName typeName callback userData outcome
        refine sound.changes_of_sub slot sub pubs subs (fun _ => by simpa using opened)
          isInitialized ?_ grows
        rcases free with unused | ⟨used, declares, longer⟩
        · exact .ended (by simpa [inUse, subs] using unused)
        · exact .declared empty (by simp [entity, subHeld, subs, used, declares]) longer

/-- What is left of a publish keeps every handle. -/
theorem SlotsSound.putAt (sound : before.SlotsSound) {slot : Fin kconfig.maxPublishers}
    {size payloadSize : Nat} {payload : Block UInt8 size} {timestampNs : Int64} {ok : Bool}
    {status : Int}
    (puts : before.putAt slot payload payloadSize timestampNs ok = some (status, after)) :
    before.HandleChanges none after ∧
      ∀ handle, after.inUse handle = before.inUse handle ∧
        after.entity handle = before.entity handle := by
  obtain ⟨bytes, -, put⟩ := Option.bind_eq_some_iff.mp puts
  cases tierEq : kconfig.tier with
  | tier1 =>
      simp only [tierEq] at put
      cases put
      refine ⟨?_, fun handle => ?_⟩
      · apply sound.changes_of_pub slot
        case pubs => rfl
        case subs => rfl
        case opened => exact sound.opened (.pub slot)
        case isInitialized => rfl
        case free => exact sound.free slot
        case own => exact .kept (by simp [inUse]) (by simp [entity, pubHeld])
        case grows => exact List.prefix_append _ _
      · cases handle with
        | pub other =>
            rcases eq_or_ne other slot with rfl | different
            · exact ⟨by simp [inUse], by simp [entity, pubHeld]⟩
            · exact ⟨by simp [inUse, different], by simp [entity, pubHeld, different]⟩
        | sub other => exact ⟨rfl, rfl⟩
  | tier2 =>
      simp only [tierEq] at put
      cases put
      exact ⟨sound.changes_of_pools rfl rfl id (List.prefix_append _ _), fun _ => ⟨rfl, rfl⟩⟩

end ZenohTransport

end Zenbedded
