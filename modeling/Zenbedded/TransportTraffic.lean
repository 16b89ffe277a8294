import Zenbedded.HandleChanges
import Zenbedded.ZenohTransportPuts

/-!
# Traffic of the transport

Operations of the transport and publishes, one after another.  A publish touches the attachment
of one slot; an operation puts nothing and leaves the slots in use alone, up to one that a
declaration takes.
-/

namespace Zenbedded

open ByteBlock ResourceLedger

inductive TransportUse (kconfig : Kconfig) (Callback UserData : Type)
  | op (op : TransportOp kconfig Callback UserData)
  | publish (pub : Option (Fin kconfig.maxPublishers)) {size : Nat} (payload : Block UInt8 size)
      (payloadSize : Nat) (timestampNs : Int64) (ok : Bool) (status : Int)

/-- Operations and publishes one after another, each finished before the next one begins, with
fewer than 2^32 inits outstanding; among threads a publish has two steps. -/
def transportTraffic (kconfig : Kconfig) (Callback UserData : Type) :
    StepSystem (LifecycleState kconfig Callback UserData)
      (TransportUse kconfig Callback UserData) where
  start state := state = ⟨.zero, 0⟩
  step
    | before, .op op, after =>
        (transportLifecycle kconfig Callback UserData).step before op after
    | before, .publish pub payload payloadSize timestampNs ok status, after =>
        before.transport.publish pub payload payloadSize timestampNs ok =
          some (status, after.transport) ∧ after.outstanding = before.outstanding

variable {kconfig : Kconfig} {Callback UserData : Type}

/-! ## Publishing and the books -/

namespace ZenohTransport

variable {transport before after : ZenohTransport kconfig Callback UserData}
  {view : ZenohView kconfig.maxPublishers kconfig.maxSubscribers}

/-- A publish does nothing, or it puts a sample through a publisher that zenoh knows. -/
inductive Publishes (before : ZenohTransport kconfig Callback UserData) (bytes : List UInt8)
    (timestampNs : Int64) (ok : Bool) (after : ZenohTransport kconfig Callback UserData) : Prop
  | refused (same : after = before)
  | tier1 (tier : kconfig.tier = .tier1) (slot : Fin kconfig.maxPublishers)
      (used : (before.pubPool slot).inUse = true)
      (afterEq : after =
        (before.setPub slot { before.pubPool slot with attachment := {
          (before.pubPool slot).attachment with
            sequenceNumber := (before.pubPool slot).attachment.sequenceNumber + 1
            timestampNs } }).call
        (.put (before.pubPool slot).zPub bytes (some { (before.pubPool slot).attachment with
          sequenceNumber := (before.pubPool slot).attachment.sequenceNumber + 1
          timestampNs }) ok))
  | tier2 (tier : kconfig.tier = .tier2) (slot : Fin kconfig.maxPublishers)
      (used : (before.pubPool slot).inUse = true)
      (afterEq : after = before.call (.put (before.pubPool slot).zPub bytes none ok))

theorem publish_publishes {pub : Option (Fin kconfig.maxPublishers)} {size payloadSize : Nat}
    {payload : Block UInt8 size} {timestampNs : Int64} {ok : Bool} {status : Int}
    (published : before.publish pub payload payloadSize timestampNs ok = some (status, after)) :
    ∃ bytes, before.Publishes bytes timestampNs ok after := by
  cases pub with
  | none =>
      cases published
      exact ⟨[], .refused rfl⟩
  | some slot =>
      unfold publish at published
      dsimp only at published
      split at published
      case isTrue =>
        cases published
        exact ⟨[], .refused rfl⟩
      case isFalse unused =>
        have used : (before.pubPool slot).inUse = true := by simpa using unused
        obtain ⟨bytes, -, sent⟩ := Option.bind_eq_some_iff.mp published
        cases tier : kconfig.tier with
        | tier1 =>
            rw [tier] at sent
            cases sent
            exact ⟨bytes, .tier1 tier slot used rfl⟩
        | tier2 =>
            rw [tier] at sent
            cases sent
            exact ⟨bytes, .tier2 tier slot used rfl⟩

/-- The attachment of a slot is none of zenoh's business. -/
theorem Consistent.setAttachment (consistent : before.Consistent view)
    (slot : Fin kconfig.maxPublishers) (attachment : RmwZenohAttachment) :
    (before.setPub slot { before.pubPool slot with attachment }).Consistent view := by
  have pubs : (before.setPub slot { before.pubPool slot with attachment }).pubHeld =
      before.pubHeld := by
    funext other
    rcases eq_or_ne other slot with rfl | different
    · simp [pubHeld]
    · simp [pubHeld, different]
  have tokens : (before.setPub slot { before.pubPool slot with attachment }).tokenHeld =
      before.tokenHeld := by
    funext owner
    cases owner with
    | node => rfl
    | sub other => rfl
    | pub other =>
        rcases eq_or_ne other slot with rfl | different
        · simp [tokenHeld]
        · simp [tokenHeld, different]
  constructor
  case balanced =>
    rw [pubs, tokens]
    exact consistent.balanced
  case subHolds => exact consistent.subHolds
  case subOpen => exact consistent.subOpen
  case pubHolds =>
    intro other
    rcases eq_or_ne other slot with rfl | different
    · simpa using consistent.pubHolds other
    · simpa [different] using consistent.pubHolds other
  case pubOpen =>
    intro other
    rcases eq_or_ne other slot with rfl | different
    · simpa using consistent.pubOpen other
    · simpa [different] using consistent.pubOpen other

theorem Consistent.publishes (consistent : before.Consistent view) {bytes : List UInt8}
    {timestampNs : Int64} {ok : Bool} (publishes : before.Publishes bytes timestampNs ok after) :
    after.Consistent view := by
  cases publishes with
  | refused same => exact same ▸ consistent
  | tier1 tier slot used afterEq =>
      rw [afterEq]
      exact (consistent.setAttachment slot _).call rfl
  | tier2 tier slot used afterEq =>
      rw [afterEq]
      exact consistent.call rfl

theorem SlotsSound.publishes (sound : before.SlotsSound) {bytes : List UInt8}
    {timestampNs : Int64} {ok : Bool} (publishes : before.Publishes bytes timestampNs ok after) :
    after.SlotsSound := by
  cases publishes with
  | refused same => exact same ▸ sound
  | tier2 tier slot used afterEq => exact ⟨afterEq ▸ sound.opened, afterEq ▸ sound.free⟩
  | tier1 tier slot used afterEq =>
      have pools (other : Fin kconfig.maxPublishers) :
          (after.pubPool other).inUse = (before.pubPool other).inUse ∧
            (after.pubPool other).zPub = (before.pubPool other).zPub := by
        rcases eq_or_ne other slot with rfl | different
        · simp [afterEq]
        · simp [afterEq, different]
      constructor
      case opened =>
        intro handle handleUsed
        have isInitialized : after.isInitialized = before.isInitialized := by simp [afterEq]
        rw [isInitialized]
        refine sound.opened handle ?_
        cases handle with
        | pub other => exact (pools other).1.symm.trans handleUsed
        | sub other => simpa [inUse, afterEq] using handleUsed
      case free =>
        intro other unused
        rw [(pools other).2]
        exact sound.free other ((pools other).1.symm.trans unused)

/-! ## Operations that put nothing -/

/-- What an operation leaves alone: a slot in use is as it was, or it holds a publisher that was
just declared. -/
structure Quiet (before after : ZenohTransport kconfig Callback UserData) : Prop where
  puts : after.puts = before.puts
  grows : before.log <+: after.log
  slots : ∀ slot, (after.pubPool slot).inUse = true →
    after.pubPool slot = before.pubPool slot ∨
      (after.pubPool slot).zPub = some before.log.length ∧
        (kconfig.tier = .tier1 → (after.pubPool slot).attachment.sequenceNumber = 0 ∧
          (after.pubPool slot).attachment.gidLength = 16)

theorem Quiet.of_pubs (puts : after.puts = before.puts) (grows : before.log <+: after.log)
    (pubs : after.pubPool = before.pubPool) : before.Quiet after :=
  ⟨puts, grows, fun slot _ => .inl (congrFun pubs slot)⟩

theorem Quiet.refl (transport : ZenohTransport kconfig Callback UserData) :
    transport.Quiet transport :=
  .of_pubs rfl List.prefix_rfl rfl

theorem quiet_undeclarePublisher (sound : before.SlotsSound)
    (pub : Option (Fin kconfig.maxPublishers)) :
    before.Quiet (before.undeclarePublisher pub).2 := by
  refine ⟨before.puts_undeclarePublisher pub, (sound.undeclarePublisher pub).grows, ?_⟩
  cases pub with
  | none => exact fun slot _ => .inl rfl
  | some own =>
      by_cases used : (before.pubPool own).inUse = true
      · intro slot stillUsed
        rw [undeclarePublisher_eq (sound.opened (.pub own) used) used] at stillUsed ⊢
        rcases eq_or_ne slot own with rfl | different
        · simp at stillUsed
        · simp [different]
      · rw [undeclarePublisher_of_free (by simpa [inUse] using used)]
        exact fun slot _ => .inl rfl

theorem quiet_destroy (sound : before.SlotsSound) : before.Quiet before.destroy := by
  refine ⟨before.puts_destroy, sound.destroy.grows, fun slot used => .inl ?_⟩
  by_cases opened : before.isInitialized = true
  · by_cases zero : before.transportRefCount.toNat = 0
    · have same : before.destroy = before :=
        if_pos (.inr (UInt32.toNat_inj.mp zero))
      rw [same]
    · rcases destroy_cases opened (by omega) with ⟨-, -, -, free, -⟩ | ⟨-, -, -, pubs, -⟩
      · cases (free slot).symm.trans used
      · rw [pubs]
  · rw [destroy_of_closed (by simpa using opened)]

/-- A declaration leaves other slots alone, and its own slot free or with a fresh publisher. -/
theorem fresh_of_declarePublisherAt (before : ZenohTransport kconfig Callback UserData)
    (slot : Fin kconfig.maxPublishers) (topicName : CString) (typeName : Option CString)
    (outcome : DeclareOutcome) :
    let after := (before.declarePublisherAt slot topicName typeName outcome).2
    ∃ pub, after.pubPool = Function.update before.pubPool slot pub ∧
      (pub.inUse = true → kconfig.tier = .tier1 →
        pub.attachment.sequenceNumber = 0 ∧ pub.attachment.gidLength = 16) := by
  unfold declarePublisherAt
  cases before.topicKeyexpr topicName typeName with
  | none => exact ⟨_, rfl, nofun⟩
  | some keyexpr =>
      cases declaredEq : outcome.declared with
      | false => exact ⟨_, rfl, nofun⟩
      | true =>
          cases tierEq : kconfig.tier with
          | tier1 => exact ⟨_, rfl, fun _ _ => ⟨rfl, rfl⟩⟩
          | tier2 => exact ⟨_, rfl, fun _ => nofun⟩

theorem quiet_declarePublisher (sound : before.SlotsSound) (topicName : CString)
    (typeName : Option CString) (outcome : DeclareOutcome) :
    before.Quiet (before.declarePublisher topicName typeName outcome).2 ∧
      (before.declarePublisher topicName typeName outcome).2.SlotsSound := by
  have puts := before.puts_declarePublisher topicName typeName outcome
  unfold declarePublisher at puts ⊢
  split at puts
  case isTrue closed =>
    rw [if_pos closed]
    exact ⟨.refl before, sound⟩
  case isFalse opened =>
    rw [if_neg opened]
    cases found : firstFree fun slot => (before.pubPool slot).inUse with
    | none => exact ⟨.refl before, sound⟩
    | some slot =>
        rw [found] at puts
        have isOpen : before.isInitialized = true := by simpa using opened
        have empty := sound.free slot (inUse_of_firstFree found)
        obtain ⟨isInitialized, -, subs, -⟩ :=
          declarePublisherAt_frame before topicName typeName outcome slot
        obtain ⟨grows, pub, pubs, free⟩ := declarePublisherAt_slot empty topicName typeName outcome
        obtain ⟨same, samePubs, fresh⟩ :=
          before.fresh_of_declarePublisherAt slot topicName typeName outcome
        obtain rfl : same = pub := by
          simpa using congrFun (samePubs.symm.trans pubs) slot
        refine ⟨⟨puts, grows, fun other used => ?_⟩, ?_⟩
        · rcases eq_or_ne other slot with rfl | different
          · have ownUsed : same.inUse = true := by simpa [pubs] using used
            have declares : same.zPub = some before.log.length := by
              rcases free with ⟨unused, -⟩ | ⟨-, declares, -⟩
              · cases ownUsed.symm.trans unused
              · exact declares
            right
            simp only [pubs, Function.update_self]
            exact ⟨declares, fresh ownUsed⟩
          · left
            simp only [pubs, Function.update_of_ne different]
        · have unheld : before.entity (.pub slot) = none :=
            entity_of_free (inUse_of_firstFree found)
          have own : before.HandleChange none
              (before.declarePublisherAt slot topicName typeName outcome).2 (.pub slot) := by
            rcases free with ⟨unused, -⟩ | ⟨used, declares, longer⟩
            · exact .ended (by simpa [inUse, pubs] using unused)
            · exact .declared unheld (by simp [entity, pubHeld, pubs, used, declares]) longer
          refine (sound.changes_of_pub slot same pubs subs (fun _ => isOpen) isInitialized ?_ own
            grows).sound
          rcases free with ⟨-, released⟩ | ⟨used, -, -⟩
          · exact fun _ => released
          · exact fun unused => absurd (used.symm.trans unused) (by decide)

theorem quiet_apply (sound : before.SlotsSound) (op : TransportOp kconfig Callback UserData) :
    before.Quiet (op.apply before) ∧ (op.apply before).SlotsSound := by
  cases op with
  | init domainId nodeName mode locator outcome =>
      have changes := sound.init domainId nodeName mode locator outcome
      exact ⟨.of_pubs (before.puts_init domainId nodeName mode locator outcome) changes.grows
        (before.init_cases domainId nodeName mode locator outcome).1, changes.sound⟩
  | destroy => exact ⟨quiet_destroy sound, sound.destroy.sound⟩
  | declarePublisher topicName typeName outcome =>
      exact quiet_declarePublisher sound topicName typeName outcome
  | declareSubscriber topicName typeName callback userData outcome =>
      have changes := sound.declareSubscriber topicName typeName callback userData outcome
      exact ⟨.of_pubs
        (before.puts_declareSubscriber topicName typeName callback userData outcome) changes.grows
        (before.declareSubscriber_frame topicName typeName callback userData outcome).2.2.1,
        changes.sound⟩
  | undeclarePublisher pub =>
      exact ⟨quiet_undeclarePublisher sound pub, (sound.undeclarePublisher pub).sound⟩
  | undeclareSubscriber sub =>
      have changes := sound.undeclareSubscriber sub
      refine ⟨.of_pubs (before.puts_undeclareSubscriber sub) changes.grows ?_, changes.sound⟩
      cases sub with
      | none => rfl
      | some slot =>
          simp only [TransportOp.apply, undeclareSubscriber]
          split
          · rfl
          · simp

end ZenohTransport

end Zenbedded
