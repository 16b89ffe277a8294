import Zenbedded.ZenohTransportHoldings

/-!
# Initializing and declaring

The first initialization opens a session; a declaration takes a free slot into use
exactly when it succeeds.
-/

namespace Zenbedded

open ResourceLedger

variable {kconfig : Kconfig} {Callback UserData : Type}

namespace ZenohTransport

variable {transport : ZenohTransport kconfig Callback UserData}
  {view : ZenohView kconfig.maxPublishers kconfig.maxSubscribers}

/-! ## Initializing -/

section Init

variable (domainId : UInt32) (nodeName mode : CString) (locator : Option CString)
  {outcome : InitOutcome}

theorem init_of_open (opened : transport.isInitialized = true) :
    transport.init domainId nodeName mode locator outcome =
      (0, { transport with transportRefCount := transport.transportRefCount + 1 }) := by
  simp [init, opened]

/-- What a failing first init changes. -/
theorem init_of_fails (closed : transport.isInitialized = false)
    (fails : outcome.opened = false) :
    (transport.init domainId nodeName mode locator outcome).1 = -1 ∧
      let after := (transport.init domainId nodeName mode locator outcome).2
      after.isInitialized = false ∧ after.transportRefCount = transport.transportRefCount ∧
        after.pubPool = transport.pubPool ∧ after.subPool = transport.subPool := by
  simp [init, closed, fails, call]

/-- What a successful first init changes. -/
theorem init_of_opens (closed : transport.isInitialized = false)
    (opens : outcome.opened = true) :
    (transport.init domainId nodeName mode locator outcome).1 = 0 ∧
      let after := (transport.init domainId nodeName mode locator outcome).2
      after.isInitialized = true ∧ after.transportRefCount = 1 ∧
        after.pubPool = transport.pubPool ∧ after.subPool = transport.subPool := by
  simp only [init, closed, opens, Bool.false_eq_true, Bool.true_eq_false, if_false, true_and]
  split <;> exact ⟨rfl, rfl⟩

theorem log_init_of_opens (closed : transport.isInitialized = false)
    (opens : outcome.opened = true) :
    let after := (transport.init domainId nodeName mode locator outcome).2
    let started := transport.log ++ [.openSession (zenohConfig kconfig mode locator) true] ++
      [.startReadTask outcome.readTask] ++ [.startLeaseTask outcome.leaseTask]
    match kconfig.tier with
    | .tier1 =>
        after.log = started ++ [.declareToken .node after.nodeLvStr outcome.token] ∧
          after.nodeLvToken = if outcome.token then some started.length else none
    | .tier2 => after.log = started := by
  cases tierEq : kconfig.tier <;> simp [init, closed, opens, tierEq, call, nextEntity]

theorem Consistent.init (consistent : transport.Consistent view) :
    ∃ after,
      (transport.init domainId nodeName mode locator outcome).2.Consistent after := by
  by_cases opened : transport.isInitialized = true
  · rw [init_of_open _ _ _ _ opened]
    exact ⟨view, consistent.setRefCount _⟩
  have closed : transport.isInitialized = false := by simpa using opened
  have pubsFree : ∀ slot, (transport.pubPool slot).inUse = false := fun slot => by
    simpa [closed] using consistent.pubOpen slot
  have subsFree : ∀ slot, (transport.subPool slot).inUse = false := fun slot => by
    simpa [closed] using consistent.subOpen slot
  have tokenNone : transport.tokenHeld = fun _ => none := by
    funext owner
    cases owner <;> simp [tokenHeld, closed, pubsFree, subsFree]
  have pubNone : transport.pubHeld = fun _ => none := by
    funext slot
    simp [pubHeld, pubsFree]
  have subNone : transport.subHeld = fun _ => none := by
    funext slot
    simp [subHeld, subsFree]
  have balanced := consistent.balanced
  rw [tokenNone, pubNone, subNone] at balanced
  by_cases opens : outcome.opened = true
  · obtain ⟨_, afterOpened, _, pubsSame, subsSame⟩ :=
      init_of_opens domainId nodeName mode locator closed opens
    have logEq := log_init_of_opens domainId nodeName mode locator closed opens
    obtain ⟨middle, opening⟩ := balanced.openSession (zenohConfig kconfig mode locator) closed
    have started := (opening.unchanged (.startReadTask outcome.readTask) rfl).unchanged
      (.startLeaseTask outcome.leaseTask) rfl
    cases tierEq : kconfig.tier with
    | tier1 =>
        simp only [tierEq] at logEq
        obtain ⟨after, tokened⟩ := started.declareToken rfl .node rfl
          (transport.init domainId nodeName mode locator outcome).2.nodeLvStr outcome.token
        refine ⟨after, consistent_of_unused (by simpa [pubsSame] using pubsFree)
          (by simpa [subsSame] using subsFree) ?_⟩
        rw [logEq.1, afterOpened]
        convert tokened using 1
        funext owner
        cases owner <;> simp [tokenHeld, tierToken, tierEq, afterOpened, logEq.2, pubsSame,
          subsSame, pubsFree, subsFree]
    | tier2 =>
        simp only [tierEq] at logEq
        refine ⟨middle, consistent_of_unused (by simpa [pubsSame] using pubsFree)
          (by simpa [subsSame] using subsFree) ?_⟩
        rw [logEq, afterOpened]
        convert started using 1
        funext owner
        cases owner <;> simp [tokenHeld, tierToken, tierEq]
  · have fails : outcome.opened = false := by simpa using opens
    obtain ⟨_, afterClosed, _, pubsSame, subsSame⟩ :=
      init_of_fails domainId nodeName mode locator closed fails
    refine ⟨view, consistent_of_unused (by simpa [pubsSame] using pubsFree)
      (by simpa [subsSame] using subsFree) ?_⟩
    have logEq : (transport.init domainId nodeName mode locator outcome).2.log =
        transport.log ++ [.openSession (zenohConfig kconfig mode locator) false] := by
      simp [ZenohTransport.init, closed, fails, call]
    rw [closed] at balanced
    rw [logEq, afterClosed]
    convert balanced.unchanged (.openSession (zenohConfig kconfig mode locator) false) rfl using 1
    funext owner
    cases owner <;> simp [tokenHeld, afterClosed, pubsSame, subsSame, pubsFree, subsFree]

end Init

/-! ## Declaring -/

/-- Tier 1 declares known types only; Tier 2 does not look at types. -/
def TypeKnown (kconfig : Kconfig) (typeName : Option CString) : Prop :=
  kconfig.tier = .tier1 → (getRihsHash typeName).isSome

theorem isSome_topicKeyexpr_iff (transport : ZenohTransport kconfig Callback UserData)
    (topicName : CString) (typeName : Option CString) :
    (transport.topicKeyexpr topicName typeName).isSome ↔ TypeKnown kconfig typeName := by
  unfold topicKeyexpr TypeKnown
  cases tierEq : kconfig.tier with
  | tier1 =>
      cases typeName with
      | none => simp [getRihsHash]
      | some typeName => cases hashEq : getRihsHash (some typeName) <;> simp [hashEq]
  | tier2 => simp

section Declare

variable (transport) (topicName : CString) (typeName : Option CString)
  (callback : Option Callback) (userData : Option UserData) (outcome : DeclareOutcome)

/-- What a publisher declaration does to the static state. -/
theorem declarePublisherAt_frame (slot : Fin kconfig.maxPublishers) :
    let result := transport.declarePublisherAt slot topicName typeName outcome
    result.2.isInitialized = transport.isInitialized ∧
      result.2.transportRefCount = transport.transportRefCount ∧
      result.2.subPool = transport.subPool ∧
      ∃ pub, result.2.pubPool = Function.update transport.pubPool slot pub ∧
        (result.1 = some slot ∧ pub.inUse = true ∧ TypeKnown kconfig typeName ∧
            outcome.declared = true ∨
          result.1 = none ∧ pub.inUse = false ∧
            ¬(TypeKnown kconfig typeName ∧ outcome.declared = true)) := by
  have known := transport.isSome_topicKeyexpr_iff topicName typeName
  unfold declarePublisherAt
  cases keyexprEq : transport.topicKeyexpr topicName typeName with
  | none =>
      rw [keyexprEq] at known
      have unknown : ¬TypeKnown kconfig typeName := by simpa using known
      exact ⟨rfl, rfl, rfl, _, rfl, .inr ⟨rfl, rfl, fun both => unknown both.1⟩⟩
  | some keyexpr =>
      rw [keyexprEq] at known
      have typeKnown : TypeKnown kconfig typeName := by simpa using known
      cases declaredEq : outcome.declared with
      | false => exact ⟨rfl, rfl, rfl, _, rfl, .inr ⟨rfl, rfl, by simp⟩⟩
      | true =>
          cases tierEq : kconfig.tier with
          | tier1 => exact ⟨rfl, rfl, rfl, _, rfl, .inl ⟨rfl, rfl, typeKnown, rfl⟩⟩
          | tier2 => exact ⟨rfl, rfl, rfl, _, rfl, .inl ⟨rfl, rfl, typeKnown, rfl⟩⟩

theorem declareSubscriberAt_frame (slot : Fin kconfig.maxSubscribers) :
    let result := transport.declareSubscriberAt slot topicName typeName callback userData outcome
    result.2.isInitialized = transport.isInitialized ∧
      result.2.transportRefCount = transport.transportRefCount ∧
      result.2.pubPool = transport.pubPool ∧
      ∃ sub, result.2.subPool = Function.update transport.subPool slot sub ∧
        sub.userCb = callback ∧ sub.userData = userData ∧
        (result.1 = some slot ∧ sub.inUse = true ∧ TypeKnown kconfig typeName ∧
            outcome.declared = true ∨
          result.1 = none ∧ sub.inUse = false ∧
            ¬(TypeKnown kconfig typeName ∧ outcome.declared = true)) := by
  have known := transport.isSome_topicKeyexpr_iff topicName typeName
  unfold declareSubscriberAt
  cases keyexprEq : transport.topicKeyexpr topicName typeName with
  | none =>
      rw [keyexprEq] at known
      have unknown : ¬TypeKnown kconfig typeName := by simpa using known
      exact ⟨rfl, rfl, rfl, _, rfl, rfl, rfl, .inr ⟨rfl, rfl, fun both => unknown both.1⟩⟩
  | some keyexpr =>
      rw [keyexprEq] at known
      have typeKnown : TypeKnown kconfig typeName := by simpa using known
      cases declaredEq : outcome.declared with
      | false => exact ⟨rfl, rfl, rfl, _, rfl, rfl, rfl, .inr ⟨rfl, rfl, by simp⟩⟩
      | true =>
          cases tierEq : kconfig.tier with
          | tier1 => exact ⟨rfl, rfl, rfl, _, rfl, rfl, rfl, .inl ⟨rfl, rfl, typeKnown, rfl⟩⟩
          | tier2 => exact ⟨rfl, rfl, rfl, _, rfl, rfl, rfl, .inl ⟨rfl, rfl, typeKnown, rfl⟩⟩

end Declare

/-- Writing a slot that is and stays free. -/
theorem Consistent.setPub_free (consistent : transport.Consistent view)
    {slot : Fin kconfig.maxPublishers} (free : (transport.pubPool slot).inUse = false)
    {pub : ZenbeddedPub} (unused : pub.inUse = false) :
    (transport.setPub slot pub).Consistent view := by
  have pubSame : (transport.setPub slot pub).pubHeld = transport.pubHeld := by
    rw [pubHeld_setPub, Function.update_eq_self_iff]
    simp [pubHeld, free, unused]
  have tokenSame : (transport.setPub slot pub).tokenHeld = transport.tokenHeld := by
    rw [tokenHeld_setPub, Function.update_eq_self_iff]
    simp [tokenHeld, free, unused]
  have pool (other : Fin kconfig.maxPublishers)
      (used : ((transport.setPub slot pub).pubPool other).inUse = true) :
      (transport.setPub slot pub).pubPool other = transport.pubPool other := by
    have different : other ≠ slot := by
      rintro rfl
      simp [unused] at used
    simp [different]
  refine ⟨by simpa [pubSame, tokenSame] using consistent.balanced, ?_, consistent.subHolds, ?_,
    consistent.subOpen⟩
  · intro other used
    have same := pool other used
    rw [same] at used ⊢
    exact consistent.pubHolds other used
  · intro other used
    have same := pool other used
    rw [same] at used
    exact consistent.pubOpen other used

theorem Consistent.setSub_free (consistent : transport.Consistent view)
    {slot : Fin kconfig.maxSubscribers} (free : (transport.subPool slot).inUse = false)
    {sub : ZenbeddedSub Callback UserData} (unused : sub.inUse = false) :
    (transport.setSub slot sub).Consistent view := by
  have subSame : (transport.setSub slot sub).subHeld = transport.subHeld := by
    rw [subHeld_setSub, Function.update_eq_self_iff]
    simp [subHeld, free, unused]
  have tokenSame : (transport.setSub slot sub).tokenHeld = transport.tokenHeld := by
    rw [tokenHeld_setSub, Function.update_eq_self_iff]
    simp [tokenHeld, free, unused]
  have pool (other : Fin kconfig.maxSubscribers)
      (used : ((transport.setSub slot sub).subPool other).inUse = true) :
      (transport.setSub slot sub).subPool other = transport.subPool other := by
    have different : other ≠ slot := by
      rintro rfl
      simp [unused] at used
    simp [different]
  refine ⟨by simpa [subSame, tokenSame] using consistent.balanced, consistent.pubHolds, ?_,
    consistent.pubOpen, ?_⟩
  · intro other used
    have same := pool other used
    rw [same] at used ⊢
    exact consistent.subHolds other used
  · intro other used
    have same := pool other used
    rw [same] at used
    exact consistent.subOpen other used

theorem Consistent.call (consistent : transport.Consistent view)
    {zenohCall : ZenohCall kconfig.maxPublishers kconfig.maxSubscribers}
    (neutral : view.apply transport.log.length zenohCall = some view) :
    (transport.call zenohCall).Consistent view :=
  ⟨consistent.balanced.unchanged zenohCall neutral, consistent.pubHolds, consistent.subHolds,
    consistent.pubOpen, consistent.subOpen⟩

theorem Consistent.setPub_used (consistent : transport.Consistent view)
    (opened : transport.isInitialized = true) {slot : Fin kconfig.maxPublishers}
    {pub : ZenbeddedPub} (used : pub.inUse = true) (holds : pub.zPub.isSome)
    {called : ZenohTransport kconfig Callback UserData}
    (poolSame : called.pubPool = transport.pubPool)
    (subPoolSame : called.subPool = transport.subPool)
    (openSame : called.isInitialized = transport.isInitialized)
    {after : ZenohView kconfig.maxPublishers kconfig.maxSubscribers}
    (balanced : Balanced called.log called.isInitialized
      (Function.update called.pubHeld slot pub.zPub) called.subHeld
      (Function.update called.tokenHeld (.pub slot) (tierToken kconfig pub.lvToken)) after) :
    (called.setPub slot pub).Consistent after := by
  refine ⟨by simpa [used] using balanced, ?_, ?_, fun _ _ => ?_, fun _ _ => ?_⟩
  · intro other
    rcases eq_or_ne other slot with rfl | different
    · simpa using fun _ => holds
    · simpa [different, poolSame] using consistent.pubHolds other
  · simpa [subPoolSame] using consistent.subHolds
  · simpa [openSame] using opened
  · simpa [openSame] using opened

theorem Consistent.declarePublisherAt (consistent : transport.Consistent view)
    (opened : transport.isInitialized = true) {slot : Fin kconfig.maxPublishers}
    (free : (transport.pubPool slot).inUse = false) (topicName : CString)
    (typeName : Option CString) (outcome : DeclareOutcome) :
    ∃ after,
      (transport.declarePublisherAt slot topicName typeName outcome).2.Consistent after := by
  have pubNone : transport.pubHeld slot = none := by simp [pubHeld, free]
  have tokenNone : transport.tokenHeld (.pub slot) = none := by simp [tokenHeld, free]
  unfold ZenohTransport.declarePublisherAt
  cases transport.topicKeyexpr topicName typeName with
  | none => exact ⟨view, consistent.setPub_free free rfl⟩
  | some keyexpr =>
      simp only
      cases declaredEq : outcome.declared with
      | false =>
          have neutral : view.apply transport.log.length
              (.declarePublisher slot keyexpr (publisherOptions kconfig) false) = some view := by
            simp [ZenohView.apply, ZenohView.beginEntity,
              consistent.balanced.openSessions_ne_zero opened]
          exact ⟨view, (consistent.call neutral).setPub_free free rfl⟩
      | true =>
          obtain ⟨middle, declared⟩ :=
            consistent.balanced.declarePublisher opened pubNone keyexpr (publisherOptions kconfig)
          simp only [Bool.true_eq_false, if_false]
          cases tierEq : kconfig.tier with
          | tier1 =>
              let called := transport.call
                (.declarePublisher slot keyexpr (publisherOptions kconfig) true)
              obtain ⟨after, tokened⟩ := declared.declareToken opened (.pub slot) tokenNone
                ((called.lvKeyexpr .mp topicName typeName outcome.zid).getD []) outcome.token
              refine ⟨after, consistent.setPub_used opened ?_ ?_ ?_ ?_ ?_ ?balanced⟩
              case balanced => simpa [tierToken, tierEq, nextEntity] using tokened
              all_goals rfl
          | tier2 =>
              refine ⟨middle, consistent.setPub_used opened ?_ ?_ ?_ ?_ ?_ ?balanced⟩
              case balanced =>
                have tokenSame : Function.update transport.tokenHeld (.pub slot) none =
                    transport.tokenHeld := Function.update_eq_self_iff.mpr tokenNone.symm
                simpa [tierToken, tierEq, nextEntity, tokenSame] using declared
              all_goals rfl

theorem Consistent.setSub_used (consistent : transport.Consistent view)
    (opened : transport.isInitialized = true) {slot : Fin kconfig.maxSubscribers}
    {sub : ZenbeddedSub Callback UserData} (used : sub.inUse = true) (holds : sub.zSub.isSome)
    {called : ZenohTransport kconfig Callback UserData}
    (poolSame : called.pubPool = transport.pubPool)
    (subPoolSame : called.subPool = transport.subPool)
    (openSame : called.isInitialized = transport.isInitialized)
    {after : ZenohView kconfig.maxPublishers kconfig.maxSubscribers}
    (balanced : Balanced called.log called.isInitialized called.pubHeld
      (Function.update called.subHeld slot sub.zSub)
      (Function.update called.tokenHeld (.sub slot) (tierToken kconfig sub.lvToken)) after) :
    (called.setSub slot sub).Consistent after := by
  refine ⟨by simpa [used] using balanced, ?_, ?_, fun _ _ => ?_, fun _ _ => ?_⟩
  · simpa [poolSame] using consistent.pubHolds
  · intro other
    rcases eq_or_ne other slot with rfl | different
    · simpa using fun _ => holds
    · simpa [different, subPoolSame] using consistent.subHolds other
  · simpa [openSame] using opened
  · simpa [openSame] using opened

theorem Consistent.declareSubscriberAt (consistent : transport.Consistent view)
    (opened : transport.isInitialized = true) {slot : Fin kconfig.maxSubscribers}
    (free : (transport.subPool slot).inUse = false) (topicName : CString)
    (typeName : Option CString) (callback : Option Callback) (userData : Option UserData)
    (outcome : DeclareOutcome) :
    ∃ after, (transport.declareSubscriberAt slot topicName typeName callback userData
      outcome).2.Consistent after := by
  have subNone : transport.subHeld slot = none := by simp [subHeld, free]
  have tokenNone : transport.tokenHeld (.sub slot) = none := by simp [tokenHeld, free]
  unfold ZenohTransport.declareSubscriberAt
  cases transport.topicKeyexpr topicName typeName with
  | none => exact ⟨view, consistent.setSub_free free rfl⟩
  | some keyexpr =>
      simp only
      cases declaredEq : outcome.declared with
      | false =>
          have neutral : view.apply transport.log.length
              (.declareSubscriber slot keyexpr false) = some view := by
            simp [ZenohView.apply, ZenohView.beginEntity,
              consistent.balanced.openSessions_ne_zero opened]
          exact ⟨view, (consistent.call neutral).setSub_free free rfl⟩
      | true =>
          obtain ⟨middle, declared⟩ :=
            consistent.balanced.declareSubscriber opened subNone keyexpr
          simp only [Bool.true_eq_false, if_false]
          cases tierEq : kconfig.tier with
          | tier1 =>
              let called := transport.call (.declareSubscriber slot keyexpr true)
              obtain ⟨after, tokened⟩ := declared.declareToken opened (.sub slot) tokenNone
                ((called.lvKeyexpr .ms topicName typeName outcome.zid).getD []) outcome.token
              refine ⟨after, consistent.setSub_used opened ?_ ?_ ?_ ?_ ?_ ?balanced⟩
              case balanced => simpa [tierToken, tierEq, nextEntity] using tokened
              all_goals rfl
          | tier2 =>
              refine ⟨middle, consistent.setSub_used opened ?_ ?_ ?_ ?_ ?_ ?balanced⟩
              case balanced =>
                have tokenSame : Function.update transport.tokenHeld (.sub slot) none =
                    transport.tokenHeld := Function.update_eq_self_iff.mpr tokenNone.symm
                simpa [tierToken, tierEq, nextEntity, tokenSame] using declared
              all_goals rfl

end ZenohTransport

end Zenbedded
