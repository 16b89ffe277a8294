import Zenbedded.StepSystem
import Zenbedded.ZenohTransportDeclare
import Zenbedded.ZenohTransportRelease

/-!
# The lifecycle of the transport

In every order of operations, and whatever zenoh answers, the reference count, the
initialized flag and the pools of the transport agree with the sessions and entities
that zenoh knows.
-/

namespace Zenbedded

open ResourceLedger

variable {kconfig : Kconfig} {Callback UserData : Type}

namespace ZenohTransport

theorem inUse_of_firstFree {slots : Nat} {inUse : Fin slots → Bool} {slot : Fin slots}
    (found : firstFree inUse = some slot) : inUse slot = false := by
  simpa using List.find?_some found

theorem firstFree_eq_none_iff {slots : Nat} {inUse : Fin slots → Bool} :
    firstFree inUse = none ↔ ∀ slot, inUse slot = true := by
  simp [firstFree, List.find?_eq_none]

variable {transport : ZenohTransport kconfig Callback UserData}
  {view : ZenohView kconfig.maxPublishers kconfig.maxSubscribers}

theorem Consistent.declarePublisher (consistent : transport.Consistent view)
    (topicName : CString) (typeName : Option CString) (outcome : DeclareOutcome) :
    ∃ after,
      (transport.declarePublisher topicName typeName outcome).2.Consistent after := by
  unfold ZenohTransport.declarePublisher
  split
  case isTrue => exact ⟨view, consistent⟩
  case isFalse opened =>
    split
    case h_1 => exact ⟨view, consistent⟩
    case h_2 slot found =>
      exact consistent.declarePublisherAt (by simpa using opened) (inUse_of_firstFree found)
        topicName typeName outcome

theorem Consistent.declareSubscriber (consistent : transport.Consistent view)
    (topicName : CString) (typeName : Option CString) (callback : Option Callback)
    (userData : Option UserData) (outcome : DeclareOutcome) :
    ∃ after, (transport.declareSubscriber topicName typeName callback userData
      outcome).2.Consistent after := by
  unfold ZenohTransport.declareSubscriber
  split
  case isTrue => exact ⟨view, consistent⟩
  case isFalse opened =>
    split
    case h_1 => exact ⟨view, consistent⟩
    case h_2 slot found =>
      exact consistent.declareSubscriberAt (by simpa using opened) (inUse_of_firstFree found)
        topicName typeName callback userData outcome

theorem Consistent.ledgers_empty (consistent : transport.Consistent view)
    (closed : transport.isInitialized = false) :
    view.livePublishers = ∅ ∧ view.liveSubscribers = ∅ ∧ view.liveTokens = ∅ := by
  have pubsFree : ∀ slot, (transport.pubPool slot).inUse = false := fun slot => by
    simpa [closed] using consistent.pubOpen slot
  have subsFree : ∀ slot, (transport.subPool slot).inUse = false := fun slot => by
    simpa [closed] using consistent.subOpen slot
  refine ⟨consistent.balanced.pubLists.eq_empty ?_, consistent.balanced.subLists.eq_empty ?_,
    consistent.balanced.tokenLists.eq_empty ?_⟩
  · simp [pubHeld, pubsFree]
  · simp [subHeld, subsFree]
  · intro owner
    cases owner <;> simp [tokenHeld, closed, pubsFree, subsFree]

/-- The last destroy undeclares everything that is live before it closes the session. -/
theorem Consistent.destroy_undeclares (consistent : transport.Consistent view)
    (opened : transport.isInitialized = true) (one : transport.transportRefCount = 1) :
    ∃ calls, transport.destroy.log = transport.log ++ calls ++ [.closeSession] ∧
      (∀ entry ∈ view.livePublishers, .undeclarePublisher (some entry.1) ∈ calls) ∧
      (∀ entry ∈ view.liveSubscribers, .undeclareSubscriber (some entry.1) ∈ calls) ∧
      ∀ entry ∈ view.liveTokens, .undeclareToken (some entry.1) ∈ calls := by
  obtain ⟨calls, logEq⟩ := log_destroy_of_eq_one opened one
  obtain ⟨after, destroyed⟩ := consistent.destroy (by simp [one])
  have closed : transport.destroy.isInitialized = false := by
    rw [destroy_of_eq_one opened one]
    rfl
  obtain ⟨noPublishers, noSubscribers, noTokens⟩ := destroyed.ledgers_empty closed
  have replays := destroyed.balanced.replays
  rw [logEq, List.append_assoc, ZenohView.replay_append, consistent.balanced.replays,
    Option.bind_some] at replays
  refine ⟨calls, logEq, fun entry live => ?_, fun entry live => ?_, fun entry live => ?_⟩
  · have ended := ZenohView.follows_livePublishers.mem_of_gone replays live
      (by simp [noPublishers])
    simpa using ended
  · have ended := ZenohView.follows_liveSubscribers.mem_of_gone replays live
      (by simp [noSubscribers])
    simpa using ended
  · have ended := ZenohView.follows_liveTokens.mem_of_gone replays live
      (by simp [noTokens])
    simpa using ended

/-! ## What declarations take -/

section Declaring

variable (transport) (topicName : CString)
  (typeName : Option CString) (callback : Option Callback) (userData : Option UserData)
  (outcome : DeclareOutcome)

/-- A publisher declaration takes a free slot or none. -/
theorem declarePublisher_cases :
    let result := transport.declarePublisher topicName typeName outcome
    result.2.isInitialized = transport.isInitialized ∧
      result.2.transportRefCount = transport.transportRefCount ∧
      result.2.subPool = transport.subPool ∧
      (result.1 = none ∧
          (∀ slot, (result.2.pubPool slot).inUse = (transport.pubPool slot).inUse) ∨
        ∃ slot pub, result.1 = some slot ∧ (transport.pubPool slot).inUse = false ∧
          pub.inUse = true ∧ result.2.pubPool = Function.update transport.pubPool slot pub) := by
  unfold declarePublisher
  split
  case isTrue => exact ⟨rfl, rfl, rfl, .inl ⟨rfl, fun _ => rfl⟩⟩
  case isFalse =>
    split
    case h_1 => exact ⟨rfl, rfl, rfl, .inl ⟨rfl, fun _ => rfl⟩⟩
    case h_2 slot found =>
      have free := inUse_of_firstFree found
      obtain ⟨openedSame, countSame, subsSame, pub, poolEq, outcomes⟩ :=
        declarePublisherAt_frame transport topicName typeName outcome slot
      refine ⟨openedSame, countSame, subsSame, ?_⟩
      rcases outcomes with ⟨answers, used, -⟩ | ⟨answers, unused, -⟩
      · exact .inr ⟨slot, pub, answers, free, used, poolEq⟩
      · refine .inl ⟨answers, fun other => ?_⟩
        rw [poolEq]
        rcases eq_or_ne other slot with rfl | different
        · simp [unused, free]
        · simp [different]

theorem isSome_declarePublisher_iff :
    (transport.declarePublisher topicName typeName outcome).1.isSome ↔
      transport.isInitialized = true ∧ (∃ slot, (transport.pubPool slot).inUse = false) ∧
        TypeKnown kconfig typeName ∧ outcome.declared = true := by
  unfold declarePublisher
  split
  case isTrue closed => simp [closed]
  case isFalse opened =>
    split
    case h_1 exhausted =>
      have full := firstFree_eq_none_iff.mp exhausted
      simp [full]
    case h_2 slot found =>
      have free : ∃ slot, (transport.pubPool slot).inUse = false :=
        ⟨slot, inUse_of_firstFree found⟩
      obtain ⟨_, _, _, pub, _, outcomes⟩ :=
        declarePublisherAt_frame transport topicName typeName outcome slot
      rcases outcomes with ⟨answers, -, known, declared⟩ | ⟨answers, -, fails⟩
      · simp [answers, free, known, declared, by simpa using opened]
      · simp only [answers, Option.isSome_none, Bool.false_eq_true, false_iff]
        exact fun all => fails all.2.2

/-- A subscriber declaration takes a free slot or none; slots in use stay as they are. -/
theorem declareSubscriber_cases :
    let result := transport.declareSubscriber topicName typeName callback userData outcome
    result.2.isInitialized = transport.isInitialized ∧
      result.2.transportRefCount = transport.transportRefCount ∧
      result.2.pubPool = transport.pubPool ∧
      (result.1 = none ∧
          (∀ slot, (result.2.subPool slot).inUse = (transport.subPool slot).inUse) ∧
          (∀ slot, (transport.subPool slot).inUse = true →
            result.2.subPool slot = transport.subPool slot) ∨
        ∃ slot sub, result.1 = some slot ∧ (transport.subPool slot).inUse = false ∧
          sub.inUse = true ∧ sub.userCb = callback ∧ sub.userData = userData ∧
          result.2.subPool = Function.update transport.subPool slot sub) := by
  unfold declareSubscriber
  split
  case isTrue => exact ⟨rfl, rfl, rfl, .inl ⟨rfl, fun _ => rfl, fun _ _ => rfl⟩⟩
  case isFalse =>
    split
    case h_1 => exact ⟨rfl, rfl, rfl, .inl ⟨rfl, fun _ => rfl, fun _ _ => rfl⟩⟩
    case h_2 slot found =>
      have free := inUse_of_firstFree found
      obtain ⟨openedSame, countSame, pubsSame, sub, poolEq, callbackEq, userDataEq, outcomes⟩ :=
        declareSubscriberAt_frame transport topicName typeName callback userData outcome slot
      refine ⟨openedSame, countSame, pubsSame, ?_⟩
      rcases outcomes with ⟨answers, used, -⟩ | ⟨answers, unused, -⟩
      · exact .inr ⟨slot, sub, answers, free, used, callbackEq, userDataEq, poolEq⟩
      · refine .inl ⟨answers, fun other => ?_, fun other used => ?_⟩
        · rw [poolEq]
          rcases eq_or_ne other slot with rfl | different
          · simp [unused, free]
          · simp [different]
        · rw [poolEq, Function.update_of_ne]
          rintro rfl
          cases used.symm.trans free

theorem isSome_declareSubscriber_iff :
    (transport.declareSubscriber topicName typeName callback userData outcome).1.isSome ↔
      transport.isInitialized = true ∧ (∃ slot, (transport.subPool slot).inUse = false) ∧
        TypeKnown kconfig typeName ∧ outcome.declared = true := by
  unfold declareSubscriber
  split
  case isTrue closed => simp [closed]
  case isFalse opened =>
    split
    case h_1 exhausted =>
      have full := firstFree_eq_none_iff.mp exhausted
      simp [full]
    case h_2 slot found =>
      have free : ∃ slot, (transport.subPool slot).inUse = false :=
        ⟨slot, inUse_of_firstFree found⟩
      obtain ⟨_, _, _, sub, _, _, _, outcomes⟩ :=
        declareSubscriberAt_frame transport topicName typeName callback userData outcome slot
      rcases outcomes with ⟨answers, -, known, declared⟩ | ⟨answers, -, fails⟩
      · simp [answers, free, known, declared, by simpa using opened]
      · simp only [answers, Option.isSome_none, Bool.false_eq_true, false_iff]
        exact fun all => fails all.2.2

/-- Which slots a publisher declaration takes, and when it answers null. -/
theorem declarePublisher_frame :
    let result := transport.declarePublisher topicName typeName outcome
    result.2.isInitialized = transport.isInitialized ∧
      result.2.transportRefCount = transport.transportRefCount ∧
      result.2.subPool = transport.subPool ∧
      (result.1 = none → (∀ slot, (result.2.pubPool slot).inUse =
          (transport.pubPool slot).inUse) ∧
        (TypeKnown kconfig typeName → outcome.declared = true →
          transport.isInitialized = false ∨
            ∀ slot, (transport.pubPool slot).inUse = true)) := by
  obtain ⟨opened, counts, subs, outcomes⟩ :=
    declarePublisher_cases transport topicName typeName outcome
  have answers := isSome_declarePublisher_iff transport topicName typeName outcome
  refine ⟨opened, counts, subs, fun answersNull => ⟨?_, fun known declared => ?_⟩⟩
  · rcases outcomes with ⟨-, same⟩ | ⟨slot, pub, answersSlot, -⟩
    · exact same
    · cases answersNull.symm.trans answersSlot
  · rw [answersNull] at answers
    by_contra usable
    obtain ⟨isOpen, free⟩ := not_or.mp usable
    have isSome := answers.mpr ⟨by simpa using isOpen, by simpa using free, known, declared⟩
    cases isSome

theorem declareSubscriber_frame :
    let result := transport.declareSubscriber topicName typeName callback userData outcome
    result.2.isInitialized = transport.isInitialized ∧
      result.2.transportRefCount = transport.transportRefCount ∧
      result.2.pubPool = transport.pubPool ∧
      (result.1 = none → (∀ slot, (result.2.subPool slot).inUse =
          (transport.subPool slot).inUse) ∧
        (TypeKnown kconfig typeName → outcome.declared = true →
          transport.isInitialized = false ∨
            ∀ slot, (transport.subPool slot).inUse = true)) := by
  obtain ⟨opened, counts, pubs, outcomes⟩ :=
    declareSubscriber_cases transport topicName typeName callback userData outcome
  have answers :=
    isSome_declareSubscriber_iff transport topicName typeName callback userData outcome
  refine ⟨opened, counts, pubs, fun answersNull => ⟨?_, fun known declared => ?_⟩⟩
  · rcases outcomes with ⟨-, same, -⟩ | ⟨slot, sub, answersSlot, -⟩
    · exact same
    · cases answersNull.symm.trans answersSlot
  · rw [answersNull] at answers
    by_contra usable
    obtain ⟨isOpen, free⟩ := not_or.mp usable
    have isSome := answers.mpr ⟨by simpa using isOpen, by simpa using free, known, declared⟩
    cases isSome

/-- A handle is the one of a slot that was free. -/
theorem declarePublisher_of_some {slot : Fin kconfig.maxPublishers}
    (answersSlot : (transport.declarePublisher topicName typeName outcome).1 = some slot) :
    (transport.pubPool slot).inUse = false ∧
      ((transport.declarePublisher topicName typeName outcome).2.pubPool slot).inUse = true := by
  obtain ⟨-, -, -, ⟨answersNull, -⟩ | ⟨taken, pub, answers, free, used, pools⟩⟩ :=
    declarePublisher_cases transport topicName typeName outcome
  · cases answersNull.symm.trans answersSlot
  · obtain rfl := Option.some.inj (answers.symm.trans answersSlot)
    exact ⟨free, by rw [pools, Function.update_self, used]⟩

theorem declareSubscriber_of_some {slot : Fin kconfig.maxSubscribers}
    (answersSlot : (transport.declareSubscriber topicName typeName callback userData
      outcome).1 = some slot) :
    (transport.subPool slot).inUse = false ∧ ((transport.declareSubscriber topicName typeName
      callback userData outcome).2.subPool slot).inUse = true := by
  obtain ⟨-, -, -, ⟨answersNull, -⟩ | ⟨taken, sub, answers, free, used, -, -, pools⟩⟩ :=
    declareSubscriber_cases transport topicName typeName callback userData outcome
  · cases answersNull.symm.trans answersSlot
  · obtain rfl := Option.some.inj (answers.symm.trans answersSlot)
    exact ⟨free, by rw [pools, Function.update_self, used]⟩

end Declaring

end ZenohTransport

/-! ## Runs of operations -/

/-- A call of a lifecycle operation, with what zenoh answers during it. -/
inductive TransportOp (kconfig : Kconfig) (Callback UserData : Type)
  | init (domainId : UInt32) (nodeName mode : CString) (locator : Option CString)
      (outcome : InitOutcome)
  | destroy
  | declarePublisher (topicName : CString) (typeName : Option CString)
      (outcome : DeclareOutcome)
  | declareSubscriber (topicName : CString) (typeName : Option CString)
      (callback : Option Callback) (userData : Option UserData) (outcome : DeclareOutcome)
  | undeclarePublisher (pub : Option (Fin kconfig.maxPublishers))
  | undeclareSubscriber (sub : Option (Fin kconfig.maxSubscribers))

def TransportOp.apply (op : TransportOp kconfig Callback UserData)
    (transport : ZenohTransport kconfig Callback UserData) :
    ZenohTransport kconfig Callback UserData :=
  match op with
  | .init domainId nodeName mode locator outcome =>
      (transport.init domainId nodeName mode locator outcome).2
  | .destroy => transport.destroy
  | .declarePublisher topicName typeName outcome =>
      (transport.declarePublisher topicName typeName outcome).2
  | .declareSubscriber topicName typeName callback userData outcome =>
      (transport.declareSubscriber topicName typeName callback userData outcome).2
  | .undeclarePublisher pub => (transport.undeclarePublisher pub).2
  | .undeclareSubscriber sub => (transport.undeclareSubscriber sub).2

/-- The successful inits that no destroy has answered yet, after one more operation. -/
def TransportOp.outstanding (op : TransportOp kconfig Callback UserData)
    (transport : ZenohTransport kconfig Callback UserData) (count : Nat) : Nat :=
  match op with
  | .init domainId nodeName mode locator outcome =>
      if (transport.init domainId nodeName mode locator outcome).1 = 0 then count + 1
      else count
  | .destroy => count - 1
  | _ => count

/-- The transport with the number of its outstanding inits. -/
structure LifecycleState (kconfig : Kconfig) (Callback UserData : Type) where
  transport : ZenohTransport kconfig Callback UserData
  outstanding : Nat

/-- Operations in any order, with fewer than 2^32 inits outstanding. -/
def transportLifecycle (kconfig : Kconfig) (Callback UserData : Type) :
    StepSystem (LifecycleState kconfig Callback UserData)
      (TransportOp kconfig Callback UserData) where
  start state := state = ⟨.zero, 0⟩
  step before op after :=
    after.transport = op.apply before.transport ∧
      after.outstanding = op.outstanding before.transport before.outstanding ∧
      after.outstanding < 2 ^ 32

/-- What holds between operations. -/
structure LifecycleState.Lawful (state : LifecycleState kconfig Callback UserData) : Prop where
  consistent : ∃ view, state.transport.Consistent view
  counts : state.transport.transportRefCount.toNat = state.outstanding
  opened : state.transport.isInitialized = true ↔ 0 < state.outstanding

theorem lawful_start :
    (⟨.zero, 0⟩ : LifecycleState kconfig Callback UserData).Lawful where
  consistent := by
    refine ⟨ZenohView.empty, ZenohTransport.consistent_of_unused (fun _ => rfl) (fun _ => rfl) ?_⟩
    have tokenNone : (ZenohTransport.zero : ZenohTransport kconfig Callback UserData).tokenHeld =
        fun _ => none := by
      funext owner
      cases owner <;> exact ZenohTransport.tierToken_none kconfig
    rw [tokenNone]
    exact Balanced.start
  counts := rfl
  opened := by simp [ZenohTransport.zero]

theorem TransportOp.consistent {state : LifecycleState kconfig Callback UserData}
    (lawful : state.Lawful) (op : TransportOp kconfig Callback UserData) :
    ∃ view, (op.apply state.transport).Consistent view := by
  obtain ⟨view, consistent⟩ := lawful.consistent
  cases op with
  | init domainId nodeName mode locator outcome =>
      exact consistent.init domainId nodeName mode locator
  | destroy =>
      refine consistent.destroy fun isOpen zero => ?_
      have counted := lawful.counts
      rw [zero] at counted
      have positive := lawful.opened.mp isOpen
      simp at counted
      omega
  | declarePublisher topicName typeName outcome =>
      exact consistent.declarePublisher topicName typeName outcome
  | declareSubscriber topicName typeName callback userData outcome =>
      exact consistent.declareSubscriber topicName typeName callback userData outcome
  | undeclarePublisher pub => exact consistent.undeclarePublisher_handle pub
  | undeclareSubscriber sub => exact consistent.undeclareSubscriber_handle sub

/-- The reference count follows the outstanding inits. -/
theorem TransportOp.counts {state : LifecycleState kconfig Callback UserData}
    (lawful : state.Lawful) (op : TransportOp kconfig Callback UserData)
    (few : op.outstanding state.transport state.outstanding < 2 ^ 32) :
    (op.apply state.transport).transportRefCount.toNat =
        op.outstanding state.transport state.outstanding ∧
      ((op.apply state.transport).isInitialized = true ↔
        0 < op.outstanding state.transport state.outstanding) := by
  obtain ⟨transport, outstanding⟩ := state
  have counted : transport.transportRefCount.toNat = outstanding := lawful.counts
  have opened : transport.isInitialized = true ↔ 0 < outstanding := lawful.opened
  cases op with
  | init domainId nodeName mode locator outcome =>
      simp only [TransportOp.apply, TransportOp.outstanding] at few ⊢
      by_cases isOpen : transport.isInitialized = true
      · rw [ZenohTransport.init_of_open _ _ _ _ isOpen] at few ⊢
        simp only [if_true] at few ⊢
        refine ⟨?_, by simp [isOpen]⟩
        rw [UInt32.toNat_add, counted]
        exact Nat.mod_eq_of_lt few
      · have closed : transport.isInitialized = false := by simpa using isOpen
        have none : outstanding = 0 := by
          have notPositive := mt opened.mpr isOpen
          omega
        by_cases opens : outcome.opened = true
        · obtain ⟨succeeds, nowOpen, one, _⟩ :=
            ZenohTransport.init_of_opens domainId nodeName mode locator closed opens
          simp [succeeds, nowOpen, one, none]
        · have fails : outcome.opened = false := by simpa using opens
          obtain ⟨failed, stillClosed, sameCount, _⟩ :=
            ZenohTransport.init_of_fails domainId nodeName mode locator closed fails
          simp [failed, stillClosed, sameCount, counted, none]
  | destroy =>
      simp only [TransportOp.apply, TransportOp.outstanding] at few ⊢
      by_cases isOpen : transport.isInitialized = true
      · have positive := opened.mp isOpen
        by_cases one : transport.transportRefCount = 1
        · obtain ⟨_, zero, _⟩ := ZenohTransport.releaseAll_frame isOpen
          have single : outstanding = 1 := by rw [← counted, one]; rfl
          rw [ZenohTransport.destroy_of_eq_one isOpen one]
          simp [zero, single]
        · have others : 1 < transport.transportRefCount := by
            rw [← UInt32.toNat_inj] at one
            rw [UInt32.lt_iff_toNat_lt]
            simp at one ⊢
            omega
          have oneLe : (1 : UInt32) ≤ transport.transportRefCount :=
            UInt32.le_of_lt others
          rw [ZenohTransport.destroy_of_lt isOpen others]
          rw [UInt32.lt_iff_toNat_lt, counted] at others
          refine ⟨?_, ?_⟩
          · simp only [UInt32.toNat_sub_of_le _ _ oneLe, counted]
            rfl
          · have several : 1 < outstanding := others
            simp only [isOpen, true_iff]
            omega
      · have none : outstanding = 0 := by
          have notPositive := mt opened.mpr isOpen
          omega
        rw [ZenohTransport.destroy_of_closed (by simpa using isOpen)]
        simp [counted, none, isOpen]
  | declarePublisher topicName typeName outcome =>
      obtain ⟨openSame, countSame, _⟩ :=
        transport.declarePublisher_frame topicName typeName outcome
      exact ⟨countSame ▸ counted, openSame ▸ opened⟩
  | declareSubscriber topicName typeName callback userData outcome =>
      obtain ⟨openSame, countSame, _⟩ :=
        transport.declareSubscriber_frame topicName typeName callback userData outcome
      exact ⟨countSame ▸ counted, openSame ▸ opened⟩
  | undeclarePublisher pub =>
      obtain ⟨openSame, countSame⟩ := transport.undeclarePublisher_frame pub
      exact ⟨countSame ▸ counted, openSame ▸ opened⟩
  | undeclareSubscriber sub =>
      obtain ⟨openSame, countSame⟩ := transport.undeclareSubscriber_frame sub
      exact ⟨countSame ▸ counted, openSame ▸ opened⟩

theorem transportLifecycle_lawful :
    (transportLifecycle kconfig Callback UserData).Invariant LifecycleState.Lawful where
  start state starts := starts ▸ lawful_start
  step before op after lawful steps := by
    obtain ⟨transportEq, countEq, few⟩ := steps
    have counts := op.counts lawful (countEq ▸ few)
    refine ⟨transportEq ▸ op.consistent lawful, ?_, ?_⟩
    · rw [transportEq, countEq, counts.1]
    · rw [transportEq, countEq, counts.2]

namespace ZenohTransport.Consistent

variable {transport : ZenohTransport kconfig Callback UserData}
  {view : ZenohView kconfig.maxPublishers kconfig.maxSubscribers}

theorem pub_inUse_iff (consistent : transport.Consistent view)
    (slot : Fin kconfig.maxPublishers) :
    (transport.pubPool slot).inUse = true ↔ ∃! entity, (entity, slot) ∈ view.livePublishers := by
  rw [consistent.balanced.pubLists.existsUnique_iff, pubHeld]
  split
  case isTrue used => simpa [used] using consistent.pubHolds slot used
  case isFalse unused => simpa using unused

theorem sub_inUse_iff (consistent : transport.Consistent view)
    (slot : Fin kconfig.maxSubscribers) :
    (transport.subPool slot).inUse = true ↔ ∃! entity, (entity, slot) ∈ view.liveSubscribers := by
  rw [consistent.balanced.subLists.existsUnique_iff, subHeld]
  split
  case isTrue used => simpa [used] using consistent.subHolds slot used
  case isFalse unused => simpa using unused

end ZenohTransport.Consistent

/-- The lifecycle guarantees of a transport state, against what zenoh knows. -/
structure ZenohTransport.LifecycleSound (transport : ZenohTransport kconfig Callback UserData)
    (view : ZenohView kconfig.maxPublishers kconfig.maxSubscribers) : Prop where
  noMisuse : ZenohView.replay transport.log = some view
  initialized_iff_counted : transport.isInitialized = true ↔ 0 < transport.transportRefCount
  initialized_iff_session : transport.isInitialized = true ↔ view.openSessions = 1
  oneSession : view.openSessions ≤ 1
  publisherUsed : ∀ slot, (transport.pubPool slot).inUse = true ↔
    ∃! entity, (entity, slot) ∈ view.livePublishers
  publisherFree : ∀ slot, (transport.pubPool slot).inUse = false →
    ∀ entity, (entity, slot) ∉ view.livePublishers
  subscriberUsed : ∀ slot, (transport.subPool slot).inUse = true ↔
    ∃! entity, (entity, slot) ∈ view.liveSubscribers
  subscriberFree : ∀ slot, (transport.subPool slot).inUse = false →
    ∀ entity, (entity, slot) ∉ view.liveSubscribers
  publishersEndOnce : ZenohView.EndsOnce (fun known => known.livePublishers)
    (fun entity => .undeclarePublisher (some entity)) transport.log
  subscribersEndOnce : ZenohView.EndsOnce (fun known => known.liveSubscribers)
    (fun entity => .undeclareSubscriber (some entity)) transport.log
  tokensEndOnce : ZenohView.EndsOnce (fun known => known.liveTokens)
    (fun token => .undeclareToken (some token)) transport.log
  lastDestroy : transport.transportRefCount = 1 →
    ∃ calls, transport.destroy.log = transport.log ++ calls ++ [.closeSession] ∧
      (∀ entry ∈ view.livePublishers, .undeclarePublisher (some entry.1) ∈ calls) ∧
      (∀ entry ∈ view.liveSubscribers, .undeclareSubscriber (some entry.1) ∈ calls) ∧
      ∀ entry ∈ view.liveTokens, .undeclareToken (some entry.1) ∈ calls
  nullPublisher : ∀ topicName typeName outcome,
    let result := transport.declarePublisher topicName typeName outcome
    result.1 = none →
      (∀ slot, (result.2.pubPool slot).inUse = (transport.pubPool slot).inUse) ∧
      (∀ slot, (result.2.subPool slot).inUse = (transport.subPool slot).inUse) ∧
      (ZenohTransport.TypeKnown kconfig typeName → outcome.declared = true →
        transport.isInitialized = false ∨ ∀ slot, (transport.pubPool slot).inUse = true)
  nullSubscriber : ∀ topicName typeName callback userData outcome,
    let result := transport.declareSubscriber topicName typeName callback userData outcome
    result.1 = none →
      (∀ slot, (result.2.pubPool slot).inUse = (transport.pubPool slot).inUse) ∧
      (∀ slot, (result.2.subPool slot).inUse = (transport.subPool slot).inUse) ∧
      (ZenohTransport.TypeKnown kconfig typeName → outcome.declared = true →
        transport.isInitialized = false ∨ ∀ slot, (transport.subPool slot).inUse = true)
  publisherHandle : ∀ topicName typeName outcome slot,
    let result := transport.declarePublisher topicName typeName outcome
    result.1 = some slot → (transport.pubPool slot).inUse = false ∧
      (result.2.pubPool slot).inUse = true ∧
      ∃ after, ZenohView.replay result.2.log = some after ∧
        ∃! entity, (entity, slot) ∈ after.livePublishers
  subscriberHandle : ∀ topicName typeName callback userData outcome slot,
    let result := transport.declareSubscriber topicName typeName callback userData outcome
    result.1 = some slot → (transport.subPool slot).inUse = false ∧
      (result.2.subPool slot).inUse = true ∧
      ∃ after, ZenohView.replay result.2.log = some after ∧
        ∃! entity, (entity, slot) ∈ after.liveSubscribers

/-- In every run of lifecycle operations the transport is sound. -/
theorem transport_lifecycle_sound {state : LifecycleState kconfig Callback UserData}
    (reached : (transportLifecycle kconfig Callback UserData).Reachable state) :
    ∃ view, state.transport.LifecycleSound view := by
  have lawful := transportLifecycle_lawful.reachable reached
  obtain ⟨view, consistent⟩ := lawful.consistent
  have balanced := consistent.balanced
  have counted : state.transport.isInitialized = true ↔
      0 < state.transport.transportRefCount := by
    rw [lawful.opened, UInt32.lt_iff_toNat_lt, lawful.counts]
    rfl
  refine ⟨view, ?_⟩
  exact {
    noMisuse := balanced.replays
    initialized_iff_counted := counted
    initialized_iff_session := by rw [balanced.sessions]; split <;> simp_all
    oneSession := by rw [balanced.sessions]; split <;> simp
    publisherUsed := consistent.pub_inUse_iff
    publisherFree := fun slot unused entity => by
      rw [balanced.pubLists, ZenohTransport.pubHeld, unused]
      simp
    subscriberUsed := consistent.sub_inUse_iff
    subscriberFree := fun slot unused entity => by
      rw [balanced.subLists, ZenohTransport.subHeld, unused]
      simp
    publishersEndOnce := ZenohView.follows_livePublishers.endsOnce balanced.replays
    subscribersEndOnce := ZenohView.follows_liveSubscribers.endsOnce balanced.replays
    tokensEndOnce := ZenohView.follows_liveTokens.endsOnce balanced.replays
    lastDestroy := fun one =>
      consistent.destroy_undeclares (counted.mpr (by simp [one])) one
    nullPublisher := fun topicName typeName outcome answersNull => by
      obtain ⟨_, _, subsSame, frame⟩ :=
        state.transport.declarePublisher_frame topicName typeName outcome
      exact ⟨(frame answersNull).1, by simp [subsSame], (frame answersNull).2⟩
    nullSubscriber := fun topicName typeName callback userData outcome answersNull => by
      obtain ⟨_, _, pubsSame, frame⟩ :=
        state.transport.declareSubscriber_frame topicName typeName callback userData outcome
      exact ⟨by simp [pubsSame], (frame answersNull).1, (frame answersNull).2⟩
    publisherHandle := fun topicName typeName outcome slot answers => by
      obtain ⟨free, used⟩ := state.transport.declarePublisher_of_some topicName typeName
        outcome answers
      obtain ⟨after, consistentAfter⟩ :=
        (TransportOp.declarePublisher topicName typeName outcome).consistent lawful
      exact ⟨free, used, after, consistentAfter.balanced.replays,
        (consistentAfter.pub_inUse_iff slot).mp used⟩
    subscriberHandle := fun topicName typeName callback userData outcome slot answers => by
      obtain ⟨free, used⟩ := state.transport.declareSubscriber_of_some topicName typeName
        callback userData outcome answers
      obtain ⟨after, consistentAfter⟩ :=
        (TransportOp.declareSubscriber topicName typeName callback userData outcome).consistent
          lawful
      exact ⟨free, used, after, consistentAfter.balanced.replays,
        (consistentAfter.sub_inUse_iff slot).mp used⟩ }

theorem transport_lifecycle_sound_publisher :
    let opening : TransportOp (Kconfig.default .tier1) Unit Unit :=
      .init 0 (.ofString "zenbedded_node") (.ofString "client") none
        ⟨true, true, true, true, [1, 2]⟩
    let declaring : TransportOp (Kconfig.default .tier1) Unit Unit :=
      .declarePublisher (.ofString "joint_states") (some rclStateMsgTypeString)
        ⟨true, false, [1, 2], [3]⟩
    ∃ view, (declaring.apply (opening.apply .zero)).LifecycleSound view := by
  intro opening declaring
  have opened : (transportLifecycle (Kconfig.default .tier1) Unit Unit).Reachable
      ⟨opening.apply .zero, 1⟩ :=
    .step (.start rfl) (show (transportLifecycle _ Unit Unit).step ⟨.zero, 0⟩ opening _ from
      ⟨rfl, rfl, by decide⟩)
  have declared : (transportLifecycle (Kconfig.default .tier1) Unit Unit).Reachable
      ⟨declaring.apply (opening.apply .zero), 1⟩ :=
    .step opened (show (transportLifecycle _ Unit Unit).step _ declaring _ from
      ⟨rfl, rfl, by decide⟩)
  exact transport_lifecycle_sound declared

end Zenbedded
