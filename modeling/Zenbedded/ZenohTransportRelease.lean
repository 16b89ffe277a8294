import Zenbedded.ZenohTransportHoldings

/-!
# Undeclaring and destroying

Undeclaring gives a slot and its entities back; the last destroy gives everything
back and closes the session.
-/

namespace Zenbedded

open ResourceLedger

variable {kconfig : Kconfig} {Callback UserData : Type}

namespace ZenohTransport

variable {transport : ZenohTransport kconfig Callback UserData}
  {view : ZenohView kconfig.maxPublishers kconfig.maxSubscribers}

/-! ## Undeclaring -/

section Undeclare

variable (transport) (token : Option Nat)

@[simp]
theorem pubPool_undeclareLvToken :
    (transport.undeclareLvToken token).pubPool = transport.pubPool := by
  unfold undeclareLvToken
  split <;> rfl

@[simp]
theorem subPool_undeclareLvToken :
    (transport.undeclareLvToken token).subPool = transport.subPool := by
  unfold undeclareLvToken
  split <;> rfl

@[simp]
theorem isInitialized_undeclareLvToken :
    (transport.undeclareLvToken token).isInitialized = transport.isInitialized := by
  unfold undeclareLvToken
  split <;> rfl

@[simp]
theorem transportRefCount_undeclareLvToken :
    (transport.undeclareLvToken token).transportRefCount = transport.transportRefCount := by
  unfold undeclareLvToken
  split <;> rfl

@[simp]
theorem pubHeld_undeclareLvToken :
    (transport.undeclareLvToken token).pubHeld = transport.pubHeld := by
  unfold undeclareLvToken
  split <;> rfl

@[simp]
theorem subHeld_undeclareLvToken :
    (transport.undeclareLvToken token).subHeld = transport.subHeld := by
  unfold undeclareLvToken
  split <;> rfl

@[simp]
theorem tokenHeld_undeclareLvToken :
    (transport.undeclareLvToken token).tokenHeld = transport.tokenHeld := by
  unfold undeclareLvToken
  split <;> rfl

end Undeclare

theorem undeclareLvToken_balanced
    (balanced : Balanced transport.log transport.isInitialized transport.pubHeld
      transport.subHeld transport.tokenHeld view)
    (opened : transport.isInitialized = true) {token : Option Nat}
    (owner : TokenOwner kconfig.maxPublishers kconfig.maxSubscribers)
    (holds : transport.tokenHeld owner = tierToken kconfig token) :
    ∃ after, Balanced (transport.undeclareLvToken token).log transport.isInitialized
      transport.pubHeld transport.subHeld
      (Function.update transport.tokenHeld owner none) after := by
  cases tierEq : kconfig.tier with
  | tier1 =>
      simp only [tierToken, tierEq] at holds
      simp only [undeclareLvToken, tierEq, ← holds]
      exact balanced.undeclareToken opened owner
  | tier2 =>
      simp only [tierToken, tierEq] at holds
      simp only [undeclareLvToken, tierEq]
      rw [Function.update_eq_self_iff.mpr holds.symm]
      exact ⟨view, balanced⟩

theorem undeclarePublisher_eq {slot : Fin kconfig.maxPublishers}
    (opened : transport.isInitialized = true)
    (used : (transport.pubPool slot).inUse = true) :
    transport.undeclarePublisher (some slot) =
      (0, ((transport.undeclareLvToken (transport.pubPool slot).lvToken).call
        (.undeclarePublisher (transport.pubPool slot).zPub)).setPub slot
          { transport.pubPool slot with inUse := false, zPub := none, lvToken := none }) := by
  simp [undeclarePublisher, opened, used]

theorem undeclareSubscriber_eq {slot : Fin kconfig.maxSubscribers}
    (opened : transport.isInitialized = true)
    (used : (transport.subPool slot).inUse = true) :
    transport.undeclareSubscriber (some slot) =
      (0, ((transport.undeclareLvToken (transport.subPool slot).lvToken).call
        (.undeclareSubscriber (transport.subPool slot).zSub)).setSub slot
          { transport.subPool slot with inUse := false, zSub := none, lvToken := none }) := by
  simp [undeclareSubscriber, opened, used]

theorem Consistent.undeclarePublisher (consistent : transport.Consistent view)
    {slot : Fin kconfig.maxPublishers} (used : (transport.pubPool slot).inUse = true) :
    ∃ after, (transport.undeclarePublisher (some slot)).2.Consistent after := by
  have opened := consistent.pubOpen slot used
  obtain ⟨entity, holdsEntity⟩ := Option.isSome_iff_exists.mp (consistent.pubHolds slot used)
  have pubHolds : transport.pubHeld slot = some entity := by simp [pubHeld, used, holdsEntity]
  have tokenHolds : transport.tokenHeld (.pub slot) =
      tierToken kconfig (transport.pubPool slot).lvToken := by
    simp [tokenHeld, used]
  obtain ⟨middle, tokenGone⟩ :=
    undeclareLvToken_balanced consistent.balanced opened (.pub slot) tokenHolds
  obtain ⟨after, pubGone⟩ := tokenGone.undeclarePublisher opened pubHolds
  refine ⟨after, ?_⟩
  rw [undeclarePublisher_eq opened used, holdsEntity]
  refine ⟨by simpa using pubGone, ?pubHolds, by simpa using consistent.subHolds, ?pubOpen,
    by simpa using consistent.subOpen⟩
  case pubHolds =>
    intro other
    rcases eq_or_ne other slot with rfl | different
    · simp
    · simpa [different] using consistent.pubHolds other
  case pubOpen =>
    intro other
    rcases eq_or_ne other slot with rfl | different
    · simp
    · simpa [different] using consistent.pubOpen other

theorem Consistent.undeclareSubscriber (consistent : transport.Consistent view)
    {slot : Fin kconfig.maxSubscribers} (used : (transport.subPool slot).inUse = true) :
    ∃ after, (transport.undeclareSubscriber (some slot)).2.Consistent after := by
  have opened := consistent.subOpen slot used
  obtain ⟨entity, holdsEntity⟩ := Option.isSome_iff_exists.mp (consistent.subHolds slot used)
  have subHolds : transport.subHeld slot = some entity := by simp [subHeld, used, holdsEntity]
  have tokenHolds : transport.tokenHeld (.sub slot) =
      tierToken kconfig (transport.subPool slot).lvToken := by
    simp [tokenHeld, used]
  obtain ⟨middle, tokenGone⟩ :=
    undeclareLvToken_balanced consistent.balanced opened (.sub slot) tokenHolds
  obtain ⟨after, subGone⟩ := tokenGone.undeclareSubscriber opened subHolds
  refine ⟨after, ?_⟩
  rw [undeclareSubscriber_eq opened used, holdsEntity]
  refine ⟨by simpa using subGone, by simpa using consistent.pubHolds, ?subHolds,
    by simpa using consistent.pubOpen, ?subOpen⟩
  case subHolds =>
    intro other
    rcases eq_or_ne other slot with rfl | different
    · simp
    · simpa [different] using consistent.subHolds other
  case subOpen =>
    intro other
    rcases eq_or_ne other slot with rfl | different
    · simp
    · simpa [different] using consistent.subOpen other

/-- Undeclaring with any handle. -/
theorem Consistent.undeclarePublisher_handle (consistent : transport.Consistent view)
    (pub : Option (Fin kconfig.maxPublishers)) :
    ∃ after, (transport.undeclarePublisher pub).2.Consistent after := by
  cases pub with
  | none => exact ⟨view, consistent⟩
  | some slot =>
      by_cases used : (transport.pubPool slot).inUse = true
      · exact consistent.undeclarePublisher used
      · refine ⟨view, ?_⟩
        simpa [ZenohTransport.undeclarePublisher, used] using consistent

theorem Consistent.undeclareSubscriber_handle (consistent : transport.Consistent view)
    (sub : Option (Fin kconfig.maxSubscribers)) :
    ∃ after, (transport.undeclareSubscriber sub).2.Consistent after := by
  cases sub with
  | none => exact ⟨view, consistent⟩
  | some slot =>
      by_cases used : (transport.subPool slot).inUse = true
      · exact consistent.undeclareSubscriber used
      · refine ⟨view, ?_⟩
        simpa [ZenohTransport.undeclareSubscriber, used] using consistent

variable (transport) in
theorem undeclarePublisher_frame (pub : Option (Fin kconfig.maxPublishers)) :
    (transport.undeclarePublisher pub).2.isInitialized = transport.isInitialized ∧
      (transport.undeclarePublisher pub).2.transportRefCount = transport.transportRefCount := by
  unfold undeclarePublisher
  split
  · exact ⟨rfl, rfl⟩
  · split
    · exact ⟨rfl, rfl⟩
    · simp

variable (transport) in
theorem undeclareSubscriber_frame (sub : Option (Fin kconfig.maxSubscribers)) :
    (transport.undeclareSubscriber sub).2.isInitialized = transport.isInitialized ∧
      (transport.undeclareSubscriber sub).2.transportRefCount = transport.transportRefCount := by
  unfold undeclareSubscriber
  split
  · exact ⟨rfl, rfl⟩
  · split
    · exact ⟨rfl, rfl⟩
    · simp

/-! ## Destroying -/

theorem releasePub_frame (opened : transport.isInitialized = true)
    (slot : Fin kconfig.maxPublishers) :
    (transport.releasePub slot).isInitialized = true ∧
      (transport.releasePub slot).transportRefCount = transport.transportRefCount ∧
      (transport.releasePub slot).subPool = transport.subPool ∧
      ∀ other, ((transport.releasePub slot).pubPool other).inUse = true ↔
        (transport.pubPool other).inUse = true ∧ other ≠ slot := by
  unfold releasePub
  split
  case isTrue used =>
    rw [undeclarePublisher_eq opened used]
    refine ⟨by simpa using opened, by simp, by simp, fun other => ?_⟩
    rcases eq_or_ne other slot with rfl | different
    · simp
    · simp [different]
  case isFalse unused =>
    refine ⟨opened, rfl, rfl, fun other => ⟨fun used => ⟨used, ?_⟩, And.left⟩⟩
    rintro rfl
    exact unused used

theorem releaseSub_frame (opened : transport.isInitialized = true)
    (slot : Fin kconfig.maxSubscribers) :
    (transport.releaseSub slot).isInitialized = true ∧
      (transport.releaseSub slot).transportRefCount = transport.transportRefCount ∧
      (transport.releaseSub slot).pubPool = transport.pubPool ∧
      ∀ other, ((transport.releaseSub slot).subPool other).inUse = true ↔
        (transport.subPool other).inUse = true ∧ other ≠ slot := by
  unfold releaseSub
  split
  case isTrue used =>
    rw [undeclareSubscriber_eq opened used]
    refine ⟨by simpa using opened, by simp, by simp, fun other => ?_⟩
    rcases eq_or_ne other slot with rfl | different
    · simp
    · simp [different]
  case isFalse unused =>
    refine ⟨opened, rfl, rfl, fun other => ⟨fun used => ⟨used, ?_⟩, And.left⟩⟩
    rintro rfl
    exact unused used

theorem Consistent.releasePub (consistent : transport.Consistent view)
    (slot : Fin kconfig.maxPublishers) :
    ∃ after, (transport.releasePub slot).Consistent after := by
  unfold ZenohTransport.releasePub
  split
  case isTrue used => exact consistent.undeclarePublisher used
  case isFalse => exact ⟨view, consistent⟩

theorem Consistent.releaseSub (consistent : transport.Consistent view)
    (slot : Fin kconfig.maxSubscribers) :
    ∃ after, (transport.releaseSub slot).Consistent after := by
  unfold ZenohTransport.releaseSub
  split
  case isTrue used => exact consistent.undeclareSubscriber used
  case isFalse => exact ⟨view, consistent⟩

theorem releasePubs_frame (opened : transport.isInitialized = true)
    (slots : List (Fin kconfig.maxPublishers)) :
    (slots.foldl releasePub transport).isInitialized = true ∧
      (slots.foldl releasePub transport).transportRefCount = transport.transportRefCount ∧
      (slots.foldl releasePub transport).subPool = transport.subPool ∧
      ∀ other, ((slots.foldl releasePub transport).pubPool other).inUse = true ↔
        (transport.pubPool other).inUse = true ∧ other ∉ slots := by
  induction slots generalizing transport with
  | nil => simpa using opened
  | cons slot slots ih =>
      obtain ⟨stepOpened, stepCount, stepSubs, stepUsed⟩ := releasePub_frame opened slot
      obtain ⟨restOpened, restCount, restSubs, restUsed⟩ := ih stepOpened
      refine ⟨restOpened, restCount.trans stepCount, restSubs.trans stepSubs, fun other => ?_⟩
      rw [List.foldl_cons, restUsed, stepUsed, List.mem_cons, not_or, and_assoc]

theorem releaseSubs_frame (opened : transport.isInitialized = true)
    (slots : List (Fin kconfig.maxSubscribers)) :
    (slots.foldl releaseSub transport).isInitialized = true ∧
      (slots.foldl releaseSub transport).transportRefCount = transport.transportRefCount ∧
      (slots.foldl releaseSub transport).pubPool = transport.pubPool ∧
      ∀ other, ((slots.foldl releaseSub transport).subPool other).inUse = true ↔
        (transport.subPool other).inUse = true ∧ other ∉ slots := by
  induction slots generalizing transport with
  | nil => simpa using opened
  | cons slot slots ih =>
      obtain ⟨stepOpened, stepCount, stepPubs, stepUsed⟩ := releaseSub_frame opened slot
      obtain ⟨restOpened, restCount, restPubs, restUsed⟩ := ih stepOpened
      refine ⟨restOpened, restCount.trans stepCount, restPubs.trans stepPubs, fun other => ?_⟩
      rw [List.foldl_cons, restUsed, stepUsed, List.mem_cons, not_or, and_assoc]

theorem Consistent.releasePubs (consistent : transport.Consistent view)
    (slots : List (Fin kconfig.maxPublishers)) :
    ∃ after, (slots.foldl ZenohTransport.releasePub transport).Consistent after := by
  induction slots generalizing transport view with
  | nil => exact ⟨view, consistent⟩
  | cons slot slots ih =>
      obtain ⟨middle, released⟩ := consistent.releasePub slot
      exact ih released

theorem Consistent.releaseSubs (consistent : transport.Consistent view)
    (slots : List (Fin kconfig.maxSubscribers)) :
    ∃ after, (slots.foldl ZenohTransport.releaseSub transport).Consistent after := by
  induction slots generalizing transport view with
  | nil => exact ⟨view, consistent⟩
  | cons slot slots ih =>
      obtain ⟨middle, released⟩ := consistent.releaseSub slot
      exact ih released

section CloseSession

variable (transport)

theorem log_closeSession : transport.closeSession.log =
    (transport.undeclareLvToken transport.nodeLvToken).log ++
      [.stopReadTask, .stopLeaseTask, .closeSession] := by
  simp [closeSession, call]

@[simp]
theorem isInitialized_closeSession : transport.closeSession.isInitialized = false := rfl

@[simp]
theorem transportRefCount_closeSession :
    transport.closeSession.transportRefCount = transport.transportRefCount :=
  transportRefCount_undeclareLvToken transport _

@[simp]
theorem pubPool_closeSession : transport.closeSession.pubPool = transport.pubPool :=
  pubPool_undeclareLvToken transport _

@[simp]
theorem subPool_closeSession : transport.closeSession.subPool = transport.subPool :=
  subPool_undeclareLvToken transport _

end CloseSession

/-- Closing the session once no slot is in use. -/
theorem Consistent.closeSession (consistent : transport.Consistent view)
    (opened : transport.isInitialized = true)
    (pubsFree : ∀ slot, (transport.pubPool slot).inUse = false)
    (subsFree : ∀ slot, (transport.subPool slot).inUse = false) :
    ∃ after, transport.closeSession.Consistent after := by
  have tokenHolds : transport.tokenHeld .node = tierToken kconfig transport.nodeLvToken := by
    simp [tokenHeld, opened]
  obtain ⟨middle, tokenGone⟩ :=
    undeclareLvToken_balanced consistent.balanced opened .node tokenHolds
  have pubNone : ∀ slot, transport.pubHeld slot = none := by simp [pubHeld, pubsFree]
  have subNone : ∀ slot, transport.subHeld slot = none := by simp [subHeld, subsFree]
  have tokenNone : ∀ owner, Function.update transport.tokenHeld .node none owner = none := by
    intro owner
    cases owner with
    | node => simp
    | pub slot => simp [tokenHeld, pubsFree]
    | sub slot => simp [tokenHeld, subsFree]
  have stopped := (tokenGone.unchanged .stopReadTask rfl).unchanged
    .stopLeaseTask rfl
  obtain ⟨after, closed⟩ := stopped.closeSession opened pubNone subNone tokenNone
  have pubsSame : transport.closeSession.pubHeld = transport.pubHeld := by
    funext slot
    simp [pubHeld]
  have subsSame : transport.closeSession.subHeld = transport.subHeld := by
    funext slot
    simp [subHeld]
  have tokensGone : transport.closeSession.tokenHeld =
      Function.update transport.tokenHeld .node none := by
    funext owner
    rw [tokenNone owner]
    cases owner <;> simp [tokenHeld, pubsFree, subsFree]
  refine ⟨after, ?balanced, by simp [pubsFree], by simp [subsFree], by simp [pubsFree],
    by simp [subsFree]⟩
  rw [pubsSame, subsSame, tokensGone, log_closeSession]
  simpa using closed

/-- A destroy with other references outstanding only counts down. -/
theorem destroy_of_lt (opened : transport.isInitialized = true)
    (others : 1 < transport.transportRefCount) :
    transport.destroy =
      { transport with transportRefCount := transport.transportRefCount - 1 } := by
  have remaining : 0 < transport.transportRefCount - 1 := by
    rw [UInt32.lt_iff_toNat_lt] at others ⊢
    rw [UInt32.toNat_sub_of_le _ _ (UInt32.le_iff_toNat_le.mpr (Nat.le_of_lt others))]
    simpa using Nat.sub_pos_of_lt others
  have nonzero : transport.transportRefCount ≠ 0 := by
    rintro zero
    simp [zero] at others
  simp [destroy, opened, nonzero, remaining]

def releaseAll (transport : ZenohTransport kconfig Callback UserData) :
    ZenohTransport kconfig Callback UserData :=
  (List.finRange kconfig.maxSubscribers).foldl releaseSub
    ((List.finRange kconfig.maxPublishers).foldl releasePub
      { transport with transportRefCount := 0 })

theorem destroy_of_eq_one (opened : transport.isInitialized = true)
    (one : transport.transportRefCount = 1) :
    transport.destroy = transport.releaseAll.closeSession := by
  simp [destroy, releaseAll, opened, one]

theorem destroy_of_closed (closed : transport.isInitialized = false) :
    transport.destroy = transport := by
  simp [destroy, closed]

theorem releaseAll_frame (opened : transport.isInitialized = true) :
    transport.releaseAll.isInitialized = true ∧
      transport.releaseAll.transportRefCount = 0 ∧
      (∀ slot, (transport.releaseAll.pubPool slot).inUse = false) ∧
      ∀ slot, (transport.releaseAll.subPool slot).inUse = false := by
  have countedOpened : ({ transport with transportRefCount := 0 } :
      ZenohTransport kconfig Callback UserData).isInitialized = true := opened
  obtain ⟨pubsOpened, pubsCount, _, pubsUsed⟩ :=
    releasePubs_frame countedOpened (List.finRange kconfig.maxPublishers)
  obtain ⟨subsOpened, subsCount, subsPubs, subsUsed⟩ := releaseSubs_frame pubsOpened
    (List.finRange kconfig.maxSubscribers)
  refine ⟨subsOpened, subsCount.trans pubsCount, fun slot => ?_, fun slot => ?_⟩
  · rw [releaseAll, subsPubs]
    simpa using pubsUsed slot
  · simpa [releaseAll] using subsUsed slot

theorem Consistent.destroy (consistent : transport.Consistent view)
    (counted : transport.isInitialized = true → transport.transportRefCount ≠ 0) :
    ∃ after, transport.destroy.Consistent after := by
  by_cases opened : transport.isInitialized = true
  · by_cases one : transport.transportRefCount = 1
    · obtain ⟨middle, pubsReleased⟩ :=
        (consistent.setRefCount 0).releasePubs (List.finRange kconfig.maxPublishers)
      obtain ⟨released, subsReleased⟩ :=
        pubsReleased.releaseSubs (List.finRange kconfig.maxSubscribers)
      obtain ⟨releasedOpened, _, pubsFree, subsFree⟩ := releaseAll_frame opened
      rw [destroy_of_eq_one opened one]
      have releasedAll : transport.releaseAll.Consistent released := subsReleased
      exact releasedAll.closeSession releasedOpened pubsFree subsFree
    · have others : 1 < transport.transportRefCount := by
        have nonzero := counted opened
        rw [← UInt32.toNat_inj] at one
        rw [ne_eq, ← UInt32.toNat_inj] at nonzero
        rw [UInt32.lt_iff_toNat_lt]
        simp at one nonzero ⊢
        omega
      rw [destroy_of_lt opened others]
      exact ⟨view, consistent.setRefCount _⟩
  · rw [destroy_of_closed (by simpa using opened)]
    exact ⟨view, consistent⟩

/-! ## The calls of the last destroy -/

section Log

variable (transport)

theorem log_undeclareLvToken_extends (token : Option Nat) :
    transport.log <+: (transport.undeclareLvToken token).log := by
  unfold undeclareLvToken
  split
  · exact List.prefix_append _ _
  · exact List.prefix_rfl

theorem log_releasePub_extends (opened : transport.isInitialized = true)
    (slot : Fin kconfig.maxPublishers) : transport.log <+: (transport.releasePub slot).log := by
  unfold releasePub
  split
  case isTrue used =>
    rw [undeclarePublisher_eq opened used]
    exact (log_undeclareLvToken_extends transport _).trans (List.prefix_append _ _)
  case isFalse => exact List.prefix_rfl

theorem log_releaseSub_extends (opened : transport.isInitialized = true)
    (slot : Fin kconfig.maxSubscribers) : transport.log <+: (transport.releaseSub slot).log := by
  unfold releaseSub
  split
  case isTrue used =>
    rw [undeclareSubscriber_eq opened used]
    exact (log_undeclareLvToken_extends transport _).trans (List.prefix_append _ _)
  case isFalse => exact List.prefix_rfl

variable {transport}

theorem log_releasePubs_extends (opened : transport.isInitialized = true)
    (slots : List (Fin kconfig.maxPublishers)) :
    transport.log <+: (slots.foldl releasePub transport).log := by
  induction slots generalizing transport with
  | nil => exact List.prefix_rfl
  | cons slot slots ih =>
      exact (log_releasePub_extends transport opened slot).trans
        (ih (releasePub_frame opened slot).1)

theorem log_releaseSubs_extends (opened : transport.isInitialized = true)
    (slots : List (Fin kconfig.maxSubscribers)) :
    transport.log <+: (slots.foldl releaseSub transport).log := by
  induction slots generalizing transport with
  | nil => exact List.prefix_rfl
  | cons slot slots ih =>
      exact (log_releaseSub_extends transport opened slot).trans
        (ih (releaseSub_frame opened slot).1)

/-- The last destroy ends with closing the session. -/
theorem log_destroy_of_eq_one (opened : transport.isInitialized = true)
    (one : transport.transportRefCount = 1) :
    ∃ calls, transport.destroy.log = transport.log ++ calls ++ [.closeSession] := by
  have countedOpened : ({ transport with transportRefCount := 0 } :
      ZenohTransport kconfig Callback UserData).isInitialized = true := opened
  have pubs := log_releasePubs_extends countedOpened (List.finRange kconfig.maxPublishers)
  have pubsOpened :=
    (releasePubs_frame countedOpened (List.finRange kconfig.maxPublishers)).1
  have subs := log_releaseSubs_extends pubsOpened (List.finRange kconfig.maxSubscribers)
  have token := log_undeclareLvToken_extends transport.releaseAll transport.releaseAll.nodeLvToken
  obtain ⟨calls, callsEq⟩ := (pubs.trans subs).trans token
  refine ⟨calls ++ [.stopReadTask, .stopLeaseTask], ?_⟩
  rw [destroy_of_eq_one opened one, log_closeSession, ← callsEq]
  simp

end Log

end ZenohTransport

end Zenbedded
