import Zenbedded.ZenohBooks

/-!
# What the transport holds

The entities that the static variables of the transport hold, and the agreement of
those variables with the books of zenoh.
-/

namespace Zenbedded

open ResourceLedger

variable {kconfig : Kconfig} {Callback UserData : Type}

namespace ZenohTransport

variable {transport : ZenohTransport kconfig Callback UserData}

/-! ## What the variables hold -/

def pubHeld (transport : ZenohTransport kconfig Callback UserData)
    (slot : Fin kconfig.maxPublishers) : Option Nat :=
  if (transport.pubPool slot).inUse then (transport.pubPool slot).zPub else none

def subHeld (transport : ZenohTransport kconfig Callback UserData)
    (slot : Fin kconfig.maxSubscribers) : Option Nat :=
  if (transport.subPool slot).inUse then (transport.subPool slot).zSub else none

/-- A token that only Tier 1 has. -/
def tierToken (kconfig : Kconfig) (token : Option Nat) : Option Nat :=
  match kconfig.tier with
  | .tier1 => token
  | .tier2 => none

def tokenHeld (transport : ZenohTransport kconfig Callback UserData)
    (owner : TokenOwner kconfig.maxPublishers kconfig.maxSubscribers) : Option Nat :=
  tierToken kconfig <| match owner with
    | .node => if transport.isInitialized then transport.nodeLvToken else none
    | .pub slot =>
        if (transport.pubPool slot).inUse then (transport.pubPool slot).lvToken else none
    | .sub slot =>
        if (transport.subPool slot).inUse then (transport.subPool slot).lvToken else none

/-- The transport's variables agree with zenoh. -/
structure Consistent (transport : ZenohTransport kconfig Callback UserData)
    (view : ZenohView kconfig.maxPublishers kconfig.maxSubscribers) : Prop where
  balanced : Balanced transport.log transport.isInitialized transport.pubHeld
    transport.subHeld transport.tokenHeld view
  pubHolds : ∀ slot, (transport.pubPool slot).inUse →
    (transport.pubPool slot).zPub.isSome
  subHolds : ∀ slot, (transport.subPool slot).inUse →
    (transport.subPool slot).zSub.isSome
  pubOpen : ∀ slot, (transport.pubPool slot).inUse → transport.isInitialized
  subOpen : ∀ slot, (transport.subPool slot).inUse → transport.isInitialized

section Frame

variable (transport)
  (zenohCall : ZenohCall kconfig.maxPublishers kconfig.maxSubscribers)
  (pubSlot : Fin kconfig.maxPublishers) (pub : ZenbeddedPub)
  (subSlot : Fin kconfig.maxSubscribers) (sub : ZenbeddedSub Callback UserData)

@[simp]
theorem log_call : (transport.call zenohCall).log = transport.log ++ [zenohCall] := rfl

@[simp]
theorem isInitialized_call :
    (transport.call zenohCall).isInitialized = transport.isInitialized := rfl

@[simp]
theorem pubPool_call : (transport.call zenohCall).pubPool = transport.pubPool := rfl

@[simp]
theorem subPool_call : (transport.call zenohCall).subPool = transport.subPool := rfl

@[simp]
theorem pubHeld_call : (transport.call zenohCall).pubHeld = transport.pubHeld := rfl

@[simp]
theorem subHeld_call : (transport.call zenohCall).subHeld = transport.subHeld := rfl

@[simp]
theorem transportRefCount_call :
    (transport.call zenohCall).transportRefCount = transport.transportRefCount := rfl

@[simp]
theorem tokenHeld_call : (transport.call zenohCall).tokenHeld = transport.tokenHeld := rfl

@[simp]
theorem log_setPub : (transport.setPub pubSlot pub).log = transport.log := rfl

@[simp]
theorem isInitialized_setPub :
    (transport.setPub pubSlot pub).isInitialized = transport.isInitialized := rfl

@[simp]
theorem pubPool_setPub : (transport.setPub pubSlot pub).pubPool =
    Function.update transport.pubPool pubSlot pub := rfl

@[simp]
theorem subPool_setPub : (transport.setPub pubSlot pub).subPool = transport.subPool := rfl

@[simp]
theorem transportRefCount_setPub :
    (transport.setPub pubSlot pub).transportRefCount = transport.transportRefCount := rfl

@[simp]
theorem subHeld_setPub : (transport.setPub pubSlot pub).subHeld = transport.subHeld := rfl

@[simp]
theorem log_setSub : (transport.setSub subSlot sub).log = transport.log := rfl

@[simp]
theorem isInitialized_setSub :
    (transport.setSub subSlot sub).isInitialized = transport.isInitialized := rfl

@[simp]
theorem pubPool_setSub : (transport.setSub subSlot sub).pubPool = transport.pubPool := rfl

@[simp]
theorem subPool_setSub : (transport.setSub subSlot sub).subPool =
    Function.update transport.subPool subSlot sub := rfl

@[simp]
theorem transportRefCount_setSub :
    (transport.setSub subSlot sub).transportRefCount = transport.transportRefCount := rfl

@[simp]
theorem pubHeld_setSub : (transport.setSub subSlot sub).pubHeld = transport.pubHeld := rfl

end Frame

@[simp]
theorem pubHeld_setPub (slot : Fin kconfig.maxPublishers) (pub : ZenbeddedPub) :
    (transport.setPub slot pub).pubHeld =
      Function.update transport.pubHeld slot (if pub.inUse then pub.zPub else none) := by
  funext other
  rcases eq_or_ne other slot with rfl | different
  · simp [pubHeld, setPub]
  · simp [pubHeld, setPub, different]

@[simp]
theorem subHeld_setSub (slot : Fin kconfig.maxSubscribers)
    (sub : ZenbeddedSub Callback UserData) :
    (transport.setSub slot sub).subHeld =
      Function.update transport.subHeld slot (if sub.inUse then sub.zSub else none) := by
  funext other
  rcases eq_or_ne other slot with rfl | different
  · simp [subHeld, setSub]
  · simp [subHeld, setSub, different]

@[simp]
theorem tierToken_none (kconfig : Kconfig) : tierToken kconfig none = none := by
  unfold tierToken
  split <;> rfl

@[simp]
theorem tokenHeld_setPub (slot : Fin kconfig.maxPublishers) (pub : ZenbeddedPub) :
    (transport.setPub slot pub).tokenHeld =
      Function.update transport.tokenHeld (.pub slot)
        (tierToken kconfig (if pub.inUse then pub.lvToken else none)) := by
  funext owner
  rcases eq_or_ne owner (.pub slot) with rfl | different
  · simp [tokenHeld, setPub]
  · rw [Function.update_of_ne different]
    cases owner with
    | node => rfl
    | sub => rfl
    | pub other =>
        have otherNe : other ≠ slot := fun same => different (same ▸ rfl)
        simp [tokenHeld, setPub, otherNe]

@[simp]
theorem tokenHeld_setSub (slot : Fin kconfig.maxSubscribers)
    (sub : ZenbeddedSub Callback UserData) :
    (transport.setSub slot sub).tokenHeld =
      Function.update transport.tokenHeld (.sub slot)
        (tierToken kconfig (if sub.inUse then sub.lvToken else none)) := by
  funext owner
  rcases eq_or_ne owner (.sub slot) with rfl | different
  · simp [tokenHeld, setSub]
  · rw [Function.update_of_ne different]
    cases owner with
    | node => rfl
    | pub => rfl
    | sub other =>
        have otherNe : other ≠ slot := fun same => different (same ▸ rfl)
        simp [tokenHeld, setSub, otherNe]

theorem consistent_of_unused {view : ZenohView kconfig.maxPublishers kconfig.maxSubscribers}
    (pubsFree : ∀ slot, (transport.pubPool slot).inUse = false)
    (subsFree : ∀ slot, (transport.subPool slot).inUse = false)
    (balanced : Balanced transport.log transport.isInitialized (fun _ => none)
      (fun _ => none) transport.tokenHeld view) : transport.Consistent view := by
  have pubNone : transport.pubHeld = fun _ => none := by
    funext slot
    simp [pubHeld, pubsFree]
  have subNone : transport.subHeld = fun _ => none := by
    funext slot
    simp [subHeld, subsFree]
  refine ⟨by rwa [pubNone, subNone], ?_, ?_, ?_, ?_⟩ <;> simp [pubsFree, subsFree]

theorem Consistent.setRefCount
    {view : ZenohView kconfig.maxPublishers kconfig.maxSubscribers}
    (consistent : transport.Consistent view) (count : UInt32) :
    Consistent { transport with transportRefCount := count } view :=
  ⟨consistent.balanced, consistent.pubHolds, consistent.subHolds, consistent.pubOpen,
    consistent.subOpen⟩

end ZenohTransport

end Zenbedded
