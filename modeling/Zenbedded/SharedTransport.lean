import Zenbedded.ZenohTransportPools

/-!
# The transport among threads

Any number of threads call the transport.  What runs under `transport_mutex` is one
step; only the declaration of a publisher is two, the reservation of a slot and the
rest, since `publish` looks at `in_use` without the lock.  A publish is two steps as
well, that look and the rest.
-/

namespace Zenbedded

open ByteBlock

/-- What a declaration answers: the address of a slot. -/
inductive TransportHandle (kconfig : Kconfig)
  | pub (slot : Fin kconfig.maxPublishers)
  | sub (slot : Fin kconfig.maxSubscribers)
  deriving DecidableEq

namespace ZenohTransport

variable {kconfig : Kconfig} {Callback UserData : Type}

/-- The `in_use` that a handle points to. -/
def inUse (transport : ZenohTransport kconfig Callback UserData) :
    TransportHandle kconfig → Bool
  | .pub slot => (transport.pubPool slot).inUse
  | .sub slot => (transport.subPool slot).inUse

def entity (transport : ZenohTransport kconfig Callback UserData) :
    TransportHandle kconfig → Option Nat
  | .pub slot => transport.pubHeld slot
  | .sub slot => transport.subHeld slot

/-- The front of `zenbedded_transport_declare_publisher`, up to the slot it takes. -/
def reservePublisher (transport : ZenohTransport kconfig Callback UserData) :
    Option (Fin kconfig.maxPublishers) × ZenohTransport kconfig Callback UserData :=
  if transport.isInitialized = false then
    (none, transport)
  else
    match firstFree fun slot => (transport.pubPool slot).inUse with
    | none => (none, transport)
    | some slot =>
        (some slot, transport.setPub slot { transport.pubPool slot with inUse := true })

/-- The part of `zenbedded_transport_publish` behind its look at the handle. -/
def putAt (transport : ZenohTransport kconfig Callback UserData)
    (slot : Fin kconfig.maxPublishers) {size : Nat} (payload : Block UInt8 size)
    (payloadSize : Nat) (timestampNs : Int64) (ok : Bool) :
    Option (Int × ZenohTransport kconfig Callback UserData) := do
  let pub := transport.pubPool slot
  let bytes ← payload.load 0 payloadSize
  let status := if ok then 0 else -1
  match kconfig.tier with
  | .tier1 =>
      let attachment := { pub.attachment with
        sequenceNumber := pub.attachment.sequenceNumber + 1, timestampNs }
      some (status, (transport.setPub slot { pub with attachment }).call
        (.put pub.zPub bytes (some attachment) ok))
  | .tier2 => some (status, transport.call (.put pub.zPub bytes none ok))

/-- Both parts of a publish, with nothing in between. -/
theorem publish_eq_putAt (transport : ZenohTransport kconfig Callback UserData)
    (slot : Fin kconfig.maxPublishers) {size : Nat} (payload : Block UInt8 size)
    (payloadSize : Nat) (timestampNs : Int64) (ok : Bool) :
    transport.publish (some slot) payload payloadSize timestampNs ok =
      if transport.inUse (.pub slot) = false then
        some (-1, transport)
      else
        transport.putAt slot payload payloadSize timestampNs ok := rfl

/-- A declaration sets `in_use` again, to no effect. -/
theorem declarePublisherAt_reserved (transport : ZenohTransport kconfig Callback UserData)
    (slot : Fin kconfig.maxPublishers) (topicName : CString) (typeName : Option CString)
    (outcome : DeclareOutcome) :
    (transport.setPub slot
        { transport.pubPool slot with inUse := true }).declarePublisherAt slot topicName
          typeName outcome =
      transport.declarePublisherAt slot topicName typeName outcome := by
  have keyexprSame : (transport.setPub slot
      { transport.pubPool slot with inUse := true }).topicKeyexpr topicName typeName =
        transport.topicKeyexpr topicName typeName := rfl
  unfold declarePublisherAt
  rw [keyexprSame]
  cases transport.topicKeyexpr topicName typeName with
  | none => simp [setPub]
  | some keyexpr =>
      cases declaredEq : outcome.declared with
      | false => simp [setPub, call, nextEntity]
      | true => cases tierEq : kconfig.tier <;> simp [setPub, call, nextEntity, lvKeyexpr]

/-- Both parts of a publisher's declaration, with nothing in between. -/
theorem declarePublisher_eq_reserve (transport : ZenohTransport kconfig Callback UserData)
    (topicName : CString) (typeName : Option CString) (outcome : DeclareOutcome) :
    transport.declarePublisher topicName typeName outcome =
      match transport.reservePublisher with
      | (none, reserved) => (none, reserved)
      | (some slot, reserved) => reserved.declarePublisherAt slot topicName typeName outcome := by
  unfold declarePublisher reservePublisher
  split
  case isTrue => rfl
  case isFalse =>
    cases firstFree fun slot => (transport.pubPool slot).inUse with
    | none => rfl
    | some slot =>
        exact (transport.declarePublisherAt_reserved slot topicName typeName outcome).symm

end ZenohTransport

/-- A publisher's declaration that has reserved its slot. -/
structure PubDeclaration (kconfig : Kconfig) (Thread : Type) where
  thread : Thread
  topicName : CString
  typeName : Option CString
  slot : Fin kconfig.maxPublishers

/-- The transport and where the calls of the threads are. -/
structure SharedTransport (kconfig : Kconfig) (Callback UserData Thread : Type) where
  transport : ZenohTransport kconfig Callback UserData
  /-- The declaration that holds the lock. -/
  declaring : Option (PubDeclaration kconfig Thread)
  /-- The slots that threads found in use and are about to publish through. -/
  publishing : Thread → Option (Fin kconfig.maxPublishers)

/-- The calls of the threads with what they return; a publish that goes on returns
nothing yet. -/
inductive TransportCall (kconfig : Kconfig) (Callback UserData Thread : Type)
  | init (thread : Thread) (domainId : UInt32) (nodeName mode : CString)
      (locator : Option CString) (outcome : InitOutcome) (status : Int)
  | destroy (thread : Thread)
  | undeclarePublisher (thread : Thread) (pub : Option (Fin kconfig.maxPublishers))
      (status : Int)
  | undeclareSubscriber (thread : Thread) (sub : Option (Fin kconfig.maxSubscribers))
      (status : Int)
  | reservePublisher (thread : Thread) (topicName : CString) (typeName : Option CString)
      (slot : Option (Fin kconfig.maxPublishers))
  | declarePublisher (thread : Thread) (outcome : DeclareOutcome)
      (pub : Option (Fin kconfig.maxPublishers))
  | declareSubscriber (thread : Thread) (topicName : CString) (typeName : Option CString)
      (callback : Option Callback) (userData : Option UserData) (outcome : DeclareOutcome)
      (sub : Option (Fin kconfig.maxSubscribers))
  | publish (thread : Thread) (pub : Option (Fin kconfig.maxPublishers))
      (status : Option Int)
  | put (thread : Thread) {size : Nat} (payload : Block UInt8 size) (payloadSize : Nat)
      (timestampNs : Int64) (ok : Bool) (status : Int)

namespace SharedTransport

variable {kconfig : Kconfig} {Callback UserData Thread : Type} [DecidableEq Thread]

def Idle (world : SharedTransport kconfig Callback UserData Thread) (thread : Thread) : Prop :=
  world.publishing thread = none ∧
    ∀ declaration, world.declaring = some declaration → declaration.thread ≠ thread

/-- A call of an idle thread that takes the lock, and the static state it leaves. -/
def Locked (before : SharedTransport kconfig Callback UserData Thread) (thread : Thread)
    (transport : ZenohTransport kconfig Callback UserData)
    (after : SharedTransport kconfig Callback UserData Thread) : Prop :=
  before.Idle thread ∧ before.declaring = none ∧ after = { before with transport }

def Step (before : SharedTransport kconfig Callback UserData Thread) :
    TransportCall kconfig Callback UserData Thread →
      SharedTransport kconfig Callback UserData Thread → Prop
  | .init thread domainId nodeName mode locator outcome status, after =>
      let result := before.transport.init domainId nodeName mode locator outcome
      status = result.1 ∧ before.Locked thread result.2 after
  | .destroy thread, after => before.Locked thread before.transport.destroy after
  | .undeclarePublisher thread pub status, after =>
      let result := before.transport.undeclarePublisher pub
      status = result.1 ∧ before.Locked thread result.2 after
  | .undeclareSubscriber thread sub status, after =>
      let result := before.transport.undeclareSubscriber sub
      status = result.1 ∧ before.Locked thread result.2 after
  | .reservePublisher thread topicName typeName slot, after =>
      let result := before.transport.reservePublisher
      slot = result.1 ∧ before.Idle thread ∧ before.declaring = none ∧
        after = { before with
          transport := result.2
          declaring := slot.map fun slot => { thread, topicName, typeName, slot } }
  | .declarePublisher thread outcome pub, after =>
      ∃ declaration, before.declaring = some declaration ∧ declaration.thread = thread ∧
        let result := before.transport.declarePublisherAt declaration.slot
          declaration.topicName declaration.typeName outcome
        pub = result.1 ∧ after = { before with transport := result.2, declaring := none }
  | .declareSubscriber thread topicName typeName callback userData outcome sub, after =>
      let result :=
        before.transport.declareSubscriber topicName typeName callback userData outcome
      sub = result.1 ∧ before.Locked thread result.2 after
  | .publish thread none status, after =>
      before.Idle thread ∧ status = some (-1) ∧ after = before
  | .publish thread (some slot) status, after =>
      before.Idle thread ∧
        if before.transport.inUse (.pub slot) = false then
          status = some (-1) ∧ after = before
        else
          status = none ∧ after = { before with
            publishing := Function.update before.publishing thread (some slot) }
  | .put thread payload payloadSize timestampNs ok status, after =>
      ∃ slot transport, before.publishing thread = some slot ∧
        before.transport.putAt slot payload payloadSize timestampNs ok =
          some (status, transport) ∧
        after = { before with
          transport, publishing := Function.update before.publishing thread none }

end SharedTransport

def sharedTransport (kconfig : Kconfig) (Callback UserData Thread : Type)
    [DecidableEq Thread] :
    StepSystem (SharedTransport kconfig Callback UserData Thread)
      (TransportCall kconfig Callback UserData Thread) where
  start world := world = { transport := .zero, declaring := none, publishing := fun _ => none }
  step := SharedTransport.Step

end Zenbedded
