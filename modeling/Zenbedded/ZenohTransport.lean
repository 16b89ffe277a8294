import Zenbedded.ZenohTransportState
import Mathlib.Data.List.FinRange

/-!
# The zenoh transport

A translation of the operations in `zenoh_transport.c`.  Every operation holds
`transport_mutex` from its first access to its last, so an operation is one function
on the static state; `destroy` re-enters the undeclare operations under the
recursive lock.
-/

namespace Zenbedded

open ByteBlock

namespace ZenohTransport

variable {kconfig : Kconfig} {Callback UserData : Type}

/-- The state at program start. -/
def zero : ZenohTransport kconfig Callback UserData where
  currentDomainId := 0
  currentNodeName := []
  nodeLvStr := []
  nodeLvToken := none
  transportRefCount := 0
  isInitialized := false
  pubPool := fun _ => .zero
  subPool := fun _ => .zero
  log := []

def call (transport : ZenohTransport kconfig Callback UserData)
    (zenohCall : ZenohCall kconfig.maxPublishers kconfig.maxSubscribers) :
    ZenohTransport kconfig Callback UserData :=
  { transport with log := transport.log ++ [zenohCall] }

def setPub (transport : ZenohTransport kconfig Callback UserData)
    (slot : Fin kconfig.maxPublishers) (pub : ZenbeddedPub) :
    ZenohTransport kconfig Callback UserData :=
  { transport with pubPool := Function.update transport.pubPool slot pub }

def setSub (transport : ZenohTransport kconfig Callback UserData)
    (slot : Fin kconfig.maxSubscribers) (sub : ZenbeddedSub Callback UserData) :
    ZenohTransport kconfig Callback UserData :=
  { transport with subPool := Function.update transport.subPool slot sub }

def nextEntity (transport : ZenohTransport kconfig Callback UserData) (ok : Bool) :
    Option Nat :=
  if ok then some transport.log.length else none

/-! ## Sessions -/

/-- The configuration that `zenbedded_transport_init` builds. -/
def zenohConfig (kconfig : Kconfig) (mode : CString) (locator : Option CString) :
    ZenohConfig where
  mode := mode.bytes
  locator := do
    let locator ← locator
    if locator.strlen > 0 then
      let scheme := match kconfig.reliability with
        | .reliable => ascii "tcp/"
        | .bestEffort => ascii "udp/"
      some (kconfig.mode, snprintf kconfig.maxLocatorLen (scheme ++ locator.bytes))
    else
      none

/-- `zenbedded_transport_init`, without the port override of test builds. -/
def init (transport : ZenohTransport kconfig Callback UserData) (domainId : UInt32)
    (nodeName mode : CString) (locator : Option CString) (outcome : InitOutcome) :
    Int × ZenohTransport kconfig Callback UserData :=
  if transport.isInitialized then
    (0, { transport with transportRefCount := transport.transportRefCount + 1 })
  else
    let transport := { transport with
      currentDomainId := domainId
      currentNodeName := nodeName.bytes.take (kconfig.maxNodeNameLen - 1) }
    let transport := transport.call
      (.openSession (zenohConfig kconfig mode locator) outcome.opened)
    if outcome.opened = false then
      (-1, transport)
    else
      let transport := transport.call (.startReadTask outcome.readTask)
      let transport := transport.call (.startLeaseTask outcome.leaseTask)
      let transport := match kconfig.tier with
        | .tier1 =>
            let nodeLvStr := snprintf (nodeLvKeyexprMaxLen kconfig)
              (nodeLvText transport.currentDomainId outcome.zid transport.currentNodeName)
            let token := transport.nextEntity outcome.token
            { transport.call (.declareToken .node nodeLvStr outcome.token) with
              nodeLvStr, nodeLvToken := token }
        | .tier2 => transport
      (0, { transport with isInitialized := true, transportRefCount := 1 })

/-- The Tier 1 part of undeclaring: the liveliness token goes first. -/
def undeclareLvToken (transport : ZenohTransport kconfig Callback UserData)
    (token : Option Nat) : ZenohTransport kconfig Callback UserData :=
  match kconfig.tier with
  | .tier1 => transport.call (.undeclareToken token)
  | .tier2 => transport

/-- `zenbedded_transport_undeclare_publisher` -/
def undeclarePublisher (transport : ZenohTransport kconfig Callback UserData)
    (pub : Option (Fin kconfig.maxPublishers)) :
    Int × ZenohTransport kconfig Callback UserData :=
  match pub with
  | none => (-einval, transport)
  | some slot =>
      if transport.isInitialized = false ∨ (transport.pubPool slot).inUse = false then
        (-einval, transport)
      else
        let pub := transport.pubPool slot
        let transport := transport.undeclareLvToken pub.lvToken
        let transport := transport.call (.undeclarePublisher pub.zPub)
        (0, transport.setPub slot { pub with inUse := false, zPub := none, lvToken := none })

/-- `zenbedded_transport_undeclare_subscriber` -/
def undeclareSubscriber (transport : ZenohTransport kconfig Callback UserData)
    (sub : Option (Fin kconfig.maxSubscribers)) :
    Int × ZenohTransport kconfig Callback UserData :=
  match sub with
  | none => (-einval, transport)
  | some slot =>
      if transport.isInitialized = false ∨ (transport.subPool slot).inUse = false then
        (-einval, transport)
      else
        let sub := transport.subPool slot
        let transport := transport.undeclareLvToken sub.lvToken
        let transport := transport.call (.undeclareSubscriber sub.zSub)
        (0, transport.setSub slot { sub with inUse := false, zSub := none, lvToken := none })

/-- One round of the publisher loop of `destroy`. -/
def releasePub (transport : ZenohTransport kconfig Callback UserData)
    (slot : Fin kconfig.maxPublishers) : ZenohTransport kconfig Callback UserData :=
  if (transport.pubPool slot).inUse then
    (transport.undeclarePublisher (some slot)).2
  else
    transport

def releaseSub (transport : ZenohTransport kconfig Callback UserData)
    (slot : Fin kconfig.maxSubscribers) : ZenohTransport kconfig Callback UserData :=
  if (transport.subPool slot).inUse then
    (transport.undeclareSubscriber (some slot)).2
  else
    transport

/-- The part of `destroy` behind the loops. -/
def closeSession (transport : ZenohTransport kconfig Callback UserData) :
    ZenohTransport kconfig Callback UserData :=
  let transport := { transport.undeclareLvToken transport.nodeLvToken with
    nodeLvToken := none }
  let transport := transport.call .stopReadTask
  let transport := transport.call .stopLeaseTask
  let transport := transport.call .closeSession
  { transport with isInitialized := false }

/-- `zenbedded_transport_destroy` -/
def destroy (transport : ZenohTransport kconfig Callback UserData) :
    ZenohTransport kconfig Callback UserData :=
  if transport.isInitialized = false ∨ transport.transportRefCount = 0 then
    transport
  else
    let transport := { transport with transportRefCount := transport.transportRefCount - 1 }
    if 0 < transport.transportRefCount then
      transport
    else
      let transport := (List.finRange kconfig.maxPublishers).foldl releasePub transport
      let transport := (List.finRange kconfig.maxSubscribers).foldl releaseSub transport
      transport.closeSession

/-! ## Publishers and subscribers -/

/-- The first slot of a pool that is not in use. -/
def firstFree {slots : Nat} (inUse : Fin slots → Bool) : Option (Fin slots) :=
  (List.finRange slots).find? fun slot => inUse slot = false

/-- The key expression of a declaration, unless Tier 1 rejects the type. -/
def topicKeyexpr (transport : ZenohTransport kconfig Callback UserData) (topicName : CString)
    (typeName : Option CString) : Option (List UInt8) :=
  match kconfig.tier with
  | .tier1 => do
      let typeName ← typeName
      let typeHash ← getRihsHash typeName
      some (snprintf (topicKeyexprMaxLen kconfig)
        (topicText transport.currentDomainId (cleanTopic topicName.bytes) typeName typeHash))
  | .tier2 => some (snprintf (topicKeyexprMaxLen kconfig) (cleanTopic topicName.bytes))

def lvKeyexpr (transport : ZenohTransport kconfig Callback UserData) (kind : EntityKind)
    (topicName : CString) (typeName : Option CString) (zid : List UInt8) :
    Option (List UInt8) := do
  let typeName ← typeName
  let typeHash ← getRihsHash typeName
  let mangledTopic := mangleTopic kconfig.maxTopicNameLen (cleanTopic topicName.bytes)
  some (snprintf (lvKeyexprMaxLen kconfig)
    (entityLvText kind transport.currentDomainId zid transport.currentNodeName mangledTopic
      typeName typeHash))

def publisherOptions (kconfig : Kconfig) : PublisherOptions :=
  match kconfig.tier with
  | .tier1 => .default
  | .tier2 => .bestEffortDrop

/-- What `zenbedded_transport_declare_publisher` does once a slot is reserved. -/
def declarePublisherAt (transport : ZenohTransport kconfig Callback UserData)
    (slot : Fin kconfig.maxPublishers) (topicName : CString) (typeName : Option CString)
    (outcome : DeclareOutcome) :
    Option (Fin kconfig.maxPublishers) × ZenohTransport kconfig Callback UserData :=
  let pub := { transport.pubPool slot with inUse := true }
  match transport.topicKeyexpr topicName typeName with
  | none => (none, transport.setPub slot { pub with inUse := false })
  | some keyexpr =>
      let pub := { pub with
        topicKeyexpr := keyexpr
        zPub := transport.nextEntity outcome.declared }
      let transport := transport.call
        (.declarePublisher slot keyexpr (publisherOptions kconfig) outcome.declared)
      if outcome.declared = false then
        (none, transport.setPub slot { pub with inUse := false })
      else
        match kconfig.tier with
        | .tier1 =>
            let lvKeyexpr :=
              (transport.lvKeyexpr .mp topicName typeName outcome.zid).getD []
            let pub := { pub with
              attachment := { pub.attachment with
                sequenceNumber := 0, gidLength := 16, gid := outcome.gid }
              lvKeyexpr, lvToken := transport.nextEntity outcome.token }
            (some slot,
              (transport.call (.declareToken (.pub slot) lvKeyexpr outcome.token)).setPub slot pub)
        | .tier2 => (some slot, transport.setPub slot pub)

/-- `zenbedded_transport_declare_publisher` -/
def declarePublisher (transport : ZenohTransport kconfig Callback UserData)
    (topicName : CString) (typeName : Option CString) (outcome : DeclareOutcome) :
    Option (Fin kconfig.maxPublishers) × ZenohTransport kconfig Callback UserData :=
  if transport.isInitialized = false then
    (none, transport)
  else
    match firstFree fun slot => (transport.pubPool slot).inUse with
    | none => (none, transport)
    | some slot => transport.declarePublisherAt slot topicName typeName outcome

/-- What `zenbedded_transport_declare_subscriber` does once a slot is reserved. -/
def declareSubscriberAt (transport : ZenohTransport kconfig Callback UserData)
    (slot : Fin kconfig.maxSubscribers) (topicName : CString) (typeName : Option CString)
    (callback : Option Callback) (userData : Option UserData) (outcome : DeclareOutcome) :
    Option (Fin kconfig.maxSubscribers) × ZenohTransport kconfig Callback UserData :=
  let sub := { transport.subPool slot with inUse := true, userCb := callback, userData }
  match transport.topicKeyexpr topicName typeName with
  | none => (none, transport.setSub slot { sub with inUse := false })
  | some keyexpr =>
      let sub := { sub with
        topicKeyexpr := keyexpr
        zSub := transport.nextEntity outcome.declared }
      let transport := transport.call (.declareSubscriber slot keyexpr outcome.declared)
      if outcome.declared = false then
        (none, transport.setSub slot { sub with inUse := false })
      else
        match kconfig.tier with
        | .tier1 =>
            let lvKeyexpr :=
              (transport.lvKeyexpr .ms topicName typeName outcome.zid).getD []
            let sub := { sub with
              lvKeyexpr, lvToken := transport.nextEntity outcome.token }
            (some slot,
              (transport.call (.declareToken (.sub slot) lvKeyexpr outcome.token)).setSub slot sub)
        | .tier2 => (some slot, transport.setSub slot sub)

/-- `zenbedded_transport_declare_subscriber` -/
def declareSubscriber (transport : ZenohTransport kconfig Callback UserData)
    (topicName : CString) (typeName : Option CString) (callback : Option Callback)
    (userData : Option UserData) (outcome : DeclareOutcome) :
    Option (Fin kconfig.maxSubscribers) × ZenohTransport kconfig Callback UserData :=
  if transport.isInitialized = false then
    (none, transport)
  else
    match firstFree fun slot => (transport.subPool slot).inUse with
    | none => (none, transport)
    | some slot =>
        transport.declareSubscriberAt slot topicName typeName callback userData outcome

/-! ## Samples -/

/-- `zenbedded_transport_publish`; `none` is a read outside the payload. -/
def publish (transport : ZenohTransport kconfig Callback UserData)
    (pub : Option (Fin kconfig.maxPublishers)) {size : Nat} (payload : Block UInt8 size)
    (payloadSize : Nat) (timestampNs : Int64) (ok : Bool) :
    Option (Int × ZenohTransport kconfig Callback UserData) :=
  match pub with
  | none => some (-1, transport)
  | some slot =>
      let pub := transport.pubPool slot
      if pub.inUse = false then
        some (-1, transport)
      else do
        let bytes ← payload.load 0 payloadSize
        let status := if ok then 0 else -1
        match kconfig.tier with
        | .tier1 =>
            let attachment := { pub.attachment with
              sequenceNumber := pub.attachment.sequenceNumber + 1, timestampNs }
            some (status, (transport.setPub slot { pub with attachment }).call
              (.put pub.zPub bytes (some attachment) ok))
        | .tier2 => some (status, transport.call (.put pub.zPub bytes none ok))

/-- `internal_sub_handler`: the call it makes to the user, if any. -/
def internalSubHandler (transport : ZenohTransport kconfig Callback UserData)
    (slot : Fin kconfig.maxSubscribers) (payload : List UInt8) :
    Option (Callback × List UInt8 × Option UserData) := do
  let userCb ← (transport.subPool slot).userCb
  if payload.length = 0 ∨ kconfig.maxRxBufferSize < payload.length then
    none
  else
    some (userCb, payload, (transport.subPool slot).userData)

end ZenohTransport

end Zenbedded
