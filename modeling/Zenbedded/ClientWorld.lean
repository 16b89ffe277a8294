import Mathlib.Data.Fintype.Option
import Zenbedded.ClientCalls
import Zenbedded.ZenohTransportPools

/-!
# Clients that share the transport

Any number of clients, each with codecs of its own, are the only users of the
transport.  They are initialized, used and destroyed in any order, while zenoh hands
samples to the declared subscribers.
-/

namespace Zenbedded

open ByteBlock

/-- Clients and the transport; a subscriber's user data is a client. -/
structure ClientWorld (kconfig : Kconfig) {Id : Type} (stateCodec : Id → StateCodec)
    (commandCodec : Id → CommandCodec) where
  client : ∀ id, ZenbeddedClient kconfig (stateCodec id) (commandCodec id)
  transport : ZenohTransport kconfig RecvCb Id

/-- A call on a client, with what it answers, or a sample for a subscriber. -/
inductive ClientWorldAction (kconfig : Kconfig) {Id : Type} (stateCodec : Id → StateCodec)
    (commandCodec : Id → CommandCodec)
  | init (id : Id) (controlFreq : UInt32) (stateParams : (stateCodec id).InitParams)
      (cmdParams : (commandCodec id).InitParams)
      (cmdLayoutScratch : Block UInt8 kconfig.maxCmdBufferSize) (outcome : ClientOutcome)
      (status : Int)
  | destroy (id : Id)
  | call (id : Id) (call : ClientCall (stateCodec id))
  | publishState (id : Id) (tmp : Block UInt8 kconfig.maxStateBufferSize) (fuel : Nat)
      (timestampNs : Int64) (ok : Bool) (status : Int)
  | sample (slot : Fin kconfig.maxSubscribers) (payload : List UInt8)

namespace ClientWorld

variable {kconfig : Kconfig} {Id : Type} [DecidableEq Id] {stateCodec : Id → StateCodec}
  {commandCodec : Id → CommandCodec}

def setClient (world : ClientWorld kconfig stateCodec commandCodec) (id : Id)
    (client : ZenbeddedClient kconfig (stateCodec id) (commandCodec id)) :
    ClientWorld kconfig stateCodec commandCodec :=
  { world with client := Function.update world.client id client }

/-- One call or sample.  Zenoh has samples only for subscribers that are declared. -/
def Step (before : ClientWorld kconfig stateCodec commandCodec) :
    ClientWorldAction kconfig stateCodec commandCodec →
      ClientWorld kconfig stateCodec commandCodec → Prop
  | .init id controlFreq stateParams cmdParams cmdLayoutScratch outcome status, after =>
      ∃ client transport,
        (before.client id).init id before.transport controlFreq stateParams cmdParams
          cmdLayoutScratch outcome = some (status, client, transport) ∧
        after = { before.setClient id client with transport }
  | .destroy id, after =>
      let result := (before.client id).toZenbeddedClientBase.destroy before.transport
      after =
        { before.setClient id { before.client id with toZenbeddedClientBase := result.1 } with
          transport := result.2 }
  | .call id call, after =>
      ∃ client, call.apply (before.client id) = some client ∧ after = before.setClient id client
  | .publishState id tmp fuel timestampNs ok status, after =>
      ∃ transport,
        (before.client id).zenohPublishState before.transport tmp fuel timestampNs ok =
          some (status, transport) ∧
        after = { before with transport }
  | .sample slot payload, after =>
      (before.transport.subPool slot).inUse = true ∧
        match before.transport.internalSubHandler slot payload with
        | none => after = before
        | some (.onTransportCmdCb, _, none) => False
        | some (.onTransportCmdCb, received, some id) =>
            ∃ client, (ClientCall.onTransportCmdCb received).apply (before.client id) =
              some client ∧ after = before.setClient id client

end ClientWorld

/-- The use of the transport by clients that start uninitialized. -/
def clientWorlds (kconfig : Kconfig) {Id : Type} [DecidableEq Id] (stateCodec : Id → StateCodec)
    (commandCodec : Id → CommandCodec) :
    StepSystem (ClientWorld kconfig stateCodec commandCodec)
      (ClientWorldAction kconfig stateCodec commandCodec) where
  start world := world = ⟨fun _ => .construct, .zero⟩
  step := ClientWorld.Step

namespace ClientWorld

variable {kconfig : Kconfig} {Id : Type} [DecidableEq Id] {stateCodec : Id → StateCodec}
  {commandCodec : Id → CommandCodec}

@[simp]
theorem client_setClient_self (world : ClientWorld kconfig stateCodec commandCodec) (id : Id)
    (client : ZenbeddedClient kconfig (stateCodec id) (commandCodec id)) :
    (world.setClient id client).client id = client :=
  Function.update_self ..

@[simp]
theorem client_setClient_of_ne (world : ClientWorld kconfig stateCodec commandCodec)
    {id other : Id} (different : other ≠ id)
    (client : ZenbeddedClient kconfig (stateCodec id) (commandCodec id)) :
    (world.setClient id client).client other = world.client other :=
  Function.update_of_ne different ..

/-- What other clients and the transport know of a client. -/
def live (world : ClientWorld kconfig stateCodec commandCodec) (id : Id) : Bool :=
  (world.client id).initialized

def pubOf (world : ClientWorld kconfig stateCodec commandCodec) (id : Id) :
    Option (Fin kconfig.maxPublishers) :=
  (world.client id).pub

def subOf (world : ClientWorld kconfig stateCodec commandCodec) (id : Id) :
    Option (Fin kconfig.maxSubscribers) :=
  (world.client id).sub

def pubUsed (world : ClientWorld kconfig stateCodec commandCodec)
    (slot : Fin kconfig.maxPublishers) : Bool :=
  (world.transport.pubPool slot).inUse

def subUsed (world : ClientWorld kconfig stateCodec commandCodec)
    (slot : Fin kconfig.maxSubscribers) : Bool :=
  (world.transport.subPool slot).inUse

/-- A subscriber slot in use whose samples go to a client. -/
def Feeds (world : ClientWorld kconfig stateCodec commandCodec)
    (slot : Fin kconfig.maxSubscribers) (id : Id) : Prop :=
  world.subUsed slot = true ∧
    (world.transport.subPool slot).userCb = some .onTransportCmdCb ∧
    (world.transport.subPool slot).userData = some id

def liveClients [Fintype Id] (world : ClientWorld kconfig stateCodec commandCodec) :
    Finset Id :=
  Finset.univ.filter fun id => world.live id = true

/-- Every initialized client is counted and has slots of its own. -/
structure Linked [Fintype Id] (world : ClientWorld kconfig stateCodec commandCodec) :
    Prop where
  opened : world.transport.isInitialized = true ↔ ∃ id, world.live id = true
  counts : world.transport.transportRefCount.toNat = world.liveClients.card
  closedPubs : world.transport.isInitialized = false → ∀ slot, world.pubUsed slot = false
  closedSubs : world.transport.isInitialized = false → ∀ slot, world.subUsed slot = false
  pub : ∀ id, world.live id = true → ∃ slot, world.pubOf id = some slot ∧
    world.pubUsed slot = true
  sub : ∀ id, world.live id = true → ∃ slot, world.subOf id = some slot ∧ world.Feeds slot id
  pubOwner : ∀ id other, world.live id = true → world.live other = true →
    world.pubOf id = world.pubOf other → id = other

/-- A step leaves a client alone, as far as others know it. -/
structure SameClient (before after : ClientWorld kconfig stateCodec commandCodec) (id : Id) :
    Prop where
  live : after.live id = before.live id
  pub : before.live id = true → after.pubOf id = before.pubOf id
  sub : before.live id = true → after.subOf id = before.subOf id

/-- A step leaves the subscribers in use alone and takes no other slot. -/
structure SameSubs (before after : ClientWorld kconfig stateCodec commandCodec) : Prop where
  used : ∀ slot, after.subUsed slot = before.subUsed slot
  kept : ∀ slot, before.subUsed slot = true →
    after.transport.subPool slot = before.transport.subPool slot

/-- An initialization that declares the publisher and fails to declare the subscriber. -/
def LosesSubscriber (world : ClientWorld kconfig stateCodec commandCodec) :
    ClientWorldAction kconfig stateCodec commandCodec → Prop
  | .init id _ stateParams cmdParams cmdLayoutScratch outcome _ =>
      world.live id = false ∧
        (world.client id).PayloadsFit stateParams cmdParams cmdLayoutScratch ∧
        (∃ slot, world.pubUsed slot = false) ∧ outcome.pub.declared = true ∧
        ¬((∃ slot, world.subUsed slot = false) ∧ outcome.sub.declared = true)
  | _ => False

inductive SlotChange (before : ClientWorld kconfig stateCodec commandCodec)
    (action : ClientWorldAction kconfig stateCodec commandCodec)
    (after : ClientWorld kconfig stateCodec commandCodec) : Prop
  | unchanged (clients : ∀ id, SameClient before after id)
      (opened : after.transport.isInitialized = before.transport.isInitialized)
      (counts : after.transport.transportRefCount = before.transport.transportRefCount)
      (pubs : ∀ slot, after.pubUsed slot = before.pubUsed slot)
      (subs : SameSubs before after)
  | taken (id : Id) (wasDown : before.live id = false) (isUp : after.live id = true)
      (others : ∀ other, other ≠ id → SameClient before after other)
      (opened : after.transport.isInitialized = true)
      (counts : after.transport.transportRefCount =
        if before.transport.isInitialized then before.transport.transportRefCount + 1 else 1)
      (pub : Fin kconfig.maxPublishers) (ownsPub : after.pubOf id = some pub)
      (pubFree : before.pubUsed pub = false)
      (pubs : ∀ slot, after.pubUsed slot = (before.pubUsed slot || decide (slot = pub)))
      (sub : Fin kconfig.maxSubscribers) (ownsSub : after.subOf id = some sub)
      (subFree : before.subUsed sub = false) (feeds : after.Feeds sub id)
      (subs : ∀ slot, slot ≠ sub →
        after.transport.subPool slot = before.transport.subPool slot)
  | leaked (cause : before.LosesSubscriber action)
      (clients : ∀ id, SameClient before after id)
      (opened : after.transport.isInitialized = before.transport.isInitialized)
      (counts : after.transport.transportRefCount = before.transport.transportRefCount)
      (wasOpen : before.transport.isInitialized = true)
      (pub : Fin kconfig.maxPublishers)
      (pubs : ∀ slot, after.pubUsed slot = (before.pubUsed slot || decide (slot = pub)))
      (subs : SameSubs before after)
  | released (id : Id) (cause : action = .destroy id) (wasUp : before.live id = true)
      (isDown : after.live id = false)
      (others : ∀ other, other ≠ id → SameClient before after other)
      (opened : after.transport.isInitialized = true)
      (more : 1 < before.transport.transportRefCount.toNat)
      (counts : after.transport.transportRefCount.toNat =
        before.transport.transportRefCount.toNat - 1)
      (pubs : ∀ slot, after.pubUsed slot = before.pubUsed slot)
      (subs : SameSubs before after)
  | closed (id : Id) (wasUp : before.live id = true) (isDown : after.live id = false)
      (others : ∀ other, other ≠ id → SameClient before after other)
      (closes : after.transport.isInitialized = false)
      (one : before.transport.transportRefCount.toNat = 1)
      (counts : after.transport.transportRefCount = 0)
      (pubs : ∀ slot, after.pubUsed slot = false) (subs : ∀ slot, after.subUsed slot = false)

inductive ClientChange (before after : ClientWorld kconfig stateCodec commandCodec)
    (action : ClientWorldAction kconfig stateCodec commandCodec) (id : Id) : Prop
  | same (clientEq : after.client id = before.client id)
  | called (call : ClientCall (stateCodec id))
      (applied : call.apply (before.client id) = some (after.client id))
  | initialized (wasDown : before.live id = false) (controlFreq : UInt32)
      (stateParams : (stateCodec id).InitParams) (cmdParams : (commandCodec id).InitParams)
      (cmdLayoutScratch : Block UInt8 kconfig.maxCmdBufferSize) (outcome : ClientOutcome)
      (status : Int)
      (cause : action =
        .init id controlFreq stateParams cmdParams cmdLayoutScratch outcome status)
      (transport : ZenohTransport kconfig RecvCb Id)
      (initEq : (before.client id).init id before.transport controlFreq stateParams cmdParams
        cmdLayoutScratch outcome = some (status, after.client id, transport))
  | destroyed (cause : action = .destroy id) (clientEq : after.client id =
      { before.client id with toZenbeddedClientBase :=
          ((before.client id).toZenbeddedClientBase.destroy before.transport).1 })

section Step

variable {before after : ClientWorld kconfig stateCodec commandCodec}
  {action : ClientWorldAction kconfig stateCodec commandCodec}

theorem setClient_change {caller : Id} {call : ClientCall (stateCodec caller)}
    {client : ZenbeddedClient kconfig (stateCodec caller) (commandCodec caller)}
    (applied : call.apply (before.client caller) = some client) (id : Id) :
    ClientChange before (before.setClient caller client) action id := by
  rcases eq_or_ne id caller with rfl | different
  · exact .called call (by rw [client_setClient_self]; exact applied)
  · exact .same (client_setClient_of_ne _ different _)

theorem clientChange (steps : before.Step action after) (id : Id) :
    ClientChange before after action id := by
  cases action with
  | init caller controlFreq stateParams cmdParams cmdLayoutScratch outcome status =>
      obtain ⟨client, transport, initEq, rfl⟩ := steps
      rcases eq_or_ne id caller with rfl | different
      · have clientEq : (before.setClient id client).client id = client :=
          client_setClient_self ..
        cases wasLive : before.live id with
        | false =>
            exact .initialized wasLive _ _ _ _ _ _ rfl transport (by rw [clientEq, initEq])
        | true =>
            have up : (before.client id).initialized = true := wasLive
            rw [ZenbeddedClient.init, if_pos up] at initEq
            cases initEq
            exact .same clientEq
      · exact .same (client_setClient_of_ne _ different _)
  | destroy caller =>
      obtain rfl := steps
      rcases eq_or_ne id caller with rfl | different
      · exact .destroyed rfl (client_setClient_self ..)
      · exact .same (client_setClient_of_ne _ different _)
  | call caller call =>
      obtain ⟨client, applied, rfl⟩ := steps
      exact setClient_change applied id
  | publishState =>
      obtain ⟨transport, -, rfl⟩ := steps
      exact .same rfl
  | sample slot payload =>
      obtain ⟨-, delivered⟩ := steps
      split at delivered
      case h_1 => exact .same (by rw [delivered])
      case h_2 => exact delivered.elim
      case h_3 =>
        obtain ⟨client, applied, rfl⟩ := delivered
        exact setClient_change applied id

theorem destroyed_down {id : Id} (steps : before.Step (.destroy id) after) :
    after.live id = false := by
  obtain rfl := steps
  cases wasLive : (before.client id).initialized <;>
    simp [live, ZenbeddedClientBase.destroy, wasLive]

end Step

/-! ## Runs on given inputs -/

/-- What `init` on a client answers and leaves. -/
def initClient (world : ClientWorld kconfig stateCodec commandCodec) (id : Id)
    (controlFreq : UInt32) (stateParams : (stateCodec id).InitParams)
    (cmdParams : (commandCodec id).InitParams)
    (cmdLayoutScratch : Block UInt8 kconfig.maxCmdBufferSize) (outcome : ClientOutcome) :
    Option (Int × ClientWorld kconfig stateCodec commandCodec) :=
  ((world.client id).init id world.transport controlFreq stateParams cmdParams cmdLayoutScratch
    outcome).map
    fun result => (result.1, { world.setClient id result.2.1 with transport := result.2.2 })

/-- What `destroy` on a client leaves. -/
def destroyClient (world : ClientWorld kconfig stateCodec commandCodec) (id : Id) :
    ClientWorld kconfig stateCodec commandCodec :=
  let result := (world.client id).toZenbeddedClientBase.destroy world.transport
  { world.setClient id { world.client id with toZenbeddedClientBase := result.1 } with
    transport := result.2 }

theorem step_initClient {world after : ClientWorld kconfig stateCodec commandCodec} {id : Id}
    {controlFreq : UInt32} {stateParams : (stateCodec id).InitParams}
    {cmdParams : (commandCodec id).InitParams}
    {cmdLayoutScratch : Block UInt8 kconfig.maxCmdBufferSize} {outcome : ClientOutcome}
    {status : Int} (inits : world.initClient id controlFreq stateParams cmdParams
      cmdLayoutScratch outcome = some (status, after)) :
    world.Step (.init id controlFreq stateParams cmdParams cmdLayoutScratch outcome status)
      after := by
  obtain ⟨⟨_, client, transport⟩, initEq, same⟩ := Option.map_eq_some_iff.mp inits
  cases same
  exact ⟨client, transport, initEq, rfl⟩

/-- What the first initialization of a process computes is what its step leaves. -/
theorem exists_first_init (kconfig : Kconfig) (stateCodec : Id → StateCodec)
    (commandCodec : Id → CommandCodec) (id : Id) (controlFreq : UInt32)
    (stateParams : (stateCodec id).InitParams) (cmdParams : (commandCodec id).InitParams)
    (cmdLayoutScratch : Block UInt8 kconfig.maxCmdBufferSize) (outcome : ClientOutcome)
    (status : Int) {Fact : Type}
    (facts : ZenbeddedClient kconfig (stateCodec id) (commandCodec id) → Fact) (fact : Fact)
    (runs : ((.construct : ZenbeddedClient kconfig (stateCodec id) (commandCodec id)).init id
      .zero controlFreq stateParams cmdParams cmdLayoutScratch outcome).map
        (fun result => (result.1, facts result.2.1)) = some (status, fact)) :
    ∃ after, (clientWorlds kconfig stateCodec commandCodec).step ⟨fun _ => .construct, .zero⟩
        (.init id controlFreq stateParams cmdParams cmdLayoutScratch outcome status) after ∧
      facts (after.client id) = fact := by
  obtain ⟨⟨_, client, transport⟩, initEq, same⟩ := Option.map_eq_some_iff.mp runs
  obtain ⟨rfl, rfl⟩ := Prod.mk.inj same
  exact ⟨_, ⟨client, transport, initEq, rfl⟩, congrArg facts (client_setClient_self ..)⟩

end ClientWorld

end Zenbedded
