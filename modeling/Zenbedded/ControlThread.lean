import Zenbedded.SharedTransport
import Zenbedded.ZenbeddedClient

/-!
# The control thread

`control_thread_fn` and the calls that an owner thread makes on a client, one access to
shared data at a time.  Every `k_thread_create` makes a thread with a new number;
`control_thread_` is the one created last.
-/

namespace Zenbedded

open ByteBlock

/-- `is_control_thread_running` -/
def ZenbeddedClientBase.isControlThreadRunning {kconfig : Kconfig}
    (client : ZenbeddedClientBase kconfig) : Bool :=
  client.controlThreadRunning

/-! ## The thread -/

/-- Where `control_thread_fn` is.  The `MAX` of the period evaluates the quotient to compare
it and once more to choose it. -/
inductive ThreadPc (kconfig : Kconfig)
  | comparing
  | choosing
  | testing
  | publishing
  | reading (tmp : Block UInt8 kconfig.maxStateBufferSize)
  | handing (tmp : Block UInt8 kconfig.maxStateBufferSize)
  | looking (pub : Option (Fin kconfig.maxPublishers))
      (tmp : Block UInt8 kconfig.maxStateBufferSize) (size : Nat)
  | putting (slot : Fin kconfig.maxPublishers)
      (tmp : Block UInt8 kconfig.maxStateBufferSize) (size : Nat)
  | sleeping
  | clearing
  | exiting

structure ControlThread (kconfig : Kconfig) where
  /-- The frequency given to the `start_thread` that created the thread. -/
  freq : UInt32
  pc : ThreadPc kconfig

/-- What a thread meets: its stack, the clock, the answer of zenoh. -/
structure ThreadInput (kconfig : Kconfig) where
  tmp : Block UInt8 kconfig.maxStateBufferSize
  timestampNs : Int64
  ok : Bool

/-! ## The owner -/

/-- The calls of the owner; an `init` counts from its `init_base` on. -/
inductive OwnerCall
  | init (controlFreq : UInt32) (statePayloadSize cmdPayloadSize : Nat)
      (outcome : ClientOutcome)
  | startThread (controlFreq : UInt32)
  | stopThread
  | destroy

/-- Who called `stop_thread`. -/
inductive StopReturn
  | owner
  | restart (controlFreq : UInt32)
  | destroy

/-- Where the owner is: what it does next. -/
inductive OwnerPc
  | idle
  | checkCmdSize (controlFreq : UInt32) (cmdPayloadSize : Nat) (outcome : ClientOutcome)
  | initTransport (controlFreq : UInt32) (outcome : ClientOutcome)
  | declarePub (controlFreq : UInt32) (outcome : ClientOutcome)
  | declareSub (controlFreq : UInt32) (outcome : ClientOutcome)
  | unwindInit
  | setInitialized (controlFreq : UInt32)
  | setInitFreq (controlFreq : UInt32)
  | startThread (controlFreq : UInt32)
  | setFreq (controlFreq : UInt32)
  | setRunning (controlFreq : UInt32)
  | createThread (controlFreq : UInt32)
  | setStarted
  | stopThread (caller : StopReturn)
  | clearRunning (caller : StopReturn)
  | joinThread (caller : StopReturn)
  | abortThread (caller : StopReturn)
  | clearStarted (caller : StopReturn)
  | clearFreq (caller : StopReturn)
  | releaseTransport
  | clearPub
  | clearSub
  | clearInitialized

/-! ## Their world -/

structure ControlWorld (kconfig : Kconfig) (UserData : Type) where
  client : ZenbeddedClientBase kconfig
  transport : ZenohTransport kconfig RecvCb UserData
  owner : OwnerPc
  /-- The call that the owner is in, or made last. -/
  call : Option OwnerCall
  /-- What the last call returned, 0 for a call that returns nothing. -/
  status : Int
  created : Nat
  /-- The threads that are alive, by their numbers. -/
  live : Nat → Option (ControlThread kconfig)

inductive ControlAction (kconfig : Kconfig) (UserData : Type)
  | call (call : OwnerCall)
  | owner (timedOut : Bool)
  | thread (number : Nat) (input : ThreadInput kconfig)
  /-- What all other threads do to the transport and to the buffers. -/
  | others (transport : ZenohTransport kconfig RecvCb UserData)
      (stateBuffer : DoubleByteBuffer kconfig.maxStateBufferSize)
      (cmdBuffer : DoubleByteBuffer kconfig.maxCmdBufferSize) (cmdAcceptedCount : UInt32)

namespace ControlWorld

variable {kconfig : Kconfig} {UserData : Type}

def goto (world : ControlWorld kconfig UserData) (owner : OwnerPc) :
    ControlWorld kconfig UserData :=
  { world with owner }

def returns (world : ControlWorld kconfig UserData) (status : Int) :
    ControlWorld kconfig UserData :=
  { world with owner := .idle, status }

def stopped (world : ControlWorld kconfig UserData) :
    StopReturn → ControlWorld kconfig UserData
  | .owner => world.returns 0
  | .restart controlFreq => world.goto (.setFreq controlFreq)
  | .destroy => world.goto .releaseTransport

def begin (world : ControlWorld kconfig UserData) (call : OwnerCall) :
    ControlWorld kconfig UserData :=
  let world := { world with call := some call }
  match call with
  | .init controlFreq statePayloadSize cmdPayloadSize outcome =>
      if world.client.initialized then
        world.returns 0
      else
        let world := { world with client := { world.client with statePayloadSize } }
        if kconfig.maxStateBufferSize < statePayloadSize then
          world.returns (-enomem)
        else
          world.goto (.checkCmdSize controlFreq cmdPayloadSize outcome)
  | .startThread controlFreq => world.goto (.startThread controlFreq)
  | .stopThread => world.goto (.stopThread .owner)
  | .destroy =>
      if world.client.initialized = false then
        world.returns 0
      else
        world.goto (.stopThread .destroy)

/-- The next statement of the owner, for the client that `self` points to; joining waits
for the end of the thread. -/
def ownerNext (self : UserData) (world : ControlWorld kconfig UserData) (timedOut : Bool) :
    Option (ControlWorld kconfig UserData) :=
  match world.owner with
  | .idle => none
  | .checkCmdSize controlFreq cmdPayloadSize outcome =>
      let world := { world with client := { world.client with cmdPayloadSize } }
      if kconfig.maxCmdBufferSize < cmdPayloadSize then
        some (world.returns (-enomem))
      else
        some (world.goto (.initTransport controlFreq outcome))
  | .initTransport controlFreq outcome =>
      let (status, transport) := world.transport.init kconfig.domainId kconfig.nodeName
        kconfig.zenohMode (some kconfig.zenohIpPort) outcome.init
      let world := { world with transport }
      if status ≠ 0 then
        some (world.returns (-eio))
      else
        some (world.goto (.declarePub controlFreq outcome))
  | .declarePub controlFreq outcome =>
      let (pub, transport) := world.transport.declarePublisher kconfig.rclPubTopic
        (ZenbeddedClientBase.stateType kconfig) outcome.pub
      let world := { world with transport, client := { world.client with pub } }
      if pub.isNone then
        some (world.goto .unwindInit)
      else
        some (world.goto (.declareSub controlFreq outcome))
  | .declareSub controlFreq outcome =>
      let (sub, transport) := world.transport.declareSubscriber kconfig.rclSubTopic
        (ZenbeddedClientBase.cmdType kconfig) (some .onTransportCmdCb) (some self) outcome.sub
      let world := { world with transport, client := { world.client with sub } }
      if sub.isNone then
        some (world.goto .unwindInit)
      else
        some (world.goto (.setInitialized controlFreq))
  | .unwindInit =>
      some ({ world with transport := world.transport.destroy }.returns (-eio))
  | .setInitialized controlFreq =>
      some ({ world with client := { world.client with initialized := true } }.goto
        (.setInitFreq controlFreq))
  | .setInitFreq controlFreq =>
      some ({ world with client := { world.client with controlFreq } }.goto
        (.startThread controlFreq))
  | .startThread controlFreq =>
      if world.client.initialized = false then
        some (world.returns (-enodev))
      else if controlFreq = 0 then
        some (world.returns (-einval))
      else if world.client.controlThreadStarted then
        some (world.goto (.stopThread (.restart controlFreq)))
      else
        some (world.goto (.setFreq controlFreq))
  | .setFreq controlFreq =>
      some ({ world with client := { world.client with controlFreq } }.goto
        (.setRunning controlFreq))
  | .setRunning controlFreq =>
      some ({ world with client := { world.client with controlThreadRunning := true } }.goto
        (.createThread controlFreq))
  | .createThread controlFreq =>
      some ({ world with
        created := world.created + 1
        live := Function.update world.live world.created
          (some { freq := controlFreq, pc := .comparing }) }.goto .setStarted)
  | .setStarted =>
      some ({ world with client := { world.client with controlThreadStarted := true } }.returns 0)
  | .stopThread caller =>
      if world.client.controlThreadStarted = false then
        some (world.stopped caller)
      else
        some (world.goto (.clearRunning caller))
  | .clearRunning caller =>
      some ({ world with client := { world.client with controlThreadRunning := false } }.goto
        (.joinThread caller))
  | .joinThread caller =>
      if timedOut then
        some (world.goto (.abortThread caller))
      else if (world.live (world.created - 1)).isNone then
        some (world.goto (.clearStarted caller))
      else
        none
  | .abortThread caller =>
      some ({ world with live := Function.update world.live (world.created - 1) none }.goto
        (.clearStarted caller))
  | .clearStarted caller =>
      some ({ world with client := { world.client with controlThreadStarted := false } }.goto
        (.clearFreq caller))
  | .clearFreq caller =>
      some ({ world with client := { world.client with controlFreq := 0 } }.stopped caller)
  | .releaseTransport =>
      some ({ world with transport := world.transport.destroy }.goto .clearPub)
  | .clearPub =>
      some ({ world with client := { world.client with pub := none } }.goto .clearSub)
  | .clearSub =>
      some ({ world with client := { world.client with sub := none } }.goto .clearInitialized)
  | .clearInitialized =>
      some ({ world with client := { world.client with initialized := false } }.returns 0)

def move (world : ControlWorld kconfig UserData) (number : Nat) (thread : ControlThread kconfig)
    (pc : ThreadPc kconfig) : ControlWorld kconfig UserData :=
  { world with live := Function.update world.live number (some { thread with pc }) }

/-- The next access of a thread to shared data; a division by zero has no next. -/
def threadNext (world : ControlWorld kconfig UserData) (number : Nat)
    (thread : ControlThread kconfig) (input : ThreadInput kconfig) :
    Option (ControlWorld kconfig UserData) :=
  match thread.pc with
  | .comparing =>
      if world.client.controlFreq = 0 then
        none
      else if 1000 / world.client.controlFreq > 1 then
        some (world.move number thread .choosing)
      else
        some (world.move number thread .testing)
  | .choosing =>
      if world.client.controlFreq = 0 then
        none
      else
        some (world.move number thread .testing)
  | .testing =>
      if world.client.controlThreadRunning then
        some (world.move number thread .publishing)
      else
        some (world.move number thread .clearing)
  | .publishing =>
      if world.client.initialized = false then
        some (world.move number thread .sleeping)
      else
        some (world.move number thread (.reading input.tmp))
  | .reading tmp => do
      let (done, read) ←
        world.client.stateBuffer.readLatest (some tmp) world.client.statePayloadSize
      let tmp := read.getD tmp
      some (world.move number thread (if done then .handing tmp else .reading tmp))
  | .handing tmp =>
      some (world.move number thread
        (.looking world.client.pub tmp world.client.statePayloadSize))
  | .looking none _ _ => some (world.move number thread .sleeping)
  | .looking (some slot) tmp size =>
      if world.transport.inUse (.pub slot) = false then
        some (world.move number thread .sleeping)
      else
        some (world.move number thread (.putting slot tmp size))
  | .putting slot tmp size => do
      let (_, transport) ←
        world.transport.putAt slot tmp size input.timestampNs input.ok
      some ({ world with transport }.move number thread .sleeping)
  | .sleeping => some (world.move number thread .testing)
  | .clearing =>
      some ({ world with client := { world.client with controlThreadRunning := false } }.move
        number thread .exiting)
  | .exiting => some { world with live := Function.update world.live number none }

def next (self : UserData) (world : ControlWorld kconfig UserData) :
    ControlAction kconfig UserData → Option (ControlWorld kconfig UserData)
  | .call call =>
      match world.owner with
      | .idle => some (world.begin call)
      | _ => none
  | .owner timedOut => world.ownerNext self timedOut
  | .thread number input => do
      let thread ← world.live number
      world.threadNext number thread input
  | .others transport stateBuffer cmdBuffer cmdAcceptedCount =>
      some { world with
        transport
        client := { world.client with stateBuffer, cmdBuffer, cmdAcceptedCount } }

end ControlWorld

def controlThreads (kconfig : Kconfig) {UserData : Type} (self : UserData) :
    StepSystem (ControlWorld kconfig UserData) (ControlAction kconfig UserData) where
  start world := world.client = .construct ∧ world.owner = .idle ∧ world.call = none ∧
    world.created = 0 ∧ world.live = fun _ => none
  step before action after := before.next self action = some after

end Zenbedded
