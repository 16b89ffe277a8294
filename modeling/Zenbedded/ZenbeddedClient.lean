import Zenbedded.Codecs
import Zenbedded.DoubleByteBuffer
import Zenbedded.ZenohTransport

/-!
# The client

A translation of `ZenbeddedClientBase` and `ZenbeddedClient`, one call at a time.
A memory access outside a buffer makes a call answer `none`; so does a retry loop
that has not ended within its fuel.
-/

namespace Zenbedded

open ByteBlock

/-- The callbacks that clients register with the transport. -/
inductive RecvCb
  | onTransportCmdCb
  deriving DecidableEq

/-- What zenoh answers during the initialization of a client. -/
structure ClientOutcome where
  init : InitOutcome
  pub : DeclareOutcome
  sub : DeclareOutcome
  deriving DecidableEq

structure ZenbeddedClientBase (kconfig : Kconfig) where
  initialized : Bool
  statePayloadSize : Nat
  cmdPayloadSize : Nat
  pub : Option (Fin kconfig.maxPublishers)
  sub : Option (Fin kconfig.maxSubscribers)
  stateBuffer : DoubleByteBuffer kconfig.maxStateBufferSize
  cmdBuffer : DoubleByteBuffer kconfig.maxCmdBufferSize
  cmdAcceptedCount : UInt32
  controlFreq : UInt32
  controlThreadRunning : Bool
  controlThreadStarted : Bool

namespace ZenbeddedClientBase

variable {kconfig : Kconfig} {UserData : Type}

/-- A client as its constructor leaves it. -/
def construct : ZenbeddedClientBase kconfig where
  initialized := false
  statePayloadSize := 0
  cmdPayloadSize := 0
  pub := none
  sub := none
  stateBuffer := .reset
  cmdBuffer := .reset
  cmdAcceptedCount := 0
  controlFreq := 0
  controlThreadRunning := false
  controlThreadStarted := false

def resetBuffers (client : ZenbeddedClientBase kconfig) : ZenbeddedClientBase kconfig :=
  { client with stateBuffer := .reset, cmdBuffer := .reset, cmdAcceptedCount := 0 }

/-! ## The control thread -/

/-- `stop_thread`; whether the thread joins in time or is aborted is only logged. -/
def stopThread (client : ZenbeddedClientBase kconfig) : ZenbeddedClientBase kconfig :=
  if client.controlThreadStarted then
    { client with
      controlThreadRunning := false, controlThreadStarted := false, controlFreq := 0 }
  else
    client

def startThread (client : ZenbeddedClientBase kconfig) (controlFreq : UInt32) :
    Int × ZenbeddedClientBase kconfig :=
  if client.initialized = false then
    (-enodev, client)
  else if controlFreq = 0 then
    (-einval, client)
  else
    let client := client.stopThread
    (0, { client with
      controlFreq, controlThreadRunning := true, controlThreadStarted := true })

/-! ## Lifecycle -/

/-- The message types that a tier declares. -/
def stateType (kconfig : Kconfig) : Option CString :=
  match kconfig.tier with
  | .tier1 => some rclStateMsgTypeString
  | .tier2 => none

def cmdType (kconfig : Kconfig) : Option CString :=
  match kconfig.tier with
  | .tier1 => some rclCmdMsgTypeString
  | .tier2 => none

/-- `init_base`, for the client that `self` points to. -/
def initBase (self : UserData) (client : ZenbeddedClientBase kconfig)
    (transport : ZenohTransport kconfig RecvCb UserData) (controlFreq : UInt32)
    (statePayloadSize cmdPayloadSize : Nat) (outcome : ClientOutcome) :
    Int × ZenbeddedClientBase kconfig × ZenohTransport kconfig RecvCb UserData :=
  if client.initialized then
    (0, client, transport)
  else
    let client := { client with statePayloadSize }
    if kconfig.maxStateBufferSize < statePayloadSize then
      (-enomem, client, transport)
    else
      let client := { client with cmdPayloadSize }
      if kconfig.maxCmdBufferSize < cmdPayloadSize then
        (-enomem, client, transport)
      else
        let (status, transport) := transport.init kconfig.domainId kconfig.nodeName
          kconfig.zenohMode (some kconfig.zenohIpPort) outcome.init
        if status ≠ 0 then
          (-eio, client, transport)
        else
          let (pub, transport) := transport.declarePublisher kconfig.rclPubTopic
            (stateType kconfig) outcome.pub
          let client := { client with pub }
          if pub.isNone then
            (-eio, client, transport.destroy)
          else
            let (sub, transport) := transport.declareSubscriber kconfig.rclSubTopic
              (cmdType kconfig) (some .onTransportCmdCb) (some self) outcome.sub
            let client := { client with sub }
            if sub.isNone then
              (-eio, client, transport.destroy)
            else
              let client := { client with initialized := true, controlFreq }
              let (status, client) := client.startThread controlFreq
              (status, client, transport)

def destroy (client : ZenbeddedClientBase kconfig)
    (transport : ZenohTransport kconfig RecvCb UserData) :
    ZenbeddedClientBase kconfig × ZenohTransport kconfig RecvCb UserData :=
  if client.initialized = false then
    (client, transport)
  else
    let client := client.stopThread
    let transport := transport.destroy
    ({ client with pub := none, sub := none, initialized := false }, transport)

/-! ## Commands -/

/-- `write_command_to_buffer`; whether the buffer took the data is ignored. -/
def writeCommandToBuffer (client : ZenbeddedClientBase kconfig) (data : List UInt8)
    (size : Nat) : Option (ZenbeddedClientBase kconfig) := do
  let (_, cmdBuffer) ← client.cmdBuffer.write (some data) size
  some { client with cmdBuffer, cmdAcceptedCount := client.cmdAcceptedCount + 1 }

def onTransportCmdCb (client : ZenbeddedClientBase kconfig) (payload : List UInt8)
    (size : Nat) : Option (ZenbeddedClientBase kconfig) :=
  if size ≠ client.cmdPayloadSize then
    some client
  else
    client.writeCommandToBuffer payload size

def acceptedCommandCount (client : ZenbeddedClientBase kconfig) : UInt32 :=
  client.cmdAcceptedCount

/-- The loop of `read_latest_command_raw`; nothing else runs in between its rounds. -/
def readLatestCommandRaw (client : ZenbeddedClientBase kconfig) {outSize : Nat} (size : Nat) :
    Nat → Block UInt8 outSize → Option (Block UInt8 outSize)
  | 0, _ => none
  | fuel + 1, data => do
      let (done, read) ← client.cmdBuffer.readLatest (some data) size
      let data := read.getD data
      if done then some data else client.readLatestCommandRaw size fuel data

/-! ## States -/

/-- The loop in `zenoh_publish_state`. -/
def readLatestState (client : ZenbeddedClientBase kconfig) {outSize : Nat} (size : Nat) :
    Nat → Block UInt8 outSize → Option (Block UInt8 outSize)
  | 0, _ => none
  | fuel + 1, data => do
      let (done, read) ← client.stateBuffer.readLatest (some data) size
      let data := read.getD data
      if done then some data else client.readLatestState size fuel data

/-- `zenoh_publish_state`; `tmp` is what the stack holds at first. -/
def zenohPublishState (client : ZenbeddedClientBase kconfig)
    (transport : ZenohTransport kconfig RecvCb UserData)
    (tmp : Block UInt8 kconfig.maxStateBufferSize) (fuel : Nat) (timestampNs : Int64)
    (ok : Bool) : Option (Int × ZenohTransport kconfig RecvCb UserData) :=
  if client.initialized = false then
    some (-enodev, transport)
  else do
    let tmp ← client.readLatestState client.statePayloadSize fuel tmp
    transport.publish client.pub tmp client.statePayloadSize timestampNs ok

end ZenbeddedClientBase

/-! ## Clients with codecs -/

/-- `ZenbeddedClient<StateCodec, CommandCodec>` -/
structure ZenbeddedClient (kconfig : Kconfig) (stateCodec : StateCodec)
    (commandCodec : CommandCodec) extends ZenbeddedClientBase kconfig where
  stateCtx : stateCodec.Ctx
  cmdCtx : commandCodec.Ctx

namespace ZenbeddedClient

variable {kconfig : Kconfig} {stateCodec : StateCodec} {commandCodec : CommandCodec}
  {UserData : Type}

/-- A client as its constructor leaves it. -/
def construct : ZenbeddedClient kconfig stateCodec commandCodec where
  toZenbeddedClientBase := .construct
  stateCtx := stateCodec.emptyCtx
  cmdCtx := commandCodec.emptyCtx

/-- `init`; `cmdLayoutScratch` is what the stack holds at first. -/
def init (self : UserData) (client : ZenbeddedClient kconfig stateCodec commandCodec)
    (transport : ZenohTransport kconfig RecvCb UserData) (controlFreq : UInt32)
    (stateParams : stateCodec.InitParams) (cmdParams : commandCodec.InitParams)
    (cmdLayoutScratch : Block UInt8 kconfig.maxCmdBufferSize) (outcome : ClientOutcome) :
    Option (Int × ZenbeddedClient kconfig stateCodec commandCodec ×
      ZenohTransport kconfig RecvCb UserData) :=
  if client.initialized then
    some (0, client, transport)
  else do
    let base := client.toZenbeddedClientBase.resetBuffers
    let (stateCtx, slot) ← stateCodec.init client.stateCtx stateParams
      (base.stateBuffer.buffer 0)
    let base := { base with stateBuffer := base.stateBuffer.setSlot 0 slot }
    let (stateCtx, slot) ← stateCodec.init stateCtx stateParams (base.stateBuffer.buffer 1)
    let base := { base with stateBuffer := base.stateBuffer.setSlot 1 slot }
    let stSize := stateCodec.payloadSize stateCtx
    let (cmdCtx, _) ← commandCodec.init client.cmdCtx cmdParams cmdLayoutScratch
    let cmdSize := commandCodec.payloadSize cmdCtx
    let (status, base, transport) :=
      base.initBase self transport controlFreq stSize cmdSize outcome
    some (status, { base with stateCtx, cmdCtx }, transport)

def writeState (client : ZenbeddedClient kconfig stateCodec commandCodec)
    (value : stateCodec.Value) : Option (ZenbeddedClient kconfig stateCodec commandCodec) :=
  if client.initialized = false then
    some client
  else do
    let writeIdx := client.stateBuffer.prepareWrite
    let buf ← stateCodec.write client.stateCtx value (client.stateBuffer.buffer writeIdx)
    some { client with
      stateBuffer := (client.stateBuffer.setSlot writeIdx buf).commitWrite writeIdx }

/-- `read_command`; `tmp` is what the stack holds at first. -/
def readCommand (client : ZenbeddedClient kconfig stateCodec commandCodec)
    (tmp : Block UInt8 kconfig.maxCmdBufferSize) (fuel : Nat) (out : commandCodec.Value) :
    Option (Bool × commandCodec.Value) :=
  if client.initialized = false then
    some (false, out)
  else do
    let tmp ← client.readLatestCommandRaw client.cmdPayloadSize fuel tmp
    commandCodec.read client.cmdCtx tmp client.cmdPayloadSize out

end ZenbeddedClient

end Zenbedded
