import Zenbedded.Kconfig

/-!
# The static state of the transport

The data of `zenoh_transport.c` and `rihs_ledger.h`: texts and their buffers, the
calls into zenoh, the pools.

The calls into zenoh are kept in a log with the outcomes they report.  An entity
that zenoh hands out is named by the length of the log at its declaration; an
owned handle that holds nothing is `none`.
-/

namespace Zenbedded

/-! ## Text -/

/-- What `snprintf` leaves of a text in a buffer, up to the terminator. -/
def snprintf (bufferSize : Nat) (text : List UInt8) : List UInt8 :=
  text.take (bufferSize - 1)

def ascii (text : String) : List UInt8 :=
  (CString.ofString text).bytes

/-- `%u` -/
def decimalText (value : UInt32) : List UInt8 :=
  (Nat.toDigits 10 value.toNat).map fun digit => UInt8.ofNat digit.toNat

/-- `%02x` of each byte. -/
def hexText (bytes : List UInt8) : List UInt8 :=
  bytes.flatMap fun byte =>
    [byte.toNat / 16, byte.toNat % 16].map fun digit => UInt8.ofNat digit.digitChar.toNat

def slash : UInt8 := 0x2f
def percent : UInt8 := 0x25

/-- A topic without one leading slash. -/
def cleanTopic : List UInt8 → List UInt8
  | byte :: rest => if byte = slash then rest else byte :: rest
  | [] => []

/-- `mangle_topic` -/
def mangleTopic (dstLen : Nat) (src : List UInt8) : List UInt8 :=
  ((cleanTopic src).take (dstLen - 1)).map fun byte => if byte = slash then percent else byte

/-! ## Type hashes -/

/-- `RIHS_LEDGER` -/
def rihsLedger : List (CString × CString) :=
  [(.ofString "sensor_msgs::msg::dds_::JointState_",
    .ofString "RIHS01_a13ee3a330e346c9d87b5aa18d24e11690752bd33a0350f11c5882bc9179260e"),
   (.ofString "control_msgs::msg::dds_::JointCommand_",
    .ofString "RIHS01_6080a1df9d28b6badffa5efb27d4ba4ae657c4f6dd2b519b178a32db12405985"),
   (.ofString "sensor_msgs::msg::dds_::Imu_",
    .ofString "RIHS01_7d9a00ff131080897a5ec7e26e315954b8eae3353c3f995c55faf71574000b5b")]

/-- `zenbedded_get_rihs_hash` -/
def getRihsHash (typeName : Option CString) : Option CString := do
  let typeName ← typeName
  (·.2) <$> rihsLedger.find? fun mapping => mapping.1 = typeName

/-! ## Calls into zenoh -/

/-- The configuration a session is opened with. -/
structure ZenohConfig where
  mode : List UInt8
  /-- The key of the locator, by the mode, and the locator. -/
  locator : Option (ZenohMode × List UInt8)
  deriving DecidableEq

/-- `rmw_zenoh_attachment_t` -/
structure RmwZenohAttachment where
  sequenceNumber : Int64
  timestampNs : Int64
  gidLength : UInt8
  gid : List UInt8
  deriving DecidableEq

inductive PublisherOptions
  | default
  | bestEffortDrop
  deriving DecidableEq

/-- The variable that holds a liveliness token. -/
inductive TokenOwner (publishers subscribers : Nat)
  | node
  | pub (slot : Fin publishers)
  | sub (slot : Fin subscribers)
  deriving DecidableEq

/-- A call into zenoh; `ok` is the outcome of a call that reports one. -/
inductive ZenohCall (publishers subscribers : Nat)
  | openSession (config : ZenohConfig) (ok : Bool)
  | startReadTask (ok : Bool)
  | startLeaseTask (ok : Bool)
  | stopReadTask
  | stopLeaseTask
  | closeSession
  | declareToken (owner : TokenOwner publishers subscribers) (keyexpr : List UInt8) (ok : Bool)
  | undeclareToken (token : Option Nat)
  | declarePublisher (slot : Fin publishers) (keyexpr : List UInt8)
      (options : PublisherOptions) (ok : Bool)
  | undeclarePublisher (entity : Option Nat)
  | put (entity : Option Nat) (payload : List UInt8)
      (attachment : Option RmwZenohAttachment) (ok : Bool)
  | declareSubscriber (slot : Fin subscribers) (keyexpr : List UInt8) (ok : Bool)
  | undeclareSubscriber (entity : Option Nat)
  deriving DecidableEq

/-- What zenoh answers while the transport is initialized. -/
structure InitOutcome where
  opened : Bool
  readTask : Bool
  leaseTask : Bool
  token : Bool
  zid : List UInt8
  deriving DecidableEq

/-- What zenoh and the random number generator answer during a declaration. -/
structure DeclareOutcome where
  declared : Bool
  token : Bool
  zid : List UInt8
  gid : List UInt8
  deriving DecidableEq

/-! ## Static state -/

/-- `zenbedded_pub_s` -/
structure ZenbeddedPub where
  inUse : Bool
  zPub : Option Nat
  topicKeyexpr : List UInt8
  attachment : RmwZenohAttachment
  lvToken : Option Nat
  lvKeyexpr : List UInt8
  deriving DecidableEq

/-- `zenbedded_sub_s` -/
structure ZenbeddedSub (Callback UserData : Type) where
  inUse : Bool
  zSub : Option Nat
  userCb : Option Callback
  userData : Option UserData
  topicKeyexpr : List UInt8
  lvToken : Option Nat
  lvKeyexpr : List UInt8
  deriving DecidableEq

def ZenbeddedPub.zero : ZenbeddedPub where
  inUse := false
  zPub := none
  topicKeyexpr := []
  attachment := ⟨0, 0, 0, []⟩
  lvToken := none
  lvKeyexpr := []

def ZenbeddedSub.zero {Callback UserData : Type} : ZenbeddedSub Callback UserData where
  inUse := false
  zSub := none
  userCb := none
  userData := none
  topicKeyexpr := []
  lvToken := none
  lvKeyexpr := []

structure ZenohTransport (kconfig : Kconfig) (Callback UserData : Type) where
  currentDomainId : UInt32
  currentNodeName : List UInt8
  nodeLvStr : List UInt8
  nodeLvToken : Option Nat
  transportRefCount : UInt32
  isInitialized : Bool
  pubPool : Fin kconfig.maxPublishers → ZenbeddedPub
  subPool : Fin kconfig.maxSubscribers → ZenbeddedSub Callback UserData
  log : List (ZenohCall kconfig.maxPublishers kconfig.maxSubscribers)

/-! ## Buffer lengths -/

/-- `NODE_LV_KEYEXPR_MAX_LEN` -/
def nodeLvKeyexprMaxLen (kconfig : Kconfig) : Nat :=
  54 + 10 + kconfig.maxNodeNameLen + 1

/-- `TOPIC_KEYEXPR_MAX_LEN` -/
def topicKeyexprMaxLen (kconfig : Kconfig) : Nat :=
  match kconfig.tier with
  | .tier1 => 3 + 10 + kconfig.maxTopicNameLen + kconfig.maxTypeNameLen + 71 + 1
  | .tier2 => kconfig.maxTopicNameLen

/-- `LV_KEYEXPR_MAX_LEN` -/
def lvKeyexprMaxLen (kconfig : Kconfig) : Nat :=
  71 + 10 + kconfig.maxNodeNameLen + kconfig.maxTopicNameLen + kconfig.maxTypeNameLen + 71 + 1

/-! ## Key expressions -/

inductive EntityKind
  | mp
  | ms
  deriving DecidableEq

def EntityKind.text : EntityKind → List UInt8
  | .mp => ascii "MP"
  | .ms => ascii "MS"

def nodeLvText (domainId : UInt32) (zid nodeName : List UInt8) : List UInt8 :=
  ascii "@ros2_lv/" ++ decimalText domainId ++ [slash] ++ hexText zid ++
    ascii "/0/0/NN/%/%/" ++ nodeName

def entityLvText (kind : EntityKind) (domainId : UInt32) (zid nodeName mangledTopic : List UInt8)
    (typeName typeHash : CString) : List UInt8 :=
  ascii "@ros2_lv/" ++ decimalText domainId ++ [slash] ++ hexText zid ++
    ascii "/0/10/" ++ kind.text ++ ascii "/%/%/" ++ nodeName ++ ascii "/%" ++ mangledTopic ++
    [slash] ++ typeName.bytes ++ [slash] ++ typeHash.bytes ++ ascii "/::,7:,:,:,,"

def topicText (domainId : UInt32) (cleanTopic : List UInt8) (typeName typeHash : CString) :
    List UInt8 :=
  decimalText domainId ++ [slash] ++ cleanTopic ++ [slash] ++ typeName.bytes ++ [slash] ++
    typeHash.bytes

end Zenbedded
