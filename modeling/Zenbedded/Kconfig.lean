import Zenbedded.Serialization
import Mathlib.Order.Interval.Set.Defs

/-!
# Build configuration

The Kconfig symbols that the transport and the client read, and the ranges that
Kconfig admits for them.
-/

namespace Zenbedded

/-- `ZENBEDDED_TRANSPORT_TIER` -/
inductive Tier
  | tier1
  | tier2
  deriving DecidableEq, Repr

/-- `ZENBEDDED_MODE` -/
inductive ZenohMode
  | client
  | peer
  deriving DecidableEq, Repr

/-- `ZENBEDDED_RELIABILITY` -/
inductive Reliability
  | bestEffort
  | reliable
  deriving DecidableEq, Repr

structure Kconfig where
  tier : Tier
  mode : ZenohMode
  reliability : Reliability
  zenohIpPort : CString
  domainId : UInt32
  nodeName : CString
  maxNodeNameLen : Nat
  maxTopicNameLen : Nat
  maxTypeNameLen : Nat
  maxLocatorLen : Nat
  maxPublishers : Nat
  maxSubscribers : Nat
  tier1MaxRxBufferSize : Nat
  tier2MaxRxBufferSize : Nat
  maxStateBufferSize : Nat
  maxCmdBufferSize : Nat
  rclPubTopic : CString
  rclSubTopic : CString
  deriving DecidableEq

namespace Kconfig

/-- The ranges in the Kconfig files. -/
structure Admitted (kconfig : Kconfig) : Prop where
  maxNodeNameLen : kconfig.maxNodeNameLen ∈ Set.Icc 16 256
  maxTopicNameLen : kconfig.maxTopicNameLen ∈ Set.Icc 16 256
  maxTypeNameLen : kconfig.maxTypeNameLen ∈ Set.Icc 16 256
  maxLocatorLen : kconfig.maxLocatorLen ∈ Set.Icc 32 512
  maxPublishers : kconfig.maxPublishers ≤ 64
  maxSubscribers : kconfig.maxSubscribers ≤ 64
  tier1MaxRxBufferSize : kconfig.tier1MaxRxBufferSize ∈ Set.Icc 64 4096
  tier2MaxRxBufferSize : kconfig.tier2MaxRxBufferSize ∈ Set.Icc 8 512
  maxStateBufferSize : kconfig.maxStateBufferSize ∈ Set.Icc 32 2048
  maxCmdBufferSize : kconfig.maxCmdBufferSize ∈ Set.Icc 32 2048

/-- The size of the receive buffer of the configured tier. -/
def maxRxBufferSize (kconfig : Kconfig) : Nat :=
  match kconfig.tier with
  | .tier1 => kconfig.tier1MaxRxBufferSize
  | .tier2 => kconfig.tier2MaxRxBufferSize

/-- `ZENBEDDED_ZENOH_MODE` -/
def zenohMode (kconfig : Kconfig) : CString :=
  match kconfig.mode with
  | .client => .ofString "client"
  | .peer => .ofString "peer"

def default (tier : Tier) : Kconfig where
  tier
  mode := .client
  reliability := .bestEffort
  zenohIpPort := .ofString "127.0.0.1:7447"
  domainId := 0
  nodeName := .ofString "zenbedded_node"
  maxNodeNameLen := 64
  maxTopicNameLen := 64
  maxTypeNameLen := 64
  maxLocatorLen := 32
  maxPublishers := 10
  maxSubscribers := 10
  tier1MaxRxBufferSize := 1024
  tier2MaxRxBufferSize := 64
  maxStateBufferSize := 256
  maxCmdBufferSize := 256
  rclPubTopic := .ofString "zenbedded/state"
  rclSubTopic := .ofString "zenbedded/cmd"

theorem default_admitted (tier : Tier) : (default tier).Admitted := by
  constructor <;> simp [default]

end Kconfig

/-- `ZENBEDDED_RCL_STATE_MSG_TYPE_STRING`; its choice has one option. -/
def rclStateMsgTypeString : CString :=
  .ofString "sensor_msgs::msg::dds_::JointState_"

/-- `ZENBEDDED_RCL_CMD_MSG_TYPE_STRING`; its choice has one option. -/
def rclCmdMsgTypeString : CString :=
  .ofString "control_msgs::msg::dds_::JointCommand_"

/-! ## Zephyr error codes -/

def eio : Int := 5
def enomem : Int := 12
def enodev : Int := 19
def einval : Int := 22

end Zenbedded
