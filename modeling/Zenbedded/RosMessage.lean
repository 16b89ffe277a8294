import Zenbedded.CdrEncoder

/-!
# ROS 2 messages and their XCDR1 serialization

The reference meaning of the Tier 1 wire format: the two message types as ROS 2
defines them and the plain CDR bytes of a message in either byte order.  Nothing
here is translated from the firmware; the firmware's serializer is compared with
these definitions.

Double precision numbers are kept as their 64-bit patterns.
-/

namespace Zenbedded

open ByteOrder

/-- `builtin_interfaces/Time`. -/
structure Stamp where
  sec : Int32
  nanosec : UInt32
  deriving DecidableEq

/-- `sensor_msgs/JointState`. -/
structure JointState where
  stamp : Stamp
  frameId : List UInt8
  name : List (List UInt8)
  position : List UInt64
  velocity : List UInt64
  effort : List UInt64
  deriving DecidableEq

/-- `control_msgs/JointCommand`. -/
structure JointCommand where
  stamp : Stamp
  frameId : List UInt8
  jointNames : List (List UInt8)
  interfaceName : List UInt8
  values : List UInt64
  deriving DecidableEq

def Stamp.encoder (order : Endianness) (stamp : Stamp) : Cdr.Encoder :=
  Cdr.andThen (Cdr.word order 4 stamp.sec.toUInt32.toNat)
    (Cdr.word order 4 stamp.nanosec.toNat)

def stringsEncoder (order : Endianness) (texts : List (List UInt8)) : Cdr.Encoder :=
  Cdr.sequence order (texts.map (Cdr.string order))

def doublesEncoder (order : Endianness) (values : List UInt64) : Cdr.Encoder :=
  Cdr.sequence order ((values.map UInt64.toNat).map (Cdr.word order 8))

def JointState.encoder (order : Endianness) (message : JointState) : Cdr.Encoder :=
  Cdr.andThen (message.stamp.encoder order) <|
  Cdr.andThen (Cdr.string order message.frameId) <|
  Cdr.andThen (stringsEncoder order message.name) <|
  Cdr.andThen (doublesEncoder order message.position) <|
  Cdr.andThen (doublesEncoder order message.velocity) <|
  doublesEncoder order message.effort

def JointCommand.encoder (order : Endianness) (message : JointCommand) : Cdr.Encoder :=
  Cdr.andThen (message.stamp.encoder order) <|
  Cdr.andThen (Cdr.string order message.frameId) <|
  Cdr.andThen (stringsEncoder order message.jointNames) <|
  Cdr.andThen (Cdr.string order message.interfaceName) <|
  doublesEncoder order message.values

/-- The encapsulated XCDR1 bytes of a joint state. -/
def JointState.serialize (order : Endianness) (message : JointState) : List UInt8 :=
  Cdr.encapsulate order (message.encoder order)

/-- The encapsulated XCDR1 bytes of a joint command. -/
def JointCommand.serialize (order : Endianness) (message : JointCommand) : List UInt8 :=
  Cdr.encapsulate order (message.encoder order)

end Zenbedded
