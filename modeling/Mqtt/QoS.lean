/-
# Quality of service

Two of the protocol's three levels: a message is sent and forgotten (0), or
sent and acknowledged (1).  Level 2 and every larger byte are refused.
-/
import Mqtt.Fault

namespace Mqtt

/-- How often a message arrives: at most once, or at least once. -/
inductive QoS where
  | atMostOnce
  | atLeastOnce
  deriving DecidableEq

namespace QoS

/-- The level as it stands in a frame. -/
def toByte : QoS → UInt8
  | atMostOnce => 0
  | atLeastOnce => 1

/-- The level that a byte asks for. -/
def ofByte : UInt8 → Except Fault QoS
  | 0 => .ok atMostOnce
  | 1 => .ok atLeastOnce
  | _ => .error .invalidQoS

/-- The name shown for a level. -/
def text : QoS → String
  | atMostOnce => "AtMostOnce"
  | atLeastOnce => "AtLeastOnce"

/-- A level is read back from the byte that it is sent as, so no two levels share a byte. -/
theorem ofByte_toByte (qos : QoS) : ofByte qos.toByte = .ok qos := by
  cases qos <;> rfl

end QoS

end Mqtt
