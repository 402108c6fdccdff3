/-
# PUBLISH

The one packet that travels both ways.

| place | holds |
| --- | --- |
| flags, bit 3 | sent before (`dup`) |
| flags, bits 2 and 1 | quality of service |
| flags, bit 0 | to be kept by the broker (`retain`) |
| body | topic (text), identifier (word, at level 1 only), payload (the rest) |

`Publish.frame` lays a message out and `Publish.ofBody` reads one back.
-/
import Mqtt.QoS
import Mqtt.Wire.Frame

namespace Mqtt

/-- An application message. -/
structure Publish where
  topic : String
  payload : List UInt8
  qos : QoS
  /-- Present exactly at level 1. -/
  packetId : Option UInt16
  retain : Bool
  dup : Bool
  deriving DecidableEq

namespace Publish

/-- The flags of a message's first byte. -/
def flags (p : Publish) : UInt8 :=
  p.qos.toByte * 2 + (if p.dup then 8 else 0) + (if p.retain then 1 else 0)

/-- The frame of a message.  The topic has to fit a text, and the identifier has
to be present exactly at level 1. -/
def frame (p : Publish) : Except Fault Frame := do
  if Field.textLimit < p.topic.utf8ByteSize then throw .topicTooLong
  let id ← match p.qos, p.packetId with
    | .atMostOnce, none => pure []
    | .atLeastOnce, some id => pure [id]
    | _, _ => throw .malformedPacket
  return {
    first := Kind.publish.firstByte p.flags
    bodySize := 2 + p.topic.utf8ByteSize + 2 * id.length + p.payload.length
    body := .text p.topic :: id.map .word ++ [.raw p.payload] }

/-- The level in the flags; the value 3 makes the packet malformed. -/
def qosOfFlags (flags : UInt8) : Except Fault QoS :=
  match flags / 2 % 4 with
  | 3 => .error .malformedPacket
  | level => QoS.ofByte level

/-- The identifier that a level calls for, and what follows it. -/
def takeId : QoS → List UInt8 → Option (Option UInt16 × List UInt8)
  | .atMostOnce, bytes => some (none, bytes)
  | .atLeastOnce, bytes => (takeWord bytes).map fun (id, rest) => (some id, rest)

/-- The message of a frame with these flags and this body. -/
def ofBody (flags : UInt8) (body : List UInt8) : Except Fault Publish := do
  let qos ← qosOfFlags flags
  let some (topic, rest) := takeText body | throw .malformedPacket
  let some (packetId, payload) := takeId qos rest | throw .malformedPacket
  return {
    topic, payload, qos, packetId
    retain := flags % 2 = 1
    dup := flags / 8 % 2 = 1 }

end Publish
end Mqtt
