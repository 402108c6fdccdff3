/-
# What a broker sends

| kind | body |
| --- | --- |
| CONNACK | session flag, return code; exactly 2 bytes |
| PUBLISH | see `Publish` |
| PUBACK | identifier; exactly 2 bytes |
| SUBACK | identifier, return code; at least 3 bytes |
| PINGRESP | empty |
| any other | anything |

`decode` takes the frame at the start of the bytes and never looks past it.
-/
import Mqtt.Wire.Publish

namespace Mqtt

/-- A packet as the client understands it. -/
inductive Inbound where
  | connAck (sessionPresent : Bool) (returnCode : UInt8)
  | publish (message : Publish)
  | pubAck (packetId : UInt16)
  /-- The answer to a subscription to one filter; code 0x80 says that it failed. -/
  | subAck (packetId : UInt16) (returnCode : UInt8)
  | pingResp
  /-- A well-formed packet of which only the kind is kept. -/
  | other (kind : Kind)
  deriving DecidableEq

namespace Inbound

/-- The packet of a frame with this kind, these flags and this body. -/
def ofBody (kind : Kind) (flags : UInt8) (body : List UInt8) : Except Fault Inbound :=
  match kind with
  | .connAck =>
    match body with
    | [ack, code] => .ok (.connAck (ack % 2 = 1) code)
    | _ => .error .malformedPacket
  | .publish => (Publish.ofBody flags body).map .publish
  | .pubAck =>
    match body with
    | [high, low] => .ok (.pubAck (wordOf high low))
    | _ => .error .malformedPacket
  | .subAck =>
    match body with
    | high :: low :: code :: _ => .ok (.subAck (wordOf high low) code)
    | _ => .error .malformedPacket
  | .pingResp => if body.isEmpty then .ok .pingResp else .error .malformedPacket
  | kind => .ok (.other kind)

/-- The packet of the frame at the start of the bytes; a frame that is not all
there is malformed. -/
def decode (bytes : List UInt8) : Except Fault Inbound := do
  let some header ← Header.parse bytes | throw .malformedPacket
  let rest := bytes.drop header.size
  if rest.length < header.bodySize then throw .malformedPacket
  ofBody header.kind header.flags (rest.take header.bodySize)

/-- The text shown for a packet that is not acted on. -/
def text : Inbound → String
  | connAck present code =>
    s!"ConnAck \x7b session_present: {present}, return_code: {code.toNat} \x7d"
  | publish message => s!"Publish({message.topic})"
  | pubAck id => s!"PubAck \x7b packet_id: {id.toNat} \x7d"
  | subAck id code => s!"SubAck \x7b packet_id: {id.toNat}, return_code: {code.toNat} \x7d"
  | pingResp => "PingResp"
  | other kind => s!"Other({kind.text})"

end Inbound
end Mqtt
