/-
# What a client sends

| packet | first byte | body |
| --- | --- | --- |
| CONNECT | `10` | protocol name and level, flags, keep-alive, client id, user name, password |
| PUBLISH | `3x` | see `Publish` |
| SUBSCRIBE | `82` | identifier, filter, level |
| PUBACK | `40` | identifier |
| PINGREQ | `C0` | empty |
| DISCONNECT | `E0` | empty |

The flags of CONNECT say which of the optional texts follow: `80` the user
name, `40` the password.  `02` asks for a clean session.
-/
import Mqtt.Wire.Publish

namespace Mqtt

/-- A request to open a session. -/
structure Connect where
  clientId : String
  userName : Option String
  password : Option String
  /-- The longest silence in seconds; 0 switches pings off. -/
  keepAlive : UInt16
  cleanSession : Bool
  deriving DecidableEq

namespace Connect

/-- The byte that says which optional parts follow. -/
def flags (c : Connect) : UInt8 :=
  (if c.userName.isSome then 0x80 else 0) + (if c.password.isSome then 0x40 else 0) +
    (if c.cleanSession then 0x02 else 0)

/-- The size of a text that may be absent. -/
def optionalSize (s : Option String) : Nat :=
  s.elim 0 fun s => 2 + s.utf8ByteSize

/-- The frame of a request.  The ten bytes before the client id are the name with
its count, the level, the flags and the keep-alive. -/
def frame (c : Connect) : Frame where
  first := Kind.connect.firstByte 0
  bodySize := 10 + (2 + c.clientId.utf8ByteSize) + optionalSize c.userName + optionalSize c.password
  body := [.text "MQTT", .byte 4, .byte c.flags, .word c.keepAlive, .text c.clientId] ++
    (c.userName.toList ++ c.password.toList).map .text

end Connect

/-- A packet to be sent. -/
inductive Outbound where
  | connect (request : Connect)
  | publish (message : Publish)
  | subscribe (packetId : UInt16) (filter : String) (qos : QoS)
  | pubAck (packetId : UInt16)
  | pingReq
  | disconnect
  deriving DecidableEq

namespace Outbound

/-- The frame of a packet; the filter of a subscription has to fit a text. -/
def frame : Outbound → Except Fault Frame
  | connect request => .ok request.frame
  | publish message => message.frame
  | subscribe id filter qos =>
    if Field.textLimit < filter.utf8ByteSize then .error .topicTooLong
    else .ok {
      first := Kind.subscribe.firstByte 0x02
      bodySize := 2 + (2 + filter.utf8ByteSize) + 1
      body := [.word id, .text filter, .byte qos.toByte] }
  | pubAck id => .ok ⟨Kind.pubAck.firstByte 0, 2, [.word id]⟩
  | pingReq => .ok ⟨Kind.pingReq.firstByte 0, 0, []⟩
  | disconnect => .ok ⟨Kind.disconnect.firstByte 0, 0, []⟩

/-- Puts the packet into a buffer. -/
def putInto (packet : Outbound) (buffer : Buffer) : Except Fault Buffer := do
  (← packet.frame).putInto buffer

/-- The bytes of the packet, if a buffer of that capacity holds them. -/
def pack (packet : Outbound) (capacity : Nat) : Except Fault (List UInt8) := do
  (← packet.frame).pack capacity

example : pack .pingReq 2 = .ok [0xC0, 0x00] ∧ pack .pingReq 1 = .error .bufferTooSmall :=
  ⟨rfl, rfl⟩

end Outbound
end Mqtt
