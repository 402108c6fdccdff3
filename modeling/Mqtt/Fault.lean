/-
# What can go wrong

Two layers report failures.  A connection fails with a `NetFault`; the
protocol above it fails with a `Fault`.  A broker that answers CONNECT with a
return code other than 0 gives a `Refusal`, which the fault carries.

| code | refusal |
| ---: | --- |
| 1 | the protocol level is not supported |
| 2 | the client identifier is not allowed |
| 3 | the service is unavailable |
| 4 | the user name or the password is malformed |
| 5 | the client is not authorised |
| others | reserved |
-/

namespace Mqtt

/-- Why a broker refused a connection, as the return code of its CONNACK says. -/
inductive Refusal where
  | unacceptableProtocolVersion
  | identifierRejected
  | serverUnavailable
  | badUserNameOrPassword
  | notAuthorized
  | reserved (code : UInt8)
  deriving DecidableEq

namespace Refusal

/-- Every code outside 1 to 5 is reserved, 0 too. -/
def ofCode : UInt8 → Refusal
  | 1 => .unacceptableProtocolVersion
  | 2 => .identifierRejected
  | 3 => .serverUnavailable
  | 4 => .badUserNameOrPassword
  | 5 => .notAuthorized
  | code => .reserved code

/-- The return code that stands for a refusal. -/
def code : Refusal → UInt8
  | unacceptableProtocolVersion => 1
  | identifierRejected => 2
  | serverUnavailable => 3
  | badUserNameOrPassword => 4
  | notAuthorized => 5
  | reserved code => code

/-- The name shown for a refusal; a reserved one shows its code. -/
def text : Refusal → String
  | unacceptableProtocolVersion => "UnacceptableProtocolVersion"
  | identifierRejected => "IdentifierRejected"
  | serverUnavailable => "ServerUnavailable"
  | badUserNameOrPassword => "BadUsernameOrPassword"
  | notAuthorized => "NotAuthorized"
  | reserved code => s!"Reserved({code.toNat})"

end Refusal

/-- A failure of the protocol layer. -/
inductive Fault where
  /-- The operation needs a connected session. -/
  | notConnected
  /-- No connection could be opened. -/
  | connectFailed
  /-- The connection rejected a write or a flush. -/
  | writeError
  /-- The connection took another number of bytes than the frame has. -/
  | shortWrite
  /-- The connection reported a failed read. -/
  | readError
  /-- No answer arrived in time. -/
  | timeout
  /-- The peer closed the connection. -/
  | connectionClosed
  /-- The broker refused the connection. -/
  | connectionRefused (refusal : Refusal)
  /-- An unexpected packet arrived. -/
  | protocolError
  /-- A packet is cut short or contradicts itself. -/
  | malformedPacket
  /-- A length field goes on past its fourth byte, or a length does not fit one. -/
  | malformedRemainingLength
  /-- The frame or the text does not fit its place. -/
  | bufferTooSmall
  /-- The topic or filter is longer than supported. -/
  | topicTooLong
  /-- The topic is empty, or has wildcards where none are allowed. -/
  | invalidTopic
  /-- The quality of service is not supported. -/
  | invalidQoS
  /-- The worker's task could not be started. -/
  | taskSpawn
  deriving DecidableEq

namespace Fault

/-- The name of a fault without what it carries. -/
def kind : Fault → String
  | notConnected => "NotConnected"
  | connectFailed => "ConnectFailed"
  | writeError => "WriteError"
  | shortWrite => "ShortWrite"
  | readError => "ReadError"
  | timeout => "Timeout"
  | connectionClosed => "ConnectionClosed"
  | connectionRefused _ => "ConnectionRefused"
  | protocolError => "ProtocolError"
  | malformedPacket => "MalformedPacket"
  | malformedRemainingLength => "MalformedRemainingLength"
  | bufferTooSmall => "BufferTooSmall"
  | topicTooLong => "TopicTooLong"
  | invalidTopic => "InvalidTopic"
  | invalidQoS => "InvalidQoS"
  | taskSpawn => "TaskSpawn"

/-- The whole text of a fault; a refused connection shows the refusal. -/
def text : Fault → String
  | connectionRefused refusal => s!"ConnectionRefused({refusal.text})"
  | fault => fault.kind

end Fault

/-- A failure of the layer that carries the bytes. -/
inductive NetFault where
  | notOpen
  | writeError
  | readError
  | connectionRefused
  | timeout
  | connectionClosed
  | invalidAddress
  | handshakeFailed
  deriving DecidableEq

/-- The name shown for a failure below the protocol. -/
def NetFault.text : NetFault → String
  | notOpen => "NotOpen"
  | writeError => "WriteError"
  | readError => "ReadError"
  | connectionRefused => "ConnectionRefused"
  | timeout => "Timeout"
  | connectionClosed => "ConnectionClosed"
  | invalidAddress => "InvalidAddress"
  | handshakeFailed => "HandshakeFailed"

end Mqtt
