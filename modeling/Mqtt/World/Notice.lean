/-
# Notices

What a client tells the log, as values; `Notice.level` and `Notice.text` give
the record that is shown.
-/
import Mqtt.Text.Quoted
import Mqtt.Wire.Inbound

namespace Mqtt

/-- How much a notice matters. -/
inductive Level where
  | debug
  | info
  | warn
  deriving DecidableEq

/-- The name shown for a level. -/
def Level.text : Level → String
  | debug => "debug"
  | info => "info"
  | warn => "warn"

/-- Something a client tells the log. -/
inductive Notice where
  /-- The connection under the security layer could not be opened. -/
  | tlsDialFailed (host : String) (tcpPort : UInt16) (fault : NetFault)
  | tlsRejected (name : String) (reason : String)
  | dialFailed (host : String) (tcpPort : UInt16) (fault : NetFault)
  /-- The answer to CONNECT started with other bytes than a CONNACK does. -/
  | unexpectedHead (head : List UInt8)
  | connected (host : String) (tcpPort : UInt16) (clientId : String) (sessionPresent : Bool)
  | handshakeFailed (fault : Fault)
  | restored (count : Nat)
  | resubscribeFailed (fault : Fault)
  | disconnected (host : String)
  | published (size : Nat) (topic : String)
  | subscribed (filter : String) (qos : QoS)
  | registryFull (filter : String)
  | pinged
  | pingUnanswered
  | writeFailed (fault : NetFault)
  | shortWrite (taken size : Nat)
  | flushFailed (fault : NetFault)
  | readFailed (fault : NetFault)
  | receiveFailed (fault : NetFault)
  | closeFailed (fault : NetFault)
  | workerStarted
  | workerNotStarted
  | workerStopped
  | reconnectFailed (fault : Fault) (delay : UInt32)
  /-- Bytes were held of a link that another one has replaced. -/
  | discarded (size : Nat)
  | oversized (size : Nat)
  | ponged
  | message (topic : String) (size : Nat)
  | subscriptionRejected (packetId : UInt16)
  | ignored (packet : Inbound)
  | protocolFailure (fault : Fault)
  /-- A frame of a link that another one has replaced could not be handled. -/
  | staleFailure (fault : Fault)
  deriving DecidableEq

namespace Notice

/-- How much a notice matters. -/
def level : Notice → Level
  | connected .. | restored _ | disconnected _ | workerStarted | workerStopped => .info
  | published .. | subscribed .. | pinged | closeFailed _ | discarded _ | ponged | message ..
  | ignored _ | staleFailure _ => .debug
  | tlsDialFailed .. | tlsRejected .. | dialFailed .. | unexpectedHead _ | handshakeFailed _
  | resubscribeFailed _ | registryFull _ | pingUnanswered | writeFailed _ | shortWrite ..
  | flushFailed _ | readFailed _ | receiveFailed _ | workerNotStarted | reconnectFailed ..
  | oversized _ | subscriptionRejected _ | protocolFailure _ => .warn

/-- A byte as two hexadecimal digits after `0x`. -/
def hexByte (b : UInt8) : String :=
  String.ofList (['0', 'x'] ++ Nat.toDigits 16 (b.toNat / 16) ++ Nat.toDigits 16 (b.toNat % 16))

/-- The text of a notice. -/
def text : Notice → String
  | tlsDialFailed host tcpPort fault =>
    s!"tls: transport connect to {host}:{tcpPort.toNat} failed: {fault.text}"
  | tlsRejected name reason => s!"tls: handshake with {name} failed: {Quoted.quote reason}"
  | dialFailed host tcpPort fault =>
    s!"mqtt: connect to {host}:{tcpPort.toNat} failed: {fault.text}"
  | unexpectedHead head =>
    "mqtt: expected CONNACK, got header " ++ " ".intercalate (head.map hexByte)
  | connected host tcpPort clientId sessionPresent =>
    s!"mqtt: connected to {host}:{tcpPort.toNat} as {clientId} (session present: {sessionPresent})"
  | handshakeFailed fault => s!"mqtt: handshake failed: {fault.text}"
  | restored count => s!"mqtt: restored {count} subscription(s)"
  | resubscribeFailed fault => s!"mqtt: resubscribe failed: {fault.text}"
  | disconnected host => s!"mqtt: disconnected from {host}"
  | published size topic => s!"mqtt: published {size} bytes to {topic}"
  | subscribed filter qos => s!"mqtt: subscribed to {filter} ({qos.text})"
  | registryFull filter => s!"mqtt: subscription registry full, {filter} will not be restored"
  | pinged => "mqtt: PINGREQ sent"
  | pingUnanswered => "mqtt: no PINGRESP from broker, dropping link"
  | writeFailed fault => s!"mqtt: write failed: {fault.text}"
  | shortWrite taken size => s!"mqtt: short write, {taken} of {size} bytes"
  | flushFailed fault => s!"mqtt: flush failed: {fault.text}"
  | readFailed fault => s!"mqtt: read failed: {fault.text}"
  | receiveFailed fault => s!"mqtt: receive failed: {fault.text}"
  | closeFailed fault => s!"mqtt: close failed: {fault.text}"
  | workerStarted => "mqtt: engine started"
  | workerNotStarted => "mqtt: failed to start engine: SpawnError"
  | workerStopped => "mqtt: engine stopped"
  | reconnectFailed fault delay =>
    s!"mqtt: reconnect failed: {fault.text}, retrying in {delay.toNat} ms"
  | discarded size => s!"mqtt: discarding {size} bytes of a replaced link"
  | oversized size => s!"mqtt: inbound frame of {size} bytes exceeds buffer"
  | ponged => "mqtt: PINGRESP"
  | message topic size => s!"mqtt: message on {topic} ({size} bytes)"
  | subscriptionRejected packetId => s!"mqtt: broker rejected subscription {packetId.toNat}"
  | ignored packet => s!"mqtt: ignoring {packet.text}"
  | protocolFailure fault => s!"mqtt: protocol failure: {fault.text}, dropping link"
  | staleFailure fault => s!"mqtt: protocol failure on a replaced link: {fault.text}"

end Notice
end Mqtt
