/-
# Opening a session

`handshake` opens a connection, sends CONNECT and waits for a CONNACK with
return code 0.  Whatever fails on the way, the new connection is closed again
and the session stays disconnected.  `reconnect` also sends every subscription
of the registry again, and is given up as a whole if one of them cannot be
sent.
-/
import Mqtt.Session.Transfer

namespace Mqtt
namespace Session

variable {ω : Type} [Environment ω]

/-- The first two bytes of every CONNACK: its kind, and that two bytes follow. -/
def announcesConnAck : List UInt8 → Bool
  | [first, 2] => Kind.ofFirstByte? first = some .connAck
  | _ => false

/-- What the four bytes of an answer to CONNECT say: whether the broker kept a
session, or why it refuses. -/
def readConnAck (frame : List UInt8) : Except Fault Bool :=
  match Inbound.decode frame with
  | .ok (.connAck present 0) => .ok present
  | .ok (.connAck _ code) => .error (.connectionRefused (.ofCode code))
  | .ok _ => .error .protocolError
  | .error fault => .error fault

/-- Sends CONNECT and reads the answer, all within one deadline.  Says whether
the broker kept a session. -/
def exchange (connection : Nat) : Action Fault (Session ω) Bool := do
  let settings := (← get).settings
  sendFrame connection (← packed (.connect settings.connect))
  let started ← now
  let head ← fill connection started settings.connectTimeout 2
  unless announcesConnAck head do
    notice (.unexpectedHead head)
    throw .protocolError
  let body ← fill connection started settings.connectTimeout 2
  Action.ofExcept (readConnAck (head ++ body))

/-- Opens a link, closing one already held. -/
def handshake : Action Fault (Session ω) Unit := do
  dropLink
  let session ← get
  let host := session.settings.host.text
  let tcpPort := session.settings.tcpPort
  let connection ← onWorld (World.orNotice
    (session.connector.dial host tcpPort session.settings.connectTimeout)
    (.dialFailed host tcpPort) .connectFailed)
  match ← Action.attempt (exchange connection) with
  | .error fault =>
    notice (.handshakeFailed fault)
    closeQuietly connection
    throw fault
  | .ok present =>
    modify fun session =>
      { session with connection := some connection, link := session.link + 1 }
    restartKeepAlive
    notice (.connected host tcpPort session.settings.clientId.text present)

/-- Sends every subscription of the registry again, with fresh identifiers. -/
def replay : Action Fault (Session ω) Unit := do
  let session ← get
  let some connection := session.connection | throw .notConnected
  session.registry.replay fun entry => do
    let id ← nextPacketId
    sendFrame connection (← packed (.subscribe id entry.filter.text entry.qos))

/-- Opens a link and restores the subscriptions. -/
def reconnect : Action Fault (Session ω) Unit := do
  handshake
  if let .error fault ← Action.attempt replay then
    notice (.resubscribeFailed fault)
    dropLink
    throw fault
  restartKeepAlive
  let count := (← get).registry.size
  if count ≠ 0 then notice (.restored count)

end Session
end Mqtt
