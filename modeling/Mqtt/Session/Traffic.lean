/-
# Traffic of an open session

Topics and filters are checked first, then the link, and only then does a
packet take an identifier and go out.  What fails before that leaves the link
alone; a frame that cannot be written drops it.
-/
import Mqtt.Session.Transfer

namespace Mqtt
namespace Session

variable {ω ε : Type} [Environment ω]

/-- A message can be published to the topic: it is not empty and has no wildcard. -/
def isTopic (topic : String) : Bool :=
  !topic.isEmpty && topic.toList.all fun c => c ≠ '+' && c ≠ '#'

/-- Publishes a message.  It is sent once, also at level 1. -/
def publish (topic : String) (payload : List UInt8) (qos : QoS) : Action Fault (Session ω) Unit := do
  unless isTopic topic do throw .invalidTopic
  unless (← get).isConnected do throw .notConnected
  let packetId ← match qos with
    | .atMostOnce => pure none
    | .atLeastOnce => some <$> nextPacketId
  transmit (.publish { topic, payload, qos, packetId, retain := false, dup := false })
  notice (.published payload.length topic)

/-- Subscribes to a filter, and keeps it to be restored once the frame is out. -/
def subscribe (filter : String) (qos : QoS) : Action Fault (Session ω) Recorded := do
  if filter.isEmpty then throw .invalidTopic
  if Registry.filterLimit < filter.utf8ByteSize then throw .topicTooLong
  unless (← get).isConnected do throw .notConnected
  transmit (.subscribe (← nextPacketId) filter qos)
  notice (.subscribed filter qos)
  let (recorded, registry) ← Action.ofExcept ((← get).registry.record filter qos)
  modify fun session => { session with registry }
  if recorded = .dropped then notice (.registryFull filter)
  return recorded

/-- Acknowledges a message of level 1. -/
def acknowledge (packetId : UInt16) : Action Fault (Session ω) Unit :=
  transmit (.pubAck packetId)

/-- Does what the keep-alive timers call for at a reading of the clock. -/
def serviceKeepAlive (time : UInt32) : Action Fault (Session ω) Unit := do
  match (← get).keepAlive.due time with
  | none => return
  | some .ping =>
    transmit .pingReq
    modify fun session => { session with keepAlive := session.keepAlive.pinged time }
    notice .pinged
  | some .linkDead =>
    notice .pingUnanswered
    dropLink
    throw .timeout

/-- Reads what the broker sent, at most so many bytes; none says that none came
in time.  A failure leaves the link to the caller. -/
def receive (capacity : Nat) (timeout : UInt32) : Action Fault (Session ω) (Chunk capacity) := do
  let some connection := (← get).connection | throw .notConnected
  onWorld (World.orNotice (World.read connection capacity timeout) .receiveFailed .readError)

/-- Tells the broker, if the session is connected, and closes the connection. -/
def disconnect : Action ε (Session ω) Unit := do
  if (← get).isConnected then
    let _ ← Action.attempt (transmit .disconnect)
    dropLink
    notice (.disconnected (← get).settings.host.text)

end Session
end Mqtt
