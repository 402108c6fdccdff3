/-
# Sessions

Everything the protocol needs between two frames: the open connection, the
link's number, the counter of packet identifiers, the subscriptions to restore
and the keep-alive timers, beside the world they live in.

A session is connected exactly when it holds a connection.  The link's number
grows with each completed handshake, so bytes read from one link can be told
from those of the next.

Operations fail with a `Fault`; those that cannot fail leave the type of failures
open.
-/
import Mqtt.Connector
import Mqtt.KeepAlive
import Mqtt.Registry

namespace Mqtt

/-- The protocol state of one client, in its world. -/
structure Session (ω : Type) where
  connector : Connector
  settings : Settings
  /-- The number of the open connection. -/
  connection : Option Nat := none
  /-- How many handshakes have completed; wraps. -/
  link : UInt32 := 0
  /-- The next packet identifier to be given out. -/
  packetId : UInt16 := 1
  registry : Registry := .empty
  keepAlive : KeepAlive
  world : World ω

namespace Session

variable {ω ε α : Type}

/-- The largest frame that is sent. -/
def frameLimit : Nat := 1024

/-- A session that has not been connected. -/
def new (connector : Connector) (settings : Settings) (world : World ω) : Session ω where
  connector
  settings
  keepAlive := .ofSeconds settings.keepAlive
  world

/-- The session holds an open connection. -/
def isConnected (session : Session ω) : Bool :=
  session.connection.isSome

/-- Does something to the world. -/
def onWorld (action : Action ε (World ω) α) : Action ε (Session ω) α :=
  Action.within (·.world) (fun world session => { session with world }) action

/-- Tells the log. -/
def notice (n : Notice) : Action ε (Session ω) Unit :=
  onWorld (World.notice n)

/-- The reading of the clock. -/
def now : Action ε (Session ω) UInt32 :=
  return (← get).world.clock

/-- Gives out a packet identifier: 1, 2 and so on to 65535, then 1 again. -/
def nextPacketId : Action ε (Session ω) UInt16 := do
  let id := (← get).packetId
  modify fun session => { session with packetId := max (id + 1) 1 }
  return id

/-- Starts the keep-alive timers at the current reading of the clock. -/
def restartKeepAlive : Action ε (Session ω) Unit :=
  modify fun session =>
    { session with keepAlive := session.keepAlive.reset session.world.clock }

/-- Notes that the broker answered a ping. -/
def ponged (time : UInt32) : Action ε (Session ω) Unit :=
  modify fun session => { session with keepAlive := session.keepAlive.ponged time }

/-- The word shown for whether a session is connected. -/
def stateText (session : Session ω) : String :=
  if session.isConnected then "Connected" else "Disconnected"

/-- The session as it is shown. -/
def text (session : Session ω) : String :=
  s!"Session \x7b host: {Quoted.quote session.settings.host.text}, state: {session.stateText}, " ++
    s!"link: {session.link.toNat}, packet_id: {session.packetId.toNat}, " ++
    s!"subscriptions: {session.registry.size}, keep_alive: {session.keepAlive.text} \x7d"

end Session
end Mqtt
