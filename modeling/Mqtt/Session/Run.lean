/-
# Runs of a session

A session can be driven on its own, without a client around it.  Everything that can
happen to it then, one thing after the other: an operation is called, time passes,
the environment changes.  An operation that fails leaves behind what it did, and the
next one may follow all the same.
-/
import Mqtt.Session.Handshake
import Mqtt.Session.Traffic

namespace Mqtt
namespace Session

variable {ω ε : Type} [Environment ω]

/-- Something that happens to a session between two others. -/
inductive Move (ω : Type) where
  | handshake
  | reconnect
  | publish (topic : String) (payload : List UInt8) (qos : QoS)
  | subscribe (filter : String) (qos : QoS)
  | acknowledge (packetId : UInt16)
  | serviceKeepAlive (time : UInt32)
  | receive (capacity : Nat) (timeout : UInt32)
  | ponged (time : UInt32)
  | nextPacketId
  | disconnect
  | dropLink
  | wait (ms : UInt32)
  /-- The environment changes on its own. -/
  | become (environment : ω)

/-- What happens in a move. -/
def act : Move ω → Action Fault (Session ω) Unit
  | .handshake => handshake
  | .reconnect => reconnect
  | .publish topic payload qos => publish topic payload qos
  | .subscribe filter qos => do let _ ← subscribe filter qos
  | .acknowledge packetId => acknowledge packetId
  | .serviceKeepAlive time => serviceKeepAlive time
  | .receive capacity timeout => do let _ ← receive capacity timeout
  | .ponged time => ponged time
  | .nextPacketId => do let _ ← nextPacketId
  | .disconnect => disconnect
  | .dropLink => dropLink
  | .wait ms => onWorld (modify fun world => { world with clock := world.clock + ms })
  | .become environment => onWorld (modify fun world => { world with environment })

/-- What a move gives back. -/
inductive Return where
  | nothing
  | recorded (recorded : Recorded)
  | bytes (bytes : List UInt8)
  | packetId (packetId : UInt16)
  deriving DecidableEq

/-- What happens in a move, with what it gives back. -/
def returning : Move ω → Action Fault (Session ω) Return
  | .subscribe filter qos => return .recorded (← subscribe filter qos)
  | .receive capacity timeout => return .bytes (← receive capacity timeout).val
  | .nextPacketId => return .packetId (← nextPacketId)
  | move => do
    act move
    return .nothing

/-- How a move goes. -/
def outcome (session : Session ω) (move : Move ω) : Except Fault Unit :=
  (Action.complete (Action.attempt (act move)) session).1

/-- What a move gives back, or how it fails. -/
def result (session : Session ω) (move : Move ω) : Except Fault Return :=
  (Action.complete (Action.attempt (returning move)) session).1

/-- The session after a move, which may have failed. -/
def step (session : Session ω) (move : Move ω) : Session ω :=
  (Action.complete (Action.attempt (act move)) session).2

/-- The session after some moves. -/
def run (session : Session ω) (moves : List (Move ω)) : Session ω :=
  moves.foldl step session

/-- What some moves give back, in order. -/
def results (session : Session ω) : List (Move ω) → List (Except Fault Return)
  | [] => []
  | move :: moves => session.result move :: (session.step move).results moves

end Session
end Mqtt
