/-
# Calls that concern the session alone

All calls but the first `connect` of a program need nothing beyond the session,
so the message handler can make them while the worker is in the middle of its
work.
-/
import Mqtt.Session.Handshake
import Mqtt.Session.Traffic

namespace Mqtt

/-- A client as it is shown. -/
def Client.textOf {ω : Type} (session : Session ω) (running : Bool) : String :=
  s!"Client \x7b session: {session.text}, running: {running}, .. \x7d"

namespace Session

variable {ω ε : Type} [Environment ω]

/-- Connects unless there is a link already. -/
def ensureConnected : Action Fault (Session ω) Unit := do
  unless (← get).isConnected do reconnect

/-- The reply to an operation that gives nothing back. -/
def replyTo (action : Action Fault (Session ω) Unit) : Action ε (Session ω) Reply :=
  Reply.ofExcept <$> Action.attempt action

/-- Makes a call that concerns the session alone.  A client that is not running
is waiting for its worker, so a call to connect is then refused. -/
def answer (running : Bool) : Call → Action ε (Session ω) Reply
  | .connect => replyTo (if running then ensureConnected else throw .notConnected)
  | .publish topic payload level =>
    replyTo do publish topic payload (← Action.ofExcept (QoS.ofByte level))
  | .subscribe filter level =>
    replyTo do let _ ← subscribe filter (← Action.ofExcept (QoS.ofByte level))
  | .state => return .text (← get).stateText
  | .describe => return .text (Client.textOf (← get) running)

end Session
end Mqtt
