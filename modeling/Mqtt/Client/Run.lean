/-
# Runs of a client

Everything that can happen to a client, one thing after the other: the program
makes a call or disconnects, the worker makes a move, time passes, the
environment changes.  A run is any list of such moves in any order; which of them
happen when is not the client's choice.
-/
import Mqtt.Client.Basic

namespace Mqtt
namespace Client

variable {ω ε : Type} [Environment ω]

/-- Something that happens to a client between two others. -/
inductive Move (ω : Type) where
  | call (call : Call)
  | disconnect
  /-- The worker moves, if there is one. -/
  | proceed
  | wait (ms : UInt32)
  /-- The environment changes on its own. -/
  | become (environment : ω)

/-- Lets time pass. -/
def wait (ms : UInt32) : Action ε (Client ω) Unit := do
  onSession (Session.onWorld (modify fun world => { world with clock := world.clock + ms }))
  modify fun client => { client with worker := client.worker.map (Worker.rested ms) }

/-- What happens in a move. -/
def act : Move ω → Action ε (Client ω) Unit
  | .call c => do let _ ← perform c
  | .disconnect => disconnect
  | .proceed => proceed
  | .wait ms => wait ms
  | .become environment =>
    onSession (Session.onWorld (modify fun world => { world with environment }))

/-- The client after a move. -/
def step (client : Client ω) (move : Move ω) : Client ω :=
  (Action.complete (act move) client).2

/-- The client after some moves. -/
def run (client : Client ω) (moves : List (Move ω)) : Client ω :=
  moves.foldl step client

/-- A client in a world where nothing has been done. -/
def start (connector : Connector) (settings : Settings) (environment : ω) (clock : UInt32) :
    Client ω :=
  { session := .new connector settings { environment, clock } }

end Client
end Mqtt
