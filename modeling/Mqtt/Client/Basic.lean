/-
# Clients

A client is a session with a worker beside it.  `running` tells the worker to go
on; `joinable` says that the client holds the handle of the worker's task, to
be joined later.

`connect` starts the worker once the first link is up.  `disconnect` tells it to
stop, lets it finish what its handler is in the middle of, and joins it.
-/
import Mqtt.Client.Worker

namespace Mqtt

/-- A client between two calls. -/
structure Client (ω : Type) where
  session : Session ω
  running : Bool := false
  /-- The handle of the worker's task is held. -/
  joinable : Bool := false
  /-- The worker, while its task lives. -/
  worker : Option Worker := none

namespace Client

variable {ω ε α : Type} [Environment ω]

/-- A disconnected client.  An empty client identifier asks the broker to choose
one, which it only does for a clean session. -/
def new (connector : Connector) (settings : Settings) (world : World ω) :
    Except Fault (Client ω) :=
  if settings.clientId.text.isEmpty && !settings.cleanSession then
    .error (.connectionRefused .identifierRejected)
  else .ok { session := .new connector settings world }

/-- Does something to the session. -/
def onSession (action : Action ε (Session ω) α) : Action ε (Client ω) α :=
  Action.within (·.session) (fun session client => { client with session }) action

/-- Starts the worker's task. -/
def startWorker : Action Fault (Client ω) Unit := do
  modify fun client => { client with running := true }
  let task := (← get).session.settings.task
  if ← onSession (Session.onWorld (World.spawn task)) then
    modify fun client => { client with joinable := true, worker := some {} }
    onSession (Session.notice .workerStarted)
  else
    onSession (Session.notice .workerNotStarted)
    modify fun client => { client with running := false }
    onSession Session.disconnect
    throw .taskSpawn

/-- Connects, unless there is a link already, and starts the worker, unless there
is one already. -/
def connect : Action Fault (Client ω) Unit := do
  onSession Session.ensureConnected
  unless (← get).joinable do startWorker

/-- Takes the session from a worker that waits to read, which then starts its pass
again. -/
def interrupt : Action ε (Client ω) Unit :=
  modify fun client => { client with worker := client.worker.map Worker.interrupted }

/-- One move of the worker.  Once the client has stopped running, the worker
finishes and its task ends. -/
def proceed : Action ε (Client ω) Unit := do
  let client ← get
  if let some worker := client.worker then
    if client.running then
      let worker ← onSession (worker.move true)
      modify fun client => { client with worker := some worker }
    else
      onSession worker.finish
      modify fun client => { client with worker := none }

/-- Disconnects, and waits for the worker to end. -/
def disconnect : Action ε (Client ω) Unit := do
  modify fun client => { client with running := false }
  onSession Session.disconnect
  if (← get).joinable then
    proceed
    onSession (Session.notice .workerStopped)
    onSession (Session.onWorld (World.record .join))
    modify fun client => { client with joinable := false }

/-- Makes a call. -/
def perform (call : Call) : Action ε (Client ω) Reply := do
  interrupt
  match call with
  | .connect => Reply.ofExcept <$> Action.attempt connect
  | call => onSession (Session.answer (← get).running call)

/-- The client as it is shown. -/
def text (client : Client ω) : String :=
  textOf client.session client.running

end Client
end Mqtt
