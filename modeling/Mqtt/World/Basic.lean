/-
# The world

The environment, the clock, and the history of what was done so far.  Every
action on the world asks the environment one question, moves the clock by the
time the answer took and writes one event into the history.

The clock moves in two ways: by what an answer takes, and by the waits of a run,
which come between the moves of a client and its worker.  Computing takes no time.
This is a limit of the model, and it shows where the clock is read twice with no
question in between, for there both readings are the same:

* an exchange of CONNECT and CONNACK notes when it starts to wait, and looks at the
  deadline before its first read (`Session.exchange`, `Session.fill`);
* a pass of the worker that has reconnected starts the keep-alive timers, and reads
  the clock for them again before it goes on to read (`Worker.pass`).

A task that is preempted just there sees a later second reading.  What is proved of
`Session.fill` is proved for every starting time and every reading, so it covers
that case as well; the other readings follow an answer or a wait, and may be any.
-/
import Mqtt.Action
import Mqtt.World.Event

namespace Mqtt

/-- An environment with the time and everything that was done in it. -/
structure World (ω : Type) where
  environment : ω
  clock : UInt32
  /-- How many connections have been opened. -/
  opened : Nat := 0
  /-- What was done, the latest first. -/
  history : List Stamped := []

namespace World

variable {ω ε ε' α : Type}

/-- What was done, in order. -/
def events (world : World ω) : List Event :=
  world.history.reverse.map (·.event)

/-- Writes an event into the history. -/
def record (event : Event) : Action ε (World ω) Unit :=
  modify fun world => { world with history := ⟨world.clock, event⟩ :: world.history }

/-- An event goes to the end of what was done. -/
theorem record_apply (event : Event) (world : World ω) :
    (record event : Action ε (World ω) Unit) world =
      .ok () { world with history := ⟨world.clock, event⟩ :: world.history } := rfl

/-- Tells the log. -/
def notice (n : Notice) : Action ε (World ω) Unit :=
  record (.notice n)

/-- Does something that may fail.  A failure is told to the log and goes on
under another name. -/
def orNotice (action : Action ε (World ω) α) (told : ε → Notice) (fault : ε') :
    Action ε' (World ω) α := do
  match ← Action.attempt action with
  | .ok a => return a
  | .error e =>
    notice (told e)
    throw fault

/-- Puts a question to the environment; the event holds the answer. -/
def ask (question : ω → Answer ω α) (event : α → Event) : Action ε (World ω) α := do
  let answer := question (← get).environment
  record (event answer.value)
  modify fun world =>
    { world with environment := answer.next, clock := world.clock + answer.took }
  return answer.value

/-- Puts a question that the environment may answer with a failure. -/
def demand (question : ω → Answer ω (Except ε α)) (event : Except ε α → Event) :
    Action ε (World ω) α := do
  Action.ofExcept (← ask question event)

variable [Environment ω]

/-- Opens a connection and gives its number. -/
def connect (host : String) (tcpPort : UInt16) (timeout : UInt32) :
    Action NetFault (World ω) Nat := do
  demand (Environment.connect host tcpPort timeout) (.connect host tcpPort timeout)
  modify fun world => { world with opened := world.opened + 1 }
  return (← get).opened

/-- Reads at most so many bytes from a connection. -/
def read (connection capacity : Nat) (timeout : UInt32) :
    Action NetFault (World ω) (Chunk capacity) :=
  demand (Environment.read capacity timeout) fun result =>
    .read connection capacity timeout (result.map (·.val))

/-- Writes a frame to a connection; gives the number of bytes taken. -/
def write (connection : Nat) (frame : List UInt8) : Action NetFault (World ω) Nat :=
  demand (Environment.write frame) (.write connection frame)

/-- Pushes out what was written to a connection. -/
def flush (connection : Nat) : Action NetFault (World ω) Unit :=
  demand Environment.flush (.flush connection)

/-- Closes a connection. -/
def close (connection : Nat) : Action NetFault (World ω) Unit :=
  demand Environment.close fun _ => .close connection

/-- Secures a connection for a name.  A handshake that refuses closes it. -/
def secure (connection : Nat) (name : String) (settings : TlsSettings) :
    Action String (World ω) Unit := do
  let result ← ask (Environment.secure name settings) fun _ => .secure connection name settings
  if let .error reason := result then
    let _ ← Action.attempt (close connection)
    throw reason

/-- Starts a task, and says whether that went well. -/
def spawn (task : TaskSettings) : Action ε (World ω) Bool :=
  ask (Environment.spawn task) (.spawn task)

/-- Hands a message to the handler. -/
def deliver (topic : String) (payload : List UInt8) : Action ε (World ω) Reaction :=
  ask (Environment.deliver topic payload) fun _ => .message topic payload

end World
end Mqtt
