/-
# Frames over a connection

`sendFrame` writes a whole frame or fails.  `fill` reads an exact number of
bytes before a deadline, however the connection cuts them.  `transmit` is how
an established session sends: a failure drops the link.
-/
import Mqtt.Session.Basic

namespace Mqtt
namespace Session

variable {ω ε : Type} [Environment ω]

/-- Closes a connection; a failure is only told to the log. -/
def closeQuietly (connection : Nat) : Action ε (Session ω) Unit := do
  if let .error fault ← onWorld (Action.attempt (World.close connection)) then
    notice (.closeFailed fault)

/-- Closes the connection, if there is one, without telling the broker. -/
def dropLink : Action ε (Session ω) Unit := do
  if let some connection := (← get).connection then
    modify fun session => { session with connection := none }
    closeQuietly connection

/-- The bytes of a packet, if they do not exceed the largest frame. -/
def packed (packet : Outbound) : Action Fault (Session ω) (List UInt8) :=
  Action.ofExcept (packet.pack frameLimit)

/-- Writes a frame and flushes it. -/
def sendFrame (connection : Nat) (frame : List UInt8) : Action Fault (Session ω) Unit := do
  let taken ← onWorld (World.orNotice (World.write connection frame) .writeFailed .writeError)
  if taken ≠ frame.length then
    notice (.shortWrite taken frame.length)
    throw .shortWrite
  onWorld (World.orNotice (World.flush connection) .flushFailed .writeError)

/-- Sends a packet over the open connection; a failure to write drops the link. -/
def transmit (packet : Outbound) : Action Fault (Session ω) Unit := do
  let frame ← packed packet
  let some connection := (← get).connection | throw .notConnected
  if let .error fault ← Action.attempt (sendFrame connection frame) then
    dropLink
    throw fault

/-- Reads so many bytes before the timeout, counted from `started`, has passed.
A read that gives none says that the time is over. -/
def fill (connection : Nat) (started timeout : UInt32) (missing : Nat) :
    Action Fault (Session ω) (List UInt8) := do
  if missing = 0 then return []
  let waited := elapsed (← now) started
  if timeout ≤ waited then throw .timeout
  let chunk ← onWorld (World.orNotice (World.read connection missing (timeout - waited))
    .readFailed .readError)
  match chunk with
  | ⟨[], _⟩ => throw .timeout
  | ⟨b :: bytes, _⟩ =>
    return b :: bytes ++ (← fill connection started timeout (missing - (bytes.length + 1)))
termination_by missing

end Session
end Mqtt
