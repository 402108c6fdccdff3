/-
# The environment of a client

Everything a client needs from outside: connections, tasks, and the handler of
messages.  An environment answers a question with a value, says how long that
took, and goes on as another environment.  It is never told the time, so what
it answers cannot depend on it.

A read answers with at most as many bytes as it was asked for.
-/
import Mqtt.Call
import Mqtt.Settings
import Mqtt.World.Tls

namespace Mqtt

/-- An answer of an environment: what it is, the milliseconds it took, and the
environment that goes on. -/
structure Answer (ω α : Type) where
  value : α
  took : UInt32
  next : ω

/-- Bytes read by one read of a given capacity. -/
abbrev Chunk (capacity : Nat) := { bytes : List UInt8 // bytes.length ≤ capacity }

/-- What a client asks of the world around it. -/
class Environment (ω : Type) where
  /-- Opens a connection to a host within so many milliseconds. -/
  connect : String → UInt16 → UInt32 → ω → Answer ω (Except NetFault Unit)
  /-- Secures the connection just opened, for a name; a refusal says why. -/
  secure : String → TlsSettings → ω → Answer ω (Except String Unit)
  /-- Reads from the open connection within so many milliseconds; no bytes says
  that none came. -/
  read : (capacity : Nat) → UInt32 → ω → Answer ω (Except NetFault (Chunk capacity))
  /-- Writes to the open connection; says how many bytes were taken. -/
  write : List UInt8 → ω → Answer ω (Except NetFault Nat)
  flush : ω → Answer ω (Except NetFault Unit)
  close : ω → Answer ω (Except NetFault Unit)
  /-- Starts a task; says whether it did. -/
  spawn : TaskSettings → ω → Answer ω Bool
  /-- Hands a message to the handler. -/
  deliver : String → List UInt8 → ω → Answer ω Reaction
  /-- A read would be answered without waiting. -/
  pending : ω → Bool

end Mqtt
