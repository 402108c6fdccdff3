/-
# Calls to a client

The same calls are open to the program that owns a client and to its message
handler.  The level of a message or subscription is the byte asked for; a byte
that names no level is refused before anything else.
-/
import Mqtt.Fault

namespace Mqtt

/-- A call to a client. -/
inductive Call where
  | connect
  | publish (topic : String) (payload : List UInt8) (level : UInt8)
  | subscribe (filter : String) (level : UInt8)
  /-- Asks whether the session is connected. -/
  | state
  /-- Asks for the client as it is shown. -/
  | describe
  deriving DecidableEq

/-- What a call gives back. -/
inductive Reply where
  | done
  | failed (fault : Fault)
  | text (s : String)
  deriving DecidableEq

/-- The reply that a result without a value makes. -/
def Reply.ofExcept : Except Fault Unit → Reply
  | .ok () => .done
  | .error fault => .failed fault

/-- What a message handler does with a message: it makes calls, one after the
other, and may then wait before it returns. -/
structure Reaction where
  calls : List Call
  waits : Bool
  deriving DecidableEq

end Mqtt
