/-
# What a client does

Each question put to the environment leaves an event that holds the question
and the answer.  So does each frame that is acted on, each call of the message
handler and each notice, so the history tells why something was done too.
Connections are numbered from 1 in the order they open.
-/
import Mqtt.World.Environment
import Mqtt.World.Notice

namespace Mqtt

/-- Something a client did, with how it went. -/
inductive Event where
  | connect (host : String) (tcpPort : UInt16) (timeout : UInt32) (result : Except NetFault Unit)
  | secure (connection : Nat) (name : String) (settings : TlsSettings)
  | read (connection capacity : Nat) (timeout : UInt32) (result : Except NetFault (List UInt8))
  | write (connection : Nat) (frame : List UInt8) (result : Except NetFault Nat)
  | flush (connection : Nat) (result : Except NetFault Unit)
  | close (connection : Nat)
  | sleep (ms : UInt32)
  | spawn (task : TaskSettings) (started : Bool)
  | join
  /-- A whole frame that came over a connection is acted on. -/
  | frame (connection : Nat) (bytes : List UInt8)
  | message (topic : String) (payload : List UInt8)
  /-- A call made by the message handler, and what it gave back. -/
  | reaction (call : Call) (reply : Reply)
  | notice (notice : Notice)

/-- An event and the reading of the clock when it began. -/
structure Stamped where
  time : UInt32
  event : Event

end Mqtt
