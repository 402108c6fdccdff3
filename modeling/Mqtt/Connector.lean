/-
# Opening connections

A connector opens connections either as they come or secured by a handshake.
The secured one reports every failure to open as a refusal, and every failed
handshake as such; the log keeps the reason.
-/
import Mqtt.World.Basic

namespace Mqtt

/-- How connections are opened. -/
inductive Connector where
  | plain
  | tls (settings : TlsSettings)
  deriving DecidableEq

namespace Connector

variable {ω : Type} [Environment ω]

/-- Opens a connection to a host and gives its number. -/
def dial (connector : Connector) (host : String) (tcpPort : UInt16) (timeout : UInt32) :
    Action NetFault (World ω) Nat :=
  match connector with
  | .plain => World.connect host tcpPort timeout
  | .tls settings => do
    let name := settings.nameFor host
    let connection ← World.orNotice (World.connect host tcpPort timeout)
      (.tlsDialFailed host tcpPort) .connectionRefused
    World.orNotice (World.secure connection name settings) (.tlsRejected name) .handshakeFailed
    return connection

end Connector
end Mqtt
