/-
# Settings of a client

A host and a client identifier are required; everything else has a default and
is changed by a `Setting`.

| text | bytes at most |
| --- | ---: |
| host | 128 |
| client identifier | 64 |
| user name, password | 64 |

A password can only be set together with a user name, so `Settings.connect`
never asks for one alone.

Settings are those that `Settings.new` and `Settings.set` build, and no others.  Two
values that a record of plain fields could be given by hand are ruled out by their
types: a poll that takes no time at all, for which there is `one_le_pollTimeout`, and
a password without a user name, for which `Credentials` has no place.  Whoever fills
in such a record without these two functions gets clients that nothing here is about.
-/
import Mqtt.Backoff
import Mqtt.Text.Bounded
import Mqtt.Wire.Outbound

namespace Mqtt

/-- How the worker's task is created. -/
structure TaskSettings where
  name : String := "mqtt-engine"
  /-- In bytes. -/
  stackSize : Nat := 2048
  /-- The larger, the more urgent. -/
  priority : UInt8 := 5
  deriving DecidableEq

/-- Who the client says it is: a user name, and possibly a password with it. -/
structure Credentials (limit : Nat) where
  userName : BoundedText limit
  password : Option (BoundedText limit)
  deriving DecidableEq

namespace Settings

/-- The TCP number that brokers listen on, without transport security. -/
def defaultTcpPort : UInt16 := 1883

/-- The most bytes of a host name. -/
def hostLimit : Nat := 128

/-- The most bytes of a client identifier. -/
def clientIdLimit : Nat := 64

/-- The most bytes of a user name or a password. -/
def credentialLimit : Nat := 64

end Settings

/-- How a client connects and keeps its connection.  A poll of 0 milliseconds and a
password alone cannot be written down: setting them gives a poll of 1 and needs a user
name, so only the fields themselves could hold them. -/
structure Settings where
  host : BoundedText Settings.hostLimit
  tcpPort : UInt16
  clientId : BoundedText Settings.clientIdLimit
  credentials : Option (Credentials Settings.credentialLimit) := none
  /-- The longest silence in seconds; 0 switches pings off. -/
  keepAlive : UInt16 := 60
  /-- Asks the broker to forget earlier sessions. -/
  cleanSession : Bool := true
  /-- Bounds opening a connection and waiting for its CONNACK, in milliseconds. -/
  connectTimeout : UInt32 := 5000
  /-- Bounds one read of the worker, and one slice of its sleep, in milliseconds. -/
  pollTimeout : UInt32 := 100
  backoff : Backoff := .fixed 1000
  task : TaskSettings := {}
  one_le_pollTimeout : 1 ≤ pollTimeout := by decide
  deriving DecidableEq

/-- A change of one of the defaults. -/
inductive Setting where
  | credentials (userName : String) (password : Option String)
  | keepAlive (seconds : UInt16)
  | cleanSession (clean : Bool)
  | connectTimeout (ms : UInt32)
  | pollTimeout (ms : UInt32)
  | backoff (schedule : Backoff)
  | task (task : TaskSettings)
  deriving DecidableEq

namespace Settings

/-- The text within its bound; one beyond it does not fit its place. -/
def fit {limit : Nat} (text : String) : Except Fault (BoundedText limit) :=
  match BoundedText.of? text with
  | some t => .ok t
  | none => .error .bufferTooSmall

/-- The default settings for a host and a client identifier. -/
def new (host : String) (tcpPort : UInt16) (clientId : String) : Except Fault Settings := do
  let host ← fit host
  let clientId ← fit clientId
  return { host, tcpPort, clientId }

/-- The default settings for no host. -/
instance : Inhabited Settings where
  default := { host := default, tcpPort := defaultTcpPort, clientId := default }

/-- The settings with one of them changed.  A poll takes at least a millisecond. -/
def set (settings : Settings) : Setting → Except Fault Settings
  | .credentials userName password => do
    let userName ← fit userName
    let password ← password.mapM fit
    return { settings with credentials := some ⟨userName, password⟩ }
  | .keepAlive seconds => .ok { settings with keepAlive := seconds }
  | .cleanSession clean => .ok { settings with cleanSession := clean }
  | .connectTimeout ms => .ok { settings with connectTimeout := ms }
  | .pollTimeout ms =>
    .ok (if h : 1 ≤ ms then { settings with pollTimeout := ms, one_le_pollTimeout := h }
      else { settings with pollTimeout := 1, one_le_pollTimeout := by decide })
  | .backoff schedule => .ok { settings with backoff := schedule }
  | .task task => .ok { settings with task := task }

/-- The default settings with changes made one after the other; the first that
fails is the answer. -/
def build (host : String) (tcpPort : UInt16) (clientId : String) (changes : List Setting) :
    Except Fault Settings := do
  changes.foldlM set (← new host tcpPort clientId)

/-- The request that opens a session with these settings. -/
def connect (settings : Settings) : Connect where
  clientId := settings.clientId.text
  userName := settings.credentials.map (·.userName.text)
  password := settings.credentials.bind fun c => c.password.map (·.text)
  keepAlive := settings.keepAlive
  cleanSession := settings.cleanSession

end Settings
end Mqtt
