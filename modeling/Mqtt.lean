import Mqtt.Client.Program
import Mqtt.Script
import Mqtt.Proofs.Action
import Mqtt.Proofs.Wire.Length
import Mqtt.Proofs.World.Ran
import Mqtt.Proofs.Session.Accounts
import Mqtt.Proofs.Session.Restoration
import Mqtt.Proofs.Client.Acts
import Mqtt.Proofs.Client.Backoff
import Mqtt.Proofs.Client.Calm
import Mqtt.Proofs.Client.Connect
import Mqtt.Proofs.Client.Farewell
import Mqtt.Proofs.Client.Isolation
import Mqtt.Proofs.Client.Progress
import Mqtt.Proofs.Client.Reassembly
import Mqtt.Proofs.Client.Restoration
import Mqtt.Proofs.Client.Shift
import Mqtt.Proofs.Client.Delivery
import Mqtt.Proofs.Session.Timers
import Mqtt.Proofs.Client.Pings
import Mqtt.Proofs.Wire.Grammar
import Mqtt.Proofs.Wire.RoundTrip
import Mqtt.Proofs.Session.Failure
import Mqtt.Proofs.Session.Publication
import Mqtt.Proofs.Client.Publication
import Mqtt.Proofs.Session.Silence
import Mqtt.Proofs.Session.Identifiers
import Mqtt.Proofs.Session.Admission
import Mqtt.Proofs.Session.Secured
import Mqtt.Proofs.Wire.Fit
import Mqtt.Proofs.Wire.Request
import Mqtt.Proofs.Registry.History
import Mqtt.Proofs.Wire.Unfinished
import Mqtt.Proofs.Client.Room
import Mqtt.Proofs.Backoff
import Mqtt.Proofs.Settings
import Mqtt.Proofs.Session.Settings
import Mqtt.Proofs.Session.Deadline
import Mqtt.Proofs.Client.Pause
import Mqtt.Proofs.Wire.Final
import Mqtt.Proofs.Client.Schedule
