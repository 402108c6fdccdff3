/-
# Sessions that cannot be told apart

A relation between sessions is a coupling (`Session.Coupling`) if related sessions have
coupled worlds and agree on everything but the connector, the timers and readings of the
clock, and if these make no difference: readings of the clock correspond by a function
`time` that keeps the time between them, and opening a connection goes alike.

No operation can tell such sessions apart.  It gives the same in both, or fails in both
with the same failure, and leaves them related.  Only the keep-alive timers are left open:
where they call for the same, they are serviced alike (`Coupling.agree_serviceKeepAlive`).
-/
import Mqtt.Session.Handshake
import Mqtt.Session.Traffic
import Mqtt.Proofs.World.Coupled

namespace Mqtt
namespace Session

open Mqtt.Action

variable {ω ε α β : Type} [Environment ω]

/-- Related sessions are the same to whoever uses them, in coupled worlds. -/
structure Coupling (time : UInt32 → UInt32) (P : World ω → World ω → Prop)
    (R : Session ω → Session ω → Prop) : Prop where
  /-- The coupled worlds do the same under every act. -/
  worlds : World.Coupling P
  /-- The clock of the second world is that of the first with `time` done to it. -/
  clock : ∀ {w w'}, P w w' → w'.clock = time w.clock
  /-- Differences of times stay what they are. -/
  elapsed : ∀ now since, elapsed (time now) (time since) = elapsed now since
  /-- Coupled sessions are in coupled worlds. -/
  world : ∀ {s t}, R s t → P s.world t.world
  /-- Apart from the connector and the timers they agree. -/
  rest : ∀ {s t}, R s t →
    t = { s with connector := t.connector, keepAlive := t.keepAlive, world := t.world }
  /-- What keeps worlds related keeps the sessions related. -/
  onWorld : ∀ {s t u v}, R s t → P u v → R { s with world := u } { t with world := v }
  /-- A packet identifier may be taken on both sides. -/
  identified : ∀ {s t} packetId, R s t → R { s with packetId } { t with packetId }
  /-- A registry may be put in on both sides. -/
  recorded : ∀ {s t} registry, R s t → R { s with registry } { t with registry }
  /-- The link may be forgotten on both sides. -/
  dropped : ∀ {s t}, R s t → R { s with connection := none } { t with connection := none }
  /-- A link that comes up starts the timers in both. -/
  raised : ∀ {s t} connection link, R s t →
    R { s with
        connection := some connection, link, keepAlive := s.keepAlive.reset s.world.clock }
      { t with
        connection := some connection, link, keepAlive := t.keepAlive.reset t.world.clock }
  /-- The timers may be started on both sides, each at its own clock. -/
  restarted : ∀ {s t}, R s t → R { s with keepAlive := s.keepAlive.reset s.world.clock }
    { t with keepAlive := t.keepAlive.reset t.world.clock }
  /-- A ping may be noted on both sides. -/
  pinged : ∀ {s t} now, R s t → R { s with keepAlive := s.keepAlive.pinged now }
    { t with keepAlive := t.keepAlive.pinged (time now) }
  /-- An answer to a ping may be noted on both sides. -/
  ponged : ∀ {s t} now, R s t → R { s with keepAlive := s.keepAlive.ponged now }
    { t with keepAlive := t.keepAlive.ponged (time now) }
  /-- A connection is opened in both or in neither. -/
  dialed : ∀ {s t}, R s t → ∀ tcpPort timeout,
    let host := s.settings.host.text
    Agree P (· = ·)
      (World.orNotice (s.connector.dial host tcpPort timeout) (.dialFailed host tcpPort)
        Fault.connectFailed) s.world
      (World.orNotice (t.connector.dial host tcpPort timeout) (.dialFailed host tcpPort)
        Fault.connectFailed) t.world

omit [Environment ω] in
/-- Packing a packet does not look at the session. -/
theorem steady_packed {R : Session ω → Session ω → Prop} (packet : Outbound) :
    Steady R (packed packet : Action Fault (Session ω) (List UInt8)) :=
  steady_ofExcept _

namespace Coupling

variable {time : UInt32 → UInt32} {P : World ω → World ω → Prop}
  {R : Session ω → Session ω → Prop} {s t : Session ω}

section

variable (c : Coupling time P R) (h : R s t)

include c h

/-- Related sessions have the same settings. -/
theorem settings : t.settings = s.settings := by rw [c.rest h]

/-- Related sessions use the same connection, or both have none. -/
theorem connection : t.connection = s.connection := by rw [c.rest h]

/-- Related sessions count the same links. -/
theorem link : t.link = s.link := by rw [c.rest h]

/-- Related sessions give out the same identifier next. -/
theorem packetId : t.packetId = s.packetId := by rw [c.rest h]

/-- Related sessions hold the same subscriptions. -/
theorem registry : t.registry = s.registry := by rw [c.rest h]

/-- Related sessions are both connected or both not. -/
theorem isConnected : t.isConnected = s.isConnected := by
  rw [Session.isConnected, c.connection h, Session.isConnected]

/-- What goes alike in the worlds goes alike in the sessions around them. -/
theorem agree_onWorld {V : α → β → Prop} {a : Action ε (World ω) α} {b : Action ε (World ω) β}
    (agree : Agree P V a s.world b t.world) :
    Agree R V (Session.onWorld a) s (Session.onWorld b) t :=
  agree_within agree fun hw => c.onWorld h hw

/-- What is done with a reading of the clock is done with the one that corresponds. -/
theorem agree_now_bind {V : α → β → Prop} {k : UInt32 → Action ε (Session ω) α}
    {l : UInt32 → Action ε (Session ω) β}
    (rest : Agree R V (k s.world.clock) s (l (time s.world.clock)) t) :
    Agree R V (now >>= k) s (now >>= l) t := by
  rw [← c.clock (c.world h)] at rest
  exact rest

/-- Noting the answer to a ping restarts the timers of both. -/
theorem agree_ponged (now : UInt32) :
    Agree R (· = ·) (Session.ponged now : Action ε (Session ω) Unit) s
      (Session.ponged (time now)) t :=
  .ok rfl (c.ponged now h)

end

variable (c : Coupling time P R)

include c

/-- What is steady in coupled worlds is steady in the sessions. -/
theorem steady_onWorld {action : Action ε (World ω) α} (h : Steady P action) :
    Steady R (Session.onWorld action) := fun s t hst =>
  c.agree_onWorld hst (h s.world t.world (c.world hst))

/-- Telling the log is steady. -/
theorem steady_notice (n : Notice) : Steady R (notice n : Action ε (Session ω) Unit) :=
  c.steady_onWorld (c.worlds.steady_notice n)

/-- Taking the next identifier is steady: both give out the same one and move on. -/
theorem steady_nextPacketId : Steady R (nextPacketId : Action ε (Session ω) UInt16) := by
  refine steady_get_bind (fun s t h => by simp only [c.packetId h]) fun s => ?_
  exact steady_bind (steady_modify fun s t h => c.identified _ h) fun _ => steady_pure _

/-- Starting the timers over is steady, though each sets them to its own clock's reading. -/
theorem steady_restartKeepAlive : Steady R (restartKeepAlive : Action ε (Session ω) Unit) :=
  steady_modify fun _ _ h => c.restarted h

/-- Closing a connection is steady, whether or not closing fails. -/
theorem steady_closeQuietly (connection : Nat) :
    Steady R (closeQuietly connection : Action ε (Session ω) Unit) := by
  have hclose := c.worlds.steady_close connection
  refine steady_bind (c.steady_onWorld (steady_attempt hclose)) fun x => ?_
  cases x with
  | ok a => exact steady_pure _
  | error fault => exact c.steady_notice _

/-- Giving up the link is steady: both had it, over the same connection, or neither. -/
theorem steady_dropLink : Steady R (dropLink : Action ε (Session ω) Unit) := by
  refine steady_get_bind (fun s t h => by simp only [c.connection h]) fun s => ?_
  cases s.connection with
  | none => exact steady_pure _
  | some connection =>
    exact steady_bind (steady_modify fun s t h => c.dropped h) fun _ =>
      c.steady_closeQuietly connection

/-- Sending a frame is steady.  It goes out in both, or fails in both at the same place
and leaves the same in the log. -/
theorem steady_sendFrame (connection : Nat) (frame : List UInt8) :
    Steady R (sendFrame connection frame : Action Fault (Session ω) Unit) := by
  refine steady_bind (c.steady_onWorld (c.worlds.steady_orNotice _ _
    (c.worlds.steady_write _ _))) fun taken => ?_
  split
  case isTrue => exact steady_bind (c.steady_notice _) fun _ => steady_throw _
  case isFalse =>
    exact c.steady_onWorld (c.worlds.steady_orNotice _ _ (c.worlds.steady_flush _))

/-- Sending a packet over the link is steady; where it fails, both give up the link. -/
theorem steady_transmit (packet : Outbound) :
    Steady R (transmit packet : Action Fault (Session ω) Unit) := by
  refine steady_bind (steady_packed packet) fun frame => ?_
  refine steady_get_bind (fun s t h => by simp only [c.connection h]) fun s => ?_
  cases s.connection with
  | none => exact steady_throw _
  | some connection =>
    refine steady_bind (steady_attempt (c.steady_sendFrame connection frame)) fun x => ?_
    cases x with
    | ok a => exact steady_pure _
    | error fault => exact steady_bind c.steady_dropLink fun _ => steady_throw _

/-- **A deadline is the same time away in both.**  Each read is asked for with the time
that is left, and that is the same in both. -/
theorem agree_fill (connection : Nat) (started timeout : UInt32) (missing : Nat) (h : R s t) :
    Agree R (· = ·) (fill connection started timeout missing) s
      (fill connection (time started) timeout missing) t := by
  induction missing using Nat.strongRecOn generalizing s t with
  | ind missing ih =>
    rw [fill.eq_def connection started, fill.eq_def connection (time started)]
    split
    case isTrue => exact agree_pure rfl h
    case isFalse hmissing =>
      refine c.agree_now_bind h ?_
      rw [c.elapsed]
      dsimp only
      split
      case isTrue => exact agree_throw h
      case isFalse =>
        have hread := c.steady_onWorld (c.worlds.steady_orNotice Notice.readFailed
          Fault.readError (c.worlds.steady_read connection missing
            (timeout - Mqtt.elapsed s.world.clock started))) s t h
        refine agree_bind hread fun chunk _ u v hsame hstates => ?_
        subst hsame
        obtain ⟨bytes, hsize⟩ := chunk
        cases bytes with
        | nil => exact agree_throw hstates
        | cons b bytes =>
          have hless : missing - (bytes.length + 1) < missing := by omega
          refine agree_bind (ih _ hless hstates) fun rest _ u v hsame hstates => ?_
          subst hsame
          exact agree_pure rfl hstates

/-- **The exchange that opens a session is steady.**  It looks at the clock to find how
long it may still wait, and that time is the same in both. -/
theorem steady_exchange (connection : Nat) :
    Steady R (exchange connection : Action Fault (Session ω) Bool) := by
  refine steady_get_bind (fun s t h => by simp only [c.settings h]) fun s => ?_
  refine steady_bind (steady_packed _) fun frame => ?_
  refine steady_bind (c.steady_sendFrame connection frame) fun _ => ?_
  intro s t h
  refine c.agree_now_bind h ?_
  refine agree_bind (c.agree_fill _ _ _ _ h) fun head _ u v hsame hstates => ?_
  subst hsame
  split
  case isFalse =>
    exact steady_bind (c.steady_notice _) (fun _ => steady_throw _) u v hstates
  case isTrue =>
    refine agree_bind (c.agree_fill _ _ _ _ hstates) fun body _ u v hsame hstates => ?_
    subst hsame
    exact steady_ofExcept _ u v hstates

/-- A link comes up in both or in neither. -/
theorem steady_handshake : Steady R (handshake : Action Fault (Session ω) Unit) := by
  refine steady_bind c.steady_dropLink fun _ => ?_
  intro s t h
  refine agree_get_bind ?_
  dsimp only
  rw [c.settings h]
  refine agree_bind (c.agree_onWorld h (c.dialed h _ _)) fun connection _ u v hsame hstates => ?_
  subst hsame
  refine steady_bind (steady_attempt (c.steady_exchange connection)) (fun x => ?_) u v hstates
  cases x with
  | error fault =>
    refine steady_bind (c.steady_notice _) fun _ => ?_
    exact steady_bind (c.steady_closeQuietly connection) fun _ => steady_throw fault
  | ok present =>
    intro u v h
    refine agree_modify_bind (agree_modify_bind ?_)
    have hup := c.raised connection (u.link + 1) h
    rw [c.link h]
    exact c.steady_notice _ _ _ hup

/-- Sending the subscriptions again is steady: the same entries with the same identifiers,
up to the same failure. -/
theorem steady_replay : Steady R (replay : Action Fault (Session ω) Unit) := by
  refine steady_get_bind (fun s t h => by simp only [c.connection h, c.registry h]) fun s => ?_
  cases s.connection with
  | none => exact steady_throw _
  | some connection =>
    refine steady_forM _ fun entry => ?_
    refine steady_bind c.steady_nextPacketId fun id => ?_
    exact steady_bind (steady_packed _) fun frame => c.steady_sendFrame connection frame

/-- Connecting anew is steady, from giving up the link to restoring the last subscription. -/
theorem steady_reconnect : Steady R (reconnect : Action Fault (Session ω) Unit) := by
  refine steady_bind c.steady_handshake fun _ => ?_
  refine steady_bind (steady_attempt c.steady_replay) fun x => ?_
  cases x with
  | error fault =>
    refine steady_bind (c.steady_notice _) fun _ => ?_
    exact steady_bind c.steady_dropLink fun _ => steady_throw fault
  | ok a =>
    refine steady_bind c.steady_restartKeepAlive fun _ => ?_
    refine steady_get_bind (fun s t h => by simp only [c.registry h]) fun s => ?_
    dsimp only
    split
    case isTrue => exact c.steady_notice _
    case isFalse => exact steady_pure _

/-- Publishing is steady. -/
theorem steady_publish (topic : String) (payload : List UInt8) (qos : QoS) :
    Steady R (publish topic payload qos : Action Fault (Session ω) Unit) := by
  have sent : ∀ packetId : Option UInt16, Steady R (do
      transmit (.publish { topic, payload, qos, packetId, retain := false, dup := false })
      notice (.published payload.length topic) : Action Fault (Session ω) Unit) := fun packetId =>
    steady_bind (c.steady_transmit _) fun _ => c.steady_notice _
  unfold publish
  dsimp only
  split
  case isFalse => exact steady_throw _
  case isTrue =>
    refine steady_get_bind (fun s t h => by simp only [c.isConnected h]) fun s => ?_
    split
    case isFalse => exact steady_throw _
    case isTrue =>
      cases qos with
      | atMostOnce => exact sent none
      | atLeastOnce => exact steady_bind (steady_map some c.steady_nextPacketId) sent

/-- Subscribing is steady, the answer of the registry included. -/
theorem steady_subscribe (filter : String) (qos : QoS) :
    Steady R (subscribe filter qos : Action Fault (Session ω) Recorded) := by
  unfold subscribe
  dsimp only
  split
  case isTrue => exact steady_throw _
  case isFalse =>
    split
    case isTrue => exact steady_throw _
    case isFalse =>
      refine steady_get_bind (fun s t h => by simp only [c.isConnected h]) fun s => ?_
      split
      case isFalse => exact steady_throw _
      case isTrue =>
        refine steady_bind c.steady_nextPacketId fun id => ?_
        refine steady_bind (c.steady_transmit _) fun _ => ?_
        refine steady_bind (c.steady_notice _) fun _ => ?_
        refine steady_get_bind (fun s t h => by simp only [c.registry h]) fun s => ?_
        refine steady_bind (steady_ofExcept _) fun x => ?_
        obtain ⟨recorded, registry⟩ := x
        refine steady_bind (steady_modify fun s t h => c.recorded registry h) fun _ => ?_
        split
        case isTrue => exact steady_bind (c.steady_notice _) fun _ => steady_pure _
        case isFalse => exact steady_pure _

/-- Acknowledging a message is steady. -/
theorem steady_acknowledge (packetId : UInt16) :
    Steady R (acknowledge packetId : Action Fault (Session ω) Unit) :=
  c.steady_transmit _

/-- **Timers that call for the same are serviced alike.**  A ping goes out in both or in
neither, and so does giving up the link. -/
theorem agree_serviceKeepAlive (now : UInt32)
    (due : t.keepAlive.due (time now) = s.keepAlive.due now) (h : R s t) :
    Agree R (· = ·) (serviceKeepAlive now) s (serviceKeepAlive (time now)) t := by
  refine agree_get_bind ?_
  rw [due]
  cases s.keepAlive.due now with
  | none => exact agree_pure rfl h
  | some due =>
    cases due with
    | ping =>
      refine agree_bind (c.steady_transmit _ s t h) fun _ _ u v _ hstates => ?_
      exact agree_modify_bind (c.steady_notice _ _ _ (c.pinged now hstates))
    | linkDead =>
      refine steady_bind (c.steady_notice _) (fun _ => ?_) s t h
      exact steady_bind c.steady_dropLink fun _ => steady_throw _

/-- Receiving is steady: the same bytes come, or the link fails alike. -/
theorem steady_receive (capacity : Nat) (timeout : UInt32) :
    Steady R (receive capacity timeout : Action Fault (Session ω) (Chunk capacity)) := by
  refine steady_get_bind (fun s t h => by simp only [c.connection h]) fun s => ?_
  cases s.connection with
  | none => exact steady_throw _
  | some connection =>
    exact c.steady_onWorld (c.worlds.steady_orNotice _ _ (c.worlds.steady_read _ _ _))

/-- Disconnecting is steady, and fails in neither. -/
theorem steady_disconnect : Steady R (disconnect : Action ε (Session ω) Unit) := by
  refine steady_get_bind (fun s t h => by simp only [c.isConnected h]) fun s => ?_
  split
  case isFalse => exact steady_pure _
  case isTrue =>
    refine steady_bind (steady_attempt (c.steady_transmit _)) fun _ => ?_
    refine steady_bind c.steady_dropLink fun _ => ?_
    exact steady_get_bind (fun s t h => by simp only [c.settings h]) fun s => c.steady_notice _

end Coupling

end Session
end Mqtt
