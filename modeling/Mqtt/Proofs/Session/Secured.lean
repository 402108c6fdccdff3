/-
# Sessions behind a handshake

What a stack makes of a session whose connections it secures:

| stack | what the session does |
| --- | --- |
| accepts every connection | the same as without, and a handshake after each that opens |
| refuses every connection | nothing over a connection, and never has a link |

In the first case the session differs from one without handshakes in its connector and in
what its world has written down (`Secured`); this is a coupling, so no operation can tell
them apart.  In the second, only a handshake could change anything, and it fails before a
byte is sent (`Barred`).  The main statement is `secured_run`.
-/
import Mqtt.Proofs.Session.Admission
import Mqtt.Proofs.Session.Coupled
import Mqtt.Proofs.World.Secured

namespace Mqtt

open Mqtt.Action

/-- The event reads from a connection or writes to one. -/
def Event.isTraffic : Event → Bool
  | .read .. | .write .. => true
  | _ => false

/-- What is only told moves no bytes. -/
theorem Event.isTraffic_of_isTold {event : Event} (told : event.isTold = true) :
    event.isTraffic = false := by
  cases event <;> first | rfl | cases told

/-- Opening a connection moves no bytes of the session, handshake and closing included. -/
theorem Connector.Dialing.idle {host : String} {tcpPort : UInt16} {timeout : UInt32}
    {number : Nat} {connector : Connector} {r : Except NetFault Nat} {es : List Event}
    (h : Dialing host tcpPort timeout number connector r es) :
    ∀ event ∈ es, event.isTraffic = false := by
  cases h <;> simp [Event.isTraffic]

namespace Session

variable {ω : Type}

/-- The second session is the first with a handshake after each connection that opened. -/
structure Secured (settings : TlsSettings) (start s t : Session ω) : Prop where
  world : World.Secured (settings.nameFor start.settings.host.text) settings start.world
    s.world t.world
  /-- The first session dials in the plain. -/
  connector : s.connector = .plain
  host : s.settings.host = start.settings.host
  /-- Only the connectors and the worlds are different. -/
  rest : t = { s with connector := .tls settings, world := t.world }

variable [Environment ω]

/-- Moves do the same whether or not what they give back is looked at. -/
theorem act_eq_returning (move : Move ω) :
    (act move : Action Fault (Session ω) Unit) = (fun _ => ()) <$> returning move := by
  cases move <;> simp only [act, returning, map_eq_pure_bind, bind_assoc, pure_bind, bind_pure_unit]

/-! ### Behind a stack that accepts -/

namespace Secured

variable {settings : TlsSettings} {start s t : Session (Accepting ω)}

/-- **A handshake that accepts makes no difference to a session.**  The sessions are
related as their worlds are, and the connector, the one thing that differs, is used only
to dial. -/
theorem coupling : Coupling id
    (World.Secured (settings.nameFor start.settings.host.text) settings start.world)
    (Secured settings start) where
  worlds := World.Secured.coupling
  clock h := h.clock
  elapsed _ _ := rfl
  world h := h.world
  rest h := by rw [h.rest]
  onWorld h hw := ⟨hw, h.connector, h.host, by rw [h.rest]⟩
  identified _ h := ⟨h.world, h.connector, h.host, by rw [h.rest]⟩
  recorded _ h := ⟨h.world, h.connector, h.host, by rw [h.rest]⟩
  dropped h := ⟨h.world, h.connector, h.host, by rw [h.rest]⟩
  raised _ _ h := ⟨h.world, h.connector, h.host, by rw [h.world.clock, h.rest]⟩
  restarted h := ⟨h.world, h.connector, h.host, by rw [h.world.clock, h.rest]⟩
  pinged _ h := ⟨h.world, h.connector, h.host, by rw [h.rest]; rfl⟩
  ponged _ h := ⟨h.world, h.connector, h.host, by rw [h.rest]; rfl⟩
  dialed {s t} h tcpPort timeout := by
    have htls : t.connector = .tls settings := by rw [h.rest]
    dsimp only
    rw [h.connector, htls, h.host]
    exact Connector.agree_dial h.world

omit [Environment ω] in
/-- Handshakes make no difference to the timers, for an accepting stack takes no time. -/
theorem keepAlive (h : Secured settings start s t) : t.keepAlive = s.keepAlive := by rw [h.rest]

/-- **Every move goes the same, and gives the same back.** -/
theorem steady_returning (move : Move (Accepting ω)) :
    Steady (Secured settings start) (returning move : Action Fault _ Return) := by
  have nothing : ∀ {action : Action Fault (Session (Accepting ω)) Unit},
      Steady (Secured settings start) action → Steady (Secured settings start)
        (do action; return Return.nothing) := fun h => steady_bind h fun _ => steady_pure _
  cases move with
  | handshake => exact nothing coupling.steady_handshake
  | reconnect => exact nothing coupling.steady_reconnect
  | publish topic payload qos => exact nothing (coupling.steady_publish topic payload qos)
  | subscribe filter qos =>
    exact steady_bind (coupling.steady_subscribe filter qos) fun _ => steady_pure _
  | acknowledge packetId => exact nothing (coupling.steady_acknowledge packetId)
  | serviceKeepAlive time =>
    refine nothing fun s t h => ?_
    exact coupling.agree_serviceKeepAlive time (by rw [h.keepAlive]; rfl) h
  | receive capacity timeout =>
    exact steady_bind (coupling.steady_receive capacity timeout) fun _ => steady_pure _
  | ponged time => exact nothing fun s t h => coupling.agree_ponged h time
  | nextPacketId => exact steady_bind coupling.steady_nextPacketId fun _ => steady_pure _
  | disconnect => exact nothing coupling.steady_disconnect
  | dropLink => exact nothing coupling.steady_dropLink
  | wait ms => exact nothing (coupling.steady_onWorld (World.Secured.coupling.steady_wait ms))
  | become environment =>
    exact nothing (coupling.steady_onWorld (World.Secured.coupling.steady_become environment))

/-- **A move goes the same with handshakes and without.**  Both sessions stay related, and
whoever made the move gets the same result. -/
theorem step (h : Secured settings start s t) (move : Move (Accepting ω)) :
    Secured settings start (s.step move) (t.step move) ∧ t.result move = s.result move := by
  have hact : Steady (Secured settings start) (act move : Action Fault _ Unit) := by
    rw [act_eq_returning]
    exact steady_map _ (steady_returning move)
  exact ⟨(steady_attempt hact s t h).complete.2,
    (steady_attempt (steady_returning move) s t h).complete.1.symm⟩

/-- So do any moves one after the other: the same results come back, and what was done
differs by the handshakes alone. -/
theorem run (h : Secured settings start s t) (moves : List (Move (Accepting ω))) :
    Secured settings start (s.run moves) (t.run moves) ∧ t.results moves = s.results moves := by
  induction moves generalizing s t with
  | nil => exact ⟨h, rfl⟩
  | cons move moves ih =>
    obtain ⟨hstep, hresult⟩ := h.step move
    obtain ⟨hrun, hresults⟩ := ih hstep
    exact ⟨hrun, by rw [results, results, hresult, hresults]⟩

end Secured

/-! ### Behind a stack that refuses -/

section

omit [Environment ω]

/-- The session has no link, and has touched no connection since the start. -/
structure Barred (settings : TlsSettings) (start s : Session ω) : Prop where
  connector : s.connector = .tls settings
  /-- No link has come up. -/
  connection : s.connection = none
  /-- Nothing was read or written since the start. -/
  untouched : ∃ es, start.world.Ran es s.world ∧ ∀ event ∈ es, event.isTraffic = false

namespace Barred

variable {settings : TlsSettings} {start s t : Session ω} {es : List Event}

/-- A session stays barred where nothing is moved over a connection. -/
theorem trans (h : Barred settings start s) (connector : t.connector = s.connector)
    (connection : t.connection = s.connection) (ran : s.world.Ran es t.world)
    (untouched : ∀ event ∈ es, event.isTraffic = false) : Barred settings start t := by
  obtain ⟨before, hbefore, hnone⟩ := h.untouched
  exact ⟨connector.trans h.connector, connection.trans h.connection, _, hbefore.trans ran,
    fun event hevent => (List.mem_append.1 hevent).elim (hnone event) (untouched event)⟩

/-- Without a link, only opening one touches a connection. -/
theorem of_step {d : Doing} (h : Barred settings start s) (closed : d ≠ .raise)
    (step : Step d s es t) : Barred settings start t := by
  have down : ∀ {connection : Nat}, s.connection = some connection → False := fun up =>
    nomatch h.connection.symm.trans up
  cases step with
  | tuned _ hdid | timed _ hdid =>
    exact h.trans hdid.connector hdid.connection hdid.ran (List.forall_mem_nil _)
  | kept _ hdid =>
    exact h.trans hdid.connector hdid.connection hdid.ran (List.forall_mem_singleton.2 rfl)
  | told quiet hdid =>
    exact h.trans hdid.connector hdid.connection hdid.ran
      (List.forall_mem_singleton.2 (Event.isTraffic_of_isTold quiet))
  | heard up | sent _ _ up | broken _ _ up | left _ up | dropped up => exact (down up).elim
  | raised => exact absurd rfl closed

end Barred

end

namespace Barred

variable {settings : TlsSettings} {refusal : String → TlsSettings → ω → Answer ω String}
  {start s t : Session (Refusing refusal)} {r : Except Fault Unit}

/-- **Behind a stack that refuses, every handshake fails before anything is
sent.**  There is no link to drop, and what is dialed does not get through. -/
theorem of_handshake (h : Barred settings start s) (yields : Yields handshake s r t) :
    r = .error .connectFailed ∧ Barred settings start t := by
  obtain ⟨u, x, w, hdrop, hdial, hcases, -⟩ := greeting_of_handshake yields
  obtain ⟨-, ds, hds⟩ := dropping_of_dropLink hdrop
  have hu : Barred settings start u := by
    cases hds with
    | nothing => exact h
    | closed up => exact nomatch h.connection.symm.trans up
  rw [hu.connector] at hdial
  obtain ⟨fault, rfl⟩ := Connector.refused_of_dial hdial
  obtain ⟨es, hes, hran⟩ := Connector.dialing_of_dial hdial
  rcases hcases with ⟨_, ⟨⟩, hr, hdid⟩ | ⟨_, _, _, hopen, -⟩
  · have hw : Barred settings start { u with world := w } := hu.trans rfl rfl hran hes.idle
    exact ⟨hr, hw.trans hdid.connector hdid.connection hdid.ran (List.forall_mem_singleton.2 rfl)⟩
  · cases hopen

/-- Behind a stack that refuses, connecting anew fails before a byte is sent, and the
session is as barred as before. -/
theorem of_reconnect (h : Barred settings start s) (yields : Yields reconnect s r t) :
    r = .error .connectFailed ∧ Barred settings start t := by
  rw [reconnect] at yields
  rcases yields_bind.1 yields with ⟨fault, hh, rfl⟩ | ⟨_, u, hh, -⟩
  · obtain ⟨he, ht⟩ := h.of_handshake hh
    cases he
    exact ⟨rfl, ht⟩
  · obtain ⟨he, -⟩ := h.of_handshake hh
    cases he

/-- **A move behind a stack that refuses leaves the session without a link**, and one that
would open a link fails to connect. -/
theorem step (h : Barred settings start s) (move : Move (Refusing refusal)) :
    Barred settings start (s.step move) ∧
      (move.opens = true → s.outcome move = .error .connectFailed) := by
  have hyields := yields_outcome s move
  cases hopens : move.opens with
  | false =>
    obtain ⟨es, hes⟩ := unraised_step s hopens
    exact ⟨hes.preserves (fun closed hs step => hs.of_step closed step) h, nofun⟩
  | true =>
    cases move with
    | handshake =>
      obtain ⟨hr, ht⟩ := h.of_handshake hyields
      exact ⟨ht, fun _ => hr⟩
    | reconnect =>
      obtain ⟨hr, ht⟩ := h.of_reconnect hyields
      exact ⟨ht, fun _ => hr⟩
    | _ => cases hopens

/-- So do any moves one after the other: behind a stack that refuses there never is a
link. -/
theorem run (h : Barred settings start s) (moves : List (Move (Refusing refusal))) :
    Barred settings start (s.run moves) := by
  induction moves generalizing s with
  | nil => exact h
  | cons move moves ih => exact ih (h.step move).1

end Barred

/-! ### Both stacks -/

/-- **A session notices of its handshakes only whether they accept.**  Behind a stack that
accepts every connection, it goes through any run of moves as it does with a plain connector,
which never asks the stack: the moves give the same back, and the sessions stay the same but
for the handshake right after each connection that opened.  Behind a stack that refuses every
connection, every handshake and every reconnect fails, the session never has a link, and
nothing is read or written. -/
theorem secured_run (settings : TlsSettings) :
    (∀ (start : Session (Accepting ω)) (moves : List (Move (Accepting ω))),
      let plain := { start with connector := .plain }
      let behind := { start with connector := .tls settings }
      behind.results moves = plain.results moves ∧
        Secured settings start (plain.run moves) (behind.run moves)) ∧
    ∀ (refusal : String → TlsSettings → ω → Answer ω String)
        (start : Session (Refusing refusal)) (moves : List (Move (Refusing refusal))),
      let behind := { start with connector := .tls settings, connection := none }
      Barred settings start (behind.run moves) ∧
        (behind.run moves).outcome .handshake = .error .connectFailed ∧
        (behind.run moves).outcome .reconnect = .error .connectFailed := by
  refine ⟨fun start moves => ?_, fun refusal start moves => ?_⟩
  · have hstart : Secured settings start { start with connector := .plain }
        { start with connector := .tls settings } := ⟨.refl _ _ _, rfl, rfl, rfl⟩
    obtain ⟨hrun, hresults⟩ := hstart.run moves
    exact ⟨hresults, hrun⟩
  · have hstart : Barred settings start
        { start with connector := .tls settings, connection := none } :=
      ⟨rfl, rfl, [], .refl _, nofun⟩
    have hrun := hstart.run moves
    exact ⟨hrun, (hrun.step .handshake).2 rfl, (hrun.step .reconnect).2 rfl⟩

end Session
end Mqtt
