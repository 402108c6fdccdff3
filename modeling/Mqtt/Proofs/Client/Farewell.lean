/-
# Disconnecting is final

Whatever the worker is in the middle of when its client disconnects, it opens no
connection after that, does not sleep and is joined; and over the link, if there was one,
goes the DISCONNECT and nothing else.  What carries this is that the steps of a client
that does not run neither open a link nor sleep (`Doing.isWork false`), and that a
session without a link writes nothing (`Path.others`): so the messages that a worker
still hands over, and the acknowledgements it still tries to send, reach no connection.

The client is then at rest (`AtRest`).  A client at rest does nothing, whatever happens
to it, until it is told to connect (`final_disconnect_run`).
-/
import Mqtt.Proofs.Client.Connect
import Mqtt.Proofs.Client.Sound
import Mqtt.Proofs.Session.Acknowledgement

namespace Mqtt

/-- Something begins that takes its time: opening a connection, sleeping, a task. -/
def Event.begins : Event → Bool
  | .connect .. | .sleep _ | .spawn .. => true
  | _ => false

/-- What was handed over to be written, and to which connection. -/
def written (events : List Event) : List (Nat × List UInt8) :=
  events.filterMap fun
    | .write connection frame _ => some (connection, frame)
    | _ => none

/-- What two stretches of a history write comes one after the other. -/
@[simp] theorem written_append (es fs : List Event) : written (es ++ fs) = written es ++ written fs :=
  List.filterMap_append

/-- Where nothing is done to any connection, nothing is written. -/
theorem written_of_quiet {es : List Event} (h : ∀ c, conversation c es = []) : written es = [] := by
  refine List.filterMap_eq_nil_iff.2 fun e he => ?_
  cases e with
  | write c frame result =>
    have hio := List.filterMap_eq_nil_iff.1 (h c) _ he
    simp [Event.io?] at hio
  | _ => rfl

/-- What concerns one connection begins nothing that takes its time. -/
theorem Concern.unbegun {c : Nat} {es : List Event} (h : Concern c es) :
    Without Event.begins es := by
  intro e he
  have hconcerns := h e he
  cases e <;> first | rfl | cases hconcerns

/-- The call needs a link to send something. -/
def Call.sends : Call → Bool
  | .publish .. | .subscribe .. => true
  | _ => false

namespace Session

variable {ω : Type}

/-- The steps of a client that does not run open no connection, do not sleep and start
no task. -/
theorem Step.unbegun {d : Doing} {s t : Session ω} {es : List Event}
    (work : d.isWork false = true) (h : Step d s es t) : Without Event.begins es := by
  cases h with
  | tuned => exact .nil
  | kept => exact .singleton rfl
  | timed => exact .nil
  | @told event _ _ quiet =>
    refine .singleton ?_
    cases event <;> first | rfl | cases work; done | cases quiet
  | heard => exact .singleton rfl
  | sent _ _ _ hes => exact hes.concern.unbegun
  | broken _ _ _ hes hns hfs =>
    exact ((hes.concern.append (.lost hns)).append hfs.concern).unbegun
  | left _ _ hes hfs => exact (hes.concern.append hfs.concern).unbegun
  | dropped _ hes => exact hes.concern.unbegun
  | raised => cases work

/-- Nothing that takes its time is begun by the steps that are left to a client which does
not run. -/
theorem Path.unbegun {s t : Session ω} {es : List Event}
    (h : Path (Doing.isWork false ·) s es t) : Without Event.begins es := by
  induction h with
  | refl => exact .nil
  | snoc _ work step ih => exact ih.append (step.unbegun work)

/-- A session without a link writes nothing. -/
theorem Path.unwritten {s t : Session ω} {es : List Event}
    (h : Path (Doing.isWork false ·) s es t) (down : s.connection = none) : written es = [] :=
  written_of_quiet fun _ => (h.others (by simp [down])).1

/-- Sending a frame writes that frame once, whether or not it is taken. -/
theorem Sending.written {connection : Nat} {frame : List UInt8} {r : Except Fault Unit}
    {es : List Event} (h : Sending connection frame r es) :
    written es = [(connection, frame)] := by
  cases h <;> rfl

/-- Closing a connection writes nothing to it. -/
theorem Closing.written {connection : Nat} {es : List Event} (h : Closing connection es) :
    written es = [] := by
  cases h <;> rfl

/-- Giving up the link writes nothing to it: the broker is not told. -/
theorem Dropping.written {s t : Session ω} {es : List Event} (h : Dropping s es t) :
    written es = [] := by
  cases h with
  | nothing => rfl
  | closed _ hes => exact hes.written

/-- A packet that fits is handed over once, whatever comes of it. -/
theorem Transmitting.written {packet : Outbound} {frame : List UInt8} {connection : Nat}
    {r : Except Fault Unit} {s t : Session ω} {es : List Event}
    (hpack : packet.pack frameLimit = .ok frame) (up : s.connection = some connection)
    (h : Transmitting packet s r es t) : written es = [(connection, frame)] := by
  cases h with
  | unpackable hbad => exact nomatch hpack.symm.trans hbad
  | notConnected down => exact nomatch up.symm.trans down
  | sent hframe hup hes =>
    obtain rfl := Except.ok.inj (hpack.symm.trans hframe)
    obtain rfl := Option.some.inj (up.symm.trans hup)
    exact hes.written
  | failed hframe hup hes hfs =>
    obtain rfl := Except.ok.inj (hpack.symm.trans hframe)
    obtain rfl := Option.some.inj (up.symm.trans hup)
    rw [written_append, hes.written, hfs.written, List.append_nil]

/-- **A session that ends says so exactly if it has a link.**  The DISCONNECT is the
last thing written, whether it goes out or not. -/
theorem Leaving.written {s t : Session ω} {es : List Event} (h : Leaving s es t) :
    written es = (s.connection.map fun c => (c, [0xE0, 0x00])).toList := by
  cases h with
  | nothing down => rw [down]; rfl
  | left up hsent hdrop =>
    obtain ⟨connection, hc⟩ := Option.isSome_iff_exists.1 up
    rw [written_append, written_append, hdrop.written,
      hsent.written (Outbound.pack_disconnect (by decide)) hc, hc]
    rfl

/-- Without a client that runs and without a link, a call does nothing, and one that
would send something fails. -/
theorem Calling.refused {call : Call} {reply : Reply} {s t : Session ω} {es : List Event}
    (down : s.connection = none) (h : Calling false s call reply es t) :
    es = [] ∧ t = s ∧ (call.sends = true → ∃ fault, reply = .failed fault) := by
  cases h with
  | connected hrun => cases hrun
  | notRunning => exact ⟨rfl, rfl, fun hsends => nomatch hsends⟩
  | published _ hpublish =>
    cases hpublish with
    | invalid => exact ⟨rfl, rfl, fun _ => ⟨_, rfl⟩⟩
    | notConnected => exact ⟨rfl, rfl, fun _ => ⟨_, rfl⟩⟩
    | failed _ up => exact nomatch down.symm.trans up
    | sent _ up => exact nomatch down.symm.trans up
  | unpublished => exact ⟨rfl, rfl, fun _ => ⟨_, rfl⟩⟩
  | subscribed _ hsubscribe =>
    cases hsubscribe with
    | empty => exact ⟨rfl, rfl, fun _ => ⟨_, rfl⟩⟩
    | tooLong => exact ⟨rfl, rfl, fun _ => ⟨_, rfl⟩⟩
    | notConnected => exact ⟨rfl, rfl, fun _ => ⟨_, rfl⟩⟩
    | failed _ _ up => exact nomatch down.symm.trans up
    | recorded _ _ up => exact nomatch down.symm.trans up
  | unsubscribed => exact ⟨rfl, rfl, fun _ => ⟨_, rfl⟩⟩
  | shown _ hcall =>
    refine ⟨rfl, rfl, fun hsends => ?_⟩
    rcases hcall with rfl | rfl <;> cases hsends

end Session

namespace Client

open Mqtt.Action

variable {ω : Type}

/-- The client is disconnected, and every task it started has been joined. -/
structure AtRest (client : Client ω) : Prop where
  link : client.session.connection = none
  bare : client.IsBare
  joined : spawns client.events = joins client.events

/-- A serviced client without a worker is at rest. -/
theorem Serviced.atRest {client : Client ω} (h : client.Serviced) (bare : client.IsBare) :
    client.AtRest where
  link := h.down bare.running
  bare := bare
  joined := by
    have htasks := h.tasks
    rw [bare.joinable] at htasks
    exact htasks

/-! ### Disconnecting -/

/-- A client that has disconnected is bare: it does not run, there is no worker, and no
task is left to join. -/
theorem Disconnecting.bare {client next : Client ω} {es : List Event} (serviced : client.Serviced)
    (h : Disconnecting client es next) : next.IsBare := by
  cases h with
  | alone _ alone =>
    have hworker := serviced.worker
    rw [alone] at hworker
    exact ⟨rfl, alone, by simpa using hworker⟩
  | joined => exact ⟨rfl, rfl, rfl⟩

/-- The worker that ends opens nothing and does not sleep. -/
theorem Disconnecting.unbegun {client next : Client ω} {es : List Event}
    (h : Disconnecting client es next) : Without Event.begins es := by
  have left : ∀ {es : List Event} {t : Session ω}, Session.Leaving client.session es t →
      Without Event.begins es := by
    intro es t hleave
    have hpath : Session.Path (Session.Doing.isCall false ·) client.session es t := hleave.path
    exact (Worker.path_of_isCall hpath).unbegun
  cases h with
  | alone hleave => exact left hleave
  | joined hleave _ hend =>
    exact ((left hleave).append hend.path.unbegun).append (.cons rfl (.singleton rfl))

/-- What is written is the DISCONNECT: the worker that ends has no link any more. -/
theorem Disconnecting.written {client next : Client ω} {es : List Event}
    (h : Disconnecting client es next) :
    written es = (client.session.connection.map fun c => (c, [0xE0, 0x00])).toList := by
  cases h with
  | alone hleave => exact hleave.written
  | joined hleave _ hend =>
    have hends : Mqtt.written _ = [] := hend.path.unwritten hleave.down
    rw [written_append, written_append, hleave.written, hends, List.append_nil]
    exact List.append_nil _

/-! ### What happens to a client at rest -/

/-- Disconnecting a client at rest changes nothing. -/
theorem Disconnecting.same {client next : Client ω} {es : List Event} (rest : client.AtRest)
    (h : Disconnecting client es next) : es = [] ∧ next = client := by
  cases h with
  | alone hleave =>
    cases hleave with
    | nothing =>
      refine ⟨rfl, ?_⟩
      rw [← rest.bare.running]
    | left up => simp [rest.link] at up
  | joined _ joinable => exact nomatch rest.bare.joinable.symm.trans joinable

/-- There is nothing to interrupt in a client without a worker. -/
theorem interrupted_of_bare {client : Client ω} (bare : client.IsBare) :
    client.interrupted = client := by
  have hworker := bare.worker
  rw [interrupted, hworker, Option.map_none, ← hworker]

/-- **A client at rest does nothing, until it is told to connect.**  There is no worker
to move and no link to send over, and calls that need a link are refused before they do
anything. -/
theorem Stepping.atRest {client next : Client ω} {move : Move ω} {es : List Event}
    (rest : client.AtRest) (other : move ≠ .call .connect) (h : Stepping client move es next) :
    es = [] ∧ next.AtRest := by
  have kept : ∀ {next : Client ω} {move : Move ω}, Stepping client move [] next →
      next.session.connection = none → next.IsBare → next.AtRest := by
    intro next move hstep link bare
    refine ⟨link, bare, ?_⟩
    rw [hstep.events, List.append_nil]
    exact rest.joined
  have hstep := h
  cases h with
  | connected => exact absurd rfl other
  | answered _ hcall =>
    -- From a client that is not running, calls are refused and leave everything as it is.
    rw [rest.bare.running] at hcall
    obtain ⟨rfl, rfl, -⟩ := hcall.refused rest.link
    have hbare : { client.interrupted with session := client.session }.IsBare := by
      rw [interrupted_of_bare rest.bare]
      exact rest.bare
    exact ⟨rfl, kept hstep rest.link hbare⟩
  | disconnected hdisconnect =>
    obtain ⟨rfl, rfl⟩ := hdisconnect.same rest
    exact ⟨rfl, rest⟩
  | moved hworker => exact nomatch rest.bare.worker.symm.trans hworker
  | ended _ hend =>
    rw [rest.bare.worker] at hend
    cases hend with
    | none => exact ⟨rfl, kept hstep rest.link ⟨rest.bare.running, rest.bare.joinable, rfl⟩⟩
  | idle => exact ⟨rfl, rest⟩
  | waited ms hdid =>
    refine ⟨rfl, kept hstep (hdid.connection.trans rest.link)
      ⟨rest.bare.running, rest.bare.joinable, ?_⟩⟩
    show client.worker.map (Worker.rested ms) = none
    rw [rest.bare.worker, Option.map_none]
  | became _ hdid =>
    exact ⟨rfl, kept hstep (hdid.connection.trans rest.link)
      ⟨rest.bare.running, rest.bare.joinable, rest.bare.worker⟩⟩

variable [Environment ω]

/-- **A client at rest stays at rest.**  As long as it is not told to connect, nothing is
added to its history, whatever moves are made. -/
theorem AtRest.run {client : Client ω} (rest : client.AtRest) (moves : List (Move ω))
    (others : ∀ move ∈ moves, move ≠ .call .connect) :
    (client.run moves).AtRest ∧ (client.run moves).events = client.events := by
  induction moves generalizing client with
  | nil => exact ⟨rest, rfl⟩
  | cons move moves ih =>
    obtain ⟨es, hes⟩ := stepping_step client move
    obtain ⟨rfl, hnext⟩ := hes.atRest rest (others move List.mem_cons_self)
    obtain ⟨hlast, hsame⟩ := ih hnext fun m hm => others m (List.mem_cons_of_mem _ hm)
    refine ⟨hlast, hsame.trans ?_⟩
    rw [hes.events, List.append_nil]

/-- Disconnecting a client at rest does nothing, so disconnecting twice is disconnecting
once. -/
theorem AtRest.step_disconnect {client : Client ω} (rest : client.AtRest) :
    client.step .disconnect = client := by
  obtain ⟨-, es, hes⟩ := disconnecting_of_disconnect (yields_step client .disconnect)
  exact (hes.same rest).2

/-- A client at rest refuses to send, and nothing comes of it. -/
theorem AtRest.asked {client : Client ω} (rest : client.AtRest) {call : Call}
    (sends : call.sends = true) : ∃ fault, client.asked call = (.failed fault, client) := by
  have other : call ≠ .connect := by
    rintro rfl
    cases sends
  have hyields := yields_complete (perform call) client
  obtain ⟨reply, es, t, hreply, hcall, hnext⟩ := calling_of_perform other hyields
  rw [rest.bare.running] at hcall
  obtain ⟨-, rfl, hfails⟩ := hcall.refused rest.link
  obtain ⟨fault, rfl⟩ := hfails sends
  refine ⟨fault, Prod.ext (Except.ok.inj hreply) ?_⟩
  rw [interrupted_of_bare rest.bare] at hnext
  exact hnext

/-- **Disconnecting is final.**  After any run, whatever the environment answers and
whatever the worker is in the middle of: disconnecting tries to open no connection,
starts no sleep and no task, writes the DISCONNECT to the link if there is one and
nothing else, and leaves the client at rest, with its worker joined.  From then on, and
until it is told to connect, the client does nothing at all: every call that would send
something fails and changes nothing, and so does disconnecting again.

Dropping a client disconnects it, so the same holds then. -/
theorem final_disconnect_run (connector : Connector) (settings : Settings) (environment : ω)
    (clock : UInt32) (moves later : List (Move ω))
    (others : ∀ move ∈ later, move ≠ .call .connect) :
    let client := (start connector settings environment clock).run moves
    let ended := client.step .disconnect
    let resting := ended.run later
    (∃ es, ended.events = client.events ++ es ∧ Without Event.begins es ∧
        written es = (client.session.connection.map fun c => (c, [0xE0, 0x00])).toList) ∧
      ended.AtRest ∧ resting.AtRest ∧ resting.events = ended.events ∧
        (∀ call : Call, call.sends = true →
          ∃ fault, resting.asked call = (.failed fault, resting)) ∧
          resting.step .disconnect = resting := by
  intro client ended resting
  have hserviced : client.Serviced := run_preserves Stepping.serviced moves
    (serviced_start connector settings environment clock)
  obtain ⟨-, es, hes⟩ := disconnecting_of_disconnect (yields_step client .disconnect)
  have hnext : ended.Serviced := serviced_of_disconnecting hserviced hes
  have hrest : ended.AtRest := hnext.atRest (hes.bare hserviced)
  obtain ⟨hresting, hsame⟩ := hrest.run later others
  refine ⟨⟨es, hes.path.ran.events, hes.unbegun, hes.written⟩, hrest, hresting, hsame, ?_, ?_⟩
  · intro call sends
    exact hresting.asked sends
  · exact hresting.step_disconnect

/-- A broker that sends two messages in one piece, of which the second is to be
acknowledged.  The handler waits on the first. -/
def engaging : Script where
  attempts := [some [⟨0, some [0x20, 0x02, 0x00, 0x00]⟩,
    ⟨0, some [0x30, 0x03, 0x00, 0x01, 0x61, 0x32, 0x05, 0x00, 0x01, 0x62, 0x00, 0x07]⟩]]
  gates := ["a"]

/-- The worker comes as far as the handler, with the second message still to dispatch. -/
def engaged : List (Move Script) :=
  [.call .connect, .proceed, .proceed, .proceed, .proceed]

/-- There a client disconnects: its worker still takes the second message, whose
acknowledgement no longer goes out. -/
theorem final_disconnect_run_handling :
    let client := (start .plain default engaging 0).run engaged
    let later : List (Move Script) := [.call (.publish "t" [] 0), .proceed, .wait 60000]
    client.phase? = some .handling ∧ client.engine.held.length = 7 ∧
      written ((client.step .disconnect).events.drop client.events.length) = [(1, [0xE0, 0x00])] ∧
        (∀ move ∈ later, move ≠ .call .connect) ∧
          (client.step .disconnect).AtRest ∧
            ((client.step .disconnect).run later).events = (client.step .disconnect).events := by
  intro client later
  have others : ∀ move ∈ later, move ≠ .call .connect := by simp [later]
  have h := final_disconnect_run .plain default engaging 0 engaged later others
  exact ⟨by decide +kernel, by decide +kernel, by decide +kernel, others, h.2.1, h.2.2.2.1⟩

end Client
end Mqtt
