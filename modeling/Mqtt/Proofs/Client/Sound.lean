/-
# What holds of a client after any run

Beside being serviced, a client's worker holds bytes that are tracked, it waits to
read only from the link whose number it knows, and it sleeps only when nothing is left
to dispatch.  Nothing of this depends on the numbers of links being told apart.

`Client.Sound` puts the parts together, and `sound_run` has them after any run.  They
are what the other invariants start from: each of these looks at one kind of thing that
a client does, and asks `Sound` for the state in which it does it.  A worker that is
there after a move is new or comes from the one before in one of a few ways
(`Arising`), so what is said of its phase and its errand is checked for these only.
-/
import Mqtt.Proofs.Client.Buffer
import Mqtt.Proofs.Client.Lifecycle

namespace Mqtt
namespace Worker

variable {ω : Type}

/-- A worker whose sleep is to start, or is over, does not wait to read. -/
theorem Pausing.phase {running : Bool} {slice remaining : UInt32} {phase : Phase} {s t : Session ω}
    {es : List Event} (h : Pausing running slice remaining s phase es t) : phase ≠ .receiving := by
  cases h <;> simp

/-- A step of a dispatch ends in the message handler at most. -/
theorem Dispatching.phase {running : Bool} {worker next : Worker} {s t : Session ω}
    {es : List Event} (h : Dispatching running worker s next es t) :
    next.phase = .ready ∨ next.phase = .handling := by
  cases h with
  | cut _ hcut => exact .inl (by cases hcut <;> rfl)
  | delivered =>
    simp only
    split
    · exact .inr rfl
    · exact .inl rfl
  | gaveUp => exact .inl rfl
  | stale => exact .inl rfl

/-- Servicing the keep-alive and taking over the link's number leaves what a worker has to
do. -/
theorem Servicing.errand {worker next : Worker} {s t : Session ω} {es : List Event}
    (h : Servicing worker s next es t) : next.errand = worker.errand := by
  cases h <;> rfl

/-- A worker comes to its read only through the part of a pass that follows once there is
a link. -/
theorem Moving.servicing {running : Bool} {worker next : Worker} {s t : Session ω}
    {es : List Event} (h : Moving running worker s next es t) (phase : next.phase = .receiving) :
    ∃ before u fs, before.errand = .pass ∧ u.isConnected = true ∧
      Servicing before u next fs t := by
  cases h with
  | received _ htaking => cases htaking <;> cases phase
  | woke _ hpause => exact absurd phase hpause.phase
  | passed _ hidle hpassing =>
    cases hpassing with
    | linked hup hservice => exact ⟨_, _, _, hidle, hup, hservice⟩
    | reconnected _ hreconnect hservice =>
      exact ⟨_, _, _, by exact hidle, hreconnect.isConnected, hservice⟩
    | postponed _ _ _ _ hpause => exact absurd phase hpause.phase
  | dispatched _ _ hdispatch =>
    rcases hdispatch.phase with hready | hhandling
    · exact nomatch hready.symm.trans phase
    · exact nomatch hhandling.symm.trans phase

/-- A worker reads only when nothing is left to dispatch, and from the link whose
number it knows. -/
theorem Moving.receiving {running : Bool} {worker next : Worker} {s t : Session ω}
    {es : List Event} (h : Moving running worker s next es t) (phase : next.phase = .receiving) :
    next.errand = .pass ∧ t.link = next.origin.link := by
  obtain ⟨before, u, fs, hidle, -, hservice⟩ := h.servicing phase
  refine ⟨hservice.errand.trans hidle, ?_⟩
  cases hservice with
  | interrupted => cases phase
  | continued _ hlink => exact hlink
  | adopted _ _ _ hdid => exact hdid.link

/-- A pass leaves nothing to dispatch. -/
theorem Passing.idle {running : Bool} {worker next : Worker} {s t : Session ω} {es : List Event}
    (idle : worker.errand = .pass) (h : Passing running worker s next es t) :
    next.errand = .pass := by
  cases h with
  | linked _ hservice => exact hservice.errand.trans idle
  | reconnected _ _ hservice => exact hservice.errand.trans idle
  | postponed => exact idle

/-- A worker sleeps only when nothing is left to dispatch. -/
theorem Moving.sleeping {running : Bool} {worker next : Worker} {s t : Session ω}
    {es : List Event} {rest later : UInt32}
    (before : ∀ rest later, worker.phase = .sleeping rest later → worker.errand = .pass)
    (h : Moving running worker s next es t) (phase : next.phase = .sleeping rest later) :
    next.errand = .pass := by
  cases h with
  | received _ htaking => cases htaking <;> cases phase
  | woke hphase => exact before _ _ hphase
  | passed _ hidle hpassing => exact hpassing.idle hidle
  | dispatched _ _ hdispatch =>
    rcases hdispatch.phase with hready | hhandling
    · exact nomatch hready.symm.trans phase
    · exact nomatch hhandling.symm.trans phase

/-- The worker holds the same bytes, and has the same to do. -/
structure Alike (worker next : Worker) : Prop where
  /-- The bytes are the same. -/
  held : next.held = worker.held
  /-- They came over the same link. -/
  origin : next.origin = worker.origin
  /-- What is to be done next is the same; where the worker waits may differ. -/
  errand : next.errand = worker.errand

/-- A worker with the same bytes and the same to do is busy exactly with what the other
was busy with. -/
theorem Alike.busy {worker next : Worker} (h : worker.Alike next) (busy : next.IsBusy) :
    worker.IsBusy ∧ next.origin = worker.origin := by
  rw [IsBusy, h.held, h.errand] at busy
  exact ⟨busy, h.origin⟩

/-- How the bytes of a worker relate to what came over its connection holds of any worker
with the same bytes. -/
theorem Flow.alike {worker next : Worker} {s : Session ω} (flow : worker.Flow s)
    (h : worker.Alike next) : next.Flow s :=
  flow.same h.held (by rw [h.origin]) fun ⟨fault, hgives⟩ => .inl ⟨fault, h.errand.trans hgives⟩

/-- Being interrupted leaves a worker its bytes and what it has to do. -/
theorem alike_interrupted (worker : Worker) : worker.Alike worker.interrupted := by
  rw [interrupted]
  split <;> exact ⟨rfl, rfl, rfl⟩

/-- Having slept leaves a worker its bytes and what it has to do. -/
theorem alike_rested (ms : UInt32) (worker : Worker) : worker.Alike (worker.rested ms) := by
  rw [rested]
  split <;> exact ⟨rfl, rfl, rfl⟩

/-- A worker that was interrupted does not wait to read: it starts its pass again. -/
theorem phase_interrupted (worker : Worker) : worker.interrupted.phase ≠ .receiving := by
  rw [interrupted]
  split
  · nofun
  · assumption

/-- Time takes no worker to a read. -/
theorem phase_of_rested {ms : UInt32} {worker : Worker}
    (phase : (worker.rested ms).phase = .receiving) : worker.phase = .receiving := by
  rw [rested] at phase
  split at phase
  · cases phase
  · exact phase

/-- A new worker has nothing to do. -/
theorem not_isBusy_new : ¬({} : Worker).IsBusy := by
  rintro (hheld | herrand)
  · exact hheld rfl
  · exact herrand rfl

/-- Without a link, a new worker keeps the flow. -/
theorem Flow.new {worker : Worker} {s : Session ω} (flow : worker.Flow s)
    (down : s.connection = none) : ({} : Worker).Flow s where
  known := Nat.zero_le _
  begun := flow.begun
  held := (List.append_nil _).symm ▸ flow.begun 0
  whole _ hc := nomatch down.symm.trans hc

end Worker

namespace Client

variable {ω : Type}

/-- The worker, or one that has nothing to do. -/
def engine (client : Client ω) : Worker :=
  client.worker.getD {}

/-- The engine of a client that has a worker is that worker. -/
theorem engine_of_worker {client : Client ω} {worker : Worker} (h : client.worker = some worker) :
    client.engine = worker := by
  rw [engine, h, Option.getD_some]

/-- The engine of a client without a worker has nothing to do and holds nothing. -/
theorem engine_of_none {client : Client ω} (h : client.worker = none) : client.engine = {} := by
  rw [engine, h, Option.getD_none]

/-- What leaves a worker its bytes and what it has to do does so also where there is no
worker. -/
theorem alike_map {f : Worker → Worker} (h : ∀ worker : Worker, worker.Alike (f worker))
    (worker : Option Worker) : (worker.getD {}).Alike ((worker.map f).getD {}) := by
  cases worker with
  | none => exact ⟨rfl, rfl, rfl⟩
  | some worker => exact h worker

/-- What holds of a client after any run, whatever the numbers of links. -/
structure Sound (client : Client ω) : Prop where
  /-- There is a worker exactly while the client runs, and a link only then. -/
  serviced : client.Serviced
  /-- The bytes held are known to be of the connection they are kept with. -/
  tracked : client.engine.Tracked client.session
  /-- A worker that waits to read has dispatched everything, and knows the link it will
  read from by number. -/
  receiving : ∀ worker, client.worker = some worker → worker.phase = .receiving →
    worker.errand = .pass ∧ client.session.link = worker.origin.link
  /-- A worker that sleeps has dispatched everything. -/
  sleeping : ∀ worker, client.worker = some worker → ∀ rest later,
    worker.phase = .sleeping rest later → worker.errand = .pass

/-- A client that has stopped has no worker. -/
theorem Sound.stopped {client : Client ω} (h : client.Sound) (stopped : client.running = false) :
    client.worker = none := by
  have hworker := h.serviced.worker
  rw [← h.serviced.running, stopped] at hworker
  simpa using hworker

/-- A client without a task to join has no worker. -/
theorem Sound.unjoinable {client : Client ω} (h : client.Sound) (alone : client.joinable = false) :
    client.worker = none := by
  have hworker := h.serviced.worker
  rw [alone] at hworker
  simpa using hworker

/-- **A move keeps the held bytes tracked**: the connection and the number that they are
kept with stay those of the link they came over, whoever moves. -/
theorem Stepping.tracked {client next : Client ω} {move : Move ω} {es : List Event}
    (hs : client.Sound) (h : Stepping client move es next) : next.engine.Tracked next.session := by
  have hpath := h.path
  have new : ∀ {next : Client ω}, next.engine = ({} : Worker) → next.engine.IsBusy →
      client.engine.IsBusy ∧ next.engine.origin = client.engine.origin := fun hnew hbusy =>
    absurd (hnew ▸ hbusy) Worker.not_isBusy_new
  cases h with
  | connected hconnect =>
    have hinterrupted := (alike_map Worker.alike_interrupted client.worker).busy
    cases hconnect with
    | unconnected => exact hs.tracked.path hpath hinterrupted
    | serviced => exact hs.tracked.path hpath hinterrupted
    | starting _ _ hstart =>
      cases hstart with
      | started => exact hs.tracked.path hpath (new rfl)
      | failed => exact hs.tracked.path hpath hinterrupted
  | answered => exact hs.tracked.path hpath (alike_map Worker.alike_interrupted client.worker).busy
  | disconnected hdisconnect =>
    cases hdisconnect with
    | alone => exact hs.tracked.path hpath fun hbusy => ⟨hbusy, rfl⟩
    | joined => exact hs.tracked.path hpath (new rfl)
  | moved hworker hrun hmove =>
    have htrack := hs.tracked
    rw [engine_of_worker hworker] at htrack
    exact hmove.tracked htrack (hs.receiving _ hworker)
  | ended => exact hs.tracked.path hpath (new rfl)
  | idle => exact hs.tracked
  | waited ms => exact hs.tracked.path hpath (alike_map (Worker.alike_rested ms) client.worker).busy
  | became => exact hs.tracked.path hpath fun hbusy => ⟨hbusy, rfl⟩

/-- Where the worker comes from that a client has after a move. -/
inductive Arising (client next : Client ω) : Worker → Prop
  /-- It was started in this move. -/
  | new : Arising client next {}
  /-- It waited to read, perhaps, and a call sent it back to the start of its pass. -/
  | interrupted {before : Worker} : client.worker = some before →
      Arising client next before.interrupted
  /-- It made the move itself. -/
  | moved {before worker : Worker} {es : List Event} : client.worker = some before →
      before.Moving true client.session worker es next.session → Arising client next worker
  /-- It slept while time passed. -/
  | rested {before : Worker} (ms : UInt32) : client.worker = some before →
      next.session.link = client.session.link → Arising client next (before.rested ms)
  /-- It was not concerned. -/
  | left {before : Worker} : client.worker = some before →
      next.session.link = client.session.link → Arising client next before

/-- The worker that a client has after a move is a new one, or comes from the one before
in one of a few ways. -/
theorem Stepping.arising {client next : Client ω} {move : Move ω} {es : List Event}
    {worker : Worker} (hs : client.Sound) (h : Stepping client move es next)
    (hworker : next.worker = some worker) : Arising client next worker := by
  -- A call interrupts the worker there is, whatever comes of it.
  have interrupted : client.interrupted.worker = some worker → Arising client next worker :=
    fun hworker => by
      obtain ⟨before, hbefore, rfl⟩ := Option.map_eq_some_iff.1 hworker
      exact .interrupted hbefore
  cases h with
  | connected hconnect =>
    cases hconnect with
    | unconnected => exact interrupted hworker
    | serviced => exact interrupted hworker
    | starting _ _ hstart =>
      cases hstart with
      | started =>
        cases hworker
        exact .new
      | failed => exact interrupted hworker
  | answered => exact interrupted hworker
  | disconnected hdisconnect =>
    cases hdisconnect with
    | alone _ hjoin => simp [hs.unjoinable hjoin] at hworker
    | joined => cases hworker
  | moved hsome _ hmove =>
    cases hworker
    exact .moved hsome hmove
  | ended => cases hworker
  | idle => exact .left hworker rfl
  | waited ms hdid =>
    obtain ⟨before, hbefore, rfl⟩ := Option.map_eq_some_iff.1 hworker
    exact .rested ms hbefore hdid.link
  | became _ hdid => exact .left hworker hdid.link

/-- A worker that waits to read after a move has dispatched everything, and knows the
number of the session's link. -/
theorem Stepping.receiving {client next : Client ω} {move : Move ω} {es : List Event}
    {worker : Worker} (hs : client.Sound) (h : Stepping client move es next)
    (hworker : next.worker = some worker) (phase : worker.phase = .receiving) :
    worker.errand = .pass ∧ next.session.link = worker.origin.link := by
  cases h.arising hs hworker with
  | new => cases phase
  | @interrupted before => exact absurd phase before.phase_interrupted
  | moved _ hmove => exact hmove.receiving phase
  | @rested before ms hbefore hlink =>
    have halike := Worker.alike_rested ms before
    rw [halike.errand, halike.origin, hlink]
    exact hs.receiving _ hbefore (Worker.phase_of_rested phase)
  | left hbefore hlink =>
    rw [hlink]
    exact hs.receiving _ hbefore phase

/-- A worker that sleeps after a move has dispatched everything. -/
theorem Stepping.sleeping {client next : Client ω} {move : Move ω} {es : List Event}
    {worker : Worker} {rest later : UInt32} (hs : client.Sound)
    (h : Stepping client move es next) (hworker : next.worker = some worker)
    (phase : worker.phase = .sleeping rest later) : worker.errand = .pass := by
  cases h.arising hs hworker with
  | new => cases phase
  | @interrupted before hbefore =>
    rw [(Worker.alike_interrupted before).errand]
    rw [Worker.interrupted] at phase
    split at phase
    · cases phase
    · exact hs.sleeping _ hbefore _ _ phase
  | moved hbefore hmove => exact hmove.sleeping (hs.sleeping _ hbefore) phase
  | @rested before ms hbefore =>
    rw [(Worker.alike_rested ms before).errand]
    cases hphase : before.phase with
    | sleeping rest later => exact hs.sleeping _ hbefore _ _ hphase
    | _ => simp [Worker.rested, hphase] at phase
  | left hbefore => exact hs.sleeping _ hbefore _ _ phase

/-- **Every move keeps a client sound.**  The parts are kept one by one; the tracked
bytes need the path of the session, and the others the phase of the worker. -/
theorem Stepping.sound {client next : Client ω} {move : Move ω} {es : List Event}
    (hs : client.Sound) (h : Stepping client move es next) : next.Sound where
  serviced := h.serviced hs.serviced
  tracked := h.tracked hs
  receiving _ hworker phase := h.receiving hs hworker phase
  sleeping _ hworker _ _ phase := h.sleeping hs hworker phase

/-- A client that has done nothing yet is sound. -/
theorem sound_start (connector : Connector) (settings : Settings) (environment : ω)
    (clock : UInt32) : (start connector settings environment clock).Sound where
  serviced := serviced_start connector settings environment clock
  tracked := by
    refine ⟨Session.tidy_new .., rfl, fun hbusy => ?_, fun hbusy => ?_⟩
    · exact absurd hbusy Worker.not_isBusy_new
    · exact absurd hbusy Worker.not_isBusy_new
  receiving _ hworker := nomatch hworker
  sleeping _ hworker := nomatch hworker

variable [Environment ω]

/-- **A client is sound after every run.** -/
theorem sound_run (connector : Connector) (settings : Settings) (environment : ω)
    (clock : UInt32) (moves : List (Move ω)) :
    ((start connector settings environment clock).run moves).Sound :=
  run_preserves (fun hs hstep => hstep.sound hs) moves
    (sound_start connector settings environment clock)

end Client
end Mqtt
