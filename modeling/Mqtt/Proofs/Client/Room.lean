/-
# Room to read

A worker reads into what is left of a buffer of 1024 bytes, and then dispatches what the
buffer holds.  It never comes to a read with the buffer full.  No single check says so: each
way to the read leaves only bytes whose first frame is not all there, and those are fewer
than 1024 (`Unfinished.length_lt`).

| the errand       | the bytes held                    |
|------------------|-----------------------------------|
| `pass`           | end before their first frame does |
| `cut`, `deliver` | are any, at most 1024             |
| `giveUp`         | are none                          |

`Worker.Roomy` is that table.  Every move keeps it: a read gives no more than there is room
for (`Chunk`), a dispatch only takes frames off, and a pass goes on with the bytes or forgets
them.
So at any time of any run at most 1024 bytes are held, a read is given room for at least one
more, and the frames of a dispatch lie one after the other in the bytes held, whatever
becomes of the link in the meantime (`buffered_run`).
-/
import Mqtt.Proofs.Client.Remainder
import Mqtt.Proofs.Wire.Unfinished
import Mqtt.Script

namespace Mqtt

namespace Session

variable {ω : Type}

/-- What is done for the timers leaves the connection as it is, unless it fails. -/
theorem KeepingAlive.connection {time : UInt32} {s t : Session ω} {es : List Event}
    (h : KeepingAlive time s (.ok ()) es t) : t.connection = s.connection := by
  cases h with
  | nothing => rfl
  | pinged _ hsent hdid =>
    cases hsent with
    | sent _ _ _ hframe => exact hdid.connection.trans hframe.connection

end Session

namespace Worker

variable {ω : Type} {worker next : Worker} {s t : Session ω} {es : List Event}

/-- The bytes held are such that there will be room for a read. -/
structure Roomy (worker : Worker) : Prop where
  /-- What is held fits into the buffer. -/
  fits : worker.held.length ≤ capacity
  /-- Between passes no whole frame is held, so there is room to read into. -/
  waits : worker.errand = .pass → Unfinished capacity worker.held
  /-- A worker that gives up its link holds nothing of it. -/
  given : worker.GivesUp → worker.held = []

/-- A worker that holds nothing has room, whatever it has to do. -/
theorem Roomy.of_nil (nothing : worker.held = []) : worker.Roomy where
  fits := by
    rw [nothing]
    exact Nat.zero_le capacity
  waits _ := nothing ▸ unfinished_nil capacity
  given _ := nothing

/-- In the middle of a dispatch a worker has room as long as its bytes fit the buffer;
only a read asks for more than that. -/
theorem Roomy.of_busy (fits : worker.held.length ≤ capacity) (busy : worker.errand ≠ .pass)
    (calm : ¬worker.GivesUp) : worker.Roomy where
  fits
  waits idle := absurd idle busy
  given gives := absurd gives calm

/-- Room is a matter of the bytes held and of what there is to do, so time that passes
takes none of it. -/
theorem Roomy.alike (roomy : worker.Roomy) (h : worker.Alike next) : next.Roomy where
  fits := h.held ▸ roomy.fits
  waits idle := h.held ▸ roomy.waits (h.errand.symm.trans idle)
  given := fun ⟨fault, hgives⟩ => h.held ▸ roomy.given ⟨fault, h.errand.symm.trans hgives⟩

/-- The part of a pass after there is a link goes on with the bytes held, or forgets them. -/
theorem Servicing.roomy (roomy : worker.Roomy) (h : Servicing worker s next es t) :
    next.Roomy := by
  cases h with
  | interrupted => exact roomy.alike ⟨rfl, rfl, rfl⟩
  | continued => exact roomy.alike ⟨rfl, rfl, rfl⟩
  | adopted => exact .of_nil rfl

/-- A pass up to its read goes on with the bytes held, or forgets them with the link they
came over. -/
theorem Passing.roomy {running : Bool} (roomy : worker.Roomy)
    (h : Passing running worker s next es t) : next.Roomy := by
  cases h with
  | linked _ hservice => exact hservice.roomy roomy
  | reconnected _ _ hservice => exact hservice.roomy (.of_nil rfl)
  | postponed => exact .of_nil rfl

/-- A read adds no more than there is room for. -/
theorem Taking.roomy (roomy : worker.Roomy) (h : Taking worker s next es t) : next.Roomy := by
  cases h with
  | nothing => exact roomy.alike ⟨rfl, rfl, rfl⟩
  | @taken _ chunk =>
    refine .of_busy ?_ nofun (not_givesUp rfl nofun)
    have hfits := roomy.fits
    have hchunk := chunk.property
    rw [List.length_append]
    omega
  | failed => exact roomy.alike ⟨rfl, rfl, rfl⟩

/-- Acting on a frame leaves more to dispatch, or fails. -/
theorem Handling.errand {origin : Origin} {frame : List UInt8} {errand : Errand}
    (h : Handling origin frame s (.ok errand) es t) :
    errand ≠ .pass ∧ ∀ fault, errand ≠ .giveUp fault := by
  cases h <;> exact ⟨nofun, nofun⟩

/-- What follows a frame is shorter than what was held, and a frame that is not all there is
what a pass may go on with. -/
theorem Cutting.roomy (roomy : worker.Roomy) (h : Cutting worker s next es t) : next.Roomy := by
  cases h with
  | unfinished hcut =>
    have hunfinished := Cut.first_eq_unfinished_iff.1 hcut
    exact ⟨roomy.fits, fun _ => hunfinished, fun ⟨_, hgives⟩ => nomatch hgives⟩
  | broken => exact .of_nil rfl
  | oversized => exact .of_nil rfl
  | @handled _ rest split nonempty _ _ _ _ hhandling =>
    have hless := Cut.length_rest_lt split nonempty
    exact .of_busy (Nat.le_of_lt (Nat.lt_of_lt_of_le hless roomy.fits)) hhandling.errand.1
      (not_givesUp rfl hhandling.errand.2)
  | failed => exact .of_nil rfl

/-- **A step of a dispatch keeps a worker roomy.**  It ends where the first frame of what
is held is not all there, or where nothing is held. -/
theorem Dispatching.roomy {running : Bool} (roomy : worker.Roomy)
    (h : Dispatching running worker s next es t) : next.Roomy := by
  cases h with
  | cut _ hcut => exact hcut.roomy roomy
  | delivered => exact .of_busy roomy.fits nofun (not_givesUp rfl nofun)
  | gaveUp hgives => exact .of_nil (roomy.given ⟨_, hgives⟩)
  | stale hgives => exact .of_nil (roomy.given ⟨_, hgives⟩)

/-- **Every move of a worker keeps room to read.**  A read is asked for no more than
there is room for, and a dispatch goes on until no whole frame is held. -/
theorem Moving.roomy {running : Bool} (roomy : worker.Roomy)
    (h : Moving running worker s next es t) : next.Roomy := by
  cases h with
  | received _ htaking => exact htaking.roomy roomy
  | woke => exact roomy.alike ⟨rfl, rfl, rfl⟩
  | passed _ _ hpassing => exact hpassing.roomy roomy
  | dispatched _ _ hdispatch => exact hdispatch.roomy roomy

/-- A worker that is about to read has a link to read from. -/
theorem Moving.isConnected {running : Bool} (h : Moving running worker s next es t)
    (phase : next.phase = .receiving) : t.isConnected = true := by
  obtain ⟨before, u, fs, -, hup, hservice⟩ := h.servicing phase
  rw [Session.isConnected] at hup ⊢
  cases hservice with
  | interrupted => cases phase
  | continued hkeep => rwa [hkeep.connection]
  | adopted hkeep _ _ hdid => rwa [hdid.connection, hkeep.connection]

/-- A read is given all the room there is. -/
theorem Taking.reads {c : Nat} (up : s.connection = some c) (h : Taking worker s next es t) :
    ∃ timeout result fs, es = .read c (capacity - worker.held.length) timeout result :: fs := by
  have received : ∀ {timeout : UInt32} {r : Except Fault (Chunk (capacity - worker.held.length))}
      {es : List Event} {t : Session ω},
      Session.Receiving (capacity - worker.held.length) timeout s r es t →
        ∃ result fs, es = .read c (capacity - worker.held.length) timeout result :: fs := by
    intro timeout r es t hread
    cases hread with
    | notConnected down => exact nomatch up.symm.trans down
    | received chunk hup =>
      cases up.symm.trans hup
      exact ⟨_, _, rfl⟩
    | failed fault hup =>
      cases up.symm.trans hup
      exact ⟨_, _, rfl⟩
  cases h with
  | nothing _ hread =>
    obtain ⟨result, fs, rfl⟩ := received hread
    exact ⟨_, _, _, rfl⟩
  | taken _ hread =>
    obtain ⟨result, fs, rfl⟩ := received hread
    exact ⟨_, _, _, rfl⟩
  | failed hread =>
    obtain ⟨result, fs, rfl⟩ := received hread
    exact ⟨_, _, _, rfl⟩

/-- A worker that is about to read does so when it moves. -/
theorem Moving.taking {running : Bool} (h : Moving running worker s next es t)
    (phase : worker.phase = .receiving) : Taking worker s next es t := by
  cases h with
  | received _ htaking => exact htaking
  | woke hphase => exact nomatch phase.symm.trans hphase
  | passed hphase => exact absurd phase (by rcases hphase with h | h <;> rw [h] <;> nofun)
  | dispatched hphase => exact absurd phase (by rcases hphase with h | h <;> rw [h] <;> nofun)

/-- Frames that are cut off lie one after the other, before what is left. -/
theorem Cuts.split {bytes left : List UInt8} {frames : List (List UInt8)}
    (h : Cuts bytes frames left) : bytes = frames.flatten ++ left := by
  induction h with
  | nil => rfl
  | @cons _ _ _ _ _ split _ _ _ ih => rw [split, ih, List.flatten_cons, List.append_assoc]

end Worker

namespace Client

variable {ω : Type} {client next : Client ω} {move : Move ω} {es : List Event}

/-- A client whose worker has room to read, and a link when it is about to. -/
structure Poised (client : Client ω) : Prop where
  sound : client.Sound
  roomy : client.engine.Roomy
  /-- It reads only while there is a link to read from. -/
  linked : ∀ worker, client.worker = some worker → worker.phase = .receiving →
    client.session.isConnected = true

/-- The worker of a poised client has room to read. -/
theorem Poised.of_worker {worker : Worker} (h : client.Poised)
    (hworker : client.worker = some worker) : worker.Roomy :=
  engine_of_worker hworker ▸ h.roomy

/-- **A move keeps the worker roomy**, whoever makes it.  Only the worker's own moves
and its end touch what is held. -/
theorem Stepping.roomy (h : client.Poised) (hstep : Stepping client move es next) :
    next.engine.Roomy := by
  cases hworker : next.worker with
  | none =>
    rw [engine_of_none hworker]
    exact .of_nil rfl
  | some worker =>
    rw [engine_of_worker hworker]
    cases hstep.arising h.sound hworker with
    | new => exact .of_nil rfl
    | interrupted hbefore => exact (h.of_worker hbefore).alike (Worker.alike_interrupted _)
    | moved hbefore hmove => exact hmove.roomy (h.of_worker hbefore)
    | rested ms hbefore => exact (h.of_worker hbefore).alike (Worker.alike_rested ms _)
    | left hbefore => exact h.of_worker hbefore

/-- A worker that is about to read after a move has a link to read from: calls that lose
it send the worker back to the start of its pass. -/
theorem Stepping.linked {worker : Worker} (h : client.Poised)
    (hstep : Stepping client move es next) (hworker : next.worker = some worker)
    (phase : worker.phase = .receiving) : next.session.isConnected = true := by
  -- A worker that is interrupted does not read next.
  have interrupted : client.interrupted.worker ≠ some worker := by
    intro hsome
    obtain ⟨before, -, rfl⟩ := Option.map_eq_some_iff.1 hsome
    exact before.phase_interrupted phase
  cases hstep with
  | connected hconnect =>
    cases hconnect with
    | unconnected => exact absurd hworker interrupted
    | serviced => exact absurd hworker interrupted
    | starting _ _ hstart =>
      cases hstart with
      | started =>
        cases hworker
        cases phase
      | failed => exact absurd hworker interrupted
  | answered => exact absurd hworker interrupted
  | disconnected hdisconnect =>
    cases hdisconnect with
    | alone _ hjoin => simp [h.sound.unjoinable hjoin] at hworker
    | joined => cases hworker
  | moved _ _ hmove =>
    cases hworker
    exact hmove.isConnected phase
  | ended => cases hworker
  | idle => exact h.linked _ hworker phase
  | waited ms hdid =>
    obtain ⟨before, hbefore, rfl⟩ := Option.map_eq_some_iff.1 hworker
    rw [Session.isConnected, hdid.connection]
    exact h.linked _ hbefore (Worker.phase_of_rested phase)
  | became _ hdid =>
    rw [Session.isConnected, hdid.connection]
    exact h.linked _ hworker phase

/-- A worker that is about to read is given all the room there is. -/
theorem Stepping.reads {worker : Worker} {c : Nat} (hs : client.Sound)
    (hstep : Stepping client .proceed es next) (hworker : client.worker = some worker)
    (phase : worker.phase = .receiving) (up : client.session.connection = some c) :
    ∃ timeout result fs,
      es = .read c (Worker.capacity - worker.held.length) timeout result :: fs := by
  cases hstep with
  | moved hsome _ hmove =>
    cases hworker.symm.trans hsome
    exact (hmove.taking phase).reads up
  | ended hrun => exact nomatch (hs.stopped hrun).symm.trans hworker
  | idle hnone => exact nomatch hnone.symm.trans hworker

/-- **Every move keeps room to read.**  A call that loses the link sends a worker that
was about to read back to its pass. -/
theorem Stepping.poised (h : client.Poised) (hstep : Stepping client move es next) :
    next.Poised where
  sound := hstep.sound h.sound
  roomy := hstep.roomy h
  linked _ hworker phase := hstep.linked h hworker phase

/-- A client that has done nothing yet is poised. -/
theorem poised_start (connector : Connector) (settings : Settings) (environment : ω)
    (clock : UInt32) : (start connector settings environment clock).Poised where
  sound := sound_start connector settings environment clock
  roomy := .of_nil rfl
  linked _ hworker := nomatch hworker

variable [Environment ω]

/-- What there is to say of the bytes that a client's worker holds. -/
structure Buffered (client : Client ω) : Prop where
  /-- The buffer has room for them. -/
  fits : client.engine.held.length ≤ Worker.capacity
  /-- A worker that is about to read has room for more, what it holds ends before its first
  frame does, and it reads from the link into all the room there is. -/
  read : ∀ worker, client.worker = some worker → worker.phase = .receiving →
    worker.held.length < Worker.capacity ∧ Unfinished Worker.capacity worker.held ∧
      ∃ c timeout result fs, client.session.connection = some c ∧
        (client.step .proceed).events = client.events ++
          .read c (Worker.capacity - worker.held.length) timeout result :: fs
  /-- While a dispatch goes on, every frame acted on is one of those that lie one after the
  other at the start of the bytes held. -/
  dispatch : ∀ moves, client.Dispatches moves → ∃ left,
    client.engine.held =
        (framesOf client.engine.origin.connection (client.added moves)).flatten ++ left ∧
      ∀ c, c ≠ client.engine.origin.connection → framesOf c (client.added moves) = []

/-- A poised client is buffered: its worker reads only while there is room for more, and
takes only frames that lie at the start of what it holds. -/
theorem Poised.buffered (h : client.Poised) : client.Buffered where
  fits := h.roomy.fits
  read worker hworker phase := by
    have hidle := (h.sound.receiving worker hworker phase).1
    have hunfinished := (h.of_worker hworker).waits hidle
    refine ⟨hunfinished.length_lt (by decide), hunfinished, ?_⟩
    obtain ⟨c, hup⟩ := Option.isSome_iff_exists.1 (h.linked worker hworker phase)
    obtain ⟨es, hstep⟩ := stepping_step client .proceed
    obtain ⟨timeout, result, fs, hread⟩ := hstep.reads h.sound hworker phase hup
    exact ⟨c, timeout, result, fs, hup, hread ▸ hstep.events⟩
  dispatch moves hmoves := by
    obtain ⟨left, htakes, -⟩ := (run_carries h.sound hmoves).takes
    exact ⟨left, htakes.cuts.split, htakes.others⟩

/-- **There is always room to read.**  In every run, whatever the broker sends, whatever calls
are made, and however links come and go. -/
theorem buffered_run (connector : Connector) (settings : Settings) (environment : ω)
    (clock : UInt32) (moves : List (Move ω)) :
    ((start connector settings environment clock).run moves).Buffered :=
  Poised.buffered (run_preserves (fun h hstep => hstep.poised h) moves
    (poised_start connector settings environment clock))

/-- A broker may break off after one byte, which is held at the next read. -/
example :
    let broker : Script :=
      { attempts := [some [⟨0, some [0x20, 0x02, 0x00, 0x00]⟩, ⟨0, some [0xd0]⟩]] }
    ((start .plain default broker 0).run
      [.call .connect, .proceed, .proceed, .proceed, .proceed]).worker.map
        (fun worker => (worker.phase, worker.held)) = some (.receiving, [0xd0]) := by
  decide +kernel

end Client
end Mqtt
