/-
# Reassembly

What a client does about the packets that come over a link is what parsing all the
bytes, one frame after the other, comes to, however the bytes were cut into reads:
`reassembled_run`.  It goes on up to the first frame that is not all there, whose bytes
are kept, or the first that is broken, for which the link is dropped.

The moves are those of the worker, with time passing and the environment changing in
between (`Move.isOwn`).  The environment is any, so the bytes and the reads that give
them are any too.
-/
import Mqtt.Proofs.Client.Progress
import Mqtt.Script

namespace Mqtt

/-- The bytes held that came over the link with that number. -/
def Worker.kept (worker : Worker) (link : UInt32) : List UInt8 :=
  if worker.origin.link = link then worker.held else []

/-- What the progress of a worker says once nothing is left to dispatch. -/
theorem Worker.Progress.idle {ω : Type} {worker : Worker} {s : Session ω} {c : Nat}
    {ran : List Event} {left : List UInt8} {pending : List Act} (idle : worker.errand = .pass)
    (h : worker.Progress c s ran left pending) :
    pending = [] ∧ (s.connection = some c ∧ worker.kept s.link = left ∧
        parseFrames left = ⟨[], .unfinished left⟩ ∧ left.length < capacity ∨
      s.connection ≠ some c ∧ .close c ∈ ran ∧ parseFrames left = ⟨[], .broken⟩) := by
  cases h with
  | fresh up hother =>
    refine ⟨rfl, .inl ⟨up, ?_, by rw [parseFrames_of_none rfl], Nat.succ_pos _⟩⟩
    rw [kept]
    split
    · next hsame =>
      by_cases hheld : worker.held = []
      · exact hheld
      · exact absurd hsame.symm (hother (.inl hheld))
    · rfl
  | holding up horigin herrand =>
    rcases herrand with hcut | ⟨-, hcut⟩
    · exact nomatch idle.symm.trans hcut
    · obtain ⟨hparsed, hless⟩ := parseFrames_of_unfinished hcut
      exact ⟨rfl, .inl ⟨up, by rw [kept, horigin, if_pos rfl], hparsed, hless⟩⟩
  | delivering _ _ hdeliver => exact nomatch idle.symm.trans hdeliver
  | giving _ _ hgives => exact nomatch idle.symm.trans hgives
  | gone down hclose hbroken => exact ⟨rfl, .inr ⟨down, hclose, hbroken⟩⟩

namespace Client

variable {ω : Type}

/-- The move is no call of the program: the worker moves, time passes, or the environment
changes. -/
def Move.isOwn : Move ω → Bool
  | .call _ | .disconnect => false
  | _ => true

/-- The link has come up over a connection that gave nothing yet but the answer to CONNECT,
and what the worker holds it knows to be of another link. -/
structure Begun (c : Nat) (client : Client ω) : Prop where
  up : client.session.connection = some c
  /-- Nothing has come over it yet. -/
  silent : stream c client.events = []
  /-- The worker may still hold bytes of an earlier link, which it will discard. -/
  apart : client.engine.IsBusy → client.session.link ≠ client.engine.origin.link

/-- While fewer than `2³²` handshakes succeed between reading bytes and acting on them, the
worker knows. -/
theorem Begun.of_prompt {client : Client ω} {c : Nat} (hs : client.Sound)
    (prompt : client.Prompt) (up : client.session.connection = some c)
    (silent : stream c client.events = []) : client.Begun c where
  up := up
  silent := silent
  apart hbusy hlink := by
    obtain rfl := hs.tracked.current prompt hbusy hlink up
    exact hs.tracked.fed hbusy silent

/-- The worker has met nothing yet that came over such a connection. -/
theorem Begun.reassembles {client : Client ω} {c : Nat} (hs : client.Sound)
    (begun : client.Begun c) : client.engine.Reassembles c client.session [] where
  known := Nat.le_of_eq (hs.tracked.tidy.latest c begun.up).1
  progress := ⟨[], [], .nil begun.silent, .fresh begun.up begun.apart fun _ _ _ => rfl⟩

/-- **Every move of its own keeps what came over a connection parsed.**  Time that
passes and a new environment add nothing to the history and leave the worker what it
holds. -/
theorem Stepping.reassembles {client next : Client ω} {move : Move ω} {c : Nat}
    {ran es : List Event} (hs : client.Sound) (own : move.isOwn = true) (calm : Calm c es)
    (h : client.engine.Reassembles c client.session ran) (hstep : Stepping client move es next) :
    next.engine.Reassembles c next.session (ran ++ es) := by
  have tuned : ∀ {t : Session ω}, client.session.Did [] t →
      Session.Path (Session.Doing.isOutside ·) client.session [] t := fun hdid =>
    .single rfl (.tuned _ hdid)
  cases hstep with
  | connected => cases own
  | answered => cases own
  | disconnected => cases own
  | moved hworker _ hmove =>
    have htrack := hs.tracked
    rw [engine_of_worker hworker] at h htrack
    exact hmove.reassembles htrack (hs.receiving _ hworker) calm h
  | ended hrun hend =>
    rw [hs.stopped hrun] at hend
    rw [engine_of_none (hs.stopped hrun)] at h
    cases hend with
    | none =>
      rw [List.append_nil]
      exact h
  | idle =>
    rw [List.append_nil]
    exact h
  | waited ms hdid =>
    exact h.alike hs.tracked.tidy (tuned hdid)
      (alike_map (Worker.alike_rested ms) client.worker) hdid.connection hdid.link
  | became _ hdid =>
    exact h.alike hs.tracked.tidy (tuned hdid) ⟨rfl, rfl, rfl⟩ hdid.connection hdid.link

/-- Such a move leaves a worker that runs in its place. -/
theorem Stepping.working {client next : Client ω} {move : Move ω} {es : List Event}
    (hs : client.Sound) (own : move.isOwn = true) (working : client.worker.isSome = true)
    (h : Stepping client move es next) : next.worker.isSome = true := by
  cases h with
  | connected => cases own
  | answered => cases own
  | disconnected => cases own
  | moved => rfl
  | ended hrun =>
    rw [hs.stopped hrun] at working
    cases working
  | idle => exact working
  | waited => simpa using working
  | became => exact working

variable [Environment ω]

/-- A run of such moves keeps what came over a connection parsed. -/
theorem run_reassembles {client : Client ω} {moves : List (Move ω)} {c : Nat} {ran : List Event}
    (hs : client.Sound) (own : ∀ move ∈ moves, move.isOwn = true)
    (working : client.worker.isSome = true) (calm : Calm c (client.added moves))
    (h : client.engine.Reassembles c client.session ran) :
    (client.run moves).worker.isSome = true ∧
      (client.run moves).engine.Reassembles c (client.run moves).session
        (ran ++ client.added moves) := by
  induction moves generalizing client ran with
  | nil =>
    rw [added_nil, List.append_nil]
    exact ⟨working, h⟩
  | cons move moves ih =>
    obtain ⟨es, hes⟩ := stepping_step client move
    rw [added_cons hes] at calm ⊢
    have hmove := own move List.mem_cons_self
    rw [← List.append_assoc]
    exact ih (hes.sound hs) (fun m hm => own m (List.mem_cons_of_mem _ hm))
      (hes.working hs hmove working) calm.right (hes.reassembles hs hmove calm.left h)

/-- Whatever a worker has still to dispatch, so many of its moves end it. -/
theorem dispatch_ends {client : Client ω} {worker : Worker} (hs : client.Sound)
    (hworker : client.worker = some worker) :
    ∃ n later, n ≤ worker.work ∧
      (client.run (List.replicate n .proceed)).worker = some later ∧ later.errand = .pass := by
  induction hwork : worker.work using Nat.strongRecOn generalizing client worker with
  | ind work ih =>
    by_cases hidle : worker.errand = .pass
    · exact ⟨0, worker, Nat.zero_le _, hworker, hidle⟩
    · obtain ⟨es, hes⟩ := stepping_step client .proceed
      have hsound := hes.sound hs
      generalize hnext : client.step .proceed = next at hes hsound
      cases hes with
      | moved hsome _ hmove =>
        cases hworker.symm.trans hsome
        cases hmove with
        | received hphase => exact absurd (hs.receiving _ hworker hphase).1 hidle
        | woke hphase => exact absurd (hs.sleeping _ hworker _ _ hphase) hidle
        | passed _ hpass => exact absurd hpass hidle
        | dispatched _ _ hdispatch =>
          have hless := hdispatch.work_lt
          obtain ⟨n, later, hn, hlater, hdone⟩ := ih _ (hwork ▸ hless) hsound rfl rfl
          refine ⟨n + 1, later, by omega, ?_, hdone⟩
          rw [← hnext] at hlater
          exact hlater
      | ended hrun => exact nomatch (hs.stopped hrun).symm.trans hworker
      | idle hnone => exact nomatch hnone.symm.trans hworker

/-- What a client made of the bytes that came over a connection, with what it did since:
its worker may be in the middle of it. -/
structure Reassembled (c : Nat) (client : Client ω) (worker : Worker) (ran : List Event) :
    Prop where
  /-- What was done is the first part of what all the bytes come to. -/
  first : acts c false ran <+: (parseFrames (stream c client.events)).acts
  /-- It is all of that when nothing is left to dispatch. -/
  whole : worker.errand = .pass → acts c false ran = (parseFrames (stream c client.events)).acts
  /-- If the bytes end before a frame is all there, its bytes are kept, and leave room for
  more. -/
  kept : worker.errand = .pass → ∀ left,
    (parseFrames (stream c client.events)).ending = .unfinished left →
      client.session.connection = some c ∧ worker.kept client.session.link = left ∧
        left.length < Worker.capacity
  /-- If they end with a frame that is broken, the link was dropped. -/
  dropped : worker.errand = .pass →
    (parseFrames (stream c client.events)).ending = .broken →
      client.session.connection ≠ some c ∧ .close c ∈ ran
  /-- So many more moves of the worker leave nothing to dispatch. -/
  ends : ∃ n later, n ≤ worker.work ∧
    (client.run (List.replicate n .proceed)).worker = some later ∧ later.errand = .pass

/-- **Streams are reassembled.**  Once a link is up, as long as the program and the handler
make no calls and nothing fails, what a client does about packets is what the bytes
that came over the link come to, frame by frame, whatever the bytes are and however
they were cut into reads. -/
theorem reassembled_run {connector : Connector} {settings : Settings} {environment : ω}
    {clock : UInt32} {client : Client ω} {c : Nat} (moves : List (Move ω))
    (reached : client.IsRunOf (start connector settings environment clock))
    (begun : client.Begun c) (own : ∀ move ∈ moves, move.isOwn = true)
    (calm : Calm c (client.added moves)) :
    ∃ worker, (client.run moves).worker = some worker ∧
      (client.run moves).Reassembled c worker (client.added moves) := by
  obtain ⟨setup, rfl⟩ := reached
  have hs := sound_run connector settings environment clock setup
  generalize (start connector settings environment clock).run setup = client at *
  have hworking : client.worker.isSome = true := by
    rw [hs.serviced.worker, ← hs.serviced.running]
    exact hs.serviced.link (by rw [Session.isConnected, begun.up]; rfl)
  have hlater : (client.run moves).Sound := run_preserves (fun hs hstep => hstep.sound hs) moves hs
  obtain ⟨hsome, hreassembles⟩ := run_reassembles hs own hworking calm (begun.reassembles hs)
  obtain ⟨worker, hworker⟩ := Option.isSome_iff_exists.1 hsome
  rw [engine_of_worker hworker, List.nil_append] at hreassembles
  obtain ⟨-, left, pending, hparsing, hprogress⟩ := hreassembles
  refine ⟨worker, hworker, ?_, fun hidle => ?_, fun hidle rest hrest => ?_,
    fun hidle hbroken => ?_, dispatch_ends hlater hworker⟩
  · rw [events, hparsing.done, List.append_assoc]
    exact List.prefix_append ..
  -- An idle worker has nothing pending, and the bytes left hold no whole frame.
  · obtain ⟨rfl, ⟨-, -, hparsed, -⟩ | ⟨-, -, hparsed⟩⟩ := hprogress.idle hidle
    all_goals
      rw [events, hparsing.done, hparsed, List.append_nil]
      exact (List.append_nil _).symm
  · obtain ⟨-, ⟨hup, hkept, hparsed, hless⟩ | ⟨-, -, hparsed⟩⟩ := hprogress.idle hidle
    · rw [events, hparsing.ending, hparsed] at hrest
      cases hrest
      exact ⟨hup, hkept, hless⟩
    · rw [events, hparsing.ending, hparsed] at hrest
      cases hrest
  · obtain ⟨-, ⟨-, -, hparsed, -⟩ | ⟨hdown, hclose, -⟩⟩ := hprogress.idle hidle
    · rw [events, hparsing.ending, hparsed] at hbroken
      cases hbroken
    · exact ⟨hdown, hclose⟩

/-- A broker that sends two messages, of which one is to be acknowledged, the answer to a
ping, and the first byte of another packet, cut where they should not be. -/
def piecemeal : Script where
  attempts := [some [⟨0, some [0x20, 0x02, 0x00, 0x00]⟩, ⟨0, some [0x32]⟩,
    ⟨0, some [0x05, 0x00, 0x01]⟩, ⟨0, some [0x61, 0x00, 0x07, 0x30]⟩,
    ⟨0, some [0x04, 0x00, 0x01, 0x61, 0x62, 0xd0]⟩, ⟨0, some [0x00, 0x30]⟩]]

/-- A client that has connected to that broker. -/
def linked : Client Script :=
  (start .plain default piecemeal 0).run [.call .connect]

/-- Its worker acts on all but the last byte, which it keeps. -/
theorem reassembled_run_piecemeal :
    let moves := List.replicate 25 .proceed
    linked.Begun 1 ∧ Calm 1 (linked.added moves) ∧
      acts 1 false (linked.added moves) =
        [.acknowledged 7, .delivered "a" [], .delivered "a" [0x62], .ponged] ∧
      (linked.run moves).worker.map (·.held) = some [0x30] ∧
        ∃ worker, (linked.run moves).worker = some worker ∧
          (linked.run moves).Reassembled 1 worker (linked.added moves) := by
  intro moves
  have hbusy : ¬linked.engine.IsBusy := by
    unfold Worker.IsBusy
    decide +kernel
  have hbegun : linked.Begun 1 :=
    ⟨by decide +kernel, by decide +kernel, fun h => absurd h hbusy⟩
  have hcalm : Calm 1 (linked.added moves) := by
    unfold Calm Without
    decide +kernel
  have hown : ∀ move ∈ moves, move.isOwn = true := by
    intro move hmove
    rw [List.eq_of_mem_replicate hmove]
    rfl
  exact ⟨hbegun, hcalm, by decide +kernel, by decide +kernel,
    reassembled_run moves ⟨_, rfl⟩ hbegun hown hcalm⟩

end Client
end Mqtt
