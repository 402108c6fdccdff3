/-
# The moves of a client

The ways in which each move of a run can go (`Stepping`), down to the moves of
its worker and the steps of its session, and what follows for whole runs: what
every move keeps holds after any list of moves (`run_preserves`), and the session
of a run was reached by a run of session steps (`Stepping.path`).

A move adds events to the history and takes none away, so the history after a run is
the one before it and what its moves added (`events_run`), move by move
(`added_cons`).  That the programs which are played are runs too is a module of its
own, `Mqtt.Proofs.Client.Schedule`.
-/
import Mqtt.Client.Schedule
import Mqtt.Proofs.Client.Worker

namespace Mqtt
namespace Client

open Mqtt.Action

variable {ω ε α : Type}

/-- The events of a client's world. -/
def events (client : Client ω) : List Event :=
  client.session.world.events

/-- The client whose worker has to start its pass again. -/
def interrupted (client : Client ω) : Client ω :=
  { client with worker := client.worker.map Worker.interrupted }

/-- How starting the worker's task goes; a client that cannot start it disconnects. -/
inductive Starting (client : Client ω) : Except Fault Unit → List Event → Client ω → Prop
  /-- The task starts, and from then on the client runs and has a worker. -/
  | started {task : TaskSettings} {t : Session ω} :
      client.session.Did [.spawn task true, .notice .workerStarted] t →
      Starting client (.ok ()) [.spawn task true, .notice .workerStarted]
        { session := t, running := true, joinable := true, worker := some {} }
  /-- The task does not start.  The client leaves again, so that there is no link
  without a worker. -/
  | failed {task : TaskSettings} {es : List Event} {t u : Session ω} :
      client.session.Did [.spawn task false, .notice .workerNotStarted] t →
      Session.Leaving t es u →
      Starting client (.error .taskSpawn)
        (.spawn task false :: .notice .workerNotStarted :: es)
        { client with session := u, running := false }

/-- How a call to connect goes. -/
inductive Connecting (client : Client ω) : Except Fault Unit → List Event → Client ω → Prop
  /-- The session could not be connected.  The worker is as it was, if there is one. -/
  | unconnected {fault : Fault} {es : List Event} {t : Session ω} :
      Session.Ensuring client.session (.error fault) es t →
      Connecting client (.error fault) es { client with session := t }
  /-- There is a worker already, so being connected is all. -/
  | serviced {es : List Event} {t : Session ω} :
      Session.Ensuring client.session (.ok ()) es t → client.joinable = true →
      Connecting client (.ok ()) es { client with session := t }
  /-- There is none, so its task is started. -/
  | starting {r : Except Fault Unit} {es fs : List Event} {t : Session ω} {next : Client ω} :
      Session.Ensuring client.session (.ok ()) es t → client.joinable = false →
      Starting { client with session := t } r fs next → Connecting client r (es ++ fs) next

/-- How the worker ends, if there is one. -/
inductive Ending : Option Worker → Session ω → List Event → Session ω → Prop
  /-- There is no worker to end. -/
  | none (s : Session ω) : Ending none s [] s
  /-- The worker finishes what it holds first. -/
  | some {worker : Worker} {es : List Event} {s t : Session ω} :
      worker.Finishing s es t → Ending (some worker) s es t

/-- How disconnecting goes. -/
inductive Disconnecting (client : Client ω) : List Event → Client ω → Prop
  /-- No task was started, so leaving is all. -/
  | alone {es : List Event} {t : Session ω} : Session.Leaving client.session es t →
      client.joinable = false →
      Disconnecting client es { client with session := t, running := false }
  /-- After leaving, the worker ends, and its task is joined. -/
  | joined {es fs : List Event} {t u v : Session ω} : Session.Leaving client.session es t →
      client.joinable = true → Ending client.worker t fs u →
      u.Did [.notice .workerStopped, .join] v →
      Disconnecting client (es ++ fs ++ [.notice .workerStopped, .join])
        { session := v, running := false, joinable := false, worker := .none }

/-- How a move of a client goes. -/
inductive Stepping (client : Client ω) : Move ω → List Event → Client ω → Prop
  /-- A call to connect, which sends a worker that waits to read back to the start of
  its pass. -/
  | connected {r : Except Fault Unit} {es : List Event} {next : Client ω} :
      Connecting client.interrupted r es next → Stepping client (.call .connect) es next
  /-- Any other call, answered by the session as it is. -/
  | answered {call : Call} {reply : Reply} {es : List Event} {t : Session ω} : call ≠ .connect →
      Session.Calling client.running client.session call reply es t →
      Stepping client (.call call) es { client.interrupted with session := t }
  /-- The client disconnects, and takes the worker with it. -/
  | disconnected {es : List Event} {next : Client ω} : Disconnecting client es next →
      Stepping client .disconnect es next
  /-- The worker of a client that runs makes a move. -/
  | moved {worker next : Worker} {es : List Event} {t : Session ω} :
      client.worker = some worker → client.running = true →
      worker.Moving true client.session next es t →
      Stepping client .proceed es { client with session := t, worker := some next }
  /-- The client has stopped, so the worker ends instead. -/
  | ended {es : List Event} {t : Session ω} : client.running = false →
      Ending client.worker client.session es t →
      Stepping client .proceed es { client with session := t, worker := none }
  /-- There is no worker to move. -/
  | idle : client.worker = none → Stepping client .proceed [] client
  /-- Time passes; a worker that sleeps has less of its slice to go. -/
  | waited {t : Session ω} (ms : UInt32) : client.session.Did [] t →
      Stepping client (.wait ms) []
        { client with session := t, worker := client.worker.map (Worker.rested ms) }
  /-- The environment changes, and only that. -/
  | became {t : Session ω} (environment : ω) : client.session.Did [] t →
      Stepping client (.become environment) [] { client with session := t }

/-- What is done to the session of a client leaves the client around it as it was. -/
theorem yields_onSession {action : Action ε (Session ω) α} {client next : Client ω}
    {r : Except ε α} :
    Yields (onSession action) client r next ↔
      ∃ t, Yields action client.session r t ∧ next = { client with session := t } :=
  yields_within

/-- What is done to the session comes first, then the rest, unless it failed. -/
theorem yields_onSession_bind {β : Type} {action : Action ε (Session ω) α}
    {rest : α → Action ε (Client ω) β} {client next : Client ω} {r : Except ε β} :
    Yields (onSession action >>= rest) client r next ↔
      (∃ e t, Yields action client.session (.error e) t ∧ r = .error e ∧
          next = { client with session := t }) ∨
        ∃ a t, Yields action client.session (.ok a) t ∧
          Yields (rest a) { client with session := t } r next := by
  rw [yields_bind]
  constructor
  · rintro (⟨e, h, he⟩ | ⟨a, mid, h, hrest⟩)
    · obtain ⟨t, ht, hnext⟩ := yields_onSession.1 h
      exact .inl ⟨e, t, ht, he, hnext⟩
    · obtain ⟨t, ht, rfl⟩ := yields_onSession.1 h
      exact .inr ⟨a, t, ht, hrest⟩
  · rintro (⟨e, t, ht, he, hnext⟩ | ⟨a, t, ht, hrest⟩)
    · exact .inl ⟨e, yields_onSession.2 ⟨t, ht, hnext⟩, he⟩
    · exact .inr ⟨a, _, yields_onSession.2 ⟨t, ht, rfl⟩, hrest⟩

section

variable [Environment ω]

/-- Starting the worker's task goes in one of the ways of `Starting`: it starts, or the
client disconnects. -/
theorem starting_of_startWorker {client next : Client ω} {r : Except Fault Unit}
    (h : Yields startWorker client r next) : ∃ es, Starting client r es next := by
  simp only [startWorker, yields_modify_bind, yields_get_bind] at h
  rcases yields_onSession_bind.1 h with ⟨_, _, hs, -⟩ | ⟨started, t, hs, hrest⟩
  · obtain ⟨_, he, -⟩ := World.ran_spawn (Session.did_onWorld hs).1
    cases he
  · obtain ⟨hran, ht⟩ := Session.did_onWorld hs
    obtain ⟨_, ⟨⟩, hspawn⟩ := World.ran_spawn hran
    have hdid : client.session.Did [_] t := ⟨hspawn, ht⟩
    cases started with
    | true =>
      simp only [if_true, yields_modify_bind] at hrest
      obtain ⟨u, hn, rfl⟩ := yields_onSession.1 hrest
      obtain ⟨rfl, hstarted⟩ := Session.did_notice hn
      exact ⟨_, .started (hdid.trans hstarted)⟩
    | false =>
      simp only [Bool.false_eq_true, if_false] at hrest
      rcases yields_onSession_bind.1 hrest with ⟨_, _, hn, -⟩ | ⟨⟨⟩, u, hn, hstop⟩
      · exact absurd (Session.did_notice hn).1 (by simp)
      · have hstop := yields_modify_bind.1 hstop
        rcases yields_onSession_bind.1 hstop with ⟨_, _, hl, -⟩ | ⟨⟨⟩, v, hl, hend⟩
        · exact absurd (Session.leaving_of_disconnect hl).1 (by simp)
        · obtain ⟨rfl, rfl⟩ := yields_throw.1 hend
          obtain ⟨-, es, hes⟩ := Session.leaving_of_disconnect hl
          exact ⟨_, .failed (hdid.trans (Session.did_notice hn).2) hes⟩

/-- A call to connect goes in one of the ways of `Connecting`: the session could not be
connected, there is a worker already, or one is started. -/
theorem connecting_of_connect {client next : Client ω} {r : Except Fault Unit}
    (h : Yields connect client r next) : ∃ es, Connecting client r es next := by
  rw [connect] at h
  rcases yields_onSession_bind.1 h with ⟨fault, t, hc, rfl, rfl⟩ | ⟨⟨⟩, t, hc, hrest⟩
  · obtain ⟨es, hes⟩ := Session.ensuring_of_ensureConnected hc
    exact ⟨es, .unconnected hes⟩
  · obtain ⟨es, hes⟩ := Session.ensuring_of_ensureConnected hc
    rw [yields_get_bind] at hrest
    split at hrest
    case isTrue hjoin =>
      obtain ⟨rfl, rfl⟩ := yields_pure.1 hrest
      exact ⟨es, .serviced hes hjoin⟩
    case isFalse hjoin =>
      obtain ⟨fs, hfs⟩ := starting_of_startWorker hrest
      exact ⟨_, .starting hes (Bool.eq_false_iff.2 hjoin) hfs⟩

/-- Without a client that runs, the worker ends. -/
theorem ending_of_proceed {client next : Client ω} {r : Except ε Unit}
    (stopped : client.running = false) (h : Yields proceed client r next) :
    r = .ok () ∧ ∃ es t, Ending client.worker client.session es t ∧
      next = { client with session := t, worker := none } := by
  simp only [proceed, yields_get_bind, stopped, Bool.false_eq_true, if_false] at h
  cases hw : client.worker with
  | some worker =>
    simp only [hw] at h
    rcases yields_onSession_bind.1 h with ⟨_, _, hf, -⟩ | ⟨⟨⟩, t, hf, hend⟩
    · exact absurd (Worker.finishing_of_finish hf).1 (by simp)
    · obtain ⟨-, es, hes⟩ := Worker.finishing_of_finish hf
      obtain ⟨rfl, rfl⟩ := yields_modify.1 hend
      exact ⟨rfl, es, t, .some hes, rfl⟩
  | none =>
    simp only [hw] at h
    obtain ⟨rfl, rfl⟩ := yields_pure.1 h
    refine ⟨rfl, [], next.session, .none _, ?_⟩
    rw [← hw]

/-- Disconnecting goes in one of the ways of `Disconnecting`, and cannot fail. -/
theorem disconnecting_of_disconnect {client next : Client ω} {r : Except ε Unit}
    (h : Yields disconnect client r next) : r = .ok () ∧ ∃ es, Disconnecting client es next := by
  simp only [disconnect, yields_modify_bind] at h
  rcases yields_onSession_bind.1 h with ⟨_, _, hl, -⟩ | ⟨⟨⟩, t, hl, hrest⟩
  · exact absurd (Session.leaving_of_disconnect hl).1 (by simp)
  · obtain ⟨-, es, hes⟩ := Session.leaving_of_disconnect hl
    rw [yields_get_bind] at hrest
    split at hrest
    case isFalse hjoin =>
      obtain ⟨rfl, rfl⟩ := yields_pure.1 hrest
      exact ⟨rfl, es, .alone hes (Bool.eq_false_iff.2 hjoin)⟩
    case isTrue hjoin =>
      rcases yields_bind.1 hrest with ⟨_, hp, -⟩ | ⟨⟨⟩, mid, hp, hstop⟩
      · exact absurd (ending_of_proceed rfl hp).1 (by simp)
      · obtain ⟨-, fs, u, hfs, rfl⟩ := ending_of_proceed rfl hp
        rcases yields_onSession_bind.1 hstop with ⟨_, _, hn, -⟩ | ⟨⟨⟩, v, hn, hjoined⟩
        · exact absurd (Session.did_notice hn).1 (by simp)
        · rcases yields_onSession_bind.1 hjoined with ⟨_, _, hj, -⟩ | ⟨⟨⟩, w, hj, hend⟩
          · exact absurd (Session.did_record rfl hj).1 (by simp)
          · obtain ⟨rfl, rfl⟩ := yields_modify.1 hend
            exact ⟨rfl, _, .joined hes hjoin hfs
              ((Session.did_notice hn).2.trans (Session.did_record rfl hj).2)⟩

/-- A call to connect interrupts the worker, and is answered whatever comes of it. -/
theorem yields_perform_connect {client next : Client ω} {r : Except ε Reply} :
    Yields (perform .connect) client r next ↔
      ∃ x, Yields connect client.interrupted x next ∧ r = .ok (.ofExcept x) := by
  simp only [perform, interrupt, yields_modify_bind, map_eq_pure_bind]
  rw [yields_attempt_bind]
  constructor
  · rintro ⟨x, mid, hx, hend⟩
    obtain ⟨hr, rfl⟩ := yields_pure.1 hend
    exact ⟨x, hx, hr⟩
  · rintro ⟨x, hx, hr⟩
    exact ⟨x, next, hx, yields_pure.2 ⟨hr, rfl⟩⟩

/-- Every other call is answered by the session. -/
theorem yields_perform {call : Call} {client next : Client ω} {r : Except ε Reply}
    (other : call ≠ .connect) (h : Yields (perform call) client r next) :
    ∃ t, Yields (Session.answer client.running call) client.session r t ∧
      next = { client.interrupted with session := t } := by
  have answered : Yields (onSession (Session.answer client.running call)) client.interrupted r
      next := by
    cases call with
    | connect => exact absurd rfl other
    | publish | subscribe | state | describe =>
      simp only [perform, interrupt, yields_modify_bind, yields_get_bind] at h
      exact h
  exact yields_onSession.1 answered

/-- A call other than one to connect concerns the session alone, and goes in one of the
ways of `Calling`; the client only interrupts its worker for it. -/
theorem calling_of_perform {call : Call} {client next : Client ω} {r : Except ε Reply}
    (other : call ≠ .connect) (h : Yields (perform call) client r next) :
    ∃ reply es t, r = .ok reply ∧
      Session.Calling client.running client.session call reply es t ∧
        next = { client.interrupted with session := t } := by
  obtain ⟨t, ha, rfl⟩ := yields_perform other h
  obtain ⟨reply, es, hr, hes⟩ := Session.calling_of_answer ha
  exact ⟨reply, es, t, hr, hes, rfl⟩

/-- Performing a call is the move of making it. -/
theorem stepping_of_perform {call : Call} {client next : Client ω} {r : Except ε Reply}
    (h : Yields (perform call) client r next) : ∃ es, Stepping client (.call call) es next := by
  by_cases hconnect : call = .connect
  · subst hconnect
    obtain ⟨x, hc, -⟩ := yields_perform_connect.1 h
    obtain ⟨es, hes⟩ := connecting_of_connect hc
    exact ⟨es, .connected hes⟩
  · obtain ⟨_, es, _, -, hes, rfl⟩ := calling_of_perform hconnect h
    exact ⟨es, .answered hconnect hes⟩

/-- While the client runs, its worker moves. -/
theorem moved_of_proceed {client next : Client ω} {worker : Worker} {r : Except Empty Unit}
    (hworker : client.worker = some worker) (running : client.running = true)
    (h : Yields proceed client r next) :
    ∃ moved t, Yields (worker.move true : Action Empty (Session ω) Worker) client.session
        (.ok moved) t ∧ next = { client with session := t, worker := some moved } := by
  simp only [proceed, yields_get_bind, running, if_true, hworker] at h
  rcases yields_onSession_bind.1 h with ⟨e, -⟩ | ⟨moved, t, hm, hend⟩
  · cases e
  · obtain ⟨-, rfl⟩ := yields_modify.1 hend
    exact ⟨moved, t, hm, rfl⟩

/-- A move yields the client after it. -/
theorem yields_step (client : Client ω) (move : Move ω) :
    Yields (act move : Action Empty (Client ω) Unit) client (.ok ()) (client.step move) :=
  yields_complete (act move) client

/-- **Every move goes in one of these ways.**  Each move is one action, and the way it
went is read off its parts. -/
theorem stepping_step (client : Client ω) (move : Move ω) :
    ∃ es, Stepping client move es (client.step move) := by
  have h := yields_step client move
  generalize client.step move = next at h
  cases move with
  | call call =>
    rcases yields_bind.1 h with ⟨e, -⟩ | ⟨reply, mid, hp, hend⟩
    · cases e
    · obtain ⟨-, rfl⟩ := yields_pure.1 hend
      exact stepping_of_perform hp
  | disconnect =>
    obtain ⟨-, es, hes⟩ := disconnecting_of_disconnect h
    exact ⟨es, .disconnected hes⟩
  | proceed =>
    cases hrun : client.running with
    | false =>
      obtain ⟨-, es, t, hes, rfl⟩ := ending_of_proceed hrun h
      exact ⟨es, .ended hrun hes⟩
    | true =>
      cases hw : client.worker with
      | none =>
        simp only [act, proceed, yields_get_bind, hw] at h
        obtain ⟨-, rfl⟩ := yields_pure.1 h
        exact ⟨[], .idle hw⟩
      | some worker =>
        obtain ⟨_, t, hm, rfl⟩ := moved_of_proceed hw hrun h
        obtain ⟨_, es, ⟨⟩, hes⟩ := Worker.moving_of_move hm
        exact ⟨es, .moved hw hrun hes⟩
  | wait ms =>
    rcases yields_onSession_bind.1 h with ⟨e, -⟩ | ⟨a, t, hw, hend⟩
    · cases e
    · obtain ⟨-, rfl⟩ := yields_modify.1 hend
      exact ⟨[], .waited ms (Session.did_setWorld hw (fun _ => rfl) fun _ => rfl)⟩
  | become environment =>
    obtain ⟨t, hw, rfl⟩ := yields_onSession.1 h
    exact ⟨[], .became environment (Session.did_setWorld hw (fun _ => rfl) fun _ => rfl)⟩

/-- What every move keeps holds after any run. -/
theorem run_preserves {Inv : Client ω → Prop}
    (keep : ∀ {client next : Client ω} {move : Move ω} {es : List Event}, Inv client →
      Stepping client move es next → Inv next)
    {client : Client ω} (moves : List (Move ω)) (h : Inv client) : Inv (client.run moves) := by
  induction moves generalizing client with
  | nil => exact h
  | cons move moves ih =>
    obtain ⟨es, hes⟩ := stepping_step client move
    exact ih (keep h hes)

end

/-! ### The moves of a client as steps of the session -/

/-- Two events that are only told, both of them outside of a dispatch, are two steps of
the session. -/
theorem outside_told_two {event event' : Event} {s t : Session ω} (quiet : event.isTold = true)
    (quiet' : event'.isTold = true) (outside : (Session.Doing.tell event).isOutside = true)
    (outside' : (Session.Doing.tell event').isOutside = true) (h : s.Did [event, event'] t) :
    Session.Path (Session.Doing.isOutside ·) s [event, event'] t := by
  obtain ⟨u, hfirst, hsecond⟩ := h.split
  exact .cons outside (.told quiet hfirst) (.single outside' (.told quiet' hsecond))

/-- Starting the worker's task acts on nothing that the broker sent. -/
theorem Starting.path {client next : Client ω} {r : Except Fault Unit} {es : List Event}
    (h : Starting client r es next) :
    Session.Path (Session.Doing.isOutside ·) client.session es next.session := by
  cases h with
  | started hdid => exact outside_told_two rfl rfl rfl rfl hdid
  | failed hdid hleave =>
    exact (outside_told_two rfl rfl rfl rfl hdid).trans hleave.outside

/-- Connecting acts on nothing that the broker sent, so calls to connect can come at any
time of a dispatch. -/
theorem Connecting.path {client next : Client ω} {r : Except Fault Unit} {es : List Event}
    (h : Connecting client r es next) :
    Session.Path (Session.Doing.isOutside ·) client.session es next.session := by
  cases h with
  | unconnected hensure => exact hensure.path.outside
  | serviced hensure => exact hensure.path.outside
  | starting hensure _ hstart => exact hensure.path.outside.trans hstart.path

/-- The end of a worker takes the steps that are left to a client which does not run. -/
theorem Ending.path {worker : Option Worker} {s t : Session ω} {es : List Event}
    (h : Ending worker s es t) : Session.Path (Session.Doing.isWork false ·) s es t := by
  cases h with
  | none => exact .refl _
  | some hfinish => exact hfinish.path

/-- Disconnecting is a run of the session's steps: leaving first, and then what the worker
still does. -/
theorem Disconnecting.path {client next : Client ω} {es : List Event}
    (h : Disconnecting client es next) :
    Session.Path (fun _ => True) client.session es next.session := by
  cases h with
  | alone hleave => exact hleave.outside.any
  | joined hleave _ hend hdid =>
    exact (hleave.outside.any.trans hend.path.any).trans
      (outside_told_two rfl rfl rfl rfl hdid).any

/-- **A move of a client is a run of the session's steps.**  So whatever every step of a
session keeps is kept by a client, which adds the worker and the flags. -/
theorem Stepping.path {client next : Client ω} {move : Move ω} {es : List Event}
    (h : Stepping client move es next) :
    Session.Path (fun _ => True) client.session es next.session := by
  cases h with
  | connected hconnect => exact hconnect.path.any
  | answered _ hcall => exact hcall.path.any
  | disconnected hdisconnect => exact hdisconnect.path
  | moved _ _ hmove => exact hmove.path.any
  | ended _ hend => exact hend.path.any
  | idle => exact .refl _
  | waited _ hdid => exact .single trivial (.tuned _ hdid)
  | became _ hdid => exact .single trivial (.tuned _ hdid)

/-- The events of a move are what it puts at the end of the history. -/
theorem Stepping.events {client next : Client ω} {move : Move ω} {es : List Event}
    (h : Stepping client move es next) : next.events = client.events ++ es :=
  h.path.ran.events

/-! ### The history of a run -/

variable [Environment ω]

/-- Moves can be made in two runs, one after the other. -/
theorem run_append (client : Client ω) (moves more : List (Move ω)) :
    client.run (moves ++ more) = (client.run moves).run more :=
  List.foldl_append

/-- What some moves add to the history. -/
def added (client : Client ω) (moves : List (Move ω)) : List Event :=
  (client.run moves).events.drop client.events.length

/-- No moves add nothing. -/
theorem added_nil (client : Client ω) : client.added [] = [] :=
  List.drop_length ..

/-- **The history after a run is the one before it, and what its moves added.** -/
theorem events_run (client : Client ω) (moves : List (Move ω)) :
    (client.run moves).events = client.events ++ client.added moves := by
  have hprefix : client.events <+: (client.run moves).events := by
    induction moves generalizing client with
    | nil => exact List.prefix_refl _
    | cons move moves ih =>
      obtain ⟨es, hes⟩ := stepping_step client move
      refine List.IsPrefix.trans ?_ (ih (client.step move))
      rw [hes.events]
      exact List.prefix_append ..
  obtain ⟨ran, hran⟩ := hprefix
  rw [added, ← hran, List.drop_left]

/-- What a run adds is what its first move does and what the others add after it. -/
theorem added_cons {client : Client ω} {move : Move ω} {moves : List (Move ω)} {es : List Event}
    (h : Stepping client move es (client.step move)) :
    client.added (move :: moves) = es ++ (client.step move).added moves := by
  have hrun := events_run client (move :: moves)
  have hrest : (client.run (move :: moves)).events = _ := events_run (client.step move) moves
  rw [hrest, h.events, List.append_assoc] at hrun
  exact (List.append_cancel_left hrun).symm

/-- The client was reached from another by a run. -/
def IsRunOf (next client : Client ω) : Prop :=
  ∃ moves, next = client.run moves

/-- A client is reached from itself, by the run without moves. -/
theorem IsRunOf.refl (client : Client ω) : client.IsRunOf client :=
  ⟨[], rfl⟩

/-- One run after the other is a run, of the moves of both. -/
theorem IsRunOf.trans {client mid next : Client ω} (h : mid.IsRunOf client)
    (h' : next.IsRunOf mid) : next.IsRunOf client := by
  obtain ⟨moves, rfl⟩ := h
  obtain ⟨more, rfl⟩ := h'
  exact ⟨moves ++ more, (run_append client moves more).symm⟩

end Client
end Mqtt
