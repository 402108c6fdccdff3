/-
# The life of a client

What holds of a client after any run, whatever its environment answers: the
conversation over each connection keeps to the grammar of the protocol
(`orderly_run`), and there is a worker exactly while the client runs, never two,
and never a link without one (`serviced_run`).

The session alone cannot say whether a client runs, so the second invariant is of
the client (`Serviced`).  What carries it is that only two steps of a session
matter: opening a link, which calls do only while the client runs, and starting or
joining a task, which no step of a worker does.
-/
import Mqtt.Proofs.Client.Run
import Mqtt.Proofs.Session.Tidy

namespace Mqtt

/-- How many tasks were started. -/
def spawns (events : List Event) : Nat :=
  events.countP fun
    | .spawn _ true => true
    | _ => false

/-- How many tasks were joined. -/
def joins (events : List Event) : Nat :=
  events.countP fun
    | .join => true
    | _ => false

/-- Tasks started in two stretches of a history add up. -/
@[simp] theorem spawns_append (es fs : List Event) : spawns (es ++ fs) = spawns es + spawns fs :=
  List.countP_append

/-- Tasks joined in two stretches of a history add up. -/
@[simp] theorem joins_append (es fs : List Event) : joins (es ++ fs) = joins es + joins fs :=
  List.countP_append

/-- No task is started or joined. -/
def Taskless (es : List Event) : Prop :=
  ∀ e ∈ es, e ≠ .join ∧ ∀ task started, e ≠ .spawn task started

namespace Taskless

variable {es fs : List Event}

/-- Two stretches without a task are without one together. -/
theorem append (h : Taskless es) (h' : Taskless fs) : Taskless (es ++ fs) := fun e he =>
  (List.mem_append.1 he).elim (h e) (h' e)

/-- Without a task none is started. -/
theorem spawns (h : Taskless es) : spawns es = 0 := by
  refine List.countP_eq_zero.2 fun e he hspawn => ?_
  have hno := h e he
  cases e <;> simp_all

/-- Without a task none is joined. -/
theorem joins (h : Taskless es) : joins es = 0 := by
  refine List.countP_eq_zero.2 fun e he hjoin => ?_
  have hno := h e he
  cases e <;> simp_all

end Taskless

namespace Session

variable {ω : Type}

/-- The steps of a worker start and join no task. -/
theorem Step.taskless {running : Bool} {d : Doing} {s t : Session ω} {es : List Event}
    (work : d.isWork running = true) (h : Step d s es t) : Taskless es := by
  intro e he
  rcases h.plain e he with hplain | htold
  · cases e <;> first | cases hplain; done | simp
  · rw [htold] at work
    cases e <;> first | cases work; done | simp

/-- A worker neither starts nor joins tasks, and neither does a session: it is the client
that does. -/
theorem Path.taskless {running : Bool} {s t : Session ω} {es : List Event}
    (h : Path (Doing.isWork running ·) s es t) : Taskless es := by
  induction h with
  | refl => simp [Taskless]
  | snoc _ work step ih => exact ih.append (step.taskless work)

/-- Without a client that runs, a session stays without a link. -/
theorem Path.stays_down {s t : Session ω} {es : List Event}
    (h : Path (Doing.isWork false ·) s es t) (down : s.connection = none) : t.connection = none := by
  have keep : ∀ {d : Doing} {s t : Session ω} {es : List Event}, d.isWork false = true →
      s.connection = none → Step d s es t → t.connection = none := by
    intro d s t es work down step
    cases step with
    | tuned _ hdid => exact hdid.connection.trans down
    | kept _ hdid => exact hdid.connection.trans down
    | timed _ hdid => exact hdid.connection.trans down
    | told _ hdid => exact hdid.connection.trans down
    | heard up => exact nomatch up.symm.trans down
    | sent _ _ up => exact nomatch up.symm.trans down
    | broken _ _ up => exact nomatch up.symm.trans down
    | left _ up => exact nomatch up.symm.trans down
    | dropped up => exact nomatch up.symm.trans down
    | raised => cases work
  exact h.preserves keep down

/-- Leaving neither starts nor joins a task. -/
theorem Leaving.taskless {s t : Session ω} {es : List Event} (h : Leaving s es t) :
    Taskless es := by
  have hpath : Path (Doing.isCall false ·) s es t := h.path
  exact (Worker.path_of_isCall hpath).taskless

/-- A session that has ended has no link. -/
theorem Leaving.down {s t : Session ω} {es : List Event} (h : Leaving s es t) :
    t.connection = none := by
  cases h with
  | nothing down => exact down
  | left _ _ hdrop hdid => exact hdid.connection.trans hdrop.down

end Session

namespace Client

variable {ω : Type}

/-- There is a worker exactly while the client runs, and a link only then. -/
structure Serviced (client : Client ω) : Prop where
  /-- The client says that it runs exactly while there is a worker to join. -/
  running : client.running = client.joinable
  /-- There is a worker then and only then. -/
  worker : client.worker.isSome = client.joinable
  /-- Every worker that was spawned has been joined, but for the one there is. -/
  tasks : spawns client.events = joins client.events + if client.joinable = true then 1 else 0
  /-- There is no link without a worker that reads it. -/
  link : client.session.isConnected = true → client.running = true

/-- A move that starts and joins no task, and leaves the flags and the worker in their
place, keeps a client serviced. -/
theorem Serviced.same {client next : Client ω} {es : List Event} (h : client.Serviced)
    (events : next.events = client.events ++ es) (taskless : Taskless es)
    (running : next.running = client.running) (joinable : next.joinable = client.joinable)
    (worker : next.worker.isSome = client.worker.isSome)
    (link : next.session.isConnected = true → client.running = true) : next.Serviced where
  running := by rw [running, joinable, h.running]
  worker := by rw [worker, joinable, h.worker]
  tasks := by
    rw [events, spawns_append, joins_append, taskless.spawns, taskless.joins, joinable, h.tasks]
    omega
  link hup := by rw [running]; exact link hup

/-- A serviced client that does not run has no link. -/
theorem Serviced.down {client : Client ω} (h : client.Serviced) (stopped : client.running = false) :
    client.session.connection = none := by
  cases hc : client.session.connection with
  | none => rfl
  | some c =>
    have hup := h.link (by rw [Session.isConnected, hc]; rfl)
    rw [stopped] at hup
    cases hup

/-- A serviced client that has a worker runs. -/
theorem Serviced.running_of_worker {client : Client ω} {worker : Worker} (h : client.Serviced)
    (hworker : client.worker = some worker) : client.running = true := by
  rw [h.running, ← h.worker, hworker]
  rfl

/-- A client without a worker has one once it has started it, and no link if it
could not. -/
theorem serviced_of_starting {client next : Client ω} {r : Except Fault Unit} {es : List Event}
    (alone : client.joinable = false) (worker : client.worker.isSome = client.joinable)
    (tasks : spawns client.events = joins client.events) (hstart : Starting client r es next) :
    next.Serviced := by
  have events : next.events = client.events ++ es := hstart.path.ran.events
  cases hstart with
  | started hdid =>
    refine ⟨rfl, rfl, ?_, fun _ => rfl⟩
    rw [events, spawns_append, joins_append, tasks]
    rfl
  | @failed task es _ _ hdid hleave =>
    refine ⟨alone.symm, worker, ?_, fun hup => ?_⟩
    · have hspawns : spawns (.spawn task false :: .notice .workerNotStarted :: es) = 0 :=
        hleave.taskless.spawns
      have hjoins : joins (.spawn task false :: .notice .workerNotStarted :: es) = 0 :=
        hleave.taskless.joins
      rw [events, spawns_append, joins_append, tasks, hspawns, hjoins]
      simp [alone]
    · rw [Session.isConnected, hleave.down] at hup
      cases hup

/-- Connecting keeps a client serviced.  Where the session is connected and no task runs
yet, one is started, and if it does not start the link is given up again. -/
theorem serviced_of_connecting {client next : Client ω} {r : Except Fault Unit} {es : List Event}
    (h : client.Serviced) (hconnect : Connecting client r es next) : next.Serviced := by
  have hevents : next.events = client.events ++ es := hconnect.path.ran.events
  cases hconnect with
  | unconnected hensure =>
    refine h.same hevents (Worker.path_of_isCall hensure.path).taskless rfl rfl rfl fun hup => ?_
    simp [Session.isConnected, hensure.down] at hup
  | serviced hensure hjoin =>
    exact h.same hevents (Worker.path_of_isCall hensure.path).taskless rfl rfl rfl fun _ =>
      h.running.trans hjoin
  | @starting _ es _ t _ hensure hjoin hstart =>
    have hmid : t.world.events = client.events ++ es := hensure.path.ran.events
    have hquiet : Taskless es := (Worker.path_of_isCall hensure.path).taskless
    have htasks := h.tasks
    simp only [hjoin, Bool.false_eq_true, if_false] at htasks
    refine serviced_of_starting (by exact hjoin) (by exact h.worker) ?_ hstart
    rw [Client.events, hmid, spawns_append, joins_append, hquiet.spawns, hquiet.joins, htasks]

/-- Disconnecting keeps a client serviced: the link goes, the worker ends and its task is
joined. -/
theorem serviced_of_disconnecting {client next : Client ω} {es : List Event}
    (h : client.Serviced) (hdisconnect : Disconnecting client es next) : next.Serviced := by
  have hevents : next.events = client.events ++ es := hdisconnect.path.ran.events
  cases hdisconnect with
  | alone hleave hjoin =>
    have hstopped : client.running = false := h.running.trans hjoin
    refine h.same hevents hleave.taskless hstopped.symm rfl rfl fun hup => ?_
    rw [Session.isConnected, hleave.down] at hup
    cases hup
  | joined hleave hjoin hend hdid =>
    refine ⟨rfl, rfl, ?_, fun hup => ?_⟩
    · have htasks := h.tasks
      rw [if_pos hjoin] at htasks
      have hquiet := hleave.taskless.append hend.path.taskless
      rw [hevents, spawns_append, joins_append, spawns_append, joins_append, hquiet.spawns,
        hquiet.joins, htasks]
      rfl
    · have hdown := hend.path.stays_down hleave.down
      rw [Session.isConnected, hdid.connection, hdown] at hup
      cases hup

/-- **Every move keeps a client serviced.**  Tasks are started by a call to connect and
joined by one to disconnect, and these set the flags in the same move. -/
theorem Stepping.serviced {client next : Client ω} {move : Move ω} {es : List Event}
    (h : client.Serviced) (hstep : Stepping client move es next) : next.Serviced := by
  have hevents := hstep.events
  cases hstep with
  | connected hconnect =>
    have hsame : client.interrupted.Serviced :=
      h.same (List.append_nil _).symm (by simp [Taskless]) rfl rfl (by simp [interrupted]) h.link
    exact serviced_of_connecting hsame hconnect
  | answered _ hcall =>
    refine h.same hevents (Worker.path_of_isCall hcall.path).taskless rfl rfl
      (by simp [interrupted]) fun hup => ?_
    -- A call can bring up a link only while the client runs.
    cases hrun : client.running with
    | true => rfl
    | false =>
      rw [hrun] at hcall
      have hdown := (Worker.path_of_isCall hcall.path).stays_down (h.down hrun)
      simp [Session.isConnected, hdown] at hup
  | disconnected hdisconnect => exact serviced_of_disconnecting h hdisconnect
  | moved hworker hrun hmove =>
    exact h.same hevents hmove.path.taskless rfl rfl (by simp [hworker]) fun _ => hrun
  | ended hrun hend =>
    have hnone : client.worker = none := by
      have hworker := h.worker
      rw [← h.running, hrun] at hworker
      simpa using hworker
    rw [hnone] at hend
    cases hend with
    | none => exact h.same hevents (by simp [Taskless]) rfl rfl (by rw [hnone]) h.link
  | idle hnone => exact h
  | waited ms hdid =>
    refine h.same hevents (by simp [Taskless]) rfl rfl (by simp) fun hup => h.link ?_
    rw [Session.isConnected, hdid.connection] at hup
    exact hup
  | became _ hdid =>
    refine h.same hevents (by simp [Taskless]) rfl rfl rfl fun hup => h.link ?_
    rw [Session.isConnected, hdid.connection] at hup
    exact hup

/-- A move that is not the worker's own starts a new worker, or ends the one there is, or
leaves of it all that neither an interruption nor time changes. -/
theorem Stepping.worker_map {α : Type} {f : Worker → α} (interrupted : ∀ w, f w.interrupted = f w)
    (rested : ∀ (ms : UInt32) (w : Worker), f (w.rested ms) = f w) {client next : Client ω}
    {move : Move ω} {es : List Event} (serviced : client.Serviced)
    (h : Stepping client move es next) (other : move ≠ .proceed) :
    (client.worker = none ∧ next.worker = some {}) ∨
      (move = .disconnect ∧ next.worker = none) ∨ next.worker.map f = client.worker.map f := by
  have mapped : ∀ {g : Worker → Worker}, (∀ w, f (g w) = f w) →
      (client.worker.map g).map f = client.worker.map f := by
    intro g hg
    cases client.worker with
    | none => rfl
    | some worker => exact congrArg some (hg worker)
  cases h with
  | connected hconnect =>
    cases hconnect with
    | unconnected => exact .inr (.inr (mapped interrupted))
    | serviced => exact .inr (.inr (mapped interrupted))
    | starting _ hjoin hstart =>
      cases hstart with
      | started =>
        have hnone := serviced.worker
        rw [show client.joinable = false from hjoin] at hnone
        exact .inl ⟨by simpa using hnone, rfl⟩
      | failed => exact .inr (.inr (mapped interrupted))
  | answered => exact .inr (.inr (mapped interrupted))
  | disconnected hdisconnect =>
    cases hdisconnect with
    | alone => exact .inr (.inr rfl)
    | joined => exact .inr (.inl ⟨rfl, rfl⟩)
  | moved => exact absurd rfl other
  | ended => exact absurd rfl other
  | idle => exact absurd rfl other
  | waited ms => exact .inr (.inr (mapped (rested ms)))
  | became => exact .inr (.inr rfl)

/-- A client that has done nothing yet is serviced. -/
theorem serviced_start (connector : Connector) (settings : Settings) (environment : ω)
    (clock : UInt32) : (start connector settings environment clock).Serviced where
  running := rfl
  worker := rfl
  tasks := rfl
  link hup := nomatch hup

variable [Environment ω]

/-- **A client is always serviced.**  After any run, whatever the environment
answers: the client runs exactly if it holds the handle of a worker, and exactly if
that worker lives; as many tasks were joined as were started, but for the one that
lives; and there is a link only while the client runs. -/
theorem serviced_run (connector : Connector) (settings : Settings) (environment : ω)
    (clock : UInt32) (moves : List (Move ω)) :
    let client := (start connector settings environment clock).run moves
    client.running = client.joinable ∧ client.running = client.worker.isSome ∧
      spawns client.events = joins client.events + (if client.running = true then 1 else 0) ∧
        (client.session.isConnected = true → client.running = true) := by
  have h := run_preserves Stepping.serviced moves
    (serviced_start connector settings environment clock)
  refine ⟨h.running, h.running.trans h.worker.symm, ?_, h.link⟩
  rw [h.running]
  exact h.tasks

/-- **Every conversation is orderly.**  After any run, whatever the environment
answers, what was done to each connection keeps to the grammar of the protocol. -/
theorem orderly_run (connector : Connector) (settings : Settings) (environment : ω)
    (clock : UInt32) (moves : List (Move ω)) (c : Nat) :
    Orderly (conversation c ((start connector settings environment clock).run moves).events) := by
  have keep : ∀ {client next : Client ω} {move : Move ω} {es : List Event}, client.session.Tidy →
      Stepping client move es next → next.session.Tidy := fun h hstep => hstep.path.tidy h
  exact (run_preserves keep moves
    (Session.tidy_new connector settings environment clock)).orderly c

end Client
end Mqtt
