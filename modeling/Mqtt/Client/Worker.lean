/-
# The worker

The worker keeps a client's link up and acts on what the broker sends.  It works
in passes:

1. without a link, reconnect; if that fails, sleep for as long as the backoff
   says, in slices no longer than a poll;
2. do what the keep-alive timers call for;
3. forget the bytes held of a link that another one has replaced;
4. read;
5. dispatch every whole frame, and keep what remains.

It can stop in the middle of a pass: before the read (`receiving`), in a sleep
(`sleeping`), between two steps of a dispatch, or while the message handler waits
(`handling`).  `Worker.move` takes it from one such place to the next.
-/
import Mqtt.Client.Dispatch

namespace Mqtt
namespace Worker

variable {ω ε : Type} [Environment ω]

/-- Starts the next slice of a sleep; a client that has stopped running cuts it short. -/
def pause (running : Bool) (slice remaining : UInt32) : Action ε (Session ω) Phase := do
  if remaining = 0 || !running then return .ready
  let ms := min remaining (max slice 1)
  Session.onWorld (World.record (.sleep ms))
  return .sleeping ms (remaining - ms)

/-- Forgets the bytes of a link that another one has replaced. -/
def adoptLink (worker : Worker) : Action ε (Session ω) Worker := do
  let link := (← get).link
  if link = worker.origin.link then return worker
  if worker.held ≠ [] then Session.notice (.discarded worker.held.length)
  return { worker with held := [], origin.link := link }

/-- The part of a pass that follows once there is a link. -/
def service (worker : Worker) : Action ε (Session ω) Worker := do
  match ← Action.attempt (Session.serviceKeepAlive (← Session.now)) with
  | .error _ => return { worker with phase := .ready }
  | .ok () => return { ← adoptLink worker with phase := .receiving }

/-- The part of a pass before the read. -/
def pass (running : Bool) (worker : Worker) : Action ε (Session ω) Worker := do
  if (← get).isConnected then service worker
  else
    match ← Action.attempt Session.reconnect with
    | .ok () => service { worker with held := [], failures := 0 }
    | .error fault =>
      let settings := (← get).settings
      let delay := settings.backoff.delay worker.failures.toNat
      Session.notice (.reconnectFailed fault delay)
      return { worker with
        held := []
        failures := max worker.failures (worker.failures + 1)
        phase := ← pause running settings.pollTimeout delay }

/-- The read of a pass. -/
def receive (worker : Worker) : Action ε (Session ω) Worker := do
  let session ← get
  match ← Action.attempt
      (Session.receive (capacity - worker.held.length) session.settings.pollTimeout) with
  | .error _ =>
    Session.dropLink
    return { worker with phase := .ready }
  | .ok ⟨[], _⟩ => return { worker with phase := .ready }
  | .ok ⟨bytes, _⟩ =>
    return { worker with
      held := worker.held ++ bytes
      origin.connection := session.connection.getD worker.origin.connection
      phase := .ready
      errand := .cut }

/-- Goes on from where the worker is to the next place where it can stop. -/
def move (running : Bool) (worker : Worker) : Action ε (Session ω) Worker :=
  match worker.phase with
  | .receiving => worker.receive
  | .sleeping _ later => do
    let session ← get
    return { worker with phase := ← pause running session.settings.pollTimeout later }
  | .ready | .handling =>
    if h : worker.errand = .pass then worker.pass running
    else return (← worker.dispatch running h).val

/-- The worker that starts its pass again, if it waits to read. -/
def interrupted (worker : Worker) : Worker :=
  if worker.phase = .receiving then { worker with phase := .ready } else worker

/-- The worker that has slept for so many milliseconds, if it sleeps. -/
def rested (ms : UInt32) (worker : Worker) : Worker :=
  match worker.phase with
  | .sleeping rest later => { worker with phase := .sleeping (rest - ms) later }
  | _ => worker

/-- What a worker still does once its client has stopped running: the message
handler returns, and the rest of the buffer is dispatched. -/
def finish (worker : Worker) : Action ε (Session ω) Unit := do
  if h : worker.errand = .pass then return
  else
    let ⟨next, _⟩ ← worker.dispatch false h
    finish next
termination_by worker.work

end Worker
end Mqtt
