/-
# Calls to connect that fail

A call to connect can fail in two places: the session cannot be brought up, or the
worker's task cannot be started.  In both the session ends without a link, and the
worker is left as it was found (`failed_connect_run`).  So no worker is left behind
exactly if there was none before: one that waits to try again on its own goes on
waiting (`failed_connect_keeps_worker`).
-/
import Mqtt.Script
import Mqtt.Proofs.Client.Lifecycle

namespace Mqtt
namespace Client

open Mqtt.Action

variable {ω : Type}

/-- There is no worker, and no sign of one. -/
structure IsBare (client : Client ω) : Prop where
  running : client.running = false
  joinable : client.joinable = false
  worker : client.worker = none

/-- A serviced client is bare exactly if it has no worker, for then it does not run and
has no task to join. -/
theorem Serviced.isBare_iff {client : Client ω} (h : client.Serviced) :
    client.IsBare ↔ client.worker = none := by
  refine ⟨fun hbare => hbare.worker, fun hnone => ?_⟩
  have hjoin : client.joinable = false := by rw [← h.worker, hnone]; rfl
  exact ⟨h.running.trans hjoin, hjoin, hnone⟩

/-- A failed call to connect takes the link down and changes nothing else about the
client. -/
theorem eq_of_connecting {client next : Client ω} {fault : Fault} {es : List Event}
    (serviced : client.Serviced) (h : Connecting client (.error fault) es next) :
    next.session.connection = none ∧ next = { client with session := next.session } := by
  cases h with
  | unconnected hensure => exact ⟨hensure.down, rfl⟩
  | starting _ hjoin hstart =>
    have stopped : client.running = false := serviced.running.trans hjoin
    cases hstart with
    | failed _ hleave =>
      refine ⟨hleave.down, ?_⟩
      rw [← stopped]

variable [Environment ω]

/-- The client after a call, and what the call gives back. -/
def asked (client : Client ω) (call : Call) : Reply × Client ω :=
  Action.complete (perform call) client

/-- **A failed call to connect leaves the worker as it was.**  After any run, whatever
the environment answers: the session then has no link, the client runs and has a worker
exactly if it did before, and a worker that was waiting to read starts its pass again.
So nothing of a worker is left exactly if there was none. -/
theorem failed_connect_run (connector : Connector) (settings : Settings) (environment : ω)
    (clock : UInt32) (moves : List (Move ω)) {fault : Fault}
    (failed : (((start connector settings environment clock).run moves).asked .connect).1 =
      .failed fault) :
    let client := (start connector settings environment clock).run moves
    let next := (client.asked .connect).2
    next.session.isConnected = false ∧
      next.running = client.running ∧ next.joinable = client.joinable ∧
        next.worker = client.worker.map Worker.interrupted ∧
          (next.IsBare ↔ client.worker = none) := by
  intro client next
  have hserviced : client.Serviced := run_preserves Stepping.serviced moves
    (serviced_start connector settings environment clock)
  have hyields : Yields (perform .connect : Action Empty (Client ω) Reply) client
      (.ok (.failed fault)) next :=
    yields_iff_complete.2 ⟨congrArg Except.ok failed.symm, rfl⟩
  have hnext : next.Serviced := by
    obtain ⟨es, hes⟩ := stepping_of_perform hyields
    exact hes.serviced hserviced
  obtain ⟨x, hconnect, hreply⟩ := yields_perform_connect.1 hyields
  obtain ⟨es, hes⟩ := connecting_of_connect hconnect
  cases x with
  | ok a => cases hreply
  | error fault =>
    have hinterrupted : client.interrupted.Serviced :=
      ⟨hserviced.running, by simpa [interrupted] using hserviced.worker, hserviced.tasks,
        hserviced.link⟩
    obtain ⟨down, hsame⟩ := eq_of_connecting hinterrupted hes
    have hworker : next.worker = client.worker.map Worker.interrupted := congrArg (·.worker) hsame
    refine ⟨?_, congrArg (·.running) hsame, congrArg (·.joinable) hsame, hworker, ?_⟩
    · rw [Session.isConnected, down]
      rfl
    · rw [hnext.isBare_iff, hworker, Option.map_eq_none_iff]

/-- A broker that accepts one connection, breaks it, and refuses the next two. -/
def leaving : Script where
  attempts := [some [⟨0, some [0x20, 0x02, 0x00, 0x00]⟩, ⟨0, none⟩], none, none]

/-- The worker loses the link, fails to open a new one, and sleeps. -/
def losing : List (Move Script) :=
  [.call .connect, .proceed, .proceed, .proceed]

/-- There a call to connect fails while the worker sleeps. -/
theorem failed_connect_run_postponed :
    (((start .plain default leaving 0).run losing).asked .connect).1 = .failed .connectFailed ∧
      (((start .plain default leaving 0).run losing).asked .connect).2.session.isConnected =
          false ∧
        (((start .plain default leaving 0).run losing).asked .connect).2.running = true := by
  have failed : (((start .plain default leaving 0).run losing).asked .connect).1 =
      .failed .connectFailed := by decide +kernel
  have running : ((start .plain default leaving 0).run losing).running = true := by
    decide +kernel
  have h := failed_connect_run .plain default leaving 0 losing failed
  exact ⟨failed, h.1, h.2.1.trans running⟩

/-- It is not so that a failed call to connect leaves no worker: it leaves this one. -/
theorem failed_connect_keeps_worker :
    ¬ ∀ (moves : List (Move Script)) (fault : Fault),
      let client := (start .plain default leaving 0).run moves
      (client.asked .connect).1 = .failed fault →
        (client.asked .connect).2.session.isConnected = false ∧
          (client.asked .connect).2.IsBare := by
  intro bare
  have failed : (((start .plain default leaving 0).run losing).asked .connect).1 =
      .failed .connectFailed := by decide +kernel
  have alive : (((start .plain default leaving 0).run losing).asked .connect).2.worker ≠ none := by
    decide +kernel
  exact alive (bare losing _ failed).2.worker

end Client
end Mqtt
