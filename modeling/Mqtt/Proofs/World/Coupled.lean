/-
# Worlds that answer alike

A relation between worlds is a coupling if related worlds have the same environment, and
if it is kept by whatever is done in both: writing down the same event, letting time pass,
going on with another environment.  So every question has the same answer in both and
leaves them related (`Coupling.steady_ask`).

That a connection opens is left out, since there related worlds may go on differently.
-/
import Mqtt.Proofs.Agree
import Mqtt.Proofs.World.Ran

namespace Mqtt
namespace World

open Mqtt.Action

variable {ω ε ε' α : Type} {P : World ω → World ω → Prop}

/-- Related worlds stay related if both write the event down. -/
def Records (P : World ω → World ω → Prop) (event : Event) : Prop :=
  ∀ w w', P w w' → P { w with history := ⟨w.clock, event⟩ :: w.history }
    { w' with history := ⟨w'.clock, event⟩ :: w'.history }

/-- Related worlds have the same environment, and stay related if the same is done in both,
as long as it opens no connection. -/
structure Coupling (P : World ω → World ω → Prop) : Prop where
  environment : ∀ {w w'}, P w w' → w'.environment = w.environment
  record : ∀ {event : Event}, event.isOpening = false → Records P event
  wait : ∀ {w w'} ms, P w w' →
    P { w with clock := w.clock + ms } { w' with clock := w'.clock + ms }
  become : ∀ {w w'} environment, P w w' → P { w with environment } { w' with environment }

/-- Writing an event down is steady where both worlds stay related by it. -/
theorem steady_record {event : Event} (records : Records P event) :
    Steady P (record event : Action ε (World ω) Unit) := fun w w' h =>
  .ok rfl (records w w' h)

namespace Coupling

variable (c : Coupling P)

include c

/-- Telling the log is steady, since it opens no connection. -/
theorem steady_notice (n : Notice) : Steady P (notice n : Action ε (World ω) Unit) :=
  steady_record (c.record rfl)

/-- A failure goes on under its other name in both. -/
theorem steady_orNotice {action : Action ε (World ω) α} (told : ε → Notice) (fault : ε')
    (h : Steady P action) : Steady P (orNotice action told fault) := by
  refine steady_bind (steady_attempt h) fun x => ?_
  cases x with
  | ok a => exact steady_pure a
  | error e => exact steady_bind (c.steady_notice _) fun _ => steady_throw fault

/-- Letting time pass is steady: the clock of each goes on by the same. -/
theorem steady_wait (ms : UInt32) :
    Steady P (modify fun world => { world with clock := world.clock + ms } :
      Action ε (World ω) PUnit) :=
  steady_modify fun _ _ h => c.wait ms h

/-- A change of the environment is steady if both go on with the same one. -/
theorem steady_become (environment : ω) :
    Steady P (modify fun world => { world with environment } : Action ε (World ω) PUnit) :=
  steady_modify fun _ _ h => c.become environment h

/-- **A question has the same answer in both.**  The environment answers, and related
worlds have the same. -/
theorem steady_ask (question : ω → Answer ω α) {event : α → Event}
    (records : ∀ a, Records P (event a)) :
    Steady P (ask question event : Action ε (World ω) α) := by
  intro w w' h
  have hanswer : question w'.environment = question w.environment := by rw [c.environment h]
  refine .ok (congrArg Answer.value hanswer.symm) ?_
  have hrecorded := records (question w.environment).value w w' h
  have hnext := c.become (question w.environment).next
    (c.wait (question w.environment).took hrecorded)
  rw [← hanswer] at hnext ⊢
  exact hnext

/-- A question that may fail is answered alike in both, for it is put to the same
environment. -/
theorem steady_demand (question : ω → Answer ω (Except ε α)) {event : Except ε α → Event}
    (records : ∀ x, Records P (event x)) :
    Steady P (demand question event : Action ε (World ω) α) :=
  steady_bind (c.steady_ask question records) steady_ofExcept

variable [Environment ω]

/-- Reading is steady: the same bytes come, or the same failure. -/
theorem steady_read (connection capacity : Nat) (timeout : UInt32) :
    Steady P (read connection capacity timeout : Action NetFault (World ω) (Chunk capacity)) :=
  c.steady_demand _ fun _ => c.record rfl

/-- Writing is steady: as many bytes are taken in both. -/
theorem steady_write (connection : Nat) (frame : List UInt8) :
    Steady P (write connection frame : Action NetFault (World ω) Nat) :=
  c.steady_demand _ fun _ => c.record rfl

/-- Flushing is steady. -/
theorem steady_flush (connection : Nat) :
    Steady P (flush connection : Action NetFault (World ω) Unit) :=
  c.steady_demand _ fun _ => c.record rfl

/-- Closing is steady. -/
theorem steady_close (connection : Nat) :
    Steady P (close connection : Action NetFault (World ω) Unit) :=
  c.steady_demand _ fun _ => c.record rfl

/-- Securing a connection is steady.  Both handshakes are accepted, or both refuse for the
same reason and close the connection. -/
theorem steady_secure (connection : Nat) (name : String) (settings : TlsSettings) :
    Steady P (secure connection name settings : Action String (World ω) Unit) := by
  refine steady_bind (c.steady_ask _ fun _ => c.record rfl) fun result => ?_
  cases result with
  | ok a => exact steady_pure _
  | error reason =>
    exact steady_bind (steady_attempt (c.steady_close connection)) fun _ => steady_throw _

/-- Starting a task is steady: it starts in both or in neither. -/
theorem steady_spawn (task : TaskSettings) :
    Steady P (spawn task : Action ε (World ω) Bool) :=
  c.steady_ask _ fun _ => c.record rfl

/-- Handing over a message is steady: the handler asks for the same calls. -/
theorem steady_deliver (topic : String) (payload : List UInt8) :
    Steady P (deliver topic payload : Action ε (World ω) Reaction) :=
  c.steady_ask _ fun _ => c.record rfl

end Coupling

end World
end Mqtt
