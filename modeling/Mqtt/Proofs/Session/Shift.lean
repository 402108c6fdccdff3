/-
# Sessions with another clock

Two sessions are shifted against each other if their worlds are, and if what they
remember of the time is: the readings that the keep-alive timers keep.  A session that
was never connected keeps none, its timers start at 0 whatever the clock says; so timers
are compared only while there is a link, and every link starts by setting them.

No operation can tell such sessions apart, since each compares readings of the clock
only by the time between them (`elapsed_add_add`).
-/
import Mqtt.Client.Answer
import Mqtt.Proofs.Session.Coupled
import Mqtt.Proofs.World.Shift

namespace Mqtt

open Mqtt.Action

namespace KeepAlive

/-- Timers that were set at times shifted by an offset. -/
def shifted (offset : UInt32) (k : KeepAlive) : KeepAlive :=
  { k with heardAt := k.heardAt + offset, pingedAt := k.pingedAt + offset }

/-- What the timers call for depends on the time since they were set and not on the
reading itself, so it is the same at a shifted clock. -/
theorem due_shifted (k : KeepAlive) (now offset : UInt32) :
    (k.shifted offset).due (now + offset) = k.due now := by
  simp only [due, shifted, elapsed_add_add]

/-- Timers with the same interval are shifted once they are started. -/
theorem reset_shifted {k k' : KeepAlive} (interval : k'.interval = k.interval)
    (now offset : UInt32) : k'.reset (now + offset) = (k.reset now).shifted offset := by
  simp only [reset, shifted, interval]

/-- A ping that is noted at a shifted reading leaves timers shifted likewise. -/
theorem pinged_shifted (k : KeepAlive) (now offset : UInt32) :
    (k.shifted offset).pinged (now + offset) = (k.pinged now).shifted offset := rfl

/-- An answer that is noted at a shifted reading leaves timers shifted likewise. -/
theorem ponged_shifted (k : KeepAlive) (now offset : UInt32) :
    (k.shifted offset).ponged (now + offset) = (k.ponged now).shifted offset := rfl

end KeepAlive

namespace Session

variable {ω ε α : Type} {offset : UInt32}

/-- The second session is the first with its clock ahead by an offset. -/
structure Shifted (offset : UInt32) (s t : Session ω) : Prop where
  /-- The worlds are shifted against each other. -/
  world : s.world.Shifted offset t.world
  interval : t.keepAlive.interval = s.keepAlive.interval
  /-- The timers are shifted with the clock while a link is up; without one nobody reads
  them. -/
  timers : s.isConnected = true → t.keepAlive = s.keepAlive.shifted offset
  /-- All else is the same. -/
  rest : t = { s with world := t.world, keepAlive := t.keepAlive }

namespace Shifted

variable {s t : Session ω}

/-- Sessions that are shifted open connections in the same way. -/
theorem connector (h : s.Shifted offset t) : t.connector = s.connector := by rw [h.rest]

/-- Sessions that are shifted have the same settings. -/
theorem settings (h : s.Shifted offset t) : t.settings = s.settings := by rw [h.rest]

/-- Sessions that are shifted use the same connection, or both have none. -/
theorem connection (h : s.Shifted offset t) : t.connection = s.connection := by rw [h.rest]

/-- Sessions that are shifted count the same links. -/
theorem link (h : s.Shifted offset t) : t.link = s.link := by rw [h.rest]

/-- Sessions that are shifted are both connected or both not. -/
theorem isConnected (h : s.Shifted offset t) : t.isConnected = s.isConnected := by
  rw [Session.isConnected, h.connection, Session.isConnected]

/-- Timers that both set from shifted timers and a reading of the clock stay shifted. -/
theorem retimed (f : KeepAlive → UInt32 → KeepAlive)
    (interval : ∀ k now, (f k now).interval = k.interval)
    (shifted : ∀ k now, f (k.shifted offset) (now + offset) = (f k now).shifted offset)
    (h : s.Shifted offset t) (now : UInt32) :
    Shifted offset { s with keepAlive := f s.keepAlive now }
      { t with keepAlive := f t.keepAlive (now + offset) } where
  world := h.world
  interval := by
    show (f t.keepAlive (now + offset)).interval = (f s.keepAlive now).interval
    rw [interval, interval, h.interval]
  timers up := by
    show f t.keepAlive (now + offset) = (f s.keepAlive now).shifted offset
    rw [h.timers up, shifted]
  rest := by rw [h.rest]

/-- Starting the timers sets them whatever they were. -/
theorem restarted (h : s.Shifted offset t) :
    t.keepAlive.reset t.world.clock = (s.keepAlive.reset s.world.clock).shifted offset := by
  rw [h.world.clock]
  exact KeepAlive.reset_shifted h.interval _ _

/-- **A session cannot tell what the clock says.**  It keeps readings only in the
timers, and these are shifted with it. -/
theorem coupling [Environment ω] :
    Coupling (· + offset) (World.Shifted offset)
      (Shifted offset : Session ω → Session ω → Prop) where
  worlds := World.Shifted.coupling
  clock h := h.clock
  elapsed now since := elapsed_add_add now since offset
  world h := h.world
  rest h := by rw [h.rest]
  onWorld h hw := ⟨hw, h.interval, h.timers, by rw [h.rest]⟩
  identified _ h := ⟨h.world, h.interval, h.timers, by rw [h.rest]⟩
  recorded _ h := ⟨h.world, h.interval, h.timers, by rw [h.rest]⟩
  dropped h := ⟨h.world, h.interval, nofun, by rw [h.rest]⟩
  raised _ _ h := ⟨h.world, h.interval, fun _ => h.restarted, by rw [h.rest]⟩
  restarted h := ⟨h.world, h.interval, fun _ => h.restarted, by rw [h.rest]⟩
  pinged now h := h.retimed .pinged (fun _ _ => rfl) (fun k now => k.pinged_shifted now _) now
  ponged now h := h.retimed .ponged (fun _ _ => rfl) (fun k now => k.ponged_shifted now _) now
  dialed h tcpPort timeout := by
    rw [h.connector]
    exact World.Shifted.coupling.steady_orNotice _ _ (Connector.steady_dial _ _ _ _) _ _ h.world

end Shifted

variable [Environment ω]

/-- **The timers of a link call for the same at the same time after they were set.** -/
theorem agree_serviceKeepAlive (time : UInt32) {s t : Session ω} (up : s.isConnected = true)
    (h : s.Shifted offset t) :
    Agree (Shifted offset) (· = ·) (serviceKeepAlive time) s
      (serviceKeepAlive (time + offset)) t :=
  Shifted.coupling.agree_serviceKeepAlive time
    (by rw [h.timers up, KeepAlive.due_shifted]) h

/-- Connecting unless connected goes the same whatever the clock says. -/
theorem steady_ensureConnected :
    Steady (Shifted offset) (ensureConnected : Action Fault (Session ω) Unit) := by
  refine steady_get_bind (fun s t h => by simp only [h.isConnected]) fun s => ?_
  split
  case isTrue => exact steady_pure _
  case isFalse => exact Shifted.coupling.steady_reconnect

omit [Environment ω] in
/-- The reply to a call is the same whatever the clock says, if the call goes the same. -/
theorem steady_replyTo {action : Action Fault (Session ω) Unit}
    (h : Steady (Shifted offset) action) :
    Steady (Shifted offset) (replyTo action : Action ε (Session ω) Reply) :=
  steady_map _ (steady_attempt h)

/-- **A call gives the same back in both**, unless it asks for the client as it is shown. -/
theorem agree_answer (running : Bool) (call : Call) {s t : Session ω} (h : s.Shifted offset t) :
    Agree (Shifted offset) (fun x y => call ≠ .describe → x = y)
      (answer running call : Action ε (Session ω) Reply) s (answer running call) t := by
  have weaken : ∀ {action : Action ε (Session ω) Reply}, Steady (Shifted offset) action →
      Agree (Shifted offset) (fun x y => call ≠ .describe → x = y) action s action t :=
    fun steady => (steady s t h).mono fun same _ => same
  cases call with
  | connect =>
    cases running with
    | true => exact weaken (steady_replyTo steady_ensureConnected)
    | false => exact weaken (steady_replyTo (steady_throw _))
  | publish topic payload level =>
    exact weaken (steady_replyTo (steady_bind (steady_ofExcept _) fun qos =>
      Shifted.coupling.steady_publish topic payload qos))
  | subscribe filter level =>
    exact weaken (steady_replyTo (steady_bind (steady_ofExcept _) fun qos =>
      steady_bind (Shifted.coupling.steady_subscribe filter qos) fun _ => steady_pure _))
  | state =>
    exact weaken (steady_get_bind (fun s t h => by simp only [stateText, h.isConnected])
      fun s => steady_pure _)
  | describe => exact agree_get_bind (agree_pure (fun other => absurd rfl other) h)

end Session
end Mqtt
