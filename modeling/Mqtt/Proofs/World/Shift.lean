/-
# Worlds with another clock

A world is shifted against another if its clock is ahead of the other's by a fixed
offset, wrapping, and if it is otherwise the same: the same environment, and a history
of the same events, each at a time shifted likewise.  An environment is never told the
time, so questions have the same answers in both and keep them shifted.

One event can tell them apart: the reply to a call that shows the client, for what is
shown has readings of the clock in it.  Histories are compared without it (`Event.blank`).
-/
import Mqtt.Connector
import Mqtt.Proofs.World.Coupled

namespace Mqtt

/-- The event without what a call of the message handler was shown. -/
def Event.blank : Event → Event
  | .reaction .describe _ => .reaction .describe (.text "")
  | event => event

/-- An event at a time shifted by an offset. -/
def Stamped.shifted (offset : UInt32) (stamped : Stamped) : Stamped :=
  ⟨stamped.time + offset, stamped.event.blank⟩

namespace World

open Mqtt.Action

variable {ω ε ε' α : Type} {offset : UInt32}

/-- The second world is the first with its clock ahead by an offset. -/
structure Shifted (offset : UInt32) (w w' : World ω) : Prop where
  environment : w'.environment = w.environment
  clock : w'.clock = w.clock + offset
  opened : w'.opened = w.opened
  history : w'.history.map (·.shifted 0) = w.history.map (·.shifted offset)

namespace Shifted

variable {w w' : World ω}

/-- Without what calls were shown, the same was done in both. -/
theorem events (h : w.Shifted offset w') :
    w'.events.map Event.blank = w.events.map Event.blank := by
  have hblank : ∀ (v : World ω) (ms : UInt32), v.events.map Event.blank =
      (v.history.map (·.shifted ms)).reverse.map (·.event) := by
    intro v ms
    simp [World.events, Stamped.shifted]
  rw [hblank w' 0, hblank w offset, h.history]

/-- Both worlds write an event down, which may differ in what it was shown. -/
theorem record {event event' : Event} (h : w.Shifted offset w')
    (same : event'.blank = event.blank) :
    Shifted offset { w with history := ⟨w.clock, event⟩ :: w.history }
      { w' with history := ⟨w'.clock, event'⟩ :: w'.history } where
  environment := h.environment
  clock := h.clock
  opened := h.opened
  history := by
    simp only [List.map_cons, List.cons.injEq]
    exact ⟨by simp [Stamped.shifted, h.clock, same], h.history⟩

/-- Time passes in both. -/
theorem wait (h : w.Shifted offset w') (ms : UInt32) :
    Shifted offset { w with clock := w.clock + ms } { w' with clock := w'.clock + ms } where
  environment := h.environment
  clock := by
    show w'.clock + ms = w.clock + ms + offset
    rw [h.clock, UInt32.add_assoc, UInt32.add_comm offset, UInt32.add_assoc]
  opened := h.opened
  history := h.history

/-- Both environments become the same. -/
theorem become (h : w.Shifted offset w') (environment : ω) :
    Shifted offset { w with environment } { w' with environment } :=
  ⟨rfl, h.clock, h.opened, h.history⟩

end Shifted

/-- Any event can be written down in both worlds, each at its own clock's reading. -/
theorem Shifted.records (event : Event) :
    Records (Shifted offset : World ω → World ω → Prop) event :=
  fun _ _ h => h.record rfl

/-- **Worlds do not see what their clock says.**  The environment is not told it, and
events are written down at it without being read again. -/
theorem Shifted.coupling : Coupling (Shifted offset : World ω → World ω → Prop) where
  environment h := h.environment
  record _ := Shifted.records _
  wait ms h := h.wait ms
  become environment h := h.become environment

/-- The worlds may write down different events, if these differ only in what a call was
shown. -/
theorem agree_record {event event' : Event} {w w' : World ω} (h : w.Shifted offset w')
    (same : event'.blank = event.blank) :
    Agree (Shifted offset) (· = ·) (record event : Action ε (World ω) Unit) w (record event') w' :=
  .ok rfl (h.record same)

/-- Opening a connection goes alike at any clock, and it gets the same number. -/
theorem steady_connect [Environment ω] (host : String) (tcpPort : UInt16) (timeout : UInt32) :
    Steady (Shifted offset) (connect host tcpPort timeout : Action NetFault (World ω) Nat) := by
  refine steady_bind (Shifted.coupling.steady_demand _ fun _ => Shifted.records _) fun _ => ?_
  refine steady_bind (steady_modify fun w w' h => ?_) fun _ => ?_
  · exact ⟨h.environment, h.clock, congrArg (· + 1) h.opened, h.history⟩
  · exact steady_get_bind (fun _ _ h => by rw [h.opened]) fun _ => steady_pure _

end World

namespace Connector

open Mqtt.Action

variable {ω : Type} [Environment ω] {offset : UInt32}

/-- Dialing goes alike at any clock, with or without a handshake. -/
theorem steady_dial (connector : Connector) (host : String) (tcpPort : UInt16) (timeout : UInt32) :
    Steady (World.Shifted offset)
      (connector.dial host tcpPort timeout : Action NetFault (World ω) Nat) := by
  cases connector with
  | plain => exact World.steady_connect host tcpPort timeout
  | tls settings =>
    refine steady_bind (World.Shifted.coupling.steady_orNotice _ _
      (World.steady_connect _ _ _)) fun connection => ?_
    refine steady_bind (World.Shifted.coupling.steady_orNotice _ _
      (World.Shifted.coupling.steady_secure _ _ _)) fun _ => ?_
    exact steady_pure connection

end Connector
end Mqtt
