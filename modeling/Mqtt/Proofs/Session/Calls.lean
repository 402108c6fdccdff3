/-
# What a call adds to the history

The ways in which a call can go that concerns the session alone (`Calling`): connecting
unless there is a link (`Ensuring`), publishing, subscribing, or only asking what the
session shows.  Each is a run of the session's steps, and none of them opens a link
unless the client runs (`Calling.path`).

The same calls are made by the program and by the message handler, so they are taken
apart here once, and both are told from the ways there are.
-/
import Mqtt.Proofs.Session.Path

namespace Mqtt
namespace Session

open Mqtt.Action

variable {ω ε : Type}

/-- How connecting goes, unless there is a link already. -/
inductive Ensuring (s : Session ω) : Except Fault Unit → List Event → Session ω → Prop
  /-- A link that is up is left alone. -/
  | linked : s.isConnected = true → Ensuring s (.ok ()) [] s
  /-- Without one, the session reconnects. -/
  | reconnected {r : Except Fault Unit} {es : List Event} {t : Session ω} : s.connection = none →
      Reconnecting s r es t → Ensuring s r es t

/-- How a call goes, and what it gives back. -/
inductive Calling (running : Bool) (s : Session ω) :
    Call → Reply → List Event → Session ω → Prop
  /-- From inside a worker that runs, `connect` only makes sure of the link. -/
  | connected {r : Except Fault Unit} {es : List Event} {t : Session ω} : running = true →
      Ensuring s r es t → Calling running s .connect (.ofExcept r) es t
  /-- A worker that was told to stop is not started again from inside. -/
  | notRunning : running = false → Calling running s .connect (.failed .notConnected) [] s
  /-- The byte for the quality of service is one, so the message is published. -/
  | published {topic : String} {payload : List UInt8} {level : UInt8} {qos : QoS}
      {r : Except Fault Unit} {es : List Event} {t : Session ω} : QoS.ofByte level = .ok qos →
      Publishing topic payload qos s r es t →
      Calling running s (.publish topic payload level) (.ofExcept r) es t
  /-- It is none, and the session is not even looked at. -/
  | unpublished {topic : String} {payload : List UInt8} {level : UInt8} {fault : Fault} :
      QoS.ofByte level = .error fault →
      Calling running s (.publish topic payload level) (.failed fault) [] s
  /-- The filter is subscribed; what became of the entry is not told. -/
  | subscribed {filter : String} {level : UInt8} {qos : QoS} {r : Except Fault Recorded}
      {es : List Event} {t : Session ω} : QoS.ofByte level = .ok qos →
      Subscribing filter qos s r es t →
      Calling running s (.subscribe filter level) (.ofExcept (r.map fun _ => ())) es t
  /-- The byte for the quality of service is none. -/
  | unsubscribed {filter : String} {level : UInt8} {fault : Fault} :
      QoS.ofByte level = .error fault →
      Calling running s (.subscribe filter level) (.failed fault) [] s
  /-- Asking for the state changes nothing. -/
  | shown {call : Call} (text : String) : call = .state ∨ call = .describe →
      Calling running s call (.text text) [] s

/-- A failed attempt to connect leaves the session without a link. -/
theorem Reconnecting.down {fault : Fault} {es : List Event} {s t : Session ω}
    (h : Reconnecting s (.error fault) es t) : t.connection = none := by
  cases h with
  | unopened _ hnone hopen =>
    cases hopen with
    | refused _ hdid => rw [hdid.connection, hnone]
    | failed _ _ _ hdid => rw [hdid.connection, hnone]
  | abandoned _ _ _ _ _ _ hdid => exact hdid.connection

/-- A session that could not be connected has no link. -/
theorem Ensuring.down {fault : Fault} {es : List Event} {s t : Session ω}
    (h : Ensuring s (.error fault) es t) : t.connection = none := by
  cases h with
  | reconnected _ hreconnect => exact hreconnect.down

/-- Connecting, or finding the session connected, is a run of steps that a call of a
running client may take. -/
theorem Ensuring.path {r : Except Fault Unit} {es : List Event} {s t : Session ω}
    (h : Ensuring s r es t) : Path (Doing.isCall true ·) s es t := by
  cases h with
  | linked => exact .refl _
  | reconnected _ hreconnect => exact hreconnect.path

/-- **Calls are runs of steps.**  Without a worker that runs, none of them opens a link. -/
theorem Calling.path {running : Bool} {call : Call} {reply : Reply} {es : List Event}
    {s t : Session ω} (h : Calling running s call reply es t) :
    Path (Doing.isCall running ·) s es t := by
  cases h with
  | connected hrun hensure => exact hrun ▸ hensure.path
  | notRunning => exact .refl _
  | published _ hpublish => exact hpublish.path
  | unpublished => exact .refl _
  | subscribed _ hsubscribe => exact hsubscribe.path
  | unsubscribed => exact .refl _
  | shown => exact .refl _

variable [Environment ω]

/-- Connecting unless connected goes in one of the ways of `Ensuring`. -/
theorem ensuring_of_ensureConnected {r : Except Fault Unit} {s t : Session ω}
    (h : Yields ensureConnected s r t) : ∃ es, Ensuring s r es t := by
  rw [ensureConnected, yields_get_bind] at h
  split at h
  case isTrue hup =>
    obtain ⟨rfl, rfl⟩ := yields_pure.1 h
    exact ⟨_, .linked hup⟩
  case isFalse hdown =>
    obtain ⟨es, hes⟩ := reconnecting_of_reconnect h
    exact ⟨es, .reconnected (by simpa [isConnected] using hdown) hes⟩

omit [Environment ω] in
/-- The reply to a call says how the call went; that it failed is a reply and no failure
of the one who makes it. -/
theorem yields_replyTo {action : Action Fault (Session ω) Unit} {s t : Session ω}
    {r : Except ε Reply} (h : Yields (replyTo action) s r t) :
    ∃ x, Yields action s x t ∧ r = .ok (.ofExcept x) := by
  rw [replyTo, map_eq_pure_bind] at h
  obtain ⟨x, u, hx, h⟩ := yields_attempt_bind.1 h
  obtain ⟨rfl, rfl⟩ := yields_pure.1 h
  exact ⟨x, hx, rfl⟩

/-- Each call is answered in one of these ways. -/
theorem calling_of_answer {running : Bool} {call : Call} {s t : Session ω} {r : Except ε Reply}
    (h : Yields (answer running call) s r t) :
    ∃ reply es, r = .ok reply ∧ Calling running s call reply es t := by
  cases call with
  | connect =>
    obtain ⟨x, hx, rfl⟩ := yields_replyTo h
    cases running with
    | true =>
      obtain ⟨es, hes⟩ := ensuring_of_ensureConnected hx
      exact ⟨_, _, rfl, .connected rfl hes⟩
    | false =>
      obtain ⟨rfl, rfl⟩ := yields_throw.1 hx
      exact ⟨_, _, rfl, .notRunning rfl⟩
  | publish topic payload level =>
    obtain ⟨x, hx, rfl⟩ := yields_replyTo h
    rcases yields_bind.1 hx with ⟨fault, hq, rfl⟩ | ⟨qos, u, hq, hp⟩
    · obtain ⟨hlevel, rfl⟩ := yields_ofExcept.1 hq
      exact ⟨_, _, rfl, .unpublished hlevel.symm⟩
    · obtain ⟨hlevel, rfl⟩ := yields_ofExcept.1 hq
      obtain ⟨es, hes⟩ := publishing_of_publish hp
      exact ⟨_, _, rfl, .published hlevel.symm hes⟩
  | subscribe filter level =>
    obtain ⟨x, hx, rfl⟩ := yields_replyTo h
    rcases yields_bind.1 hx with ⟨fault, hq, rfl⟩ | ⟨qos, u, hq, hp⟩
    · obtain ⟨hlevel, rfl⟩ := yields_ofExcept.1 hq
      exact ⟨_, _, rfl, .unsubscribed hlevel.symm⟩
    · obtain ⟨hlevel, rfl⟩ := yields_ofExcept.1 hq
      rcases yields_bind.1 hp with ⟨fault, hs, rfl⟩ | ⟨recorded, v, hs, hend⟩
      · obtain ⟨es, hes⟩ := subscribing_of_subscribe hs
        exact ⟨_, _, rfl, .subscribed hlevel.symm hes⟩
      · obtain ⟨es, hes⟩ := subscribing_of_subscribe hs
        obtain ⟨rfl, rfl⟩ := yields_pure.1 hend
        exact ⟨_, _, rfl, .subscribed hlevel.symm hes⟩
  | state =>
    simp only [answer, yields_get_bind, yields_pure] at h
    obtain ⟨rfl, rfl⟩ := h
    exact ⟨_, _, rfl, .shown _ (.inl rfl)⟩
  | describe =>
    simp only [answer, yields_get_bind, yields_pure] at h
    obtain ⟨rfl, rfl⟩ := h
    exact ⟨_, _, rfl, .shown _ (.inr rfl)⟩

end Session
end Mqtt
