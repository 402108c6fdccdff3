/-
# What traffic adds to the history

The ways in which the operations of an open session can go: a read of the worker
(`Receiving`), what the keep-alive timers call for (`KeepingAlive`), a message
that is published (`Publishing`), a subscription (`Subscribing`), and the end of a
session (`Leaving`).

The checks of an operation come before anything else it does, and the ways keep that
order: as long as a check fails nothing is written and no identifier is taken.  After
that an operation stands and falls with `Transmitting`, which puts a whole frame
through, refuses one that does not fit, or leaves the session without a link.
-/
import Mqtt.Session.Traffic
import Mqtt.Proofs.Registry
import Mqtt.Proofs.Session.Transfer

namespace Mqtt
namespace Session

open Mqtt.Action

variable {ω ε : Type}

/-- How a read from the link goes; a failure leaves the link to the caller. -/
inductive Receiving (capacity : Nat) (timeout : UInt32) (s : Session ω) :
    Except Fault (Chunk capacity) → List Event → Session ω → Prop
  /-- Without a link nothing is read. -/
  | notConnected : s.connection = none →
      Receiving capacity timeout s (.error .notConnected) [] s
  /-- Bytes came, at most as many as there is room for. -/
  | received {connection : Nat} {t : Session ω} (chunk : Chunk capacity) :
      s.connection = some connection → s.Did [.read connection capacity timeout (.ok chunk.val)] t →
      Receiving capacity timeout s (.ok chunk) [.read connection capacity timeout (.ok chunk.val)] t
  /-- The read failed.  The link is kept: dropping it is for the caller. -/
  | failed {connection : Nat} {t : Session ω} (fault : NetFault) :
      s.connection = some connection →
      s.Did [.read connection capacity timeout (.error fault), .notice (.receiveFailed fault)] t →
      Receiving capacity timeout s (.error .readError)
        [.read connection capacity timeout (.error fault), .notice (.receiveFailed fault)] t

/-- What is done for the keep-alive timers at a reading of the clock. -/
inductive KeepingAlive (time : UInt32) (s : Session ω) :
    Except Fault Unit → List Event → Session ω → Prop
  /-- No timer has run out. -/
  | nothing : s.keepAlive.due time = none → KeepingAlive time s (.ok ()) [] s
  /-- A ping is due and goes out, and the wait for its answer begins. -/
  | pinged {es : List Event} {t u : Session ω} : s.keepAlive.due time = some .ping →
      Transmitting .pingReq s (.ok ()) es t →
      Did { t with keepAlive := t.keepAlive.pinged time } [.notice .pinged] u →
      KeepingAlive time s (.ok ()) (es ++ [.notice .pinged]) u
  /-- A ping is due and does not go out. -/
  | unsent {fault : Fault} {es : List Event} {t : Session ω} : s.keepAlive.due time = some .ping →
      Transmitting .pingReq s (.error fault) es t → KeepingAlive time s (.error fault) es t
  /-- The answer to the last ping is overdue, and the link is dropped. -/
  | dead {es : List Event} {t u : Session ω} : s.keepAlive.due time = some .linkDead →
      s.Did [.notice .pingUnanswered] t → Dropping t es u → s.world.Begins t.world →
      KeepingAlive time s (.error .timeout) (.notice .pingUnanswered :: es) u

/-- The message of a call to publish; at level 1 it takes the next identifier. -/
def outgoing (s : Session ω) (topic : String) (payload : List UInt8) (qos : QoS) : Publish where
  topic
  payload
  qos
  packetId := match qos with
    | .atMostOnce => none
    | .atLeastOnce => some s.packetId
  retain := false
  dup := false

/-- A message has an identifier exactly if it is to be acknowledged. -/
theorem identified_outgoing (s : Session ω) (topic : String) (payload : List UInt8) (qos : QoS) :
    (s.outgoing topic payload qos).packetId.isSome ↔
      (s.outgoing topic payload qos).qos = .atLeastOnce := by
  cases qos <;> simp [outgoing]

/-- The session that has given out its next identifier. -/
def identified (s : Session ω) : Session ω :=
  { s with packetId := max (s.packetId + 1) 1 }

/-- The session once a message of a level has taken its identifier. -/
def identifiedFor (s : Session ω) : QoS → Session ω
  | .atMostOnce => s
  | .atLeastOnce => s.identified

/-- How publishing a message goes. -/
inductive Publishing (topic : String) (payload : List UInt8) (qos : QoS) (s : Session ω) :
    Except Fault Unit → List Event → Session ω → Prop
  /-- The topic is none a message can be published to. -/
  | invalid : isTopic topic = false → Publishing topic payload qos s (.error .invalidTopic) [] s
  /-- There is no link, so no identifier is taken. -/
  | notConnected : isTopic topic = true → s.connection = none →
      Publishing topic payload qos s (.error .notConnected) [] s
  /-- The frame did not go out. -/
  | failed {connection : Nat} {fault : Fault} {es : List Event} {t : Session ω} :
      isTopic topic = true → s.connection = some connection →
      Transmitting (.publish (s.outgoing topic payload qos)) (s.identifiedFor qos)
        (.error fault) es t →
      Publishing topic payload qos s (.error fault) es t
  /-- The frame went out whole. -/
  | sent {connection : Nat} {es : List Event} {t u : Session ω} :
      isTopic topic = true → s.connection = some connection →
      Transmitting (.publish (s.outgoing topic payload qos)) (s.identifiedFor qos) (.ok ()) es t →
      t.Did [.notice (.published payload.length topic)] u →
      Publishing topic payload qos s (.ok ()) (es ++ [.notice (.published payload.length topic)]) u

/-- How subscribing to a filter goes. -/
inductive Subscribing (filter : String) (qos : QoS) (s : Session ω) :
    Except Fault Recorded → List Event → Session ω → Prop
  /-- The filter is empty. -/
  | empty : filter.isEmpty = true → Subscribing filter qos s (.error .invalidTopic) [] s
  /-- The filter is too long to be remembered, so it is not sent either. -/
  | tooLong : filter.isEmpty = false → Registry.filterLimit < filter.utf8ByteSize →
      Subscribing filter qos s (.error .topicTooLong) [] s
  /-- There is no link, so no identifier is taken. -/
  | notConnected : filter.isEmpty = false → filter.utf8ByteSize ≤ Registry.filterLimit →
      s.connection = none → Subscribing filter qos s (.error .notConnected) [] s
  /-- The frame did not go out, and the registry is as it was. -/
  | failed {connection : Nat} {fault : Fault} {es : List Event} {t : Session ω} :
      filter.isEmpty = false → filter.utf8ByteSize ≤ Registry.filterLimit →
      s.connection = some connection →
      Transmitting (.subscribe s.packetId filter qos) s.identified (.error fault) es t →
      Subscribing filter qos s (.error fault) es t
  /-- The frame went out, and the registry records the filter or drops it for want of
  room. -/
  | recorded {connection : Nat} {outcome : Recorded} {registry : Registry} {es fs : List Event}
      {t u v : Session ω} :
      filter.isEmpty = false → filter.utf8ByteSize ≤ Registry.filterLimit →
      s.connection = some connection →
      Transmitting (.subscribe s.packetId filter qos) s.identified (.ok ()) es t →
      t.Did [.notice (.subscribed filter qos)] u →
      u.registry.record filter qos = .ok (outcome, registry) →
      fs = (if outcome = .dropped then [.notice (.registryFull filter)] else []) →
      Did { u with registry } fs v →
      Subscribing filter qos s (.ok outcome) (es ++ .notice (.subscribed filter qos) :: fs) v

/-- How a session ends; the DISCONNECT is sent if it can be. -/
inductive Leaving (s : Session ω) : List Event → Session ω → Prop
  /-- There is no link to leave. -/
  | nothing : s.connection = none → Leaving s [] s
  /-- DISCONNECT is tried, and the link is dropped whether it went out or not. -/
  | left {r : Except Fault Unit} {es fs : List Event} {t u v : Session ω} :
      s.connection.isSome → Transmitting .disconnect s r es t → Dropping t fs u →
      u.Did [.notice (.disconnected s.settings.host.text)] v →
      Leaving s (es ++ fs ++ [.notice (.disconnected s.settings.host.text)]) v

variable [Environment ω]

/-- Receiving goes in one of the ways of `Receiving`: at most one read, which gives bytes,
no bytes, or a failure that is told. -/
theorem receiving_of_receive {capacity : Nat} {timeout : UInt32} {s t : Session ω}
    {r : Except Fault (Chunk capacity)} (h : Yields (receive capacity timeout) s r t) :
    ∃ es, Receiving capacity timeout s r es t := by
  simp only [receive, yields_get_bind] at h
  cases hc : s.connection with
  | none =>
    rw [hc] at h
    obtain ⟨rfl, rfl⟩ := yields_throw.1 h
    exact ⟨_, .notConnected hc⟩
  | some connection =>
    rw [hc] at h
    obtain ⟨hw, ht⟩ := did_onWorld h
    rcases World.ran_orNotice hw with ⟨chunk, hread, rfl⟩ | ⟨fault, w, hread, hn, rfl⟩
    · exact ⟨_, .received chunk hc ⟨World.ran_read hread, ht⟩⟩
    · exact ⟨_, .failed fault hc ⟨(World.ran_read hread).trans hn, ht⟩⟩

/-- Servicing the keep-alive goes in one of the ways of `KeepingAlive`, one for each thing
that the timers can call for and each way in which a ping can go. -/
theorem keepingAlive_of_serviceKeepAlive {time : UInt32} {s t : Session ω} {r : Except Fault Unit}
    (h : Yields (serviceKeepAlive time) s r t) : ∃ es, KeepingAlive time s r es t := by
  simp only [serviceKeepAlive, yields_get_bind] at h
  split at h
  case h_1 hdue =>
    obtain ⟨rfl, rfl⟩ := yields_pure.1 h
    exact ⟨_, .nothing hdue⟩
  case h_2 hdue =>
    rcases yields_bind.1 h with ⟨fault, hp, rfl⟩ | ⟨⟨⟩, u, hp, h⟩
    · obtain ⟨es, hes⟩ := transmitting_of_transmit hp
      exact ⟨_, .unsent hdue hes⟩
    · obtain ⟨es, hes⟩ := transmitting_of_transmit hp
      obtain ⟨rfl, hn⟩ := did_notice (yields_modify_bind.1 h)
      exact ⟨_, .pinged hdue hes hn⟩
  case h_3 hdue =>
    rcases yields_bind.1 h with ⟨_, hn, -⟩ | ⟨⟨⟩, u, hn, h⟩
    · exact absurd (did_notice hn).1 (by simp)
    · rcases yields_bind.1 h with ⟨_, hd, -⟩ | ⟨⟨⟩, v, hd, h⟩
      · exact absurd (dropping_of_dropLink hd).1 (by simp)
      · obtain ⟨rfl, rfl⟩ := yields_throw.1 h
        obtain ⟨es, hes⟩ := (dropping_of_dropLink hd).2
        exact ⟨_, .dead hdue (did_notice hn).2 hes (stands_of_notice hn).1⟩

/-- Once the checks have passed, the message takes its identifier and goes out. -/
theorem yields_publish {topic : String} {payload : List UInt8} {qos : QoS} {s t : Session ω}
    {r : Except Fault Unit} (valid : isTopic topic = true) (up : s.isConnected = true)
    (h : Yields (publish topic payload qos) s r t) :
    Yields (do
      transmit (.publish (s.outgoing topic payload qos))
      notice (.published payload.length topic)) (s.identifiedFor qos) r t := by
  simp only [publish, valid, if_true, pure_bind, yields_get_bind, up] at h
  cases qos with
  | atMostOnce => exact h
  | atLeastOnce =>
    simp only [map_eq_pure_bind, nextPacketId, bind_assoc, pure_bind, yields_get_bind,
      yields_modify_bind] at h
    exact h

/-- Publishing goes in one of the ways of `Publishing`.  The topic is looked at before the
link, and the identifier is taken before the frame is sent. -/
theorem publishing_of_publish {topic : String} {payload : List UInt8} {qos : QoS} {s t : Session ω}
    {r : Except Fault Unit} (h : Yields (publish topic payload qos) s r t) :
    ∃ es, Publishing topic payload qos s r es t := by
  cases htopic : isTopic topic with
  | false =>
    simp only [publish, htopic, Bool.false_eq_true, if_false, yields_throw_bind] at h
    obtain ⟨rfl, rfl⟩ := h
    exact ⟨_, .invalid htopic⟩
  | true =>
    cases hup : s.isConnected with
    | false =>
      simp only [publish, htopic, if_true, pure_bind, yields_get_bind, hup, Bool.false_eq_true,
        if_false, yields_throw_bind] at h
      obtain ⟨rfl, rfl⟩ := h
      exact ⟨_, .notConnected htopic (by simpa [isConnected] using hup)⟩
    | true =>
      obtain ⟨connection, hc⟩ := Option.isSome_iff_exists.1 hup
      rcases yields_bind.1 (yields_publish htopic hup h) with
        ⟨fault, ht, rfl⟩ | ⟨⟨⟩, u, ht, hn⟩
      · obtain ⟨es, hes⟩ := transmitting_of_transmit ht
        exact ⟨_, .failed htopic hc hes⟩
      · obtain ⟨es, hes⟩ := transmitting_of_transmit ht
        obtain ⟨rfl, hdid⟩ := did_notice hn
        exact ⟨_, .sent htopic hc hes hdid⟩

/-- Subscribing goes in one of the ways of `Subscribing`.  The filter is looked at before
the link, and kept only after its frame was sent. -/
theorem subscribing_of_subscribe {filter : String} {qos : QoS} {s t : Session ω}
    {r : Except Fault Recorded} (h : Yields (subscribe filter qos) s r t) :
    ∃ es, Subscribing filter qos s r es t := by
  rw [subscribe] at h
  split at h
  case isTrue hempty =>
    obtain ⟨rfl, rfl⟩ := yields_throw_bind.1 h
    exact ⟨_, .empty hempty⟩
  case isFalse hfilter =>
    have hfilter := Bool.eq_false_iff.2 hfilter
    split at h
    case isTrue hlong =>
      obtain ⟨rfl, rfl⟩ := yields_throw_bind.1 h
      exact ⟨_, .tooLong hfilter hlong⟩
    case isFalse hfits =>
      have hfits := Nat.not_lt.1 hfits
      rw [yields_get_bind] at h
      split at h
      case isFalse hdown =>
        obtain ⟨rfl, rfl⟩ := yields_throw_bind.1 h
        exact ⟨_, .notConnected hfilter hfits (by simpa [isConnected] using hdown)⟩
      case isTrue hup =>
        obtain ⟨connection, hc⟩ := Option.isSome_iff_exists.1 hup
        simp only [nextPacketId, bind_assoc, yields_get_bind, yields_modify_bind, pure_bind] at h
        rcases yields_bind.1 h with ⟨fault, ht, rfl⟩ | ⟨⟨⟩, u, ht, hrest⟩
        · obtain ⟨es, hes⟩ := transmitting_of_transmit ht
          exact ⟨_, .failed hfilter hfits hc hes⟩
        · obtain ⟨es, hes⟩ := transmitting_of_transmit ht
          obtain ⟨v, hn, hrecord⟩ := yields_notice_bind hrest
          rw [yields_get_bind] at hrecord
          rcases yields_bind.1 hrecord with ⟨fault, hr, rfl⟩ | ⟨⟨outcome, registry⟩, w, hr, hend⟩
          · obtain ⟨hfault, rfl⟩ := yields_ofExcept.1 hr
            obtain ⟨_, hkept⟩ := t.registry.record_of_fits qos hfits
            cases hfault.trans hkept
          · obtain ⟨hkeep, rfl⟩ := yields_ofExcept.1 hr
            have hend := yields_modify_bind.1 hend
            split at hend
            case isTrue hfull =>
              obtain ⟨x, hfulln, hend⟩ := yields_notice_bind hend
              obtain ⟨rfl, rfl⟩ := yields_pure.1 hend
              exact ⟨_, .recorded hfilter hfits hc hes hn hkeep.symm (if_pos hfull).symm hfulln⟩
            case isFalse hkept =>
              obtain ⟨rfl, rfl⟩ := yields_pure.1 hend
              exact ⟨_, .recorded hfilter hfits hc hes hn hkeep.symm (if_neg hkept).symm (.refl _)⟩

/-- Disconnecting goes in one of the ways of `Leaving`, and never fails: whatever fails on
the way, the link is gone. -/
theorem leaving_of_disconnect {s t : Session ω} {r : Except ε Unit} (h : Yields disconnect s r t) :
    r = .ok () ∧ ∃ es, Leaving s es t := by
  simp only [disconnect, yields_get_bind] at h
  split at h
  case isFalse hdown =>
    obtain ⟨rfl, rfl⟩ := yields_pure.1 h
    exact ⟨rfl, _, .nothing (by simpa [isConnected] using hdown)⟩
  case isTrue hup =>
    obtain ⟨x, u, ht, h⟩ := yields_attempt_bind.1 h
    obtain ⟨es, hes⟩ := transmitting_of_transmit ht
    rcases yields_bind.1 h with ⟨_, hd, -⟩ | ⟨⟨⟩, v, hd, h⟩
    · exact absurd (dropping_of_dropLink hd).1 (by simp)
    · obtain ⟨fs, hfs⟩ := (dropping_of_dropLink hd).2
      obtain ⟨rfl, hn⟩ := did_notice (yields_get_bind.1 h)
      have hsame : v.settings = s.settings := by
        rw [hfs.settings, hes.settings]
      rw [hsame] at hn
      exact ⟨rfl, _, .left hup hes hfs hn⟩

end Session
end Mqtt
