/-
# What opening a link adds to the history

The ways in which a connection can be opened (`Dialing`), in which CONNECT and
its answer can go over it (`Exchanging`), in which both together make or fail to
make a link (`Opening`), and in which a link is made again with all subscriptions
(`Replaying`, `Reconnecting`).  A link comes up only after four bytes have been
read that are a CONNACK with return code 0 (`Accepts`).

These tell what the history gains.  What also depends on the sessions in between,
as the deadline of the answer does, is read off `Greeting` and `Handshaking`.
-/
import Mqtt.Session.Handshake
import Mqtt.Proofs.Session.Transfer

namespace Mqtt

open Mqtt.Action

/-- How opening a connection goes, which gets the number `number` if it opens. -/
inductive Connector.Dialing (host : String) (tcpPort : UInt16) (timeout : UInt32) (number : Nat) :
    Connector → Except NetFault Nat → List Event → Prop
  /-- The plain connector opened a connection. -/
  | opened : Dialing host tcpPort timeout number .plain (.ok number)
      [.connect host tcpPort timeout (.ok ())]
  /-- The network refused, and its fault is passed on as it is. -/
  | refused (fault : NetFault) : Dialing host tcpPort timeout number .plain (.error fault)
      [.connect host tcpPort timeout (.error fault)]
  /-- The connection opened and was secured, under the name the settings give for the
  host. -/
  | secured (settings : TlsSettings) :
      Dialing host tcpPort timeout number (.tls settings) (.ok number)
        [.connect host tcpPort timeout (.ok ()), .secure number (settings.nameFor host) settings]
  /-- The connection below TLS could not be opened.  What went wrong is only noticed:
  the caller sees a refused connection. -/
  | tlsRefused (settings : TlsSettings) (fault : NetFault) :
      Dialing host tcpPort timeout number (.tls settings) (.error .connectionRefused)
        [.connect host tcpPort timeout (.error fault), .notice (.tlsDialFailed host tcpPort fault)]
  /-- The connection opened but the handshake was rejected, and the connection is closed
  again. -/
  | tlsRejected (settings : TlsSettings) (reason : String) :
      Dialing host tcpPort timeout number (.tls settings) (.error .handshakeFailed)
        [.connect host tcpPort timeout (.ok ()), .secure number (settings.nameFor host) settings,
          .close number, .notice (.tlsRejected (settings.nameFor host) reason)]

/-- Dialing a connector goes in one of the ways of `Dialing`, and a connection that it
opens gets the next number. -/
theorem Connector.dialing_of_dial {ω : Type} [Environment ω] {connector : Connector}
    {host : String} {tcpPort : UInt16} {timeout : UInt32} {w w' : World ω} {r : Except NetFault Nat}
    (h : Yields (connector.dial host tcpPort timeout) w r w') :
    ∃ es, Dialing host tcpPort timeout (w.opened + 1) connector r es ∧ w.Ran es w' := by
  cases connector with
  | plain =>
    rcases World.ran_connect h with ⟨fault, rfl, hran⟩ | ⟨rfl, hran⟩
    · exact ⟨_, .refused fault, hran⟩
    · exact ⟨_, .opened, hran⟩
  | tls settings =>
    simp only [dial] at h
    rcases yields_bind.1 h with ⟨fault, ho, rfl⟩ | ⟨number, u, ho, h⟩
    · rcases World.ran_orNotice ho with ⟨_, -, he⟩ | ⟨e, v, hc, hn, he⟩
      · cases he
      · cases he
        rcases World.ran_connect hc with ⟨fault, ⟨⟩, hran⟩ | ⟨hr, -⟩
        · exact ⟨_, .tlsRefused settings e, hran.trans hn⟩
        · cases hr
    · rcases World.ran_orNotice ho with ⟨_, hc, ⟨⟩⟩ | ⟨_, _, -, -, he⟩
      · rcases World.ran_connect hc with ⟨_, hr, -⟩ | ⟨⟨⟩, hopen⟩
        · cases hr
        · rcases yields_bind.1 h with ⟨fault, hs, rfl⟩ | ⟨⟨⟩, v, hs, h⟩
          · rcases World.ran_orNotice hs with ⟨_, -, he⟩ | ⟨reason, x, hsec, hn, he⟩
            · cases he
            · cases he
              rcases World.ran_secure hsec with ⟨hr, -⟩ | ⟨_, ⟨⟩, hran⟩
              · cases hr
              · exact ⟨_, .tlsRejected settings reason, (hopen.trans hran).trans hn⟩
          · obtain ⟨rfl, rfl⟩ := yields_pure.1 h
            rcases World.ran_orNotice hs with ⟨_, hsec, -⟩ | ⟨_, _, -, -, he⟩
            · rcases World.ran_secure hsec with ⟨-, hran⟩ | ⟨_, hr, -⟩
              · exact ⟨_, .secured settings, hopen.trans hran⟩
              · cases hr
            · cases he
      · cases he

namespace Session

variable {ω ε α : Type}

/-- The bytes begin with a CONNACK that accepts. -/
def Accepts (bytes : List UInt8) : Prop :=
  ∃ first ack rest, bytes = first :: 2 :: ack :: 0 :: rest ∧
    Kind.ofFirstByte? first = some .connAck

/-- What is announced as a CONNACK is one, whatever the two bytes after the announcement. -/
theorem decode_announced {head body : List UInt8} (hbody : body.length = 2)
    (announces : announcesConnAck head = true) :
    ∃ first ack code, head ++ body = [first, 2, ack, code] ∧
      Kind.ofFirstByte? first = some .connAck ∧
        Inbound.decode (head ++ body) = .ok (.connAck (ack % 2 = 1) code) := by
  unfold announcesConnAck at announces
  split at announces
  case h_1 first =>
    match body, hbody with
    | [ack, code], _ =>
      have hkind : Kind.ofFirstByte? first = some .connAck := by simpa using announces
      refine ⟨first, ack, code, rfl, hkind, ?_⟩
      simp [Inbound.decode, Header.parse, hkind, Length.decode, Length.decodePlaces, Except.map,
        Inbound.ofBody, bind, Except.bind]
  case h_2 => cases announces

/-- The answer that opens a link begins with a CONNACK that accepts. -/
theorem accepts_of_readConnAck {head body : List UInt8} {present : Bool} (hbody : body.length = 2)
    (announces : announcesConnAck head = true) (h : readConnAck (head ++ body) = .ok present) :
    Accepts (head ++ body) := by
  obtain ⟨first, ack, code, hbytes, hkind, hdecode⟩ := decode_announced hbody announces
  have hcode : code = 0 := by
    rw [readConnAck, hdecode] at h
    split at h
    case h_1 heq =>
      cases heq
      rfl
    case h_2 => cases h
    case h_3 => cases h
    case h_4 heq => cases heq
  exact ⟨first, ack, [], by rw [hbytes, hcode], hkind⟩

/-- An answer that was announced as a CONNACK fails only by what it says. -/
theorem refusal_of_readConnAck {head body : List UInt8} {fault : Fault} (hbody : body.length = 2)
    (announces : announcesConnAck head = true)
    (h : readConnAck (head ++ body) = .error fault) :
    ∃ refusal, fault = .connectionRefused refusal := by
  obtain ⟨first, ack, code, -, -, hdecode⟩ := decode_announced hbody announces
  rw [readConnAck, hdecode] at h
  split at h
  case h_1 => cases h
  case h_2 =>
    cases h
    exact ⟨_, rfl⟩
  case h_3 other heq => exact (other _ _ (Except.ok.inj heq).symm).elim
  case h_4 heq => cases heq

/-- How CONNECT and its answer go over a connection. -/
inductive Exchanging (connection : Nat) (request : Outbound) :
    Except Fault Bool → List Event → Prop
  /-- CONNECT does not fit, so nothing is written. -/
  | unpackable {fault : Fault} : request.pack frameLimit = .error fault →
      Exchanging connection request (.error fault) []
  /-- CONNECT was not written and flushed whole. -/
  | unsent {frame : List UInt8} {fault : Fault} {es : List Event} :
      request.pack frameLimit = .ok frame → Sending connection frame (.error fault) es →
      Exchanging connection request (.error fault) es
  /-- CONNECT went out, but the answer did not come in time or does not accept. -/
  | unanswered {frame bytes : List UInt8} {es fs : List Event} (fault : Fault) :
      request.pack frameLimit = .ok frame → Sending connection frame (.ok ()) es →
      Hearing connection fs bytes → Exchanging connection request (.error fault) (es ++ fs)
  /-- The first two bytes announce no CONNACK, so the other two are not waited for. -/
  | unexpected {frame head : List UInt8} {es fs : List Event} :
      request.pack frameLimit = .ok frame → Sending connection frame (.ok ()) es →
      Hearing connection fs head →
      Exchanging connection request (.error .protocolError)
        (es ++ fs ++ [.notice (.unexpectedHead head)])
  /-- Four bytes came that are an accepting CONNACK. -/
  | accepted {frame bytes : List UInt8} {es fs : List Event} (present : Bool) :
      request.pack frameLimit = .ok frame → Sending connection frame (.ok ()) es →
      Hearing connection fs bytes → bytes.length = 4 → Accepts bytes →
      Exchanging connection request (.ok present) (es ++ fs)

variable [Environment ω]

/-- How far sending CONNECT and reading its answer come, part by part. -/
inductive Greeting (connection : Nat) (s : Session ω) : Except Fault Bool → Session ω → Prop
  /-- CONNECT does not fit. -/
  | unpackable {fault : Fault} :
      (Outbound.connect s.settings.connect).pack frameLimit = .error fault →
      Greeting connection s (.error fault) s
  /-- CONNECT was not written and flushed whole. -/
  | unsent {frame : List UInt8} {fault : Fault} {t : Session ω} :
      (Outbound.connect s.settings.connect).pack frameLimit = .ok frame →
      Yields (sendFrame connection frame) s (.error fault) t →
      Greeting connection s (.error fault) t
  /-- The first two bytes did not come before the deadline. -/
  | headless {frame : List UInt8} {fault : Fault} {t u : Session ω} :
      (Outbound.connect s.settings.connect).pack frameLimit = .ok frame →
      Yields (sendFrame connection frame) s (.ok ()) t →
      Yields (fill connection t.world.clock s.settings.connectTimeout 2) t (.error fault) u →
      Greeting connection s (.error fault) u
  /-- The first two bytes announce something else. -/
  | unexpected {frame head : List UInt8} {t u v : Session ω} :
      (Outbound.connect s.settings.connect).pack frameLimit = .ok frame →
      Yields (sendFrame connection frame) s (.ok ()) t →
      Yields (fill connection t.world.clock s.settings.connectTimeout 2) t (.ok head) u →
      announcesConnAck head = false → u.Did [.notice (.unexpectedHead head)] v →
      Greeting connection s (.error .protocolError) v
  /-- The other two bytes did not come before the same deadline. -/
  | bodiless {frame head : List UInt8} {fault : Fault} {t u v : Session ω} :
      (Outbound.connect s.settings.connect).pack frameLimit = .ok frame →
      Yields (sendFrame connection frame) s (.ok ()) t →
      Yields (fill connection t.world.clock s.settings.connectTimeout 2) t (.ok head) u →
      announcesConnAck head = true →
      Yields (fill connection t.world.clock s.settings.connectTimeout 2) u (.error fault) v →
      Greeting connection s (.error fault) v
  /-- All four bytes came, and what they say decides. -/
  | answered {frame head body : List UInt8} {t u v : Session ω} :
      (Outbound.connect s.settings.connect).pack frameLimit = .ok frame →
      Yields (sendFrame connection frame) s (.ok ()) t →
      Yields (fill connection t.world.clock s.settings.connectTimeout 2) t (.ok head) u →
      announcesConnAck head = true →
      Yields (fill connection t.world.clock s.settings.connectTimeout 2) u (.ok body) v →
      Greeting connection s (readConnAck (head ++ body)) v

/-- The exchange of CONNECT and its answer goes in one of the ways of `Greeting`, which
keeps the states in between and so the times at which the clock was read. -/
theorem greeting_of_exchange {connection : Nat} {s t : Session ω} {r : Except Fault Bool}
    (h : Yields (exchange connection) s r t) : Greeting connection s r t := by
  simp only [exchange, yields_get_bind, packed] at h
  rcases yields_bind.1 h with ⟨fault, hp, rfl⟩ | ⟨frame, u, hp, h⟩
  · obtain ⟨hpack, rfl⟩ := yields_ofExcept.1 hp
    exact .unpackable hpack.symm
  · obtain ⟨hpack, rfl⟩ := yields_ofExcept.1 hp
    rcases yields_bind.1 h with ⟨fault, hs, rfl⟩ | ⟨⟨⟩, v, hs, h⟩
    · exact .unsent hpack.symm hs
    · simp only [now, bind_assoc, yields_get_bind, pure_bind] at h
      rcases yields_bind.1 h with ⟨fault, hf, rfl⟩ | ⟨head, w, hf, h⟩
      · exact .headless hpack.symm hs hf
      · split at h
        case isFalse hno =>
          obtain ⟨x, hn, h⟩ := yields_notice_bind h
          obtain ⟨rfl, rfl⟩ := yields_throw_bind.1 h
          exact .unexpected hpack.symm hs hf (Bool.eq_false_iff.2 hno) hn
        case isTrue hyes =>
          rcases yields_bind.1 h with ⟨fault, hb, rfl⟩ | ⟨body, x, hb, h⟩
          · exact .bodiless hpack.symm hs hf hyes hb
          · obtain ⟨rfl, rfl⟩ := yields_ofExcept.1 h
            exact .answered hpack.symm hs hf hyes hb

/-- **The exchange of CONNECT and its answer goes in one of the ways of `Exchanging`.**
It accepts only with four bytes that are an accepting CONNACK. -/
theorem exchanging_of_exchange {connection : Nat} {s t : Session ω} {r : Except Fault Bool}
    (h : Yields (exchange connection) s r t) :
    ∃ es, Exchanging connection (.connect s.settings.connect) r es ∧ s.Did es t := by
  -- The ways of `Greeting` differ in the sessions between the parts, which are forgotten here.
  cases greeting_of_exchange h with
  | unpackable hpack => exact ⟨_, .unpackable hpack, .refl _⟩
  | unsent hpack hs =>
    obtain ⟨es, hes, hdid⟩ := sending_of_sendFrame hs
    exact ⟨es, .unsent hpack hes, hdid⟩
  | headless hpack hs hf =>
    obtain ⟨es, hes, hsent⟩ := sending_of_sendFrame hs
    obtain ⟨fs, bytes, hfs, hdid, -⟩ := hearing_of_fill hf
    exact ⟨_, .unanswered _ hpack hes hfs, hsent.trans hdid⟩
  | unexpected hpack hs hf _ hn =>
    obtain ⟨es, hes, hsent⟩ := sending_of_sendFrame hs
    obtain ⟨fs, bytes, hfs, hheard, hall⟩ := hearing_of_fill hf
    obtain ⟨rfl, -⟩ := hall _ rfl
    exact ⟨_, .unexpected hpack hes hfs, (hsent.trans hheard).trans hn⟩
  | bodiless hpack hs hf _ hb =>
    obtain ⟨es, hes, hsent⟩ := sending_of_sendFrame hs
    obtain ⟨fs, bytes, hfs, hheard, -⟩ := hearing_of_fill hf
    obtain ⟨gs, more, hgs, hdid, -⟩ := hearing_of_fill hb
    exact ⟨_, .unanswered _ hpack hes (hfs.append hgs), hsent.trans (hheard.trans hdid)⟩
  | @answered _ head body _ _ _ hpack hs hf announces hb =>
    obtain ⟨es, hes, hsent⟩ := sending_of_sendFrame hs
    obtain ⟨fs, bytes, hfs, hheard, hall⟩ := hearing_of_fill hf
    obtain ⟨rfl, hhead⟩ := hall _ rfl
    obtain ⟨gs, more, hgs, hdid, hmore⟩ := hearing_of_fill hb
    obtain ⟨rfl, hbody⟩ := hmore _ rfl
    have hboth := hsent.trans (hheard.trans hdid)
    cases hr : readConnAck (head ++ body) with
    | ok present =>
      have hlen : (head ++ body).length = 4 := by rw [List.length_append, hhead, hbody]
      exact ⟨_, .accepted present hpack hes (hfs.append hgs) hlen
        (accepts_of_readConnAck hbody announces hr), hboth⟩
    | error fault => exact ⟨_, .unanswered fault hpack hes (hfs.append hgs), hboth⟩

/-- How a session without a link opens one. -/
inductive Opening (s : Session ω) : Except Fault Unit → List Event → Session ω → Prop
  /-- No connection was opened, so there is none to close. -/
  | refused {fault : NetFault} {es : List Event} {t : Session ω} :
      Connector.Dialing s.settings.host.text s.settings.tcpPort s.settings.connectTimeout
        (s.world.opened + 1) s.connector (.error fault) es →
      s.Did (es ++ [.notice (.dialFailed s.settings.host.text s.settings.tcpPort fault)]) t →
      Opening s (.error .connectFailed)
        (es ++ [.notice (.dialFailed s.settings.host.text s.settings.tcpPort fault)]) t
  /-- The connection opened but no session did on it, and the connection is closed. -/
  | failed {number : Nat} {fault : Fault} {es fs gs : List Event} {t : Session ω} :
      Connector.Dialing s.settings.host.text s.settings.tcpPort s.settings.connectTimeout
        (s.world.opened + 1) s.connector (.ok number) es →
      Exchanging number (.connect s.settings.connect) (.error fault) fs → Closing number gs →
      s.Did (es ++ fs ++ (.notice (.handshakeFailed fault) :: gs)) t →
      Opening s (.error fault) (es ++ fs ++ (.notice (.handshakeFailed fault) :: gs)) t
  /-- The link is up: it has the next number, and its timers start at this moment. -/
  | opened {number : Nat} {present : Bool} {now : UInt32} {es fs : List Event} {t : Session ω} :
      Connector.Dialing s.settings.host.text s.settings.tcpPort s.settings.connectTimeout
        (s.world.opened + 1) s.connector (.ok number) es →
      Exchanging number (.connect s.settings.connect) (.ok present) fs →
      Did { s with
          connection := some number, link := s.link + 1, keepAlive := s.keepAlive.reset now }
        (es ++ fs ++ [.notice (.connected s.settings.host.text s.settings.tcpPort
          s.settings.clientId.text present)]) t → t.world.StandsAt now →
      Opening s (.ok ())
        (es ++ fs ++ [.notice (.connected s.settings.host.text s.settings.tcpPort
          s.settings.clientId.text present)]) t

/-- How a handshake goes, with the sessions in between: `u` once the old link is given up,
with the world `w` once a connection is dialed, and `v` once CONNECT has its answer. -/
inductive Handshaking (s : Session ω) : Except Fault Unit → Session ω → Prop
  /-- No connection was opened. -/
  | refused {fault : NetFault} {u t : Session ω} {w : World ω} :
      Yields dropLink s (.ok () : Except Fault Unit) u →
      Yields (u.connector.dial u.settings.host.text u.settings.tcpPort u.settings.connectTimeout)
        u.world (.error fault) w →
      Did { u with world := w }
        [.notice (.dialFailed u.settings.host.text u.settings.tcpPort fault)] t →
      Handshaking s (.error .connectFailed) t
  /-- The exchange failed, and the connection is closed. -/
  | failed {number : Nat} {fault : Fault} {gs : List Event} {u v t : Session ω} {w : World ω} :
      Yields dropLink s (.ok () : Except Fault Unit) u →
      Yields (u.connector.dial u.settings.host.text u.settings.tcpPort u.settings.connectTimeout)
        u.world (.ok number) w →
      Yields (exchange number) { u with world := w } (.error fault) v → Closing number gs →
      v.Did (.notice (.handshakeFailed fault) :: gs) t →
      Handshaking s (.error fault) t
  /-- The exchange succeeded, and the connection is the link. -/
  | opened {number : Nat} {present : Bool} {u v t : Session ω} {w : World ω} :
      Yields dropLink s (.ok () : Except Fault Unit) u →
      Yields (u.connector.dial u.settings.host.text u.settings.tcpPort u.settings.connectTimeout)
        u.world (.ok number) w →
      Yields (exchange number) { u with world := w } (.ok present) v →
      Did { v with
          connection := some number, link := v.link + 1,
          keepAlive := v.keepAlive.reset v.world.clock }
        [.notice (.connected u.settings.host.text u.settings.tcpPort u.settings.clientId.text
          present)] t → t.world.StandsAt v.world.clock →
      Handshaking s (.ok ()) t

/-- **A handshake goes in one of the ways of `Handshaking`.**  Dialing fails or opens a
connection; then the exchange fails or opens the link. -/
theorem handshaking_of_handshake {s t : Session ω} {r : Except Fault Unit}
    (h : Yields handshake s r t) : Handshaking s r t := by
  rw [handshake] at h
  rcases yields_bind.1 h with ⟨_, hd, -⟩ | ⟨⟨⟩, u, hd, h⟩
  · exact absurd (dropping_of_dropLink hd).1 (by simp)
  simp only [yields_get_bind] at h
  rcases yields_bind.1 h with ⟨_, ho, rfl⟩ | ⟨number, v, ho, h⟩
  · obtain ⟨hw, ht⟩ := did_onWorld ho
    rcases World.ran_orNotice hw with ⟨_, -, he⟩ | ⟨fault, w, hdial, hn, he⟩
    · cases he
    · cases he
      exact .refused hd hdial ⟨hn, ht⟩
  · obtain ⟨hw, hv⟩ := did_onWorld ho
    rcases World.ran_orNotice hw with ⟨_, hdial, ⟨⟩⟩ | ⟨_, _, -, -, he⟩
    · obtain ⟨x, w, hx, h⟩ := yields_attempt_bind.1 h
      rw [hv] at hx
      cases x with
      | error fault =>
        obtain ⟨y, hn, h⟩ := yields_notice_bind h
        rcases yields_bind.1 h with ⟨_, hc, -⟩ | ⟨⟨⟩, z, hc, h⟩
        · exact absurd (closing_of_closeQuietly hc).1 (by simp)
        · obtain ⟨-, gs, hgs, hclosed⟩ := closing_of_closeQuietly hc
          obtain ⟨rfl, rfl⟩ := yields_throw.1 h
          exact .failed hd hdial hx hgs (hn.trans hclosed)
      | ok present =>
        simp only [restartKeepAlive, yields_modify_bind] at h
        have hstands := (stands_of_notice h).2
        obtain ⟨rfl, hn⟩ := did_notice h
        exact .opened hd hdial hx hn hstands
    · cases he

/-- Opening a link gives up the one there was, and then goes in one of the ways of
`Opening`. -/
theorem opening_of_handshake {s t : Session ω} {r : Except Fault Unit}
    (h : Yields handshake s r t) :
    ∃ es u fs, Dropping s es u ∧ u.connection = none ∧ Opening u r fs t := by
  have dropped : ∀ {u : Session ω}, Yields dropLink s (.ok () : Except Fault Unit) u →
      ∃ es, Dropping s es u ∧ u.connection = none := by
    intro u hd
    obtain ⟨-, es, hes⟩ := dropping_of_dropLink hd
    cases hes with
    | nothing hnone => exact ⟨_, .nothing hnone, hnone⟩
    | closed up hes hdid => exact ⟨_, .closed up hes hdid, hdid.connection⟩
  cases handshaking_of_handshake h with
  | refused hd hdial hdid =>
    obtain ⟨ds, hds, hnone⟩ := dropped hd
    obtain ⟨es, hes, hran⟩ := Connector.dialing_of_dial hdial
    exact ⟨ds, _, _, hds, hnone, .refused hes ⟨hran.trans hdid.ran, hdid.rest⟩⟩
  | @failed _ _ _ u _ _ w hd hdial hx hgs hdid =>
    obtain ⟨ds, hds, hnone⟩ := dropped hd
    obtain ⟨es, hes, hran⟩ := Connector.dialing_of_dial hdial
    have hopen : u.Did es { u with world := w } := ⟨hran, rfl⟩
    obtain ⟨fs, hfs, hfailed⟩ := exchanging_of_exchange hx
    exact ⟨ds, _, _, hds, hnone, .failed hes hfs hgs ((hopen.trans hfailed).trans hdid)⟩
  | @opened number _ u v _ w hd hdial hx hdid hstands =>
    obtain ⟨ds, hds, hnone⟩ := dropped hd
    obtain ⟨es, hes, hran⟩ := Connector.dialing_of_dial hdial
    have hopen : u.Did es { u with world := w } := ⟨hran, rfl⟩
    obtain ⟨fs, hfs, hgreeted⟩ := exchanging_of_exchange hx
    have hup := (hopen.trans hgreeted).update (f := fun s => { s with
      connection := some number, link := s.link + 1,
      keepAlive := s.keepAlive.reset v.world.clock }) fun _ _ => rfl
    exact ⟨ds, _, _, hds, hnone, .opened hes hfs (hup.trans hdid) hstands⟩

/-- How the subscriptions of a registry are sent again over a connection, from the
identifier `id` on: up to the first that cannot be sent. -/
inductive Replaying (connection : Nat) :
    UInt16 → List Registry.Entry → UInt16 → Except Fault Unit → List Event → Prop
  /-- Every entry has been sent. -/
  | done (id : UInt16) : Replaying connection id [] id (.ok ()) []
  /-- A frame that does not fit takes an identifier all the same. -/
  | unpackable {id : UInt16} {entry : Registry.Entry} {entries : List Registry.Entry}
      {fault : Fault} :
      (Outbound.subscribe id entry.filter.text entry.qos).pack frameLimit = .error fault →
      Replaying connection id (entry :: entries) (max (id + 1) 1) (.error fault) []
  /-- The first failed write ends the replay. -/
  | failed {id : UInt16} {entry : Registry.Entry} {entries : List Registry.Entry} {fault : Fault}
      {frame : List UInt8} {es : List Event} :
      (Outbound.subscribe id entry.filter.text entry.qos).pack frameLimit = .ok frame →
      Sending connection frame (.error fault) es →
      Replaying connection id (entry :: entries) (max (id + 1) 1) (.error fault) es
  /-- An entry went out under the next identifier, and the rest follows. -/
  | sent {id id' : UInt16} {entry : Registry.Entry} {entries : List Registry.Entry}
      {frame : List UInt8} {r : Except Fault Unit} {es fs : List Event} :
      (Outbound.subscribe id entry.filter.text entry.qos).pack frameLimit = .ok frame →
      Sending connection frame (.ok ()) es →
      Replaying connection (max (id + 1) 1) entries id' r fs →
      Replaying connection id (entry :: entries) id' r (es ++ fs)

/-- One subscription is sent again with the next identifier, which is used up in any case. -/
theorem sending_of_entry {connection : Nat} {entry : Registry.Entry} {s t : Session ω}
    {r : Except Fault Unit}
    (h : Yields (do
      let id ← nextPacketId
      sendFrame connection (← packed (.subscribe id entry.filter.text entry.qos))) s r t) :
    (∃ fault, r = .error fault ∧
        (Outbound.subscribe s.packetId entry.filter.text entry.qos).pack frameLimit =
          .error fault ∧ t = { s with packetId := max (s.packetId + 1) 1 }) ∨
      ∃ frame es,
        (Outbound.subscribe s.packetId entry.filter.text entry.qos).pack frameLimit = .ok frame ∧
          Sending connection frame r es ∧
            Did { s with packetId := max (s.packetId + 1) 1 } es t := by
  simp only [nextPacketId, bind_assoc, yields_get_bind, yields_modify_bind, pure_bind, packed] at h
  rcases yields_bind.1 h with ⟨fault, hp, rfl⟩ | ⟨frame, u, hp, h⟩
  · obtain ⟨hpack, rfl⟩ := yields_ofExcept.1 hp
    exact .inl ⟨fault, rfl, hpack.symm, rfl⟩
  · obtain ⟨hpack, rfl⟩ := yields_ofExcept.1 hp
    obtain ⟨es, hes, hdid⟩ := sending_of_sendFrame h
    exact .inr ⟨frame, es, hpack.symm, hes, hdid⟩

/-- Sending a subscription for each of some entries goes in one of the ways of
`Replaying`: with consecutive identifiers, up to the first that fails. -/
theorem replaying_of_forM {connection : Nat} {entries : List Registry.Entry} {s t : Session ω}
    {r : Except Fault Unit}
    (h : Yields (entries.forM fun entry => do
      let id ← nextPacketId
      sendFrame connection (← packed (.subscribe id entry.filter.text entry.qos))) s r t) :
    ∃ id es, Replaying connection s.packetId entries id r es ∧
      Did { s with packetId := id } es t := by
  induction entries generalizing s with
  | nil =>
    obtain ⟨rfl, rfl⟩ := yields_pure.1 h
    exact ⟨_, _, .done _, .refl _⟩
  | cons entry entries ih =>
    rcases yields_bind.1 h with ⟨fault, hs, rfl⟩ | ⟨⟨⟩, v, hs, h⟩
    · rcases sending_of_entry hs with ⟨_, ⟨⟩, hpack, rfl⟩ | ⟨frame, es, hpack, hes, hdid⟩
      · exact ⟨_, _, .unpackable hpack, .refl _⟩
      · exact ⟨_, _, .failed hpack hes, hdid⟩
    · rcases sending_of_entry hs with ⟨_, he, -⟩ | ⟨frame, es, hpack, hes, hsent⟩
      · cases he
      · obtain ⟨id, fs, hfs, hdid⟩ := ih h
        rw [hsent.packetId] at hfs
        have hnext := hsent.update (f := fun s => { s with packetId := id }) fun _ _ => rfl
        exact ⟨_, _, .sent hpack hes hfs, hnext.trans hdid⟩

/-- Sending the subscriptions of a registry again is doing so for its entries in their
order. -/
theorem replaying_of_replay {connection : Nat} {s t : Session ω} {r : Except Fault Unit}
    (up : s.connection = some connection) (h : Yields replay s r t) :
    ∃ id es, Replaying connection s.packetId s.registry.entries id r es ∧
      Did { s with packetId := id } es t := by
  simp only [replay, yields_get_bind, up] at h
  exact replaying_of_forM h

/-- Without subscriptions, nothing is sent again. -/
theorem replay_of_empty {s t : Session ω} {r : Except Fault Unit} (up : s.connection.isSome)
    (none : s.registry.size = 0) (h : Yields replay s r t) : t = s := by
  obtain ⟨connection, hup⟩ := Option.isSome_iff_exists.1 up
  simp only [replay, yields_get_bind, hup, Registry.replay, List.length_eq_zero_iff.1 none] at h
  exact (yields_pure.1 h).2

/-- How a session opens a link anew and restores its subscriptions. -/
inductive Reconnecting (s : Session ω) : Except Fault Unit → List Event → Session ω → Prop
  /-- The old link is dropped and no new one came up. -/
  | unopened {fault : Fault} {es fs : List Event} {u t : Session ω} :
      Dropping s es u → u.connection = none → Opening u (.error fault) fs t →
      Reconnecting s (.error fault) (es ++ fs) t
  /-- The new link came up but a subscription could not be sent again, so it is given
  up. -/
  | abandoned {connection : Nat} {id : UInt16} {fault : Fault} {es fs gs hs : List Event}
      {u v t : Session ω} :
      Dropping s es u → u.connection = none → Opening u (.ok ()) fs v →
      v.connection = some connection →
      Replaying connection v.packetId v.registry.entries id (.error fault) gs →
      Closing connection hs →
      Did { v with packetId := id, connection := none }
        (gs ++ .notice (.resubscribeFailed fault) :: hs) t →
      Reconnecting s (.error fault)
        (es ++ fs ++ (gs ++ .notice (.resubscribeFailed fault) :: hs)) t
  /-- The new link is up with all its subscriptions, and its timers start once more. -/
  | restored {connection : Nat} {id : UInt16} {now : UInt32} {es fs gs hs : List Event}
      {u v t : Session ω} :
      Dropping s es u → u.connection = none → Opening u (.ok ()) fs v →
      v.connection = some connection →
      Replaying connection v.packetId v.registry.entries id (.ok ()) gs →
      hs = (if v.registry.size = 0 then [] else [.notice (.restored v.registry.size)]) →
      Did { v with packetId := id, keepAlive := v.keepAlive.reset now } (gs ++ hs) t →
      t.world.StandsAt now → Reconnecting s (.ok ()) (es ++ fs ++ (gs ++ hs)) t

omit [Environment ω] in
/-- A link that opens uses the connection that was opened for it, the next one in the
count. -/
theorem Opening.connection {s t : Session ω} {es : List Event} (h : Opening s (.ok ()) es t) :
    t.connection = some (s.world.opened + 1) := by
  cases h with
  | opened hdial _ hdid =>
    have hnumber := hdid.connection
    generalize s.connector = connector at hdial
    cases hdial with
    | opened => exact hnumber
    | secured => exact hnumber

omit [Environment ω] in
/-- A link has just come up when its timers start. -/
theorem Opening.keepAlive {s t : Session ω} {es : List Event} (h : Opening s (.ok ()) es t) :
    t.keepAlive = s.keepAlive.reset t.world.clock ∧ t.world.StandsAt t.world.clock := by
  cases h with
  | opened _ _ hdid hstands =>
    rw [hstands.clock]
    exact ⟨hdid.keepAlive, hstands⟩

/-- **Connecting anew goes in one of the ways of `Reconnecting`.** -/
theorem reconnecting_of_reconnect {s t : Session ω} {r : Except Fault Unit}
    (h : Yields reconnect s r t) : ∃ es, Reconnecting s r es t := by
  rw [reconnect] at h
  rcases yields_bind.1 h with ⟨fault, hh, rfl⟩ | ⟨⟨⟩, v, hh, h⟩
  · obtain ⟨es, u, fs, hes, hnone, hfs⟩ := opening_of_handshake hh
    exact ⟨_, .unopened hes hnone hfs⟩
  · obtain ⟨es, u, fs, hes, hnone, hfs⟩ := opening_of_handshake hh
    have hup := hfs.connection
    obtain ⟨x, w, hr, h⟩ := yields_attempt_bind.1 h
    obtain ⟨id, gs, hgs, hdid⟩ := replaying_of_replay hup hr
    cases x with
    | error fault =>
      obtain ⟨x, hn, h⟩ := yields_notice_bind h
      rcases yields_bind.1 h with ⟨_, hd, -⟩ | ⟨⟨⟩, y, hd, h⟩
      · exact absurd (dropping_of_dropLink hd).1 (by simp)
      · obtain ⟨rfl, rfl⟩ := yields_throw_bind.1 h
        obtain ⟨hs, hdrop⟩ := (dropping_of_dropLink hd).2
        have hx : x.connection = some (u.world.opened + 1) := by
          rw [hn.connection, hdid.connection]
          exact hup
        -- The replay does not touch the link, so there is one to drop.
        cases hdrop with
        | nothing hno =>
          rw [hx] at hno
          cases hno
        | closed hsome hhs hclosed =>
          rw [hx] at hsome
          cases hsome
          have hsent := (hdid.trans hn).update
            (f := fun s => { s with connection := none }) fun _ _ => rfl
          have hall := hsent.trans hclosed
          rw [List.append_assoc] at hall
          exact ⟨_, .abandoned hes hnone hfs hup hgs hhs hall⟩
    | ok a =>
      simp only [restartKeepAlive, yields_modify_bind, yields_get_bind] at h
      have hreset := hdid.update
        (f := fun s => { s with keepAlive := s.keepAlive.reset w.world.clock }) fun _ _ => rfl
      have hsize : w.registry.size = v.registry.size := by rw [hdid.registry]
      split at h
      case isTrue hsome =>
        have hstands := (stands_of_notice h).2
        obtain ⟨rfl, hn⟩ := did_notice h
        rw [hsize] at hsome hn
        exact ⟨_, .restored hes hnone hfs hup hgs (if_neg hsome).symm (hreset.trans hn) hstands⟩
      case isFalse hnone' =>
        obtain ⟨rfl, rfl⟩ := yields_pure.1 h
        rw [hsize] at hnone'
        have hempty := Decidable.not_not.1 hnone'
        -- Nothing was replayed and nothing told, so the last thing done is still the opening.
        have hstands : w.world.StandsAt w.world.clock := by
          rw [replay_of_empty (by simp [hup]) hempty hr]
          exact hfs.keepAlive.2
        rw [← List.append_nil gs] at hreset
        exact ⟨_, .restored hes hnone hfs hup hgs (if_pos hempty).symm hreset hstands⟩

omit [Environment ω] in
/-- A session that could connect anew is connected. -/
theorem Reconnecting.isConnected {s t : Session ω} {es : List Event}
    (h : Reconnecting s (.ok ()) es t) : t.isConnected = true := by
  cases h with
  | restored _ _ _ up _ _ hdid =>
    have hup := hdid.connection.trans up
    rw [Session.isConnected, hup]
    rfl

/-- A session that connected anew is connected: the link that was opened is still there
after the subscriptions were sent. -/
theorem isConnected_of_reconnect {s t : Session ω} (h : Yields reconnect s (.ok ()) t) :
    t.isConnected = true := by
  obtain ⟨es, hes⟩ := reconnecting_of_reconnect h
  exact hes.isConnected

end Session
end Mqtt
