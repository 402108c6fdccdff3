/-
# What a failed operation leaves behind

An operation of a session fails in one of two ways, and the fault says in which.

| fault | what was done | the link |
| --- | --- | --- |
| harmless (`Fault.isHarmless`) | nothing | as it was |
| any other | up to the failure | closed |

The registry is as it was in both (`failure_step`).  That a link is not only given up
but closed follows from the accounts of connections: a history that they accept has
closed every connection but the one that is open in the end (`Tally.closed`).
-/
import Mathlib.Data.List.Induction
import Mqtt.Proofs.Session.Accounts
import Mqtt.Proofs.Session.Restoration
import Mqtt.Proofs.Settings
import Mqtt.Script

namespace Mqtt

/-- The fault is found before anything is done to the world. -/
def Fault.isHarmless : Fault → Bool
  | .invalidTopic | .topicTooLong | .notConnected | .bufferTooSmall | .malformedRemainingLength =>
    true
  | _ => false

/-- A message in the packet has an identifier exactly at level 1. -/
def Outbound.IsIdentified (packet : Outbound) : Prop :=
  ∀ p, packet = .publish p → (p.packetId.isSome ↔ p.qos = .atLeastOnce)

/-- Only a message can lack an identifier it should have, so packets of other kinds have
what they need. -/
theorem Outbound.isIdentified_of_kind {packet : Outbound} (other : packet.kind ≠ .publish) :
    packet.IsIdentified := by
  rintro p rfl
  exact absurd rfl other

/-- A packet that cannot be packed fails harmlessly. -/
theorem Outbound.harmless_of_pack {packet : Outbound} {capacity : Nat} {fault : Fault}
    (identified : packet.IsIdentified) (h : packet.pack capacity = .error fault) :
    fault.isHarmless = true := by
  cases hframe : packet.frame with
  | ok frame =>
    simp only [pack, hframe, bind, Except.bind] at h
    rcases Frame.fault_of_pack h with rfl | rfl <;> rfl
  | error refused =>
    simp only [pack, hframe, bind, Except.bind] at h
    cases h
    cases packet with
    | publish p =>
      have hid := identified p rfl
      obtain ⟨topic, payload, qos, packetId, retain, dup⟩ := p
      simp only [frame, Publish.frame] at hframe
      split at hframe
      · cases hframe
        rfl
      · cases qos <;> cases packetId <;> simp at hid <;> cases hframe
    | subscribe id filter qos =>
      simp only [frame] at hframe
      split at hframe <;> cases hframe
      rfl
    | _ => cases hframe

namespace Tally

/-- What an event leaves open was open, or has just been opened. -/
theorem held_of_count {tally next : Tally} {event : Event} {c : Nat}
    (accepted : tally.count event = some next) :
    tally.opened ≤ next.opened ∧
      (c ≤ next.opened → tally.opened < c → next.current = some c) ∧
      (tally.current = some c → next.current = some c ∨ event.io? c = some .close) := by
  obtain ⟨n, current⟩ := tally
  cases event with
  | connect host tcpPort timeout r =>
    cases r with
    | ok a =>
      cases current with
      | none =>
        obtain rfl := Option.some.inj accepted
        refine ⟨Nat.le_succ n, fun hold hnew => ?_, fun held => nomatch held⟩
        rw [Nat.le_antisymm hold hnew]
      | some c => cases accepted
    | error fault =>
      obtain rfl := Option.some.inj accepted
      exact ⟨Nat.le_refl n, fun hold hnew => absurd hold (Nat.not_le.2 hnew), .inl⟩
  | close d =>
    obtain ⟨rfl, hnext⟩ := Option.ite_none_right_eq_some.1 accepted
    obtain rfl := Option.some.inj hnext
    refine ⟨Nat.le_refl n, fun hold hnew => absurd hold (Nat.not_le.2 hnew), fun held => .inr ?_⟩
    cases held
    exact if_pos rfl
  | secure | read | write | flush =>
    obtain ⟨-, hnext⟩ := Option.ite_none_right_eq_some.1 accepted
    obtain rfl := Option.some.inj hnext
    exact ⟨Nat.le_refl n, fun hold hnew => absurd hold (Nat.not_le.2 hnew), .inl⟩
  | _ =>
    obtain rfl := Option.some.inj accepted
    exact ⟨Nat.le_refl n, fun hold hnew => absurd hold (Nat.not_le.2 hnew), .inl⟩

/-- **Accounts that accept a history say what it closed.**  Everything that was open or
was opened is closed in the end, and the close is the last thing done to it, but for the
one connection that is still open. -/
theorem closed {tally next : Tally} {es : List Event} (accepted : tally.add es = some next)
    {c : Nat} (held : tally.current = some c ∨ tally.opened < c ∧ c ≤ next.opened) :
    next.current = some c ∨ ∃ io, conversation c es = io ++ [.close] := by
  -- From the end of the history, since what was done last to a connection is asked for.
  induction es using List.reverseRecOn generalizing next with
  | nil =>
    obtain rfl := Option.some.inj accepted
    rcases held with held | ⟨hnew, hold⟩
    · exact .inl held
    · omega
  | append_singleton es event ih =>
    rw [add_append] at accepted
    obtain ⟨mid, hmid, hlast⟩ := Option.bind_eq_some_iff.1 accepted
    rw [add_cons] at hlast
    obtain ⟨last, hevent, hnil⟩ := Option.bind_eq_some_iff.1 hlast
    obtain rfl : last = next := Option.some.inj hnil
    obtain ⟨-, hopened, hkept⟩ := held_of_count (c := c) hevent
    by_cases hup : mid.current = some c
    · -- The event is the close, or leaves the connection open.
      refine (hkept hup).imp_right fun hclose => ⟨conversation c es, ?_⟩
      rw [conversation_append, conversation_cons, hclose]
      rfl
    · have hquiet : event.io? c = none := by
        cases hio : event.io? c with
        | none => rfl
        | some io => exact absurd (current_of_count hevent (by rw [hio]; rfl)) hup
      have hsame : conversation c (es ++ [event]) = conversation c es := by
        rw [conversation_append, conversation_cons, hquiet]
        exact List.append_nil _
      by_cases hnew : mid.opened < c ∧ c ≤ last.opened
      · exact .inl (hopened hnew.2 hnew.1)
      · have hheld : tally.current = some c ∨ tally.opened < c ∧ c ≤ mid.opened :=
          held.imp_right fun h => ⟨h.1, Nat.not_lt.1 fun hlt => hnew ⟨hlt, h.2⟩⟩
        rw [hsame]
        exact .inr ((ih hmid hheld).resolve_left hup)

end Tally

namespace Session

open Mqtt.Action

variable {ω : Type}

/-- A run of steps is accepted by the accounts. -/
theorem Path.tally {allowed : Doing → Prop} {s t : Session ω} {es : List Event}
    (h : Path allowed s es t) : s.tally.add es = some t.tally := by
  induction h with
  | refl => rfl
  | snoc _ _ step ih =>
    rw [Tally.add_append, ih]
    exact step.tally

/-! ### Failures of the parts -/

/-- Sending fails in no harmless way: something was handed to the connection, or was to
be. -/
theorem Sending.harmful {connection : Nat} {frame : List UInt8} {fault : Fault} {es : List Event}
    (h : Sending connection frame (.error fault) es) : fault.isHarmless = false := by
  cases h <;> rfl

/-- How an operation fails, but for what it closes: either nothing was done and at most
an identifier was taken, or the session is left without a link. -/
inductive Failure (s : Session ω) (fault : Fault) (t : Session ω) : Prop
  /-- The fault touched nothing but the counter of the identifiers. -/
  | harmless (kind : fault.isHarmless = true) (same : t = { s with packetId := t.packetId })
  /-- The fault cost the link. -/
  | harmful (kind : fault.isHarmless = false) (down : t.connection = none)

/-- A packet that is not sent fails harmlessly exactly if nothing was tried. -/
theorem Transmitting.failure {packet : Outbound} {fault : Fault} {s t : Session ω}
    {es : List Event} (identified : packet.IsIdentified)
    (h : Transmitting packet s (.error fault) es t) : s.Failure fault t := by
  cases h with
  | unpackable hpack => exact .harmless (Outbound.harmless_of_pack identified hpack) rfl
  | notConnected => exact .harmless rfl rfl
  | failed _ _ hes _ hdid => exact .harmful hes.harmful hdid.connection

/-- Taking an identifier first is harmless too. -/
theorem Failure.of_identified {fault : Fault} {s t : Session ω} {id : UInt16}
    (h : Failure { s with packetId := id } fault t) : s.Failure fault t := by
  cases h with
  | harmless kind same => exact .harmless kind same
  | harmful kind down => exact .harmful kind down

/-- A call to publish that fails either did nothing but take an identifier, or has lost
the link. -/
theorem Publishing.failure {topic : String} {payload : List UInt8} {qos : QoS} {fault : Fault}
    {s t : Session ω} {es : List Event} (h : Publishing topic payload qos s (.error fault) es t) :
    s.Failure fault t := by
  cases h with
  | invalid => exact .harmless rfl rfl
  | notConnected => exact .harmless rfl rfl
  | failed _ _ hsent =>
    have hfail := hsent.failure (by rintro _ ⟨⟩; exact s.identified_outgoing topic payload qos)
    cases qos with
    | atMostOnce => exact hfail
    | atLeastOnce => exact hfail.of_identified

/-- A call to subscribe that fails either did nothing but take an identifier, or has lost
the link; in both cases the subscription is not kept. -/
theorem Subscribing.failure {filter : String} {qos : QoS} {fault : Fault} {s t : Session ω}
    {es : List Event} (h : Subscribing filter qos s (.error fault) es t) :
    s.Failure fault t ∧ t.registry = s.registry := by
  cases h with
  | empty => exact ⟨.harmless rfl rfl, rfl⟩
  | tooLong => exact ⟨.harmless rfl rfl, rfl⟩
  | notConnected => exact ⟨.harmless rfl rfl, rfl⟩
  | failed _ _ _ hsent =>
    have hfailure := hsent.failure (Outbound.isIdentified_of_kind (by simp [Outbound.kind]))
    exact ⟨hfailure.of_identified, hsent.registry⟩

/-- A link that cannot be kept alive is gone. -/
theorem KeepingAlive.failure {time : UInt32} {fault : Fault} {s t : Session ω} {es : List Event}
    (h : KeepingAlive time s (.error fault) es t) :
    s.Failure fault t ∧ t.connection = none := by
  cases h with
  | unsent _ hsent =>
    refine ⟨hsent.failure (Outbound.isIdentified_of_kind (by simp [Outbound.kind])), ?_⟩
    cases hsent with
    | unpackable hpack =>
      rw [Outbound.pack_pingReq (by decide)] at hpack
      cases hpack
    | notConnected down => exact down
    | failed _ _ _ _ hdid => exact hdid.connection
  | dead _ _ hdrop => exact ⟨.harmful rfl hdrop.down, hdrop.down⟩

/-- Every request to open a session fits a frame. -/
theorem packs_connect (settings : Settings) :
    ∃ frame, (Outbound.connect settings.connect).pack frameLimit = .ok frame := by
  obtain ⟨bytes, -, hfits⟩ := settings.exists_pack_connect
  have hpack := hfits (List.replicate frameLimit 0)
  rw [List.length_replicate] at hpack
  exact ⟨bytes, (hpack (by decide)).1⟩

/-- Opening a link that fails leaves none. -/
theorem Opening.down {fault : Fault} {s t : Session ω} {es : List Event}
    (down : s.connection = none) (h : Opening s (.error fault) es t) : t.connection = none := by
  cases h with
  | refused _ hdid => exact hdid.connection.trans down
  | failed _ _ _ hdid => exact hdid.connection.trans down

/-- Sending subscriptions again fails in no harmless way, since each of them fits a frame. -/
theorem Replaying.harmful {connection : Nat} {id last : UInt16} {entries : List Registry.Entry}
    {fault : Fault} {es : List Event}
    (h : Replaying connection id entries last (.error fault) es) : fault.isHarmless = false := by
  generalize hr : (Except.error fault : Except Fault Unit) = r at h
  induction h with
  | done => cases hr
  | @unpackable id entry _ _ hpack =>
    obtain ⟨frame, hframe⟩ := packs_entry id entry
    rw [hframe] at hpack
    cases hpack
  | failed _ hes =>
    cases hr
    exact hes.harmful
  | sent _ _ _ ih => exact ih hr

variable [Environment ω]

/-- Reading an exact number of bytes fails as a timeout or as a read error. -/
theorem fault_of_fill {connection missing : Nat} {started timeout : UInt32} {s t : Session ω}
    {fault : Fault} (h : Yields (fill connection started timeout missing) s (.error fault) t) :
    fault = .timeout ∨ fault = .readError := by
  obtain ⟨es, hes⟩ := filling_of_fill h
  exact hes.fault

/-- An exchange of CONNECT and its answer fails in no harmless way: whatever settings ask
for, their request fits a frame. -/
theorem fault_of_exchange {connection : Nat} {s t : Session ω} {fault : Fault}
    (h : Yields (exchange connection) s (.error fault) t) : fault.isHarmless = false := by
  have harmful : ∀ {u v : Session ω} {started timeout : UInt32},
      Yields (fill connection started timeout 2) u (.error fault) v → fault.isHarmless = false := by
    intro u v started timeout hf
    rcases fault_of_fill hf with rfl | rfl <;> rfl
  generalize hr : (Except.error fault : Except Fault Bool) = r at h
  cases greeting_of_exchange h with
  | unpackable hpack =>
    obtain ⟨frame, hframe⟩ := packs_connect s.settings
    exact nomatch hpack.symm.trans hframe
  | unsent _ hs =>
    cases hr
    obtain ⟨es, hes, -⟩ := sending_of_sendFrame hs
    exact hes.harmful
  | headless _ _ hf =>
    cases hr
    exact harmful hf
  | unexpected =>
    cases hr
    rfl
  | bodiless _ _ _ _ hb =>
    cases hr
    exact harmful hb
  | answered _ _ _ announces hb =>
    obtain ⟨gs, more, -, -, hmore⟩ := hearing_of_fill hb
    obtain ⟨rfl, hbody⟩ := hmore _ rfl
    obtain ⟨refusal, rfl⟩ := refusal_of_readConnAck hbody announces hr.symm
    rfl

/-- A handshake fails in no harmless way. -/
theorem fault_of_handshake {s t : Session ω} {fault : Fault}
    (h : Yields handshake s (.error fault) t) : fault.isHarmless = false := by
  generalize hr : (Except.error fault : Except Fault Unit) = r at h
  cases handshaking_of_handshake h with
  | refused =>
    cases hr
    rfl
  | failed _ _ hx =>
    cases hr
    exact fault_of_exchange hx
  | opened => cases hr

/-- Connecting anew fails in no harmless way, wherever it fails. -/
theorem fault_of_reconnect {s t : Session ω} {fault : Fault}
    (h : Yields reconnect s (.error fault) t) : fault.isHarmless = false := by
  rw [reconnect] at h
  rcases yields_bind.1 h with ⟨_, hh, he⟩ | ⟨⟨⟩, u, hh, h⟩
  · cases he
    exact fault_of_handshake hh
  obtain ⟨_, _, _, -, -, hopen⟩ := opening_of_handshake hh
  obtain ⟨x, v, hr, h⟩ := yields_attempt_bind.1 h
  obtain ⟨id, es, hes, -⟩ := replaying_of_replay hopen.connection hr
  cases x with
  | error refused =>
    obtain ⟨w, -, h⟩ := yields_notice_bind h
    rcases yields_bind.1 h with ⟨_, hd, -⟩ | ⟨⟨⟩, y, -, h⟩
    · exact absurd (dropping_of_dropLink hd).1 (by simp)
    · cases (yields_throw_bind.1 h).1
      exact hes.harmful
  | ok a =>
    simp only [restartKeepAlive, yields_modify_bind, yields_get_bind] at h
    split at h
    · cases (did_notice h).1
    · cases (yields_pure.1 h).1

/-! ### Failures of the operations -/

/-- The move calls one of the operations that talk to the broker and may fail. -/
def Move.isOperation : Move ω → Bool
  | .publish .. | .subscribe .. | .acknowledge _ | .serviceKeepAlive _ | .handshake | .reconnect =>
    true
  | _ => false

/-- A handshake that fails leaves no link, and the registry as it was. -/
theorem failure_of_handshake {s t : Session ω} {fault : Fault}
    (h : Yields handshake s (.error fault) t) :
    s.Failure fault t ∧ t.registry = s.registry := by
  obtain ⟨es, u, fs, hdrop, down, hopen⟩ := opening_of_handshake h
  exact ⟨.harmful (fault_of_handshake h) (hopen.down down),
    hopen.registry.1.trans hdrop.registry.1⟩

/-- Connecting anew that fails leaves no link, and the registry as it was. -/
theorem failure_of_reconnect {s t : Session ω} {fault : Fault}
    (h : Yields reconnect s (.error fault) t) :
    s.Failure fault t ∧ t.registry = s.registry := by
  obtain ⟨es, hes⟩ := reconnecting_of_reconnect h
  refine ⟨.harmful (fault_of_reconnect h) ?_, hes.registry⟩
  cases hes with
  | unopened _ down hopen => exact hopen.down down
  | abandoned _ _ _ _ _ _ hdid => exact hdid.connection

/-- However an operation fails, the registry stays. -/
theorem failure_of_yields {s t : Session ω} {move : Move ω} {fault : Fault}
    (operation : move.isOperation = true) (h : Yields (act move) s (.error fault) t) :
    s.Failure fault t ∧ t.registry = s.registry := by
  cases move with
  | handshake => exact failure_of_handshake h
  | reconnect => exact failure_of_reconnect h
  | publish topic payload qos =>
    obtain ⟨es, hes⟩ := publishing_of_publish h
    exact ⟨hes.failure, hes.registry⟩
  | subscribe filter qos =>
    rcases yields_bind.1 h with ⟨_, hs, he⟩ | ⟨_, _, -, h⟩
    · cases he
      obtain ⟨es, hes⟩ := subscribing_of_subscribe hs
      exact hes.failure
    · cases (yields_pure.1 h).1
  | acknowledge packetId =>
    obtain ⟨es, hes⟩ := transmitting_of_transmit h
    exact ⟨hes.failure (Outbound.isIdentified_of_kind (by simp [Outbound.kind])), hes.registry⟩
  | serviceKeepAlive time =>
    obtain ⟨es, hes⟩ := keepingAlive_of_serviceKeepAlive h
    exact ⟨hes.failure.1, hes.registry⟩
  | _ => cases operation

/-- **What a failed operation leaves behind.**  Whatever the session and the environment
are, the registry stays, and the fault tells the rest.  A harmless one says that
nothing was done: the world, the link and the timers are as they were, and only an
identifier may have been used up.  Any other says that the session has no link and that
every connection it held or opened on the way was closed, with nothing done to it
afterwards.  Opening a link never fails harmlessly, and keeping one alive never fails
without giving it up. -/
theorem failure_step (s : Session ω) (move : Move ω) (fault : Fault)
    (operation : move.isOperation = true) (failed : s.outcome move = .error fault) :
    (s.step move).registry = s.registry ∧
      (fault.isHarmless = true →
        s.step move = { s with packetId := (s.step move).packetId }) ∧
      (fault.isHarmless = false → (s.step move).connection = none ∧
        ∃ es, s.world.Ran es (s.step move).world ∧
          ∀ c, s.connection = some c ∨ s.world.opened < c ∧ c ≤ (s.step move).world.opened →
            ∃ io, conversation c es = io ++ [.close]) ∧
      (move.opens = true → fault.isHarmless = false) ∧
      (∀ time, move = .serviceKeepAlive time → (s.step move).connection = none) := by
  have h := yields_outcome s move
  rw [failed] at h
  obtain ⟨hfailure, hregistry⟩ := failure_of_yields operation h
  refine ⟨hregistry, fun kind => ?_, fun kind => ?_, fun opens => ?_, ?_⟩
  · cases hfailure with
    | harmless _ same => exact same
    | harmful kind' => exact nomatch kind.symm.trans kind'
  · cases hfailure with
    | harmless kind' => exact nomatch kind.symm.trans kind'
    | harmful _ down =>
      obtain ⟨es, hes⟩ := path_step s move
      refine ⟨down, es, hes.ran, fun c held => ?_⟩
      exact (Tally.closed hes.tally held).resolve_left fun up => nomatch down.symm.trans up
  · cases move with
    | handshake => exact fault_of_handshake h
    | reconnect => exact fault_of_reconnect h
    | _ => cases opens
  · rintro time rfl
    obtain ⟨es, hes⟩ := keepingAlive_of_serviceKeepAlive h
    exact hes.failure.2

/-- A broker whose certificate is rejected, met while another connection is open. -/
theorem failure_step_rejected :
    let s : Session Script :=
      { Session.new (.tls {}) default ⟨{ tlsRejects := true }, 0, 1, []⟩ with connection := some 1 }
    s.outcome .reconnect = .error .connectFailed ∧ (s.step .reconnect).connection = none ∧
      ∃ es, s.world.Ran es (s.step .reconnect).world ∧
        (∃ io, conversation 1 es = io ++ [.close]) ∧ ∃ io, conversation 2 es = io ++ [.close] := by
  intro s
  have failed : s.outcome .reconnect = .error .connectFailed := by decide +kernel
  have opened : (s.step .reconnect).world.opened = 2 := by decide +kernel
  obtain ⟨-, -, harmful, -, -⟩ := failure_step s .reconnect .connectFailed rfl failed
  obtain ⟨down, es, ran, closed⟩ := harmful rfl
  exact ⟨failed, down, es, ran, closed 1 (.inl rfl),
    closed 2 (.inr ⟨by decide, Nat.le_of_eq opened.symm⟩)⟩

end Session
end Mqtt
