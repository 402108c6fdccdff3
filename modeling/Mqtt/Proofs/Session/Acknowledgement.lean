/-
# Acknowledgements

`Answered` says where an acknowledgement may stand in the history: right after the
frame of the message it answers, on the connection that frame came over.  Only a
worker writes acknowledgements, so for every other step it is enough to write none
(`Step.unacknowledged`): what opens a link or sends over it moves frames of one kind and
does nothing else (`Transfers`).  Beside it stand the frame conditions of the steps that
open no link: they touch no connection but the link's (`Step.others`), and outside
a client that runs they leave the timers alone (`Path.keepAlive`).
-/
import Mqtt.Proofs.Session.Link

namespace Mqtt

/-- The event hands over an acknowledgement. -/
def Event.isAck : Event → Bool
  | .write _ bytes _ => decide (kindOf? bytes = some .pubAck)
  | _ => false

/-- Every acknowledgement is written right after the frame of the message that it
answers was taken, to the connection that frame came over. -/
def Answered (events : List Event) : Prop :=
  ∀ before c frame result after, events = before ++ .write c frame result :: after →
    kindOf? frame = some .pubAck →
      ∃ earlier bytes message id, before = earlier ++ [.frame c bytes] ∧
        Inbound.decode bytes = .ok (.publish message) ∧ message.packetId = some id ∧
          (Outbound.pubAck id).pack Session.frameLimit = .ok frame

/-- A stretch of the history without acknowledgements has them all in their place. -/
theorem answered_of_without {es : List Event} (h : Without Event.isAck es) : Answered es := by
  rintro before c frame result after rfl hkind
  have hno := h _ (List.mem_append_right _ List.mem_cons_self)
  simp [Event.isAck, hkind] at hno

namespace Answered

variable {es fs : List Event}

/-- Two stretches that have theirs in their place have them together, for the frame that
is answered is in the same stretch as its answer. -/
theorem append (h : Answered es) (h' : Answered fs) : Answered (es ++ fs) := by
  intro before c frame result after hsplit hkind
  rcases append_eq_append_cons hsplit with ⟨rest, hes, -⟩ | ⟨rest, rfl, hfs⟩
  · exact h before c frame result rest hes hkind
  · obtain ⟨earlier, bytes, message, id, rfl, hpublish⟩ := h' rest c frame result after hfs hkind
    exact ⟨es ++ earlier, bytes, message, id, (List.append_assoc ..).symm, hpublish⟩

/-- A message that is acknowledged at once is answered. -/
theorem acknowledged {c : Nat} {bytes frame : List UInt8} {message : Publish} {id : UInt16}
    {result : Except NetFault Nat} (decoded : Inbound.decode bytes = .ok (.publish message))
    (asked : message.packetId = some id)
    (hpack : (Outbound.pubAck id).pack Session.frameLimit = .ok frame)
    (h : Without Event.isAck es) : Answered (.frame c bytes :: .write c frame result :: es) := by
  intro before c' frame' result' after hsplit hkind
  rcases before with _ | ⟨first, _ | ⟨second, before⟩⟩
  · cases hsplit
  · obtain ⟨rfl, hrest⟩ := List.cons.inj hsplit
    obtain ⟨⟨⟩, -⟩ := List.cons.inj hrest
    exact ⟨[], bytes, message, id, rfl, decoded, asked, hpack⟩
  · obtain ⟨-, hrest⟩ := List.cons.inj hsplit
    obtain ⟨-, rfl⟩ := List.cons.inj hrest
    have hno := h _ (List.mem_append_right _ List.mem_cons_self)
    simp [Event.isAck, hkind] at hno

end Answered

/-- The notice tells how opening a link, or moving a frame over a connection, went wrong. -/
def Notice.isMishap : Notice → Bool
  | .tlsDialFailed .. | .tlsRejected .. | .dialFailed .. | .unexpectedHead _ | .handshakeFailed _
  | .resubscribeFailed _ | .writeFailed _ | .shortWrite .. | .flushFailed _ | .readFailed _
  | .closeFailed _ => true
  | _ => false

/-- The event is put to the network or tells how that went wrong; a frame that it writes
is of the kind. -/
def Event.isTransfer (kind : Kind) : Event → Bool
  | .connect .. | .secure .. | .read .. | .flush .. | .close _ => true
  | .write _ bytes _ => kindOf? bytes = some kind
  | .notice n => n.isMishap
  | _ => false

/-- Frames of one kind are moved, and nothing else is done. -/
def Transfers (kind : Kind) (es : List Event) : Prop :=
  ∀ e ∈ es, e.isTransfer kind = true

namespace Transfers

variable {kind : Kind} {es fs : List Event}

/-- Doing nothing moves frames of any kind. -/
theorem nil : Transfers kind [] := fun _ he => nomatch he

/-- Two stretches that move frames of one kind move frames of that kind together. -/
theorem append (h : Transfers kind es) (h' : Transfers kind fs) : Transfers kind (es ++ fs) :=
  fun e he => (List.mem_append.1 he).elim (h e) (h' e)

/-- An event may stand in front of such a stretch if it moves a frame of that kind, or
none. -/
theorem cons {event : Event} (h : event.isTransfer kind = true) (h' : Transfers kind es) :
    Transfers kind (event :: es) := fun e he =>
  (List.mem_cons.1 he).elim (fun heq => heq ▸ h) (h' e)

/-- A single event moves frames of a kind if it is one that does. -/
theorem singleton {event : Event} (h : event.isTransfer kind = true) : Transfers kind [event] :=
  cons h nil

/-- Events of a kind that no transfer can be are not among transfers. -/
theorem without {other : Event → Bool} (h : Transfers kind es)
    (apart : ∀ e : Event, e.isTransfer kind = true → other e = false) : Without other es :=
  fun e he => apart e (h e he)

/-- What moves frames of another kind acknowledges nothing. -/
theorem unacknowledged (h : Transfers kind es) (other : kind ≠ .pubAck) :
    Without Event.isAck es := by
  refine h.without fun e he => ?_
  cases e with
  | write c frame result =>
    have hkind : kindOf? frame = some kind := by simpa [Event.isTransfer] using he
    simp [Event.isAck, hkind, other]
  | _ => rfl

end Transfers

/-- Opening a connection moves no frames of any kind. -/
theorem Connector.Dialing.transfers {host : String} {tcpPort : UInt16} {timeout : UInt32}
    {number : Nat} {connector : Connector} {r : Except NetFault Nat} {es : List Event}
    (kind : Kind) (h : Dialing host tcpPort timeout number connector r es) :
    Transfers kind es := by
  cases h <;> simp [Transfers, Event.isTransfer, Notice.isMishap]

namespace Session

variable {ω : Type}

/-- Sending begins with the write, and that is the only one. -/
theorem Sending.eq_cons {connection : Nat} {frame : List UInt8} {r : Except Fault Unit}
    {es : List Event} (h : Sending connection frame r es) :
    ∃ result rest, es = .write connection frame result :: rest ∧ ∀ kind, Transfers kind rest := by
  cases h <;>
    exact ⟨_, _, rfl, fun _ => by simp [Transfers, Event.isTransfer, Notice.isMishap]⟩

/-- Sending a packet moves one frame, which is of the kind of the packet. -/
theorem Sending.transfers {connection : Nat} {frame : List UInt8} {packet : Outbound}
    {r : Except Fault Unit} {es : List Event} (hpack : packet.pack frameLimit = .ok frame)
    (h : Sending connection frame r es) : Transfers packet.kind es := by
  have hkind := kindOf?_of_pack hpack
  cases h <;> simp [Transfers, Event.isTransfer, Notice.isMishap, hkind]

/-- Closing a connection moves no frames of any kind. -/
theorem Closing.transfers {connection : Nat} {es : List Event} (kind : Kind)
    (h : Closing connection es) : Transfers kind es := by
  cases h <;> simp [Transfers, Event.isTransfer, Notice.isMishap]

/-- Closing a connection starts with the close itself, and moves no frames after it. -/
theorem Closing.eq_cons {connection : Nat} {es : List Event} (h : Closing connection es) :
    ∃ rest, es = .close connection :: rest ∧ ∀ kind, Transfers kind rest := by
  cases h with
  | quiet => exact ⟨[], rfl, fun _ => .nil⟩
  | told => exact ⟨_, rfl, fun _ => .singleton rfl⟩

/-- Reading moves no frames of any kind: frames count where they are written. -/
theorem Hearing.transfers {connection : Nat} {es : List Event} {bytes : List UInt8} (kind : Kind)
    (h : Hearing connection es bytes) : Transfers kind es := by
  induction h with
  | nil => exact .nil
  | read _ ih => exact .cons rfl ih
  | failed _ _ ih => exact .cons rfl (.cons rfl ih)

/-- A frame that could not be sent, and the end of its connection. -/
theorem Sending.transfers_closing {connection : Nat} {frame : List UInt8} {packet : Outbound}
    {r : Except Fault Unit} {es ns fs : List Event} (hpack : packet.pack frameLimit = .ok frame)
    (h : Sending connection frame r es)
    (hns : ∀ e ∈ ns, ∃ fault, e = .notice (.resubscribeFailed fault))
    (hfs : Closing connection fs) : Transfers packet.kind (es ++ ns ++ fs) := by
  refine ((h.transfers hpack).append fun e he => ?_).append (hfs.transfers _)
  obtain ⟨fault, rfl⟩ := hns e he
  rfl

/-- An exchange moves the frame of its request and no other. -/
theorem Exchanging.transfers {connection : Nat} {packet : Outbound} {r : Except Fault Bool}
    {es : List Event} (h : Exchanging connection packet r es) : Transfers packet.kind es := by
  cases h with
  | unpackable => exact .nil
  | unsent hpack hes => exact hes.transfers hpack
  | unanswered _ hpack hes hfs => exact (hes.transfers hpack).append (hfs.transfers _)
  | unexpected hpack hes hfs =>
    exact ((hes.transfers hpack).append (hfs.transfers _)).append (.singleton rfl)
  | accepted _ hpack hes hfs => exact (hes.transfers hpack).append (hfs.transfers _)

/-- Opening a link that fails moves CONNECT frames alone. -/
theorem Opening.transfers {s t : Session ω} {fault : Fault} {es : List Event}
    (h : Opening s (.error fault) es t) : Transfers .connect es := by
  cases h with
  | refused hdial => exact (hdial.transfers _).append (.singleton rfl)
  | failed hdial hexchange hclosing =>
    exact ((hdial.transfers _).append hexchange.transfers).append (.cons rfl (hclosing.transfers _))

/-- A link that opens is told of last. -/
theorem Opening.eq_append {s t : Session ω} {es : List Event} (h : Opening s (.ok ()) es t) :
    ∃ fs host tcpPort clientId present,
      es = fs ++ [.notice (.connected host tcpPort clientId present)] ∧ Transfers .connect fs := by
  cases h with
  | opened hdial hexchange =>
    exact ⟨_, _, _, _, _, rfl, (hdial.transfers _).append hexchange.transfers⟩

/-- Sending over the link moves the frame of the packet and no other, also where it fails
and the link is closed. -/
theorem Transmitting.transfers {packet : Outbound} {s t : Session ω} {r : Except Fault Unit}
    {es : List Event} (h : Transmitting packet s r es t) : Transfers packet.kind es := by
  cases h with
  | unpackable => exact .nil
  | notConnected => exact .nil
  | sent hpack _ hes => exact hes.transfers hpack
  | failed hpack _ hes hfs => exact (hes.transfers hpack).append (hfs.transfers _)

/-- Sending subscriptions again moves SUBSCRIBE frames alone. -/
theorem Replaying.transfers {connection : Nat} {id id' : UInt16} {entries : List Registry.Entry}
    {r : Except Fault Unit} {es : List Event} (h : Replaying connection id entries id' r es) :
    Transfers .subscribe es := by
  induction h with
  | done => exact .nil
  | unpackable => exact .nil
  | failed hpack hes => exact hes.transfers hpack
  | sent hpack hes _ ih => exact (hes.transfers hpack).append ih

/-- Opening a link acknowledges nothing, whether or not it goes well. -/
theorem Opening.unacknowledged {s t : Session ω} {r : Except Fault Unit} {es : List Event}
    (h : Opening s r es t) : Without Event.isAck es := by
  match r with
  | .error fault => exact h.transfers.unacknowledged (by simp)
  | .ok () =>
    obtain ⟨fs, _, _, _, _, rfl, hfs⟩ := h.eq_append
    exact (hfs.unacknowledged (by simp)).append (.singleton rfl)

/-- **Only a worker acknowledges.**  Every other step moves frames of one kind, and that
kind is not PUBACK. -/
theorem Step.unacknowledged {d : Doing} {s t : Session ω} {es : List Event}
    (outside : d.isOutside = true) (h : Step d s es t) : Without Event.isAck es := by
  have other : ∀ {packet : Outbound}, (Doing.send packet).isOutside = true →
      packet.kind ≠ .pubAck := by
    intro packet hsend
    cases packet <;> first | exact Kind.noConfusion | cases hsend
  cases h with
  | tuned => exact .nil
  | kept => exact .singleton rfl
  | timed => exact .nil
  | @told event => cases event <;> first | exact .singleton rfl | contradiction
  | heard => exact .singleton rfl
  | sent _ hpack _ hes => exact (hes.transfers hpack).unacknowledged (other outside)
  | broken _ hpack _ hes hns hfs =>
    exact (hes.transfers_closing hpack hns hfs).unacknowledged (other outside)
  | left hpack _ hes hfs =>
    exact ((hes.transfers hpack).append (hfs.transfers _)).unacknowledged nofun
  | dropped _ hes => exact (hes.transfers .disconnect).unacknowledged nofun
  | raised _ hopen => exact hopen.unacknowledged

/-- Nothing outside of a dispatch acknowledges a message. -/
theorem Path.unacknowledged {s t : Session ω} {es : List Event}
    (h : Path (Doing.isOutside ·) s es t) : Without Event.isAck es := by
  induction h with
  | refl => exact .nil
  | snoc _ outside step ih => exact ih.append (step.unacknowledged outside)

/-- A new link is opened over a new connection. -/
theorem Opening.others {s t : Session ω} {r : Except Fault Unit} {es : List Event} {c : Nat}
    (h : Opening s r es t) (known : c ≤ s.world.opened) : conversation c es = [] := by
  have hother : c ≠ s.world.opened + 1 := by omega
  cases h with
  | refused hdial => simp [hdial.others hother]
  | failed hdial hexchange hclosing =>
    obtain ⟨rfl, -⟩ := hdial.talk rfl
    simp [hdial.others hother, hexchange.concern.others hother, hclosing.concern.others hother]
  | opened hdial hexchange =>
    obtain ⟨rfl, -⟩ := hdial.talk rfl
    simp [hdial.others hother, hexchange.concern.others hother]

/-- A step does nothing to any connection but the link's and new ones. -/
theorem Step.others {d : Doing} {s t : Session ω} {es : List Event} {c : Nat}
    (known : d = .raise → c ≤ s.world.opened) (h : Step d s es t)
    (apart : s.connection ≠ some c) : conversation c es = [] ∧ t.connection ≠ some c := by
  have touched : ∀ {connection : Nat} {es : List Event}, s.connection = some connection →
      Concern connection es → conversation c es = [] := fun up hes =>
    hes.others fun he => apart (he ▸ up)
  have hlinking := h.linking
  cases h with
  | tuned _ hdid => exact ⟨rfl, hdid.connection ▸ apart⟩
  | kept _ hdid => exact ⟨rfl, hdid.connection ▸ apart⟩
  | timed _ hdid => exact ⟨rfl, hdid.connection ▸ apart⟩
  | told quiet hdid => exact ⟨by simp [io?_of_isTold quiet], hdid.connection ▸ apart⟩
  | heard up hdid =>
    exact ⟨touched up (by simp [Concern, Event.concerns, Event.io?]), hdid.connection ▸ apart⟩
  | sent _ _ up hes hdid => exact ⟨touched up hes.concern, hdid.connection ▸ apart⟩
  | broken _ _ up hes hns hfs hdid =>
    refine ⟨touched up ((hes.concern.append (.lost hns)).append hfs.concern), ?_⟩
    rw [hdid.connection]
    simp
  | left _ up hes hfs hdid =>
    refine ⟨touched up (hes.concern.append hfs.concern), ?_⟩
    rw [hdid.connection]
    simp
  | dropped up hes hdid =>
    refine ⟨touched up hes.concern, ?_⟩
    rw [hdid.connection]
    simp
  | raised _ hopen =>
    refine ⟨hopen.others (known rfl), fun hup => ?_⟩
    cases hlinking with
    | kept _ _ hconnection =>
      rcases hconnection with hsame | hdown
      · exact apart (hsame.symm.trans hup)
      · simp [hdown] at hup
    | replaced _ _ _ hnew =>
      have hknown := known rfl
      rw [hnew, Option.some.injEq] at hup
      omega

/-- Nor does a run of such steps. -/
theorem Path.others {s t : Session ω} {es : List Event} {c : Nat}
    (h : Path (Doing.isWork false ·) s es t) (apart : s.connection ≠ some c) :
    conversation c es = [] ∧ t.connection ≠ some c := by
  induction h with
  | refl => exact ⟨rfl, apart⟩
  | snoc _ work step ih =>
    obtain ⟨hnone, hapart⟩ := ih apart
    obtain ⟨hmore, hafter⟩ := step.others (by rintro rfl; cases work) hapart
    exact ⟨by rw [conversation_append, hnone, hmore, List.append_nil], hafter⟩

/-- A connection that was left is never used again. -/
theorem Path.parted {allowed : Doing → Prop} {s t : Session ω} {es : List Event} {c : Nat}
    (h : Path allowed s es t) (known : c ≤ s.world.opened) (apart : s.connection ≠ some c) :
    conversation c es = [] ∧ t.connection ≠ some c := by
  induction h with
  | refl => exact ⟨rfl, apart⟩
  | @snoc _ _ mid _ _ _ hpath _ step ih =>
    obtain ⟨hnone, hapart⟩ := ih known apart
    have hknown : c ≤ mid.world.opened := Nat.le_trans known hpath.ran.opened_le
    obtain ⟨hmore, hafter⟩ := step.others (fun _ => hknown) hapart
    exact ⟨by rw [conversation_append, hnone, hmore, List.append_nil], hafter⟩

/-- Without a client that runs, calls leave the timers and the number of the link
alone. -/
theorem Step.keepAlive {d : Doing} {s t : Session ω} {es : List Event}
    (call : d.isCall false = true) (h : Step d s es t) :
    t.keepAlive = s.keepAlive ∧ t.link = s.link := by
  cases h with
  | tuned _ hdid => exact ⟨hdid.keepAlive, hdid.link⟩
  | kept _ hdid => exact ⟨hdid.keepAlive, hdid.link⟩
  | timed => cases call
  | told _ hdid => exact ⟨hdid.keepAlive, hdid.link⟩
  | heard => cases call
  | sent _ _ _ _ hdid => exact ⟨hdid.keepAlive, hdid.link⟩
  | broken _ _ _ _ _ _ hdid => exact ⟨hdid.keepAlive, hdid.link⟩
  | left _ _ _ _ hdid => exact ⟨hdid.keepAlive, hdid.link⟩
  | dropped _ _ hdid => exact ⟨hdid.keepAlive, hdid.link⟩
  | raised => cases call

/-- The calls of a client that does not run leave the timers and the number of the link
alone. -/
theorem Path.keepAlive {s t : Session ω} {es : List Event}
    (h : Path (Doing.isCall false ·) s es t) : t.keepAlive = s.keepAlive ∧ t.link = s.link := by
  induction h with
  | refl => exact ⟨rfl, rfl⟩
  | snoc _ call step ih =>
    have hstep := step.keepAlive call
    exact ⟨hstep.1.trans ih.1, hstep.2.trans ih.2⟩

/-- Without a link, no acknowledgement is written. -/
theorem Path.unacknowledged_of_down {s t : Session ω} {es : List Event}
    (h : Path (Doing.isWork false ·) s es t) (down : s.connection = none) :
    Without Event.isAck es := by
  intro e he
  cases e with
  | write c frame result =>
    have hnone := (h.others (c := c) (by simp [down])).1
    have hio := List.filterMap_eq_nil_iff.1 hnone _ he
    simp [Event.io?] at hio
  | _ => rfl

end Session
end Mqtt
