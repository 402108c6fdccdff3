/-
# Undisturbed links

Nothing disturbs a link if the handler makes no calls, no ping goes unanswered, and
no read, write or flush of it fails.  Then an acknowledgement is sent, a pass
comes to its read over the same link, and acting on a frame ends in one of a few ways
(`Handling.calm`).

Being calm is said of the events of a run (`Calm`), not of the environment that
answers, so it can be read off the history, and splits where the history does.
-/
import Mqtt.Proofs.Client.Acts

namespace Mqtt

/-- The event gets in the way of reading from a connection: a call of the handler, a
ping that is not answered, or a read, write or flush of the connection that fails. -/
def Event.disturbs (c : Nat) : Event → Bool
  | .reaction .. | .notice .pingUnanswered => true
  | .read connection _ _ (.error _) => connection = c
  | .write connection bytes (.ok taken) => connection = c && taken ≠ bytes.length
  | .write connection _ (.error _) => connection = c
  | .flush connection (.error _) => connection = c
  | _ => false

/-- Nothing disturbs the connection. -/
def Calm (c : Nat) (es : List Event) : Prop :=
  Without (Event.disturbs c) es

namespace Calm

variable {c : Nat} {es fs : List Event} {event : Event}

/-- If nothing disturbs the whole, nothing disturbs the first part of it. -/
theorem left (h : Calm c (es ++ fs)) : Calm c es := fun e he =>
  h e (List.mem_append_left _ he)

/-- If nothing disturbs the whole, nothing disturbs the last part of it. -/
theorem right (h : Calm c (es ++ fs)) : Calm c fs := fun e he =>
  h e (List.mem_append_right _ he)

/-- If nothing disturbs the whole, nothing disturbs what follows the first event. -/
theorem tail (h : Calm c (event :: es)) : Calm c es := fun e he =>
  h e (List.mem_cons_of_mem _ he)

/-- No event of a calm stretch disturbs the connection. -/
theorem not_disturbs (h : Calm c es) (mem : event ∈ es) : event.disturbs c ≠ true := by
  rw [h event mem]
  simp

end Calm

namespace Session

variable {ω : Type} {s t : Session ω} {c : Nat} {es : List Event}

/-- An undisturbed frame is taken whole and flushed. -/
theorem Sending.calm {frame : List UInt8} {r : Except Fault Unit} (calm : Calm c es)
    (h : Sending c frame r es) :
    r = .ok () ∧ es = [.write c frame (.ok frame.length), .flush c (.ok ())] := by
  cases h with
  | sent => exact ⟨rfl, rfl⟩
  | writeFailed fault => exact absurd (by simp [Event.disturbs]) (calm.not_disturbs (.head _))
  | short hshort => exact absurd (by simp [Event.disturbs, hshort]) (calm.not_disturbs (.head _))
  | flushFailed fault =>
    exact absurd (by simp [Event.disturbs]) (calm.not_disturbs (.tail _ (.head _)))

/-- A packet that can be packed is sent. -/
theorem Transmitting.calm {packet : Outbound} {frame : List UInt8} {r : Except Fault Unit}
    (calm : Calm c es) (up : s.connection = some c) (hpack : packet.pack frameLimit = .ok frame)
    (h : Transmitting packet s r es t) :
    r = .ok () ∧ es = [.write c frame (.ok frame.length), .flush c (.ok ())] ∧ s.Did es t := by
  cases h with
  | unpackable hnone => exact nomatch hpack.symm.trans hnone
  | notConnected hnone => exact nomatch up.symm.trans hnone
  | sent hpacked hup hes hdid =>
    cases up.symm.trans hup
    cases hpack.symm.trans hpacked
    exact ⟨rfl, (hes.calm calm).2, hdid⟩
  | failed _ hup hes =>
    cases up.symm.trans hup
    exact absurd (hes.calm calm.left).1 (by simp)

/-- The timers leave the link up. -/
theorem KeepingAlive.calm {time : UInt32} {r : Except Fault Unit} (calm : Calm c es)
    (up : s.connection = some c) (h : KeepingAlive time s r es t) :
    r = .ok () ∧ t.connection = some c ∧ t.link = s.link := by
  have packed := Outbound.pack_pingReq (show 2 ≤ frameLimit by decide)
  cases h with
  | nothing => exact ⟨rfl, up, rfl⟩
  | pinged _ hsent hdid =>
    obtain ⟨-, -, hping⟩ := hsent.calm calm.left up packed
    exact ⟨rfl, hdid.connection.trans (hping.connection.trans up), hdid.link.trans hping.link⟩
  | unsent _ hsent => exact absurd (hsent.calm calm up packed).1 (by simp)
  | dead => exact absurd rfl (calm.not_disturbs (.head _))

end Session

namespace Worker

variable {ω : Type} {s t : Session ω} {worker next : Worker} {c : Nat} {es : List Event}

/-- A pass comes to its read over the same link, with the bytes held that came over it. -/
theorem Servicing.calm (calm : Calm c es) (up : s.connection = some c)
    (h : Servicing worker s next es t) :
    t.connection = some c ∧ t.link = s.link ∧ next.errand = worker.errand ∧
      (worker.origin.link = s.link ∧ next.held = worker.held ∧ next.origin = worker.origin ∨
        worker.origin.link ≠ s.link ∧ next.held = []) := by
  cases h with
  | interrupted hkeep => exact absurd (hkeep.calm calm up).1 (by simp)
  | continued hkeep hsame =>
    obtain ⟨-, hup, hlink⟩ := hkeep.calm calm up
    exact ⟨hup, hlink, rfl, .inl ⟨hsame.symm.trans hlink, rfl, rfl⟩⟩
  | adopted hkeep hother hfs hdid =>
    obtain ⟨-, hup, hlink⟩ := hkeep.calm calm.left up
    refine ⟨hdid.connection.trans hup, hdid.link.trans hlink, rfl, .inr ⟨?_, rfl⟩⟩
    exact fun hsame => hother (hlink.trans hsame.symm)

/-- A handler that makes no calls changes nothing. -/
theorem Answering.calm {running : Bool} {calls : List Call} (calm : Calm c es)
    (h : Answering running calls s es t) : es = [] ∧ t = s := by
  cases h with
  | nil => exact ⟨rfl, rfl⟩
  | cons => exact absurd rfl (calm.not_disturbs (List.mem_append_right _ (.head _)))

/-- How acting on a frame of the link goes when nothing disturbs it: what is done about
its packet, but for the handler, is done, or there is none. -/
inductive Handled (c : Nat) (before : Bool) (frame : List UInt8) (es : List Event) :
    Except Fault Errand → Prop
  /-- A frame that does not decode is not acted on. -/
  | undecodable {fault : Fault} : Inbound.decode frame = .error fault →
      acts c before es = [] → Handled c before frame es (.error fault)
  /-- A message is acknowledged where it asks for that, and is to be delivered next. -/
  | published {message : Publish} : Inbound.decode frame = .ok (.publish message) →
      acts c before es ++ [.delivered message.topic message.payload] =
        (Inbound.publish message).acts →
      Handled c before frame es (.ok (.deliver message.topic message.payload))
  /-- Any other packet has been acted on when the worker cuts on. -/
  | done {packet : Inbound} : Inbound.decode frame = .ok packet →
      acts c before es = packet.acts → Handled c before frame es (.ok .cut)

/-- **Acting on a frame of the link goes well if nothing disturbs it.**  What the packet
asks for is done, but for handing its message over, and the link is up as before. -/
theorem Handling.calm {origin : Origin} {frame : List UInt8} {r : Except Fault Errand}
    (before : Bool) (calm : Calm origin.connection es) (up : s.connection = some origin.connection)
    (link : s.link = origin.link) (h : Handling origin frame s r es t) :
    Handled origin.connection before frame es r ∧ turn origin.connection before es = true ∧
      t.connection = some origin.connection ∧ t.link = s.link := by
  have hturn : ∀ {n : Notice}, turn origin.connection before
      [.frame origin.connection frame, .notice n] = true := by simp [turn, Event.turn]
  cases h with
  | undecodable hdecode hdid =>
    exact ⟨.undecodable hdecode rfl, by simp [turn, Event.turn], hdid.connection.trans up, hdid.link⟩
  | ponged hdecode _ hdid =>
    refine ⟨.done hdecode ?_, hturn, hdid.connection.trans up, hdid.link⟩
    simp [acts, Event.act?, Event.turn, Inbound.acts]
  | stalePong _ hold => exact absurd link hold
  | @acknowledged message id _ _ _ _ hdecode hid _ hframe hsent hdid =>
    obtain ⟨-, rfl, hack⟩ := hsent.calm (c := origin.connection) calm.tail.left
      (hframe.connection.trans up) (Outbound.pack_pubAck (show 4 ≤ Session.frameLimit by decide) id)
    refine ⟨.published hdecode ?_, by simp [turn, Event.turn],
      hdid.connection.trans (hack.connection.trans (hframe.connection.trans up)),
      hdid.link.trans (hack.link.trans hframe.link)⟩
    simp [acts, Event.act?, Event.turn, Inbound.acts, hid, Inbound.decode_pubAck]
  | @unacknowledged _ id _ _ _ _ _ _ _ hframe hsent =>
    -- PUBACK fits and nothing disturbs the link, so it cannot have failed.
    have hfault := (hsent.calm (c := origin.connection) calm.tail (hframe.connection.trans up)
      (Outbound.pack_pubAck (show 4 ≤ Session.frameLimit by decide) id)).1
    cases hfault
  | published hdecode hquiet hdid =>
    refine ⟨.published hdecode ?_, hturn, hdid.connection.trans up, hdid.link⟩
    rcases hquiet with hnone | hold
    · simp [acts, Event.act?, Inbound.acts, hnone]
    · exact absurd link hold
  | @remarked packet _ hdecode hremark hdid =>
    refine ⟨.done hdecode ?_, hturn, hdid.connection.trans up, hdid.link⟩
    rw [Inbound.acts_of_isRemark hremark]
    unfold Inbound.remark
    split <;> simp [acts, Event.act?, Event.turn]

end Worker
end Mqtt
