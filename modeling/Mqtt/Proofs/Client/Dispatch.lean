/-
# What a dispatch adds to the history

The ways in which one step of a dispatch can go (`Dispatching`): acting on the
next frame (`Cutting`, `Handling`), handing its message to the handler, which may
make calls (`Answering`), and giving up the link.  Each of them is a run of the
session's steps.

A step is small: what is done about one packet takes two, one up to the message and
one for the handler.  Between them the program may call, and so may the handler in the
second, so neither can rely on the link the bytes came over.  Where it matters the
number of that link (`Origin`) is compared, and the ways differ by how that comes out:
`Handling` has an answer to a ping that counts and one that is stale, a message that
is acknowledged and one whose link was replaced.
-/
import Mqtt.Client.Dispatch
import Mqtt.Proofs.Session.Calls

namespace Mqtt

open Mqtt.Action

/-- The notice about a packet that the client only takes note of. -/
def Inbound.remark : Inbound → Notice
  | .subAck id 0x80 => .subscriptionRejected id
  | packet => .ignored packet

/-- The packet is neither acknowledged, nor delivered, nor a sign of life. -/
def Inbound.IsRemark (packet : Inbound) : Prop :=
  packet ≠ .pingResp ∧ ∀ message, packet ≠ .publish message

/-- Taking note of a packet is only told. -/
theorem Inbound.isTold_remark (packet : Inbound) : (Event.notice packet.remark).isTold = true := by
  unfold remark
  split <;> rfl

namespace Worker

variable {ω ε : Type}

/-- How acting on one frame goes, up to the message handler. -/
inductive Handling (origin : Origin) (frame : List UInt8) (s : Session ω) :
    Except Fault Errand → List Event → Session ω → Prop
  /-- The frame is no packet that a client understands.  It was taken, and what is wrong
  with it is the failure. -/
  | undecodable {fault : Fault} {t : Session ω} : Inbound.decode frame = .error fault →
      s.Did [.frame origin.connection frame] t →
      Handling origin frame s (.error fault) [.frame origin.connection frame] t
  /-- An answer to a ping over the session's link, which the timers note at once. -/
  | ponged {t : Session ω} : Inbound.decode frame = .ok .pingResp →
      s.link = origin.link →
      Session.Did { s with keepAlive := s.keepAlive.ponged s.world.clock }
        [.frame origin.connection frame, .notice .ponged] t → s.world.Begins t.world →
      Handling origin frame s (.ok .cut) [.frame origin.connection frame, .notice .ponged] t
  /-- An answer to a ping over a link that another has replaced.  It is told, and the
  timers of the newer link are left alone. -/
  | stalePong {t : Session ω} : Inbound.decode frame = .ok .pingResp → s.link ≠ origin.link →
      s.Did [.frame origin.connection frame, .notice .ponged] t →
      Handling origin frame s (.ok .cut) [.frame origin.connection frame, .notice .ponged] t
  /-- A message that is to be acknowledged, over the session's link.  The
  acknowledgement went out, and the message is handed over next. -/
  | acknowledged {message : Publish} {id : UInt16} {es : List Event} {t u v : Session ω} :
      Inbound.decode frame = .ok (.publish message) → message.packetId = some id →
      s.link = origin.link → s.Did [.frame origin.connection frame] t →
      Session.Transmitting (.pubAck id) t (.ok ()) es u →
      u.Did [.notice (.message message.topic message.payload.length)] v →
      Handling origin frame s (.ok (.deliver message.topic message.payload))
        (.frame origin.connection frame ::
          (es ++ [.notice (.message message.topic message.payload.length)])) v
  /-- A message whose acknowledgement could not be sent.  It is not handed over: the
  failure ends the dispatch. -/
  | unacknowledged {message : Publish} {id : UInt16} {fault : Fault} {es : List Event}
      {t u : Session ω} :
      Inbound.decode frame = .ok (.publish message) → message.packetId = some id →
      s.link = origin.link → s.Did [.frame origin.connection frame] t →
      Session.Transmitting (.pubAck id) t (.error fault) es u →
      Handling origin frame s (.error fault) (.frame origin.connection frame :: es) u
  /-- A message that needs no acknowledgement, or came over a link that another has
  replaced, where none is sent.  It is handed over all the same. -/
  | published {message : Publish} {t : Session ω} :
      Inbound.decode frame = .ok (.publish message) →
      message.packetId = none ∨ s.link ≠ origin.link →
      s.Did [.frame origin.connection frame,
        .notice (.message message.topic message.payload.length)] t →
      Handling origin frame s (.ok (.deliver message.topic message.payload))
        [.frame origin.connection frame,
          .notice (.message message.topic message.payload.length)] t
  /-- Any other packet calls for nothing and is taken note of. -/
  | remarked {packet : Inbound} {t : Session ω} : Inbound.decode frame = .ok packet →
      packet.IsRemark →
      s.Did [.frame origin.connection frame, .notice packet.remark] t →
      Handling origin frame s (.ok .cut)
        [.frame origin.connection frame, .notice packet.remark] t

/-- How taking the next frame of the bytes held goes. -/
inductive Cutting (worker : Worker) (s : Session ω) : Worker → List Event → Session ω → Prop
  /-- The first frame is not all there.  The dispatch is over, and the bytes are held
  for the next read. -/
  | unfinished : Cut.first capacity worker.held = .unfinished →
      Cutting worker s { worker with phase := .ready, errand := .pass } [] s
  /-- The bytes start with no header that there is, so nothing can be cut off them, now
  or later. -/
  | broken {fault : Fault} : Cut.first capacity worker.held = .broken fault →
      Cutting worker s (worker.abandon fault) [] s
  /-- A frame is announced that the buffer could never hold. -/
  | oversized {size : Nat} {t : Session ω} : Cut.first capacity worker.held = .oversized size →
      s.Did [.notice (.oversized size)] t →
      Cutting worker s (worker.abandon .bufferTooSmall) [.notice (.oversized size)] t
  /-- The first frame was taken off and acted on, and what follows it is held on. -/
  | handled {frame rest : List UInt8} {split : worker.held = frame ++ rest} {nonempty : frame ≠ []}
      {errand : Errand} {es : List Event} {t : Session ω} :
      Cut.first capacity worker.held = .whole frame rest split nonempty →
      Handling worker.origin frame s (.ok errand) es t →
      Cutting worker s { worker with held := rest, phase := .ready, errand } es t
  /-- The first frame was taken off, but acting on it failed. -/
  | failed {frame rest : List UInt8} {split : worker.held = frame ++ rest} {nonempty : frame ≠ []}
      {fault : Fault} {es : List Event} {t : Session ω} :
      Cut.first capacity worker.held = .whole frame rest split nonempty →
      Handling worker.origin frame s (.error fault) es t →
      Cutting worker s (worker.abandon fault) es t

/-- How the calls of a handler go, one after the other. -/
inductive Answering (running : Bool) : List Call → Session ω → List Event → Session ω → Prop
  /-- The handler asks for nothing more. -/
  | nil (s : Session ω) : Answering running [] s [] s
  /-- One call is made, its reply is written down, and then the others are made in the
  session it left. -/
  | cons {call : Call} {reply : Reply} {calls : List Call} {es fs : List Event}
      {s t u v : Session ω} :
      Session.Calling running s call reply es t → t.Did [.reaction call reply] u →
      Answering running calls u fs v →
      Answering running (call :: calls) s (es ++ .reaction call reply :: fs) v

/-- How a step of a dispatch goes. -/
inductive Dispatching (running : Bool) (worker : Worker) (s : Session ω) :
    Worker → List Event → Session ω → Prop
  /-- The next frame is cut off the bytes held. -/
  | cut {next : Worker} {es : List Event} {t : Session ω} : worker.errand = .cut →
      Cutting worker s next es t → Dispatching running worker s next es t
  /-- A message is handed to the handler, whose calls are made at once.  Then the
  handler may wait, if the client runs. -/
  | delivered {topic : String} {payload : List UInt8} {reaction : Reaction} {es : List Event}
      {t u : Session ω} : worker.errand = .deliver topic payload →
      s.Did [.message topic payload] t → Answering running reaction.calls t es u →
      Dispatching running worker s
        { worker with
          errand := .cut
          phase := if (reaction.waits && running) = true then .handling else .ready }
        (.message topic payload :: es) u
  /-- The link is given up for what came over it. -/
  | gaveUp {fault : Fault} {es : List Event} {t u : Session ω} : worker.errand = .giveUp fault →
      s.link = worker.origin.link → s.Did [.notice (.protocolFailure fault)] t →
      Session.Dropping t es u →
      Dispatching running worker s { worker with phase := .ready, errand := .pass }
        (.notice (.protocolFailure fault) :: es) u
  /-- What came over an older link was broken; the newer one is none the worse for it. -/
  | stale {fault : Fault} {t : Session ω} : worker.errand = .giveUp fault →
      s.link ≠ worker.origin.link → s.Did [.notice (.staleFailure fault)] t →
      Dispatching running worker s { worker with phase := .ready, errand := .pass }
        [.notice (.staleFailure fault)] t

variable [Environment ω]

omit [Environment ω] in
/-- Whether bytes came from the session's link is told by comparing numbers, which changes
nothing. -/
theorem yields_isCurrent_bind {α : Type} {origin : Origin} {next : Bool → Action ε (Session ω) α}
    {s t : Session ω} {r : Except ε α} :
    Yields (isCurrent origin >>= next) s r t ↔
      Yields (next (decide (s.link = origin.link))) s r t := by
  simp only [isCurrent, bind_assoc, pure_bind, yields_get_bind]

omit [Environment ω] in
/-- The answer to a ping is noted for the link it came over, and only told of if that link
has been replaced. -/
theorem handling_of_pong {origin : Origin} {frame : List UInt8} {s t u : Session ω}
    {r : Except Fault Errand} (decoded : Inbound.decode frame = .ok .pingResp)
    (begun : s.Did [.frame origin.connection frame] t) (begins : s.world.Begins t.world)
    (stands : t.world.StandsAt s.world.clock)
    (h : Yields (do
      Session.notice .ponged
      if ← isCurrent origin then Session.ponged (← Session.now)
      return Errand.cut) t r u) : ∃ es, Handling origin frame s r es u := by
  rcases yields_bind.1 h with ⟨_, hn, -⟩ | ⟨⟨⟩, v, hn, hact⟩
  · exact absurd (Session.did_notice hn).1 (by simp)
  have hclock : v.world.clock = s.world.clock :=
    (Session.stands_of_notice hn).2.clock.trans stands.clock
  have hn := (Session.did_notice hn).2
  rw [yields_isCurrent_bind] at hact
  have hlink : v.link = s.link := by rw [hn.link, begun.link]
  by_cases hcur : v.link = origin.link
  · rw [decide_eq_true hcur] at hact
    simp only [if_true, Session.now, Session.ponged, bind_assoc, pure_bind, yields_get_bind,
      yields_modify_bind, yields_pure] at hact
    obtain ⟨rfl, rfl⟩ := hact
    have hboth := (begun.trans hn).update (f := fun s => { s with
      keepAlive := s.keepAlive.ponged v.world.clock }) fun _ _ => rfl
    rw [hclock] at hboth ⊢
    exact ⟨_, .ponged decoded (hlink ▸ hcur) hboth (begins.ran hn.ran)⟩
  · rw [decide_eq_false hcur] at hact
    simp only [Bool.false_eq_true, if_false, yields_pure] at hact
    obtain ⟨rfl, rfl⟩ := hact
    exact ⟨_, .stalePong decoded (hlink ▸ hcur) (begun.trans hn)⟩

/-- A message is acknowledged, if it asks for that and came over the link. -/
theorem handling_of_publish {origin : Origin} {frame : List UInt8} {message : Publish}
    {s t u : Session ω} {r : Except Fault Errand}
    (decoded : Inbound.decode frame = .ok (.publish message))
    (begun : s.Did [.frame origin.connection frame] t)
    (h : Yields (do
      if let some id := message.packetId then
        if ← isCurrent origin then Session.acknowledge id
      Session.notice (.message message.topic message.payload.length)
      return Errand.deliver message.topic message.payload) t r u) :
    ∃ es, Handling origin frame s r es u := by
  -- Without a PUBACK to send only the notice is left, before the message is handed on.
  have told : message.packetId = none ∨ s.link ≠ origin.link →
      Yields (do
        Session.notice (.message message.topic message.payload.length)
        return Errand.deliver message.topic message.payload) t r u →
          ∃ es, Handling origin frame s r es u := by
    intro hquiet hn
    obtain ⟨v, hn, hend⟩ := Session.yields_notice_bind hn
    obtain ⟨rfl, rfl⟩ := yields_pure.1 hend
    exact ⟨_, .published decoded hquiet (begun.trans hn)⟩
  cases hid : message.packetId with
  | none =>
    simp only [hid] at h
    exact told (.inl hid) h
  | some id =>
    simp only [hid] at h
    rw [yields_isCurrent_bind] at h
    by_cases hcur : t.link = origin.link
    · simp only [hcur, decide_true, if_true] at h
      have hlink : s.link = origin.link := begun.link ▸ hcur
      rcases yields_bind.1 h with ⟨fault, ha, rfl⟩ | ⟨⟨⟩, v, ha, hrest⟩
      · obtain ⟨es, hes⟩ := Session.transmitting_of_transmit ha
        exact ⟨_, .unacknowledged decoded hid hlink begun hes⟩
      · obtain ⟨es, hes⟩ := Session.transmitting_of_transmit ha
        obtain ⟨w, hn, hend⟩ := Session.yields_notice_bind hrest
        obtain ⟨rfl, rfl⟩ := yields_pure.1 hend
        exact ⟨_, .acknowledged decoded hid hlink begun hes hn⟩
    · simp only [hcur, decide_false, Bool.false_eq_true, if_false] at h
      exact told (.inr fun he => hcur (begun.link.trans he)) h

/-- **Acting on a frame goes in one of the ways of `Handling`**, one for each kind of
packet and each thing that can go wrong with it. -/
theorem handling_of_handle {origin : Origin} {frame : List UInt8} {s t : Session ω}
    {r : Except Fault Errand} (h : Yields (handle origin frame) s r t) :
    ∃ es, Handling origin frame s r es t := by
  rw [handle] at h
  rcases yields_bind.1 h with ⟨_, hf, -⟩ | ⟨⟨⟩, u, hf, h⟩
  · exact absurd (Session.did_record rfl hf).1 (by simp)
  · have hframe := (Session.did_record rfl hf).2
    obtain ⟨hbegins, hstands⟩ := World.stands_of_record (Session.did_onWorld hf).1
    rcases yields_bind.1 h with ⟨fault, hd, rfl⟩ | ⟨packet, v, hd, hact⟩
    · obtain ⟨hdecode, rfl⟩ := yields_ofExcept.1 hd
      exact ⟨_, .undecodable hdecode.symm hframe⟩
    · obtain ⟨hdecode, rfl⟩ := yields_ofExcept.1 hd
      have remarked : ∀ {n : Notice}, packet.IsRemark → n = packet.remark →
          Yields (do Session.notice n; return Errand.cut) v r t →
            ∃ es, Handling origin frame s r es t := by
        rintro n hremark rfl hn
        obtain ⟨w, hn, hend⟩ := Session.yields_notice_bind hn
        obtain ⟨rfl, rfl⟩ := yields_pure.1 hend
        exact ⟨_, .remarked hdecode.symm hremark (hframe.trans hn)⟩
      split at hact
      case h_1 => exact handling_of_pong hdecode.symm hframe hbegins hstands hact
      case h_2 message => exact handling_of_publish hdecode.symm hframe hact
      case h_3 id => exact remarked ⟨by simp, by simp⟩ rfl hact
      case h_4 hnotPong hnotPublish hnotRejected =>
        refine remarked ⟨hnotPong, hnotPublish⟩ ?_ hact
        unfold Inbound.remark
        split
        · exact absurd rfl (hnotRejected _)
        · rfl

/-- Cutting the next frame off the bytes held goes in one of the ways of `Cutting`, and
cannot fail: what is wrong with the bytes is what the worker does next. -/
theorem cutting_of_cutFrame {worker : Worker} {s t : Session ω}
    {r : Except ε { next : Worker // next.work < 2 * worker.held.length + 2 }}
    (h : Yields worker.cutFrame s r t) :
    ∃ next es, r = .ok next ∧ Cutting worker s next.val es t := by
  rw [cutFrame] at h
  split at h
  case h_1 hcut =>
    obtain ⟨rfl, rfl⟩ := yields_pure.1 h
    exact ⟨_, _, rfl, .unfinished hcut⟩
  case h_2 hcut =>
    obtain ⟨rfl, rfl⟩ := yields_pure.1 h
    exact ⟨_, _, rfl, .broken hcut⟩
  case h_3 hcut =>
    obtain ⟨u, hn, hend⟩ := Session.yields_notice_bind h
    obtain ⟨rfl, rfl⟩ := yields_pure.1 hend
    exact ⟨_, _, rfl, .oversized hcut hn⟩
  case h_4 hcut =>
    obtain ⟨x, u, hx, hend⟩ := yields_attempt_bind.1 h
    obtain ⟨es, hes⟩ := handling_of_handle hx
    cases x with
    | ok errand =>
      obtain ⟨rfl, rfl⟩ := yields_pure.1 hend
      exact ⟨_, _, rfl, .handled hcut hes⟩
    | error fault =>
      obtain ⟨rfl, rfl⟩ := yields_pure.1 hend
      exact ⟨_, _, rfl, .failed hcut hes⟩

/-- The calls of a handler go in one of the ways of `Answering`, one after the other,
whatever each of them comes to. -/
theorem answering_of_forM {running : Bool} {calls : List Call} {s t : Session ω}
    {r : Except ε PUnit}
    (h : Yields (calls.forM fun call => do
      let reply ← Session.answer running call
      Session.onWorld (World.record (.reaction call reply))) s r t) :
    r = .ok () ∧ ∃ es, Answering running calls s es t := by
  induction calls generalizing s with
  | nil =>
    obtain ⟨rfl, rfl⟩ := yields_pure.1 h
    exact ⟨rfl, _, .nil _⟩
  | cons call calls ih =>
    have once : ∀ {x : Except ε PUnit} {u : Session ω}, Yields (do
        let reply ← Session.answer running call
        Session.onWorld (World.record (.reaction call reply))) s x u →
          x = .ok () ∧ ∃ reply es v, Session.Calling running s call reply es v ∧
            v.Did [.reaction call reply] u := by
      intro x u hx
      rcases yields_bind.1 hx with ⟨_, ha, -⟩ | ⟨reply, v, ha, hr⟩
      · obtain ⟨_, _, he, -⟩ := Session.calling_of_answer ha
        cases he
      · obtain ⟨_, es, ⟨⟩, hes⟩ := Session.calling_of_answer ha
        obtain ⟨rfl, hdid⟩ := Session.did_record rfl hr
        exact ⟨rfl, reply, es, v, hes, hdid⟩
    rcases yields_bind.1 h with ⟨_, hx, -⟩ | ⟨⟨⟩, u, hx, hrest⟩
    · exact absurd (once hx).1 (by simp)
    · obtain ⟨-, reply, es, v, hes, hdid⟩ := once hx
      obtain ⟨rfl, fs, hfs⟩ := ih hrest
      exact ⟨rfl, _, .cons hes hdid hfs⟩

/-- How handing a message to the handler goes. -/
theorem answering_of_deliver {running : Bool} {topic : String} {payload : List UInt8}
    {s t : Session ω} {r : Except ε Bool} (h : Yields (deliver running topic payload) s r t) :
    ∃ (reaction : Reaction) (u : Session ω) (es : List Event),
      r = .ok (reaction.waits && running) ∧ s.Did [.message topic payload] u ∧
        Answering running reaction.calls u es t := by
  rw [deliver] at h
  rcases yields_bind.1 h with ⟨_, hd, -⟩ | ⟨reaction, u, hd, hrest⟩
  · obtain ⟨_, he, -⟩ := World.ran_deliver (Session.did_onWorld hd).1
    cases he
  · obtain ⟨hw, hu⟩ := Session.did_onWorld hd
    obtain ⟨_, -, hran⟩ := World.ran_deliver hw
    rcases yields_bind.1 hrest with ⟨_, hc, -⟩ | ⟨⟨⟩, v, hc, hend⟩
    · exact absurd (answering_of_forM hc).1 (by simp)
    · obtain ⟨-, es, hes⟩ := answering_of_forM hc
      obtain ⟨rfl, rfl⟩ := yields_pure.1 hend
      exact ⟨reaction, u, es, rfl, ⟨hran, hu⟩, hes⟩

/-- A broken frame costs the session its link if the frame came over it, and otherwise is
only told. -/
theorem dropping_of_protocolFailure {origin : Origin} {fault : Fault} {s t : Session ω}
    {r : Except ε Unit} (h : Yields (protocolFailure origin fault) s r t) :
    r = .ok () ∧
      ((s.link = origin.link ∧ ∃ u es, s.Did [.notice (.protocolFailure fault)] u ∧
          Session.Dropping u es t) ∨
        s.link ≠ origin.link ∧ s.Did [.notice (.staleFailure fault)] t) := by
  rw [protocolFailure, yields_isCurrent_bind] at h
  by_cases hcur : s.link = origin.link
  · rw [decide_eq_true hcur] at h
    obtain ⟨u, hn, hd⟩ := Session.yields_notice_bind h
    obtain ⟨rfl, es, hes⟩ := Session.dropping_of_dropLink hd
    exact ⟨rfl, .inl ⟨hcur, u, es, hn, hes⟩⟩
  · rw [decide_eq_false hcur] at h
    obtain ⟨rfl, hn⟩ := Session.did_notice h
    exact ⟨rfl, .inr ⟨hcur, hn⟩⟩

/-- **A step of a dispatch goes in one of the ways of `Dispatching`**, and cannot
fail.  The errand says which, and for a link to give up, whether it is still the one. -/
theorem dispatching_of_dispatch {running : Bool} {worker : Worker}
    {unfinished : worker.errand ≠ .pass} {s t : Session ω}
    {r : Except ε { next : Worker // next.work < worker.work }}
    (h : Yields (worker.dispatch running unfinished) s r t) :
    ∃ next es, r = .ok next ∧ Dispatching running worker s next.val es t := by
  rw [dispatch] at h
  split at h
  case h_1 hpass => exact absurd hpass unfinished
  case h_2 hcut =>
    rcases yields_bind.1 h with ⟨_, hc, -⟩ | ⟨next, u, hc, hend⟩
    · obtain ⟨_, _, he, -⟩ := cutting_of_cutFrame hc
      cases he
    · obtain ⟨_, es, he, hes⟩ := cutting_of_cutFrame hc
      cases he
      obtain ⟨rfl, rfl⟩ := yields_pure.1 hend
      exact ⟨_, es, rfl, .cut hcut hes⟩
  case h_3 topic payload hdeliver =>
    rcases yields_bind.1 h with ⟨_, hd, -⟩ | ⟨waits, u, hd, hend⟩
    · obtain ⟨_, _, _, he, -⟩ := answering_of_deliver hd
      cases he
    · obtain ⟨reaction, v, es, he, hdid, hes⟩ := answering_of_deliver hd
      cases he
      obtain ⟨rfl, rfl⟩ := yields_pure.1 hend
      exact ⟨_, _, rfl, .delivered hdeliver hdid hes⟩
  case h_4 fault hgive =>
    rcases yields_bind.1 h with ⟨_, hp, -⟩ | ⟨⟨⟩, u, hp, hend⟩
    · exact absurd (dropping_of_protocolFailure hp).1 (by simp)
    · obtain ⟨rfl, rfl⟩ := yields_pure.1 hend
      rcases (dropping_of_protocolFailure hp).2 with ⟨hcur, v, es, hn, hes⟩ | ⟨hold, hn⟩
      · exact ⟨_, _, rfl, .gaveUp hgive hcur hn hes⟩
      · exact ⟨_, _, rfl, .stale hgive hold hn⟩

omit [Environment ω]

/-- A dispatch comes to its end. -/
theorem Dispatching.work_lt {running : Bool} {worker next : Worker} {s t : Session ω}
    {es : List Event} (h : Dispatching running worker s next es t) : next.work < worker.work := by
  have whole : ∀ {next : Worker} {frame rest : List UInt8}, worker.errand = .cut →
      worker.held = frame ++ rest → frame ≠ [] → next.held = rest → next.work < worker.work := by
    intro next frame rest hcut hsplit hframe hheld
    have hnext := next.work_le
    have hless := Cut.length_rest_lt hsplit hframe
    rw [hheld] at hnext
    rw [work.eq_def worker, hcut]
    show next.work < 2 * worker.held.length + 2
    omega
  cases h with
  | cut herrand hcut =>
    cases hcut with
    | unfinished => simp [work, herrand]
    | broken => simp [work, abandon, herrand]
    | oversized => simp [work, abandon, herrand]
    | @handled _ _ split nonempty => exact whole herrand split nonempty rfl
    | failed => simp [work, abandon, herrand]
  | delivered herrand => simp [work, herrand]
  | gaveUp herrand => simp [work, herrand]
  | stale herrand => simp [work, herrand]

/-- What is told of a frame, a message or a reaction is a step of a worker. -/
theorem path_told {running : Bool} {event : Event} {s t : Session ω} (quiet : event.isTold = true)
    (work : (Session.Doing.tell event).isWork running = true) (h : s.Did [event] t) :
    Session.Path (Session.Doing.isWork running ·) s [event] t :=
  .single work (.told quiet h)

/-- The same for two events. -/
theorem path_told_two {running : Bool} {event event' : Event} {s t : Session ω}
    (quiet : event.isTold = true) (quiet' : event'.isTold = true)
    (work : (Session.Doing.tell event).isWork running = true)
    (work' : (Session.Doing.tell event').isWork running = true) (h : s.Did [event, event'] t) :
    Session.Path (Session.Doing.isWork running ·) s [event, event'] t := by
  obtain ⟨u, hfirst, hsecond⟩ := h.split
  exact (path_told quiet work hfirst).trans (path_told quiet' work' hsecond)

/-- Whatever a call does, a worker may do. -/
theorem path_of_isCall {running : Bool} {es : List Event} {s t : Session ω}
    (h : Session.Path (Session.Doing.isCall running ·) s es t) :
    Session.Path (Session.Doing.isWork running ·) s es t :=
  h.mono fun _ => Session.Doing.isWork_of_isCall

/-- Acting on a frame takes only steps of a worker. -/
theorem Handling.path {running : Bool} {origin : Origin} {frame : List UInt8} {s t : Session ω}
    {r : Except Fault Errand} {es : List Event} (h : Handling origin frame s r es t) :
    Session.Path (Session.Doing.isWork running ·) s es t := by
  have acked : ∀ {id : UInt16} {r : Except Fault Unit} {es : List Event} {u v : Session ω},
      Session.Transmitting (.pubAck id) u r es v →
        Session.Path (Session.Doing.isWork running ·) u es v := fun hsent =>
    (hsent.path rfl).mono fun d hd => by rw [show d = _ from hd]; rfl
  cases h with
  | undecodable _ hdid => exact path_told rfl rfl hdid
  | ponged _ _ hdid =>
    exact .cons (by exact rfl) (.timed _ (.refl _)) (path_told_two rfl rfl rfl rfl hdid)
  | stalePong _ _ hdid => exact path_told_two rfl rfl rfl rfl hdid
  | acknowledged _ _ _ hframe hsent hdid =>
    exact (path_told rfl rfl hframe).trans ((acked hsent).trans (path_told rfl rfl hdid))
  | unacknowledged _ _ _ hframe hsent => exact (path_told rfl rfl hframe).trans (acked hsent)
  | published _ _ hdid => exact path_told_two rfl rfl rfl rfl hdid
  | @remarked packet _ _ _ hdid =>
    exact path_told_two rfl (Inbound.isTold_remark packet) rfl rfl hdid

/-- Cutting a frame off the bytes held, and acting on it, takes only steps of a worker. -/
theorem Cutting.path {running : Bool} {worker next : Worker} {s t : Session ω} {es : List Event}
    (h : Cutting worker s next es t) : Session.Path (Session.Doing.isWork running ·) s es t := by
  cases h with
  | unfinished => exact .refl _
  | broken => exact .refl _
  | oversized _ hdid => exact path_told rfl rfl hdid
  | handled _ hhandling => exact hhandling.path
  | failed _ hhandling => exact hhandling.path

/-- The calls of a handler take only steps of calls, so they do not read and do not act on
frames. -/
theorem Answering.path {running : Bool} {calls : List Call} {s t : Session ω} {es : List Event}
    (h : Answering running calls s es t) :
    Session.Path (Session.Doing.isCall running ·) s es t := by
  induction h with
  | nil => exact .refl _
  | cons hcall hdid _ ih => exact hcall.path.trans ((hdid.told rfl rfl).trans ih)

/-- **A step of a dispatch is a run of the session's steps.**  So it keeps whatever the
steps keep, and only the worker's own state is left to look at. -/
theorem Dispatching.path {running : Bool} {worker next : Worker} {s t : Session ω}
    {es : List Event} (h : Dispatching running worker s next es t) :
    Session.Path (Session.Doing.isWork running ·) s es t := by
  cases h with
  | cut _ hcut => exact hcut.path
  | delivered _ hdid hcalls => exact (path_told rfl rfl hdid).trans (path_of_isCall hcalls.path)
  | gaveUp _ _ hdid hdrop =>
    exact path_of_isCall ((hdid.told rfl rfl).trans hdrop.path)
  | stale _ _ hdid => exact path_of_isCall (hdid.told rfl rfl)

end Worker
end Mqtt
