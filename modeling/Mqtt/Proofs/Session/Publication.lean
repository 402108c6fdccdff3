/-
# What a call to publish sends

A message goes out in one frame, and only a call to publish writes such a frame: it does
once the topic is valid, the session is connected and the frame fits
(`Session.posted`), and succeeds if the transport takes the frame and the flush
(`Session.taken_of_publish`).  Everything else that a session does writes no message
(`Event.isCalled`), and opening a link anew does not either, so nothing is sent twice.

`Made` is a call with the session before and after it, and `Made.Honest` what the call
keeps of its promise.
-/
import Mqtt.Proofs.Session.Acknowledgement
import Mqtt.Proofs.Session.Calls
import Mqtt.Proofs.Wire.RoundTrip

namespace Mqtt

open Mqtt.Action

/-- The message that the event hands to a transport, and the connection it goes over. -/
def Event.publication? : Event → Option (Nat × List UInt8)
  | .write connection bytes _ =>
    if kindOf? bytes = some .publish then some (connection, bytes) else none
  | _ => none

/-- The call of the message handler that the event tells of, and its reply. -/
def Event.reaction? : Event → Option (Call × Reply)
  | .reaction call reply => some (call, reply)
  | _ => none

/-- The messages handed to transports, in order. -/
def publications (events : List Event) : List (Nat × List UInt8) :=
  events.filterMap Event.publication?

/-- The calls that the message handler made, in order. -/
def reactions (events : List Event) : List (Call × Reply) :=
  events.filterMap Event.reaction?

/-- The messages of two stretches of a history come one after the other. -/
@[simp] theorem publications_append (es fs : List Event) :
    publications (es ++ fs) = publications es ++ publications fs :=
  List.filterMap_append

/-- The calls of the message handler in two stretches of a history come one after the
other. -/
@[simp] theorem reactions_append (es fs : List Event) :
    reactions (es ++ fs) = reactions es ++ reactions fs :=
  List.filterMap_append

/-- A message goes out, or a call of the message handler is told of. -/
def Event.isCalled (event : Event) : Bool :=
  event.publication?.isSome || event.reaction?.isSome

/-- A stretch in which nothing is called hands over no message. -/
theorem Without.publications {es : List Event} (h : Without Event.isCalled es) :
    publications es = [] := by
  refine List.filterMap_eq_nil_iff.2 fun e he => ?_
  have hnone := h e he
  simp only [Event.isCalled, Bool.or_eq_false_iff, Option.isSome_eq_false_iff,
    Option.isNone_iff_eq_none] at hnone
  exact hnone.1

/-- In a stretch in which nothing is called the message handler made no call. -/
theorem Without.reactions {es : List Event} (h : Without Event.isCalled es) :
    reactions es = [] := by
  refine List.filterMap_eq_nil_iff.2 fun e he => ?_
  have hnone := h e he
  simp only [Event.isCalled, Bool.or_eq_false_iff, Option.isSome_eq_false_iff,
    Option.isNone_iff_eq_none] at hnone
  exact hnone.2

/-- Frames that are no messages are moved without a call. -/
theorem Transfers.uncalled {kind : Kind} {es : List Event} (h : Transfers kind es)
    (other : kind ≠ .publish) : Without Event.isCalled es := by
  refine h.without fun e he => ?_
  cases e with
  | write c frame result =>
    have hkind : kindOf? frame = some kind := by simpa [Event.isTransfer] using he
    simp [Event.isCalled, Event.publication?, Event.reaction?, hkind, other]
  | reaction => cases he
  | _ => rfl

/-- Moving frames and telling how it went wrong is not a call of the message handler. -/
theorem Transfers.unreacted {kind : Kind} {es : List Event} (h : Transfers kind es) :
    reactions es = [] :=
  List.filterMap_eq_nil_iff.2 fun e he => by
    have htransfer := h e he
    cases e <;> first | rfl | cases htransfer

/-- The transport takes a frame whole, and the flush after it. -/
def Environment.Takes {ω : Type} [Environment ω] (frame : List UInt8) (environment : ω) : Prop :=
  (Environment.write frame environment).value = .ok frame.length ∧
    (Environment.flush (Environment.write frame environment).next).value = .ok ()

namespace Session

variable {ω ε : Type}

/-! ### What is done without a call to publish -/

section

variable {s t : Session ω} {es : List Event}

/-- Giving up the link hands over no message. -/
theorem Dropping.uncalled (h : Dropping s es t) : Without Event.isCalled es := by
  cases h with
  | nothing => exact .nil
  | closed _ hes => exact (hes.transfers .connect).uncalled nofun

/-- Receiving hands over no message: what the broker sends is not sent on. -/
theorem Receiving.uncalled {capacity : Nat} {timeout : UInt32} {r : Except Fault (Chunk capacity)}
    (h : Receiving capacity timeout s r es t) : Without Event.isCalled es := by
  cases h with
  | notConnected => exact .nil
  | received => exact .singleton rfl
  | failed => exact .cons rfl (.singleton rfl)

/-- Servicing the keep-alive hands over no message, since a ping is a frame of its own
kind. -/
theorem KeepingAlive.uncalled {time : UInt32} {r : Except Fault Unit}
    (h : KeepingAlive time s r es t) : Without Event.isCalled es := by
  cases h with
  | nothing => exact .nil
  | pinged _ hsent => exact (hsent.transfers.uncalled nofun).append (.singleton rfl)
  | unsent _ hsent => exact hsent.transfers.uncalled nofun
  | dead _ _ hdrop => exact .cons rfl hdrop.uncalled

/-- Subscribing hands over no message. -/
theorem Subscribing.uncalled {filter : String} {qos : QoS} {r : Except Fault Recorded}
    (h : Subscribing filter qos s r es t) : Without Event.isCalled es := by
  cases h with
  | empty => exact .nil
  | tooLong => exact .nil
  | notConnected => exact .nil
  | failed _ _ _ hsent => exact hsent.transfers.uncalled nofun
  | recorded _ _ _ hsent _ _ hfs =>
    refine (hsent.transfers.uncalled nofun).append (.cons rfl ?_)
    rw [hfs]
    split
    · exact .singleton rfl
    · exact .nil

/-- Leaving hands over no message, not even one that would still have to be sent. -/
theorem Leaving.uncalled (h : Leaving s es t) : Without Event.isCalled es := by
  cases h with
  | nothing => exact .nil
  | left _ hsent hdrop =>
    exact ((hsent.transfers.uncalled nofun).append hdrop.uncalled).append (.singleton rfl)

/-- Opening a link hands over no message. -/
theorem Opening.uncalled {r : Except Fault Unit} (h : Opening s r es t) :
    Without Event.isCalled es := by
  match r with
  | .error fault => exact h.transfers.uncalled nofun
  | .ok () =>
    obtain ⟨fs, _, _, _, _, rfl, hfs⟩ := h.eq_append
    exact (hfs.uncalled nofun).append (.singleton rfl)

/-- **Nothing is sent again when a link is opened anew**, but the subscriptions.  Its
frames are CONNECT and SUBSCRIBE. -/
theorem Reconnecting.uncalled {r : Except Fault Unit} (h : Reconnecting s r es t) :
    Without Event.isCalled es := by
  cases h with
  | unopened hdrop _ hopen => exact hdrop.uncalled.append hopen.uncalled
  | abandoned hdrop _ hopen _ hgs hhs =>
    exact (hdrop.uncalled.append hopen.uncalled).append ((hgs.transfers.uncalled nofun).append
      (.cons rfl ((hhs.transfers .connect).uncalled nofun)))
  | restored hdrop _ hopen _ hgs hhs =>
    refine (hdrop.uncalled.append hopen.uncalled).append
      ((hgs.transfers.uncalled nofun).append ?_)
    rw [hhs]
    split
    · exact .nil
    · exact .singleton rfl

/-- Connecting, or finding the session connected, hands over no message.  So nothing that
was published before is sent again over a new link. -/
theorem Ensuring.uncalled {r : Except Fault Unit} (h : Ensuring s r es t) :
    Without Event.isCalled es := by
  cases h with
  | linked => exact .nil
  | reconnected _ hreconnect => exact hreconnect.uncalled

end

/-! ### What a call to publish writes -/

/-- What a call writes, and the connection it goes over: a call to publish gets as far as
that if the topic is valid, the session is connected and the frame fits. -/
def posted (s : Session ω) : Call → Option (Nat × List UInt8)
  | .publish topic payload level =>
    match QoS.ofByte level, s.connection with
    | .ok qos, some connection =>
      if isTopic topic = true ∧ (s.outgoing topic payload qos).shortest.length ≤ frameLimit then
        some (connection, (s.outgoing topic payload qos).shortest)
      else none
    | _, _ => none
  | _ => none

/-- What a call to publish writes over a link that is up: the shortest frame of the
message, if the topic is valid and the frame fits, and otherwise nothing. -/
theorem posted_of_up {s : Session ω} {topic : String} {payload : List UInt8} {level : UInt8}
    {qos : QoS} {connection : Nat} (valid : QoS.ofByte level = .ok qos)
    (up : s.connection = some connection) :
    s.posted (.publish topic payload level) =
      if isTopic topic = true ∧ (s.outgoing topic payload qos).shortest.length ≤ frameLimit then
        some (connection, (s.outgoing topic payload qos).shortest)
      else none := by
  simp only [posted, valid, up]

/-- Without a link no call writes anything. -/
theorem posted_of_down {s : Session ω} (down : s.connection = none) (call : Call) :
    s.posted call = none := by
  cases call with
  | publish topic payload level =>
    simp only [posted, down]
    cases QoS.ofByte level <;> rfl
  | _ => rfl

/-- The message of a call is packed exactly if its shortest frame fits. -/
theorem pack_outgoing {s : Session ω} {topic : String} {payload : List UInt8} {qos : QoS}
    {frame : List UInt8} :
    (Outbound.publish (s.outgoing topic payload qos)).pack frameLimit = .ok frame ↔
      (s.outgoing topic payload qos).shortest.length ≤ frameLimit ∧
        frame = (s.outgoing topic payload qos).shortest :=
  Publish.pack_eq_ok_iff (s.identified_outgoing topic payload qos) (by decide)

/-- Sending a message hands over its frame once, whether the frame is then taken, cut
short or refused. -/
theorem Sending.publications {connection : Nat} {frame : List UInt8} {message : Publish}
    {r : Except Fault Unit} {es : List Event}
    (hpack : (Outbound.publish message).pack frameLimit = .ok frame)
    (h : Sending connection frame r es) : publications es = [(connection, frame)] := by
  obtain ⟨result, rest, rfl, hrest⟩ := h.eq_cons
  have hkind := kindOf?_of_pack hpack
  have hnone := ((hrest .connect).uncalled nofun).publications
  unfold Mqtt.publications at hnone ⊢
  rw [List.filterMap_cons, Event.publication?, hkind, hnone]
  rfl

/-- **A call to publish writes its message once if it gets that far**, and nothing otherwise. -/
theorem Publishing.publications {topic : String} {payload : List UInt8} {level : UInt8} {qos : QoS}
    {s t : Session ω} {r : Except Fault Unit} {es : List Event}
    (valid : QoS.ofByte level = .ok qos) (h : Publishing topic payload qos s r es t) :
    publications es = (s.posted (.publish topic payload level)).toList := by
  have same : (s.identifiedFor qos).connection = s.connection := by cases qos <;> rfl
  cases h with
  | invalid htopic =>
    cases hup : s.connection with
    | none => rw [posted_of_down hup]; rfl
    | some connection => rw [posted_of_up valid hup, if_neg (by simp [htopic])]; rfl
  | notConnected _ hdown => rw [posted_of_down hdown]; rfl
  | failed htopic hup hsent =>
    rw [posted_of_up valid hup]
    cases hsent with
    | unpackable hbad =>
      rw [if_neg fun hposts => nomatch hbad.symm.trans (pack_outgoing.2 ⟨hposts.2, rfl⟩)]
      rfl
    | notConnected hdown => exact nomatch hup.symm.trans (same.symm.trans hdown)
    | failed hpack hsame hes hfs =>
      cases hup.symm.trans (same.symm.trans hsame)
      obtain ⟨hfits, rfl⟩ := pack_outgoing.1 hpack
      rw [publications_append, hes.publications hpack,
        ((hfs.transfers .connect).uncalled nofun).publications, if_pos ⟨htopic, hfits⟩]
      rfl
  | sent htopic hup hsent =>
    rw [posted_of_up valid hup]
    cases hsent with
    | sent hpack hsame hes =>
      cases hup.symm.trans (same.symm.trans hsame)
      obtain ⟨hfits, rfl⟩ := pack_outgoing.1 hpack
      rw [publications_append, hes.publications hpack, if_pos ⟨htopic, hfits⟩]
      rfl

/-- Publishing makes no call of the message handler: those are made where a message is
handed to it. -/
theorem Publishing.unreacted {topic : String} {payload : List UInt8} {qos : QoS}
    {s t : Session ω} {r : Except Fault Unit} {es : List Event}
    (h : Publishing topic payload qos s r es t) : reactions es = [] := by
  cases h with
  | invalid => rfl
  | notConnected => rfl
  | failed _ _ hsent => exact hsent.transfers.unreacted
  | sent _ _ hsent => rw [reactions_append, hsent.transfers.unreacted]; rfl

/-- A call writes what it gets as far as, and makes no other calls. -/
theorem Calling.publications {running : Bool} {call : Call} {reply : Reply} {s t : Session ω}
    {es : List Event} (h : Calling running s call reply es t) :
    publications es = (s.posted call).toList ∧ reactions es = [] := by
  cases h with
  | connected _ hensure => exact ⟨hensure.uncalled.publications, hensure.uncalled.reactions⟩
  | notRunning => exact ⟨rfl, rfl⟩
  | published valid hpublish => exact ⟨hpublish.publications valid, hpublish.unreacted⟩
  | unpublished hbad => simp only [posted, hbad]; exact ⟨rfl, rfl⟩
  | subscribed _ hsubscribe =>
    exact ⟨hsubscribe.uncalled.publications, hsubscribe.uncalled.reactions⟩
  | unsubscribed => exact ⟨rfl, rfl⟩
  | shown _ hcall => rcases hcall with rfl | rfl <;> exact ⟨rfl, rfl⟩

/-- The message of a call that wrote one is read back from what was written. -/
theorem decode_posted {s : Session ω} {topic : String} {payload : List UInt8} {level : UInt8}
    {connection : Nat} {frame : List UInt8}
    (h : s.posted (.publish topic payload level) = some (connection, frame)) :
    ∃ qos, QoS.ofByte level = .ok qos ∧
      Inbound.decode frame = .ok (.publish (s.outgoing topic payload qos)) := by
  cases hlevel : QoS.ofByte level with
  | error fault => simp [posted, hlevel] at h
  | ok qos =>
    cases hup : s.connection with
    | none => simp [posted_of_down hup] at h
    | some c =>
      rw [posted_of_up hlevel hup, Option.ite_none_right_eq_some, Option.some.injEq,
        Prod.mk.injEq] at h
      obtain ⟨⟨-, hfits⟩, rfl, rfl⟩ := h
      refine ⟨qos, rfl, ?_⟩
      obtain ⟨htopic, hlimit⟩ := Publish.le_of_shortest (Nat.le_trans hfits (by decide))
      have hread :=
        Publish.decode_shortest htopic (s.identified_outgoing topic payload qos) hlimit []
      rwa [List.append_nil] at hread

/-! ### When a call to publish succeeds -/

/-- A topic is valid if there is something of it and neither wildcard is in it. -/
theorem isTopic_iff {topic : String} :
    isTopic topic = true ↔ topic ≠ "" ∧ '+' ∉ topic.toList ∧ '#' ∉ topic.toList := by
  have hempty : topic.isEmpty = false ↔ topic ≠ "" := by
    rw [← Bool.not_eq_true, String.isEmpty_iff]
  simp only [isTopic, Bool.and_eq_true, Bool.not_eq_true', hempty, List.all_eq_true,
    Bool.and_eq_true, decide_eq_true_eq, forall_and]
  constructor
  · rintro ⟨hsome, hplus, hhash⟩
    exact ⟨hsome, fun hmem => hplus _ hmem rfl, fun hmem => hhash _ hmem rfl⟩
  · rintro ⟨hsome, hplus, hhash⟩
    exact ⟨hsome, fun c hmem heq => hplus (heq ▸ hmem), fun c hmem heq => hhash (heq ▸ hmem)⟩

variable [Environment ω]

/-- A frame is sent if the transport takes it whole, and the flush after it. -/
theorem taken_of_sendFrame {connection : Nat} {frame : List UInt8} {s t : Session ω}
    {r : Except Fault Unit} (h : Yields (sendFrame connection frame) s r t) :
    r = .ok () ↔ Environment.Takes frame s.world.environment := by
  rw [sendFrame, yields_bind] at h
  rcases h with ⟨fault, hw, rfl⟩ | ⟨taken, u, hw, h⟩
  · rcases World.ran_orNotice (did_onWorld hw).1 with ⟨_, -, he⟩ | ⟨e, v, hwrite, -, -⟩
    · cases he
    · have hbad := (World.answered_of_demand hwrite).1
      simp [Environment.Takes, ← hbad]
  · rcases World.ran_orNotice (did_onWorld hw).1 with ⟨_, hwrite, ⟨⟩⟩ | ⟨_, _, -, -, he⟩
    · obtain ⟨hwritten, hnext, -⟩ := World.answered_of_demand hwrite
      split at h
      case isTrue hshort =>
        obtain ⟨v, -, h⟩ := yields_notice_bind h
        obtain ⟨rfl, -⟩ := yields_throw_bind.1 h
        simp [Environment.Takes, ← hwritten, hshort]
      case isFalse hwhole =>
        obtain rfl := Decidable.not_not.1 hwhole
        rcases World.ran_orNotice (did_onWorld h).1 with ⟨_, hflush, rfl⟩ | ⟨e, v, hflush, -, rfl⟩
        all_goals
          have hflushed := (World.answered_of_demand hflush).1
          rw [hnext] at hflushed
          simp [Environment.Takes, ← hwritten, ← hflushed]
    · cases he

/-- A packet is sent over the link if it can be packed and the transport takes it. -/
theorem taken_of_transmit {packet : Outbound} {s t : Session ω} {r : Except Fault Unit}
    (h : Yields (transmit packet) s r t) :
    r = .ok () ↔ ∃ frame connection, packet.pack frameLimit = .ok frame ∧
      s.connection = some connection ∧ Environment.Takes frame s.world.environment := by
  rw [transmit, packed, yields_bind] at h
  rcases h with ⟨fault, hp, rfl⟩ | ⟨frame, u, hp, h⟩
  · have hbad := (yields_ofExcept.1 hp).1
    refine iff_of_false (by simp) ?_
    rintro ⟨frame, -, hpack, -⟩
    cases hbad.trans hpack
  · obtain ⟨hpack, rfl⟩ := yields_ofExcept.1 hp
    rw [yields_get_bind] at h
    cases hup : u.connection with
    | none =>
      rw [hup] at h
      obtain ⟨rfl, -⟩ := yields_throw.1 h
      simp
    | some connection =>
      rw [hup] at h
      obtain ⟨x, v, hsend, h⟩ := yields_attempt_bind.1 h
      have htaken := taken_of_sendFrame hsend
      cases x with
      | ok a =>
        obtain ⟨rfl, -⟩ := yields_pure.1 h
        exact iff_of_true rfl ⟨frame, connection, hpack.symm, rfl, htaken.1 rfl⟩
      | error fault =>
        rcases yields_bind.1 h with ⟨_, hd, -⟩ | ⟨⟨⟩, w, -, h⟩
        · exact absurd (dropping_of_dropLink hd).1 (by simp)
        · obtain ⟨rfl, -⟩ := yields_throw.1 h
          refine iff_of_false (by simp) ?_
          rintro ⟨other, -, hother, -, htakes⟩
          cases hpack.trans hother
          cases htaken.2 htakes

/-- **A call to publish succeeds** if its topic is valid, the session is connected, and the
transport takes the message's frame, which fits. -/
theorem taken_of_publish {topic : String} {payload : List UInt8} {qos : QoS} {s t : Session ω}
    {r : Except Fault Unit} (h : Yields (publish topic payload qos) s r t) :
    r = .ok () ↔ isTopic topic = true ∧ s.isConnected = true ∧
      (s.outgoing topic payload qos).shortest.length ≤ frameLimit ∧
        Environment.Takes (s.outgoing topic payload qos).shortest s.world.environment := by
  by_cases hready : isTopic topic = true ∧ s.isConnected = true
  · obtain ⟨htopic, hup⟩ := hready
    have same : (s.identifiedFor qos).connection = s.connection ∧
        (s.identifiedFor qos).world = s.world := by cases qos <;> exact ⟨rfl, rfl⟩
    have sent : ∀ {x : Except Fault Unit} {u : Session ω},
        Yields (transmit (.publish (s.outgoing topic payload qos))) (s.identifiedFor qos) x u →
          (x = .ok () ↔ (s.outgoing topic payload qos).shortest.length ≤ frameLimit ∧
            Environment.Takes (s.outgoing topic payload qos).shortest s.world.environment) := by
      intro x u hx
      rw [taken_of_transmit hx, same.1, same.2]
      constructor
      · rintro ⟨frame, connection, hpack, -, htakes⟩
        obtain ⟨hfits, rfl⟩ := pack_outgoing.1 hpack
        exact ⟨hfits, htakes⟩
      · rintro ⟨hfits, htakes⟩
        obtain ⟨connection, hconnection⟩ := Option.isSome_iff_exists.1 hup
        exact ⟨_, connection, pack_outgoing.2 ⟨hfits, rfl⟩, hconnection, htakes⟩
    rcases yields_bind.1 (yields_publish htopic hup h) with ⟨fault, hx, rfl⟩ | ⟨⟨⟩, u, hx, hn⟩
    · exact iff_of_false nofun fun htakes => nomatch (sent hx).2 htakes.2.2
    · exact iff_of_true (did_notice hn).1 ⟨htopic, hup, (sent hx).1 rfl⟩
  · obtain ⟨es, hes⟩ := publishing_of_publish h
    refine iff_of_false (fun hok => ?_) fun htakes => hready ⟨htakes.1, htakes.2.1⟩
    subst hok
    cases hes with
    | sent htopic hup => exact hready ⟨htopic, by simp [isConnected, hup]⟩

/-- **A call to publish succeeds exactly if the message could be sent.**  The level has to
be one that can be asked for, the topic valid, the session connected and the frame small
enough, and the environment has to take the frame and the flush; what the broker makes of
the message is not waited for. -/
theorem done_iff_of_answer {running : Bool} {topic : String} {payload : List UInt8} {level : UInt8}
    {s t : Session ω} {reply : Reply}
    (h : Yields (answer running (.publish topic payload level) : Action ε (Session ω) Reply) s
      (.ok reply) t) :
    reply = .done ↔ ∃ qos, QoS.ofByte level = .ok qos ∧
      (topic ≠ "" ∧ '+' ∉ topic.toList ∧ '#' ∉ topic.toList) ∧ s.isConnected = true ∧
        (s.outgoing topic payload qos).shortest.length ≤ frameLimit ∧
          Environment.Takes (s.outgoing topic payload qos).shortest s.world.environment := by
  obtain ⟨x, hx, ⟨⟩⟩ := yields_replyTo h
  have hdone : Reply.ofExcept x = .done ↔ x = .ok () := by
    cases x <;> simp [Reply.ofExcept]
  rw [hdone]
  rcases yields_bind.1 hx with ⟨fault, hq, rfl⟩ | ⟨qos, u, hq, hp⟩
  · have hlevel := (yields_ofExcept.1 hq).1
    exact iff_of_false nofun fun ⟨_, hvalid, _⟩ => nomatch hlevel.trans hvalid
  · obtain ⟨hlevel, rfl⟩ := yields_ofExcept.1 hq
    rw [taken_of_publish hp, isTopic_iff]
    constructor
    · exact fun htakes => ⟨qos, hlevel.symm, htakes⟩
    · rintro ⟨other, hother, htakes⟩
      cases hlevel.trans hother
      exact htakes

end Session

open Session

/-- A call that was made, with the session before and after it. -/
structure Made (ω : Type) where
  /-- The message handler made it, not the program. -/
  byHandler : Bool
  call : Call
  /-- The session it was made on. -/
  before : Session ω
  reply : Reply
  /-- The session it left behind. -/
  after : Session ω

namespace Made

variable {ω : Type} [Environment ω]

/-- What a call to publish promises, and how it is kept. -/
structure Honest (made : Made ω) : Prop where
  /-- The messages that go out meanwhile are what the call gets as far as writing: one or
  none. -/
  written : ∃ es, made.before.world.Ran es made.after.world ∧
    publications es = (made.before.posted made.call).toList
  /-- It succeeds if the topic is not empty and has no wildcard, the session is connected,
  the frame has no more bytes than fit, and the transport takes it and the flush. -/
  done : ∀ topic payload level, made.call = .publish topic payload level →
    (made.reply = .done ↔ ∃ qos, QoS.ofByte level = .ok qos ∧
      (topic ≠ "" ∧ '+' ∉ topic.toList ∧ '#' ∉ topic.toList) ∧ made.before.isConnected = true ∧
        (made.before.outgoing topic payload qos).shortest.length ≤ 1024 ∧
          Environment.Takes (made.before.outgoing topic payload qos).shortest
            made.before.world.environment)
  /-- Then the frame it has written over the link is read back as the message. -/
  faithful : ∀ topic payload level, made.call = .publish topic payload level →
    made.reply = .done → ∃ qos connection frame, QoS.ofByte level = .ok qos ∧
      made.before.connection = some connection ∧
        made.before.posted made.call = some (connection, frame) ∧
          Inbound.decode frame = .ok (.publish {
            topic, payload, qos
            packetId := match qos with
              | .atMostOnce => none
              | .atLeastOnce => some made.before.packetId
            retain := false
            dup := false })

/-- A call of another kind is honest if it writes no message. -/
theorem honest_of_uncalled {made : Made ω} {es : List Event}
    (other : ∀ topic payload level, made.call ≠ .publish topic payload level)
    (ran : made.before.world.Ran es made.after.world) (quiet : Without Event.isCalled es) :
    made.Honest where
  written := by
    refine ⟨es, ran, ?_⟩
    rw [quiet.publications]
    cases hcall : made.call with
    | publish topic payload level => exact absurd hcall (other topic payload level)
    | _ => rfl
  done topic payload level hcall := absurd hcall (other topic payload level)
  faithful topic payload level hcall := absurd hcall (other topic payload level)

/-- **Whatever the session answers is honest.**  What fails before the write, or in it,
is not reported as sent, and only a frame that went out whole is. -/
theorem honest_of_answer {running byHandler : Bool} {call : Call} {s t : Session ω} {reply : Reply}
    (h : Yields (answer running call : Action Empty (Session ω) Reply) s (.ok reply) t) :
    (⟨byHandler, call, s, reply, t⟩ : Made ω).Honest := by
  obtain ⟨_, es, ⟨⟩, hes⟩ := calling_of_answer h
  refine ⟨⟨es, hes.path.ran, hes.publications.1⟩, ?_, ?_⟩
  · rintro topic payload level rfl
    exact done_iff_of_answer h
  · rintro topic payload level rfl rfl
    obtain ⟨qos, hlevel, htopic, hup, hfits, -⟩ := (done_iff_of_answer h).1 rfl
    obtain ⟨connection, hconnection⟩ := Option.isSome_iff_exists.1 hup
    have hposted : s.posted (.publish topic payload level) =
        some (connection, (s.outgoing topic payload qos).shortest) := by
      rw [posted_of_up hlevel hconnection, if_pos ⟨isTopic_iff.2 htopic, hfits⟩]
    obtain ⟨other, hother, hread⟩ := decode_posted hposted
    cases hlevel.symm.trans hother
    exact ⟨qos, connection, _, hlevel, hconnection, hposted, hread⟩

end Made
end Mqtt
