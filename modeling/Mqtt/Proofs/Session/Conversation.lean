/-
# Conversations

What is done to one connection, in order, is its conversation.  `Orderly` is the
grammar of one: whole frames, first CONNECT, then only what follows an accepting
CONNACK, at last DISCONNECT, and after a failure to send nothing but the close.

`Talk` reads a conversation from its start and keeps the stage it is in:

| stage | what may follow |
| --- | --- |
| `silent` | the security handshake, CONNECT |
| `greeting` | reads, until they gave a CONNACK that accepts |
| `up` | reads, traffic, DISCONNECT |
| `left`, `failed` | the close |
| `closed` | nothing |

A conversation that `Talk` reads is orderly unless it stops between a failure and
the close (`Talk.orderly`).
-/
import Mqtt.Proofs.Session.Handshake
import Mqtt.Proofs.Session.Path
import Mqtt.Proofs.Wire.Packed

namespace Mqtt

/-- Something done to a connection that is open. -/
inductive Io where
  /-- The connection was secured. -/
  | secure
  /-- A read, with what it gave. -/
  | read (result : Except NetFault (List UInt8))
  /-- A write of a frame, with how much of it was taken. -/
  | write (frame : List UInt8) (result : Except NetFault Nat)
  /-- A flush. -/
  | flush (result : Except NetFault Unit)
  /-- The connection was closed. -/
  | close

/-- What an event does to a connection. -/
def Event.io? (c : Nat) : Event → Option Io
  | .secure connection .. => if connection = c then some .secure else none
  | .read connection _ _ result => if connection = c then some (.read result) else none
  | .write connection bytes result => if connection = c then some (.write bytes result) else none
  | .flush connection result => if connection = c then some (.flush result) else none
  | .close connection => if connection = c then some .close else none
  | _ => none

/-- What is done to a connection, in order. -/
def conversation (c : Nat) (events : List Event) : List Io :=
  events.filterMap (Event.io? c)

/-- The conversation goes on stretch by stretch, so a step adds to it at the end what the
step does to the connection. -/
@[simp] theorem conversation_append (c : Nat) (es fs : List Event) :
    conversation c (es ++ fs) = conversation c es ++ conversation c fs :=
  List.filterMap_append

/-- Where nothing was done, nothing was done to the connection. -/
@[simp] theorem conversation_nil (c : Nat) : conversation c [] = [] := rfl

/-- An event adds at most one thing to a conversation, and nothing if it concerns another
connection. -/
@[simp] theorem conversation_cons (c : Nat) (event : Event) (es : List Event) :
    conversation c (event :: es) = (event.io? c).toList ++ conversation c es := by
  cases h : event.io? c <;> simp [conversation, h]

/-- Telling the log is no part of any conversation. -/
@[simp] theorem io?_notice (c : Nat) (n : Notice) : (Event.notice n).io? c = none := rfl

/-- That a connection is opened is no part of its conversation, which starts with what is
done to it then. -/
@[simp] theorem io?_connect (c : Nat) (host : String) (tcpPort : UInt16) (timeout : UInt32)
    (result : Except NetFault Unit) : (Event.connect host tcpPort timeout result).io? c = none := rfl

/-- What is only told does nothing to any connection. -/
theorem io?_of_isTold {event : Event} (h : event.isTold = true) (c : Nat) :
    event.io? c = none := by
  cases event <;> first | rfl | cases h

/-- What is only told opens no connection. -/
theorem openings_of_isTold {event : Event} (h : event.isTold = true) : openings [event] = 0 := by
  cases event <;> first | rfl | cases h

/-- The event is done to a connection, or only tells of something. -/
def Event.concerns (c : Nat) : Event → Bool
  | .notice (.connected ..) | .notice (.subscribed ..) | .notice .ponged | .notice (.ignored _)
  | .notice (.subscriptionRejected _) => false
  | .notice _ => true
  | event => (event.io? c).isSome

/-- A handshake succeeded. -/
def Event.isHandshake : Event → Bool
  | .notice (.connected ..) => true
  | _ => false

/-- The event is put to the network or told to the log, but not of a packet. -/
def Event.isPlain : Event → Bool
  | .sleep _ | .spawn .. | .join | .reaction .. => false
  | event => !event.isAct

/-- Nothing of the kind is among the events. -/
def Without (kind : Event → Bool) (es : List Event) : Prop :=
  ∀ e ∈ es, kind e = false

/-- No events are without events of any kind. -/
theorem Without.nil {kind : Event → Bool} : Without kind [] := fun _ he => nomatch he

/-- What is missing in two stretches of the history is missing in both together. -/
theorem Without.append {kind : Event → Bool} {es fs : List Event} (h : Without kind es)
    (h' : Without kind fs) : Without kind (es ++ fs) := fun e he =>
  (List.mem_append.1 he).elim (h e) (h' e)

/-- What is missing is counted zero times. -/
theorem Without.countP {kind : Event → Bool} {es : List Event} (h : Without kind es) :
    es.countP kind = 0 :=
  List.countP_eq_zero.2 fun e he hkind => by simp [h e he] at hkind

/-- All that is done is done to one connection. -/
def Concern (c : Nat) (es : List Event) : Prop :=
  ∀ e ∈ es, e.concerns c = true

namespace Concern

variable {c : Nat} {es fs : List Event}

/-- Doing nothing concerns every connection alike. -/
theorem nil : Concern c [] := by simp [Concern]

/-- Two stretches that concern one connection concern it together. -/
theorem append (h : Concern c es) (h' : Concern c fs) : Concern c (es ++ fs) := fun e he =>
  (List.mem_append.1 he).elim (h e) (h' e)

/-- That subscriptions could not be sent again is said of whichever connection. -/
theorem lost (h : ∀ e ∈ es, ∃ fault, e = .notice (.resubscribeFailed fault)) : Concern c es := by
  intro e he
  obtain ⟨fault, rfl⟩ := h e he
  rfl

/-- What concerns a connection that is open opens no other. -/
theorem openings (h : Concern c es) : openings es = 0 :=
  List.countP_eq_zero.2 fun e he hopen => by
    have hconcerns := h e he
    cases e <;> simp_all [Event.isOpening, Event.concerns, Event.io?]

/-- What concerns one connection brings no link up: it takes the whole of opening one to
tell of a handshake. -/
theorem handshakes (h : Concern c es) : Without Event.isHandshake es := by
  intro e he
  have hconcerns := h e he
  cases e with
  | notice n => cases n <;> first | rfl | cases hconcerns
  | _ => rfl

/-- What concerns one connection does not act on what the broker sent, nor does it start
tasks or sleep. -/
theorem plain (h : Concern c es) : ∀ e ∈ es, e.isPlain = true := by
  intro e he
  have hconcerns := h e he
  cases e with
  | notice n => cases n <;> first | rfl | cases hconcerns
  | _ => first | rfl | cases hconcerns

/-- **What concerns one connection leaves every other alone.**  Almost all that is said of
single connections rests on this. -/
theorem others (h : Concern c es) {other : Nat} (apart : other ≠ c) :
    conversation other es = [] :=
  List.filterMap_eq_nil_iff.2 fun e he => by
    have hconcerns := h e he
    cases e <;> simp_all [Event.concerns, Event.io?, Ne.symm apart]

end Concern

namespace Io

/-- The bytes that reads gave. -/
def received (io : List Io) : List UInt8 :=
  io.flatMap fun
    | .read (.ok bytes) => bytes
    | _ => []

/-- What writes handed over. -/
def frames (io : List Io) : List (List UInt8) :=
  io.filterMap fun
    | .write frame _ => some frame
    | _ => none

/-- Sending went wrong: a write failed, or took fewer or more bytes than the frame
has, or the flush failed. -/
def IsFailure : Io → Prop
  | .write frame (.ok taken) => taken ≠ frame.length
  | .write _ (.error _) => True
  | .flush (.error _) => True
  | _ => False

/-- The bytes of two stretches of a conversation come one after the other. -/
@[simp] theorem received_append (io more : List Io) :
    received (io ++ more) = received io ++ received more :=
  List.flatMap_append

/-- The frames of two stretches of a conversation come one after the other. -/
@[simp] theorem frames_append (io more : List Io) :
    frames (io ++ more) = frames io ++ frames more :=
  List.filterMap_append

/-- The frames written are those written before and the one written last. -/
theorem mem_frames_append {io fs : List Io} {frame last : List UInt8} (hfs : frames fs = [last])
    (h : frame ∈ frames (io ++ fs)) : frame ∈ frames io ∨ frame = last := by
  rw [frames_append, hfs] at h
  simpa using h

end Io

/-- The kind that the header of a frame announces. -/
def kindOf? (frame : List UInt8) : Option Kind :=
  match Header.parse frame with
  | .ok (some header) => some header.kind
  | _ => none

/-- A kind of frame that an open session sends before it ends. -/
def Kind.IsTraffic (kind : Kind) : Prop :=
  kind = .publish ∨ kind = .subscribe ∨ kind = .pubAck ∨ kind = .pingReq

/-- The grammar of the kinds of frames sent over a connection. -/
def InOrder (kinds : List (Option Kind)) : Prop :=
  kinds = [] ∨ ∃ traffic bye : List (Option Kind), kinds = some .connect :: traffic ++ bye ∧
    (∀ k ∈ traffic, ∃ kind, k = some kind ∧ kind.IsTraffic) ∧ (bye = [] ∨ bye = [some .disconnect])

/-- The grammar of what is done to a connection. -/
structure Orderly (io : List Io) : Prop where
  /-- A write hands over one whole frame. -/
  whole : ∀ frame result, .write frame result ∈ io →
    ∃ header, Header.parse frame = .ok (some header) ∧ header.frameSize = frame.length ∧
      frame.length ≤ 1024
  /-- The one CONNECT comes first, and a DISCONNECT last. -/
  order : InOrder ((Io.frames io).map kindOf?)
  /-- What follows the CONNECT waits for a CONNACK that accepts. -/
  accepted : ∀ before frame result after, io = before ++ .write frame result :: after →
    Io.frames before ≠ [] → Session.Accepts (Io.received before)
  /-- After a failure to send, the connection is closed, and that is all. -/
  closed : ∀ before failure after, io = before ++ failure :: after → failure.IsFailure →
    after = [.close]

/-- How far a conversation has come. -/
inductive Stage where
  /-- Nothing has been written. -/
  | silent
  /-- CONNECT is out and its answer is awaited. -/
  | greeting
  /-- The peer has accepted. -/
  | up
  /-- DISCONNECT is out. -/
  | left
  /-- A frame did not go out whole. -/
  | failed
  /-- The connection is closed, and nothing can follow. -/
  | closed

/-- What may have been sent before a stage. -/
def Stage.Sent : Stage → List (Option Kind) → Prop
  | silent, kinds => kinds = []
  | greeting, kinds => kinds = [some .connect]
  | up, kinds => ∃ traffic : List (Option Kind), kinds = some .connect :: traffic ∧
    ∀ k ∈ traffic, ∃ kind, k = some kind ∧ kind.IsTraffic
  | left, kinds | failed, kinds | closed, kinds => InOrder kinds

/-- At each stage the kinds that were sent so far are in order.  The stages say more,
since they keep how the conversation may go on. -/
theorem Stage.Sent.inOrder {stage : Stage} {kinds : List (Option Kind)} (h : stage.Sent kinds) :
    InOrder kinds := by
  cases stage with
  | silent => exact .inl h
  | greeting => exact .inr ⟨[], [], h, by simp, .inl rfl⟩
  | up =>
    obtain ⟨traffic, hkinds, hall⟩ := h
    exact .inr ⟨traffic, [], by simpa using hkinds, hall, .inl rfl⟩
  | left => exact h
  | failed => exact h
  | closed => exact h

/-- What sending a frame does to a connection when it goes wrong. -/
inductive Failing (frame : List UInt8) : List Io → Prop
  /-- The write was refused. -/
  | unwritten (fault : NetFault) : Failing frame [.write frame (.error fault)]
  /-- Only part of the frame was taken, and it is not flushed. -/
  | short {taken : Nat} : taken ≠ frame.length → Failing frame [.write frame (.ok taken)]
  /-- All of it was taken, but the flush failed. -/
  | unflushed (fault : NetFault) :
      Failing frame [.write frame (.ok frame.length), .flush (.error fault)]

/-- A conversation and its stage. -/
inductive Talk : List Io → Stage → Prop
  /-- An opened connection has said nothing yet. -/
  | nil : Talk [] .silent
  /-- Only a connection on which nothing was written is secured. -/
  | secured {io : List Io} : Talk io .silent → Talk (io ++ [.secure]) .silent
  /-- CONNECT is the first frame. -/
  | greeted {io : List Io} {request : Connect} {frame : List UInt8} : Talk io .silent →
      (Outbound.connect request).pack Session.frameLimit = .ok frame →
      Talk (io ++ [.write frame (.ok frame.length), .flush (.ok ())]) .greeting
  /-- Bytes are read while the answer is awaited and while the link is up. -/
  | heard {io : List Io} {stage : Stage} (result : Except NetFault (List UInt8)) :
      Talk io stage → stage = .greeting ∨ stage = .up → Talk (io ++ [.read result]) stage
  /-- The link is up once the bytes read are those of an accepting CONNACK. -/
  | accepted {io : List Io} : Talk io .greeting → Session.Accepts (Io.received io) → Talk io .up
  /-- Traffic goes out only while the link is up. -/
  | sent {io : List Io} {packet : Outbound} {frame : List UInt8} : Talk io .up →
      packet.isTraffic = true → packet.pack Session.frameLimit = .ok frame →
      Talk (io ++ [.write frame (.ok frame.length), .flush (.ok ())]) .up
  /-- After DISCONNECT nothing more can be written. -/
  | left {io : List Io} {frame : List UInt8} : Talk io .up →
      Outbound.disconnect.pack Session.frameLimit = .ok frame →
      Talk (io ++ [.write frame (.ok frame.length), .flush (.ok ())]) .left
  /-- CONNECT itself may fail to go out. -/
  | hushed {io fs : List Io} {request : Connect} {frame : List UInt8} : Talk io .silent →
      (Outbound.connect request).pack Session.frameLimit = .ok frame → Failing frame fs →
      Talk (io ++ fs) .failed
  /-- So may any frame of a link that is up. -/
  | failed {io fs : List Io} {packet : Outbound} {frame : List UInt8} : Talk io .up →
      packet.isTraffic = true ∨ packet = .disconnect →
      packet.pack Session.frameLimit = .ok frame → Failing frame fs → Talk (io ++ fs) .failed
  /-- Closing is possible at every stage, once. -/
  | closed {io : List Io} {stage : Stage} : Talk io stage → stage ≠ .closed →
      Talk (io ++ [.close]) .closed

/-- Something in two runs of things is in the first or in the second. -/
theorem append_eq_append_cons {α : Type} {io more before after : List α} {x : α}
    (h : io ++ more = before ++ x :: after) :
    (∃ rest, io = before ++ x :: rest ∧ after = rest ++ more) ∨
      ∃ rest, before = io ++ rest ∧ more = rest ++ x :: after := by
  rcases List.append_eq_append_iff.1 h with ⟨rest, hbefore, hmore⟩ | ⟨rest, hio, hafter⟩
  · exact .inr ⟨rest, hbefore, hmore⟩
  · cases rest with
    | nil => exact .inr ⟨[], by simpa using hio.symm, by simpa using hafter.symm⟩
    | cons y rest =>
      rw [List.cons_append, List.cons.injEq] at hafter
      obtain ⟨rfl, rfl⟩ := hafter
      exact .inl ⟨rest, hio, rfl⟩

/-- Where one event of a kind is among others, there is one way to split them at it. -/
theorem split_unique (kind : Event → Bool) {es fs before after : List Event} {e e' : Event}
    (hes : Without kind es) (hfs : Without kind fs) (he : kind e' = true)
    (h : es ++ e :: fs = before ++ e' :: after) : before = es ∧ after = fs := by
  rcases append_eq_append_cons h with ⟨rest, rfl, -⟩ | ⟨rest, rfl, hrest⟩
  · have hno := hes e' (List.mem_append_right _ List.mem_cons_self)
    exact nomatch hno.symm.trans he
  · cases rest with
    | nil =>
      obtain ⟨-, rfl⟩ := List.cons.inj hrest
      exact ⟨List.append_nil _, rfl⟩
    | cons first rest =>
      obtain ⟨-, rfl⟩ := List.cons.inj hrest
      have hno := hfs e' (List.mem_append_right _ List.mem_cons_self)
      exact nomatch hno.symm.trans he

/-- The kind of a packet is read from its packed frame, so the frames that are sent tell
which packets they are. -/
theorem kindOf?_of_pack {packet : Outbound} {capacity : Nat} {frame : List UInt8}
    (h : packet.pack capacity = .ok frame) : kindOf? frame = some packet.kind := by
  obtain ⟨header, hparse, hkind, -⟩ := Outbound.parse_of_pack h
  rw [kindOf?, hparse]
  exact congrArg some hkind

/-- Sending a packet adds its kind to what was sent. -/
theorem Io.kinds_append {io fs : List Io} {packet : Outbound} {capacity : Nat} {frame : List UInt8}
    (hfs : Io.frames fs = [frame]) (hpack : packet.pack capacity = .ok frame) :
    (Io.frames (io ++ fs)).map kindOf? = (Io.frames io).map kindOf? ++ [some packet.kind] := by
  rw [Io.frames_append, List.map_append, hfs, List.map_singleton, kindOf?_of_pack hpack]

/-- The packets that an open session sends are of the kinds allowed between CONNECT and
DISCONNECT. -/
theorem Outbound.kind_isTraffic {packet : Outbound} (h : packet.isTraffic = true) :
    packet.kind.IsTraffic := by
  cases packet with
  | connect => cases h
  | disconnect => cases h
  | publish => exact .inl rfl
  | subscribe => exact .inr (.inl rfl)
  | pubAck => exact .inr (.inr (.inl rfl))
  | pingReq => exact .inr (.inr (.inr rfl))

namespace Stage.Sent

variable {kinds : List (Option Kind)}

/-- A packet of an open session may be sent at the stage where the link is up, and leaves
it there. -/
theorem traffic {packet : Outbound} (h : Stage.up.Sent kinds) (traffic : packet.isTraffic = true) :
    Stage.up.Sent (kinds ++ [some packet.kind]) := by
  obtain ⟨before, rfl, hall⟩ := h
  refine ⟨before ++ [some packet.kind], by simp, fun k hk => ?_⟩
  rcases List.mem_append.1 hk with hk | hk
  · exact hall k hk
  · exact ⟨packet.kind, List.mem_singleton.1 hk, packet.kind_isTraffic traffic⟩

/-- A DISCONNECT may follow while the link is up, and the kinds are in order with it at
their end. -/
theorem disconnect (h : Stage.up.Sent kinds) : InOrder (kinds ++ [some .disconnect]) := by
  obtain ⟨before, rfl, hall⟩ := h
  exact .inr ⟨before, [some .disconnect], by simp, hall, .inr rfl⟩

end Stage.Sent

/-- Whether the broker accepted is told by the first bytes it sent, so more bytes do not
change it. -/
theorem Session.Accepts.append {bytes : List UInt8} (h : Session.Accepts bytes)
    (more : List UInt8) : Session.Accepts (bytes ++ more) := by
  obtain ⟨first, ack, rest, rfl, hkind⟩ := h
  exact ⟨first, ack, rest ++ more, rfl, hkind⟩

namespace Io

/-- Whatever is written after the first frame waits for a CONNACK that accepts. -/
def Waits (io : List Io) : Prop :=
  ∀ before frame result after, io = before ++ .write frame result :: after →
    frames before ≠ [] → Session.Accepts (received before)

/-- What sends no frames lets everything still wait for its CONNACK. -/
theorem Waits.quiet {io fs : List Io} (h : Waits io) (hfs : frames fs = []) : Waits (io ++ fs) := by
  intro before frame result after hsplit hmore
  rcases append_eq_append_cons hsplit with ⟨rest, hio, -⟩ | ⟨rest, -, rfl⟩
  · exact h before frame result rest hio hmore
  · simp [frames] at hfs

/-- A write keeps the order if it is the first, or if the broker has accepted by then;
what comes with it sends no other frame. -/
theorem Waits.write {io rest : List Io} {frame : List UInt8} {result : Except NetFault Nat}
    (h : Waits io) (hrest : frames rest = [])
    (ready : frames io ≠ [] → Session.Accepts (received io)) :
    Waits (io ++ .write frame result :: rest) := by
  intro before frame' result' after hsplit hmore
  rcases append_eq_append_cons hsplit with ⟨rest', hio, -⟩ | ⟨between, rfl, hfs⟩
  · exact h before frame' result' rest' hio hmore
  · cases between with
    | nil =>
      rw [List.append_nil] at hmore ⊢
      exact ready hmore
    | cons x between =>
      obtain ⟨-, rfl⟩ := List.cons.inj hfs
      simp [frames] at hrest

end Io

/-- A failure to send begins with a write, and that is the only one. -/
theorem Failing.eq_cons {frame : List UInt8} {fs : List Io} (h : Failing frame fs) :
    ∃ result rest, fs = .write frame result :: rest ∧ Io.frames rest = [] := by
  cases h with
  | unwritten fault => exact ⟨_, [], rfl, rfl⟩
  | short => exact ⟨_, [], rfl, rfl⟩
  | unflushed fault => exact ⟨_, _, rfl, rfl⟩

/-- Sending that fails has still handed over its one frame, or has tried to. -/
theorem Failing.frames {frame : List UInt8} {fs : List Io} (h : Failing frame fs) :
    Io.frames fs = [frame] := by
  cases h <;> rfl

/-- Only the last thing of a failure to send went wrong. -/
theorem Failing.last {frame : List UInt8} {fs before after : List Io} {failure : Io}
    (h : Failing frame fs) (split : fs = before ++ failure :: after) (bad : failure.IsFailure) :
    after = [] := by
  cases h with
  | unwritten fault => cases before <;> simp_all
  | short => cases before <;> simp_all
  | unflushed fault =>
    match before, split with
    | [], split =>
      simp only [List.nil_append, List.cons.injEq] at split
      rw [← split.1] at bad
      exact absurd rfl bad
    | [_], split =>
      simp only [List.cons_append, List.nil_append, List.cons.injEq] at split
      exact split.2.2.symm
    | _ :: _ :: before, split => simp at split

namespace Talk

variable {io : List Io} {stage : Stage}

/-- Whatever is written is a packed frame. -/
theorem packed (h : Talk io stage) {frame : List UInt8} (hframe : frame ∈ Io.frames io) :
    ∃ packet : Outbound, packet.pack Session.frameLimit = .ok frame := by
  induction h with
  | nil => cases hframe
  | secured _ ih => exact ih (by simpa [Io.frames] using hframe)
  | heard result _ _ ih => exact ih (by simpa [Io.frames] using hframe)
  | accepted _ _ ih => exact ih hframe
  | closed _ _ ih => exact ih (by simpa [Io.frames] using hframe)
  | greeted _ hpack ih =>
    exact (Io.mem_frames_append rfl hframe).elim ih fun he => ⟨_, he ▸ hpack⟩
  | sent _ _ hpack ih => exact (Io.mem_frames_append rfl hframe).elim ih fun he => ⟨_, he ▸ hpack⟩
  | left _ hpack ih => exact (Io.mem_frames_append rfl hframe).elim ih fun he => ⟨_, he ▸ hpack⟩
  | hushed _ hpack hfs ih =>
    exact (Io.mem_frames_append hfs.frames hframe).elim ih fun he => ⟨_, he ▸ hpack⟩
  | failed _ _ hpack hfs ih =>
    exact (Io.mem_frames_append hfs.frames hframe).elim ih fun he => ⟨_, he ▸ hpack⟩

/-- What was sent keeps to the stage. -/
theorem kinds (h : Talk io stage) : stage.Sent ((Io.frames io).map kindOf?) := by
  induction h with
  | nil => rfl
  | secured _ ih => simpa [Io.frames] using ih
  | heard result _ _ ih => simpa [Io.frames] using ih
  | accepted _ _ ih => exact ⟨[], ih, by simp⟩
  | closed _ _ ih => exact Stage.Sent.inOrder (by simpa [Io.frames] using ih)
  | greeted _ hpack ih =>
    rw [Io.kinds_append rfl hpack, show (Io.frames _).map kindOf? = [] from ih]
    rfl
  | sent _ traffic hpack ih =>
    rw [Io.kinds_append rfl hpack]
    exact ih.traffic traffic
  | left _ hpack ih =>
    rw [Io.kinds_append rfl hpack]
    exact ih.disconnect
  | hushed _ hpack hfs ih =>
    rw [Io.kinds_append hfs.frames hpack, show (Io.frames _).map kindOf? = [] from ih]
    exact .inr ⟨[], [], rfl, by simp, .inl rfl⟩
  | failed _ kind hpack hfs ih =>
    rw [Io.kinds_append hfs.frames hpack]
    rcases kind with traffic | rfl
    · exact (ih.traffic traffic).inOrder
    · exact ih.disconnect

/-- No frame is sent before CONNECT. -/
theorem nothing_sent (h : Talk io .silent) : Io.frames io = [] :=
  List.map_eq_nil_iff.1 h.kinds

/-- No bytes are received before CONNECT was sent: nothing reads from a connection whose
conversation is silent. -/
theorem nothing_received (h : Talk io stage) (silent : stage = .silent) : Io.received io = [] := by
  induction h with
  | nil => rfl
  | secured _ ih => simpa [Io.received] using ih rfl
  | heard _ _ hstage => rcases hstage with rfl | rfl <;> cases silent
  | greeted | accepted | sent | left | hushed | failed | closed => cases silent

/-- A conversation comes up only by a CONNACK that accepts. -/
theorem accepts (h : Talk io stage) (up : stage = .up) : Session.Accepts (Io.received io) := by
  induction h with
  | heard result _ _ ih =>
    rw [Io.received_append]
    exact (ih up).append _
  | accepted _ haccepts _ => exact haccepts
  | sent _ _ _ ih => simpa [Io.received] using ih rfl
  | nil | secured | greeted | left | hushed | failed | closed => cases up

/-- Whatever is written after the CONNECT waits for a CONNACK that accepts. -/
theorem waits (h : Talk io stage) : Io.Waits io := by
  induction h with
  | nil => exact fun before _ _ _ hsplit => by simp at hsplit
  | secured _ ih => exact ih.quiet rfl
  | heard _ _ _ ih => exact ih.quiet rfl
  | accepted _ _ ih => exact ih
  | closed _ _ ih => exact ih.quiet rfl
  | greeted htalk _ ih => exact ih.write rfl fun hsome => absurd htalk.nothing_sent hsome
  | sent htalk _ _ ih => exact ih.write rfl fun _ => htalk.accepts rfl
  | left htalk _ ih => exact ih.write rfl fun _ => htalk.accepts rfl
  | hushed htalk _ hfs ih =>
    obtain ⟨result, rest, rfl, hrest⟩ := hfs.eq_cons
    exact ih.write hrest fun hsome => absurd htalk.nothing_sent hsome
  | failed htalk _ _ hfs ih =>
    obtain ⟨result, rest, rfl, hrest⟩ := hfs.eq_cons
    exact ih.write hrest fun _ => htalk.accepts rfl

/-- Before a failure to send and the close, nothing went wrong. -/
theorem sound (h : Talk io stage) (calm : stage ≠ .failed) (running : stage ≠ .closed) :
    ∀ x ∈ io, ¬ x.IsFailure := by
  induction h with
  | nil => simp
  | secured _ ih => simpa [Io.IsFailure, or_imp, forall_and] using ih calm running
  | heard _ _ _ ih => simpa [Io.IsFailure, or_imp, forall_and] using ih calm running
  | accepted _ _ ih => exact ih (by simp) (by simp)
  | greeted _ _ ih => simpa [Io.IsFailure, or_imp, forall_and] using ih (by simp) (by simp)
  | sent _ _ _ ih => simpa [Io.IsFailure, or_imp, forall_and] using ih (by simp) (by simp)
  | left _ _ ih => simpa [Io.IsFailure, or_imp, forall_and] using ih (by simp) (by simp)
  | hushed => exact absurd rfl calm
  | failed => exact absurd rfl calm
  | closed => exact absurd rfl running

/-- A conversation that has neither failed nor been closed has no failure to send in it: a
failure leads to the stage at which only the close may follow. -/
theorem no_failure (h : Talk io stage) (calm : stage ≠ .failed) (running : stage ≠ .closed)
    {before after : List Io} {failure : Io} (split : io = before ++ failure :: after) :
    ¬ failure.IsFailure :=
  h.sound calm running failure (by simp [split])

/-- A failure to send is the last thing done before the close. -/
theorem failed_last (h : Talk io .failed) {before after : List Io} {failure : Io}
    (split : io = before ++ failure :: after) (bad : failure.IsFailure) : after = [] := by
  cases h with
  | heard _ _ hstage => rcases hstage with hstage | hstage <;> cases hstage
  | hushed htalk _ hfs =>
    rcases append_eq_append_cons split with ⟨rest, hio, -⟩ | ⟨between, -, hlast⟩
    · exact absurd bad (htalk.no_failure (by simp) (by simp) hio)
    · exact hfs.last hlast bad
  | failed htalk _ _ hfs =>
    rcases append_eq_append_cons split with ⟨rest, hio, -⟩ | ⟨between, -, hlast⟩
    · exact absurd bad (htalk.no_failure (by simp) (by simp) hio)
    · exact hfs.last hlast bad

/-- After the close, a failure to send was followed by it alone. -/
theorem closed_last (h : Talk io .closed) {before after : List Io} {failure : Io}
    (split : io = before ++ failure :: after) (bad : failure.IsFailure) : after = [.close] := by
  cases h with
  | heard _ _ hstage => rcases hstage with hstage | hstage <;> cases hstage
  | @closed io stage htalk hopen =>
    rcases append_eq_append_cons split with ⟨rest, hio, rfl⟩ | ⟨between, -, hclose⟩
    · by_cases hfailed : stage = .failed
      · rw [hfailed] at htalk
        rw [htalk.failed_last hio bad]
        rfl
      · exact absurd bad (htalk.no_failure hfailed hopen hio)
    · cases between with
      | nil =>
        obtain ⟨rfl, -⟩ := List.cons.inj hclose
        exact bad.elim
      | cons => simp at hclose

/-- **What `Talk` reads is orderly.**  The order is that of the stages, and a failure is
followed by the close alone because nothing else leads on from its stage. -/
theorem orderly (h : Talk io stage) (calm : stage ≠ .failed) : Orderly io where
  whole frame result hmem := by
    obtain ⟨packet, hpack⟩ := h.packed (List.mem_filterMap.2 ⟨_, hmem, rfl⟩)
    obtain ⟨header, hparse, -, hsize, hle⟩ := Outbound.parse_of_pack hpack
    exact ⟨header, hparse, hsize, hle⟩
  order := h.kinds.inOrder
  accepted := h.waits
  closed before failure after hsplit hbad := by
    by_cases hclosed : stage = .closed
    · rw [hclosed] at h
      exact h.closed_last hsplit hbad
    · exact absurd hbad (h.no_failure calm hclosed hsplit)

end Talk

end Mqtt
