/-
# What is done about packets

The history tells what a client did about the packets that came over a connection:
acknowledgements by the connection they were written to, calls of the handler, pings
that were answered and notes by the frame that was taken last (`acts`).  `turn` says
whether that frame came over the connection.

Only acting on frames adds to either; the steps of calls do not (`Path.unacted`).
-/
import Mqtt.Proofs.Client.Sound
import Mqtt.Proofs.Session.Acknowledgement
import Mqtt.Proofs.Wire.Stream

namespace Mqtt

/-- Something that is done about a packet. -/
inductive Act where
  /-- The message with this identifier was acknowledged. -/
  | acknowledged (packetId : UInt16)
  /-- A message was handed to the handler. -/
  | delivered (topic : String) (payload : List UInt8)
  /-- An answer to a ping was taken note of. -/
  | ponged
  /-- It is only taken note of. -/
  | noted (remark : Notice)
  deriving DecidableEq

/-- All that is done about a packet, in order. -/
def Inbound.acts : Inbound → List Act
  | .publish message =>
    (message.packetId.map .acknowledged).toList ++ [.delivered message.topic message.payload]
  | .pingResp => [.ponged]
  | packet => [.noted packet.remark]

/-- A packet that calls for nothing is taken note of, and that is all. -/
theorem Inbound.acts_of_isRemark {packet : Inbound} (h : packet.IsRemark) :
    packet.acts = [.noted packet.remark] := by
  cases packet with
  | publish message => exact absurd rfl (h.2 message)
  | pingResp => exact absurd rfl h.1
  | _ => rfl

/-- All that is done about the packets of a run of bytes. -/
def Parsed.acts (parsed : Parsed) : List Act :=
  parsed.packets.flatMap Inbound.acts

/-- What an event tells of a packet that came over a connection, when the frame being
acted on did or did not. -/
def Event.act? (c : Nat) (turn : Bool) : Event → Option Act
  | .write connection bytes _ =>
    if connection = c then
      match Inbound.decode bytes with
      | .ok (.pubAck id) => some (.acknowledged id)
      | _ => none
    else none
  | .message topic payload => if turn then some (.delivered topic payload) else none
  | .notice .ponged => if turn then some .ponged else none
  | .notice (.ignored packet) => if turn then some (.noted (.ignored packet)) else none
  | .notice (.subscriptionRejected id) =>
    if turn then some (.noted (.subscriptionRejected id)) else none
  | _ => none

/-- Whether the frame being acted on after an event came over a connection. -/
def Event.turn (c : Nat) (turn : Bool) : Event → Bool
  | .frame connection _ => connection = c
  | _ => turn

/-- Whether the frame being acted on after some events came over a connection. -/
def turn (c : Nat) (before : Bool) (events : List Event) : Bool :=
  events.foldl (fun turn event => event.turn c turn) before

/-- What is done about the packets that came over a connection, in order. -/
def acts (c : Nat) : (turn : Bool) → List Event → List Act
  | _, [] => []
  | turn, event :: events => (event.act? c turn).toList ++ acts c (event.turn c turn) events

/-- Whose turn it is after two stretches of a history is told stretch by stretch. -/
theorem turn_append (c : Nat) (before : Bool) (es fs : List Event) :
    turn c before (es ++ fs) = turn c (turn c before es) fs :=
  List.foldl_append

/-- What two stretches of a history do about packets is done one after the other, the
second from the turn in which the first has left off. -/
theorem acts_append (c : Nat) (before : Bool) (es fs : List Event) :
    acts c before (es ++ fs) = acts c before es ++ acts c (turn c before es) fs := by
  induction es generalizing before with
  | nil => rfl
  | cons event es ih =>
    rw [List.cons_append, acts, acts, ih, List.append_assoc]
    rfl

/-- Only the body of a PUBACK is read as one. -/
theorem Inbound.kind_of_ofBody {kind : Kind} {flags : UInt8} {body : List UInt8} {id : UInt16}
    (h : ofBody kind flags body = .ok (.pubAck id)) : kind = .pubAck := by
  unfold ofBody at h
  split at h
  · split at h <;> cases h
  · cases hbody : Publish.ofBody flags body <;> simp [hbody, Except.map] at h
  · rfl
  · split at h <;> cases h
  · split at h <;> cases h
  · cases h

/-- A packet that was read stands in the body that its header announces. -/
theorem Inbound.ofBody_of_decode {bytes : List UInt8} {packet : Inbound}
    (h : Inbound.decode bytes = .ok packet) :
    ∃ header body, Header.parse bytes = .ok (some header) ∧
      ofBody header.kind header.flags body = .ok packet := by
  unfold Inbound.decode at h
  cases hparse : Header.parse bytes with
  | error fault => simp [hparse, bind, Except.bind] at h
  | ok found =>
    simp only [hparse, bind, Except.bind] at h
    split at h
    · next header =>
      split at h
      · cases h
      · exact ⟨header, _, rfl, h⟩
    · cases h

/-- What is read as a PUBACK has the header of one, so acknowledgements are told by the
kind of a frame alone. -/
theorem kindOf?_of_decode {bytes : List UInt8} {id : UInt16}
    (h : Inbound.decode bytes = .ok (.pubAck id)) : kindOf? bytes = some .pubAck := by
  obtain ⟨header, body, hparse, hbody⟩ := Inbound.ofBody_of_decode h
  rw [kindOf?, hparse]
  exact congrArg some (Inbound.kind_of_ofBody hbody)

/-- Nothing written to the connection is an acknowledgement. -/
def Unacknowledged (c : Nat) (es : List Event) : Prop :=
  ∀ bytes result, .write c bytes result ∈ es → kindOf? bytes ≠ some .pubAck

/-- A stretch of the history without acknowledgements has none over any connection. -/
theorem unacknowledged_of_without {es : List Event} (h : Without Event.isAck es) (c : Nat) :
    Unacknowledged c es := by
  intro bytes result he hkind
  have hno := h _ he
  simp [Event.isAck, hkind] at hno

/-- Over a connection to which nothing is done no acknowledgement goes. -/
theorem unacknowledged_of_quiet {c : Nat} {es : List Event} (h : conversation c es = []) :
    Unacknowledged c es := by
  intro bytes result he
  have hio := List.filterMap_eq_nil_iff.1 h _ he
  simp [Event.io?] at hio

/-- What follows the first of some events without acknowledgements has none either. -/
theorem Unacknowledged.tail {c : Nat} {event : Event} {es : List Event}
    (h : Unacknowledged c (event :: es)) : Unacknowledged c es := fun bytes result he =>
  h bytes result (List.mem_cons_of_mem _ he)

/-- A write counts for what is done about packets only if it is an acknowledgement over
the connection itself. -/
theorem act?_write {c connection : Nat} {bytes : List UInt8} {result : Except NetFault Nat}
    (turn : Bool) (h : connection = c → kindOf? bytes ≠ some .pubAck) :
    (Event.write connection bytes result).act? c turn = none := by
  rw [Event.act?]
  split
  · next hsame =>
    split
    · next id hdecode => exact absurd (kindOf?_of_decode hdecode) (h hsame)
    · rfl
  · rfl

/-- Without any of it, nothing is done about packets. -/
theorem acts_of_unacted {c : Nat} {es : List Event} (unacted : Without Event.isAct es)
    (h : Unacknowledged c es) (before : Bool) :
    acts c before es = [] ∧ turn c before es = before := by
  induction es with
  | nil => exact ⟨rfl, rfl⟩
  | cons event es ih =>
    have hact := unacted event List.mem_cons_self
    obtain ⟨hacts, hturn⟩ := ih (fun e he => unacted e (List.mem_cons_of_mem _ he)) h.tail
    have hsame : event.turn c before = before := by
      cases event <;> first | rfl | cases hact
    have hnone : event.act? c before = none := by
      cases event with
      | write connection bytes result =>
        refine act?_write before ?_
        rintro rfl
        exact h bytes result List.mem_cons_self
      | notice n => cases n <;> first | rfl | cases hact
      | _ => first | rfl | cases hact
    rw [acts, hsame, hnone, hacts]
    refine ⟨rfl, ?_⟩
    rw [turn, List.foldl_cons, hsame]
    exact hturn

/-- While frames of other connections are acted on, nothing is done about this one's. -/
theorem acts_of_others {c : Nat} {es : List Event} (others : ∀ bytes, .frame c bytes ∉ es)
    (h : Unacknowledged c es) : acts c false es = [] ∧ turn c false es = false := by
  induction es with
  | nil => exact ⟨rfl, rfl⟩
  | cons event es ih =>
    obtain ⟨hacts, hturn⟩ := ih (fun bytes he => others bytes (List.mem_cons_of_mem _ he)) h.tail
    have hsame : event.turn c false = false := by
      cases event with
      | frame connection bytes =>
        refine decide_eq_false ?_
        rintro rfl
        exact others bytes List.mem_cons_self
      | _ => rfl
    have hnone : event.act? c false = none := by
      cases event with
      | write connection bytes result =>
        refine act?_write false ?_
        rintro rfl
        exact h bytes result List.mem_cons_self
      | notice n => cases n <;> rfl
      | _ => rfl
    rw [acts, hsame, hnone, hacts]
    refine ⟨rfl, ?_⟩
    rw [turn, List.foldl_cons, hsame]
    exact hturn

namespace Session

variable {ω : Type}

/-- **Only acting on frames does anything about packets.**  Calls send, tell and
remember, but frames are taken and handlers called by the worker alone. -/
theorem Path.unacted {s t : Session ω} {es : List Event}
    (h : Path (Doing.isOutside ·) s es t) : Without Event.isAct es := by
  induction h with
  | refl => exact .nil
  | snoc _ outside step ih =>
    refine ih.append fun e he => ?_
    rcases step.plain e he with hplain | htold
    · cases e with
      | notice n => cases n <;> first | rfl | cases hplain
      | _ => first | rfl | cases hplain
    · rw [htold, Doing.isOutside] at outside
      simpa using outside

/-- **Steps outside of a dispatch do nothing about packets**, and leave it with the
frame whose turn it is.  A PUBACK would count, but only a dispatch writes one. -/
theorem Path.acts {s t : Session ω} {es : List Event} (h : Path (Doing.isOutside ·) s es t)
    (c : Nat) (before : Bool) : Mqtt.acts c before es = [] ∧ turn c before es = before :=
  acts_of_unacted h.unacted (unacknowledged_of_without h.unacknowledged c) before

end Session
end Mqtt
