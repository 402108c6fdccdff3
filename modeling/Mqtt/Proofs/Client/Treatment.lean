/-
# How messages are treated

What a client does about a message depends on its level and, at level 1, on what has
become of the link it came over by the time its frame is taken.  The history tells both.

| level | the link | acknowledged | handed to the handler |
| --- | --- | --- | --- |
| 0 | whatever | no | once |
| 1 | is up | first, and flushed | once |
| 1 | is up, and breaks on that | tried, then the link is closed | no, nor is what follows |
| 1 | is down | no | no, nor is what follows |
| 1 | another one has replaced it | no | once |

`Treated` says so of one frame, by what is done in its turn (`stint`), which lasts until
the next frame is taken.  What is done later in a turn than the treatment itself hands
over nothing more and acknowledges nothing, so a message once treated stays treated
(`Treated.extend`).
-/
import Mqtt.Proofs.Client.Acts
import Mqtt.Proofs.Session.Accounts

namespace Mqtt

/-- The connection that is open after some events. -/
def openAfter (events : List Event) : Option Nat :=
  (({} : Tally).add events).bind (·.current)

/-- What is done until the next frame is taken. -/
def stint (events : List Event) : List Event :=
  events.takeWhile fun event => !event.isFrame

/-- The message that an event hands to the handler. -/
def Event.handed? : Event → Option (String × List UInt8)
  | .message topic payload => some (topic, payload)
  | _ => none

/-- The message that a worker is about to hand over. -/
def Errand.message? : Errand → Option (String × List UInt8)
  | .deliver topic payload => some (topic, payload)
  | _ => none

/-- What the handler is handed until the next frame is taken, with what the worker is
about to hand over if none was taken. -/
def handed : List Event → Errand → List (String × List UInt8)
  | [], errand => errand.message?.toList
  | event :: events, errand =>
    if event.isFrame = true then [] else event.handed?.toList ++ handed events errand

/-- The acknowledgement is what is done first, and no other follows.  It is written and
flushed, or it cannot be sent and the connection is closed. -/
inductive Acknowledging (c : Nat) (id : UInt16) : List Event → (sent : Bool) → Prop
  /-- PUBACK went out whole. -/
  | sent {frame : List UInt8} {rest : List Event} :
      (Outbound.pubAck id).pack Session.frameLimit = .ok frame → Without Event.isAck rest →
      Acknowledging c id
        (.write c frame (.ok frame.length) :: .flush c (.ok ()) :: rest) true
  /-- It did not, and the connection is closed. -/
  | unsent {frame : List UInt8} {fault : Fault} {es fs rest : List Event} :
      (Outbound.pubAck id).pack Session.frameLimit = .ok frame →
      Session.Sending c frame (.error fault) es → Session.Closing c fs →
      Without Event.isAck rest → Acknowledging c id (es ++ fs ++ rest) false

/-- What became of a message that came over connection `c`, when `before` was done before
its frame was taken, `turn` in its turn, and `items` is what the handler was handed then;
`discarded` says that nothing that came over the connection after it is acted on. -/
structure Treated (c : Nat) (message : Publish) (before turn : List Event)
    (items : List (String × List UInt8)) (discarded : Prop) : Prop where
  /-- The handler is not handed the message twice, nor any other. -/
  once : items = [] ∨ items = [(message.topic, message.payload)]
  /-- At level 0 the link does not matter. -/
  unasked : message.qos = .atMostOnce →
    Without Event.isAck turn ∧ items = [(message.topic, message.payload)]
  /-- At level 1, while the connection it came over is open, it is acknowledged first. -/
  up : message.qos = .atLeastOnce → openAfter before = some c →
    ∃ id, message.packetId = some id ∧
      (Acknowledging c id turn true ∧ items = [(message.topic, message.payload)] ∨
        Acknowledging c id turn false ∧ items = [] ∧ discarded)
  /-- Once that connection is closed, it is not, as long as no other took its place. -/
  down : message.qos = .atLeastOnce → openAfter before ≠ some c → sinceRead c before = 0 →
    Without Event.isAck turn ∧ items = [] ∧ discarded
  /-- Once another link has replaced it, it is handed over all the same.  The number of
  the link does not tell so exactly if it has come round. -/
  replaced : message.qos = .atLeastOnce → ¬UInt32.size ∣ sinceRead c before →
    Without Event.isAck turn ∧ items = [(message.topic, message.payload)]

/-! ### Turns -/

/-- The turn of a frame is longer, or as long, when more is done: what is added is the
first of it, up to the next frame. -/
theorem stint_append (es fs : List Event) :
    ∃ more, stint (es ++ fs) = stint es ++ more ∧ more <+: stint fs := by
  induction es with
  | nil => exact ⟨stint fs, rfl, List.prefix_refl _⟩
  | cons event es ih =>
    obtain ⟨more, hmore, hfirst⟩ := ih
    cases hframe : event.isFrame with
    | true => exact ⟨[], by simp [stint, hframe], List.nil_prefix⟩
    | false =>
      refine ⟨more, ?_, hfirst⟩
      simpa [stint, hframe] using hmore

/-- What is handed over later in a turn was about to be handed over before. -/
theorem handed_append {fs : List Event} {errand next : Errand}
    (h : handed fs next = errand.message?.toList) (es : List Event) :
    handed (es ++ fs) next = handed es errand := by
  induction es with
  | nil => exact h
  | cons event es ih => rw [List.cons_append, handed, handed, ih]

/-- Where nothing is acted on, nothing is handed to the handler but what was about to be. -/
theorem handed_of_quiet {es : List Event} (quiet : Without Event.isAct es) (errand : Errand) :
    handed es errand = errand.message?.toList := by
  induction es with
  | nil => rfl
  | cons event es ih =>
    have hact := quiet event List.mem_cons_self
    have hevent : event.isFrame = false ∧ event.handed? = none := by
      cases event <;> first | exact ⟨rfl, rfl⟩ | cases hact
    rw [handed, hevent.1, hevent.2, ih fun e he => quiet e (List.mem_cons_of_mem _ he)]
    rfl

/-- What is missing from some events is missing from the first of them. -/
theorem Without.start {kind : Event → Bool} {es fs : List Event} (h : Without kind fs)
    (hfirst : es <+: fs) : Without kind es := fun e he => h e (hfirst.subset he)

/-- A message stays acknowledged first when more is done that acknowledges nothing. -/
theorem Acknowledging.append {c : Nat} {id : UInt16} {turn more : List Event} {sent : Bool}
    (h : Acknowledging c id turn sent) (quiet : Without Event.isAck more) :
    Acknowledging c id (turn ++ more) sent := by
  cases h with
  | sent hpack hrest => exact .sent hpack (hrest.append quiet)
  | unsent hpack hes hfs hrest =>
    rw [List.append_assoc]
    exact .unsent hpack hes hfs (hrest.append quiet)

/-- **A message once treated stays treated.**  Its turn is over once the next frame is
taken, and what comes later belongs to other messages. -/
theorem Treated.extend {c : Nat} {message : Publish} {before turn more : List Event}
    {items : List (String × List UInt8)} {discarded later : Prop}
    (h : Treated c message before turn items discarded) (quiet : Without Event.isAck more)
    (keep : discarded → later) : Treated c message before (turn ++ more) items later where
  once := h.once
  unasked level := ⟨(h.unasked level).1.append quiet, (h.unasked level).2⟩
  up level hup := by
    obtain ⟨id, hid, ⟨hack, hitems⟩ | ⟨hack, hitems, hdiscarded⟩⟩ := h.up level hup
    · exact ⟨id, hid, .inl ⟨hack.append quiet, hitems⟩⟩
    · exact ⟨id, hid, .inr ⟨hack.append quiet, hitems, keep hdiscarded⟩⟩
  down level hdown hsince := by
    obtain ⟨hack, hitems, hdiscarded⟩ := h.down level hdown hsince
    exact ⟨hack.append quiet, hitems, keep hdiscarded⟩
  replaced level hnew := ⟨(h.replaced level hnew).1.append quiet, (h.replaced level hnew).2⟩

/-- A message stays treated where less is said of the discarding of what follows it. -/
theorem Treated.mono {c : Nat} {message : Publish} {before turn : List Event}
    {items : List (String × List UInt8)} {discarded later : Prop}
    (h : Treated c message before turn items discarded) (keep : discarded → later) :
    Treated c message before turn items later := by
  have hextend := h.extend .nil keep
  rwa [List.append_nil] at hextend

/-- A message has an identifier exactly at level 1. -/
theorem Publish.packetId_of_ofBody {flags : UInt8} {body : List UInt8} {message : Publish}
    (h : ofBody flags body = .ok message) :
    message.packetId.isSome = true ↔ message.qos = .atLeastOnce := by
  unfold ofBody at h
  cases hqos : qosOfFlags flags with
  | error fault => simp [hqos, bind, Except.bind] at h
  | ok qos =>
    simp only [hqos, bind, Except.bind] at h
    split at h
    · next topic rest =>
      split at h
      · next packetId payload htake =>
        cases h
        cases qos with
        | atMostOnce =>
          cases htake
          simp
        | atLeastOnce =>
          obtain ⟨⟨id, rest⟩, -, hid⟩ := Option.map_eq_some_iff.1 htake
          cases hid
          simp
      · cases h
    · cases h

/-- A message that was read has an identifier exactly at level 1. -/
theorem Inbound.packetId_of_decode {bytes : List UInt8} {message : Publish}
    (h : Inbound.decode bytes = .ok (.publish message)) :
    message.packetId.isSome = true ↔ message.qos = .atLeastOnce := by
  obtain ⟨header, body, -, hbody⟩ := ofBody_of_decode h
  unfold ofBody at hbody
  split at hbody
  · split at hbody <;> cases hbody
  · cases hfound : Publish.ofBody header.flags body with
    | error fault => simp [hfound, Except.map] at hbody
    | ok found =>
      rw [hfound] at hbody
      cases hbody
      exact Publish.packetId_of_ofBody hfound
  · split at hbody <;> cases hbody
  · split at hbody <;> cases hbody
  · split at hbody <;> cases hbody
  · cases hbody

/-- What is done to a connection is nothing done about a packet. -/
theorem Concern.unacted {c : Nat} {es : List Event} (h : Concern c es) :
    Without Event.isAct es := by
  intro e he
  have hplain := h.plain e he
  cases e with
  | notice n => cases n <;> first | rfl | cases hplain
  | _ => first | rfl | cases hplain

/-- Without a frame in it, all that is done belongs to the turn of the frame before. -/
theorem stint_of_unframed {es : List Event} (h : Without Event.isFrame es) : stint es = es := by
  induction es with
  | nil => rfl
  | cons event es ih =>
    rw [stint, List.takeWhile_cons_of_pos (by rw [h event List.mem_cons_self]; rfl)]
    exact congrArg _ (ih fun e he => h e (List.mem_cons_of_mem _ he))

namespace Session

variable {ω : Type}

/-- In a session that keeps its accounts, the connection that the history leaves open is
the link's. -/
theorem Booked.openAfter {s : Session ω} (h : s.Booked) :
    openAfter s.world.events = s.connection := by
  rw [Mqtt.openAfter, h]
  rfl

/-! ### Where a message stands

The three ways in which a session treats a message that came over a link whose number it
compares: with its own number and a connection, with its own number and none, and with
another number or at level 0. -/

section

variable {origin : Origin} {s : Session ω} {message : Publish} {turn : List Event}
  {items : List (String × List UInt8)} {discarded : Prop}

/-- While the link is up, it is acknowledged, or its link breaks. -/
theorem Follows.treated_of_up {connection : Nat} {id : UInt16} (follows : s.Follows origin)
    (counted : s.Counted) (booked : s.Booked) (level : message.qos = .atLeastOnce)
    (asked : message.packetId = some id) (current : s.link = origin.link)
    (up : s.connection = some connection)
    (h : Acknowledging connection id turn true ∧ items = [(message.topic, message.payload)] ∨
      Acknowledging connection id turn false ∧ items = [] ∧ discarded) :
    Treated origin.connection message s.world.events turn items discarded where
  once := by
    rcases h with ⟨-, hitems⟩ | ⟨-, hitems, -⟩
    · exact .inr hitems
    · exact .inl hitems
  unasked hlow := nomatch level.symm.trans hlow
  up _ hopen := by
    rw [booked.openAfter, up, Option.some.injEq] at hopen
    subst hopen
    exact ⟨id, asked, h⟩
  down _ hclosed hsince := by
    rw [booked.openAfter, up] at hclosed
    exact absurd (congrArg some (follows.current hsince connection up)) hclosed
  replaced _ hnew := absurd ((follows.link_eq_iff_dvd counted).1 current) hnew

/-- Without a link, nothing is done about it. -/
theorem Follows.treated_of_down (follows : s.Follows origin) (counted : s.Counted)
    (booked : s.Booked) (level : message.qos = .atLeastOnce) (current : s.link = origin.link)
    (down : s.connection = none) (quiet : Without Event.isAck turn) (nothing : items = [])
    (gone : discarded) :
    Treated origin.connection message s.world.events turn items discarded where
  once := .inl nothing
  unasked hlow := nomatch level.symm.trans hlow
  up _ hopen := by
    rw [booked.openAfter, down] at hopen
    cases hopen
  down _ _ _ := ⟨quiet, nothing, gone⟩
  replaced _ hnew := absurd ((follows.link_eq_iff_dvd counted).1 current) hnew

/-- At level 0, or once another link has replaced its own, it is only handed over. -/
theorem Follows.treated_of_apart (follows : s.Follows origin) (counted : s.Counted)
    (booked : s.Booked) (apart : message.qos = .atLeastOnce → s.link ≠ origin.link)
    (quiet : Without Event.isAck turn) (given : items = [(message.topic, message.payload)]) :
    Treated origin.connection message s.world.events turn items discarded where
  once := .inr given
  unasked _ := ⟨quiet, given⟩
  up level hopen := by
    rw [booked.openAfter] at hopen
    exact absurd hopen (follows.apart counted (apart level))
  down level _ hsince := by
    have hnever : s.link = origin.link :=
      (follows.link_eq_iff_dvd counted).2 (hsince ▸ Nat.dvd_zero _)
    exact absurd hnever (apart level)
  replaced _ _ := ⟨quiet, given⟩

end

end Session

end Mqtt
