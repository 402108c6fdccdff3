/-
# Numbers of links

A session numbers its links with 32 bits, and everything that looks back at bytes
received earlier compares numbers only.  `Follows origin s` says what such a number
stands for: so many handshakes have succeeded since the last read from the
connection the bytes came over, and none of them, or a newer link than it, is the
session's.  Every step keeps it (`Step.follows`), and while fewer than `2³²`
handshakes have succeeded since that read, equal numbers mean that none has
(`Follows.link_eq_iff`).
-/
import Mqtt.Client.Dispatch
import Mqtt.Proofs.Session.Tidy

namespace Mqtt

/-- Something is read from a connection. -/
def Event.isReadOf (c : Nat) : Event → Bool
  | .read connection .. => connection = c
  | _ => false

/-- How many handshakes succeeded. -/
def handshakes (events : List Event) : Nat :=
  events.countP (·.isHandshake)

/-- How many handshakes succeeded after the last read from a connection. -/
def sinceRead (c : Nat) (events : List Event) : Nat :=
  handshakes (events.reverse.takeWhile fun event => !event.isReadOf c)

/-- Handshakes of two stretches of a history add up. -/
@[simp] theorem handshakes_append (es fs : List Event) :
    handshakes (es ++ fs) = handshakes es + handshakes fs :=
  List.countP_append

/-- No more handshakes succeeded since a read than succeeded at all. -/
theorem sinceRead_le (c : Nat) (events : List Event) : sinceRead c events ≤ handshakes events := by
  have h : sinceRead c events ≤ handshakes events.reverse :=
    (List.takeWhile_prefix _).sublist.countP_le
  rwa [handshakes, List.countP_reverse] at h

/-- As long as nothing is read from a connection, the handshakes since its last read go on
being counted. -/
theorem sinceRead_append {c : Nat} {es : List Event} (unread : Without (Event.isReadOf c) es)
    (events : List Event) : sinceRead c (events ++ es) = sinceRead c events + handshakes es := by
  have hall : ∀ e ∈ es.reverse, (!e.isReadOf c) = true := by
    intro e he
    rw [unread e (List.mem_reverse.1 he)]
    rfl
  rw [sinceRead, List.reverse_append, List.takeWhile_append_of_pos hall, handshakes_append,
    Nat.add_comm]
  exact congrArg _ (List.countP_reverse ..)

/-- A read from a connection starts the count anew. -/
theorem sinceRead_read (c capacity : Nat) (timeout : UInt32) (r : Except NetFault (List UInt8))
    (events : List Event) : sinceRead c (events ++ [.read c capacity timeout r]) = 0 := by
  simp [sinceRead, Event.isReadOf, handshakes]

/-- What is only told is not that a link came up. -/
theorem isHandshake_of_isTold {event : Event} (h : event.isTold = true) :
    event.isHandshake = false := by
  cases event with
  | notice n => cases n <;> first | rfl | cases h
  | _ => rfl

/-- What is only told reads from no connection. -/
theorem isReadOf_of_isTold {event : Event} (h : event.isTold = true) (c : Nat) :
    event.isReadOf c = false := by
  cases event <;> first | rfl | cases h

/-- What is done to one connection reads from no other. -/
theorem Concern.unread {c other : Nat} {es : List Event} (h : Concern c es) (apart : other ≠ c) :
    Without (Event.isReadOf other) es := by
  intro e he
  have hconcerns := h e he
  cases e <;> simp_all [Event.concerns, Event.io?, Event.isReadOf, Ne.symm apart]

/-- One event is without a kind that it is not of. -/
theorem Without.singleton {kind : Event → Bool} {event : Event} (h : kind event = false) :
    Without kind [event] := by
  intro e he
  rw [List.mem_singleton.1 he]
  exact h

/-- Events are without a kind if the first is not of it and the others are without it. -/
theorem Without.cons {kind : Event → Bool} {event : Event} {es : List Event}
    (h : kind event = false) (h' : Without kind es) : Without kind (event :: es) :=
  (singleton h).append h'

/-- Opening a connection reads from no other. -/
theorem Connector.Dialing.unread {host : String} {tcpPort : UInt16} {timeout : UInt32}
    {number c : Nat} {connector : Connector} {r : Except NetFault Nat} {es : List Event}
    (h : Dialing host tcpPort timeout number connector r es) : Without (Event.isReadOf c) es := by
  cases h <;> simp [Without, Event.isReadOf]

/-- Opening a connection is no handshake that succeeded, even if its security was
accepted: that takes a CONNACK. -/
theorem Connector.Dialing.handshakes {host : String} {tcpPort : UInt16} {timeout : UInt32}
    {number : Nat} {connector : Connector} {r : Except NetFault Nat} {es : List Event}
    (h : Dialing host tcpPort timeout number connector r es) : handshakes es = 0 := by
  cases h <;> rfl

/-- What concerns one connection counts as no handshake. -/
theorem Concern.uncounted {c : Nat} {es : List Event} (h : Concern c es) :
    Mqtt.handshakes es = 0 :=
  h.handshakes.countP

/-- Without reads, nothing is received. -/
theorem Without.received {c : Nat} {es : List Event} (h : Without (Event.isReadOf c) es) :
    Io.received (conversation c es) = [] := by
  induction es with
  | nil => rfl
  | cons event es ih =>
    have hrest := ih fun e he => h e (List.mem_cons_of_mem _ he)
    have hevent := h event List.mem_cons_self
    rw [conversation_cons, Io.received_append, hrest, List.append_nil]
    cases event <;> simp_all [Event.io?, Event.isReadOf, Io.received]

namespace Session

variable {ω : Type}

/-- Sending reads nothing. -/
theorem Sending.unread {connection : Nat} {frame : List UInt8} {r : Except Fault Unit}
    {es : List Event} (h : Sending connection frame r es) (c : Nat) :
    Without (Event.isReadOf c) es := by
  cases h <;> simp [Without, Event.isReadOf]

/-- Closing a connection reads from none. -/
theorem Closing.unread {connection : Nat} {es : List Event} (h : Closing connection es) (c : Nat) :
    Without (Event.isReadOf c) es := by
  cases h <;> simp [Without, Event.isReadOf]

/-- Opening a link reads from a new connection only. -/
theorem Opening.unread {s t : Session ω} {r : Except Fault Unit} {es : List Event} {c : Nat}
    (h : Opening s r es t) (known : c ≤ s.world.opened) : Without (Event.isReadOf c) es := by
  cases h with
  | refused hdial => exact hdial.unread.append (.singleton rfl)
  | failed hdial hexchange hclosing =>
    obtain ⟨rfl, -⟩ := hdial.talk rfl
    exact (hdial.unread.append (hexchange.concern.unread (by omega))).append
      (.cons rfl (hclosing.unread _))
  | opened hdial hexchange =>
    obtain ⟨rfl, -⟩ := hdial.talk rfl
    exact (hdial.unread.append (hexchange.concern.unread (by omega))).append (.singleton rfl)

/-- A step reads from the link only, or from a new connection. -/
theorem Step.unread {d : Doing} {s t : Session ω} {es : List Event} {c : Nat} (h : Step d s es t)
    (known : c ≤ s.world.opened) (apart : d = .hear → s.connection ≠ some c) :
    Without (Event.isReadOf c) es := by
  cases h with
  | tuned => exact .nil
  | kept => exact .singleton rfl
  | timed => exact .nil
  | told quiet => exact .singleton (isReadOf_of_isTold quiet c)
  | heard up =>
    refine .singleton (decide_eq_false fun he => ?_)
    exact apart rfl (he ▸ up)
  | sent _ _ _ hes => exact hes.unread c
  | broken _ _ _ hes hns hfs =>
    refine ((hes.unread c).append fun e he => ?_).append (hfs.unread c)
    obtain ⟨fault, rfl⟩ := hns e he
    rfl
  | left _ _ hes hfs => exact (hes.unread c).append (hfs.unread c)
  | dropped _ hes => exact hes.unread c
  | raised _ hopen => exact hopen.unread known

/-- What happens to the link: it stays or goes, and its number stays; or the session
had none, and one with a new number takes its place, over a connection that has
given four bytes. -/
inductive Linking (s : Session ω) (es : List Event) (t : Session ω) : Prop
  /-- No handshake succeeded. -/
  | kept : handshakes es = 0 → t.link = s.link →
      (t.connection = s.connection ∨ t.connection = none) → Linking s es t
  /-- One handshake succeeded, and the bytes read for it are those of its CONNACK. -/
  | replaced : handshakes es = 1 → t.link = s.link + 1 → s.connection = none →
      t.connection = some (s.world.opened + 1) →
      (Io.received (conversation (s.world.opened + 1) es)).length = 4 → Linking s es t

/-- Opening a link either leaves what there was of one, or brings one up with the next
number, over a connection that has given the four bytes of its CONNACK. -/
theorem Opening.linking {s t : Session ω} {r : Except Fault Unit} {es : List Event}
    (down : s.connection = none) (h : Opening s r es t) : Linking s es t := by
  cases h with
  | refused hdial hdid =>
    refine .kept ?_ hdid.link (.inl hdid.connection)
    rw [handshakes_append, hdial.handshakes]
    rfl
  | @failed number fault es fs gs _ hdial hexchange hclosing hdid =>
    refine .kept ?_ hdid.link (.inl hdid.connection)
    have hclosed : handshakes (.notice (.handshakeFailed fault) :: gs) = 0 :=
      (Without.cons rfl hclosing.concern.handshakes).countP
    rw [handshakes_append, handshakes_append, hdial.handshakes, hexchange.concern.uncounted, hclosed]
  | opened hdial hexchange hdid =>
    obtain ⟨rfl, -⟩ := hdial.talk rfl
    refine .replaced ?_ hdid.link down hdid.connection ?_
    · rw [handshakes_append, handshakes_append, hdial.handshakes, hexchange.concern.uncounted]
      rfl
    · cases hexchange with
      | accepted _ _ hes hfs hlen =>
        simp [hdial.unread.received, (hes.unread _).received, hfs.received, hlen]

/-- **Every step keeps the link, drops it, or opens a new one.**  All but one leave its
number alone, and that one is taken only by a session without a link. -/
theorem Step.linking {d : Doing} {s t : Session ω} {es : List Event} (h : Step d s es t) :
    Linking s es t := by
  cases h with
  | tuned _ hdid => exact .kept rfl hdid.link (.inl hdid.connection)
  | kept _ hdid => exact .kept rfl hdid.link (.inl hdid.connection)
  | timed _ hdid => exact .kept rfl hdid.link (.inl hdid.connection)
  | told quiet hdid =>
    exact .kept (Without.singleton (isHandshake_of_isTold quiet)).countP hdid.link
      (.inl hdid.connection)
  | heard _ hdid => exact .kept rfl hdid.link (.inl hdid.connection)
  | sent _ _ _ hes hdid => exact .kept hes.concern.uncounted hdid.link (.inl hdid.connection)
  | broken _ _ _ hes hns hfs hdid =>
    exact .kept ((hes.concern.append (.lost hns)).append hfs.concern).uncounted hdid.link
      (.inr hdid.connection)
  | left _ _ hes hfs hdid =>
    exact .kept (hes.concern.append hfs.concern).uncounted hdid.link (.inr hdid.connection)
  | dropped _ hes hdid => exact .kept hes.concern.uncounted hdid.link (.inr hdid.connection)
  | raised down hopen => exact hopen.linking down

/-- The number of the link counts the handshakes that succeeded. -/
def Counted (s : Session ω) : Prop :=
  s.link = (handshakes s.world.events).toUInt32

/-- **A step keeps the number of the link at the count of handshakes**, modulo
`2³²`.  The number is set where the handshake is told of, and nowhere else. -/
theorem Step.counted {d : Doing} {s t : Session ω} {es : List Event} (hs : s.Counted)
    (h : Step d s es t) : t.Counted := by
  rw [Counted, h.ran.events, handshakes_append]
  cases h.linking with
  | kept hcount hlink => rw [hcount, Nat.add_zero, hlink, hs]
  | replaced hcount hlink =>
    rw [hcount, hlink, hs, Nat.toUInt32, UInt32.ofNat_add]
    rfl

/-- What the number of the link says of bytes received earlier. -/
structure Follows (origin : Origin) (s : Session ω) : Prop where
  opened : origin.connection ≤ s.world.opened
  /-- Without a handshake since, the link is the one they came over, if there is one. -/
  current : sinceRead origin.connection s.world.events = 0 → ∀ c, s.connection = some c →
    c = origin.connection
  /-- With a handshake since, it is not. -/
  outdated : sinceRead origin.connection s.world.events ≠ 0 →
    s.connection ≠ some origin.connection
  /-- The number of the link they came over counts the handshakes up to then, in 32 bits. -/
  counted : ∃ count, count + sinceRead origin.connection s.world.events =
    handshakes s.world.events ∧ origin.link = count.toUInt32

/-- Bytes just read from the link follow it. -/
theorem follows_of_read {origin : Origin} {s t : Session ω} {capacity : Nat} {timeout : UInt32}
    {r : Except NetFault (List UInt8)} (hs : s.Counted)
    (known : origin.connection ≤ s.world.opened) (link : origin.link = s.link)
    (up : s.connection = some origin.connection)
    (h : s.Did [.read origin.connection capacity timeout r] t) : t.Follows origin := by
  have hsince : sinceRead origin.connection t.world.events = 0 := by
    rw [h.ran.events]
    exact sinceRead_read ..
  have hcount : handshakes t.world.events = handshakes s.world.events := by
    rw [h.ran.events, handshakes_append]
    rfl
  refine ⟨?_, fun _ c hc => ?_, fun hne => absurd hsince hne, handshakes t.world.events, ?_, ?_⟩
  · exact Nat.le_trans known h.ran.opened_le
  · rw [h.connection, up, Option.some.injEq] at hc
    exact hc.symm
  · rw [hsince, Nat.add_zero]
  · rw [hcount, link, hs]

namespace Follows

variable {origin : Origin} {s t : Session ω} {es : List Event}

/-- Reading more from the connection, while it is the link's, leaves what the earlier
bytes follow. -/
theorem reread {capacity : Nat} {timeout : UInt32} {r : Except NetFault (List UInt8)}
    (hs : s.Follows origin) (up : s.connection = some origin.connection)
    (h : s.Did [.read origin.connection capacity timeout r] t) : t.Follows origin := by
  have hzero : sinceRead origin.connection s.world.events = 0 :=
    Decidable.byContradiction fun hne => hs.outdated hne up
  have hsince : sinceRead origin.connection t.world.events = 0 := by
    rw [h.ran.events]
    exact sinceRead_read ..
  obtain ⟨count, hcount, hlink⟩ := hs.counted
  refine ⟨?_, fun _ c hc => ?_, fun hne => absurd hsince hne, count, ?_, hlink⟩
  · exact Nat.le_trans hs.opened h.ran.opened_le
  · exact hs.current hzero c (h.connection ▸ hc)
  · rw [hsince, h.ran.events, handshakes_append, ← hcount, hzero]
    rfl

/-- What reads nothing from that connection keeps what its bytes follow. -/
theorem unread (hs : s.Follows origin) (ran : s.world.Ran es t.world)
    (unread : Without (Event.isReadOf origin.connection) es) (h : Linking s es t) :
    t.Follows origin := by
  have hsince : sinceRead origin.connection t.world.events =
      sinceRead origin.connection s.world.events + handshakes es := by
    rw [ran.events]
    exact sinceRead_append unread _
  have hopened : origin.connection ≤ t.world.opened := Nat.le_trans hs.opened ran.opened_le
  have hcounted : ∃ count, count + sinceRead origin.connection t.world.events =
      handshakes t.world.events ∧ origin.link = count.toUInt32 := by
    obtain ⟨count, hcount, hlink⟩ := hs.counted
    refine ⟨count, ?_, hlink⟩
    rw [hsince, ran.events, handshakes_append, ← hcount]
    omega
  -- A handshake leaves the connection behind; without one nothing changes.
  cases h with
  | kept hnone _ hconnection =>
    rw [hnone, Nat.add_zero] at hsince
    refine ⟨hopened, fun hzero c hc => ?_, fun hne hc => ?_, hcounted⟩
    · rcases hconnection with hsame | hdown
      · exact hs.current (hsince ▸ hzero) c (hsame ▸ hc)
      · exact nomatch hdown.symm.trans hc
    · rcases hconnection with hsame | hdown
      · exact hs.outdated (hsince ▸ hne) (hsame ▸ hc)
      · exact nomatch hdown.symm.trans hc
  | replaced hone _ _ hconnection =>
    rw [hone] at hsince
    refine ⟨hopened, fun hzero => by omega, fun _ hc => ?_, hcounted⟩
    have hknown := hs.opened
    rw [hconnection, Option.some.injEq] at hc
    omega

end Follows

/-- **Every step keeps what earlier bytes follow.**  A step that brings up no link can
only drop the one there is; a step that does counts one handshake more. -/
theorem Step.follows {origin : Origin} {d : Doing} {s t : Session ω} {es : List Event}
    (hs : s.Follows origin) (h : Step d s es t) : t.Follows origin := by
  by_cases hheard : d = .hear ∧ s.connection = some origin.connection
  · obtain ⟨rfl, hup⟩ := hheard
    cases h with
    | @heard connection _ _ _ _ _ up hdid =>
      rw [hup, Option.some.injEq] at up
      subst up
      exact hs.reread hup hdid
  · exact hs.unread h.ran (h.unread hs.opened fun hhear hup => hheard ⟨hhear, hup⟩) h.linking

/-- A run of steps keeps what the number of the link says of bytes received earlier. -/
theorem Path.follows {allowed : Doing → Prop} {origin : Origin} {s t : Session ω}
    {es : List Event} (h : Path allowed s es t) (hs : s.Follows origin) : t.Follows origin :=
  h.preserves (fun _ hs step => step.follows hs) hs

/-- A run of steps keeps the number of the link at the count of handshakes. -/
theorem Path.counted {allowed : Doing → Prop} {s t : Session ω} {es : List Event}
    (h : Path allowed s es t) (hs : s.Counted) : t.Counted :=
  h.preserves (fun _ hs step => step.counted hs) hs

/-- The number of the link is that of the bytes exactly if it has come round since, or
no handshake has succeeded. -/
theorem Follows.link_eq_iff_dvd {origin : Origin} {s : Session ω} (h : s.Follows origin)
    (hs : s.Counted) :
    s.link = origin.link ↔ UInt32.size ∣ sinceRead origin.connection s.world.events := by
  obtain ⟨count, hcount, hlink⟩ := h.counted
  rw [hs, hlink, ← UInt32.toNat_inj]
  simp only [Nat.toUInt32, UInt32.toNat_ofNat', UInt32.size]
  omega

/-- **Numbers of links tell them apart**, as long as they have not come round: the
number says that no handshake has succeeded since exactly if none has. -/
theorem Follows.link_eq_iff {origin : Origin} {s : Session ω} (h : s.Follows origin)
    (hs : s.Counted) (few : sinceRead origin.connection s.world.events < UInt32.size) :
    s.link = origin.link ↔ sinceRead origin.connection s.world.events = 0 := by
  rw [h.link_eq_iff_dvd hs]
  exact ⟨fun hdvd => Nat.eq_zero_of_dvd_of_lt hdvd few, fun hzero => hzero ▸ Nat.dvd_zero _⟩

/-- Another number means another link. -/
theorem Follows.apart {origin : Origin} {s : Session ω} (h : s.Follows origin) (hs : s.Counted)
    (other : s.link ≠ origin.link) : s.connection ≠ some origin.connection := by
  refine h.outdated fun hzero => other ?_
  obtain ⟨count, hcount, hlink⟩ := h.counted
  rw [hs, hlink, ← hcount, hzero, Nat.add_zero]

end Session
end Mqtt
