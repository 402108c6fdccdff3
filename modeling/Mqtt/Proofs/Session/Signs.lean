/-
# Signs of life

When pings are due can be read off the history, one connection at a time: when its link
last gave a sign of life (`heard`), and since when a ping is out over it without an
answer (`unanswered`).  `Duly` says that pings went out, and links were given up for
missing answers, only when they were due by that.

An answer counts for the link it came over.  Links are told apart by numbers of 32 bits,
so it also counts for the present link if so many handshakes have succeeded since it was
read that the numbers have come round (`cameRound`).
-/
import Mqtt.Proofs.Session.Link

namespace Mqtt

/-- What was done, in order. -/
def eventsOf (history : List Stamped) : List Event :=
  history.reverse.map (·.event)

/-- The latest of a history stands first in it and last in the order of what was done. -/
@[simp] theorem eventsOf_cons (e : Stamped) (history : List Stamped) :
    eventsOf (e :: history) = eventsOf history ++ [e.event] := by
  simp [eventsOf]

/-- The events of a world are those of its history. -/
theorem World.events_eq {ω : Type} (world : World ω) : world.events = eventsOf world.history := rfl

/-- The bytes are those of a PINGRESP. -/
def isPingResp (bytes : List UInt8) : Bool :=
  Inbound.decode bytes matches .ok .pingResp

/-- Bytes are those of a PINGRESP exactly if they are decoded as one. -/
theorem isPingResp_iff {bytes : List UInt8} :
    isPingResp bytes = true ↔ Inbound.decode bytes = .ok .pingResp := by
  unfold isPingResp
  split <;> simp_all

/-- A PINGREQ is handed over to be written to the connection. -/
def Event.isPing (c : Nat) : Event → Bool
  | .write d bytes _ => d = c ∧ kindOf? bytes = some .pingReq
  | _ => false

/-- A PINGRESP that came over the connection is acted on. -/
def Event.isPong (c : Nat) : Event → Bool
  | .frame d bytes => d = c ∧ isPingResp bytes
  | _ => false

/-- The link a connection carried has been replaced since bytes were read from it, and the
numbers of links have come round to its own: a multiple of `2³²` handshakes succeeded. -/
def cameRound (c : Nat) (events : List Event) : Bool :=
  sinceRead c events ≠ 0 ∧ UInt32.size ∣ sinceRead c events

/-- The link, which uses the connection opened last, comes up or is restored. -/
def Notice.starts : Notice → Bool
  | .connected .. | .restored _ => true
  | _ => false

/-- The event is a sign of life of the link over the connection: it comes up, is restored,
or answers a ping. -/
def Event.revives (c : Nat) (earlier : List Event) : Event → Bool
  | .notice n => n.starts ∧ openings earlier = c
  | .frame d bytes => (d = c ∨ cameRound d earlier) ∧ isPingResp bytes
  | _ => false

/-- As long as the numbers have not come round, an answer counts for the link it came over
and for no other. -/
theorem Event.revives_frame {c d : Nat} {bytes : List UInt8} {earlier : List Event}
    (few : handshakes earlier < UInt32.size) :
    (Event.frame d bytes).revives c earlier = (Event.frame d bytes).isPong c := by
  have hround : cameRound d earlier = false := by
    have hfew := Nat.lt_of_le_of_lt (sinceRead_le d earlier) few
    rw [cameRound, decide_eq_false_iff_not]
    exact fun ⟨hsome, hdvd⟩ => hsome (Nat.eq_zero_of_dvd_of_lt hdvd hfew)
  simp [revives, isPong, hround]

/-- When the link over a connection last gave a sign of life. -/
def heard (c : Nat) : List Stamped → Option UInt32
  | [] => none
  | ⟨time, event⟩ :: earlier =>
    if event.revives c (eventsOf earlier) then some time else heard c earlier

/-- When the last PINGREQ was written to a connection, unless it was answered since. -/
def unanswered (c : Nat) : List Stamped → Option UInt32
  | [] => none
  | ⟨time, event⟩ :: earlier =>
    if event.isPing c then some time
    else if event.isPong c then none else unanswered c earlier

/-- The event counts for the timers: it is a ping or the answer to one, or tells that no
answer came, or that a link came up or was restored. -/
def Event.isSign : Event → Bool
  | .write _ bytes _ => kindOf? bytes = some .pingReq
  | .frame _ bytes => isPingResp bytes
  | .notice .pingUnanswered => true
  | .notice n => n.starts
  | _ => false

/-- What is no sign of life is not that a link came up either. -/
theorem Event.isHandshake_of_isSign {event : Event} (h : event.isSign = false) :
    event.isHandshake = false := by
  cases event with
  | notice n => cases n <;> first | rfl | cases h
  | _ => rfl

/-- What was written down of events is of no kind that none of them is of. -/
theorem Without.stamped {kind : Event → Bool} {es : List Event} {new : List Stamped}
    (h : Without kind es) (hes : new.reverse.map (·.event) = es) :
    ∀ e ∈ new, kind e.event = false := fun _ he =>
  h _ (hes ▸ List.mem_map_of_mem (List.mem_reverse.2 he))

section

variable {history new middle : List Stamped} {c : Nat}

/-- What is no sign of life neither sends a ping nor answers one. -/
theorem unanswered_append (h : ∀ e ∈ new, e.event.isSign = false) :
    unanswered c (new ++ history) = unanswered c history := by
  induction new with
  | nil => rfl
  | cons e new ih =>
    obtain ⟨time, event⟩ := e
    have hevent := h _ List.mem_cons_self
    have hping : event.isPing c = false := by
      cases event <;> simp_all [Event.isPing, Event.isSign]
    have hpong : event.isPong c = false := by
      cases event <;> simp_all [Event.isPong, Event.isSign]
    simp only [List.cons_append, unanswered, hping, hpong, Bool.false_eq_true, if_false]
    exact ih fun e he => h e (List.mem_cons_of_mem _ he)

/-- What is no sign of life does not change when the link last gave one. -/
theorem heard_append (h : ∀ e ∈ new, e.event.isSign = false) :
    heard c (new ++ history) = heard c history := by
  induction new with
  | nil => rfl
  | cons e new ih =>
    obtain ⟨time, event⟩ := e
    have hevent := h _ List.mem_cons_self
    have hdull : event.revives c (eventsOf (new ++ history)) = false := by
      cases event with
      | notice n => cases n <;> first | rfl | cases hevent
      | frame => simp_all [Event.revives, Event.isSign]
      | _ => rfl
    simp only [List.cons_append, heard, hdull, Bool.false_eq_true, if_false]
    exact ih fun e he => h e (List.mem_cons_of_mem _ he)

/-- Over a connection that was not used, no ping is out. -/
theorem unanswered_of_unused (unused : conversation c (eventsOf history) = []) :
    unanswered c history = none := by
  induction history with
  | nil => rfl
  | cons e history ih =>
    obtain ⟨time, event⟩ := e
    rw [eventsOf_cons, conversation_append, List.append_eq_nil_iff] at unused
    have hping : event.isPing c = false := by
      cases event <;> simp_all [Event.isPing, Event.io?]
    simp only [unanswered, hping, Bool.false_eq_true, if_false, ih unused.1, ite_self]

/-- If no ping is out, the last one was answered. -/
theorem exists_pong {time : UInt32} {event : Event} (ping : event.isPing c = true)
    (h : unanswered c (middle ++ ⟨time, event⟩ :: history) = none) :
    ∃ e ∈ middle, e.event.isPong c = true := by
  induction middle with
  | nil => simp [unanswered, ping] at h
  | cons e middle ih =>
    obtain ⟨later, other⟩ := e
    by_cases hpong : other.isPong c = true
    · exact ⟨_, List.mem_cons_self, hpong⟩
    · by_cases hping : other.isPing c = true
      · simp [unanswered, hping] at h
      · simp only [List.cons_append, unanswered, hping, hpong] at h
        obtain ⟨e, he, hanswers⟩ := ih h
        exact ⟨e, List.mem_cons_of_mem _ he, hanswers⟩

end

/-! ### What is due -/

/-- Half the keep-alive interval, in milliseconds. -/
def half (seconds : UInt16) : UInt32 :=
  500 * seconds.toUInt32

/-- Half of an interval in milliseconds is 500 for each of its seconds, with nothing lost
to rounding or wrapping. -/
theorem interval_half (seconds : UInt16) : seconds.toUInt32 * 1000 / 2 = half seconds := by
  have hlt := seconds.toNat_lt
  rw [half, ← UInt32.toNat_inj]
  simp only [UInt32.toNat_div, UInt32.toNat_mul, UInt16.toNat_toUInt32, UInt32.reduceToNat]
  rw [Nat.mod_eq_of_lt (by omega), Nat.mod_eq_of_lt (by omega)]
  omega

/-- The interval is nothing exactly if pings are switched off. -/
theorem interval_eq_zero {seconds : UInt16} : seconds.toUInt32 * 1000 = 0 ↔ seconds = 0 := by
  have hlt := seconds.toNat_lt
  rw [← UInt32.toNat_inj, ← UInt16.toNat_inj]
  simp only [UInt32.toNat_mul, UInt16.toNat_toUInt32, UInt32.reduceToNat, UInt16.toNat_ofNat]
  omega

/-- What a link calls for that was last heard at one reading of the clock, with a ping out
since another, or none. -/
def callsFor (seconds : UInt16) (since : UInt32) (unanswered : Option UInt32) (now : UInt32) :
    Option KeepAlive.Due :=
  if seconds = 0 then none
  else match unanswered with
    | some pinged => if half seconds < elapsed now pinged then some .linkDead else none
    | none => if half seconds ≤ elapsed now since then some .ping else none

/-- A ping is called for only while none is out, and after half the interval without a
sign of life. -/
theorem callsFor_eq_ping {seconds : UInt16} {since now : UInt32} {out : Option UInt32}
    (h : callsFor seconds since out now = some .ping) :
    seconds ≠ 0 ∧ out = none ∧ half seconds ≤ elapsed now since := by
  unfold callsFor at h
  split at h
  case isTrue => cases h
  case isFalse hon =>
    cases out with
    | none => exact ⟨hon, rfl, by simpa using h⟩
    | some pinged => simp at h

/-- A link is called dead only while a ping is out over it, and more than half the
interval after it. -/
theorem callsFor_eq_linkDead {seconds : UInt16} {since now : UInt32} {out : Option UInt32}
    (h : callsFor seconds since out now = some .linkDead) :
    seconds ≠ 0 ∧ ∃ pinged, out = some pinged ∧ half seconds < elapsed now pinged := by
  unfold callsFor at h
  split at h
  case isTrue => cases h
  case isFalse hon =>
    cases out with
    | none => simp at h
    | some pinged => exact ⟨hon, pinged, rfl, by simpa using h⟩

example : callsFor 10 0 none 5000 = some .ping ∧ callsFor 10 0 (some 0) 5000 = none := by decide

/-- Pings go out, and links are given up for missing answers, only when they are due. -/
structure Duly (seconds : UInt16) (history : List Stamped) : Prop where
  /-- A PINGREQ goes out when the last one was answered, and half the interval has passed
  since the link gave a sign of life. -/
  pings : ∀ later time c bytes result earlier,
    history = later ++ ⟨time, .write c bytes result⟩ :: earlier → kindOf? bytes = some .pingReq →
      seconds ≠ 0 ∧ unanswered c earlier = none ∧
        ∃ since, heard c earlier = some since ∧ half seconds ≤ elapsed time since
  /-- A link is given up for a missing answer when more than half the interval has passed
  since the ping; its connection is closed at once. -/
  gaveUp : ∀ later time earlier, history = later ++ ⟨time, .notice .pingUnanswered⟩ :: earlier →
    seconds ≠ 0 ∧ ∃ c after closed pinged, later = after ++ [⟨closed, .close c⟩] ∧
      unanswered c earlier = some pinged ∧ half seconds < elapsed time pinged
  /-- A link comes up without a ping out. -/
  fresh : ∀ later time host tcpPort clientId present earlier,
    history = later ++ ⟨time, .notice (.connected host tcpPort clientId present)⟩ :: earlier →
      unanswered (openings (eventsOf earlier)) earlier = none

namespace Duly

variable {seconds : UInt16} {history new : List Stamped} {time : UInt32} {event : Event}

/-- In an empty history nothing was done that was not due. -/
theorem nil : Duly seconds [] where
  pings _ _ _ _ _ _ h := nomatch List.append_eq_nil_iff.1 h.symm
  gaveUp _ _ _ h := nomatch List.append_eq_nil_iff.1 h.symm
  fresh _ _ _ _ _ _ _ h := nomatch List.append_eq_nil_iff.1 h.symm

/-- A history in which all was due stays one when more is done that is no verdict on a
ping, and is itself due if it is a ping or brings up a link. -/
theorem cons (h : Duly seconds history) (other : event ≠ .notice .pingUnanswered)
    (ping : ∀ c bytes result, event = .write c bytes result → kindOf? bytes = some .pingReq →
      seconds ≠ 0 ∧ unanswered c history = none ∧
        ∃ since, heard c history = some since ∧ half seconds ≤ elapsed time since)
    (fresh : event.isHandshake = true →
      unanswered (openings (eventsOf history)) history = none) :
    Duly seconds (⟨time, event⟩ :: history) where
  pings later t c bytes result earlier hsplit hkind := by
    rcases later with _ | ⟨first, later⟩
    · cases hsplit
      exact ping _ _ _ rfl hkind
    · obtain ⟨-, hrest⟩ := List.cons.inj hsplit
      exact h.pings later t c bytes result earlier hrest hkind
  gaveUp later t earlier hsplit := by
    rcases later with _ | ⟨first, later⟩
    · cases hsplit
      exact absurd rfl other
    · obtain ⟨-, hrest⟩ := List.cons.inj hsplit
      obtain ⟨hon, c, after, closed, pinged, rfl, hpinged⟩ := h.gaveUp later t earlier hrest
      exact ⟨hon, c, first :: after, closed, pinged, rfl, hpinged⟩
  fresh later t host tcpPort clientId present earlier hsplit := by
    rcases later with _ | ⟨first, later⟩
    · cases hsplit
      exact fresh rfl
    · obtain ⟨-, hrest⟩ := List.cons.inj hsplit
      exact h.fresh later t host tcpPort clientId present earlier hrest

/-- A frame that is taken is no verdict. -/
theorem frame {c : Nat} {bytes : List UInt8} (h : Duly seconds history) :
    Duly seconds (⟨time, .frame c bytes⟩ :: history) :=
  h.cons nofun (fun _ _ _ heq => nomatch heq) nofun

/-- A ping goes out when it is due. -/
theorem ping {c : Nat} {bytes : List UInt8} {result : Except NetFault Nat}
    (h : Duly seconds history) (on : seconds ≠ 0) (answered : unanswered c history = none)
    (due : ∃ since, heard c history = some since ∧ half seconds ≤ elapsed time since) :
    Duly seconds (⟨time, .write c bytes result⟩ :: history) :=
  h.cons nofun (fun _ _ _ heq _ => by cases heq; exact ⟨on, answered, due⟩) nofun

/-- A ping that was not answered in time is told, and its connection closed. -/
theorem close {c : Nat} {closed pinged : UInt32} (h : Duly seconds history) (on : seconds ≠ 0)
    (out : unanswered c history = some pinged) (late : half seconds < elapsed time pinged) :
    Duly seconds (⟨closed, .close c⟩ :: ⟨time, .notice .pingUnanswered⟩ :: history) where
  pings later t d bytes result earlier hsplit hkind := by
    rcases later with _ | ⟨first, _ | ⟨second, later⟩⟩
    · cases hsplit
    · cases hsplit
    · obtain ⟨-, hrest⟩ := List.cons.inj hsplit
      obtain ⟨-, hrest⟩ := List.cons.inj hrest
      exact h.pings later t d bytes result earlier hrest hkind
  gaveUp later t earlier hsplit := by
    rcases later with _ | ⟨first, _ | ⟨second, later⟩⟩
    · cases hsplit
    · cases hsplit
      exact ⟨on, c, [], closed, pinged, rfl, out, late⟩
    · obtain ⟨-, hrest⟩ := List.cons.inj hsplit
      obtain ⟨-, hrest⟩ := List.cons.inj hrest
      obtain ⟨hon, d, after, closed, pinged, rfl, hpinged⟩ := h.gaveUp later t earlier hrest
      exact ⟨hon, d, first :: second :: after, closed, pinged, rfl, hpinged⟩
  fresh later t host tcpPort clientId present earlier hsplit := by
    rcases later with _ | ⟨first, _ | ⟨second, later⟩⟩
    · cases hsplit
    · cases hsplit
    · obtain ⟨-, hrest⟩ := List.cons.inj hsplit
      obtain ⟨-, hrest⟩ := List.cons.inj hrest
      exact h.fresh later t host tcpPort clientId present earlier hrest

/-- A history in which all was due stays one when more is done that does not count for the
timers. -/
theorem append (h : Duly seconds history) (signless : ∀ e ∈ new, e.event.isSign = false) :
    Duly seconds (new ++ history) := by
  induction new with
  | nil => exact h
  | cons e new ih =>
    obtain ⟨time, event⟩ := e
    have hevent := signless _ List.mem_cons_self
    refine (ih fun e he => signless e (List.mem_cons_of_mem _ he)).cons ?_ ?_ ?_
    · rintro rfl
      cases hevent
    · rintro c bytes result rfl hkind
      simp [Event.isSign, hkind] at hevent
    · exact fun hyes => nomatch (Event.isHandshake_of_isSign hevent).symm.trans hyes

end Duly

end Mqtt
