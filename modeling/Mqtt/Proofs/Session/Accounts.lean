/-
# The accounts of a session's connections

A session owns at most one connection at a time.  `Tally` keeps the accounts while it
reads a history: how many connections were opened, and which of them is open.  It
refuses an event that has no place there: opening a second connection, or doing
something to one that is not the open one.

Every step of a session is accepted and leaves the accounts that the session itself
keeps, its count of connections opened and its connection (`Step.tally`).  What
acceptance means for a whole history is `Tally.Balanced`, and `accounted_run` puts
both together for every run of moves.
-/
import Mqtt.Proofs.Session.Run
import Mqtt.Proofs.Session.Tidy

namespace Mqtt

/-- The event closes a connection. -/
def Event.closes (c : Nat) : Event → Bool
  | .close connection => connection = c
  | _ => false

/-- The event closes some connection. -/
def Event.isClosing : Event → Bool
  | .close _ => true
  | _ => false

/-- How many connections were closed. -/
def closings (events : List Event) : Nat :=
  events.countP (·.isClosing)

/-- How often a connection was closed. -/
def closingsOf (c : Nat) (events : List Event) : Nat :=
  events.countP (·.closes c)

/-- What the accounts say after some events. -/
structure Tally where
  /-- How many connections were opened. -/
  opened : Nat := 0
  /-- The one that is open. -/
  current : Option Nat := none

namespace Tally

/-- Enters an event, if it has a place in the accounts. -/
def count (tally : Tally) : Event → Option Tally
  | .connect _ _ _ (.ok ()) =>
    if tally.current = none then some ⟨tally.opened + 1, some (tally.opened + 1)⟩ else none
  | .close c => if tally.current = some c then some { tally with current := none } else none
  | .secure c .. | .read c .. | .write c .. | .flush c _ =>
    if tally.current = some c then some tally else none
  | _ => some tally

/-- Enters some events, one after the other. -/
def add (tally : Tally) (events : List Event) : Option Tally :=
  events.foldlM count tally

/-- Entering nothing leaves the accounts as they are. -/
@[simp] theorem add_nil (tally : Tally) : tally.add [] = some tally := rfl

/-- Events are entered in order, and one that has no place stops the entering. -/
@[simp] theorem add_cons (tally : Tally) (event : Event) (es : List Event) :
    tally.add (event :: es) = (tally.count event).bind (·.add es) := rfl

/-- Two stretches of a history are entered one after the other. -/
@[simp] theorem add_append (tally : Tally) (es fs : List Event) :
    tally.add (es ++ fs) = (tally.add es).bind (·.add fs) :=
  List.foldlM_append

/-- What the log is told is not entered. -/
@[simp] theorem count_notice (tally : Tally) (n : Notice) :
    tally.count (.notice n) = some tally := rfl

/-- Closing the open connection has its place, and leaves none open. -/
@[simp] theorem count_close (n c : Nat) :
    (⟨n, some c⟩ : Tally).count (.close c) = some ⟨n, none⟩ :=
  if_pos rfl

/-- Writing to the open connection has its place, however it goes. -/
@[simp] theorem count_write (n c : Nat) (frame : List UInt8) (r : Except NetFault Nat) :
    (⟨n, some c⟩ : Tally).count (.write c frame r) = some ⟨n, some c⟩ :=
  if_pos rfl

/-- Flushing the open connection has its place, however it goes. -/
@[simp] theorem count_flush (n c : Nat) (r : Except NetFault Unit) :
    (⟨n, some c⟩ : Tally).count (.flush c r) = some ⟨n, some c⟩ :=
  if_pos rfl

/-- Reading from the open connection has its place, however it goes. -/
@[simp] theorem count_read (n c capacity : Nat) (timeout : UInt32)
    (r : Except NetFault (List UInt8)) :
    (⟨n, some c⟩ : Tally).count (.read c capacity timeout r) = some ⟨n, some c⟩ :=
  if_pos rfl

/-- Securing the open connection has its place. -/
@[simp] theorem count_secure (n c : Nat) (name : String) (settings : TlsSettings) :
    (⟨n, some c⟩ : Tally).count (.secure c name settings) = some ⟨n, some c⟩ :=
  if_pos rfl

/-- Opening a connection has its place while none is open.  It gets the next number and is
the open one then. -/
@[simp] theorem count_connect (n : Nat) (host : String) (tcpPort : UInt16) (timeout : UInt32) :
    (⟨n, none⟩ : Tally).count (.connect host tcpPort timeout (.ok ())) =
      some ⟨n + 1, some (n + 1)⟩ := rfl

/-- A connection that is refused is not entered, since it leaves nothing to close. -/
@[simp] theorem count_refused (tally : Tally) (host : String) (tcpPort : UInt16) (timeout : UInt32)
    (fault : NetFault) :
    tally.count (.connect host tcpPort timeout (.error fault)) = some tally := rfl

/-- What is only told has its place and leaves the accounts as they are. -/
theorem count_of_isTold (tally : Tally) {event : Event} (h : event.isTold = true) :
    tally.count event = some tally := by
  cases event <;> first | rfl | cases h

/-- What accepted accounts say of the history they were made from. -/
structure Balanced (tally : Tally) (events : List Event) : Prop where
  /-- As many connections are counted as were opened. -/
  opened : tally.opened = openings events
  /-- The open connection is the one opened last. -/
  latest : ∀ c, tally.current = some c → c = openings events ∧ closingsOf c events = 0
  /-- All but the current one have been closed. -/
  balance : openings events = closings events + if tally.current.isSome = true then 1 else 0
  /-- No connection is closed twice. -/
  once : ∀ c, closingsOf c events ≤ 1
  /-- None is closed before it is opened. -/
  unopened : ∀ c, openings events < c → closingsOf c events = 0

/-- The accounts of an empty history are balanced, with nothing opened and nothing to
close. -/
theorem balanced_nil : Balanced {} [] where
  opened := rfl
  latest _ h := nomatch h
  balance := rfl
  once _ := Nat.zero_le _
  unopened _ _ := rfl

/-- An event that opens and closes nothing leaves the accounts balanced. -/
theorem Balanced.same {tally : Tally} {es : List Event} {event : Event} (h : tally.Balanced es)
    (opens : event.isOpening = false) (closes : event.isClosing = false) :
    tally.Balanced (es ++ [event]) := by
  have hopen : openings (es ++ [event]) = openings es := by simp [openings, opens]
  have hclose : closings (es ++ [event]) = closings es := by simp [closings, closes]
  have heach : ∀ c, closingsOf c (es ++ [event]) = closingsOf c es := by
    intro c
    cases event with
    | close => cases closes
    | _ => simp [closingsOf, Event.closes]
  refine ⟨?_, fun c hc => ?_, ?_, fun c => ?_, fun c hc => ?_⟩
  · rw [hopen, h.opened]
  · rw [hopen, heach]
    exact h.latest c hc
  · rw [hopen, hclose]
    exact h.balance
  · rw [heach]
    exact h.once c
  · rw [heach]
    exact h.unopened c (hopen ▸ hc)

/-- Accounts stay balanced when a connection is opened: one more was opened, and one more
is not closed. -/
theorem Balanced.connect {n : Nat} {es : List Event} {host : String} {tcpPort : UInt16}
    {timeout : UInt32} (h : (⟨n, none⟩ : Tally).Balanced es) :
    (⟨n + 1, some (n + 1)⟩ : Tally).Balanced (es ++ [.connect host tcpPort timeout (.ok ())]) := by
  have hn : n = openings es := h.opened
  have hbalance : openings es = closings es := h.balance
  have hopen : openings (es ++ [.connect host tcpPort timeout (.ok ())]) = openings es + 1 := by
    simp [openings, Event.isOpening]
  have heach : ∀ c, closingsOf c (es ++ [.connect host tcpPort timeout (.ok ())]) =
      closingsOf c es := by simp [closingsOf, Event.closes]
  refine ⟨?_, fun c hc => ?_, ?_, fun c => ?_, fun c hc => ?_⟩
  · rw [hopen, hn]
  · cases hc
    rw [hopen, heach, hn]
    exact ⟨rfl, h.unopened _ (Nat.lt_succ_self _)⟩
  · rw [hopen, hbalance]
    simp [closings, Event.isClosing]
  · rw [heach]
    exact h.once c
  · rw [heach]
    exact h.unopened c (by omega)

/-- Accounts stay balanced when the open connection is closed: as many were closed now as
were opened, each of them once. -/
theorem Balanced.close {n c : Nat} {es : List Event} (h : (⟨n, some c⟩ : Tally).Balanced es) :
    (⟨n, none⟩ : Tally).Balanced (es ++ [.close c]) := by
  have hopen : openings (es ++ [.close c]) = openings es := by simp [openings, Event.isOpening]
  have hbalance : openings es = closings es + 1 := h.balance
  obtain ⟨hlast, hnever⟩ := h.latest c rfl
  have heach : ∀ d, closingsOf d (es ++ [.close c]) = closingsOf d es + if c = d then 1 else 0 := by
    simp [closingsOf, Event.closes, List.countP_cons]
  refine ⟨?_, fun _ hd => ?_, ?_, fun d => ?_, fun d hd => ?_⟩
  · rw [hopen, ← h.opened]
  · cases hd
  · rw [hopen, hbalance]
    simp [closings, Event.isClosing]
  · rw [heach]
    split
    case isTrue hcd => simp [← hcd, hnever]
    case isFalse => exact h.once d
  · rw [heach, h.unopened d (by omega), if_neg (by omega)]

/-- **Accounts that accept an event stay balanced.**  An event is accepted only where it
has its place, so each kind has one case to look at. -/
theorem Balanced.count {tally next : Tally} {es : List Event} {event : Event}
    (h : tally.Balanced es) (accepted : tally.count event = some next) :
    next.Balanced (es ++ [event]) := by
  obtain ⟨n, current⟩ := tally
  cases event with
  | connect host tcpPort timeout r =>
    cases r with
    | ok a =>
      cases current with
      | none =>
        obtain rfl := Option.some.inj accepted
        exact h.connect
      | some c => cases accepted
    | error fault =>
      obtain rfl := Option.some.inj accepted
      exact h.same rfl rfl
  | close c =>
    obtain ⟨rfl, hnext⟩ := Option.ite_none_right_eq_some.1 accepted
    obtain rfl := Option.some.inj hnext
    exact h.close
  | secure | read | write | flush =>
    obtain ⟨-, hnext⟩ := Option.ite_none_right_eq_some.1 accepted
    obtain rfl := Option.some.inj hnext
    exact h.same rfl rfl
  | _ =>
    obtain rfl := Option.some.inj accepted
    exact h.same rfl rfl

/-- **Accounts that accept a history are balanced with it.**  So it is enough to show that
each step of a session is accepted. -/
theorem Balanced.add {tally next : Tally} {es fs : List Event} (h : tally.Balanced es)
    (accepted : tally.add fs = some next) : next.Balanced (es ++ fs) := by
  induction fs generalizing tally es with
  | nil =>
    obtain rfl := Option.some.inj accepted
    simpa using h
  | cons event fs ih =>
    obtain ⟨mid, hevent, hrest⟩ := Option.bind_eq_some_iff.1 accepted
    simpa using ih (h.count hevent) hrest

/-- What is done to a connection is done to the one that is open. -/
theorem current_of_count {tally next : Tally} {event : Event} {c : Nat}
    (accepted : tally.count event = some next) (used : (event.io? c).isSome = true) :
    tally.current = some c := by
  cases event with
  | secure | read | write | flush | close =>
    simp only [Event.io?, Option.isSome_ite] at used
    obtain ⟨hc, -⟩ := Option.ite_none_right_eq_some.1 accepted
    rw [hc, used]
  | _ => cases used

end Tally

/-- The accounts of a history add up. -/
structure Accounted (events : List Event) (connected : Bool) : Prop where
  /-- At any time at most one of the connections opened is not closed. -/
  single : ∀ before, before <+: events →
    closings before ≤ openings before ∧ openings before ≤ closings before + 1
  /-- No connection is closed twice. -/
  once : ∀ c, closingsOf c events ≤ 1
  /-- In the end one is open exactly if the session is connected. -/
  balance : openings events = closings events + if connected = true then 1 else 0
  /-- Whatever is done to a connection is done to the one opened last, while it is open. -/
  current : ∀ before event after c, events = before ++ event :: after →
    (event.io? c).isSome = true →
    c = openings before ∧ openings before = closings before + 1 ∧ closingsOf c before = 0

/-- A history whose accounts were accepted adds up. -/
theorem Tally.accounted {tally : Tally} {events : List Event}
    (accepted : ({} : Tally).add events = some tally) :
    Accounted events tally.current.isSome := by
  have balanced : ∀ {es : List Event} {next : Tally}, ({} : Tally).add es = some next →
      next.Balanced es := fun h => balanced_nil.add h
  refine ⟨?_, (balanced accepted).once, (balanced accepted).balance, ?_⟩
  · rintro before ⟨after, rfl⟩
    rw [add_append] at accepted
    obtain ⟨mid, hmid, -⟩ := Option.bind_eq_some_iff.1 accepted
    have hbalance := (balanced hmid).balance
    split at hbalance <;> omega
  · rintro before event after c rfl used
    rw [add_append] at accepted
    obtain ⟨mid, hmid, hrest⟩ := Option.bind_eq_some_iff.1 accepted
    obtain ⟨next, hevent, -⟩ := Option.bind_eq_some_iff.1 hrest
    have hup := current_of_count hevent used
    have hbalance := (balanced hmid).balance
    rw [hup] at hbalance
    obtain ⟨hlast, hnever⟩ := (balanced hmid).latest c hup
    exact ⟨hlast, hbalance, hnever⟩

/-- Opening a connection enters it, and keeps it only if it can be secured. -/
theorem Connector.Dialing.tally {host : String} {tcpPort : UInt16} {timeout : UInt32} {n : Nat}
    {connector : Connector} {r : Except NetFault Nat} {es : List Event}
    (h : Dialing host tcpPort timeout (n + 1) connector r es) :
    (⟨n, none⟩ : Tally).add es = some ⟨n + openings es, r.toOption⟩ := by
  cases h <;> simp [openings, Event.isOpening, Except.toOption]

namespace Session

variable {ω : Type}

/-- Sending leaves the accounts as they are. -/
theorem Sending.tally {n c : Nat} {frame : List UInt8} {r : Except Fault Unit} {es : List Event}
    (h : Sending c frame r es) : (⟨n, some c⟩ : Tally).add es = some ⟨n, some c⟩ := by
  cases h <;> simp

/-- Closing the open connection is accepted, told failure or not. -/
theorem Closing.tally {n c : Nat} {es : List Event} (h : Closing c es) :
    (⟨n, some c⟩ : Tally).add es = some ⟨n, none⟩ := by
  cases h <;> simp

/-- Reading from the open connection is accepted, as often as it takes. -/
theorem Hearing.tally {n c : Nat} {es : List Event} {bytes : List UInt8} (h : Hearing c es bytes) :
    (⟨n, some c⟩ : Tally).add es = some ⟨n, some c⟩ := by
  induction h with
  | nil => rfl
  | read _ ih => simpa using ih
  | failed _ _ ih => simpa using ih

/-- An exchange over the open connection is accepted, and leaves it open whether or not it
goes well: closing it is up to the handshake. -/
theorem Exchanging.tally {n c : Nat} {request : Outbound} {r : Except Fault Bool} {es : List Event}
    (h : Exchanging c request r es) : (⟨n, some c⟩ : Tally).add es = some ⟨n, some c⟩ := by
  cases h with
  | unpackable => rfl
  | unsent _ hes => exact hes.tally
  | unanswered _ _ hes hfs => simp [hes.tally, hfs.tally]
  | unexpected _ hes hfs => simp [hes.tally, hfs.tally]
  | accepted _ _ hes hfs => simp [hes.tally, hfs.tally]

/-- The accounts that the session itself keeps. -/
def tally (s : Session ω) : Tally :=
  ⟨s.world.opened, s.connection⟩

/-- What opens no connection leaves their count. -/
theorem tally_of_ran {s t : Session ω} {es : List Event} (ran : s.world.Ran es t.world)
    (closed : openings es = 0) : t.tally = ⟨s.world.opened, t.connection⟩ := by
  rw [tally, ran.opened, closed, Nat.add_zero]

/-- What is only told leaves the accounts as they are. -/
theorem tally_of_told {es : List Event} (h : ∀ e ∈ es, e.isTold = true) (before : Tally) :
    before.add es = some before := by
  induction es with
  | nil => rfl
  | cons event es ih =>
    rw [Tally.add_cons, before.count_of_isTold (h event List.mem_cons_self)]
    exact ih fun e he => h e (List.mem_cons_of_mem _ he)

/-- However opening a link goes, its connection is entered once and closed if the link
does not come up. -/
theorem Opening.tally {s t : Session ω} {r : Except Fault Unit} {es : List Event}
    (down : s.connection = none) (h : Opening s r es t) : s.tally.add es = some t.tally := by
  have hs : s.tally = ⟨s.world.opened, none⟩ := by rw [Session.tally, down]
  have ht : t.tally = ⟨s.world.opened + openings es, t.connection⟩ := by
    rw [Session.tally, h.ran.opened]
  rw [hs, ht]
  cases h with
  | refused hdial hdid =>
    rw [hdid.connection, down]
    simp [hdial.tally, Event.isOpening, Except.toOption]
  | failed hdial hexchange hclosing hdid =>
    rw [hdid.connection, down]
    simp [hdial.tally, hexchange.tally, hclosing.tally, hexchange.concern.openings,
      hclosing.concern.openings, Event.isOpening, Except.toOption]
  | opened hdial hexchange hdid =>
    rw [hdid.connection]
    simp [hdial.tally, hexchange.tally, hexchange.concern.openings, Event.isOpening,
      Except.toOption]

/-- **Every step has its place in the accounts.** -/
theorem Step.tally {d : Doing} {s t : Session ω} {es : List Event} (h : Step d s es t) :
    s.tally.add es = some t.tally := by
  have ran := h.ran
  -- But for the last, no step opens anything: what it does is entered under the link there is.
  cases h with
  | tuned _ hdid =>
    rw [tally_of_ran ran rfl, hdid.connection]
    rfl
  | kept _ hdid =>
    rw [tally_of_ran ran rfl, hdid.connection]
    rfl
  | timed _ hdid =>
    rw [tally_of_ran ran rfl, hdid.connection]
    rfl
  | told quiet hdid =>
    rw [tally_of_ran ran (openings_of_isTold quiet), hdid.connection]
    exact tally_of_told (by simpa using quiet) _
  | heard up hdid =>
    rw [tally_of_ran ran rfl, hdid.connection, Session.tally, up]
    simp
  | sent _ _ up hes hdid =>
    rw [tally_of_ran ran hes.concern.openings, hdid.connection, Session.tally, up]
    exact hes.tally
  | @broken _ c _ _ es ns fs _ _ _ _ up hes hns hfs hdid =>
    have htold : ∀ e ∈ ns, e.isTold = true := by
      intro e he
      obtain ⟨fault, rfl⟩ := hns e he
      rfl
    have hclosed : openings (es ++ ns ++ fs) = 0 :=
      ((hes.concern.append (.lost hns)).append hfs.concern).openings
    rw [tally_of_ran ran hclosed, hdid.connection, Session.tally, up]
    simp [hes.tally, tally_of_told htold, hfs.tally]
  | left _ up hes hfs hdid =>
    rw [tally_of_ran ran (hes.concern.append hfs.concern).openings, hdid.connection,
      Session.tally, up]
    simp [hes.tally, hfs.tally]
  | dropped up hes hdid =>
    rw [tally_of_ran ran hes.concern.openings, hdid.connection, Session.tally, up]
    exact hes.tally
  | raised down hopen => exact hopen.tally down

/-- The history so far was accepted, and left the accounts that the session keeps. -/
def Booked (s : Session ω) : Prop :=
  ({} : Tally).add s.world.events = some s.tally

/-- A step of a session is accepted and leaves the accounts that the session then keeps. -/
theorem Step.booked {d : Doing} {s t : Session ω} {es : List Event} (hs : s.Booked)
    (h : Step d s es t) : t.Booked := by
  rw [Booked, h.ran.events, Tally.add_append, hs]
  exact h.tally

/-- So is a run of steps, from any session whose history was accepted. -/
theorem Path.booked {allowed : Doing → Prop} {s t : Session ω} {es : List Event}
    (h : Path allowed s es t) (hs : s.Booked) : t.Booked :=
  h.preserves (fun _ hs step => step.booked hs) hs

variable [Environment ω]

/-- **The accounts of a session add up.**  After any run of its operations, whatever the
environment answers: at most one connection was open at any time, and one is open in
the end exactly if the session is connected; none was closed twice; and all that was
done to a connection was done to the one opened last, before it was closed.  The number
of the link is that of the handshakes that succeeded, up to wrapping. -/
theorem accounted_run (connector : Connector) (settings : Settings) (environment : ω)
    (clock : UInt32) (moves : List (Move ω)) :
    let fresh : Session ω := .new connector settings { environment, clock }
    let session := fresh.run moves
    Accounted session.world.events session.isConnected ∧
      session.link = (fresh.handshakesIn moves).toUInt32 := by
  intro fresh session
  have hbooked : session.Booked := run_preserves Step.booked moves (by exact rfl)
  refine ⟨Tally.accounted hbooked, ?_⟩
  have hlink : session.link = fresh.link + _ := link_run fresh moves
  rw [hlink]
  exact UInt32.zero_add _

end Session
end Mqtt
