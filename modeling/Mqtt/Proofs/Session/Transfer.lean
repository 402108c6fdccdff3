/-
# What moving frames adds to the history

`Session.Did s es t` says that the session `s` did `es` and is otherwise as it
was.  On top of it stand the ways in which the operations of
`Mqtt.Session.Transfer` can go: closing a connection (`Closing`), sending a frame
over one (`Sending`), sending over the link (`Transmitting`), and reading bytes
one chunk after the other (`Hearing`).  Each is exhaustive, so whatever an
operation does later is told by one of its cases.
-/
import Mqtt.Session.Transfer
import Mqtt.Proofs.World.Ran

namespace Mqtt
namespace Session

open Mqtt.Action

variable {ω ε α : Type}

/-- The session did something to the world, and nothing else of it changed. -/
structure Did (s : Session ω) (es : List Event) (t : Session ω) : Prop where
  /-- The events are what the world did. -/
  ran : s.world.Ran es t.world
  /-- Everything that is not the world is as it was. -/
  rest : t = { s with world := t.world }

namespace Did

variable {s t u : Session ω} {es fs : List Event}

/-- A session that did nothing is as it was. -/
theorem refl (s : Session ω) : s.Did [] s :=
  ⟨.refl s.world, rfl⟩

/-- What was done first and what was done then is done together, and nothing but the world
has changed in either. -/
theorem trans (h : s.Did es t) (h' : t.Did fs u) : s.Did (es ++ fs) u where
  ran := h.ran.trans h'.ran
  rest := by rw [h'.rest, h.rest]

/-- What is only done to the world does not change how connections are opened. -/
theorem connector (h : s.Did es t) : t.connector = s.connector := by rw [h.rest]

/-- What is only done to the world neither brings a link up nor takes it down. -/
theorem connection (h : s.Did es t) : t.connection = s.connection := by rw [h.rest]

/-- What is only done to the world does not count as another link. -/
theorem link (h : s.Did es t) : t.link = s.link := by rw [h.rest]

/-- What is only done to the world leaves the subscriptions alone. -/
theorem registry (h : s.Did es t) : t.registry = s.registry := by rw [h.rest]

/-- What is only done to the world takes no identifier. -/
theorem packetId (h : s.Did es t) : t.packetId = s.packetId := by rw [h.rest]

/-- What is only done to the world leaves the timers alone. -/
theorem keepAlive (h : s.Did es t) : t.keepAlive = s.keepAlive := by rw [h.rest]

/-- What is only done to the world leaves the settings alone. -/
theorem settings (h : s.Did es t) : t.settings = s.settings := by rw [h.rest]

/-- A change of the session that leaves the world alone can be made before or after. -/
theorem update {f : Session ω → Session ω}
    (apart : ∀ s w, f { s with world := w } = { f s with world := w })
    (h : s.Did es t) : (f s).Did es (f t) := by
  have hw : ∀ s, (f s).world = s.world := fun s => by rw [apart s s.world]
  constructor
  · rw [hw, hw]
    exact h.ran
  · rw [hw, ← apart, ← h.rest]

end Did

/-- What is done to the world is all that is done to the session. -/
theorem did_onWorld {action : Action ε (World ω) α} {s t : Session ω} {r : Except ε α}
    (h : Yields (onWorld action) s r t) :
    Yields action s.world r t.world ∧ t = { s with world := t.world } := by
  obtain ⟨w, hw, rfl⟩ := yields_within.1 h
  exact ⟨hw, rfl⟩

/-- An event that is written down is all a session did then, unless it opens a connection. -/
theorem did_record {event : Event} {s t : Session ω} {r : Except ε Unit}
    (closed : event.isOpening = false) (h : Yields (onWorld (World.record event)) s r t) :
    r = .ok () ∧ s.Did [event] t := by
  obtain ⟨hw, ht⟩ := did_onWorld h
  exact ⟨(World.ran_record closed hw).1, (World.ran_record closed hw).2, ht⟩

/-- Telling the log is all a session did then, and it cannot fail. -/
theorem did_notice {n : Notice} {s t : Session ω} {r : Except ε Unit}
    (h : Yields (notice n) s r t) : r = .ok () ∧ s.Did [.notice n] t :=
  did_record rfl h

/-- What is only told is told at once. -/
theorem stands_of_notice {n : Notice} {s t : Session ω} {r : Except ε Unit}
    (h : Yields (notice n) s r t) :
    s.world.Begins t.world ∧ t.world.StandsAt s.world.clock :=
  World.stands_of_record (did_onWorld h).1

/-- A change of the clock or the environment does nothing to the world. -/
theorem did_setWorld {f : World ω → World ω} {s t : Session ω} {r : Except ε PUnit}
    (h : Yields (onWorld (modify f)) s r t) (history : ∀ w, (f w).history = w.history)
    (opened : ∀ w, (f w).opened = w.opened) : s.Did [] t := by
  obtain ⟨hw, ht⟩ := did_onWorld h
  obtain ⟨-, hworld⟩ := yields_modify.1 hw
  refine ⟨⟨⟨[], ?_, rfl⟩, ?_⟩, ht⟩
  · rw [hworld, history]
    rfl
  · rw [hworld, opened]
    rfl

/-- A notice is told before whatever follows it. -/
theorem yields_notice_bind {n : Notice} {next : Unit → Action ε (Session ω) α} {s u : Session ω}
    {r : Except ε α} (h : Yields (notice n >>= next) s r u) :
    ∃ t, s.Did [.notice n] t ∧ Yields (next ()) t r u := by
  rcases yields_bind.1 h with ⟨_, hn, -⟩ | ⟨⟨⟩, t, hn, h⟩
  · exact absurd (did_notice hn).1 (by simp)
  · exact ⟨t, (did_notice hn).2, h⟩

/-- How closing a connection goes; a failure is told. -/
inductive Closing (connection : Nat) : List Event → Prop
  /-- The connection is closed, and nothing is told. -/
  | quiet : Closing connection [.close connection]
  /-- The environment could not close it cleanly.  It counts as closed nevertheless, and
  the failure is told. -/
  | told (fault : NetFault) : Closing connection [.close connection, .notice (.closeFailed fault)]

/-- How giving up the link goes: a session without one has nothing to drop. -/
inductive Dropping (s : Session ω) : List Event → Session ω → Prop
  /-- There is no link to give up. -/
  | nothing : s.connection = none → Dropping s [] s
  /-- The link is given up first and its connection closed then. -/
  | closed {connection : Nat} {es : List Event} {t : Session ω} :
      s.connection = some connection → Closing connection es →
      Did { s with connection := none } es t → Dropping s es t

/-- How sending a frame over a connection goes: it is written whole and flushed,
or something fails on the way and nothing more is done. -/
inductive Sending (connection : Nat) (frame : List UInt8) :
    Except Fault Unit → List Event → Prop
  /-- The frame is taken whole and pushed out. -/
  | sent : Sending connection frame (.ok ())
      [.write connection frame (.ok frame.length), .flush connection (.ok ())]
  /-- The write fails. -/
  | writeFailed (fault : NetFault) : Sending connection frame (.error .writeError)
      [.write connection frame (.error fault), .notice (.writeFailed fault)]
  /-- The write takes some other number of bytes than the frame has; the rest is not
  tried again. -/
  | short {taken : Nat} (h : taken ≠ frame.length) : Sending connection frame (.error .shortWrite)
      [.write connection frame (.ok taken), .notice (.shortWrite taken frame.length)]
  /-- The frame is taken, but pushing it out fails. -/
  | flushFailed (fault : NetFault) : Sending connection frame (.error .writeError)
      [.write connection frame (.ok frame.length), .flush connection (.error fault),
        .notice (.flushFailed fault)]

/-- Reads from a connection, one after the other, and the bytes they gave. -/
inductive Hearing (connection : Nat) : List Event → List UInt8 → Prop
  /-- Nothing is read. -/
  | nil : Hearing connection [] []
  /-- A read gives a chunk of bytes, perhaps none, and more reads follow. -/
  | read {capacity : Nat} {timeout : UInt32} {chunk bytes : List UInt8} {es : List Event} :
      Hearing connection es bytes →
      Hearing connection (.read connection capacity timeout (.ok chunk) :: es) (chunk ++ bytes)
  /-- A read fails, which is told. -/
  | failed {capacity : Nat} {timeout : UInt32} {bytes : List UInt8} {es : List Event}
      (fault : NetFault) : Hearing connection es bytes →
      Hearing connection (.read connection capacity timeout (.error fault) ::
        .notice (.readFailed fault) :: es) bytes

/-- Reads one after the other give their bytes one after the other. -/
theorem Hearing.append {connection : Nat} {es fs : List Event} {bytes more : List UInt8}
    (h : Hearing connection es bytes) (h' : Hearing connection fs more) :
    Hearing connection (es ++ fs) (bytes ++ more) := by
  induction h with
  | nil => exact h'
  | read _ ih => rw [List.append_assoc]; exact .read ih
  | failed fault _ ih => exact .failed fault ih

variable [Environment ω]

/-- Closing a connection quietly goes in one of the ways of `Closing`, and never fails
itself. -/
theorem closing_of_closeQuietly {connection : Nat} {s t : Session ω} {r : Except ε Unit}
    (h : Yields (closeQuietly connection) s r t) :
    r = .ok () ∧ ∃ es, Closing connection es ∧ s.Did es t := by
  rw [closeQuietly, yields_bind] at h
  rcases h with ⟨_, hc, -⟩ | ⟨x, u, hc, h⟩
  · obtain ⟨_, -, he⟩ := yields_attempt.1 (did_onWorld hc).1
    cases he
  · obtain ⟨hw, hu⟩ := did_onWorld hc
    obtain ⟨_, hclose, ⟨⟩⟩ := yields_attempt.1 hw
    have hdid : s.Did [.close connection] u := ⟨World.ran_close hclose, hu⟩
    cases x with
    | ok a =>
      obtain ⟨rfl, rfl⟩ := yields_pure.1 h
      exact ⟨rfl, _, .quiet, hdid⟩
    | error fault =>
      obtain ⟨rfl, hn⟩ := did_notice h
      exact ⟨rfl, _, .told fault, hdid.trans hn⟩

/-- Giving up the link goes in one of the ways of `Dropping`, and never fails itself. -/
theorem dropping_of_dropLink {s t : Session ω} {r : Except ε Unit} (h : Yields dropLink s r t) :
    r = .ok () ∧ ∃ es, Dropping s es t := by
  simp only [dropLink, yields_get_bind] at h
  cases hc : s.connection with
  | none =>
    rw [hc] at h
    obtain ⟨rfl, rfl⟩ := yields_pure.1 h
    exact ⟨rfl, [], .nothing hc⟩
  | some connection =>
    simp only [hc, yields_modify_bind] at h
    obtain ⟨rfl, es, hes, hdid⟩ := closing_of_closeQuietly h
    exact ⟨rfl, es, .closed hc hes hdid⟩

/-- Sending a frame goes in one of the ways of `Sending`, which also tells what it gives. -/
theorem sending_of_sendFrame {connection : Nat} {frame : List UInt8} {s t : Session ω}
    {r : Except Fault Unit} (h : Yields (sendFrame connection frame) s r t) :
    ∃ es, Sending connection frame r es ∧ s.Did es t := by
  rw [sendFrame, yields_bind] at h
  rcases h with ⟨fault, hw, rfl⟩ | ⟨taken, u, hw, h⟩
  · obtain ⟨hw, ht⟩ := did_onWorld hw
    rcases World.ran_orNotice hw with ⟨_, -, he⟩ | ⟨e, v, hwrite, hn, he⟩
    · cases he
    · cases he
      exact ⟨_, .writeFailed e, (World.ran_write hwrite).trans hn, ht⟩
  · obtain ⟨hw, hu⟩ := did_onWorld hw
    rcases World.ran_orNotice hw with ⟨_, hwrite, ⟨⟩⟩ | ⟨_, _, -, -, he⟩
    · have hwritten : s.Did [.write connection frame (.ok taken)] u := ⟨World.ran_write hwrite, hu⟩
      split at h
      case isTrue hne =>
        obtain ⟨v, hn, h⟩ := yields_notice_bind h
        obtain ⟨rfl, rfl⟩ := yields_throw_bind.1 h
        exact ⟨_, .short hne, hwritten.trans hn⟩
      case isFalse heq =>
        obtain rfl := Decidable.not_not.1 heq
        obtain ⟨hf, ht⟩ := did_onWorld h
        rcases World.ran_orNotice hf with ⟨_, hflush, rfl⟩ | ⟨e, v, hflush, hn, rfl⟩
        · exact ⟨_, .sent, hwritten.trans ⟨World.ran_flush hflush, ht⟩⟩
        · exact ⟨_, .flushFailed e, hwritten.trans ⟨(World.ran_flush hflush).trans hn, ht⟩⟩
    · cases he

/-- Sending a frame begins at once, with the write. -/
theorem begins_of_sendFrame {connection : Nat} {frame : List UInt8} {s t : Session ω}
    {r : Except Fault Unit} (h : Yields (sendFrame connection frame) s r t) :
    s.world.Begins t.world := by
  rw [sendFrame, yields_bind] at h
  rcases h with ⟨fault, hw, rfl⟩ | ⟨taken, u, hw, h⟩
  · rcases World.ran_orNotice (did_onWorld hw).1 with ⟨_, -, he⟩ | ⟨e, v, hwrite, hn, -⟩
    · cases he
    · exact (World.begins_of_demand hwrite).ran hn
  · rcases World.ran_orNotice (did_onWorld hw).1 with ⟨_, hwrite, -⟩ | ⟨_, _, -, -, he⟩
    · have hbegun := World.begins_of_demand hwrite
      split at h
      case isTrue =>
        obtain ⟨v, hn, h⟩ := yields_notice_bind h
        obtain ⟨-, rfl⟩ := yields_throw_bind.1 h
        exact hbegun.ran hn.ran
      case isFalse =>
        rcases World.ran_orNotice (did_onWorld h).1 with ⟨_, hflush, -⟩ | ⟨e, v, hflush, hn, -⟩
        · exact hbegun.ran (World.ran_flush hflush)
        · exact hbegun.ran ((World.ran_flush hflush).trans hn)
    · cases he

/-- How sending a packet over the link goes: nothing is done with a packet that does
not fit or without a link, and a link over which sending fails is closed. -/
inductive Transmitting (packet : Outbound) (s : Session ω) :
    Except Fault Unit → List Event → Session ω → Prop
  /-- The packet fits no frame, so nothing is done. -/
  | unpackable {fault : Fault} : packet.pack frameLimit = .error fault →
      Transmitting packet s (.error fault) [] s
  /-- There is no link to send over. -/
  | notConnected : s.connection = none → Transmitting packet s (.error .notConnected) [] s
  /-- The frame goes out. -/
  | sent {frame : List UInt8} {connection : Nat} {es : List Event} {t : Session ω} :
      packet.pack frameLimit = .ok frame → s.connection = some connection →
      Sending connection frame (.ok ()) es → s.Did es t → s.world.Begins t.world →
      Transmitting packet s (.ok ()) es t
  /-- The frame does not go out, and its connection is closed. -/
  | failed {frame : List UInt8} {connection : Nat} {fault : Fault} {es fs : List Event}
      {t : Session ω} :
      packet.pack frameLimit = .ok frame → s.connection = some connection →
      Sending connection frame (.error fault) es → Closing connection fs →
      Did { s with connection := none } (es ++ fs) t → s.world.Begins t.world →
      Transmitting packet s (.error fault) (es ++ fs) t

omit [Environment ω] in
/-- Once the link was given up there is none. -/
theorem Dropping.down {s t : Session ω} {es : List Event} (h : Dropping s es t) :
    t.connection = none := by
  cases h with
  | nothing down => exact down
  | closed _ _ hdid => exact hdid.connection

omit [Environment ω] in
/-- Giving up the link leaves the settings alone. -/
theorem Dropping.settings {s t : Session ω} {es : List Event} (h : Dropping s es t) :
    t.settings = s.settings := by
  cases h with
  | nothing => rfl
  | closed _ _ hdid => exact hdid.settings

omit [Environment ω] in
/-- Sending a packet leaves the settings alone, however it goes. -/
theorem Transmitting.settings {packet : Outbound} {s t : Session ω} {r : Except Fault Unit}
    {es : List Event} (h : Transmitting packet s r es t) : t.settings = s.settings := by
  cases h with
  | unpackable => rfl
  | notConnected => rfl
  | sent _ _ _ hdid => exact hdid.settings
  | failed _ _ _ _ hdid => exact hdid.settings

/-- **Sending a packet over the link goes in one of the ways of `Transmitting`.**  A
frame that was packed and does not go out whole costs the link. -/
theorem transmitting_of_transmit {packet : Outbound} {s t : Session ω} {r : Except Fault Unit}
    (h : Yields (transmit packet) s r t) : ∃ es, Transmitting packet s r es t := by
  rw [transmit, packed, yields_bind] at h
  rcases h with ⟨fault, hp, rfl⟩ | ⟨frame, u, hp, h⟩
  · obtain ⟨hpack, rfl⟩ := yields_ofExcept.1 hp
    exact ⟨_, .unpackable hpack.symm⟩
  · obtain ⟨hpack, rfl⟩ := yields_ofExcept.1 hp
    rw [yields_get_bind] at h
    cases hc : u.connection with
    | none =>
      rw [hc] at h
      obtain ⟨rfl, rfl⟩ := yields_throw.1 h
      exact ⟨_, .notConnected hc⟩
    | some connection =>
      rw [hc] at h
      obtain ⟨x, v, hsend, h⟩ := yields_attempt_bind.1 h
      obtain ⟨es, hes, hv⟩ := sending_of_sendFrame hsend
      have hbegun := begins_of_sendFrame hsend
      cases x with
      | ok a =>
        obtain ⟨rfl, rfl⟩ := yields_pure.1 h
        exact ⟨es, .sent hpack.symm hc hes hv hbegun⟩
      | error fault =>
        rcases yields_bind.1 h with ⟨_, hd, -⟩ | ⟨⟨⟩, w, hd, h⟩
        · exact absurd (dropping_of_dropLink hd).1 (by simp)
        · obtain ⟨rfl, rfl⟩ := yields_throw.1 h
          obtain ⟨fs, hdrop⟩ := (dropping_of_dropLink hd).2
          cases hdrop with
          | nothing hnone =>
            rw [hv.connection, hc] at hnone
            cases hnone
          | closed hsome hfs hw =>
            rw [hv.connection, hc] at hsome
            cases hsome
            have hsent := hv.update (f := fun s => { s with connection := none }) fun _ _ => rfl
            exact ⟨_, .failed hpack.symm hc hes hfs (hsent.trans hw) (hbegun.ran hw.ran)⟩

/-- The milliseconds left of a timeout that is counted from `started`. -/
def remaining (s : Session ω) (started timeout : UInt32) : UInt32 :=
  timeout - elapsed s.world.clock started

/-- How reading a number of bytes goes: chunk by chunk, until they are there, the time is
over, a read gives none or a read fails. -/
inductive Filling (connection : Nat) (started timeout : UInt32) :
    Nat → Session ω → Except Fault (List UInt8) → List Event → Session ω → Prop
  /-- All bytes are there. -/
  | done (s : Session ω) : Filling connection started timeout 0 s (.ok []) [] s
  /-- The time is over before the next read, which is not begun. -/
  | late {missing : Nat} {s : Session ω} : missing ≠ 0 →
      timeout ≤ elapsed s.world.clock started →
      Filling connection started timeout missing s (.error .timeout) [] s
  /-- A read fails. -/
  | failed {missing : Nat} {s t : Session ω} {fault : NetFault} : missing ≠ 0 →
      elapsed s.world.clock started < timeout →
      (Environment.read missing (s.remaining started timeout) s.world.environment).value =
        .error fault →
      s.Did [.read connection missing (s.remaining started timeout) (.error fault),
        .notice (.readFailed fault)] t → s.world.Begins t.world →
      Filling connection started timeout missing s (.error .readError)
        [.read connection missing (s.remaining started timeout) (.error fault),
          .notice (.readFailed fault)] t
  /-- A read gives no bytes: the time it was given has passed. -/
  | ended {missing : Nat} {s t : Session ω} {chunk : Chunk missing} : missing ≠ 0 →
      elapsed s.world.clock started < timeout →
      (Environment.read missing (s.remaining started timeout) s.world.environment).value =
        .ok chunk →
      chunk.val = [] →
      s.Did [.read connection missing (s.remaining started timeout) (.ok [])] t →
      s.world.Begins t.world →
      Filling connection started timeout missing s (.error .timeout)
        [.read connection missing (s.remaining started timeout) (.ok [])] t
  /-- A read gives some of the bytes, and those that are still missing are read next, in
  the world that the answer left. -/
  | more {missing : Nat} {s u t : Session ω} {chunk : Chunk missing}
      {r : Except Fault (List UInt8)} {es : List Event} : missing ≠ 0 →
      elapsed s.world.clock started < timeout →
      (Environment.read missing (s.remaining started timeout) s.world.environment).value =
        .ok chunk →
      chunk.val ≠ [] →
      s.Did [.read connection missing (s.remaining started timeout) (.ok chunk.val)] u →
      s.world.Begins u.world →
      u.world.environment =
        (Environment.read missing (s.remaining started timeout) s.world.environment).next →
      u.world.clock = s.world.clock +
        (Environment.read missing (s.remaining started timeout) s.world.environment).took →
      Filling connection started timeout (missing - chunk.val.length) u r es t →
      Filling connection started timeout missing s (r.map (chunk.val ++ ·))
        (.read connection missing (s.remaining started timeout) (.ok chunk.val) :: es) t

/-- **Reading an exact number of bytes goes in one of the ways of `Filling`**, for any
starting time and any timeout. -/
theorem filling_of_fill {connection missing : Nat} {started timeout : UInt32} {s t : Session ω}
    {r : Except Fault (List UInt8)} (h : Yields (fill connection started timeout missing) s r t) :
    ∃ es, Filling connection started timeout missing s r es t := by
  -- On what is missing, of which each read takes some.
  induction missing using Nat.strongRecOn generalizing s t r with
  | ind missing ih =>
    rw [fill] at h
    split at h
    case isTrue hzero =>
      obtain ⟨rfl, rfl⟩ := yields_pure.1 h
      subst hzero
      exact ⟨[], .done _⟩
    case isFalse hmissing =>
      simp only [now, bind_assoc, yields_get_bind, pure_bind] at h
      split at h
      case isTrue hlate =>
        obtain ⟨rfl, rfl⟩ := yields_throw_bind.1 h
        exact ⟨[], .late hmissing hlate⟩
      case isFalse hearly =>
        have hearly := UInt32.not_le.1 hearly
        rcases yields_bind.1 h with ⟨fault, hr, rfl⟩ | ⟨chunk, u, hr, h⟩
        · obtain ⟨hw, ht⟩ := did_onWorld hr
          rcases World.ran_orNotice hw with ⟨_, -, he⟩ | ⟨e, v, hread, hn, he⟩
          · cases he
          · cases he
            have hanswer := (World.answered_of_demand hread).1
            exact ⟨_, .failed hmissing hearly hanswer.symm
              ⟨(World.ran_read hread).trans hn, ht⟩ ((World.begins_of_demand hread).ran hn)⟩
        · obtain ⟨hw, hu⟩ := did_onWorld hr
          rcases World.ran_orNotice hw with ⟨_, hread, ⟨⟩⟩ | ⟨_, _, -, -, he⟩
          · have hgot : s.Did [_] u := ⟨World.ran_read hread, hu⟩
            have hbegun := World.begins_of_demand hread
            obtain ⟨hanswer, hnext, hclock⟩ := World.answered_of_demand hread
            obtain ⟨bytes, hsize⟩ := chunk
            cases bytes with
            | nil =>
              obtain ⟨rfl, rfl⟩ := yields_throw.1 h
              exact ⟨_, .ended hmissing hearly hanswer.symm rfl hgot hbegun⟩
            | cons b bytes =>
              have hless : missing - (bytes.length + 1) < missing := by omega
              rcases yields_bind.1 h with ⟨fault, hf, rfl⟩ | ⟨rest, v, hf, h⟩
              · obtain ⟨es, hes⟩ := ih _ hless hf
                exact ⟨_, .more hmissing hearly hanswer.symm (by simp) hgot hbegun hnext hclock hes⟩
              · obtain ⟨es, hes⟩ := ih _ hless hf
                obtain ⟨rfl, rfl⟩ := yields_pure.1 h
                exact ⟨_, .more hmissing hearly hanswer.symm (by simp) hgot hbegun hnext hclock hes⟩
          · cases he

/-- Filling reads from the one connection only, no more bytes than are missing, and gives
all that the reads gave. -/
theorem Filling.hearing {connection missing : Nat} {started timeout : UInt32} {s t : Session ω}
    {r : Except Fault (List UInt8)} {es : List Event}
    (h : Filling connection started timeout missing s r es t) :
    ∃ bytes, Hearing connection es bytes ∧ s.Did es t ∧ bytes.length ≤ missing ∧
      ∀ filled, r = .ok filled → filled = bytes ∧ bytes.length = missing := by
  induction h with
  | done => exact ⟨[], .nil, .refl _, Nat.le_refl _, fun _ hf => by cases hf; exact ⟨rfl, rfl⟩⟩
  | late => exact ⟨[], .nil, .refl _, Nat.zero_le _, fun _ hf => nomatch hf⟩
  | failed _ _ _ hdid _ => exact ⟨[], .failed _ .nil, hdid, Nat.zero_le _, fun _ hf => nomatch hf⟩
  | ended _ _ _ _ hdid _ => exact ⟨[], .read .nil, hdid, Nat.zero_le _, fun _ hf => nomatch hf⟩
  | @more missing _ _ _ chunk r _ _ _ _ _ hdid _ _ _ _ ih =>
    obtain ⟨bytes, hbytes, hrest, hfew, hall⟩ := ih
    have hchunk := chunk.property
    refine ⟨_, .read hbytes, hdid.trans hrest, ?_, fun filled hfilled => ?_⟩
    · rw [List.length_append]
      omega
    · cases r with
      | error => cases hfilled
      | ok rest =>
        cases hfilled
        obtain ⟨rfl, hlength⟩ := hall rest rfl
        refine ⟨rfl, ?_⟩
        rw [List.length_append]
        omega

/-- Filling fails because the time is over or a read fails. -/
theorem Filling.fault {connection missing : Nat} {started timeout : UInt32} {s t : Session ω}
    {fault : Fault} {es : List Event}
    (h : Filling connection started timeout missing s (.error fault) es t) :
    fault = .timeout ∨ fault = .readError := by
  generalize hr : (Except.error fault : Except Fault (List UInt8)) = r at h
  induction h with
  | done => cases hr
  | late => cases hr; exact .inl rfl
  | failed => cases hr; exact .inr rfl
  | ended => cases hr; exact .inl rfl
  | @more _ _ _ _ _ r _ _ _ _ _ _ _ _ _ _ ih =>
    cases r with
    | ok => cases hr
    | error => cases hr; exact ih rfl

/-- Filling a number of bytes reads from the one connection only, and gives all that
the reads gave. -/
theorem hearing_of_fill {connection missing : Nat} {started timeout : UInt32} {s t : Session ω}
    {r : Except Fault (List UInt8)} (h : Yields (fill connection started timeout missing) s r t) :
    ∃ es bytes, Hearing connection es bytes ∧ s.Did es t ∧
      ∀ filled, r = .ok filled → filled = bytes ∧ bytes.length = missing := by
  obtain ⟨es, hes⟩ := filling_of_fill h
  obtain ⟨bytes, hbytes, hdid, -, hall⟩ := hes.hearing
  exact ⟨es, bytes, hbytes, hdid, hall⟩

end Session
end Mqtt
