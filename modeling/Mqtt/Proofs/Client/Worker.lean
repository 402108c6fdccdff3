/-
# What a worker adds to the history

The ways in which one move of a worker can go (`Moving`): a pass up to the read
(`Passing`), the read (`Taking`), the next slice of a sleep (`Pausing`), a step of
a dispatch; and in which a worker whose client has stopped running ends
(`Finishing`).

Each move is a run of the session's steps (`Moving.path`), so what concerns the
session alone is never proved of a worker.  What is left for the ways to tell is the
worker itself: which bytes it holds, what it is to do with them, and where it stops.
A move cannot fail, and the theorems that take one apart say so; whatever goes wrong
in it is a way of its own, with a link that is dropped or an attempt that is put off.
-/
import Mqtt.Client.Worker
import Mqtt.Proofs.Client.Dispatch

namespace Mqtt
namespace Worker

open Mqtt.Action

variable {ω ε : Type}

/-- How the next slice of a sleep starts, if there is one. -/
inductive Pausing (running : Bool) (slice remaining : UInt32) (s : Session ω) :
    Phase → List Event → Session ω → Prop
  /-- Nothing is left to sleep, or the client has stopped and the rest is not slept. -/
  | ended : remaining = 0 ∨ running = false → Pausing running slice remaining s .ready [] s
  /-- A slice begins: what is left, but at most a poll, and at least a millisecond. -/
  | slice {ms : UInt32} {t : Session ω} : remaining ≠ 0 → running = true →
      ms = min remaining (max slice 1) → s.Did [.sleep ms] t →
      Pausing running slice remaining s (.sleeping ms (remaining - ms)) [.sleep ms] t

/-- How the part of a pass goes that follows once there is a link. -/
inductive Servicing (worker : Worker) (s : Session ω) : Worker → List Event → Session ω → Prop
  /-- The timers cost the session its link.  The next pass starts without one. -/
  | interrupted {fault : Fault} {es : List Event} {t : Session ω} :
      Session.KeepingAlive s.world.clock s (.error fault) es t →
      Servicing worker s { worker with phase := .ready } es t
  /-- The link is the one whose bytes the worker holds, so it goes on with them. -/
  | continued {es : List Event} {t : Session ω} :
      Session.KeepingAlive s.world.clock s (.ok ()) es t → t.link = worker.origin.link →
      Servicing worker s { worker with phase := .receiving } es t
  /-- Another link has replaced it.  The bytes held are forgotten, which is told if
  there are any, and its number is taken over. -/
  | adopted {es fs : List Event} {t u : Session ω} :
      Session.KeepingAlive s.world.clock s (.ok ()) es t → t.link ≠ worker.origin.link →
      fs = (if worker.held = [] then [] else [.notice (.discarded worker.held.length)]) →
      t.Did fs u →
      Servicing worker s
        { worker with held := [], origin.link := t.link, phase := .receiving } (es ++ fs) u

/-- How the part of a pass before the read goes. -/
inductive Passing (running : Bool) (worker : Worker) (s : Session ω) :
    Worker → List Event → Session ω → Prop
  /-- There is a link. -/
  | linked {next : Worker} {es : List Event} {t : Session ω} : s.connection.isSome = true →
      Servicing worker s next es t → Passing running worker s next es t
  /-- There was none, and the attempt to open one succeeded: the count of failures
  starts over. -/
  | reconnected {next : Worker} {es fs : List Event} {t u : Session ω} : s.connection = none →
      Session.Reconnecting s (.ok ()) es t →
      Servicing { worker with held := [], failures := 0 } t next fs u →
      Passing running worker s next (es ++ fs) u
  /-- There was none, and the attempt failed.  The count goes up, as far as it can, and
  the backoff says for how long to sleep. -/
  | postponed {fault : Fault} {phase : Phase} {delay : UInt32} {es fs : List Event}
      {t u v : Session ω} : s.connection = none → Session.Reconnecting s (.error fault) es t →
      delay = t.settings.backoff.delay worker.failures.toNat →
      t.Did [.notice (.reconnectFailed fault delay)] u →
      Pausing running t.settings.pollTimeout delay u phase fs v →
      Passing running worker s
        { worker with
          held := []
          failures := max worker.failures (worker.failures + 1)
          phase }
        (es ++ .notice (.reconnectFailed fault delay) :: fs) v

/-- How the read of a pass goes. -/
inductive Taking (worker : Worker) (s : Session ω) : Worker → List Event → Session ω → Prop
  /-- No bytes came in the time of a poll. -/
  | nothing {timeout : UInt32} {chunk : Chunk (capacity - worker.held.length)} {es : List Event}
      {t : Session ω} : chunk.val = [] →
      Session.Receiving (capacity - worker.held.length) timeout s (.ok chunk) es t →
      Taking worker s { worker with phase := .ready } es t
  /-- Bytes came; they are put behind those held, under the connection they came over,
  and a dispatch begins. -/
  | taken {timeout : UInt32} {chunk : Chunk (capacity - worker.held.length)} {es : List Event}
      {t : Session ω} : chunk.val ≠ [] →
      Session.Receiving (capacity - worker.held.length) timeout s (.ok chunk) es t →
      Taking worker s
        { worker with
          held := worker.held ++ chunk.val
          origin.connection := s.connection.getD worker.origin.connection
          phase := .ready
          errand := .cut } es t
  /-- The read failed, and the link is given up. -/
  | failed {timeout : UInt32} {fault : Fault} {es fs : List Event} {t u : Session ω} :
      Session.Receiving (capacity - worker.held.length) timeout s (.error fault) es t →
      Session.Dropping t fs u → Taking worker s { worker with phase := .ready } (es ++ fs) u

/-- How a move goes. -/
inductive Moving (running : Bool) (worker : Worker) (s : Session ω) :
    Worker → List Event → Session ω → Prop
  /-- A worker that waited to read reads. -/
  | received {next : Worker} {es : List Event} {t : Session ω} : worker.phase = .receiving →
      Taking worker s next es t → Moving running worker s next es t
  /-- A worker that slept looks whether there is another slice. -/
  | woke {rest later : UInt32} {phase : Phase} {es : List Event} {t : Session ω} :
      worker.phase = .sleeping rest later →
      Pausing running s.settings.pollTimeout later s phase es t →
      Moving running worker s { worker with phase } es t
  /-- A worker with nothing to dispatch makes a pass, up to its read. -/
  | passed {next : Worker} {es : List Event} {t : Session ω} :
      worker.phase = .ready ∨ worker.phase = .handling → worker.errand = .pass →
      Passing running worker s next es t → Moving running worker s next es t
  /-- A worker in the middle of a dispatch takes the next step of it. -/
  | dispatched {next : Worker} {es : List Event} {t : Session ω} :
      worker.phase = .ready ∨ worker.phase = .handling → worker.errand ≠ .pass →
      Dispatching running worker s next es t → Moving running worker s next es t

/-- How a worker ends once its client has stopped running. -/
inductive Finishing : Worker → Session ω → List Event → Session ω → Prop
  /-- Nothing is left to dispatch. -/
  | done {worker : Worker} {s : Session ω} : worker.errand = .pass → Finishing worker s [] s
  /-- A step of the dispatch is taken, and then the worker goes on to its end. -/
  | step {worker next : Worker} {es fs : List Event} {s t u : Session ω} : worker.errand ≠ .pass →
      Dispatching false worker s next es t → Finishing next t fs u →
      Finishing worker s (es ++ fs) u

variable [Environment ω]

omit [Environment ω] in
/-- Starting a slice of sleep goes in one of the ways of `Pausing`, and cannot fail. -/
theorem pausing_of_pause {running : Bool} {slice remaining : UInt32} {s t : Session ω}
    {r : Except ε Phase} (h : Yields (pause running slice remaining) s r t) :
    ∃ phase es, r = .ok phase ∧ Pausing running slice remaining s phase es t := by
  rw [pause] at h
  split at h
  case isTrue hover =>
    obtain ⟨rfl, rfl⟩ := yields_pure.1 h
    exact ⟨_, _, rfl, .ended (by simpa using hover)⟩
  case isFalse hmore =>
    have hmore : remaining ≠ 0 ∧ running = true := by simpa using hmore
    rcases yields_bind.1 h with ⟨_, hr, -⟩ | ⟨⟨⟩, u, hr, hend⟩
    · exact absurd (Session.did_record rfl hr).1 (by simp)
    · obtain ⟨rfl, rfl⟩ := yields_pure.1 hend
      exact ⟨_, _, rfl, .slice hmore.1 hmore.2 rfl (Session.did_record rfl hr).2⟩

/-- The part of a pass after there is a link goes in one of the ways of `Servicing`, and
cannot fail: what fails ends the pass. -/
theorem servicing_of_service {worker : Worker} {s t : Session ω} {r : Except ε Worker}
    (h : Yields (service worker) s r t) :
    ∃ next es, r = .ok next ∧ Servicing worker s next es t := by
  simp only [service, Session.now, bind_assoc, pure_bind, yields_get_bind] at h
  obtain ⟨x, u, hk, hrest⟩ := yields_attempt_bind.1 h
  obtain ⟨es, hes⟩ := Session.keepingAlive_of_serviceKeepAlive hk
  cases x with
  | error fault =>
    obtain ⟨rfl, rfl⟩ := yields_pure.1 hrest
    exact ⟨_, _, rfl, .interrupted hes⟩
  | ok a =>
    simp only [adoptLink, bind_assoc, yields_get_bind] at hrest
    split at hrest
    case isTrue hsame =>
      simp only [pure_bind, yields_pure] at hrest
      obtain ⟨rfl, rfl⟩ := hrest
      exact ⟨_, _, rfl, .continued hes hsame⟩
    case isFalse hother =>
      split at hrest
      case isTrue hheld =>
        rw [bind_assoc] at hrest
        obtain ⟨v, hn, hend⟩ := Session.yields_notice_bind hrest
        simp only [pure_bind, yields_pure] at hend
        obtain ⟨rfl, rfl⟩ := hend
        exact ⟨_, _, rfl, .adopted hes hother (if_neg hheld).symm hn⟩
      case isFalse hempty =>
        simp only [pure_bind, yields_pure] at hrest
        obtain ⟨rfl, rfl⟩ := hrest
        exact ⟨_, _, rfl, .adopted hes hother (if_pos (Decidable.not_not.1 hempty)).symm (.refl _)⟩

/-- **A pass up to its read goes in one of the ways of `Passing`**, and cannot fail. -/
theorem passing_of_pass {running : Bool} {worker : Worker} {s t : Session ω} {r : Except ε Worker}
    (h : Yields (pass running worker) s r t) :
    ∃ next es, r = .ok next ∧ Passing running worker s next es t := by
  rw [pass, yields_get_bind] at h
  split at h
  case isTrue hup =>
    obtain ⟨next, es, rfl, hes⟩ := servicing_of_service h
    exact ⟨_, _, rfl, .linked hup hes⟩
  case isFalse hdown =>
    have hdown : s.connection = none := by simpa [Session.isConnected] using hdown
    obtain ⟨x, u, hr, hrest⟩ := yields_attempt_bind.1 h
    obtain ⟨es, hes⟩ := Session.reconnecting_of_reconnect hr
    cases x with
    | ok a =>
      obtain ⟨next, fs, rfl, hfs⟩ := servicing_of_service hrest
      exact ⟨_, _, rfl, .reconnected hdown hes hfs⟩
    | error fault =>
      simp only [yields_get_bind] at hrest
      obtain ⟨v, hn, hrest⟩ := Session.yields_notice_bind hrest
      rcases yields_bind.1 hrest with ⟨_, hp, -⟩ | ⟨phase, w, hp, hend⟩
      · obtain ⟨_, _, he, -⟩ := pausing_of_pause hp
        cases he
      · obtain ⟨_, fs, he, hfs⟩ := pausing_of_pause hp
        cases he
        obtain ⟨rfl, rfl⟩ := yields_pure.1 hend
        exact ⟨_, _, rfl, .postponed hdown hes rfl hn hfs⟩

/-- The read of a pass goes in one of the ways of `Taking`, and cannot fail: a read that
does is answered by giving up the link. -/
theorem taking_of_receive {worker : Worker} {s t : Session ω} {r : Except ε Worker}
    (h : Yields (receive worker) s r t) :
    ∃ next es, r = .ok next ∧ Taking worker s next es t := by
  rw [receive, yields_get_bind] at h
  obtain ⟨x, u, hr, hrest⟩ := yields_attempt_bind.1 h
  obtain ⟨es, hes⟩ := Session.receiving_of_receive hr
  split at hrest
  case h_1 fault =>
    rcases yields_bind.1 hrest with ⟨_, hd, -⟩ | ⟨⟨⟩, v, hd, hend⟩
    · exact absurd (Session.dropping_of_dropLink hd).1 (by simp)
    · obtain ⟨rfl, rfl⟩ := yields_pure.1 hend
      obtain ⟨-, fs, hfs⟩ := Session.dropping_of_dropLink hd
      exact ⟨_, _, rfl, .failed hes hfs⟩
  case h_2 =>
    obtain ⟨rfl, rfl⟩ := yields_pure.1 hrest
    exact ⟨_, _, rfl, .nothing rfl hes⟩
  case h_3 bytes hsize hsome =>
    obtain ⟨rfl, rfl⟩ := yields_pure.1 hrest
    exact ⟨_, _, rfl, .taken hsome hes⟩

/-- **A move of a worker goes in one of the ways of `Moving`**, and cannot fail.  The
phase says which, and where it says that the worker waits for nothing, whether there is
something to dispatch. -/
theorem moving_of_move {running : Bool} {worker : Worker} {s t : Session ω} {r : Except ε Worker}
    (h : Yields (worker.move running) s r t) :
    ∃ next es, r = .ok next ∧ Moving running worker s next es t := by
  -- A worker that waits for nothing goes on with its dispatch, or begins a pass.
  have waited : worker.phase = .ready ∨ worker.phase = .handling →
      Yields (if h : worker.errand = .pass then worker.pass running
        else return (← worker.dispatch running h).val) s r t →
        ∃ next es, r = .ok next ∧ Moving running worker s next es t := by
    intro hphase h
    split at h
    case isTrue hpass =>
      obtain ⟨next, es, rfl, hes⟩ := passing_of_pass h
      exact ⟨_, _, rfl, .passed hphase hpass hes⟩
    case isFalse hmore =>
      rcases yields_bind.1 h with ⟨_, hd, -⟩ | ⟨next, u, hd, hend⟩
      · obtain ⟨_, _, he, -⟩ := dispatching_of_dispatch hd
        cases he
      · obtain ⟨_, es, he, hes⟩ := dispatching_of_dispatch hd
        cases he
        obtain ⟨rfl, rfl⟩ := yields_pure.1 hend
        exact ⟨_, _, rfl, .dispatched hphase hmore hes⟩
  unfold move at h
  split at h
  case h_1 hphase =>
    obtain ⟨next, es, rfl, hes⟩ := taking_of_receive h
    exact ⟨_, _, rfl, .received hphase hes⟩
  case h_2 rest later hphase =>
    rw [yields_get_bind] at h
    rcases yields_bind.1 h with ⟨_, hp, -⟩ | ⟨phase, u, hp, hend⟩
    · obtain ⟨_, _, he, -⟩ := pausing_of_pause hp
      cases he
    · obtain ⟨_, es, he, hes⟩ := pausing_of_pause hp
      cases he
      obtain ⟨rfl, rfl⟩ := yields_pure.1 hend
      exact ⟨_, _, rfl, .woke hphase hes⟩
  case h_3 hphase => exact waited (.inl hphase) h
  case h_4 hphase => exact waited (.inr hphase) h

/-- What a worker does before it ends goes in one of the ways of `Finishing`, step by
step, and comes to an end. -/
theorem finishing_of_finish {worker : Worker} {s t : Session ω} {r : Except ε Unit}
    (h : Yields (finish worker) s r t) : r = .ok () ∧ ∃ es, Finishing worker s es t := by
  induction hwork : worker.work using Nat.strongRecOn generalizing worker s r t with
  | ind work ih =>
    rw [finish] at h
    split at h
    case isTrue hpass =>
      obtain ⟨rfl, rfl⟩ := yields_pure.1 h
      exact ⟨rfl, _, .done hpass⟩
    case isFalse hmore =>
      rcases yields_bind.1 h with ⟨_, hd, -⟩ | ⟨next, u, hd, hend⟩
      · obtain ⟨_, _, he, -⟩ := dispatching_of_dispatch hd
        cases he
      · obtain ⟨_, es, he, hes⟩ := dispatching_of_dispatch hd
        cases he
        obtain ⟨rfl, fs, hfs⟩ := ih _ (hwork ▸ next.property) hend rfl
        exact ⟨rfl, _, .step hmore hes hfs⟩

/-! ### The moves of a worker as steps of the session -/

omit [Environment ω]

/-- Starting a slice of sleep is a step of a pass at most. -/
theorem Pausing.path {running : Bool} {slice remaining : UInt32} {phase : Phase} {s t : Session ω}
    {es : List Event} (h : Pausing running slice remaining s phase es t) :
    Session.Path (Session.Doing.isPass ·) s es t := by
  cases h with
  | ended => exact .refl _
  | slice _ _ _ hdid => exact .single rfl (.told rfl hdid)

/-- Starting a slice of sleep acts on nothing that the broker sent. -/
theorem Pausing.outside {running : Bool} {slice remaining : UInt32} {phase : Phase} {s t : Session ω}
    {es : List Event} (h : Pausing running slice remaining s phase es t) :
    Session.Path (Session.Doing.isOutside ·) s es t :=
  h.path.mono fun _ => Session.Doing.isOutside_of_isPass

/-- The part of a pass after there is a link takes only steps that a call of a running
client may take. -/
theorem Servicing.path {worker next : Worker} {s t : Session ω} {es : List Event}
    (h : Servicing worker s next es t) : Session.Path (Session.Doing.isCall true ·) s es t := by
  cases h with
  | interrupted hkeep => exact hkeep.path
  | continued hkeep => exact hkeep.path
  | adopted hkeep _ hfs hdid =>
    rw [hfs] at hdid ⊢
    exact hkeep.path.trans (hdid.told_unless _ rfl rfl)

/-- A pass up to its read takes only the steps of one, which are those of a call and
sleeping. -/
theorem Passing.path {running : Bool} {worker next : Worker} {s t : Session ω} {es : List Event}
    (h : Passing running worker s next es t) : Session.Path (Session.Doing.isPass ·) s es t := by
  have called : ∀ {es : List Event} {t : Session ω},
      Session.Path (Session.Doing.isCall true ·) s es t →
        Session.Path (Session.Doing.isPass ·) s es t := fun hpath =>
    hpath.mono fun _ => Session.Doing.isPass_of_isCall
  cases h with
  | linked _ hservice => exact called hservice.path
  | reconnected _ hreconnect hservice => exact called (hreconnect.path.trans hservice.path)
  | postponed _ hreconnect _ hdid hpause =>
    have htold := called (hreconnect.path.trans (hdid.told rfl rfl))
    rw [← List.singleton_append, ← List.append_assoc]
    exact htold.trans hpause.path

/-- A pass up to its read acts on nothing that the broker sent. -/
theorem Passing.outside {running : Bool} {worker next : Worker} {s t : Session ω}
    {es : List Event} (h : Passing running worker s next es t) :
    Session.Path (Session.Doing.isOutside ·) s es t :=
  h.path.mono fun _ => Session.Doing.isOutside_of_isPass

/-- The read of a pass takes only steps of a worker. -/
theorem Taking.path {running : Bool} {worker next : Worker} {s t : Session ω} {es : List Event}
    (h : Taking worker s next es t) : Session.Path (Session.Doing.isWork running ·) s es t := by
  cases h with
  | nothing _ hread => exact hread.path
  | taken _ hread => exact hread.path
  | failed hread hdrop => exact hread.path.trans (path_of_isCall hdrop.path)

/-- **A move of a worker is a run of the session's steps.**  What every step of a
session keeps is kept by the worker, whatever it is in the middle of. -/
theorem Moving.path {worker next : Worker} {s t : Session ω} {es : List Event}
    (h : Moving true worker s next es t) : Session.Path (Session.Doing.isWork true ·) s es t := by
  cases h with
  | received _ htaking => exact htaking.path
  | woke _ hpause => exact hpause.path.mono fun _ => Session.Doing.isWork_of_isPass
  | passed _ _ hpassing => exact hpassing.path.mono fun _ => Session.Doing.isWork_of_isPass
  | dispatched _ _ hdispatch => exact hdispatch.path

/-- What a worker still does after its client has stopped running opens no link. -/
theorem Finishing.path {worker : Worker} {s t : Session ω} {es : List Event}
    (h : Finishing worker s es t) : Session.Path (Session.Doing.isWork false ·) s es t := by
  induction h with
  | done => exact .refl _
  | step _ hdispatch _ ih => exact hdispatch.path.trans ih

end Worker
end Mqtt
