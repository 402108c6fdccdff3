/-
# How long a worker waits before it tries again

A worker counts those of its attempts to reconnect that failed in a row, and the count
gives the delay after the next failure.  Its own attempts are all it knows of: an attempt
of its own that succeeds sets the count back to 0, a call that brings the link up leaves
it as it is.  So the delay follows the worker's own failures in a row
(`backoff_run`), of which there can be more than since the link was last up
(`backoff_ignores_calls`).
-/
import Mqtt.Script
import Mqtt.Proofs.Client.Lifecycle
import Mqtt.Proofs.Session.Link
import Mqtt.Proofs.Session.Run

namespace Mqtt

open Mqtt.Action

/-- Results can be compared if their values and their failures can, so what an attempt
comes to in a run on fixed answers can be computed. -/
instance decidableEqExcept {ε α : Type} [DecidableEq ε] [DecidableEq α] :
    DecidableEq (Except ε α)
  | .ok _, .ok _ => decidable_of_iff _ (Except.ok.injEq ..).to_iff.symm
  | .error _, .error _ => decidable_of_iff _ (Except.error.injEq ..).to_iff.symm
  | .ok _, .error _ => isFalse nofun
  | .error _, .ok _ => isFalse nofun

/-- The subscriptions of a link just opened could not be restored, so it was given up. -/
def Event.isAbandoning : Event → Bool
  | .notice (.resubscribeFailed _) => true
  | _ => false

/-- More links were opened than had to be given up at once. -/
def restores (es : List Event) : Bool :=
  es.countP (·.isAbandoning) < handshakes es

namespace Worker

variable {ω : Type}

/-- The first slice of a sleep. -/
def firstSlice (settings : Settings) (delay : UInt32) : UInt32 :=
  min delay (max settings.pollTimeout 1)

/-- Where a worker is that has begun to sleep for a delay. -/
def asleep (settings : Settings) (delay : UInt32) : Phase :=
  if delay = 0 then .ready
  else .sleeping (firstSlice settings delay) (delay - firstSlice settings delay)

/-- What a worker that puts off its next attempt tells. -/
def putOff (settings : Settings) (fault : Fault) (delay : UInt32) : List Event :=
  .notice (.reconnectFailed fault delay) ::
    if delay = 0 then [] else [.sleep (firstSlice settings delay)]

/-- The worker has put off its next attempt. -/
structure Postponing (worker : Worker) (s : Session ω) (fault : Fault) (next : Worker)
    (t : Session ω) : Prop where
  /-- One failure more is counted, as far as 32 bits count. -/
  failures : next.failures = max worker.failures (worker.failures + 1)
  /-- The worker sleeps as long as the failures before this one call for. -/
  phase : next.phase = asleep s.settings (s.settings.backoff.delay worker.failures.toNat)
  /-- The last it does is to tell of the fault and the delay, and to begin to sleep. -/
  told : ∃ es, t.world.events = s.world.events ++ es ++
    putOff s.settings fault (s.settings.backoff.delay worker.failures.toNat)

/-- Servicing the keep-alive leaves the count of failures alone. -/
theorem Servicing.failures {worker next : Worker} {s t : Session ω} {es : List Event}
    (h : Servicing worker s next es t) : next.failures = worker.failures := by
  cases h <;> rfl

/-- A read leaves the count of failures alone, also where it fails: only attempts to
reconnect are counted. -/
theorem Taking.failures {worker next : Worker} {s t : Session ω} {es : List Event}
    (h : Taking worker s next es t) : next.failures = worker.failures := by
  cases h <;> rfl

/-- A step of a dispatch leaves the count of failures alone. -/
theorem Dispatching.failures {running : Bool} {worker next : Worker} {s t : Session ω}
    {es : List Event} (h : Dispatching running worker s next es t) :
    next.failures = worker.failures := by
  cases h with
  | cut _ hcut => cases hcut <;> rfl
  | delivered => rfl
  | gaveUp => rfl
  | stale => rfl

/-- The count of failures stops at the largest number. -/
theorem toNat_max_add_one {failures : UInt32} {n : Nat}
    (h : failures.toNat = min n (UInt32.size - 1)) :
    (max failures (failures + 1)).toNat = min (n + 1) (UInt32.size - 1) := by
  have hsize : UInt32.size = 2 ^ 32 := rfl
  have hsucc : (failures + 1).toNat = (failures.toNat + 1) % 2 ^ 32 := UInt32.toNat_add ..
  have hmax : max failures (failures + 1) =
      if failures ≤ failures + 1 then failures + 1 else failures := rfl
  rw [hmax]
  split
  case isTrue hle =>
    have hless := UInt32.le_iff_toNat_le.1 hle
    omega
  case isFalse hwrapped =>
    have hmore := mt UInt32.le_iff_toNat_le.2 hwrapped
    omega

/-- A pause begins with a slice, unless there is nothing to wait for. -/
theorem Pausing.asleep {settings : Settings} {delay : UInt32} {phase : Phase} {s t : Session ω}
    {es : List Event} (h : Pausing true settings.pollTimeout delay s phase es t) :
    phase = Worker.asleep settings delay ∧
      es = if delay = 0 then [] else [.sleep (firstSlice settings delay)] := by
  cases h with
  | ended hnone =>
    have hzero : delay = 0 := hnone.resolve_right (by simp)
    exact ⟨(if_pos hzero).symm, (if_pos hzero).symm⟩
  | slice hmore _ hslice =>
    subst hslice
    exact ⟨(if_neg hmore).symm, (if_neg hmore).symm⟩

/-- What becomes of the count of failures in a move, by how the worker's attempt to
reconnect went, if it made one. -/
inductive Attempting (worker : Worker) (s : Session ω) (next : Worker) (t : Session ω) :
    Option (Except Fault Unit) → Prop
  /-- It made no attempt, so the count stays. -/
  | nothing : next.failures = worker.failures → Attempting worker s next t none
  /-- Its attempt brought up a link, and the count begins anew. -/
  | restored : next.failures = 0 → Attempting worker s next t (some (.ok ()))
  /-- Its attempt failed, and the next is put off. -/
  | postponed {fault : Fault} : worker.Postponing s fault next t →
      Attempting worker s next t (some (.error fault))

variable [Environment ω]

/-- How the attempt to reconnect goes that the worker makes in its next move, if it
makes one. -/
def attempt? (worker : Worker) (s : Session ω) : Option (Except Fault Unit) :=
  if (worker.phase = .ready ∨ worker.phase = .handling) ∧ worker.errand = .pass ∧
      s.isConnected = false then some (s.outcome .reconnect)
  else none

/-- A pass without a link is an attempt to reconnect. -/
theorem attempting_of_pass {worker next : Worker} {s t : Session ω} (down : s.isConnected = false)
    (h : Yields (worker.pass true : Action Empty (Session ω) Worker) s (.ok next) t) :
    worker.Attempting s next t (some (s.outcome .reconnect)) := by
  rw [pass, yields_get_bind, down] at h
  obtain ⟨x, u, hr, hrest⟩ := yields_attempt_bind.1 h
  have hact : Yields (Session.act .reconnect) s x u := hr
  rw [Session.outcome_of_yields hact]
  cases x with
  | ok a =>
    obtain ⟨_, fs, ⟨⟩, hfs⟩ := servicing_of_service hrest
    exact .restored hfs.failures
  | error fault =>
    obtain ⟨es, hes⟩ := Session.reconnecting_of_reconnect hr
    have hsettings : u.settings = s.settings := hes.path.settings
    simp only [yields_get_bind, hsettings] at hrest
    obtain ⟨v, hn, hrest⟩ := Session.yields_notice_bind hrest
    rcases yields_bind.1 hrest with ⟨e, -⟩ | ⟨phase, w, hp, hend⟩
    · cases e
    · obtain ⟨_, fs, ⟨⟩, hpause⟩ := pausing_of_pause hp
      obtain ⟨hnext, rfl⟩ := yields_pure.1 hend
      cases hnext
      obtain ⟨hphase, hfs⟩ := hpause.asleep
      refine .postponed ⟨rfl, hphase, es, ?_⟩
      rw [hpause.outside.ran.events, hn.ran.events, hes.path.ran.events, hfs]
      simp [putOff]

/-- Without an attempt to reconnect, the count of failures stays. -/
theorem Moving.failures {worker next : Worker} {s t : Session ω} {es : List Event}
    (h : Moving true worker s next es t) (idle : worker.attempt? s = none) :
    next.failures = worker.failures := by
  have attempted : worker.phase = .ready ∨ worker.phase = .handling → worker.errand = .pass →
      s.connection = none → next.failures = worker.failures := by
    intro hphase hpass hdown
    rw [attempt?, if_pos ⟨hphase, hpass, by rw [Session.isConnected, hdown]; rfl⟩] at idle
    cases idle
  cases h with
  | received _ htaking => exact htaking.failures
  | woke => rfl
  | passed hphase hpass hpassing =>
    cases hpassing with
    | linked _ hservice => exact hservice.failures
    | reconnected hdown => exact attempted hphase hpass hdown
    | postponed hdown => exact attempted hphase hpass hdown
  | dispatched _ _ hdispatch => exact hdispatch.failures

/-- **A worker counts its own failures in a row.**  The count is touched where an
attempt ends and nowhere else: a success sets it to 0, a failure adds one and stops at
the last number. -/
theorem attempting_of_move {worker next : Worker} {s t : Session ω}
    (h : Yields (worker.move true : Action Empty (Session ω) Worker) s (.ok next) t) :
    worker.Attempting s next t (worker.attempt? s) := by
  cases hattempt : worker.attempt? s with
  | none =>
    obtain ⟨_, es, ⟨⟩, hes⟩ := moving_of_move h
    exact .nothing (hes.failures hattempt)
  | some x =>
    obtain ⟨⟨hphase, hpass, hdown⟩, ⟨⟩⟩ := Option.ite_none_right_eq_some.1 hattempt
    have hpassing : Yields (worker.pass true : Action Empty (Session ω) Worker) s (.ok next) t := by
      rcases hphase with hphase | hphase <;> simpa only [move, hphase, hpass, dif_pos] using h
    exact attempting_of_pass hdown hpassing

end Worker

namespace Client

variable {ω : Type} [Environment ω]

/-- How the attempt to reconnect goes that the worker makes in a move, if it makes one. -/
def attempt? (client : Client ω) : Move ω → Option (Except Fault Unit)
  | .proceed =>
    if client.running = true then client.worker.bind (·.attempt? client.session) else none
  | _ => none

/-- A worker starts in the move. -/
def starts (client : Client ω) (move : Move ω) : Bool :=
  client.worker.isNone && (client.step move).worker.isSome

/-- A call of the program or of the message handler brings the link up in the move, and
keeps it up until the subscriptions are restored. -/
def relinks (client : Client ω) (move : Move ω) : Bool :=
  (client.attempt? move).isNone && restores (client.added [move])

/-- A number of failures in a row, one move later: an attempt that fails adds one, an
attempt that succeeds ends the row, and so does anything else that is said to. -/
def rowAfter (ends : Bool) (attempt : Option (Except Fault Unit)) (n : Nat) : Nat :=
  match attempt with
  | some (.error _) => n + 1
  | some (.ok ()) => 0
  | none => if ends = true then 0 else n

/-- The failed attempts of the worker in a row at the end of some moves, before which
there were `n`. -/
def inRow (ends : Client ω → Move ω → Bool) : Client ω → List (Move ω) → (n : Nat) → Nat
  | _, [], n => n
  | client, move :: moves, n =>
    inRow ends (client.step move) moves (rowAfter (ends client move) (client.attempt? move) n)

/-- The failed attempts since the worker's own last success, or its start. -/
def ownFailures (client : Client ω) (moves : List (Move ω)) : Nat :=
  client.inRow starts moves 0

/-- The failed attempts since the link was last brought up, by whomever. -/
def failuresSinceLink (client : Client ω) (moves : List (Move ω)) : Nat :=
  client.inRow (fun client move => client.starts move || client.relinks move) moves 0

/-- Calls bring the link up only while the worker has no failures to count. -/
def Undisturbed (client : Client ω) (moves : List (Move ω)) : Prop :=
  ∀ before move after, moves = before ++ move :: after →
    (client.run before).relinks move = true → client.ownFailures before = 0

omit [Environment ω] in
/-- A row that more can end is no longer than one that less can end. -/
theorem rowAfter_le {n m : Nat} (ends more : Bool) (attempt : Option (Except Fault Unit))
    (h : n ≤ m) : rowAfter (ends || more) attempt n ≤ rowAfter ends attempt m := by
  match attempt with
  | some (.error _) => exact Nat.add_le_add_right h 1
  | some (.ok ()) => exact Nat.le_refl 0
  | none => cases ends <;> cases more <;> simp [rowAfter, h]

/-- The failures in a row since the link was brought up by anyone are at most those since
the worker brought it up itself. -/
theorem inRow_le (client : Client ω) (moves : List (Move ω)) {n m : Nat} (h : n ≤ m) :
    client.inRow (fun client move => client.starts move || client.relinks move) moves n ≤
      client.inRow starts moves m := by
  induction moves generalizing client n m with
  | nil => exact h
  | cons move moves ih => exact ih (client.step move) (rowAfter_le _ _ _ h)

/-- **The two counts are the same as long as calls bring the link up only while the worker
has no failures to count.** -/
theorem inRow_eq {client : Client ω} {moves : List (Move ω)} {n : Nat}
    (undisturbed : ∀ before move after, moves = before ++ move :: after →
      (client.run before).relinks move = true → client.inRow starts before n = 0) :
    client.inRow (fun client move => client.starts move || client.relinks move) moves n =
      client.inRow starts moves n := by
  induction moves generalizing client n with
  | nil => rfl
  | cons move moves ih =>
    have hsame : rowAfter (client.starts move || client.relinks move) (client.attempt? move) n =
        rowAfter (client.starts move) (client.attempt? move) n := by
      cases hrelinks : client.relinks move with
      | true =>
        obtain rfl : n = 0 := undisturbed [] move moves rfl hrelinks
        simp [rowAfter]
      | false => rw [Bool.or_false]
    rw [inRow, inRow, hsame]
    exact ih fun before other after h hrelinks =>
      undisturbed (move :: before) other after (congrArg (move :: ·) h) hrelinks

omit [Environment ω] in
/-- A move that is not the worker's own leaves its count, or starts a new worker. -/
theorem Stepping.failures {client next : Client ω} {move : Move ω} {es : List Event}
    {worker : Worker} (serviced : client.Serviced) (h : Stepping client move es next)
    (other : move ≠ .proceed) (hworker : next.worker = some worker) :
    (client.worker = none ∧ worker.failures = 0) ∨
      ∃ before, client.worker = some before ∧ worker.failures = before.failures := by
  have hinterrupted : ∀ w : Worker, w.interrupted.failures = w.failures := by
    intro w
    rw [Worker.interrupted]
    split <;> rfl
  have hrested : ∀ (ms : UInt32) (w : Worker), (w.rested ms).failures = w.failures := by
    intro ms w
    rw [Worker.rested]
    split <;> rfl
  rcases h.worker_map hinterrupted hrested serviced other with ⟨hnone, hnew⟩ | ⟨-, hgone⟩ | hsame
  · obtain rfl := Option.some.inj (hnew.symm.trans hworker)
    exact .inl ⟨hnone, rfl⟩
  · exact nomatch hgone.symm.trans hworker
  · rw [hworker] at hsame
    obtain ⟨before, hbefore, hfailures⟩ := Option.map_eq_some_iff.1 hsame.symm
    exact .inr ⟨before, hbefore, hfailures.symm⟩

/-- While the client runs, its worker's move is an attempt exactly if `attempt?` says so. -/
theorem attempting_step {client : Client ω} {worker : Worker}
    (hworker : client.worker = some worker) (running : client.running = true) :
    ∃ moved t, client.step .proceed = { client with session := t, worker := some moved } ∧
      worker.Attempting client.session moved t (client.attempt? .proceed) := by
  obtain ⟨moved, t, hmove, hnext⟩ := moved_of_proceed hworker running (yields_step client .proceed)
  have hattempt : client.attempt? .proceed = worker.attempt? client.session := by
    simp [attempt?, running, hworker]
  rw [hattempt]
  exact ⟨moved, t, hnext, Worker.attempting_of_move hmove⟩

/-- What a client's worker has counted. -/
structure Counts (settings : Settings) (client : Client ω) (n : Nat) : Prop where
  serviced : client.Serviced
  settings : client.session.settings = settings
  /-- The worker counts its failures in a row exactly, up to the greatest number of 32
  bits. -/
  failures : ∀ worker, client.worker = some worker →
    worker.failures.toNat = min n (UInt32.size - 1)

/-- **Every move keeps the worker's count what its own failures in a row are.**  A new
worker begins with none, and whatever is not the worker's own move leaves the count to
it. -/
theorem Counts.step {settings : Settings} {client : Client ω} {n : Nat} (move : Move ω)
    (h : client.Counts settings n) :
    (client.step move).Counts settings
      (rowAfter (client.starts move) (client.attempt? move) n) := by
  obtain ⟨es, hes⟩ := stepping_step client move
  refine ⟨hes.serviced h.serviced, hes.path.settings.trans h.settings, fun worker hworker => ?_⟩
  -- Only the worker's own moves attempt anything; the others may put a new worker in place.
  by_cases hmove : move = .proceed
  · subst hmove
    cases hbefore : client.worker with
    | none =>
      generalize client.step .proceed = next at hes hworker
      cases hes with
      | moved hsome => exact nomatch hbefore.symm.trans hsome
      | ended => cases hworker
      | idle => exact nomatch hbefore.symm.trans hworker
    | some before =>
      obtain ⟨moved, t, hnext, hattempt⟩ :=
        attempting_step hbefore (h.serviced.running_of_worker hbefore)
      rw [hnext] at hworker
      obtain rfl : moved = worker := Option.some.inj hworker
      have hcount := h.failures before hbefore
      have hgoing : client.starts .proceed = false := by simp [starts, hbefore]
      rw [hgoing]
      generalize client.attempt? .proceed = attempt at hattempt
      cases hattempt with
      | nothing hsame => exact (congrArg UInt32.toNat hsame).trans hcount
      | restored hzero => exact congrArg UInt32.toNat hzero
      | postponed hpost =>
        rw [hpost.failures]
        exact Worker.toNat_max_add_one hcount
  · have hnone : client.attempt? move = none := by
      cases move <;> first | rfl | exact absurd rfl hmove
    rw [hnone, rowAfter]
    rcases hes.failures h.serviced hmove hworker with ⟨hbefore, hzero⟩ | ⟨before, hbefore, hsame⟩
    · have hstarts : client.starts move = true := by simp [starts, hbefore, hworker]
      rw [if_pos hstarts, hzero]
      rfl
    · have hgoing : client.starts move = false := by simp [starts, hbefore]
      rw [hgoing, hsame]
      exact h.failures before hbefore

/-- Along a run the worker's count is what its own failures in a row are, up to the
largest number there is. -/
theorem Counts.run {settings : Settings} {client : Client ω} {n : Nat} (moves : List (Move ω))
    (h : client.Counts settings n) :
    (client.run moves).Counts settings (client.inRow starts moves n) := by
  induction moves generalizing client n with
  | nil => exact h
  | cons move moves ih => exact ih (h.step move)

/-- **The delay follows the worker's own failures in a row.**  After any run, whatever
the environment answers, when the worker's attempt to reconnect fails: it tells the delay
that the backoff gives for the attempts that failed in a row before, counted from its own
last success, and begins to sleep for it.  These are at least as many as failed since
anyone brought the link up, and no more as long as calls bring it up only while the worker
has no failures to count. -/
theorem backoff_run (connector : Connector) (settings : Settings) (environment : ω)
    (clock : UInt32) (moves : List (Move ω)) {fault : Fault}
    (failed : ((start connector settings environment clock).run moves).attempt? .proceed =
      some (.error fault)) :
    let fresh := start connector settings environment clock
    let next := (fresh.run moves).step .proceed
    let delay := settings.backoff.delay (min (fresh.ownFailures moves) (UInt32.size - 1))
    (∃ es, next.events =
        (fresh.run moves).events ++ es ++ Worker.putOff settings fault delay) ∧
      next.phase? = some (Worker.asleep settings delay) ∧
        fresh.failuresSinceLink moves ≤ fresh.ownFailures moves ∧
          (fresh.Undisturbed moves →
            fresh.failuresSinceLink moves = fresh.ownFailures moves) := by
  intro fresh next delay
  have hstart : fresh.Counts settings 0 :=
    ⟨serviced_start connector settings environment clock, rfl, fun _ h => nomatch h⟩
  have hcounts := hstart.run moves
  -- An attempt is made by a worker.
  obtain ⟨worker, hworker⟩ : ∃ worker, (fresh.run moves).worker = some worker := by
    cases hnone : (fresh.run moves).worker with
    | some worker => exact ⟨worker, rfl⟩
    | none =>
      have hidle : (fresh.run moves).attempt? .proceed = none := by simp [attempt?, hnone]
      exact nomatch hidle.symm.trans failed
  obtain ⟨moved, t, hnext, hattempt⟩ :=
    attempting_step hworker (hcounts.serviced.running_of_worker hworker)
  rw [failed] at hattempt
  cases hattempt with
  | postponed hpost =>
    have hdelay :
        (fresh.run moves).session.settings.backoff.delay worker.failures.toNat = delay := by
      rw [hcounts.settings, hcounts.failures worker hworker]
      rfl
    obtain ⟨-, hphase, hevents⟩ := hpost
    rw [hdelay, hcounts.settings] at hphase hevents
    refine ⟨?_, ?_, fresh.inRow_le moves (Nat.le_refl 0), inRow_eq⟩
    · rw [show next = _ from hnext]
      exact hevents
    · rw [show next = _ from hnext]
      exact congrArg some hphase

/-- A broker that accepts every other connection, and breaks those it accepted. -/
def limping : Script where
  attempts := [some [⟨0, some [0x20, 0x02, 0x00, 0x00]⟩, ⟨0, none⟩], none,
    some [⟨0, some [0x20, 0x02, 0x00, 0x00]⟩, ⟨0, none⟩], none]

/-- Settings that double the delay, beginning with 100 milliseconds. -/
def doubling : Settings :=
  { (default : Settings) with backoff := .exponential 100 10000 }

/-- The worker fails once; then a call brings the link up, and it breaks again. -/
def revived : List (Move Script) :=
  [.call .connect, .proceed, .proceed, .proceed, .call .connect, .proceed, .proceed, .proceed]

/-- There the next failure of the worker is its second in a row. -/
theorem backoff_run_revived :
    ((start .plain doubling limping 0).run revived).attempt? .proceed =
        some (.error .connectFailed) ∧
      (((start .plain doubling limping 0).run revived).step .proceed).phase? =
        some (Worker.asleep doubling 200) := by
  have failed : ((start .plain doubling limping 0).run revived).attempt? .proceed =
      some (.error .connectFailed) := by decide +kernel
  have second : (start .plain doubling limping 0).ownFailures revived = 1 := by decide +kernel
  have h := (backoff_run .plain doubling limping 0 revived failed).2.1
  rw [second] at h
  exact ⟨failed, h⟩

/-- The delay does not follow the failures since the link was last up: a call brought it
up, and yet the first failure after it waits as long as a second. -/
theorem backoff_ignores_calls :
    ¬ ∀ (moves : List (Move Script)) (fault : Fault),
      ((start .plain doubling limping 0).run moves).attempt? .proceed = some (.error fault) →
        (((start .plain doubling limping 0).run moves).step .proceed).phase? =
          some (Worker.asleep doubling (doubling.backoff.delay
            (min ((start .plain doubling limping 0).failuresSinceLink moves)
              (UInt32.size - 1)))) := by
  intro follows
  have failed : ((start .plain doubling limping 0).run revived).attempt? .proceed =
      some (.error .connectFailed) := by decide +kernel
  have first : (start .plain doubling limping 0).failuresSinceLink revived = 0 := by decide +kernel
  have longer : (((start .plain doubling limping 0).run revived).step .proceed).phase? ≠
      some (Worker.asleep doubling (doubling.backoff.delay 0)) := by decide +kernel
  have h := follows revived _ failed
  rw [first] at h
  exact longer h

end Client
end Mqtt
