/-
# Sleeping in slices

A worker that puts off its next attempt to reconnect sleeps for the delay in slices of at
most a poll, and before each of them looks whether its client still runs:

| the look finds | then the worker |
| --- | --- |
| nothing left to sleep, or a client that has stopped | ends the pause |
| anything else | sleeps the next slice |

Whatever the delay and the length given for a slice, the slices are `slices`: none of them
is empty, even if that length is 0 (`mem_slices`), and together they make up the delay
(`sum_slices`).  A pause sleeps them one after the other, up to the first look that finds
a stopped client (`yields_pauses`).  So every pause ends, and a client that stops during a
slice is noticed at the end of that slice (`pauses_sliced`).

In a run, the looks are the worker's own moves, and other things happen between them.
Only the worker sleeps (`Stepping.unslept`), and nothing but its own moves and the end of
its client changes what it still has to sleep, so there a pause sleeps the same slices
(`slices_run`).
-/
import Mathlib.Algebra.BigOperators.Group.List.Basic
import Mathlib.Algebra.GroupWithZero.Nat
import Mathlib.Data.List.TakeWhile
import Mathlib.Order.Lattice
import Mqtt.Proofs.Client.Backoff
import Mqtt.Proofs.Client.Sound

namespace Mqtt

open Mqtt.Action

/-- How long each of the sleeps was, in milliseconds. -/
def sleeps (es : List Event) : List UInt32 :=
  es.filterMap fun
    | .sleep ms => some ms
    | _ => none

/-- The sleeps of two stretches of a history come one after the other. -/
@[simp] theorem sleeps_append (es fs : List Event) : sleeps (es ++ fs) = sleeps es ++ sleeps fs :=
  List.filterMap_append

namespace Worker

variable {ω ε : Type}

/-! ### The slices of a delay -/

/-- How long a slice is, in unbounded numbers: what is left of the delay, but at most a
slice, and at least a millisecond of either. -/
theorem toNat_slice (slice remaining : UInt32) :
    (min remaining (max slice 1)).toNat = min remaining.toNat (max slice.toNat 1) := by
  rw [UInt32.toNat_min, UInt32.toNat_max, UInt32.toNat_one]

/-- What is left after a slice. -/
theorem toNat_sub_slice (slice remaining : UInt32) :
    (remaining - min remaining (max slice 1)).toNat =
      remaining.toNat - min remaining.toNat (max slice.toNat 1) := by
  have hle : min remaining (max slice 1) ≤ remaining := by
    rw [UInt32.le_iff_toNat_le, toNat_slice]
    exact Nat.min_le_left ..
  rw [UInt32.toNat_sub_of_le _ _ hle, toNat_slice]

/-- What is left to sleep is at least a millisecond. -/
theorem toNat_pos {remaining : UInt32} (more : remaining ≠ 0) : 0 < remaining.toNat :=
  Nat.pos_of_ne_zero fun hzero => more (UInt32.toNat_inj.1 hzero)

/-- What is slept of a delay if nothing cuts it short. -/
def slices (slice remaining : UInt32) : List UInt32 :=
  if remaining = 0 then []
  else
    let ms := min remaining (max slice 1)
    ms :: slices slice (remaining - ms)
termination_by remaining.toNat
decreasing_by
  rename_i more
  have hpos := toNat_pos more
  rw [toNat_sub_slice]
  omega

/-- Where nothing is left to sleep, there is no slice. -/
theorem slices_zero (slice : UInt32) : slices slice 0 = [] := by
  rw [slices, if_pos rfl]

/-- Where something is left, there is a first slice, and the others are those of what it
leaves. -/
theorem slices_cons {slice remaining : UInt32} (more : remaining ≠ 0) :
    slices slice remaining = min remaining (max slice 1) ::
      slices slice (remaining - min remaining (max slice 1)) := by
  rw [slices, if_neg more]

/-- No slice is empty, and none is longer than the length given, or than a millisecond if
that is 0. -/
theorem mem_slices {slice remaining ms : UInt32} (h : ms ∈ slices slice remaining) :
    1 ≤ ms ∧ ms ≤ max slice 1 := by
  fun_induction slices slice remaining with
  | case1 => cases h
  | case2 remaining more first ih =>
    rcases List.mem_cons.1 h with rfl | hrest
    · have hpos := toNat_pos more
      simp only [UInt32.le_iff_toNat_le, first, toNat_slice, UInt32.toNat_max, UInt32.toNat_one]
      omega
    · exact ih hrest

/-- The slices make up the delay. -/
theorem sum_slices (slice remaining : UInt32) :
    ((slices slice remaining).map (·.toNat)).sum = remaining.toNat := by
  fun_induction slices slice remaining with
  | case1 => rfl
  | case2 remaining more first ih =>
    rw [List.map_cons, List.sum_cons, ih, toNat_sub_slice, toNat_slice]
    omega

/-- With no length given, a slice is a millisecond. -/
example : slices 40 100 = [40, 40, 20] ∧ slices 0 3 = [1, 1, 1] := by
  cbv

/-- There are at most as many slices as there are milliseconds to sleep, since none is
empty. -/
theorem length_slices_le (slice remaining : UInt32) :
    (slices slice remaining).length ≤ remaining.toNat := by
  rw [← sum_slices slice remaining]
  have hpos : ∀ n ∈ (slices slice remaining).map (·.toNat), 1 ≤ n := by
    intro n hn
    obtain ⟨ms, hms, rfl⟩ := List.mem_map.1 hn
    exact UInt32.le_iff_toNat_le.1 (mem_slices hms).1
  simpa using List.length_le_sum_of_one_le _ hpos

/-! ### A pause from its first look to its last -/

/-- A pause, by what each look finds of the client.  Says whether the looks go as far as its
end. -/
def pauses (slice remaining : UInt32) : (looks : List Bool) → Action ε (Session ω) Bool
  | [] => return false
  | running :: looks => do
    match ← pause running slice remaining with
    | .sleeping _ later => pauses slice later looks
    | _ => return true

/-- **A pause sleeps the slices of its delay**, up to the first look that finds a stopped
client.  It ends with that look, or with the one after the last slice. -/
theorem yields_pauses (slice : UInt32) (looks : List Bool) (remaining : UInt32) (s : Session ω) :
    ∃ ended t, Yields (pauses slice remaining looks : Action ε (Session ω) Bool) s
        (.ok ended) t ∧
      s.Did (((slices slice remaining).take (looks.takeWhile id).length).map .sleep) t ∧
        (ended = true ↔ false ∈ looks ∨ (slices slice remaining).length < looks.length) := by
  induction looks generalizing remaining s with
  | nil => exact ⟨false, s, yields_pure.2 ⟨rfl, rfl⟩, .refl s, by simp⟩
  | cons running looks ih =>
    obtain ⟨r, u, hpause⟩ :=
      exists_yields (pause running slice remaining : Action ε (Session ω) Phase) s
    obtain ⟨phase, es, rfl, hslice⟩ := pausing_of_pause hpause
    cases hslice with
    | ended hend =>
      refine ⟨true, s, yields_bind.2 (.inr ⟨_, _, hpause, yields_pure.2 ⟨rfl, rfl⟩⟩), ?_, ?_⟩
      · rcases hend with rfl | rfl
        · rw [slices_zero, List.take_nil]
          exact .refl s
        · exact .refl s
      · rcases hend with rfl | rfl <;> simp [slices_zero]
    | @slice ms _ hmore hrun hms hdid =>
      subst hms hrun
      obtain ⟨ended, t, hrest, hslept, hended⟩ := ih (remaining - min remaining (max slice 1)) u
      refine ⟨ended, t, yields_bind.2 (.inr ⟨_, _, hpause, hrest⟩), ?_, ?_⟩
      · rw [slices_cons hmore]
        exact hdid.trans hslept
      · rw [hended, slices_cons hmore]
        simp

/-- What a pause makes of a delay, by what its looks find: the sleeps, and whether the looks
go as far as its end. -/
structure Sliced (slice delay : UInt32) (looks : List Bool) (slept : List UInt32)
    (ended : Bool) : Prop where
  /-- No sleep is empty, and none is longer than a slice. -/
  each : ∀ ms ∈ slept, 1 ≤ ms ∧ ms ≤ max slice 1
  within : (slept.map (·.toNat)).sum ≤ delay.toNat
  /-- The pause ends: there are at most as many sleeps as milliseconds. -/
  ends : delay.toNat < looks.length → ended = true
  /-- If the client runs all the while, the whole delay is slept. -/
  whole : ended = true → false ∉ looks → (slept.map (·.toNat)).sum = delay.toNat
  /-- Nothing is slept after a look that finds the client stopped. -/
  stops : ∀ n, looks[n]? = some false → ended = true ∧ slept.length ≤ n
  /-- From the look before to that look, no more than a slice passes. -/
  prompt : ∀ n, looks[n + 1]? = some false →
    ((slept.drop n).map (·.toNat)).sum ≤ (max slice 1).toNat

/-- Looks count up to the first that finds a stopped client, so where look `n` does, at
most `n` count. -/
theorem length_takeWhile_le {looks : List Bool} {n : Nat} (stopped : looks[n]? = some false) :
    (looks.takeWhile id).length ≤ n := by
  induction looks generalizing n with
  | nil => exact Nat.zero_le n
  | cons look looks ih =>
    cases look with
    | false => exact Nat.zero_le n
    | true =>
      cases n with
      | zero => simp at stopped
      | succ n => exact Nat.succ_le_succ (ih (by simpa using stopped))

/-- At most one sleep, which is no longer than a bound, is within the bound in all. -/
theorem sum_le_of_length_le_one {slept : List UInt32} {longest : UInt32}
    (each : ∀ ms ∈ slept, ms ≤ longest) (single : slept.length ≤ 1) :
    (slept.map (·.toNat)).sum ≤ longest.toNat := by
  match slept, single with
  | [], _ => exact Nat.zero_le _
  | [ms], _ => simpa using UInt32.le_iff_toNat_le.1 (each ms List.mem_cons_self)

/-- The slices up to the first look that finds a stopped client are such a pause, if it ends
with that look, or with the one after the last slice. -/
theorem sliced_take {slice delay : UInt32} {looks : List Bool} {ended : Bool}
    (ends : ended = true ↔ false ∈ looks ∨ (slices slice delay).length < looks.length) :
    Sliced slice delay looks ((slices slice delay).take (looks.takeWhile id).length) ended := by
  have each : ∀ ms ∈ (slices slice delay).take (looks.takeWhile id).length,
      1 ≤ ms ∧ ms ≤ max slice 1 := fun ms hms => mem_slices (List.mem_of_mem_take hms)
  have stops : ∀ n, looks[n]? = some false →
      ((slices slice delay).take (looks.takeWhile id).length).length ≤ n := fun n hn =>
    Nat.le_trans (List.length_take_le _ _) (length_takeWhile_le hn)
  refine ⟨each, ?_, fun hmore => ?_, fun hended hrun => ?_, fun n hn => ⟨?_, stops n hn⟩,
    fun n hn => ?_⟩
  · have hall := sum_slices slice delay
    rw [← List.take_append_drop (looks.takeWhile id).length (slices slice delay), List.map_append,
      List.sum_append] at hall
    omega
  · exact ends.2 (.inr (Nat.lt_of_le_of_lt (length_slices_le slice delay) hmore))
  · have hlooks : looks.takeWhile id = looks :=
      List.takeWhile_eq_self_iff.2 fun look hlook => by
        cases look with
        | true => rfl
        | false => exact absurd hlook hrun
    have hlength := (ends.1 hended).resolve_left hrun
    rw [hlooks, List.take_of_length_le (Nat.le_of_lt hlength), sum_slices]
  · exact ends.2 (.inl (List.mem_of_getElem? hn))
  · have hone : (((slices slice delay).take (looks.takeWhile id).length).drop n).length ≤ 1 := by
      have hstops := stops (n + 1) hn
      rw [List.length_drop]
      omega
    exact sum_le_of_length_le_one (fun ms hms => (each ms (List.mem_of_mem_drop hms)).2) hone

/-- **Every pause ends, in slices that are not empty and not too long.**  Whatever the delay,
the length of a slice and what the looks find, the pause does nothing but sleep; no sleep is
shorter than a millisecond or longer than a slice (or than a millisecond, if the length
given for a slice is 0), and together they never exceed the delay.  A client that keeps
running lets the pause sleep the whole delay.  If it stops in the middle of a sleep, that
sleep is the last, so no more than a slice passes before it is noticed. -/
theorem pauses_sliced (slice delay : UInt32) (looks : List Bool) (s : Session ω) :
    ∃ slept ended t, Yields (pauses slice delay looks : Action ε (Session ω) Bool) s
        (.ok ended) t ∧
      s.Did (slept.map .sleep) t ∧ Sliced slice delay looks slept ended := by
  obtain ⟨ended, t, hyields, hdid, hends⟩ := yields_pauses slice looks delay s
  exact ⟨_, ended, t, hyields, hdid, sliced_take hends⟩

end Worker

/-! ### Who sleeps -/

namespace Session

variable {ω : Type} {s t : Session ω} {es : List Event}

/-- Without a step that sleeps, nothing is slept. -/
theorem Path.unslept {allowed : Doing → Prop} (h : Path allowed s es t)
    (awake : ∀ ms, ¬allowed (.tell (.sleep ms))) : sleeps es = [] := by
  induction h with
  | refl => rfl
  | snoc _ ok step ih =>
    rw [sleeps_append, ih, List.nil_append]
    refine List.filterMap_eq_nil_iff.2 fun e he => ?_
    cases e with
    | sleep ms =>
      rcases step.plain _ he with hplain | htold
      · cases hplain
      · exact absurd (htold ▸ ok) (awake ms)
    | _ => rfl

/-- No call sleeps. -/
theorem Path.unslept_of_isCall {running : Bool} (h : Path (Doing.isCall running ·) s es t) :
    sleeps es = [] :=
  h.unslept nofun

/-- A client that does not run does not sleep. -/
theorem Path.unslept_of_isWork (h : Path (Doing.isWork false ·) s es t) : sleeps es = [] :=
  h.unslept nofun

end Session

/-- The slice in which a worker sleeps there. -/
def Phase.slice? : Phase → Option UInt32
  | .sleeping ms _ => some ms
  | _ => none

/-- What a worker there still has to sleep after its slice, if it sleeps. -/
def Phase.later? : Phase → Option UInt32
  | .sleeping _ later => some later
  | _ => none

namespace Worker

variable {ω : Type}

/-- Starting a slice sleeps that slice and no other, and ending the pause sleeps nothing. -/
theorem Pausing.slept {running : Bool} {slice remaining : UInt32} {phase : Phase} {s t : Session ω}
    {es : List Event} (h : Pausing running slice remaining s phase es t) :
    sleeps es = phase.slice?.toList := by
  cases h <;> rfl

/-- Servicing the keep-alive sleeps nothing. -/
theorem Servicing.slept {worker next : Worker} {s t : Session ω} {es : List Event}
    (h : Servicing worker s next es t) : sleeps es = next.phase.slice?.toList := by
  have hnone : next.phase.slice? = none := by cases h <;> rfl
  rw [h.path.unslept_of_isCall, hnone]
  rfl

/-- A worker sleeps the slice that its move takes it to, and no other. -/
theorem Moving.slept {worker next : Worker} {s t : Session ω} {es : List Event}
    (h : Moving true worker s next es t) : sleeps es = next.phase.slice?.toList := by
  cases h with
  | received _ htaking =>
    have hpath : Session.Path (Session.Doing.isWork false ·) s es t := htaking.path
    have hnone : next.phase.slice? = none := by cases htaking <;> rfl
    rw [hpath.unslept_of_isWork, hnone]
    rfl
  | woke _ hpause => exact hpause.slept
  | passed _ _ hpassing =>
    cases hpassing with
    | linked _ hservice => exact hservice.slept
    | reconnected _ hreconnect hservice =>
      rw [sleeps_append, hreconnect.path.unslept_of_isCall, hservice.slept]
      rfl
    | postponed _ hreconnect _ _ hpause =>
      rw [sleeps_append, hreconnect.path.unslept_of_isCall]
      exact hpause.slept
  | dispatched _ _ hdispatch =>
    -- After a step of a dispatch the worker does not sleep.
    have hnone : next.phase.slice? = none := by
      rcases hdispatch.phase with hphase | hphase <;> rw [hphase] <;> rfl
    rw [hnone]
    cases hdispatch with
    | cut _ hcut =>
      have hpath : Session.Path (Session.Doing.isWork false ·) s es t := hcut.path
      exact hpath.unslept_of_isWork
    | delivered _ _ hcalls => exact hcalls.path.unslept_of_isCall
    | gaveUp _ _ _ hdrop =>
      have hpath : Session.Path (Session.Doing.isCall true ·) _ _ t := hdrop.path
      exact hpath.unslept_of_isCall
    | stale => rfl

/-- Where a worker begins to sleep for a delay, it is in the first of the slices, and has the
others left. -/
theorem slices_of_asleep (settings : Settings) (delay : UInt32) :
    (asleep settings delay).slice?.toList = (slices settings.pollTimeout delay).take 1 ∧
      (asleep settings delay).later?.map (slices settings.pollTimeout) =
        if slices settings.pollTimeout delay = [] then none
        else some (slices settings.pollTimeout delay).tail := by
  rw [asleep]
  split
  case isTrue hnone =>
    rw [hnone, slices_zero]
    exact ⟨rfl, rfl⟩
  case isFalse hmore =>
    rw [slices_cons hmore]
    exact ⟨rfl, rfl⟩

end Worker

namespace Client

variable {ω : Type}

/-- The slices that the worker still has to sleep after the one it is in, if it sleeps. -/
def slicesLeft (client : Client ω) : Option (List UInt32) :=
  (client.phase?.bind Phase.later?).map (Worker.slices client.session.settings.pollTimeout)

/-- How often the worker still looks whether its client runs before its pause is over. -/
def looksLeft (client : Client ω) : Nat :=
  client.slicesLeft.elim 0 (·.length + 1)

/-- Disconnecting sleeps nothing: a worker that is in the middle of a slice does not start
another. -/
theorem Disconnecting.unslept {client next : Client ω} {es : List Event}
    (h : Disconnecting client es next) : sleeps es = [] := by
  have left : ∀ {es : List Event} {t : Session ω}, Session.Leaving client.session es t →
      sleeps es = [] := by
    intro es t hleave
    have hpath : Session.Path (Session.Doing.isCall false ·) client.session es t := hleave.path
    exact hpath.unslept_of_isCall
  cases h with
  | alone hleave => exact left hleave
  | joined hleave _ hend =>
    rw [sleeps_append, sleeps_append, left hleave, hend.path.unslept_of_isWork]
    rfl

/-- Connecting sleeps nothing, whatever comes of it: only the worker puts off attempts. -/
theorem Connecting.unslept {client next : Client ω} {r : Except Fault Unit} {es : List Event}
    (h : Connecting client r es next) : sleeps es = [] := by
  cases h with
  | unconnected hensure => exact hensure.path.unslept_of_isCall
  | serviced hensure => exact hensure.path.unslept_of_isCall
  | starting hensure _ hstart =>
    rw [sleeps_append, hensure.path.unslept_of_isCall]
    cases hstart with
    | started => rfl
    | @failed _ _ t u _ hleave =>
      have hpath : Session.Path (Session.Doing.isCall false ·) t _ u := hleave.path
      exact hpath.unslept_of_isCall

/-- **Only the worker sleeps.**  Time also passes on its own, but no other move asks for
that. -/
theorem Stepping.unslept {client next : Client ω} {move : Move ω} {es : List Event}
    (h : Stepping client move es next) (other : move ≠ .proceed) : sleeps es = [] := by
  cases h with
  | connected hconnect => exact hconnect.unslept
  | answered _ hcall => exact hcall.path.unslept_of_isCall
  | disconnected hdisconnect => exact hdisconnect.unslept
  | moved => exact absurd rfl other
  | ended => exact absurd rfl other
  | idle => rfl
  | waited => rfl
  | became => rfl

/-- As long as the client does not disconnect, only the worker's own moves change what it
still has to sleep. -/
theorem Stepping.slicesLeft {client next : Client ω} {move : Move ω} {es : List Event}
    (serviced : client.Serviced) (h : Stepping client move es next) (other : move ≠ .proceed)
    (stays : move ≠ .disconnect) : next.slicesLeft = client.slicesLeft := by
  have hsettings := h.path.settings
  have hinterrupted : ∀ w : Worker, w.interrupted.phase.later? = w.phase.later? := by
    intro w
    rw [Worker.interrupted]
    split
    case isTrue hphase => rw [hphase]; rfl
    case isFalse => rfl
  have hrested : ∀ (ms : UInt32) (w : Worker), (w.rested ms).phase.later? = w.phase.later? := by
    intro ms w
    rw [Worker.rested]
    split
    case h_1 hphase => rw [hphase]; rfl
    case h_2 => rfl
  have hlater : next.phase?.bind Phase.later? = client.phase?.bind Phase.later? := by
    rw [phase?, phase?, Option.bind_map, Option.bind_map]
    rcases h.worker_map (f := fun w => w.phase.later?) hinterrupted hrested serviced other with
      ⟨hnone, hnew⟩ | ⟨hleft, -⟩ | hsame
    · rw [hnone, hnew]
      rfl
    · exact absurd hleft stays
    · have hbind := congrArg (·.bind id) hsame
      simp only [Option.bind_map] at hbind
      exact hbind
  rw [Client.slicesLeft, Client.slicesLeft, hlater, hsettings]

/-- In a move of the worker, the first of the coming slices begins and the rest is left; the
worker is awake if there is none. -/
structure Slept (coming : List UInt32) (es : List Event) (next : Client ω) : Prop where
  /-- The move slept the next slice, if there was one. -/
  first : sleeps es = coming.take 1
  /-- The slices after it are left. -/
  rest : next.slicesLeft = if coming = [] then none else some coming.tail

/-- After a slice begins there is one look left for each slice after it, and one that
finds nothing left. -/
theorem Slept.looksLeft {coming : List UInt32} {es : List Event} {next : Client ω}
    (h : Slept coming es next) : next.looksLeft = coming.length := by
  rw [Client.looksLeft, h.rest]
  cases coming <;> rfl

/-- The slice that began, and those still to come, are the first of those that were coming
before. -/
theorem Slept.take {coming : List UInt32} {es : List Event} {next : Client ω}
    (h : Slept coming es next) (n : Nat) :
    sleeps es ++ (next.slicesLeft.getD []).take n = coming.take (n + 1) := by
  rw [h.first, h.rest]
  cases coming <;> simp

/-- A worker that its move takes to the beginning of a delay sleeps the first of the slices. -/
theorem Stepping.slept {client next : Client ω} {worker : Worker} {delay : UInt32}
    {es : List Event} (hworker : client.worker = some worker) (running : client.running = true)
    (h : Stepping client .proceed es next)
    (asleep : next.phase? = some (Worker.asleep client.session.settings delay)) :
    Slept (Worker.slices client.session.settings.pollTimeout delay) es next := by
  have hsettings := h.path.settings
  have hsleeps : sleeps es = (next.phase?.bind Phase.slice?).toList := by
    cases h with
    | moved _ _ hmove => exact hmove.slept
    | ended hstopped => exact nomatch hstopped.symm.trans running
    | idle hnone => exact nomatch hnone.symm.trans hworker
  obtain ⟨hfirst, hrest⟩ := Worker.slices_of_asleep client.session.settings delay
  refine ⟨?_, ?_⟩
  · rw [hsleeps, asleep]
    exact hfirst
  · rw [Client.slicesLeft, hsettings, asleep]
    exact hrest

/-- A worker at the end of a slice sleeps the next one, if there is one, and is awake
otherwise. -/
theorem Stepping.woke {client next : Client ω} {es : List Event} {coming : List UInt32}
    (serviced : client.Serviced) (h : Stepping client .proceed es next)
    (asleep : client.slicesLeft = some coming) : Slept coming es next := by
  obtain ⟨later, hlater, rfl⟩ := Option.map_eq_some_iff.1 asleep
  obtain ⟨_, hphase, hsleeping⟩ := Option.bind_eq_some_iff.1 hlater
  obtain ⟨worker, hworker, rfl⟩ := Option.map_eq_some_iff.1 hphase
  refine h.slept hworker (serviced.running_of_worker hworker) ?_
  cases h with
  | moved hsome hrun hmove =>
    obtain rfl := Option.some.inj (hworker.symm.trans hsome)
    cases hmove with
    | received hreceiving => simp [hreceiving, Phase.later?] at hsleeping
    | woke hpausing hpause =>
      rw [hpausing] at hsleeping
      obtain rfl := Option.some.inj hsleeping
      exact congrArg some hpause.asleep.1
    | passed hready => rcases hready with hready | hready <;> simp [hready, Phase.later?] at hsleeping
    | dispatched hready =>
      rcases hready with hready | hready <;> simp [hready, Phase.later?] at hsleeping
  | ended hstopped =>
    exact nomatch hstopped.symm.trans (serviced.running_of_worker hworker)
  | idle hnone => exact nomatch hnone.symm.trans hworker

/-- The move is the worker's own. -/
def isProceed : Move ω → Bool
  | .proceed => true
  | _ => false

/-- How often the worker moves. -/
def proceeds (moves : List (Move ω)) : Nat :=
  moves.countP isProceed

variable [Environment ω]

/-- A worker whose attempt to reconnect fails begins with the first slice of the delay that
the backoff gives. -/
theorem slept_of_failed {client : Client ω} (serviced : client.Serviced)
    {worker : Worker} {fault : Fault} (hworker : client.worker = some worker)
    (failed : client.attempt? .proceed = some (.error fault)) {es : List Event}
    (h : Stepping client .proceed es (client.step .proceed)) :
    Slept (Worker.slices client.session.settings.pollTimeout
      (client.session.settings.backoff.delay worker.failures.toNat)) es (client.step .proceed) := by
  have running := serviced.running_of_worker hworker
  obtain ⟨moved, t, hnext, hattempt⟩ := attempting_step hworker running
  rw [failed] at hattempt
  cases hattempt with
  | postponed hpost =>
    refine h.slept hworker running ?_
    rw [hnext]
    exact congrArg some hpost.phase

/-- What a run lets the worker sleep of a pause, up to its end. -/
theorem sleeps_run {client : Client ω} (serviced : client.Serviced) {moves : List (Move ω)}
    (stays : Move.disconnect ∉ moves) (short : proceeds moves ≤ client.looksLeft) :
    sleeps (client.added moves) = (client.slicesLeft.getD []).take (proceeds moves) ∧
      (client.run moves).looksLeft = client.looksLeft - proceeds moves := by
  -- On the moves: those of the worker sleep one slice each, and the others none.
  induction moves generalizing client with
  | nil =>
    rw [added_nil]
    exact ⟨List.take_zero.symm, rfl⟩
  | cons move moves ih =>
    obtain ⟨es, hes⟩ := stepping_step client move
    have hstays : Move.disconnect ∉ moves := fun hmem => stays (List.mem_cons_of_mem _ hmem)
    rw [added_cons hes, sleeps_append]
    cases hcase : isProceed move with
    | false =>
      have other : move ≠ .proceed := fun h => by simp [h, isProceed] at hcase
      have hleft := hes.slicesLeft serviced other fun h => stays (h ▸ List.mem_cons_self)
      have hlooks : (client.step move).looksLeft = client.looksLeft := by
        rw [looksLeft, looksLeft, hleft]
      rw [proceeds, List.countP_cons_of_neg (by simp [hcase])] at short ⊢
      rw [hes.unslept other, ← hleft, ← hlooks]
      exact ih (hes.serviced serviced) hstays (hlooks ▸ short)
    | true =>
      obtain rfl : move = .proceed := by cases move <;> first | rfl | cases hcase
      rw [proceeds, List.countP_cons_of_pos hcase] at short ⊢
      cases hasleep : client.slicesLeft with
      | none => simp [looksLeft, hasleep] at short
      | some coming =>
        have hbefore : client.looksLeft = coming.length + 1 := by
          rw [looksLeft, hasleep]
          rfl
        have hslept := hes.woke serviced hasleep
        rw [hbefore] at short ⊢
        obtain ⟨hrest, hends⟩ := ih (hes.serviced serviced) hstays
          (hslept.looksLeft ▸ Nat.le_of_succ_le_succ short)
        refine ⟨?_, ?_⟩
        · rw [hrest]
          exact hslept.take _
        · rw [hslept.looksLeft] at hends
          exact hends.trans (Nat.add_sub_add_right ..).symm

/-- **A worker that puts off its next attempt sleeps the slices of its delay.**  From the
move in which the attempt fails, whatever else happens meanwhile: each of the worker's moves
sleeps the next slice of the delay that the backoff gives, and the one after the last ends
the pause.  If the client disconnects before that, nothing more is slept. -/
theorem slices_run {client : Client ω} (serviced : client.Serviced) {worker : Worker} {fault : Fault}
    (hworker : client.worker = some worker)
    (failed : client.attempt? .proceed = some (.error fault)) {moves : List (Move ω)}
    (stays : Move.disconnect ∉ moves) :
    let settings := client.session.settings
    let portions := Worker.slices settings.pollTimeout (settings.backoff.delay worker.failures.toNat)
    proceeds moves ≤ portions.length →
      sleeps (client.added (.proceed :: moves)) = portions.take (proceeds moves + 1) ∧
        (client.run (.proceed :: moves)).looksLeft = portions.length - proceeds moves ∧
        sleeps ((client.run (.proceed :: moves)).added [.disconnect]) = [] := by
  intro settings portions short
  obtain ⟨es, hes⟩ := stepping_step client .proceed
  have hslept := slept_of_failed serviced hworker failed hes
  obtain ⟨hsleeps, hlooks⟩ := sleeps_run (hes.serviced serviced) stays (hslept.looksLeft ▸ short)
  obtain ⟨fs, hfs⟩ := stepping_step (client.run (.proceed :: moves)) .disconnect
  refine ⟨?_, ?_, ?_⟩
  · rw [added_cons hes, sleeps_append, hsleeps]
    exact hslept.take _
  · rw [hslept.looksLeft] at hlooks
    exact hlooks
  · rw [added_cons hfs, added_nil, List.append_nil]
    exact hfs.unslept nofun

end Client
end Mqtt
