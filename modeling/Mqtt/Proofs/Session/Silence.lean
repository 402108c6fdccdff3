/-
# Silence

How soon a link is found dead over which nothing comes, in real time.  Readings of the
clock wrap and real time does not, but the time between two readings is the real one as
long as they are less than a turn of the clock apart (`toNat_elapsed`).

The timers are asked at one real time after the other what is due (`KeepAlive.verdicts`),
from the last sign of life at `start` on, and at most `gap` apart:

| asked | due |
| --- | --- |
| before `start + half` | nothing |
| first at or after `start + half` | the ping, which goes out at once |
| up to `half` after the ping | nothing |
| more than `half` after the ping | nothing else: the link is dead |

The ping goes out less than `gap` after it could, and the link is found dead at most `gap`
after it could be (`first_lt_of_dense`): that is the `2 * gap` in `silence_detected`.
-/
import Mathlib.Algebra.Group.Nat.Defs
import Mathlib.Data.List.Chain
import Mqtt.Proofs.Session.Signs

namespace Mqtt

/-- The time between two readings is the real one if it is less than a turn of the clock. -/
theorem toNat_elapsed {since now : Nat} (later : since ≤ now) (soon : now < since + 2 ^ 32) :
    (elapsed now.toUInt32 since.toUInt32).toNat = now - since := by
  rw [elapsed, UInt32.toNat_sub]
  simp only [Nat.toUInt32_eq, UInt32.toNat_ofNat']
  omega

/-- Half the interval does not wrap, however many seconds there are. -/
theorem toNat_half (seconds : UInt16) : (half seconds).toNat = 500 * seconds.toNat := by
  have hlt := seconds.toNat_lt
  simp only [half, UInt32.toNat_mul, UInt32.reduceToNat, UInt16.toNat_toUInt32]
  omega

/-- A time that is not before another, and not much later. -/
def Within (gap : Nat) (time later : Nat) : Prop :=
  time ≤ later ∧ later ≤ time + gap

section

variable {gap start bound : Nat} {times : List Nat}

/-- What is asked one after the other is asked no earlier than the start. -/
theorem le_of_dense (dense : (start :: times).IsChain (Within gap)) : ∀ t ∈ times, start ≤ t :=
  (List.pairwise_cons.1 (dense.imp fun _ _ h => h.1).pairwise).1

/-- The first of some times that reaches a bound. -/
theorem exists_first (reached : ∃ t ∈ times, bound ≤ t) :
    ∃ early first late, times = early ++ first :: late ∧ (∀ t ∈ early, t < bound) ∧
      bound ≤ first := by
  obtain ⟨first, hfirst⟩ := Option.isSome_iff_exists.1
    (List.find?_isSome.2 (by simpa using reached) : (times.find? (bound ≤ ·)).isSome)
  obtain ⟨hbound, early, late, htimes, hbefore⟩ := List.find?_eq_some_iff_append.1 hfirst
  exact ⟨early, first, late, htimes, by simpa using hbefore, by simpa using hbound⟩

/-- Times that are dense do not jump far over a bound. -/
theorem first_lt_of_dense {early late : List Nat} {first : Nat}
    (dense : (start :: (early ++ first :: late)).IsChain (Within gap)) (before : start < bound)
    (hearly : ∀ t ∈ early, t < bound) :
    first < bound + gap ∧ (first :: late).IsChain (Within gap) := by
  induction early generalizing start with
  | nil =>
    obtain ⟨⟨_, hgap⟩, hrest⟩ := List.isChain_cons_cons.1 dense
    exact ⟨by omega, hrest⟩
  | cons t early ih =>
    obtain ⟨ht, hearly⟩ := List.forall_mem_cons.1 hearly
    exact ih (List.isChain_cons_cons.1 dense).2 ht hearly

end

namespace KeepAlive

/-- What is due at one time after the other, if nothing is heard and a ping that is due
goes out at once. -/
def verdicts (k : KeepAlive) : List Nat → List (Nat × Option Due)
  | [] => []
  | time :: times =>
    (time, k.due time.toUInt32) ::
      (if k.due time.toUInt32 = some .ping then k.pinged time.toUInt32 else k).verdicts times

/-- The timers of a link with this keep-alive that gave a sign of life at a real time, and
has not been pinged since. -/
structure Idle (seconds : UInt16) (start : Nat) (k : KeepAlive) : Prop where
  /-- The interval of the timers is the one that was configured. -/
  interval : k.interval = seconds.toUInt32 * 1000
  /-- The link was last heard of at the start. -/
  heardAt : k.heardAt = start.toUInt32
  /-- No ping is out. -/
  waiting : k.waiting = false

/-- What the timers find in a silence that began at `start`, when they are asked at these
times. -/
structure Detects (half gap start : Nat) (times : List Nat) (k : KeepAlive) : Prop where
  /-- There is a verdict for each time. -/
  asked : (k.verdicts times).map (·.1) = times
  /-- Nothing is due in the first half of the interval. -/
  quiet : (∀ t ∈ times, t < start + half) → k.verdicts times = times.map fun t => (t, none)
  /-- The first time after it is that of the ping, the only one. -/
  ping : ∀ early first late, times = early ++ first :: late → (∀ t ∈ early, t < start + half) →
    start + half ≤ first → ∃ others, k.verdicts times =
      (early.map fun t => (t, none)) ++ (first, some .ping) :: others ∧
        ∀ v ∈ others, v.2 ≠ some .ping
  /-- A link is not given up within the interval. -/
  patient : ∀ t, (t, some .linkDead) ∈ k.verdicts times → start + 2 * half < t
  /-- It is soon after. -/
  dead : (∃ t ∈ times, start + 2 * half + 2 * gap < t) →
    ∃ t ≤ start + 2 * half + 2 * gap, (t, some .linkDead) ∈ k.verdicts times

variable {seconds : UInt16} {start gap : Nat} {k : KeepAlive}

/-- While an answer is owed, the one thing that can be due is the end of the link, once
more than half the interval has passed since the ping. -/
theorem due_of_waiting (on : seconds ≠ 0) (interval : k.interval = seconds.toUInt32 * 1000)
    (waiting : k.waiting = true) (now : UInt32) :
    k.due now = if half seconds < elapsed now k.pingedAt then some .linkDead else none := by
  rw [due, interval, if_neg (mt interval_eq_zero.1 on), if_pos waiting, interval_half]

/-- While a ping is out, the verdicts change nothing. -/
theorem verdicts_of_waiting (on : seconds ≠ 0) (interval : k.interval = seconds.toUInt32 * 1000)
    (waiting : k.waiting = true) (times : List Nat) :
    k.verdicts times = times.map fun t => (t, k.due t.toUInt32) := by
  induction times with
  | nil => rfl
  | cons t times ih =>
    have hquiet : k.due t.toUInt32 ≠ some .ping := by
      rw [due_of_waiting on interval waiting]
      split <;> simp
    rw [verdicts, if_neg hquiet, ih, List.map_cons]

/-- After a sign of life a ping is due from half the interval on and nothing before.  It
is told in real time, and so for one turn of the clock. -/
theorem Idle.due (idle : Idle seconds start k) (on : seconds ≠ 0) {now : Nat}
    (later : start ≤ now) (soon : now < start + 2 ^ 32) :
    k.due now.toUInt32 = if start + 500 * seconds.toNat ≤ now then some .ping else none := by
  have hhalf : half seconds ≤ elapsed now.toUInt32 start.toUInt32 ↔
      start + 500 * seconds.toNat ≤ now := by
    rw [UInt32.le_iff_toNat_le, toNat_elapsed later soon, toNat_half]
    omega
  rw [KeepAlive.due, idle.interval, if_neg (mt interval_eq_zero.1 on),
    if_neg (by simp [idle.waiting]), interval_half, idle.heardAt]
  simp only [hhalf]

/-- Before half the interval has passed, nothing is due. -/
theorem Idle.verdicts_append (idle : Idle seconds start k) (on : seconds ≠ 0)
    (few : 500 * seconds.toNat < 2 ^ 32) {early : List Nat} (rest : List Nat)
    (later : ∀ t ∈ early, start ≤ t) (before : ∀ t ∈ early, t < start + 500 * seconds.toNat) :
    k.verdicts (early ++ rest) = (early.map fun t => (t, none)) ++ k.verdicts rest := by
  induction early with
  | nil => rfl
  | cons t early ih =>
    obtain ⟨hlater, hlaters⟩ := List.forall_mem_cons.1 later
    obtain ⟨hbefore, hbefores⟩ := List.forall_mem_cons.1 before
    have hnone : k.due t.toUInt32 = none := by
      rw [idle.due on hlater (by omega), if_neg (by omega)]
    rw [List.cons_append, verdicts, hnone, if_neg (by simp), ih hlaters hbefores]
    rfl

/-- At the first time after that the ping goes out, and what is due later depends on when
it did. -/
theorem Idle.verdicts_cons (idle : Idle seconds start k) (on : seconds ≠ 0)
    {first : Nat} (late : List Nat) (due : start + 500 * seconds.toNat ≤ first)
    (soon : first < start + 2 ^ 32) :
    k.verdicts (first :: late) = (first, some .ping) :: late.map fun t => (t,
      if half seconds < elapsed t.toUInt32 first.toUInt32 then some .linkDead else none) := by
  have hping : k.due first.toUInt32 = some .ping := by
    rw [idle.due on (by omega) soon, if_pos due]
  have hlate : ∀ t, (k.pinged first.toUInt32).due t =
      if half seconds < elapsed t first.toUInt32 then some .linkDead else none :=
    due_of_waiting on idle.interval rfl
  rw [verdicts, hping, if_pos rfl,
    verdicts_of_waiting (k := k.pinged first.toUInt32) on idle.interval rfl]
  simp only [hlate]

/-- What is due is told for each of the times at which it is asked, in order. -/
theorem verdicts_map_fst (k : KeepAlive) (times : List Nat) :
    (k.verdicts times).map (·.1) = times := by
  induction times generalizing k with
  | nil => rfl
  | cons t times ih => rw [verdicts, List.map_cons, ih]

/-- What is found in a silence up to the ping and after it. -/
theorem Idle.verdicts_eq (idle : Idle seconds start k) (on : seconds ≠ 0)
    (few : 500 * seconds.toNat + gap < 2 ^ 32) {early late : List Nat} {first : Nat}
    (dense : (start :: (early ++ first :: late)).IsChain (Within gap))
    (before : ∀ t ∈ early, t < start + 500 * seconds.toNat)
    (due : start + 500 * seconds.toNat ≤ first) :
    k.verdicts (early ++ first :: late) =
      (early.map fun t => (t, none)) ++ (first, some .ping) :: late.map fun t => (t,
        if half seconds < elapsed t.toUInt32 first.toUInt32 then some .linkDead else none) := by
  have hlater : ∀ t ∈ early, start ≤ t := fun t ht =>
    le_of_dense dense t (List.mem_append_left _ ht)
  have hpos : 0 < seconds.toNat := Nat.pos_of_ne_zero fun h => on (UInt16.toNat_inj.1 h)
  obtain ⟨hfirst, -⟩ := first_lt_of_dense dense (by omega) before
  rw [idle.verdicts_append on (by omega) _ hlater before, idle.verdicts_cons on _ due (by omega)]

/-- **A silence is noticed.** -/
theorem Idle.detects (idle : Idle seconds start k) (on : seconds ≠ 0)
    (few : 500 * seconds.toNat + gap < 2 ^ 32) {times : List Nat}
    (dense : (start :: times).IsChain (Within gap)) :
    k.Detects (500 * seconds.toNat) gap start times := by
  have hpos : 0 < seconds.toNat := Nat.pos_of_ne_zero fun h => on (UInt16.toNat_inj.1 h)
  have hlater := le_of_dense dense
  have hquiet : (∀ t ∈ times, t < start + 500 * seconds.toNat) →
      k.verdicts times = times.map fun t => (t, none) := fun before => by
    have happend := idle.verdicts_append on (by omega) [] hlater before
    rwa [List.append_nil, verdicts, List.append_nil] at happend
  refine ⟨k.verdicts_map_fst times, hquiet, ?_, fun t ht => ?_, fun reached => ?_⟩
  -- At the first time at which the ping is due it goes out, and nothing else does before.
  · rintro early first late rfl before due
    refine ⟨_, idle.verdicts_eq on few dense before due, fun v hv => ?_⟩
    obtain ⟨t, -, rfl⟩ := List.mem_map.1 hv
    dsimp only
    split <;> simp
  -- The link is given up only after a ping, and a ping only at the first time it is due.
  · by_cases reached : ∃ u ∈ times, start + 500 * seconds.toNat ≤ u
    · obtain ⟨early, first, late, rfl, before, due⟩ := exists_first reached
      obtain ⟨-, hrest⟩ := first_lt_of_dense dense (by omega) before
      rw [idle.verdicts_eq on few dense before due] at ht
      simp only [List.mem_append, List.mem_map, List.mem_cons, Prod.mk.injEq, reduceCtorEq,
        and_false, exists_false, false_or, Option.some.injEq, Option.ite_none_right_eq_some]
        at ht
      obtain ⟨u, hu, rfl, hdead, -⟩ := ht
      have hafter := le_of_dense hrest u hu
      by_contra hsoon
      rw [UInt32.lt_iff_toNat_lt, toNat_elapsed hafter (by omega), toNat_half] at hdead
      omega
    · have before : ∀ u ∈ times, u < start + 500 * seconds.toNat := fun u hu =>
        Nat.lt_of_not_le fun hreached => reached ⟨u, hu, hreached⟩
      rw [hquiet before] at ht
      simp at ht
  -- The times reach far enough for the ping, and since they are dense also for the end
  -- of the wait for its answer.
  · obtain ⟨last, hlast, hpast⟩ := reached
    obtain ⟨early, first, late, rfl, before, due⟩ :=
      exists_first ⟨last, hlast, (by omega : start + 500 * seconds.toNat ≤ last)⟩
    obtain ⟨hfirst, hrest⟩ := first_lt_of_dense dense (by omega) before
    have hlate : last ∈ late := by
      rcases List.mem_append.1 hlast with hearly | hlast
      · have := before last hearly
        omega
      · rcases List.mem_cons.1 hlast with rfl | hlate
        · omega
        · exact hlate
    -- The first time more than half the interval after the ping.
    obtain ⟨waiting, dead, others, rfl, hwaiting, hdead⟩ :=
      exists_first ⟨last, hlate, (by omega : first + 500 * seconds.toNat + 1 ≤ last)⟩
    obtain ⟨hsoon, -⟩ := first_lt_of_dense hrest (by omega) hwaiting
    have hverdict : half seconds < elapsed dead.toUInt32 first.toUInt32 := by
      rw [UInt32.lt_iff_toNat_lt, toNat_elapsed (by omega) (by omega), toNat_half]
      omega
    refine ⟨dead, by omega, ?_⟩
    rw [idle.verdicts_eq on few dense before due]
    simp [hverdict]

/-- **A silence is noticed in time.**  Let the timers of a link with a keep-alive of some
seconds be started or hear an answer at a real time, and be asked from then on at real
times at most `gap` apart, while nothing more is heard and a ping that is due goes out at
once.  As long as half the interval and a gap are less than a turn of the clock, however
often the clock wraps in between: the ping is called for once, at the first time half the
interval after the start; the link is not found dead within the whole interval; and it is
found dead at most two gaps later, if the timers are asked for so long. -/
theorem silence_detected (seconds : UInt16) (gap start : Nat) (times : List Nat)
    (k fresh : KeepAlive) (on : seconds ≠ 0) (few : 500 * seconds.toNat + gap < 2 ^ 32)
    (interval : k.interval = (ofSeconds seconds).interval)
    (heard : fresh = k.reset start.toUInt32 ∨ fresh = k.ponged start.toUInt32)
    (dense : (start :: times).IsChain (Within gap)) :
    fresh.Detects (500 * seconds.toNat) gap start times := by
  have idle : Idle seconds start fresh := by
    rcases heard with rfl | rfl <;> exact ⟨interval, rfl, rfl⟩
  exact idle.detects on few dense

/-- A keep-alive of one second, started 100 ms before the clock wraps for the third time:
the ping goes out 1 ms after it could, and the link is found dead. -/
theorem silence_detected_across_wrap :
    let start := 3 * 2 ^ 32 - 100
    let k := (ofSeconds 1).reset start.toUInt32
    let times := [start + 300, start + 501, start + 801, start + 1001, start + 1301, start + 1601]
    k.Detects 500 300 start times ∧ k.verdicts times =
      [(start + 300, none), (start + 501, some .ping), (start + 801, none), (start + 1001, none),
        (start + 1301, some .linkDead), (start + 1601, some .linkDead)] :=
  ⟨silence_detected 1 300 _ _ (ofSeconds 1) _ (by decide) (by decide) rfl (.inl rfl)
    (by simp [Within]), by decide⟩

end KeepAlive
end Mqtt
