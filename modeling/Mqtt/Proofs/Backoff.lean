/-
# How long the waits get

A delay that doubles is computed in three steps, each of which cuts off what 32 bits do
not hold: the power of two, its product with the first delay, and the longest delay.
What is cut off early makes no difference later.  A power that does not fit is cut down
to the largest count, and with that any first delay but 0 is past every longest delay
already; a first delay of 0 stays 0 (`min_mul_min`).  So the delay is the one that
unbounded numbers give (`delay_doubles`).
-/
import Mathlib.Algebra.Group.Nat.Defs
import Mathlib.Order.Lattice
import Mqtt.Backoff

namespace Mqtt
namespace Backoff

/-- A factor that is cut down takes a product past the bound, or the product is 0. -/
theorem min_mul_min (a factor bound : Nat) :
    min (a * min factor bound) bound = min (a * factor) bound := by
  rcases Nat.eq_zero_or_pos a with rfl | hpos
  · rw [Nat.zero_mul, Nat.zero_mul]
  rcases Nat.le_total factor bound with hle | hge
  · rw [Nat.min_eq_left hle]
  · have hcut : bound ≤ a * bound := Nat.le_mul_of_pos_left bound hpos
    have htrue : bound ≤ a * factor := Nat.le_trans hcut (Nat.mul_le_mul_left a hge)
    rw [Nat.min_eq_right hge, Nat.min_eq_right hcut, Nat.min_eq_right htrue]

/-- The numbers up to the largest delay are those of 32 bits. -/
theorem le_limit_iff {n : Nat} : n ≤ limit.toNat ↔ n < 2 ^ 32 :=
  Nat.lt_succ_iff.symm

/-- Every delay is at most the largest one. -/
theorem toNat_le_limit (ms : UInt32) : ms.toNat ≤ limit.toNat :=
  le_limit_iff.2 ms.toNat_lt

/-- A factor is the power of two, as far as that fits. -/
theorem toNat_factor (doublings : Nat) :
    (factor doublings).toNat = min (2 ^ doublings) limit.toNat := by
  unfold factor
  split
  case isTrue hfits =>
    have hpow : 2 ^ doublings < 2 ^ 32 := Nat.pow_lt_pow_right (by decide) hfits
    have hcount : doublings % 2 ^ 32 = doublings := Nat.mod_eq_of_lt (by omega)
    rw [Nat.min_eq_left (le_limit_iff.2 hpow), UInt32.toNat_shiftLeft]
    simp only [Nat.toUInt32_eq, UInt32.toNat_ofNat', hcount, Nat.mod_eq_of_lt hfits]
    rw [UInt32.toNat_one, Nat.one_shiftLeft, Nat.mod_eq_of_lt hpow]
  case isFalse hlarge =>
    have hpow : 2 ^ 32 ≤ 2 ^ doublings :=
      Nat.pow_le_pow_right (by decide) (Nat.not_lt.1 hlarge)
    rw [Nat.min_eq_right (Nat.le_trans (by decide) hpow)]

/-- A lengthened delay is the product, as far as that fits. -/
theorem toNat_lengthen (ms factor : UInt32) :
    (lengthen ms factor).toNat = min (ms.toNat * factor.toNat) limit.toNat := by
  unfold lengthen
  split
  case isTrue hfits =>
    rw [Nat.min_eq_left hfits, UInt32.toNat_mul, Nat.mod_eq_of_lt (le_limit_iff.1 hfits)]
  case isFalse hlarge => rw [Nat.min_eq_right (Nat.le_of_not_le hlarge)]

/-- A delay doubles with every failure, up to the longest. -/
theorem toNat_delay (initial longest : UInt32) (failures : Nat) :
    ((exponential initial longest).delay failures).toNat =
      min (initial.toNat * 2 ^ failures) longest.toNat := by
  rw [delay, UInt32.toNat_min, toNat_lengthen, toNat_factor, min_mul_min, Nat.min_assoc,
    Nat.min_eq_right (toNat_le_limit longest)]

/-- **Delays double up to the longest, and then stay there.**  The words of 32 bits in
which they are computed do not show: every delay is what unbounded numbers give, whatever
the first and the longest delay and however many failures there were.  So no delay is
shorter than one before it, and none is longer than the longest. -/
theorem delay_doubles (initial longest : UInt32) (failures : Nat) :
    ((exponential initial longest).delay failures).toNat =
        min (initial.toNat * 2 ^ failures) longest.toNat ∧
      (∀ more, (exponential initial longest).delay failures ≤
        (exponential initial longest).delay (failures + more)) ∧
      (exponential initial longest).delay failures ≤ longest := by
  refine ⟨toNat_delay initial longest failures, fun more => ?_, ?_⟩
  · rw [UInt32.le_iff_toNat_le, toNat_delay, toNat_delay]
    have hpow : 2 ^ failures ≤ 2 ^ (failures + more) :=
      Nat.pow_le_pow_right (by decide) (Nat.le_add_right failures more)
    have hmul := Nat.mul_le_mul_left initial.toNat hpow
    omega
  · rw [UInt32.le_iff_toNat_le, toNat_delay]
    exact Nat.min_le_right ..

/-- The last power of two that fits, and the first that does not. -/
example : (exponential 1 limit).delay 31 = 2147483648 ∧
    (exponential 1 limit).delay 32 = limit ∧ (exponential 0 limit).delay 32 = 0 := by
  decide

end Backoff
end Mqtt
