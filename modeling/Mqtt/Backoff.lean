/-
# Waiting between attempts to reconnect

After each failed attempt the worker waits, either always as long, or twice as
long as the time before up to a longest delay.

Milliseconds are counted in 32 bits.  A power of two or a product that does not fit
them is cut down to the largest count there is.
-/

namespace Mqtt

/-- A schedule of delays, in milliseconds. -/
inductive Backoff where
  | fixed (ms : UInt32)
  | exponential (initial longest : UInt32)
  deriving DecidableEq

namespace Backoff

/-- The largest count of milliseconds. -/
def limit : UInt32 := 4294967295

/-- By how much so many doublings lengthen a delay. -/
def factor (doublings : Nat) : UInt32 :=
  if doublings < 32 then 1 <<< doublings.toUInt32 else limit

/-- A delay lengthened by a factor. -/
def lengthen (ms factor : UInt32) : UInt32 :=
  if ms.toNat * factor.toNat ≤ limit.toNat then ms * factor else limit

/-- The delay after a failure that so many failures in a row went before. -/
def delay (backoff : Backoff) (failures : Nat) : UInt32 :=
  match backoff with
  | fixed ms => ms
  | exponential initial longest => min (lengthen initial (factor failures)) longest

/-- The schedule that settings have unless another one is set. -/
instance : Inhabited Backoff := ⟨.fixed 1000⟩

example : (exponential 500 8000).delay 0 = 500 ∧ (exponential 500 8000).delay 3 = 4000 ∧
    (exponential 500 8000).delay 10 = 8000 := by
  decide

end Backoff
end Mqtt
