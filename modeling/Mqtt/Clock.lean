/-
# The millisecond clock

Time is a count of milliseconds in 32 bits that wraps around.  Only differences
of two readings mean anything: subtraction wraps like the clock does, so the
time between two readings is right as long as it is less than one full turn
(about 49.7 days).
-/

namespace Mqtt

/-- The milliseconds from one reading of the clock to a later one. -/
def elapsed (now since : UInt32) : UInt32 :=
  now - since

/-- As many milliseconds pass as the clock was moved by, also where it wraps around on the
way. -/
theorem elapsed_add (since ms : UInt32) : elapsed (since + ms) since = ms := by
  rw [elapsed, UInt32.add_comm, UInt32.add_sub_cancel]

/-- Shifting both readings by one offset changes nothing. -/
theorem elapsed_add_add (now since offset : UInt32) :
    elapsed (now + offset) (since + offset) = elapsed now since := by
  rw [elapsed, elapsed, UInt32.sub_eq_iff_eq_add, ← UInt32.add_assoc, UInt32.sub_add_cancel]

example : elapsed 99 4294967195 = 200 := rfl

end Mqtt
