/-
# Cutting a stream into frames

Bytes arrive in pieces that have nothing to do with frames.  `Cut.first` looks
at the bytes held and says what they begin with.

| verdict | the bytes |
| --- | --- |
| `unfinished` | end before their first frame does |
| `broken` | begin with what is no header |
| `oversized` | announce a frame larger than there is room for |
| `whole` | begin with this frame, then go on with the rest |

A frame is oversized as soon as its header says so, whether or not its bytes
have arrived.
-/
import Mqtt.Wire.Header

namespace Mqtt

/-- What a run of bytes begins with. -/
inductive Cut (held : List UInt8) where
  | unfinished
  | broken (fault : Fault)
  | oversized (size : Nat)
  | whole (frame rest : List UInt8) (split : held = frame ++ rest) (nonempty : frame ≠ [])

namespace Length

/-- A length that was read took at least one byte. -/
theorem one_le_used {most : Nat} {bytes : List UInt8} {value used : Nat}
    (h : decodePlaces most bytes = .ok (some (value, used))) : 1 ≤ used := by
  cases most with
  | zero => cases h
  | succ most =>
    cases bytes with
    | nil => cases h
    | cons b bytes =>
      rw [decodePlaces] at h
      split at h
      · cases h
        exact Nat.le_refl 1
      · obtain ⟨read, -, hread⟩ := map_eq_some_iff.1 h
        cases hread
        exact Nat.le_add_left 1 read.2

end Length

namespace Cut

/-- Less remains once a frame has been cut off. -/
theorem length_rest_lt {held frame rest : List UInt8} (split : held = frame ++ rest)
    (nonempty : frame ≠ []) : rest.length < held.length := by
  rw [split, List.length_append]
  exact Nat.lt_add_of_pos_left (List.length_pos_iff.mpr nonempty)

/-- The verdict on the bytes held, when frames of at most `limit` bytes are accepted. -/
def first (limit : Nat) (held : List UInt8) : Cut held :=
  match Header.parse held with
  | .error fault => .broken fault
  | .ok none => .unfinished
  | .ok (some header) =>
    if limit < header.frameSize then .oversized header.frameSize
    else if h : 0 < header.frameSize ∧ header.frameSize ≤ held.length then
      .whole (held.take header.frameSize) (held.drop header.frameSize)
        (List.take_append_drop ..).symm (by
          rw [← List.length_pos_iff, List.length_take]
          omega)
    else .unfinished

end Cut
end Mqtt
