/-
# The length field

A frame announces how many bytes follow its header in one to four bytes of
base 128, least significant place first.  The high bit of a byte says that
another place follows.

| bytes | smallest | largest |
| ---: | ---: | ---: |
| 1 | 0 | 127 |
| 2 | 128 | 16383 |
| 3 | 16384 | 2097151 |
| 4 | 2097152 | 268435455 |

`encode` is the shortest form, and `write` puts it over the start of some room.
`decode` also accepts longer forms of a length, such as `80 00` for 0, as long as
they end within four bytes.
-/
import Mqtt.Action
import Mqtt.Fault

namespace Mqtt

section

variable {α β : Type} {read : Except Fault (Option α)} {f : α → β}

/-- What is made of what was read leaves open whether there was enough to read. -/
theorem map_eq_none_iff : read.map (Option.map f) = .ok none ↔ read = .ok none := by
  rcases read with _ | (_ | _) <;> simp [Except.map]

/-- What is made of what was read is there exactly if it is made of something that was
read. -/
theorem map_eq_some_iff {b : β} :
    read.map (Option.map f) = .ok (some b) ↔ ∃ a, read = .ok (some a) ∧ f a = b := by
  rcases read with _ | (_ | _) <;> simp [Except.map]

/-- Making something of what was read neither fails nor hides a failure: it fails exactly
if reading does, in the same way. -/
theorem map_eq_error_iff {fault : Fault} :
    read.map (Option.map f) = .error fault ↔ read = .error fault := by
  rcases read with _ | (_ | _) <;> simp [Except.map]

end

namespace Length

/-- The largest length that four places hold. -/
def limit : Nat := 268435455

/-- How many bytes the shortest form of a length takes. -/
def size (n : Nat) : Nat :=
  if n ≤ 127 then 1
  else if n ≤ 16383 then 2
  else if n ≤ 2097151 then 3
  else 4

/-- The places of a number in base 128, at most so many, each but the last marked. -/
def places : (most : Nat) → Nat → List UInt8
  | 0, _ => []
  | most + 1, n =>
    if n < 128 then [n.toUInt8] else (n % 128 + 128).toUInt8 :: places most (n / 128)

/-- The shortest form of a length up to the limit. -/
def encode (n : Nat) : List UInt8 :=
  places 4 n

/-- Writes the places of a number over the start of some room and counts them.  Those
that were written stay if the room ends before the number does. -/
def writePlaces : Nat → Action Fault (List UInt8) Nat
  | _, [] => .error .bufferTooSmall []
  | n, _ :: room =>
    if n < 128 then .ok 1 (n.toUInt8 :: room)
    else
      match writePlaces (n / 128) room with
      | .ok count room => .ok (count + 1) ((n % 128 + 128).toUInt8 :: room)
      | .error fault room => .error fault ((n % 128 + 128).toUInt8 :: room)

/-- Writes the shortest form of a length and says how many bytes it took.  A length
beyond the limit is refused before anything is written. -/
def write (n : Nat) : Action Fault (List UInt8) Nat :=
  if n ≤ limit then writePlaces n else throw .malformedRemainingLength

/-- Reads at most so many places: the number with the count of bytes it took,
nothing if the bytes end first, a fault if every place is marked. -/
def decodePlaces : (most : Nat) → List UInt8 → Except Fault (Option (Nat × Nat))
  | 0, _ => .error .malformedRemainingLength
  | _ + 1, [] => .ok none
  | most + 1, b :: bytes =>
    if b < 128 then .ok (some (b.toNat, 1))
    else (decodePlaces most bytes).map fun read =>
      read.map fun (value, used) => (b.toNat - 128 + 128 * value, used + 1)

/-- The length at the start of the bytes and how many of them it took. -/
def decode (bytes : List UInt8) : Except Fault (Option (Nat × Nat)) :=
  decodePlaces 4 bytes

example : encode 321 = [0xC1, 0x02] ∧ decode [0xC1, 0x02, 0xFF] = .ok (some (321, 2)) :=
  ⟨rfl, rfl⟩

end Length
end Mqtt
