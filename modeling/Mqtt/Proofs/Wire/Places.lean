/-
# The places of a number

A number is written in base 128 one place after the other, and read back place by
place.  What the writer leaves in the room is said once, by `Length.places`, for the
room that is large enough and for the room that is not (`Length.writePlaces_eq`); the
reader gives the number back whatever follows its places (`Length.decodePlaces_places`).

| room | written of 321 | outcome |
| --- | --- | --- |
| `00 00 00` | `C1 02 00` | 2 bytes |
| `00` | `C1` | no room |
-/
import Mqtt.Wire.Frame

namespace Mqtt
namespace Length

/-- The numbers that need at most so many places are less than this. -/
def bound : (most : Nat) → Nat
  | 0 => 1
  | most + 1 => 128 * bound most

/-- What is left of a number after a place that another one follows. -/
theorem div_lt_bound {most n : Nat} (h : n < bound (most + 1)) (more : ¬ n < 128) :
    n / 128 < bound most ∧ 0 < most := by
  rw [bound] at h
  refine ⟨by omega, Nat.pos_of_ne_zero ?_⟩
  rintro rfl
  rw [bound] at h
  omega

/-- The places of a number are read back, whatever follows them. -/
theorem decodePlaces_places (most n : Nat) (rest : List UInt8) (h : n < bound most)
    (pos : 0 < most) :
    decodePlaces most (places most n ++ rest) = .ok (some (n, (places most n).length)) := by
  induction most generalizing n with
  | zero => cases pos
  | succ most ih =>
    rw [places]
    split
    case isTrue hlast =>
      have hbyte : n.toUInt8.toNat = n := by
        simp
        omega
      have hless : n.toUInt8 < 128 := by
        rw [UInt8.lt_iff_toNat_lt, hbyte]
        exact hlast
      simp only [List.singleton_append, decodePlaces, if_pos hless, hbyte, List.length_singleton]
    case isFalse hmore =>
      have hbyte : (n % 128 + 128).toUInt8.toNat = n % 128 + 128 := by
        simp
        omega
      have hmarked : ¬ (n % 128 + 128).toUInt8 < 128 := by
        rw [UInt8.lt_iff_toNat_lt, hbyte]
        simp
      obtain ⟨hquot, hpos⟩ := div_lt_bound h hmore
      simp only [List.cons_append, decodePlaces, if_neg hmarked, ih _ hquot hpos, Except.map,
        Option.map_some, hbyte, List.length_cons, Except.ok.injEq, Option.some.injEq, Prod.mk.injEq,
        and_true]
      omega

/-- **The places of a number are written over the room**, or those that there is room
for.  By induction on the places, of which each takes a byte of the room. -/
theorem writePlaces_eq {most n : Nat} (room : List UInt8) (h : n < bound most) (pos : 0 < most) :
    writePlaces n room =
      if (places most n).length ≤ room.length then
        .ok (places most n).length (places most n ++ room.drop (places most n).length)
      else .error .bufferTooSmall ((places most n).take room.length) := by
  induction most generalizing n room with
  | zero => cases pos
  | succ most ih =>
    rw [places]
    split
    case isTrue hlast =>
      cases room with
      | nil => rfl
      | cons b room => simp [writePlaces, if_pos hlast]
    case isFalse hmore =>
      obtain ⟨hquot, hpos⟩ := div_lt_bound h hmore
      cases room with
      | nil => rfl
      | cons b room =>
        rw [writePlaces, if_neg hmore, ih room hquot hpos]
        simp only [List.length_cons, Nat.add_le_add_iff_right, List.take_succ_cons,
          List.drop_succ_cons, List.cons_append]
        by_cases fits : (places most (n / 128)).length ≤ room.length
        · simp only [if_pos fits]
        · simp only [if_neg fits]

/-- What can be announced is what four places can hold. -/
theorem lt_bound_of_le_limit {n : Nat} (h : n ≤ limit) : n < bound 4 :=
  Nat.lt_of_le_of_lt h (by decide)

/-- **A length is read back from its shortest form**, and with it the number of bytes that
it took, whatever comes after them. -/
theorem decode_encode {n : Nat} (rest : List UInt8) (h : n ≤ limit) :
    decode (encode n ++ rest) = .ok (some (n, (encode n).length)) :=
  decodePlaces_places 4 n rest (lt_bound_of_le_limit h) (by decide)

/-- A length up to the limit is written as its shortest form, as far as there is room. -/
theorem write_eq {n : Nat} (room : List UInt8) (h : n ≤ limit) :
    write n room =
      if (encode n).length ≤ room.length then
        .ok (encode n).length (encode n ++ room.drop (encode n).length)
      else .error .bufferTooSmall ((encode n).take room.length) := by
  rw [write, if_pos h]
  exact writePlaces_eq room (lt_bound_of_le_limit h) (by decide)

example : write 321 [0, 0, 0] = .ok 2 [0xC1, 0x02, 0] ∧
    write 321 [0] = .error .bufferTooSmall [0xC1] :=
  ⟨rfl, rfl⟩

/-- Nothing is written of a length beyond the limit. -/
theorem write_of_limit_lt {n : Nat} (room : List UInt8) (h : limit < n) :
    write n room = .error .malformedRemainingLength room := by
  rw [write, if_neg (Nat.not_le.2 h)]
  rfl

/-- No length takes more than four bytes. -/
theorem length_encode_le (n : Nat) : (encode n).length ≤ 4 := by
  have hplaces : ∀ most n, (places most n).length ≤ most := by
    intro most
    induction most with
    | zero => exact fun _ => Nat.le_refl _
    | succ most ih =>
      intro n
      rw [places]
      split
      · exact Nat.le_add_left 1 most
      · exact Nat.succ_le_succ (ih _)
  exact hplaces 4 n

end Length

/-- **A length is put as its shortest form**, all of it or nothing. -/
theorem Buffer.putLength_eq (buffer : Buffer) (n : Nat) :
    buffer.putLength n =
      if n ≤ Length.limit then buffer.put (Length.encode n)
      else .error .malformedRemainingLength := by
  unfold putLength put
  by_cases h : n ≤ Length.limit
  · rw [if_pos h, Length.write_eq _ h]
    by_cases fits : (Length.encode n).length ≤ buffer.room.length
    · simp only [if_pos fits, List.take_left, List.drop_left]
    · simp only [if_neg fits]
  · rw [if_neg h, Length.write_of_limit_lt _ (Nat.not_le.1 h)]

end Mqtt
