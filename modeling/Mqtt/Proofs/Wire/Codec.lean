/-
# Lengths written and read

The writer and the reader of a length side by side.  What is written is the shortest
form, from which the reader gives the length back; a part of that form leaves the length
open.  The other way round they do not undo each other, since the reader also accepts
longer forms, which are never written.

The first four bytes decide what the reader says.

| the bytes | verdict |
| --- | --- |
| at least four, the first four marked | malformed |
| fewer than four, all marked | open |
| any others | a length, and how many bytes its form takes |

`Length.codec` says all of this of every length and of all bytes.
-/
import Mqtt.Proofs.Wire.Length
import Mqtt.Proofs.Wire.Stream

namespace Mqtt
namespace Length

variable {n value used : Nat} {bytes missing room : List UInt8}

/-- Where there is room for its size, a length is written as its shortest form, and the
room behind stays as it was. -/
theorem write_of_fits (h : n ≤ limit) (fits : size n ≤ room.length) :
    write n room = .ok (size n) (encode n ++ room.drop (size n)) := by
  rw [← length_encode h] at fits ⊢
  rw [write_eq room h, if_pos fits]

/-- What is read is a form at the start of the bytes, no shorter than the shortest. -/
theorem form_of_decode (h : decode bytes = .ok (some (value, used))) :
    Form (bytes.take used) value ∧ value ≤ limit ∧ size value ≤ used ∧ used ≤ bytes.length := by
  obtain ⟨field, rest, rfl, form, four, rfl⟩ := decodePlaces_eq_some_iff.1 h
  have hlimit := form.le_limit four
  refine ⟨?_, hlimit, ?_, ?_⟩
  · rwa [List.take_left]
  · rw [← length_encode hlimit]
    exact form.length_places_le 4
  · rw [List.length_append]
    exact Nat.le_add_right ..

/-- Bytes that end inside the form of a length leave it open. -/
theorem decode_of_cut (h : decode (bytes ++ missing) = .ok (some (value, used)))
    (short : bytes.length < used) : decode bytes = .ok none := by
  refine Classical.byContradiction fun hclosed => ?_
  -- A verdict that is not open would be the verdict on all the bytes.
  have hall : decode (bytes ++ missing) = decode bytes := decodePlaces_append hclosed missing
  have hused := (form_of_decode (hall ▸ h)).2.2.2
  exact absurd hused (Nat.not_le.2 short)

/-- **No length can be read exactly where the first four bytes are all marked.**  A
fifth byte is never looked at. -/
theorem decode_eq_error_iff {fault : Fault} :
    decode bytes = .error fault ↔
      fault = .malformedRemainingLength ∧ 4 ≤ bytes.length ∧ ∀ b ∈ bytes.take 4, 128 ≤ b := by
  refine decodePlaces_eq_error_iff.trans (and_congr_right fun _ => ⟨?_, ?_⟩)
  · rintro ⟨marked, rest, rfl, four, all⟩
    rw [← four, List.take_left, List.length_append]
    exact ⟨Nat.le_add_right .., all⟩
  · rintro ⟨four, all⟩
    exact ⟨bytes.take 4, bytes.drop 4, (List.take_append_drop ..).symm,
      List.length_take_of_le four, all⟩

/-- A byte among the first four that is not marked ends a length. -/
theorem exists_decode_of_unmarked (h : ∃ b ∈ bytes.take 4, b < 128) :
    ∃ value used, decode bytes = .ok (some (value, used)) := by
  obtain ⟨b, hb, unmarked⟩ := h
  cases hread : decode bytes with
  | error fault =>
    have hmarked := (decode_eq_error_iff.1 hread).2.2 b hb
    exact absurd unmarked (UInt8.not_lt.2 hmarked)
  | ok read =>
    cases read with
    | none =>
      have hmarked := (decodePlaces_eq_none_iff.1 hread).2 b (List.mem_of_mem_take hb)
      exact absurd unmarked (UInt8.not_lt.2 hmarked)
    | some read => exact ⟨read.1, read.2, rfl⟩

/-- **Lengths are written in the shortest form and read in any.**  Up to the limit a
length is written over any room of at least its size, in exactly so many bytes; from
these it is read back whatever follows, from fewer of them it stays open, and no fewer
bytes are read as it.  Beyond the limit nothing is written.  All bytes are malformed,
open or a length by their first four, and a length that is read is up to the limit and
takes at least the bytes of its shortest form. -/
theorem codec :
    (∀ n, n ≤ limit →
      (encode n).length = size n ∧
      (∀ room, size n ≤ room.length →
        write n room = .ok (size n) (encode n ++ room.drop (size n))) ∧
      (∀ rest, decode (encode n ++ rest) = .ok (some (n, size n))) ∧
      (∀ bytes missing, encode n = bytes ++ missing → missing ≠ [] → decode bytes = .ok none) ∧
      (∀ bytes used, bytes.length < size n → decode bytes ≠ .ok (some (n, used)))) ∧
    (∀ n room, limit < n → write n room = .error .malformedRemainingLength room) ∧
    (∀ bytes,
      (∀ fault, decode bytes = .error fault ↔
        fault = .malformedRemainingLength ∧ 4 ≤ bytes.length ∧ ∀ b ∈ bytes.take 4, 128 ≤ b) ∧
      (decode bytes = .ok none ↔ bytes.length < 4 ∧ ∀ b ∈ bytes, 128 ≤ b) ∧
      ((∃ b ∈ bytes.take 4, b < 128) → ∃ value used, decode bytes = .ok (some (value, used)) ∧
        Form (bytes.take used) value ∧ value ≤ limit ∧ size value ≤ used)) := by
  refine ⟨fun n hn => ?_, fun n room => write_of_limit_lt room, fun bytes => ?_⟩
  · have hsize := length_encode hn
    have hread : ∀ rest, decode (encode n ++ rest) = .ok (some (n, size n)) := fun rest =>
      hsize ▸ decode_encode rest hn
    refine ⟨hsize, fun room => write_of_fits hn, hread, fun bytes missing split short => ?_,
      fun bytes used fewer h => ?_⟩
    · have hwhole := hread []
      rw [List.append_nil, split] at hwhole
      refine decode_of_cut hwhole ?_
      rw [← hsize, split, List.length_append]
      exact Nat.lt_add_of_pos_right (List.length_pos_iff.2 short)
    · obtain ⟨-, -, hleast, hused⟩ := form_of_decode h
      omega
  · refine ⟨fun _ => decode_eq_error_iff, decodePlaces_eq_none_iff, fun unmarked => ?_⟩
    obtain ⟨value, used, h⟩ := exists_decode_of_unmarked unmarked
    obtain ⟨form, hlimit, hleast, -⟩ := form_of_decode h
    exact ⟨value, used, h, form, hlimit, hleast⟩

end Length
end Mqtt
