/-
# Bytes that end before their first frame does

Bytes are held back while their first frame is not all there.  `Unfinished` says what such
bytes are, without a reader: they end in the header, where all that there is names a kind
and leaves the length open, or after it, with something of a body missing that is not too
large.

| the bytes     | end            | still to come                 |
|---------------|----------------|-------------------------------|
| none          | in the header  | a whole frame                 |
| `30`          | in the header  | one to four bytes of a length |
| `30 FF FF FF` | in the header  | the last byte of the length   |
| `D0 05 00`    | after it       | four bytes of the body        |

The verdict that a cut is unfinished is given to these bytes and no others
(`Cut.first_eq_unfinished_iff`), and there is always room for a byte after them
(`Unfinished.length_lt`).
-/
import Mqtt.Proofs.Wire.Grammar

namespace Mqtt

/-- The bytes end before their first frame does, which is of at most so many bytes. -/
inductive Unfinished (limit : Nat) (bytes : List UInt8) : Prop
  /-- In its header: the first byte names a kind, and no other ends the length. -/
  | header (few : bytes.length ≤ 4)
      (named : ∀ first ∈ bytes.head?, ∃ kind, Kind.ofFirstByte? first = some kind)
      (marked : ∀ b ∈ bytes.tail, 128 ≤ b)
  /-- After its header, with something missing. -/
  | body {frame field body missing : List UInt8} {first : UInt8} {kind : Kind}
      (framed : Framed frame first field body) (named : Kind.ofFirstByte? first = some kind)
      (fits : frame.length ≤ limit) (split : frame = bytes ++ missing) (short : missing ≠ [])
      (announced : 1 + field.length ≤ bytes.length)

/-- No bytes are unfinished for every limit: a whole frame is still to come. -/
theorem unfinished_nil (limit : Nat) : Unfinished limit [] :=
  .header (Nat.zero_le 4) nofun nofun

/-- **Bytes that are held back leave room**, if there is room for a header at all.  A
header that is open has at most four bytes, and a frame that is not whole is shorter
than what fits. -/
theorem Unfinished.length_lt {limit : Nat} {bytes : List UInt8} (h : Unfinished limit bytes)
    (large : 4 < limit) : bytes.length < limit := by
  cases h with
  | header few => omega
  | body _ _ fits split short =>
    rw [split, List.length_append] at fits
    have hmissing := List.length_pos_iff.2 short
    omega

namespace Header

/-- What a frame announces is its own, wherever bytes of it end after the header. -/
theorem parse_of_framed {frame field body bytes missing : List UInt8} {first : UInt8} {kind : Kind}
    (framed : Framed frame first field body) (named : Kind.ofFirstByte? first = some kind)
    (split : frame = bytes ++ missing) (announced : 1 + field.length ≤ bytes.length) :
    ∃ header, parse bytes = .ok (some header) ∧ header.frameSize = frame.length := by
  have hparse := framed.parse named []
  rw [List.append_nil] at hparse
  have htake := parse_take hparse announced
  rw [split, List.take_left] at htake
  refine ⟨_, htake, ?_⟩
  rw [framed.bytes, List.length_cons, List.length_append]
  show 1 + field.length + body.length = field.length + body.length + 1
  omega

end Header

/-- With their header there, bytes that are too few end in the middle of a frame. -/
theorem Unfinished.of_parse {limit : Nat} {bytes : List UInt8} {header : Header}
    (h : Header.parse bytes = .ok (some header)) (fits : header.frameSize ≤ limit)
    (short : bytes.length < header.frameSize) : Unfinished limit bytes := by
  obtain ⟨first, field, more, rfl, named, -, form, four, hsize⟩ := Header.exists_form_of_parse h
  rw [Header.frameSize, hsize] at fits short
  rw [List.length_cons, List.length_append] at short
  -- Any bytes will do for those that are missing.
  let missing : List UInt8 := List.replicate (header.bodySize - more.length) 0
  have hmissing : missing.length = header.bodySize - more.length := List.length_replicate
  have hbody : (more ++ missing).length = header.bodySize := by
    rw [List.length_append]
    omega
  have framed : Framed (first :: (field ++ (more ++ missing))) first field (more ++ missing) :=
    ⟨rfl, hbody ▸ form, four⟩
  have split : first :: (field ++ (more ++ missing)) = first :: (field ++ more) ++ missing := by
    rw [List.cons_append, List.append_assoc]
  refine .body framed named ?_ split ?_ ?_
  · rw [List.length_cons, List.length_append, hbody]
    omega
  · rw [← List.length_pos_iff]
    omega
  · rw [List.length_cons, List.length_append]
    omega

/-- **A cut is unfinished exactly where the bytes end before their first frame
does.**  The right side says so without the reader: by the first byte, the marks of the
length and what it announces. -/
theorem Cut.first_eq_unfinished_iff {limit : Nat} {bytes : List UInt8} :
    first limit bytes = .unfinished ↔ Unfinished limit bytes := by
  constructor
  · intro h
    unfold first at h
    split at h
    · cases h
    · next hnone =>
      -- Either the header is not whole yet, or it is and the body is not.
      obtain ⟨few, named, marked⟩ := Header.parse_eq_none_iff.1 hnone
      exact .header few named marked
    · next header hsome =>
      have hpos : 0 < header.frameSize :=
        Nat.add_pos_left (Nat.lt_of_lt_of_le Nat.two_pos (Header.two_le_size hsome)) _
      split at h
      · cases h
      · next hfits =>
        split at h
        · cases h
        · next hshort => exact .of_parse hsome (Nat.not_lt.1 hfits) (by omega)
  · intro h
    cases h with
    | header few named marked =>
      have hparse := Header.parse_eq_none_iff.2 ⟨few, named, marked⟩
      unfold first
      split <;> simp_all
    | body framed named fits split short announced =>
      obtain ⟨header, hparse, hsize⟩ := Header.parse_of_framed framed named split announced
      have hlength := congrArg List.length split
      rw [List.length_append, ← hsize] at hlength
      have hmissing := List.length_pos_iff.2 short
      unfold first
      split
      · simp_all
      · simp_all
      · next found hfound =>
        rw [hparse, Except.ok.injEq, Option.some.injEq] at hfound
        subst hfound
        rw [if_neg (by omega), dif_neg (by omega)]

end Mqtt
