/-
# Forms of a length

A length has as many forms as there are ways to write it in places of base 128
with all but the last marked: a form ends where a place is not marked, and a
form whose last place is zero only says the same in more bytes.  `Length.Form`
is that relation.  The reader accepts the forms of at most four bytes and no
others (`Length.decodePlaces_eq_some_iff`, `Length.decodePlaces_eq_error_iff`).
A form is determined by the length and its own size (`Length.Form.unique`), and
the writer chooses the shortest (`Length.Form.eq_encode_iff`).

| bytes | form of | shortest |
| --- | ---: | --- |
| `05` | 5 | yes |
| `85 00` | 5 | no |
| `80 01` | 128 | yes |
-/
import Mqtt.Proofs.Wire.Packed

namespace Mqtt
namespace Length

/-- These bytes write the number in base 128, least significant place first, and
exactly the places that another one follows are marked. -/
inductive Form : List UInt8 → Nat → Prop where
  | last (b : UInt8) (unmarked : b < 128) : Form [b] b.toNat
  | more (b : UInt8) (marked : 128 ≤ b) {field : List UInt8} {n : Nat} (rest : Form field n) :
      Form (b :: field) (b.toNat - 128 + 128 * n)

/-- No form of the number takes fewer bytes. -/
def IsShortest (field : List UInt8) (n : Nat) : Prop :=
  ∀ other, Form other n → field.length ≤ other.length

namespace Form

variable {field other : List UInt8} {n m : Nat}

/-- No length has a form without bytes: 0 is written as one place. -/
theorem length_pos (form : Form field n) : 0 < field.length := by
  cases form with
  | last b _ => exact Nat.one_pos
  | more b _ _ => exact Nat.succ_pos _

/-- A form of so many bytes is of a number that so many places hold. -/
theorem lt_bound (form : Form field n) : n < bound field.length := by
  induction form with
  | last b unmarked => exact UInt8.lt_iff_toNat_lt.1 unmarked
  | @more b marked field n rest ih =>
    have hb := b.toNat_lt
    rw [List.length_cons, bound]
    omega

/-- A form in the four places of a header is of a length up to the limit. -/
theorem le_limit (form : Form field n) (four : field.length ≤ 4) : n ≤ limit := by
  have hpos := form.length_pos
  have hlt := form.lt_bound
  have hcases : field.length = 1 ∨ field.length = 2 ∨ field.length = 3 ∨ field.length = 4 := by
    omega
  rcases hcases with h | h | h | h <;> rw [h] at hlt <;> simp only [bound, limit] at hlt ⊢ <;> omega

/-- **A number has one form of each size.**  Two forms of one size differ in some place,
and then in the number. -/
theorem unique (form : Form field n) (again : Form other n) (size : field.length = other.length) :
    field = other := by
  induction form generalizing other with
  | last b unmarked =>
    generalize hn : b.toNat = n at again
    cases again with
    | last c _ => rw [UInt8.toNat.inj hn]
    | more c _ rest =>
      have hpos := rest.length_pos
      simp only [List.length_cons, List.length_nil] at size
      omega
  | @more b marked field n rest ih =>
    generalize hm : b.toNat - 128 + 128 * n = m at again
    cases again with
    | last c _ =>
      have hpos := rest.length_pos
      simp only [List.length_cons, List.length_nil] at size
      omega
    | @more c marked' field' n' rest' =>
      have hb := b.toNat_lt
      have hc := c.toNat_lt
      have hb' : 128 ≤ b.toNat := marked
      have hc' : 128 ≤ c.toNat := marked'
      obtain rfl : n = n' := by omega
      obtain rfl : b = c := UInt8.toNat.inj (by omega)
      rw [ih rest' (Nat.succ.inj size)]

/-- A form is read back, whatever follows it. -/
theorem decodePlaces (form : Form field n) {most : Nat} (fits : field.length ≤ most)
    (rest : List UInt8) :
    Length.decodePlaces most (field ++ rest) = .ok (some (n, field.length)) := by
  induction form generalizing most with
  | last b unmarked =>
    obtain ⟨most, rfl⟩ := Nat.exists_eq_add_of_le' fits
    simp only [List.singleton_append, Length.decodePlaces, if_pos unmarked, List.length_singleton]
  | @more b marked field n _ ih =>
    rw [List.length_cons] at fits
    obtain ⟨most, rfl⟩ : ∃ k, most = k + 1 := ⟨most - 1, by omega⟩
    rw [List.cons_append, Length.decodePlaces, if_neg (UInt8.not_lt.2 marked),
      ih (Nat.le_of_succ_le_succ fits)]
    rfl

end Form

/-- **What is read as a length is a form of it**, of no more bytes than are allowed. -/
theorem decodePlaces_eq_some_iff {most n used : Nat} {bytes : List UInt8} :
    decodePlaces most bytes = .ok (some (n, used)) ↔
      ∃ field rest, bytes = field ++ rest ∧ Form field n ∧ field.length ≤ most ∧
        used = field.length := by
  constructor
  · intro h
    induction most generalizing bytes n used with
    | zero => simp [decodePlaces] at h
    | succ most ih =>
      cases bytes with
      | nil => simp [decodePlaces] at h
      | cons b bytes =>
        rw [decodePlaces] at h
        split at h
        case isTrue unmarked =>
          cases h
          exact ⟨[b], bytes, rfl, .last b unmarked, Nat.le_add_left 1 most, rfl⟩
        case isFalse marked =>
          obtain ⟨⟨before, taken⟩, hread, hvalue⟩ := map_eq_some_iff.1 h
          cases hvalue
          obtain ⟨field, rest, rfl, form, fits, rfl⟩ := ih hread
          exact ⟨b :: field, rest, rfl, .more b (UInt8.not_lt.1 marked) form,
            Nat.succ_le_succ fits, List.length_cons.symm⟩
  · rintro ⟨field, rest, rfl, form, fits, rfl⟩
    exact form.decodePlaces fits rest

/-- **No length can be read exactly where all the places there may be are marked.** -/
theorem decodePlaces_eq_error_iff {most : Nat} {bytes : List UInt8} {fault : Fault} :
    decodePlaces most bytes = .error fault ↔
      fault = .malformedRemainingLength ∧
        ∃ marked rest, bytes = marked ++ rest ∧ marked.length = most ∧ ∀ b ∈ marked, 128 ≤ b := by
  -- On the places there may still be, each with one byte.
  induction most generalizing bytes with
  | zero =>
    constructor
    · intro h
      cases h
      exact ⟨rfl, [], bytes, rfl, rfl, fun _ hb => absurd hb List.not_mem_nil⟩
    · rintro ⟨rfl, -⟩
      rfl
  | succ most ih =>
    cases bytes with
    | nil =>
      constructor
      · intro h
        cases h
      · rintro ⟨-, marked, rest, hnil, hlength, -⟩
        have hempty := (List.append_eq_nil_iff.1 hnil.symm).1
        rw [hempty] at hlength
        cases hlength
    | cons b bytes =>
      rw [decodePlaces]
      split
      case isTrue unmarked =>
        constructor
        · intro h
          cases h
        · rintro ⟨-, marked, rest, hsplit, hlength, hmarked⟩
          obtain ⟨c, marked, rfl⟩ := List.exists_cons_of_length_eq_add_one hlength
          obtain ⟨rfl, -⟩ := List.cons.inj hsplit
          exact absurd unmarked (UInt8.not_lt.2 (hmarked b List.mem_cons_self))
      case isFalse hb =>
        rw [map_eq_error_iff, ih]
        refine and_congr_right fun _ => ⟨?_, ?_⟩
        · rintro ⟨marked, rest, rfl, hlength, hmarked⟩
          refine ⟨b :: marked, rest, rfl, congrArg Nat.succ hlength, fun c hc => ?_⟩
          rcases List.mem_cons.1 hc with rfl | hc
          · exact UInt8.not_lt.1 hb
          · exact hmarked c hc
        · rintro ⟨marked, rest, hsplit, hlength, hmarked⟩
          obtain ⟨c, marked, rfl⟩ := List.exists_cons_of_length_eq_add_one hlength
          obtain ⟨-, rfl⟩ := List.cons.inj hsplit
          exact ⟨marked, rest, rfl, Nat.succ.inj hlength,
            fun c hc => hmarked c (List.mem_cons_of_mem _ hc)⟩

/-- The places of a number are a form of it. -/
theorem form_places {most n : Nat} (h : n < bound most) (pos : 0 < most) :
    Form (places most n) n := by
  have hread := decodePlaces_places most n [] h pos
  obtain ⟨field, rest, hsplit, form, -, hlength⟩ := decodePlaces_eq_some_iff.1 hread
  rw [List.append_nil] at hsplit
  have hrest : rest = [] := by
    have := congrArg List.length hsplit
    rw [List.length_append, hlength] at this
    exact List.length_eq_zero_iff.1 (by omega)
  rw [hsplit, hrest, List.append_nil]
  exact form

/-- What the writer chooses is one of the forms of the number, so whatever is said of
forms is said of it. -/
theorem form_encode {n : Nat} (h : n ≤ limit) : Form (encode n) n :=
  form_places (lt_bound_of_le_limit h) (by decide)

/-- No form takes fewer bytes than the places of the number. -/
theorem Form.length_places_le {field : List UInt8} {n : Nat} (form : Form field n) (most : Nat) :
    (places most n).length ≤ field.length := by
  induction form generalizing most with
  | last b unmarked =>
    cases most with
    | zero => exact Nat.zero_le _
    | succ most =>
      have hb : b.toNat < 128 := unmarked
      rw [places, if_pos hb]
      exact Nat.le_refl 1
  | @more b marked field n rest ih =>
    cases most with
    | zero => exact Nat.zero_le _
    | succ most =>
      have hb := b.toNat_lt
      have hquot : (b.toNat - 128 + 128 * n) / 128 = n := by omega
      rw [places, hquot]
      split
      · exact Nat.le_add_left 1 field.length
      · exact Nat.succ_le_succ (ih most)

/-- **A length is written in its shortest form**, and no other form of it is shortest. -/
theorem Form.eq_encode_iff {field : List UInt8} {n : Nat} (form : Form field n)
    (four : field.length ≤ 4) : encode n = field ↔ IsShortest field n := by
  constructor
  · rintro rfl other hother
    exact hother.length_places_le 4
  · intro hshort
    have hencode := form_encode (form.le_limit four)
    exact hencode.unique form (Nat.le_antisymm (form.length_places_le 4) (hshort _ hencode))

/-- The shortest form takes the bytes that `size` says. -/
theorem length_encode {n : Nat} (h : n ≤ limit) : (encode n).length = size n := by
  unfold limit at h
  grind [encode, places, size]

end Length
end Mqtt
