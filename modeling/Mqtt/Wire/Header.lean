/-
# The fixed header

| bytes | holds |
| --- | --- |
| 1 | kind in the high nibble, flags in the low one |
| 1 to 4 | length of the body (`Length`) |

A first byte that names no kind is malformed whatever follows it.
-/
import Mqtt.Wire.Kind
import Mqtt.Wire.Length

namespace Mqtt

/-- What the first bytes of a frame announce. -/
structure Header where
  kind : Kind
  /-- The low nibble of the first byte. -/
  flags : UInt8
  /-- How many bytes follow the header. -/
  bodySize : Nat
  /-- How many bytes the header itself takes, 2 to 5. -/
  size : Nat
  deriving DecidableEq

namespace Header

/-- The size of the whole frame. -/
def frameSize (header : Header) : Nat :=
  header.size + header.bodySize

/-- The header at the start of the bytes; nothing if they end before it does. -/
def parse : List UInt8 → Except Fault (Option Header)
  | [] => .ok none
  | first :: bytes =>
    match Kind.ofFirstByte? first with
    | none => .error .malformedPacket
    | some kind =>
      (Length.decode bytes).map fun length =>
        length.map fun (bodySize, used) => ⟨kind, first % 16, bodySize, 1 + used⟩

/-- A header is a first byte that names a kind, and a length. -/
theorem parse_eq_some_iff {bytes : List UInt8} {header : Header} :
    parse bytes = .ok (some header) ↔ ∃ first rest kind bodySize used, bytes = first :: rest ∧
      Kind.ofFirstByte? first = some kind ∧ Length.decode rest = .ok (some (bodySize, used)) ∧
        header = ⟨kind, first % 16, bodySize, 1 + used⟩ := by
  constructor
  · intro h
    cases bytes with
    | nil => cases h
    | cons first rest =>
      rw [parse] at h
      split at h
      · cases h
      · next kind named =>
        obtain ⟨⟨bodySize, used⟩, hlength, hheader⟩ := map_eq_some_iff.1 h
        exact ⟨first, rest, kind, bodySize, used, rfl, named, hlength, hheader.symm⟩
  · rintro ⟨first, rest, kind, bodySize, used, rfl, named, hlength, rfl⟩
    simp only [parse, named]
    exact map_eq_some_iff.2 ⟨_, hlength, rfl⟩

/-- There is no header behind a first byte that names no kind, or without a length. -/
theorem parse_eq_error_iff {bytes : List UInt8} {fault : Fault} :
    parse bytes = .error fault ↔ ∃ first rest, bytes = first :: rest ∧
      (Kind.ofFirstByte? first = none ∧ fault = .malformedPacket ∨
        (∃ kind, Kind.ofFirstByte? first = some kind) ∧ Length.decode rest = .error fault) := by
  constructor
  · intro h
    cases bytes with
    | nil => cases h
    | cons first rest =>
      refine ⟨first, rest, rfl, ?_⟩
      rw [parse] at h
      split at h
      · next nameless =>
        cases h
        exact .inl ⟨nameless, rfl⟩
      · next kind named => exact .inr ⟨⟨kind, named⟩, map_eq_error_iff.1 h⟩
  · rintro ⟨first, rest, rfl, ⟨nameless, rfl⟩ | ⟨⟨kind, named⟩, hlength⟩⟩
    · rw [parse, nameless]
    · simp only [parse, named]
      exact map_eq_error_iff.2 hlength

end Header
end Mqtt
