/-
# Verdicts that more bytes do not change

Bytes arrive piece by piece, and a reader that was given too few of them is asked again
with more.  What it said before may then not depend on where the bytes were cut.  A
header that was read, or found wrong, stays so (`Header.parse_append`); one that is open
can still become a header.  A packet stays what it is once its frame is all there, and
before that the bytes are malformed.

| the bytes hold | header | packet |
| --- | --- | --- |
| a part of a header | open | malformed |
| a header and a part of its body | final | malformed |
| a frame and anything behind it | final | final |
| what is no header | final | final |

`Inbound.verdict_final` puts this together.
-/
import Mqtt.Proofs.Wire.Codec
import Mqtt.Proofs.Wire.Grammar

namespace Mqtt

variable {frame bytes missing : List UInt8} {header : Header}

namespace Header

/-- **A header that is open can be completed.**  A zero behind what is there ends the
length, if there is a first byte at all. -/
theorem exists_parse_append (h : parse bytes = .ok none) :
    ∃ more header, parse (bytes ++ more) = .ok (some header) := by
  obtain ⟨few, named, -⟩ := parse_eq_none_iff.1 h
  cases bytes with
  | nil => exact ⟨[0xD0, 0x00], ⟨.pingResp, 0, 0, 2⟩, rfl⟩
  | cons first field =>
    obtain ⟨kind, hkind⟩ := named first rfl
    -- A byte that is not marked ends the length, and there is a place left for it.
    have hlast : (0 : UInt8) ∈ (field ++ [0]).take 4 := by
      rw [List.length_cons] at few
      rw [List.take_of_length_le (by rw [List.length_append, List.length_singleton]; omega)]
      exact List.mem_append_right _ List.mem_cons_self
    obtain ⟨value, used, hread⟩ := Length.exists_decode_of_unmarked ⟨0, hlast, by decide⟩
    refine ⟨[0], ⟨kind, first % 16, value, 1 + used⟩, ?_⟩
    exact parse_eq_some_iff.2 ⟨first, field ++ [0], kind, value, used, rfl, hkind, hread, rfl⟩

end Header

namespace Inbound

/-- What follows a frame that is all there does not matter. -/
theorem decode_append_of_parse (h : Header.parse bytes = .ok (some header))
    (enough : header.frameSize ≤ bytes.length) (more : List UInt8) :
    decode (bytes ++ more) = decode bytes := by
  have hmore : Header.parse (bytes ++ more) = .ok (some header) :=
    (Header.parse_append (by simp [h]) more).trans h
  have hlength : header.frameSize ≤ (bytes ++ more).length := by
    rw [List.length_append]
    omega
  have hbody : header.bodySize ≤ (bytes.drop header.size).length := by
    rw [Header.frameSize] at enough
    rw [List.length_drop]
    omega
  rw [decode_of_parse h, decode_of_parse hmore, if_neg (Nat.not_lt.2 enough),
    if_neg (Nat.not_lt.2 hlength), List.drop_append_of_le_length (Header.size_le_length h),
    List.take_append_of_le_length hbody]

/-- **A part of a frame is malformed**, wherever the frame was cut.  The header is open,
or it announces more than is there; both are refused alike. -/
theorem decode_of_cut (whole : Header.parse frame = .ok (some header))
    (size : header.frameSize = frame.length) (split : frame = bytes ++ missing)
    (short : missing ≠ []) : decode bytes = .error .malformedPacket := by
  by_cases hopen : Header.parse bytes = .ok none
  · exact decode_of_open hopen
  · have hparse : Header.parse bytes = .ok (some header) := by
      rw [← Header.parse_append hopen missing, ← split, whole]
    have hmissing := List.length_pos_iff.2 short
    rw [decode_of_parse hparse, if_pos]
    rw [size, split, List.length_append]
    omega

/-- **A verdict changes with more bytes only while something is missing.**  A header that
was read, or found wrong, is final.  One that is open has at most four bytes, and some
more make it a header.  Bytes that begin with no header, or with a whole frame, are
decoded alike with any more behind them; and of a frame, whether or not a packet can be
read from it, every part that is not all of it is malformed. -/
theorem verdict_final :
    (∀ bytes more, Header.parse bytes ≠ .ok none →
      Header.parse (bytes ++ more) = Header.parse bytes) ∧
    (∀ bytes, Header.parse bytes = .ok none → bytes.length ≤ 4 ∧
      ∃ more header, Header.parse (bytes ++ more) = .ok (some header)) ∧
    (∀ bytes more fault, Header.parse bytes = .error fault →
      decode (bytes ++ more) = .error fault) ∧
    (∀ bytes more header, Header.parse bytes = .ok (some header) →
      header.frameSize ≤ bytes.length → decode (bytes ++ more) = decode bytes) ∧
    (∀ frame bytes missing header, Header.parse frame = .ok (some header) →
      header.frameSize = frame.length → frame = bytes ++ missing → missing ≠ [] →
        decode bytes = .error .malformedPacket) := by
  refine ⟨fun bytes more final => Header.parse_append final more, fun bytes hopen => ?_,
    fun bytes more fault h => ?_,
    fun bytes more header h enough => decode_append_of_parse h enough more,
    fun frame bytes missing header => decode_of_cut⟩
  · exact ⟨(Header.parse_eq_none_iff.1 hopen).1, Header.exists_parse_append hopen⟩
  · exact decode_of_fault ((Header.parse_append (by simp [h]) more).trans h)

example : decode [0xD0, 0x00] = .ok .pingResp ∧ decode [0xD0] = .error .malformedPacket :=
  ⟨rfl, rfl⟩

end Inbound
end Mqtt
