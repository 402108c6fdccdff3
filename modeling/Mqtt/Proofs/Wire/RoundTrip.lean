/-
# A message sent and read back

Writing and reading a PUBLISH undo each other as far as they can.  A message that
has a frame is read back from it, whatever follows (`Publish.putInto_of_fits`,
`Publish.decode_shortest`); and a message that was read is written as the frame it
was read from, up to the form of the length: the flags and the body leave no choice
(`Publish.LaidOut.flags_eq`, `Publish.LaidOut.eq_body`), while the reader accepts
longer forms of the length than the writer produces.
-/
import Mqtt.Proofs.Wire.Grammar

namespace Mqtt
namespace Publish

/-- How many bytes the body of a message takes. -/
def bodySize (p : Publish) : Nat :=
  2 + p.topic.utf8ByteSize + 2 * p.packetId.toList.length + p.payload.length

/-- How many bytes the shortest frame of a message takes. -/
def size (p : Publish) : Nat :=
  1 + Length.size p.bodySize + p.bodySize

/-- The body of a message. -/
def body (p : Publish) : List UInt8 :=
  wordBytes p.topic.utf8ByteSize.toUInt16 ++
    (utf8 p.topic ++ (p.packetId.toList.flatMap wordBytes ++ p.payload))

/-- The shortest frame of a message. -/
def shortest (p : Publish) : List UInt8 :=
  Kind.publish.firstByte p.flags :: (Length.encode p.bodySize ++ p.body)

/-- The body of a message has the size that its header announces. -/
theorem length_body (p : Publish) : p.body.length = p.bodySize := by
  have hids : (p.packetId.toList.flatMap wordBytes).length = 2 * p.packetId.toList.length := by
    cases p.packetId <;> rfl
  have hcount : (wordBytes p.topic.utf8ByteSize.toUInt16).length = 2 := rfl
  rw [body, List.length_append, List.length_append, List.length_append, hids, hcount, length_utf8,
    bodySize]
  omega

/-- The shortest frame of a message is one byte, the shortest form of the body's size, and
the body. -/
theorem length_shortest (p : Publish) :
    p.shortest.length = 1 + (Length.encode p.bodySize).length + p.bodySize := by
  rw [shortest, List.length_cons, List.length_append, length_body]
  omega

/-- The size that a message says its frame has is the size of its shortest frame, as long
as the body has a size that can be announced at all. -/
theorem length_shortest_eq_size {p : Publish} (limit : p.bodySize ≤ Length.limit) :
    p.shortest.length = p.size := by
  rw [length_shortest, Length.length_encode limit, size]

variable {p : Publish} {flags : UInt8} {body : List UInt8}

/-- The flags of a frame are those of the message in it. -/
theorem LaidOut.flags_eq (laid : LaidOut flags body p) (nibble : flags < 16) : p.flags = flags := by
  obtain ⟨level, retain, dup, -, -⟩ := laid
  have hnibble : flags.toNat < 16 := nibble
  simp only [← UInt8.toNat_inj, UInt8.toNat_mod, UInt8.toNat_div, UInt8.reduceToNat]
    at level retain dup ⊢
  unfold Publish.flags
  cases hqos : p.qos <;> cases hdup : p.dup <;> cases hretain : p.retain <;>
    simp only [hqos, hdup, hretain, QoS.toByte, UInt8.reduceToNat, true_iff, Bool.false_eq_true,
      false_iff] at level retain dup <;> simp [QoS.toByte] <;> omega

/-- The body of a frame is that of the message in it. -/
theorem LaidOut.eq_body (laid : LaidOut flags body p) : body = p.body := by
  obtain ⟨high, low, hsize, rfl⟩ := laid.parts
  have hcount : wordBytes p.topic.utf8ByteSize.toUInt16 = [high, low] := by
    rw [← hsize]
    exact wordBytes_wordOf high low
  rw [Publish.body, hcount]
  rfl

/-- A topic that was read is no longer than one that can be written: its size was read
from two bytes. -/
theorem LaidOut.topic_le (laid : LaidOut flags body p) :
    p.topic.utf8ByteSize ≤ Field.textLimit := by
  obtain ⟨high, low, hsize, -⟩ := laid.parts
  have hhigh := high.toNat_lt
  have hlow := low.toNat_lt
  unfold Field.textLimit
  omega

/-- The flags and the body of a message lay it out, if it may be sent. -/
theorem laidOut_body (topic : p.topic.utf8ByteSize ≤ Field.textLimit)
    (identified : p.packetId.isSome ↔ p.qos = .atLeastOnce) : LaidOut p.flags p.body p := by
  have hcount : p.topic.utf8ByteSize.toUInt16.toNat = p.topic.utf8ByteSize := by
    unfold Field.textLimit at topic
    simp
    omega
  refine ⟨?_, ?_, ?_, identified, _, _, ?_, rfl⟩
  · unfold Publish.flags
    cases p.qos <;> cases p.dup <;> cases p.retain <;> decide
  · unfold Publish.flags
    cases p.qos <;> cases p.dup <;> cases p.retain <;> decide
  · unfold Publish.flags
    cases p.qos <;> cases p.dup <;> cases p.retain <;> decide
  · rw [hcount]
    unfold Field.textLimit at topic
    simp only [Nat.toUInt8_eq, UInt8.toNat_ofNat']
    omega

/-- A message that may be sent has a frame, and the parts of its body are the fields'. -/
theorem frame_of_fits (topic : p.topic.utf8ByteSize ≤ Field.textLimit)
    (identified : p.packetId.isSome ↔ p.qos = .atLeastOnce) :
    ∃ (frame : Frame) (parts : List (List UInt8)), p.frame = .ok frame ∧
      frame.bodySize = p.bodySize ∧ frame.body.map Field.bytes? = parts.map some ∧
        frame.first :: (Length.encode p.bodySize ++ parts.flatten) = p.shortest := by
  refine ⟨⟨Kind.publish.firstByte p.flags, p.bodySize,
      .text p.topic :: p.packetId.toList.map .word ++ [.raw p.payload]⟩,
    (wordBytes p.topic.utf8ByteSize.toUInt16 ++ utf8 p.topic) ::
      (p.packetId.toList.map wordBytes ++ [p.payload]), ?_, rfl, ?_, ?_⟩
  · obtain ⟨text, payload, qos, packetId, retain, dup⟩ := p
    rw [Publish.frame, if_neg (Nat.not_lt.2 topic)]
    cases qos <;> cases packetId <;> simp at identified <;> rfl
  · have htext : (Field.text p.topic).bytes? =
        some (wordBytes p.topic.utf8ByteSize.toUInt16 ++ utf8 p.topic) := if_pos topic
    simp only [List.cons_append, List.map_cons, htext]
    cases p.packetId <;> rfl
  · simp only [shortest, body, List.flatten_cons, List.flatten_append, List.flatten_nil,
      List.append_nil, List.append_assoc, List.flatMap_def]

/-- A message that may be sent is put where there is room for its shortest frame. -/
theorem putInto_of_fits (topic : p.topic.utf8ByteSize ≤ Field.textLimit)
    (identified : p.packetId.isSome ↔ p.qos = .atLeastOnce) (limit : p.bodySize ≤ Length.limit)
    {room : List UInt8} (fits : p.size ≤ room.length) :
    ∃ buffer, (Outbound.publish p).putInto (Buffer.ofRoom room) = .ok buffer ∧
      buffer.written = p.shortest := by
  obtain ⟨frame, parts, hframe, hbody, hparts, hshortest⟩ := frame_of_fits topic identified
  have hsize : 1 + (Length.encode frame.bodySize).length + parts.flatten.length = p.size := by
    rw [← length_shortest_eq_size limit, ← hshortest, hbody, List.length_cons, List.length_append]
    omega
  obtain ⟨buffer, hput, hwritten⟩ :=
    Frame.putInto_of_fits parts hparts (hbody ▸ limit) (hsize ▸ fits)
  refine ⟨buffer, ?_, ?_⟩
  · rw [Outbound.putInto, Outbound.frame, hframe]
    exact hput
  · rw [hwritten, hbody, hshortest]

/-- A message of which the frame has no more bytes than a text can have may be sent. -/
theorem le_of_shortest (small : p.shortest.length ≤ Field.textLimit) :
    p.topic.utf8ByteSize ≤ Field.textLimit ∧ p.bodySize ≤ Length.limit := by
  rw [length_shortest] at small
  simp only [bodySize, Field.textLimit, Length.limit] at small ⊢
  omega

/-- Into no more room than a text can have, a message is packed exactly if its shortest
frame fits, and as that frame. -/
theorem pack_eq_ok_iff (identified : p.packetId.isSome ↔ p.qos = .atLeastOnce) {capacity : Nat}
    (small : capacity ≤ Field.textLimit) {bytes : List UInt8} :
    (Outbound.publish p).pack capacity = .ok bytes ↔
      p.shortest.length ≤ capacity ∧ bytes = p.shortest := by
  -- A topic that is no text makes no frame at all, and its shortest frame would not fit either.
  by_cases topic : p.topic.utf8ByteSize ≤ Field.textLimit
  · obtain ⟨frame, parts, hframe, hbody, hparts, hshortest⟩ := frame_of_fits topic identified
    have hpack : (Outbound.publish p).pack capacity = frame.pack capacity := by
      rw [Outbound.pack, Outbound.frame, hframe]
      rfl
    rw [hpack]
    constructor
    · intro h
      obtain ⟨others, hothers, rfl, -, hle⟩ := Frame.pack_eq_ok h
      obtain rfl : parts = others :=
        (List.map_inj_right fun _ _ => Option.some.inj).1 (hparts.symm.trans hothers)
      rw [hbody, hshortest] at hle ⊢
      exact ⟨hle, rfl⟩
    · rintro ⟨fits, rfl⟩
      obtain ⟨-, limit⟩ := le_of_shortest (Nat.le_trans fits small)
      have hroom : (List.replicate capacity (0 : UInt8)).length = capacity := List.length_replicate
      obtain ⟨buffer, hput, hwritten⟩ := putInto_of_fits topic identified limit
        (hroom.symm ▸ length_shortest_eq_size limit ▸ fits)
      rw [Outbound.putInto, Outbound.frame, hframe] at hput
      have hput : frame.putInto (Buffer.blank capacity) = .ok buffer := hput
      rw [Frame.pack, hput, ← hwritten]
      rfl
  · have hframe : p.frame = .error .topicTooLong := by
      rw [Publish.frame, if_pos (Nat.not_le.1 topic)]
      rfl
    constructor
    · intro h
      rw [Outbound.pack, Outbound.frame, hframe] at h
      cases h
    · rintro ⟨fits, -⟩
      exact absurd (le_of_shortest (Nat.le_trans fits small)).1 topic

/-- The shortest frame of a message that may be sent is a frame. -/
theorem framed_shortest (limit : p.bodySize ≤ Length.limit) :
    Framed p.shortest (Kind.publish.firstByte p.flags) (Length.encode p.bodySize) p.body where
  bytes := rfl
  form := p.length_body.symm ▸ Length.form_encode limit
  four := Length.length_encode_le _

/-- A message that may be sent is read back from its shortest frame, whatever follows. -/
theorem decode_shortest (topic : p.topic.utf8ByteSize ≤ Field.textLimit)
    (identified : p.packetId.isSome ↔ p.qos = .atLeastOnce) (limit : p.bodySize ≤ Length.limit)
    (rest : List UInt8) : Inbound.decode (p.shortest ++ rest) = .ok (.publish p) := by
  have hcode := Kind.ofFirstByte?_eq_some_iff.1 (Kind.ofFirstByte?_firstByte .publish p.flags_lt)
  have laid := laidOut_body topic identified
  rw [← Kind.firstByte_mod .publish p.flags_lt] at laid
  exact Inbound.decode_eq_ok_iff.2
    ⟨p.shortest, _, _, p.body, rest, rfl, framed_shortest limit, .publish hcode laid⟩

/-- **A message is sent and read back, both ways.**  A message that may be sent is
put into any buffer with room for its shortest frame, and is read back from what was
written, whatever follows.  A message that was read from some bytes is put into any
buffer of the size of its frame there, and is read back from what was written, which
is that frame exactly if the frame's length field is in its shortest form. -/
theorem round_trip :
    (∀ (p : Publish) (room rest : List UInt8), p.topic.utf8ByteSize ≤ Field.textLimit →
      (p.packetId.isSome ↔ p.qos = .atLeastOnce) → p.bodySize ≤ Length.limit →
        p.size ≤ room.length →
          ∃ buffer, (Outbound.publish p).putInto (Buffer.ofRoom room) = .ok buffer ∧
            Inbound.decode (buffer.written ++ rest) = .ok (.publish p)) ∧
    (∀ (bytes : List UInt8) (p : Publish), Inbound.decode bytes = .ok (.publish p) →
      ∃ frame first field body rest, bytes = frame ++ rest ∧ Framed frame first field body ∧
        ∀ room : List UInt8, room.length = frame.length →
          ∃ buffer, (Outbound.publish p).putInto (Buffer.ofRoom room) = .ok buffer ∧
            Inbound.decode buffer.written = .ok (.publish p) ∧
            (buffer.written = frame ↔ Length.IsShortest field body.length)) := by
  constructor
  · intro p room rest topic identified limit fits
    obtain ⟨buffer, hput, hwritten⟩ := putInto_of_fits topic identified limit fits
    exact ⟨buffer, hput, hwritten ▸ decode_shortest topic identified limit rest⟩
  · intro bytes p h
    obtain ⟨frame, first, field, body, rest, hsplit, framed, laid⟩ := Inbound.decode_eq_ok_iff.1 h
    cases laid with
    | publish hkind laid =>
      obtain rfl := laid.eq_body
      have hbody := p.length_body
      have limit : p.bodySize ≤ Length.limit := hbody ▸ framed.form.le_limit framed.four
      -- The field that was read may be longer than it need be, never shorter, so the
      -- shortest frame fits where this one was.
      have hfield : (Length.encode p.bodySize).length ≤ field.length :=
        hbody ▸ framed.form.length_places_le 4
      have hframe : frame.length = 1 + field.length + p.bodySize := by
        rw [framed.bytes, List.length_cons, List.length_append, hbody]
        omega
      have hfirst : Kind.publish.firstByte p.flags = first := by
        have hlt := first.toNat_lt
        rw [laid.flags_eq (Nat.mod_lt _ (by decide)), Kind.firstByte, ← hkind]
        simp only [← UInt8.toNat_inj, UInt8.toNat_add, UInt8.toNat_mul, UInt8.toNat_div,
          UInt8.toNat_mod, UInt8.reduceToNat]
        omega
      refine ⟨frame, first, field, p.body, rest, hsplit, framed, fun room hroom => ?_⟩
      have fits : p.size ≤ room.length := by
        rw [hroom, hframe, size, ← Length.length_encode limit]
        omega
      obtain ⟨buffer, hput, hwritten⟩ :=
        putInto_of_fits laid.topic_le laid.identified limit fits
      refine ⟨buffer, hput, ?_, ?_⟩
      · have hread := decode_shortest laid.topic_le laid.identified limit []
        rw [List.append_nil] at hread
        rw [hwritten, hread]
      · rw [hwritten, framed.bytes, shortest, hfirst, ← framed.form.eq_encode_iff framed.four,
          hbody]
        simp

/-- The frame read here announces three bytes in the two of `83 00`; what is written
for its message is one byte shorter. -/
example :
    Inbound.decode [0x30, 0x83, 0x00, 0x00, 0x01, 0x61] =
        .ok (.publish ⟨"a", [], .atMostOnce, none, false, false⟩) ∧
      (Outbound.publish ⟨"a", [], .atMostOnce, none, false, false⟩).pack 6 =
        .ok [0x30, 0x03, 0x00, 0x01, 0x61] :=
  ⟨by cbv, rfl⟩

end Publish
end Mqtt
