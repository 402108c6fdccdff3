/-
# How much room a packet takes

The header of a packet is known before its body is laid out: the kind and the flags
make its first byte, and the size of the body follows from the packet's parts alone.

| packet | flags | size of the body |
| --- | --- | --- |
| CONNECT | 0 | 10, and 2 more than each text |
| PUBLISH | of the message | topic with its count, identifier, payload |
| SUBSCRIBE | 2 | identifier, filter with its count, level |
| PUBACK | 0 | 2 |
| PINGREQ, DISCONNECT | 0 | 0 |

What is announced is what is written.  A packet that has a form goes into every buffer
with room for its header and that body, and takes exactly those bytes of it; any less
room is refused (`Outbound.putInto_fits`).
-/
import Mqtt.Proofs.Wire.RoundTrip

namespace Mqtt
namespace Outbound

/-- The flags of a packet's first byte. -/
def flags : Outbound → UInt8
  | publish message => message.flags
  | subscribe .. => 2
  | connect _ | pubAck _ | pingReq | disconnect => 0

/-- The texts of a packet. -/
def texts : Outbound → List String
  | connect request => request.clientId :: (request.userName.toList ++ request.password.toList)
  | publish message => [message.topic]
  | subscribe _ filter _ => [filter]
  | pubAck _ | pingReq | disconnect => []

/-- How many bytes the body of a packet takes. -/
def bodySize : Outbound → Nat
  | connect request => (connect request).texts.foldr (fun s size => 2 + s.utf8ByteSize + size) 10
  | publish message => message.bodySize
  | subscribe _ filter _ => 2 + (2 + filter.utf8ByteSize) + 1
  | pubAck _ => 2
  | pingReq | disconnect => 0

/-- The header of a packet, with its body's size in the shortest form. -/
def header (packet : Outbound) : Header where
  kind := packet.kind
  flags := packet.flags
  bodySize := packet.bodySize
  size := 1 + Length.size packet.bodySize

/-- How many bytes a packet takes. -/
def size (packet : Outbound) : Nat :=
  packet.header.frameSize

/-- The packet has a form. -/
structure Encodable (packet : Outbound) : Prop where
  texts : ∀ s ∈ packet.texts, s.utf8ByteSize ≤ Field.textLimit
  /-- A message has an identifier exactly at level 1. -/
  identified : ∀ message, packet = publish message →
    (message.packetId.isSome ↔ message.qos = .atLeastOnce)
  limit : packet.bodySize ≤ Length.limit

variable {packet : Outbound}

/-- The flags of every packet that is sent fit the lower half of its first byte. -/
theorem flags_lt (packet : Outbound) : packet.flags < 16 := by
  cases packet with
  | publish message => exact message.flags_lt
  | subscribe => exact (by decide : (2 : UInt8) < 16)
  | _ => exact (by decide : (0 : UInt8) < 16)

/-- A frame announces what is known of its packet beforehand. -/
theorem frame_announces {frame : Frame} (h : packet.frame = .ok frame) :
    frame.first = packet.kind.firstByte packet.flags ∧ frame.bodySize = packet.bodySize := by
  cases packet with
  | connect request =>
    cases h
    obtain ⟨clientId, userName, password, keepAlive, cleanSession⟩ := request
    refine ⟨rfl, ?_⟩
    cases userName <;> cases password <;>
      simp [Connect.frame, Connect.optionalSize, bodySize, texts] <;> omega
  | publish message =>
    obtain ⟨-, -, rfl⟩ := Publish.frame_eq_ok h
    exact ⟨rfl, rfl⟩
  | subscribe id filter qos =>
    rw [Outbound.frame] at h
    split at h
    · cases h
    · cases h
      exact ⟨rfl, rfl⟩
  | pubAck id =>
    cases h
    exact ⟨rfl, rfl⟩
  | pingReq =>
    cases h
    exact ⟨rfl, rfl⟩
  | disconnect =>
    cases h
    exact ⟨rfl, rfl⟩

/-- A packet that has a form has a frame, of which every field has bytes. -/
theorem Encodable.exists_frame (encodable : packet.Encodable) :
    ∃ (frame : Frame) (parts : List (List UInt8)), packet.frame = .ok frame ∧
      frame.body.map Field.bytes? = parts.map some := by
  have htexts := encodable.texts
  -- Of the packets with a frame at hand, the texts among the fields are the packet's.
  have framed : ∀ {frame : Frame}, packet.frame = .ok frame →
      (∀ s, Field.text s ∈ frame.body → s.utf8ByteSize ≤ Field.textLimit) →
        ∃ (frame : Frame) (parts : List (List UInt8)), packet.frame = .ok frame ∧
          frame.body.map Field.bytes? = parts.map some := by
    intro frame hframe hfields
    obtain ⟨parts, hparts⟩ := Field.exists_parts hfields
    exact ⟨frame, parts, hframe, hparts⟩
  cases packet with
  | connect request =>
    refine @framed request.frame rfl fun s hs => ?_
    simp only [Connect.frame, List.mem_append, List.mem_cons, List.not_mem_nil, Field.text.injEq,
      reduceCtorEq, List.mem_map, false_or, or_false, exists_eq_right] at hs
    rcases hs with (rfl | rfl) | hs
    · decide
    · exact htexts _ List.mem_cons_self
    · exact htexts _ (List.mem_cons_of_mem _ (List.mem_append.2 hs))
  | publish message =>
    obtain ⟨frame, parts, hframe, -, hparts, -⟩ :=
      Publish.frame_of_fits (htexts _ List.mem_cons_self) (encodable.identified message rfl)
    exact ⟨frame, parts, hframe, hparts⟩
  | subscribe id filter qos =>
    have hfilter := htexts filter List.mem_cons_self
    refine framed (if_neg (Nat.not_lt.2 hfilter)) fun s hs => ?_
    simp only [List.mem_cons, List.not_mem_nil, or_false, Field.text.injEq, reduceCtorEq,
      false_or] at hs
    exact hs ▸ hfilter
  | pubAck id => exact framed rfl fun s hs => by simp at hs
  | pingReq => exact framed rfl fun s hs => by simp at hs
  | disconnect => exact framed rfl fun s hs => by simp at hs

/-- A packet that has a form is put as bytes of its size, which begin with its header. -/
theorem Encodable.exists_bytes (encodable : packet.Encodable) :
    ∃ bytes : List UInt8, bytes.length = packet.size ∧
      Header.parse bytes = .ok (some packet.header) ∧
        ∀ buffer, packet.putInto buffer = buffer.put bytes := by
  obtain ⟨frame, parts, hframe, hparts⟩ := encodable.exists_frame
  obtain ⟨hfirst, hbody⟩ := frame_announces hframe
  have limit : frame.bodySize ≤ Length.limit := hbody ▸ encodable.limit
  have hlength : (Length.encode frame.bodySize).length = Length.size packet.bodySize := by
    rw [Length.length_encode limit, hbody]
  refine ⟨frame.first :: (Length.encode frame.bodySize ++ parts.flatten), ?_, ?_, fun buffer => ?_⟩
  · rw [List.length_cons, List.length_append, hlength, Field.length_flatten hparts,
      ← (frame_eq_ok hframe).2, hbody]
    simp only [size, header, Header.frameSize]
    omega
  · rw [hfirst, Header.parse_shortest _ packet.flags_lt limit, hlength, hbody]
    rfl
  · rw [putInto, hframe]
    exact Frame.putInto_eq_put buffer hparts limit

/-- Packing is putting into a buffer of zeros. -/
theorem pack_eq_putInto (packet : Outbound) (capacity : Nat) :
    packet.pack capacity = (packet.putInto (Buffer.blank capacity)).map (·.written) := by
  rw [pack, putInto]
  cases packet.frame <;> rfl

/-- **A packet fits exactly where there is room for it.**  In a buffer of at least its
size, a packet that has a form takes that many bytes and leaves those behind them as they
were; the header read back from the bytes gives its kind, its flags and a frame of its
size.  A smaller buffer is refused. -/
theorem putInto_fits (packet : Outbound) (encodable : packet.Encodable) (room : List UInt8) :
    (packet.size ≤ room.length →
      ∃ buffer, packet.putInto (Buffer.ofRoom room) = .ok buffer ∧
        buffer.written.length = packet.size ∧ buffer.room = room.drop packet.size ∧
          Header.parse buffer.written = .ok (some packet.header)) ∧
    (room.length < packet.size →
      packet.putInto (Buffer.ofRoom room) = .error .bufferTooSmall) := by
  obtain ⟨bytes, hsize, hheader, hput⟩ := encodable.exists_bytes
  rw [hput, Buffer.put]
  constructor
  · intro fits
    rw [← hsize] at fits ⊢
    exact ⟨_, if_pos fits, rfl, rfl, hheader⟩
  · intro short
    exact if_neg (Nat.not_le.2 (hsize ▸ short))

/-- A body of 128 bytes is the shortest that takes a second byte to announce. -/
theorem putInto_fits_announced_in_two :
    (publish ⟨"t", List.replicate 125 0, .atMostOnce, none, false, false⟩).Encodable ∧
      (∃ buffer, (publish ⟨"t", List.replicate 125 0, .atMostOnce, none, false, false⟩).putInto
          (Buffer.ofRoom (List.replicate 132 7)) = .ok buffer ∧
        buffer.written.length = 131 ∧ buffer.room = [7] ∧
          Header.parse buffer.written = .ok (some ⟨.publish, 0, 128, 3⟩)) ∧
      (publish ⟨"t", List.replicate 125 0, .atMostOnce, none, false, false⟩).putInto
        (Buffer.ofRoom (List.replicate 130 7)) = .error .bufferTooSmall := by
  have hform :
      (publish ⟨"t", List.replicate 125 0, .atMostOnce, none, false, false⟩).Encodable := by
    refine ⟨fun s hs => ?_, fun message he => ?_, by decide +kernel⟩
    · rw [List.mem_singleton.1 hs]
      decide
    · cases he
      decide
  have hheader :
      (publish ⟨"t", List.replicate 125 0, .atMostOnce, none, false, false⟩).header =
        ⟨.publish, 0, 128, 3⟩ := by
    decide +kernel
  have hlarge := (putInto_fits _ hform (List.replicate 132 7)).1
  have hsmall := (putInto_fits _ hform (List.replicate 130 7)).2
  rw [size, hheader, List.length_replicate] at hlarge hsmall
  rw [List.drop_replicate] at hlarge
  exact ⟨hform, hlarge (by decide), hsmall (by decide)⟩

end Outbound
end Mqtt
