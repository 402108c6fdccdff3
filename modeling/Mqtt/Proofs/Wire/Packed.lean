/-
# Packed frames

What packing gives, and that it is well formed.  A packed frame is its first
byte, the shortest form of the size it announces, and the bytes of its fields one
after the other (`Frame.pack_eq_ok`).  Every packet announces the size its fields
have (`Outbound.frame_eq_ok`), so the header read from a packed frame gives the
kind of the packet and the number of bytes there are (`Outbound.parse_of_pack`).
-/
import Mqtt.Proofs.Wire.Places
import Mqtt.Wire.Inbound
import Mqtt.Wire.Outbound

namespace Mqtt

/-- The kind of a packet is found again in its first byte, whatever flags stand beside it. -/
theorem Kind.ofFirstByte?_firstByte (kind : Kind) {flags : UInt8} (h : flags < 16) :
    Kind.ofFirstByte? (kind.firstByte flags) = some kind := by
  have hcode : kind.code.toNat ≤ 14 := by cases kind <;> decide
  have hflags : flags.toNat < 16 := h
  have hdiv : kind.firstByte flags / 16 = kind.code := by
    apply UInt8.toNat.inj
    rw [Kind.firstByte, UInt8.toNat_div, UInt8.toNat_add, UInt8.toNat_mul]
    simp only [UInt8.reduceToNat]
    omega
  rw [Kind.ofFirstByte?, hdiv, Kind.ofCode?_code]

/-- The flags of a packet are found again in its first byte, whatever its kind is. -/
theorem Kind.firstByte_mod (kind : Kind) {flags : UInt8} (h : flags < 16) :
    kind.firstByte flags % 16 = flags := by
  have hflags : flags.toNat < 16 := h
  rw [Kind.firstByte, ← UInt8.toNat_inj]
  cases kind <;>
    simp only [Kind.code, UInt8.toNat_mod, UInt8.toNat_add, UInt8.toNat_mul, UInt8.reduceToNat] <;>
      omega

/-- The header of a frame that announces its size in the shortest form. -/
theorem Header.parse_shortest (kind : Kind) {flags : UInt8} {n : Nat} (nibble : flags < 16)
    (limit : n ≤ Length.limit) (rest : List UInt8) :
    parse (kind.firstByte flags :: (Length.encode n ++ rest)) =
      .ok (some ⟨kind, flags, n, 1 + (Length.encode n).length⟩) := by
  simp only [parse, kind.ofFirstByte?_firstByte nibble, Length.decode_encode rest limit,
    Except.map, Option.map_some, kind.firstByte_mod nibble]

namespace Buffer

/-- Putting no bytes always goes well and changes nothing, also where there is no room
left. -/
theorem put_nil (buffer : Buffer) : buffer.put [] = .ok buffer := by
  refine put_eq_ok_iff.2 ⟨Nat.zero_le _, ?_⟩
  rw [List.append_nil]
  rfl

/-- **Bytes put one part after the other are put at once**, all of them or none.  The
first part fits if both do, so nothing is refused halfway that would not be refused at
once. -/
theorem put_bind_put (buffer : Buffer) (bytes more : List UInt8) :
    (buffer.put bytes >>= fun next => next.put more) = buffer.put (bytes ++ more) := by
  by_cases first : bytes.length ≤ buffer.room.length
  · have hroom : more.length ≤ (buffer.room.drop bytes.length).length ↔
        (bytes ++ more).length ≤ buffer.room.length := by
      rw [List.length_drop, List.length_append]
      omega
    rw [put, if_pos first]
    show put ⟨_, _⟩ more = _
    simp only [put, hroom, List.append_assoc, List.drop_drop, List.length_append]
  · have hall : ¬(bytes ++ more).length ≤ buffer.room.length := by
      rw [List.length_append]
      omega
    rw [put, if_neg first, put, if_neg hall]
    rfl

/-- Putting fields puts their bytes. -/
theorem foldlM_putField {fields : List Field} {parts : List (List UInt8)} (buffer : Buffer)
    (h : fields.map Field.bytes? = parts.map some) :
    fields.foldlM putField buffer = buffer.put parts.flatten := by
  induction fields generalizing parts buffer with
  | nil =>
    cases parts with
    | nil => exact buffer.put_nil.symm
    | cons => cases h
  | cons field fields ih =>
    cases parts with
    | nil => cases h
    | cons bytes parts =>
      obtain ⟨hfield, hrest⟩ := List.cons.inj h
      have hput : buffer.putField field = buffer.put bytes := by rw [putField, hfield]
      rw [List.foldlM_cons, hput, List.flatten_cons, ← put_bind_put]
      exact bind_congr fun next => ih next hrest

/-- Fields that are put have bytes. -/
theorem exists_parts_of_foldlM {fields : List Field} {buffer after : Buffer}
    (h : fields.foldlM putField buffer = .ok after) :
    ∃ parts : List (List UInt8), fields.map Field.bytes? = parts.map some := by
  induction fields generalizing buffer with
  | nil => exact ⟨[], rfl⟩
  | cons field fields ih =>
    rw [List.foldlM_cons] at h
    cases hput : buffer.putField field with
    | error fault => simp [hput, bind, Except.bind] at h
    | ok next =>
      rw [hput] at h
      obtain ⟨parts, hparts⟩ := ih h
      unfold putField at hput
      split at hput
      case h_1 bytes hbytes =>
        exact ⟨bytes :: parts, by rw [List.map_cons, List.map_cons, hbytes, hparts]⟩
      case h_2 => cases hput

/-- Bytes are refused for one reason only, that there is no room for them. -/
theorem fault_of_put {buffer : Buffer} {bytes : List UInt8} {fault : Fault}
    (h : buffer.put bytes = .error fault) : fault = .bufferTooSmall := by
  unfold put at h
  split at h <;> cases h
  rfl

/-- Only the room can be missing for fields. -/
theorem fault_of_foldlM_putField {fields : List Field} {buffer : Buffer} {fault : Fault}
    (h : fields.foldlM putField buffer = .error fault) : fault = .bufferTooSmall := by
  induction fields generalizing buffer with
  | nil => cases h
  | cons field fields ih =>
    rw [List.foldlM_cons] at h
    cases hput : buffer.putField field with
    | ok next =>
      rw [hput] at h
      exact ih h
    | error refused =>
      rw [hput] at h
      cases h
      unfold putField at hput
      split at hput
      · exact fault_of_put hput
      · cases hput
        rfl

end Buffer

/-- How many bytes fields take. -/
@[simp] def Field.sizes : List Field → Nat
  | [] => 0
  | field :: fields => field.size + sizes fields

/-- The bytes of fields are as many as the fields' sizes say. -/
theorem Field.length_flatten {fields : List Field} {parts : List (List UInt8)}
    (h : fields.map Field.bytes? = parts.map some) :
    parts.flatten.length = Field.sizes fields := by
  induction fields generalizing parts with
  | nil =>
    cases parts with
    | nil => rfl
    | cons => cases h
  | cons field fields ih =>
    cases parts with
    | nil => cases h
    | cons bytes parts =>
      simp only [List.map_cons, List.cons.injEq] at h
      simp only [List.flatten_cons, List.length_append, sizes, ih h.2, Field.length_of_bytes? h.1]

/-- **A frame is put as its first byte, its announced size and the bytes of its fields.** -/
theorem Frame.putInto_eq_put {frame : Frame} {parts : List (List UInt8)} (buffer : Buffer)
    (h : frame.body.map Field.bytes? = parts.map some) (limit : frame.bodySize ≤ Length.limit) :
    frame.putInto buffer =
      buffer.put (frame.first :: (Length.encode frame.bodySize ++ parts.flatten)) := by
  have hlength : ∀ next : Buffer, next.putLength frame.bodySize =
      next.put (Length.encode frame.bodySize) := fun next =>
    (next.putLength_eq frame.bodySize).trans (if_pos limit)
  calc frame.putInto buffer
      = buffer.put [frame.first] >>= fun next => next.put (Length.encode frame.bodySize) >>=
          fun next => next.put parts.flatten := by
        simp only [putInto, hlength, Buffer.foldlM_putField _ h]
    _ = buffer.put ([frame.first] ++ (Length.encode frame.bodySize ++ parts.flatten)) := by
        simp only [Buffer.put_bind_put]

/-- A frame that was put has bytes, and a size that a length can say. -/
theorem Frame.exists_parts_of_putInto {frame : Frame} {buffer after : Buffer}
    (h : frame.putInto buffer = .ok after) :
    frame.bodySize ≤ Length.limit ∧
      ∃ parts : List (List UInt8), frame.body.map Field.bytes? = parts.map some := by
  rw [putInto] at h
  cases hfirst : buffer.put [frame.first] with
  | error fault => simp [hfirst, bind, Except.bind] at h
  | ok headed =>
    cases hlength : headed.putLength frame.bodySize with
    | error fault => simp [hfirst, hlength, bind, Except.bind] at h
    | ok started =>
      simp only [hfirst, hlength, bind, Except.bind] at h
      refine ⟨?_, Buffer.exists_parts_of_foldlM h⟩
      rw [Buffer.putLength_eq] at hlength
      split at hlength
      · assumption
      · cases hlength

/-- A packed frame is its first byte, its announced size and the bytes of its fields. -/
theorem Frame.pack_eq_ok {frame : Frame} {capacity : Nat} {bytes : List UInt8}
    (h : frame.pack capacity = .ok bytes) :
    ∃ parts : List (List UInt8), frame.body.map Field.bytes? = parts.map some ∧
      bytes = frame.first :: (Length.encode frame.bodySize ++ parts.flatten) ∧
        frame.bodySize ≤ Length.limit ∧ bytes.length ≤ capacity := by
  rw [pack] at h
  cases hput : frame.putInto (Buffer.blank capacity) with
  | error fault => simp [hput, bind, Except.bind] at h
  | ok after =>
    simp only [hput, bind, Except.bind, pure, Except.pure, Except.ok.injEq] at h
    obtain ⟨limit, parts, hparts⟩ := exists_parts_of_putInto hput
    rw [putInto_eq_put _ hparts limit] at hput
    obtain ⟨hroom, rfl⟩ := Buffer.put_eq_ok_iff.1 hput
    have hbytes : bytes = frame.first :: (Length.encode frame.bodySize ++ parts.flatten) := h.symm
    refine ⟨parts, hparts, hbytes, limit, ?_⟩
    rw [hbytes]
    exact Nat.le_trans hroom (Nat.le_of_eq List.length_replicate)

/-- A frame is put where there is room for it. -/
theorem Frame.putInto_of_fits {frame : Frame} {room : List UInt8} (parts : List (List UInt8))
    (h : frame.body.map Field.bytes? = parts.map some) (limit : frame.bodySize ≤ Length.limit)
    (fits : 1 + (Length.encode frame.bodySize).length + parts.flatten.length ≤ room.length) :
    ∃ buffer, frame.putInto (Buffer.ofRoom room) = .ok buffer ∧
      buffer.written = frame.first :: (Length.encode frame.bodySize ++ parts.flatten) := by
  refine ⟨_, (putInto_eq_put _ h limit).trans (Buffer.put_eq_ok_iff.2 ⟨?_, rfl⟩), rfl⟩
  rw [List.length_cons, List.length_append]
  show _ ≤ room.length
  omega

/-- A frame is packed if there is room for it. -/
theorem Frame.pack_of_fits {frame : Frame} {capacity : Nat} (parts : List (List UInt8))
    (h : frame.body.map Field.bytes? = parts.map some) (limit : frame.bodySize ≤ Length.limit)
    (fits : 1 + (Length.encode frame.bodySize).length + parts.flatten.length ≤ capacity) :
    frame.pack capacity =
      .ok (frame.first :: (Length.encode frame.bodySize ++ parts.flatten)) := by
  have hroom : (List.replicate capacity (0 : UInt8)).length = capacity := List.length_replicate
  obtain ⟨buffer, hput, hwritten⟩ := putInto_of_fits parts h limit (hroom.symm ▸ fits)
  simp only [pack, Buffer.blank, hput, bind, Except.bind, pure, Except.pure, hwritten]

/-- Fields have bytes if their texts are within the limit. -/
theorem Field.exists_parts {fields : List Field}
    (texts : ∀ s, text s ∈ fields → s.utf8ByteSize ≤ textLimit) :
    ∃ parts : List (List UInt8), fields.map bytes? = parts.map some := by
  induction fields with
  | nil => exact ⟨[], rfl⟩
  | cons field fields ih =>
    obtain ⟨parts, hparts⟩ := ih fun s hs => texts s (List.mem_cons_of_mem _ hs)
    have hfield : ∃ bytes, field.bytes? = some bytes := by
      cases field with
      | text s => exact ⟨_, if_pos (texts s List.mem_cons_self)⟩
      | _ => exact ⟨_, rfl⟩
    obtain ⟨bytes, hbytes⟩ := hfield
    exact ⟨bytes :: parts, by rw [List.map_cons, List.map_cons, hbytes, hparts]⟩

/-- A frame is packed if there is room for its body and the longest header. -/
theorem Frame.exists_pack {frame : Frame} {capacity : Nat}
    (size : frame.bodySize = Field.sizes frame.body)
    (texts : ∀ s, Field.text s ∈ frame.body → s.utf8ByteSize ≤ Field.textLimit)
    (limit : frame.bodySize ≤ Length.limit) (fits : 5 + frame.bodySize ≤ capacity) :
    ∃ bytes, frame.pack capacity = .ok bytes := by
  obtain ⟨parts, hparts⟩ := Field.exists_parts texts
  have hlength := Length.length_encode_le frame.bodySize
  have hbody := Field.length_flatten hparts
  exact ⟨_, pack_of_fits parts hparts limit (by omega)⟩

/-- Packing a frame fails for want of room, or of a form for its length. -/
theorem Frame.fault_of_pack {frame : Frame} {capacity : Nat} {fault : Fault}
    (h : frame.pack capacity = .error fault) :
    fault = .bufferTooSmall ∨ fault = .malformedRemainingLength := by
  rw [pack, putInto] at h
  cases hfirst : (Buffer.blank capacity).put [frame.first] with
  | error refused =>
    simp only [hfirst, bind, Except.bind] at h
    cases h
    exact .inl (Buffer.fault_of_put hfirst)
  | ok headed =>
    cases hlength : headed.putLength frame.bodySize with
    | error refused =>
      simp only [hfirst, hlength, bind, Except.bind] at h
      cases h
      rw [Buffer.putLength_eq] at hlength
      split at hlength
      · exact .inl (Buffer.fault_of_put hlength)
      · cases hlength
        exact .inr rfl
    | ok started =>
      cases hbody : frame.body.foldlM Buffer.putField started with
      | error refused =>
        simp only [hfirst, hlength, hbody, bind, Except.bind] at h
        cases h
        exact .inl (Buffer.fault_of_foldlM_putField hbody)
      | ok done => simp [hfirst, hlength, hbody, bind, Except.bind, pure, Except.pure] at h

/-- The header of a packed frame, when the frame announces the size of its fields. -/
theorem Frame.parse_of_pack {frame : Frame} {kind : Kind} {flags : UInt8} {capacity : Nat}
    {bytes : List UInt8} (hfirst : frame.first = kind.firstByte flags) (hflags : flags < 16)
    (hsize : frame.bodySize = Field.sizes frame.body) (h : frame.pack capacity = .ok bytes) :
    ∃ header, Header.parse bytes = .ok (some header) ∧ header.kind = kind ∧
      header.frameSize = bytes.length ∧ bytes.length ≤ capacity := by
  obtain ⟨parts, hparts, rfl, hlimit, hcapacity⟩ := pack_eq_ok h
  refine ⟨⟨kind, flags, frame.bodySize, 1 + (Length.encode frame.bodySize).length⟩, ?_, rfl, ?_,
    hcapacity⟩
  · rw [hfirst, Header.parse_shortest kind hflags hlimit]
  · simp only [Header.frameSize, List.length_cons, List.length_append,
      Field.length_flatten hparts, hsize]
    omega

namespace Publish

/-- The flags of a message take the lower half of the first byte: the two bits of the
level, and one each for a message sent again and for one to be retained. -/
theorem flags_lt (p : Publish) : p.flags < 16 := by
  unfold flags
  cases p.qos <;> cases p.dup <;> cases p.retain <;> decide

/-- A message that has a frame has a topic that fits a text, and an identifier exactly at
level 1. -/
theorem frame_eq_ok {p : Publish} {frame : Frame} (h : p.frame = .ok frame) :
    p.topic.utf8ByteSize ≤ Field.textLimit ∧
      (p.packetId.isSome ↔ p.qos = .atLeastOnce) ∧
        frame = {
          first := Kind.publish.firstByte p.flags
          bodySize := 2 + p.topic.utf8ByteSize + 2 * p.packetId.toList.length + p.payload.length
          body := .text p.topic :: p.packetId.toList.map .word ++ [.raw p.payload] } := by
  obtain ⟨topic, payload, qos, packetId, retain, dup⟩ := p
  by_cases hlong : Field.textLimit < topic.utf8ByteSize
  · simp only [Publish.frame, if_pos hlong] at h
    cases h
  · simp only [Publish.frame, if_neg hlong] at h
    refine ⟨Nat.not_lt.1 hlong, ?_⟩
    cases qos <;> cases packetId <;> cases h <;> exact ⟨by simp, rfl⟩

end Publish

namespace Outbound

/-- The kind of a packet. -/
def kind : Outbound → Kind
  | connect _ => .connect
  | publish _ => .publish
  | subscribe .. => .subscribe
  | pubAck _ => .pubAck
  | pingReq => .pingReq
  | disconnect => .disconnect

/-- A packet's frame begins with its kind, and announces the size that its fields have. -/
theorem frame_eq_ok {packet : Outbound} {frame : Frame} (h : packet.frame = .ok frame) :
    (∃ flags < 16, frame.first = packet.kind.firstByte flags) ∧
      frame.bodySize = Field.sizes frame.body := by
  cases packet with
  | connect request =>
    cases h
    refine ⟨⟨0, by decide, rfl⟩, ?_⟩
    have hname : "MQTT".utf8ByteSize = 4 := by decide
    obtain ⟨clientId, userName, password, keepAlive, cleanSession⟩ := request
    cases userName <;> cases password <;>
      simp [Connect.frame, Connect.optionalSize, Field.size, hname] <;> omega
  | publish message =>
    obtain ⟨-, -, rfl⟩ := Publish.frame_eq_ok h
    refine ⟨⟨message.flags, message.flags_lt, rfl⟩, ?_⟩
    cases message.packetId with
    | none => simp [Field.size]
    | some id =>
      simp [Field.size]
      omega
  | subscribe id filter qos =>
    simp only [Outbound.frame] at h
    split at h
    case isTrue => cases h
    case isFalse =>
      cases h
      refine ⟨⟨0x02, by decide, rfl⟩, ?_⟩
      simp [Field.size]
      omega
  | pubAck id =>
    cases h
    exact ⟨⟨0, by decide, rfl⟩, rfl⟩
  | pingReq =>
    cases h
    exact ⟨⟨0, by decide, rfl⟩, rfl⟩
  | disconnect =>
    cases h
    exact ⟨⟨0, by decide, rfl⟩, rfl⟩

/-- **A packed frame is well formed.**  Its header can be read, and announces the
kind of the packet and as many bytes as there are. -/
theorem parse_of_pack {packet : Outbound} {capacity : Nat} {bytes : List UInt8}
    (h : packet.pack capacity = .ok bytes) :
    ∃ header, Header.parse bytes = .ok (some header) ∧ header.kind = packet.kind ∧
      header.frameSize = bytes.length ∧ bytes.length ≤ capacity := by
  cases hf : packet.frame with
  | error fault => simp [pack, hf, bind, Except.bind] at h
  | ok frame =>
    simp only [pack, hf, bind, Except.bind] at h
    obtain ⟨⟨flags, hflags, hfirst⟩, hsize⟩ := frame_eq_ok hf
    exact Frame.parse_of_pack hfirst hflags hsize h

/-- An acknowledgement is four bytes: its first byte, the size 2, and the identifier it
answers. -/
theorem pack_pubAck {capacity : Nat} (h : 4 ≤ capacity) (id : UInt16) :
    (pubAck id).pack capacity = .ok (0x40 :: 0x02 :: wordBytes id) :=
  Frame.pack_of_fits [wordBytes id] rfl (show 2 ≤ Length.limit by decide) h

/-- A ping is two bytes, the second of which says that nothing follows. -/
theorem pack_pingReq {capacity : Nat} (h : 2 ≤ capacity) :
    pingReq.pack capacity = .ok [0xC0, 0x00] :=
  Frame.pack_of_fits [] rfl (Nat.zero_le _) h

/-- A packet is packed if its frame leaves room for the longest header. -/
theorem exists_pack {packet : Outbound} {frame : Frame} {capacity : Nat}
    (hframe : packet.frame = .ok frame)
    (texts : ∀ s, Field.text s ∈ frame.body → s.utf8ByteSize ≤ Field.textLimit)
    (limit : frame.bodySize ≤ Length.limit) (fits : 5 + frame.bodySize ≤ capacity) :
    ∃ bytes, packet.pack capacity = .ok bytes := by
  obtain ⟨bytes, hpack⟩ := Frame.exists_pack (frame_eq_ok hframe).2 texts limit fits
  refine ⟨bytes, ?_⟩
  rw [pack, hframe]
  exact hpack

/-- A subscription is packed if its filter leaves room for ten more bytes. -/
theorem pack_subscribe {capacity : Nat} {filter : String} (id : UInt16) (qos : QoS)
    (fits : filter.utf8ByteSize ≤ Field.textLimit) (h : filter.utf8ByteSize + 10 ≤ capacity) :
    ∃ frame, (subscribe id filter qos).pack capacity = .ok frame := by
  refine exists_pack (if_neg (Nat.not_lt.2 fits)) (fun s hs => ?_) ?_ ?_
  · simp only [List.mem_cons, List.not_mem_nil, or_false, Field.text.injEq, reduceCtorEq, false_or]
      at hs
    rwa [hs]
  · simp only [Length.limit, Field.textLimit] at fits ⊢
    omega
  · show 5 + (2 + (2 + filter.utf8ByteSize) + 1) ≤ capacity
    omega

/-- A DISCONNECT is two bytes, the second of which says that nothing follows. -/
theorem pack_disconnect {capacity : Nat} (h : 2 ≤ capacity) :
    disconnect.pack capacity = .ok [0xE0, 0x00] :=
  Frame.pack_of_fits [] rfl (Nat.zero_le _) h

end Outbound

/-- An acknowledgement says which message it is for. -/
theorem Inbound.decode_pubAck (id : UInt16) :
    decode (0x40 :: 0x02 :: wordBytes id) = .ok (.pubAck id) := by
  have hword := wordOf_wordBytes id
  simp only [decode, wordBytes]
  show Except.ok (Inbound.pubAck _) = _
  rw [hword]

end Mqtt
