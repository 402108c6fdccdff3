/-
# The grammar of received frames

What a frame is, said without a reader: a first byte, a form of the size of the
body in at most four bytes, and the body (`Framed`); and what the packet of a frame
is, field by field (`Inbound.LaidOut`).

| kind | first byte | body |
| --- | --- | --- |
| CONNACK | `2x` | session flag, return code |
| PUBLISH | `3x`, bits 2 and 1 are 0 or 1 | topic with its size, identifier at level 1, payload |
| PUBACK | `4x` | identifier |
| SUBACK | `9x` | identifier, return code, anything |
| PINGRESP | `Dx` | empty |
| the other nine | `1x` to `Ex` | anything |

The reader agrees with the grammar in both directions, and which of its three
faults it gives is determined too (`Inbound.decode_grammar`).
-/
import Mqtt.Proofs.Wire.Length
import Mqtt.Proofs.Wire.Stream

namespace Mqtt

/-- The bytes are one frame with this first byte, this length field and this body. -/
structure Framed (frame : List UInt8) (first : UInt8) (field body : List UInt8) : Prop where
  bytes : frame = first :: (field ++ body)
  form : Length.Form field body.length
  four : field.length ≤ 4

namespace Kind

/-- The kind of a frame is in the upper half of its first byte, and in nothing else. -/
theorem ofFirstByte?_eq_some_iff {first : UInt8} {kind : Kind} :
    ofFirstByte? first = some kind ↔ first / 16 = kind.code := by
  unfold ofFirstByte?
  constructor
  · intro h
    unfold ofCode? at h
    split at h <;> cases h <;> assumption
  · intro h
    rw [h, ofCode?_code]

/-- The nibbles from 1 to 14 name a kind. -/
theorem exists_ofFirstByte?_iff {first : UInt8} :
    (∃ kind, ofFirstByte? first = some kind) ↔ 1 ≤ first / 16 ∧ first / 16 ≤ 14 := by
  constructor
  · rintro ⟨kind, h⟩
    rw [ofFirstByte?_eq_some_iff.1 h]
    cases kind <;> decide
  · rintro ⟨least, most⟩
    have hnamed : ∀ n < 15, 1 ≤ n → (ofCode? n.toUInt8).isSome := by decide
    have hleast : 1 ≤ (first / 16).toNat := least
    have hmost : (first / 16).toNat ≤ 14 := most
    have hcode : (first / 16).toNat.toUInt8 = first / 16 := UInt8.ofNat_toNat
    have h := hnamed (first / 16).toNat (by omega) hleast
    rw [hcode] at h
    exact Option.isSome_iff_exists.1 h

end Kind

/-- A frame announces what it is, whatever follows it. -/
theorem Framed.parse {frame field body : List UInt8} {first : UInt8} {kind : Kind}
    (framed : Framed frame first field body) (named : Kind.ofFirstByte? first = some kind)
    (rest : List UInt8) :
    Header.parse (frame ++ rest) =
      .ok (some ⟨kind, first % 16, body.length, 1 + field.length⟩) := by
  have hlength : Length.decode (field ++ (body ++ rest)) = .ok (some (body.length, field.length)) :=
    framed.form.decodePlaces framed.four _
  rw [framed.bytes, List.cons_append, List.append_assoc]
  exact Header.parse_eq_some_iff.2 ⟨_, _, kind, _, _, rfl, named, hlength, rfl⟩

namespace Header

variable {bytes : List UInt8} {header : Header}

/-- What is read as a header is one, with whatever follows it. -/
theorem exists_form_of_parse (h : parse bytes = .ok (some header)) :
    ∃ first field more, bytes = first :: (field ++ more) ∧
      Kind.ofFirstByte? first = some header.kind ∧ header.flags = first % 16 ∧
        Length.Form field header.bodySize ∧ field.length ≤ 4 ∧
          header.size = 1 + field.length := by
  obtain ⟨first, rest, kind, bodySize, used, rfl, named, hlength, rfl⟩ := parse_eq_some_iff.1 h
  obtain ⟨field, more, rfl, form, four, rfl⟩ := Length.decodePlaces_eq_some_iff.1 hlength
  exact ⟨first, field, more, rfl, named, rfl, form, four, rfl⟩

/-- A header that was read is among the bytes. -/
theorem size_le_length (h : parse bytes = .ok (some header)) : header.size ≤ bytes.length := by
  obtain ⟨first, field, more, rfl, -, -, -, -, hsize⟩ := exists_form_of_parse h
  rw [hsize, List.length_cons, List.length_append]
  omega

end Header

/-- A text is what it was counted to be. -/
theorem takeText_eq_some_iff {bytes rest : List UInt8} {s : String} :
    takeText bytes = some (s, rest) ↔
      ∃ high low : UInt8, bytes = high :: low :: (utf8 s ++ rest) ∧
        high.toNat * 256 + low.toNat = s.utf8ByteSize := by
  have hcount : ∀ high low : UInt8, (wordOf high low).toNat = high.toNat * 256 + low.toNat := by
    intro high low
    have := high.toNat_lt
    have := low.toNat_lt
    simp [wordOf]
    omega
  constructor
  · intro h
    rcases bytes with _ | ⟨high, _ | ⟨low, bytes⟩⟩
    · cases h
    · cases h
    · simp only [takeText, takeWord, Option.bind_eq_bind, Option.bind_some, Option.pure_def] at h
      split at h
      · cases h
      rename_i henough
      cases hs : ofUtf8? (bytes.take (wordOf high low).toNat) with
      | none => simp [hs] at h
      | some t =>
        simp only [hs, Option.bind_some] at h
        cases h
        -- The bytes of the text are those that were counted, so its size is the count.
        have htopic := utf8_of_ofUtf8? hs
        refine ⟨high, low, by rw [htopic, List.take_append_drop], ?_⟩
        have hlength := congrArg List.length htopic
        rw [length_utf8, List.length_take, hcount] at hlength
        rw [hcount] at henough
        omega
  · rintro ⟨high, low, rfl, hsize⟩
    have hlength : (wordOf high low).toNat = (utf8 s).length := by
      rw [hcount, hsize, length_utf8]
    simp [takeText, takeWord, hlength, ofUtf8?_utf8]

namespace Publish

/-- The level of a message is in two bits of its flags, as the byte that stands for the
level. -/
theorem qosOfFlags_eq_ok_iff {flags : UInt8} {qos : QoS} :
    qosOfFlags flags = .ok qos ↔ flags / 2 % 4 = qos.toByte := by
  unfold qosOfFlags
  constructor
  · intro h
    split at h
    · cases h
    · unfold QoS.ofByte at h
      split at h <;> cases h <;> assumption
  · intro h
    rw [h]
    cases qos <;> rfl

/-- The level is 0, 1, 2 or 3; 2 is refused as such. -/
theorem qosOfFlags_eq_error_iff {flags : UInt8} {fault : Fault} :
    qosOfFlags flags = .error fault ↔
      flags / 2 % 4 = 2 ∧ fault = .invalidQoS ∨ flags / 2 % 4 = 3 ∧ fault = .malformedPacket := by
  have hrange : (flags / 2 % 4).toNat < 4 := by
    rw [UInt8.toNat_mod]
    exact Nat.mod_lt _ (by decide)
  have hlevel : flags / 2 % 4 = 0 ∨ flags / 2 % 4 = 1 ∨ flags / 2 % 4 = 2 ∨ flags / 2 % 4 = 3 := by
    simp only [← UInt8.toNat_inj, UInt8.reduceToNat]
    omega
  unfold qosOfFlags
  rcases hlevel with h | h | h | h <;> rw [h] <;> simp [QoS.ofByte, eq_comm]

/-- An identifier is there exactly at level 1. -/
theorem takeId_eq_some_iff {qos : QoS} {bytes rest : List UInt8} {id : Option UInt16} :
    takeId qos bytes = some (id, rest) ↔
      (id.isSome ↔ qos = .atLeastOnce) ∧ bytes = id.toList.flatMap wordBytes ++ rest := by
  cases qos with
  | atMostOnce =>
    cases id with
    | none => simp [takeId]
    | some id => simp [takeId]
  | atLeastOnce =>
    constructor
    · intro h
      match bytes, h with
      | high :: low :: bytes, h =>
        cases h
        refine ⟨by simp, ?_⟩
        rw [Option.toList_some, List.flatMap_singleton, wordBytes_wordOf]
        rfl
    · rintro ⟨hid, rfl⟩
      obtain ⟨id, rfl⟩ := Option.isSome_iff_exists.1 (hid.2 rfl)
      rw [Option.toList_some, List.flatMap_singleton, takeId, takeWord_append]
      rfl

/-- The message that these flags and this body lay out. -/
structure LaidOut (flags : UInt8) (body : List UInt8) (p : Publish) : Prop where
  level : flags / 2 % 4 = p.qos.toByte
  retain : p.retain ↔ flags % 2 = 1
  dup : p.dup ↔ flags / 8 % 2 = 1
  identified : p.packetId.isSome ↔ p.qos = .atLeastOnce
  parts : ∃ high low : UInt8, high.toNat * 256 + low.toNat = p.topic.utf8ByteSize ∧
    body = high :: low :: (utf8 p.topic ++ (p.packetId.toList.flatMap wordBytes ++ p.payload))

/-- **The body of a PUBLISH is read exactly if it is laid out as one**: its topic with the
topic's size, an identifier if and only if the level is 1, and all the rest as payload. -/
theorem ofBody_eq_ok_iff {flags : UInt8} {body : List UInt8} {p : Publish} :
    ofBody flags body = .ok p ↔ LaidOut flags body p := by
  constructor
  · intro h
    unfold ofBody at h
    cases hqos : qosOfFlags flags with
    | error fault => simp [hqos, bind, Except.bind] at h
    | ok qos =>
      cases htext : takeText body with
      | none => simp [hqos, htext, bind, Except.bind, throw, throwThe, MonadExceptOf.throw] at h
      | some read =>
        obtain ⟨topic, rest⟩ := read
        cases hid : takeId qos rest with
        | none =>
          simp [hqos, htext, hid, bind, Except.bind, throw, throwThe, MonadExceptOf.throw] at h
        | some read =>
          obtain ⟨packetId, payload⟩ := read
          simp only [hqos, htext, hid, bind, Except.bind, pure, Except.pure] at h
          cases h
          obtain ⟨high, low, hbody, hsize⟩ := takeText_eq_some_iff.1 htext
          obtain ⟨identified, hrest⟩ := takeId_eq_some_iff.1 hid
          exact {
            level := qosOfFlags_eq_ok_iff.1 hqos
            retain := decide_eq_true_iff
            dup := decide_eq_true_iff
            identified
            parts := ⟨high, low, hsize, hrest ▸ hbody⟩ }
  · rintro ⟨level, retain, dup, identified, high, low, hsize, rfl⟩
    have hqos := qosOfFlags_eq_ok_iff.2 level
    generalize hrest : p.packetId.toList.flatMap wordBytes ++ p.payload = rest
    have htext : takeText (high :: low :: (utf8 p.topic ++ rest)) = some (p.topic, rest) :=
      takeText_eq_some_iff.2 ⟨high, low, rfl, hsize⟩
    have hid : takeId p.qos rest = some (p.packetId, p.payload) :=
      takeId_eq_some_iff.2 ⟨identified, hrest.symm⟩
    have hretain : decide (flags % 2 = 1) = p.retain := by
      rw [Bool.eq_iff_iff, decide_eq_true_iff, retain]
    have hdup : decide (flags / 8 % 2 = 1) = p.dup := by
      rw [Bool.eq_iff_iff, decide_eq_true_iff, dup]
    simp only [ofBody, hqos, htext, hid, bind, Except.bind, pure, Except.pure, hretain, hdup]

/-- Level 2 is refused as such; anything else that is wrong is malformed. -/
theorem ofBody_eq_error {flags : UInt8} {body : List UInt8} {fault : Fault}
    (h : ofBody flags body = .error fault) :
    flags / 2 % 4 = 2 ∧ fault = .invalidQoS ∨ flags / 2 % 4 ≠ 2 ∧ fault = .malformedPacket := by
  unfold ofBody at h
  cases hqos : qosOfFlags flags with
  | error refused =>
    simp only [hqos, bind, Except.bind] at h
    cases h
    rcases qosOfFlags_eq_error_iff.1 hqos with ⟨hlevel, rfl⟩ | ⟨hlevel, rfl⟩
    · exact .inl ⟨hlevel, rfl⟩
    · exact .inr ⟨by rw [hlevel]; decide, rfl⟩
  | ok qos =>
    have hlevel : flags / 2 % 4 ≠ 2 := by
      rw [qosOfFlags_eq_ok_iff.1 hqos]
      cases qos <;> decide
    refine .inr ⟨hlevel, ?_⟩
    cases htext : takeText body with
    | none =>
      simp only [hqos, htext, bind, Except.bind, throw, throwThe, MonadExceptOf.throw] at h
      exact (Except.error.inj h).symm
    | some read =>
      cases hid : takeId qos read.2 with
      | none =>
        simp only [hqos, htext, hid, bind, Except.bind, throw, throwThe,
          MonadExceptOf.throw] at h
        exact (Except.error.inj h).symm
      | some => simp [hqos, htext, hid, bind, Except.bind, pure, Except.pure] at h

/-- A PUBLISH at level 2 is refused for its level before its body is looked at, so also
with a body that is broken. -/
theorem ofBody_of_level_two {flags : UInt8} (level : flags / 2 % 4 = 2) (body : List UInt8) :
    ofBody flags body = .error .invalidQoS := by
  rw [ofBody, qosOfFlags_eq_error_iff.2 (.inl ⟨level, rfl⟩)]
  rfl

end Publish

namespace Inbound

/-- The packet that a first byte and a body lay out. -/
inductive LaidOut (first : UInt8) : List UInt8 → Inbound → Prop where
  | connAck (kind : first / 16 = Kind.connAck.code) (ack code : UInt8) :
      LaidOut first [ack, code] (.connAck (ack % 2 = 1) code)
  | publish (kind : first / 16 = Kind.publish.code) {body : List UInt8} {message : Publish}
      (laid : message.LaidOut (first % 16) body) : LaidOut first body (.publish message)
  | pubAck (kind : first / 16 = Kind.pubAck.code) (high low : UInt8) :
      LaidOut first [high, low] (.pubAck (wordOf high low))
  | subAck (kind : first / 16 = Kind.subAck.code) (high low code : UInt8) (more : List UInt8) :
      LaidOut first (high :: low :: code :: more) (.subAck (wordOf high low) code)
  | pingResp (kind : first / 16 = Kind.pingResp.code) : LaidOut first [] .pingResp
  | other {kind : Kind} (named : first / 16 = kind.code)
      (ignored : kind ∉ [.connAck, .publish, .pubAck, .subAck, .pingResp]) (body : List UInt8) :
      LaidOut first body (.other kind)

/-- **A body is read as a packet exactly if it is laid out as that packet**, once the
first byte names a kind. -/
theorem ofBody_eq_ok_iff {first : UInt8} {kind : Kind} {body : List UInt8} {packet : Inbound}
    (named : Kind.ofFirstByte? first = some kind) :
    ofBody kind (first % 16) body = .ok packet ↔ LaidOut first body packet := by
  have hcode := Kind.ofFirstByte?_eq_some_iff.1 named
  constructor
  · intro h
    unfold ofBody at h
    split at h
    · split at h
      · cases h
        exact .connAck hcode ..
      · cases h
    · cases hread : Publish.ofBody (first % 16) body with
      | error fault => simp [hread, Except.map] at h
      | ok message =>
        simp only [hread, Except.map] at h
        cases h
        exact .publish hcode (Publish.ofBody_eq_ok_iff.1 hread)
    · split at h
      · cases h
        exact .pubAck hcode ..
      · cases h
    · split at h
      · cases h
        exact .subAck hcode ..
      · cases h
    · split at h
      case isTrue hempty =>
        cases h
        rw [List.isEmpty_iff.1 hempty]
        exact .pingResp hcode
      case isFalse => cases h
    · cases h
      refine .other hcode ?_ body
      simp only [List.mem_cons, List.not_mem_nil, or_false, not_or]
      exact ⟨‹_›, ‹_›, ‹_›, ‹_›, ‹_›⟩
  · have hkind : ∀ {other : Kind}, first / 16 = other.code → kind = other := by
      intro other h
      have := Kind.ofFirstByte?_eq_some_iff.2 h
      rw [named] at this
      exact Option.some.inj this
    intro h
    cases h with
    | connAck h ack code => rw [hkind h]; rfl
    | publish h laid =>
      rw [hkind h, ofBody, Publish.ofBody_eq_ok_iff.2 laid]
      rfl
    | pubAck h high low => rw [hkind h]; rfl
    | subAck h high low code more => rw [hkind h]; rfl
    | pingResp h => rw [hkind h]; rfl
    | other h ignored =>
      obtain rfl := hkind h
      cases kind <;> first | rfl | exact absurd (by decide) ignored

/-- There are two ways for a body to be refused.  A PUBLISH at level 2 is refused for the
level, and everything else for the layout; no input is refused for both. -/
theorem ofBody_eq_error {kind : Kind} {flags : UInt8} {body : List UInt8} {fault : Fault}
    (h : ofBody kind flags body = .error fault) :
    (kind = .publish ∧ flags / 2 % 4 = 2) ∧ fault = .invalidQoS ∨
      ¬ (kind = .publish ∧ flags / 2 % 4 = 2) ∧ fault = .malformedPacket := by
  have hother : kind ≠ .publish → fault = .malformedPacket := by
    intro hkind
    unfold ofBody at h
    split at h <;> first | (split at h <;> cases h <;> rfl) | cases h | exact absurd rfl hkind
  by_cases hkind : kind = .publish
  · subst hkind
    cases hread : Publish.ofBody flags body with
    | ok message => simp [ofBody, hread, Except.map] at h
    | error refused =>
      simp only [ofBody, hread, Except.map, Except.error.injEq] at h
      subst h
      rcases Publish.ofBody_eq_error hread with ⟨hlevel, rfl⟩ | ⟨hlevel, rfl⟩
      · exact .inl ⟨⟨rfl, hlevel⟩, rfl⟩
      · exact .inr ⟨fun h => hlevel h.2, rfl⟩
  · exact .inr ⟨fun h => hkind h.1, hother hkind⟩

/-- A frame is decoded by its body, whatever follows it. -/
theorem decode_of_framed {frame field body : List UInt8} {first : UInt8} {kind : Kind}
    (framed : Framed frame first field body) (named : Kind.ofFirstByte? first = some kind)
    (rest : List UInt8) : decode (frame ++ rest) = ofBody kind (first % 16) body := by
  have hparse := framed.parse named rest
  have hdrop : (frame ++ rest).drop (1 + field.length) = body ++ rest := by
    rw [framed.bytes, Nat.add_comm, List.cons_append, List.append_assoc, List.drop_succ_cons,
      List.drop_left]
  have henough : ¬ (body ++ rest).length < body.length := by
    rw [List.length_append]
    omega
  simp only [decode, hparse, bind, Except.bind, hdrop, if_neg henough, List.take_left]

/-- Where there is no header there is no packet, for the same reason. -/
theorem decode_of_fault {bytes : List UInt8} {fault : Fault}
    (h : Header.parse bytes = .error fault) : decode bytes = .error fault := by
  rw [decode, h]
  rfl

/-- Bytes that end inside a header are malformed. -/
theorem decode_of_open {bytes : List UInt8} (h : Header.parse bytes = .ok none) :
    decode bytes = .error .malformedPacket := by
  rw [decode, h]
  rfl

/-- Behind its header a packet is read from as many bytes as that announced, if they are
all there. -/
theorem decode_of_parse {bytes : List UInt8} {header : Header}
    (h : Header.parse bytes = .ok (some header)) :
    decode bytes =
      if bytes.length < header.frameSize then .error .malformedPacket
      else ofBody header.kind header.flags ((bytes.drop header.size).take header.bodySize) := by
  have hsize := Header.size_le_length h
  have hshort : (bytes.drop header.size).length < header.bodySize ↔
      bytes.length < header.frameSize := by
    rw [List.length_drop, Header.frameSize]
    omega
  simp only [decode, h, bind, Except.bind, hshort]
  split <;> rfl

/-- A first byte that names no kind is malformed. -/
theorem decode_of_nameless {first : UInt8} (nameless : Kind.ofFirstByte? first = none)
    (bytes : List UInt8) : decode (first :: bytes) = .error .malformedPacket :=
  decode_of_fault (Header.parse_eq_error_iff.2 ⟨first, bytes, rfl, .inl ⟨nameless, rfl⟩⟩)

/-- Four places that are all marked are refused at once for the length they do not end,
whatever comes after them. -/
theorem decode_of_marked {first : UInt8} {kind : Kind} {marked : List UInt8}
    (named : Kind.ofFirstByte? first = some kind) (four : marked.length = 4)
    (all : ∀ b ∈ marked, 128 ≤ b) (rest : List UInt8) :
    decode (first :: (marked ++ rest)) = .error .malformedRemainingLength := by
  have hlength : Length.decode (marked ++ rest) = .error .malformedRemainingLength :=
    Length.decodePlaces_eq_error_iff.2 ⟨rfl, marked, rest, rfl, four, all⟩
  exact decode_of_fault
    (Header.parse_eq_error_iff.2 ⟨first, _, rfl, .inr ⟨⟨kind, named⟩, hlength⟩⟩)

/-- What the bytes given to the reader begin with: a whole frame of some kind, a
length that does not end, or neither. -/
theorem decode_cases (bytes : List UInt8) :
    (∃ frame first field body rest kind, bytes = frame ++ rest ∧ Framed frame first field body ∧
      Kind.ofFirstByte? first = some kind ∧ decode bytes = ofBody kind (first % 16) body) ∨
    (∃ first marked rest kind, bytes = first :: (marked ++ rest) ∧
      Kind.ofFirstByte? first = some kind ∧ marked.length = 4 ∧ ∀ b ∈ marked, 128 ≤ b) ∨
    decode bytes = .error .malformedPacket := by
  cases hparse : Header.parse bytes with
  | error fault =>
    obtain ⟨first, rest, rfl, ⟨nameless, -⟩ | ⟨⟨kind, named⟩, hlength⟩⟩ :=
      Header.parse_eq_error_iff.1 hparse
    · exact .inr (.inr (decode_of_nameless nameless rest))
    · obtain ⟨-, marked, rest, rfl, four, all⟩ := Length.decodePlaces_eq_error_iff.1 hlength
      exact .inr (.inl ⟨first, marked, rest, kind, rfl, named, four, all⟩)
  | ok read =>
    cases read with
    | none => exact .inr (.inr (decode_of_open hparse))
    | some header =>
      -- There is a header.  The frame is whole if all the bytes it announces are there.
      by_cases short : bytes.length < header.frameSize
      · exact .inr (.inr (by rw [decode_of_parse hparse, if_pos short]))
      · obtain ⟨first, field, more, hbytes, named, hflags, form, four, hsize⟩ :=
          Header.exists_form_of_parse hparse
        have hdrop : bytes.drop header.size = more := by
          rw [hbytes, hsize, Nat.add_comm, List.drop_succ_cons, List.drop_left]
        have hbody : (more.take header.bodySize).length = header.bodySize := by
          rw [hbytes, Header.frameSize, hsize, List.length_cons, List.length_append] at short
          rw [List.length_take]
          omega
        refine .inl ⟨first :: (field ++ more.take header.bodySize), first, field,
          more.take header.bodySize, more.drop header.bodySize, header.kind, ?_,
          ⟨rfl, hbody.symm ▸ form, four⟩, named, ?_⟩
        · rw [hbytes, List.cons_append, List.append_assoc, List.take_append_drop]
        · rw [decode_of_parse hparse, if_neg short, hdrop, hflags]

/-- **Bytes are read as a packet exactly if they start with a frame of it.**  The frame
has a first byte, a form of its body's size in at most four bytes, and a body laid out as
the packet; what comes after it does not matter. -/
theorem decode_eq_ok_iff {bytes : List UInt8} {packet : Inbound} :
    decode bytes = .ok packet ↔ ∃ frame first field body rest,
      bytes = frame ++ rest ∧ Framed frame first field body ∧ LaidOut first body packet := by
  constructor
  · intro h
    rcases decode_cases bytes with ⟨frame, first, field, body, rest, kind, hsplit, framed, named,
      hdecode⟩ | ⟨first, marked, rest, kind, rfl, named, four, all⟩ | hmalformed
    · rw [h] at hdecode
      exact ⟨frame, first, field, body, rest, hsplit, framed,
        (ofBody_eq_ok_iff named).1 hdecode.symm⟩
    · rw [decode_of_marked named four all] at h
      cases h
    · rw [hmalformed] at h
      cases h
  · rintro ⟨frame, first, field, body, rest, rfl, framed, laid⟩
    obtain ⟨kind, named⟩ : ∃ kind, Kind.ofFirstByte? first = some kind := by
      cases laid <;> exact ⟨_, Kind.ofFirstByte?_eq_some_iff.2 (by assumption)⟩
    rw [decode_of_framed framed named, (ofBody_eq_ok_iff named).2 laid]

/-- **The length of a frame is refused exactly if it has four marked places.**  The first
byte then still names a kind: one that names none is refused for that. -/
theorem decode_eq_malformedRemainingLength_iff {bytes : List UInt8} :
    decode bytes = .error .malformedRemainingLength ↔ ∃ first marked rest,
      bytes = first :: (marked ++ rest) ∧ (1 ≤ first / 16 ∧ first / 16 ≤ 14) ∧
        marked.length = 4 ∧ ∀ b ∈ marked, 128 ≤ b := by
  constructor
  · intro h
    rcases decode_cases bytes with ⟨frame, first, field, body, rest, kind, -, -, -,
      hdecode⟩ | ⟨first, marked, rest, kind, hsplit, named, four, all⟩ | hmalformed
    · rw [h] at hdecode
      rcases ofBody_eq_error hdecode.symm with ⟨-, hfault⟩ | ⟨-, hfault⟩ <;> cases hfault
    · exact ⟨first, marked, rest, hsplit, Kind.exists_ofFirstByte?_iff.1 ⟨kind, named⟩, four, all⟩
    · rw [hmalformed] at h
      cases h
  · rintro ⟨first, marked, rest, rfl, nibble, four, all⟩
    obtain ⟨kind, named⟩ := Kind.exists_ofFirstByte?_iff.2 nibble
    exact decode_of_marked named four all rest

/-- **A level is refused exactly in a PUBLISH that is all there and asks for level 2.**  A
PUBLISH that is cut short is refused for its layout instead, even if its flags ask for
level 2. -/
theorem decode_eq_invalidQoS_iff {bytes : List UInt8} :
    decode bytes = .error .invalidQoS ↔ ∃ frame first field body rest,
      bytes = frame ++ rest ∧ Framed frame first field body ∧
        first / 16 = Kind.publish.code ∧ first % 16 / 2 % 4 = 2 := by
  constructor
  · intro h
    rcases decode_cases bytes with ⟨frame, first, field, body, rest, kind, hsplit, framed, named,
      hdecode⟩ | ⟨first, marked, rest, kind, rfl, named, four, all⟩ | hmalformed
    · rw [h] at hdecode
      rcases ofBody_eq_error hdecode.symm with ⟨⟨rfl, hlevel⟩, -⟩ | ⟨-, hfault⟩
      · exact ⟨frame, first, field, body, rest, hsplit, framed,
          Kind.ofFirstByte?_eq_some_iff.1 named, hlevel⟩
      · cases hfault
    · rw [decode_of_marked named four all] at h
      cases h
    · rw [hmalformed] at h
      cases h
  · rintro ⟨frame, first, field, body, rest, rfl, framed, hkind, hlevel⟩
    rw [decode_of_framed framed (Kind.ofFirstByte?_eq_some_iff.2 hkind), ofBody,
      Publish.ofBody_of_level_two hlevel]
    rfl

/-- The reader has three faults. -/
theorem fault_of_decode {bytes : List UInt8} {fault : Fault} (h : decode bytes = .error fault) :
    fault ∈ [.malformedRemainingLength, .invalidQoS, .malformedPacket] := by
  rcases decode_cases bytes with ⟨frame, first, field, body, rest, kind, -, -, -,
    hdecode⟩ | ⟨first, marked, rest, kind, rfl, named, four, all⟩ | hmalformed
  · rw [h] at hdecode
    rcases ofBody_eq_error hdecode.symm with ⟨-, rfl⟩ | ⟨-, rfl⟩ <;> decide
  · rw [decode_of_marked named four all] at h
    cases h
    decide
  · rw [hmalformed] at h
    cases h
    decide

/-- What follows a frame does not matter. -/
theorem decode_append {frame field body : List UInt8} {first : UInt8}
    (framed : Framed frame first field body) (rest : List UInt8) :
    decode (frame ++ rest) = decode frame := by
  cases named : Kind.ofFirstByte? first with
  | none =>
    rw [framed.bytes, List.cons_append, decode_of_nameless named, decode_of_nameless named]
  | some kind =>
    rw [decode_of_framed framed named rest, ← decode_of_framed framed named [], List.append_nil]

/-- **The reader accepts exactly its grammar.**  It gives the packets that frames at
the start of the bytes lay out and no others.  It finds a length that does not end
exactly behind a first byte that names a kind, and an invalid level exactly in a
whole PUBLISH frame; everything else that is not accepted is malformed.  What
follows a frame never matters. -/
theorem decode_grammar (bytes : List UInt8) :
    (∀ packet, decode bytes = .ok packet ↔ ∃ frame first field body rest,
      bytes = frame ++ rest ∧ Framed frame first field body ∧ LaidOut first body packet) ∧
    (decode bytes = .error .malformedRemainingLength ↔ ∃ first marked rest,
      bytes = first :: (marked ++ rest) ∧ (1 ≤ first / 16 ∧ first / 16 ≤ 14) ∧
        marked.length = 4 ∧ ∀ b ∈ marked, 128 ≤ b) ∧
    (decode bytes = .error .invalidQoS ↔ ∃ frame first field body rest,
      bytes = frame ++ rest ∧ Framed frame first field body ∧
        first / 16 = Kind.publish.code ∧ first % 16 / 2 % 4 = 2) ∧
    (∀ fault, decode bytes = .error fault →
      fault ∈ [.malformedRemainingLength, .invalidQoS, .malformedPacket]) ∧
    (∀ frame first field body rest, bytes = frame ++ rest → Framed frame first field body →
      decode bytes = decode frame) := by
  refine ⟨fun _ => decode_eq_ok_iff, decode_eq_malformedRemainingLength_iff,
    decode_eq_invalidQoS_iff, fun _ => fault_of_decode, ?_⟩
  rintro frame first field body rest rfl framed
  exact decode_append framed rest

end Inbound
end Mqtt
