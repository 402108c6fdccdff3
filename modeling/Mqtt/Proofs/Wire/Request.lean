/-
# Requests read back

A broker reads CONNECT and SUBSCRIBE, which a client only writes.  `Outbound.request?`
is a reader of the two: it takes the bytes apart along the layout, and wants them to be
one frame, with nothing left over.

| kind | flags | body |
| --- | --- | --- |
| CONNECT | `0` | `MQTT`, level 4, flags, keep-alive, client id, user name, password |
| SUBSCRIBE | `2` | identifier, filter, level |

The flags of CONNECT say which texts follow, so a text that is empty is not one that is
absent.  What a client writes is read back whole, and so no two requests have the same
frame (`Outbound.request_read_back`).
-/
import Mqtt.Proofs.Wire.Fit

namespace Mqtt

/-- A byte at the start of the bytes, and what follows it. -/
def takeByte : List UInt8 → Option (UInt8 × List UInt8)
  | [] => none
  | b :: rest => some (b, rest)

/-- A text at the start of the bytes, if there is to be one, and what follows it. -/
def takeTextIf (announced : Bool) (bytes : List UInt8) : Option (Option String × List UInt8) :=
  if announced then (takeText bytes).map fun (s, rest) => (some s, rest) else some (none, bytes)

/-- The request in the body of a CONNECT.  Of the flags, only the three of this library may
be set. -/
def Connect.ofBody? (body : List UInt8) : Option Connect := do
  let (name, rest) ← takeText body
  let (level, rest) ← takeByte rest
  let (flags, rest) ← takeByte rest
  let (keepAlive, rest) ← takeWord rest
  let (clientId, rest) ← takeText rest
  let (userName, rest) ← takeTextIf (flags &&& 0x80 != 0) rest
  let (password, rest) ← takeTextIf (flags &&& 0x40 != 0) rest
  if name = "MQTT" ∧ level = 4 ∧ flags &&& 0x3D = 0 ∧ rest = [] then
    some { clientId, userName, password, keepAlive, cleanSession := flags &&& 0x02 != 0 }
  else none

namespace Outbound

/-- The subscription in the body of a SUBSCRIBE to one filter. -/
def subscription? (body : List UInt8) : Option Outbound := do
  let (id, rest) ← takeWord body
  let (filter, rest) ← takeText rest
  let (level, rest) ← takeByte rest
  let .ok qos := QoS.ofByte level | none
  if rest = [] then some (.subscribe id filter qos) else none

/-- The request that the bytes are the frame of. -/
def request? (bytes : List UInt8) : Option Outbound :=
  match Header.parse bytes with
  | .ok (some ⟨kind, flags, bodySize, size⟩) =>
    if (bytes.drop size).length ≠ bodySize then none
    else
      match kind, flags with
      | .connect, 0 => (Connect.ofBody? (bytes.drop size)).map .connect
      | .subscribe, 2 => subscription? (bytes.drop size)
      | _, _ => none
  | _ => none

/-- The packet is read by brokers only. -/
def IsRequest (packet : Outbound) : Prop :=
  packet.kind = .connect ∨ packet.kind = .subscribe

end Outbound

/-- A text that may be absent is read back, whatever follows it. -/
theorem takeTextIf_append {s : Option String} {parts : List (List UInt8)} (rest : List UInt8)
    (h : (s.toList.map Field.text).map Field.bytes? = parts.map some) :
    takeTextIf s.isSome (parts.flatten ++ rest) = some (s, rest) := by
  cases s with
  | none =>
    obtain rfl := List.map_eq_nil_iff.1 h.symm
    rfl
  | some s =>
    obtain ⟨bytes, parts, rfl, hbytes, hnone⟩ := List.map_eq_cons_iff.1 h.symm
    obtain rfl := List.map_eq_nil_iff.1 hnone
    rw [List.flatten_cons, List.flatten_nil, List.append_nil, takeTextIf, Option.isSome_some,
      if_pos rfl, takeText_append rest hbytes.symm]
    rfl

namespace Connect

/-- The flags say which texts are there and whether a clean session is asked for, and no
other flag is set. -/
theorem flags_bits (c : Connect) :
    (c.flags &&& 0x80 != 0) = c.userName.isSome ∧ (c.flags &&& 0x40 != 0) = c.password.isSome ∧
      (c.flags &&& 0x02 != 0) = c.cleanSession ∧ c.flags &&& 0x3D = 0 := by
  rw [flags]
  generalize c.userName.isSome = user
  generalize c.password.isSome = pass
  generalize c.cleanSession = clean
  cases user <;> cases pass <;> cases clean <;> decide

/-- The body of a CONNECT is read back. -/
theorem ofBody?_flatten {c : Connect} {parts : List (List UInt8)}
    (h : c.frame.body.map Field.bytes? = parts.map some) :
    ofBody? parts.flatten = some c := by
  rw [frame, List.map_append, List.map_append] at h
  obtain ⟨front, texts, rfl, hfront, htexts⟩ := List.map_eq_append_iff.1 h.symm
  obtain ⟨name, front, rfl, hname, hfront⟩ := List.map_eq_cons_iff.1 hfront
  obtain ⟨level, front, rfl, hlevel, hfront⟩ := List.map_eq_cons_iff.1 hfront
  obtain ⟨flags, front, rfl, hflags, hfront⟩ := List.map_eq_cons_iff.1 hfront
  obtain ⟨keepAlive, front, rfl, hkeepAlive, hfront⟩ := List.map_eq_cons_iff.1 hfront
  obtain ⟨clientId, front, rfl, hclientId, hfront⟩ := List.map_eq_cons_iff.1 hfront
  obtain rfl := List.map_eq_nil_iff.1 hfront
  cases hlevel
  cases hflags
  cases hkeepAlive
  rw [List.map_append] at htexts
  obtain ⟨userName, password, rfl, huserName, hpassword⟩ := List.map_eq_append_iff.1 htexts
  obtain ⟨huser, hpass, hclean, hother⟩ := c.flags_bits
  have hflatten : ([name, [4], [c.flags], wordBytes c.keepAlive, clientId] ++
      (userName ++ password)).flatten = name ++ (4 :: c.flags :: (wordBytes c.keepAlive ++
        (clientId ++ (userName.flatten ++ (password.flatten ++ []))))) := by
    simp
  rw [hflatten]
  simp only [ofBody?, Option.bind_eq_bind, Option.bind_some, takeText_append _ hname.symm, takeByte,
    takeWord_append, takeText_append _ hclientId.symm, huser, takeTextIf_append _ huserName.symm,
    hpass, takeTextIf_append _ hpassword.symm, hclean, hother, and_self, if_true]

end Connect

namespace Outbound

/-- The body of a SUBSCRIBE is read back. -/
theorem subscription?_flatten {id : UInt16} {filter : String} {qos : QoS}
    {parts : List (List UInt8)}
    (h : [Field.word id, .text filter, .byte qos.toByte].map Field.bytes? = parts.map some) :
    subscription? parts.flatten = some (.subscribe id filter qos) := by
  obtain ⟨word, parts, rfl, hword, hparts⟩ := List.map_eq_cons_iff.1 h.symm
  obtain ⟨text, parts, rfl, htext, hparts⟩ := List.map_eq_cons_iff.1 hparts
  obtain ⟨level, parts, rfl, hlevel, hparts⟩ := List.map_eq_cons_iff.1 hparts
  obtain rfl := List.map_eq_nil_iff.1 hparts
  cases hword
  cases hlevel
  simp only [List.flatten_cons, List.flatten_nil, List.append_nil, subscription?,
    Option.bind_eq_bind, Option.bind_some, takeWord_append, takeText_append _ htext.symm, takeByte,
    QoS.ofByte_toByte, if_true]

variable {packet other : Outbound}

/-- A request that was put somewhere is read back from there. -/
theorem request?_of_putInto {room : List UInt8} {buffer : Buffer} (request : packet.IsRequest)
    (h : packet.putInto (Buffer.ofRoom room) = .ok buffer) :
    request? buffer.written = some packet := by
  cases hframe : packet.frame with
  | error fault => simp [putInto, hframe, bind, Except.bind] at h
  | ok frame =>
    have hput : frame.putInto (Buffer.ofRoom room) = .ok buffer := by
      rw [putInto, hframe] at h
      exact h
    obtain ⟨limit, parts, hparts⟩ := Frame.exists_parts_of_putInto hput
    obtain ⟨hfirst, -⟩ := frame_announces hframe
    rw [Frame.putInto_eq_put _ hparts limit, hfirst] at hput
    obtain ⟨-, rfl⟩ := Buffer.put_eq_ok_iff.1 hput
    have hdrop : (packet.kind.firstByte packet.flags ::
        (Length.encode frame.bodySize ++ parts.flatten)).drop
          (1 + (Length.encode frame.bodySize).length) = parts.flatten := by
      rw [Nat.add_comm 1, List.drop_succ_cons, List.drop_left]
    have hlength : ¬parts.flatten.length ≠ frame.bodySize := by
      rw [Field.length_flatten hparts, (frame_eq_ok hframe).2]
      exact not_not_intro rfl
    simp only [Buffer.ofRoom, List.nil_append, request?,
      Header.parse_shortest _ packet.flags_lt limit, hdrop, if_neg hlength]
    cases packet with
    | connect c =>
      cases hframe
      simp only [kind, flags, Connect.ofBody?_flatten hparts, Option.map_some]
    | subscribe id filter qos =>
      rw [Outbound.frame] at hframe
      split at hframe
      · cases hframe
      · cases hframe
        exact subscription?_flatten hparts
    | _ => simp [IsRequest, kind] at request

/-- A request has a form if its texts do: its body is never too long to announce. -/
theorem encodable_of_request (request : packet.IsRequest)
    (texts : ∀ s ∈ packet.texts, s.utf8ByteSize ≤ Field.textLimit) : packet.Encodable := by
  refine ⟨texts, ?_, ?_⟩
  · rintro message rfl
    simp [IsRequest, kind] at request
  · cases packet with
    | connect c =>
      obtain ⟨clientId, userName, password, keepAlive, cleanSession⟩ := c
      simp only [bodySize, Outbound.texts, Field.textLimit, Length.limit] at texts ⊢
      cases userName <;> cases password <;>
        simp only [Option.toList_none, Option.toList_some, List.append_nil, List.nil_append,
          List.cons_append, List.forall_mem_cons, List.foldr_cons, List.foldr_nil] at texts ⊢ <;>
        omega
    | subscribe id filter qos =>
      have hfilter := texts filter List.mem_cons_self
      simp only [bodySize, Field.textLimit, Length.limit] at hfilter ⊢
      omega
    | _ => simp [IsRequest, kind] at request

/-- **A request carries its arguments.**  A CONNECT or a SUBSCRIBE of which the texts have
a form is put into every buffer with room for it and read back from what was written, with
every argument it was made of; no other request has the same frame. -/
theorem request_read_back (packet : Outbound) (request : packet.IsRequest)
    (texts : ∀ s ∈ packet.texts, s.utf8ByteSize ≤ Field.textLimit) :
    (∀ room : List UInt8, packet.size ≤ room.length →
      ∃ buffer, packet.putInto (Buffer.ofRoom room) = .ok buffer ∧
        request? buffer.written = some packet) ∧
    ∀ (other : Outbound) (room more : List UInt8) (buffer after : Buffer), other.IsRequest →
      packet.putInto (Buffer.ofRoom room) = .ok buffer →
        other.putInto (Buffer.ofRoom more) = .ok after → buffer.written = after.written →
          packet = other := by
  refine ⟨fun room fits => ?_, fun other room more buffer after hother hput hputs same => ?_⟩
  · obtain ⟨bytes, hsize, -, hput⟩ := (encodable_of_request request texts).exists_bytes
    have hbuffer : packet.putInto (Buffer.ofRoom room) = .ok ⟨bytes, room.drop bytes.length⟩ :=
      (hput _).trans (if_pos (hsize ▸ fits))
    exact ⟨_, hbuffer, request?_of_putInto request hbuffer⟩
  · have hread := request?_of_putInto request hput
    rw [same, request?_of_putInto hother hputs] at hread
    exact (Option.some.inj hread).symm

/-- An empty user name takes two bytes, and is read back as one that is there. -/
theorem request_read_back_empty_name :
    (connect ⟨"dev", some "", none, 60, true⟩).IsRequest ∧
      (∀ s ∈ (connect ⟨"dev", some "", none, 60, true⟩).texts,
        s.utf8ByteSize ≤ Field.textLimit) ∧
      ∃ buffer, (connect ⟨"dev", some "", none, 60, true⟩).putInto (Buffer.blank 19) =
          .ok buffer ∧
        request? buffer.written = some (connect ⟨"dev", some "", none, 60, true⟩) := by
  have hrequest : (connect ⟨"dev", some "", none, 60, true⟩).IsRequest := .inl rfl
  have htexts : ∀ s ∈ (connect ⟨"dev", some "", none, 60, true⟩).texts,
      s.utf8ByteSize ≤ Field.textLimit := by
    decide
  exact ⟨hrequest, htexts,
    (request_read_back _ hrequest htexts).1 (List.replicate 19 0) (by decide)⟩

end Outbound
end Mqtt
