/-
# Packet identifiers

The identifiers that a session gives out go round in a `cycle` without 0.

| move | gives out |
| --- | --- |
| a call to publish at level 1 that passes its checks | one, sent or not |
| a call to subscribe that passes its checks | one, sent or not |
| connecting anew | one for each subscription that it tries to send again |
| a call for an identifier | the one it returns |
| any other | none |

`Session.given` says which ones, and `Numbering` how a move that gives out some of the
cycle leaves the session.  What a frame carries is read from its bytes (`carried?`), so
that the identifier in a frame can be told from the one that was meant for it.  The main
statement is `numbered_run`.
-/
import Mathlib.Data.List.Range
import Mathlib.Data.List.Nodup
import Mathlib.Data.List.ReduceOption
import Mqtt.Proofs.Session.Publication
import Mqtt.Proofs.Session.Restoration

namespace Mqtt

open Mqtt.Action

/-! ### The cycle -/

/-- What stands at a place of the cycle 1, 2 and so on to 65535, then 1 again; the places
are counted from 0. -/
def cycle (n : Nat) : UInt16 :=
  (n % 65535 + 1).toUInt16

/-- A place of the cycle holds a number from 1 to 65535. -/
theorem toNat_cycle (n : Nat) : (cycle n).toNat = n % 65535 + 1 := by
  simp only [cycle, Nat.toUInt16_eq, UInt16.toNat_ofNat']
  omega

/-- No place of the cycle holds 0, which is no identifier. -/
theorem cycle_ne_zero (n : Nat) : cycle n ≠ 0 := fun h => by
  have hzero := congrArg UInt16.toNat h
  rw [toNat_cycle] at hzero
  cases hzero

/-- The counter of a session goes round the cycle. -/
theorem cycle_succ (n : Nat) : max (cycle n + 1) 1 = cycle (n + 1) := by
  have hnext : (cycle n + 1).toNat = (n % 65535 + 2) % 65536 := by
    rw [UInt16.toNat_add, toNat_cycle]
    rfl
  have hone : (1 : UInt16).toNat = 1 := rfl
  rw [← UInt16.toNat_inj, toNat_cycle]
  change (if cycle n + 1 ≤ 1 then 1 else cycle n + 1).toNat = _
  split
  case isTrue hle =>
    rw [UInt16.le_iff_toNat_le, hnext, hone] at hle
    omega
  case isFalse hlt =>
    rw [UInt16.le_iff_toNat_le, hnext, hone] at hlt
    omega

example : cycle 65534 = 65535 ∧ cycle 65535 = 1 := by decide

/-- Two places of the cycle that are less than a round apart hold the same identifier only
if they are the same place. -/
theorem cycle_inj {i j : Nat} (near : j < i + 65535) (le : i ≤ j) (h : cycle i = cycle j) :
    i = j := by
  have hmod := congrArg UInt16.toNat h
  rw [toNat_cycle, toNat_cycle] at hmod
  omega

/-- Places of the cycle that are less than a round apart hold different identifiers. -/
theorem nodup_cycle (first : Nat) {count : Nat} (few : count ≤ 65535) :
    ((List.range' first count).map cycle).Nodup := by
  refine (List.nodup_map_iff_inj_on List.nodup_range').2 fun i hi j hj h => ?_
  rw [List.mem_range'_1] at hi hj
  rcases Nat.le_total i j with hle | hle
  · exact cycle_inj (by omega) hle h
  · exact (cycle_inj (by omega) hle h.symm).symm

/-! ### What a frame carries -/

/-- What the frame carries for an identifier, if it is a SUBSCRIBE or a message above
level 0: a SUBSCRIBE holds it at the start of its body, a message after its topic. -/
def carried? (frame : List UInt8) : Option (Option UInt16) :=
  match Header.parse frame with
  | .ok (some header) =>
    match header.kind with
    | .subscribe => some ((takeWord (frame.drop header.size)).map (·.1))
    | .publish =>
      if header.flags / 2 % 4 = 0 then none
      else some ((takeText (frame.drop header.size)).bind fun (_, rest) =>
        (takeWord rest).map (·.1))
    | _ => none
  | _ => none

/-- What the frame that is written carries, if it has to carry an identifier. -/
def Event.carried? : Event → Option (Option UInt16)
  | .write _ bytes _ => Mqtt.carried? bytes
  | _ => none

/-- What the frames that were written carry, in order. -/
def carried (events : List Event) : List (Option UInt16) :=
  events.filterMap Event.carried?

/-- What the frames of two stretches of a history carry comes one after the other. -/
@[simp] theorem carried_append (es fs : List Event) :
    carried (es ++ fs) = carried es ++ carried fs :=
  List.filterMap_append

/-- What the log is told carries nothing. -/
theorem carried_notice_cons (n : Notice) (es : List Event) :
    carried (.notice n :: es) = carried es := rfl

/-- The header of a packed frame, and the bytes of its fields behind it. -/
theorem Frame.header_of_pack (kind : Kind) {frame : Frame} {flags : UInt8} {capacity : Nat}
    {bytes : List UInt8} (first : frame.first = kind.firstByte flags) (nibble : flags < 16)
    (h : frame.pack capacity = .ok bytes) :
    ∃ header, ∃ parts : List (List UInt8), Header.parse bytes = .ok (some header) ∧
      header.kind = kind ∧ header.flags = flags ∧ bytes.drop header.size = parts.flatten ∧
        frame.body.map Field.bytes? = parts.map some := by
  obtain ⟨parts, hparts, rfl, hlimit, -⟩ := pack_eq_ok h
  refine ⟨⟨kind, flags, frame.bodySize, 1 + (Length.encode frame.bodySize).length⟩,
    parts, ?_, rfl, rfl, ?_, hparts⟩
  · rw [first, Header.parse_shortest kind nibble hlimit]
  · rw [Nat.add_comm 1, List.drop_succ_cons, List.drop_left]

/-- A SUBSCRIBE carries its identifier. -/
theorem carried?_subscribe {id : UInt16} {filter : String} {qos : QoS} {capacity : Nat}
    {bytes : List UInt8} (h : (Outbound.subscribe id filter qos).pack capacity = .ok bytes) :
    carried? bytes = some (some id) := by
  rw [Outbound.pack, Outbound.frame] at h
  split at h
  case isTrue => cases h
  case isFalse =>
    obtain ⟨header, parts, hparse, hkind, -, hbody, hparts⟩ :=
      Frame.header_of_pack .subscribe rfl (by decide : (0x02 : UInt8) < 16) h
    obtain ⟨word, parts, rfl, hword, -⟩ := List.map_eq_cons_iff.1 hparts.symm
    cases hword
    simp only [carried?, hparse, hkind, hbody, List.flatten_cons, takeWord_append,
      Option.map_some]

/-- A message of level 1 carries its identifier, and one of level 0 has none to carry. -/
theorem carried?_publish {p : Publish} {capacity : Nat} {bytes : List UInt8}
    (h : (Outbound.publish p).pack capacity = .ok bytes) :
    carried? bytes = p.packetId.map some := by
  cases hframe : p.frame with
  | error fault => simp [Outbound.pack, Outbound.frame, hframe, bind, Except.bind] at h
  | ok frame =>
    rw [Outbound.pack, Outbound.frame, hframe] at h
    obtain ⟨-, hid, rfl⟩ := Publish.frame_eq_ok hframe
    obtain ⟨header, parts, hparse, hkind, hflags, hbody, hparts⟩ :=
      Frame.header_of_pack .publish rfl p.flags_lt h
    have hlevel : header.flags / 2 % 4 = p.qos.toByte := by
      rw [hflags, Publish.flags]
      cases p.qos <;> cases p.dup <;> cases p.retain <;> rfl
    obtain ⟨topic, parts, rfl, htopic, hrest⟩ := List.map_eq_cons_iff.1 hparts.symm
    simp only [carried?, hparse, hkind, hlevel, hbody, List.flatten_cons,
      takeText_append _ htopic.symm, Option.bind_some]
    -- The flags tell the level, and the level whether there is an identifier behind the topic.
    cases hpacket : p.packetId with
    | none =>
      have hzero : p.qos = .atMostOnce := by
        cases hqos : p.qos with
        | atMostOnce => rfl
        | atLeastOnce => simp [hpacket, hqos] at hid
      rw [hzero]
      rfl
    | some id =>
      have hone : p.qos = .atLeastOnce := hid.1 (by simp [hpacket])
      rw [hpacket] at hrest
      obtain ⟨word, parts, rfl, hword, -⟩ := List.map_eq_cons_iff.1 hrest
      cases hword
      rw [hone]
      simp [takeWord_append, QoS.toByte]

/-- Frames of other kinds carry none. -/
theorem Transfers.carried {kind : Kind} {es : List Event} (h : Transfers kind es)
    (message : kind ≠ .publish) (subscription : kind ≠ .subscribe) : carried es = [] := by
  refine List.filterMap_eq_nil_iff.2 fun e he => ?_
  have htransfer := h e he
  cases e with
  | write c frame result =>
    have hkind : kindOf? frame = some kind := by simpa [Event.isTransfer] using htransfer
    rw [kindOf?] at hkind
    rw [Event.carried?, carried?]
    rcases hparse : Header.parse frame with _ | (_ | header)
    · simp only [hparse, reduceCtorEq] at hkind
    · simp only [hparse, reduceCtorEq] at hkind
    · simp only [hparse, Option.some.injEq] at hkind ⊢
      subst hkind
      split
      case h_1 hsubscribe => exact absurd hsubscribe subscription
      case h_2 hpublish => exact absurd hpublish message
      case h_3 => rfl
  | _ => rfl

namespace Session

variable {ω : Type}

/-- Sending a frame writes what it carries, and no more. -/
theorem Sending.carried {connection : Nat} {frame : List UInt8} {r : Except Fault Unit}
    {es : List Event} (h : Sending connection frame r es) :
    carried es = (carried? frame).toList := by
  obtain ⟨result, rest, rfl, hrest⟩ := h.eq_cons
  have hnone := (hrest .connect).carried nofun nofun
  unfold Mqtt.carried at hnone ⊢
  rw [List.filterMap_cons, Event.carried?, hnone]
  cases Mqtt.carried? frame <;> rfl

/-- Closing a connection writes no frame that needs an identifier. -/
theorem Closing.carried {connection : Nat} {es : List Event} (h : Closing connection es) :
    carried es = [] :=
  (h.transfers .connect).carried nofun nofun

/-- Giving up the link writes no frame that needs an identifier. -/
theorem Dropping.carried {s t : Session ω} {es : List Event} (h : Dropping s es t) :
    carried es = [] := by
  cases h with
  | nothing => rfl
  | closed _ hes => exact hes.carried

/-- A packet that carries an identifier is written with it, or not at all. -/
theorem Transmitting.carried {packet : Outbound} {s t : Session ω} {r : Except Fault Unit}
    {es : List Event} {carries : Option (Option UInt16)} (h : Transmitting packet s r es t)
    (frames : ∀ frame, packet.pack frameLimit = .ok frame → carried? frame = carries) :
    carried es <+: carries.toList := by
  cases h with
  | unpackable => exact List.nil_prefix
  | notConnected => exact List.nil_prefix
  | sent hpack _ hes =>
    have hsame : Mqtt.carried es = carries.toList := by rw [hes.carried, frames _ hpack]
    exact hsame ▸ List.prefix_refl _
  | @failed _ _ _ es fs _ hpack _ hes hfs =>
    have hsame : Mqtt.carried (es ++ fs) = carries.toList := by
      rw [carried_append, hes.carried, hfs.carried, frames _ hpack, List.append_nil]
    exact hsame ▸ List.prefix_refl _

/-- Opening a link writes no frame that needs an identifier: a CONNECT has none. -/
theorem Opening.carried {s t : Session ω} {r : Except Fault Unit} {es : List Event}
    (h : Opening s r es t) : carried es = [] := by
  match r with
  | .error fault => exact h.transfers.carried nofun nofun
  | .ok () =>
    obtain ⟨fs, _, _, _, _, rfl, hfs⟩ := h.eq_append
    rw [carried_append, hfs.carried nofun nofun]
    rfl

/-! ### How a move gives out identifiers -/

/-- The session at this place of the cycle gave out these identifiers, the next ones, and
did these events, in which the first of them are carried by the frames that need one. -/
structure Numbering (n : Nat) (ids : List UInt16) (s : Session ω) (es : List Event)
    (t : Session ω) : Prop where
  ran : s.world.Ran es t.world
  /-- They are the next ones of the cycle. -/
  order : ids = (List.range' n ids.length).map cycle
  /-- The counter stands behind the last of them. -/
  next : t.packetId = cycle (n + ids.length)
  /-- The frames carry the first of them, in this order. -/
  carried : carried es <+: ids.map some

namespace Numbering

variable {n : Nat} {s t : Session ω} {es : List Event}

/-- What leaves the counter alone and writes no frame with an identifier gives out none. -/
theorem nothing (at_n : s.packetId = cycle n) (ran : s.world.Ran es t.world)
    (same : t.packetId = s.packetId) (none : Mqtt.carried es = []) : Numbering n [] s es t where
  ran
  order := rfl
  next := same.trans at_n
  carried := none ▸ List.nil_prefix

/-- What moves the counter on by one gives out the identifier that was next, and its frame
carries this one, if there is a frame. -/
theorem single (at_n : s.packetId = cycle n) (ran : s.world.Ran es t.world)
    (next : t.packetId = max (s.packetId + 1) 1)
    (carried : Mqtt.carried es <+: [some s.packetId]) : Numbering n [s.packetId] s es t where
  ran
  order := by rw [at_n]; rfl
  next := by rw [next, at_n, cycle_succ]; rfl
  carried

end Numbering

/-- Sending a packet leaves the counter alone: its identifier was taken before. -/
theorem Transmitting.packetId {packet : Outbound} {s t : Session ω} {r : Except Fault Unit}
    {es : List Event} (h : Transmitting packet s r es t) : t.packetId = s.packetId := by
  cases h with
  | unpackable => rfl
  | notConnected => rfl
  | sent _ _ _ hdid => exact hdid.packetId
  | failed _ _ _ _ hdid => exact hdid.packetId

/-- A subscription that is sent again carries the next identifier. -/
theorem Replaying.carried {connection : Nat} {id last : UInt16} {entries : List Registry.Entry}
    {r : Except Fault Unit} {es : List Event} (h : Replaying connection id entries last r es)
    {n : Nat} (at_n : id = cycle n) :
    ∃ count, last = cycle (n + count) ∧
      carried es = (List.range' n count).map fun i => some (cycle i) := by
  induction h generalizing n with
  | done => exact ⟨0, at_n, rfl⟩
  | @unpackable id entry _ _ hbad =>
    obtain ⟨frame, hpack⟩ := packs_entry id entry
    exact nomatch hbad.symm.trans hpack
  | failed hpack hes =>
    refine ⟨1, at_n ▸ cycle_succ n, ?_⟩
    rw [hes.carried, carried?_subscribe hpack, at_n]
    rfl
  | sent hpack hes _ ih =>
    obtain ⟨count, hlast, hrest⟩ := ih (at_n ▸ cycle_succ n)
    refine ⟨count + 1, by rw [hlast, Nat.add_assoc, Nat.add_comm 1], ?_⟩
    rw [carried_append, hes.carried, carried?_subscribe hpack, hrest, at_n, List.range'_succ]
    rfl

/-- **Connecting anew gives out the identifiers that its frames carry.**  There is one for
each subscription that was tried, the failed one included, and they are the next ones in
order. -/
theorem Reconnecting.numbering {n : Nat} {s t : Session ω} {r : Except Fault Unit}
    {es : List Event} (h : Reconnecting s r es t) (at_n : s.packetId = cycle n) :
    Numbering n (carried es).reduceOption s es t := by
  have hran : s.world.Ran es t.world := h.path.ran
  -- Of the parts of an attempt only the replay writes frames with identifiers.
  have hcount : ∃ count, t.packetId = cycle (n + count) ∧
      carried es = (List.range' n count).map fun i => some (cycle i) := by
    cases h with
    | unopened hdrop _ hopen =>
      refine ⟨0, (hopen.registry.2.trans hdrop.registry.2).trans at_n, ?_⟩
      rw [carried_append, hdrop.carried, hopen.carried]
      rfl
    | abandoned hdrop _ hopen _ hreplay hclosing hdid =>
      obtain ⟨count, hlast, hids⟩ :=
        hreplay.carried ((hopen.registry.2.trans hdrop.registry.2).trans at_n)
      refine ⟨count, hdid.packetId.trans hlast, ?_⟩
      simp only [carried_append, carried_notice_cons, hdrop.carried, hopen.carried, hids,
        hclosing.carried, List.nil_append, List.append_nil]
    | @restored _ _ _ _ _ _ hs _ _ _ hdrop _ hopen _ hreplay hnotice hdid =>
      obtain ⟨count, hlast, hids⟩ :=
        hreplay.carried ((hopen.registry.2.trans hdrop.registry.2).trans at_n)
      refine ⟨count, hdid.packetId.trans hlast, ?_⟩
      have hquiet : carried hs = [] := by
        rw [hnotice]
        split <;> rfl
      simp only [carried_append, hdrop.carried, hopen.carried, hids, hquiet, List.nil_append,
        List.append_nil]
  obtain ⟨count, hnext, hids⟩ := hcount
  have hmap : (carried es).reduceOption = (List.range' n count).map cycle := by
    rw [hids, List.reduceOption, List.filterMap_map]
    exact congrFun List.filterMap_eq_map _
  have hlength : (carried es).reduceOption.length = count := by
    rw [hmap, List.length_map, List.length_range']
  refine ⟨hran, by rw [hlength, hmap], by rw [hlength, hnext], ?_⟩
  rw [hmap, hids, List.map_map]
  exact List.prefix_refl _

variable [Environment ω]

/-- The identifiers that a move gives out. -/
def given (s : Session ω) : Move ω → List UInt16
  | .publish topic _ .atLeastOnce =>
    if isTopic topic = true ∧ s.isConnected = true then
      [(Action.complete nextPacketId s).1]
    else []
  | .subscribe filter _ =>
    if filter ≠ "" ∧ filter.utf8ByteSize ≤ 128 ∧ s.isConnected = true then
      [(Action.complete nextPacketId s).1]
    else []
  | .reconnect =>
    (carried ((s.step .reconnect).world.events.drop s.world.events.length)).reduceOption
  | .nextPacketId => [(Action.complete nextPacketId s).1]
  | _ => []

/-- The identifiers given out in a run of moves, in order. -/
def givenIn (s : Session ω) : List (Move ω) → List UInt16
  | [] => []
  | move :: moves => s.given move ++ (s.step move).givenIn moves

/-- A call to publish gives out its identifier once it has passed its checks. -/
theorem Publishing.numbering {n : Nat} {topic : String} {payload : List UInt8} {qos : QoS}
    {s t : Session ω} {r : Except Fault Unit} {es : List Event}
    (h : Publishing topic payload qos s r es t) (at_n : s.packetId = cycle n) :
    Numbering n (s.given (.publish topic payload qos)) s es t := by
  have hran : s.world.Ran es t.world := (h.path : Path (Doing.isCall false ·) s es t).ran
  have hframes : ∀ frame, (Outbound.publish (s.outgoing topic payload qos)).pack frameLimit =
      .ok frame → carried? frame = (s.outgoing topic payload qos).packetId.map some :=
    fun _ => carried?_publish
  -- Once the checks are passed, the level decides; whether the frame went out does not.
  have hsent : ∀ {r : Except Fault Unit} {fs : List Event} {u : Session ω},
      carried es = carried fs → t.packetId = u.packetId → isTopic topic = true →
      s.isConnected = true →
      Transmitting (.publish (s.outgoing topic payload qos)) (s.identifiedFor qos) r fs u →
        Numbering n (s.given (.publish topic payload qos)) s es t := by
    intro r fs u hcarried hsame htopic hup hsent
    have hprefix := hsent.carried hframes
    have hnext := hsame.trans hsent.packetId
    cases qos with
    | atMostOnce => exact .nothing at_n hran hnext (hcarried.trans (List.prefix_nil.1 hprefix))
    | atLeastOnce =>
      rw [given, if_pos ⟨htopic, hup⟩]
      exact .single at_n hran hnext (hcarried ▸ hprefix)
  cases h with
  | invalid htopic =>
    have hnone : s.given (.publish topic payload qos) = [] := by
      cases qos <;> simp [given, htopic]
    rw [hnone]
    exact .nothing at_n hran rfl rfl
  | notConnected _ hdown =>
    have hnone : s.given (.publish topic payload qos) = [] := by
      cases qos <;> simp [given, isConnected, hdown]
    rw [hnone]
    exact .nothing at_n hran rfl rfl
  | failed htopic hup htransmit => exact hsent rfl rfl htopic (by simp [isConnected, hup]) htransmit
  | sent htopic hup htransmit hdid =>
    refine hsent ?_ hdid.packetId htopic (by simp [isConnected, hup]) htransmit
    rw [carried_append]
    exact List.append_nil _

/-- A call to subscribe gives out its identifier once it has passed its checks. -/
theorem Subscribing.numbering {n : Nat} {filter : String} {qos : QoS} {s t : Session ω}
    {r : Except Fault Recorded} {es : List Event} (h : Subscribing filter qos s r es t)
    (at_n : s.packetId = cycle n) : Numbering n (s.given (.subscribe filter qos)) s es t := by
  have hran : s.world.Ran es t.world := (h.path : Path (Doing.isCall false ·) s es t).ran
  have hfilter : filter.isEmpty = false ↔ filter ≠ "" := by
    rw [← Bool.not_eq_true, String.isEmpty_iff]
  -- Once the checks are passed, one is given out, whether the frame goes out or not.
  have hsent : ∀ {r : Except Fault Unit} {fs : List Event} {u : Session ω},
      carried es = carried fs → t.packetId = u.packetId → filter.isEmpty = false →
      filter.utf8ByteSize ≤ 128 → s.isConnected = true →
      Transmitting (.subscribe s.packetId filter qos) s.identified r fs u →
        Numbering n (s.given (.subscribe filter qos)) s es t := by
    intro r fs u hcarried hsame hsome hfits hup hsent
    have hprefix := hsent.carried fun _ => carried?_subscribe
    rw [given, if_pos ⟨hfilter.1 hsome, hfits, hup⟩]
    exact .single at_n hran (hsame.trans hsent.packetId) (hcarried ▸ hprefix)
  cases h with
  | empty hempty =>
    rw [given, if_neg fun hgood => hgood.1 (String.isEmpty_iff.1 hempty)]
    exact .nothing at_n hran rfl rfl
  | tooLong _ hlong =>
    rw [given, if_neg fun hgood => Nat.not_le.2 hlong hgood.2.1]
    exact .nothing at_n hran rfl rfl
  | notConnected _ _ hdown =>
    rw [given, if_neg (by simp [isConnected, hdown])]
    exact .nothing at_n hran rfl rfl
  | failed hsome hfits hup htransmit =>
    exact hsent rfl rfl hsome hfits (by simp [isConnected, hup]) htransmit
  | @recorded _ _ _ _ fs _ _ _ hsome hfits hup htransmit hdid _ hfs hend =>
    have hquiet : carried fs = [] := by
      rw [hfs]
      split <;> rfl
    refine hsent ?_ (hend.packetId.trans hdid.packetId) hsome hfits (by simp [isConnected, hup])
      htransmit
    rw [carried_append, carried_notice_cons, hquiet, List.append_nil]

omit [Environment ω] in
/-- Receiving gives out no identifier: those of the broker's messages are its own. -/
theorem Receiving.numbering {n : Nat} {capacity : Nat} {timeout : UInt32} {s t : Session ω}
    {r : Except Fault (Chunk capacity)} {es : List Event} (h : Receiving capacity timeout s r es t)
    (at_n : s.packetId = cycle n) : Numbering n [] s es t := by
  cases h with
  | notConnected => exact .nothing at_n (.refl _) rfl rfl
  | received _ _ hdid => exact .nothing at_n hdid.ran hdid.packetId rfl
  | failed _ _ hdid => exact .nothing at_n hdid.ran hdid.packetId rfl

omit [Environment ω] in
/-- Servicing the keep-alive gives out no identifier. -/
theorem KeepingAlive.numbering {n : Nat} {time : UInt32} {s t : Session ω} {r : Except Fault Unit}
    {es : List Event} (h : KeepingAlive time s r es t) (at_n : s.packetId = cycle n) :
    Numbering n [] s es t := by
  have hran : s.world.Ran es t.world := h.path.ran
  cases h with
  | nothing => exact .nothing at_n hran rfl rfl
  | pinged _ hsent hdid =>
    refine .nothing at_n hran (hdid.packetId.trans hsent.packetId) ?_
    rw [carried_append, hsent.transfers.carried nofun nofun]
    rfl
  | unsent _ hsent =>
    exact .nothing at_n hran hsent.packetId (hsent.transfers.carried nofun nofun)
  | dead _ hdid hdrop =>
    exact .nothing at_n hran (hdrop.registry.2.trans hdid.packetId) hdrop.carried

omit [Environment ω] in
/-- Leaving gives out no identifier. -/
theorem Leaving.numbering {n : Nat} {s t : Session ω} {es : List Event} (h : Leaving s es t)
    (at_n : s.packetId = cycle n) : Numbering n [] s es t := by
  have hran : s.world.Ran es t.world := (h.path : Path (Doing.isCall false ·) s es t).ran
  cases h with
  | nothing => exact .nothing at_n hran rfl rfl
  | left _ hsent hdrop hdid =>
    refine .nothing at_n hran
      (hdid.packetId.trans (hdrop.registry.2.trans hsent.packetId)) ?_
    rw [carried_append, carried_append, hsent.transfers.carried nofun nofun, hdrop.carried]
    rfl

/-- **A move gives out the identifiers that are next.**  Only publishing at level 1,
subscribing and connecting anew give any out; every other move leaves the counter where
it is. -/
theorem numbering_step {n : Nat} {s : Session ω} (at_n : s.packetId = cycle n) (move : Move ω) :
    ∃ es, Numbering n (s.given move) s es (s.step move) := by
  have h := yields_outcome s move
  cases move with
  | handshake =>
    obtain ⟨es, u, fs, hdrop, hdown, hopen⟩ := opening_of_handshake h
    have hdropped : s.world.Ran es u.world := (hdrop.path : Path (Doing.isCall true ·) s es u).ran
    refine ⟨es ++ fs, .nothing at_n (hdropped.trans (Step.raised hdown hopen).ran)
      (hopen.registry.2.trans hdrop.registry.2) ?_⟩
    rw [carried_append, hdrop.carried, hopen.carried]
    rfl
  | reconnect =>
    obtain ⟨es, hes⟩ := reconnecting_of_reconnect h
    -- Which identifiers a replay gives out depends on how far it comes, so `given`
    -- reads them off the frames.
    have hids : s.given .reconnect = (carried es).reduceOption := by
      rw [given, hes.path.ran.events, List.drop_left]
    exact ⟨es, hids ▸ hes.numbering at_n⟩
  | publish topic payload qos =>
    obtain ⟨es, hes⟩ := publishing_of_publish h
    exact ⟨es, hes.numbering at_n⟩
  | subscribe filter qos =>
    obtain ⟨x, hx⟩ := yields_discard h
    obtain ⟨es, hes⟩ := subscribing_of_subscribe hx
    exact ⟨es, hes.numbering at_n⟩
  | acknowledge packetId =>
    obtain ⟨es, hes⟩ := transmitting_of_transmit h
    exact ⟨es, .nothing at_n (hes.path rfl).ran hes.packetId (hes.transfers.carried nofun nofun)⟩
  | serviceKeepAlive time =>
    obtain ⟨es, hes⟩ := keepingAlive_of_serviceKeepAlive h
    exact ⟨es, hes.numbering at_n⟩
  | receive capacity timeout =>
    obtain ⟨x, hx⟩ := yields_discard h
    obtain ⟨es, hes⟩ := receiving_of_receive hx
    exact ⟨es, hes.numbering at_n⟩
  | ponged time =>
    obtain ⟨-, hnext⟩ := yields_modify.1 h
    exact ⟨[], .nothing at_n (hnext ▸ .refl _) (hnext ▸ rfl) rfl⟩
  | nextPacketId =>
    simp only [act, nextPacketId, bind_assoc, yields_get_bind, yields_modify_bind, pure_bind,
      yields_pure] at h
    exact ⟨[], .single at_n (h.2 ▸ .refl _) (h.2 ▸ rfl) List.nil_prefix⟩
  | disconnect =>
    obtain ⟨-, es, hes⟩ := leaving_of_disconnect h
    exact ⟨es, hes.numbering at_n⟩
  | dropLink =>
    obtain ⟨-, es, hes⟩ := dropping_of_dropLink h
    have hran : s.world.Ran es _ := (hes.path : Path (Doing.isCall false ·) s es _).ran
    exact ⟨es, .nothing at_n hran hes.registry.2 hes.carried⟩
  | wait ms =>
    have hdid := did_setWorld h (fun _ => rfl) fun _ => rfl
    exact ⟨[], .nothing at_n hdid.ran hdid.packetId rfl⟩
  | become environment =>
    have hdid := did_setWorld h (fun _ => rfl) fun _ => rfl
    exact ⟨[], .nothing at_n hdid.ran hdid.packetId rfl⟩

/-- A run of moves gives out the identifiers that are next. -/
theorem numbering_run {n : Nat} {s : Session ω} (at_n : s.packetId = cycle n)
    (moves : List (Move ω)) :
    s.givenIn moves = (List.range' n (s.givenIn moves).length).map cycle ∧
      (s.run moves).packetId = cycle (n + (s.givenIn moves).length) := by
  induction moves generalizing n s with
  | nil => exact ⟨rfl, at_n⟩
  | cons move moves ih =>
    obtain ⟨es, hes⟩ := numbering_step at_n move
    obtain ⟨hids, hnext⟩ := ih hes.next
    constructor
    · rw [givenIn, List.length_append, ← List.range'_append_1, List.map_append, ← hes.order, ← hids]
    · rw [givenIn, List.length_append, ← Nat.add_assoc]
      exact hnext

/-- What is kept of the identifiers of a session from its start on. -/
structure Numbered (start : Session ω) (moves : List (Move ω)) : Prop where
  /-- The identifiers that are given out go round the cycle. -/
  order : start.givenIn moves = (List.range (start.givenIn moves).length).map cycle
  /-- Zero is no identifier. -/
  nonzero : 0 ∉ start.givenIn moves
  /-- Those of one round are different, wherever it begins. -/
  distinct : ∀ before window after, start.givenIn moves = before ++ window ++ after →
    window.length ≤ 65535 → window.Nodup
  /-- Nothing but what is given out moves the counter. -/
  counter : ∀ before move after, moves = before ++ move :: after →
    ((start.run before).step move).packetId =
      cycle (start.givenIn before ++ (start.run before).given move).length ∧
    ((start.run before).given move = [] →
      ((start.run before).step move).packetId = (start.run before).packetId)
  /-- The frames that are written in a move carry what it gives out, in order. -/
  carried : ∀ before move after, moves = before ++ move :: after →
    ∃ es, ((start.run before).step move).world.events = (start.run before).world.events ++ es ∧
      carried es <+: ((start.run before).given move).map some

/-- **The identifiers of a session go round the cycle.**  The moves give out consecutive
places (`numbering_run`), so all that is left is arithmetic on the cycle. -/
theorem numbered_run (connector : Connector) (settings : Settings) (world : World ω)
    (moves : List (Move ω)) : Numbered (new connector settings world) moves := by
  have hrun := fun moves : List (Move ω) =>
    numbering_run (n := 0) (s := new connector settings world) rfl moves
  obtain ⟨hids, -⟩ := hrun moves
  refine ⟨?_, ?_, fun before window after hsplit hround => ?_, ?_, ?_⟩
  · rw [List.range_eq_range']
    exact hids
  · rw [hids]
    simp [cycle_ne_zero]
  · rw [hids, List.append_assoc] at hsplit
    obtain ⟨_, places, hplaces, -, hrest⟩ := List.map_eq_append_iff.1 hsplit
    obtain ⟨first, -, -, rfl⟩ := List.range'_eq_append_iff.1 hplaces
    obtain ⟨_, _, hwindow, rfl, -⟩ := List.map_eq_append_iff.1 hrest
    obtain ⟨count, -, rfl, -⟩ := List.range'_eq_append_iff.1 hwindow
    rw [List.length_map, List.length_range'] at hround
    exact nodup_cycle _ hround
  · rintro before move after -
    obtain ⟨-, hnext⟩ := hrun before
    obtain ⟨es, hes⟩ := numbering_step hnext move
    refine ⟨?_, fun hnone => ?_⟩
    · rw [hes.next, List.length_append, Nat.zero_add]
    · rw [hes.next, hnone, hnext]
      rfl
  · rintro before move after -
    obtain ⟨es, hes⟩ := numbering_step (hrun before).2 move
    exact ⟨es, hes.ran.events, hes.carried⟩

end Session
end Mqtt
