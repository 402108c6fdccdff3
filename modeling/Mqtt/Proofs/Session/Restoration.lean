/-
# Subscriptions that are restored

What an attempt to connect anew sends over its connection: CONNECT, then a SUBSCRIBE for
each entry of the registry in its order, with the level it is held with and the next
identifiers of the session's counter.  `Restoring` says how far the attempt comes: a
subscription that cannot be sent ends it there, with that failure, and closes the
connection; the registry is left alone, so the next attempt starts at its first entry
again, with the identifiers that follow (`reconnect_restoring`).
-/
import Mqtt.Proofs.Session.Calls
import Mqtt.Proofs.Session.Subscriptions

namespace Mqtt

/-- The frames are those of the packets. -/
def Packs (packets : List Outbound) (frames : List (List UInt8)) : Prop :=
  packets.map (·.pack Session.frameLimit) = frames.map .ok

namespace Packs

variable {packets more : List Outbound} {frames others : List (List UInt8)}

/-- No packets have no frames. -/
theorem nil : Packs [] [] := rfl

/-- The frames of some packets, and of others after them, are the frames of all of them in
order. -/
theorem append (h : Packs packets frames) (h' : Packs more others) :
    Packs (packets ++ more) (frames ++ others) := by
  rw [Packs, List.map_append, List.map_append, h, h']

/-- One packet that fits has one frame. -/
theorem singleton {packet : Outbound} {frame : List UInt8}
    (h : packet.pack Session.frameLimit = .ok frame) : Packs [packet] [frame] :=
  congrArg (fun r => [r]) h

/-- The frames of the first few packets are the first few frames, which is how far sending
has come where it stopped. -/
theorem take (h : Packs packets frames) (n : Nat) : Packs (packets.take n) (frames.take n) := by
  rw [Packs, List.map_take, List.map_take, h]

/-- Packets have one form only. -/
theorem unique (h : Packs packets frames) (h' : Packs packets others) : frames = others :=
  (List.map_inj_right fun _ _ he => Except.ok.inj he).1 (h.symm.trans h')

end Packs

/-- The failure that sending ends with where the connection answers so. -/
def Io.fault? : Io → Option Fault
  | .write frame (.ok taken) => if taken = frame.length then none else some .shortWrite
  | .write _ (.error _) | .flush (.error _) => some .writeError
  | _ => none

/-- An answer that sending fails with is a failure of the conversation. -/
theorem Io.isFailure_of_fault? {io : Io} {fault : Fault} (h : io.fault? = some fault) :
    io.IsFailure := by
  cases io with
  | write frame result =>
    cases result with
    | error => trivial
    | ok taken =>
      rw [Io.fault?] at h
      split at h
      · cases h
      · assumption
  | flush result =>
    cases result with
    | ok => cases h
    | error => trivial
  | _ => cases h

namespace Session

/-- The identifier that is next once so many were given out. -/
def idAfter (id : UInt16) : Nat → UInt16
  | 0 => id
  | n + 1 => idAfter (max (id + 1) 1) n

/-- The packets that subscribe to some entries again, with the identifiers from `id` on. -/
def resubscriptions (id : UInt16) : List Registry.Entry → List Outbound
  | [] => []
  | entry :: entries =>
    .subscribe id entry.filter.text entry.qos :: resubscriptions (max (id + 1) 1) entries

example : idAfter 65534 3 = 2 := rfl

variable {ω : Type}

/-! ### What is sent -/

/-- Sending hands over its one frame, also where it fails. -/
theorem Sending.frames {connection : Nat} {frame : List UInt8} {r : Except Fault Unit}
    {es : List Event} (h : Sending connection frame r es) :
    Io.frames (Mqtt.conversation connection es) = [frame] := by
  cases h <;> simp [Event.io?, Io.frames]

/-- Sending that fails ends with the answer it fails with. -/
theorem Sending.failure {connection : Nat} {frame : List UInt8} {fault : Fault}
    {es : List Event} (h : Sending connection frame (.error fault) es) :
    ∃ sent failure, Mqtt.conversation connection es = sent ++ [failure] ∧
      failure.fault? = some fault := by
  cases h with
  | writeFailed reason =>
    exact ⟨[], .write frame (.error reason), by simp [Event.io?], rfl⟩
  | @short taken hne =>
    exact ⟨[], .write frame (.ok taken), by simp [Event.io?], if_neg hne⟩
  | flushFailed reason =>
    exact ⟨[.write frame (.ok frame.length)], .flush (.error reason), by simp [Event.io?], rfl⟩

/-- Reading hands over no frame. -/
theorem Hearing.frames {connection : Nat} {es : List Event} {bytes : List UInt8}
    (h : Hearing connection es bytes) : Io.frames (conversation connection es) = [] := by
  induction h with
  | nil => rfl
  | read _ ih => simpa [Event.io?, Io.frames] using ih
  | failed _ _ ih => simpa [Event.io?, Io.frames] using ih

/-- An exchange sends the request, or ends before. -/
theorem Exchanging.frames {connection : Nat} {request : Outbound} {r : Except Fault Bool}
    {es : List Event} (h : Exchanging connection request r es) :
    Packs [request] (Io.frames (conversation connection es)) ∨
      Io.frames (conversation connection es) = [] ∧ ∃ fault, r = .error fault := by
  cases h with
  | unpackable => exact .inr ⟨rfl, _, rfl⟩
  | unsent hpack hes =>
    rw [hes.frames]
    exact .inl (.singleton hpack)
  | unanswered _ hpack hes hfs =>
    rw [conversation_append, Io.frames_append, hes.frames, hfs.frames]
    exact .inl (.singleton hpack)
  | unexpected hpack hes hfs =>
    rw [conversation_append, conversation_append, Io.frames_append, Io.frames_append, hes.frames,
      hfs.frames]
    exact .inl (.singleton hpack)
  | accepted _ hpack hes hfs =>
    rw [conversation_append, Io.frames_append, hes.frames, hfs.frames]
    exact .inl (.singleton hpack)

end Session

/-- Opening a connection hands over no frame, with or without securing it. -/
theorem Connector.Dialing.frames {host : String} {tcpPort : UInt16} {timeout : UInt32}
    {number : Nat} {connector : Connector} {r : Except NetFault Nat} {es : List Event}
    (h : Dialing host tcpPort timeout number connector r es) :
    Io.frames (conversation number es) = [] := by
  cases h <;> simp [Event.io?, Io.frames]

namespace Session

variable {ω : Type}

/-- Opening a link sends CONNECT over the new connection, or ends before. -/
theorem Opening.frames {s t : Session ω} {r : Except Fault Unit} {es : List Event}
    (h : Opening s r es t) :
    Packs [.connect s.settings.connect]
        (Io.frames (conversation (s.world.opened + 1) es)) ∨
      Io.frames (conversation (s.world.opened + 1) es) = [] ∧ ∃ fault, r = .error fault := by
  cases h with
  | refused hdial =>
    refine .inr ⟨?_, _, rfl⟩
    rw [conversation_append, Io.frames_append, hdial.frames]
    rfl
  | @failed _ fault _ _ gs _ hdial hexchange hclosing =>
    obtain ⟨rfl, -⟩ := hdial.talk rfl
    have hclosed : Io.frames (conversation (s.world.opened + 1)
        (.notice (.handshakeFailed fault) :: gs)) = [] := by
      rw [conversation_cons, io?_notice, hclosing.conversation]
      rfl
    rw [conversation_append, conversation_append, Io.frames_append, Io.frames_append, hdial.frames,
      hclosed, List.nil_append, List.append_nil]
    exact hexchange.frames.imp_right fun hno => ⟨hno.1, _, rfl⟩
  | opened hdial hexchange =>
    obtain ⟨rfl, -⟩ := hdial.talk rfl
    rw [conversation_append, conversation_append, Io.frames_append, Io.frames_append, hdial.frames,
      List.nil_append]
    rcases hexchange.frames with hsent | ⟨-, _, he⟩
    · exact .inl (by simpa [Io.frames] using hsent)
    · cases he

/-- The subscription of an entry fits a frame. -/
theorem packs_entry (id : UInt16) (entry : Registry.Entry) :
    ∃ frame, (Outbound.subscribe id entry.filter.text entry.qos).pack frameLimit = .ok frame := by
  have hsize : entry.filter.text.utf8ByteSize ≤ 128 := entry.filter.size_le
  refine Outbound.pack_subscribe id entry.qos ?_ ?_
  · rw [Field.textLimit]
    omega
  · rw [frameLimit]
    omega

/-- **Subscriptions are sent again in order, up to the first that cannot be sent.** -/
theorem Replaying.frames {connection : Nat} {id last : UInt16} {entries : List Registry.Entry}
    {r : Except Fault Unit} {es : List Event}
    (h : Replaying connection id entries last r es) :
    (r = .ok () ∧ last = idAfter id entries.length ∧
        Packs (resubscriptions id entries) (Io.frames (conversation connection es))) ∨
      ∃ i fault sent failure, i < entries.length ∧ r = .error fault ∧
        last = idAfter id (i + 1) ∧
          Packs ((resubscriptions id entries).take (i + 1))
              (Io.frames (conversation connection es)) ∧
            conversation connection es = sent ++ [failure] ∧ failure.fault? = some fault := by
  -- On the entries; a failure at the first of them is one at index 0, and one later moves up.
  induction h with
  | done => exact .inl ⟨rfl, rfl, rfl⟩
  | @unpackable id entry _ _ hpack =>
    obtain ⟨frame, hframe⟩ := packs_entry id entry
    exact nomatch hpack.symm.trans hframe
  | failed hpack hes =>
    obtain ⟨sent, failure, hconv, hfault⟩ := hes.failure
    refine .inr ⟨0, _, sent, failure, Nat.succ_pos _, rfl, rfl, ?_, hconv, hfault⟩
    rw [hes.frames]
    exact .singleton hpack
  | @sent id _ entry entries frame _ es fs hpack hes _ ih =>
    have hfirst : ∀ {packets : List Outbound},
        Packs packets (Io.frames (conversation connection fs)) →
        Packs (.subscribe id entry.filter.text entry.qos :: packets)
          (Io.frames (conversation connection (es ++ fs))) := by
      intro packets hrest
      rw [conversation_append, Io.frames_append, hes.frames]
      exact (Packs.singleton hpack).append hrest
    rcases ih with ⟨hok, hlast, hrest⟩ | ⟨i, fault, sent, failure, hi, herr, hlast, hrest, hconv,
      hfault⟩
    · exact .inl ⟨hok, hlast, hfirst hrest⟩
    · refine .inr ⟨i + 1, fault, conversation connection es ++ sent, failure,
        Nat.succ_lt_succ hi, herr, hlast, hfirst hrest, ?_, hfault⟩
      rw [conversation_append, hconv, List.append_assoc]

/-! ### An attempt to connect anew -/

/-- How far an attempt to connect anew comes, what it does to its connection `c`, and how
it leaves the session. -/
inductive Restoring (s : Session ω) (c : Nat) (io : List Io) (t : Session ω) :
    Except Fault Unit → Prop
  /-- There is no link, and no subscription is sent. -/
  | unopened {fault : Fault} {hello : List Outbound} :
      hello <+: [.connect s.settings.connect] → Packs hello (Io.frames io) →
      t.connection = none → t.packetId = s.packetId → Restoring s c io t (.error fault)
  /-- The subscription of one entry cannot be sent, so those after it are not. -/
  | cut {fault : Fault} {sent : List Io} {failure : Io} (i : Nat) : i < s.registry.size →
      Packs (.connect s.settings.connect ::
          (resubscriptions s.packetId s.registry.entries).take (i + 1)) (Io.frames io) →
      io = sent ++ [failure, .close] → failure.fault? = some fault → t.connection = none →
      t.packetId = idAfter s.packetId (i + 1) → Restoring s c io t (.error fault)
  /-- All subscriptions are sent, and nothing fails. -/
  | whole : Packs (.connect s.settings.connect ::
          resubscriptions s.packetId s.registry.entries) (Io.frames io) →
      (∀ x ∈ io, x.fault? = none) → t.connection = some c →
      t.packetId = idAfter s.packetId s.registry.size → Restoring s c io t (.ok ())

/-- Giving up the link does nothing to connections to come. -/
theorem Dropping.silent {s t : Session ω} {es : List Event} (hs : s.Tidy) (h : Dropping s es t) :
    t.world.opened = s.world.opened ∧ conversation (s.world.opened + 1) es = [] := by
  cases h with
  | nothing => exact ⟨rfl, rfl⟩
  | closed up hes hdid =>
    obtain ⟨hlast, -⟩ := hs.latest _ up
    refine ⟨?_, hes.concern.others (by omega)⟩
    rw [hdid.ran.opened, hes.concern.openings, Nat.add_zero]

/-- Once the new link is up, the attempt has its connection and no other: it is the next
one to be opened, all that was sent over it is CONNECT, and what is replayed over it are
the entries and the identifiers of the session before the attempt. -/
theorem Dropping.reopened {s u v : Session ω} {ds fs gs : List Event} {c : Nat} {last : UInt16}
    {r : Except Fault Unit} (hs : s.Tidy) (hdrop : Dropping s ds u)
    (hopen : Opening u (.ok ()) fs v) (up : v.connection = some c)
    (hreplay : Replaying c v.packetId v.registry.entries last r gs) :
    c = s.world.opened + 1 ∧
      Packs [.connect s.settings.connect] (Io.frames (conversation c (ds ++ fs))) ∧
        Replaying c s.packetId s.registry.entries last r gs := by
  obtain ⟨hopened, hsilent⟩ := hdrop.silent hs
  have hc : c = s.world.opened + 1 := by
    have hnew := hopen.connection
    rw [up, hopened, Option.some.injEq] at hnew
    exact hnew
  subst hc
  rw [hopen.registry.1, hopen.registry.2, hdrop.registry.1, hdrop.registry.2] at hreplay
  refine ⟨rfl, ?_, hreplay⟩
  have hframes := hopen.frames
  rw [hopened, hdrop.settings] at hframes
  rw [conversation_append, hsilent, List.nil_append]
  rcases hframes with hsent | ⟨-, _, he⟩
  · exact hsent
  · cases he

/-- **What an attempt to connect anew does is restoring.**  In a tidy session every way in
which it can go is one that `Restoring` describes, with the next connection. -/
theorem Reconnecting.restoring {s t : Session ω} {r : Except Fault Unit} {es : List Event}
    (hs : s.Tidy) (h : Reconnecting s r es t) :
    s.Restoring (s.world.opened + 1) (conversation (s.world.opened + 1) es) t r := by
  have htidy : t.Tidy := h.path.tidy hs
  have hran : s.world.Ran es t.world := h.path.ran
  have hdown := fun fault (hr : r = .error fault) => (show Reconnecting s (.error fault) es t from
    hr ▸ h).down
  cases h with
  | @unopened _ _ fs u _ hdrop _ hopen =>
    obtain ⟨hopened, hsilent⟩ := hdrop.silent hs
    have hframes := hopen.frames
    rw [hopened, hdrop.settings] at hframes
    have hid : t.packetId = s.packetId := hopen.registry.2.trans hdrop.registry.2
    rw [conversation_append, hsilent, List.nil_append]
    rcases hframes with hsent | ⟨hnone, -⟩
    · exact .unopened (List.prefix_refl _) hsent (hdown _ rfl) hid
    · exact .unopened List.nil_prefix (hnone ▸ .nil) (hdown _ rfl) hid
  | @abandoned _ _ fault ds fs gs hs' _ _ _ hdrop _ hopen up hreplay hclosing hdid =>
    obtain ⟨rfl, hhello, hreplayed⟩ := hdrop.reopened hs hopen up hreplay
    -- The replay ends at the entry that failed, and then the connection is closed.
    rcases hreplayed.frames with ⟨hok, -⟩ | ⟨i, _, sent, failure, hi, herr, hlast, hsubs, hconv,
      hfault⟩
    · cases hok
    · cases herr
      have hends : conversation (s.world.opened + 1)
          (ds ++ fs ++ (gs ++ .notice (.resubscribeFailed fault) :: hs')) =
            conversation (s.world.opened + 1) (ds ++ fs) ++
              (conversation (s.world.opened + 1) gs ++ [.close]) := by
        simp [hclosing.conversation]
      have hlasts : conversation (s.world.opened + 1)
          (ds ++ fs ++ (gs ++ .notice (.resubscribeFailed fault) :: hs')) =
            (conversation (s.world.opened + 1) (ds ++ fs) ++ sent) ++ [failure, .close] := by
        rw [hends, hconv, List.append_assoc, List.append_assoc]
        rfl
      refine .cut i hi ?_ hlasts hfault (hdown _ rfl) (hdid.packetId.trans hlast)
      rw [hends, Io.frames_append, Io.frames_append]
      simpa [Io.frames] using hhello.append hsubs
  | @restored _ _ _ _ _ _ hs' _ _ _ hdrop _ hopen up hreplay hnotice hdid =>
    obtain ⟨rfl, hhello, hreplayed⟩ := hdrop.reopened hs hopen up hreplay
    have hup : t.connection = some (s.world.opened + 1) := hdid.connection.trans up
    have hquiet : conversation (s.world.opened + 1) hs' = [] := by
      rw [hnotice]
      split <;> rfl
    rcases hreplayed.frames with ⟨-, hlast, hsubs⟩ | ⟨_, _, _, _, -, he, -⟩
    · refine .whole ?_ (fun x hx => ?_) hup (hdid.packetId.trans hlast)
      · rw [conversation_append, conversation_append _ _ hs', hquiet, List.append_nil,
          Io.frames_append]
        exact hhello.append hsubs
      · -- an answer that is a failure would have ended the conversation of a link that is up
        have htalk := htidy.up _ hup
        rw [hran.events, conversation_append, hs.unopened _ (Nat.lt_succ_self _),
          List.nil_append] at htalk
        have hsound := htalk.sound (by simp) (by simp) x hx
        cases hfault : x.fault? with
        | none => rfl
        | some fault => exact absurd (Io.isFailure_of_fault? hfault) hsound
    · cases he

variable [Environment ω]

/-- A session stays tidy whatever moves are made. -/
theorem tidy_run {s : Session ω} (hs : s.Tidy) (moves : List (Move ω)) : (s.run moves).Tidy :=
  run_preserves (fun hs hstep => hstep.tidy hs) moves hs

/-- **An attempt to connect anew sends CONNECT and then the subscriptions, in order.**  It
leaves the registry alone, whatever comes of it. -/
theorem reconnect_restoring {s : Session ω} (hs : s.Tidy) :
    ∃ es, (s.step .reconnect).world.events = s.world.events ++ es ∧
      s.Restoring (s.world.opened + 1) (conversation (s.world.opened + 1) es)
          (s.step .reconnect) (s.outcome .reconnect) ∧
        (s.step .reconnect).registry = s.registry := by
  obtain ⟨es, hes⟩ := reconnecting_of_reconnect (yields_outcome s .reconnect)
  exact ⟨es, hes.path.ran.events, hes.restoring hs, hes.registry⟩

end Session
end Mqtt
