/-
# What comes over a link

For each connection the history tells which frames were acted on (`framesOf`) and
what came over it after the four bytes that answer CONNECT (`stream`).  Only the
worker adds to either; whatever else a session does, its link stays as it is, goes,
or gives way to one over which nothing came yet (`Inert`).

The four bytes are left out because they are read in the handshake, before there is a
worker for them.  A link comes up only when they are all there (`Linking`), so what
comes over it later is the stream from its first byte.
-/
import Mqtt.Proofs.Session.Link

namespace Mqtt

/-- The frames that came over a connection and were acted on, in order. -/
def framesOf (c : Nat) (events : List Event) : List (List UInt8) :=
  events.filterMap fun
    | .frame connection bytes => if connection = c then some bytes else none
    | _ => none

/-- Their bytes. -/
def acted (c : Nat) (events : List Event) : List UInt8 :=
  (framesOf c events).flatten

/-- What came over a connection after the answer to CONNECT. -/
def stream (c : Nat) (events : List Event) : List UInt8 :=
  (Io.received (conversation c events)).drop 4

/-- The event is a frame that is acted on. -/
def Event.isFrame : Event → Bool
  | .frame .. => true
  | _ => false

/-- The frames of two stretches of a history come one after the other. -/
@[simp] theorem framesOf_append (c : Nat) (es fs : List Event) :
    framesOf c (es ++ fs) = framesOf c es ++ framesOf c fs :=
  List.filterMap_append

/-- The bytes of the frames of two stretches of a history come one after the other. -/
@[simp] theorem acted_append (c : Nat) (es fs : List Event) :
    acted c (es ++ fs) = acted c es ++ acted c fs := by
  rw [acted, framesOf_append, List.flatten_append]
  rfl

/-- A frame is one of the connection that it came over and of no other. -/
@[simp] theorem framesOf_frame (c connection : Nat) (bytes : List UInt8) :
    framesOf c [.frame connection bytes] = if connection = c then [bytes] else [] := by
  by_cases h : connection = c <;> simp [framesOf, h]

/-- Where no frame is acted on, none is among the frames of any connection. -/
theorem Without.framesOf {es : List Event} (h : Without Event.isFrame es) (c : Nat) :
    framesOf c es = [] :=
  List.filterMap_eq_nil_iff.2 fun e he => by
    have hno := h e he
    cases e <;> first | rfl | cases hno

/-- What reads nothing from a connection adds nothing to what came over it. -/
theorem Without.stream {c : Nat} {es : List Event} (h : Without (Event.isReadOf c) es)
    (events : List Event) : stream c (events ++ es) = stream c events := by
  rw [Mqtt.stream, conversation_append, Io.received_append, h.received, List.append_nil]
  rfl

/-- Nothing comes over a connection to which nothing is done. -/
theorem stream_of_quiet {c : Nat} {es : List Event} (h : conversation c es = [])
    (events : List Event) : stream c (events ++ es) = stream c events := by
  rw [stream, conversation_append, h, List.append_nil]
  rfl

/-- What came over a connection stays. -/
theorem stream_prefix (c : Nat) (events es : List Event) :
    stream c events <+: stream c (events ++ es) := by
  rw [stream, stream, conversation_append, Io.received_append, List.drop_append]
  exact List.prefix_append ..

/-- The step reads, or takes a frame to act on it. -/
def Session.Doing.isTaking : Session.Doing → Bool
  | hear | tell (.frame ..) => true
  | _ => false

namespace Session

variable {ω : Type}

/-- What is done outside of a dispatch takes no bytes and no frames. -/
theorem Doing.isTaking_of_isOutside {d : Doing} (h : d.isOutside = true) :
    d.isTaking = false := by
  cases d with
  | hear => cases h
  | tell event => cases event <;> first | rfl | cases h
  | _ => rfl

/-- Nothing more was read from a connection there was, or acted on. -/
structure Inert (s t : Session ω) : Prop where
  opened : s.world.opened ≤ t.world.opened
  /-- No frame is taken. -/
  frames : ∀ c, framesOf c t.world.events = framesOf c s.world.events
  /-- Nothing is read from a connection that was there before. -/
  streams : ∀ c, c ≤ s.world.opened → stream c t.world.events = stream c s.world.events
  /-- A link that comes up has read nothing yet, save the answer that made it one. -/
  connection : ∀ c, t.connection = some c → s.connection = some c ∨
    s.world.opened < c ∧ stream c t.world.events = []

/-- Nothing was taken where nothing was done. -/
theorem Inert.refl (s : Session ω) : s.Inert s :=
  ⟨Nat.le_refl _, fun _ => rfl, fun _ _ => rfl, fun _ h => .inl h⟩

/-- Two stretches that take nothing take nothing together.  A link that came up in the
first is still one over which nothing came, since the second reads nothing from it. -/
theorem Inert.trans {s t u : Session ω} (ht : t.Tidy) (h : s.Inert t) (h' : t.Inert u) :
    s.Inert u where
  opened := Nat.le_trans h.opened h'.opened
  frames c := (h'.frames c).trans (h.frames c)
  streams c hc := (h'.streams c (Nat.le_trans hc h.opened)).trans (h.streams c hc)
  connection c hc := by
    rcases h'.connection c hc with hup | ⟨hnew, hnone⟩
    · have hknown : c ≤ t.world.opened := Nat.le_of_eq (ht.latest c hup).1
      rw [h'.streams c hknown]
      exact h.connection c hup
    · exact .inr ⟨Nat.lt_of_le_of_lt h.opened hnew, hnone⟩

/-- Nothing has come over a connection that was not opened yet. -/
theorem Tidy.stream_eq_nil {s : Session ω} (hs : s.Tidy) {c : Nat} (h : s.world.opened < c) :
    stream c s.world.events = [] := by
  rw [stream, hs.unopened c h]
  rfl

/-- A step that takes nothing acts on no frame. -/
theorem Step.frameless {d : Doing} {s t : Session ω} {es : List Event}
    (quiet : d.isTaking = false) (h : Step d s es t) : Without Event.isFrame es := by
  intro e he
  rcases h.plain e he with hplain | htold
  · cases e <;> first | rfl | cases hplain
  · rw [htold] at quiet
    cases e <;> first | rfl | cases quiet

/-- What takes nothing acts on no frame. -/
theorem Path.frameless {s t : Session ω} {es : List Event}
    (h : Path (fun d => d.isTaking = false) s es t) : Without Event.isFrame es := by
  induction h with
  | refl => exact .nil
  | snoc _ quiet step ih => exact ih.append (step.frameless quiet)

/-- **A step that takes nothing is inert.**  Opening a link reads from the new
connection only, and no more than the answer to CONNECT. -/
theorem Step.inert {d : Doing} {s t : Session ω} {es : List Event} (hs : s.Tidy)
    (quiet : d.isTaking = false) (h : Step d s es t) : s.Inert t := by
  have hevents := h.ran.events
  have hframes := h.frameless quiet
  have hstreams : ∀ c, c ≤ s.world.opened →
      stream c t.world.events = stream c s.world.events := by
    intro c hc
    rw [hevents]
    refine (h.unread hc fun hhear => ?_).stream _
    rw [hhear] at quiet
    cases quiet
  refine ⟨?_, fun c => ?_, hstreams, fun c hc => ?_⟩
  · exact h.ran.opened_le
  · rw [hevents, framesOf_append, hframes.framesOf, List.append_nil]
  · cases h.linking with
    | kept _ _ hconnection =>
      rcases hconnection with hsame | hdown
      · exact .inl (hsame ▸ hc)
      · exact nomatch hdown.symm.trans hc
    | replaced _ _ _ hnew hlen =>
      rw [hnew, Option.some.injEq] at hc
      subst hc
      refine .inr ⟨Nat.lt_succ_self _, ?_⟩
      rw [stream, hevents, conversation_append, hs.unopened _ (Nat.lt_succ_self _), List.nil_append]
      exact List.drop_eq_nil_of_le (Nat.le_of_eq hlen)

/-- **What takes nothing is inert.**  Bytes and frames of the connections that there were
stay as they are, and a link that is new has given the answer to CONNECT and nothing after
it. -/
theorem Path.inert {s t : Session ω} {es : List Event} (hs : s.Tidy)
    (h : Path (fun d => d.isTaking = false) s es t) : s.Inert t := by
  induction h with
  | refl => exact .refl _
  | snoc hpath quiet step ih =>
    exact (ih hs).trans (hpath.tidy hs) (step.inert (hpath.tidy hs) quiet)

/-- Whatever is done outside of a dispatch is inert. -/
theorem inert_of_isOutside {s t : Session ω} {es : List Event} (hs : s.Tidy)
    (h : Path (Doing.isOutside ·) s es t) : s.Inert t :=
  Path.inert hs (h.mono fun _ => Doing.isTaking_of_isOutside)

/-- A call is inert, made by the program or by the message handler. -/
theorem inert_of_isCall {running : Bool} {s t : Session ω} {es : List Event} (hs : s.Tidy)
    (h : Path (Doing.isCall running ·) s es t) : s.Inert t :=
  inert_of_isOutside hs h.outside

/-- What is read from the link goes on with what came over it. -/
theorem Tidy.stream_read {s t : Session ω} {c capacity : Nat} {timeout : UInt32}
    {bytes : List UInt8} (hs : s.Tidy) (up : s.connection = some c)
    (h : s.Did [.read c capacity timeout (.ok bytes)] t) :
    stream c t.world.events = stream c s.world.events ++ bytes := by
  obtain ⟨first, ack, rest, hreceived, -⟩ := (hs.up c up).accepts rfl
  rw [stream, h.ran.events, conversation_append, Io.received_append, stream, hreceived]
  simp [Event.io?, Io.received]

end Session
end Mqtt
