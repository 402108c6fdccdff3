/-
# The conversations of a session

A session is tidy if the conversation over its link is up and every other
connection is closed or was never used.  Every step keeps it so (`Step.tidy`), also
where sending fails on the way: the connection is closed within the same step.

A step is to at most one connection (`Concern`), so the conversations over all others
stay as they are (`Tidy.touch`) and only its own has to be followed.  There `Talk` has
a way to go on for each thing a step can do: traffic while the link is up, a failure
or a DISCONNECT to end it, and the close.
-/
import Mqtt.Proofs.Session.Conversation

namespace Mqtt
namespace Session

variable {ω : Type}

/-- Every connection but that of the link is closed. -/
structure Tidy (s : Session ω) : Prop where
  /-- The conversation over the link is at the stage at which traffic goes out. -/
  up : ∀ c, s.connection = some c → Talk (conversation c s.world.events) .up
  /-- Every other conversation has not begun or is closed. -/
  down : ∀ c, s.connection ≠ some c →
    conversation c s.world.events = [] ∨ Talk (conversation c s.world.events) .closed
  /-- The link uses the connection opened last. -/
  latest : ∀ c, s.connection = some c → c = s.world.opened ∧ 0 < c
  /-- A connection that was not opened yet has said nothing. -/
  unopened : ∀ c, s.world.opened < c → conversation c s.world.events = []

/-- Sending a frame is done to the connection that it goes over, telling of a failure
included. -/
theorem Sending.concern {connection : Nat} {frame : List UInt8} {r : Except Fault Unit}
    {es : List Event} (h : Sending connection frame r es) : Concern connection es := by
  cases h <;> simp [Concern, Event.concerns, Event.io?]

/-- Closing a connection is done to that connection, telling of a failure included. -/
theorem Closing.concern {connection : Nat} {es : List Event} (h : Closing connection es) :
    Concern connection es := by
  cases h <;> simp [Concern, Event.concerns, Event.io?]

/-- Reading from a connection is done to that connection. -/
theorem Hearing.concern {connection : Nat} {es : List Event} {bytes : List UInt8}
    (h : Hearing connection es bytes) : Concern connection es := by
  induction h with
  | nil => exact .nil
  | read _ ih => simpa [Concern, Event.concerns, Event.io?] using ih
  | failed _ _ ih => simpa [Concern, Event.concerns, Event.io?] using ih

/-- Sending puts the whole frame and a flush into the conversation, or fails in one of
three ways, after which the conversation may only be closed. -/
theorem Sending.conversation {connection : Nat} {frame : List UInt8} {r : Except Fault Unit}
    {es : List Event} (h : Sending connection frame r es) :
    (r = .ok () ∧ conversation connection es =
        [.write frame (.ok frame.length), .flush (.ok ())]) ∨
      ∃ fault, r = .error fault ∧ Failing frame (conversation connection es) := by
  cases h with
  | sent => exact .inl ⟨rfl, by simp [Event.io?]⟩
  | writeFailed fault =>
    refine .inr ⟨_, rfl, ?_⟩
    simpa [Event.io?] using Failing.unwritten fault
  | short h =>
    refine .inr ⟨_, rfl, ?_⟩
    simpa [Event.io?] using Failing.short h
  | flushFailed fault =>
    refine .inr ⟨_, rfl, ?_⟩
    simpa [Event.io?] using Failing.unflushed fault

/-- Closing puts just the close into the conversation; that it failed is told to the log
and to no one else. -/
theorem Closing.conversation {connection : Nat} {es : List Event} (h : Closing connection es) :
    conversation connection es = [.close] := by
  cases h <;> simp [Event.io?]

/-- The bytes that reads gave are the bytes received in the conversation. -/
theorem Hearing.received {connection : Nat} {es : List Event} {bytes : List UInt8}
    (h : Hearing connection es bytes) : Io.received (conversation connection es) = bytes := by
  induction h with
  | nil => rfl
  | read _ ih => simpa [Event.io?, Io.received] using ih
  | failed _ _ ih => simpa [Event.io?, Io.received] using ih

/-- While the answer to CONNECT is waited for, any number of reads may come, failed ones
among them. -/
theorem Hearing.talk {connection : Nat} {es : List Event} {bytes : List UInt8} {io : List Io}
    (h : Hearing connection es bytes) (htalk : Talk io .greeting) :
    Talk (io ++ conversation connection es) .greeting := by
  induction h generalizing io with
  | nil => simpa using htalk
  | read _ ih => simpa [Event.io?] using ih (htalk.heard _ (.inl rfl))
  | failed _ _ ih => simpa [Event.io?] using ih (htalk.heard _ (.inl rfl))

end Session

namespace Connector.Dialing

variable {host : String} {tcpPort : UInt16} {timeout : UInt32} {number c : Nat}
  {connector : Connector} {r : Except NetFault Nat} {es : List Event}

/-- What follows the attempt to connect is done to the connection it opened. -/
theorem concern (h : Dialing host tcpPort timeout number connector r es) :
    ∃ result rest, es = .connect host tcpPort timeout result :: rest ∧ Concern number rest := by
  cases h <;> exact ⟨_, _, rfl, by simp [Concern, Event.concerns, Event.io?]⟩

/-- An attempt to connect leaves every connection alone but the one that it opens. -/
theorem others (h : Dialing host tcpPort timeout number connector r es) (other : c ≠ number) :
    conversation c es = [] := by
  obtain ⟨result, rest, rfl, hrest⟩ := h.concern
  simpa using hrest.others other

/-- A connection that was opened is still silent. -/
theorem talk (h : Dialing host tcpPort timeout number connector r es) (good : r = .ok c) :
    c = number ∧ openings es = 1 ∧ Talk (conversation number es) .silent := by
  cases h with
  | opened =>
    cases good
    exact ⟨rfl, rfl, .nil⟩
  | secured =>
    cases good
    exact ⟨rfl, rfl, by simpa [Event.io?] using Talk.secured .nil⟩
  | refused => cases good
  | tlsRefused => cases good
  | tlsRejected => cases good

/-- Where an attempt fails, no connection was opened, or the one that was could not be
secured and is closed again. -/
theorem talk_of_error {fault : NetFault} (h : Dialing host tcpPort timeout number connector r es)
    (bad : r = .error fault) :
    (openings es = 0 ∧ ∀ c, conversation c es = []) ∨
      openings es = 1 ∧ Talk (conversation number es) .closed := by
  cases h with
  | opened => cases bad
  | secured => cases bad
  | refused => exact .inl ⟨rfl, fun _ => rfl⟩
  | tlsRefused => exact .inl ⟨rfl, fun _ => rfl⟩
  | tlsRejected =>
    exact .inr ⟨rfl, by simpa [Event.io?] using (Talk.secured .nil).closed (by simp)⟩

end Connector.Dialing

namespace Session

variable {ω : Type}

namespace Exchanging

variable {connection : Nat} {request : Outbound} {r : Except Fault Bool} {es : List Event}

/-- An exchange is done to its connection, however far it comes. -/
theorem concern (h : Exchanging connection request r es) : Concern connection es := by
  cases h with
  | unpackable => exact .nil
  | unsent _ hes => exact hes.concern
  | unanswered _ _ hes hfs => exact hes.concern.append hfs.concern
  | unexpected _ hes hfs =>
    exact (hes.concern.append hfs.concern).append (by simp [Concern, Event.concerns])
  | accepted _ _ hes hfs => exact hes.concern.append hfs.concern

/-- An exchange that succeeds brings the conversation up, and any other can still be
closed. -/
theorem talk {hello : Connect} {io : List Io} (h : Exchanging connection request r es)
    (hrequest : request = .connect hello) (htalk : Talk io .silent) :
    ∃ stage, Talk (io ++ conversation connection es) stage ∧ stage ≠ .closed ∧
      ∀ present, r = .ok present → stage = .up := by
  subst hrequest
  have greeted : ∀ {frame : List UInt8} {es : List Event},
      (Outbound.connect hello).pack frameLimit = .ok frame → Sending connection frame (.ok ()) es →
        Talk (io ++ conversation connection es) .greeting := by
    intro frame es hpack hes
    rcases hes.conversation with ⟨-, hconv⟩ | ⟨_, he, -⟩
    · rw [hconv]
      exact htalk.greeted hpack
    · cases he
  cases h with
  | unpackable => exact ⟨.silent, by simpa using htalk, by simp, fun _ he => nomatch he⟩
  | unsent hpack hes =>
    rcases hes.conversation with ⟨he, -⟩ | ⟨_, -, hfailing⟩
    · cases he
    · exact ⟨.failed, htalk.hushed hpack hfailing, by simp, fun _ he => nomatch he⟩
  | unanswered _ hpack hes hfs =>
    refine ⟨.greeting, ?_, by simp, fun _ he => nomatch he⟩
    rw [conversation_append, ← List.append_assoc]
    exact hfs.talk (greeted hpack hes)
  | unexpected hpack hes hfs =>
    refine ⟨.greeting, ?_, by simp, fun _ he => nomatch he⟩
    rw [conversation_append, conversation_append, ← List.append_assoc, ← List.append_assoc]
    simpa using hfs.talk (greeted hpack hes)
  | accepted present hpack hes hfs hlen haccepts =>
    refine ⟨.up, ?_, by simp, fun _ _ => rfl⟩
    rw [conversation_append, ← List.append_assoc]
    refine (hfs.talk (greeted hpack hes)).accepted ?_
    rcases hes.conversation with ⟨-, hconv⟩ | ⟨_, he, -⟩
    · rw [Io.received_append, Io.received_append, htalk.nothing_received rfl, hconv, hfs.received]
      exact haccepts
    · cases he

end Exchanging

/-- Opening a link is all put to the network or told to the log. -/
theorem Opening.plain {s t : Session ω} {r : Except Fault Unit} {es : List Event}
    (h : Opening s r es t) : ∀ e ∈ es, e.isPlain = true := by
  have dialed : ∀ {r : Except NetFault Nat} {es : List Event}, Connector.Dialing
      s.settings.host.text s.settings.tcpPort s.settings.connectTimeout (s.world.opened + 1)
        s.connector r es → ∀ e ∈ es, e.isPlain = true := by
    intro r es hdial e he
    obtain ⟨result, rest, rfl, hrest⟩ := hdial.concern
    rcases List.mem_cons.1 he with rfl | he
    · rfl
    · exact hrest.plain e he
  intro e he
  cases h with
  | refused hdial =>
    rcases List.mem_append.1 he with he | he
    · exact dialed hdial e he
    · rw [List.mem_singleton.1 he]
      rfl
  | failed hdial hexchange hclosing =>
    rcases List.mem_append.1 he with he | he
    · rcases List.mem_append.1 he with he | he
      · exact dialed hdial e he
      · exact hexchange.concern.plain e he
    · rcases List.mem_cons.1 he with rfl | he
      · rfl
      · exact hclosing.concern.plain e he
  | opened hdial hexchange =>
    rcases List.mem_append.1 he with he | he
    · rcases List.mem_append.1 he with he | he
      · exact dialed hdial e he
      · exact hexchange.concern.plain e he
    · rw [List.mem_singleton.1 he]
      rfl

/-- All that a step does is put to the network or told to the log, but for what it
only tells. -/
theorem Step.plain {d : Doing} {s t : Session ω} {es : List Event} (h : Step d s es t) :
    ∀ e ∈ es, e.isPlain = true ∨ d = .tell e := by
  intro e he
  cases h with
  | tuned => cases he
  | kept =>
    rw [List.mem_singleton.1 he]
    exact .inl rfl
  | timed => cases he
  | told => exact .inr (by rw [List.mem_singleton.1 he])
  | heard =>
    rw [List.mem_singleton.1 he]
    exact .inl rfl
  | sent _ _ _ hes => exact .inl (hes.concern.plain e he)
  | broken _ _ _ hes hns hfs =>
    exact .inl (((hes.concern.append (.lost hns)).append hfs.concern).plain e he)
  | left _ _ hes hfs => exact .inl ((hes.concern.append hfs.concern).plain e he)
  | dropped _ hes => exact .inl (hes.concern.plain e he)
  | raised _ hopen => exact .inl (hopen.plain e he)

/-- A step that uses one connection only keeps a session tidy. -/
theorem Tidy.touch {s t : Session ω} {c : Nat} {es : List Event} (hs : s.Tidy)
    (events : t.world.events = s.world.events ++ es)
    (opened : s.world.opened ≤ t.world.opened) (hc : c ≤ t.world.opened)
    (others : ∀ other, other ≠ c → conversation other es = [])
    (before : ∀ other, s.connection = some other → other = c)
    (after : (t.connection = some c ∧ c = t.world.opened ∧ 0 < c ∧
        Talk (conversation c s.world.events ++ conversation c es) .up) ∨
      t.connection = none ∧ Talk (conversation c s.world.events ++ conversation c es) .closed) :
    t.Tidy := by
  have same : ∀ other, other ≠ c →
      conversation other t.world.events = conversation other s.world.events := by
    intro other h
    rw [events, conversation_append, others other h, List.append_nil]
  have talk : conversation c t.world.events =
      conversation c s.world.events ++ conversation c es := by
    rw [events, conversation_append]
  refine ⟨fun other h => ?_, fun other h => ?_, fun other h => ?_, fun other h => ?_⟩
  · rcases after with ⟨hup, -, -, htalk⟩ | ⟨hdown, -⟩
    · rw [hup, Option.some.injEq] at h
      rw [← h, talk]
      exact htalk
    · rw [hdown] at h
      cases h
  · by_cases hother : other = c
    · rcases after with ⟨hup, -⟩ | ⟨-, htalk⟩
      · exact absurd (hother ▸ hup) h
      · rw [hother, talk]
        exact .inr htalk
    · rw [same other hother]
      exact hs.down other fun hup => hother (before other hup)
  · rcases after with ⟨hup, hlast, hpos, -⟩ | ⟨hdown, -⟩
    · rw [hup, Option.some.injEq] at h
      exact h ▸ ⟨hlast, hpos⟩
    · rw [hdown] at h
      cases h
  · rw [same other (by omega)]
    exact hs.unopened other (by omega)

/-- A step that uses no connection keeps a session tidy. -/
theorem Tidy.pass {s t : Session ω} {es : List Event} (hs : s.Tidy)
    (events : t.world.events = s.world.events ++ es) (opened : t.world.opened = s.world.opened)
    (connection : t.connection = s.connection) (quiet : ∀ c, conversation c es = []) : t.Tidy := by
  have same : ∀ c, conversation c t.world.events = conversation c s.world.events := by
    intro c
    rw [events, conversation_append, quiet, List.append_nil]
  refine ⟨fun c h => ?_, fun c h => ?_, fun c h => ?_, fun c h => ?_⟩
  · rw [same]
    exact hs.up c (connection ▸ h)
  · rw [same]
    exact hs.down c (connection ▸ h)
  · rw [opened]
    exact hs.latest c (connection ▸ h)
  · rw [same]
    exact hs.unopened c (opened ▸ h)

/-- **Opening a link keeps a session tidy.**  A connection that was refused was never
used, one that failed later is closed again, and one over which the broker accepted is the
link. -/
theorem Opening.tidy {s t : Session ω} {r : Except Fault Unit} {es : List Event} (hs : s.Tidy)
    (down : s.connection = none) (h : Opening s r es t) : t.Tidy := by
  have fresh : conversation (s.world.opened + 1) s.world.events = [] :=
    hs.unopened _ (Nat.lt_succ_self _)
  have before : ∀ c, s.connection = some c → c = s.world.opened + 1 := by
    intro c h
    rw [down] at h
    cases h
  cases h with
  | refused hdial hdid =>
    rcases hdial.talk_of_error rfl with ⟨hnone, hquiet⟩ | ⟨hone, htalk⟩
    · refine hs.pass hdid.ran.events ?_ hdid.connection fun c => by simp [hquiet c]
      rw [hdid.ran.opened, openings_append, hnone]
      rfl
    · have hopened : t.world.opened = s.world.opened + 1 := by
        rw [hdid.ran.opened, openings_append, hone]
        rfl
      refine hs.touch hdid.ran.events (by omega) (by omega)
        (fun c other => by simp [hdial.others other]) before (.inr ⟨hdid.connection.trans down, ?_⟩)
      simpa [fresh] using htalk
  | @failed number fault es fs gs _ hdial hexchange hclosing hdid =>
    obtain ⟨rfl, hone, hsilent⟩ := hdial.talk rfl
    obtain ⟨stage, htalk, hopen, -⟩ := hexchange.talk rfl hsilent
    have hopened : t.world.opened = s.world.opened + 1 := by
      rw [hdid.ran.opened, openings_append, openings_append, hone, hexchange.concern.openings,
        openings_cons, hclosing.concern.openings]
      rfl
    refine hs.touch hdid.ran.events (by omega) (by omega)
      (fun c other => by
        simp [hdial.others other, hexchange.concern.others other, hclosing.concern.others other])
      before (.inr ⟨hdid.connection.trans down, ?_⟩)
    simpa [fresh, hclosing.conversation] using htalk.closed hopen
  | @opened number present now es fs _ hdial hexchange hdid =>
    obtain ⟨rfl, hone, hsilent⟩ := hdial.talk rfl
    obtain ⟨stage, htalk, -, hup⟩ := hexchange.talk rfl hsilent
    have hopened : t.world.opened = s.world.opened + 1 := by
      rw [hdid.ran.opened, openings_append, openings_append, hone, hexchange.concern.openings]
      rfl
    refine hs.touch hdid.ran.events (by omega) (by omega)
      (fun c other => by simp [hdial.others other, hexchange.concern.others other])
      before (.inl ⟨hdid.connection, hopened.symm, by omega, ?_⟩)
    simpa [fresh, hup present rfl] using htalk

/-- A step that uses the link and leaves it up keeps a session tidy. -/
theorem Tidy.use {s t : Session ω} {c : Nat} {es : List Event} (hs : s.Tidy)
    (up : s.connection = some c) (ran : s.world.Ran es t.world) (unopened : openings es = 0)
    (others : ∀ other, other ≠ c → conversation other es = [])
    (kept : t.connection = s.connection)
    (talk : Talk (conversation c s.world.events ++ conversation c es) .up) : t.Tidy := by
  obtain ⟨hlast, hpos⟩ := hs.latest _ up
  have hopened : t.world.opened = s.world.opened := by
    rw [ran.opened, unopened, Nat.add_zero]
  have only : ∀ other, s.connection = some other → other = c := fun other h =>
    Option.some.inj (h.symm.trans up)
  exact hs.touch ran.events (by omega) (by omega) others only
    (.inl ⟨kept.trans up, by omega, hpos, talk⟩)

/-- A step that closes the link and drops it keeps a session tidy. -/
theorem Tidy.finish {s t : Session ω} {c : Nat} {es : List Event} (hs : s.Tidy)
    (up : s.connection = some c) (ran : s.world.Ran es t.world)
    (others : ∀ other, other ≠ c → conversation other es = []) (down : t.connection = none)
    (talk : Talk (conversation c s.world.events ++ conversation c es) .closed) : t.Tidy := by
  obtain ⟨hlast, -⟩ := hs.latest _ up
  have hopened : s.world.opened ≤ t.world.opened := ran.opened_le
  have only : ∀ other, s.connection = some other → other = c := fun other h =>
    Option.some.inj (h.symm.trans up)
  exact hs.touch ran.events hopened (by omega) others only (.inr ⟨down, talk⟩)

/-- **Every step keeps a session tidy.**  The steps use no connection, use the link, or
close it, and `Tidy.pass`, `Tidy.use` and `Tidy.finish` deal with each of these once;
bringing a link up is `Opening.tidy`. -/
theorem Step.tidy {d : Doing} {s t : Session ω} {es : List Event} (hs : s.Tidy)
    (h : Step d s es t) : t.Tidy := by
  cases h with
  -- Steps that use no connection.
  | tuned _ hdid =>
    exact hs.pass hdid.ran.events hdid.ran.opened hdid.connection fun _ => rfl
  | kept _ hdid =>
    exact hs.pass hdid.ran.events hdid.ran.opened hdid.connection fun _ => rfl
  | timed _ hdid =>
    exact hs.pass hdid.ran.events hdid.ran.opened hdid.connection fun _ => rfl
  | told quiet hdid =>
    refine hs.pass hdid.ran.events ?_ hdid.connection fun c => by simp [io?_of_isTold quiet]
    rw [hdid.ran.opened, openings_of_isTold quiet, Nat.add_zero]
  -- Steps that use the link and leave it up.
  | heard up hdid =>
    refine hs.use up hdid.ran rfl (fun c other => by simp [Event.io?, other.symm])
      hdid.connection ?_
    simpa [Event.io?] using (hs.up _ up).heard _ (.inr rfl)
  | sent traffic hpack up hes hdid =>
    refine hs.use up hdid.ran hes.concern.openings (fun c other => hes.concern.others other)
      hdid.connection ?_
    rcases hes.conversation with ⟨-, hconv⟩ | ⟨_, he, -⟩
    · rw [hconv]
      exact (hs.up _ up).sent traffic hpack
    · cases he
  -- Steps that close it.
  | @broken _ connection _ _ es ns fs _ _ kind hpack up hes hns hfs hdid =>
    have hquiet : conversation connection ns = [] :=
      (Concern.lost hns).others (Nat.ne_of_lt connection.lt_succ_self)
    refine hs.finish up hdid.ran
      (fun c other => ((hes.concern.append (.lost hns)).append hfs.concern).others other)
      hdid.connection ?_
    rcases hes.conversation with ⟨he, -⟩ | ⟨_, -, hfailing⟩
    · cases he
    · have htalk := ((hs.up _ up).failed kind hpack hfailing).closed (by simp)
      simpa [hquiet, hfs.conversation] using htalk
  | left hpack up hes hfs hdid =>
    refine hs.finish up hdid.ran
      (fun c other => by simp [hes.concern.others other, hfs.concern.others other])
      hdid.connection ?_
    rcases hes.conversation with ⟨-, hconv⟩ | ⟨_, he, -⟩
    · have htalk := ((hs.up _ up).left hpack).closed (by simp)
      simpa [hconv, hfs.conversation] using htalk
    · cases he
  | dropped up hes hdid =>
    refine hs.finish up hdid.ran (fun c other => hes.concern.others other) hdid.connection ?_
    rw [hes.conversation]
    exact (hs.up _ up).closed (by simp)
  -- The one that brings a link up, or fails to.
  | raised down hopen => exact hopen.tidy hs down

/-- Runs of steps keep a session tidy. -/
theorem Path.tidy {allowed : Doing → Prop} {s t : Session ω} {es : List Event}
    (h : Path allowed s es t) (hs : s.Tidy) : t.Tidy :=
  h.preserves (fun _ hs step => step.tidy hs) hs

/-- A session in a world where nothing has been done is tidy. -/
theorem tidy_new (connector : Connector) (settings : Settings) (environment : ω) (clock : UInt32) :
    (new connector settings { environment, clock }).Tidy where
  up _ h := nomatch h
  down _ _ := .inl rfl
  latest _ h := nomatch h
  unopened _ _ := rfl

/-- In a tidy session every conversation is orderly. -/
theorem Tidy.orderly {s : Session ω} (h : s.Tidy) (c : Nat) :
    Orderly (conversation c s.world.events) := by
  by_cases hc : s.connection = some c
  · exact (h.up c hc).orderly (by simp)
  · rcases h.down c hc with hnone | hclosed
    · rw [hnone]
      exact Talk.nil.orderly (by simp)
    · exact hclosed.orderly (by simp)

end Session
end Mqtt
