/-
# Subscriptions on every link of a client

A client only ever opens a link to restore its subscriptions over it.  So its session
takes a `Course`: attempts to connect anew (`Reconnecting`), and between them steps that
open no link.  What holds of each connection that got its CONNACK (`Resumed`) is
established where it is opened and kept by the rest: the subscriptions come before
anything else, and a connection on which they were cut short is never used again.
-/
import Mqtt.Proofs.Client.Run
import Mqtt.Proofs.Session.Acknowledgement
import Mqtt.Proofs.Session.Restoration

namespace Mqtt

/-- What was sent over a connection, the latest when its handshake was done: CONNECT before
that, and after it the subscriptions there were to restore before all else.  Where they
are cut short, the connection is not the link's any more. -/
def Resumed (settings : Settings) (link : Option Nat) (before after : List Event) : Prop :=
  ∃ registry id frames, Registry.Recalls registry (subscriptions before) ∧
    Packs [.connect settings.connect] (Io.frames (conversation (openings before) before)) ∧
      Packs (Session.resubscriptions id registry.entries) frames ∧
        (frames <+: Io.frames (conversation (openings before) after) ∨
          Io.frames (conversation (openings before) after) <+: frames ∧
            link ≠ some (openings before))

/-- What comes later changes nothing, as long as a connection that was left is not used. -/
theorem Resumed.extend {settings : Settings} {link next : Option Nat}
    {before after es : List Event} (h : Resumed settings link before after)
    (parted : link ≠ some (openings before) →
      conversation (openings before) es = [] ∧ next ≠ some (openings before)) :
    Resumed settings next before (after ++ es) := by
  obtain ⟨registry, id, frames, hrecalls, hhello, hpacks, hsent⟩ := h
  refine ⟨registry, id, frames, hrecalls, hhello, hpacks, ?_⟩
  rw [conversation_append, Io.frames_append]
  rcases hsent with hwhole | ⟨hcut, hleft⟩
  · exact .inl (hwhole.trans (List.prefix_append ..))
  · obtain ⟨hquiet, hnext⟩ := parted hleft
    rw [hquiet]
    exact .inr ⟨by simpa [Io.frames] using hcut, hnext⟩

/-- Where no handshake is counted, the log is told of none. -/
theorem without_of_handshakes {es : List Event} (h : handshakes es = 0) :
    Without Event.isHandshake es := fun e he =>
  Bool.eq_false_iff.2 (List.countP_eq_zero.1 h e he)

namespace Session

variable {ω : Type} {settings : Settings}

/-- What a client's session does: attempts to connect anew, and steps that open no link. -/
inductive Course : Session ω → List Event → Session ω → Prop
  /-- Nothing is done. -/
  | refl (s : Session ω) : Course s [] s
  /-- Steps of which none brings up a link. -/
  | calm {s t u : Session ω} {es fs : List Event} : Course s es t → Path (· ≠ .raise) t fs u →
      Course s (es ++ fs) u
  /-- One attempt to connect anew, however it went. -/
  | renewed {s t u : Session ω} {r : Except Fault Unit} {es fs : List Event} : Course s es t →
      Reconnecting t r fs u → Course s (es ++ fs) u

/-- Two courses, one after the other, are a course. -/
theorem Course.trans {s t u : Session ω} {es fs : List Event} (h : Course s es t)
    (h' : Course t fs u) : Course s (es ++ fs) u := by
  induction h' with
  | refl => simpa using h
  | calm _ hpath ih =>
    rw [← List.append_assoc]
    exact .calm ih hpath
  | renewed _ hreconnect ih =>
    rw [← List.append_assoc]
    exact .renewed ih hreconnect

/-- Steps that open no link are a course. -/
theorem Path.course {s t : Session ω} {es : List Event} (h : Path (· ≠ .raise) s es t) :
    Course s es t :=
  .calm (.refl s) h

/-- What a client that does not run may do opens no link. -/
theorem Path.course_of_isWork {s t : Session ω} {es : List Event}
    (h : Path (Doing.isWork false ·) s es t) : Course s es t :=
  h.unraised.course

/-- What the calls of a client that does not run do is a course. -/
theorem Path.course_of_isCall {s t : Session ω} {es : List Event}
    (h : Path (Doing.isCall false ·) s es t) : Course s es t :=
  h.unraised_of_isCall.course

/-- An attempt to connect anew is a course by itself. -/
theorem Reconnecting.course {s t : Session ω} {r : Except Fault Unit} {es : List Event}
    (h : Reconnecting s r es t) : Course s es t :=
  .renewed (.refl s) h

/-- Steps that open no link tell of no handshake. -/
theorem Path.unshaken {s t : Session ω} {es : List Event} (h : Path (· ≠ .raise) s es t) :
    handshakes es = 0 := by
  induction h with
  | refl => rfl
  | @snoc _ _ mid _ _ _ _ other step ih =>
    rw [handshakes_append, ih]
    cases step.linking with
    | kept hnone => rw [hnone]
    | replaced _ hlink =>
      have hsame := step.unchanged.2 other
      rw [hsame] at hlink
      simp at hlink

/-- Opening a link that fails is told as no handshake. -/
theorem Opening.unshaken {s t : Session ω} {fault : Fault} {es : List Event}
    (down : s.connection = none) (h : Opening s (.error fault) es t) : handshakes es = 0 := by
  cases h.linking down with
  | kept hnone => exact hnone
  | replaced _ hlink =>
    rw [h.link] at hlink
    simp [Except.isOk, Except.toBool] at hlink

/-- Every subscription fits a frame. -/
theorem packs_resubscriptions (id : UInt16) (entries : List Registry.Entry) :
    ∃ frames, Packs (resubscriptions id entries) frames := by
  induction entries generalizing id with
  | nil => exact ⟨[], .nil⟩
  | cons entry entries ih =>
    obtain ⟨frames, hframes⟩ := ih (max (id + 1) 1)
    obtain ⟨frame, hpack⟩ := packs_entry id entry
    exact ⟨frame :: frames, (Packs.singleton hpack).append hframes⟩

/-- Sending subscriptions again is done to the connection of the new link. -/
theorem Replaying.concern {connection : Nat} {id last : UInt16} {entries : List Registry.Entry}
    {r : Except Fault Unit} {es : List Event} (h : Replaying connection id entries last r es) :
    Concern connection es := by
  induction h with
  | done => exact .nil
  | unpackable => exact .nil
  | failed _ hes => exact hes.concern
  | sent _ hes _ ih => exact hes.concern.append ih

/-- A link opens after the CONNECT has gone over its connection. -/
theorem Opening.connected {s t : Session ω} {es : List Event} (h : Opening s (.ok ()) es t) :
    ∃ os present, es = os ++ [.notice (.connected s.settings.host.text s.settings.tcpPort
        s.settings.clientId.text present)] ∧
      handshakes os = 0 ∧ openings os = 1 ∧ subscriptions os = [] ∧
        Packs [.connect s.settings.connect]
          (Io.frames (conversation (s.world.opened + 1) os)) := by
  have hsent := h.frames
  cases h with
  | @opened _ present _ as bs _ hdial hexchange =>
    obtain ⟨rfl, hone, -⟩ := hdial.talk rfl
    refine ⟨as ++ bs, present, rfl, ?_, ?_, ?_, ?_⟩
    · rw [handshakes_append, hdial.handshakes, hexchange.concern.uncounted]
    · rw [openings_append, hone, hexchange.concern.openings]
    · rw [subscriptions_append, hdial.unsubscribed, hexchange.concern.unsubscribed]
      rfl
    · rcases hsent with hsent | ⟨-, _, he⟩
      · simpa [Io.frames] using hsent
      · cases he

/-- What holds of the session of a client: its connections were resumed. -/
structure Restores (settings : Settings) (s : Session ω) : Prop where
  tidy : s.Tidy
  /-- The registry is what the subscriptions on record come to. -/
  recalls : s.Recalls
  opened : s.world.opened = openings s.world.events
  configured : s.settings = settings
  /-- After every link that came up, its connection went on as `Resumed` says. -/
  resumed : ∀ before host tcpPort clientId present after,
    s.world.events = before ++ .notice (.connected host tcpPort clientId present) :: after →
      Resumed settings s.connection before after

namespace Restores

variable {s t : Session ω} {es : List Event}

/-- A run of steps keeps what holds of the connections there were. -/
theorem extend {allowed : Doing → Prop} (hs : s.Restores settings) (h : Path allowed s es t)
    {before after : List Event} {event : Event} (split : s.world.events = before ++ event :: after)
    (resumed : Resumed settings s.connection before after) :
    Resumed settings t.connection before (after ++ es) := by
  refine resumed.extend fun apart => h.parted ?_ apart
  rw [hs.opened, split, openings_append]
  exact Nat.le_add_right ..

/-- A run of steps keeps what holds of a client's session, if the connections of the links
that it brings up are resumed in it.  Those of earlier links stay so by `extend`. -/
theorem of_path {allowed : Doing → Prop} (hs : s.Restores settings) (h : Path allowed s es t)
    (resumed : ∀ before host tcpPort clientId present after,
      es = before ++ .notice (.connected host tcpPort clientId present) :: after →
        Resumed settings t.connection (s.world.events ++ before) after) :
    t.Restores settings := by
  refine ⟨h.tidy hs.tidy, h.recalls hs.recalls, h.ran.counts hs.opened,
    h.settings.trans hs.configured, ?_⟩
  intro before host tcpPort clientId present after hsplit
  rw [h.ran.events] at hsplit
  rcases append_eq_append_cons hsplit with ⟨rest, hold, rfl⟩ | ⟨rest, rfl, hnew⟩
  · exact hs.extend h hold (hs.resumed _ _ _ _ _ _ hold)
  · exact resumed _ _ _ _ _ _ hnew

/-- Steps without a handshake keep what holds of a client's session. -/
theorem unshaken {allowed : Doing → Prop} (hs : s.Restores settings) (h : Path allowed s es t)
    (none : handshakes es = 0) : t.Restores settings := by
  refine hs.of_path h fun before host tcpPort clientId present after hsplit => ?_
  rw [hsplit, handshakes_append] at none
  have hone : 0 < handshakes (.notice (.connected host tcpPort clientId present) :: after) :=
    List.countP_pos_iff.2 ⟨_, List.mem_cons_self, rfl⟩
  omega

/-- **A link that opens is resumed.**  Before it comes up its connection has carried
CONNECT alone, and what follows are the subscriptions, up to the first that failed. -/
theorem opened_link {u v : Session ω} {ds os gs tail : List Event} {id : UInt16}
    {r : Except Fault Unit} (hs : s.Restores settings) (hdrop : Dropping s ds u)
    (hopen : Opening u (.ok ()) os v)
    (hreplay : Replaying (u.world.opened + 1) v.packetId v.registry.entries id r gs)
    (left : ∀ fault, r = .error fault → t.connection = none)
    (quiet : Io.frames (conversation (u.world.opened + 1) tail) = [])
    (unshaken : handshakes tail = 0)
    (h : Path (fun _ => True) s (ds ++ os ++ (gs ++ tail)) t) : t.Restores settings := by
  obtain ⟨hopened, hsilent⟩ := hdrop.silent hs.tidy
  obtain ⟨-, -, hreplay⟩ := hdrop.reopened hs.tidy hopen hopen.connection hreplay
  rw [hopened] at hreplay quiet
  have hcalled : Path (Doing.isCall false ·) s ds u := hdrop.path
  have hds : handshakes ds = 0 := hcalled.unraised_of_isCall.unshaken
  have hdsubs : subscriptions ds = [] := by
    cases hdrop with
    | nothing => rfl
    | closed _ hes => exact hes.concern.unsubscribed
  have hdopenings : openings ds = 0 := by
    have hran := hcalled.ran.opened
    rw [hopened] at hran
    omega
  obtain ⟨os', present, rfl, hos, hone, hosubs, hhello⟩ := hopen.connected
  rw [hopened, hdrop.settings, hs.configured] at hhello
  refine hs.of_path h fun before host tcpPort clientId present' after hsplit => ?_
  -- The handshake of this link is the only one in the new part of the history, so
  -- `of_path` asks about this link alone.
  have hwithout : Without Event.isHandshake (ds ++ os') := without_of_handshakes (by
    rw [handshakes_append, hds, hos])
  have hrest : Without Event.isHandshake (gs ++ tail) := without_of_handshakes (by
    rw [handshakes_append, hreplay.concern.uncounted, unshaken])
  rw [← List.append_assoc ds, List.append_assoc, List.singleton_append] at hsplit
  obtain ⟨rfl, rfl⟩ := split_unique Event.isHandshake hwithout hrest rfl hsplit
  have hnumber : openings (s.world.events ++ (ds ++ os')) = s.world.opened + 1 := by
    rw [openings_append, openings_append, hdopenings, hone, hs.opened]
  have hfirst : conversation (s.world.opened + 1) (s.world.events ++ (ds ++ os')) =
      conversation (s.world.opened + 1) os' := by
    rw [conversation_append, conversation_append, hsilent,
      hs.tidy.unopened _ (Nat.lt_succ_self _)]
    rfl
  have hsent : Io.frames (conversation (s.world.opened + 1) (gs ++ tail)) =
      Io.frames (conversation (s.world.opened + 1) gs) := by
    rw [conversation_append, Io.frames_append, quiet, List.append_nil]
  have hkept : s.registry.Recalls (subscriptions (s.world.events ++ (ds ++ os'))) := by
    rw [subscriptions_append, subscriptions_append, hdsubs, hosubs, List.append_nil,
      List.append_nil]
    exact hs.recalls
  obtain ⟨frames, hframes⟩ := packs_resubscriptions s.packetId s.registry.entries
  refine ⟨s.registry, s.packetId, frames, hkept, ?_, hframes, ?_⟩
  · rw [hnumber, hfirst]
    exact hhello
  · rw [hnumber, hsent]
    -- Either all subscriptions went out, or the replay failed and its link is down.
    rcases hreplay.frames with ⟨-, -, hall⟩ | ⟨i, fault, -, -, -, hfault, -, hsome, -⟩
    · exact .inl (hframes.unique hall ▸ List.prefix_refl _)
    · refine .inr ⟨?_, by rw [left fault hfault]; simp⟩
      rw [← (hframes.take (i + 1)).unique hsome]
      exact List.take_prefix ..

/-- **An attempt to connect anew keeps what holds of a client's session.**  If it opens a
link, the subscriptions were sent over it before anything else, or the link is gone. -/
theorem reconnecting {r : Except Fault Unit} (hs : s.Restores settings)
    (h : Reconnecting s r es t) : t.Restores settings := by
  have hpath := h.path.any
  have hdown := fun fault (hr : r = .error fault) => (show Reconnecting s (.error fault) es t from
    hr ▸ h).down
  cases h with
  | unopened hdrop hnone hopen =>
    refine hs.unshaken hpath ?_
    have hcalled : Path (Doing.isCall false ·) s _ _ := hdrop.path
    rw [handshakes_append, hcalled.unraised_of_isCall.unshaken, hopen.unshaken hnone]
  | abandoned hdrop hnone hopen up hreplay hclosing hdid =>
    obtain rfl := Option.some.inj (up.symm.trans hopen.connection)
    refine hs.opened_link hdrop hopen hreplay (fun fault _ => hdown fault ‹_›) ?_ ?_ hpath
    · rw [conversation_cons, io?_notice, hclosing.conversation]
      rfl
    · exact hclosing.concern.uncounted
  | restored hdrop hnone hopen up hreplay hnotice hdid =>
    obtain rfl := Option.some.inj (up.symm.trans hopen.connection)
    refine hs.opened_link hdrop hopen hreplay (fun fault he => nomatch he) ?_ ?_ hpath
    · rw [hnotice]
      split <;> rfl
    · rw [hnotice]
      split <;> rfl

/-- A course keeps what holds of a client's session, attempt by attempt. -/
theorem course (hs : s.Restores settings) (h : Course s es t) : t.Restores settings := by
  induction h with
  | refl => exact hs
  | calm _ hpath ih => exact ih.unshaken hpath hpath.unshaken
  | renewed _ hreconnect ih => exact ih.reconnecting hreconnect

end Restores

/-! ### The course of a client's session -/

/-- Connecting, or finding the session connected, is a course. -/
theorem Ensuring.course {r : Except Fault Unit} {s t : Session ω} {es : List Event}
    (h : Ensuring s r es t) : Course s es t := by
  cases h with
  | linked => exact .refl _
  | reconnected _ hreconnect => exact hreconnect.course

/-- A call that concerns the session alone is a course. -/
theorem Calling.course {running : Bool} {call : Call} {reply : Reply} {s t : Session ω}
    {es : List Event} (h : Calling running s call reply es t) : Course s es t := by
  cases h with
  | connected _ hensure => exact hensure.course
  | notRunning => exact .refl _
  | published _ hpublish => exact Path.course_of_isCall hpublish.path
  | unpublished => exact .refl _
  | subscribed _ hsubscribe => exact Path.course_of_isCall hsubscribe.path
  | unsubscribed => exact .refl _
  | shown => exact .refl _

end Session

namespace Worker

variable {ω : Type}

/-- The calls of the message handler are a course. -/
theorem Answering.course {running : Bool} {calls : List Call} {s t : Session ω}
    {es : List Event} (h : Answering running calls s es t) : Session.Course s es t := by
  induction h with
  | nil => exact .refl _
  | cons hcall hdid _ ih =>
    exact hcall.course.trans ((Session.Path.course_of_isCall (hdid.told rfl rfl)).trans ih)

/-- A step of a dispatch is a course: whatever the handler asks for, no link is opened
that is not restored. -/
theorem Dispatching.course {running : Bool} {worker next : Worker} {s t : Session ω}
    {es : List Event} (h : Dispatching running worker s next es t) : Session.Course s es t := by
  cases h with
  | cut _ hcut => exact Session.Path.course_of_isWork hcut.path
  | delivered _ hdid hcalls =>
    exact (Session.Path.course_of_isWork (path_told rfl rfl hdid)).trans hcalls.course
  | gaveUp _ _ hdid hdrop =>
    exact Session.Path.course_of_isCall ((hdid.told rfl rfl).trans hdrop.path)
  | stale _ _ hdid => exact Session.Path.course_of_isCall (hdid.told rfl rfl)

/-- The part of a pass after there is a link is a course. -/
theorem Servicing.course {worker next : Worker} {s t : Session ω} {es : List Event}
    (h : Servicing worker s next es t) : Session.Course s es t := by
  cases h with
  | interrupted hkeep => exact hkeep.unraised.course
  | continued hkeep => exact hkeep.unraised.course
  | adopted hkeep _ hfs hdid =>
    rw [hfs] at hdid ⊢
    exact hkeep.unraised.course.trans
      (Session.Path.course_of_isCall (hdid.told_unless _ rfl rfl))

/-- Starting a slice of sleep is a course. -/
theorem Pausing.course {running : Bool} {slice remaining : UInt32} {phase : Phase} {s t : Session ω}
    {es : List Event} (h : Pausing running slice remaining s phase es t) : Session.Course s es t := by
  cases h with
  | ended => exact .refl _
  | slice _ _ _ hdid => exact (Session.Path.single (by simp) (.told rfl hdid)).course

/-- A pass up to its read is a course, with the attempt to connect anew it may begin with. -/
theorem Passing.course {running : Bool} {worker next : Worker} {s t : Session ω}
    {es : List Event} (h : Passing running worker s next es t) : Session.Course s es t := by
  cases h with
  | linked _ hservice => exact hservice.course
  | reconnected _ hreconnect hservice => exact hreconnect.course.trans hservice.course
  | postponed _ hreconnect _ hdid hpause =>
    exact hreconnect.course.trans
      ((Session.Path.course_of_isCall (hdid.told rfl rfl)).trans hpause.course)

/-- A move of a worker is a course. -/
theorem Moving.course {running : Bool} {worker next : Worker} {s t : Session ω}
    {es : List Event} (h : Moving running worker s next es t) : Session.Course s es t := by
  cases h with
  | received _ htaking => exact Session.Path.course_of_isWork htaking.path
  | woke _ hpause => exact hpause.course
  | passed _ _ hpassing => exact hpassing.course
  | dispatched _ _ hdispatch => exact hdispatch.course

end Worker

namespace Client

variable {ω : Type}

/-- Starting the worker's task is a course, also where the task does not start and the
client disconnects. -/
theorem Starting.course {client next : Client ω} {r : Except Fault Unit} {es : List Event}
    (h : Starting client r es next) : Session.Course client.session es next.session := by
  have told : ∀ {event event' : Event} {s t : Session ω}, event.isTold = true →
      event'.isTold = true → s.Did [event, event'] t → Session.Course s [event, event'] t := by
    intro event event' s t quiet quiet' hdid
    obtain ⟨u, hfirst, hsecond⟩ := hdid.split
    exact (Session.Path.cons (by simp) (.told quiet hfirst)
      (.single (by simp) (.told quiet' hsecond))).course
  cases h with
  | started hdid => exact told rfl rfl hdid
  | failed hdid hleave => exact (told rfl rfl hdid).trans (Session.Path.course_of_isCall hleave.path)

/-- A call to connect is a course. -/
theorem Connecting.course {client next : Client ω} {r : Except Fault Unit} {es : List Event}
    (h : Connecting client r es next) : Session.Course client.session es next.session := by
  cases h with
  | unconnected hensure => exact hensure.course
  | serviced hensure => exact hensure.course
  | starting hensure _ hstart => exact hensure.course.trans hstart.course

/-- Disconnecting is a course, with what the worker still does before it ends. -/
theorem Disconnecting.course {client next : Client ω} {es : List Event}
    (h : Disconnecting client es next) : Session.Course client.session es next.session := by
  cases h with
  | alone hleave => exact Session.Path.course_of_isCall hleave.path
  | joined hleave _ hend hdid =>
    obtain ⟨u, hstopped, hjoined⟩ := hdid.split
    refine ((Session.Path.course_of_isCall hleave.path).trans
      (Session.Path.course_of_isWork hend.path)).trans ?_
    exact (Session.Path.cons (by simp) (.told rfl hstopped)
      (.single (by simp) (.told rfl hjoined))).course

/-- **A move of a client takes its session along a course.**  Links are opened by a call
to connect and by the worker's pass, both of which restore them. -/
theorem Stepping.course {client next : Client ω} {move : Move ω} {es : List Event}
    (h : Stepping client move es next) : Session.Course client.session es next.session := by
  cases h with
  | connected hconnect => exact hconnect.course
  | answered _ hcall => exact hcall.course
  | disconnected hdisconnect => exact hdisconnect.course
  | moved _ _ hmove => exact hmove.course
  | ended _ hend => exact Session.Path.course_of_isWork hend.path
  | idle => exact .refl _
  | waited _ hdid => exact (Session.Path.single (by simp) (.tuned _ hdid)).course
  | became _ hdid => exact (Session.Path.single (by simp) (.tuned _ hdid)).course

/-- A client that has done nothing yet has no connections, so what holds of them holds. -/
theorem restores_start (connector : Connector) (settings : Settings) (environment : ω)
    (clock : UInt32) :
    (start connector settings environment clock).session.Restores settings where
  tidy := Session.tidy_new ..
  recalls := Registry.recalls_empty
  opened := rfl
  configured := rfl
  resumed before _ _ _ _ _ hsplit := by
    have hnone : ([] : List Event) = before ++ _ :: _ := hsplit
    simp at hnone

variable [Environment ω]

/-- **Every link of a client begins with the subscriptions to restore.**  Every move
takes the session along a course, and courses keep it. -/
theorem restores_run (connector : Connector) (settings : Settings) (environment : ω)
    (clock : UInt32) (moves : List (Move ω)) :
    ((start connector settings environment clock).run moves).session.Restores settings := by
  have kept : ∀ {client next : Client ω} {move : Move ω} {es : List Event},
      client.session.Restores settings → Stepping client move es next →
        next.session.Restores settings :=
    fun hrestores hstep => hrestores.course hstep.course
  exact run_preserves kept moves (restores_start connector settings environment clock)

/-- **Subscriptions are restored.**

After any run of moves of a session, whatever the environment answers: the registry
recalls the calls to subscribe that succeeded, so it holds the first eight filters among
them, each with the level of its latest success, and only such a call changes it.  An
attempt to connect anew then sends CONNECT over a connection of its own, and after it the
subscriptions of the registry in their order, with the next identifiers; where one of them
cannot be sent it ends with that failure, sends none of those after it, closes the
connection and leaves the registry alone.  It is a move like any other, so the same holds
of the attempt after it.

In a run of a client the subscriptions so restored come before anything else on each
connection that got its CONNACK. -/
theorem restored_run (connector : Connector) (settings : Settings) (environment : ω)
    (clock : UInt32) :
    (∀ moves : List (Session.Move ω),
      let fresh : Session ω := .new connector settings { environment, clock }
      let session := fresh.run moves
      session.registry.Recalls (fresh.subscribedIn moves) ∧
        (∀ move, session.subscribed? move = none →
          (session.step move).registry = session.registry) ∧
          ∃ es, (session.step .reconnect).world.events = session.world.events ++ es ∧
            session.Restoring (session.world.opened + 1)
              (conversation (session.world.opened + 1) es) (session.step .reconnect)
              (session.outcome .reconnect)) ∧
      ∀ moves : List (Move ω),
        let client := (start connector settings environment clock).run moves
        ∀ before host tcpPort clientId present after,
          client.events = before ++ .notice (.connected host tcpPort clientId present) :: after →
            Resumed settings client.session.connection before after := by
  constructor
  · intro moves fresh session
    have htidy : session.Tidy := Session.tidy_run (Session.tidy_new ..) moves
    obtain ⟨es, hevents, hrestoring, -⟩ := Session.reconnect_restoring htidy
    refine ⟨?_, fun move hnone => ?_, es, hevents, hrestoring⟩
    · have hrecalls := Session.recalls_run (s := fresh) moves Registry.recalls_empty
      rwa [List.nil_append] at hrecalls
    · have hstep := session.registry_step move
      rw [hnone] at hstep
      exact hstep
  · intro moves client
    exact (restores_run connector settings environment clock moves).resumed

end Client
end Mqtt
