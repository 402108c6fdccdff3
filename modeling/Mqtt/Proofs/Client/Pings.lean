/-
# Pings

A client pings over a link that has been silent for half its keep-alive interval, and gives
the link up if no answer comes for as long again.  So between two pings over a connection
its answer to the first was acted on, no link is given up that answered, and nothing of an
earlier link's timers is left when the next comes up (`pinged_run`).  What is due is done by
the next pass over the link (`Stepping.serves`).

The invariant is `Worker.Minds`: the session is attentive, and while a worker dispatches
bytes of another connection than the link's, no ping is out over the link.  For pings go out
at the start of a pass only, when nothing is left to dispatch.  An answer that came over a
link that another has replaced therefore finds nothing to answer, whatever the numbers of the
two.
-/
import Mqtt.Script
import Mqtt.Proofs.Client.Remainder
import Mqtt.Proofs.Session.Timers

namespace Mqtt

variable {ω : Type} {seconds : UInt16}

namespace Session

variable {origin : Origin} {frame : List UInt8} {s t : Session ω}

/-- The bytes of a link that has the session's number count for it: they came over it, or the
numbers have come round. -/
theorem Follows.counts {c : Nat} (follows : s.Follows origin) (counted : s.Counted)
    (current : s.link = origin.link) (up : s.connection = some c) :
    origin.connection = c ∨ cameRound origin.connection s.world.events = true := by
  have hdvd := (follows.link_eq_iff_dvd counted).1 current
  by_cases hzero : sinceRead origin.connection s.world.events = 0
  · exact .inl (follows.current hzero c up).symm
  · exact .inr (by simp [cameRound, hzero, hdvd])

/-- The answer to a ping restarts the timers of the link it counts for. -/
theorem Attentive.pong (hs : s.Attentive seconds) (rests : s.Rests origin.connection)
    (follows : s.Follows origin) (counted : s.Counted) (current : s.link = origin.link)
    (decoded : Inbound.decode frame = .ok .pingResp)
    (ran : s.world.Ran [.frame origin.connection frame, .notice .ponged] t.world)
    (begins : s.world.Begins t.world) (link : t.connection = s.connection)
    (timers : t.keepAlive = s.keepAlive.ponged s.world.clock) : t.Attentive seconds := by
  obtain ⟨later, hlater, hes⟩ := begins.first ran
  have hsignless : Without Event.isSign [.notice .ponged] := .singleton rfl
  have hsigns := hsignless.stamped hes
  have hanswer := isPingResp_iff.2 decoded
  refine ⟨ran.counts hs.opened, timers ▸ hs.interval, fun c hc => ?_, fun c hc => ?_, ?_⟩
  · have hcounts := follows.counts counted current (link ▸ hc)
    rw [hlater, heard_append hsigns, timers]
    simp [heard, Event.revives, hanswer, ← World.events_eq, hcounts, KeepAlive.ponged]
  · rw [hlater, unanswered_append hsigns, timers]
    by_cases hown : origin.connection = c
    · simp [unanswered, Event.isPing, Event.isPong, hanswer, hown, KeepAlive.ponged]
    · have hrests := hs.pingedAt c (link ▸ hc)
      rw [rests c (link ▸ hc) (Ne.symm hown)] at hrests
      simpa [unanswered, Event.isPing, Event.isPong, hown, KeepAlive.ponged] using hrests
  · rw [hlater]
    exact hs.duly.frame.append hsigns

/-- The answer to a ping over an older link counts for nothing. -/
theorem Attentive.stale (hs : s.Attentive seconds) (follows : s.Follows origin)
    (counted : s.Counted) (old : s.link ≠ origin.link)
    (hdid : s.Did [.frame origin.connection frame, .notice .ponged] t) : t.Attentive seconds := by
  obtain ⟨time, later, hlater, hes⟩ := hdid.ran.first
  have hsignless : Without Event.isSign [.notice .ponged] := .singleton rfl
  have hsigns := hsignless.stamped hes
  have hother : ∀ c, s.connection = some c → origin.connection ≠ c := fun c up heq =>
    follows.apart counted old (heq ▸ up)
  have hround : cameRound origin.connection s.world.events = false := by
    have hndvd : ¬UInt32.size ∣ sinceRead origin.connection s.world.events := fun hdvd =>
      old ((follows.link_eq_iff_dvd counted).2 hdvd)
    simp [cameRound, hndvd]
  refine ⟨hdid.ran.counts hs.opened, hdid.keepAlive ▸ hs.interval, fun c hc => ?_, fun c hc => ?_,
    ?_⟩
  · rw [hdid.connection] at hc
    rw [hlater, heard_append hsigns, hdid.keepAlive, ← hs.heardAt c hc]
    simp [heard, Event.revives, ← World.events_eq, hother c hc, hround]
  · rw [hdid.connection] at hc
    rw [hlater, unanswered_append hsigns, hdid.keepAlive, ← hs.pingedAt c hc]
    simp [unanswered, Event.isPing, Event.isPong, hother c hc]
  · rw [hlater]
    exact hs.duly.frame.append hsigns

end Session

/-- Taking note of a packet that calls for nothing is quiet. -/
theorem Inbound.isQuiet_remark (packet : Inbound) :
    (Session.Doing.tell (.notice packet.remark)).isQuiet = true := by
  unfold remark
  split <;> rfl

namespace Worker

variable {worker next : Worker} {s t : Session ω} {es : List Event} {d : Nat}

/-- What a frame asks for is quiet, unless it is the answer to a ping. -/
theorem Handling.quiet {origin : Origin} {frame : List UInt8} {r : Except Fault Errand}
    (other : Inbound.decode frame ≠ .ok .pingResp) (h : Handling origin frame s r es t) :
    Session.Path (Session.Doing.isQuiet ·) s es t := by
  have hquiet : (Session.Doing.tell (.frame origin.connection frame)).isQuiet = true := by
    simpa [Session.Doing.isQuiet, ← isPingResp_iff] using other
  have told : ∀ {n : Notice} {u : Session ω}, (Event.notice n).isTold = true →
      (Session.Doing.tell (.notice n)).isQuiet = true →
        s.Did [.frame origin.connection frame, .notice n] u →
          Session.Path (Session.Doing.isQuiet ·) s
            [.frame origin.connection frame, .notice n] u := by
    intro n u hnotice hn hdid
    obtain ⟨_, hframe, hnote⟩ := hdid.split
    exact (hframe.quiet rfl hquiet).trans (hnote.quiet hnotice hn)
  have acked : ∀ {id : UInt16} {r : Except Fault Unit} {es : List Event} {u v : Session ω},
      Session.Transmitting (.pubAck id) u r es v →
        Session.Path (Session.Doing.isQuiet ·) u es v := fun hsent =>
    (hsent.path rfl).mono fun d hd => by rw [show d = _ from hd]; rfl
  cases h with
  | undecodable _ hdid => exact hdid.quiet rfl hquiet
  | ponged decoded => exact absurd decoded other
  | stalePong decoded => exact absurd decoded other
  | acknowledged _ _ _ hframe hsent hdid =>
    exact (hframe.quiet rfl hquiet).trans ((acked hsent).trans (hdid.quiet rfl rfl))
  | unacknowledged _ _ _ hframe hsent => exact (hframe.quiet rfl hquiet).trans (acked hsent)
  | published _ _ hdid => exact told rfl rfl hdid
  | @remarked packet _ _ _ hdid =>
    exact told (Inbound.isTold_remark packet) (Inbound.isQuiet_remark packet) hdid

/-- **Acting on a frame keeps a session mindful.**  Of the packets only the answer to a
ping touches the timers, and it is noted only for the link it came over. -/
theorem Handling.mindful {origin : Origin} {frame : List UInt8} {r : Except Fault Errand}
    (hs : s.Mindful seconds origin.connection) (follows : s.Follows origin)
    (counted : s.Counted) (h : Handling origin frame s r es t) :
    t.Mindful seconds origin.connection := by
  by_cases hpong : Inbound.decode frame = .ok .pingResp
  · have hpath : Session.Path (Session.Doing.isWork true ·) s es t := h.path
    have htidy := hpath.tidy hs.tidy
    cases h with
    | ponged _ current hdid begins =>
      refine ⟨htidy, hs.attentive.pong hs.rests follows counted current hpong hdid.ran begins
        hdid.connection hdid.keepAlive, fun _ _ _ => ?_⟩
      rw [hdid.keepAlive]
      rfl
    | stalePong _ old hdid =>
      refine ⟨htidy, hs.attentive.stale follows counted old hdid, fun c hc hother => ?_⟩
      rw [hdid.keepAlive]
      exact hs.rests c (hdid.connection ▸ hc) hother
    | undecodable hbad => exact nomatch hpong.symm.trans hbad
    | acknowledged hmessage => exact nomatch hpong.symm.trans hmessage
    | unacknowledged hmessage => exact nomatch hpong.symm.trans hmessage
    | published hmessage => exact nomatch hpong.symm.trans hmessage
    | remarked hpacket hremark =>
      cases hpong.symm.trans hpacket
      exact absurd rfl hremark.1
  · exact (h.quiet hpong).mindful hs

/-- **Cutting a frame keeps a session mindful.**  An answer to a ping either came over the
link, whose timers note it, or over a link that another has replaced, and then it counts
for nothing. -/
theorem Cutting.mindful (hs : s.Mindful seconds worker.origin.connection)
    (follows : s.Follows worker.origin) (counted : s.Counted) (h : Cutting worker s next es t) :
    t.Mindful seconds worker.origin.connection := by
  cases h with
  | unfinished => exact hs
  | broken => exact hs
  | oversized _ hdid => exact (hdid.quiet rfl rfl).mindful hs
  | handled _ hhandling => exact hhandling.mindful hs follows counted
  | failed _ hhandling => exact hhandling.mindful hs follows counted

/-- The calls of the message handler keep a session mindful, also where they replace the
link. -/
theorem Answering.mindful {running : Bool} {calls : List Call} (hs : s.Mindful seconds d)
    (h : Answering running calls s es t) : t.Mindful seconds d := by
  induction h with
  | nil => exact hs
  | cons hcall hdid _ ih => exact ih ((hdid.quiet rfl rfl).mindful (hcall.mindful hs))

/-- So does every step of a dispatch. -/
theorem Dispatching.mindful {running : Bool} (hs : s.Mindful seconds worker.origin.connection)
    (track : worker.Tracked s) (h : Dispatching running worker s next es t) :
    t.Mindful seconds worker.origin.connection := by
  have dropped : ∀ {es : List Event} {u : Session ω}, u.Mindful seconds worker.origin.connection →
      Session.Dropping u es t → t.Mindful seconds worker.origin.connection := fun hu hdrop =>
    have hpath : Session.Path (Session.Doing.isCall false ·) _ _ _ := hdrop.path
    hpath.quiet.mindful hu
  cases h with
  | cut herrand hcut =>
    exact hcut.mindful hs (track.follows (.inr (by simp [herrand]))) track.counted
  | delivered _ hdid hcalls => exact hcalls.mindful ((hdid.quiet rfl rfl).mindful hs)
  | gaveUp _ _ hdid hdrop => exact dropped ((hdid.quiet rfl rfl).mindful hs) hdrop
  | stale _ _ hdid => exact (hdid.quiet rfl rfl).mindful hs

/-! ### The worker -/

/-- The session is attentive, and a worker in the middle of a dispatch finds a ping out only
over the connection its bytes came over. -/
structure Minds (seconds : UInt16) (worker : Worker) (s : Session ω) : Prop where
  attentive : s.Attentive seconds
  /-- Outside its pass over the link, the worker's bytes may be older than a link that
  came up since; no ping is out over such a link. -/
  rests : worker.errand ≠ .pass → s.Rests worker.origin.connection

/-- A session whose timers the worker minds is mindful, of the connection that its bytes
came over if it has any to dispatch. -/
theorem Minds.mindful (h : worker.Minds seconds s) (tidy : s.Tidy) :
    ∃ d, s.Mindful seconds d ∧ (worker.errand ≠ .pass → worker.origin.connection = d) := by
  by_cases hidle : worker.errand = .pass
  · refine ⟨s.connection.getD 0, ⟨tidy, h.attentive, fun c hc hother => ?_⟩, absurd hidle⟩
    exact absurd (by rw [hc, Option.getD_some]) hother
  · exact ⟨_, ⟨tidy, h.attentive, h.rests hidle⟩, fun _ => rfl⟩

/-- A worker minds the timers of a mindful session, if what it has left to dispatch came
over the connection that a ping may be out over. -/
theorem minds_of_mindful (hs : s.Mindful seconds d)
    (same : worker.errand ≠ .pass → worker.origin.connection = d) : worker.Minds seconds s :=
  ⟨hs.attentive, fun hbusy => same hbusy ▸ hs.rests⟩

/-- Dispatching all that is left keeps the timers minded, and a worker that is done with
it has nothing to take for an answer. -/
theorem Finishing.minds (h : worker.Minds seconds s) (track : worker.Tracked s)
    (hfinish : Finishing worker s es t) : ({} : Worker).Minds seconds t := by
  induction hfinish with
  | done => exact ⟨h.attentive, fun hbusy => absurd rfl hbusy⟩
  | step hmore hdispatch _ ih =>
    have hmindful := hdispatch.mindful ⟨track.tidy, h.attentive, h.rests hmore⟩ track
    exact ih (minds_of_mindful hmindful fun _ => by rw [hdispatch.origin])
      (track.path hdispatch.path fun _ => ⟨.inr hmore, hdispatch.origin⟩)

/-- Starting a slice of sleep is quiet. -/
theorem Pausing.quiet {running : Bool} {slice remaining : UInt32} {phase : Phase}
    (h : Pausing running slice remaining s phase es t) :
    Session.Path (Session.Doing.isQuiet ·) s es t := by
  cases h with
  | ended => exact .refl _
  | slice _ _ _ hdid => exact hdid.quiet rfl rfl

/-- What follows once there is a link does what the timers call for. -/
theorem Servicing.attentive (hs : s.Attentive seconds) (up : s.connection.isSome)
    (h : Servicing worker s next es t) : t.Attentive seconds := by
  cases h with
  | interrupted hkeep => exact hkeep.attentive hs up
  | continued hkeep => exact hkeep.attentive hs up
  | adopted hkeep _ hfs hdid =>
    rw [hfs] at hdid
    have hquiet := (hdid.told_unless _ rfl rfl).quiet
    exact hquiet.attentive (hkeep.attentive hs up)

/-- What the timers of a link call for is done at once. -/
structure Serves (c : Nat) (s t : Session ω) : Prop where
  /-- A ping that is due is out after the pass. -/
  ping : s.keepAlive.due s.world.clock = some .ping →
    unanswered c t.world.history = some s.world.clock
  /-- A link that is dead is down after it. -/
  linkDead : s.keepAlive.due s.world.clock = some .linkDead → t.connection = none

/-- **Servicing the keep-alive does what is due**: the ping goes out at that reading of
the clock, or the link is given up. -/
theorem Servicing.serves {c : Nat} (up : s.connection = some c)
    (h : Servicing worker s next es t) : Serves c s t := by
  cases h with
  | interrupted hkeep =>
    exact ⟨fun due => (hkeep.pinging up due).unanswered, fun due => (hkeep.down due).2⟩
  | continued hkeep =>
    exact ⟨fun due => (hkeep.pinging up due).unanswered, fun due => (hkeep.down due).2⟩
  | adopted hkeep _ hfs hdid =>
    refine ⟨fun due => ?_, fun due => nomatch (hkeep.down due).1⟩
    rw [hfs] at hdid
    rw [(hdid.told_unless _ rfl rfl).quiet.unanswered]
    exact (hkeep.pinging up due).unanswered

/-- A pass up to its read keeps a session attentive, whether it finds a link, opens one or
puts it off. -/
theorem Passing.attentive {running : Bool} (hs : s.Attentive seconds) (tidy : s.Tidy)
    (h : Passing running worker s next es t) : t.Attentive seconds := by
  cases h with
  | linked up hservice => exact hservice.attentive hs up
  | reconnected _ hreconnect hservice =>
    refine hservice.attentive (hreconnect.attentive hs tidy) ?_
    cases hreconnect with
    | restored _ _ _ up _ _ hdid =>
      rw [hdid.connection, up]
      rfl
  | postponed _ hreconnect _ hdid hpause =>
    have htold := (hdid.quiet rfl rfl).attentive (hreconnect.attentive hs tidy)
    exact hpause.quiet.attentive htold

/-- A read keeps the timers minded: what it takes came over the link, and so may the
answer to its ping. -/
theorem Taking.minds (hs : s.Attentive seconds) (idle : worker.errand = .pass)
    (h : Taking worker s next es t) : next.Minds seconds t := by
  cases h with
  | nothing _ hread => exact ⟨hread.quiet.attentive hs, absurd idle⟩
  | failed hread hdrop =>
    have hpath : Session.Path (Session.Doing.isCall false ·) _ _ _ := hdrop.path
    exact ⟨hpath.quiet.attentive (hread.quiet.attentive hs), absurd idle⟩
  | taken _ hread =>
    refine ⟨hread.quiet.attentive hs, fun _ c hc hother => ?_⟩
    cases hread with
    | received _ up hdid =>
      rw [hdid.connection] at hc
      exact absurd (by rw [hc, Option.getD_some]) hother

/-- **Every move of a worker minds the timers.**  Only the pass over the link looks at
the timers; what came over an older link leaves them alone. -/
theorem Moving.minds (h : worker.Minds seconds s) (track : worker.Tracked s)
    (receiving : worker.phase = .receiving → worker.errand = .pass)
    (hmove : Moving true worker s next es t) : next.Minds seconds t := by
  cases hmove with
  | received hphase htaking => exact htaking.minds h.attentive (receiving hphase)
  | woke _ hpause =>
    exact ⟨hpause.quiet.attentive h.attentive, fun hbusy => hpause.quiet.rests (h.rests hbusy)⟩
  | passed _ hidle hpassing =>
    exact ⟨hpassing.attentive h.attentive track.tidy, absurd (hpassing.idle hidle)⟩
  | dispatched _ hmore hdispatch =>
    have hmindful := hdispatch.mindful ⟨track.tidy, h.attentive, h.rests hmore⟩ track
    exact minds_of_mindful hmindful fun _ => by rw [hdispatch.origin]

end Worker

namespace Client

variable {client next : Client ω} {move : Move ω} {es : List Event} {d : Nat}

/-- Starting the worker's task keeps a session mindful. -/
theorem Starting.mindful {r : Except Fault Unit} (hs : client.session.Mindful seconds d)
    (h : Starting client r es next) : next.session.Mindful seconds d := by
  cases h with
  | started hdid =>
    obtain ⟨u, hspawn, hnote⟩ := hdid.split
    exact (hnote.quiet rfl rfl).mindful ((hspawn.quiet rfl rfl).mindful hs)
  | failed hdid hleave =>
    obtain ⟨u, hspawn, hnote⟩ := hdid.split
    exact hleave.path.quiet.mindful
      ((hnote.quiet rfl rfl).mindful ((hspawn.quiet rfl rfl).mindful hs))

/-- Connecting keeps a session mindful. -/
theorem Connecting.mindful {r : Except Fault Unit} (hs : client.session.Mindful seconds d)
    (h : Connecting client r es next) : next.session.Mindful seconds d := by
  cases h with
  | unconnected hensure => exact hensure.mindful hs
  | serviced hensure => exact hensure.mindful hs
  | starting hensure _ hstart => exact hstart.mindful (hensure.mindful hs)

/-- The end of a worker keeps the timers minded, if there was one. -/
theorem Ending.minds {worker : Option Worker} {s t : Session ω}
    (minds : (worker.getD {}).Minds seconds s) (track : (worker.getD {}).Tracked s)
    (h : Ending worker s es t) : ({} : Worker).Minds seconds t := by
  cases h with
  | none => exact minds
  | some hfinish => exact hfinish.minds minds track

/-- Disconnecting keeps the timers minded, with all that the worker still dispatches on
the way. -/
theorem Disconnecting.minds (hs : client.Sound)
    (minds : client.engine.Minds seconds client.session) (h : Disconnecting client es next) :
    next.engine.Minds seconds next.session := by
  have left : ∀ {es : List Event} {t : Session ω}, Session.Leaving client.session es t →
      client.engine.Minds seconds t := fun hleave =>
    have hpath : Session.Path (Session.Doing.isCall false ·) _ _ _ := hleave.path
    ⟨hpath.quiet.attentive minds.attentive, fun hbusy => hpath.quiet.rests (minds.rests hbusy)⟩
  cases h with
  | alone hleave => exact left hleave
  | joined hleave _ hend hdid =>
    have htrack := hs.tracked.path hleave.outside fun hbusy => ⟨hbusy, rfl⟩
    have hended := hend.minds (left hleave) htrack
    obtain ⟨u, hnote, hjoin⟩ := hdid.split
    have hquiet := (hnote.quiet rfl rfl).trans (hjoin.quiet rfl rfl)
    exact ⟨hquiet.attentive hended.attentive, absurd rfl⟩

/-- **Every move minds the timers.**  A call may bring up a new link, and its timers
start with it. -/
theorem Stepping.minds (hs : client.Sound) (minds : client.engine.Minds seconds client.session)
    (h : Stepping client move es next) : next.engine.Minds seconds next.session := by
  -- The worker is as busy as before, and the session mindful of the connection it minds.
  have outside : (∀ {d : Nat}, client.session.Mindful seconds d →
      next.session.Mindful seconds d) → move ≠ .proceed → move ≠ .disconnect →
        next.engine.Minds seconds next.session := by
    intro hkeeps hproceed hdisconnect
    obtain ⟨-, halike⟩ := h.outside hs hproceed hdisconnect
    obtain ⟨d, hmindful, hsame⟩ := minds.mindful hs.tracked.tidy
    refine Worker.minds_of_mindful (hkeeps hmindful) fun hbusy => ?_
    rw [halike.origin]
    exact hsame (halike.errand ▸ hbusy)
  have tuned : client.session.Did [] next.session → ∀ {d : Nat},
      client.session.Mindful seconds d → next.session.Mindful seconds d := fun hdid _ hmindful =>
    Session.Path.mindful hmindful (.single rfl (.tuned _ hdid))
  cases h with
  | connected hconnect =>
    exact outside (fun hmindful => hconnect.mindful (by exact hmindful)) nofun nofun
  | answered _ hcall => exact outside (fun hmindful => hcall.mindful hmindful) nofun nofun
  | disconnected hdisconnect => exact hdisconnect.minds hs minds
  | moved hworker _ hmove =>
    have htrack := hs.tracked
    rw [engine_of_worker hworker] at minds htrack
    exact hmove.minds minds htrack fun hphase => (hs.receiving _ hworker hphase).1
  | ended _ hend => exact hend.minds minds hs.tracked
  | idle => exact minds
  | waited _ hdid => exact outside (tuned hdid) nofun nofun
  | became _ hdid => exact outside (tuned hdid) nofun nofun

/-- The worker is about to make a pass. -/
structure Passes (client : Client ω) (worker : Worker) : Prop where
  idle : worker.errand = .pass
  phase : worker.phase = .ready ∨ worker.phase = .handling
  running : client.running = true
  worker : client.worker = some worker

/-- **A pass over a link does what is due.**  It looks at the timers before it reads, at
the time that the clock then says. -/
theorem Stepping.serves {worker : Worker} {c : Nat} (passes : client.Passes worker)
    (up : client.session.connection = some c) (h : Stepping client .proceed es next) :
    Worker.Serves c client.session next.session := by
  cases h with
  | ended stopped => exact nomatch passes.running.symm.trans stopped
  | idle hnone => exact nomatch passes.worker.symm.trans hnone
  | moved hworker _ hmove =>
    cases passes.worker.symm.trans hworker
    cases hmove with
    | received hphase => rcases passes.phase with hready | hready <;> cases hready.symm.trans hphase
    | woke hphase => rcases passes.phase with hready | hready <;> cases hready.symm.trans hphase
    | dispatched _ hmore => exact absurd passes.idle hmore
    | passed _ _ hpassing =>
      cases hpassing with
      | linked _ hservice => exact hservice.serves up
      | reconnected hdown => exact nomatch up.symm.trans hdown
      | postponed hdown => exact nomatch up.symm.trans hdown

variable [Environment ω]

/-- What a client makes of its keep-alive interval. -/
structure KeepsAlive (seconds : UInt16) (client : Client ω) : Prop where
  /-- Every ping, and every link given up for a missing answer, was due by what its own
  connection showed. -/
  duly : Duly seconds client.session.world.history
  /-- Between two pings over a connection, an answer that came over it was acted on. -/
  answered : ∀ later second c again result' middle first ping result earlier,
    client.session.world.history = later ++ ⟨second, .write c again result'⟩ ::
        (middle ++ ⟨first, .write c ping result⟩ :: earlier) →
      kindOf? ping = some .pingReq → kindOf? again = some .pingReq →
        ∃ time bytes, ⟨time, .frame c bytes⟩ ∈ middle ∧ Inbound.decode bytes = .ok .pingResp
  /-- What the timers call for is what the link does, and nothing of an earlier one. -/
  timers : ∀ c, client.session.connection = some c →
    ∃ since, heard c client.session.world.history = some since ∧
      ∀ now, client.session.keepAlive.due now =
        callsFor seconds since (unanswered c client.session.world.history) now
  /-- That is done by the next pass: a ping goes out, or the link is given up. -/
  serves : ∀ worker c, client.Passes worker → client.session.connection = some c →
    Worker.Serves c client.session (client.step .proceed).session

/-- What holds of a client whose session is attentive. -/
theorem keepsAlive_of_attentive (h : client.session.Attentive seconds) :
    client.KeepsAlive seconds where
  duly := h.duly
  answered later second c again result' middle first ping result earlier hsplit hping hagain := by
    obtain ⟨-, hnone, -⟩ := h.duly.pings later second c again result' _ hsplit hagain
    have hout : (Event.write c ping result).isPing c = true := by simp [Event.isPing, hping]
    obtain ⟨⟨time, event⟩, hmem, hpong⟩ := exists_pong hout hnone
    cases event with
    | frame d bytes =>
      obtain ⟨rfl, hanswer⟩ : d = c ∧ isPingResp bytes = true := by simpa [Event.isPong] using hpong
      exact ⟨time, bytes, hmem, isPingResp_iff.1 hanswer⟩
    | _ => cases hpong
  timers _ up := h.due up
  serves worker c passes up := by
    obtain ⟨es, hes⟩ := stepping_step client .proceed
    exact hes.serves passes up

/-- **Pings go out, and links are given up, when they are due and not before.**  In every run,
whatever calls are made, by the program or by the handler, and however the clock goes on. -/
theorem pinged_run (connector : Connector) (settings : Settings) (environment : ω)
    (clock : UInt32) (moves : List (Move ω)) :
    ((start connector settings environment clock).run moves).KeepsAlive settings.keepAlive := by
  have keep : ∀ {client next : Client ω} {move : Move ω} {es : List Event},
      client.Sound ∧ client.engine.Minds settings.keepAlive client.session →
        Stepping client move es next →
          next.Sound ∧ next.engine.Minds settings.keepAlive next.session := by
    rintro client next move es ⟨hs, minds⟩ hstep
    exact ⟨hstep.sound hs, hstep.minds hs minds⟩
  have hstart : (start connector settings environment clock).engine.Minds settings.keepAlive
      (start connector settings environment clock).session :=
    ⟨⟨rfl, rfl, nofun, nofun, .nil⟩, absurd rfl⟩
  exact keepsAlive_of_attentive (run_preserves keep moves ⟨sound_start .., hstart⟩).2.attentive

/-- At an interval of a minute, a link that is silent after its handshake is pinged half a
minute later. -/
example :
    let silent : Script := { attempts := [some [⟨0, some [0x20, 0x02, 0x00, 0x00]⟩]] }
    let out : UInt32 → Option UInt32 := fun ms =>
      let moves : List (Move Script) := [.call .connect, .wait ms, .proceed]
      unanswered 1 ((start .plain default silent 0).run moves).session.world.history
    out 29999 = none ∧ out 30000 = some 30000 := by
  decide +kernel

end Client

end Mqtt
