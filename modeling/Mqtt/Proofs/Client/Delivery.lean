/-
# Acknowledged first, then delivered

Every message that a client acts on is treated as its level and its link ask for
(`Treated`), and nothing else is handed to the handler.  Calls can be made at any time in
between, by the program or by the handler.  None of them takes a frame, hands over a
message or acknowledges one, so the invariant `Worker.Treats` is kept by whatever a client
does (`Stepping.treats`), and a link that was lost with a message unacknowledged stays
`Spent`: nothing that came over it is ever acted on.
-/
import Mqtt.Proofs.Client.Remainder
import Mqtt.Proofs.Client.Treatment

namespace Mqtt

namespace Worker

variable {ω : Type} {worker next : Worker} {s t : Session ω} {es : List Event} {c : Nat}

/-- Nothing is held of what came over the connection, and nothing more will come. -/
structure Spent (c : Nat) (worker : Worker) (s : Session ω) : Prop where
  known : c ≤ s.world.opened
  /-- The connection is not the link, and a number is not used again. -/
  closed : s.connection ≠ some c
  held : worker.origin.connection = c → worker.held = []

/-- What became of a frame that came over a connection: a message is treated as it should
be, and nothing is handed to the handler for another packet. -/
structure Met (worker : Worker) (s : Session ω) (c : Nat) (bytes : List UInt8)
    (before after : List Event) : Prop where
  /-- A message went one of the ways of `Treated`. -/
  message : ∀ message, Inbound.decode bytes = .ok (.publish message) →
    Treated c message before (stint after) (handed after worker.errand)
      (framesOf c after = [] ∧ worker.Spent c s)
  /-- Nothing is handed over on account of another packet. -/
  other : (∀ message, Inbound.decode bytes ≠ .ok (.publish message)) →
    handed after worker.errand = []

/-- Every frame that was taken was met, and nothing was handed over before the first. -/
structure Treats (worker : Worker) (s : Session ω) : Prop where
  lead : handed s.world.events worker.errand = []
  frames : ∀ before c bytes after, s.world.events = before ++ .frame c bytes :: after →
    worker.Met s c bytes before after

/-- Before a frame is taken, the handler is handed what it was to be handed, and nothing
is acknowledged. -/
structure Leads (worker : Worker) (es : List Event) (next : Worker) : Prop where
  /-- What was waiting to be handed over is handed over or still waiting. -/
  handed : handed es next.errand = worker.errand.message?.toList
  /-- No PUBACK goes out before the next frame is taken. -/
  unacknowledged : Without Event.isAck (stint es)

/-- What neither takes frames nor hands messages over leads a worker to one that is about
to hand over the same message. -/
theorem leads_of_quiet (quiet : Without Event.isAct es) (unacknowledged : Without Event.isAck es)
    (same : next.errand.message? = worker.errand.message?) : worker.Leads es next where
  handed := by rw [handed_of_quiet quiet, same]
  unacknowledged := unacknowledged.start (List.takeWhile_prefix _)

/-- What became of a frame stays so when more is done: its turn goes on until the next
frame is taken, and what was discarded stays discarded. -/
theorem Met.extend {bytes : List UInt8} {before after : List Event}
    (h : worker.Met s c bytes before after) (leads : worker.Leads es next)
    (spent : worker.Spent c s → next.Spent c t ∧ framesOf c es = []) :
    next.Met t c bytes before (after ++ es) where
  message message decoded := by
    obtain ⟨more, hstint, hfirst⟩ := stint_append after es
    rw [hstint, handed_append leads.handed]
    refine (h.message message decoded).extend (leads.unacknowledged.start hfirst) ?_
    rintro ⟨hnone, hspent⟩
    exact ⟨by rw [framesOf_append, hnone, (spent hspent).2, List.append_nil], (spent hspent).1⟩
  other decoded := by
    rw [handed_append leads.handed]
    exact h.other decoded

/-- **What is done next leaves the frames taken so far met**, if it meets its own. -/
theorem Treats.extend (h : worker.Treats s) (ran : s.world.Ran es t.world)
    (leads : worker.Leads es next)
    (spent : ∀ c, worker.Spent c s → next.Spent c t ∧ framesOf c es = [])
    (met : ∀ before c bytes after, es = before ++ .frame c bytes :: after →
      next.Met t c bytes (s.world.events ++ before) after) : next.Treats t where
  lead := by
    rw [ran.events, handed_append leads.handed]
    exact h.lead
  frames before c bytes after hsplit := by
    -- The frame was taken before or is among those taken now.
    rw [ran.events] at hsplit
    rcases append_eq_append_cons hsplit with ⟨rest, hold, rfl⟩ | ⟨rest, rfl, hnew⟩
    · exact (h.frames before c bytes rest hold).extend leads (spent c)
    · exact met rest c bytes after hnew

/-- What a worker makes of a message that it acts on. -/
theorem Handling.treated {origin : Origin} {frame : List UInt8} {r : Except Fault Errand}
    {message : Publish} (decoded : Inbound.decode frame = .ok (.publish message))
    (follows : s.Follows origin) (counted : s.Counted) (booked : s.Booked)
    (goes : ∀ errand, r = .ok errand → next.errand = errand)
    (fails : ∀ fault, r = .error fault → next.errand = .giveUp fault ∧ next.held = [])
    (h : Handling origin frame s r es t) :
    ∃ turn, es = .frame origin.connection frame :: turn ∧
      Treated origin.connection message s.world.events turn (handed turn next.errand)
        (next.Spent origin.connection t) := by
  have hlevel := Inbound.packetId_of_decode decoded
  have hpath : Session.Path (Session.Doing.isWork true ·) s es t := h.path
  have hknown : origin.connection ≤ t.world.opened := Nat.le_trans follows.opened hpath.ran.opened_le
  -- What a failure leaves to hand over, and of the link that its bytes came over.
  have gaveUp : ∀ {fault : Fault} {turn : List Event}, r = .error fault →
      t.connection = none → Without Event.isAct turn →
        handed turn next.errand = [] ∧ next.Spent origin.connection t := by
    intro fault turn hr hdown hturn
    obtain ⟨herrand, hheld⟩ := fails fault hr
    refine ⟨?_, hknown, by simp [hdown], fun _ => hheld⟩
    rw [handed_of_quiet hturn, herrand]
    rfl
  -- Only a PUBLISH is left.  Whether it asks for a PUBACK, and whether the link it came
  -- over is still up, decide which way of `Treated` it goes.
  cases h with
  | undecodable hbad => exact nomatch decoded.symm.trans hbad
  | ponged hpong => exact nomatch decoded.symm.trans hpong
  | stalePong hpong => exact nomatch decoded.symm.trans hpong
  | remarked hpacket hremark =>
    cases decoded.symm.trans hpacket
    exact absurd rfl (hremark.2 message)
  | acknowledged hpacket hid hcurrent hframe hsent hdid =>
    cases decoded.symm.trans hpacket
    have hasked : message.qos = .atLeastOnce := hlevel.1 (by rw [hid]; rfl)
    cases hsent with
    | sent hpack up hes =>
      rw [hframe.connection] at up
      cases hes with
      | sent =>
        refine ⟨_, rfl, follows.treated_of_up counted booked hasked hid hcurrent up
          (.inl ⟨.sent hpack (.singleton rfl), ?_⟩)⟩
        rw [goes _ rfl]
        rfl
  | @unacknowledged _ id _ _ _ _ hpacket hid hcurrent hframe hsent =>
    cases decoded.symm.trans hpacket
    have hasked : message.qos = .atLeastOnce := hlevel.1 (by rw [hid]; rfl)
    cases hsent with
    | unpackable hpack => exact nomatch (Outbound.pack_pubAck (by decide) id).symm.trans hpack
    | notConnected down =>
      obtain ⟨hnothing, hspent⟩ := gaveUp rfl down .nil
      rw [hframe.connection] at down
      exact ⟨_, rfl, follows.treated_of_down counted booked hasked hcurrent down .nil hnothing
        hspent⟩
    | failed hpack up hes hfs hdid =>
      obtain ⟨hnothing, hspent⟩ :=
        gaveUp rfl hdid.connection (hes.concern.append hfs.concern).unacted
      rw [hframe.connection] at up
      refine ⟨_, rfl, follows.treated_of_up counted booked hasked hid hcurrent up
        (.inr ⟨?_, hnothing, hspent⟩)⟩
      rw [← List.append_nil (_ ++ _)]
      exact .unsent hpack hes hfs .nil
  -- Nothing was acknowledged: the message does not ask for it, or its link was replaced.
  | published hpacket hquiet =>
    cases decoded.symm.trans hpacket
    refine ⟨_, rfl, follows.treated_of_apart counted booked (fun hasked hsame => ?_)
      (.singleton rfl) ?_⟩
    · rcases hquiet with hnone | hother
      · rw [← hlevel, hnone] at hasked
        cases hasked
      · exact hother hsame
    · rw [goes _ rfl]
      rfl

/-- **A frame that is acted on is met.**  The case of a message is `Handling.treated`;
any other packet leaves nothing to hand over. -/
theorem Handling.met {origin : Origin} {frame : List UInt8} {r : Except Fault Errand}
    (follows : s.Follows origin) (counted : s.Counted) (booked : s.Booked)
    (goes : ∀ errand, r = .ok errand → next.errand = errand)
    (fails : ∀ fault, r = .error fault → next.errand = .giveUp fault ∧ next.held = [])
    (h : Handling origin frame s r es t) :
    ∃ turn, es = .frame origin.connection frame :: turn ∧ Without Event.isFrame turn ∧
      next.Met t origin.connection frame s.world.events turn := by
  obtain ⟨u, turn, rfl, -, hpath⟩ := h.begun
  have hturn := hpath.frameless
  -- The frame's turn is all that follows it, for no other frame is taken in it.
  refine ⟨turn, rfl, hturn, fun message decoded => ?_, fun other => ?_⟩
  · obtain ⟨rest, heq, htreated⟩ := h.treated decoded follows counted booked goes fails
    obtain rfl := (List.cons.inj heq).2
    rw [stint_of_unframed hturn]
    exact htreated.mono fun hspent => ⟨hturn.framesOf _, hspent⟩
  · cases h with
    | undecodable =>
      rw [(fails _ rfl).1]
      rfl
    | ponged =>
      rw [goes _ rfl]
      rfl
    | stalePong =>
      rw [goes _ rfl]
      rfl
    | acknowledged decoded => exact absurd decoded (other _)
    | unacknowledged decoded => exact absurd decoded (other _)
    | published decoded => exact absurd decoded (other _)
    | remarked =>
      rw [goes _ rfl]
      rfl

/-! ### What keeps frames met -/

/-- A connection that was left is never used again. -/
theorem Spent.path {allowed : Session.Doing → Prop} (h : worker.Spent c s)
    (hpath : Session.Path allowed s es t)
    (held : next.origin.connection = c → next.held = []) : next.Spent c t where
  known := Nat.le_trans h.known hpath.ran.opened_le
  closed := (hpath.parted h.known h.closed).2
  held := held

/-- What takes no frame leaves them met, if the worker has the same message to hand over. -/
theorem Treats.quiet {allowed : Session.Doing → Prop} (h : worker.Treats s)
    (hpath : Session.Path allowed s es t) (quiet : Without Event.isAct es)
    (unacknowledged : Without Event.isAck es)
    (same : next.errand.message? = worker.errand.message?)
    (held : ∀ c, worker.Spent c s → next.origin.connection = c → next.held = []) :
    next.Treats t := by
  have hframes := quiet.unframed
  refine h.extend hpath.ran (leads_of_quiet quiet unacknowledged same)
    (fun c hspent => ⟨hspent.path hpath (held c hspent), hframes.framesOf c⟩) ?_
  rintro before c bytes after rfl
  exact nomatch hframes (.frame c bytes) (List.mem_append_right _ List.mem_cons_self)

/-- What is done outside of a dispatch treats no message in another way, if it leaves the
worker what it has to do. -/
theorem Treats.alike (h : worker.Treats s) (hpath : Session.Path (Session.Doing.isOutside ·) s es t)
    (alike : worker.Alike next) : next.Treats t :=
  h.quiet hpath hpath.unacted hpath.unacknowledged (by rw [alike.errand]) fun c hspent horigin => by
    rw [alike.held]
    exact hspent.held (alike.origin ▸ horigin)

/-- A new worker takes over when nothing is left to dispatch. -/
theorem Treats.new (h : worker.Treats s) (idle : worker.errand = .pass) :
    ({} : Worker).Treats s := by
  have hpath : Session.Path (fun _ => True) s [] s := .refl s
  exact h.quiet hpath .nil .nil (by rw [idle]) fun _ _ _ => rfl

/-- A dispatch takes nothing from a connection of which nothing is held. -/
theorem Carries.spent {allowed : Session.Doing → Prop} (h : worker.Carries es next)
    (hpath : Session.Path allowed s es t) (hspent : worker.Spent c s) :
    next.Spent c t ∧ framesOf c es = [] := by
  obtain ⟨left, htakes, hleaves⟩ := h.takes
  -- No frame is cut from no bytes.
  have nothing : worker.origin.connection = c → framesOf c es = [] ∧ left = [] := by
    rintro rfl
    have hcuts := htakes.cuts
    rw [hspent.held rfl] at hcuts
    exact hcuts.of_nil
  refine ⟨hspent.path hpath fun horigin => ?_, ?_⟩
  · rcases hleaves with hheld | ⟨hheld, -⟩
    · refine Decidable.byContradiction fun hmore => hmore ?_
      have hsame := h.origin (.inl hmore)
      rw [hheld]
      exact (nothing (hsame ▸ horigin)).2
    · exact hheld
  · by_cases horigin : worker.origin.connection = c
    · exact (nothing horigin).1
    · exact htakes.others c (Ne.symm horigin)

/-- **Cutting a frame meets it as its packet asks for**: a message is acknowledged if its
link is up, and then about to be handed over, or given up with the link. -/
theorem Cutting.meets (track : worker.Tracked s) (booked : s.Booked) (cut : worker.errand = .cut)
    (h : Cutting worker s next es t) : worker.Leads es next ∧
      ∀ before c bytes after, es = before ++ .frame c bytes :: after →
        next.Met t c bytes (s.world.events ++ before) after := by
  have follows : s.Follows worker.origin := track.follows (.inr (by simp [cut]))
  have quiet : ∀ {es : List Event}, Without Event.isAct es → Without Event.isAck es →
      next.errand.message? = none → worker.Leads es next ∧
        ∀ before c bytes after, es = before ++ .frame c bytes :: after →
          next.Met t c bytes (s.world.events ++ before) after := by
    intro es hact hack hnone
    refine ⟨leads_of_quiet hact hack (by rw [hnone, cut]; rfl), ?_⟩
    rintro before c bytes after rfl
    exact nomatch hact (.frame c bytes) (List.mem_append_right _ List.mem_cons_self)
  -- The frame begins what is done, so nothing leads on before it.
  have taken : ∀ {frame : List UInt8} {r : Except Fault Errand},
      (∀ errand, r = .ok errand → next.errand = errand) →
        (∀ fault, r = .error fault → next.errand = .giveUp fault ∧ next.held = []) →
          Handling worker.origin frame s r es t → worker.Leads es next ∧
            ∀ before c bytes after, es = before ++ .frame c bytes :: after →
              next.Met t c bytes (s.world.events ++ before) after := by
    intro frame r goes fails hhandling
    obtain ⟨turn, rfl, hturn, hmet⟩ := hhandling.met follows track.counted booked goes fails
    refine ⟨⟨by rw [cut]; rfl, .nil⟩, fun before c bytes after hsplit => ?_⟩
    have honly : [] ++ .frame worker.origin.connection frame :: turn =
        before ++ .frame c bytes :: after := hsplit
    obtain ⟨rfl, rfl⟩ := split_unique Event.isFrame .nil hturn rfl honly
    cases hsplit
    rw [List.append_nil]
    exact hmet
  cases h with
  | unfinished => exact quiet .nil .nil rfl
  | broken => exact quiet .nil .nil rfl
  | oversized => exact quiet (.singleton rfl) (.singleton rfl) rfl
  | handled _ hhandling =>
    refine taken (fun errand hok => ?_) (fun fault hbad => ?_) hhandling
    · cases hok
      rfl
    · cases hbad
  | failed _ hhandling =>
    refine taken (fun errand hok => ?_) (fun fault hbad => ?_) hhandling
    · cases hok
    · cases hbad
      exact ⟨rfl, rfl⟩

/-- **A step of a dispatch leaves every frame met.**  A cut meets the frame it takes, a
delivery hands over the message of the frame before, and giving up leaves a connection
that is spent. -/
theorem Dispatching.treats {running : Bool} (h : worker.Treats s) (track : worker.Tracked s)
    (booked : s.Booked) (hdispatch : Dispatching running worker s next es t) : next.Treats t := by
  have hpath := hdispatch.path
  have hcarries := hdispatch.carries
  cases hdispatch with
  | cut herrand hcut =>
    obtain ⟨hleads, hmeets⟩ := hcut.meets track booked herrand
    exact h.extend hpath.ran hleads (fun c => hcarries.spent hpath) hmeets
  | @delivered topic payload reaction es _ _ herrand _ hcalls =>
    have hquiet : Without Event.isAct es := hcalls.path.outside.unacted
    have hack : Without Event.isAck es := hcalls.path.outside.unacknowledged
    refine h.extend hpath.ran ⟨?_, ?_⟩ (fun c => hcarries.spent hpath) ?_
    · rw [handed, herrand, handed_of_quiet hquiet]
      rfl
    · exact (Without.cons rfl hack).start (List.takeWhile_prefix _)
    · intro before c bytes after hsplit
      have hframes : Without Event.isFrame (.message topic payload :: es) := .cons rfl hquiet.unframed
      rw [hsplit] at hframes
      cases hframes (.frame c bytes) (List.mem_append_right _ List.mem_cons_self)
  | gaveUp herrand _ hdid hdrop =>
    have hquiet := hdrop.outside.unacted
    have hack := hdrop.outside.unacknowledged
    exact h.quiet hpath (.cons rfl hquiet) (.cons rfl hack) (by rw [herrand]; rfl)
      fun c hspent => hspent.held
  | stale herrand =>
    exact h.quiet hpath (.singleton rfl) (.singleton rfl) (by rw [herrand]; rfl)
      fun c hspent => hspent.held

/-- So does a worker that ends, and it leaves nothing to hand over. -/
theorem Finishing.treats (h : worker.Treats s) (track : worker.Tracked s) (booked : s.Booked)
    (hfinish : Finishing worker s es t) : ({} : Worker).Treats t := by
  induction hfinish with
  | done idle => exact h.new idle
  | step hmore hdispatch _ ih =>
    have hpath := hdispatch.path
    exact ih (hdispatch.treats h track booked)
      (track.path hpath fun _ => ⟨.inr hmore, hdispatch.origin⟩) (hpath.booked booked)

/-- A move of the worker treats the messages that it comes to. -/
theorem Moving.treats (h : worker.Treats s) (track : worker.Tracked s) (booked : s.Booked)
    (receiving : worker.phase = .receiving → worker.errand = .pass)
    (hmove : Moving true worker s next es t) : next.Treats t := by
  have hpath := hmove.path
  cases hmove with
  | received hphase htaking =>
    have hidle := receiving hphase
    have hquiet : Without Event.isAct es :=
      htaking.without (fun _ _ _ _ => rfl) (fun _ => rfl) Session.Path.unacted
    have hack : Without Event.isAck es :=
      htaking.without (fun _ _ _ _ => rfl) (fun _ => rfl) Session.Path.unacknowledged
    cases htaking with
    | nothing => exact h.quiet hpath hquiet hack rfl fun c hspent => hspent.held
    | failed => exact h.quiet hpath hquiet hack rfl fun c hspent => hspent.held
    | taken _ hread =>
      cases hread with
      | received chunk up =>
        refine h.quiet hpath hquiet hack (by rw [hidle]; rfl) fun c hspent horigin => ?_
        refine absurd (up.trans (congrArg some ?_)) hspent.closed
        rw [← horigin, up, Option.getD_some]
  | woke _ hpause => exact h.alike hpause.outside ⟨rfl, rfl, rfl⟩
  | passed _ hidle hpassing =>
    have hout := hpassing.outside
    refine h.quiet hpath hout.unacted hout.unacknowledged (by rw [hpassing.idle hidle, hidle])
      fun c hspent horigin => Decidable.byContradiction fun hmore => ?_
    obtain ⟨hheld | herrand, hsame⟩ := hpassing.busy hidle (.inl hmore)
    · exact hheld (hspent.held (hsame ▸ horigin))
    · exact herrand hidle
  | dispatched _ _ hdispatch => exact hdispatch.treats h track booked

end Worker

namespace Client

variable {ω : Type} {client next : Client ω} {move : Move ω} {es : List Event}

/-- A worker that ends treats the messages that are left to it on the way. -/
theorem Ending.treats {worker : Option Worker} {s t : Session ω}
    (treats : (worker.getD {}).Treats s) (track : (worker.getD {}).Tracked s)
    (booked : s.Booked) (h : Ending worker s es t) : ({} : Worker).Treats t := by
  cases h with
  | none => exact treats
  | some hfinish => exact hfinish.treats treats track booked

/-- **Every move leaves the frames met that were taken.**  What the program does in
between takes no frame and leaves the worker its errand. -/
theorem Stepping.treats (hs : client.Sound) (booked : client.session.Booked)
    (treats : client.engine.Treats client.session) (h : Stepping client move es next) :
    next.engine.Treats next.session := by
  -- Frames are taken where the worker moves and where it is joined; elsewhere the
  -- worker stays as it is.
  by_cases hproceed : move = .proceed
  · subst hproceed
    cases h with
    | moved hworker _ hmove =>
      have htrack := hs.tracked
      rw [engine_of_worker hworker] at treats htrack
      exact hmove.treats treats htrack booked fun hphase => (hs.receiving _ hworker hphase).1
    | ended hrun hend =>
      rw [hs.stopped hrun] at hend
      rw [engine_of_none (hs.stopped hrun)] at treats
      cases hend with
      | none => exact treats
    | idle => exact treats
  · by_cases hdisconnect : move = .disconnect
    · subst hdisconnect
      cases h with
      | disconnected hleave =>
        cases hleave with
        | alone hleave => exact treats.alike hleave.outside ⟨rfl, rfl, rfl⟩
        | joined hleave _ hend hdid =>
          have hout := hleave.outside
          have htrack := hs.tracked.path hout fun hbusy => ⟨hbusy, rfl⟩
          have hended := hend.treats (treats.alike hout ⟨rfl, rfl, rfl⟩) htrack (hout.booked booked)
          exact hended.alike (outside_told_two rfl rfl rfl rfl hdid) ⟨rfl, rfl, rfl⟩
    · obtain ⟨hpath, halike⟩ := h.outside hs hproceed hdisconnect
      exact treats.alike hpath halike

variable [Environment ω]

end Client

end Mqtt
