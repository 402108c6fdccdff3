/-
# Links are kept apart

While a worker acts on what it read, calls can replace the link under it.  Nothing
gets across: an acknowledgement is written to the connection its message came over,
the answer to a ping and a broken frame do nothing to a newer link, and bytes of two
connections never meet in the buffer (`isolated_run`).

The number of a link is all that a worker compares, so this holds as long as the
numbers have not come round between a read and what is done about it (`Timely`).
The invariants are `Worker.Tracked`, which needs no such condition, and
`Worker.Flow` and `Answered`, which do.
-/
import Mqtt.Proofs.Client.Sound
import Mqtt.Script
import Mqtt.Proofs.Session.Acknowledgement

namespace Mqtt
namespace Worker

variable {ω : Type}

/-- The worker acts on a frame, or gives up its link: it does not call the handler. -/
def IsActing (worker : Worker) : Prop :=
  worker.errand = .cut ∨ worker.GivesUp

/-- **Acting on a frame puts acknowledgements in their place.**  It needs that a session
whose link has the number known with the bytes is still on their connection; a session
with any other number is not written to. -/
theorem Handling.answered {origin : Origin} {frame : List UInt8} {s t : Session ω}
    {r : Except Fault Errand} {es : List Event}
    (current : s.link = origin.link → ∀ c, s.connection = some c → c = origin.connection)
    (h : Handling origin frame s r es t) : Answered es := by
  have told : ∀ {n : Notice}, Answered [.frame origin.connection frame, .notice n] :=
    answered_of_without (by simp [Without, Event.isAck])
  cases h with
  | undecodable => exact answered_of_without (.singleton rfl)
  | ponged => exact told
  | stalePong => exact told
  | acknowledged hdecode hid hlink hframe hsent =>
    cases hsent with
    | sent hpack up hes =>
      obtain ⟨result, rest, rfl, hrest⟩ := hes.eq_cons
      rw [current hlink _ (hframe.connection.symm.trans up)]
      exact .acknowledged hdecode hid hpack
        (((hrest .disconnect).unacknowledged (by decide)).append (.singleton rfl))
  | unacknowledged hdecode hid hlink hframe hsent =>
    cases hsent with
    | unpackable => exact answered_of_without (.singleton rfl)
    | notConnected => exact answered_of_without (.singleton rfl)
    | failed hpack up hes hfs =>
      obtain ⟨result, rest, rfl, hrest⟩ := hes.eq_cons
      rw [current hlink _ (hframe.connection.symm.trans up)]
      exact .acknowledged hdecode hid hpack
        (((hrest .disconnect).append (hfs.transfers _)).unacknowledged (by decide))
  | published => exact told
  | remarked => exact told

/-- Cutting a frame off the bytes held, and acting on it, puts acknowledgements in their
place. -/
theorem Cutting.answered {worker next : Worker} {s t : Session ω} {es : List Event}
    (current : s.link = worker.origin.link →
      ∀ c, s.connection = some c → c = worker.origin.connection)
    (h : Cutting worker s next es t) : Answered es := by
  cases h with
  | unfinished => exact answered_of_without .nil
  | broken => exact answered_of_without .nil
  | oversized => exact answered_of_without (.singleton rfl)
  | handled _ hhandling => exact hhandling.answered current
  | failed _ hhandling => exact hhandling.answered current

/-- A step of a dispatch puts its acknowledgement right after the frame it answers, on the
connection that frame came over. -/
theorem Dispatching.answered {running : Bool} {worker next : Worker} {s t : Session ω}
    {es : List Event}
    (current : s.link = worker.origin.link →
      ∀ c, s.connection = some c → c = worker.origin.connection)
    (h : Dispatching running worker s next es t) : Answered es := by
  have outside : ∀ {s t : Session ω} {es : List Event},
      Session.Path (Session.Doing.isCall running ·) s es t → Without Event.isAck es := fun hpath =>
    hpath.outside.unacknowledged
  cases h with
  | cut _ hcut => exact hcut.answered current
  | delivered _ _ hcalls => exact answered_of_without (.cons rfl (outside hcalls.path))
  | gaveUp _ _ _ hdrop => exact answered_of_without (.cons rfl (outside hdrop.path))
  | stale => exact answered_of_without (.singleton rfl)

/-- A move of the worker puts acknowledgements in their place, as long as numbers tell
links apart. -/
theorem Moving.answered {worker next : Worker} {s t : Session ω} {es : List Event}
    (track : worker.Tracked s) (prompt : worker.Prompt s)
    (h : Moving true worker s next es t) : Answered es := by
  cases h with
  | received _ htaking =>
    exact answered_of_without
      (htaking.without (fun _ _ _ _ => rfl) (fun _ => rfl) Session.Path.unacknowledged)
  | woke _ hpause => exact answered_of_without hpause.outside.unacknowledged
  | passed _ _ hpassing => exact answered_of_without hpassing.outside.unacknowledged
  | dispatched _ hmore hdispatch =>
    exact hdispatch.answered fun hlink c up => track.current prompt (.inr hmore) hlink up

/-- A worker that does not call the handler opens no link. -/
theorem Dispatching.acting {running : Bool} {worker next : Worker} {s t : Session ω}
    {es : List Event} (acting : worker.IsActing) (h : Dispatching running worker s next es t) :
    Session.Path (Session.Doing.isWork false ·) s es t := by
  cases h with
  | cut _ hcut => exact hcut.path
  | delivered herrand =>
    rcases acting with hcut | ⟨fault, hgives⟩
    · exact nomatch herrand.symm.trans hcut
    · exact nomatch herrand.symm.trans hgives
  | gaveUp _ _ hdid hdrop => exact path_of_isCall ((hdid.told rfl rfl).trans hdrop.path)
  | stale _ _ hdid => exact path_of_isCall (hdid.told rfl rfl)

/-- A frame of a link that another one has replaced is only told of. -/
theorem Handling.stale {origin : Origin} {frame : List UInt8} {s t : Session ω}
    {r : Except Fault Errand} {es : List Event} (old : s.link ≠ origin.link)
    (h : Handling origin frame s r es t) : s.Did es t ∧ ∀ c, conversation c es = [] := by
  cases h with
  | undecodable _ hdid => exact ⟨hdid, fun _ => rfl⟩
  | ponged _ hlink => exact absurd hlink old
  | stalePong _ _ hdid => exact ⟨hdid, fun _ => rfl⟩
  | acknowledged _ _ hlink => exact absurd hlink old
  | unacknowledged _ _ hlink => exact absurd hlink old
  | published _ _ hdid => exact ⟨hdid, fun _ => rfl⟩
  | remarked _ _ hdid => exact ⟨hdid, fun _ => rfl⟩

/-- **What came over an older link changes nothing of the session.**  The number it came
under is compared before each thing that is done about it. -/
theorem Dispatching.stale_did {running : Bool} {worker next : Worker} {s t : Session ω}
    {es : List Event} (acting : worker.IsActing) (old : s.link ≠ worker.origin.link)
    (h : Dispatching running worker s next es t) : s.Did es t ∧ ∀ c, conversation c es = [] := by
  cases h with
  | cut _ hcut =>
    cases hcut with
    | unfinished => exact ⟨.refl _, fun _ => rfl⟩
    | broken => exact ⟨.refl _, fun _ => rfl⟩
    | oversized _ hdid => exact ⟨hdid, fun _ => rfl⟩
    | handled _ hhandling => exact hhandling.stale old
    | failed _ hhandling => exact hhandling.stale old
  | delivered herrand =>
    rcases acting with hcut | ⟨fault, hgives⟩
    · exact nomatch herrand.symm.trans hcut
    · exact nomatch herrand.symm.trans hgives
  | gaveUp _ hlink => exact absurd hlink old
  | stale _ _ hdid => exact ⟨hdid, fun _ => rfl⟩

/-- A worker that acts moves by a step of its dispatch, unless it slept. -/
theorem Moving.acting {running : Bool} {worker next : Worker} {s t : Session ω} {es : List Event}
    (acting : worker.IsActing)
    (receiving : worker.phase = .receiving → worker.errand = .pass)
    (h : Moving running worker s next es t) :
    Dispatching running worker s next es t ∨ s.Did es t ∧ ∀ c, conversation c es = [] := by
  have hmore : worker.errand ≠ .pass := by
    rintro hidle
    rcases acting with hcut | ⟨fault, hgives⟩
    · exact nomatch hidle.symm.trans hcut
    · exact nomatch hidle.symm.trans hgives
  cases h with
  | received hphase => exact absurd (receiving hphase) hmore
  | woke _ hpause =>
    cases hpause with
    | ended => exact .inr ⟨.refl _, fun _ => rfl⟩
    | slice _ _ _ hdid => exact .inr ⟨hdid, fun _ => rfl⟩
  | passed _ hidle => exact absurd hidle hmore
  | dispatched _ _ hdispatch => exact .inl hdispatch

/-- **Acting on a frame touches no connection but the one it came over**, and no link
over another.  The two are the same while the numbers agree, and where they do not,
nothing is written. -/
theorem Moving.others {running : Bool} {worker next : Worker} {s t : Session ω} {es : List Event}
    {c : Nat} (acting : worker.IsActing)
    (receiving : worker.phase = .receiving → worker.errand = .pass) (track : worker.Tracked s)
    (prompt : worker.Prompt s) (apart : c ≠ worker.origin.connection)
    (h : Moving running worker s next es t) :
    conversation c es = [] ∧ (s.connection = some c → t.connection = some c) := by
  rcases h.acting acting receiving with hdispatch | ⟨hdid, hquiet⟩
  · have hbusy : worker.IsBusy := by
      rcases acting with hcut | ⟨fault, hgives⟩
      · exact .inr (by simp [hcut])
      · exact .inr (by simp [hgives])
    by_cases hlink : s.link = worker.origin.link
    · have hother : s.connection ≠ some c := fun up =>
        apart (track.current prompt hbusy hlink up)
      exact ⟨((hdispatch.acting acting).others hother).1, fun up => absurd up hother⟩
    · obtain ⟨hdid, hquiet⟩ := hdispatch.stale_did acting hlink
      exact ⟨hquiet c, fun up => hdid.connection.trans up⟩
  · exact ⟨hquiet c, fun up => hdid.connection.trans up⟩

/-- A worker that ends keeps the flow, up to the last one it becomes, which has nothing
left to do. -/
theorem Finishing.flow {worker : Worker} {s t : Session ω} {es : List Event}
    (flow : worker.Flow s) (track : worker.Tracked s) (down : s.connection = none)
    (h : Finishing worker s es t) : ∃ last : Worker, last.errand = .pass ∧ last.Flow t := by
  induction h with
  | done hpass => exact ⟨_, hpass, flow⟩
  | step hmore hdispatch _ ih =>
    have hpath := hdispatch.path
    exact ih (hdispatch.flow flow track)
      (track.path hpath fun _ => ⟨.inr hmore, hdispatch.origin⟩) (hpath.stays_down down)

/-- So it leaves the timers alone, also where it calls the handler of a client that
has stopped running. -/
theorem Dispatching.stale_keepAlive {worker next : Worker} {s t : Session ω} {es : List Event}
    (old : s.link ≠ worker.origin.link) (h : Dispatching false worker s next es t) :
    t.keepAlive = s.keepAlive ∧ t.link = s.link := by
  have hwhole := h
  cases h with
  | cut herrand =>
    obtain ⟨hdid, -⟩ := hwhole.stale_did (.inl herrand) old
    exact ⟨hdid.keepAlive, hdid.link⟩
  | delivered _ hdid hcalls =>
    have hcalled := hcalls.path.keepAlive
    exact ⟨hcalled.1.trans hdid.keepAlive, hcalled.2.trans hdid.link⟩
  | gaveUp _ hlink => exact absurd hlink old
  | stale _ _ hdid => exact ⟨hdid.keepAlive, hdid.link⟩

/-- A worker that ends leaves the timers alone if its bytes came over an older link. -/
theorem Finishing.keepAlive {worker : Worker} {s t : Session ω} {es : List Event}
    (old : worker.errand ≠ .pass → s.link ≠ worker.origin.link) (h : Finishing worker s es t) :
    t.keepAlive = s.keepAlive := by
  induction h with
  | done => rfl
  | step hmore hdispatch _ ih =>
    obtain ⟨hkeep, hlink⟩ := hdispatch.stale_keepAlive (old hmore)
    refine (ih fun _ => ?_).trans hkeep
    rw [hlink, hdispatch.origin]
    exact old hmore

end Worker

namespace Client

variable {ω : Type}

/-- What a client acted on and answered, as long as numbers tell links apart. -/
structure Apart (client : Client ω) : Prop where
  /-- What is acted on of each connection is the beginning of what came over it. -/
  flow : client.engine.Flow client.session
  /-- Each PUBACK went to the connection its message came over. -/
  answered : Answered client.events

/-- Fewer than `2³²` handshakes have succeeded since the bytes were read that the
worker holds, or acts on. -/
def Prompt (client : Client ω) : Prop :=
  client.engine.Prompt client.session

/-- A worker that ends without a link leaves what was acted on in line with what came over
each connection: it dispatches what it holds in order, or forgets it. -/
theorem Ending.flow {worker : Option Worker} {s t : Session ω} {es : List Event}
    (flow : (worker.getD {}).Flow s) (track : (worker.getD {}).Tracked s)
    (down : s.connection = .none) (h : Ending worker s es t) : ({} : Worker).Flow t := by
  have hdown := h.path.stays_down down
  cases h with
  | none => exact flow
  | some hfinish =>
    obtain ⟨last, -, hlast⟩ := hfinish.flow flow track down
    exact hlast.new hdown

/-- Disconnecting keeps the bytes held in line with what came over their connection. -/
theorem Disconnecting.flow {client next : Client ω} {es : List Event} (hs : client.Sound)
    (flow : client.engine.Flow client.session) (h : Disconnecting client es next) :
    next.engine.Flow next.session := by
  cases h with
  | alone hleave =>
    exact flow.inert hs.tracked.tidy (Session.inert_of_isOutside hs.tracked.tidy hleave.outside)
  | joined hleave _ hend hdid =>
    have hpath := hleave.outside
    have htrack := hs.tracked.path hpath fun hbusy => ⟨hbusy, rfl⟩
    have hended := Ending.flow (flow.inert hs.tracked.tidy
      (Session.inert_of_isOutside hs.tracked.tidy hpath)) htrack hleave.down hend
    have htidy := hend.path.tidy htrack.tidy
    exact hended.inert htidy
      (Session.inert_of_isOutside htidy (outside_told_two rfl rfl rfl rfl hdid))

/-- Disconnecting acknowledges nothing, also where the worker still acts on frames: the
link is gone by then. -/
theorem Disconnecting.unacknowledged {client next : Client ω} {es : List Event}
    (h : Disconnecting client es next) : Without Event.isAck es := by
  cases h with
  | alone hleave => exact hleave.outside.unacknowledged
  | joined hleave _ hend hdid =>
    exact (hleave.outside.unacknowledged.append
      (hend.path.unacknowledged_of_down hleave.down)).append
        (outside_told_two rfl rfl rfl rfl hdid).unacknowledged

/-- **A move keeps the bytes held in line with what came over their connection**, as long
as numbers tell links apart when the worker moves. -/
theorem Stepping.flow {client next : Client ω} {move : Move ω} {es : List Event}
    (hs : client.Sound) (flow : client.engine.Flow client.session)
    (prompt : move = .proceed → client.Prompt) (h : Stepping client move es next) :
    next.engine.Flow next.session := by
  have hinterrupted := alike_map Worker.alike_interrupted client.worker
  -- Calls and waits leave what is held as it is and, over a connection that was there
  -- before, read nothing.
  cases h with
  | connected hconnect =>
    have hflow := flow.inert hs.tracked.tidy
      (Session.inert_of_isOutside hs.tracked.tidy hconnect.path)
    cases hconnect with
    | unconnected => exact hflow.alike hinterrupted
    | serviced => exact hflow.alike hinterrupted
    | starting _ hjoin hstart =>
      cases hstart with
      | started =>
        rw [engine_of_none (hs.unjoinable hjoin)] at hflow
        exact hflow
      | failed => exact hflow.alike hinterrupted
  | answered _ hcall =>
    exact (flow.inert hs.tracked.tidy (Session.inert_of_isCall hs.tracked.tidy hcall.path)).alike
      hinterrupted
  | disconnected hdisconnect => exact hdisconnect.flow hs flow
  | moved hworker hrun hmove =>
    have htrack := hs.tracked
    have hprompt := prompt rfl
    rw [Prompt, engine_of_worker hworker] at hprompt
    rw [engine_of_worker hworker] at htrack flow
    exact hmove.flow flow htrack hprompt (hs.receiving _ hworker)
  | ended hrun hend =>
    rw [hs.stopped hrun] at hend
    rw [engine_of_none (hs.stopped hrun)] at flow
    cases hend with
    | none => exact flow
  | idle => exact flow
  | waited ms hdid =>
    have hpath : Session.Path (Session.Doing.isOutside ·) client.session [] _ :=
      .single rfl (.tuned _ hdid)
    exact (flow.inert hs.tracked.tidy (Session.inert_of_isOutside hs.tracked.tidy hpath)).alike
      (alike_map (Worker.alike_rested ms) client.worker)
  | became _ hdid =>
    have hpath : Session.Path (Session.Doing.isOutside ·) client.session [] _ :=
      .single rfl (.tuned _ hdid)
    exact flow.inert hs.tracked.tidy (Session.inert_of_isOutside hs.tracked.tidy hpath)

/-- A move puts acknowledgements in their place, as long as numbers tell links apart when
the worker moves. -/
theorem Stepping.answers {client next : Client ω} {move : Move ω} {es : List Event}
    (hs : client.Sound) (prompt : move = .proceed → client.Prompt)
    (h : Stepping client move es next) : Answered es := by
  cases h with
  | connected hconnect => exact answered_of_without hconnect.path.unacknowledged
  | answered _ hcall => exact answered_of_without hcall.path.outside.unacknowledged
  | disconnected hdisconnect => exact answered_of_without hdisconnect.unacknowledged
  | moved hworker hrun hmove =>
    have htrack := hs.tracked
    have hprompt := prompt rfl
    rw [Prompt, engine_of_worker hworker] at hprompt
    rw [engine_of_worker hworker] at htrack
    exact hmove.answered htrack hprompt
  | ended hrun hend =>
    rw [hs.stopped hrun] at hend
    cases hend with
    | none => exact answered_of_without .nil
  | idle => exact answered_of_without .nil
  | waited => exact answered_of_without .nil
  | became => exact answered_of_without .nil

/-- **Every move that comes in time keeps links apart.**  The flow is kept as said
above; and PUBACKs stay answers, since a worker writes one right after the frame it
answers. -/
theorem Stepping.apart {client next : Client ω} {move : Move ω} {es : List Event}
    (hs : client.Sound) (apart : client.Apart) (prompt : move = .proceed → client.Prompt)
    (h : Stepping client move es next) : next.Apart where
  flow := h.flow hs apart.flow prompt
  answered := by
    rw [h.events]
    exact apart.answered.append (h.answers hs prompt)

/-- A client that has done nothing yet has acted on nothing and answered nothing. -/
theorem apart_start (connector : Connector) (settings : Settings) (environment : ω)
    (clock : UInt32) : (start connector settings environment clock).Apart where
  flow := ⟨Nat.le_refl _, fun _ => List.nil_prefix, List.nil_prefix, fun _ hc => nomatch hc⟩
  answered := answered_of_without .nil

/-- The worker moves: on its own, or because it is to end. -/
def Move.isWork : Move ω → Bool
  | .proceed | .disconnect => true
  | _ => false

/-- A handshake that succeeded since its bytes were read tells a worker that its link
is an older one. -/
theorem Sound.old {client : Client ω} {worker : Worker} (hs : client.Sound)
    (prompt : client.Prompt) (hworker : client.worker = some worker) (busy : worker.IsBusy)
    (newer : sinceRead worker.origin.connection client.events ≠ 0) :
    client.session.link ≠ worker.origin.link := by
  intro hlink
  have htrack := hs.tracked
  rw [Prompt, engine_of_worker hworker] at prompt
  rw [engine_of_worker hworker] at htrack
  exact newer (((htrack.follows busy).link_eq_iff htrack.counted (prompt busy)).1 hlink)

/-- At a read, the bytes held are what came over the link and was not acted on yet. -/
theorem Apart.unmixed {client : Client ω} {worker : Worker} {c : Nat} (apart : client.Apart)
    (hs : client.Sound) (prompt : client.Prompt) (hworker : client.worker = some worker)
    (phase : worker.phase = .receiving) (up : client.session.connection = some c) :
    acted c client.events ++ worker.held = stream c client.events := by
  obtain ⟨hidle, hlink⟩ := hs.receiving worker hworker phase
  have hflow := apart.flow
  have htrack := hs.tracked
  rw [Prompt, engine_of_worker hworker] at prompt
  rw [engine_of_worker hworker] at hflow htrack
  rcases hflow.whole c up with ⟨⟨fault, hgives⟩, -⟩ | hwhole
  · exact nomatch hidle.symm.trans hgives
  · rw [events, ← hwhole]
    by_cases hheld : worker.held = []
    · rw [hheld, ite_self]
    · rw [if_pos (htrack.current prompt (.inl hheld) hlink up).symm]

/-- **A worker that acts on bytes of one connection leaves all others alone.**  Nothing is
done to them, and if one of them is the link's it stays so. -/
theorem Stepping.others {client next : Client ω} {es : List Event} {worker : Worker} {c : Nat}
    (hs : client.Sound) (prompt : client.Prompt) (hworker : client.worker = some worker)
    (acting : worker.IsActing) (apart : c ≠ worker.origin.connection)
    (h : Stepping client .proceed es next) :
    conversation c next.events = conversation c client.events ∧
      (client.session.connection = some c → next.session.connection = some c) := by
  have hevents := h.events
  have htrack := hs.tracked
  rw [Prompt, engine_of_worker hworker] at prompt
  rw [engine_of_worker hworker] at htrack
  cases h with
  | moved hsome _ hmove =>
    cases hworker.symm.trans hsome
    obtain ⟨hquiet, hup⟩ := hmove.others acting (fun hphase => (hs.receiving _ hworker hphase).1)
      htrack prompt apart
    exact ⟨by rw [hevents, conversation_append, hquiet, List.append_nil], hup⟩
  | ended hrun => exact nomatch (hs.stopped hrun).symm.trans hworker
  | idle hnone => exact nomatch hnone.symm.trans hworker

/-- Disconnecting does nothing to a connection that is not the link's. -/
theorem Stepping.left {client next : Client ω} {es : List Event} {c : Nat}
    (apart : client.session.connection ≠ some c) (h : Stepping client .disconnect es next) :
    conversation c next.events = conversation c client.events := by
  have hevents := h.events
  have parted : ∀ {t : Session ω} {es : List Event}, Session.Leaving client.session es t →
      conversation c es = [] := by
    intro t es hleave
    have hcall : Session.Path (Session.Doing.isCall false ·) client.session _ _ := hleave.path
    exact ((Worker.path_of_isCall hcall).others apart).1
  have hquiet : conversation c es = [] := by
    cases h with
    | disconnected hdisconnect =>
      cases hdisconnect with
      | alone hleave => exact parted hleave
      | joined hleave _ hend =>
        have hend := (hend.path.others (c := c) (by simp [hleave.down])).1
        rw [conversation_append, conversation_append, parted hleave, hend]
        rfl
  rw [hevents, conversation_append, hquiet, List.append_nil]

/-- Acting on bytes of an older link, at a move or while the worker ends, leaves the
timers of the newer one alone. -/
theorem Stepping.timers {client next : Client ω} {move : Move ω} {es : List Event}
    {worker : Worker} (hs : client.Sound) (prompt : client.Prompt)
    (hworker : client.worker = some worker)
    (moving : move = .proceed ∧ worker.IsActing ∨ move = .disconnect)
    (newer : sinceRead worker.origin.connection client.events ≠ 0)
    (h : Stepping client move es next) :
    next.session.keepAlive = client.session.keepAlive := by
  -- A handshake since the last read means another number, as long as numbers tell links apart.
  have hold : worker.errand ≠ .pass → client.session.link ≠ worker.origin.link := fun hmore =>
    hs.old prompt hworker (.inr hmore) newer
  rcases moving with ⟨rfl, hacting⟩ | rfl
  · have hmore : worker.errand ≠ .pass := by
      rcases hacting with hcut | ⟨fault, hgives⟩
      · simp [hcut]
      · simp [hgives]
    cases h with
    | moved hsome _ hmove =>
      cases hworker.symm.trans hsome
      rcases hmove.acting hacting (fun hphase => (hs.receiving _ hworker hphase).1) with
        hdispatch | ⟨hdid, -⟩
      · exact (hdispatch.stale_did hacting (hold hmore)).1.keepAlive
      · exact hdid.keepAlive
    | ended hrun => exact nomatch (hs.stopped hrun).symm.trans hworker
    | idle hnone => exact nomatch hnone.symm.trans hworker
  · cases h with
    | disconnected hdisconnect =>
      cases hdisconnect with
      | alone _ hjoin => exact nomatch (hs.unjoinable hjoin).symm.trans hworker
      | joined hleave _ hend hdid =>
        rw [hworker] at hend
        cases hend with
        | some hfinish =>
          have hleft := Session.Path.keepAlive hleave.path
          have hfinished := hfinish.keepAlive fun hmore => hleft.2.symm ▸ hold hmore
          exact hdid.keepAlive.trans (hfinished.trans hleft.1)

variable [Environment ω]

/-- Whenever the worker moves in a run, fewer than `2³²` handshakes have succeeded since
the bytes were read that it holds, or acts on. -/
def Timely (client : Client ω) (moves : List (Move ω)) : Prop :=
  ∀ before move after, moves = before ++ move :: after → move.isWork = true →
    (client.run before).Prompt

/-- What a move of a client keeps apart. -/
structure Isolated (client : Client ω) (move : Move ω) : Prop where
  /-- The frames acted on that came over a connection are the first bytes that came over
  it, each once and in order. -/
  read : ∀ c, acted c (client.step move).events <+: stream c (client.step move).events
  /-- An acknowledgement goes to the connection that its message came over. -/
  answered : Answered (client.step move).events
  /-- When the worker reads, it holds what came over the link and was not acted on yet,
  and nothing else. -/
  unmixed : move = .proceed → ∀ worker c, client.worker = some worker →
    worker.phase = .receiving → client.session.connection = some c →
      acted c client.events ++ worker.held = stream c client.events
  /-- Acting on a frame that came over one connection, or giving it up for a frame that
  is broken, does nothing to any other, and leaves another's link up. -/
  others : move = .proceed → ∀ worker c, client.worker = some worker → worker.IsActing →
    c ≠ worker.origin.connection →
      conversation c (client.step move).events = conversation c client.events ∧
        (client.session.connection = some c → (client.step move).session.connection = some c)
  /-- The same for what a worker still does when it is to end: beside the link, which
  goes, nothing is touched. -/
  left : move = .disconnect → ∀ c, client.session.connection ≠ some c →
    conversation c (client.step move).events = conversation c client.events
  /-- Once a handshake has succeeded since its bytes were read, what a worker acts on
  does not change the timers. -/
  timers : ∀ worker, client.worker = some worker →
    move = .proceed ∧ worker.IsActing ∨ move = .disconnect →
      sinceRead worker.origin.connection client.events ≠ 0 →
        (client.step move).session.keepAlive = client.session.keepAlive

/-- A run that is timely is so at its first move and from there on. -/
theorem Timely.cons {client : Client ω} {move : Move ω} {moves : List (Move ω)}
    (h : client.Timely (move :: moves)) :
    (move.isWork = true → client.Prompt) ∧ (client.step move).Timely moves := by
  refine ⟨fun hwork => h [] move moves rfl hwork, ?_⟩
  rintro before last after rfl hwork
  exact h (move :: before) last after rfl hwork

/-- Runs that come in time keep links apart. -/
theorem run_apart {client : Client ω} {moves : List (Move ω)} (hs : client.Sound)
    (apart : client.Apart) (timely : client.Timely moves) : (client.run moves).Apart := by
  induction moves generalizing client with
  | nil => exact apart
  | cons move moves ih =>
    obtain ⟨es, hes⟩ := stepping_step client move
    refine ih (hes.sound hs) (hes.apart hs apart ?_) timely.cons.2
    rintro rfl
    exact timely.cons.1 rfl

/-- **Links are kept apart.**  In every run, whatever calls are made in between, by the
program or by the handler, and whatever the environment answers, as long as fewer than
`2³²` handshakes succeed between reading bytes and acting on them. -/
theorem isolated_run (connector : Connector) (settings : Settings) (environment : ω)
    (clock : UInt32) (moves : List (Move ω)) (move : Move ω)
    (timely : (start connector settings environment clock).Timely (moves ++ [move])) :
    Isolated ((start connector settings environment clock).run moves) move := by
  have hs := sound_run connector settings environment clock moves
  have hprompt : move.isWork = true →
      ((start connector settings environment clock).run moves).Prompt :=
    timely moves move [] rfl
  have hapart : ((start connector settings environment clock).run moves).Apart := by
    refine run_apart (sound_start ..) (apart_start ..) fun before last after hsplit => ?_
    exact timely before last (after ++ [move]) (by simp [hsplit])
  generalize (start connector settings environment clock).run moves = client at *
  obtain ⟨es, hstep⟩ := stepping_step client move
  have hnext : (client.step move).Apart := hstep.apart hs hapart (by rintro rfl; exact hprompt rfl)
  refine ⟨hnext.flow.begun, hnext.answered, ?_, ?_, ?_, ?_⟩
  · rintro rfl worker c hworker hphase hup
    exact hapart.unmixed hs (hprompt rfl) hworker hphase hup
  · rintro rfl worker c hworker hacting hother
    exact hstep.others hs (hprompt rfl) hworker hacting hother
  · rintro rfl c hother
    exact hstep.left hother
  · intro worker hworker hmoving hnewer
    refine hstep.timers hs (hprompt ?_) hworker hmoving hnewer
    rcases hmoving with ⟨rfl, -⟩ | rfl
    · rfl
    · rfl

/-- A run in which fewer than `2³²` handshakes succeed at all comes in time. -/
theorem timely_of_handshakes {client : Client ω} {moves : List (Move ω)}
    (few : handshakes (client.run moves).events < UInt32.size) : client.Timely moves := by
  have grows : ∀ (before after : List (Move ω)), handshakes (client.run before).events ≤
      handshakes (client.run (before ++ after)).events := by
    intro before after
    rw [run_append]
    generalize client.run before = mid
    induction after generalizing mid with
    | nil => exact Nat.le_refl _
    | cons move after ih =>
      obtain ⟨es, hes⟩ := stepping_step mid move
      have hstep : handshakes mid.events ≤ handshakes (mid.step move).events := by
        rw [hes.events, handshakes_append]
        exact Nat.le_add_right ..
      exact Nat.le_trans hstep (ih (mid.step move))
  rintro before move after rfl - -
  refine Nat.lt_of_le_of_lt (sinceRead_le _ _) (Nat.lt_of_le_of_lt ?_ few)
  exact grows before (move :: after)

/-- A broker that sends a message and the answer to a ping in one piece.  The third
write fails, which is the first after the acknowledgement. -/
def fickle : Script where
  attempts := [some [⟨0, some [0x20, 0x02, 0x00, 0x00]⟩,
    ⟨0, some [0x32, 0x05, 0x00, 0x01, 0x61, 0x00, 0x07, 0xd0, 0x00]⟩]]
  writes := [.accept, .accept, .fail]

/-- A client of that broker. -/
def reader : Client Script :=
  start .plain default fickle 0

/-- The message is acted on; then a call loses the link, and another one opens a new
one, before the worker comes to the answer. -/
def relinked : List (Move Script) :=
  [.call .connect, .proceed, .proceed, .proceed, .proceed, .call (.publish "t" [] 0),
    .call .connect]

/-- There the worker acts on bytes of the first connection while the second is up. -/
theorem isolated_run_relinked :
    reader.Timely (relinked ++ [.proceed]) ∧
      (reader.run relinked).worker.map (·.held) = some [0xd0, 0x00] ∧
        (reader.run relinked).session.connection = some 2 ∧
          sinceRead 1 (reader.run relinked).events = 1 ∧
            (reader.run relinked).Isolated .proceed := by
  have hfew : handshakes (reader.run (relinked ++ [.proceed])).events = 2 := by decide +kernel
  have htimely : reader.Timely (relinked ++ [.proceed]) :=
    timely_of_handshakes (by rw [hfew]; decide)
  exact ⟨htimely, by decide +kernel, by decide +kernel, by decide +kernel,
    isolated_run _ _ _ _ _ _ htimely⟩

end Client
end Mqtt
