/-
# The bytes a worker holds

`Worker.Flow` ties what a worker holds to the history: the frames it acted on that
came over a connection are, one after the other, what came over it first, and with
the bytes held they are all that came over the link, unless the worker is about to
give that link up.  Every move keeps it (`Moving.flow`), as long as the number of the
link tells bytes of the link from those of an older one.
-/
import Mqtt.Proofs.Client.Worker
import Mqtt.Proofs.Session.Flow

namespace Mqtt
namespace Worker

variable {ω : Type}

/-- The worker has bytes to act on, or is acting on some. -/
def IsBusy (worker : Worker) : Prop :=
  worker.held ≠ [] ∨ worker.errand ≠ .pass

/-- The worker is about to give up the link its bytes came from. -/
def GivesUp (worker : Worker) : Prop :=
  ∃ fault, worker.errand = .giveUp fault

/-- What a worker acted on and what it holds is what came over each connection. -/
structure Flow (worker : Worker) (s : Session ω) : Prop where
  /-- The bytes held came over a connection that was opened. -/
  known : worker.origin.connection ≤ s.world.opened
  /-- What was acted on is a beginning of what came. -/
  begun : ∀ c, acted c s.world.events <+: stream c s.world.events
  /-- The bytes held come right after what was acted on. -/
  held : acted worker.origin.connection s.world.events ++ worker.held <+:
    stream worker.origin.connection s.world.events
  /-- Over a link that is up nothing was lost between the two, unless the worker is
  about to give that link up. -/
  whole : ∀ c, s.connection = some c → worker.GivesUp ∧ worker.origin.connection = c ∨
    acted c s.world.events ++ (if worker.origin.connection = c then worker.held else []) =
      stream c s.world.events

/-- What is known of the bytes a worker holds, whatever the numbers of links. -/
structure Tracked (worker : Worker) (s : Session ω) : Prop where
  tidy : s.Tidy
  counted : s.Counted
  /-- While the worker is busy, the number of the link tells whether its bytes came over
  it. -/
  follows : worker.IsBusy → s.Follows worker.origin
  /-- And then some bytes came. -/
  fed : worker.IsBusy → stream worker.origin.connection s.world.events ≠ []

/-- Whatever a session does, what its worker holds stays tracked. -/
theorem Tracked.path {allowed : Session.Doing → Prop} {worker next : Worker} {s t : Session ω}
    {es : List Event} (h : worker.Tracked s) (hpath : Session.Path allowed s es t)
    (busy : next.IsBusy → worker.IsBusy ∧ next.origin = worker.origin) : next.Tracked t := by
  refine ⟨hpath.tidy h.tidy, hpath.counted h.counted, fun hbusy => ?_, fun hbusy hnone => ?_⟩
  · obtain ⟨hworker, horigin⟩ := busy hbusy
    rw [horigin]
    exact hpath.follows (h.follows hworker)
  · obtain ⟨hworker, horigin⟩ := busy hbusy
    rw [horigin, hpath.ran.events] at hnone
    have hprefix := stream_prefix worker.origin.connection s.world.events es
    rw [hnone, List.prefix_nil] at hprefix
    exact h.fed hworker hprefix

namespace Flow

variable {worker next : Worker} {s t : Session ω}

/-- What takes nothing keeps the flow. -/
theorem inert (h : worker.Flow s) (hs : s.Tidy) (quiet : s.Inert t) : worker.Flow t := by
  have hacted : ∀ c, acted c t.world.events = acted c s.world.events := by
    intro c
    rw [acted, quiet.frames, acted]
  have hnone : ∀ c, s.world.opened < c → acted c s.world.events = [] := by
    intro c hc
    have hbegun := h.begun c
    rwa [hs.stream_eq_nil hc, List.prefix_nil] at hbegun
  refine ⟨Nat.le_trans h.known quiet.opened, fun c => ?_, ?_, fun c hc => ?_⟩
  · rw [hacted]
    by_cases hknown : c ≤ s.world.opened
    · rw [quiet.streams c hknown]
      exact h.begun c
    · rw [hnone c (Nat.lt_of_not_le hknown)]
      exact List.nil_prefix
  · rw [hacted, quiet.streams _ h.known]
    exact h.held
  · rw [hacted]
    rcases quiet.connection c hc with hup | ⟨hnew, hstream⟩
    · rw [quiet.streams c (Nat.le_of_eq (hs.latest c hup).1)]
      exact h.whole c hup
    · have hother : worker.origin.connection ≠ c := by
        have hknown := h.known
        omega
      rw [hnone c hnew, hstream, if_neg hother]
      exact .inr rfl

/-- A worker that holds the same bytes keeps the flow. -/
theorem same (h : worker.Flow s) (held : next.held = worker.held)
    (origin : next.origin.connection = worker.origin.connection)
    (giving : worker.GivesUp → next.GivesUp ∨ s.connection ≠ some worker.origin.connection) :
    next.Flow s := by
  refine ⟨origin ▸ h.known, h.begun, ?_, fun c hc => ?_⟩
  · rw [origin, held]
    exact h.held
  · rw [origin, held]
    rcases h.whole c hc with ⟨hgives, rfl⟩ | hwhole
    · rcases giving hgives with hnext | hother
      · exact .inl ⟨hnext, rfl⟩
      · exact absurd hc hother
    · exact .inr hwhole

/-- A worker can forget what did not come over the link. -/
theorem forget (h : worker.Flow s) (held : next.held = [])
    (origin : next.origin.connection = worker.origin.connection)
    (idle : worker.held = [] ∨ s.connection ≠ some worker.origin.connection)
    (giving : worker.GivesUp → s.connection ≠ some worker.origin.connection) :
    next.Flow s := by
  refine ⟨origin ▸ h.known, h.begun, ?_, fun c hc => ?_⟩
  · rw [origin, held, List.append_nil]
    exact h.begun _
  · rw [origin, held, ite_self]
    rcases h.whole c hc with ⟨hgives, rfl⟩ | hwhole
    · exact absurd hc (giving hgives)
    · rcases idle with hnothing | hother
      · rw [hnothing, ite_self] at hwhole
        exact .inr hwhole
      · rw [if_neg fun he : worker.origin.connection = c => hother (he ▸ hc)] at hwhole
        exact .inr hwhole

/-- A worker that abandons its bytes is about to give up their link. -/
theorem abandon (h : worker.Flow s) (fault : Fault) : (worker.abandon fault).Flow s := by
  have horigin : (worker.abandon fault).origin = worker.origin := rfl
  have hheld : (worker.abandon fault).held = [] := rfl
  refine ⟨h.known, h.begun, ?_, fun c hc => ?_⟩
  · rw [horigin, hheld, List.append_nil]
    exact h.begun _
  · rw [horigin, hheld]
    by_cases hsame : worker.origin.connection = c
    · exact .inl ⟨⟨fault, rfl⟩, hsame⟩
    · rcases h.whole c hc with ⟨-, he⟩ | hwhole
      · exact absurd he hsame
      · rw [if_neg hsame] at hwhole ⊢
        exact .inr hwhole

/-- The frame at the start of the bytes held is the next that came. -/
theorem cut {frame rest : List UInt8} (h : worker.Flow s) (split : worker.held = frame ++ rest)
    (calm : ¬worker.GivesUp) (held : next.held = rest) (origin : next.origin = worker.origin)
    (hdid : s.Did [.frame worker.origin.connection frame] t) : next.Flow t := by
  have hstream : ∀ c, stream c t.world.events = stream c s.world.events := by
    intro c
    rw [hdid.ran.events]
    exact (Without.singleton rfl).stream _
  have hacted : ∀ c, acted c t.world.events =
      acted c s.world.events ++ (if worker.origin.connection = c then frame else []) := by
    intro c
    rw [hdid.ran.events, acted_append, acted, acted, framesOf_frame]
    by_cases hsame : worker.origin.connection = c <;> simp [hsame]
  -- The frame goes from the bytes held to those acted on, so the two together stay the same.
  have hnext : acted worker.origin.connection t.world.events ++ rest =
      acted worker.origin.connection s.world.events ++ worker.held := by
    rw [hacted, if_pos rfl, split, List.append_assoc]
  refine ⟨?_, fun c => ?_, ?_, fun c hc => ?_⟩
  · rw [origin]
    exact Nat.le_trans h.known hdid.ran.opened_le
  · rw [hstream, hacted]
    by_cases hsame : worker.origin.connection = c
    · subst hsame
      rw [if_pos rfl]
      refine List.IsPrefix.trans ?_ h.held
      rw [split, ← List.append_assoc]
      exact List.prefix_append ..
    · rw [if_neg hsame, List.append_nil]
      exact h.begun c
  · rw [origin, held, hnext, hstream]
    exact h.held
  · rw [hdid.connection] at hc
    rcases h.whole c hc with ⟨hgives, -⟩ | hwhole
    · exact absurd hgives calm
    · refine .inr ?_
      rw [origin, held, hstream, ← hwhole]
      by_cases hsame : worker.origin.connection = c
      · subst hsame
        rw [if_pos rfl, if_pos rfl, hnext]
      · rw [hacted, if_neg hsame, if_neg hsame, if_neg hsame, List.append_nil]

/-- The bytes just read follow those held. -/
theorem taken {c capacity : Nat} {timeout : UInt32} {bytes : List UInt8} (h : worker.Flow s)
    (hs : s.Tidy) (up : s.connection = some c) (calm : ¬worker.GivesUp)
    (same : worker.held ≠ [] → worker.origin.connection = c)
    (held : next.held = worker.held ++ bytes) (origin : next.origin.connection = c)
    (hdid : s.Did [.read c capacity timeout (.ok bytes)] t) : next.Flow t := by
  have hacted : ∀ c, acted c t.world.events = acted c s.world.events := by
    intro c
    rw [hdid.ran.events, acted_append]
    exact List.append_nil _
  have hread : stream c t.world.events = stream c s.world.events ++ bytes := hs.stream_read up hdid
  have hwhole : acted c t.world.events ++ next.held = stream c t.world.events := by
    -- Bytes held over this link are followed by the new ones; held over another, there are none.
    rcases h.whole c up with ⟨hgives, -⟩ | hwhole
    · exact absurd hgives calm
    · rw [hacted, held, hread, ← hwhole, ← List.append_assoc]
      by_cases hsame : worker.origin.connection = c
      · rw [if_pos hsame]
      · rw [if_neg hsame, Decidable.byContradiction fun hne => hsame (same hne)]
  refine ⟨?_, fun c' => ?_, ?_, fun c' hc => ?_⟩
  · rw [origin]
    exact Nat.le_trans (Nat.le_of_eq (hs.latest c up).1) hdid.ran.opened_le
  · by_cases hsame : c' = c
    · rw [hsame, ← hwhole]
      exact List.prefix_append ..
    · have hother : Without (Event.isReadOf c') [.read c capacity timeout (.ok bytes)] :=
        .singleton (decide_eq_false fun he => hsame he.symm)
      rw [hacted, hdid.ran.events, hother.stream]
      exact h.begun c'
  · rw [origin]
    exact ⟨[], by rw [List.append_nil, hwhole]⟩
  · rw [hdid.connection, up, Option.some.injEq] at hc
    subst hc
    rw [origin, if_pos rfl]
    exact .inr hwhole

/-- A read that gives nothing changes nothing. -/
theorem unread {c capacity : Nat} {timeout : UInt32} {r : Except NetFault (List UInt8)}
    (h : worker.Flow s) (nothing : Io.received [.read r] = [])
    (hdid : s.Did [.read c capacity timeout r] t) : worker.Flow t := by
  have hacted : ∀ c, acted c t.world.events = acted c s.world.events := by
    intro c
    rw [hdid.ran.events, acted_append]
    exact List.append_nil _
  have hstream : ∀ c, stream c t.world.events = stream c s.world.events := by
    intro c'
    rw [hdid.ran.events, stream, conversation_append, Io.received_append, stream]
    by_cases hsame : c = c'
    · simp [Event.io?, hsame, nothing]
    · simp [Event.io?, hsame, Io.received]
  refine ⟨?_, fun c => ?_, ?_, fun c hc => ?_⟩
  · exact Nat.le_trans h.known hdid.ran.opened_le
  · rw [hacted, hstream]
    exact h.begun c
  · rw [hacted, hstream]
    exact h.held
  · rw [hacted, hstream]
    exact h.whole c (hdid.connection ▸ hc)

end Flow

/-- A frame is acted on first, and nothing else is taken. -/
theorem Handling.begun {origin : Origin} {frame : List UInt8} {s t : Session ω}
    {r : Except Fault Errand} {es : List Event} (h : Handling origin frame s r es t) :
    ∃ u rest, es = .frame origin.connection frame :: rest ∧
      s.Did [.frame origin.connection frame] u ∧
        Session.Path (fun d => d.isTaking = false) u rest t := by
  have told : ∀ {n : Notice} {u : Session ω}, (Event.notice n).isTold = true →
      s.Did [.frame origin.connection frame, .notice n] u →
        ∃ v, s.Did [.frame origin.connection frame] v ∧
          Session.Path (fun d => d.isTaking = false) v [.notice n] u := by
    intro n u quiet hdid
    obtain ⟨v, hframe, hnote⟩ := hdid.split
    exact ⟨v, hframe, .single rfl (.told quiet hnote)⟩
  have acked : ∀ {id : UInt16} {r : Except Fault Unit} {es : List Event} {u v : Session ω},
      Session.Transmitting (.pubAck id) u r es v →
        Session.Path (fun d => d.isTaking = false) u es v := fun hsent =>
    (hsent.path rfl).mono fun d hd => by rw [show d = _ from hd]; rfl
  cases h with
  | undecodable _ hdid => exact ⟨_, [], rfl, hdid, .refl _⟩
  | ponged _ _ hdid =>
    obtain ⟨u, hframe, hnote⟩ := Session.Did.split_update
      (f := fun t => { t with keepAlive := t.keepAlive.ponged s.world.clock }) (fun _ _ => rfl)
      (List.singleton_append ▸ hdid)
    -- The timers change between the frame and the notice, as a step of their own.
    exact ⟨u, _, rfl, hframe,
      .cons (by exact rfl) (.timed _ (.refl _)) (.single (by exact rfl) (.told rfl hnote))⟩
  | stalePong _ _ hdid =>
    obtain ⟨u, hframe, hpath⟩ := told rfl hdid
    exact ⟨u, _, rfl, hframe, hpath⟩
  | acknowledged _ _ _ hframe hsent hdid =>
    exact ⟨_, _, rfl, hframe, (acked hsent).trans (.single rfl (.told rfl hdid))⟩
  | unacknowledged _ _ _ hframe hsent => exact ⟨_, _, rfl, hframe, acked hsent⟩
  | published _ _ hdid =>
    obtain ⟨u, hframe, hpath⟩ := told rfl hdid
    exact ⟨u, _, rfl, hframe, hpath⟩
  | @remarked packet _ _ _ hdid =>
    obtain ⟨u, hframe, hpath⟩ := told (Inbound.isTold_remark packet) hdid
    exact ⟨u, _, rfl, hframe, hpath⟩

/-- The read of a pass reads, and drops the link if that fails. -/
theorem Taking.without {kind : Event → Bool} {worker next : Worker} {s t : Session ω}
    {es : List Event} (reads : ∀ c capacity timeout r, kind (.read c capacity timeout r) = false)
    (fails : ∀ fault, kind (.notice (.receiveFailed fault)) = false)
    (drops : ∀ {u : Session ω} {fs : List Event},
      Session.Path (Session.Doing.isOutside ·) u fs t → Without kind fs)
    (h : Taking worker s next es t) : Without kind es := by
  have read : ∀ {capacity : Nat} {timeout : UInt32} {r : Except Fault (Chunk capacity)}
      {es : List Event} {t : Session ω}, Session.Receiving capacity timeout s r es t →
        Without kind es := by
    intro capacity timeout r es t h
    cases h with
    | notConnected => exact .nil
    | received => exact .singleton (reads ..)
    | failed => exact .cons (reads ..) (.singleton (fails _))
  cases h with
  | nothing _ hread => exact read hread
  | taken _ hread => exact read hread
  | failed hread hdrop => exact (read hread).append (drops hdrop.outside)

/-- Cutting a frame off leaves the bytes where they are from. -/
theorem Cutting.origin {worker next : Worker} {s t : Session ω} {es : List Event}
    (h : Cutting worker s next es t) : next.origin = worker.origin := by
  cases h <;> rfl

/-- A step of a dispatch leaves the bytes where they are from: only a read changes that. -/
theorem Dispatching.origin {running : Bool} {worker next : Worker} {s t : Session ω}
    {es : List Event} (h : Dispatching running worker s next es t) :
    next.origin = worker.origin := by
  cases h with
  | cut _ hcut => exact hcut.origin
  | delivered => rfl
  | gaveUp => rfl
  | stale => rfl

/-- A worker that only set out again holds no bytes but those it held. -/
theorem Passing.busy {running : Bool} {worker next : Worker} {s t : Session ω} {es : List Event}
    (idle : worker.errand = .pass) (h : Passing running worker s next es t) (busy : next.IsBusy) :
    worker.IsBusy ∧ next.origin = worker.origin := by
  have serviced : ∀ {worker : Worker} {s t : Session ω} {es : List Event},
      worker.errand = .pass → Servicing worker s next es t →
        worker.IsBusy ∧ next.origin = worker.origin := by
    intro worker s t es idle h
    cases h with
    | interrupted => exact ⟨busy, rfl⟩
    | continued => exact ⟨busy, rfl⟩
    | adopted =>
      rcases busy with hheld | herrand
      · exact absurd rfl hheld
      · exact absurd idle herrand
  cases h with
  | linked _ hservice => exact serviced idle hservice
  | reconnected _ _ hservice =>
    obtain ⟨hheld | herrand, -⟩ := serviced (by exact idle) hservice
    · exact absurd rfl hheld
    · exact absurd idle herrand
  | postponed =>
    rcases busy with hheld | herrand
    · exact absurd rfl hheld
    · exact absurd idle herrand

/-- Fewer than `2³²` handshakes have succeeded since the bytes were read that a worker
holds, or acts on. -/
def Prompt (worker : Worker) (s : Session ω) : Prop :=
  worker.IsBusy → sinceRead worker.origin.connection s.world.events < UInt32.size

/-- As long as numbers tell links apart, a link with the number of the bytes held is the
one they came over. -/
theorem Tracked.current {worker : Worker} {s : Session ω} {c : Nat} (h : worker.Tracked s)
    (prompt : worker.Prompt s) (busy : worker.IsBusy) (link : s.link = worker.origin.link)
    (up : s.connection = some c) : c = worker.origin.connection := by
  have hfollows := h.follows busy
  exact hfollows.current ((hfollows.link_eq_iff h.counted (prompt busy)).1 link) c up

/-- A worker that has something else to do does not give up its link. -/
theorem not_givesUp {worker : Worker} {errand : Errand} (h : worker.errand = errand)
    (calm : ∀ fault, errand ≠ .giveUp fault) : ¬worker.GivesUp := by
  rintro ⟨fault, hgives⟩
  exact calm fault (h.symm.trans hgives)

/-- Telling of something takes nothing. -/
theorem inert_told {event : Event} {s t : Session ω} (hs : s.Tidy) (quiet : event.isTold = true)
    (call : (Session.Doing.tell event).isCall true = true) (h : s.Did [event] t) : s.Inert t :=
  Session.inert_of_isCall hs (h.told quiet call)

/-- **Cutting a frame takes it from the bytes held to those acted on**, so both together
stay what came over the link. -/
theorem Cutting.flow {worker next : Worker} {s t : Session ω} {es : List Event}
    (flow : worker.Flow s) (hs : s.Tidy) (errand : worker.errand = .cut)
    (h : Cutting worker s next es t) : next.Flow t := by
  have calm : ¬worker.GivesUp := not_givesUp errand (by simp)
  -- What remains after a frame, whatever came of it and whatever is to be done next.
  have rest : ∀ {frame rest : List UInt8} {r : Except Fault Errand} (errand : Errand),
      worker.held = frame ++ rest → Handling worker.origin frame s r es t →
        Flow { worker with held := rest, phase := .ready, errand } t := by
    intro frame rest r errand split hhandling
    obtain ⟨u, more, rfl, hframe, hpath⟩ := hhandling.begun
    have hu : u.Tidy := (Session.Step.told rfl hframe).tidy hs
    have hcut : Flow { worker with held := rest, phase := .ready, errand } u :=
      flow.cut split calm rfl rfl hframe
    exact hcut.inert hu (Session.Path.inert hu hpath)
  cases h with
  | unfinished => exact flow.same rfl rfl fun hgives => absurd hgives calm
  | broken => exact flow.abandon _
  | oversized _ hdid => exact (flow.inert hs (inert_told hs rfl rfl hdid)).abandon _
  | @handled _ _ split _ _ _ _ _ hhandling => exact rest _ split hhandling
  | @failed _ _ split _ fault _ _ _ hhandling =>
    exact (rest .cut split hhandling).abandon fault

/-- A step of a dispatch keeps what is held in line with what came over the link. -/
theorem Dispatching.flow {running : Bool} {worker next : Worker} {s t : Session ω}
    {es : List Event} (flow : worker.Flow s) (track : worker.Tracked s)
    (h : Dispatching running worker s next es t) : next.Flow t := by
  cases h with
  | cut herrand hcut => exact hcut.flow flow track.tidy herrand
  | delivered herrand hdid hcalls =>
    have htold : Session.Path (fun d => d.isTaking = false) s _ _ := .single rfl (.told rfl hdid)
    have hpath := htold.trans (hcalls.path.outside.mono fun _ =>
      Session.Doing.isTaking_of_isOutside)
    exact (flow.inert track.tidy (Session.Path.inert track.tidy hpath)).same rfl rfl
      fun hgives => absurd hgives (not_givesUp herrand (by simp))
  | gaveUp herrand _ hdid hdrop =>
    have hpath : Session.Path (Session.Doing.isCall true ·) s _ t :=
      (hdid.told rfl rfl).trans hdrop.path
    have hdown : t.connection = none := hdrop.down
    refine (flow.inert track.tidy (Session.inert_of_isCall track.tidy hpath)).same rfl rfl
      fun _ => .inr fun hup => nomatch hdown.symm.trans hup
  | stale herrand hold hdid =>
    have hbusy : worker.IsBusy := .inr (by simp [herrand])
    refine (flow.inert track.tidy (inert_told track.tidy rfl rfl hdid)).same rfl rfl
      fun _ => .inr ?_
    rw [hdid.connection]
    exact (track.follows hbusy).apart track.counted hold

/-- Servicing the keep-alive keeps what is held in line with what came over the link: it
is all of it, or it is forgotten for a link that is new. -/
theorem Servicing.flow {worker next : Worker} {s t : Session ω} {es : List Event}
    (flow : worker.Flow s) (track : worker.Tracked s) (idle : worker.errand = .pass)
    (h : Servicing worker s next es t) : next.Flow t := by
  have calm : ¬worker.GivesUp := not_givesUp idle (by simp)
  have hflow : worker.Flow t := flow.inert track.tidy (Session.inert_of_isCall track.tidy h.path)
  have htrack : worker.Tracked t := track.path h.path fun hbusy => ⟨hbusy, rfl⟩
  cases h with
  | interrupted => exact hflow.same rfl rfl fun hgives => absurd hgives calm
  | continued => exact hflow.same rfl rfl fun hgives => absurd hgives calm
  | adopted _ hother _ hdid =>
    refine hflow.forget rfl rfl ?_ fun hgives => absurd hgives calm
    by_cases hheld : worker.held = []
    · exact .inl hheld
    · exact .inr ((htrack.follows (.inl hheld)).apart htrack.counted (hdid.link ▸ hother))

/-- A pass up to its read keeps what is held in line with what came over the link. -/
theorem Passing.flow {running : Bool} {worker next : Worker} {s t : Session ω} {es : List Event}
    (flow : worker.Flow s) (track : worker.Tracked s) (idle : worker.errand = .pass)
    (h : Passing running worker s next es t) : next.Flow t := by
  have calm : ¬worker.GivesUp := not_givesUp idle (by simp)
  -- Without a link, the bytes held can be forgotten.
  have forgotten : ∀ {next : Worker}, s.connection = none → next.held = [] →
      next.origin = worker.origin → next.Flow s := fun hdown hheld horigin =>
    flow.forget hheld (by rw [horigin]) (.inr (by simp [hdown])) fun hgives => absurd hgives calm
  have hinert : s.Inert t := Session.inert_of_isOutside track.tidy h.outside
  cases h with
  | linked _ hservice => exact hservice.flow flow track idle
  | reconnected hdown hreconnect hservice =>
    have hpath := hreconnect.path
    have hforgot : Flow { worker with held := [], failures := 0 } s := forgotten hdown rfl rfl
    refine hservice.flow (hforgot.inert track.tidy (Session.inert_of_isCall track.tidy hpath))
      (track.path hpath fun hbusy => ?_) (by exact idle)
    rcases hbusy with hheld | herrand
    · exact absurd rfl hheld
    · exact absurd idle herrand
  | @postponed _ phase _ _ _ _ _ _ hdown =>
    have hforgot : Flow { worker with
        held := []
        failures := max worker.failures (worker.failures + 1)
        phase } s := forgotten hdown rfl rfl
    exact hforgot.inert track.tidy hinert

/-- **A read adds what it gives to the bytes held, and the history adds it to what came
over the link.**  The number of the link has to tell that what was held before came over
the same one. -/
theorem Taking.flow {worker next : Worker} {s t : Session ω} {es : List Event}
    (flow : worker.Flow s) (track : worker.Tracked s) (prompt : worker.Prompt s)
    (idle : worker.errand = .pass) (link : s.link = worker.origin.link)
    (h : Taking worker s next es t) : next.Flow t := by
  have calm : ¬worker.GivesUp := not_givesUp idle (by simp)
  cases h with
  | nothing hempty hread =>
    cases hread with
    | received chunk up hdid =>
      refine (flow.unread ?_ hdid).same rfl rfl fun hgives => absurd hgives calm
      simp [Io.received, hempty]
  | taken hsome hread =>
    cases hread with
    | received chunk up hdid =>
      -- The worker reads only under the number of its bytes, so they came over this very link.
      refine flow.taken track.tidy up calm (fun hheld => ?_) rfl (by simp [up]) hdid
      exact (track.current prompt (.inl hheld) link up).symm
  | failed hread hdrop =>
    have dropped : ∀ {u : Session ω} {fs : List Event}, worker.Flow u → u.Tidy →
        Session.Dropping u fs t → Flow { worker with phase := .ready } t := by
      intro u fs hflow hu hdrop
      exact (hflow.inert hu (Session.inert_of_isOutside hu hdrop.outside)).same rfl rfl
        fun hgives => absurd hgives calm
    have hread' : Session.Path (Session.Doing.isWork true ·) s _ _ := hread.path
    have htidy := hread'.tidy track.tidy
    cases hread with
    | notConnected => exact dropped flow htidy hdrop
    | failed fault up hdid =>
      obtain ⟨u, hfirst, hnote⟩ := hdid.split
      have hu : u.Tidy := (Session.Step.heard up hfirst).tidy track.tidy
      exact dropped ((flow.unread rfl hfirst).inert hu (inert_told hu rfl rfl hnote)) htidy hdrop

/-- **Every move of a worker keeps the flow.**  A read adds to both sides, a frame that
is taken goes from the bytes held to those acted on, and a pass adds to neither. -/
theorem Moving.flow {running : Bool} {worker next : Worker} {s t : Session ω} {es : List Event}
    (flow : worker.Flow s) (track : worker.Tracked s) (prompt : worker.Prompt s)
    (receiving : worker.phase = .receiving → worker.errand = .pass ∧ s.link = worker.origin.link)
    (h : Moving running worker s next es t) : next.Flow t := by
  cases h with
  | received hphase htaking =>
    exact htaking.flow flow track prompt (receiving hphase).1 (receiving hphase).2
  | woke _ hpause =>
    exact (flow.inert track.tidy (Session.inert_of_isOutside track.tidy hpause.outside)).same
      rfl rfl .inl
  | passed _ hidle hpassing => exact hpassing.flow flow track hidle
  | dispatched _ _ hdispatch => exact hdispatch.flow flow track

/-- **Every move of a worker keeps what it holds tracked.**  Only a read gives the
worker bytes, and it reads only while the link has the number that the worker knows. -/
theorem Moving.tracked {worker next : Worker} {s t : Session ω} {es : List Event}
    (track : worker.Tracked s)
    (receiving : worker.phase = .receiving → worker.errand = .pass ∧ s.link = worker.origin.link)
    (h : Moving true worker s next es t) : next.Tracked t := by
  have hpath := h.path
  cases h with
  | received hphase htaking =>
    cases htaking with
    | nothing => exact track.path hpath fun hbusy => ⟨hbusy, rfl⟩
    | failed => exact track.path hpath fun hbusy => ⟨hbusy, rfl⟩
    | taken hsome hread =>
      cases hread with
      | received chunk up hdid =>
        refine ⟨hpath.tidy track.tidy, hpath.counted track.counted, fun _ => ?_, fun _ hnone => ?_⟩
        · simp only [up, Option.getD_some]
          exact Session.follows_of_read track.counted (Nat.le_of_eq (track.tidy.latest _ up).1)
            (receiving hphase).2.symm up hdid
        · simp only [up, Option.getD_some] at hnone
          rw [track.tidy.stream_read up hdid, List.append_eq_nil_iff] at hnone
          exact hsome hnone.2
  | woke => exact track.path hpath fun hbusy => ⟨hbusy, rfl⟩
  | passed _ hidle hpassing => exact track.path hpath fun hbusy => hpassing.busy hidle hbusy
  | dispatched _ hmore hdispatch =>
    exact track.path hpath fun _ => ⟨.inr hmore, hdispatch.origin⟩

end Worker
end Mqtt
