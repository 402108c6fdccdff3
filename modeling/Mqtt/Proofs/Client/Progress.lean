/-
# The progress of a worker

`Progress` says how far a worker has come with what came over one connection: it has
not met the connection yet, holds the bytes that are left, is about to deliver the
message of a frame it took, is about to give the link up, or is done with it.
`Parsing` ties that to the history: what was done so far, what is still to be
done about the frame that was taken, and what the bytes that are left come to make up
what all the bytes come to.

Every move keeps both while nothing disturbs the link (`Moving.reassembles`).  What is
left is parsed from where the last frame ended, so it does not matter how the bytes
were cut into reads (`Parsing.read`).
-/
import Mqtt.Proofs.Client.Calm
import Mqtt.Proofs.Client.Isolation

namespace Mqtt

/-- What came over a connection comes to what was done since, what is pending, and what
the bytes that are left come to. -/
structure Parsing (c : Nat) (events ran : List Event) (left : List UInt8) (pending : List Act) :
    Prop where
  /-- The acts of the whole stream are those done, those pending and those of the bytes
  left. -/
  done : (parseFrames (stream c events)).acts =
    acts c false ran ++ pending ++ (parseFrames left).acts
  /-- How the stream ends is how the bytes left end. -/
  ending : (parseFrames (stream c events)).ending = (parseFrames left).ending

namespace Parsing

variable {c : Nat} {events after ran es : List Event} {left : List UInt8}
  {pending later : List Act}

/-- Where nothing came yet, nothing is left. -/
theorem nil (h : stream c events = []) : Parsing c events [] [] [] := by
  constructor
  · rw [h]
    rfl
  · rw [h]

/-- What came stays parsed when something pending is done. -/
theorem act (h : Parsing c events ran left pending) (same : stream c after = stream c events)
    (acts : acts c (turn c false ran) es ++ later = pending) :
    Parsing c after (ran ++ es) left later := by
  constructor
  · rw [same, h.done, acts_append, ← acts]
    simp only [List.append_assoc]
  · rw [same, h.ending]

/-- What came stays parsed where nothing is done. -/
theorem quiet (h : Parsing c events ran left pending) (same : stream c after = stream c events)
    (acts : acts c (turn c false ran) es = []) : Parsing c after (ran ++ es) left pending :=
  h.act same (by rw [acts, List.nil_append])

/-- More bytes come, and follow those that are left. -/
theorem read {bytes : List UInt8} (h : Parsing c events ran left pending)
    (more : stream c after = stream c events ++ bytes)
    (acts : acts c (turn c false ran) es = []) :
    Parsing c after (ran ++ es) (left ++ bytes) pending := by
  have hresume : ∀ {parsed parsed' : Parsed} {before : List Act}, parsed.ending = parsed'.ending →
      parsed.acts = before ++ parsed'.acts →
        (parsed.resume bytes).acts = before ++ (parsed'.resume bytes).acts ∧
          (parsed.resume bytes).ending = (parsed'.resume bytes).ending := by
    rintro ⟨packets, ending⟩ ⟨packets', -⟩ before rfl hacts
    cases ending with
    | broken => exact ⟨hacts, rfl⟩
    | unfinished rest =>
      refine ⟨?_, rfl⟩
      simp only [Parsed.resume, Parsed.acts, List.flatMap_append] at hacts ⊢
      rw [hacts, List.append_assoc]
  obtain ⟨hdone, hending⟩ := hresume h.ending h.done
  rw [← parseFrames_append, ← parseFrames_append, ← more] at hdone hending
  refine ⟨?_, hending⟩
  rw [hdone, acts_append, acts, List.append_nil]

/-- A frame is taken off the bytes that are left, and its packet acted on. -/
theorem frame {frame rest : List UInt8} {split : left = frame ++ rest} {nonempty : frame ≠ []}
    {packet : Inbound} (h : Parsing c events ran left [])
    (same : stream c after = stream c events)
    (whole : Cut.first 1024 left = .whole frame rest split nonempty)
    (decode : Inbound.decode frame = .ok packet)
    (acts : acts c (turn c false ran) es ++ later = packet.acts) :
    Parsing c after (ran ++ es) rest later := by
  have hleft : parseFrames left =
      ⟨packet :: (parseFrames rest).packets, (parseFrames rest).ending⟩ := by
    rw [split]
    exact parseFrames_of_whole whole decode rest
  constructor
  · rw [same, h.done, acts_append, hleft, List.append_nil, Parsed.acts, List.flatMap_cons, ← acts]
    simp only [List.append_assoc]
    rfl
  · rw [same, h.ending, hleft]

end Parsing

namespace Worker

variable {ω : Type}

/-- What the worker delivers next came over another connection. -/
def IsForeign (worker : Worker) (turn : Bool) : Prop :=
  ∀ topic payload, worker.errand = .deliver topic payload → turn = false

/-- How far the worker has come with what came over a connection since events `ran`: the
bytes that are left, and what is pending about a frame it took. -/
inductive Progress (c : Nat) (worker : Worker) (s : Session ω) (ran : List Event) :
    List UInt8 → List Act → Prop
  /-- It has met nothing that came over the connection. -/
  | fresh : s.connection = some c → (worker.IsBusy → s.link ≠ worker.origin.link) →
      worker.IsForeign (turn c false ran) → Progress c worker s ran [] []
  /-- It holds the bytes that are left. -/
  | holding : s.connection = some c → worker.origin = ⟨s.link, c⟩ →
      worker.errand = .cut ∨
        worker.errand = .pass ∧ Cut.first capacity worker.held = .unfinished →
      Progress c worker s ran worker.held []
  /-- It holds the bytes that are left, after a message it is about to hand over. -/
  | delivering {topic : String} {payload : List UInt8} : s.connection = some c →
      worker.origin = ⟨s.link, c⟩ → worker.errand = .deliver topic payload →
      turn c false ran = true → Progress c worker s ran worker.held [.delivered topic payload]
  /-- It is about to drop the link, for a frame that is broken. -/
  | giving {left : List UInt8} {fault : Fault} : s.connection = some c →
      worker.origin = ⟨s.link, c⟩ → worker.errand = .giveUp fault →
      parseFrames left = ⟨[], .broken⟩ → Progress c worker s ran left []
  /-- It has dropped the link, and has nothing more that came over the connection. -/
  | gone {left : List UInt8} : s.connection ≠ some c → .close c ∈ ran →
      parseFrames left = ⟨[], .broken⟩ →
      (worker.errand ≠ .pass → worker.origin.connection ≠ c) →
      worker.IsForeign (turn c false ran) → Progress c worker s ran left []

/-- What came over a connection, as far as the worker has come with it. -/
structure Reassembles (c : Nat) (worker : Worker) (s : Session ω) (ran : List Event) : Prop where
  known : c ≤ s.world.opened
  progress : ∃ left pending, Parsing c s.world.events ran left pending ∧
    worker.Progress c s ran left pending

/-- A worker that gives up its link delivers nothing next, so nothing of another
connection. -/
theorem isForeign_abandon (worker : Worker) (fault : Fault) (turn : Bool) :
    (worker.abandon fault).IsForeign turn := fun _ _ hdeliver => nomatch hdeliver

/-- A worker that has something else to do delivers nothing next. -/
theorem isForeign_of_errand {worker : Worker} {errand : Errand} (h : worker.errand = errand)
    (other : ∀ topic payload, errand ≠ .deliver topic payload) (turn : Bool) :
    worker.IsForeign turn := fun topic payload hdeliver =>
  absurd (h.symm.trans hdeliver) (other topic payload)

section

variable {worker next : Worker} {s t : Session ω} {c : Nat} {ran es : List Event}
  {left : List UInt8} {pending : List Act}

/-- A worker that holds the same bytes and has the same to do over the same link has come
as far. -/
theorem Progress.alike (h : worker.Progress c s ran left pending) (alike : worker.Alike next)
    (connection : t.connection = s.connection) (link : t.link = s.link)
    (same : turn c false (ran ++ es) = turn c false ran) :
    next.Progress c t (ran ++ es) left pending := by
  have foreign : worker.IsForeign (turn c false ran) →
      next.IsForeign (turn c false (ran ++ es)) := by
    intro hforeign topic payload hdeliver
    rw [same]
    exact hforeign topic payload (alike.errand.symm.trans hdeliver)
  cases h with
  | fresh up hother hforeign =>
    refine .fresh (connection.trans up) (fun hbusy => ?_) (foreign hforeign)
    rw [link, alike.origin]
    exact hother (alike.busy hbusy).1
  | holding up horigin herrand =>
    rw [← alike.held]
    refine .holding (connection.trans up) ?_ ?_
    · rw [alike.origin, link]
      exact horigin
    · rw [alike.errand, alike.held]
      exact herrand
  | delivering up horigin herrand hturn =>
    rw [← alike.held]
    refine .delivering (connection.trans up) ?_ (alike.errand.trans herrand) (same.trans hturn)
    rw [alike.origin, link]
    exact horigin
  | giving up horigin herrand hbroken =>
    refine .giving (connection.trans up) ?_ (alike.errand.trans herrand) hbroken
    rw [alike.origin, link]
    exact horigin
  | gone down hclose hbroken hother hforeign =>
    refine .gone (connection ▸ down) (List.mem_append_left _ hclose) hbroken ?_ (foreign hforeign)
    rw [alike.errand, alike.origin]
    exact hother

/-- Whatever is done outside of acting on frames, such a worker has come as far. -/
theorem Reassembles.alike (h : worker.Reassembles c s ran) (hs : s.Tidy)
    (hpath : Session.Path (Session.Doing.isOutside ·) s es t) (alike : worker.Alike next)
    (connection : t.connection = s.connection) (link : t.link = s.link) :
    next.Reassembles c t (ran ++ es) := by
  obtain ⟨left, pending, hparsing, hprogress⟩ := h.progress
  obtain ⟨hacts, hturn⟩ := hpath.acts c (turn c false ran)
  have hinert := Session.inert_of_isOutside hs hpath
  refine ⟨Nat.le_trans h.known hinert.opened, left, pending, ?_, ?_⟩
  · exact hparsing.quiet (hinert.streams c h.known) hacts
  · exact hprogress.alike alike connection link (by rw [turn_append, hturn])

/-! ### Reads -/

/-- A read of the link gives bytes to act on, or none. -/
theorem Taking.calm (calm : Calm c es) (up : s.connection = some c)
    (h : Taking worker s next es t) :
    ∃ capacity timeout bytes, es = [.read c capacity timeout (.ok bytes)] ∧ s.Did es t ∧
      (bytes = [] ∧ next = { worker with phase := .ready } ∨
        next = { worker with
          held := worker.held ++ bytes
          origin := ⟨worker.origin.link, c⟩
          phase := .ready
          errand := .cut }) := by
  cases h with
  | nothing hempty hread =>
    cases hread with
    | received chunk hup hdid =>
      cases up.symm.trans hup
      exact ⟨_, _, _, rfl, hdid, .inl ⟨hempty, rfl⟩⟩
  | taken _ hread =>
    cases hread with
    | received chunk hup hdid =>
      cases up.symm.trans hup
      exact ⟨_, _, _, rfl, hdid, .inr (by rw [up]; rfl)⟩
  | failed hread hdrop =>
    cases hread with
    | notConnected hdown => exact nomatch up.symm.trans hdown
    | failed fault hup =>
      cases up.symm.trans hup
      exact absurd (by simp [Event.disturbs]) (calm.not_disturbs (.head _))

/-- A worker that reads holds all the bytes that are left. -/
theorem Progress.held (h : worker.Progress c s ran left pending) (up : s.connection = some c)
    (idle : worker.errand = .pass) (link : s.link = worker.origin.link) :
    left = worker.held ∧ pending = [] := by
  cases h with
  | fresh _ hother =>
    refine ⟨?_, rfl⟩
    by_cases hheld : worker.held = []
    · exact hheld.symm
    · exact absurd link (hother (.inl hheld))
  | holding => exact ⟨rfl, rfl⟩
  | delivering _ _ herrand => exact nomatch idle.symm.trans herrand
  | giving _ _ herrand => exact nomatch idle.symm.trans herrand
  | gone down => exact absurd up down

/-- The bytes that are read follow those that are left. -/
theorem Taking.reassembles (hs : s.Tidy) (up : s.connection = some c)
    (idle : worker.errand = .pass) (link : s.link = worker.origin.link) (calm : Calm c es)
    (parsing : Parsing c s.world.events ran left pending)
    (progress : worker.Progress c s ran left pending) (h : Taking worker s next es t) :
    ∃ left pending, Parsing c t.world.events (ran ++ es) left pending ∧
      next.Progress c t (ran ++ es) left pending := by
  obtain ⟨capacity, timeout, bytes, rfl, hdid, ⟨rfl, rfl⟩ | rfl⟩ := h.calm calm up
  · refine ⟨left, pending, parsing.quiet ?_ rfl, ?_⟩
    · rw [hs.stream_read up hdid, List.append_nil]
    · refine progress.alike ⟨rfl, rfl, rfl⟩ hdid.connection hdid.link ?_
      rw [turn_append]
      rfl
  · obtain ⟨rfl, rfl⟩ := progress.held up idle link
    refine ⟨_, _, parsing.read (hs.stream_read up hdid) rfl, ?_⟩
    refine .holding (hdid.connection.trans up) ?_ (.inl rfl)
    rw [hdid.link, link]

/-! ### Frames -/

/-- Acting on a frame reads nothing. -/
theorem Handling.stream {origin : Origin} {frame : List UInt8} {r : Except Fault Errand}
    (hs : s.Tidy) (known : c ≤ s.world.opened) (h : Handling origin frame s r es t) :
    stream c t.world.events = stream c s.world.events := by
  obtain ⟨u, rest, rfl, hframe, hpath⟩ := h.begun
  have hu : u.Tidy := (Session.Step.told rfl hframe).tidy hs
  have hknown : c ≤ u.world.opened := Nat.le_trans known hframe.ran.opened_le
  rw [(Session.Path.inert hu hpath).streams c hknown, hframe.ran.events]
  exact stream_of_quiet rfl _

/-- What comes of the next frame. -/
theorem Cutting.reassembles (hs : s.Tidy) (up : s.connection = some c)
    (origin : worker.origin = ⟨s.link, c⟩) (calm : Calm c es)
    (parsing : Parsing c s.world.events ran worker.held []) (h : Cutting worker s next es t) :
    ∃ left pending, Parsing c t.world.events (ran ++ es) left pending ∧
      next.Progress c t (ran ++ es) left pending := by
  have hknown : c ≤ s.world.opened := Nat.le_of_eq (hs.latest c up).1
  -- What is broken whatever comes next is broken now.
  have broken : (∀ more, parseFrames (worker.held ++ more) = ⟨[], .broken⟩) →
      parseFrames worker.held = ⟨[], .broken⟩ := by
    intro h
    have hnow := h []
    rwa [List.append_nil] at hnow
  cases h with
  | unfinished hcut =>
    rw [List.append_nil]
    exact ⟨_, _, parsing, .holding up origin (.inr ⟨rfl, hcut⟩)⟩
  | broken hcut =>
    rw [List.append_nil]
    exact ⟨_, _, parsing, .giving up origin rfl (broken (parseFrames_of_broken hcut))⟩
  | oversized hcut hdid =>
    refine ⟨_, _, parsing.quiet ?_ rfl, .giving (hdid.connection.trans up) ?_ rfl
      (broken (parseFrames_of_large hcut))⟩
    · rw [hdid.ran.events]
      exact stream_of_quiet rfl _
    · rw [hdid.link]
      exact origin
  | handled hcut hhandling =>
    rw [origin] at hhandling
    have hstream := hhandling.stream hs hknown
    obtain ⟨hhandled, hturn, hup, hlink⟩ := hhandling.calm (turn c false ran) calm up rfl
    rw [← hlink] at origin
    rw [← turn_append] at hturn
    cases hhandled with
    | published hdecode hacts =>
      exact ⟨_, _, parsing.frame hstream hcut hdecode hacts, .delivering hup origin rfl hturn⟩
    | done hdecode hacts =>
      refine ⟨_, _, parsing.frame hstream hcut hdecode ?_, .holding hup origin (.inl rfl)⟩
      rw [List.append_nil]
      exact hacts
  | @failed frame rest split nonempty _ _ _ hcut hhandling =>
    rw [origin] at hhandling
    have hstream := hhandling.stream hs hknown
    obtain ⟨hhandled, -, hup, hlink⟩ := hhandling.calm (turn c false ran) calm up rfl
    rw [← hlink] at origin
    cases hhandled with
    | undecodable hdecode hacts =>
      refine ⟨_, _, parsing.quiet hstream hacts, .giving hup origin rfl (broken ?_)⟩
      intro more
      rw [split, List.append_assoc]
      exact parseFrames_of_fault hcut hdecode _

/-- Acting on what came over another connection does nothing about this one's packets. -/
theorem Dispatching.foreign {running before : Bool} (apart : worker.origin.connection ≠ c)
    (quiet : conversation c es = []) (foreign : worker.IsForeign before)
    (h : Dispatching running worker s next es t) :
    acts c before es = [] ∧ next.IsForeign (turn c before es) := by
  have handled : ∀ {frame : List UInt8} {r : Except Fault Errand},
      Handling worker.origin frame s r es t →
        acts c before es = [] ∧ turn c before es = false := by
    intro frame r hhandling
    obtain ⟨u, rest, rfl, -, hpath⟩ := hhandling.begun
    have hrest := acts_of_others (c := c)
      (fun bytes he => nomatch hpath.frameless _ he) (unacknowledged_of_quiet quiet).tail
    have hturn : ∀ {frame : List UInt8}, (Event.frame worker.origin.connection frame).turn c before =
        false := decide_eq_false apart
    constructor
    · rw [acts, hturn, hrest.1]
      rfl
    · rw [turn, List.foldl_cons, hturn]
      exact hrest.2
  -- Calls take no frame, so they do not change whose turn it is.
  have done : ∀ {u : Session ω} {event : Event} {fs : List Event}, event.act? c before = none →
      event.turn c before = before → Session.Path (Session.Doing.isCall running ·) u fs t →
        acts c before (event :: fs) = [] := by
    intro u event fs hnone hsame hpath
    rw [acts, hnone, hsame, (hpath.outside.acts c before).1]
    rfl
  cases h with
  | cut _ hcut =>
    cases hcut with
    | unfinished => exact ⟨rfl, isForeign_of_errand rfl (by simp) _⟩
    | broken => exact ⟨rfl, isForeign_abandon _ _ _⟩
    | oversized => exact ⟨rfl, isForeign_abandon _ _ _⟩
    | handled _ hhandling => exact ⟨(handled hhandling).1, fun _ _ _ => (handled hhandling).2⟩
    | failed _ hhandling => exact ⟨(handled hhandling).1, isForeign_abandon _ _ _⟩
  | delivered herrand _ hcalls =>
    obtain rfl := foreign _ _ herrand
    exact ⟨done rfl rfl hcalls.path, isForeign_of_errand rfl (by simp) _⟩
  | gaveUp _ _ _ hdrop => exact ⟨done rfl rfl hdrop.path, isForeign_of_errand rfl (by simp) _⟩
  | stale => exact ⟨rfl, isForeign_of_errand rfl (by simp) _⟩

/-- What came over an older link changes nothing, as long as the handler makes no calls. -/
theorem Dispatching.stale_calm {running : Bool} (calm : Calm c es)
    (old : s.link ≠ worker.origin.link) (h : Dispatching running worker s next es t) :
    s.Did es t ∧ conversation c es = [] := by
  have hwhole := h
  cases h with
  | cut herrand =>
    obtain ⟨hdid, hquiet⟩ := hwhole.stale_did (.inl herrand) old
    exact ⟨hdid, hquiet c⟩
  | delivered _ hdid hcalls =>
    obtain ⟨rfl, rfl⟩ := hcalls.calm calm.tail
    exact ⟨hdid, rfl⟩
  | gaveUp _ hlink => exact absurd hlink old
  | stale _ _ hdid => exact ⟨hdid, rfl⟩

/-- **A worker that dropped a link is done with what came over it.**  Nothing is read
from a connection that is not the link, and what is read from the next one is told apart
by its number. -/
theorem Moving.gone {before : Bool} (known : c ≤ s.world.opened) (down : s.connection ≠ some c)
    (receiving : worker.phase = .receiving → worker.errand = .pass)
    (apart : worker.errand ≠ .pass → worker.origin.connection ≠ c)
    (foreign : worker.IsForeign before) (h : Moving true worker s next es t) :
    acts c before es = [] ∧ next.IsForeign (turn c before es) ∧
      (next.errand ≠ .pass → next.origin.connection ≠ c) := by
  have hquiet : conversation c es = [] := (h.path.parted known down).1
  cases h with
  | received hphase htaking =>
    have hidle := receiving hphase
    have hunacted : Without Event.isAct es :=
      htaking.without (fun _ _ _ _ => rfl) (fun _ => rfl) Session.Path.unacted
    obtain ⟨hacts, -⟩ := acts_of_unacted hunacted (unacknowledged_of_quiet hquiet) before
    cases htaking with
    | nothing => exact ⟨hacts, isForeign_of_errand hidle (by simp) _, apart⟩
    | taken _ hread =>
      refine ⟨hacts, isForeign_of_errand rfl (by simp) _, fun _ => ?_⟩
      cases hread with
      | received chunk up =>
        -- The bytes come over the link, and this connection is not it.
        simp only [up, Option.getD_some]
        rintro rfl
        exact down up
    | failed => exact ⟨hacts, isForeign_of_errand hidle (by simp) _, apart⟩
  | woke _ hpause =>
    obtain ⟨hacts, hturn⟩ := hpause.outside.acts c before
    rw [hturn]
    exact ⟨hacts, foreign, apart⟩
  | passed _ hidle hpassing =>
    obtain ⟨hacts, -⟩ := hpassing.outside.acts c before
    have hnext := hpassing.idle hidle
    exact ⟨hacts, isForeign_of_errand hnext (by simp) _, fun hmore => absurd hnext hmore⟩
  | dispatched _ hmore hdispatch =>
    obtain ⟨hacts, hforeign⟩ := hdispatch.foreign (apart hmore) hquiet foreign
    refine ⟨hacts, hforeign, fun _ => ?_⟩
    rw [hdispatch.origin]
    exact apart hmore

/-- A worker that may stay as it is comes to its read with all the bytes that are left. -/
theorem Servicing.progress (calm : Calm c es) (up : s.connection = some c)
    (idle : worker.errand = .pass) (progress : worker.Progress c s ran left pending)
    (h : Servicing worker s next es t) :
    next.Progress c t (ran ++ es) left pending := by
  obtain ⟨hup, hlink, herrand, hkept⟩ := h.calm calm up
  have hidle : next.errand = .pass := herrand.trans idle
  cases progress with
  | fresh _ hother hforeign =>
    refine .fresh hup (fun hbusy => ?_) (isForeign_of_errand hidle (by simp) _)
    -- Bytes of an older link are thrown away as the worker turns to this one.
    have hheld : next.held = [] := by
      rcases hkept with ⟨hsame, hheld, -⟩ | ⟨-, hheld⟩
      · rw [hheld]
        by_cases hnone : worker.held = []
        · exact hnone
        · exact absurd hsame.symm (hother (.inl hnone))
      · exact hheld
    rcases hbusy with hsome | hmore
    · exact absurd hheld hsome
    · exact absurd hidle hmore
  | holding _ horigin herrand' =>
    rcases hkept with ⟨-, hheld, hsame⟩ | ⟨hother, -⟩
    · rw [← hheld]
      refine .holding hup ?_ (.inr ⟨hidle, ?_⟩)
      · rw [hsame, hlink]
        exact horigin
      · rw [hheld]
        rcases herrand' with hcut | ⟨-, hcut⟩
        · exact nomatch idle.symm.trans hcut
        · exact hcut
    · rw [horigin] at hother
      exact absurd rfl hother
  | delivering _ _ hdeliver => exact nomatch idle.symm.trans hdeliver
  | giving _ _ hgives => exact nomatch idle.symm.trans hgives
  | gone down => exact absurd up down

/-- A worker that dispatches what came over an older link has met nothing yet of this one. -/
theorem Dispatching.stays_fresh {running : Bool} (track : worker.Tracked s)
    (up : s.connection = some c) (more : worker.errand ≠ .pass)
    (old : s.link ≠ worker.origin.link) (foreign : worker.IsForeign (turn c false ran))
    (calm : Calm c es) (parsing : Parsing c s.world.events ran [] [])
    (h : Dispatching running worker s next es t) :
    Parsing c t.world.events (ran ++ es) [] [] ∧ next.Progress c t (ran ++ es) [] [] := by
  have hapart : worker.origin.connection ≠ c := by
    rintro rfl
    exact (track.follows (.inr more)).apart track.counted old up
  obtain ⟨hdid, hquiet⟩ := h.stale_calm calm old
  obtain ⟨hacts, hforeign⟩ := h.foreign hapart hquiet foreign
  refine ⟨parsing.quiet ?_ hacts, .fresh (hdid.connection.trans up) (fun _ => ?_) ?_⟩
  · rw [hdid.ran.events]
    exact stream_of_quiet hquiet _
  · rw [hdid.link, h.origin]
    exact old
  · rw [turn_append]
    exact hforeign

/-- The message that is pending goes to the handler. -/
theorem Dispatching.delivers {running : Bool} {topic : String} {payload : List UInt8}
    (up : s.connection = some c) (origin : worker.origin = ⟨s.link, c⟩)
    (errand : worker.errand = .deliver topic payload) (before : turn c false ran = true)
    (calm : Calm c es)
    (parsing : Parsing c s.world.events ran worker.held [.delivered topic payload])
    (h : Dispatching running worker s next es t) :
    Parsing c t.world.events (ran ++ es) worker.held [] ∧
      next.Progress c t (ran ++ es) worker.held [] := by
  cases h with
  | delivered hdelivers hdid hcalls =>
    obtain ⟨rfl, rfl⟩ := hcalls.calm calm.tail
    cases hdelivers.symm.trans errand
    refine ⟨parsing.act ?_ ?_, .holding (hdid.connection.trans up) ?_ (.inl rfl)⟩
    · rw [hdid.ran.events]
      exact stream_of_quiet rfl _
    · rw [before]
      rfl
    · rw [hdid.link]
      exact origin
  | cut hcut => exact nomatch hcut.symm.trans errand
  | gaveUp hgives => exact nomatch hgives.symm.trans errand
  | stale hgives => exact nomatch hgives.symm.trans errand

/-- The link is dropped, for the frame that is broken. -/
theorem Dispatching.drops {running : Bool} {fault : Fault} (hs : s.Tidy)
    (up : s.connection = some c) (link : s.link = worker.origin.link)
    (errand : worker.errand = .giveUp fault) (broken : parseFrames left = ⟨[], .broken⟩)
    (parsing : Parsing c s.world.events ran left [])
    (h : Dispatching running worker s next es t) :
    Parsing c t.world.events (ran ++ es) left [] ∧ next.Progress c t (ran ++ es) left [] := by
  cases h with
  | gaveUp _ _ hdid hdrop =>
    have hpath : Session.Path (Session.Doing.isCall true ·) s _ t :=
      (hdid.told rfl rfl).trans hdrop.path
    have hinert := Session.inert_of_isCall hs hpath
    have hknown : c ≤ s.world.opened := Nat.le_of_eq (hs.latest c up).1
    refine ⟨parsing.quiet (hinert.streams c hknown) (hpath.outside.acts c _).1, ?_⟩
    cases hdrop with
    | nothing hdown => exact nomatch (hdid.connection.trans up).symm.trans hdown
    | closed hup hclosing hclosed =>
      cases (hdid.connection.trans up).symm.trans hup
      refine .gone ?_ ?_ broken (fun hmore => absurd rfl hmore)
        (isForeign_of_errand rfl (by simp) _)
      · rw [hclosed.connection]
        simp
      · cases hclosing <;> simp
  | stale _ hold => exact absurd link hold
  | cut hcut => exact nomatch hcut.symm.trans errand
  | delivered hdeliver => exact nomatch hdeliver.symm.trans errand

/-- What comes of a step of a dispatch while the link is up. -/
theorem Dispatching.reassembles {running : Bool} (track : worker.Tracked s)
    (up : s.connection = some c) (more : worker.errand ≠ .pass) (calm : Calm c es)
    (parsing : Parsing c s.world.events ran left pending)
    (progress : worker.Progress c s ran left pending)
    (h : Dispatching running worker s next es t) :
    ∃ left pending, Parsing c t.world.events (ran ++ es) left pending ∧
      next.Progress c t (ran ++ es) left pending := by
  cases progress with
  | fresh _ hother hforeign =>
    exact ⟨_, _, h.stays_fresh track up more (hother (.inr more)) hforeign calm parsing⟩
  | holding _ hfrom herrand =>
    rcases herrand with hcut | ⟨hidle, -⟩
    · cases h with
      | cut _ hcutting => exact hcutting.reassembles track.tidy up hfrom calm parsing
      | delivered hdeliver => exact nomatch hdeliver.symm.trans hcut
      | gaveUp hgives => exact nomatch hgives.symm.trans hcut
      | stale hgives => exact nomatch hgives.symm.trans hcut
    · exact absurd hidle more
  | delivering _ hfrom hdeliver hturn =>
    exact ⟨_, _, h.delivers up hfrom hdeliver hturn calm parsing⟩
  | giving _ hfrom hgives hbroken =>
    exact ⟨_, _, h.drops track.tidy up (by rw [hfrom]) hgives hbroken parsing⟩
  | gone down => exact absurd up down

/-- **Every move keeps what came over a connection parsed**, as far as the worker has come
with it, while nothing disturbs the link. -/
theorem Moving.reassembles (track : worker.Tracked s)
    (receiving : worker.phase = .receiving → worker.errand = .pass ∧ s.link = worker.origin.link)
    (calm : Calm c es) (h : worker.Reassembles c s ran) (hmove : Moving true worker s next es t) :
    next.Reassembles c t (ran ++ es) := by
  obtain ⟨hknown, left, pending, hparsing, hprogress⟩ := h
  have hopened : c ≤ t.world.opened := Nat.le_trans hknown hmove.path.ran.opened_le
  -- While the connection is the link, what the worker holds came over it; once it is
  -- not, nothing more comes and nothing more is done about it.
  by_cases up : s.connection = some c
  · cases hmove with
    | received hphase htaking =>
      obtain ⟨hidle, hlink⟩ := receiving hphase
      exact ⟨hopened, htaking.reassembles track.tidy up hidle hlink calm hparsing hprogress⟩
    | woke _ hpause =>
      have hdid : s.Did es t := by
        cases hpause with
        | ended => exact .refl _
        | slice _ _ _ hdid => exact hdid
      exact Reassembles.alike ⟨hknown, left, pending, hparsing, hprogress⟩ track.tidy
        hpause.outside ⟨rfl, rfl, rfl⟩ hdid.connection hdid.link
    | passed _ hidle hpassing =>
      have houtside := hpassing.outside
      obtain ⟨hacts, -⟩ := houtside.acts c (turn c false ran)
      have hinert := Session.inert_of_isOutside track.tidy houtside
      refine ⟨hopened, left, pending, hparsing.quiet (hinert.streams c hknown) hacts, ?_⟩
      cases hpassing with
      | linked _ hservice =>
        exact hservice.progress calm up hidle hprogress
      | reconnected hdown => exact nomatch up.symm.trans hdown
      | postponed hdown => exact nomatch up.symm.trans hdown
    | dispatched _ hmore hdispatch =>
      exact ⟨hopened, hdispatch.reassembles track up hmore calm hparsing hprogress⟩
  · obtain ⟨hquiet, hdown⟩ := hmove.path.parted hknown up
    cases hprogress with
    | gone _ hclose hbroken hapart hforeign =>
      obtain ⟨hacts, hnext, hother⟩ :=
        hmove.gone hknown up (fun hphase => (receiving hphase).1) hapart hforeign
      refine ⟨hopened, left, [], hparsing.quiet ?_ hacts,
        .gone hdown (List.mem_append_left _ hclose) hbroken hother ?_⟩
      · rw [hmove.path.ran.events]
        exact stream_of_quiet hquiet _
      · rw [turn_append]
        exact hnext
    | fresh hup => exact absurd hup up
    | holding hup => exact absurd hup up
    | delivering hup => exact absurd hup up
    | giving hup => exact absurd hup up

end

end Worker
end Mqtt
