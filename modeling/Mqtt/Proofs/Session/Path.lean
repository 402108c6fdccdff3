/-
# A session step by step

Whatever a session does is a sequence of a few kinds of steps (`Step`): it sends
a whole frame over its link, or fails to and closes it; it reads from the link;
it says goodbye and closes it; it drops it; it opens one; it tells of something
that touches no connection; or it only sets what it remembers.  A `Path` is a run
of such steps, each of a kind allowed by a predicate on `Doing`, so what every
step of those kinds preserves is preserved by the operations (`Path.preserves`).
-/
import Mqtt.Client.Answer
import Mqtt.Proofs.Session.Handshake
import Mqtt.Proofs.Session.Traffic

namespace Mqtt

open Mqtt.Action

/-- The event touches no connection, and tells neither of a link that opens nor of a
subscription that is kept. -/
def Event.isTold : Event → Bool
  | .notice (.connected ..) | .notice (.subscribed ..) | .connect .. | .secure .. | .read ..
  | .write .. | .flush .. | .close _ => false
  | _ => true

/-- The event tells of acting on what the broker sent. -/
def Event.isAct : Event → Bool
  | .frame .. | .message .. | .notice .ponged | .notice (.ignored _)
  | .notice (.subscriptionRejected _) => true
  | _ => false

/-- A packet that an open session sends before it ends. -/
def Outbound.isTraffic : Outbound → Bool
  | .connect _ | .disconnect => false
  | .publish _ | .subscribe .. | .pubAck _ | .pingReq => true

namespace Session

/-- What a step of a session is. -/
inductive Doing where
  /-- Sets identifiers, or only lets time pass. -/
  | tune
  /-- Keeps a subscription. -/
  | keep (filter : String) (qos : QoS)
  /-- Sets the keep-alive timers. -/
  | time
  /-- Tells of something, by an event that touches no connection. -/
  | tell (event : Event)
  /-- Reads from the link. -/
  | hear
  /-- Sends a packet, or closes the link for not being able to. -/
  | send (packet : Outbound)
  /-- Says goodbye and closes the link. -/
  | leave
  /-- Gives up the link without a word to the broker. -/
  | drop
  /-- Opens a link, or fails to. -/
  | raise

variable {ω ε α : Type}

/-- One step of a session. -/
inductive Step : Doing → Session ω → List Event → Session ω → Prop
  /-- The counter of identifiers is set, possibly to what it was. -/
  | tuned {s t : Session ω} (packetId : UInt16) : Did { s with packetId } [] t →
      Step .tune s [] t
  /-- A subscription is kept, and that is told.  The two are one step, so the registry
  can be told from the history after each. -/
  | kept {filter : String} {qos : QoS} {outcome : Recorded} {registry : Registry}
      {s t : Session ω} : s.registry.record filter qos = .ok (outcome, registry) →
      Did { s with registry } [.notice (.subscribed filter qos)] t →
      Step (.keep filter qos) s [.notice (.subscribed filter qos)] t
  /-- The timers are set, and nothing is done. -/
  | timed {s t : Session ω} (keepAlive : KeepAlive) : Did { s with keepAlive } [] t →
      Step .time s [] t
  /-- Something is told, and nothing else changes. -/
  | told {event : Event} {s t : Session ω} : event.isTold = true → s.Did [event] t →
      Step (.tell event) s [event] t
  /-- The link is read from, with whatever result. -/
  | heard {connection capacity : Nat} {timeout : UInt32} {r : Except NetFault (List UInt8)}
      {s t : Session ω} : s.connection = some connection →
      s.Did [.read connection capacity timeout r] t →
      Step .hear s [.read connection capacity timeout r] t
  /-- A packet goes out over the link, whole and flushed. -/
  | sent {packet : Outbound} {connection : Nat} {frame : List UInt8} {es : List Event}
      {s t : Session ω} : packet.isTraffic = true → packet.pack frameLimit = .ok frame →
      s.connection = some connection → Sending connection frame (.ok ()) es → s.Did es t →
      Step (.send packet) s es t
  /-- A packet could not be sent.  The connection is closed in the same step, and what
  is told in between is that subscriptions could not be restored, if it was one of
  those. -/
  | broken {packet : Outbound} {connection : Nat} {frame : List UInt8} {fault : Fault}
      {es ns fs : List Event} {s t : Session ω} :
      packet.isTraffic = true ∨ packet = .disconnect → packet.pack frameLimit = .ok frame →
      s.connection = some connection → Sending connection frame (.error fault) es →
      (∀ e ∈ ns, ∃ fault, e = .notice (.resubscribeFailed fault)) → Closing connection fs →
      Did { s with connection := none } (es ++ ns ++ fs) t →
      Step (.send packet) s (es ++ ns ++ fs) t
  /-- The session says goodbye and closes the link. -/
  | left {connection : Nat} {frame : List UInt8} {es fs : List Event} {s t : Session ω} :
      Outbound.disconnect.pack frameLimit = .ok frame → s.connection = some connection →
      Sending connection frame (.ok ()) es → Closing connection fs →
      Did { s with connection := none } (es ++ fs) t → Step .leave s (es ++ fs) t
  /-- The link is closed without a goodbye. -/
  | dropped {connection : Nat} {es : List Event} {s t : Session ω} :
      s.connection = some connection → Closing connection es →
      Did { s with connection := none } es t → Step .drop s es t
  /-- A link is opened where there was none, or the attempt fails. -/
  | raised {r : Except Fault Unit} {es : List Event} {s t : Session ω} : s.connection = none →
      Opening s r es t → Step .raise s es t

/-- What opening a link did is in the history, whether or not a link came of it. -/
theorem Opening.ran {r : Except Fault Unit} {es : List Event} {s t : Session ω}
    (h : Opening s r es t) : s.world.Ran es t.world := by
  cases h with
  | refused _ hdid => exact hdid.ran
  | failed _ _ _ hdid => exact hdid.ran
  | opened _ _ hdid => exact hdid.ran

/-- The events of a step are what it put into the history. -/
theorem Step.ran {d : Doing} {s t : Session ω} {es : List Event} (h : Step d s es t) :
    s.world.Ran es t.world := by
  cases h with
  | tuned _ hdid => exact hdid.ran
  | kept _ hdid => exact hdid.ran
  | timed _ hdid => exact hdid.ran
  | told _ hdid => exact hdid.ran
  | heard _ hdid => exact hdid.ran
  | sent _ _ _ _ hdid => exact hdid.ran
  | broken _ _ _ _ _ _ hdid => exact hdid.ran
  | left _ _ _ _ hdid => exact hdid.ran
  | dropped _ _ hdid => exact hdid.ran
  | raised _ hopen => exact hopen.ran

/-- No step changes the settings, and only opening a link changes its number. -/
theorem Step.unchanged {d : Doing} {s t : Session ω} {es : List Event} (h : Step d s es t) :
    t.settings = s.settings ∧ (d ≠ .raise → t.link = s.link) := by
  cases h with
  | tuned _ hdid => exact ⟨hdid.settings, fun _ => hdid.link⟩
  | kept _ hdid => exact ⟨hdid.settings, fun _ => hdid.link⟩
  | timed _ hdid => exact ⟨hdid.settings, fun _ => hdid.link⟩
  | told _ hdid => exact ⟨hdid.settings, fun _ => hdid.link⟩
  | heard _ hdid => exact ⟨hdid.settings, fun _ => hdid.link⟩
  | sent _ _ _ _ hdid => exact ⟨hdid.settings, fun _ => hdid.link⟩
  | broken _ _ _ _ _ _ hdid => exact ⟨hdid.settings, fun _ => hdid.link⟩
  | left _ _ _ _ hdid => exact ⟨hdid.settings, fun _ => hdid.link⟩
  | dropped _ _ hdid => exact ⟨hdid.settings, fun _ => hdid.link⟩
  | raised _ hopen =>
    refine ⟨?_, fun other => absurd rfl other⟩
    cases hopen with
    | refused _ hdid => exact hdid.settings
    | failed _ _ _ hdid => exact hdid.settings
    | opened _ _ hdid => exact hdid.settings

/-- A link over which sending fails is closed at once. -/
theorem Step.unsent {packet : Outbound} {connection : Nat} {frame : List UInt8} {fault : Fault}
    {es fs : List Event} {s t : Session ω} (kind : packet.isTraffic = true ∨ packet = .disconnect)
    (hpack : packet.pack frameLimit = .ok frame) (up : s.connection = some connection)
    (hes : Sending connection frame (.error fault) es) (hfs : Closing connection fs)
    (h : Did { s with connection := none } (es ++ fs) t) : Step (.send packet) s (es ++ fs) t := by
  have hstep : Step (.send packet) s (es ++ [] ++ fs) t :=
    .broken kind hpack up hes (by simp) hfs (by simpa using h)
  rwa [List.append_nil] at hstep

/-- A run of steps, all of allowed kinds. -/
inductive Path (allowed : Doing → Prop) : Session ω → List Event → Session ω → Prop
  /-- A run without steps. -/
  | refl (s : Session ω) : Path allowed s [] s
  /-- A run, and one more step of an allowed kind at its end. -/
  | snoc {d : Doing} {s t u : Session ω} {es fs : List Event} :
      Path allowed s es t → allowed d → Step d t fs u → Path allowed s (es ++ fs) u

namespace Path

variable {allowed more : Doing → Prop} {s t u : Session ω} {es fs : List Event}

/-- One allowed step is a run. -/
theorem single {d : Doing} (ok : allowed d) (h : Step d s es t) : Path allowed s es t :=
  .snoc (.refl s) ok h

/-- Two runs, one after the other, are a run of what both did. -/
theorem trans (h : Path allowed s es t) (h' : Path allowed t fs u) :
    Path allowed s (es ++ fs) u := by
  induction h' with
  | refl => simpa using h
  | snoc _ ok step ih =>
    rw [← List.append_assoc]
    exact .snoc (ih h) ok step

/-- A run may be given with its first step in front, although runs grow at their end. -/
theorem cons {d : Doing} (ok : allowed d) (h : Step d s es t) (h' : Path allowed t fs u) :
    Path allowed s (es ++ fs) u :=
  (single ok h).trans h'

/-- A run of steps is one of any larger choice of steps. -/
theorem mono (sub : ∀ d, allowed d → more d) (h : Path allowed s es t) : Path more s es t := by
  induction h with
  | refl => exact .refl _
  | snoc _ ok step ih => exact .snoc ih (sub _ ok) step

/-- Whatever its steps are, a run is a run of steps. -/
theorem any (h : Path allowed s es t) : Path (fun _ => True) s es t :=
  h.mono fun _ _ => trivial

/-- The events of a run are what it put into the history. -/
theorem ran (h : Path allowed s es t) : s.world.Ran es t.world := by
  induction h with
  | refl s => exact .refl s.world
  | snoc _ _ step ih => exact ih.trans step.ran

/-- What every step keeps, a run of steps keeps. -/
theorem preserves {Inv : Session ω → Prop}
    (keep : ∀ {d : Doing} {s t : Session ω} {es : List Event}, allowed d → Inv s →
      Step d s es t → Inv t)
    (h : Path allowed s es t) (hs : Inv s) : Inv t := by
  induction h with
  | refl => exact hs
  | snoc _ ok step ih => exact keep ok (ih hs) step

/-- No step changes the settings, so a session keeps those that it started with. -/
theorem settings (h : Path allowed s es t) : t.settings = s.settings :=
  h.preserves (fun _ hs step => step.unchanged.1.trans hs) rfl

/-- Steps that open no link leave its number alone. -/
theorem link (h : Path (· ≠ .raise) s es t) : t.link = s.link :=
  h.preserves (fun other hs step => (step.unchanged.2 other).trans hs) rfl

end Path

/-- Doing one thing after another passes through a session between the two; a change
that leaves the world alone can as well be made there. -/
theorem Did.split_update {f : Session ω → Session ω} {s t : Session ω} {es fs : List Event}
    (apart : ∀ s w, f { s with world := w } = { f s with world := w })
    (h : (f s).Did (es ++ fs) t) : ∃ u, s.Did es u ∧ (f u).Did fs t := by
  have hw : ∀ s, (f s).world = s.world := fun s => by rw [apart s s.world]
  obtain ⟨⟨new, hnew, hes⟩, hopened⟩ := h.ran
  rw [hw] at hnew hopened
  rw [openings_append] at hopened
  -- What was written down last stands first.
  obtain ⟨first, second, hsplit, rfl, rfl⟩ := List.map_eq_append_iff.1 hes
  have hall : new = second.reverse ++ first.reverse := by
    rw [← List.reverse_append, ← hsplit, List.reverse_reverse]
  let w : World ω := { s.world with
    opened := s.world.opened + openings (first.map (·.event))
    history := first.reverse ++ s.world.history }
  refine ⟨{ s with world := w }, ⟨⟨⟨first.reverse, rfl, by simp⟩, rfl⟩, rfl⟩,
    ⟨⟨second.reverse, ?_, by simp⟩, ?_⟩, ?_⟩
  · rw [apart, hnew, hall, List.append_assoc]
  · rw [apart, hopened, Nat.add_assoc]
  · rw [apart]
    exact h.rest

/-- What was done event by event was done up to some session and on from there, so a
stretch can be cut between any two events. -/
theorem Did.split {s t : Session ω} {event : Event} {es : List Event} (h : s.Did (event :: es) t) :
    ∃ u, s.Did [event] u ∧ u.Did es t :=
  Did.split_update (f := id) (fun _ _ => rfl) (List.singleton_append ▸ h)

/-- The steps of a call, and of whatever else does not act on what the broker
sends: reading, acting on a frame, acknowledging it and sleeping are left to the worker,
and tasks to the client.  Only a client that is running opens links and restores them,
sets timers, pings and gives a link up for a missing answer. -/
def Doing.isCall (running : Bool) : Doing → Bool
  | hear | send (.pubAck _) | tell (.spawn ..) | tell .join | tell (.sleep _) => false
  | raise | time | send .pingReq | tell (.notice .pingUnanswered)
  | tell (.notice (.restored _)) => running
  | tell event => !event.isAct
  | _ => true

/-- The steps of a pass up to its read: those of a call, and sleeping. -/
def Doing.isPass : Doing → Bool
  | tell (.sleep _) => true
  | d => d.isCall true

/-- The steps of everything but a worker that acts on what the broker sends. -/
def Doing.isOutside : Doing → Bool
  | hear | send (.pubAck _) => false
  | tell event => !event.isAct
  | _ => true

/-- The steps of a worker.  Tasks are started and joined by the client alone. -/
def Doing.isWork (running : Bool) : Doing → Bool
  | tell (.spawn ..) | tell .join => false
  | raise | tell (.sleep _) => running
  | _ => true

/-- A worker may do whatever a call does. -/
theorem Doing.isWork_of_isCall {running : Bool} {d : Doing} (h : d.isCall running = true) :
    d.isWork running = true := by
  cases d with
  | tell event => cases event <;> first | rfl | cases h
  | raise => exact h
  | _ => rfl

/-- A pass up to its read may do whatever a call does while the client is running. -/
theorem Doing.isPass_of_isCall {d : Doing} (h : d.isCall true = true) : d.isPass = true := by
  unfold isPass
  split
  · rfl
  · exact h

/-- A worker may do whatever is done in a pass up to its read. -/
theorem Doing.isWork_of_isPass {d : Doing} (h : d.isPass = true) : d.isWork true = true := by
  unfold isPass at h
  split at h
  · rfl
  · exact isWork_of_isCall h

/-- Calls act on nothing that the broker sent, so they are made outside of a dispatch. -/
theorem Doing.isOutside_of_isCall {running : Bool} {d : Doing} (h : d.isCall running = true) :
    d.isOutside = true := by
  cases d with
  | hear => cases h
  | send packet => cases packet <;> first | rfl | cases h
  | tell event =>
    cases event with
    | notice n => cases n <;> first | rfl | cases h
    | _ => first | rfl | cases h
  | _ => rfl

/-- A pass up to its read acts on nothing that the broker sent. -/
theorem Doing.isOutside_of_isPass {d : Doing} (h : d.isPass = true) : d.isOutside = true := by
  unfold isPass at h
  split at h
  · rfl
  · exact isOutside_of_isCall h

/-- Calls leave acting on what the broker sends to others. -/
theorem Path.outside {running : Bool} {s t : Session ω} {es : List Event}
    (h : Path (Doing.isCall running ·) s es t) : Path (Doing.isOutside ·) s es t :=
  h.mono fun _ => Doing.isOutside_of_isCall

/-- Telling of something is a step. -/
theorem Did.told {event : Event} {running : Bool} {s t : Session ω} (quiet : event.isTold = true)
    (call : (Doing.tell event).isCall running = true) (h : s.Did [event] t) :
    Path (Doing.isCall running ·) s [event] t :=
  .single call (.told quiet h)

/-- So is telling of it in one case only. -/
theorem Did.told_unless {event : Event} {running : Bool} {s t : Session ω} (silent : Prop)
    [Decidable silent] (quiet : event.isTold = true)
    (call : (Doing.tell event).isCall running = true)
    (h : s.Did (if silent then [] else [event]) t) :
    Path (Doing.isCall running ·) s (if silent then [] else [event]) t := by
  by_cases hquiet : silent
  · rw [if_pos hquiet] at h ⊢
    exact .single rfl (.tuned _ h)
  · rw [if_neg hquiet] at h ⊢
    exact h.told quiet call

/-- Giving up the link is a step at most, which any call may take. -/
theorem Dropping.path {running : Bool} {es : List Event} {s t : Session ω}
    (h : Dropping s es t) : Path (Doing.isCall running ·) s es t := by
  cases h with
  | nothing => exact .refl _
  | closed up hes hdid => exact .single rfl (.dropped up hes hdid)

/-- Giving up the link acts on nothing that the broker sent. -/
theorem Dropping.outside {es : List Event} {s t : Session ω} (h : Dropping s es t) :
    Path (Doing.isOutside ·) s es t := by
  have hcall : Path (Doing.isCall true ·) s es t := h.path
  exact hcall.outside

/-- Sending a packet over the link is a step of sending that packet, whether it succeeds
or closes the link, and no step at all if nothing is sent. -/
theorem Transmitting.path {packet : Outbound} {r : Except Fault Unit} {es : List Event}
    {s t : Session ω} (traffic : packet.isTraffic = true) (h : Transmitting packet s r es t) :
    Path (· = .send packet) s es t := by
  cases h with
  | unpackable => exact .refl _
  | notConnected => exact .refl _
  | sent hpack up hes hdid => exact .single rfl (.sent traffic hpack up hes hdid)
  | failed hpack up hes hfs hdid => exact .single rfl (.unsent (.inl traffic) hpack up hes hfs hdid)

/-- A packet other than an acknowledgement is sent by calls. -/
theorem Transmitting.path_isCall {packet : Outbound} {running : Bool} {r : Except Fault Unit}
    {es : List Event} {s t : Session ω} (traffic : packet.isTraffic = true)
    (call : (Doing.send packet).isCall running = true) (h : Transmitting packet s r es t) :
    Path (Doing.isCall running ·) s es t :=
  (h.path traffic).mono fun d (hd : d = .send packet) => hd ▸ call

/-- Identifiers can be set at any time. -/
theorem Path.tuned {running : Bool} {s t : Session ω} {es : List Event} (packetId : UInt16)
    (h : Path (Doing.isCall running ·) { s with packetId } es t) :
    Path (Doing.isCall running ·) s es t :=
  .cons (by exact rfl) (.tuned packetId (.refl _)) h

/-- The timers can be set as long as the client runs. -/
theorem Path.timed {s t : Session ω} {es : List Event} (keepAlive : KeepAlive)
    (h : Path (Doing.isCall true ·) { s with keepAlive } es t) :
    Path (Doing.isCall true ·) s es t :=
  .cons (by exact rfl) (.timed keepAlive (.refl _)) h

/-- Receiving is a step of reading, and one of telling where the read fails; without a
link it is none. -/
theorem Receiving.path {running : Bool} {capacity : Nat} {timeout : UInt32}
    {r : Except Fault (Chunk capacity)} {es : List Event} {s t : Session ω}
    (h : Receiving capacity timeout s r es t) : Path (Doing.isWork running ·) s es t := by
  cases h with
  | notConnected => exact .refl _
  | received chunk up hdid => exact .single rfl (.heard up hdid)
  | failed fault up hdid =>
    obtain ⟨u, hread, hnotice⟩ := hdid.split
    exact .cons (by exact rfl) (.heard up hread) (.single rfl (.told rfl hnotice))

/-- Servicing the keep-alive takes steps of a call: the ping, the timers, and giving up a
link that owes an answer. -/
theorem KeepingAlive.path {time : UInt32} {r : Except Fault Unit} {es : List Event}
    {s t : Session ω} (h : KeepingAlive time s r es t) : Path (Doing.isCall true ·) s es t := by
  cases h with
  | nothing => exact .refl _
  | pinged _ hsent hdid =>
    exact (hsent.path_isCall rfl rfl).trans (.timed _ (hdid.told rfl rfl))
  | unsent _ hsent => exact hsent.path_isCall rfl rfl
  | dead _ hdid hdrop => exact (hdid.told rfl rfl).trans hdrop.path

/-- Publishing takes an identifier if the message is to be acknowledged, and sends one
packet; what it tells afterwards is one more step. -/
theorem Publishing.path {running : Bool} {topic : String} {payload : List UInt8} {qos : QoS}
    {r : Except Fault Unit} {es : List Event} {s t : Session ω}
    (h : Publishing topic payload qos s r es t) : Path (Doing.isCall running ·) s es t := by
  have taken : ∀ {fs : List Event} {u : Session ω},
      Path (Doing.isCall running ·) (s.identifiedFor qos) fs u →
        Path (Doing.isCall running ·) s fs u := by
    intro fs u hu
    cases qos with
    | atMostOnce => exact hu
    | atLeastOnce => exact .tuned _ hu
  cases h with
  | invalid => exact .refl _
  | notConnected => exact .refl _
  | failed _ _ hsent => exact taken (hsent.path_isCall rfl rfl)
  | sent _ _ hsent hdid => exact (taken (hsent.path_isCall rfl rfl)).trans (hdid.told rfl rfl)

/-- Subscribing takes an identifier, sends one packet, and keeps the subscription only
then. -/
theorem Subscribing.path {running : Bool} {filter : String} {qos : QoS} {r : Except Fault Recorded}
    {es : List Event} {s t : Session ω} (h : Subscribing filter qos s r es t) :
    Path (Doing.isCall running ·) s es t := by
  cases h with
  | empty => exact .refl _
  | tooLong => exact .refl _
  | notConnected => exact .refl _
  | failed _ _ _ hsent => exact .tuned _ (hsent.path_isCall rfl rfl)
  | @recorded _ outcome registry es fs _ _ _ _ _ _ hsent hdid hrecord hfs hend =>
    have hkept := hdid.update (f := fun s => { s with registry }) fun _ _ => rfl
    refine (Path.tuned _ (hsent.path_isCall rfl rfl)).trans
      (.cons (by exact rfl) (.kept (hdid.registry ▸ hrecord) hkept) ?_)
    rw [hfs] at hend ⊢
    split at hend
    case isTrue hfull =>
      rw [if_pos hfull]
      exact hend.told rfl rfl
    case isFalse hroom =>
      rw [if_neg hroom]
      exact .single rfl (.tuned _ hend)

/-- Leaving says goodbye, closes the link and tells so, each a step that any call may
take; without a link it takes none. -/
theorem Leaving.path {running : Bool} {es : List Event} {s t : Session ω} (h : Leaving s es t) :
    Path (Doing.isCall running ·) s es t := by
  cases h with
  | nothing => exact .refl _
  | left up hsent hdrop htold =>
    refine Path.trans ?_ (htold.told rfl rfl)
    cases hsent with
    | unpackable => exact hdrop.path
    | notConnected hdown => rw [hdown] at up; cases up
    | sent hpack hup hes hdid =>
      cases hdrop with
      | nothing hdown =>
        rw [hdid.connection, hup] at hdown
        cases hdown
      | closed hsome hfs hclosed =>
        rw [hdid.connection, hup] at hsome
        cases hsome
        have hleft := hdid.update (f := fun s => { s with connection := none }) fun _ _ => rfl
        exact .single rfl (.left hpack hup hes hfs (hleft.trans hclosed))
    | failed hpack hup hes hfs hdid =>
      cases hdrop with
      | nothing =>
        rw [List.append_nil]
        exact .single rfl (.unsent (.inr rfl) hpack hup hes hfs hdid)
      | closed hsome =>
        rw [hdid.connection] at hsome
        cases hsome

/-- Leaving acts on nothing that the broker sent. -/
theorem Leaving.outside {es : List Event} {s t : Session ω} (h : Leaving s es t) :
    Path (Doing.isOutside ·) s es t := by
  have hcall : Path (Doing.isCall true ·) s es t := h.path
  exact hcall.outside

/-- Sending all subscriptions again is a run of steps that a call of a running client may
take. -/
theorem Replaying.path {connection : Nat} {id id' : UInt16} {entries : List Registry.Entry}
    {r : Except Fault Unit} {es : List Event} {s t : Session ω}
    (h : Replaying connection id entries id' r es) (good : r = .ok ())
    (up : s.connection = some connection) (hdid : Did { s with packetId := id' } es t) :
    Path (Doing.isCall true ·) s es t := by
  induction h generalizing s with
  | done id => exact .single rfl (.tuned id hdid)
  | unpackable => cases good
  | failed => cases good
  | @sent _ last _ _ _ _ _ _ hpack hes _ ih =>
    obtain ⟨u, hfirst, hrest⟩ :=
      Did.split_update (f := fun s => { s with packetId := last }) (fun _ _ => rfl) hdid
    exact .cons (by exact rfl) (.sent rfl hpack up hes hfirst)
      (ih good (hfirst.connection.trans up) hrest)

/-- Sending subscriptions again up to one that cannot be sent, and giving up the link for
it, is such a run as well. -/
theorem Replaying.path_of_error {connection : Nat} {id id' : UInt16}
    {entries : List Registry.Entry} {r : Except Fault Unit} {fault : Fault} {es fs : List Event}
    {s t : Session ω} (h : Replaying connection id entries id' r es) (bad : r = .error fault)
    (up : s.connection = some connection) (hfs : Closing connection fs)
    (hdid : Did { s with packetId := id', connection := none }
      (es ++ .notice (.resubscribeFailed fault) :: fs) t) :
    Path (Doing.isCall true ·) s (es ++ .notice (.resubscribeFailed fault) :: fs) t := by
  induction h generalizing s with
  | done => cases bad
  | @unpackable last _ _ _ _ =>
    rw [List.nil_append, ← List.singleton_append] at hdid
    obtain ⟨u, hnote, hclosed⟩ := Did.split_update
      (f := fun s => { s with packetId := max (last + 1) 1, connection := none })
      (fun _ _ => rfl) hdid
    exact (hnote.told rfl rfl).trans (.tuned (max (last + 1) 1)
      (.single rfl (.dropped (hnote.connection.trans up) hfs hclosed)))
  | @failed last _ _ _ _ _ hpack hes =>
    cases bad
    rw [← List.singleton_append, ← List.append_assoc] at hdid ⊢
    exact .tuned (max (last + 1) 1)
      (.single rfl (.broken (.inl rfl) hpack up hes (by simp) hfs hdid))
  | @sent _ last _ _ _ _ _ _ hpack hes _ ih =>
    rw [List.append_assoc] at hdid ⊢
    obtain ⟨u, hfirst, hrest⟩ := Did.split_update
      (f := fun s => { s with packetId := last, connection := none }) (fun _ _ => rfl) hdid
    exact .cons (by exact rfl) (.sent rfl hpack up hes hfirst)
      (ih bad (hfirst.connection.trans up) hrest)

/-- Connecting anew gives the link up, opens one and sends the subscriptions, each a step
that a call of a running client may take. -/
theorem Reconnecting.path {r : Except Fault Unit} {es : List Event} {s t : Session ω}
    (h : Reconnecting s r es t) : Path (Doing.isCall true ·) s es t := by
  cases h with
  | unopened hdrop hnone hopen => exact hdrop.path.trans (.single rfl (.raised hnone hopen))
  | abandoned hdrop hnone hopen up hgs hhs hdid =>
    exact (hdrop.path.trans (.single rfl (.raised hnone hopen))).trans
      (hgs.path_of_error rfl up hhs hdid)
  | @restored _ id now _ _ _ _ _ v _ hdrop hnone hopen up hgs hhs hdid =>
    refine (hdrop.path.trans (.single rfl (.raised hnone hopen))).trans ?_
    obtain ⟨u, hsent, hend⟩ := Did.split_update (s := { v with packetId := id })
      (f := fun s => { s with keepAlive := v.keepAlive.reset now }) (fun _ _ => rfl) hdid
    rw [hhs] at hend ⊢
    exact (hgs.path rfl up hsent).trans (.timed _ (hend.told_unless _ rfl rfl))

end Session
end Mqtt
