/-
# Subscriptions that are kept

A session keeps a subscription exactly where a call to subscribe succeeds, so after any
run its registry recalls the successful calls, in order (`recalls_run`), and a move that is
none of them leaves it alone (`registry_step`).

The history tells of each kept subscription, and every step of a session keeps its
registry in line with what is told (`Step.recalls`); so the same holds of a session that a
client drives, where no list of calls is at hand.
-/
import Mqtt.Proofs.Session.Link
import Mqtt.Proofs.Session.Run

namespace Mqtt

/-- A subscription was kept. -/
def Event.subscription? : Event → Option (String × QoS)
  | .notice (.subscribed filter qos) => some (filter, qos)
  | _ => none

/-- The subscriptions that were kept, in order. -/
def subscriptions (events : List Event) : List (String × QoS) :=
  events.filterMap Event.subscription?

/-- The subscriptions kept in two stretches of a history come one after the other. -/
@[simp] theorem subscriptions_append (es fs : List Event) :
    subscriptions (es ++ fs) = subscriptions es ++ subscriptions fs :=
  List.filterMap_append

/-- What concerns one connection keeps no subscription. -/
theorem Concern.unsubscribed {c : Nat} {es : List Event} (h : Concern c es) :
    subscriptions es = [] := by
  refine List.filterMap_eq_nil_iff.2 fun e he => ?_
  have hconcerns := h e he
  cases e with
  | notice n => cases n <;> first | rfl | cases hconcerns
  | _ => rfl

/-- Opening a connection keeps no subscription. -/
theorem Connector.Dialing.unsubscribed {host : String} {tcpPort : UInt16} {timeout : UInt32}
    {number : Nat} {connector : Connector} {r : Except NetFault Nat} {es : List Event}
    (h : Dialing host tcpPort timeout number connector r es) : subscriptions es = [] := by
  cases h <;> rfl

namespace Session

variable {ω : Type}

/-- Opening a link keeps no subscription: those that it restores are kept already. -/
theorem Opening.unsubscribed {s t : Session ω} {r : Except Fault Unit} {es : List Event}
    (h : Opening s r es t) : subscriptions es = [] := by
  cases h with
  | refused hdial =>
    rw [subscriptions_append, hdial.unsubscribed]
    rfl
  | @failed number fault _ _ gs _ hdial hexchange hclosing =>
    have hclosed : subscriptions (.notice (.handshakeFailed fault) :: gs) = [] :=
      hclosing.concern.unsubscribed
    rw [subscriptions_append, subscriptions_append, hdial.unsubscribed,
      hexchange.concern.unsubscribed, hclosed]
    rfl
  | opened hdial hexchange =>
    rw [subscriptions_append, subscriptions_append, hdial.unsubscribed,
      hexchange.concern.unsubscribed]
    rfl

/-! ### What leaves the registry alone -/

/-- Giving up the link leaves the registry alone, and the counter of identifiers. -/
theorem Dropping.registry {s t : Session ω} {es : List Event} (h : Dropping s es t) :
    t.registry = s.registry ∧ t.packetId = s.packetId := by
  cases h with
  | nothing => exact ⟨rfl, rfl⟩
  | closed _ _ hdid => exact ⟨hdid.registry, hdid.packetId⟩

/-- Sending a packet leaves the registry alone, also where it fails and the link is lost. -/
theorem Transmitting.registry {packet : Outbound} {s t : Session ω} {r : Except Fault Unit}
    {es : List Event} (h : Transmitting packet s r es t) : t.registry = s.registry := by
  cases h with
  | unpackable => rfl
  | notConnected => rfl
  | sent _ _ _ hdid => exact hdid.registry
  | failed _ _ _ _ hdid => exact hdid.registry

/-- Opening a link leaves the registry alone, and the counter of identifiers. -/
theorem Opening.registry {s t : Session ω} {r : Except Fault Unit} {es : List Event}
    (h : Opening s r es t) : t.registry = s.registry ∧ t.packetId = s.packetId := by
  cases h with
  | refused _ hdid => exact ⟨hdid.registry, hdid.packetId⟩
  | failed _ _ _ hdid => exact ⟨hdid.registry, hdid.packetId⟩
  | opened _ _ hdid => exact ⟨hdid.registry, hdid.packetId⟩

/-- Connecting anew leaves the registry alone, also where a subscription cannot be
restored: it is tried again over the next link. -/
theorem Reconnecting.registry {s t : Session ω} {r : Except Fault Unit} {es : List Event}
    (h : Reconnecting s r es t) : t.registry = s.registry := by
  cases h with
  | unopened hdrop _ hopen => exact hopen.registry.1.trans hdrop.registry.1
  | abandoned hdrop _ hopen _ _ _ hdid =>
    exact hdid.registry.trans (hopen.registry.1.trans hdrop.registry.1)
  | restored hdrop _ hopen _ _ _ hdid =>
    exact hdid.registry.trans (hopen.registry.1.trans hdrop.registry.1)

/-- Servicing the keep-alive leaves the registry alone, also where it gives up the link. -/
theorem KeepingAlive.registry {time : UInt32} {s t : Session ω} {r : Except Fault Unit}
    {es : List Event} (h : KeepingAlive time s r es t) : t.registry = s.registry := by
  cases h with
  | nothing => rfl
  | pinged _ hsent hdid => exact hdid.registry.trans hsent.registry
  | unsent _ hsent => exact hsent.registry
  | dead _ hdid hdrop => exact hdrop.registry.1.trans hdid.registry

/-- Publishing leaves the registry alone. -/
theorem Publishing.registry {topic : String} {payload : List UInt8} {qos : QoS}
    {s t : Session ω} {r : Except Fault Unit} {es : List Event}
    (h : Publishing topic payload qos s r es t) : t.registry = s.registry := by
  have taken : (s.identifiedFor qos).registry = s.registry := by cases qos <;> rfl
  cases h with
  | invalid => rfl
  | notConnected => rfl
  | failed _ _ hsent => exact hsent.registry.trans taken
  | sent _ _ hsent hdid => exact hdid.registry.trans (hsent.registry.trans taken)

/-- Receiving leaves the registry alone. -/
theorem Receiving.registry {capacity : Nat} {timeout : UInt32} {s t : Session ω}
    {r : Except Fault (Chunk capacity)} {es : List Event}
    (h : Receiving capacity timeout s r es t) : t.registry = s.registry := by
  cases h with
  | notConnected => rfl
  | received _ _ hdid => exact hdid.registry
  | failed _ _ hdid => exact hdid.registry

/-- Leaving leaves the registry alone, so a session that connects again restores its
subscriptions. -/
theorem Leaving.registry {s t : Session ω} {es : List Event} (h : Leaving s es t) :
    t.registry = s.registry := by
  cases h with
  | nothing => rfl
  | left _ hsent hdrop hdid =>
    exact hdid.registry.trans (hdrop.registry.1.trans hsent.registry)

/-- A call to subscribe keeps the subscription if it succeeds, and nothing otherwise. -/
theorem Subscribing.registry {filter : String} {qos : QoS} {s t : Session ω}
    {r : Except Fault Recorded} {es : List Event} (h : Subscribing filter qos s r es t) :
    (∃ outcome, r = .ok outcome ∧ s.registry.record filter qos = .ok (outcome, t.registry)) ∨
      ∃ fault, r = .error fault ∧ t.registry = s.registry := by
  cases h with
  | empty => exact .inr ⟨_, rfl, rfl⟩
  | tooLong => exact .inr ⟨_, rfl, rfl⟩
  | notConnected => exact .inr ⟨_, rfl, rfl⟩
  | failed _ _ _ hsent => exact .inr ⟨_, rfl, hsent.registry⟩
  | recorded _ _ _ hsent hdid hrecord _ hend =>
    refine .inl ⟨_, rfl, ?_⟩
    rw [hdid.registry, hsent.registry] at hrecord
    rw [hend.registry]
    exact hrecord

/-! ### Steps -/

/-- Every step tells of no subscription and leaves the registry alone, or keeps one. -/
theorem Step.subscribing {d : Doing} {s t : Session ω} {es : List Event} (h : Step d s es t) :
    (subscriptions es = [] ∧ t.registry = s.registry) ∨
      ∃ filter qos outcome, subscriptions es = [(filter, qos)] ∧
        s.registry.record filter qos = .ok (outcome, t.registry) := by
  cases h with
  | tuned _ hdid => exact .inl ⟨rfl, hdid.registry⟩
  | @kept _ _ _ registry _ _ hrecord hdid =>
    have hsame : t.registry = registry := hdid.registry
    exact .inr ⟨_, _, _, rfl, by rw [hsame]; exact hrecord⟩
  | timed _ hdid => exact .inl ⟨rfl, hdid.registry⟩
  | @told event _ _ quiet hdid =>
    refine .inl ⟨?_, hdid.registry⟩
    cases event with
    | notice n => cases n <;> first | rfl | cases quiet
    | _ => rfl
  | heard _ hdid => exact .inl ⟨rfl, hdid.registry⟩
  | sent _ _ _ hes hdid => exact .inl ⟨hes.concern.unsubscribed, hdid.registry⟩
  | broken _ _ _ hes hns hfs hdid =>
    exact .inl ⟨((hes.concern.append (.lost hns)).append hfs.concern).unsubscribed, hdid.registry⟩
  | left _ _ hes hfs hdid =>
    exact .inl ⟨(hes.concern.append hfs.concern).unsubscribed, hdid.registry⟩
  | dropped _ hes hdid => exact .inl ⟨hes.concern.unsubscribed, hdid.registry⟩
  | raised _ hopen => exact .inl ⟨hopen.unsubscribed, hopen.registry.1⟩

/-- The registry recalls the subscriptions that the history tells of. -/
def Recalls (s : Session ω) : Prop :=
  s.registry.Recalls (subscriptions s.world.events)

/-- **A step keeps the registry in line with what the history tells of
subscriptions.**  A step that tells of no subscription leaves the registry alone. -/
theorem Step.recalls {d : Doing} {s t : Session ω} {es : List Event} (hs : s.Recalls)
    (h : Step d s es t) : t.Recalls := by
  rw [Recalls, h.ran.events, subscriptions_append]
  rcases h.subscribing with ⟨hnone, hsame⟩ | ⟨filter, qos, outcome, hone, hrecord⟩
  · rw [hnone, List.append_nil, hsame]
    exact hs
  · rw [hone]
    exact Registry.Recalls.record hs hrecord

/-- A run of steps keeps the registry in line with what the history tells of
subscriptions. -/
theorem Path.recalls {allowed : Doing → Prop} {s t : Session ω} {es : List Event}
    (h : Path allowed s es t) (hs : s.Recalls) : t.Recalls :=
  h.preserves (fun _ hs step => step.recalls hs) hs

/-! ### Runs -/

variable [Environment ω]

/-- The subscription that a move makes, if it is a call to subscribe and succeeds. -/
def subscribed? (s : Session ω) : Move ω → Option (String × QoS)
  | .subscribe filter qos =>
    if (s.outcome (.subscribe filter qos)).isOk = true then some (filter, qos) else none
  | _ => none

/-- The subscriptions made in a run of moves: the calls to subscribe that succeed, in
order. -/
def subscribedIn (s : Session ω) : List (Move ω) → List (String × QoS)
  | [] => []
  | move :: moves => (s.subscribed? move).toList ++ (s.step move).subscribedIn moves

/-- **A move keeps the subscription it makes, and otherwise leaves the registry
alone.**  Operations that fail on the way have not come to the registry yet. -/
theorem registry_step (s : Session ω) (move : Move ω) :
    match s.subscribed? move with
    | some (filter, qos) =>
      ∃ outcome, s.registry.record filter qos = .ok (outcome, (s.step move).registry)
    | none => (s.step move).registry = s.registry := by
  have h := yields_outcome s move
  cases move with
  | subscribe filter qos =>
    -- The move is the call with its result made into a return, so both succeed or neither does.
    have hrun : ∃ r es, Subscribing filter qos s r es (s.step (.subscribe filter qos)) ∧
        (s.outcome (.subscribe filter qos)).isOk = r.isOk := by
      rcases Action.yields_bind.1 h with ⟨fault, hs, hr⟩ | ⟨recorded, u, hs, hend⟩
      · obtain ⟨es, hes⟩ := subscribing_of_subscribe hs
        exact ⟨_, es, hes, by rw [hr]; rfl⟩
      · obtain ⟨es, hes⟩ := subscribing_of_subscribe hs
        obtain ⟨hr, hu⟩ := Action.yields_pure.1 hend
        exact ⟨_, es, hu ▸ hes, by rw [hr]; rfl⟩
    obtain ⟨r, es, hes, hok⟩ := hrun
    rw [subscribed?, hok]
    rcases hes.registry with ⟨outcome, rfl, hrecord⟩ | ⟨fault, rfl, hsame⟩
    · exact ⟨outcome, hrecord⟩
    · exact hsame
  | handshake =>
    obtain ⟨es, u, fs, hdrop, -, hopen⟩ := opening_of_handshake h
    exact hopen.registry.1.trans hdrop.registry.1
  | reconnect =>
    obtain ⟨es, hes⟩ := reconnecting_of_reconnect h
    exact hes.registry
  | publish topic payload qos =>
    obtain ⟨es, hes⟩ := publishing_of_publish h
    exact hes.registry
  | acknowledge packetId =>
    obtain ⟨es, hes⟩ := transmitting_of_transmit h
    exact hes.registry
  | serviceKeepAlive time =>
    obtain ⟨es, hes⟩ := keepingAlive_of_serviceKeepAlive h
    exact hes.registry
  | receive capacity timeout =>
    obtain ⟨x, hx⟩ := Action.yields_discard h
    obtain ⟨es, hes⟩ := receiving_of_receive hx
    exact hes.registry
  | ponged time =>
    obtain ⟨-, hnext⟩ := Action.yields_modify.1 h
    exact congrArg (·.registry) hnext
  | nextPacketId =>
    simp only [act, nextPacketId, bind_assoc, Action.yields_get_bind, Action.yields_modify_bind,
      pure_bind, Action.yields_pure] at h
    exact congrArg (·.registry) h.2
  | disconnect =>
    obtain ⟨-, es, hes⟩ := leaving_of_disconnect h
    exact hes.registry
  | dropLink =>
    obtain ⟨-, es, hes⟩ := dropping_of_dropLink h
    exact hes.registry.1
  | wait ms => exact (did_setWorld h (fun _ => rfl) fun _ => rfl).registry
  | become environment => exact (did_setWorld h (fun _ => rfl) fun _ => rfl).registry

/-- **The registry recalls the calls to subscribe that succeeded.**  By induction on the
moves: each adds one subscription to both sides, or none to either. -/
theorem recalls_run {s : Session ω} {before : List (String × QoS)} (moves : List (Move ω))
    (h : s.registry.Recalls before) :
    (s.run moves).registry.Recalls (before ++ s.subscribedIn moves) := by
  induction moves generalizing s before with
  | nil => simpa [subscribedIn, run] using h
  | cons move moves ih =>
    rw [subscribedIn, ← List.append_assoc]
    refine ih ?_
    have hstep := s.registry_step move
    cases hsub : s.subscribed? move with
    | none =>
      rw [hsub] at hstep
      rw [Option.toList_none, List.append_nil, hstep]
      exact h
    | some subscription =>
      rw [hsub] at hstep
      obtain ⟨outcome, hrecord⟩ := hstep
      exact h.record hrecord

end Session
end Mqtt
