/-
# What an action adds to the history

`World.Ran w es w'` says that the world `w` went on to `w'` and that `es` is what
was done in between.  Nothing is ever taken out of the history, and a connection
gets its number from the count of those opened before (`openings`), so `es` tells
all that the rest of a client can learn from what its world did, but for the times:
where they matter, `World.Begins` says when the first of it was done, and
`World.StandsAt` when the last was.
-/
import Mqtt.World.Basic
import Mqtt.Proofs.Action

namespace Mqtt

/-- A connection was opened. -/
def Event.isOpening : Event → Bool
  | .connect _ _ _ (.ok ()) => true
  | _ => false

/-- How many connections were opened. -/
def openings (events : List Event) : Nat :=
  events.countP (·.isOpening)

/-- Where nothing was done, nothing was opened. -/
@[simp] theorem openings_nil : openings [] = 0 := rfl

/-- Connections opened in two stretches of the history add up. -/
@[simp] theorem openings_append (es fs : List Event) :
    openings (es ++ fs) = openings es + openings fs :=
  List.countP_append

/-- An event counts for one opened connection or for none. -/
@[simp] theorem openings_cons (event : Event) (es : List Event) :
    openings (event :: es) = openings es + if event.isOpening then 1 else 0 :=
  List.countP_cons

namespace World

open Mqtt.Action

variable {ω ε ε' α : Type}

/-- The world went on, and this is what was done. -/
structure Ran (w : World ω) (es : List Event) (w' : World ω) : Prop where
  grown : ∃ new : List Stamped, w'.history = new ++ w.history ∧ new.reverse.map (·.event) = es
  opened : w'.opened = w.opened + openings es

/-- The first that was done since was begun at the clock's reading. -/
def Begins (w w' : World ω) : Prop :=
  ∃ event later, w'.history = later ++ ⟨w.clock, event⟩ :: w.history

/-- The clock reads `now`, and did so when the last was done. -/
structure StandsAt (w : World ω) (now : UInt32) : Prop where
  clock : w.clock = now
  last : w.history.head?.map (·.time) = some now

namespace Ran

variable {w w' w'' : World ω} {es fs : List Event}

/-- The history grows at its end, by just what was done. -/
theorem events (h : w.Ran es w') : w'.events = w.events ++ es := by
  obtain ⟨new, hnew, rfl⟩ := h.grown
  simp [World.events, hnew]

/-- A world that was left alone has gone on, with nothing done. -/
theorem refl (w : World ω) : w.Ran [] w :=
  ⟨⟨[], rfl, rfl⟩, rfl⟩

/-- What was done first and what was done after it were done, in this order. -/
theorem trans (h : w.Ran es w') (h' : w'.Ran fs w'') : w.Ran (es ++ fs) w'' where
  grown := by
    obtain ⟨new, hnew, rfl⟩ := h.grown
    obtain ⟨newer, hnewer, rfl⟩ := h'.grown
    exact ⟨newer ++ new, by rw [hnewer, hnew, List.append_assoc], by simp⟩
  opened := by rw [h'.opened, h.opened, openings_append, Nat.add_assoc]

end Ran

/-- Whatever is done, the count of the connections opened so far does not go down. -/
theorem Ran.opened_le {w w' : World ω} {es : List Event} (h : w.Ran es w') :
    w.opened ≤ w'.opened := by
  rw [h.opened]
  exact Nat.le_add_right ..

/-- Connections go on being counted. -/
theorem Ran.counts {w w' : World ω} {es : List Event} (h : w.Ran es w')
    (counted : w.opened = openings w.events) : w'.opened = openings w'.events := by
  rw [h.opened, h.events, openings_append, counted]

/-- What was done first stands right after the history there was before. -/
theorem Ran.first {w w' : World ω} {event : Event} {es : List Event} (h : w.Ran (event :: es) w') :
    ∃ time later, w'.history = later ++ ⟨time, event⟩ :: w.history ∧
      later.reverse.map (·.event) = es := by
  obtain ⟨new, hnew, hes⟩ := h.grown
  obtain ⟨⟨time, _⟩, rest, hrest, rfl, rfl⟩ := List.map_eq_cons_iff.1 hes
  obtain rfl : new = rest.reverse ++ [_] := by
    rw [← List.reverse_reverse new, hrest, List.reverse_cons]
  exact ⟨time, rest.reverse, by rw [hnew, List.append_assoc]; rfl, by simp⟩

/-- What was done last stands at the front of the history, which has the latest first. -/
theorem Ran.last {w w' : World ω} {event : Event} {es : List Event} (h : w.Ran (es ++ [event]) w') :
    ∃ time earlier, w'.history = ⟨time, event⟩ :: (earlier ++ w.history) ∧
      earlier.reverse.map (·.event) = es := by
  obtain ⟨new, hnew, hes⟩ := h.grown
  cases new with
  | nil => simp at hes
  | cons e new =>
    rw [List.reverse_cons, List.map_append] at hes
    obtain ⟨hinit, hlast⟩ := List.append_inj' hes rfl
    obtain ⟨rfl, -⟩ := List.cons.inj hlast
    exact ⟨e.time, new, hnew, hinit⟩

/-- What has begun is not undone. -/
theorem Begins.ran {w w' w'' : World ω} {es : List Event} (h : w.Begins w') (h' : w'.Ran es w'') :
    w.Begins w'' := by
  obtain ⟨event, later, hlater⟩ := h
  obtain ⟨new, hnew, -⟩ := h'.grown
  exact ⟨event, new ++ later, by rw [hnew, hlater, List.append_assoc]⟩

/-- The first that was done was done when it began. -/
theorem Begins.first {w w' : World ω} {event : Event} {es : List Event} (h : w.Begins w')
    (ran : w.Ran (event :: es) w') : ∃ later, w'.history = later ++ ⟨w.clock, event⟩ :: w.history ∧
      later.reverse.map (·.event) = es := by
  obtain ⟨time, later, hlater, hes⟩ := ran.first
  obtain ⟨_, later', hbegun⟩ := h
  rw [hlater, List.append_cons, List.append_cons later'] at hbegun
  obtain ⟨rfl, hfirst⟩ := List.append_inj' (List.append_cancel_right hbegun) rfl
  obtain ⟨⟨⟩, -⟩ := List.cons.inj hfirst
  exact ⟨later, hlater, hes⟩

/-- One event that opens no connection is all that was done. -/
theorem ran_of_history {event : Event} {w w' : World ω} (closed : event.isOpening = false)
    (history : w'.history = ⟨w.clock, event⟩ :: w.history) (opened : w'.opened = w.opened) :
    w.Ran [event] w' :=
  ⟨⟨[⟨w.clock, event⟩], history, rfl⟩, by simp [opened, openings, closed]⟩

/-- Then one more event is written down. -/
theorem Ran.record {event : Event} {es : List Event} {w w' : World ω} (h : w.Ran es w')
    (closed : event.isOpening = false) :
    w.Ran (es ++ [event]) { w' with history := ⟨w'.clock, event⟩ :: w'.history } :=
  h.trans (ran_of_history closed rfl rfl)

/-- An event that is written down is all that was done, unless it opens a connection: the
count of connections is kept elsewhere. -/
theorem ran_record {event : Event} {w w' : World ω} {r : Except ε Unit}
    (closed : event.isOpening = false) (h : Yields (record event) w r w') :
    r = .ok () ∧ w.Ran [event] w' := by
  obtain ⟨rfl, rfl⟩ := (yields_of_ok (record_apply event w)).1 h
  exact ⟨rfl, ran_of_history closed rfl rfl⟩

/-- What is only written down is done at once. -/
theorem stands_of_record {event : Event} {w w' : World ω} {r : Except ε Unit}
    (h : Yields (record event) w r w') : w.Begins w' ∧ w'.StandsAt w.clock := by
  obtain ⟨rfl, rfl⟩ := (yields_of_ok (record_apply event w)).1 h
  exact ⟨⟨event, [], rfl⟩, rfl, rfl⟩

/-- Telling the log is done without fail, and leaves its line in the history. -/
theorem ran_notice {n : Notice} {w w' : World ω} {r : Except ε Unit}
    (h : Yields (notice n) w r w') : r = .ok () ∧ w.Ran [.notice n] w' :=
  ran_record rfl h

/-- A failure of an action with a notice is told, then goes on under its other name. -/
theorem ran_orNotice {action : Action ε (World ω) α} {told : ε → Notice} {fault : ε'}
    {w w' : World ω} {r : Except ε' α} (h : Yields (orNotice action told fault) w r w') :
    (∃ a, Yields action w (.ok a) w' ∧ r = .ok a) ∨
      ∃ e u, Yields action w (.error e) u ∧ u.Ran [.notice (told e)] w' ∧ r = .error fault := by
  obtain ⟨x, u, hx, h⟩ := yields_attempt_bind.1 h
  cases x with
  | ok a =>
    obtain ⟨rfl, rfl⟩ := yields_pure.1 h
    exact .inl ⟨a, hx, rfl⟩
  | error e =>
    rcases yields_bind.1 h with ⟨_, hn, -⟩ | ⟨_, v, hn, ht⟩
    · exact absurd (ran_notice hn).1 (by simp)
    · obtain ⟨rfl, rfl⟩ := yields_throw.1 ht
      exact .inr ⟨e, u, hx, (ran_notice hn).2, rfl⟩

/-- A question is answered, takes as long as the answer does, and leaves its event. -/
theorem ask_apply (question : ω → Answer ω α) (event : α → Event) (w : World ω) :
    (ask question event : Action ε (World ω) α) w =
      .ok (question w.environment).value
        { w with
          environment := (question w.environment).next
          clock := w.clock + (question w.environment).took
          history := ⟨w.clock, event (question w.environment).value⟩ :: w.history } := rfl

/-- The event of a question holds the answer. -/
theorem ran_ask {question : ω → Answer ω α} {event : α → Event} {w w' : World ω}
    {r : Except ε α} (h : Yields (ask question event) w r w') :
    ∃ a, r = .ok a ∧ w'.history = ⟨w.clock, event a⟩ :: w.history ∧ w'.opened = w.opened := by
  obtain ⟨rfl, rfl⟩ := (yields_of_ok (ask_apply question event w)).1 h
  exact ⟨_, rfl, rfl, rfl⟩

/-- A question puts one event into the history, with the answer in it, at the time at
which it was put; what the answer took is added to the clock afterwards. -/
theorem ran_demand {question : ω → Answer ω (Except ε α)} {event : Except ε α → Event}
    {w w' : World ω} {r : Except ε α} (h : Yields (demand question event) w r w') :
    w'.history = ⟨w.clock, event r⟩ :: w.history ∧ w'.opened = w.opened := by
  rw [demand, yields_bind] at h
  rcases h with ⟨e, he, -⟩ | ⟨x, u, hx, h⟩
  · obtain ⟨a, ha, -⟩ := ran_ask he
    cases ha
  · obtain ⟨a, ha, hu⟩ := ran_ask hx
    cases ha
    obtain ⟨rfl, rfl⟩ := yields_ofExcept.1 h
    exact hu

/-- A question is put at once. -/
theorem begins_of_demand {question : ω → Answer ω (Except ε α)} {event : Except ε α → Event}
    {w w' : World ω} {r : Except ε α} (h : Yields (demand question event) w r w') : w.Begins w' :=
  ⟨_, [], (ran_demand h).1⟩

/-- A question gives the environment's answer, and takes as long as that does. -/
theorem answered_of_demand {question : ω → Answer ω (Except ε α)} {event : Except ε α → Event}
    {w w' : World ω} {r : Except ε α} (h : Yields (demand question event) w r w') :
    r = (question w.environment).value ∧ w'.environment = (question w.environment).next ∧
      w'.clock = w.clock + (question w.environment).took := by
  rw [demand, yields_congr (bind_of_ok (ask_apply question event w)), yields_ofExcept] at h
  obtain ⟨rfl, rfl⟩ := h
  exact ⟨rfl, rfl, rfl⟩

variable [Environment ω]

/-- A connection that opens gets the next number. -/
theorem ran_connect {host : String} {tcpPort : UInt16} {timeout : UInt32} {w w' : World ω}
    {r : Except NetFault Nat} (h : Yields (connect host tcpPort timeout) w r w') :
    (∃ fault, r = .error fault ∧ w.Ran [.connect host tcpPort timeout (.error fault)] w') ∨
      r = .ok (w.opened + 1) ∧ w.Ran [.connect host tcpPort timeout (.ok ())] w' := by
  rw [connect, yields_bind] at h
  rcases h with ⟨fault, hd, rfl⟩ | ⟨⟨⟩, u, hd, h⟩
  · obtain ⟨hev, hop⟩ := ran_demand hd
    exact .inl ⟨fault, rfl, ran_of_history rfl hev hop⟩
  · obtain ⟨hev, hop⟩ := ran_demand hd
    simp only [yields_modify_bind, yields_get_bind, yields_pure] at h
    obtain ⟨rfl, rfl⟩ := h
    exact .inr ⟨by simp [hop], ⟨[⟨w.clock, _⟩], hev, rfl⟩, by simp [hop, openings, Event.isOpening]⟩

/-- A read is one event, with the bytes or the failure that the environment answered with. -/
theorem ran_read {connection capacity : Nat} {timeout : UInt32} {w w' : World ω}
    {r : Except NetFault (Chunk capacity)} (h : Yields (read connection capacity timeout) w r w') :
    w.Ran [.read connection capacity timeout (r.map (·.val))] w' :=
  ran_of_history rfl (ran_demand h).1 (ran_demand h).2

/-- A write is one event, with the number of bytes that were taken, or with the failure. -/
theorem ran_write {connection : Nat} {frame : List UInt8} {w w' : World ω}
    {r : Except NetFault Nat} (h : Yields (write connection frame) w r w') :
    w.Ran [.write connection frame r] w' :=
  ran_of_history rfl (ran_demand h).1 (ran_demand h).2

/-- A flush is one event, with whether it went well. -/
theorem ran_flush {connection : Nat} {w w' : World ω} {r : Except NetFault Unit}
    (h : Yields (flush connection) w r w') : w.Ran [.flush connection r] w' :=
  ran_of_history rfl (ran_demand h).1 (ran_demand h).2

/-- A close is one event.  How it went is not part of it, since a connection counts as
closed either way. -/
theorem ran_close {connection : Nat} {w w' : World ω} {r : Except NetFault Unit}
    (h : Yields (close connection) w r w') : w.Ran [.close connection] w' :=
  ran_of_history rfl (ran_demand h).1 (ran_demand h).2

/-- A handshake that refuses closes the connection. -/
theorem ran_secure {connection : Nat} {name : String} {settings : TlsSettings} {w w' : World ω}
    {r : Except String Unit} (h : Yields (secure connection name settings) w r w') :
    (r = .ok () ∧ w.Ran [.secure connection name settings] w') ∨
      ∃ reason, r = .error reason ∧
        w.Ran [.secure connection name settings, .close connection] w' := by
  rw [secure, yields_bind] at h
  rcases h with ⟨_, ha, -⟩ | ⟨x, u, ha, h⟩
  · obtain ⟨_, he, -⟩ := ran_ask ha
    cases he
  · obtain ⟨_, -, hev, hop⟩ := ran_ask ha
    have hu : w.Ran [.secure connection name settings] u := ran_of_history rfl hev hop
    cases x with
    | ok a =>
      obtain ⟨rfl, rfl⟩ := yields_pure.1 h
      exact .inl ⟨rfl, hu⟩
    | error reason =>
      simp only [yields_attempt_bind, yields_throw] at h
      obtain ⟨y, v, hc, rfl, rfl⟩ := h
      exact .inr ⟨reason, rfl, hu.trans (ran_close hc)⟩

/-- Starting a task is one event that says whether it started; that it did not is an
answer and no failure. -/
theorem ran_spawn {task : TaskSettings} {w w' : World ω} {r : Except ε Bool}
    (h : Yields (spawn task) w r w') : ∃ started, r = .ok started ∧ w.Ran [.spawn task started] w' :=
  let ⟨started, hr, hev, hop⟩ := ran_ask h
  ⟨started, hr, ran_of_history rfl hev hop⟩

/-- Handing over a message is one event, and the handler always answers. -/
theorem ran_deliver {topic : String} {payload : List UInt8} {w w' : World ω}
    {r : Except ε Reaction} (h : Yields (deliver topic payload) w r w') :
    ∃ reaction, r = .ok reaction ∧ w.Ran [.message topic payload] w' :=
  let ⟨reaction, hr, hev, hop⟩ := ran_ask h
  ⟨reaction, hr, ran_of_history rfl hev hop⟩

end World
end Mqtt
