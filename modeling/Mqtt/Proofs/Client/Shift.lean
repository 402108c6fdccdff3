/-
# Clients with another clock

Two clients are shifted against each other if their sessions are, and if their workers
are the same.  Nothing a client does can tell them apart, worker and schedule included:
the worker reads the clock for the keep-alive timers of a link that is up, and for noting
the answer to a ping, and both only set or compare shifted readings.  So whatever the
clock says when a client starts, it does and answers the same (`shifted_run`), and a clock
that wraps around on the way changes nothing.
-/
import Mqtt.Client.Program
import Mqtt.Proofs.Session.Handshake
import Mqtt.Proofs.Session.Shift

namespace Mqtt

open Mqtt.Action
open Session.Shifted (coupling)

namespace Worker

variable {ω ε : Type} [Environment ω] {offset : UInt32}

/-- What the handler was shown is all that can differ in what it does. -/
theorem steady_deliver (running : Bool) (topic : String) (payload : List UInt8) :
    Steady (Session.Shifted offset)
      (deliver running topic payload : Action ε (Session ω) Bool) := by
  refine steady_bind (coupling.steady_onWorld (World.Shifted.coupling.steady_deliver topic payload))
    fun reaction => ?_
  refine steady_bind (steady_forM _ fun call => ?_) fun _ => steady_pure _
  intro s t h
  refine agree_bind (Session.agree_answer running call h) fun x y u v hsame hstates => ?_
  refine coupling.agree_onWorld hstates (World.agree_record hstates.world ?_)
  by_cases hcall : call = .describe
  · rw [hcall]
    rfl
  · rw [hsame hcall]

omit [Environment ω] in
/-- Whether bytes came from the session's link is told by numbers of links, and never by
the time. -/
theorem steady_isCurrent (origin : Origin) :
    Steady (Session.Shifted offset) (isCurrent origin : Action ε (Session ω) Bool) :=
  steady_get_bind (fun s t h => by simp only [h.link]) fun s => steady_pure _

/-- **Acting on a frame goes the same whatever the clock says.**  The answer to a ping is
noted at a reading of the clock, which is shifted as the timers are. -/
theorem steady_handle (origin : Origin) (frame : List UInt8) :
    Steady (Session.Shifted offset)
      (handle origin frame : Action Fault (Session ω) Errand) := by
  refine steady_bind (coupling.steady_onWorld (World.steady_record (World.Shifted.records _)))
    fun _ => ?_
  refine steady_bind (steady_ofExcept _) fun packet => ?_
  split
  case h_1 =>
    refine steady_bind (coupling.steady_notice _) fun _ => ?_
    refine steady_bind (steady_isCurrent origin) fun current => ?_
    cases current with
    | true =>
      intro s t h
      refine coupling.agree_now_bind h ?_
      exact agree_bind (coupling.agree_ponged h _) fun _ _ u v _ hstates =>
        agree_pure rfl hstates
    | false => exact steady_pure _
  case h_2 message =>
    have told : Steady (Session.Shifted offset) (do
        Session.notice (.message message.topic message.payload.length)
        return Errand.deliver message.topic message.payload :
          Action Fault (Session ω) Errand) :=
      steady_bind (coupling.steady_notice _) fun _ => steady_pure _
    cases message.packetId with
    | none => exact told
    | some id =>
      refine steady_bind (steady_isCurrent origin) fun current => ?_
      cases current with
      | true => exact steady_bind (coupling.steady_acknowledge id) fun _ => told
      | false => exact told
  case h_3 => exact steady_bind (coupling.steady_notice _) fun _ => steady_pure _
  case h_4 => exact steady_bind (coupling.steady_notice _) fun _ => steady_pure _

/-- Giving up a link for bytes that cannot be understood goes the same whatever the clock
says. -/
theorem steady_protocolFailure (origin : Origin) (fault : Fault) :
    Steady (Session.Shifted offset)
      (protocolFailure origin fault : Action ε (Session ω) Unit) := by
  refine steady_bind (steady_isCurrent origin) fun current => ?_
  cases current with
  | true =>
    exact steady_bind (coupling.steady_notice _) fun _ => coupling.steady_dropLink
  | false => exact coupling.steady_notice _

/-- Cutting the next frame off the bytes held, and acting on it, goes the same whatever
the clock says. -/
theorem steady_cutFrame (worker : Worker) :
    Steady (Session.Shifted offset) (worker.cutFrame : Action ε (Session ω) _) := by
  unfold cutFrame
  split
  case h_1 => exact steady_pure _
  case h_2 => exact steady_pure _
  case h_3 => exact steady_bind (coupling.steady_notice _) fun _ => steady_pure _
  case h_4 =>
    refine steady_bind (steady_attempt (steady_handle _ _)) fun x => ?_
    cases x with
    | ok errand => exact steady_pure _
    | error fault => exact steady_pure _

/-- A step of a dispatch goes the same whatever the clock says. -/
theorem steady_dispatch (running : Bool) (worker : Worker) (unfinished : worker.errand ≠ .pass) :
    Steady (Session.Shifted offset)
      (worker.dispatch running unfinished : Action ε (Session ω) _) := by
  unfold dispatch
  split
  case h_1 hpass => exact absurd hpass unfinished
  case h_2 => exact steady_bind (steady_cutFrame worker) fun _ => steady_pure _
  case h_3 => exact steady_bind (steady_deliver _ _ _) fun _ => steady_pure _
  case h_4 => exact steady_bind (steady_protocolFailure _ _) fun _ => steady_pure _

/-- Slices of a sleep are as long whatever the clock says, for they are counted down and
not read off it. -/
theorem steady_pause (running : Bool) (slice remaining : UInt32) :
    Steady (Session.Shifted offset)
      (pause running slice remaining : Action ε (Session ω) Phase) := by
  unfold pause
  dsimp only
  split
  case isTrue => exact steady_pure _
  case isFalse =>
    exact steady_bind (coupling.steady_onWorld
      (World.steady_record (World.Shifted.records _))) fun _ => steady_pure _

/-- Forgetting the bytes of a replaced link goes the same whatever the clock says. -/
theorem steady_adoptLink (worker : Worker) :
    Steady (Session.Shifted offset) (worker.adoptLink : Action ε (Session ω) Worker) := by
  refine steady_get_bind (fun s t h => by simp only [h.link]) fun s => ?_
  dsimp only
  split
  case isTrue => exact steady_pure _
  case isFalse =>
    split
    case isTrue =>
      exact steady_bind (coupling.steady_notice _) fun _ => steady_pure _
    case isFalse => exact steady_pure _

/-- The timers are consulted only while there is a link. -/
theorem agree_service (worker : Worker) {s t : Session ω} (up : s.isConnected = true)
    (h : s.Shifted offset t) :
    Agree (Session.Shifted offset) (· = ·) (service worker : Action ε (Session ω) Worker) s
      (service worker) t := by
  refine coupling.agree_now_bind h ?_
  refine agree_bind (agree_attempt (Session.agree_serviceKeepAlive _ up h))
    fun x _ u v hsame hstates => ?_
  subst hsame
  cases x with
  | error fault => exact agree_pure rfl hstates
  | ok a => exact steady_bind (steady_adoptLink worker) (fun _ => steady_pure _) u v hstates

/-- A pass consults the timers of a link that it found up, or has just brought up. -/
theorem steady_pass (running : Bool) (worker : Worker) :
    Steady (Session.Shifted offset)
      (worker.pass running : Action ε (Session ω) Worker) := by
  intro s t h
  refine agree_get_bind ?_
  rw [h.isConnected]
  split
  case isTrue hup => exact agree_service worker hup h
  case isFalse =>
    refine agree_bind_of_ok (steady_attempt coupling.steady_reconnect s t h)
      fun x _ u v hreconnect hsame hstates => ?_
    subst hsame
    cases x with
    | ok a =>
      obtain ⟨_, hyields, ⟨⟩⟩ := yields_attempt.1 (.ok hreconnect)
      exact agree_service _ (Session.isConnected_of_reconnect hyields) hstates
    | error fault =>
      refine steady_get_bind (fun s t h => by simp only [h.settings]) (fun s => ?_) u v hstates
      refine steady_bind (coupling.steady_notice _) fun _ => ?_
      exact steady_bind (steady_pause _ _ _) fun _ => steady_pure _

/-- A read of the worker goes the same whatever the clock says. -/
theorem steady_receive (worker : Worker) :
    Steady (Session.Shifted offset) (worker.receive : Action ε (Session ω) Worker) := by
  refine steady_get_bind (fun s t h => by simp only [h.settings, h.connection]) fun s => ?_
  refine steady_bind (steady_attempt (coupling.steady_receive _ _)) fun x => ?_
  split
  case h_1 => exact steady_bind coupling.steady_dropLink fun _ => steady_pure _
  case h_2 => exact steady_pure _
  case h_3 => exact steady_pure _

/-- **A move of the worker goes the same whatever the clock says.**  Where it reads the
clock, it sets the timers or compares them, and these are shifted alike. -/
theorem steady_move (running : Bool) (worker : Worker) :
    Steady (Session.Shifted offset)
      (worker.move running : Action ε (Session ω) Worker) := by
  have waited : Steady (Session.Shifted offset)
      (if h : worker.errand = .pass then worker.pass running
        else return (← worker.dispatch running h).val : Action ε (Session ω) Worker) := by
    split
    case isTrue => exact steady_pass running worker
    case isFalse => exact steady_bind (steady_dispatch _ _ _) fun _ => steady_pure _
  unfold move
  split
  case h_1 => exact steady_receive worker
  case h_2 =>
    refine steady_get_bind (fun s t h => by simp only [h.settings]) fun s => ?_
    exact steady_bind (steady_pause _ _ _) fun _ => steady_pure _
  case h_3 => exact waited
  case h_4 => exact waited

/-- So does all that a worker still has to do when its client has stopped. -/
theorem steady_finish (worker : Worker) :
    Steady (Session.Shifted offset) (worker.finish : Action ε (Session ω) Unit) := by
  induction hwork : worker.work using Nat.strongRecOn generalizing worker with
  | ind work ih =>
    rw [finish]
    split
    case isTrue => exact steady_pure _
    case isFalse =>
      refine steady_bind (steady_dispatch _ _ _) fun next => ?_
      exact ih _ (hwork ▸ next.property) next.val rfl

end Worker

namespace Client

variable {ω ε α : Type} [Environment ω] {offset : UInt32}

/-- The second client is the first with its clock ahead by an offset. -/
structure Shifted (offset : UInt32) (c c' : Client ω) : Prop where
  /-- The sessions are shifted against each other. -/
  session : c.session.Shifted offset c'.session
  /-- The rest of the client holds no time. -/
  rest : c' = { c with session := c'.session }

namespace Shifted

variable {c c' : Client ω}

omit [Environment ω] in
/-- Clients that are shifted both run or both do not. -/
theorem running (h : c.Shifted offset c') : c'.running = c.running := by rw [h.rest]

omit [Environment ω] in
/-- Clients that are shifted both have a task to join or both have none. -/
theorem joinable (h : c.Shifted offset c') : c'.joinable = c.joinable := by rw [h.rest]

omit [Environment ω] in
/-- Clients that are shifted have the same worker, with the same bytes and the same to do. -/
theorem worker (h : c.Shifted offset c') : c'.worker = c.worker := by rw [h.rest]

omit [Environment ω] in
/-- The workers of shifted clients are at the same place of their pass. -/
theorem phase? (h : c.Shifted offset c') : c'.phase? = c.phase? := by
  rw [Client.phase?, h.worker, Client.phase?]

/-- The workers of shifted clients both have to wait or both can move. -/
theorem isSettled (h : c.Shifted offset c') : c'.isSettled = c.isSettled := by
  rw [Client.isSettled, h.phase?, h.session.world.environment, Client.isSettled]

end Shifted

omit [Environment ω] in
/-- What is steady for shifted sessions is steady for the clients around them. -/
theorem steady_onSession {action : Action ε (Session ω) α}
    (h : Steady (Session.Shifted offset) action) :
    Steady (Shifted offset) (onSession action) := fun c c' hc =>
  agree_within (h c.session c'.session hc.session) fun hs => ⟨hs, by rw [hc.rest]⟩

omit [Environment ω] in
/-- A change of the client beside its session is made in both. -/
theorem steady_update {f : Client ω → Client ω} (session : ∀ c, (f c).session = c.session)
    (apart : ∀ c s, f { c with session := s } = { f c with session := s }) :
    Steady (Shifted offset) (modify f : Action ε (Client ω) PUnit) := by
  refine steady_modify fun c c' h => ⟨?_, ?_⟩
  · rw [session, session]
    exact h.session
  · rw [session c', ← apart, ← h.rest]

/-- Starting the worker goes the same whatever the clock says. -/
theorem steady_startWorker :
    Steady (Shifted offset) (startWorker : Action Fault (Client ω) Unit) := by
  refine steady_bind (steady_update (fun _ => rfl) fun _ _ => rfl) fun _ => ?_
  refine steady_get_bind (fun c c' h => by simp only [h.session.settings]) fun c => ?_
  refine steady_bind (steady_onSession (coupling.steady_onWorld
    (World.Shifted.coupling.steady_spawn _))) fun started => ?_
  cases started with
  | true =>
    refine steady_bind (steady_update (fun _ => rfl) fun _ _ => rfl) fun _ => ?_
    exact steady_onSession (coupling.steady_notice _)
  | false =>
    refine steady_bind (steady_onSession (coupling.steady_notice _)) fun _ => ?_
    refine steady_bind (steady_update (fun _ => rfl) fun _ _ => rfl) fun _ => ?_
    exact steady_bind (steady_onSession coupling.steady_disconnect) fun _ => steady_throw _

/-- Connecting goes the same whatever the clock says. -/
theorem steady_connect : Steady (Shifted offset) (connect : Action Fault (Client ω) Unit) := by
  refine steady_bind (steady_onSession Session.steady_ensureConnected) fun _ => ?_
  refine steady_get_bind (fun c c' h => by simp only [h.joinable]) fun c => ?_
  split
  case isTrue => exact steady_pure _
  case isFalse => exact steady_startWorker

/-- A move of the worker goes the same whatever the clock says. -/
theorem steady_proceed : Steady (Shifted offset) (proceed : Action ε (Client ω) Unit) := by
  refine steady_get_bind (fun c c' h => by simp only [h.worker, h.running]) fun c => ?_
  cases c.worker with
  | none => exact steady_pure _
  | some worker =>
    dsimp only
    split
    case isTrue =>
      refine steady_bind (steady_onSession (Worker.steady_move true worker)) fun moved => ?_
      exact steady_update (fun _ => rfl) fun _ _ => rfl
    case isFalse =>
      refine steady_bind (steady_onSession worker.steady_finish) fun _ => ?_
      exact steady_update (fun _ => rfl) fun _ _ => rfl

/-- Disconnecting goes the same whatever the clock says. -/
theorem steady_disconnect : Steady (Shifted offset) (disconnect : Action ε (Client ω) Unit) := by
  refine steady_bind (steady_update (fun _ => rfl) fun _ _ => rfl) fun _ => ?_
  refine steady_bind (steady_onSession coupling.steady_disconnect) fun _ => ?_
  refine steady_get_bind (fun c c' h => by simp only [h.joinable]) fun c => ?_
  split
  case isFalse => exact steady_pure _
  case isTrue =>
    refine steady_bind steady_proceed fun _ => ?_
    refine steady_bind (steady_onSession (coupling.steady_notice _)) fun _ => ?_
    refine steady_bind (steady_onSession (coupling.steady_onWorld
      (World.steady_record (World.Shifted.records _)))) fun _ => ?_
    exact steady_update (fun _ => rfl) fun _ _ => rfl

/-- **A call gives the same back whatever the clock says**, unless it asks for the client
as it is shown. -/
theorem agree_perform (call : Call) {c c' : Client ω} (h : c.Shifted offset c') :
    Agree (Shifted offset) (fun x y => call ≠ .describe → x = y)
      (perform call : Action ε (Client ω) Reply) c (perform call) c' := by
  have hinterrupt : Steady (Shifted offset) (interrupt : Action ε (Client ω) Unit) :=
    steady_update (fun _ => rfl) fun _ _ => rfl
  refine agree_bind (hinterrupt c c' h) fun _ _ u v _ hstates => ?_
  have answered : Agree (Shifted offset) (fun x y => call ≠ .describe → x = y)
      (do onSession (Session.answer (← get).running call) : Action ε (Client ω) Reply) u
      (do onSession (Session.answer (← get).running call)) v := by
    refine agree_get_bind ?_
    rw [hstates.running]
    exact agree_within (Session.agree_answer _ call hstates.session)
      fun hs => ⟨hs, by rw [hstates.rest]⟩
  cases call with
  | connect =>
    refine Agree.mono ?_ fun same _ => same
    exact steady_map _ (steady_attempt steady_connect) u v hstates
  | publish | subscribe | state | describe => exact answered

/-- Waiting lets both clocks go on by the same, wrapping or not, and shortens the worker's
sleep by the same. -/
theorem steady_wait (ms : UInt32) :
    Steady (Shifted offset) (wait ms : Action ε (Client ω) Unit) := by
  refine steady_bind (steady_onSession (coupling.steady_onWorld
    (World.Shifted.coupling.steady_wait ms))) fun _ => ?_
  exact steady_update (fun _ => rfl) fun _ _ => rfl

/-- **Every move goes the same whatever the clock says.**  It is put together from what
the session and the worker do, and each of these goes alike. -/
theorem steady_act (move : Move ω) :
    Steady (Shifted offset) (act move : Action ε (Client ω) Unit) := by
  cases move with
  | call call =>
    intro c c' h
    exact agree_bind (agree_perform call h) fun _ _ _ _ _ hstates => agree_pure rfl hstates
  | disconnect => exact steady_disconnect
  | proceed => exact steady_proceed
  | wait ms => exact steady_wait ms
  | become environment =>
    exact steady_onSession (coupling.steady_onWorld
      (steady_modify fun _ _ h => h.become environment))

/-! ### The schedule -/

/-- Letting the worker move until it has to wait goes the same whatever the clock says: it
takes as many moves. -/
theorem steady_settle (moves : Nat) :
    Steady (Shifted offset) (settle moves : Action ε (Client ω) Unit) := by
  induction moves with
  | zero => exact steady_pure _
  | succ moves ih =>
    refine steady_get_bind (fun c c' h => by simp only [h.isSettled]) fun c => ?_
    split
    case isTrue => exact steady_pure _
    case isFalse => exact steady_bind steady_proceed fun _ => ih

/-- A call goes the same whatever the clock says, and is answered the same, unless it asks
to show the client. -/
theorem agree_call (moves : Nat) (c : Call) {client client' : Client ω}
    (h : client.Shifted offset client') :
    Agree (Shifted offset) (fun x y => c ≠ .describe → x = y)
      (call moves c : Action ε (Client ω) Reply) client (call moves c) client' := by
  refine agree_bind (agree_perform c h) fun x y u v hsame hstates => ?_
  exact agree_bind (steady_settle moves u v hstates) fun _ _ _ _ _ hstates =>
    agree_pure hsame hstates

/-- Letting the message handler return goes the same whatever the clock says. -/
theorem steady_release (moves : Nat) :
    Steady (Shifted offset) (release moves : Action ε (Client ω) Bool) := by
  refine steady_get_bind (fun c c' h => by simp only [h.phase?]) fun c => ?_
  split
  case isTrue =>
    refine steady_bind steady_proceed fun _ => ?_
    exact steady_bind (steady_settle moves) fun _ => steady_pure _
  case isFalse => exact steady_pure _

/-- A slice of sleep ends, or does not, whatever the clock says, and leaves as much time. -/
theorem steady_endSlice (ms : Nat) :
    Steady (Shifted offset)
      (endSlice ms : Action ε (Client ω) (Option { left : Nat // left < ms })) := by
  refine steady_get_bind (fun c c' h => by simp only [h.phase?]) fun c => ?_
  split
  case h_1 =>
    split
    case isTrue =>
      refine steady_bind (steady_wait _) fun _ => ?_
      exact steady_bind steady_proceed fun _ => steady_pure _
    case isFalse => exact steady_pure _
  case h_2 => exact steady_pure _

/-- Time in which no slice ends passes the same whatever the clock says. -/
theorem steady_idle (moves ms : Nat) :
    Steady (Shifted offset) (idle moves ms : Action ε (Client ω) Unit) := by
  refine steady_bind (steady_wait _) fun _ => ?_
  refine steady_get_bind (fun c c' h => by simp only [h.phase?]) fun c => ?_
  split
  case isTrue => exact steady_bind steady_proceed fun _ => steady_settle moves
  case isFalse => exact steady_pure _

/-- Slices of sleep end after the same time in both. -/
theorem steady_elapse (moves ms : Nat) :
    Steady (Shifted offset) (elapse moves ms : Action ε (Client ω) Unit) := by
  induction ms using Nat.strongRecOn with
  | ind ms ih =>
    rw [elapse]
    refine steady_bind (steady_endSlice ms) fun ended => ?_
    split
    case h_1 left less => exact steady_bind (steady_settle moves) fun _ => ih left less
    case h_2 => exact steady_idle moves ms

/-! ### Programs -/

end Client

/-- What comes of a request, at a clock shifted by an offset, and without the text of the
client as it is shown. -/
def Outcome.shifted (offset : UInt32) : Outcome → Outcome
  | .reply .describe _ => .reply .describe (.text "")
  | .clock reading => .clock (reading + offset)
  | outcome => outcome

/-- What a request shows, at a clock shifted by an offset. -/
def Shown.shifted (offset : UInt32) (shown : Shown) : Shown :=
  { shown with
    outcome := shown.outcome.shifted offset
    events := shown.events.map Event.blank }

namespace Client

variable {ω ε α : Type} [Environment ω] {offset : UInt32}

/-- Requests come to the same at a shifted clock. -/
abbrev SameOutcome (offset : UInt32) (x y : Outcome) : Prop :=
  y.shifted 0 = x.shifted offset

/-- A change of the environment comes to the same whatever the clock says. -/
theorem agree_alter (moves : Nat) (change : ω → ω) {c c' : Client ω} (h : c.Shifted offset c') :
    Agree (Shifted offset) (SameOutcome offset)
      (alter moves change : Action ε (Client ω) Outcome) c (alter moves change) c' := by
  have changed : Steady (Shifted offset) (onSession (Session.onWorld (modify fun world =>
      { world with environment := change world.environment })) : Action ε (Client ω) Unit) :=
    steady_onSession (coupling.steady_onWorld (steady_modify fun w w' hw => by
      have hnext := hw.become (change w.environment)
      rw [← hw.environment] at hnext ⊢
      exact hnext))
  refine agree_bind (changed c c' h) fun _ _ u v _ hstates => ?_
  exact agree_bind (steady_settle moves u v hstates) fun _ _ _ _ _ hstates => agree_pure rfl hstates

/-- **A request comes to the same whatever the clock says.** -/
theorem agree_serve (moves : Nat) (request : Request ω) {c c' : Client ω}
    (h : c.Shifted offset c') :
    Agree (Shifted offset) (SameOutcome offset)
      (serve moves request : Action ε (Client ω) Outcome) c (serve moves request) c' := by
  cases request with
  | call call =>
    refine agree_bind (agree_call moves call h) fun x y u v hsame hstates => ?_
    refine agree_pure ?_ hstates
    -- The reply to `describe` shows the timers, and it alone may differ.
    by_cases hcall : call = .describe
    · rw [hcall]
      rfl
    · rw [hsame hcall]
      cases call <;> rfl
  | disconnect =>
    exact agree_bind (steady_disconnect c c' h) fun _ _ _ _ _ hstates => agree_pure rfl hstates
  | release =>
    refine agree_bind (steady_release moves c c' h) fun x y u v hsame hstates => ?_
    rw [hsame]
    exact agree_pure rfl hstates
  | elapse ms =>
    refine agree_bind (steady_elapse moves ms c c' h) fun _ _ u v _ hstates => ?_
    refine agree_get_bind (agree_pure ?_ hstates)
    simp only [SameOutcome, Outcome.shifted, hstates.session.world.clock, UInt32.add_zero]
  | change change => exact agree_alter moves change h
  | feed change =>
    refine agree_get_bind ?_
    rw [h.session.isConnected]
    split
    case isTrue => exact agree_alter moves change h
    case isFalse => exact agree_pure rfl h

/-- A request shows the same whatever the clock says, but for the readings in it. -/
theorem agree_attend (moves : Nat) (request : Request ω) {c c' : Client ω}
    (h : c.Shifted offset c') :
    Agree (Shifted offset) (fun x y => y.shifted 0 = x.shifted offset)
      (attend moves request : Action ε (Client ω) Shown) c (attend moves request) c' := by
  refine agree_get_bind ?_
  have hlength : c'.session.world.events.length = c.session.world.events.length := by
    simpa using congrArg List.length h.session.world.events
  refine agree_bind (agree_serve moves request h) fun x y u v hsame hstates => ?_
  refine agree_get_bind (agree_pure ?_ hstates)
  simp only [Shown.shifted, List.map_drop, hstates.session.world.events, hlength, hstates.phase?,
    hstates.session.isConnected, hsame]

/-- **A program played shows the same whatever the clock says**, request for request, but
for the readings. -/
theorem agree_play (moves : Nat) (requests : List (Request ω)) {c c' : Client ω}
    (h : c.Shifted offset c') :
    Agree (Shifted offset) (fun x y => y.map (·.shifted 0) = x.map (·.shifted offset))
      (play moves requests : Action ε (Client ω) (List Shown)) c (play moves requests) c' := by
  induction requests generalizing c c' with
  | nil => exact agree_pure rfl h
  | cons request requests ih =>
    refine agree_bind (agree_attend moves request h) fun x y u v hsame hstates => ?_
    refine agree_bind (ih hstates) fun xs ys u v hrest hstates => ?_
    refine agree_pure ?_ hstates
    rw [List.map_cons, List.map_cons, hsame, hrest]

omit [Environment ω] in
/-- Clients that have done nothing yet are shifted, for nothing looks at their timers. -/
theorem shifted_start (connector : Connector) (settings : Settings) (environment : ω)
    (clock clock' : UInt32) :
    Shifted (clock' - clock) (start connector settings environment clock)
      (start connector settings environment clock') where
  session := {
    world := {
      environment := rfl
      clock := by
        show clock' = clock + (clock' - clock)
        rw [UInt32.add_comm, UInt32.sub_add_cancel]
      opened := rfl
      history := rfl }
    interval := rfl
    timers := fun up => nomatch up
    rest := rfl }
  rest := rfl

/-- Clients that are shifted stay so in every run: the same moves are made, and the same
is done. -/
theorem Shifted.run {c c' : Client ω} (h : c.Shifted offset c') (moves : List (Move ω)) :
    (c.run moves).Shifted offset (c'.run moves) := by
  induction moves generalizing c c' with
  | nil => exact h
  | cons move moves ih => exact ih (steady_act move c c' h).complete.2

/-- **What the clock says at the start changes nothing.**  Two clients of the same
settings and in the same environment, started at any two readings of the clock: after any
run, the same was done in both, at times that differ by a fixed offset; and every program
shows the same with both, but that readings of the clock it is given differ by the offset.
Only the text of a client as it is shown, which has such readings in it, is left out. -/
theorem shifted_run (connector : Connector) (settings : Settings) (environment : ω)
    (clock clock' : UInt32) :
    let client := start connector settings environment clock
    let client' := start connector settings environment clock'
    (∀ moves : List (Move ω),
      (client'.run moves).session.world.history.map (·.shifted 0) =
        (client.run moves).session.world.history.map (·.shifted (clock' - clock))) ∧
    ∀ (moves : Nat) (requests : List (Request ω)),
      (Action.complete (play moves requests) client').1.map (·.shifted 0) =
        (Action.complete (play moves requests) client).1.map (·.shifted (clock' - clock)) := by
  have hstart := shifted_start connector settings environment clock clock'
  exact ⟨fun moves => (hstart.run moves).session.world.history,
    fun moves requests => (agree_play moves requests hstart).complete.1⟩

end Client
end Mqtt
