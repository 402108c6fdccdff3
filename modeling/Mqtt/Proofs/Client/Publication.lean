/-
# Messages that are published

A client makes calls where its program does and where its message handler does, in the
middle of a move of the worker.  `Client.made` lists the calls of a run in order, each with
the session before and after it: it follows a move down to the handler's calls, and does
what the client does in between.

Every move adds to the history what its calls show, and nothing else of a call
(`Client.lists_step`).  So the messages handed to transports in a run are those of its
calls to publish, one for each that gets as far as writing (`Client.published_run`).
-/
import Mqtt.Proofs.Client.Run
import Mqtt.Proofs.Session.Publication

namespace Mqtt

open Mqtt.Action

variable {ω : Type}

namespace Made

/-- The call, if the program made it. -/
def asked? (made : Made ω) : Option Call :=
  if made.byHandler then none else some made.call

/-- The call and its reply, if the message handler made it. -/
def reaction? (made : Made ω) : Option (Call × Reply) :=
  if made.byHandler then some (made.call, made.reply) else none

end Made

section

variable [Environment ω]

/-- What the handler's calls come to, one after the other. -/
def Session.madeBy (running : Bool) : List Call → Session ω → List (Made ω)
  | [], _ => []
  | call :: calls, s =>
    let (reply, t) := Action.complete (answer running call) s
    let (_, u) := Action.complete (onWorld (World.record (.reaction call reply))) t
    ⟨true, call, s, reply, t⟩ :: madeBy running calls u

/-- The calls of the handler in a step of a dispatch. -/
def Worker.made (running : Bool) (worker : Worker) (s : Session ω) : List (Made ω) :=
  match worker.errand with
  | .deliver topic payload =>
    let (reaction, t) := Action.complete (Session.onWorld (World.deliver topic payload)) s
    Session.madeBy running reaction.calls t
  | _ => []

/-- The calls of the handler in a move of a worker. -/
def Worker.madeMoving (worker : Worker) (s : Session ω) : List (Made ω) :=
  if worker.phase = .ready ∨ worker.phase = .handling then worker.made true s else []

/-- The calls of the handler while a worker ends. -/
def Worker.madeToEnd (worker : Worker) (s : Session ω) : List (Made ω) :=
  if h : worker.errand = .pass then []
  else
    let (next, t) := Action.complete (worker.dispatch false h) s
    worker.made false s ++ madeToEnd next.val t
termination_by worker.work
decreasing_by exact next.property

namespace Client

/-- The calls of a move. -/
def madeIn (client : Client ω) : Move ω → List (Made ω)
  | .call call =>
    let (reply, next) := Action.complete (perform call) client
    [⟨false, call, client.session, reply, next.session⟩]
  | .disconnect =>
    let (_, s) := Action.complete Session.disconnect client.session
    if client.joinable then client.worker.elim [] (·.madeToEnd s) else []
  | .proceed =>
    client.worker.elim [] fun worker =>
      if client.running then worker.madeMoving client.session
      else worker.madeToEnd client.session
  | .wait _ | .become _ => []

/-- The calls of a run, in order. -/
def made (client : Client ω) : List (Move ω) → List (Made ω)
  | [] => []
  | move :: moves => client.madeIn move ++ (client.step move).made moves

end Client

end

/-- These calls were made on the way from one session to another, of which the program
made some, and the history tells of them and of no others. -/
structure Lists [Environment ω] (s : Session ω) (made : List (Made ω)) (asked : List Call)
    (es : List Event) (t : Session ω) : Prop where
  ran : s.world.Ran es t.world
  /-- What goes out, each once, is what the calls write. -/
  publications : publications es = made.filterMap fun m => m.before.posted m.call
  /-- The calls the history tells of are those the handler made, with their replies. -/
  reactions : reactions es = made.filterMap Made.reaction?
  /-- The others are those the program was asked for. -/
  asked : asked = made.filterMap Made.asked?
  /-- Each call told the truth about what it did. -/
  honest : ∀ m ∈ made, m.Honest
  /-- The calls were made within what was done. -/
  within : ∀ m ∈ made, (∃ before, s.world.Ran before m.before.world) ∧
    ∃ after, m.after.world.Ran after t.world

namespace Lists

variable [Environment ω] {s t u : Session ω} {made more : List (Made ω)} {asked ask : List Call}
  {es fs : List Event}

/-- Where no call is made, none is told of. -/
theorem uncalled (ran : s.world.Ran es t.world) (h : Without Event.isCalled es) :
    Lists s [] [] es t :=
  ⟨ran, h.publications, h.reactions, rfl, by simp, by simp⟩

/-- Calls made on two stretches of the way are made in order on the whole. -/
theorem trans (h : Lists s made asked es t) (h' : Lists t more ask fs u) :
    Lists s (made ++ more) (asked ++ ask) (es ++ fs) u where
  ran := h.ran.trans h'.ran
  publications := by
    rw [publications_append, h.publications, h'.publications, List.filterMap_append]
  reactions := by rw [reactions_append, h.reactions, h'.reactions, List.filterMap_append]
  asked := by rw [h.asked, h'.asked, List.filterMap_append]
  honest m hm := (List.mem_append.1 hm).elim (h.honest m) (h'.honest m)
  within m hm := by
    rcases List.mem_append.1 hm with hm | hm
    · obtain ⟨before, after, hafter⟩ := h.within m hm
      exact ⟨before, _, hafter.trans h'.ran⟩
    · obtain ⟨⟨before, hbefore⟩, after⟩ := h'.within m hm
      exact ⟨⟨_, h.ran.trans hbefore⟩, after⟩

/-- One call, by whoever makes it, and what is told of it then. -/
theorem single {m : Made ω} {ask : List Call} (ran : m.before.world.Ran es m.after.world)
    (told : m.after.world.Ran fs t.world)
    (publications : Mqtt.publications (es ++ fs) = (m.before.posted m.call).toList)
    (reactions : Mqtt.reactions (es ++ fs) = m.reaction?.toList)
    (asked : ask = m.asked?.toList) (honest : m.Honest) :
    Lists m.before [m] ask (es ++ fs) t where
  ran := ran.trans told
  publications := by
    rw [publications, List.filterMap_cons]
    cases m.before.posted m.call <;> rfl
  reactions := by
    rw [reactions, List.filterMap_cons]
    cases m.reaction? <;> rfl
  asked := by
    rw [asked, List.filterMap_cons]
    cases m.asked? <;> rfl
  honest n hn := List.mem_singleton.1 hn ▸ honest
  within n hn := by
    obtain rfl := List.mem_singleton.1 hn
    exact ⟨⟨[], .refl _⟩, fs, told⟩

/-- A call of the message handler is told of. -/
theorem reaction {running : Bool} {call : Call} {reply : Reply}
    (h : Yields (Session.answer running call : Action Empty (Session ω) Reply) s (.ok reply) t)
    (told : t.Did [.reaction call reply] u) :
    ∃ es, Lists s [⟨true, call, s, reply, t⟩] [] es u := by
  obtain ⟨_, es, ⟨⟩, hes⟩ := Session.calling_of_answer h
  obtain ⟨hposted, hreactions⟩ := hes.publications
  refine ⟨_, single (m := ⟨true, call, s, reply, t⟩) hes.path.ran told.ran ?_ ?_ rfl
    (Made.honest_of_answer h)⟩
  · rw [publications_append, hposted]
    exact List.append_nil _
  · rw [reactions_append, hreactions]
    rfl

/-- One call of the program is listed as asked for, and the history has no notice of it. -/
theorem call {call : Call} {reply : Reply} (ran : s.world.Ran es t.world)
    (publications : Mqtt.publications es = (s.posted call).toList)
    (reactions : Mqtt.reactions es = [])
    (honest : (⟨false, call, s, reply, t⟩ : Made ω).Honest) :
    ∃ es, Lists s [⟨false, call, s, reply, t⟩] [call] es t := by
  rw [← List.append_nil es] at publications reactions
  exact ⟨_, single (m := ⟨false, call, s, reply, t⟩) ran (.refl _) publications reactions rfl
    honest⟩

end Lists

/-! ### The steps of a worker -/

variable [Environment ω] {s t : Session ω} {worker : Worker}

/-- The handler's calls are listed as they are made, each with the session it found and
the one it left. -/
theorem Session.lists_madeBy {running : Bool} {calls : List Call} {r : Except Empty PUnit}
    (h : Yields (calls.forM fun call => do
      let reply ← answer running call
      onWorld (World.record (.reaction call reply))) s r t) :
    ∃ es, Lists s (madeBy running calls s) [] es t := by
  induction calls generalizing s with
  | nil =>
    obtain ⟨-, rfl⟩ := yields_pure.1 h
    exact ⟨[], .uncalled (.refl _) .nil⟩
  | cons call calls ih =>
    rcases yields_bind.1 h with ⟨e, -⟩ | ⟨⟨⟩, u, hx, hrest⟩
    · cases e
    · rcases yields_bind.1 hx with ⟨e, -⟩ | ⟨reply, v, ha, hr⟩
      · cases e
      · rw [madeBy, complete_of_yields ha]
        simp only [complete_of_yields hr]
        obtain ⟨es, hes⟩ := Lists.reaction ha (did_record rfl hr).2
        obtain ⟨fs, hfs⟩ := ih hrest
        exact ⟨_, hes.trans hfs⟩

namespace Worker

omit [Environment ω] in
/-- Acting on a frame makes no call: the message is handed to the handler in a step of its
own. -/
theorem Handling.uncalled {origin : Origin} {frame : List UInt8} {r : Except Fault Errand}
    {es : List Event} (h : Handling origin frame s r es t) : Without Event.isCalled es := by
  cases h with
  | undecodable => exact .singleton rfl
  | ponged => exact .cons rfl (.singleton rfl)
  | stalePong => exact .cons rfl (.singleton rfl)
  | acknowledged _ _ _ _ hsent =>
    exact .cons rfl ((hsent.transfers.uncalled nofun).append (.singleton rfl))
  | unacknowledged _ _ _ _ hsent => exact .cons rfl (hsent.transfers.uncalled nofun)
  | published => exact .cons rfl (.singleton rfl)
  | remarked => exact .cons rfl (.singleton rfl)

omit [Environment ω] in
/-- Only delivering a message makes calls. -/
theorem Dispatching.uncalled {running : Bool} {next : Worker} {es : List Event}
    (other : ∀ topic payload, worker.errand ≠ .deliver topic payload)
    (h : Dispatching running worker s next es t) : Without Event.isCalled es := by
  cases h with
  | cut _ hcut =>
    cases hcut with
    | unfinished => exact .nil
    | broken => exact .nil
    | oversized => exact .singleton rfl
    | handled _ hhandling => exact hhandling.uncalled
    | failed _ hhandling => exact hhandling.uncalled
  | delivered hdeliver => exact absurd hdeliver (other _ _)
  | gaveUp _ _ _ hdrop => exact .cons rfl hdrop.uncalled
  | stale => exact .singleton rfl

/-- Handing a message over lists the calls that the handler makes of it. -/
theorem lists_deliver {running : Bool} {topic : String} {payload : List UInt8}
    {r : Except Empty Bool} (due : worker.errand = .deliver topic payload)
    (h : Yields (deliver running topic payload) s r t) :
    ∃ es, Lists s (worker.made running s) [] es t := by
  rw [deliver] at h
  rcases yields_bind.1 h with ⟨e, -⟩ | ⟨reaction, u, hd, hrest⟩
  · cases e
  · obtain ⟨hw, hu⟩ := Session.did_onWorld hd
    obtain ⟨_, -, hran⟩ := World.ran_deliver hw
    rcases yields_bind.1 hrest with ⟨e, -⟩ | ⟨⟨⟩, v, hc, hend⟩
    · cases e
    · obtain ⟨-, rfl⟩ := yields_pure.1 hend
      obtain ⟨es, hes⟩ := Session.lists_madeBy hc
      rw [made, due]
      simp only [complete_of_yields hd]
      exact ⟨_, (Lists.uncalled hran (.singleton rfl)).trans hes⟩

/-- A step of a dispatch lists the handler's calls if it hands a message over, and
otherwise none. -/
theorem lists_dispatch {running : Bool} {unfinished : worker.errand ≠ .pass}
    {r : Except Empty { next : Worker // next.work < worker.work }}
    (h : Yields (worker.dispatch running unfinished) s r t) :
    ∃ es, Lists s (worker.made running s) [] es t := by
  obtain ⟨next, es, -, hes⟩ := dispatching_of_dispatch h
  have quiet : (∀ topic payload, worker.errand ≠ .deliver topic payload) →
      ∃ es, Lists s (worker.made running s) [] es t := by
    intro other
    have hmade : worker.made running s = [] := by
      unfold made
      split
      case h_1 topic payload herrand => exact absurd herrand (other topic payload)
      case h_2 => rfl
    rw [hmade]
    exact ⟨es, .uncalled hes.path.ran (hes.uncalled other)⟩
  rw [dispatch] at h
  split at h
  case h_1 hpass => exact absurd hpass unfinished
  case h_2 hcut => exact quiet (by simp [hcut])
  case h_3 topic payload hdeliver =>
    rcases yields_bind.1 h with ⟨e, -⟩ | ⟨waits, u, hd, hend⟩
    · cases e
    · obtain ⟨-, rfl⟩ := yields_pure.1 hend
      exact lists_deliver hdeliver hd
  case h_4 fault hgive => exact quiet (by simp [hgive])

/-- What a worker does before it ends lists the handler's calls of all the messages it
still hands over. -/
theorem lists_finish {r : Except Empty Unit} (h : Yields (finish worker) s r t) :
    ∃ es, Lists s (worker.madeToEnd s) [] es t := by
  induction hwork : worker.work using Nat.strongRecOn generalizing worker s r t with
  | ind work ih =>
    rw [finish] at h
    rw [madeToEnd]
    split at h
    case isTrue hpass =>
      obtain ⟨-, rfl⟩ := yields_pure.1 h
      rw [dif_pos hpass]
      exact ⟨[], .uncalled (.refl _) .nil⟩
    case isFalse hmore =>
      rcases yields_bind.1 h with ⟨e, -⟩ | ⟨next, u, hd, hend⟩
      · cases e
      · obtain ⟨es, hes⟩ := lists_dispatch hd
        obtain ⟨fs, hfs⟩ := ih _ (hwork ▸ next.property) hend rfl
        rw [dif_neg hmore]
        simp only [complete_of_yields hd]
        exact ⟨_, hes.trans hfs⟩

omit [Environment ω] in
/-- Starting a slice of sleep makes no call. -/
theorem Pausing.uncalled {running : Bool} {slice remaining : UInt32} {phase : Phase} {es : List Event}
    (h : Pausing running slice remaining s phase es t) : Without Event.isCalled es := by
  cases h with
  | ended => exact .nil
  | slice => exact .singleton rfl

omit [Environment ω] in
/-- Servicing the keep-alive makes no call. -/
theorem Servicing.uncalled {next : Worker} {es : List Event} (h : Servicing worker s next es t) :
    Without Event.isCalled es := by
  cases h with
  | interrupted hkeep => exact hkeep.uncalled
  | continued hkeep => exact hkeep.uncalled
  | adopted hkeep _ hfs =>
    refine hkeep.uncalled.append ?_
    rw [hfs]
    split
    · exact .nil
    · exact .singleton rfl

omit [Environment ω] in
/-- A pass up to its read makes no call: connecting anew sends subscriptions and no
messages. -/
theorem Passing.uncalled {running : Bool} {next : Worker} {es : List Event}
    (h : Passing running worker s next es t) : Without Event.isCalled es := by
  cases h with
  | linked _ hservice => exact hservice.uncalled
  | reconnected _ hreconnect hservice => exact hreconnect.uncalled.append hservice.uncalled
  | postponed _ hreconnect _ _ hpause =>
    exact hreconnect.uncalled.append (.cons rfl hpause.uncalled)

omit [Environment ω] in
/-- The read of a pass makes no call. -/
theorem Taking.uncalled {next : Worker} {es : List Event} (h : Taking worker s next es t) :
    Without Event.isCalled es := by
  cases h with
  | nothing _ hread => exact hread.uncalled
  | taken _ hread => exact hread.uncalled
  | failed hread hdrop => exact hread.uncalled.append hdrop.uncalled

/-- **A move of a worker lists the calls that the handler makes in it.**  They are made
where it hands a message over, each on the session that the one before left behind. -/
theorem lists_move {r : Except Empty Worker} (h : Yields (worker.move true) s r t) :
    ∃ es, Lists s (worker.madeMoving s) [] es t := by
  obtain ⟨next, es, -, hes⟩ := moving_of_move h
  have quiet : Without Event.isCalled es → worker.madeMoving s = [] →
      ∃ es, Lists s (worker.madeMoving s) [] es t := fun hquiet hmade =>
    ⟨es, hmade ▸ .uncalled hes.path.ran hquiet⟩
  have idle : worker.errand = .pass → worker.madeMoving s = [] := by
    intro hpass
    simp [madeMoving, made, hpass]
  cases hes with
  | received hphase htaking => exact quiet htaking.uncalled (by simp [madeMoving, hphase])
  | woke hphase hpause => exact quiet hpause.uncalled (by simp [madeMoving, hphase])
  | passed _ hpass hpassing => exact quiet hpassing.uncalled (idle hpass)
  | dispatched hphase hmore =>
    have hmove : worker.move true = (return (← worker.dispatch true hmore).val :
        Action Empty (Session ω) Worker) := by
      unfold move
      rcases hphase with hphase | hphase <;> simp [hphase, hmore]
    rw [hmove] at h
    rcases yields_bind.1 h with ⟨e, -⟩ | ⟨next, u, hd, hend⟩
    · cases e
    · obtain ⟨-, rfl⟩ := yields_pure.1 hend
      rw [madeMoving, if_pos hphase]
      exact lists_dispatch hd

end Worker

namespace Client

variable {client next : Client ω}

/-- The call that the program makes in a move, if any. -/
def Move.asked : Move ω → List Call
  | .call c => [c]
  | _ => []

omit [Environment ω] in
/-- Connecting makes no other call. -/
theorem Connecting.uncalled {r : Except Fault Unit} {es : List Event}
    (h : Connecting client r es next) : Without Event.isCalled es := by
  cases h with
  | unconnected hensure => exact hensure.uncalled
  | serviced hensure => exact hensure.uncalled
  | starting hensure _ hstart =>
    refine hensure.uncalled.append ?_
    cases hstart with
    | started => exact .cons rfl (.singleton rfl)
    | failed _ hleave => exact .cons rfl (.cons rfl hleave.uncalled)

/-- **A call of the program lists itself**, and what it writes is what it gets as far as
writing. -/
theorem lists_perform {call : Call} {reply : Reply}
    (h : Yields (perform call : Action Empty (Client ω) Reply) client (.ok reply) next) :
    ∃ es, Lists client.session [⟨false, call, client.session, reply, next.session⟩] [call] es
      next.session := by
  by_cases hconnect : call = .connect
  · subst hconnect
    obtain ⟨x, hc, -⟩ := yields_perform_connect.1 h
    obtain ⟨es, hes⟩ := connecting_of_connect hc
    have hquiet := hes.uncalled
    exact Lists.call hes.path.ran hquiet.publications hquiet.reactions
      (Made.honest_of_uncalled nofun hes.path.ran hquiet)
  · obtain ⟨t, ha, rfl⟩ := yields_perform hconnect h
    obtain ⟨_, es, ⟨⟩, hes⟩ := Session.calling_of_answer ha
    exact Lists.call hes.path.ran hes.publications.1 hes.publications.2 (Made.honest_of_answer ha)

/-- The worker of a client that has stopped running ends. -/
theorem lists_ending {r : Except Empty Unit} (stopped : client.running = false)
    (h : Yields proceed client r next) :
    ∃ es, Lists client.session (client.worker.elim [] (·.madeToEnd client.session)) [] es
      next.session := by
  simp only [proceed, yields_get_bind, stopped, Bool.false_eq_true, if_false] at h
  cases hworker : client.worker with
  | none =>
    simp only [hworker] at h
    obtain ⟨-, rfl⟩ := yields_pure.1 h
    exact ⟨[], .uncalled (.refl _) .nil⟩
  | some worker =>
    simp only [hworker] at h
    rcases yields_onSession_bind.1 h with ⟨e, -⟩ | ⟨⟨⟩, t, hf, hend⟩
    · cases e
    · obtain ⟨-, rfl⟩ := yields_modify.1 hend
      exact Worker.lists_finish hf

/-- Disconnecting lists the calls that the handler makes of the messages that the worker
still hands over. -/
theorem lists_disconnect {r : Except Empty Unit} (h : Yields disconnect client r next) :
    ∃ es, Lists client.session (client.madeIn .disconnect) [] es next.session := by
  simp only [disconnect, yields_modify_bind] at h
  rcases yields_onSession_bind.1 h with ⟨e, -⟩ | ⟨⟨⟩, t, hl, hrest⟩
  · cases e
  · obtain ⟨-, es, hes⟩ := Session.leaving_of_disconnect hl
    have hpath : Session.Path (Session.Doing.isCall false ·) client.session es t := hes.path
    have hleft : Lists client.session [] [] es t := .uncalled hpath.ran hes.uncalled
    simp only [madeIn, complete_of_yields hl]
    rw [yields_get_bind] at hrest
    -- Without a worker to join only DISCONNECT is sent.
    split at hrest
    case isFalse halone =>
      obtain ⟨-, rfl⟩ := yields_pure.1 hrest
      rw [if_neg halone]
      exact ⟨es, hleft⟩
    case isTrue hjoin =>
      rw [if_pos hjoin]
      rcases yields_bind.1 hrest with ⟨e, -⟩ | ⟨⟨⟩, mid, hp, hstop⟩
      · cases e
      · obtain ⟨fs, hfs⟩ := lists_ending rfl hp
        rcases yields_onSession_bind.1 hstop with ⟨e, -⟩ | ⟨⟨⟩, u, hn, hjoined⟩
        · cases e
        · rcases yields_onSession_bind.1 hjoined with ⟨e, -⟩ | ⟨⟨⟩, v, hj, hend⟩
          · cases e
          · obtain ⟨-, rfl⟩ := yields_modify.1 hend
            have htold := (Session.did_notice hn).2.trans (Session.did_record rfl hj).2
            have hend := Lists.uncalled htold.ran (.cons rfl (.singleton rfl))
            have hall := (hleft.trans hfs).trans hend
            rw [List.append_nil] at hall
            exact ⟨_, hall⟩

/-- **Every move shows the calls made in it**, and no others.  The list is computed
along with the move, so it has the calls of the program and of the handler in the order
in which they are made. -/
theorem lists_step (client : Client ω) (move : Move ω) :
    ∃ es, Lists client.session (client.madeIn move) move.asked es (client.step move).session := by
  have h := yields_step client move
  have hstepping := stepping_step client move
  generalize client.step move = next at h hstepping
  cases move with
  | call call =>
    rcases yields_bind.1 h with ⟨e, -⟩ | ⟨reply, mid, hp, hend⟩
    · cases e
    · obtain ⟨-, rfl⟩ := yields_pure.1 hend
      simp only [madeIn, complete_of_yields hp]
      exact lists_perform hp
  | disconnect => exact lists_disconnect h
  | proceed =>
    cases hrun : client.running with
    | false =>
      simp only [madeIn, hrun, Bool.false_eq_true, if_false]
      exact lists_ending hrun h
    | true =>
      cases hworker : client.worker with
      | none =>
        simp only [act, proceed, yields_get_bind, hworker] at h
        obtain ⟨-, rfl⟩ := yields_pure.1 h
        simp only [madeIn, hworker, Option.elim_none]
        exact ⟨[], .uncalled (.refl _) .nil⟩
      | some worker =>
        obtain ⟨_, t, hm, rfl⟩ := moved_of_proceed hworker hrun h
        simp only [madeIn, hworker, hrun, Option.elim_some, if_true]
        exact Worker.lists_move hm
  | wait ms =>
    obtain ⟨es, hes⟩ := hstepping
    cases hes with
    | waited _ hdid => exact ⟨[], .uncalled hdid.ran .nil⟩
  | become environment =>
    obtain ⟨es, hes⟩ := hstepping
    cases hes with
    | became _ hdid => exact ⟨[], .uncalled hdid.ran .nil⟩

/-- The calls of a run are those of its moves. -/
theorem lists_run (client : Client ω) (moves : List (Move ω)) :
    ∃ es, Lists client.session (client.made moves) (moves.flatMap Move.asked) es
      (client.run moves).session := by
  induction moves generalizing client with
  | nil => exact ⟨[], .uncalled (.refl _) .nil⟩
  | cons move moves ih =>
    obtain ⟨es, hes⟩ := lists_step client move
    obtain ⟨fs, hfs⟩ := ih (client.step move)
    exact ⟨_, hes.trans hfs⟩

/-- How a run publishes. -/
structure PublishesOnce (client : Client ω) (moves : List (Move ω)) : Prop where
  /-- The messages handed to transports are, in order, one for each call that gets as far as
  writing, and there are no others. -/
  once : publications (client.run moves).events =
    (client.made moves).filterMap fun m => m.before.posted m.call
  /-- The calls of the program are those it makes in the moves. -/
  asked : (client.made moves).filterMap Made.asked? = moves.flatMap Move.asked
  /-- The calls of the message handler are those that the history tells of. -/
  reactions : (client.made moves).filterMap Made.reaction? = reactions (client.run moves).events
  /-- Every call is made within the run. -/
  within : ∀ m ∈ client.made moves, m.after.world.events <+: (client.run moves).events
  /-- Every call to publish keeps what it promises. -/
  honest : ∀ m ∈ client.made moves, m.Honest

/-- **Every message goes out once, and as it was given.**  In every run, whatever links break
and open again meanwhile, a call to publish writes its message at most once, nothing else
writes one, and the call succeeds exactly if all of the message went out. -/
theorem published_run (connector : Connector) (settings : Settings) (environment : ω)
    (clock : UInt32) (moves : List (Move ω)) :
    (start connector settings environment clock).PublishesOnce moves := by
  obtain ⟨es, hes⟩ := lists_run (start connector settings environment clock) moves
  have hevents : ((start connector settings environment clock).run moves).events = es :=
    hes.ran.events
  rw [← hevents] at hes
  refine ⟨hes.publications, hes.asked.symm, hes.reactions.symm, fun m hm => ?_, hes.honest⟩
  obtain ⟨-, after, hafter⟩ := hes.within m hm
  have hrun : ((start connector settings environment clock).run moves).events = _ := hafter.events
  rw [hrun]
  exact List.prefix_append _ _

end Client

end Mqtt
