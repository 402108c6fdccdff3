/-
# The schedule as moves

Runs let the moves of a client come in any order, and everything proved of them
holds in particular for the order in which programs are played: calls as they are
asked for, and after each the worker until it has to wait.  That is shown here.
An action is made of moves if, from whatever client, it yields one that a run
reaches (`MadeOfMoves`).  Single moves are, and what is put together from actions
made of moves is again, so that one lemma for each way of putting together carries
the whole schedule, from letting the worker settle up to playing a program
(`isRunOf_play`).  What every move of a client keeps therefore holds after every
program played (`play_preserves`), however many moves the worker is granted.
-/
import Mqtt.Client.Program
import Mqtt.Proofs.Client.Run

namespace Mqtt
namespace Client

open Mqtt.Action

variable {ω α β : Type} [Environment ω]

/-- What the action does to a client is done by moves: whatever client it starts from,
it yields one that a run reaches.  The action may look at the client to choose the
moves, and gives a value besides. -/
def MadeOfMoves (action : Action Empty (Client ω) α) : Prop :=
  ∀ {client next : Client ω} {r : Except Empty α}, Yields action client r next →
    next.IsRunOf client

/-! ### Putting together -/

/-- Giving a value takes no move. -/
theorem madeOfMoves_pure (a : α) : MadeOfMoves (pure a : Action Empty (Client ω) α) := by
  intro client next r h
  obtain ⟨-, rfl⟩ := yields_pure.1 h
  exact .refl _

/-- Looking at the client takes no move, so an action may depend on what it sees. -/
theorem madeOfMoves_get_bind {rest : Client ω → Action Empty (Client ω) α}
    (h : ∀ client, MadeOfMoves (rest client)) : MadeOfMoves (get >>= rest) := by
  intro client next r hrest
  exact h client (yields_get_bind.1 hrest)

/-- The moves of the first action come before those of the second.  The first cannot
fail, so the second always gets its turn. -/
theorem madeOfMoves_bind {action : Action Empty (Client ω) α}
    {rest : α → Action Empty (Client ω) β} (h : MadeOfMoves action)
    (hrest : ∀ a, MadeOfMoves (rest a)) : MadeOfMoves (action >>= rest) := by
  intro client next r hyields
  rcases yields_bind.1 hyields with ⟨e, -⟩ | ⟨a, mid, hfirst, hsecond⟩
  · cases e
  · exact (h hfirst).trans (hrest a hsecond)

/-! ### Single moves -/

/-- A move is a run of one move. -/
theorem madeOfMoves_act (move : Move ω) : MadeOfMoves (act move) := by
  intro client next r h
  exact ⟨[move], (yields_iff_complete.1 h).2⟩

/-- Performing a call is the move of that call; the move only throws away the reply. -/
theorem madeOfMoves_perform (c : Call) :
    MadeOfMoves (perform c : Action Empty (Client ω) Reply) := by
  intro client next r h
  rcases r with e | reply
  · cases e
  · have hmove : Yields (act (.call c)) client (.ok ()) next :=
      yields_bind.2 (.inr ⟨reply, next, h, yields_pure.2 ⟨rfl, rfl⟩⟩)
    exact madeOfMoves_act _ hmove

/-- A change of the environment is the move to what the environment becomes.  The change
is a function of the environment, the move names its value at this client. -/
theorem madeOfMoves_change (change : ω → ω) :
    MadeOfMoves (onSession (Session.onWorld (modify fun world =>
      { world with environment := change world.environment })) :
        Action Empty (Client ω) Unit) := by
  intro client next r h
  have hmove : Yields (act (.become (change client.session.world.environment))) client r next :=
    (yields_congr (by rfl)).1 h
  exact madeOfMoves_act _ hmove

/-! ### The schedule -/

/-- Letting the worker move until it has to wait is made of moves, one for each time the
worker is not settled yet. -/
theorem madeOfMoves_settle (moves : Nat) :
    MadeOfMoves (settle moves : Action Empty (Client ω) Unit) := by
  induction moves with
  | zero => exact madeOfMoves_pure _
  | succ moves ih =>
    refine madeOfMoves_get_bind fun client => ?_
    split
    case isTrue => exact madeOfMoves_pure _
    case isFalse => exact madeOfMoves_bind (madeOfMoves_act .proceed) fun _ => ih

/-- So is a call of the program, with the moves of the worker after it. -/
theorem madeOfMoves_call (moves : Nat) (c : Call) :
    MadeOfMoves (call moves c : Action Empty (Client ω) Reply) :=
  madeOfMoves_bind (madeOfMoves_perform c) fun _ =>
    madeOfMoves_bind (madeOfMoves_settle moves) fun _ => madeOfMoves_pure _

/-- The message handler returns by a move of the worker, if it was waiting. -/
theorem madeOfMoves_release (moves : Nat) :
    MadeOfMoves (release moves : Action Empty (Client ω) Bool) := by
  refine madeOfMoves_get_bind fun client => ?_
  split
  case isTrue =>
    refine madeOfMoves_bind (madeOfMoves_act .proceed) fun _ => ?_
    exact madeOfMoves_bind (madeOfMoves_settle moves) fun _ => madeOfMoves_pure _
  case isFalse => exact madeOfMoves_pure _

/-- The end of a slice of sleep is a wait of its length and a move of the worker. -/
theorem madeOfMoves_endSlice (ms : Nat) :
    MadeOfMoves (endSlice ms :
      Action Empty (Client ω) (Option { left : Nat // left < ms })) := by
  refine madeOfMoves_get_bind fun client => ?_
  split
  case h_1 =>
    split
    case isTrue =>
      refine madeOfMoves_bind (madeOfMoves_act (.wait _)) fun _ => ?_
      exact madeOfMoves_bind (madeOfMoves_act .proceed) fun _ => madeOfMoves_pure _
    case isFalse => exact madeOfMoves_pure _
  case h_2 => exact madeOfMoves_pure _

/-- Time in which no slice ends is one wait; a read that waited meanwhile goes on. -/
theorem madeOfMoves_idle (moves ms : Nat) :
    MadeOfMoves (idle moves ms : Action Empty (Client ω) Unit) := by
  refine madeOfMoves_bind (madeOfMoves_act (.wait _)) fun _ => ?_
  refine madeOfMoves_get_bind fun client => ?_
  split
  case isTrue =>
    exact madeOfMoves_bind (madeOfMoves_act .proceed) fun _ => madeOfMoves_settle moves
  case isFalse => exact madeOfMoves_pure _

/-- Letting time pass is made of moves, slice after slice. -/
theorem madeOfMoves_elapse (moves ms : Nat) :
    MadeOfMoves (elapse moves ms : Action Empty (Client ω) Unit) := by
  -- every slice that ends leaves less time than there was
  induction ms using Nat.strongRecOn with
  | ind ms ih =>
    rw [elapse]
    refine madeOfMoves_bind (madeOfMoves_endSlice ms) fun ended => ?_
    split
    case h_1 left less => exact madeOfMoves_bind (madeOfMoves_settle moves) fun _ => ih left less
    case h_2 => exact madeOfMoves_idle moves ms

/-! ### Programs -/

/-- Changing the environment and letting the worker go on is made of moves. -/
theorem madeOfMoves_alter (moves : Nat) (change : ω → ω) :
    MadeOfMoves (alter moves change : Action Empty (Client ω) Outcome) := by
  refine madeOfMoves_bind (madeOfMoves_change change) fun _ => ?_
  exact madeOfMoves_bind (madeOfMoves_settle moves) fun _ => madeOfMoves_pure _

/-- Whatever is asked for is done by moves: each request has moves of its own, and the
worker's come after them. -/
theorem madeOfMoves_serve (moves : Nat) (request : Request ω) :
    MadeOfMoves (serve moves request : Action Empty (Client ω) Outcome) := by
  cases request with
  | call c => exact madeOfMoves_bind (madeOfMoves_call moves c) fun _ => madeOfMoves_pure _
  | disconnect => exact madeOfMoves_bind (madeOfMoves_act .disconnect) fun _ => madeOfMoves_pure _
  | release => exact madeOfMoves_bind (madeOfMoves_release moves) fun _ => madeOfMoves_pure _
  | elapse ms =>
    refine madeOfMoves_bind (madeOfMoves_elapse moves ms) fun _ => ?_
    exact madeOfMoves_get_bind fun _ => madeOfMoves_pure _
  | change change => exact madeOfMoves_alter moves change
  | feed change =>
    refine madeOfMoves_get_bind fun client => ?_
    split
    case isTrue => exact madeOfMoves_alter moves change
    case isFalse => exact madeOfMoves_pure _

/-- Saying what a request shows adds no move to those that do what it asks for. -/
theorem madeOfMoves_attend (moves : Nat) (request : Request ω) :
    MadeOfMoves (attend moves request : Action Empty (Client ω) Shown) := by
  refine madeOfMoves_get_bind fun _ => ?_
  refine madeOfMoves_bind (madeOfMoves_serve moves request) fun _ => ?_
  exact madeOfMoves_get_bind fun _ => madeOfMoves_pure _

/-- Playing a program is made of moves, request after request. -/
theorem madeOfMoves_play (moves : Nat) (requests : List (Request ω)) :
    MadeOfMoves (play moves requests : Action Empty (Client ω) (List Shown)) := by
  induction requests with
  | nil => exact madeOfMoves_pure _
  | cons request requests ih =>
    refine madeOfMoves_bind (madeOfMoves_attend moves request) fun _ => ?_
    exact madeOfMoves_bind ih fun _ => madeOfMoves_pure _

/-- **A program played is a run.**  Whatever is asked for, and however many moves the
worker is granted after each request, there is a list of moves that takes the client
where playing the program takes it.  So the theorems about runs leave out nothing that
the schedule can do. -/
theorem isRunOf_play (moves : Nat) (requests : List (Request ω)) (client : Client ω) :
    (complete (play moves requests) client).2.IsRunOf client :=
  madeOfMoves_play moves requests (yields_complete _ client)

/-- **What every move keeps holds after every program.**  The schedule needs no invariants
of its own: those of runs (`run_preserves`) hold where a program leaves the client. -/
theorem play_preserves {Inv : Client ω → Prop}
    (keep : ∀ {client next : Client ω} {move : Move ω} {es : List Event}, Inv client →
      Stepping client move es next → Inv next)
    {client : Client ω} (moves : Nat) (requests : List (Request ω)) (h : Inv client) :
    Inv (complete (play moves requests) client).2 := by
  obtain ⟨run, hrun⟩ := isRunOf_play moves requests client
  rw [hrun]
  exact run_preserves keep run h

end Client
end Mqtt
