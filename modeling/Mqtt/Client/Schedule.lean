/-
# Taking turns

One order in which a client and its worker can take turns: the worker moves
until it has to wait, and only then the next call is made.

| the worker waits | until |
| --- | --- |
| before a read | bytes are pending, a call is made, or time passes |
| in a sleep | the slice of time has passed |
| in the handler | it is released |

A worker need not ever wait, for instance if every link breaks as soon as it is
up, so `settle` is given the number of moves it may take.
-/
import Mqtt.Client.Run

namespace Mqtt
namespace Client

variable {ω ε : Type} [Environment ω]

/-- The place where the worker is, if there is a worker. -/
def phase? (client : Client ω) : Option Phase :=
  client.worker.map (·.phase)

/-- The worker cannot move, or there is none. -/
def isSettled (client : Client ω) : Bool :=
  match client.phase? with
  | some .ready => false
  | some .receiving => !Environment.pending client.session.world.environment
  | some (.sleeping ..) | some .handling | none => true

/-- Lets the worker move until it has to wait. -/
def settle : (moves : Nat) → Action ε (Client ω) Unit
  | 0 => return
  | moves + 1 => do
    unless (← get).isSettled do
      proceed
      settle moves

/-- Makes a call and lets the worker go on. -/
def call (moves : Nat) (c : Call) : Action ε (Client ω) Reply := do
  let reply ← perform c
  settle moves
  return reply

/-- Lets the message handler return.  Says whether it was waiting. -/
def release (moves : Nat) : Action ε (Client ω) Bool := do
  if (← get).phase? = some .handling then
    proceed
    settle moves
    return true
  return false

/-- Ends the slice that the worker sleeps in, if it ends within so many
milliseconds; gives how many are left then. -/
def endSlice (ms : Nat) : Action ε (Client ω) (Option { left : Nat // left < ms }) := do
  let some (.sleeping rest _) := (← get).phase? | return none
  if h : 0 < rest.toNat ∧ rest.toNat ≤ ms then
    wait rest
    proceed
    return some ⟨ms - rest.toNat, Nat.sub_lt_of_pos_le h.1 h.2⟩
  return none

/-- Lets time pass in which no slice of sleep ends.  A read that has waited all the
while ends without bytes. -/
def idle (moves ms : Nat) : Action ε (Client ω) Unit := do
  wait ms.toUInt32
  if (← get).phase? = some .receiving then
    proceed
    settle moves

/-- Lets time pass.  Slices of sleep that end within it end at their time. -/
def elapse (moves ms : Nat) : Action ε (Client ω) Unit := do
  match ← endSlice ms with
  | some ⟨left, _⟩ =>
    settle moves
    elapse moves left
  | none => idle moves ms
termination_by ms

end Client
end Mqtt
