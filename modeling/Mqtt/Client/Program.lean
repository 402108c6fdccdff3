/-
# Programs

What the owner of a client asks for and what happens around it, one thing after the
other.  After each, the worker moves until it has to wait, and only then comes the next;
`play` says what each of them shows.
-/
import Mqtt.Client.Schedule

namespace Mqtt

/-- Something asked for, or something that happens around a client. -/
inductive Request (ω : Type) where
  | call (call : Call)
  | disconnect
  /-- The message handler returns, if it waits. -/
  | release
  /-- So many milliseconds pass. -/
  | elapse (ms : Nat)
  /-- The environment changes. -/
  | change (change : ω → ω)
  /-- The environment changes if there is a link. -/
  | feed (change : ω → ω)

/-- What comes of a request. -/
inductive Outcome where
  | done
  | noLink
  | reply (call : Call) (reply : Reply)
  /-- Whether the message handler waited. -/
  | released (waited : Bool)
  /-- The reading of the clock then. -/
  | clock (reading : UInt32)

/-- What a request shows: what comes of it, what was done meanwhile, where the worker is
then, and whether there is a link. -/
structure Shown where
  outcome : Outcome
  events : List Event
  phase : Option Phase
  connected : Bool

namespace Client

variable {ω ε : Type} [Environment ω]

/-- Changes the environment and lets the worker go on. -/
def alter (moves : Nat) (change : ω → ω) : Action ε (Client ω) Outcome := do
  onSession (Session.onWorld (modify fun world =>
    { world with environment := change world.environment }))
  settle moves
  return .done

/-- Does what is asked for; the worker takes at most so many moves at a time. -/
def serve (moves : Nat) : Request ω → Action ε (Client ω) Outcome
  | .call c => return .reply c (← call moves c)
  | .disconnect => do
    disconnect
    return .done
  | .release => return .released (← release moves)
  | .elapse ms => do
    elapse moves ms
    return .clock (← get).session.world.clock
  | .change change => alter moves change
  | .feed change => do
    if (← get).session.isConnected then alter moves change else return .noLink

/-- Does what is asked for, and says what it shows. -/
def attend (moves : Nat) (request : Request ω) : Action ε (Client ω) Shown := do
  let before := (← get).session.world.events.length
  let outcome ← serve moves request
  let client ← get
  return {
    outcome
    events := client.session.world.events.drop before
    phase := client.phase?
    connected := client.session.isConnected }

/-- Attends to one request after the other. -/
def play (moves : Nat) : List (Request ω) → Action ε (Client ω) (List Shown)
  | [] => return []
  | request :: requests => do
    let shown ← attend moves request
    return shown :: (← play moves requests)

end Client
end Mqtt
