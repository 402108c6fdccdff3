/-
# Acting on what the broker sent

A worker cuts the bytes received from one link into frames and acts on them in
order: a message goes to the handler, once it is acknowledged if it asks for
that; the answer to a ping restarts the keep-alive timers; the rest is only
told to the log.

It does so in steps, each of which uses the session at most once, and any call
can be made between two of them.  The worker's `Errand` says which step comes
next:

| errand | step | then |
| --- | --- | --- |
| `cut` | take the next frame, acknowledge it, count it as a sign of life | `cut`, `deliver`, `giveUp`, `pass` |
| `deliver` | hand the frame's message to the handler | `cut` |
| `giveUp` | drop the link on which the broker broke the protocol | `pass` |
| `pass` | nothing is left to dispatch | |

The link the bytes came from may be gone, or another may have replaced it, by
the time a frame's turn comes: handlers and other callers use the session too.
So each frame is acknowledged, counts as a sign of life, or breaks the
connection only while the session's link has the number of the link it came
from.
-/
import Mqtt.Client.Answer
import Mqtt.Wire.Cut

namespace Mqtt

/-- Where received bytes came from.  Decisions compare the link's number; the
connection is what the history tells. -/
structure Origin where
  link : UInt32
  connection : Nat
  deriving DecidableEq

/-- Where a worker waits between two moves. -/
inductive Phase where
  /-- It does not wait. -/
  | ready
  /-- Before the read of a pass. -/
  | receiving
  /-- In a slice of a sleep, with so much of it to go and so much after it. -/
  | sleeping (rest later : UInt32)
  /-- In the message handler. -/
  | handling
  deriving DecidableEq

/-- What a worker that does not wait does next. -/
inductive Errand where
  /-- Start a pass. -/
  | pass
  /-- Act on the next frame of the bytes held. -/
  | cut
  /-- Hand a message to the handler. -/
  | deliver (topic : String) (payload : List UInt8)
  /-- Give up the link that the bytes held came from. -/
  | giveUp (fault : Fault)
  deriving DecidableEq

/-- A worker between two moves. -/
structure Worker where
  /-- The bytes received and not yet acted on. -/
  held : List UInt8 := []
  /-- Where they came from. -/
  origin : Origin := ⟨0, 0⟩
  /-- How many of its attempts to reconnect have failed in a row; stops at the largest. -/
  failures : UInt32 := 0
  phase : Phase := .ready
  errand : Errand := .pass
  deriving DecidableEq

namespace Worker

variable {ω ε : Type} [Environment ω]

/-- How many bytes a worker holds at most, and the largest frame it accepts. -/
def capacity : Nat := 1024

/-- A bound on the steps of a dispatch that are left. -/
def work (worker : Worker) : Nat :=
  match worker.errand with
  | .pass => 0
  | .giveUp _ => 1
  | .cut => 2 * worker.held.length + 2
  | .deliver .. => 2 * worker.held.length + 3

/-- Twice the held bytes and three more bound the work left to a worker, wherever in its
pass it is: a frame takes two steps, one to cut it and one to hand it over, and no frame
is shorter than a byte. -/
theorem work_le (worker : Worker) : worker.work ≤ 2 * worker.held.length + 3 := by
  unfold work
  split <;> omega

/-- Hands a message to the handler and makes the calls it asks for.  Says whether
the handler then waits; it does not once the client has stopped running. -/
def deliver (running : Bool) (topic : String) (payload : List UInt8) :
    Action ε (Session ω) Bool := do
  let reaction ← Session.onWorld (World.deliver topic payload)
  reaction.calls.forM fun call => do
    let reply ← Session.answer running call
    Session.onWorld (World.record (.reaction call reply))
  return reaction.waits && running

/-- The link the bytes came from is the session's own, up or down. -/
def isCurrent (origin : Origin) : Action ε (Session ω) Bool :=
  return (← get).link = origin.link

/-- Acts on one frame, up to the message handler.  Says what comes next. -/
def handle (origin : Origin) (frame : List UInt8) : Action Fault (Session ω) Errand := do
  Session.onWorld (World.record (.frame origin.connection frame))
  match ← Action.ofExcept (Inbound.decode frame) with
  | .pingResp =>
    Session.notice .ponged
    if ← isCurrent origin then Session.ponged (← Session.now)
    return .cut
  | .publish message =>
    if let some id := message.packetId then
      if ← isCurrent origin then Session.acknowledge id
    Session.notice (.message message.topic message.payload.length)
    return .deliver message.topic message.payload
  | .subAck id 0x80 =>
    Session.notice (.subscriptionRejected id)
    return .cut
  | packet =>
    Session.notice (.ignored packet)
    return .cut

/-- Gives up a link on which the broker broke the protocol, unless another one
has replaced it. -/
def protocolFailure (origin : Origin) (fault : Fault) : Action ε (Session ω) Unit := do
  if ← isCurrent origin then
    Session.notice (.protocolFailure fault)
    Session.dropLink
  else
    Session.notice (.staleFailure fault)

/-- The worker that has forgotten the bytes held and is about to give up their link. -/
def abandon (worker : Worker) (fault : Fault) : Worker :=
  { worker with held := [], phase := .ready, errand := .giveUp fault }

/-- Acts on the frame at the start of the bytes held, if it is all there. -/
def cutFrame (worker : Worker) :
    Action ε (Session ω) { next : Worker // next.work < 2 * worker.held.length + 2 } := do
  match Cut.first capacity worker.held with
  | .unfinished => return ⟨{ worker with phase := .ready, errand := .pass }, by simp [work]⟩
  | .broken fault => return ⟨worker.abandon fault, by simp [work, abandon]⟩
  | .oversized size =>
    Session.notice (.oversized size)
    return ⟨worker.abandon .bufferTooSmall, by simp [work, abandon]⟩
  | .whole frame rest split nonempty =>
    match ← Action.attempt (handle worker.origin frame) with
    | .ok errand =>
      let next := { worker with held := rest, phase := .ready, errand }
      return ⟨next, by
        have : next.work ≤ 2 * rest.length + 3 := work_le next
        have := Cut.length_rest_lt split nonempty
        omega⟩
    | .error fault => return ⟨worker.abandon fault, by simp [work, abandon]⟩

/-- Takes the next step of a dispatch. -/
def dispatch (running : Bool) (worker : Worker) (unfinished : worker.errand ≠ .pass) :
    Action ε (Session ω) { next : Worker // next.work < worker.work } := do
  match h : worker.errand with
  | .pass => absurd h unfinished
  | .cut =>
    let ⟨next, less⟩ ← cutFrame worker
    return ⟨next, by simpa [work, h] using less⟩
  | .deliver topic payload =>
    let waits ← deliver running topic payload
    return ⟨{ worker with errand := .cut, phase := if waits then .handling else .ready }, by
      simp [work, h]⟩
  | .giveUp fault =>
    protocolFailure worker.origin fault
    return ⟨{ worker with phase := .ready, errand := .pass }, by simp [work, h]⟩

end Worker
end Mqtt
