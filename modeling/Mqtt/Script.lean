/-
# Scripted environments

An environment whose answers are listed in advance: what each attempt to connect
meets, what the broker sends over each connection, how each write goes, and
how the message handler reacts to each topic.

| list | when it is empty |
| --- | --- |
| attempts to connect | every attempt meets the `fallback` |
| inbound items | a read gives no bytes at once |
| writes | every write is accepted |
-/
import Mqtt.World.Environment

namespace Mqtt
namespace Script

/-- What a read meets: bytes or a failure, after some time. -/
structure Item where
  after : UInt32
  /-- Nothing stands for a failed read. -/
  chunk : Option (List UInt8)
  deriving DecidableEq

/-- What a write meets. -/
inductive Plan where
  /-- All bytes are taken. -/
  | accept
  /-- So many bytes are said to be taken. -/
  | count (taken : Nat)
  | fail
  /-- All bytes are taken, and the next flush fails. -/
  | failFlush
  | after (ms : UInt32) (plan : Plan)
  deriving DecidableEq

end Script

/-- The answers of an environment, in the order they will be given. -/
structure Script where
  /-- Nothing stands for a refused attempt. -/
  attempts : List (Option (List Script.Item)) := []
  /-- What an attempt meets when none is listed: a CONNACK that accepts. -/
  fallback : Option (List Script.Item) := some [⟨0, some [0x20, 0x02, 0x00, 0x00]⟩]
  /-- What is left of what the broker sends over the open connection. -/
  inbound : List Script.Item := []
  writes : List Script.Plan := []
  closeFails : Bool := false
  tlsRejects : Bool := false
  spawnFails : Bool := false
  /-- The calls that the handler makes on a message of a topic. -/
  reactions : List (String × List Call) := []
  /-- The topics on which the handler waits. -/
  gates : List String := []
  deriving DecidableEq

namespace Script

/-- An answer that takes no time. -/
def atOnce {α : Type} (script : Script) (value : α) : Answer Script α :=
  ⟨value, 0, script⟩

/-- Takes the next attempt to connect. -/
def connect (script : Script) : Answer Script (Except NetFault Unit) :=
  let (attempt, script) := match script.attempts with
    | [] => (script.fallback, script)
    | attempt :: attempts => (attempt, { script with attempts })
  match attempt with
  | none => script.atOnce (.error .connectionRefused)
  | some inbound => { script with inbound }.atOnce (.ok ())

/-- Takes the next item, as much of it as was asked for; what is left of a chunk
comes first at the next read. -/
def read (capacity : Nat) (script : Script) : Answer Script (Except NetFault (Chunk capacity)) :=
  match script.inbound with
  | [] => script.atOnce (.ok ⟨[], Nat.zero_le _⟩)
  | ⟨after, none⟩ :: inbound => ⟨.error .connectionClosed, after, { script with inbound }⟩
  | ⟨after, some bytes⟩ :: inbound =>
    let left := bytes.drop capacity
    let inbound := if left.isEmpty then inbound else ⟨0, some left⟩ :: inbound
    ⟨.ok ⟨bytes.take capacity, List.length_take_le ..⟩, after, { script with inbound }⟩

/-- How a write of so many bytes goes under a plan: the answer, its time, and the
plans that come before the listed ones. -/
def Plan.meet (size : Nat) : Plan → Except NetFault Nat × UInt32 × List Plan
  | accept => (.ok size, 0, [])
  | count taken => (.ok taken, 0, [])
  | fail => (.error .writeError, 0, [])
  | failFlush => (.ok size, 0, [failFlush])
  | after ms plan =>
    let (result, took, first) := plan.meet size
    (result, ms + took, first)

/-- Takes the next plan. -/
def write (frame : List UInt8) (script : Script) : Answer Script (Except NetFault Nat) :=
  match script.writes with
  | [] => script.atOnce (.ok frame.length)
  | plan :: writes =>
    let (result, took, first) := plan.meet frame.length
    ⟨result, took, { script with writes := first ++ writes }⟩

/-- Fails if that is planned next. -/
def flush (script : Script) : Answer Script (Except NetFault Unit) :=
  match script.writes with
  | .failFlush :: writes => { script with writes }.atOnce (.error .writeError)
  | _ => script.atOnce (.ok ())

/-- A script answers from its list, entry by entry, and has an answer ready for when the
list is used up. -/
instance : Environment Script where
  connect _ _ _ := connect
  secure _ _ script := script.atOnce (if script.tlsRejects then .error "rejected" else .ok ())
  read capacity _ := read capacity
  write := write
  flush := flush
  close script := script.atOnce (if script.closeFails then .error .notOpen else .ok ())
  spawn _ script := script.atOnce (!script.spawnFails)
  deliver topic _ script := script.atOnce
    { calls := (script.reactions.lookup topic).getD [], waits := script.gates.contains topic }
  pending script := !script.inbound.isEmpty

end Script
end Mqtt
