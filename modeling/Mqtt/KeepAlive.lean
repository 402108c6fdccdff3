/-
# Keep-alive

A client that has heard nothing for half the keep-alive interval sends a
PINGREQ.  If no PINGRESP has arrived when more than half the interval has
passed since, the link is dead.  An interval of 0 switches all this off.

| waiting for PINGRESP | time since | due |
| --- | --- | --- |
| no | `heardAt`, at least half | a ping |
| yes | `pingedAt`, more than half | nothing else: the link is dead |
-/
import Mqtt.Clock

namespace Mqtt

/-- The timers of one link, in milliseconds of the wrapping clock. -/
structure KeepAlive where
  /-- The whole interval; 0 switches pings off. -/
  interval : UInt32
  /-- When the link was opened, or last answered a ping. -/
  heardAt : UInt32
  /-- When the last ping went out. -/
  pingedAt : UInt32
  /-- A ping is out and has not been answered. -/
  waiting : Bool
  deriving DecidableEq

namespace KeepAlive

/-- What the timers call for. -/
inductive Due where
  | ping
  | linkDead
  deriving DecidableEq

/-- Timers that have never been started. -/
def ofSeconds (seconds : UInt16) : KeepAlive where
  interval := seconds.toUInt32 * 1000
  heardAt := 0
  pingedAt := 0
  waiting := false

/-- Starts the timers for a new link. -/
def reset (k : KeepAlive) (now : UInt32) : KeepAlive :=
  { k with heardAt := now, pingedAt := now, waiting := false }

/-- Notes that a ping went out. -/
def pinged (k : KeepAlive) (now : UInt32) : KeepAlive :=
  { k with pingedAt := now, waiting := true }

/-- Notes that a ping was answered. -/
def ponged (k : KeepAlive) (now : UInt32) : KeepAlive :=
  { k with heardAt := now, waiting := false }

/-- What is due at a reading of the clock. -/
def due (k : KeepAlive) (now : UInt32) : Option Due :=
  if k.interval = 0 then none
  else if k.waiting then
    if k.interval / 2 < elapsed now k.pingedAt then some .linkDead else none
  else
    if k.interval / 2 ≤ elapsed now k.heardAt then some .ping else none

/-- The timers as they are shown. -/
def text (k : KeepAlive) : String :=
  s!"KeepAlive \x7b interval_ms: {k.interval.toNat}, last_ping_ms: {k.heardAt.toNat}, " ++
    s!"ping_sent_ms: {k.pingedAt.toNat}, waiting_pingresp: {k.waiting} \x7d"

end KeepAlive
end Mqtt
