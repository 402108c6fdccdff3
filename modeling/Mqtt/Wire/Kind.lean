/-
# Kinds of control packet

The high nibble of a frame's first byte names one of fourteen kinds; 0 and 15
name none.
-/

namespace Mqtt

/-- A kind of control packet. -/
inductive Kind where
  | connect
  | connAck
  | publish
  | pubAck
  | pubRec
  | pubRel
  | pubComp
  | subscribe
  | subAck
  | unsubscribe
  | unsubAck
  | pingReq
  | pingResp
  | disconnect
  deriving DecidableEq

namespace Kind

/-- The nibble that stands for a kind. -/
def code : Kind → UInt8
  | connect => 1
  | connAck => 2
  | publish => 3
  | pubAck => 4
  | pubRec => 5
  | pubRel => 6
  | pubComp => 7
  | subscribe => 8
  | subAck => 9
  | unsubscribe => 10
  | unsubAck => 11
  | pingReq => 12
  | pingResp => 13
  | disconnect => 14

/-- The kind that a nibble stands for. -/
def ofCode? : UInt8 → Option Kind
  | 1 => some connect
  | 2 => some connAck
  | 3 => some publish
  | 4 => some pubAck
  | 5 => some pubRec
  | 6 => some pubRel
  | 7 => some pubComp
  | 8 => some subscribe
  | 9 => some subAck
  | 10 => some unsubscribe
  | 11 => some unsubAck
  | 12 => some pingReq
  | 13 => some pingResp
  | 14 => some disconnect
  | _ => none

/-- The kind that the first byte of a frame announces. -/
def ofFirstByte? (first : UInt8) : Option Kind :=
  ofCode? (first / 16)

/-- The first byte of a frame of this kind with the given flags, which are below 16. -/
def firstByte (kind : Kind) (flags : UInt8) : UInt8 :=
  kind.code * 16 + flags

/-- The name shown for a kind. -/
def text : Kind → String
  | connect => "Connect"
  | connAck => "ConnAck"
  | publish => "Publish"
  | pubAck => "PubAck"
  | pubRec => "PubRec"
  | pubRel => "PubRel"
  | pubComp => "PubComp"
  | subscribe => "Subscribe"
  | subAck => "SubAck"
  | unsubscribe => "Unsubscribe"
  | unsubAck => "UnsubAck"
  | pingReq => "PingReq"
  | pingResp => "PingResp"
  | disconnect => "Disconnect"

/-- A kind is found again by its code, so no two kinds share one. -/
theorem ofCode?_code (kind : Kind) : ofCode? kind.code = some kind := by
  cases kind <;> rfl

end Kind
end Mqtt
