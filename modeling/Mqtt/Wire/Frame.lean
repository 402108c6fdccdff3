/-
# Frames and the buffers they are packed into

A frame is a first byte, an announced body size and the fields of the body.
Packing puts them into a caller's buffer one after the other.  What does not
fit is refused, never cut short, and the room behind the frame keeps the bytes
it had.

The body size is announced, not measured: `Frame.bodySize` is computed by the
packet from its own parts, and that it equals the bytes the fields take is a
law about each packet.
-/
import Mqtt.Wire.Field
import Mqtt.Wire.Header

namespace Mqtt

/-- A caller's buffer: the bytes put into it, then the room left with what was in it before. -/
structure Buffer where
  written : List UInt8
  room : List UInt8
  deriving DecidableEq

namespace Buffer

/-- A buffer in which nothing has been put. -/
def ofRoom (room : List UInt8) : Buffer := ⟨[], room⟩

/-- A buffer of so many zero bytes. -/
def blank (capacity : Nat) : Buffer := ofRoom (List.replicate capacity 0)

/-- Puts bytes over the start of the room, all of them or none. -/
def put (buffer : Buffer) (bytes : List UInt8) : Except Fault Buffer :=
  if bytes.length ≤ buffer.room.length then
    .ok ⟨buffer.written ++ bytes, buffer.room.drop bytes.length⟩
  else .error .bufferTooSmall

/-- Bytes are put exactly if there is room for them; they come after what was
written, and the room behind them is as it was. -/
theorem put_eq_ok_iff {buffer after : Buffer} {bytes : List UInt8} :
    buffer.put bytes = .ok after ↔ bytes.length ≤ buffer.room.length ∧
      after = ⟨buffer.written ++ bytes, buffer.room.drop bytes.length⟩ := by
  unfold put
  split
  case isTrue h => simp [h, eq_comm]
  case isFalse h => simp [h]

/-- Puts a length in its shortest form. -/
def putLength (buffer : Buffer) (n : Nat) : Except Fault Buffer :=
  match Length.write n buffer.room with
  | .ok count room => .ok ⟨buffer.written ++ room.take count, room.drop count⟩
  | .error fault _ => .error fault

/-- Puts a field; a text beyond its limit does not fit any buffer. -/
def putField (buffer : Buffer) (field : Field) : Except Fault Buffer :=
  match field.bytes? with
  | some bytes => buffer.put bytes
  | none => .error .bufferTooSmall

end Buffer

/-- A control packet laid out for sending. -/
structure Frame where
  first : UInt8
  /-- The size of the body that the header announces. -/
  bodySize : Nat
  body : List Field
  deriving DecidableEq

namespace Frame

/-- Puts the frame into a buffer. -/
def putInto (frame : Frame) (buffer : Buffer) : Except Fault Buffer := do
  let buffer ← buffer.put [frame.first]
  let buffer ← buffer.putLength frame.bodySize
  frame.body.foldlM Buffer.putField buffer

/-- The bytes of the frame, if a buffer of that capacity holds them. -/
def pack (frame : Frame) (capacity : Nat) : Except Fault (List UInt8) := do
  let buffer ← frame.putInto (Buffer.blank capacity)
  return buffer.written

end Frame
end Mqtt
