import QueryWire.Wire.Reader

/-!
# Frames

A message on the wire is one byte for its type, four for a length that counts itself but not the
type, and the payload.

* `Frame.length?` — the size of the frame at the front of a buffer, when it is there whole.
* `Frame.pop` — the frame at the front of a buffer.
-/

namespace QueryWire

/-- One whole message of the server. -/
structure Frame where
  kind : UInt8
  payload : Bytes
deriving DecidableEq, Repr

namespace Frame

/-- The bytes in front of the payload. -/
def headerSize : Nat := 5

/-- The length that a buffer declares for its first frame, when it is there. -/
def declared? : Bytes → Option (UInt8 × Nat)
  | kind :: a :: b :: c :: d :: _ => some (kind, BigEndian.decode [a, b, c, d])
  | _ => none

/-- The size of the frame at the front of a buffer: none when bytes are still to come, an error
as soon as the declared length is seen to be bad. -/
def length? (limit : Nat) (buffer : Bytes) : Except Error (Option Nat) :=
  match declared? buffer with
  | none => .ok none
  | some (kind, declared) =>
    if declared < 4 then .error (.framing (.badLength declared kind))
    else if limit < declared then .error (.framing (.tooLong declared limit))
    else if (buffer.take (declared + 1)).length = declared + 1 then .ok (some (declared + 1))
    else .ok none

/-- The frame of `size` bytes at the front of a buffer. -/
def ofBytes (size : Nat) (buffer : Bytes) : Frame :=
  ⟨buffer.headD 0, (buffer.take size).drop headerSize⟩

/-- The frame at the front of a buffer, and the buffer behind it. -/
def pop (limit : Nat) (buffer : Bytes) : Except Error (Frame × Bytes) :=
  match length? limit buffer with
  | .error e => .error e
  | .ok none => .error (.framing (.incomplete buffer.length))
  | .ok (some size) => .ok (ofBytes size buffer, buffer.drop size)

end Frame

end QueryWire
