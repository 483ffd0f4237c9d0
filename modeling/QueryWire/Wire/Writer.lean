import QueryWire.Protocol.Code
import QueryWire.Text.Utf8
import QueryWire.Uuid
import QueryWire.Wire.Headers

/-!
# Writing a batch

A writer gathers a whole batch of messages, to be sent at once.  The length of a message, or of a
block inside one, is not known when it begins: four bytes are left open there and filled at the
end.

* `Writer.beginMessage`, `Writer.endMessage` — a message; its length counts itself.
* `Writer.beginLength`, `Writer.endLength` — a block; its length does not count itself.
* `Writer.sync` — the message that ends every batch.
-/

namespace QueryWire

/-- The bytes of `n` bytes behind their length. -/
def Bytes.prefixed (bytes : Bytes) : Bytes := BigEndian.encode 4 bytes.length ++ bytes

/-- A batch in the making. -/
structure Writer where
  /-- What was written so far. -/
  bytes : Bytes := []
  /-- Where the length of the open message stands. -/
  open? : Option Nat := none
deriving DecidableEq, Repr

namespace Writer

/-- Nothing written yet. -/
def empty : Writer := {}

/-- How many bytes were written. -/
def size (w : Writer) : Nat := w.bytes.length

/-- Bytes as they are. -/
def raw (w : Writer) (bytes : Bytes) : Writer := { w with bytes := w.bytes ++ bytes }

/-- A number in `width` bytes. -/
def nat (w : Writer) (width n : Nat) : Writer := w.raw (BigEndian.encode width n)

/-- Writes a byte. -/
def u8 (w : Writer) (n : UInt8) : Writer := w.nat 1 n.toNat

/-- Writes a number of 16 bits. -/
def u16 (w : Writer) (n : UInt16) : Writer := w.nat 2 n.toNat

/-- Writes a number of 32 bits. -/
def u32 (w : Writer) (n : UInt32) : Writer := w.nat 4 n.toNat

/-- Writes a number of 64 bits. -/
def u64 (w : Writer) (n : UInt64) : Writer := w.nat 8 n.toNat

/-- Writes a signed number of 16 bits, in two's complement. -/
def i16 (w : Writer) (n : Int16) : Writer := w.u16 n.toUInt16

/-- Writes a signed number of 32 bits, in two's complement. -/
def i32 (w : Writer) (n : Int32) : Writer := w.u32 n.toUInt32

/-- Writes a signed number of 64 bits, in two's complement. -/
def i64 (w : Writer) (n : Int64) : Writer := w.u64 n.toUInt64

/-- Bytes behind their length. -/
def bytesWithLength (w : Writer) (bytes : Bytes) : Writer := w.raw bytes.prefixed

/-- Text in UTF-8 behind its length. -/
def text (w : Writer) (text : String) : Writer := w.bytesWithLength (Utf8.encode text)

/-- An identifier. -/
def uuid (w : Writer) (id : Uuid) : Writer := w.raw id.toBytes

/-- A header map: how many there are, modulo `2 ^ 16`, then each key and its bytes. -/
def headers (w : Writer) (headers : Headers) : Writer :=
  headers.entries.foldl (fun w (key, value) => (w.u16 key).bytesWithLength value)
    (w.nat 2 headers.size)

/-- The batch with the four bytes at `position` overwritten by a number. -/
def fill (w : Writer) (position n : Nat) : Writer :=
  { w with
    bytes := w.bytes.take position ++ BigEndian.encode 4 n ++ w.bytes.drop (position + 4) }

/-- Leaves a length open; the answer says where. -/
def beginLength (w : Writer) : Nat × Writer := (w.size, w.nat 4 0)

/-- Fills the length at `position` with the count of the bytes behind it. -/
def endLength (w : Writer) (position : Nat) : Writer := w.fill position (w.size - position - 4)

/-- Begins a message. -/
def beginMessage (w : Writer) (kind : RequestKind) : Writer :=
  let w := w.u8 kind.code
  { w.nat 4 0 with open? := some w.size }

/-- Ends the message begun last, if none was ended since. -/
def endMessage (w : Writer) : Writer :=
  match w.open? with
  | some position => { w.fill position (w.size - position) with open? := none }
  | none => w

/-- The message that ends every batch. -/
def sync (w : Writer) : Writer := (w.beginMessage .sync).endMessage

end Writer

end QueryWire
