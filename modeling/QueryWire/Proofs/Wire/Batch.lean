import Mathlib.Tactic.Common
import QueryWire.Protocol.Request

/-!
# The bytes of a batch

What is written into an open message stands behind what is there already, so the message can be
closed without a look at it.

* `Message.framed` — a message on the wire.
* **`Request.batch_eq`** — a batch is the message of the request and the one that ends every batch.
-/

namespace QueryWire

/-- A message on the wire: its code, a length that counts itself, and its payload. -/
def Message.framed (kind : RequestKind) (payload : Bytes) : Bytes :=
  kind.code :: BigEndian.encode 4 (payload.length + 4) ++ payload

namespace Writer

@[simp] lemma bytes_raw (w : Writer) (bytes : Bytes) : (w.raw bytes).bytes = w.bytes ++ bytes := rfl

@[simp] lemma raw_raw (w : Writer) (first second : Bytes) :
    (w.raw first).raw second = w.raw (first ++ second) := by
  simp [raw]

@[simp] lemma raw_nil (w : Writer) : w.raw [] = w := by
  simp [raw]

/-- Writing one item after the other is writing all their bytes. -/
lemma foldl_eq_raw {ι : Type} {step : Writer → ι → Writer} {bytes : ι → Bytes}
    (hstep : ∀ w item, step w item = w.raw (bytes item)) (items : List ι) (w : Writer) :
    items.foldl step w = w.raw (items.flatMap bytes) := by
  induction items generalizing w with
  | nil => simp
  | cons item items ih => simp [hstep, ih]

/-- Headers are written behind what is there. -/
lemma headers_eq_raw (w : Writer) (headers : Headers) :
    w.headers headers = w.raw (BigEndian.encode 2 headers.size
      ++ headers.entries.flatMap fun entry =>
        BigEndian.encode 2 entry.1.toNat ++ entry.2.prefixed) := by
  have hstep : ∀ (w : Writer) (entry : UInt16 × Bytes), (w.u16 entry.1).bytesWithLength entry.2
      = w.raw (BigEndian.encode 2 entry.1.toNat ++ entry.2.prefixed) := by
    intro w entry
    simp [u16, nat, bytesWithLength]
  rw [Writer.headers, foldl_eq_raw hstep, nat, raw_raw]

/-- A length is filled in where it was left open. -/
lemma bytes_fill {w : Writer} {front hole rest : Bytes} (h : w.bytes = front ++ (hole ++ rest))
    (hhole : hole.length = 4) (n : Nat) :
    (w.fill front.length n).bytes = front ++ BigEndian.encode 4 n ++ rest := by
  have hdrop : w.bytes.drop (front.length + 4) = rest := by
    rw [h, ← hhole, ← List.drop_drop, List.drop_left, List.drop_left]
  have htake : w.bytes.take front.length = front := by
    rw [h, List.take_left]
  simp only [fill, hdrop, htake]

/-- A message that was begun, filled and ended. -/
lemma bytes_endMessage (w : Writer) (kind : RequestKind) (payload : Bytes) :
    ((w.beginMessage kind).raw payload).endMessage.bytes
      = w.bytes ++ Message.framed kind payload := by
  have hcode : BigEndian.encode 1 kind.code.toNat = [kind.code] := by
    simp [BigEndian.encode, BigEndian.size]
  have hopen : ((w.beginMessage kind).raw payload).bytes
      = (w.bytes ++ [kind.code]) ++ (BigEndian.encode 4 0 ++ payload) := by
    simp [beginMessage, u8, nat, hcode]
  have hposition : ((w.beginMessage kind).raw payload).open?
      = some (w.bytes ++ [kind.code]).length := by
    simp [beginMessage, u8, nat, raw, size, hcode]
  have hsize : ((w.beginMessage kind).raw payload).size - (w.bytes ++ [kind.code]).length
      = payload.length + 4 := by
    simp only [size, hopen, List.length_append, BigEndian.length_encode]
    omega
  rw [endMessage, hposition]
  simp only [hsize]
  rw [bytes_fill hopen (BigEndian.length_encode 4 0), Message.framed]
  simp

end Writer

namespace Request

/-- The payload of a request. -/
def payload (request : Request) : Bytes := (request.writePayload .empty).bytes

/-- The payload is written behind what is there. -/
lemma writePayload_eq_raw (request : Request) (w : Writer) :
    request.writePayload w = w.raw request.payload := by
  cases request <;>
    simp [writePayload, payload, Writer.headers_eq_raw, Writer.u8, Writer.nat,
      Writer.bytesWithLength, Writer.text, Writer.uuid, Writer.empty]

/-- **A batch** is the message of the request, then the message that ends every batch. -/
theorem batch_eq (request : Request) :
    request.batch = Message.framed request.kind request.payload ++ Message.framed .sync [] := by
  have hsync := fun w : Writer => Writer.bytes_endMessage w .sync []
  simp only [Writer.raw_nil] at hsync
  rw [batch, Writer.sync, hsync, writePayload_eq_raw, Writer.bytes_endMessage]
  rfl

end Request

end QueryWire
