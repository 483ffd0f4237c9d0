import QueryWire.Proofs.Connection.Answer
import QueryWire.Proofs.Wire.Headers

/-!
# Requests as a server reads them

A batch is cut into frames by the lengths in it, and the payload of its first frame is read field by
field.  Nothing of a request is lost on the way, so the bytes of a batch tell the request.

* `Frame.pop_bytes` — the frame at the front of a buffer is the one that was written.
* `Request.Fields`, `Request.readFields` — the fields of a payload, and how they are read.
* `Request.Writable` — that the counts and lengths of a request can be told.
* **`Request.readFields_payload`** — the fields are read back.
* `Request.fields_injective` — the fields tell the request.
* `Request.read_batch` — all of this of a batch.
-/

namespace QueryWire

/-! ## Frames -/

/-- A frame is taken off the front of a buffer, unless it is too long. -/
lemma Frame.pop_bytes (frame : Frame) (hsize : frame.size < BigEndian.size 4) {limit : Nat}
    (hlimit : frame.size ≤ limit) (rest : Bytes) :
    pop limit (frame.bytes ++ rest) = .ok (frame, rest) := by
  have hheader : ¬ (frame.bytes ++ rest).length < headerSize := by
    rw [List.length_append, length_bytes, size, headerSize]
    omega
  have hwhole : frame.size + 1 ≤ (frame.bytes ++ rest).length := by
    rw [List.length_append, length_bytes]
    exact Nat.le_add_right _ _
  obtain ⟨hframe, hdrop⟩ := ofBytes_append frame rest
  rw [pop, length?_of_append limit hsize (List.append_nil _), if_neg hheader,
    if_neg (Nat.not_lt.2 hlimit), if_pos hwhole]
  simp only [hframe, hdrop]

/-! ## Fields -/

namespace Request

/-- What stands in the payload of a message of a client, field by field.  The format, the
cardinality and the aspect are bytes. -/
inductive Fields where
  | prepare (headers : Headers) (format cardinality : UInt8) (name : Bytes) (command : String)
  | describeStatement (headers : Headers) (aspect : UInt8) (name : Bytes)
  | execute (headers : Headers) (name arguments : Bytes)
  | optimisticExecute (headers : Headers) (format cardinality : UInt8) (command : String)
    (inputId outputId : Uuid) (arguments : Bytes)
  | executeScript (headers : Headers) (script : String)
  | sync

/-- Reads the payload of a message of a client, one field after the other. -/
def readFields : RequestKind → Reader Fields
  | .prepare => do
    let headers ← Reader.headers
    let format ← Reader.u8
    let cardinality ← Reader.u8
    let name ← Reader.bytes
    let command ← Reader.text
    pure (.prepare headers format cardinality name command)
  | .describeStatement => do
    let headers ← Reader.headers
    let aspect ← Reader.u8
    let name ← Reader.bytes
    pure (.describeStatement headers aspect name)
  | .execute => do
    let headers ← Reader.headers
    let name ← Reader.bytes
    let arguments ← Reader.bytes
    pure (.execute headers name arguments)
  | .optimisticExecute => do
    let headers ← Reader.headers
    let format ← Reader.u8
    let cardinality ← Reader.u8
    let command ← Reader.text
    let inputId ← Reader.uuid
    let outputId ← Reader.uuid
    let arguments ← Reader.bytes
    pure (.optimisticExecute headers format cardinality command inputId outputId arguments)
  | .executeScript => do
    let headers ← Reader.headers
    let script ← Reader.text
    pure (.executeScript headers script)
  | .sync => pure .sync

/-- The fields of a request.  Statements have no name, and both types are described. -/
def fields : Request → Fields
  | .prepare headers format cardinality command =>
    .prepare headers format.code cardinality.code [] command
  | .describeStatement headers => .describeStatement headers dataAspect []
  | .execute headers arguments => .execute headers [] arguments
  | .optimisticExecute headers format cardinality command inputId outputId arguments =>
    .optimisticExecute headers format.code cardinality.code command inputId outputId arguments
  | .executeScript headers script => .executeScript headers script

/-- The headers of a request. -/
def headers : Request → Headers
  | .prepare headers _ _ _ | .describeStatement headers | .execute headers _
  | .optimisticExecute headers _ _ _ _ _ _ | .executeScript headers _ => headers

/-- What stands behind the headers of a request. -/
def body : Request → Bytes
  | .prepare _ format cardinality command =>
    format.code :: cardinality.code :: (Bytes.prefixed [] ++ (Utf8.encode command).prefixed)
  | .describeStatement _ => dataAspect :: Bytes.prefixed []
  | .execute _ arguments => Bytes.prefixed [] ++ arguments.prefixed
  | .optimisticExecute _ format cardinality command inputId outputId arguments =>
    format.code :: cardinality.code :: ((Utf8.encode command).prefixed
      ++ (inputId.toBytes ++ (outputId.toBytes ++ arguments.prefixed)))
  | .executeScript _ script => (Utf8.encode script).prefixed

/-- The payload is the headers and what stands behind them. -/
lemma payload_eq (request : Request) :
    request.payload = request.headers.written ++ request.body := by
  have hbyte (b : UInt8) : BigEndian.encode 1 b.toNat = [b] := by
    simp [BigEndian.encode, BigEndian.size]
  cases request <;>
    simp [payload, writePayload, Writer.headers_eq_raw, Writer.u8, Writer.nat, hbyte,
      Writer.bytesWithLength, Writer.text, Writer.uuid, Writer.empty, Headers.written, headers,
      body]

/-- The count of the headers and the length of the frame can be told. -/
structure Writable (request : Request) : Prop where
  headers : request.headers.size < BigEndian.size 2
  frame : request.payload.length + 4 < BigEndian.size 4

namespace Writable

variable {request : Request} (h : request.Writable)

include h

lemma length_lt : request.headers.written.length + request.body.length < BigEndian.size 4 := by
  have hframe := h.frame
  rw [payload_eq, List.length_append] at hframe
  omega

/-- The headers are read off the front of the payload. -/
lemma headers_payload :
    Reader.headers request.payload = .ok request.headers request.body := by
  rw [payload_eq]
  refine Reader.headers_written h.headers (fun entry hentry => ?_) request.body
  have hle := Headers.length_le_written hentry
  have hlt := h.length_lt
  omega

end Writable

/-! ## Reading -/

/-- **The fields** of a request that can be written are read back, and nothing is left. -/
theorem readFields_payload {request : Request} (h : request.Writable) :
    readFields request.kind request.payload = .ok request.fields [] := by
  have hheaders := h.headers_payload
  have hlength := h.length_lt
  have hempty : ([] : Bytes).length < BigEndian.size 4 := BigEndian.size_pos 4
  have hend (bytes : Bytes) : bytes = bytes ++ [] := (List.append_nil bytes).symm
  cases request with
  | prepare headers format cardinality command =>
    simp only [body, List.length_cons, List.length_append, Bytes.prefixed,
      BigEndian.length_encode] at hlength
    simp only [kind, readFields]
    rw [Reader.bind_of_ok hheaders, body, Reader.bind_of_ok (Reader.u8_cons _ _),
      Reader.bind_of_ok (Reader.u8_cons _ _),
      Reader.bind_of_ok (Reader.bytes_eq_ok.2 ⟨hempty, rfl⟩),
      Reader.bind_of_ok (Reader.text_eq_ok.2 ⟨by omega, hend _⟩)]
    rfl
  | describeStatement headers =>
    simp only [kind, readFields]
    rw [Reader.bind_of_ok hheaders, body, Reader.bind_of_ok (Reader.u8_cons _ _),
      Reader.bind_of_ok (Reader.bytes_eq_ok.2 ⟨hempty, hend _⟩)]
    rfl
  | execute headers arguments =>
    simp only [body, List.length_append, Bytes.prefixed, BigEndian.length_encode] at hlength
    simp only [kind, readFields]
    rw [Reader.bind_of_ok hheaders, body, Reader.bind_of_ok (Reader.bytes_eq_ok.2 ⟨hempty, rfl⟩),
      Reader.bind_of_ok (Reader.bytes_eq_ok.2 ⟨by omega, hend _⟩)]
    rfl
  | optimisticExecute headers format cardinality command inputId outputId arguments =>
    simp only [body, List.length_cons, List.length_append, Bytes.prefixed,
      BigEndian.length_encode] at hlength
    simp only [kind, readFields]
    rw [Reader.bind_of_ok hheaders, body, Reader.bind_of_ok (Reader.u8_cons _ _),
      Reader.bind_of_ok (Reader.u8_cons _ _),
      Reader.bind_of_ok (Reader.text_eq_ok.2 ⟨by omega, rfl⟩),
      Reader.bind_of_ok (Reader.uuid_toBytes _ _), Reader.bind_of_ok (Reader.uuid_toBytes _ _),
      Reader.bind_of_ok (Reader.bytes_eq_ok.2 ⟨by omega, hend _⟩)]
    rfl
  | executeScript headers script =>
    simp only [body, List.length_append, Bytes.prefixed, BigEndian.length_encode] at hlength
    simp only [kind, readFields]
    rw [Reader.bind_of_ok hheaders, body,
      Reader.bind_of_ok (Reader.text_eq_ok.2 ⟨by omega, hend _⟩)]
    rfl

/-! ## Telling requests apart -/

lemma code_injective : Function.Injective RequestKind.code := by
  intro a b h
  cases a <;> cases b <;> first | rfl | exact absurd h (by decide)

/-- The fields tell the request: each format and each cardinality has a byte of its own. -/
theorem fields_injective : Function.Injective fields := by
  have hformat : Function.Injective OutputFormat.code := by
    intro a b h
    cases a <;> cases b <;> first | rfl | exact absurd h (by decide)
  have hcardinality : Function.Injective Cardinality.code := fun a b h =>
    Option.some.inj ((Cardinality.ofCode?_code a).symm.trans (h ▸ Cardinality.ofCode?_code b))
  intro request other h
  cases request <;> cases other <;>
    simp only [fields, Fields.prepare.injEq, Fields.describeStatement.injEq, Fields.execute.injEq,
      Fields.optimisticExecute.injEq, Fields.executeScript.injEq, hformat.eq_iff,
      hcardinality.eq_iff, reduceCtorEq, true_and, and_true] at h
  all_goals simp [h]

/-- The frame of a request. -/
def frame (request : Request) : Frame := ⟨request.kind.code, request.payload⟩

/-- A batch is the frame of the request and one without payload. -/
lemma batch_eq_frames (request : Request) :
    request.batch = request.frame.bytes ++ Frame.bytes ⟨RequestKind.sync.code, []⟩ :=
  request.batch_eq

/-- **A batch** is cut into the frame of its request and an empty one that ends it, and the payload
of the first is read as the fields of the request.  So no other request has the same bytes. -/
theorem read_batch {request : Request} (h : request.Writable) {limit : Nat}
    (hlimit : request.payload.length + 4 ≤ limit) :
    (∃ rest, Frame.pop limit request.batch = .ok (⟨request.kind.code, request.payload⟩, rest)
        ∧ Frame.pop limit rest = .ok (⟨RequestKind.sync.code, []⟩, []))
      ∧ readFields request.kind request.payload = .ok request.fields []
      ∧ ∀ other : Request, other.Writable → other.batch = request.batch → other = request := by
  have hsync : (Frame.mk RequestKind.sync.code []).size ≤ limit :=
    Nat.le_trans (Nat.add_le_add_right (Nat.zero_le _) 4) hlimit
  have hend := Frame.pop_bytes ⟨RequestKind.sync.code, []⟩ (by decide) hsync []
  rw [List.append_nil] at hend
  refine ⟨⟨_, ?_, hend⟩, readFields_payload h, fun other hother heq => ?_⟩
  · rw [batch_eq_frames]
    exact Frame.pop_bytes request.frame h.frame hlimit _
  · rw [batch_eq_frames, batch_eq_frames] at heq
    have hfirst := Frame.pop_bytes request.frame h.frame
      (Nat.le_max_left _ other.frame.size) (Frame.bytes ⟨RequestKind.sync.code, []⟩)
    have hsecond := Frame.pop_bytes other.frame hother.frame
      (Nat.le_max_right request.frame.size _) (Frame.bytes ⟨RequestKind.sync.code, []⟩)
    rw [heq, hfirst] at hsecond
    have hframe : other.frame = request.frame :=
      (congrArg Prod.fst (Except.ok.inj hsecond)).symm
    obtain ⟨hkind, hpayload⟩ := Frame.mk.inj hframe
    have hfields := readFields_payload hother
    rw [code_injective hkind, hpayload, readFields_payload h] at hfields
    exact fields_injective (EStateM.Result.ok.inj hfields).1.symm

end Request

namespace Cached

/-- A query that is run at once, with a header and a text that is not of ASCII characters alone. -/
def request : Request :=
  .optimisticExecute (.ofList [(0xFF01, [0x31, 0x30])]) .binary .atMostOne "select «é»"
    (Uuid.ofNat 0xFF) (Uuid.ofNat 0x104) [0, 0, 0, 0]

/-- The query is read back from its batch, and a query without the header has another one. -/
theorem read_batch_cached :
    request.Writable
      ∧ (∃ rest, Frame.pop 0x1000 request.batch = .ok (⟨0x4F, request.payload⟩, rest)
        ∧ Frame.pop 0x1000 rest = .ok (⟨0x53, []⟩, []))
      ∧ Request.readFields .optimisticExecute request.payload
        = .ok (.optimisticExecute (.ofList [(0xFF01, [0x31, 0x30])]) 0x62 0x6F "select «é»"
          (Uuid.ofNat 0xFF) (Uuid.ofNat 0x104) [0, 0, 0, 0]) [] := by
  have hwritable : request.Writable := ⟨by decide, by decide +kernel⟩
  have hlimit : request.payload.length + 4 ≤ 0x1000 := by decide +kernel
  obtain ⟨hframes, hfields, -⟩ := Request.read_batch hwritable hlimit
  exact ⟨hwritable, hframes, hfields⟩

end Cached

end QueryWire
