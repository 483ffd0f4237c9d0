import QueryWire.Proofs.Descriptor.Records
import QueryWire.Proofs.Wire.Headers
import QueryWire.Protocol.Response

/-!
# The layouts of responses

Each message of the server has a layout: its fields in their order, some of them behind a length, and
in front of or behind them a header map that nobody looks at.  A payload is read exactly when some
layout of its kind stands at its front, and the response is made of the fields of that layout and of
nothing else.  What stands behind makes no difference, and a payload that ends before the layout does
is short of bytes.

* `Response.Layout` — the fields of a message as they are written, the headers that are passed over
  included; `Layout.bytes`, `Layout.ranges` and `Layout.response`.
* `Response.Layout.slice?_range` — where the ranges of bytes stand.
* **`Response.reads_read`** — which bytes are read as a message, and as which response.
* `Response.delimits_read` — a message knows where it ends.
* **`Response.ofFrame_exact`** — all of this for the payload of a frame.
-/

namespace QueryWire

/-- So many bytes of others from a position on, when there are so many. -/
def Bytes.slice? (outer : Bytes) (start length : Nat) : Option Bytes :=
  if start + length ≤ outer.length then some ((outer.drop start).take length) else none

/-- Bytes are found behind those that stand in front of them. -/
lemma Bytes.slice?_of_eq {outer inner : Bytes} {start : Nat} (before after : Bytes)
    (h : outer = before ++ (inner ++ after)) (hstart : before.length = start) :
    outer.slice? start inner.length = some inner := by
  have hle : before.length + inner.length ≤ (before ++ (inner ++ after)).length := by
    simp only [List.length_append]
    omega
  rw [h, ← hstart, Bytes.slice?, if_pos hle, List.drop_left, List.take_left]

namespace Response

open Reader

/-! ## Layouts -/

/-- The fields of a message as they are written. -/
inductive Layout where
  | prepareComplete (skipped : List (UInt16 × Bytes)) (cardinality : Cardinality)
      (inputId outputId : Uuid)
  | description (skipped : List (UInt16 × Bytes)) (cardinality : Cardinality)
      (types : StatementTypes)
  | data (payload : Bytes)
  | commandComplete (skipped : List (UInt16 × Bytes)) (status : String)
  | ready (skipped : List (UInt16 × Bytes)) (state : TransactionState)
  | error (severity : UInt8) (code : UInt32) (text : String) (attributes : List (UInt16 × Bytes))
  | log (severity : UInt8) (code : UInt32) (text : String) (skipped : List (UInt16 × Bytes))
  | parameter (name value : Bytes)
deriving DecidableEq, Repr

namespace Layout

/-- The response that the fields make.  Headers that are passed over have no part in it, and of
several attributes under one key the last counts. -/
def response : Layout → Response
  | prepareComplete _ cardinality inputId outputId => .prepareComplete cardinality inputId outputId
  | description _ cardinality types => .description cardinality types
  | data payload => .data payload
  | commandComplete _ status => .commandComplete status
  | ready _ state => .ready state
  | error severity code text attributes =>
    .error ⟨severity, code, text, Headers.ofList attributes⟩
  | log severity code text _ => .log severity code text
  | parameter name value => .parameter name value

/-- The kind of message that has this layout. -/
def kind (l : Layout) : ResponseKind := l.response.kind

/-- The attributes of an error in the order in which they are written. -/
def attributes : Layout → List (UInt16 × Bytes)
  | error _ _ _ attributes => attributes
  | _ => []

/-- Counts and lengths can be told. -/
def Fits : Layout → Prop
  | prepareComplete skipped _ _ _ => Form.header.counted.Fits skipped
  | description skipped _ types =>
    Form.header.counted.Fits skipped
      ∧ types.input.length < BigEndian.size 4 ∧ types.output.length < BigEndian.size 4
  | data payload => payload.length < BigEndian.size 4
  | commandComplete skipped status => Form.header.counted.Fits skipped ∧ Form.text.Fits status
  | ready skipped _ => Form.header.counted.Fits skipped
  | error _ _ text attributes => Form.text.Fits text ∧ Form.header.counted.Fits attributes
  | log _ _ text skipped => Form.text.Fits text ∧ Form.header.counted.Fits skipped
  | parameter name value =>
    name.length < BigEndian.size 4 ∧ value.length < BigEndian.size 4

/-- The fields one after the other. -/
def bytes : Layout → Bytes
  | prepareComplete skipped cardinality inputId outputId =>
    Form.header.counted.bytes skipped ++ cardinality.code :: (inputId.toBytes ++ outputId.toBytes)
  | description skipped cardinality types =>
    Form.header.counted.bytes skipped ++ cardinality.code :: (types.inputId.toBytes
      ++ (types.input.prefixed ++ (types.outputId.toBytes ++ types.output.prefixed)))
  | data payload => BigEndian.encode 2 1 ++ payload.prefixed
  | commandComplete skipped status => Form.header.counted.bytes skipped ++ Form.text.bytes status
  | ready skipped state => Form.header.counted.bytes skipped ++ [state.code]
  | error severity code text attributes =>
    severity :: (BigEndian.encode 4 code.toNat
      ++ (Form.text.bytes text ++ Form.header.counted.bytes attributes))
  | log severity code text skipped =>
    severity :: (BigEndian.encode 4 code.toNat
      ++ (Form.text.bytes text ++ Form.header.counted.bytes skipped))
  | parameter name value => name.prefixed ++ value.prefixed

/-- The fields that are ranges of bytes, each with the position at which it stands: on the way to it
are one byte for a cardinality, sixteen for an identifier, two for a count and four for a length. -/
def ranges : Layout → List (Nat × Bytes)
  | description skipped _ types =>
    let input := (Form.header.counted.bytes skipped).length + 1 + 16 + 4
    [(input, types.input), (input + types.input.length + 16 + 4, types.output)]
  | data payload => [(2 + 4, payload)]
  | parameter name value => [(4, name), (4 + name.length + 4, value)]
  | _ => []

/-- The ranges stand where the positions say. -/
lemma slice?_range (l : Layout) (rest : Bytes) :
    ∀ range ∈ l.ranges, (l.bytes ++ rest).slice? range.1 range.2.length = some range.2 := by
  cases l with
  | description skipped cardinality types =>
    simp only [ranges, List.forall_mem_cons]
    refine ⟨?_, ?_, List.forall_mem_nil _⟩
    · refine Bytes.slice?_of_eq
        (Form.header.counted.bytes skipped ++ cardinality.code :: (types.inputId.toBytes
          ++ BigEndian.encode 4 types.input.length))
        (types.outputId.toBytes ++ (types.output.prefixed ++ rest)) ?_ ?_
      · simp only [bytes, Bytes.prefixed, List.append_assoc, List.cons_append]
      · simp only [List.length_append, List.length_cons, Uuid.length_toBytes, BigEndian.length_encode]
    · refine Bytes.slice?_of_eq
        (Form.header.counted.bytes skipped ++ cardinality.code :: (types.inputId.toBytes
          ++ (types.input.prefixed ++ (types.outputId.toBytes
            ++ BigEndian.encode 4 types.output.length)))) rest ?_ ?_
      · simp only [bytes, Bytes.prefixed, List.append_assoc, List.cons_append]
      · simp only [Bytes.prefixed, List.length_append, List.length_cons, Uuid.length_toBytes,
          BigEndian.length_encode]
        omega
  | data payload =>
    simp only [ranges, List.forall_mem_cons]
    refine ⟨Bytes.slice?_of_eq (BigEndian.encode 2 1 ++ BigEndian.encode 4 payload.length) rest
      ?_ rfl, List.forall_mem_nil _⟩
    simp only [bytes, Bytes.prefixed, List.append_assoc]
  | parameter name value =>
    simp only [ranges, List.forall_mem_cons]
    refine ⟨?_, ?_, List.forall_mem_nil _⟩
    · refine Bytes.slice?_of_eq (BigEndian.encode 4 name.length) (value.prefixed ++ rest) ?_ rfl
      simp only [bytes, Bytes.prefixed, List.append_assoc]
    · refine Bytes.slice?_of_eq (name.prefixed ++ BigEndian.encode 4 value.length) rest ?_ ?_
      · simp only [bytes, Bytes.prefixed, List.append_assoc]
      · simp only [Bytes.prefixed, List.length_append, BigEndian.length_encode]
  | _ => exact List.forall_mem_nil _

end Layout

/-! ## Reading -/

variable {payload rest : Bytes}

lemma readElementCount_one (rest : Bytes) :
    readElementCount (BigEndian.encode 2 1 ++ rest) = .ok () rest := by
  rw [readElementCount, bind_of_ok (nat_encode (by decide) rest)]
  rfl

lemma readElementCount_eq_ok {u : Unit} :
    readElementCount payload = .ok u rest ↔ payload = BigEndian.encode 2 1 ++ rest := by
  constructor
  · intro h
    obtain ⟨count, _, hcount, hcheck⟩ := bind_eq_ok.1 h
    obtain ⟨-, hpayload⟩ := nat_eq_ok.1 hcount
    by_cases hone : count = 1
    · subst hone
      cases hcheck
      exact hpayload
    · rw [if_pos (bne_iff_ne.2 hone)] at hcheck
      cases hcheck
  · rintro rfl
    exact readElementCount_one rest

lemma readState_eq_ok {state : TransactionState} :
    readState payload = .ok state rest ↔ payload = state.code :: rest := by
  constructor
  · intro h
    obtain ⟨code, _, hcode, hknown⟩ := bind_eq_ok.1 h
    rw [u8_eq_ok.1 hcode]
    cases hfind : TransactionState.ofCode? code with
    | none =>
      rw [hfind] at hknown
      cases hknown
    | some found =>
      rw [hfind] at hknown
      cases hknown
      rw [TransactionState.ofCode?] at hfind
      have hcode := List.find?_some hfind
      rw [eq_of_beq hcode]
  · rintro rfl
    rw [readState, bind_of_ok (u8_cons _ rest), TransactionState.ofCode?_code]
    rfl

lemma delimits_readElementCount : Delimits readElementCount := by
  refine (composes_delimits.nat 2).bind fun count => ?_
  split
  · exact delimits_throw _
  · exact delimits_pure ()

lemma delimits_readState : Delimits readState := by
  refine composes_delimits.u8.bind fun code => ?_
  split
  · exact delimits_pure _
  · exact delimits_throw _

namespace Layout

/-- A message that is read has a layout. -/
lemma exists_of_read {kind : ResponseKind} {r : Response} (h : read kind payload = .ok r rest) :
    ∃ l : Layout, l.kind = kind ∧ l.Fits ∧ r = l.response ∧ payload = l.bytes ++ rest := by
  cases kind with
  | prepareComplete =>
    simp only [read, bind_eq_ok, skipHeaders_eq_ok_iff, Descriptor.cardinality_eq_ok, uuid_eq_ok] at h
    obtain ⟨_, _, ⟨skipped, hskipped, rfl⟩, cardinality, _, rfl, inputId, _, rfl, outputId, _, rfl, h⟩
      := h
    cases h
    refine ⟨.prepareComplete skipped cardinality inputId outputId, rfl, hskipped, rfl, ?_⟩
    simp only [bytes, List.append_assoc, List.cons_append]
  | commandDataDescription =>
    simp only [read, bind_eq_ok, skipHeaders_eq_ok_iff, Descriptor.cardinality_eq_ok, uuid_eq_ok,
      bytes_eq_ok] at h
    obtain ⟨_, _, ⟨skipped, hskipped, rfl⟩, cardinality, _, rfl, inputId, _, rfl,
      input, _, ⟨hinput, rfl⟩, outputId, _, rfl, output, _, ⟨houtput, rfl⟩, h⟩ := h
    cases h
    refine ⟨.description skipped cardinality ⟨inputId, input, outputId, output⟩, rfl,
      ⟨hskipped, hinput, houtput⟩, rfl, ?_⟩
    simp only [bytes, List.append_assoc, List.cons_append]
  | data =>
    simp only [read, bind_eq_ok, readElementCount_eq_ok, bytes_eq_ok] at h
    obtain ⟨_, _, rfl, data, _, ⟨hdata, rfl⟩, h⟩ := h
    cases h
    exact ⟨.data data, rfl, hdata, rfl, (List.append_assoc _ _ _).symm⟩
  | commandComplete =>
    simp only [read, bind_eq_ok, skipHeaders_eq_ok_iff, text_eq_ok] at h
    obtain ⟨_, _, ⟨skipped, hskipped, rfl⟩, status, _, ⟨hstatus, rfl⟩, h⟩ := h
    cases h
    exact ⟨.commandComplete skipped status, rfl, ⟨hskipped, hstatus⟩, rfl,
      (List.append_assoc _ _ _).symm⟩
  | readyForCommand =>
    simp only [read, bind_eq_ok, skipHeaders_eq_ok_iff, readState_eq_ok] at h
    obtain ⟨_, _, ⟨skipped, hskipped, rfl⟩, state, _, rfl, h⟩ := h
    cases h
    refine ⟨.ready skipped state, rfl, hskipped, rfl, ?_⟩
    simp only [bytes, List.append_assoc, List.singleton_append]
  | errorResponse =>
    simp only [read, bind_eq_ok, u8_eq_ok, u32_eq_ok, text_eq_ok, headers_eq_ok] at h
    obtain ⟨severity, _, rfl, code, _, rfl, text, _, ⟨htext, rfl⟩, _, _,
      ⟨attributes, hattributes, rfl, rfl⟩, h⟩ := h
    cases h
    refine ⟨.error severity code text attributes, rfl, ⟨htext, hattributes⟩, rfl, ?_⟩
    simp only [bytes, Form.text, List.append_assoc, List.cons_append]
  | logMessage =>
    simp only [read, bind_eq_ok, u8_eq_ok, u32_eq_ok, text_eq_ok, skipHeaders_eq_ok_iff] at h
    obtain ⟨severity, _, rfl, code, _, rfl, text, _, ⟨htext, rfl⟩, _, _,
      ⟨skipped, hskipped, rfl⟩, h⟩ := h
    cases h
    refine ⟨.log severity code text skipped, rfl, ⟨htext, hskipped⟩, rfl, ?_⟩
    simp only [bytes, Form.text, List.append_assoc, List.cons_append]
  | parameterStatus =>
    simp only [read, bind_eq_ok, bytes_eq_ok] at h
    obtain ⟨name, _, ⟨hname, rfl⟩, value, _, ⟨hvalue, rfl⟩, h⟩ := h
    cases h
    exact ⟨.parameter name value, rfl, ⟨hname, hvalue⟩, rfl, (List.append_assoc _ _ _).symm⟩

/-- A layout is read as its response, whatever comes behind it. -/
lemma read_bytes {l : Layout} (h : l.Fits) (rest : Bytes) :
    read l.kind (l.bytes ++ rest) = .ok l.response rest := by
  cases l with
  | prepareComplete skipped cardinality inputId outputId =>
    simp only [kind, response, Response.kind, read, bytes, List.append_assoc, List.cons_append]
    rw [bind_of_ok (skipHeaders_counted h _), bind_of_ok (Descriptor.cardinality_eq_ok.2 rfl),
      bind_of_ok (uuid_toBytes inputId _), bind_of_ok (uuid_toBytes outputId _)]
    rfl
  | description skipped cardinality types =>
    obtain ⟨hskipped, hinput, houtput⟩ := h
    simp only [kind, response, Response.kind, read, bytes, List.append_assoc, List.cons_append]
    rw [bind_of_ok (skipHeaders_counted hskipped _), bind_of_ok (Descriptor.cardinality_eq_ok.2 rfl),
      bind_of_ok (uuid_toBytes types.inputId _), bind_of_ok (bytes_eq_ok.2 ⟨hinput, rfl⟩),
      bind_of_ok (uuid_toBytes types.outputId _), bind_of_ok (bytes_eq_ok.2 ⟨houtput, rfl⟩)]
    rfl
  | data payload =>
    simp only [kind, response, Response.kind, read, bytes, List.append_assoc]
    rw [bind_of_ok (readElementCount_one _), bind_of_ok (bytes_eq_ok.2 ⟨h, rfl⟩)]
    rfl
  | commandComplete skipped status =>
    obtain ⟨hskipped, hstatus⟩ := h
    simp only [kind, response, Response.kind, read, bytes, List.append_assoc]
    rw [bind_of_ok (skipHeaders_counted hskipped _), bind_of_ok (reads_text.ok hstatus rest)]
    rfl
  | ready skipped state =>
    simp only [kind, response, Response.kind, read, bytes, List.append_assoc, List.singleton_append]
    rw [bind_of_ok (skipHeaders_counted h _), bind_of_ok (readState_eq_ok.2 rfl)]
    rfl
  | error severity code text attributes =>
    obtain ⟨htext, hattributes⟩ := h
    simp only [kind, response, Response.kind, read, bytes, List.append_assoc, List.cons_append]
    rw [bind_of_ok (u8_cons severity _), bind_of_ok (u32_encode code _),
      bind_of_ok (reads_text.ok htext _),
      bind_of_ok (headers_eq_ok.2 ⟨attributes, hattributes, rfl, rfl⟩)]
    rfl
  | log severity code text skipped =>
    obtain ⟨htext, hskipped⟩ := h
    simp only [kind, response, Response.kind, read, bytes, List.append_assoc, List.cons_append]
    rw [bind_of_ok (u8_cons severity _), bind_of_ok (u32_encode code _),
      bind_of_ok (reads_text.ok htext _), bind_of_ok (skipHeaders_counted hskipped _)]
    rfl
  | parameter name value =>
    obtain ⟨hname, hvalue⟩ := h
    simp only [kind, response, Response.kind, read, bytes, List.append_assoc]
    rw [bind_of_ok (bytes_eq_ok.2 ⟨hname, rfl⟩), bind_of_ok (bytes_eq_ok.2 ⟨hvalue, rfl⟩)]
    rfl

/-- The layouts of one kind of message. -/
def form (kind : ResponseKind) : Form Layout Response where
  Fits l := l.kind = kind ∧ l.Fits
  bytes := bytes
  value := response

end Layout

/-- **Field by field.**  A message is read where a layout of its kind stands, and nowhere else. -/
theorem reads_read (kind : ResponseKind) : (read kind).Reads (Layout.form kind) := by
  intro payload r rest
  constructor
  · intro h
    obtain ⟨l, hkind, hfits, hr, hpayload⟩ := Layout.exists_of_read h
    exact ⟨l, ⟨hkind, hfits⟩, hr, hpayload⟩
  · rintro ⟨l, ⟨rfl, hfits⟩, rfl, rfl⟩
    exact Layout.read_bytes hfits rest

/-- Whatever a message is read from, it knows where it ends. -/
lemma delimits_read (kind : ResponseKind) : Delimits (read kind) := by
  have h := composes_delimits
  have htext : Delimits text := h.text fun _ => trivial
  have hcardinality : Delimits Descriptor.cardinality :=
    Descriptor.composes_cardinality h fun _ => trivial
  cases kind with
  | prepareComplete =>
    exact h.skipHeaders.bind fun _ => hcardinality.bind fun _ => h.uuid.bind fun _ =>
      h.uuid.bind fun _ => delimits_pure _
  | commandDataDescription =>
    exact h.skipHeaders.bind fun _ => hcardinality.bind fun _ => h.uuid.bind fun _ =>
      h.bytes.bind fun _ => h.uuid.bind fun _ => h.bytes.bind fun _ => delimits_pure _
  | data => exact delimits_readElementCount.bind fun _ => h.bytes.bind fun _ => delimits_pure _
  | commandComplete => exact h.skipHeaders.bind fun _ => htext.bind fun _ => delimits_pure _
  | readyForCommand =>
    exact h.skipHeaders.bind fun _ => delimits_readState.bind fun _ => delimits_pure _
  | errorResponse =>
    exact h.u8.bind fun _ => h.u32.bind fun _ => htext.bind fun _ => h.headers.bind fun _ =>
      delimits_pure _
  | logMessage =>
    exact h.u8.bind fun _ => h.u32.bind fun _ => htext.bind fun _ => h.skipHeaders.bind fun _ =>
      delimits_pure _
  | parameterStatus => exact h.bytes.bind fun _ => h.bytes.bind fun _ => delimits_pure _

/-! ## Frames -/

/-- The byte in front of a message tells its kind. -/
lemma ofFrame_code (kind : ResponseKind) (payload : Bytes) :
    ofFrame ⟨kind.code, payload⟩ = ((read kind).run' payload).1 := by
  rw [ofFrame, kindOfCode, ResponseKind.ofCode?_code]
  rfl

lemma ofFrame_eq_ok {code : UInt8} {r : Response} :
    ofFrame ⟨code, payload⟩ = .ok r
      ↔ ∃ kind rest, code = ResponseKind.code kind ∧ read kind payload = .ok r rest := by
  constructor
  · intro h
    cases hfind : ResponseKind.ofCode? code with
    | none =>
      rw [ofFrame, kindOfCode, hfind] at h
      cases h
    | some kind =>
      have hcode : code = kind.code := by
        rw [ResponseKind.ofCode?] at hfind
        have hfound := List.find?_some hfind
        exact (eq_of_beq hfound).symm
      rw [hcode, ofFrame_code, run'] at h
      cases hread : read kind payload with
      | ok found rest =>
        rw [hread] at h
        cases h
        exact ⟨kind, rest, hcode, hread⟩
      | error e rest =>
        rw [hread] at h
        cases h
  · rintro ⟨kind, rest, rfl, hread⟩
    rw [ofFrame_code, run', hread]

/-- A response and the bytes that were read for it, in front of others. -/
structure Layout.Explains (l : Layout) (code : UInt8) (payload rest : Bytes) (r : Response) :
    Prop where
  /-- The byte in front tells the kind of the layout, and so many bytes are read. -/
  announced : code = l.kind.code
  read : read l.kind payload = .ok r rest
  /-- What was read is the layout, and the response has its fields. -/
  fits : l.Fits
  payload_eq : payload = l.bytes ++ rest
  response_eq : r = l.response
  /-- Ranges of bytes can be cut out of the payload at their positions. -/
  slice : ∀ range ∈ l.ranges, payload.slice? range.1 range.2.length = some range.2
  /-- An attribute of an error has the last of the values under its key. -/
  attributes : ∀ cause, r = .error cause →
    ∀ key, cause.attributes.get? key = l.attributes.reverse.lookup key
  /-- What stands behind makes no difference. -/
  others : ∀ others, ofFrame ⟨code, l.bytes ++ others⟩ = .ok r
  /-- Every strict beginning is too short. -/
  short : ∀ cut missing, l.bytes = cut ++ missing → missing ≠ [] →
    ∃ needed available, ofFrame ⟨code, cut⟩ = .error (.framing (.short needed available))

/-- **Responses are exact.**  A frame with a response begins with a layout, and the response is made
of nothing but its fields. -/
theorem ofFrame_exact {code : UInt8} {payload : Bytes} {r : Response}
    (h : ofFrame ⟨code, payload⟩ = .ok r) :
    ∃ (l : Layout) (rest : Bytes), l.Explains code payload rest r := by
  obtain ⟨kind, rest, rfl, hread⟩ := ofFrame_eq_ok.1 h
  obtain ⟨l, ⟨rfl, hfits⟩, rfl, rfl⟩ := (reads_read kind _ _ _).1 hread
  obtain ⟨used, hused, htakes⟩ := delimits_read l.kind _ _ _ hread
  -- One side says what is in the message, the other where it ends: they are the same bytes.
  obtain rfl : used = l.bytes := List.append_cancel_right hused.symm
  refine ⟨l, rest, rfl, hread, hfits, rfl, rfl, l.slice?_range rest, ?_, fun others => ?_,
    fun cut missing hcut hmissing => ?_⟩
  · intro cause hcause key
    cases l with
    | error severity code text attributes =>
      cases hcause
      exact Headers.get?_ofList attributes key
    | _ => cases hcause
  · exact ofFrame_eq_ok.2 ⟨l.kind, others, rfl, htakes.ok others⟩
  · obtain ⟨needed, available, left, hshort⟩ := htakes.short cut missing hcut hmissing
    refine ⟨needed, available, ?_⟩
    rw [ofFrame_code, run', hshort]

/-- An error with two values under one key. -/
def Layout.repeated : Layout := .error 120 0x04000000 "bad" [(1, [0x68, 0x69]), (1, [])]

/-- The second value counts, and the byte behind the message does not. -/
theorem ofFrame_exact_repeated :
    ofFrame ⟨0x45, Layout.repeated.bytes ++ [0xFF]⟩
        = .ok (.error ⟨120, 0x04000000, "bad", Headers.ofList [(1, [])]⟩)
      ∧ ∃ (l : Layout) (rest : Bytes), l.Explains 0x45 (Layout.repeated.bytes ++ [0xFF]) rest
        (.error ⟨120, 0x04000000, "bad", Headers.ofList [(1, [])]⟩) := by
  have hfits : Layout.repeated.Fits := ⟨by decide, by decide, by decide⟩
  have hread : ofFrame ⟨0x45, Layout.repeated.bytes ++ [0xFF]⟩
      = .ok (.error ⟨120, 0x04000000, "bad", Headers.ofList [(1, [])]⟩) :=
    ofFrame_eq_ok.2 ⟨.errorResponse, [0xFF], rfl, Layout.read_bytes hfits [0xFF]⟩
  exact ⟨hread, ofFrame_exact hread⟩

end Response

end QueryWire
