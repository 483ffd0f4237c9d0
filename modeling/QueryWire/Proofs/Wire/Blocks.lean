import QueryWire.Proofs.Wire.Batch
import QueryWire.Proofs.Wire.Forms

/-!
# Blocks inside blocks

Values are written one after the other, and a stretch of them can be set off as a block: its length
is left open when it begins and filled in when it ends, at the place where it was left open.  Blocks
may stand in blocks, so several lengths are open at once.

**Writing.**  Open lengths lie apart from each other and behind them lies all that was written since
(`Draft.Sound`), so filling one spoils nothing.  At the end of a block its length stands in front of
it, as if it had been known before (`Draft.run_operations`).

**Reading.**  The values are taken off in the same order.  A block is split off as a reader of its
own, and what that one leaves unread is noted.  All is read as it was written, and nothing is left
anywhere, exactly when each length fits its four bytes (`Outline.readsBack_iff`).

* `Primitive` — the values that are written and read without parts.
* `Outline` — a row of them in which stretches are set off.
* `Draft` — a writer, and where lengths are open in it.
* `Draft.read_written` — writing and reading against each other.
-/

namespace QueryWire

/-! ## Single values -/

/-- What is written and read at once.  Floating-point numbers are given by their bits. -/
inductive Primitive where
  | u8 (n : UInt8)
  | u16 (n : UInt16)
  | u32 (n : UInt32)
  | u64 (n : UInt64)
  | i16 (n : Int16)
  | i32 (n : Int32)
  | i64 (n : Int64)
  | f32 (bits : UInt32)
  | f64 (bits : UInt64)
  | raw (bytes : Bytes)
  | bytes (bytes : Bytes)
  | text (text : String)
  | uuid (id : Uuid)
deriving DecidableEq, Repr

/-- What a reader is asked for.  Of bytes without a length it has to be told how many there are. -/
inductive PrimitiveKind where
  | u8
  | u16
  | u32
  | u64
  | i16
  | i32
  | i64
  | f32
  | f64
  | raw (n : Nat)
  | bytes
  | text
  | uuid
deriving DecidableEq, Repr

/-- Takes a value of this kind. -/
def PrimitiveKind.read : PrimitiveKind → Reader Primitive
  | .u8 => return .u8 (← Reader.u8)
  | .u16 => return .u16 (← Reader.u16)
  | .u32 => return .u32 (← Reader.u32)
  | .u64 => return .u64 (← Reader.u64)
  | .i16 => return .i16 (← Reader.i16)
  | .i32 => return .i32 (← Reader.i32)
  | .i64 => return .i64 (← Reader.i64)
  | .f32 => return .f32 (← Reader.u32)
  | .f64 => return .f64 (← Reader.u64)
  | .raw n => return .raw (← Reader.raw n)
  | .bytes => return .bytes (← Reader.bytes)
  | .text => return .text (← Reader.text)
  | .uuid => return .uuid (← Reader.uuid)

namespace Primitive

/-- Writes a value. -/
def write (w : Writer) : Primitive → Writer
  | u8 n => w.u8 n
  | u16 n => w.u16 n
  | u32 n => w.u32 n
  | u64 n => w.u64 n
  | i16 n => w.i16 n
  | i32 n => w.i32 n
  | i64 n => w.i64 n
  | f32 bits => w.u32 bits
  | f64 bits => w.u64 bits
  | raw payload => w.raw payload
  | bytes payload => w.bytesWithLength payload
  | text payload => w.text payload
  | uuid id => w.uuid id

/-- What has to be asked for to read a value. -/
def kind : Primitive → PrimitiveKind
  | u8 _ => .u8
  | u16 _ => .u16
  | u32 _ => .u32
  | u64 _ => .u64
  | i16 _ => .i16
  | i32 _ => .i32
  | i64 _ => .i64
  | f32 _ => .f32
  | f64 _ => .f64
  | raw payload => .raw payload.length
  | bytes _ => .bytes
  | text _ => .text
  | uuid _ => .uuid

/-- The bytes of a value. -/
def encoded : Primitive → Bytes
  | u8 n => BigEndian.encode 1 n.toNat
  | u16 n => BigEndian.encode 2 n.toNat
  | u32 n | f32 n => BigEndian.encode 4 n.toNat
  | u64 n | f64 n => BigEndian.encode 8 n.toNat
  | i16 n => BigEndian.encode 2 n.toUInt16.toNat
  | i32 n => BigEndian.encode 4 n.toUInt32.toNat
  | i64 n => BigEndian.encode 8 n.toUInt64.toNat
  | raw payload => payload
  | bytes payload => payload.prefixed
  | text payload => (Utf8.encode payload).prefixed
  | uuid id => id.toBytes

/-- The length of a value fits its four bytes, if it has one. -/
def Fits : Primitive → Prop
  | bytes payload => payload.length < BigEndian.size 4
  | text payload => (Utf8.encode payload).length < BigEndian.size 4
  | _ => True

/-- A value is written behind what is there. -/
lemma write_eq_raw (w : Writer) (p : Primitive) : p.write w = w.raw p.encoded := by
  cases p <;> rfl

section

variable {α : Type} {reader : Reader α} {make : α → Primitive} {a : α} {input rest : Bytes}

/-- A result that is made into a value is read where the value is. -/
lemma make_eq_ok_iff (hmake : Function.Injective make) {P : Prop}
    (h : reader input = .ok a rest ↔ P) :
    (reader >>= fun a => pure (make a)) input = .ok (make a) rest ↔ P := by
  rw [← h, Reader.bind_eq_ok]
  constructor
  · rintro ⟨a', middle, hread, hmade⟩
    obtain ⟨hvalue, rfl⟩ := EStateM.Result.ok.inj hmade
    rw [hread, hmake hvalue]
  · intro hread
    exact ⟨a, rest, hread, rfl⟩

/-- The same for a value that has no length. -/
lemma make_eq_ok_iff_of_plain (hmake : Function.Injective make) {P : Prop}
    (h : reader input = .ok a rest ↔ P) :
    (reader >>= fun a => pure (make a)) input = .ok (make a) rest ↔ True ∧ P :=
  (make_eq_ok_iff hmake h).trans (and_iff_right trivial).symm

end

/-- A value is read exactly where it was written, if its length fits. -/
lemma read_kind_eq_ok_iff (p : Primitive) {input rest : Bytes} :
    p.kind.read input = .ok p rest ↔ p.Fits ∧ input = p.encoded ++ rest := by
  cases p with
  | u8 n =>
    have hcode : BigEndian.encode 1 n.toNat = [n] := by
      simp [BigEndian.encode, BigEndian.size]
    rw [encoded, hcode]
    exact make_eq_ok_iff_of_plain (fun _ _ => u8.inj) Reader.u8_eq_ok
  | u16 n => exact make_eq_ok_iff_of_plain (fun _ _ => u16.inj) Reader.u16_eq_ok
  | u32 n => exact make_eq_ok_iff_of_plain (fun _ _ => u32.inj) Reader.u32_eq_ok
  | u64 n => exact make_eq_ok_iff_of_plain (fun _ _ => u64.inj) Reader.u64_eq_ok
  | i16 n => exact make_eq_ok_iff_of_plain (fun _ _ => i16.inj) Reader.i16_eq_ok
  | i32 n => exact make_eq_ok_iff_of_plain (fun _ _ => i32.inj) Reader.i32_eq_ok
  | i64 n => exact make_eq_ok_iff_of_plain (fun _ _ => i64.inj) Reader.i64_eq_ok
  | f32 bits => exact make_eq_ok_iff_of_plain (fun _ _ => f32.inj) Reader.u32_eq_ok
  | f64 bits => exact make_eq_ok_iff_of_plain (fun _ _ => f64.inj) Reader.u64_eq_ok
  | raw payload =>
    refine make_eq_ok_iff (fun _ _ => raw.inj) (Reader.raw_eq_ok.trans ?_)
    exact and_congr_left' (iff_of_true rfl trivial)
  | bytes payload => exact make_eq_ok_iff (fun _ _ => bytes.inj) Reader.bytes_eq_ok
  | text payload => exact make_eq_ok_iff (fun _ _ => text.inj) Reader.text_eq_ok
  | uuid id => exact make_eq_ok_iff_of_plain (fun _ _ => uuid.inj) Reader.uuid_eq_ok

end Primitive

/-! ## Outlines -/

/-- A row of things in which stretches are set off as blocks. -/
inductive Outline (α : Type) where
  | done
  | push (a : α) (rest : Outline α)
  | block (content rest : Outline α)
deriving DecidableEq, Repr

namespace Outline

/-- The same blocks with other things in them. -/
def map {α β : Type} (f : α → β) : Outline α → Outline β
  | done => .done
  | push a rest => .push (f a) (rest.map f)
  | block content rest => .block (content.map f) (rest.map f)

/-- The bytes of a row: each block stands behind its length. -/
def encoded : Outline Primitive → Bytes
  | done => []
  | push p rest => p.encoded ++ rest.encoded
  | block content rest => content.encoded.prefixed ++ rest.encoded

/-- All lengths in a row fit their four bytes. -/
def Fits : Outline Primitive → Prop
  | done => True
  | push p rest => p.Fits ∧ rest.Fits
  | block content rest =>
    content.encoded.length < BigEndian.size 4 ∧ content.Fits ∧ rest.Fits

end Outline

/-! ## Reading -/

/-- Runs a reader on `n` bytes that are split off: its answer, and what it left of them.  What comes
behind them is gone on with whatever is left. -/
def Reader.within {α : Type} (n : Nat) (reader : Reader α) : Reader (α × Bytes) := do
  match reader (← Reader.raw n) with
  | .ok a left => pure (a, left)
  | .error e _ => throw e

lemma Reader.within_eq_ok {α : Type} {n : Nat} {reader : Reader α} {a : α}
    {left bytes rest : Bytes} :
    Reader.within n reader bytes = .ok (a, left) rest
      ↔ ∃ slice, slice.length = n ∧ bytes = slice ++ rest ∧ reader slice = .ok a left := by
  rw [Reader.within, Reader.bind_eq_ok]
  constructor
  · rintro ⟨slice, middle, hslice, hread⟩
    obtain ⟨hlength, rfl⟩ := Reader.raw_eq_ok.1 hslice
    cases hresult : reader slice with
    | ok a' left' =>
      rw [hresult] at hread
      cases hread
      exact ⟨slice, hlength, rfl, hresult⟩
    | error e left' =>
      rw [hresult] at hread
      cases hread
  · rintro ⟨slice, hlength, rfl, hresult⟩
    refine ⟨slice, rest, Reader.raw_eq_ok.2 ⟨hlength, rfl⟩, ?_⟩
    rw [hresult]
    rfl

namespace Outline

/-- Takes what an outline asks for, in order: the values, and what was left unread in each block. -/
def read : Outline PrimitiveKind → Reader (Outline Primitive × List Bytes)
  | done => pure (.done, [])
  | push kind rest => do
    let p ← kind.read
    let (others, lefts) ← rest.read
    pure (.push p others, lefts)
  | block content rest => do
    let length ← Reader.u32
    let ((inside, insideLefts), left) ← Reader.within length.toNat content.read
    let (others, lefts) ← rest.read
    pure (.block inside others, left :: (insideLefts ++ lefts))

/-- A row of values is taken off the input as it is, and its blocks are read to their ends. -/
def ReadsBack (outline : Outline Primitive) (input rest : Bytes) : Prop :=
  ∃ lefts, (outline.map Primitive.kind).read input = .ok (outline, lefts) rest
    ∧ ∀ left ∈ lefts, left = []

variable {p : Primitive} {content others : Outline Primitive} {input rest : Bytes}

lemma readsBack_done : ReadsBack done input rest ↔ input = rest := by
  constructor
  · rintro ⟨lefts, hread, -⟩
    exact (EStateM.Result.ok.inj hread).2
  · rintro rfl
    exact ⟨[], rfl, List.forall_mem_nil _⟩

lemma readsBack_push :
    (push p others).ReadsBack input rest
      ↔ ∃ middle, p.kind.read input = .ok p middle ∧ others.ReadsBack middle rest := by
  constructor
  · rintro ⟨lefts, hread, hlefts⟩
    obtain ⟨p', middle, hfirst, hread⟩ := Reader.bind_eq_ok.1 hread
    obtain ⟨⟨others', lefts'⟩, _, hothers, hmade⟩ := Reader.bind_eq_ok.1 hread
    cases hmade
    exact ⟨middle, hfirst, lefts, hothers, hlefts⟩
  · rintro ⟨middle, hfirst, lefts, hothers, hlefts⟩
    refine ⟨lefts, ?_, hlefts⟩
    rw [map, read, Reader.bind_of_ok hfirst, Reader.bind_of_ok hothers]
    rfl

lemma readsBack_block :
    (block content others).ReadsBack input rest
      ↔ ∃ slice middle, slice.length < BigEndian.size 4 ∧ input = slice.prefixed ++ middle
        ∧ content.ReadsBack slice [] ∧ others.ReadsBack middle rest := by
  constructor
  · rintro ⟨lefts, hread, hlefts⟩
    obtain ⟨length, behind, hlength, hread⟩ := Reader.bind_eq_ok.1 hread
    obtain ⟨⟨⟨inside, insideLefts⟩, left⟩, middle, hwithin, hread⟩ := Reader.bind_eq_ok.1 hread
    obtain ⟨⟨others', lefts'⟩, _, hothers, hmade⟩ := Reader.bind_eq_ok.1 hread
    cases hmade
    obtain ⟨slice, hslice, rfl, hinside⟩ := Reader.within_eq_ok.1 hwithin
    obtain ⟨rfl, hempty⟩ := List.forall_mem_cons.1 hlefts
    obtain ⟨hinsideLefts, hothersLefts⟩ := List.forall_mem_append.1 hempty
    refine ⟨slice, middle, hslice ▸ length.toNat_lt, ?_, ⟨insideLefts, hinside, hinsideLefts⟩,
      lefts', hothers, hothersLefts⟩
    rw [Reader.u32_eq_ok.1 hlength, Bytes.prefixed, hslice, List.append_assoc]
  · rintro ⟨slice, middle, hslice, rfl, ⟨insideLefts, hinside, hinsideLefts⟩, lefts, hothers,
      hlefts⟩
    have hlength : Reader.u32 (slice.prefixed ++ middle)
        = .ok (UInt32.ofNat slice.length) (slice ++ middle) := by
      rw [Reader.u32_eq_ok, UInt32.toNat_ofNat_of_lt' hslice, Bytes.prefixed, List.append_assoc]
    have hwithin : Reader.within (UInt32.ofNat slice.length).toNat (content.map Primitive.kind).read
        (slice ++ middle) = .ok ((content, insideLefts), []) middle := by
      rw [UInt32.toNat_ofNat_of_lt' hslice]
      exact Reader.within_eq_ok.2 ⟨slice, rfl, rfl, hinside⟩
    refine ⟨[] :: (insideLefts ++ lefts), ?_, ?_⟩
    · rw [map, read, Reader.bind_of_ok hlength, Reader.bind_of_ok hwithin]
      exact Reader.bind_of_ok hothers
    · exact List.forall_mem_cons.2 ⟨rfl, List.forall_mem_append.2 ⟨hinsideLefts, hlefts⟩⟩

/-- **Reading** gives a row back, and leaves nothing in its blocks, exactly where the row stands
with lengths that fit. -/
theorem readsBack_iff (outline : Outline Primitive) (input rest : Bytes) :
    outline.ReadsBack input rest ↔ outline.Fits ∧ input = outline.encoded ++ rest := by
  induction outline generalizing input rest with
  | done => exact readsBack_done.trans (and_iff_right trivial).symm
  | push p others ih =>
    rw [readsBack_push]
    constructor
    · rintro ⟨middle, hfirst, hothers⟩
      obtain ⟨hfits, rfl⟩ := p.read_kind_eq_ok_iff.1 hfirst
      obtain ⟨hrest, rfl⟩ := (ih _ _).1 hothers
      exact ⟨⟨hfits, hrest⟩, (List.append_assoc _ _ _).symm⟩
    · rintro ⟨⟨hfits, hothers⟩, rfl⟩
      refine ⟨others.encoded ++ rest, ?_, (ih _ _).2 ⟨hothers, rfl⟩⟩
      exact p.read_kind_eq_ok_iff.2 ⟨hfits, List.append_assoc _ _ _⟩
  | block content others ihcontent ihothers =>
    rw [readsBack_block]
    constructor
    · rintro ⟨slice, middle, hlength, rfl, hcontent, hothers⟩
      obtain ⟨hinside, rfl⟩ := (ihcontent _ _).1 hcontent
      obtain ⟨hrest, rfl⟩ := (ihothers _ _).1 hothers
      rw [List.append_nil] at hlength ⊢
      exact ⟨⟨hlength, hinside, hrest⟩, (List.append_assoc _ _ _).symm⟩
    · rintro ⟨⟨hlength, hcontent, hothers⟩, rfl⟩
      exact ⟨content.encoded, others.encoded ++ rest, hlength, List.append_assoc _ _ _,
        (ihcontent _ _).2 ⟨hcontent, (List.append_nil _).symm⟩, (ihothers _ _).2 ⟨hothers, rfl⟩⟩

end Outline

/-! ## Writing -/

/-- What is asked of a writer. -/
inductive Operation where
  | push (p : Primitive)
  | beginLength
  | endLength
deriving DecidableEq, Repr

/-- How many lengths are open when operations are over, of which `n` were open before.  There is no
answer if a length is filled when none is open. -/
def Operation.openAfter? : (n : Nat) → List Operation → Option Nat
  | n, [] => some n
  | n, .push _ :: operations => openAfter? n operations
  | n, .beginLength :: operations => openAfter? (n + 1) operations
  | n + 1, .endLength :: operations => openAfter? n operations
  | 0, .endLength :: _ => none

/-- Operations that fill the lengths that they leave open, and no others. -/
def Operation.AreNested (operations : List Operation) : Prop :=
  Operation.openAfter? 0 operations = some 0

instance (operations : List Operation) : Decidable (Operation.AreNested operations) :=
  inferInstanceAs (Decidable (Operation.openAfter? 0 operations = some 0))

namespace Outline

/-- The operations that write a row. -/
def operations : Outline Primitive → List Operation
  | done => []
  | push p rest => .push p :: rest.operations
  | block content rest => .beginLength :: (content.operations ++ .endLength :: rest.operations)

/-- Writing a row leaves as many lengths open as there were. -/
lemma openAfter?_operations (outline : Outline Primitive) (n : Nat) (others : List Operation) :
    Operation.openAfter? n (outline.operations ++ others) = Operation.openAfter? n others := by
  induction outline generalizing n others with
  | done => rfl
  | push p rest ih => exact ih n others
  | block content rest ihcontent ihrest =>
    rw [operations, List.cons_append, List.append_assoc, List.cons_append, Operation.openAfter?,
      ihcontent, Operation.openAfter?, ihrest]

/-- Operations that fill the lengths open before are rows with the ends of the open blocks between
them. -/
lemma exists_rows {operations : List Operation} {n : Nat}
    (h : Operation.openAfter? n operations = some 0) :
    ∃ (first : Outline Primitive) (outer : List (Outline Primitive)), outer.length = n
      ∧ operations = first.operations ++ outer.flatMap fun row => .endLength :: row.operations := by
  induction operations generalizing n with
  | nil =>
    cases h
    exact ⟨.done, [], rfl, rfl⟩
  | cons operation operations ih =>
    cases operation with
    | push p =>
      obtain ⟨first, outer, hlength, rfl⟩ := ih h
      exact ⟨.push p first, outer, hlength, rfl⟩
    | beginLength =>
      obtain ⟨content, outer, hlength, rfl⟩ := ih h
      obtain ⟨first, outer, rfl⟩ := List.exists_cons_of_length_eq_add_one hlength
      refine ⟨.block content first, outer, Nat.succ.inj hlength, ?_⟩
      simp only [Outline.operations, List.flatMap_cons, List.cons_append, List.append_assoc]
    | endLength =>
      cases n with
      | zero => cases h
      | succ n =>
        obtain ⟨first, outer, hlength, rfl⟩ := ih h
        exact ⟨.done, first :: outer, congrArg (· + 1) hlength, rfl⟩

/-- Nested operations are those that write a row. -/
lemma areNested_iff {operations : List Operation} :
    Operation.AreNested operations
      ↔ ∃ outline : Outline Primitive, outline.operations = operations := by
  constructor
  · intro h
    obtain ⟨outline, outer, hlength, rfl⟩ := exists_rows h
    obtain rfl := List.length_eq_zero_iff.1 hlength
    exact ⟨outline, (List.append_nil _).symm⟩
  · rintro ⟨outline, rfl⟩
    have h := outline.openAfter?_operations 0 []
    rwa [List.append_nil] at h

end Outline

namespace Writer

/-- A block that was begun and filled stands behind its length. -/
lemma endLength_beginLength (w : Writer) (payload : Bytes) :
    (w.beginLength.2.raw payload).endLength w.beginLength.1 = w.raw payload.prefixed := by
  have hopen : (w.beginLength.2.raw payload).bytes
      = w.bytes ++ (BigEndian.encode 4 0 ++ payload) := by
    simp [beginLength, nat]
  have hcount : (w.beginLength.2.raw payload).size - w.beginLength.1 - 4 = payload.length := by
    rw [size, hopen, beginLength, size, List.length_append, List.length_append,
      BigEndian.length_encode]
    omega
  have hbytes := bytes_fill hopen (BigEndian.length_encode 4 0) payload.length
  rw [List.append_assoc] at hbytes
  calc (w.beginLength.2.raw payload).endLength w.beginLength.1
      = (w.beginLength.2.raw payload).fill w.beginLength.1 payload.length := by
        rw [endLength, hcount]
    _ = w.raw payload.prefixed := congrArg (Writer.mk · w.open?) hbytes

variable {w : Writer} {place : Nat}

lemma size_endLength (hplace : place + 4 ≤ w.size) : (w.endLength place).size = w.size := by
  rw [size] at hplace
  simp only [endLength, fill, size, List.length_append, List.length_take, List.length_drop,
    BigEndian.length_encode]
  omega

/-- Filling a length leaves all other bytes as they are. -/
lemma getElem?_endLength (hplace : place + 4 ≤ w.size) {i : Nat}
    (hi : i < place ∨ place + 4 ≤ i) : (w.endLength place).bytes[i]? = w.bytes[i]? := by
  rw [size] at hplace
  have hfront : (w.bytes.take place).length = place := List.length_take_of_le (by omega)
  simp only [endLength, fill, List.append_assoc]
  rcases hi with hi | hi
  · rw [List.getElem?_append_left (by rw [hfront]; exact hi), List.getElem?_take_of_lt hi]
  · rw [List.getElem?_append_right (by omega), List.getElem?_append_right (by simp; omega),
      List.getElem?_drop, hfront, BigEndian.length_encode]
    congr 1
    omega

end Writer

/-- A writer, and where lengths are open in it, innermost first. -/
structure Draft where
  writer : Writer
  places : List Nat
deriving DecidableEq, Repr

namespace Draft

/-- Nothing written yet. -/
def empty : Draft := ⟨.empty, []⟩

/-- Does what is asked.  A length is filled where the innermost one is open. -/
def apply (draft : Draft) : Operation → Draft
  | .push p => { draft with writer := p.write draft.writer }
  | .beginLength => ⟨draft.writer.beginLength.2, draft.writer.beginLength.1 :: draft.places⟩
  | .endLength =>
    match draft.places with
    | [] => draft
    | place :: places => ⟨draft.writer.endLength place, places⟩

/-- Does all that is asked, in order. -/
def run (draft : Draft) (operations : List Operation) : Draft := operations.foldl apply draft

lemma run_append (draft : Draft) (first second : List Operation) :
    draft.run (first ++ second) = (draft.run first).run second := List.foldl_append

/-- **Writing** a row leaves the open lengths alone, and its bytes stand behind what was there. -/
theorem run_operations (draft : Draft) (outline : Outline Primitive) :
    draft.run outline.operations = ⟨draft.writer.raw outline.encoded, draft.places⟩ := by
  induction outline generalizing draft with
  | done => exact congrArg (Draft.mk · draft.places) draft.writer.raw_nil.symm
  | push p rest ih =>
    rw [Outline.operations, run, List.foldl_cons]
    refine (ih _).trans ?_
    rw [apply, p.write_eq_raw, Writer.raw_raw, Outline.encoded]
  | block content rest ihcontent ihrest =>
    rw [Outline.operations, ← List.singleton_append, run_append, run_append, ihcontent]
    refine (ihrest _).trans ?_
    change Draft.mk (((draft.writer.beginLength.2.raw content.encoded).endLength
      draft.writer.beginLength.1).raw rest.encoded) draft.places = _
    rw [Writer.endLength_beginLength, Writer.raw_raw, Outline.encoded]

/-! ### Open lengths -/

/-- The open lengths lie apart from each other, and none reaches beyond what was written. -/
def Sound (draft : Draft) : Prop :=
  (draft.writer.size :: draft.places).Pairwise fun behind place => place + 4 ≤ behind

lemma sound_empty : empty.Sound := List.pairwise_singleton _ _

variable {draft : Draft}

lemma Sound.place_le (h : draft.Sound) {place : Nat} (hplace : place ∈ draft.places) :
    place + 4 ≤ draft.writer.size := (List.pairwise_cons.1 h).1 place hplace

/-- A step leaves the open lengths apart from each other. -/
lemma Sound.apply (h : draft.Sound) (operation : Operation) : (draft.apply operation).Sound := by
  obtain ⟨hsize, hplaces⟩ := List.pairwise_cons.1 h
  cases operation with
  | push p =>
    refine List.pairwise_cons.2 ⟨fun place hplace => ?_, hplaces⟩
    rw [Draft.apply, p.write_eq_raw, Writer.size, Writer.bytes_raw, List.length_append]
    exact Nat.le_add_right_of_le (hsize place hplace)
  | beginLength =>
    have hbegun : (draft.apply .beginLength).writer.size = draft.writer.size + 4 := by
      simp [Draft.apply, Writer.beginLength, Writer.nat, Writer.size]
    refine List.pairwise_cons.2 ⟨?_, h⟩
    rw [hbegun]
    refine List.forall_mem_cons.2 ⟨Nat.le_refl _, fun place hplace => ?_⟩
    exact Nat.le_add_right_of_le (hsize place hplace)
  | endLength =>
    rw [Draft.apply]
    split
    · exact h
    · rename_i place places hopen
      rw [hopen] at hsize hplaces
      refine List.pairwise_cons.2 ⟨?_, hplaces.of_cons⟩
      rw [Writer.size_endLength (hsize place List.mem_cons_self)]
      exact fun other hother => hsize other (List.mem_cons_of_mem _ hother)

lemma Sound.run (h : draft.Sound) (operations : List Operation) :
    (draft.run operations).Sound := by
  induction operations generalizing draft with
  | nil => exact h
  | cons operation operations ih => exact ih (h.apply operation)

/-- **What is written is read.**  Operations that fill the lengths that they leave open write a row,
and leave no length open.  The row is read back to its end, and each block in it to its own, exactly
when all lengths fit their four bytes.  Wherever a length was open on the way, filling it changed
none of the other bytes. -/
theorem read_written (operations : List Operation) (h : Operation.AreNested operations) :
    (∃ outline : Outline Primitive, outline.operations = operations)
    ∧ (∀ outline : Outline Primitive, outline.operations = operations →
        (empty.run operations).places = []
        ∧ (outline.ReadsBack (empty.run operations).writer.bytes [] ↔ outline.Fits))
    ∧ ∀ before, before <+: operations → ∀ place ∈ (empty.run before).places,
        ((empty.run before).writer.endLength place).size = (empty.run before).writer.size
        ∧ ∀ i, i < place ∨ place + 4 ≤ i →
          ((empty.run before).writer.endLength place).bytes[i]?
            = (empty.run before).writer.bytes[i]? := by
  refine ⟨Outline.areNested_iff.1 h, ?_, ?_⟩
  · rintro outline rfl
    refine ⟨congrArg Draft.places (empty.run_operations outline), ?_⟩
    rw [run_operations, Outline.readsBack_iff, List.append_nil]
    exact and_iff_left rfl
  · intro before _ place hplace
    have hle := (sound_empty.run before).place_le hplace
    exact ⟨Writer.size_endLength hle, fun i hi => Writer.getElem?_endLength hle hi⟩

/-- A block with a text and an empty block in it, between two numbers. -/
theorem read_written_of_two_blocks :
    (empty.run [.push (.u8 7), .beginLength, .push (.text "a"), .beginLength, .endLength,
        .endLength, .push (.i16 (-2))]).writer.bytes
      = [7, 0, 0, 0, 9, 0, 0, 0, 1, 97, 0, 0, 0, 0, 255, 254]
    ∧ Outline.ReadsBack
        (.push (.u8 7) (.block (.push (.text "a") (.block .done .done)) (.push (.i16 (-2)) .done)))
        [7, 0, 0, 0, 9, 0, 0, 0, 1, 97, 0, 0, 0, 0, 255, 254] [] := by
  have hread := (read_written [.push (.u8 7), .beginLength, .push (.text "a"), .beginLength,
    .endLength, .endLength, .push (.i16 (-2))] (by decide)).2.1
    (.push (.u8 7) (.block (.push (.text "a") (.block .done .done)) (.push (.i16 (-2)) .done))) rfl
  have hbytes : (empty.run [.push (.u8 7), .beginLength, .push (.text "a"), .beginLength,
      .endLength, .endLength, .push (.i16 (-2))]).writer.bytes
      = [7, 0, 0, 0, 9, 0, 0, 0, 1, 97, 0, 0, 0, 0, 255, 254] := by decide +kernel
  have htext : (Utf8.encode "a").length < BigEndian.size 4 := by decide +kernel
  rw [hbytes] at hread
  refine ⟨hbytes, hread.2.2 ⟨trivial, ?_, ⟨htext, ?_, trivial, trivial⟩, trivial, trivial⟩⟩ <;>
    decide +kernel

end Draft

end QueryWire
