import QueryWire.Error

/-!
# Reading a payload

A reader takes values off the front of a byte list.  It checks for enough bytes before it takes
any, so a short payload is a framing error that says how many were needed and how many were there.
What a compound read consumed before it failed stays consumed.

* `Reader` — a computation over the unread bytes that may fail.
* `Reader.raw`, `Reader.nat`, `Reader.text`, … — one value each.
* `Reader.headers`, `Reader.skipHeaders` — a header map, kept or passed over.
* `Reader.Composes` — a property that passes on from readers to what is put together of them.
-/

namespace QueryWire

/-- A computation over the unread bytes.  Also a failure leaves some bytes unread. -/
abbrev Reader (α : Type) := EStateM Error Bytes α

namespace Reader

/-- Runs a reader: its answer, and what it left unread. -/
def run' (reader : Reader α) (bytes : Bytes) : Except Error α × Bytes :=
  match reader bytes with
  | .ok value rest => (.ok value, rest)
  | .error e rest => (.error e, rest)

/-- Takes exactly `n` bytes. -/
def raw (n : Nat) : Reader Bytes := fun bytes =>
  let taken := bytes.take n
  if taken.length = n then .ok taken (bytes.drop n)
  else .error (.framing (.short n bytes.length)) bytes

/-- Passes over `n` bytes. -/
def discard (n : Nat) : Reader Unit := do
  let _ ← raw n

/-- The unread bytes, which stay unread. -/
def rest : Reader Bytes := get

/-- A number of `width` bytes. -/
def nat (width : Nat) : Reader Nat := return BigEndian.decode (← raw width)

/-- A byte. -/
def u8 : Reader UInt8 := return UInt8.ofNat (← nat 1)

/-- A natural number below `2 ^ 16`. -/
def u16 : Reader UInt16 := return UInt16.ofNat (← nat 2)

/-- A natural number below `2 ^ 32`. -/
def u32 : Reader UInt32 := return UInt32.ofNat (← nat 4)

/-- A natural number below `2 ^ 64`. -/
def u64 : Reader UInt64 := return UInt64.ofNat (← nat 8)

/-- A signed number of 16 bits, in two's complement. -/
def i16 : Reader Int16 := return (← u16).toInt16

/-- A signed number of 32 bits, in two's complement. -/
def i32 : Reader Int32 := return (← u32).toInt32

/-- A signed number of 64 bits, in two's complement. -/
def i64 : Reader Int64 := return (← u64).toInt64

/-- Bytes behind their length. -/
def bytes : Reader Bytes := do raw (← nat 4)

/-- Text in UTF-8 behind its length. -/
def text : Reader String := do
  match Utf8.decode? (← bytes) with
  | .ok text => pure text
  | .error fault => throw (.framing (.badText fault))

/-- An identifier. -/
def uuid : Reader Uuid := return Uuid.ofBytes (← raw 16)

/-- The values in `done` (last first) and `n` more of the same form. -/
def listFrom (reader : Reader α) : (n : Nat) → (done : List α) → Reader (List α)
  | 0, done => pure done.reverse
  | n + 1, done => do listFrom reader n ((← reader) :: done)

/-- `n` values of the same form, in order. -/
def list (reader : Reader α) (n : Nat) : Reader (List α) := listFrom reader n []

/-- One header. -/
def header : Reader (UInt16 × Bytes) := do
  let key ← u16
  let value ← bytes
  pure (key, value)

/-- A header map; of a key that stands twice the later value counts. -/
def headers : Reader Headers := do
  let count ← nat 2
  return Headers.ofList (← list header count)

/-- Passes over a header map. -/
def skipHeaders : Reader Unit := do
  let count ← nat 2
  let _ ← list header count

/-! ## What readers put together have in common -/

/-- A property that taking bytes has, and that passes on from readers to what is put together of
them.  Errors of which `P` holds may be raised on the way. -/
structure Composes (P : Error → Prop) (Q : {α : Type} → Reader α → Prop) : Prop where
  ofPure {α : Type} (a : α) : Q (pure a : Reader α)
  ofThrow {α : Type} {e : Error} (he : P e) : Q (throw e : Reader α)
  bind {α β : Type} {x : Reader α} {f : α → Reader β} (hx : Q x) (hf : ∀ a, Q (f a)) : Q (x >>= f)
  raw (n : Nat) : Q (Reader.raw n)

namespace Composes

variable {P : Error → Prop} {Q : {α : Type} → Reader α → Prop} (h : Composes P Q)

include h

theorem nat (width : Nat) : Q (Reader.nat width) := h.bind (h.raw width) fun _ => h.ofPure _

theorem discard (n : Nat) : Q (Reader.discard n) := h.bind (h.raw n) fun _ => h.ofPure _

theorem u8 : Q Reader.u8 := h.bind (h.nat 1) fun _ => h.ofPure _

theorem u16 : Q Reader.u16 := h.bind (h.nat 2) fun _ => h.ofPure _

theorem u32 : Q Reader.u32 := h.bind (h.nat 4) fun _ => h.ofPure _

theorem u64 : Q Reader.u64 := h.bind (h.nat 8) fun _ => h.ofPure _

theorem i16 : Q Reader.i16 := h.bind h.u16 fun _ => h.ofPure _

theorem i32 : Q Reader.i32 := h.bind h.u32 fun _ => h.ofPure _

theorem i64 : Q Reader.i64 := h.bind h.u64 fun _ => h.ofPure _

theorem uuid : Q Reader.uuid := h.bind (h.raw 16) fun _ => h.ofPure _

theorem bytes : Q Reader.bytes := h.bind (h.nat 4) fun n => h.raw n

theorem text (hP : ∀ fault, P (.framing (.badText fault))) : Q Reader.text := by
  refine h.bind h.bytes fun b => ?_
  split
  · exact h.ofPure _
  · exact h.ofThrow (hP _)

/-- So many values after each other. -/
theorem list {α : Type} {reader : Reader α} (hreader : Q reader) (n : Nat) :
    Q (Reader.list reader n) := by
  suffices hgo : ∀ n done, Q (listFrom reader n done) from hgo n []
  intro n
  induction n with
  | zero => exact fun done => h.ofPure _
  | succ n ih => exact fun done => h.bind hreader fun a => ih (a :: done)

theorem header : Q Reader.header :=
  h.bind h.u16 fun _ => h.bind h.bytes fun _ => h.ofPure _

theorem headers : Q Reader.headers :=
  h.bind (h.nat 2) fun n => h.bind (h.list h.header n) fun _ => h.ofPure _

theorem skipHeaders : Q Reader.skipHeaders :=
  h.bind (h.nat 2) fun n => h.bind (h.list h.header n) fun _ => h.ofPure _

end Composes

/-! ## Nothing is put back

Loops over readers end because a reader never leaves more unread than it found.
-/

/-- A reader that leaves at most what it found. -/
def Shrinks (reader : Reader α) : Prop :=
  ∀ bytes value rest, reader bytes = .ok value rest → rest.length ≤ bytes.length

theorem Shrinks.bind {x : Reader α} {f : α → Reader β} (hx : Shrinks x)
    (hf : ∀ a, Shrinks (f a)) : Shrinks (x >>= f) := by
  intro bytes value rest h
  change EStateM.bind x f bytes = _ at h
  unfold EStateM.bind at h
  split at h
  · rename_i a middle hmiddle
    exact Nat.le_trans (hf a _ _ _ h) (hx _ _ _ hmiddle)
  · cases h

theorem shrinks_raw (n : Nat) : Shrinks (raw n) := by
  intro bytes value rest h
  unfold raw at h
  simp only at h
  split at h
  · cases h
    simp
  · cases h

/-- Whatever errors there may be, nothing is put back. -/
theorem composes_shrinks : Composes (fun _ => True) Shrinks where
  ofPure a := by
    intro bytes value rest h
    cases h
    exact Nat.le_refl _
  ofThrow _ := by
    intro bytes value rest h
    cases h
  bind hx hf := hx.bind hf
  raw := shrinks_raw

end Reader

end QueryWire
