import QueryWire.Proofs.Text.Utf8
import QueryWire.Proofs.Wire.Written
import QueryWire.Wire.Writer

/-!
# What readers accept

That a reader gives back what was written is one half of what it should do; the other half is that
it accepts nothing else.  Both together say which bytes a reader takes off the front, and what it
makes of them.

* `Reader.raw_eq_ok`, `Reader.nat_eq_ok`, `Reader.text_eq_ok` and their like — a number, a text or
  an identifier is read exactly where it was written.
* `Form` — things that are written, their bytes, and the value that each of them stands for.
* `Reader.Reads` — that a reader accepts the writings of a form and no others.
* **`Reader.Reads.list`** — a row of things is read when each of them is.
-/

namespace QueryWire

namespace Reader

variable {bytes rest : Bytes}

/-! ## Bytes and numbers -/

lemma raw_eq_ok {n : Nat} {taken : Bytes} :
    raw n bytes = .ok taken rest ↔ taken.length = n ∧ bytes = taken ++ rest := by
  constructor
  · intro h
    simp only [raw] at h
    split at h
    · rename_i hlength
      cases h
      exact ⟨hlength, (List.take_append_drop n bytes).symm⟩
    · cases h
  · rintro ⟨hlength, rfl⟩
    exact raw_append_of_length hlength rest

lemma nat_eq_ok {width n : Nat} :
    nat width bytes = .ok n rest
      ↔ n < BigEndian.size width ∧ bytes = BigEndian.encode width n ++ rest := by
  constructor
  · intro h
    obtain ⟨taken, _, htaken, h⟩ := bind_eq_ok.1 h
    cases h
    obtain ⟨rfl, rfl⟩ := raw_eq_ok.1 htaken
    exact ⟨BigEndian.decode_lt taken, by rw [BigEndian.encode_decode]⟩
  · rintro ⟨hn, rfl⟩
    exact nat_encode hn rest

lemma u8_eq_ok {b : UInt8} : u8 bytes = .ok b rest ↔ bytes = b :: rest := by
  constructor
  · intro h
    cases bytes with
    | nil => cases h
    | cons first others =>
      rw [u8_cons] at h
      cases h
      rfl
  · rintro rfl
    exact u8_cons b rest

lemma u16_eq_ok {n : UInt16} :
    u16 bytes = .ok n rest ↔ bytes = BigEndian.encode 2 n.toNat ++ rest := by
  constructor
  · intro h
    obtain ⟨value, _, hvalue, h⟩ := bind_eq_ok.1 h
    cases h
    obtain ⟨hlt, rfl⟩ := nat_eq_ok.1 hvalue
    rw [UInt16.toNat_ofNat_of_lt' hlt]
  · rintro rfl
    exact u16_encode n rest

lemma u32_eq_ok {n : UInt32} :
    u32 bytes = .ok n rest ↔ bytes = BigEndian.encode 4 n.toNat ++ rest := by
  constructor
  · intro h
    obtain ⟨value, _, hvalue, h⟩ := bind_eq_ok.1 h
    cases h
    obtain ⟨hlt, rfl⟩ := nat_eq_ok.1 hvalue
    rw [UInt32.toNat_ofNat_of_lt' hlt]
  · rintro rfl
    exact u32_encode n rest

lemma u64_eq_ok {n : UInt64} :
    u64 bytes = .ok n rest ↔ bytes = BigEndian.encode 8 n.toNat ++ rest := by
  constructor
  · intro h
    obtain ⟨value, _, hvalue, h⟩ := bind_eq_ok.1 h
    cases h
    obtain ⟨hlt, rfl⟩ := nat_eq_ok.1 hvalue
    rw [UInt64.toNat_ofNat_of_lt' hlt]
  · rintro rfl
    exact u64_encode n rest

lemma i16_eq_ok {n : Int16} :
    i16 bytes = .ok n rest ↔ bytes = BigEndian.encode 2 n.toUInt16.toNat ++ rest := by
  constructor
  · intro h
    obtain ⟨value, _, hvalue, h⟩ := bind_eq_ok.1 h
    cases h
    exact u16_eq_ok.1 hvalue
  · rintro rfl
    exact i16_encode n rest

lemma i32_eq_ok {n : Int32} :
    i32 bytes = .ok n rest ↔ bytes = BigEndian.encode 4 n.toUInt32.toNat ++ rest := by
  constructor
  · intro h
    obtain ⟨value, _, hvalue, h⟩ := bind_eq_ok.1 h
    cases h
    exact u32_eq_ok.1 hvalue
  · rintro rfl
    exact i32_encode n rest

lemma i64_eq_ok {n : Int64} :
    i64 bytes = .ok n rest ↔ bytes = BigEndian.encode 8 n.toUInt64.toNat ++ rest := by
  constructor
  · intro h
    obtain ⟨value, _, hvalue, h⟩ := bind_eq_ok.1 h
    cases h
    exact u64_eq_ok.1 hvalue
  · rintro rfl
    exact i64_encode n rest

/-! ## Identifiers and texts -/

lemma uuid_eq_ok {id : Uuid} : uuid bytes = .ok id rest ↔ bytes = id.toBytes ++ rest := by
  constructor
  · intro h
    obtain ⟨taken, _, htaken, h⟩ := bind_eq_ok.1 h
    cases h
    obtain ⟨hlength, rfl⟩ := raw_eq_ok.1 htaken
    rw [Uuid.toBytes_ofBytes hlength]
  · rintro rfl
    exact uuid_toBytes id rest

lemma bytes_eq_ok {payload : Bytes} :
    Reader.bytes bytes = .ok payload rest
      ↔ payload.length < BigEndian.size 4 ∧ bytes = payload.prefixed ++ rest := by
  constructor
  · intro h
    obtain ⟨length, _, hlength, hpayload⟩ := bind_eq_ok.1 h
    obtain ⟨hlt, hbytes⟩ := nat_eq_ok.1 hlength
    obtain ⟨rfl, rfl⟩ := raw_eq_ok.1 hpayload
    rw [hbytes]
    exact ⟨hlt, (List.append_assoc _ _ _).symm⟩
  · rintro ⟨hlt, rfl⟩
    simp only [Reader.bytes, Bytes.prefixed]
    rw [List.append_assoc, bind_of_ok (nat_encode hlt _)]
    exact raw_append payload rest

/-- A text is read where its bytes stand behind their length. -/
lemma text_eq_ok {text : String} :
    Reader.text bytes = .ok text rest
      ↔ (Utf8.encode text).length < BigEndian.size 4
        ∧ bytes = (Utf8.encode text).prefixed ++ rest := by
  constructor
  · intro h
    obtain ⟨payload, _, hpayload, hresult⟩ := bind_eq_ok.1 h
    cases hdecode : Utf8.decode? payload with
    | error fault =>
      rw [hdecode] at hresult
      cases hresult
    | ok decoded =>
      rw [hdecode] at hresult
      cases hresult
      obtain rfl := Utf8.decode?_eq_ok.1 hdecode
      exact bytes_eq_ok.1 hpayload
  · intro h
    simp only [Reader.text]
    rw [bind_of_ok (bytes_eq_ok.2 h), Utf8.decode?_eq_ok.2 rfl]
    rfl

end Reader

/-! ## Forms -/

/-- Things that are written: which of them can be, their bytes, and the value that each of them
stands for. -/
structure Form (σ α : Type) where
  Fits : σ → Prop
  bytes : σ → Bytes
  value : σ → α

/-- The bytes of a row of things, behind their count. -/
def Bytes.counted {σ : Type} (write : σ → Bytes) (row : List σ) : Bytes :=
  BigEndian.encode 2 row.length ++ row.flatMap write

namespace Form

variable {σ α : Type}

/-- So many things, one after the other. -/
def row (form : Form σ α) (n : Nat) : Form (List σ) (List α) where
  Fits row := row.length = n ∧ ∀ written ∈ row, form.Fits written
  bytes row := row.flatMap form.bytes
  value := List.map form.value

/-- Things behind their count. -/
def counted (form : Form σ α) : Form (List σ) (List α) where
  Fits row := row.length < BigEndian.size 2 ∧ ∀ written ∈ row, form.Fits written
  bytes := Bytes.counted form.bytes
  value := List.map form.value

/-- Texts behind their length. -/
def text : Form String String where
  Fits text := (Utf8.encode text).length < BigEndian.size 4
  bytes text := (Utf8.encode text).prefixed
  value := id

instance (t : String) : Decidable (text.Fits t) :=
  inferInstanceAs (Decidable ((Utf8.encode t).length < BigEndian.size 4))

/-- Signed numbers of 32 bits. -/
def i32 : Form Int32 Int32 where
  Fits _ := True
  bytes n := BigEndian.encode 4 n.toUInt32.toNat
  value := id

end Form

namespace Reader

variable {σ α : Type}

/-- A reader accepts what is written in a form, whatever comes behind it, and nothing else. -/
def Reads (reader : Reader α) (form : Form σ α) : Prop :=
  ∀ bytes a rest, reader bytes = .ok a rest
    ↔ ∃ written, form.Fits written ∧ a = form.value written ∧ bytes = form.bytes written ++ rest

/-- What is written in a form is read as its value. -/
lemma Reads.ok {reader : Reader α} {form : Form σ α} (h : reader.Reads form) {written : σ}
    (hfits : form.Fits written) (rest : Bytes) :
    reader (form.bytes written ++ rest) = .ok (form.value written) rest :=
  (h _ _ _).2 ⟨written, hfits, rfl, rfl⟩

lemma reads_text : text.Reads Form.text := by
  intro bytes t rest
  refine text_eq_ok.trans ⟨fun h => ⟨t, h.1, rfl, h.2⟩, ?_⟩
  rintro ⟨_, hfits, rfl, rfl⟩
  exact ⟨hfits, rfl⟩

lemma reads_i32 : i32.Reads Form.i32 := by
  intro bytes n rest
  refine i32_eq_ok.trans ⟨fun h => ⟨n, trivial, rfl, h⟩, ?_⟩
  rintro ⟨_, _, rfl, rfl⟩
  rfl

/-- What is read behind other values comes behind them. -/
lemma Reads.listFrom {reader : Reader α} {form : Form σ α} (h : reader.Reads form) (n : Nat)
    (done : List α) (bytes : Bytes) (all : List α) (rest : Bytes) :
    listFrom reader n done bytes = .ok all rest
      ↔ ∃ row, (form.row n).Fits row ∧ all = done.reverse ++ (form.row n).value row
        ∧ bytes = (form.row n).bytes row ++ rest := by
  induction n generalizing done bytes with
  | zero =>
    constructor
    · intro hread
      cases hread
      exact ⟨[], ⟨rfl, List.forall_mem_nil _⟩, (List.append_nil _).symm, rfl⟩
    · rintro ⟨row, ⟨hlength, _⟩, rfl, rfl⟩
      obtain rfl := List.length_eq_zero_iff.1 hlength
      exact congrArg (EStateM.Result.ok · rest) (List.append_nil _).symm
  | succ n ih =>
    constructor
    · intro hread
      obtain ⟨a, middle, hfirst, hothers⟩ := bind_eq_ok.1 hread
      obtain ⟨written, hfits, rfl, rfl⟩ := (h _ _ _).1 hfirst
      obtain ⟨row, ⟨hlength, hrow⟩, rfl, rfl⟩ := (ih _ _).1 hothers
      refine ⟨written :: row,
        ⟨congrArg (· + 1) hlength, List.forall_mem_cons.2 ⟨hfits, hrow⟩⟩, ?_, ?_⟩
      · simp only [Form.row, List.reverse_cons, List.append_assoc, List.singleton_append,
          List.map_cons]
      · simp only [Form.row, List.flatMap_cons, List.append_assoc]
    · rintro ⟨row, ⟨hlength, hrow⟩, rfl, rfl⟩
      cases row with
      | nil => cases hlength
      | cons written row =>
        obtain ⟨hfits, hrow⟩ := List.forall_mem_cons.1 hrow
        have hbytes : (form.row (n + 1)).bytes (written :: row) ++ rest
            = form.bytes written ++ ((form.row n).bytes row ++ rest) := by
          simp only [Form.row, List.flatMap_cons, List.append_assoc]
        rw [hbytes, Reader.listFrom, bind_of_ok (h.ok hfits _)]
        refine (ih _ _).2 ⟨row, ⟨Nat.succ.inj hlength, hrow⟩, ?_, rfl⟩
        simp only [Form.row, List.reverse_cons, List.append_assoc, List.singleton_append,
          List.map_cons]

/-- **Rows.**  A row of things is read when each of them is. -/
theorem Reads.list {reader : Reader α} {form : Form σ α} (h : reader.Reads form) (n : Nat) :
    (list reader n).Reads (form.row n) :=
  fun bytes values rest => h.listFrom n [] bytes values rest

end Reader

end QueryWire
