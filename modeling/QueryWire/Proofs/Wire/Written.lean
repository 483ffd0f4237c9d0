import QueryWire.Proofs.Wire.Reader

/-!
# Reading what was written

A reader that is given what was written for a value, and anything behind it, takes that value off
the front and leaves the rest.

* `Reader.raw_append`, `Reader.nat_encode` — bytes and numbers.
* `Reader.i16_encode`, `Reader.i32_encode`, `Reader.i64_encode` — signed numbers.
* **`Reader.list_flatMap`** — a list, when its items are read back.
-/

namespace QueryWire

namespace Reader

/-! ## Bytes and natural numbers -/

lemma raw_append (bytes rest : Bytes) : raw bytes.length (bytes ++ rest) = .ok bytes rest := by
  simp only [raw]
  simp

lemma raw_append_of_length {bytes : Bytes} {n : Nat} (h : bytes.length = n) (rest : Bytes) :
    raw n (bytes ++ rest) = .ok bytes rest := by
  subst h
  exact raw_append bytes rest

lemma discard_append {bytes : Bytes} {n : Nat} (h : bytes.length = n) (rest : Bytes) :
    discard n (bytes ++ rest) = .ok () rest := by
  simp only [discard]
  rw [bind_of_ok (raw_append_of_length h rest)]
  rfl

/-- A number that fits its width is read back. -/
lemma nat_encode {width n : Nat} (h : n < BigEndian.size width) (rest : Bytes) :
    nat width (BigEndian.encode width n ++ rest) = .ok n rest := by
  simp only [nat]
  rw [bind_of_ok (raw_append_of_length (BigEndian.length_encode width n) rest),
    BigEndian.decode_encode_of_lt h]
  rfl

lemma u16_encode (n : UInt16) (rest : Bytes) :
    u16 (BigEndian.encode 2 n.toNat ++ rest) = .ok n rest := by
  simp only [u16]
  rw [bind_of_ok (nat_encode n.toNat_lt rest)]
  simp

lemma u32_encode (n : UInt32) (rest : Bytes) :
    u32 (BigEndian.encode 4 n.toNat ++ rest) = .ok n rest := by
  simp only [u32]
  rw [bind_of_ok (nat_encode n.toNat_lt rest)]
  simp

lemma u64_encode (n : UInt64) (rest : Bytes) :
    u64 (BigEndian.encode 8 n.toNat ++ rest) = .ok n rest := by
  simp only [u64]
  rw [bind_of_ok (nat_encode n.toNat_lt rest)]
  simp

lemma uuid_toBytes (id : Uuid) (rest : Bytes) : uuid (id.toBytes ++ rest) = .ok id rest := by
  simp only [uuid]
  rw [bind_of_ok (raw_append_of_length id.length_toBytes rest), Uuid.ofBytes_toBytes]
  rfl

/-! ## Signed numbers -/

lemma i16_encode (n : Int16) (rest : Bytes) :
    i16 (BigEndian.encode 2 n.toUInt16.toNat ++ rest) = .ok n rest := by
  simp only [i16]
  rw [bind_of_ok (u16_encode _ rest)]
  simp

lemma i32_encode (n : Int32) (rest : Bytes) :
    i32 (BigEndian.encode 4 n.toUInt32.toNat ++ rest) = .ok n rest := by
  simp only [i32]
  rw [bind_of_ok (u32_encode _ rest)]
  simp

lemma i64_encode (n : Int64) (rest : Bytes) :
    i64 (BigEndian.encode 8 n.toUInt64.toNat ++ rest) = .ok n rest := by
  simp only [i64]
  rw [bind_of_ok (u64_encode _ rest)]
  simp

/-! ## Lists -/

/-- **Lists.**  When each item is read back, so are all of them together. -/
theorem list_flatMap {α : Type} {reader : Reader α} {write : α → Bytes} (items : List α)
    (hitem : ∀ item ∈ items, ∀ rest, reader (write item ++ rest) = .ok item rest) (rest : Bytes) :
    list reader items.length (items.flatMap write ++ rest) = .ok items rest := by
  suffices hgo : ∀ done, listFrom reader items.length done (items.flatMap write ++ rest)
      = .ok (done.reverse ++ items) rest from hgo []
  induction items with
  | nil =>
    intro done
    simp [listFrom]
  | cons item items ih =>
    intro done
    have hfirst := hitem item List.mem_cons_self (items.flatMap write ++ rest)
    have hothers := ih (fun item h => hitem item (List.mem_cons_of_mem _ h)) (item :: done)
    rw [List.length_cons, listFrom, List.flatMap_cons, List.append_assoc, bind_of_ok hfirst,
      hothers]
    simp

end Reader

end QueryWire
