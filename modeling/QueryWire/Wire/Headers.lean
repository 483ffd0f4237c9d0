import QueryWire.Wire.BigEndian

/-!
# Headers

Messages carry a map from 16-bit keys to opaque bytes.  The map is a list with rising keys, so
that equal maps are equal lists and the order of writing is fixed.

* `Headers.insert` — the map with one key set.
* `Headers.get?` — the bytes under a key.
* **`Headers.get?_insert`** — a key that was set is found, the others are found as before.
-/

namespace QueryWire

/-- A map from 16-bit keys to bytes, as a list with rising keys. -/
structure Headers where
  entries : List (UInt16 × Bytes) := []
  sorted : entries.Pairwise (fun a b => a.1 < b.1) := by simp
deriving DecidableEq, Repr

namespace Headers

/-- The map without keys. -/
def empty : Headers := {}

instance : Inhabited Headers := ⟨empty⟩

/-- A list with rising keys, with one key set. -/
def insertEntry (key : UInt16) (value : Bytes) :
    List (UInt16 × Bytes) → List (UInt16 × Bytes)
  | [] => [(key, value)]
  | (k, v) :: rest =>
    if key < k then (key, value) :: (k, v) :: rest
    else if key = k then (key, value) :: rest
    else (k, v) :: insertEntry key value rest

/-- The keys of the list are the new one and those it had. -/
theorem fst_of_mem_insertEntry {key : UInt16} {value : Bytes} {l : List (UInt16 × Bytes)}
    {e : UInt16 × Bytes} (h : e ∈ insertEntry key value l) : e.1 = key ∨ e ∈ l := by
  induction l with
  | nil =>
    simp only [insertEntry, List.mem_singleton] at h
    exact .inl (h ▸ rfl)
  | cons head rest ih =>
    obtain ⟨k, v⟩ := head
    unfold insertEntry at h
    split at h
    · rcases List.mem_cons.1 h with rfl | h
      · exact .inl rfl
      · exact .inr h
    · split at h
      · rcases List.mem_cons.1 h with rfl | h
        · exact .inl rfl
        · exact .inr (List.mem_cons_of_mem _ h)
      · rcases List.mem_cons.1 h with rfl | h
        · exact .inr List.mem_cons_self
        · exact (ih h).imp id (List.mem_cons_of_mem _)

theorem sorted_insertEntry (key : UInt16) (value : Bytes) {l : List (UInt16 × Bytes)}
    (h : l.Pairwise (fun a b => a.1 < b.1)) :
    (insertEntry key value l).Pairwise (fun a b => a.1 < b.1) := by
  induction l with
  | nil => simp [insertEntry]
  | cons head rest ih =>
    obtain ⟨k, v⟩ := head
    obtain ⟨hk, hrest⟩ := List.pairwise_cons.1 h
    unfold insertEntry
    split
    · rename_i hlt
      refine List.pairwise_cons.2 ⟨fun e he => ?_, h⟩
      rcases List.mem_cons.1 he with rfl | he
      · exact hlt
      · exact UInt16.lt_trans hlt (hk e he)
    · split
      · rename_i heq
        subst heq
        exact List.pairwise_cons.2 ⟨hk, hrest⟩
      · rename_i hlt hne
        refine List.pairwise_cons.2 ⟨fun e he => ?_, ih hrest⟩
        rcases fst_of_mem_insertEntry he with he | he
        · rw [he]
          exact UInt16.lt_of_le_of_ne (UInt16.not_lt.1 hlt) (Ne.symm hne)
        · exact hk e he

/-- The map with `key` set to `value`. -/
def insert (headers : Headers) (key : UInt16) (value : Bytes) : Headers :=
  ⟨insertEntry key value headers.entries, sorted_insertEntry key value headers.sorted⟩

/-- The map that a list of settings leaves, a later one winning over an earlier. -/
def ofList (settings : List (UInt16 × Bytes)) : Headers :=
  settings.foldl (fun headers (key, value) => headers.insert key value) empty

/-- The bytes under a key. -/
def get? (headers : Headers) (key : UInt16) : Option Bytes :=
  headers.entries.lookup key

/-- How many keys are set. -/
def size (headers : Headers) : Nat := headers.entries.length

theorem lookup_insertEntry (key : UInt16) (value : Bytes) (l : List (UInt16 × Bytes))
    (k : UInt16) : (insertEntry key value l).lookup k = if k = key then some value else l.lookup k := by
  induction l with
  | nil =>
    by_cases h : k = key
    · simp [insertEntry, h]
    · simp [insertEntry, List.lookup_cons, beq_eq_false_iff_ne.2 h, h]
  | cons head rest ih =>
    obtain ⟨k', v'⟩ := head
    unfold insertEntry
    by_cases hlt : key < k'
    · by_cases h : k = key
      · simp [hlt, h]
      · simp [hlt, List.lookup_cons, beq_eq_false_iff_ne.2 h, h]
    · by_cases heq : key = k'
      · subst heq
        by_cases h : k = key
        · simp [h, UInt16.lt_irrefl]
        · simp [List.lookup_cons, beq_eq_false_iff_ne.2 h, h, UInt16.lt_irrefl]
      · by_cases h : k = k'
        · have hne : ¬k' = key := fun e => heq e.symm
          simp [hlt, heq, h, hne]
        · simp [hlt, heq, List.lookup_cons, beq_eq_false_iff_ne.2 h, ih]

/-- A key that was set is found, every other key is found as before. -/
theorem get?_insert (headers : Headers) (key : UInt16) (value : Bytes) (k : UInt16) :
    (headers.insert key value).get? k = if k = key then some value else headers.get? k :=
  lookup_insertEntry key value headers.entries k

end Headers

end QueryWire
