/-!
# Tables

A finite map with keys of any type that can be compared, as a list in which no key stands twice.

* `Table.insert`, `Table.erase`, `Table.filterKeys` — the changes.
* **`Table.get?_insert`** and its like — what is found after each of them.
-/

namespace QueryWire

/-- A finite map, as a list without repeated keys. -/
structure Table (κ α : Type) where
  entries : List (κ × α) := []
  distinct : (entries.map Prod.fst).Nodup := by simp
deriving Repr

namespace Table

variable {κ α : Type} [DecidableEq κ]

/-- The map without keys. -/
def empty : Table κ α := {}

instance : Inhabited (Table κ α) := ⟨empty⟩

/-- What stands under a key. -/
def get? (t : Table κ α) (key : κ) : Option α := t.entries.lookup key

/-- How many keys there are. -/
def size (t : Table κ α) : Nat := t.entries.length

/-- The keys. -/
def keys (t : Table κ α) : List κ := t.entries.map Prod.fst

/-- The map without the keys that fail a test. -/
def filterKeys (t : Table κ α) (keep : κ → Bool) : Table κ α :=
  ⟨t.entries.filter fun entry => keep entry.1,
    t.distinct.sublist ((List.filter_sublist).map Prod.fst)⟩

/-- The map without one key. -/
def erase (t : Table κ α) (key : κ) : Table κ α := t.filterKeys fun k => k ≠ key

/-- No key of a map stands in it after it was erased. -/
theorem not_mem_keys_erase (t : Table κ α) (key : κ) : key ∉ (t.erase key).keys := by
  simp [erase, filterKeys, keys]

/-- The map with one key set. -/
def insert (t : Table κ α) (key : κ) (value : α) : Table κ α :=
  ⟨(key, value) :: (t.erase key).entries,
    List.nodup_cons.2 ⟨t.not_mem_keys_erase key, (t.erase key).distinct⟩⟩

/-! ## What is found -/

theorem lookup_filter (keep : κ → Bool) (entries : List (κ × α)) (k : κ) :
    (entries.filter fun entry => keep entry.1).lookup k
      = if keep k then entries.lookup k else none := by
  induction entries with
  | nil => simp
  | cons entry rest ih =>
    obtain ⟨key, value⟩ := entry
    by_cases hk : k = key
    · subst hk
      by_cases hkeep : keep k
      · simp [hkeep]
      · simp [hkeep, ih]
    · have hne : (k == key) = false := beq_eq_false_iff_ne.2 hk
      by_cases hkeep : keep key
      · simp [hkeep, List.lookup_cons, hne, ih]
      · simp [hkeep, List.lookup_cons, hne, ih]

/-- Where keys are distinct, the order makes no difference. -/
theorem lookup_eq_of_perm {entries entries' : List (κ × α)} (hperm : entries.Perm entries')
    (hdistinct : (entries'.map Prod.fst).Nodup) (k : κ) : entries.lookup k = entries'.lookup k := by
  induction hperm with
  | nil => rfl
  | cons entry _ ih =>
    obtain ⟨key, value⟩ := entry
    rw [List.lookup_cons, List.lookup_cons, ih (List.nodup_cons.1 hdistinct).2]
  | swap first second rest =>
    obtain ⟨key, value⟩ := first
    obtain ⟨key', value'⟩ := second
    have hne : key ≠ key' := by
      intro heq
      simp [heq] at hdistinct
    simp only [List.lookup_cons]
    by_cases h : k = key
    · subst h
      simp [beq_eq_false_iff_ne.2 hne]
    · simp [beq_eq_false_iff_ne.2 h]
  | trans hfirst hsecond ih ih' =>
    rw [ih ((hsecond.map Prod.fst).nodup_iff.2 hdistinct), ih' hdistinct]

@[simp] theorem get?_empty (k : κ) : (empty : Table κ α).get? k = none := rfl

/-- Only keys that pass the test are still found. -/
theorem get?_filterKeys (t : Table κ α) (keep : κ → Bool) (k : κ) :
    (t.filterKeys keep).get? k = if keep k then t.get? k else none :=
  lookup_filter keep t.entries k

/-- Every key but the erased one is found as before. -/
theorem get?_erase (t : Table κ α) (key k : κ) :
    (t.erase key).get? k = if k = key then none else t.get? k := by
  rw [erase, get?_filterKeys]
  by_cases h : k = key <;> simp [h]

/-- The key that was set is found, every other key is found as before. -/
theorem get?_insert (t : Table κ α) (key : κ) (value : α) (k : κ) :
    (t.insert key value).get? k = if k = key then some value else t.get? k := by
  by_cases h : k = key
  · simp [insert, get?, h]
  · have herase := t.get?_erase key k
    simp only [get?, if_neg h] at herase
    simp [insert, get?, List.lookup_cons, beq_eq_false_iff_ne.2 h, h, herase]

end Table

end QueryWire
