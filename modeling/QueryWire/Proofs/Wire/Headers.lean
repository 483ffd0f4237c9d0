import Mathlib.Data.Fintype.Card
import QueryWire.Proofs.Wire.Batch
import QueryWire.Proofs.Wire.Forms

/-!
# Header maps on the wire

A header map is written as a count of two bytes and then key by key.  There are as many keys as two
bytes spell numbers, so a map may have one header more than the count can tell: the map that sets
every key is announced as an empty one.

* `Headers.ofList_entries` — a map is what its own entries leave.
* `Headers.size_le` — a map has no more headers than there are keys.
* `Reader.skipHeaders_eq_ok` — a map is passed over exactly where one is read.
* `Headers.get?_ofList` — of a key that stands twice the last value is found.
* `Reader.headers_eq_ok` — which bytes are read as a map.
* **`Reader.headers_written`** — a map whose count can be told is read back.
* `Headers.read_written_iff` — and no other map is.
-/

namespace QueryWire

namespace Headers

/-! ## A map and its entries -/

/-- A key above all others goes behind them. -/
lemma insertEntry_of_forall_lt {key : UInt16} {value : Bytes} {l : List (UInt16 × Bytes)}
    (h : ∀ entry ∈ l, entry.1 < key) : insertEntry key value l = l ++ [(key, value)] := by
  induction l with
  | nil => rfl
  | cons entry l ih =>
    obtain ⟨hentry, hothers⟩ := List.forall_mem_cons.1 h
    have hlt : ¬ key < entry.1 := UInt16.not_lt.2 (UInt16.le_of_lt hentry)
    have hne : key ≠ entry.1 := (UInt16.ne_of_lt hentry).symm
    rw [insertEntry, if_neg hlt, if_neg hne, ih hothers, List.cons_append]

lemma entries_insert (headers : Headers) (key : UInt16) (value : Bytes) :
    (headers.insert key value).entries = insertEntry key value headers.entries := rfl

lemma ofList_concat (settings : List (UInt16 × Bytes)) (setting : UInt16 × Bytes) :
    ofList (settings ++ [setting]) = (ofList settings).insert setting.1 setting.2 := by
  rw [ofList, List.foldl_append]
  rfl

/-- Of several values under a key the last one counts. -/
lemma get?_ofList (settings : List (UInt16 × Bytes)) (key : UInt16) :
    (ofList settings).get? key = settings.reverse.lookup key := by
  induction settings using List.reverseRecOn with
  | nil => rfl
  | append_singleton settings setting ih =>
    rw [ofList_concat, get?_insert, ih, List.reverse_concat, List.lookup_cons]
    by_cases h : key = setting.1
    · simp [h]
    · simp [h, beq_eq_false_iff_ne.2 h]

/-- Rising keys are set one behind the other. -/
lemma entries_ofList {settings : List (UInt16 × Bytes)}
    (h : settings.Pairwise fun a b => a.1 < b.1) : (ofList settings).entries = settings := by
  induction settings using List.reverseRecOn with
  | nil => rfl
  | append_singleton settings setting ih =>
    obtain ⟨hsettings, -, hbelow⟩ := List.pairwise_append.1 h
    have hlast : ∀ entry ∈ settings, entry.1 < setting.1 := fun entry hentry =>
      hbelow entry hentry setting (List.mem_singleton_self setting)
    rw [ofList_concat, entries_insert, ih hsettings, insertEntry_of_forall_lt hlast]

/-- **A map** is what its own entries leave. -/
theorem ofList_entries (headers : Headers) : ofList headers.entries = headers := by
  have hentries := entries_ofList headers.sorted
  generalize ofList headers.entries = settled at hentries
  obtain ⟨entries, _⟩ := headers
  obtain ⟨_, _⟩ := settled
  cases hentries
  rfl

/-- There are no more headers than keys. -/
lemma size_le (headers : Headers) : headers.size ≤ BigEndian.size 2 := by
  have hnodup : (headers.entries.map fun entry => entry.1.toFin).Nodup := by
    refine List.Pairwise.map _ (fun a b hlt heq => ?_) headers.sorted
    exact UInt16.ne_of_lt hlt (UInt16.toFin_inj.1 heq)
  have hcard := hnodup.length_le_card
  rwa [List.length_map, Fintype.card_fin] at hcard

/-- The bytes of a header map: the count, and then each key with the bytes under it. -/
def written (headers : Headers) : Bytes :=
  BigEndian.encode 2 headers.size ++ headers.entries.flatMap fun entry =>
    BigEndian.encode 2 entry.1.toNat ++ entry.2.prefixed

lemma bytes_headers (headers : Headers) :
    (Writer.empty.headers headers).bytes = headers.written := by
  rw [Writer.headers_eq_raw]
  rfl

/-- What is written for a map has room for the bytes under each key. -/
lemma length_le_written {headers : Headers} {entry : UInt16 × Bytes}
    (h : entry ∈ headers.entries) : entry.2.length ≤ headers.written.length := by
  obtain ⟨before, after, hentries⟩ := List.append_of_mem h
  simp only [written, hentries, List.flatMap_append, List.flatMap_cons, List.length_append,
    Bytes.prefixed]
  omega

/-- The bytes under each key are few enough for their length to be told. -/
def Writable (headers : Headers) : Prop :=
  ∀ entry ∈ headers.entries, entry.2.length < BigEndian.size 4

end Headers

/-- A header as it is written. -/
def Form.header : Form (UInt16 × Bytes) (UInt16 × Bytes) where
  Fits entry := entry.2.length < BigEndian.size 4
  bytes entry := BigEndian.encode 2 entry.1.toNat ++ entry.2.prefixed
  value := id

instance (entry : UInt16 × Bytes) : Decidable (Form.header.Fits entry) :=
  inferInstanceAs (Decidable (entry.2.length < BigEndian.size 4))

lemma Form.value_row_header (n : Nat) (entries : List (UInt16 × Bytes)) :
    (Form.header.row n).value entries = entries :=
  List.map_id entries

namespace Reader

/-! ## Reading -/

lemma header_written {entry : UInt16 × Bytes} (h : entry.2.length < BigEndian.size 4)
    (rest : Bytes) :
    header (BigEndian.encode 2 entry.1.toNat ++ entry.2.prefixed ++ rest) = .ok entry rest := by
  simp only [header]
  rw [List.append_assoc, bind_of_ok (u16_encode entry.1 _),
    bind_of_ok (bytes_eq_ok.2 ⟨h, rfl⟩)]
  rfl

lemma reads_header : header.Reads Form.header := by
  intro bytes entry rest
  constructor
  · intro h
    obtain ⟨key, _, hkey, h⟩ := bind_eq_ok.1 h
    obtain ⟨value, _, hvalue, h⟩ := bind_eq_ok.1 h
    cases h
    obtain rfl := u16_eq_ok.1 hkey
    obtain ⟨hfits, rfl⟩ := bytes_eq_ok.1 hvalue
    exact ⟨(key, value), hfits, rfl, (List.append_assoc _ _ _).symm⟩
  · rintro ⟨written, hfits, rfl, rfl⟩
    exact header_written hfits rest

/-- A map is read from the entries behind their count, also where a key stands twice. -/
lemma headers_eq_ok {bytes rest : Bytes} {map : Headers} :
    headers bytes = .ok map rest
      ↔ ∃ entries, Form.header.counted.Fits entries ∧ map = Headers.ofList entries
        ∧ bytes = Form.header.counted.bytes entries ++ rest := by
  constructor
  · intro h
    obtain ⟨count, _, hcount, h⟩ := bind_eq_ok.1 h
    obtain ⟨entries, _, hentries, h⟩ := bind_eq_ok.1 h
    cases h
    obtain ⟨hlt, rfl⟩ := nat_eq_ok.1 hcount
    obtain ⟨row, ⟨rfl, hrow⟩, rfl, rfl⟩ := (reads_header.list count _ _ _).1 hentries
    refine ⟨row, ⟨hlt, hrow⟩, ?_, (List.append_assoc _ _ _).symm⟩
    rw [Form.value_row_header]
  · rintro ⟨row, ⟨hlt, hrow⟩, rfl, rfl⟩
    have hentries := (reads_header.list row.length).ok ⟨rfl, hrow⟩ rest
    simp only [headers, Form.counted, Bytes.counted, List.append_assoc]
    rw [bind_of_ok (nat_encode hlt _)]
    refine (bind_of_ok hentries).trans ?_
    rw [Form.value_row_header]
    rfl

/-- A map is passed over exactly where one is read, and as many bytes are taken. -/
theorem skipHeaders_eq_ok {bytes rest : Bytes} :
    skipHeaders bytes = .ok () rest ↔ ∃ read, headers bytes = .ok read rest := by
  constructor
  · intro h
    obtain ⟨count, middle, hcount, h⟩ := bind_eq_ok.1 h
    obtain ⟨entries, _, hentries, h⟩ := bind_eq_ok.1 h
    cases h
    exact ⟨_, bind_eq_ok.2 ⟨count, middle, hcount, bind_eq_ok.2 ⟨entries, _, hentries, rfl⟩⟩⟩
  · rintro ⟨read, h⟩
    obtain ⟨count, middle, hcount, h⟩ := bind_eq_ok.1 h
    obtain ⟨entries, _, hentries, h⟩ := bind_eq_ok.1 h
    cases h
    exact bind_eq_ok.2 ⟨count, middle, hcount, bind_eq_ok.2 ⟨entries, _, hentries, rfl⟩⟩

/-- The entries behind their count are passed over. -/
lemma skipHeaders_eq_ok_iff {bytes rest : Bytes} {u : Unit} :
    skipHeaders bytes = .ok u rest
      ↔ ∃ entries, Form.header.counted.Fits entries
        ∧ bytes = Form.header.counted.bytes entries ++ rest := by
  rw [skipHeaders_eq_ok]
  constructor
  · rintro ⟨map, hmap⟩
    obtain ⟨entries, hfits, -, hbytes⟩ := headers_eq_ok.1 hmap
    exact ⟨entries, hfits, hbytes⟩
  · rintro ⟨entries, hfits, hbytes⟩
    exact ⟨Headers.ofList entries, headers_eq_ok.2 ⟨entries, hfits, rfl, hbytes⟩⟩

lemma skipHeaders_counted {entries : List (UInt16 × Bytes)}
    (h : Form.header.counted.Fits entries) (rest : Bytes) :
    skipHeaders (Form.header.counted.bytes entries ++ rest) = .ok () rest :=
  skipHeaders_eq_ok_iff.2 ⟨entries, h, rfl⟩

/-- **A map whose count can be told** is read back, whatever comes behind it. -/
theorem headers_written {map : Headers} (hsize : map.size < BigEndian.size 2)
    (hvalues : map.Writable) (rest : Bytes) : headers (map.written ++ rest) = .ok map rest := by
  have hentries (rest : Bytes) : list header map.size _ = .ok map.entries rest :=
    list_flatMap map.entries (fun entry hentry => header_written (hvalues entry hentry)) rest
  simp only [headers, Headers.written]
  rw [List.append_assoc, bind_of_ok (nat_encode hsize _), bind_of_ok (hentries rest)]
  exact congrArg (EStateM.Result.ok · rest) map.ofList_entries

/-- A map of all keys is announced as one without any. -/
lemma headers_written_of_full {map : Headers} (hsize : map.size = BigEndian.size 2) (rest : Bytes) :
    headers (map.written ++ rest) = .ok .empty ((map.written ++ rest).drop 2) := by
  have hcount : BigEndian.encode 2 map.size = BigEndian.encode 2 0 := by
    rw [hsize]
    rfl
  simp only [headers, Headers.written, hcount]
  rw [List.append_assoc, bind_of_ok (nat_encode (BigEndian.size_pos 2) _)]
  rfl

end Reader

namespace Headers

/-- **A header map is read back** exactly when it does not set every key.  What is written for it,
in front of any other bytes, is taken off the front by both readers: one gives the map and the other
passes over it.  The two always take the same bytes. -/
theorem read_written_iff {headers : Headers} (hvalues : headers.Writable) (t : Bytes) :
    (Reader.headers ((Writer.empty.headers headers).raw t).bytes = .ok headers t
        ∧ Reader.skipHeaders ((Writer.empty.headers headers).raw t).bytes = .ok () t
      ↔ headers.size < BigEndian.size 2)
    ∧ ∀ bytes rest, Reader.skipHeaders bytes = .ok () rest
      ↔ ∃ read, Reader.headers bytes = .ok read rest := by
  refine ⟨?_, fun _ _ => Reader.skipHeaders_eq_ok⟩
  rw [Writer.bytes_raw, bytes_headers]
  constructor
  · rintro ⟨hread, -⟩
    refine lt_of_le_of_ne headers.size_le fun hfull => ?_
    rw [Reader.headers_written_of_full hfull] at hread
    cases hread
    cases hfull
  · intro hsize
    have hread := Reader.headers_written hsize hvalues t
    exact ⟨hread, Reader.skipHeaders_eq_ok.2 ⟨headers, hread⟩⟩

/-- Two keys, the first without bytes. -/
def two : Headers := ofList [(0xFF01, [0x31, 0x30, 0x30]), (0x0002, [])]

/-- Two keys are read back in front of other bytes, and there are fewer than all. -/
theorem read_written_iff_two :
    two.Writable
      ∧ Reader.headers ((Writer.empty.headers two).raw [0x62, 0x6D]).bytes = .ok two [0x62, 0x6D]
      ∧ two.size < BigEndian.size 2 := by
  have hvalues : two.Writable := by
    unfold Writable
    decide
  have hread : Reader.headers ((Writer.empty.headers two).raw [0x62, 0x6D]).bytes
      = .ok two [0x62, 0x6D] := rfl
  have hskip : Reader.skipHeaders ((Writer.empty.headers two).raw [0x62, 0x6D]).bytes
      = .ok () [0x62, 0x6D] := rfl
  exact ⟨hvalues, hread, (read_written_iff hvalues [0x62, 0x6D]).1.1 ⟨hread, hskip⟩⟩

/-- All keys, in order and without bytes. -/
def fullEntries : List (UInt16 × Bytes) :=
  (List.range (BigEndian.size 2)).map fun n => (UInt16.ofNat n, [])

lemma sorted_fullEntries : fullEntries.Pairwise fun a b => a.1 < b.1 := by
  refine List.pairwise_map.2 (List.pairwise_lt_range.imp_of_mem fun ha hb hlt => ?_)
  rw [UInt16.lt_iff_toNat_lt, UInt16.toNat_ofNat_of_lt' (List.mem_range.1 ha),
    UInt16.toNat_ofNat_of_lt' (List.mem_range.1 hb)]
  exact hlt

/-- The map that sets every key. -/
def full : Headers := ⟨fullEntries, sorted_fullEntries⟩

lemma size_full : full.size = BigEndian.size 2 := by
  simp [full, size, fullEntries]

lemma writable_full : full.Writable := by
  simp only [Writable, full, fullEntries, List.forall_mem_map]
  exact fun _ _ => BigEndian.size_pos 4

/-- The map that sets every key is not read back: it is taken for an empty one. -/
theorem not_read_written_full :
    full.Writable ∧ full ≠ empty
      ∧ Reader.headers ((Writer.empty.headers full).raw []).bytes
        = .ok empty ((Writer.empty.headers full).raw [] |>.bytes.drop 2)
      ∧ Reader.headers ((Writer.empty.headers full).raw []).bytes ≠ .ok full [] := by
  have hne : full ≠ empty := by
    intro heq
    have hsize := size_full
    rw [heq] at hsize
    exact absurd hsize (by decide)
  have hread : Reader.headers ((Writer.empty.headers full).raw []).bytes
      = .ok empty ((Writer.empty.headers full).raw [] |>.bytes.drop 2) := by
    rw [Writer.bytes_raw, bytes_headers]
    exact Reader.headers_written_of_full size_full []
  refine ⟨writable_full, hne, hread, fun h => hne ?_⟩
  exact ((EStateM.Result.ok.inj (hread.symm.trans h)).1).symm

end Headers

end QueryWire
