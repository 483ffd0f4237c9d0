import QueryWire.Proofs.Codec.Holding
import QueryWire.Proofs.Codec.Numeric
import QueryWire.Proofs.Text.Utf8

/-!
# Scalars are read back

* `Timestamp.ofMicros?_micros` — an instant is found again by its microseconds.
* `Scalar.exists_read_toBytes` — a value of each type is read back.
* **`readInto_encodeScalar`** — an argument, in any destination that its type fits into.
-/

namespace QueryWire

/-! ## Times -/

lemma Timestamp.ofMicros?_micros (t : Timestamp) (h : t.nano < 1000000000) :
    Timestamp.ofMicros? t.micros = some t.truncated := by
  have hsecond : t.micros / 1000000 = t.second := by
    simp only [micros]
    omega
  have hnano : (t.micros % 1000000).toNat * 1000 = t.nano / 1000 * 1000 := by
    simp only [micros]
    omega
  have hlt : t.nano / 1000 * 1000 < 2000000000 := t.truncated.nano_lt
  simp only [ofMicros?, ofParts?]
  rw [hsecond, hnano, dif_pos t.inCalendar, dif_pos hlt]
  rfl

/-- The calendar has room for no more microseconds than 64 bits have. -/
lemma Timestamp.toInt_micros (t : Timestamp) :
    (Int64.ofInt (t.micros - Calendar.epochMicros)).toInt = t.micros - Calendar.epochMicros := by
  obtain ⟨second, nano, ⟨hlow, hhigh⟩, hnano⟩ := t
  simp only [Calendar.firstDay_eq, Calendar.lastDay_eq, Calendar.secondsPerDay,
    Calendar.unixDay] at hlow hhigh
  simp only [micros, Calendar.epochMicros]
  apply Int64.toInt_ofInt_of_le <;> omega

lemma Date.toInt_day (d : Date) :
    (Int32.ofInt (d.day - Calendar.epochDay)).toInt = d.day - Calendar.epochDay := by
  obtain ⟨day, hlow, hhigh⟩ := d
  simp only [Calendar.firstDay_eq, Calendar.lastDay_eq] at hlow hhigh
  simp only [Calendar.epochDay]
  apply Int32.toInt_ofInt_of_le <;> omega

lemma TimeOfDay.toInt_micros (t : TimeOfDay) (h : t.nano < 1000000000) :
    (Int64.ofNat (t.second * 1000000 + t.nano % 1000000000 / 1000)).toInt
      = (t.second * 1000000 + t.nano / 1000 : Nat) := by
  have hsecond := t.second_lt
  simp only [Calendar.secondsPerDay] at hsecond
  rw [Nat.mod_eq_of_lt h]
  apply Int64.toInt_ofNat_of_lt
  omega

lemma TimeOfDay.ofParts?_micros (t : TimeOfDay) (h : t.nano < 1000000000) :
    TimeOfDay.ofParts? ((t.second * 1000000 + t.nano / 1000) / 1000000)
      ((t.second * 1000000 + t.nano / 1000) % 1000000 * 1000) = some t.truncated := by
  have hsecond : (t.second * 1000000 + t.nano / 1000) / 1000000 = t.second := by omega
  have hnano : (t.second * 1000000 + t.nano / 1000) % 1000000 * 1000 = t.nano / 1000 * 1000 := by
    omega
  have hlt : t.nano / 1000 * 1000 < 2000000000 := t.truncated.nano_lt
  simp only [ofParts?]
  rw [hsecond, hnano, dif_pos ⟨t.second_lt, hlt⟩]
  rfl

namespace Scalar

variable (path : Path)

/-! ## One type at a time -/

lemma readText_encode (kind : ScalarKind) (text : String) :
    readText path kind (Utf8.encode text) = .ok text (Utf8.encode text) := by
  simp only [readText]
  rw [Reader.bind_of_ok Reader.rest_apply, Utf8.text?_encode]
  rfl

lemma readTimestamp_bytes (kind : ScalarKind) (t : Timestamp) (h : t.nano < 1000000000)
    (rest : Bytes) :
    readTimestamp path kind (timestampBytes t ++ rest) = .ok t.truncated rest := by
  simp only [readTimestamp, timestampBytes, int64Bytes]
  rw [Reader.bind_of_ok (Reader.i64_encode _ rest), t.toInt_micros, Int.sub_add_cancel, t.ofMicros?_micros h]
  rfl

lemma readDate_bytes (d : Date) (rest : Bytes) :
    readDate path (int32Bytes (Int32.ofInt (d.day - Calendar.epochDay)) ++ rest)
      = .ok d rest := by
  simp only [readDate, int32Bytes]
  rw [Reader.bind_of_ok (Reader.i32_encode _ rest), d.toInt_day, Int.sub_add_cancel, Date.ofDay?, dif_pos d.inCalendar]
  rfl

lemma readTimeOfDay_bytes (t : TimeOfDay) (h : t.nano < 1000000000) (rest : Bytes) :
    readTimeOfDay path (int64Bytes (Int64.ofNat
        (t.second * 1000000 + t.nano % 1000000000 / 1000)) ++ rest)
      = .ok t.truncated rest := by
  simp only [readTimeOfDay, int64Bytes]
  rw [Reader.bind_of_ok (Reader.i64_encode _ rest), t.toInt_micros h,
    if_pos (Int.natCast_nonneg _), Int.toNat_natCast, t.ofParts?_micros h]
  rfl

lemma readSpan_bytes (d : RelativeDuration) (rest : Bytes) :
    read path .relativeDuration
        (int64Bytes d.micros ++ int32Bytes d.days ++ int32Bytes d.months ++ rest)
      = .ok (.relativeDuration d) rest := by
  simp only [read, int64Bytes, int32Bytes]
  simp only [List.append_assoc]
  rw [Reader.bind_of_ok (Reader.i64_encode _ _), Reader.bind_of_ok (Reader.i32_encode _ _),
    Reader.bind_of_ok (Reader.i32_encode _ _)]
  rfl

lemma readDuration_bytes (d : Duration) (rest : Bytes) :
    readDuration path (int64Bytes d.micros ++ int32Bytes 0 ++ int32Bytes 0 ++ rest)
      = .ok d rest := by
  simp only [readDuration, int64Bytes, int32Bytes]
  simp only [List.append_assoc]
  rw [Reader.bind_of_ok (Reader.i64_encode _ _), Reader.bind_of_ok (Reader.i32_encode _ _),
    Reader.bind_of_ok (Reader.i32_encode _ _)]
  rfl

lemma readBool_byte (b : Bool) (rest : Bytes) :
    readBool path ((if b then 1 else 0) :: rest) = .ok b rest := by
  simp only [readBool]
  rw [Reader.bind_of_ok (Reader.u8_cons _ rest)]
  cases b <;> rfl

lemma readJsonFormat_cons (rest : Bytes) :
    readJsonFormat path (jsonFormat :: rest) = .ok () rest := by
  simp only [readJsonFormat]
  rw [Reader.bind_of_ok (Reader.u8_cons _ rest)]
  rfl

lemma readJson_render (j : Json) (h : j.IsReadBack) :
    readJson path (jsonFormat :: Utf8.encode j.render) = .ok j (Utf8.encode j.render) := by
  simp only [readJson]
  rw [Reader.bind_of_ok (readJsonFormat_cons path _), Reader.bind_of_ok Reader.rest_apply, h]
  rfl

lemma readJsonText_encode (text : String) :
    readJsonText path (jsonFormat :: Utf8.encode text)
      = .ok (.str text) (Utf8.encode text) := by
  simp only [readJsonText]
  rw [Reader.bind_of_ok (readJsonFormat_cons path _),
    Reader.bind_of_ok (readText_encode path .json text)]
  rfl

/-! ## All types -/

/-- A value of any type is read back as far as a destination of its own type holds it. -/
lemma exists_read_toBytes {value : Scalar} {bytes : Bytes} (h : value.toBytes? = some bytes)
    (hadmits : value.kind.Admits value) :
    ∃ rest, read path value.kind bytes = .ok (value.kind.holding value) rest := by
  rw [← List.append_nil bytes]
  cases value with
  | uuid id =>
    cases h
    exact ⟨_, Reader.bind_of_ok (Reader.uuid_toBytes id [])⟩
  | str text =>
    cases h
    rw [List.append_nil]
    exact ⟨_, Reader.bind_of_ok (readText_encode path .str text)⟩
  | bytes payload =>
    cases h
    rw [List.append_nil]
    exact ⟨_, Reader.bind_of_ok Reader.rest_apply⟩
  | int16 n =>
    cases h
    exact ⟨_, Reader.bind_of_ok (Reader.i16_encode n [])⟩
  | int32 n =>
    cases h
    exact ⟨_, Reader.bind_of_ok (Reader.i32_encode n [])⟩
  | int64 n =>
    cases h
    exact ⟨_, Reader.bind_of_ok (Reader.i64_encode n [])⟩
  | float32 bits =>
    cases h
    exact ⟨_, Reader.bind_of_ok (Reader.u32_encode bits [])⟩
  | float64 bits =>
    cases h
    exact ⟨_, Reader.bind_of_ok (Reader.u64_encode bits [])⟩
  | decimal d =>
    obtain ⟨n, hn, rfl⟩ := Option.map_eq_some_iff.1 h
    exact ⟨_, Reader.bind_of_ok (Numeric.readDecimal_toBytes _ hn [])⟩
  | bool b =>
    cases h
    exact ⟨_, Reader.bind_of_ok (readBool_byte path b [])⟩
  | datetime t =>
    cases h
    exact ⟨_, Reader.bind_of_ok (readTimestamp_bytes path .datetime t hadmits [])⟩
  | localDatetime t =>
    cases h
    exact ⟨_, Reader.bind_of_ok (readTimestamp_bytes path .localDatetime t hadmits [])⟩
  | localDate d =>
    cases h
    exact ⟨_, Reader.bind_of_ok (readDate_bytes path d [])⟩
  | localTime t =>
    cases h
    exact ⟨_, Reader.bind_of_ok (readTimeOfDay_bytes path t hadmits [])⟩
  | duration d =>
    cases h
    exact ⟨_, Reader.bind_of_ok (readDuration_bytes path d [])⟩
  | json j =>
    cases h
    rw [List.append_nil]
    exact ⟨_, Reader.bind_of_ok (readJson_render path j hadmits)⟩
  | bigint n =>
    obtain ⟨m, hm, rfl⟩ := Option.map_eq_some_iff.1 h
    exact ⟨_, Reader.bind_of_ok (Numeric.readInteger_toBytes _ hm [])⟩
  | relativeDuration d =>
    cases h
    exact ⟨_, readSpan_bytes path d []⟩

end Scalar

/-- The values that a scalar type is given, and what is written for them. -/
lemma encodeScalar_eq_ok {kind : ScalarKind} {path : Path} {argument : Argument} {bytes : Bytes}
    (h : encodeScalar kind path argument = .ok bytes) :
    (∃ value, argument = .scalar value ∧ value.kind = kind ∧ value.toBytes? = some bytes)
      ∨ ∃ text, argument = .scalar (.str text) ∧ kind = .json
        ∧ bytes = jsonFormat :: Utf8.encode text := by
  simp only [encodeScalar] at h
  split at h
  · rename_i value
    split at h
    · rename_i hkind
      split at h
      · rename_i hbytes
        cases h
        exact .inl ⟨value, rfl, hkind, hbytes⟩
      · cases h
    · split at h
      · rename_i text _
        cases h
        exact .inr ⟨text, rfl, rfl, rfl⟩
      · cases h
  · cases h

/-- **Scalars.**  What was written for an argument is read back into each destination that the
type fits into and that admits the argument. -/
theorem readInto_encodeScalar {kind destination : ScalarKind} {path : Path}
    {argument : Argument} {bytes : Bytes} (h : encodeScalar kind path argument = .ok bytes)
    (hfits : kind.fitsInto destination = true) (hadmits : (Shape.scalar destination).Admits argument)
    (path' : Path) :
    ∃ value rest, argument = .scalar value
      ∧ readInto path' kind destination bytes = .ok (destination.holding value) rest := by
  simp only [readInto]
  rcases encodeScalar_eq_ok h with ⟨value, rfl, rfl, hbytes⟩ | ⟨text, rfl, rfl, rfl⟩
  · by_cases hsame : value.kind = destination
    · subst hsame
      obtain ⟨rest, hread⟩ := Scalar.exists_read_toBytes path' hbytes hadmits
      rw [if_pos rfl]
      exact ⟨value, rest, rfl, hread⟩
    · -- Only a JSON document fits into a destination of another type, which is a text.
      have htext : value.kind = .json ∧ destination = .str := by
        simpa [ScalarKind.fitsInto, hsame] using hfits
      obtain ⟨hjson, rfl⟩ := htext
      rw [if_neg hsame, if_pos ⟨hjson, rfl⟩]
      cases value with
      | json j =>
        cases hbytes
        exact ⟨_, _, rfl, Scalar.readJsonText_encode path' j.render⟩
      | _ => cases hjson
  · simp only [ScalarKind.fitsInto, Bool.or_eq_true, Bool.and_eq_true, beq_iff_eq, true_and]
      at hfits
    rcases hfits with rfl | rfl
    · exact hadmits.elim
    · exact ⟨_, _, rfl, Scalar.readJsonText_encode path' text⟩

end QueryWire
