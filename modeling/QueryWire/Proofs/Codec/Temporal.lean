import Mathlib.Tactic.Common
import QueryWire.Proofs.Codec.Scalar
import QueryWire.Proofs.Wire.Forms

/-!
# Points in time on the wire

Days and instants are counted from the year 2000 on, times of day from midnight, and each count
travels as a signed number of a fixed width.  The calendar has no count that is too large for its
width, and the numbers that are no count of the calendar are refused, so a count never wraps around.

What is finer than a microsecond is cut off.  A leap second is told apart by nanoseconds from
`10 ^ 9` on, which a count cannot tell: in an instant they are carried into the following second, in
a time of day they stay within their second.

* `BigEndian.signed` — the signed number that bytes spell, and `BigEndian.signed_inj`.
* `TimeScale` — how the points in time of a type are counted; one scale for each of the four types.
* `TimeScale.Lawful` — that a scale is the one by which its type is written and read.
* `Timestamp.Rounds`, `TimeOfDay.Rounds` — what is left of a point in time.
* **`TimeScale.Lawful.survives`** — what a lawful scale says about both directions.
* **`TimeScale.survives_wire`** — the four types.
-/

namespace QueryWire

/-! ## Signed numbers -/

namespace BigEndian

/-- The signed number that bytes spell in two's complement. -/
def signed (bytes : Bytes) : ℤ := Int.bmod (decode bytes) (size bytes.length)

/-- A number that so many bytes spell in two's complement. -/
def Fits (width : Nat) (n : ℤ) : Prop := -(size width : ℤ) ≤ 2 * n ∧ 2 * n < size width

lemma fits_four_iff {n : ℤ} : Fits 4 n ↔ -2147483648 ≤ n ∧ n < 2147483648 := by
  have hsize : (size 4 : ℤ) = 4294967296 := rfl
  rw [Fits, hsize]
  omega

lemma fits_eight_iff {n : ℤ} :
    Fits 8 n ↔ -9223372036854775808 ≤ n ∧ n < 9223372036854775808 := by
  have hsize : (size 8 : ℤ) = 18446744073709551616 := rfl
  rw [Fits, hsize]
  omega

/-- Bytes of one length spell different signed numbers. -/
lemma signed_inj {a b : Bytes} (hlength : a.length = b.length) (h : signed a = signed b) :
    a = b := by
  have hmod : (decode a : ℤ) % size a.length = (decode b : ℤ) % size a.length := by
    rw [← Int.bmod_emod, ← Int.bmod_emod (x := (decode b : ℤ))]
    rw [signed, signed, ← hlength] at h
    rw [h]
  have hdecode : decode a = decode b := by
    have ha := decode_lt a
    have hb := decode_lt b
    rw [← hlength] at hb
    rw [Int.emod_eq_of_lt (by omega) (by omega), Int.emod_eq_of_lt (by omega) (by omega)] at hmod
    omega
  rw [← encode_decode a, hlength, hdecode, encode_decode]

end BigEndian

namespace Scalar

lemma length_int64Bytes (n : Int64) : (int64Bytes n).length = 8 := BigEndian.length_encode 8 _

lemma length_int32Bytes (n : Int32) : (int32Bytes n).length = 4 := BigEndian.length_encode 4 _

lemma signed_int64Bytes (n : Int64) : BigEndian.signed (int64Bytes n) = n.toInt := by
  rw [BigEndian.signed, length_int64Bytes, int64Bytes,
    BigEndian.decode_encode_of_lt n.toUInt64.toNat_lt]
  exact (BitVec.toInt_eq_toNat_bmod n.toBitVec).symm

lemma signed_int32Bytes (n : Int32) : BigEndian.signed (int32Bytes n) = n.toInt := by
  rw [BigEndian.signed, length_int32Bytes, int32Bytes,
    BigEndian.decode_encode_of_lt n.toUInt32.toNat_lt]
  exact (BitVec.toInt_eq_toNat_bmod n.toBitVec).symm

/-- Eight bytes are those of a number. -/
lemma exists_int64Bytes {payload : Bytes} (h : payload.length = 8) :
    ∃ n, payload = int64Bytes n := by
  have hread : Reader.raw 8 payload = .ok payload [] := by
    have hraw := Reader.raw_append_of_length h []
    rwa [List.append_nil] at hraw
  have hi64 : ∃ n, Reader.i64 payload = .ok n [] := by
    refine ⟨_, Reader.bind_of_ok (Reader.bind_of_ok (Reader.bind_of_ok hread))⟩
  obtain ⟨n, hn⟩ := hi64
  refine ⟨n, ?_⟩
  have hbytes := Reader.i64_eq_ok.1 hn
  rwa [List.append_nil] at hbytes

/-- Four bytes are those of a number. -/
lemma exists_int32Bytes {payload : Bytes} (h : payload.length = 4) :
    ∃ n, payload = int32Bytes n := by
  have hread : Reader.raw 4 payload = .ok payload [] := by
    have hraw := Reader.raw_append_of_length h []
    rwa [List.append_nil] at hraw
  have hi32 : ∃ n, Reader.i32 payload = .ok n [] := by
    refine ⟨_, Reader.bind_of_ok (Reader.bind_of_ok (Reader.bind_of_ok hread))⟩
  obtain ⟨n, hn⟩ := hi32
  refine ⟨n, ?_⟩
  have hbytes := Reader.i32_eq_ok.1 hn
  rwa [List.append_nil] at hbytes

end Scalar

/-! ## The points in time of a count -/

/-- The microseconds since 1970 at the beginning of a day. -/
def Calendar.microsOfDay (day : ℤ) : ℤ := (day - unixDay) * microsPerDay

/-- An instant is found by its microseconds when it has no part of one, and is no leap second. -/
lemma Timestamp.ofMicros?_eq_some {m : ℤ} {t : Timestamp} :
    ofMicros? m = some t ↔ t.micros = m ∧ t.nano < 1000000000 ∧ t.nano % 1000 = 0 := by
  simp only [ofMicros?, ofParts?, micros]
  constructor
  · intro h
    split at h
    · split at h
      · obtain rfl := Option.some.inj h
        refine ⟨?_, ?_, ?_⟩ <;> dsimp only <;> omega
      · cases h
    · cases h
  · rintro ⟨rfl, hnano, hwhole⟩
    have hsecond : (t.second * 1000000 + (t.nano / 1000 : Nat)) / 1000000 = t.second := by omega
    have hpart : ((t.second * 1000000 + (t.nano / 1000 : Nat)) % 1000000).toNat * 1000 = t.nano := by
      omega
    rw [hsecond, hpart, dif_pos t.inCalendar, dif_pos t.nano_lt]

lemma Timestamp.exists_ofMicros?_iff {m : ℤ} :
    (∃ t, ofMicros? m = some t) ↔ Calendar.microsOfDay Calendar.firstDay ≤ m
      ∧ m < Calendar.microsOfDay (Calendar.lastDay + 1) := by
  have hnano : (m % 1000000).toNat * 1000 < 2000000000 := by omega
  have hrange : (Calendar.firstDay ≤ m / 1000000 / Calendar.secondsPerDay + Calendar.unixDay
        ∧ m / 1000000 / Calendar.secondsPerDay + Calendar.unixDay ≤ Calendar.lastDay)
      ↔ Calendar.microsOfDay Calendar.firstDay ≤ m
        ∧ m < Calendar.microsOfDay (Calendar.lastDay + 1) := by
    simp only [Calendar.microsOfDay, Calendar.firstDay_eq, Calendar.lastDay_eq,
      Calendar.secondsPerDay, Calendar.microsPerDay, Calendar.unixDay]
    omega
  rw [← hrange]
  simp only [ofMicros?, ofParts?]
  constructor
  · rintro ⟨t, h⟩
    split at h
    · assumption
    · cases h
  · intro h
    rw [dif_pos h, dif_pos hnano]
    exact ⟨_, rfl⟩

lemma Date.ofDay?_eq_some {n : ℤ} {d : Date} : ofDay? n = some d ↔ d.day = n := by
  simp only [ofDay?]
  constructor
  · intro h
    split at h
    · obtain rfl := Option.some.inj h
      rfl
    · cases h
  · rintro rfl
    rw [dif_pos d.inCalendar]

lemma Date.exists_ofDay?_iff {n : ℤ} :
    (∃ d, ofDay? n = some d) ↔ Calendar.firstDay ≤ n ∧ n ≤ Calendar.lastDay := by
  constructor
  · rintro ⟨d, h⟩
    rw [← ofDay?_eq_some.1 h]
    exact d.inCalendar
  · intro h
    exact ⟨⟨n, h⟩, ofDay?_eq_some.2 rfl⟩

/-! ## Scales -/

/-- How the points in time of a type are counted on the wire. -/
structure TimeScale (τ : Type) where
  kind : ScalarKind
  /-- How many bytes a count takes. -/
  width : Nat
  value : τ → Scalar
  count : τ → ℤ
  /-- The numbers that come up on the way to the count. -/
  steps : τ → List ℤ
  /-- The point in time that a count is read as. -/
  at? : ℤ → Option τ
  /-- The counts of the calendar, or of a day. -/
  Has : ℤ → Prop
  /-- What is wrong with the other numbers. -/
  fault : ℤ → BadScalar

namespace TimeScale

/-- Instants, in microseconds since the year 2000. -/
def instants (kind : ScalarKind) (value : Timestamp → Scalar) : TimeScale Timestamp where
  kind := kind
  width := 8
  value := value
  count t := t.micros - Calendar.epochMicros
  steps t := [t.second, t.second * 1000000, t.micros]
  at? n := Timestamp.ofMicros? (n + Calendar.epochMicros)
  Has n := Calendar.microsOfDay Calendar.firstDay ≤ n + Calendar.epochMicros
    ∧ n + Calendar.epochMicros < Calendar.microsOfDay (Calendar.lastDay + 1)
  fault _ := .timestampRange

/-- Instants with a time zone. -/
def datetime : TimeScale Timestamp := instants .datetime .datetime

/-- Instants without a time zone. -/
def localDatetime : TimeScale Timestamp := instants .localDatetime .localDatetime

/-- Days, counted from the first day of the year 2000. -/
def localDate : TimeScale Date where
  kind := .localDate
  width := 4
  value := .localDate
  count d := d.day - Calendar.epochDay
  steps d := [d.day]
  at? n := Date.ofDay? (n + Calendar.epochDay)
  Has n := Calendar.firstDay ≤ n + Calendar.epochDay ∧ n + Calendar.epochDay ≤ Calendar.lastDay
  fault _ := .dateRange

/-- Times of day, in microseconds since midnight. -/
def localTime : TimeScale TimeOfDay where
  kind := .localTime
  width := 8
  value := .localTime
  count t := t.second * 1000000 + t.nano % 1000000000 / 1000
  steps t := [t.second, t.second * 1000000]
  at? n := if 0 ≤ n then TimeOfDay.ofParts? (n.toNat / 1000000) (n.toNat % 1000000 * 1000) else none
  Has n := 0 ≤ n ∧ n < Calendar.microsPerDay
  fault n := .timeOfDay n

lemma localTime_at?_eq_some {n : ℤ} {t : TimeOfDay} :
    localTime.at? n = some t
      ↔ localTime.count t = n ∧ t.nano < 1000000000 ∧ t.nano % 1000 = 0 := by
  simp only [localTime, TimeOfDay.ofParts?]
  constructor
  · intro h
    split at h
    · split at h
      · obtain rfl := Option.some.inj h
        refine ⟨?_, ?_, ?_⟩ <;> dsimp only <;> omega
      · cases h
    · cases h
  · rintro ⟨rfl, hnano, hwhole⟩
    have hcount : (t.second * 1000000 + t.nano % 1000000000 / 1000 : ℤ)
        = ((t.second * 1000000 + t.nano / 1000 : Nat) : ℤ) := by omega
    have hsecond : (t.second * 1000000 + t.nano / 1000) / 1000000 = t.second := by omega
    have hpart : (t.second * 1000000 + t.nano / 1000) % 1000000 * 1000 = t.nano := by omega
    rw [hcount, if_pos (Int.natCast_nonneg _), Int.toNat_natCast, hsecond, hpart,
      dif_pos ⟨t.second_lt, t.nano_lt⟩]

lemma exists_localTime_at?_iff {n : ℤ} :
    (∃ t, localTime.at? n = some t) ↔ 0 ≤ n ∧ n < Calendar.microsPerDay := by
  constructor
  · rintro ⟨t, h⟩
    obtain ⟨rfl, -⟩ := localTime_at?_eq_some.1 h
    have hsecond := t.second_lt
    simp only [localTime, Calendar.microsPerDay, Calendar.secondsPerDay] at hsecond ⊢
    omega
  · rintro ⟨hnonneg, hlt⟩
    have hsecond : n.toNat / 1000000 < Calendar.secondsPerDay := by
      simp only [Calendar.microsPerDay, Calendar.secondsPerDay] at hlt ⊢
      omega
    have hnano : n.toNat % 1000000 * 1000 < 2000000000 := by omega
    refine ⟨⟨_, _, hsecond, hnano⟩, ?_⟩
    simp only [localTime, TimeOfDay.ofParts?]
    rw [if_pos hnonneg, dif_pos ⟨hsecond, hnano⟩]

variable {τ : Type} {s : TimeScale τ}

/-- What is read where a number stands. -/
def answer (s : TimeScale τ) (path : Path) (n : ℤ) : Reader Scalar :=
  match s.at? n with
  | some t => pure (s.value t)
  | none => throw (badScalar path s.kind (s.fault n))

/-- A scale by which the values of its type are written and read. -/
structure Lawful (s : TimeScale τ) : Prop where
  kind_value (t : τ) : (s.value t).kind = s.kind
  /-- There is room for all that comes up. -/
  fits (t : τ) : ∀ n ∈ s.steps t, BigEndian.Fits s.width n
  /-- The bytes of a value spell its count. -/
  written (t : τ) : ∃ payload, (s.value t).toBytes? = some payload ∧ payload.length = s.width
    ∧ BigEndian.signed payload = s.count t
  /-- Bytes are read as the count that they spell. -/
  read (path : Path) (payload rest : Bytes) : payload.length = s.width →
    Scalar.read path s.kind (payload ++ rest) = s.answer path (BigEndian.signed payload) rest
  count_at {n : ℤ} {t : τ} : s.at? n = some t → s.count t = n
  exists_at_iff (n : ℤ) : (∃ t, s.at? n = some t) ↔ s.Has n

/-! ## The four types -/

section

variable (path : Path)

lemma read_datetime_int64Bytes (n : Int64) (rest : Bytes) :
    Scalar.read path .datetime (Scalar.int64Bytes n ++ rest) = datetime.answer path n.toInt rest := by
  simp only [Scalar.read, Scalar.readTimestamp, Scalar.int64Bytes, answer, datetime, instants]
  rw [Reader.bind_apply, Reader.bind_of_ok (Reader.i64_encode n rest)]
  cases Timestamp.ofMicros? (n.toInt + Calendar.epochMicros) <;> rfl

lemma read_localDatetime_int64Bytes (n : Int64) (rest : Bytes) :
    Scalar.read path .localDatetime (Scalar.int64Bytes n ++ rest)
      = localDatetime.answer path n.toInt rest := by
  simp only [Scalar.read, Scalar.readTimestamp, Scalar.int64Bytes, answer, localDatetime, instants]
  rw [Reader.bind_apply, Reader.bind_of_ok (Reader.i64_encode n rest)]
  cases Timestamp.ofMicros? (n.toInt + Calendar.epochMicros) <;> rfl

lemma read_localDate_int32Bytes (n : Int32) (rest : Bytes) :
    Scalar.read path .localDate (Scalar.int32Bytes n ++ rest)
      = localDate.answer path n.toInt rest := by
  simp only [Scalar.read, Scalar.readDate, Scalar.int32Bytes, answer, localDate]
  rw [Reader.bind_apply, Reader.bind_of_ok (Reader.i32_encode n rest)]
  cases Date.ofDay? (n.toInt + Calendar.epochDay) <;> rfl

lemma read_localTime_int64Bytes (n : Int64) (rest : Bytes) :
    Scalar.read path .localTime (Scalar.int64Bytes n ++ rest)
      = localTime.answer path n.toInt rest := by
  simp only [Scalar.read, Scalar.readTimeOfDay, Scalar.int64Bytes, answer, localTime]
  rw [Reader.bind_apply, Reader.bind_of_ok (Reader.i64_encode n rest)]
  generalize (if 0 ≤ n.toInt then
    TimeOfDay.ofParts? (n.toInt.toNat / 1000000) (n.toInt.toNat % 1000000 * 1000) else none) = at?
  cases at? <;> rfl

end

lemma lawful_instants {kind : ScalarKind} {value : Timestamp → Scalar}
    (hkind : ∀ t, (value t).kind = kind)
    (hbytes : ∀ t, (value t).toBytes? = some (Scalar.timestampBytes t))
    (hread : ∀ path n rest, Scalar.read path kind (Scalar.int64Bytes n ++ rest)
      = (instants kind value).answer path n.toInt rest) :
    (instants kind value).Lawful where
  kind_value := hkind
  fits t := by
    obtain ⟨second, nano, hcalendar, hnano⟩ := t
    simp only [Calendar.firstDay_eq, Calendar.lastDay_eq, Calendar.secondsPerDay,
      Calendar.unixDay] at hcalendar
    simp only [instants, Timestamp.micros, List.forall_mem_cons, List.not_mem_nil,
      false_implies, implies_true, and_true, BigEndian.fits_eight_iff]
    omega
  written t := by
    refine ⟨_, hbytes t, Scalar.length_int64Bytes _, ?_⟩
    rw [Scalar.timestampBytes, Scalar.signed_int64Bytes]
    exact t.toInt_micros
  read path payload rest hlength := by
    obtain ⟨n, rfl⟩ := Scalar.exists_int64Bytes hlength
    rw [Scalar.signed_int64Bytes]
    exact hread path n rest
  count_at {n t} h := by
    obtain ⟨hmicros, -⟩ := Timestamp.ofMicros?_eq_some.1 h
    simp only [instants]
    omega
  exists_at_iff n := Timestamp.exists_ofMicros?_iff

lemma lawful_datetime : datetime.Lawful :=
  lawful_instants (fun _ => rfl) (fun _ => rfl) read_datetime_int64Bytes

lemma lawful_localDatetime : localDatetime.Lawful :=
  lawful_instants (fun _ => rfl) (fun _ => rfl) read_localDatetime_int64Bytes

lemma lawful_localDate : localDate.Lawful where
  kind_value _ := rfl
  fits d := by
    have hcalendar := d.inCalendar
    simp only [Calendar.firstDay_eq, Calendar.lastDay_eq] at hcalendar
    simp only [localDate, List.forall_mem_singleton, BigEndian.fits_four_iff]
    omega
  written d := by
    refine ⟨_, rfl, Scalar.length_int32Bytes _, ?_⟩
    rw [Scalar.signed_int32Bytes]
    exact d.toInt_day
  read path payload rest hlength := by
    obtain ⟨n, rfl⟩ := Scalar.exists_int32Bytes hlength
    rw [Scalar.signed_int32Bytes]
    exact read_localDate_int32Bytes path n rest
  count_at {n d} h := by
    have hday := Date.ofDay?_eq_some.1 h
    simp only [localDate]
    omega
  exists_at_iff n := Date.exists_ofDay?_iff

lemma lawful_localTime : localTime.Lawful where
  kind_value _ := rfl
  fits t := by
    have hsecond := t.second_lt
    simp only [Calendar.secondsPerDay] at hsecond
    simp only [localTime, List.forall_mem_cons, List.not_mem_nil, false_implies, implies_true,
      and_true, BigEndian.fits_eight_iff]
    omega
  written t := by
    refine ⟨_, rfl, Scalar.length_int64Bytes _, ?_⟩
    have hsecond := t.second_lt
    rw [Calendar.secondsPerDay] at hsecond
    rw [Scalar.signed_int64Bytes, Int64.toInt_ofNat_of_lt (by omega)]
    simp only [localTime]
    push_cast
    rfl
  read path payload rest hlength := by
    obtain ⟨n, rfl⟩ := Scalar.exists_int64Bytes hlength
    rw [Scalar.signed_int64Bytes]
    exact read_localTime_int64Bytes path n rest
  count_at {n t} h := (localTime_at?_eq_some.1 h).1
  exists_at_iff n := exists_localTime_at?_iff

end TimeScale

/-! ## What is left of a point in time -/

/-- The year of a day. -/
def Date.year (d : Date) : ℤ := d.civil.1

/-- An instant rounded down to the microsecond; a leap second is carried into the following second. -/
structure Timestamp.Rounds (t t' : Timestamp) : Prop where
  second_eq : t'.second = if t.nano < 1000000000 then t.second else t.second + 1
  nano_eq : t'.nano = t.nano % 1000000000 / 1000 * 1000

/-- A time of day rounded down to the microsecond; a leap second stays within its second. -/
structure TimeOfDay.Rounds (t t' : TimeOfDay) : Prop where
  second_eq : t'.second = t.second
  nano_eq : t'.nano = t.nano % 1000000000 / 1000 * 1000

/-- Only behind the last day of the calendar there is no following second. -/
lemma Timestamp.day_lt_lastDay {t : Timestamp} (h : t.date.year ≤ 262000) :
    t.date.day < Calendar.lastDay := by
  refine lt_of_le_of_ne t.date.inCalendar.2 fun hlast => ?_
  have hyear : (Calendar.civilOfDay Calendar.lastDay).1 = 262142 := by decide
  rw [Date.year, Date.civil, hlast, hyear] at h
  omega

lemma Timestamp.exists_rounds {t : Timestamp} (h : t.date.year ≤ 262000) :
    ∃ t', t.Rounds t' ∧ ofMicros? t.micros = some t' := by
  have hday := t.day_lt_lastDay h
  have hrange : ∃ t', ofMicros? t.micros = some t' := by
    have hcalendar := t.inCalendar
    have hnano := t.nano_lt
    rw [exists_ofMicros?_iff]
    simp only [date, Calendar.microsOfDay, Calendar.firstDay_eq, Calendar.lastDay_eq,
      Calendar.secondsPerDay, Calendar.microsPerDay, Calendar.unixDay, micros]
      at hday hcalendar ⊢
    omega
  obtain ⟨t', hat⟩ := hrange
  obtain ⟨hmicros, hnano, hwhole⟩ := ofMicros?_eq_some.1 hat
  have hlt := t.nano_lt
  simp only [micros] at hmicros
  refine ⟨t', ⟨?_, ?_⟩, hat⟩
  · split <;> omega
  · omega

lemma TimeOfDay.exists_rounds (t : TimeOfDay) :
    ∃ t', t.Rounds t' ∧ TimeScale.localTime.at? (TimeScale.localTime.count t) = some t' := by
  have hnano : t.nano % 1000000000 / 1000 * 1000 < 2000000000 := by omega
  refine ⟨⟨t.second, _, t.second_lt, hnano⟩, ⟨rfl, rfl⟩, ?_⟩
  rw [TimeScale.localTime_at?_eq_some]
  refine ⟨?_, ?_, ?_⟩
  · simp only [TimeScale.localTime]
    omega
  · dsimp only
    omega
  · dsimp only
    omega

/-! ## Both directions -/

namespace TimeScale

variable {τ : Type}

/-- The points in time of a scale survive the wire: those that are usual are read back as what is
left of them, and numbers that are no count are refused. -/
structure Survives (s : TimeScale τ) (IsUsual : τ → Prop) (Rounds : τ → τ → Prop) : Prop where
  /-- Nothing that comes up in writing a point in time is too large for its width. -/
  fits (t : τ) : ∀ n ∈ s.steps t, BigEndian.Fits s.width n
  /-- Every point in time is written, and the bytes spell its very count. -/
  written (path : Path) (t : τ) :
    ∃ payload, encodeScalar s.kind path (.scalar (s.value t)) = .ok payload
      ∧ payload.length = s.width ∧ BigEndian.signed payload = s.count t
  /-- What was written is read back, whatever comes behind it. -/
  read_back (path path' : Path) (t : τ) (payload rest : Bytes) : IsUsual t →
    encodeScalar s.kind path (.scalar (s.value t)) = .ok payload →
      ∃ t', Rounds t t' ∧ readInto path' s.kind s.kind (payload ++ rest) = .ok (s.value t') rest
  /-- Only what would be written is read. -/
  written_back (path path' : Path) (payload rest : Bytes) (v : Scalar) :
    payload.length = s.width → readInto path s.kind s.kind payload = .ok v rest →
      rest = [] ∧ (∃ t, v = s.value t ∧ s.count t = BigEndian.signed payload)
        ∧ encodeScalar s.kind path' (.scalar v) = .ok payload
  /-- A payload is refused when there is no point in time for its number. -/
  refused_iff (path : Path) (payload : Bytes) : payload.length = s.width →
    ((∃ e rest, readInto path s.kind s.kind payload = .error e rest)
      ↔ ¬ s.Has (BigEndian.signed payload))
  /-- It is then refused as a mismatch at its place. -/
  refused (path : Path) (payload rest : Bytes) (e : Error) : payload.length = s.width →
    readInto path s.kind s.kind payload = .error e rest →
      e = .codecMismatch path (.badScalar s.kind (s.fault (BigEndian.signed payload)))

namespace Lawful

variable {s : TimeScale τ} (h : s.Lawful)

include h

/-- A value is written as the bytes that spell its count. -/
lemma encodeScalar_eq (path : Path) (t : τ) :
    ∃ payload, encodeScalar s.kind path (.scalar (s.value t)) = .ok payload
      ∧ payload.length = s.width ∧ BigEndian.signed payload = s.count t := by
  obtain ⟨payload, hbytes, hlength, hcount⟩ := h.written t
  refine ⟨payload, ?_, hlength, hcount⟩
  simp only [encodeScalar, hbytes]
  rw [if_pos (h.kind_value t)]

lemma readInto_eq (path : Path) {payload : Bytes} (hlength : payload.length = s.width)
    (rest : Bytes) :
    readInto path s.kind s.kind (payload ++ rest)
      = s.answer path (BigEndian.signed payload) rest := by
  rw [readInto, if_pos rfl, h.read path payload rest hlength]

/-- **A lawful scale.**  If something is left of each usual point in time, then the points in time
survive the wire. -/
theorem survives {IsUsual : τ → Prop} {Rounds : τ → τ → Prop}
    (hround : ∀ t, IsUsual t → ∃ t', Rounds t t' ∧ s.at? (s.count t) = some t') :
    s.Survives IsUsual Rounds where
  fits := h.fits
  written := h.encodeScalar_eq
  read_back path path' t payload rest husual hpayload := by
    obtain ⟨payload', hencode, hlength, hcount⟩ := h.encodeScalar_eq path t
    obtain rfl : payload' = payload := Except.ok.inj (hencode.symm.trans hpayload)
    obtain ⟨t', hrounds, hat⟩ := hround t husual
    refine ⟨t', hrounds, ?_⟩
    rw [h.readInto_eq path' hlength rest, hcount, answer, hat]
    rfl
  written_back path path' payload rest v hlength hread := by
    have hanswer := h.readInto_eq path hlength []
    rw [List.append_nil, hread] at hanswer
    cases hat : s.at? (BigEndian.signed payload) with
    | none =>
      rw [answer, hat] at hanswer
      cases hanswer
    | some t =>
      rw [answer, hat] at hanswer
      cases hanswer
      have hcount := h.count_at hat
      obtain ⟨payload', hencode, hlength', hcount'⟩ := h.encodeScalar_eq path' t
      -- the bytes of one count are the only ones of their length
      have hsame : payload' = payload :=
        BigEndian.signed_inj (hlength'.trans hlength.symm) (hcount'.trans hcount)
      exact ⟨rfl, ⟨t, rfl, hcount⟩, hsame ▸ hencode⟩
  refused_iff path payload hlength := by
    have hanswer := h.readInto_eq path hlength []
    rw [List.append_nil] at hanswer
    rw [hanswer, ← h.exists_at_iff, answer]
    cases s.at? (BigEndian.signed payload) with
    | none => exact iff_of_true ⟨_, _, rfl⟩ nofun
    | some t =>
      refine iff_of_false ?_ (fun hnone => hnone ⟨t, rfl⟩)
      rintro ⟨e, rest, hread⟩
      cases hread
  refused path payload rest e hlength hread := by
    have hanswer := h.readInto_eq path hlength []
    rw [List.append_nil, hread, answer] at hanswer
    cases hat : s.at? (BigEndian.signed payload) with
    | none =>
      rw [hat] at hanswer
      cases hanswer
      rfl
    | some t =>
      rw [hat] at hanswer
      cases hanswer

end Lawful

/-- **The temporal types survive the wire.**  Each is written without overflow over the whole
calendar.  A day is read back as it is; an instant of the years from -262000 to 262000 and a time of
day are read back rounded down to the microsecond, a leap second carried into the following second or
kept within its own.  What is read is written back as the same bytes, and what is refused is no count
of the calendar or of a day. -/
theorem survives_wire :
    datetime.Survives (fun t => -262000 ≤ t.date.year ∧ t.date.year ≤ 262000) Timestamp.Rounds
      ∧ localDatetime.Survives (fun t => -262000 ≤ t.date.year ∧ t.date.year ≤ 262000)
        Timestamp.Rounds
      ∧ localDate.Survives (fun _ => True) Eq
      ∧ localTime.Survives (fun _ => True) TimeOfDay.Rounds := by
  have hinstant (t : Timestamp) (h : -262000 ≤ t.date.year ∧ t.date.year ≤ 262000) :
      ∃ t', t.Rounds t' ∧ Timestamp.ofMicros?
        (t.micros - Calendar.epochMicros + Calendar.epochMicros) = some t' := by
    rw [Int.sub_add_cancel]
    exact Timestamp.exists_rounds h.2
  refine ⟨lawful_datetime.survives hinstant, lawful_localDatetime.survives hinstant, ?_, ?_⟩
  · refine lawful_localDate.survives fun d _ => ⟨d, rfl, ?_⟩
    simp only [localDate, Int.sub_add_cancel]
    exact Date.ofDay?_eq_some.2 rfl
  · exact lawful_localTime.survives fun t _ => t.exists_rounds

/-- Half of the leap second in front of the year 2000 is read back as part of its first second. -/
example : readInto .result .datetime .datetime
    (Scalar.timestampBytes ⟨946684799, 1500000999, by decide, by decide⟩)
      = .ok (.datetime ⟨946684800, 500000000, by decide, by decide⟩) [] := rfl

end TimeScale

end QueryWire
