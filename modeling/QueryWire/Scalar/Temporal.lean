/-!
# Dates, times and spans

Points in time are counts: a date counts days, a timestamp seconds and nanoseconds.  The calendar
is the proleptic Gregorian one, from the year -262143 to the year 262142; civil dates appear only
where people read or write them.

* `Calendar.dayOfCivil`, `Calendar.civilOfDay` — between year, month and day and the count of days.
* `Date`, `TimeOfDay`, `Timestamp` — with their bounds.
* `Duration`, `RelativeDuration` — spans.
-/

namespace QueryWire

namespace Calendar

/-- The count of the day of a civil date; day 1 is the first day of the year 1. -/
def dayOfCivil (year : Int) (month day : Nat) : Int :=
  let y := if month ≤ 2 then year - 1 else year
  let era := y / 400
  let yearOfEra := y % 400
  let shifted : Nat := if 2 < month then month - 3 else month + 9
  let dayOfYear : Int := ((153 * shifted + 2) / 5 + day : Nat) - 1
  era * 146097 + (yearOfEra * 365 + yearOfEra / 4 - yearOfEra / 100 + dayOfYear) - 305

/-- The civil date of a count of days. -/
def civilOfDay (count : Int) : Int × Nat × Nat :=
  let z := count + 305
  let era := z / 146097
  let dayOfEra := (z % 146097).toNat
  let yearOfEra := (dayOfEra - dayOfEra / 1460 + dayOfEra / 36524 - dayOfEra / 146096) / 365
  let dayOfYear := dayOfEra - (365 * yearOfEra + yearOfEra / 4 - yearOfEra / 100)
  let shifted := (5 * dayOfYear + 2) / 153
  let day := dayOfYear - (153 * shifted + 2) / 5 + 1
  let month := if shifted < 10 then shifted + 3 else shifted - 9
  let year := era * 400 + yearOfEra
  (if month ≤ 2 then year + 1 else year, month, day)

/-- The first day of the calendar: 1 January of the year -262143. -/
def firstDay : Int := dayOfCivil (-262143) 1 1

/-- The last day of the calendar: 31 December of the year 262142. -/
def lastDay : Int := dayOfCivil 262142 12 31

/-- The count of 1 January 1970. -/
def unixDay : Int := 719163

/-- The count of 1 January 2000, from which the server counts. -/
def epochDay : Int := 730120

/-- The seconds of a day. -/
def secondsPerDay : Nat := 86400

/-- The microseconds of a day. -/
def microsPerDay : Nat := 86400000000

/-- The microseconds from 1970 to 2000. -/
def epochMicros : Int := 946684800000000

theorem firstDay_eq : firstDay = -95746129 := by decide

theorem lastDay_eq : lastDay = 95745399 := by decide
theorem unixDay_eq : unixDay = dayOfCivil 1970 1 1 := by decide

theorem epochDay_eq : epochDay = dayOfCivil 2000 1 1 := by decide

theorem epochMicros_eq : epochMicros = (epochDay - unixDay) * microsPerDay := by decide

end Calendar

/-! ## Points in time -/

/-- A day of the calendar. -/
structure Date where
  day : Int
  inCalendar : Calendar.firstDay ≤ day ∧ day ≤ Calendar.lastDay := by decide
deriving DecidableEq, Repr

namespace Date

/-- 1 January 1970. -/
def epoch : Date := ⟨Calendar.unixDay, by decide⟩

instance : Inhabited Date := ⟨epoch⟩

/-- The day of a count, when the calendar has it. -/
def ofDay? (day : Int) : Option Date :=
  if h : Calendar.firstDay ≤ day ∧ day ≤ Calendar.lastDay then some ⟨day, h⟩ else none

/-- The day of a civil date, when the calendar has it. -/
def ofCivil? (year : Int) (month day : Nat) : Option Date :=
  ofDay? (Calendar.dayOfCivil year month day)

/-- Year, month and day. -/
def civil (date : Date) : Int × Nat × Nat := Calendar.civilOfDay date.day

end Date

/-- A time of day.  Nanoseconds from `10 ^ 9` on belong to a leap second. -/
structure TimeOfDay where
  second : Nat
  nano : Nat
  second_lt : second < Calendar.secondsPerDay := by decide
  nano_lt : nano < 2000000000 := by decide
deriving DecidableEq, Repr

namespace TimeOfDay

/-- The first instant of a day. -/
def midnight : TimeOfDay := ⟨0, 0, by decide, by decide⟩

instance : Inhabited TimeOfDay := ⟨midnight⟩

/-- The time of a count of seconds and nanoseconds, when a day has it. -/
def ofParts? (second nano : Nat) : Option TimeOfDay :=
  if h : second < Calendar.secondsPerDay ∧ nano < 2000000000 then some ⟨second, nano, h.1, h.2⟩
  else none

end TimeOfDay

/-- An instant: seconds since 1970 and nanoseconds.  Nanoseconds from `10 ^ 9` on belong to a leap
second. -/
structure Timestamp where
  second : Int
  nano : Nat
  inCalendar : Calendar.firstDay ≤ second / Calendar.secondsPerDay + Calendar.unixDay
    ∧ second / Calendar.secondsPerDay + Calendar.unixDay ≤ Calendar.lastDay := by decide
  nano_lt : nano < 2000000000 := by decide
deriving DecidableEq, Repr

namespace Timestamp

/-- The first instant of 1970. -/
def epoch : Timestamp := ⟨0, 0, by decide, by decide⟩

instance : Inhabited Timestamp := ⟨epoch⟩

/-- The instant of a count of seconds and nanoseconds, when the calendar has it. -/
def ofParts? (second : Int) (nano : Nat) : Option Timestamp :=
  if h : Calendar.firstDay ≤ second / Calendar.secondsPerDay + Calendar.unixDay
      ∧ second / Calendar.secondsPerDay + Calendar.unixDay ≤ Calendar.lastDay then
    if h' : nano < 2000000000 then some ⟨second, nano, h, h'⟩ else none
  else none

/-- The instant of a count of microseconds since 1970, when the calendar has it. -/
def ofMicros? (micros : Int) : Option Timestamp :=
  ofParts? (micros / 1000000) ((micros % 1000000).toNat * 1000)

/-- Microseconds since 1970, rounded down; a leap second counts into the next one. -/
def micros (t : Timestamp) : Int := t.second * 1000000 + (t.nano / 1000 : Nat)

/-- The day of an instant. -/
def date (t : Timestamp) : Date := ⟨t.second / Calendar.secondsPerDay + Calendar.unixDay, t.inCalendar⟩

/-- The seconds of the day of an instant. -/
def secondOfDay (t : Timestamp) : Nat := (t.second % Calendar.secondsPerDay).toNat

/-- The instant of a time on a day. -/
def ofDate? (date : Date) (second nano : Nat) : Option Timestamp :=
  ofParts? ((date.day - Calendar.unixDay) * Calendar.secondsPerDay + second) nano

end Timestamp

/-! ## Spans -/

/-- An exact span in microseconds. -/
structure Duration where
  micros : Int64
deriving DecidableEq, Repr, Inhabited

/-- The span of a count of seconds, when its microseconds fit in 64 bits. -/
def Duration.ofSeconds? (seconds : Int64) : Option Duration :=
  let micros := seconds.toInt * 1000000
  if Int64.minValue.toInt ≤ micros ∧ micros ≤ Int64.maxValue.toInt then some ⟨Int64.ofInt micros⟩ else none

/-- A span of months, days and microseconds, each counted on its own. -/
structure RelativeDuration where
  micros : Int64
  days : Int32
  months : Int32
deriving DecidableEq, Repr, Inhabited

end QueryWire
