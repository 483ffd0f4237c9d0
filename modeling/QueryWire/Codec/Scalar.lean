import QueryWire.Argument
import QueryWire.Codec.Numeric
import QueryWire.Json.Parser
import QueryWire.Json.Printer

/-!
# Scalars on the wire

The payload of each built-in scalar type, in both directions.  The length around a payload belongs
to whoever holds the value.

* `Scalar.read` — a payload of a given type.
* `Scalar.toBytes?` — the payload of a value; none for a number that is too large for its form.
* `encodeScalar` — the payload of an argument for a given type.
* `decodeScalar` — a payload into a destination.
-/

namespace QueryWire

/-- The byte in front of the text of a JSON payload. -/
def jsonFormat : UInt8 := 1

/-- The error of a malformed payload. -/
def badScalar (path : Path) (kind : ScalarKind) (what : BadScalar) : Error :=
  .codecMismatch path (.badScalar kind what)

namespace Scalar

/-- The rest of a payload as text. -/
def readText (path : Path) (kind : ScalarKind) : Reader String := do
  match Utf8.text? (← Reader.rest) with
  | some text => pure text
  | none => throw (badScalar path kind .notUtf8)

/-- The format byte of a JSON payload. -/
def readJsonFormat (path : Path) : Reader Unit := do
  let format ← Reader.u8
  if format != jsonFormat then throw (badScalar path .json (.jsonFormat format))

/-- An instant, as microseconds since the year 2000. -/
def readTimestamp (path : Path) (kind : ScalarKind) : Reader Timestamp := do
  let micros ← Reader.i64
  match Timestamp.ofMicros? (micros.toInt + Calendar.epochMicros) with
  | some t => pure t
  | none => throw (badScalar path kind .timestampRange)

/-- A day, counted from the year 2000. -/
def readDate (path : Path) : Reader Date := do
  let days ← Reader.i32
  match Date.ofDay? (days.toInt + Calendar.epochDay) with
  | some d => pure d
  | none => throw (badScalar path .localDate .dateRange)

/-- A time of day, in microseconds. -/
def readTimeOfDay (path : Path) : Reader TimeOfDay := do
  let micros := (← Reader.i64).toInt
  match (if 0 ≤ micros then
      TimeOfDay.ofParts? (micros.toNat / 1000000) (micros.toNat % 1000000 * 1000) else none) with
  | some t => pure t
  | none => throw (badScalar path .localTime (.timeOfDay micros))

/-- An exact span; its days and months are zero. -/
def readDuration (path : Path) : Reader Duration := do
  let micros ← Reader.i64
  let days ← Reader.i32
  let months ← Reader.i32
  if days != 0 || months != 0 then throw (badScalar path .duration .calendarParts)
  pure ⟨micros⟩

/-- A truth value, one byte of 0 or 1. -/
def readBool (path : Path) : Reader Bool := do
  let byte ← Reader.u8
  if byte = 0 then pure false
  else if byte = 1 then pure true
  else throw (badScalar path .bool (.boolByte byte))

/-- A JSON document behind its format byte. -/
def readJson (path : Path) : Reader Json := do
  readJsonFormat path
  match Json.ofBytes? (← Reader.rest) with
  | some j => pure j
  | none => throw (badScalar path .json .notJson)

/-- The text of a JSON document behind its format byte. -/
def readJsonText (path : Path) : Reader Scalar := do
  readJsonFormat path
  return .str (← readText path .json)

/-- A payload of a given type. -/
def read (path : Path) : (kind : ScalarKind) → Reader Scalar
  | .uuid => return .uuid (← Reader.uuid)
  | .str => return .str (← readText path .str)
  | .bytes => return .bytes (← Reader.rest)
  | .int16 => return .int16 (← Reader.i16)
  | .int32 => return .int32 (← Reader.i32)
  | .int64 => return .int64 (← Reader.i64)
  | .float32 => return .float32 (← Reader.u32)
  | .float64 => return .float64 (← Reader.u64)
  | .decimal => return .decimal (← Numeric.readDecimal (badScalar path .decimal))
  | .bool => return .bool (← readBool path)
  | .datetime => return .datetime (← readTimestamp path .datetime)
  | .localDatetime => return .localDatetime (← readTimestamp path .localDatetime)
  | .localDate => return .localDate (← readDate path)
  | .localTime => return .localTime (← readTimeOfDay path)
  | .duration => return .duration (← readDuration path)
  | .json => return .json (← readJson path)
  | .bigint => return .bigint (← Numeric.readInteger (badScalar path .bigint))
  | .relativeDuration => do
    let micros ← Reader.i64
    let days ← Reader.i32
    let months ← Reader.i32
    pure (.relativeDuration ⟨micros, days, months⟩)

/-- A 64-bit number. -/
def int64Bytes (n : Int64) : Bytes := BigEndian.encode 8 n.toUInt64.toNat

/-- A 32-bit number. -/
def int32Bytes (n : Int32) : Bytes := BigEndian.encode 4 n.toUInt32.toNat

/-- An instant, as microseconds since the year 2000. -/
def timestampBytes (t : Timestamp) : Bytes :=
  int64Bytes (Int64.ofInt (t.micros - Calendar.epochMicros))

/-- The payload of a value; none for a number that is too large for its form. -/
def toBytes? : Scalar → Option Bytes
  | .uuid id => some id.toBytes
  | .str text => some (Utf8.encode text)
  | .bytes payload => some payload
  | .int16 n => some (BigEndian.encode 2 n.toUInt16.toNat)
  | .int32 n => some (int32Bytes n)
  | .int64 n => some (int64Bytes n)
  | .float32 bits => some (BigEndian.encode 4 bits.toNat)
  | .float64 bits => some (BigEndian.encode 8 bits.toNat)
  | .decimal d =>
    (Numeric.ofMagnitude? d.isNegative d.mantissa.natAbs d.scale).map Numeric.toBytes
  | .bool b => some [if b then 1 else 0]
  | .datetime t => some (timestampBytes t)
  | .localDatetime t => some (timestampBytes t)
  | .localDate d => some (int32Bytes (Int32.ofInt (d.day - Calendar.epochDay)))
  | .localTime t =>
    some (int64Bytes (Int64.ofNat (t.second * 1000000 + t.nano % 1000000000 / 1000)))
  | .duration d => some (int64Bytes d.micros ++ int32Bytes 0 ++ int32Bytes 0)
  | .json j => some (jsonFormat :: Utf8.encode j.render)
  | .bigint n => (Numeric.ofMagnitude? (n < 0) n.natAbs 0).map Numeric.toBytes
  | .relativeDuration d => some (int64Bytes d.micros ++ int32Bytes d.days ++ int32Bytes d.months)

end Scalar

/-- The payload of an argument for a scalar type.  The type must be the argument's own; a JSON
document may also be given as text. -/
def encodeScalar (kind : ScalarKind) (path : Path) (argument : Argument) : Except Error Bytes :=
  match argument with
  | .scalar value =>
    if value.kind = kind then
      match value.toBytes? with
      | some bytes => .ok bytes
      | none => .error (.codecMismatch path .numberTooLarge)
    else
      match kind, value with
      | .json, .str text => .ok (jsonFormat :: Utf8.encode text)
      | _, _ => .error (.codecMismatch path (.wrongArgument kind.name argument.kindName))
  | _ => .error (.codecMismatch path (.wrongArgument kind.name argument.kindName))

/-- Whether values of one scalar type may be decoded into destinations of another. -/
def ScalarKind.fitsInto (wire destination : ScalarKind) : Bool :=
  wire == destination || (wire == .json && destination == .str)

/-- A payload for a destination of a scalar type. -/
def readInto (path : Path) (wire destination : ScalarKind) : Reader Scalar :=
  if wire = destination then Scalar.read path wire
  else if wire = .json ∧ destination = .str then Scalar.readJsonText path
  else throw (.codecMismatch path (.wrongSlot wire.name (.scalar destination)))

end QueryWire
