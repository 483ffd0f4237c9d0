import QueryWire.Uuid

/-!
# Kinds of scalars

The built-in scalar types of the server: each has a fixed binary form, a well-known identifier
and a name on either side.
-/

namespace QueryWire

/-- The scalar types with a binary form of their own. -/
inductive ScalarKind where
  | uuid
  | str
  | bytes
  | int16
  | int32
  | int64
  | float32
  | float64
  | decimal
  | bool
  | datetime
  | localDatetime
  | localDate
  | localTime
  | duration
  | json
  | bigint
  | relativeDuration
deriving DecidableEq, Repr, Inhabited

namespace ScalarKind

/-- Every kind, in the order of the identifiers. -/
def all : List ScalarKind :=
  [.uuid, .str, .bytes, .int16, .int32, .int64, .float32, .float64, .decimal, .bool, .datetime,
    .localDatetime, .localDate, .localTime, .duration, .json, .bigint, .relativeDuration]

/-- The last bytes of the identifier of a kind, as a number. -/
def code : ScalarKind → Nat
  | .uuid => 0x100
  | .str => 0x101
  | .bytes => 0x102
  | .int16 => 0x103
  | .int32 => 0x104
  | .int64 => 0x105
  | .float32 => 0x106
  | .float64 => 0x107
  | .decimal => 0x108
  | .bool => 0x109
  | .datetime => 0x10A
  | .localDatetime => 0x10B
  | .localDate => 0x10C
  | .localTime => 0x10D
  | .duration => 0x10E
  | .json => 0x10F
  | .bigint => 0x110
  | .relativeDuration => 0x111

/-- The well-known identifier of a kind. -/
def id (kind : ScalarKind) : Uuid := Uuid.ofNat kind.code

/-- The kind that an identifier stands for. -/
def ofId? (id : Uuid) : Option ScalarKind := all.find? fun kind => kind.id == id

/-- The name of a kind on the server. -/
def name : ScalarKind → String
  | .uuid => "std::uuid"
  | .str => "std::str"
  | .bytes => "std::bytes"
  | .int16 => "std::int16"
  | .int32 => "std::int32"
  | .int64 => "std::int64"
  | .float32 => "std::float32"
  | .float64 => "std::float64"
  | .decimal => "std::decimal"
  | .bool => "std::bool"
  | .datetime => "std::datetime"
  | .localDatetime => "cal::local_datetime"
  | .localDate => "cal::local_date"
  | .localTime => "cal::local_time"
  | .duration => "std::duration"
  | .json => "std::json"
  | .bigint => "std::bigint"
  | .relativeDuration => "cal::relative_duration"

/-- The name of the destination type that holds values of a kind. -/
def typeName : ScalarKind → String
  | .uuid => "Uuid"
  | .str => "String"
  | .bytes => "Bytes"
  | .int16 => "i16"
  | .int32 => "i32"
  | .int64 => "i64"
  | .float32 => "f32"
  | .float64 => "f64"
  | .decimal => "Decimal"
  | .bool => "bool"
  | .datetime => "DateTime<Utc>"
  | .localDatetime => "NaiveDateTime"
  | .localDate => "NaiveDate"
  | .localTime => "NaiveTime"
  | .duration => "Duration"
  | .json => "serde_json::Value"
  | .bigint => "BigInt"
  | .relativeDuration => "RelativeDuration"

/-- The name of a kind as an argument. -/
def argumentName (kind : ScalarKind) : String := String.ofList (kind.name.toList.drop 5)

/-- Every kind is found by its own identifier. -/
theorem ofId?_id (kind : ScalarKind) : ofId? kind.id = some kind := by
  cases kind <;> decide

end ScalarKind

end QueryWire
