import QueryWire.Json.Basic
import QueryWire.Number.Decimal
import QueryWire.Scalar.Kind
import QueryWire.Scalar.Temporal

/-!
# Scalar values

One value of each built-in scalar type.  Floating-point numbers are kept as their bits, so that
every bit pattern survives, also of what is no number.
-/

namespace QueryWire

/-- A value of a built-in scalar type. -/
inductive Scalar where
  | uuid (id : Uuid)
  | str (text : String)
  | bytes (bytes : Bytes)
  | int16 (n : Int16)
  | int32 (n : Int32)
  | int64 (n : Int64)
  | float32 (bits : UInt32)
  | float64 (bits : UInt64)
  | decimal (d : Decimal)
  | bool (b : Bool)
  | datetime (t : Timestamp)
  | localDatetime (t : Timestamp)
  | localDate (d : Date)
  | localTime (t : TimeOfDay)
  | duration (d : Duration)
  | json (j : Json)
  | bigint (n : Int)
  | relativeDuration (d : RelativeDuration)
deriving Repr

namespace Scalar

/-- The type of a value. -/
def kind : Scalar → ScalarKind
  | .uuid _ => .uuid
  | .str _ => .str
  | .bytes _ => .bytes
  | .int16 _ => .int16
  | .int32 _ => .int32
  | .int64 _ => .int64
  | .float32 _ => .float32
  | .float64 _ => .float64
  | .decimal _ => .decimal
  | .bool _ => .bool
  | .datetime _ => .datetime
  | .localDatetime _ => .localDatetime
  | .localDate _ => .localDate
  | .localTime _ => .localTime
  | .duration _ => .duration
  | .json _ => .json
  | .bigint _ => .bigint
  | .relativeDuration _ => .relativeDuration

end Scalar

/-- The value that a fresh destination of a kind holds. -/
def ScalarKind.fresh : ScalarKind → Scalar
  | .uuid => .uuid Uuid.nil
  | .str => .str ""
  | .bytes => .bytes []
  | .int16 => .int16 0
  | .int32 => .int32 0
  | .int64 => .int64 0
  | .float32 => .float32 0
  | .float64 => .float64 0
  | .decimal => .decimal Decimal.zero
  | .bool => .bool false
  | .datetime => .datetime Timestamp.epoch
  | .localDatetime => .localDatetime Timestamp.epoch
  | .localDate => .localDate Date.epoch
  | .localTime => .localTime TimeOfDay.midnight
  | .duration => .duration ⟨0⟩
  | .json => .json .null
  | .bigint => .bigint 0
  | .relativeDuration => .relativeDuration ⟨0, 0, 0⟩

@[simp] theorem ScalarKind.kind_fresh (kind : ScalarKind) : kind.fresh.kind = kind := by
  cases kind <;> rfl

end QueryWire
