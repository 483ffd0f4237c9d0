import Mathlib.Tactic.Common
import QueryWire.Codec.Build

/-!
# Destinations that hold an argument

What a destination contains once a value was put into it, said without bytes.

* `Shape.holding` — a fresh destination after an argument was put into it.
* `Shape.Admits` — that an argument can be put into a destination without loss.
* `Descriptor.IsExplicit` — that the fields of a type are known by their names.
* `Argument.taken` — what a statement takes for the argument that it is given.
-/

namespace QueryWire

/-! ## Scalars -/

/-- A time of day in whole microseconds. -/
def TimeOfDay.truncated (t : TimeOfDay) : TimeOfDay :=
  ⟨t.second, t.nano / 1000 * 1000, t.second_lt, by have := t.nano_lt; omega⟩

/-- An instant in whole microseconds. -/
def Timestamp.truncated (t : Timestamp) : Timestamp :=
  ⟨t.second, t.nano / 1000 * 1000, t.inCalendar, by have := t.nano_lt; omega⟩

/-- A JSON document that is read back from its text. -/
def Json.IsReadBack (j : Json) : Prop := Json.ofBytes? (Utf8.encode j.render) = some j

namespace ScalarKind

/-- What a destination of a scalar type holds of a value: a text has the text of a JSON document,
and times are in whole microseconds. -/
def holding : ScalarKind → Scalar → Scalar
  | .str, .json j => .str j.render
  | _, .datetime t => .datetime t.truncated
  | _, .localDatetime t => .localDatetime t.truncated
  | _, .localTime t => .localTime t.truncated
  | _, value => value

/-- A value that can be put into a destination of a scalar type: a time without leap second, a
JSON document that is read back, or its text into a text. -/
def Admits : ScalarKind → Scalar → Prop
  | .json, .str _ => False
  | .json, .json j => j.IsReadBack
  | _, .datetime t => t.nano < 1000000000
  | _, .localDatetime t => t.nano < 1000000000
  | _, .localTime t => t.nano < 1000000000
  | _, _ => True

end ScalarKind

/-! ## Shapes -/

namespace Shape

mutual

/-- A fresh destination after an argument was put into it.  Elements go by their places, fields by
their names; nothing leaves a destination as it is. -/
def holding : Shape → Argument → Slot
  | .scalar kind, .scalar value => .scalar (kind.holding value)
  | .scalar _, .enum label => .scalar (.str label)
  | .optional .dropping inner, v => .option inner (if v.isNothing then none else some (holding inner v))
  | .optional .keeping inner, v =>
    if v.isNothing then .flagged false inner.fresh else .flagged true (holding inner v)
  | .record _ fields, .named given => .record (holdingFields fields given)
  | .tuple elements, .tuple items => .record (holdingList elements items)
  | .sequence element, .array items => .sequence element (items.map fun item => holding element item)
  | .sequence element, .set items => .sequence element (items.map fun item => holding element item)
  | shape, _ => shape.fresh

/-- The elements of a tuple. -/
def holdingList : List Shape → List Argument → List Slot
  | shape :: shapes, item :: items => holding shape item :: holdingList shapes items
  | shapes, _ => freshList shapes

/-- The fields of a record: the first field of a name takes the first argument given for it. -/
def holdingFields : List (String × Shape) → List (String × Argument) → List Slot
  | [], _ => []
  | (name, shape) :: fields, given =>
    (match given.lookup name with
      | some item => holding shape item
      | none => shape.fresh) :: holdingFields fields (given.filter fun pair => pair.1 != name)

end

mutual

/-- An argument can be put into a destination: nothing only stands where that can be recorded, and
each scalar is one that its destination admits. -/
def Admits : Shape → Argument → Prop
  | .scalar kind, .scalar value => kind.Admits value
  | .optional _ inner, v => v.isNothing = true ∨ Admits inner v
  | .record _ fields, .named given => AdmitsFields fields given
  | .tuple elements, .tuple items => AdmitsList elements items
  | .sequence element, .array items => ∀ item ∈ items, Admits element item
  | .sequence element, .set items => ∀ item ∈ items, Admits element item
  | .sequence _, _ => True
  | _, v => v.isNothing = false

/-- Each element of a tuple can be put into its place. -/
def AdmitsList : List Shape → List Argument → Prop
  | shape :: shapes, item :: items => Admits shape item ∧ AdmitsList shapes items
  | _, _ => True

/-- Each argument can be put into the first field of its name. -/
def AdmitsFields : List (String × Shape) → List (String × Argument) → Prop
  | [], _ => True
  | (name, shape) :: fields, given =>
    (∀ item, given.lookup name = some item → Admits shape item)
      ∧ AdmitsFields fields (given.filter fun pair => pair.1 != name)

end

end Shape

/-! ## Types and arguments -/

mutual

/-- No field was added by the server on its own, and the fields of each object and of each named
tuple have names of their own. -/
def Descriptor.IsExplicit : Descriptor → Prop
  | .set _ element => element.IsExplicit
  | .object _ fields => (fields.map ObjectField.name).Nodup ∧ Descriptor.AreExplicitObject fields
  | .tuple _ elements => Descriptor.AreExplicit elements
  | .namedTuple _ fields => (fields.map TupleField.name).Nodup ∧ Descriptor.AreExplicitTuple fields
  | .array _ element _ => element.IsExplicit
  | .baseScalar _ | .scalar _ _ | .enum _ _ | .remark _ _ _ => True

/-- The elements of a tuple are explicit. -/
def Descriptor.AreExplicit : List Descriptor → Prop
  | [] => True
  | element :: elements => element.IsExplicit ∧ Descriptor.AreExplicit elements

/-- The fields of an object are explicit. -/
def Descriptor.AreExplicitObject : List ObjectField → Prop
  | [] => True
  | .mk _ flags _ type :: fields =>
    flags.isImplicit = false ∧ type.IsExplicit ∧ Descriptor.AreExplicitObject fields

/-- The fields of a named tuple are explicit. -/
def Descriptor.AreExplicitTuple : List TupleField → Prop
  | [] => True
  | .mk _ type :: fields => type.IsExplicit ∧ Descriptor.AreExplicitTuple fields

end

/-- What a statement takes for the argument that it is given: nothing is the empty tuple. -/
def Argument.taken : Descriptor → Argument → Argument
  | .tuple _ [], .nothing => .tuple []
  | _, v => v

end QueryWire
