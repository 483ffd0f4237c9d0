import QueryWire.Scalar.Basic

/-!
# Destinations

A destination is described once by a shape and then filled in place, row after row.  Filling is
visible also when it fails half way, so a destination is a value that every decoding returns.

* `Shape` — what a destination can hold.
* `Slot` — a destination with its present contents.
* `Shape.fresh` — the destination of a shape before anything was decoded.
* `RowType` — a named destination type; two of them differ when their names do.
-/

namespace QueryWire

/-- How an optional destination treats its contents when the value is missing. -/
inductive Wrapper where
  /-- The contents are dropped, and a present value starts from a fresh destination. -/
  | dropping
  /-- Only a flag is cleared; a present value is written over what was there last. -/
  | keeping
deriving DecidableEq, Repr, Inhabited

/-- What a destination can hold. -/
inductive Shape where
  | scalar (kind : ScalarKind)
  /-- A destination that can also record a missing value. -/
  | optional (wrapper : Wrapper) (inner : Shape)
  /-- Named fields in the order of their registration. -/
  | record (typeName : String) (fields : List (String × Shape))
  | tuple (elements : List Shape)
  | sequence (element : Shape)
deriving Repr, Inhabited

namespace Shape

mutual

/-- Whether two shapes are the same. -/
def decEq : (a b : Shape) → Decidable (a = b)
  | .scalar k, .scalar l =>
    if h : k = l then .isTrue (h ▸ rfl) else .isFalse fun e => h (by injection e)
  | .optional w a, .optional x b =>
    if h : w = x then
      match decEq a b with
      | .isTrue h' => .isTrue (h ▸ h' ▸ rfl)
      | .isFalse h' => .isFalse fun e => h' (by injection e)
    else .isFalse fun e => h (by injection e)
  | .record m a, .record n b =>
    if h : m = n then
      match decEqFields a b with
      | .isTrue h' => .isTrue (h ▸ h' ▸ rfl)
      | .isFalse h' => .isFalse fun e => h' (by injection e)
    else .isFalse fun e => h (by injection e)
  | .tuple a, .tuple b =>
    match decEqList a b with
    | .isTrue h => .isTrue (h ▸ rfl)
    | .isFalse h => .isFalse fun e => h (by injection e)
  | .sequence a, .sequence b =>
    match decEq a b with
    | .isTrue h => .isTrue (h ▸ rfl)
    | .isFalse h => .isFalse fun e => h (by injection e)
  | .scalar _, .optional _ _ | .scalar _, .record _ _ | .scalar _, .tuple _
  | .scalar _, .sequence _ | .optional _ _, .scalar _ | .optional _ _, .record _ _
  | .optional _ _, .tuple _ | .optional _ _, .sequence _ | .record _ _, .scalar _
  | .record _ _, .optional _ _ | .record _ _, .tuple _ | .record _ _, .sequence _
  | .tuple _, .scalar _ | .tuple _, .optional _ _ | .tuple _, .record _ _
  | .tuple _, .sequence _ | .sequence _, .scalar _ | .sequence _, .optional _ _
  | .sequence _, .record _ _ | .sequence _, .tuple _ => .isFalse nofun

/-- Whether two lists of shapes are the same. -/
def decEqList : (a b : List Shape) → Decidable (a = b)
  | [], [] => .isTrue rfl
  | a :: as, b :: bs =>
    match decEq a b with
    | .isTrue h =>
      match decEqList as bs with
      | .isTrue h' => .isTrue (h ▸ h' ▸ rfl)
      | .isFalse h' => .isFalse fun e => h' (by injection e)
    | .isFalse h => .isFalse fun e => h (by injection e)
  | [], _ :: _ | _ :: _, [] => .isFalse nofun

/-- Whether two lists of named shapes are the same. -/
def decEqFields : (a b : List (String × Shape)) → Decidable (a = b)
  | [], [] => .isTrue rfl
  | (m, a) :: as, (n, b) :: bs =>
    if hn : m = n then
      match decEq a b with
      | .isTrue h =>
        match decEqFields as bs with
        | .isTrue h' => .isTrue (hn ▸ h ▸ h' ▸ rfl)
        | .isFalse h' => .isFalse fun e => h' (by injection e)
      | .isFalse h => .isFalse fun e => h (by injection e with e _; injection e)
    else .isFalse fun e => hn (by injection e with e _; injection e)
  | [], _ :: _ | _ :: _, [] => .isFalse nofun

end

instance : DecidableEq Shape := decEq

/-- Whether a shape is an optional one. -/
def isOptional : Shape → Bool
  | .optional _ _ => true
  | _ => false

mutual

/-- The name of a destination type. -/
def typeName : Shape → String
  | .scalar kind => kind.typeName
  | .optional _ inner => "Option<" ++ typeName inner ++ ">"
  | .record name _ => name
  | .tuple elements =>
    match typeNames elements with
    | [name] => "(" ++ name ++ ",)"
    | names => "(" ++ ", ".intercalate names ++ ")"
  | .sequence element => "Vec<" ++ typeName element ++ ">"

/-- The names of destination types. -/
def typeNames : List Shape → List String
  | [] => []
  | shape :: rest => typeName shape :: typeNames rest

end

end Shape

/-! ## Contents -/

/-- A destination with its present contents. -/
inductive Slot where
  | scalar (value : Scalar)
  /-- An optional destination that drops its contents; `inner` is the shape of a present value. -/
  | option (inner : Shape) (value : Option Slot)
  /-- An optional destination that keeps its contents beside a flag. -/
  | flagged (present : Bool) (value : Slot)
  /-- The parts of a record or tuple, in order. -/
  | record (parts : List Slot)
  /-- The items of a sequence; `element` is the shape of one. -/
  | sequence (element : Shape) (items : List Slot)
deriving Repr, Inhabited

mutual

/-- The destination of a shape before anything was decoded. -/
def Shape.fresh : Shape → Slot
  | .scalar kind => .scalar kind.fresh
  | .optional .dropping inner => .option inner none
  | .optional .keeping inner => .flagged false inner.fresh
  | .record _ fields => .record (Shape.freshFields fields)
  | .tuple elements => .record (Shape.freshList elements)
  | .sequence element => .sequence element []

/-- Fresh destinations of a list of shapes. -/
def Shape.freshList : List Shape → List Slot
  | [] => []
  | shape :: rest => shape.fresh :: Shape.freshList rest

/-- Fresh destinations of named shapes. -/
def Shape.freshFields : List (String × Shape) → List Slot
  | [] => []
  | (_, shape) :: rest => shape.fresh :: Shape.freshFields rest

end

/-- The kinds of destination that a decoder can tell apart. -/
inductive SlotKind where
  | scalar (kind : ScalarKind)
  | optional
  | record
  | sequence
deriving DecidableEq, Repr

/-- The name of a kind of destination. -/
def SlotKind.name : SlotKind → String
  | .scalar kind => kind.typeName
  | .optional => "optional"
  | .record => "record"
  | .sequence => "sequence"

/-- The kind of a destination. -/
def Slot.kind : Slot → SlotKind
  | .scalar value => .scalar value.kind
  | .option _ _ => .optional
  | .flagged _ _ => .optional
  | .record _ => .record
  | .sequence _ _ => .sequence

/-- A named destination type. -/
structure RowType where
  name : String
  shape : Shape
deriving DecidableEq, Repr

/-- Plain text. -/
def RowType.text : RowType := ⟨"str", .scalar .str⟩

end QueryWire
