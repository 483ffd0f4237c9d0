import QueryWire.Protocol.Code
import QueryWire.Scalar.Kind
import QueryWire.Text.Quoted

/-!
# Type descriptors

The server describes the type of a statement's arguments and of its results by trees of
descriptors.  Parts that several places share are the same node; as values they are just equal
subtrees.

* `Descriptor` — a tree, each node with the identifier the server gave it.
* `Descriptor.scalarKind?` — the built-in scalar that a node stands for.
* `Descriptor.text` — a type in words.
* `DescriptorPair` — the argument type and the result type of one statement.
-/

namespace QueryWire

/-- The flags of an object field that carry a meaning. -/
structure FieldFlags where
  bits : UInt32
deriving DecidableEq, Repr, Inhabited

namespace FieldFlags

/-- The server added the field on its own. -/
def isImplicit (flags : FieldFlags) : Bool := flags.bits &&& 1 != 0

/-- The field is a property of a link. -/
def isLinkProperty (flags : FieldFlags) : Bool := flags.bits &&& 2 != 0

/-- The field is a link. -/
def isLink (flags : FieldFlags) : Bool := flags.bits &&& 4 != 0

end FieldFlags

mutual

/-- The type of a value, as the server describes it. -/
inductive Descriptor where
  | set (id : Uuid) (element : Descriptor)
  | object (id : Uuid) (fields : List ObjectField)
  | baseScalar (id : Uuid)
  /-- A scalar that is another one under a name of its own. -/
  | scalar (id : Uuid) (base : Descriptor)
  | tuple (id : Uuid) (elements : List Descriptor)
  | namedTuple (id : Uuid) (fields : List TupleField)
  | array (id : Uuid) (element : Descriptor) (dimensions : List Int32)
  | enum (id : Uuid) (members : List String)
  /-- A remark about types, which is no type itself. -/
  | remark (id : Uuid) (tag : UInt8) (text : String)

/-- A field of an object. -/
inductive ObjectField where
  | mk (name : String) (flags : FieldFlags) (cardinality : Cardinality) (type : Descriptor)

/-- A field of a named tuple. -/
inductive TupleField where
  | mk (name : String) (type : Descriptor)

end

namespace ObjectField

/-- The name of a field. -/
def name : ObjectField → String
  | .mk name _ _ _ => name

/-- The flags of a field. -/
def flags : ObjectField → FieldFlags
  | .mk _ flags _ _ => flags

/-- How many values a field may have. -/
def cardinality : ObjectField → Cardinality
  | .mk _ _ cardinality _ => cardinality

/-- The type of a field's values. -/
def type : ObjectField → Descriptor
  | .mk _ _ _ type => type

end ObjectField

namespace TupleField

/-- The name of a field. -/
def name : TupleField → String
  | .mk name _ => name

/-- The type of a field's value. -/
def type : TupleField → Descriptor
  | .mk _ type => type

end TupleField

namespace Descriptor

/-- The identifier of a type. -/
def id : Descriptor → Uuid
  | .set id _ | .object id _ | .baseScalar id | .scalar id _ | .tuple id _ | .namedTuple id _
  | .array id _ _ | .enum id _ | .remark id _ _ => id

/-- The identifier of the tuple without elements. -/
def emptyTupleId : Uuid := Uuid.ofNat 0xFF

/-- The tuple without elements: no arguments, or no result. -/
def empty : Descriptor := .tuple emptyTupleId []

instance : Inhabited Descriptor := ⟨empty⟩

/-- Whether a type is a tuple without elements. -/
def isEmptyTuple : Descriptor → Bool
  | .tuple _ elements => elements.isEmpty
  | _ => false

/-- Whether a descriptor is a remark and no type. -/
def isRemark : Descriptor → Bool
  | .remark _ _ _ => true
  | _ => false

/-- The built-in scalar that a type stands for, through any number of names. -/
def scalarKind? : Descriptor → Option ScalarKind
  | .baseScalar id => ScalarKind.ofId? id
  | .scalar _ base => scalarKind? base
  | _ => none

/-- A scalar type in words: the name of the built-in scalar, or else the identifier. -/
def scalarText (id : Uuid) : Option ScalarKind → String
  | some kind => kind.name
  | none => "scalar " ++ id.text

mutual

/-- A type in words. -/
def text : Descriptor → String
  | .baseScalar id => scalarText id (ScalarKind.ofId? id)
  | .scalar id base => scalarText id (scalarKind? base)
  | .set _ element => "set<" ++ text element ++ ">"
  | .array _ element _ => "array<" ++ text element ++ ">"
  | .tuple _ elements => "tuple<" ++ ", ".intercalate (texts elements) ++ ">"
  | .namedTuple _ fields => "tuple<" ++ ", ".intercalate (fieldTexts fields) ++ ">"
  | .object _ _ => "object"
  | .enum _ _ => "enum"
  | .remark _ _ text => "annotation " ++ Text.quote text

/-- Types in words. -/
def texts : List Descriptor → List String
  | [] => []
  | d :: rest => text d :: texts rest

/-- Named types in words. -/
def fieldTexts : List TupleField → List String
  | [] => []
  | .mk name d :: rest => (name ++ ": " ++ text d) :: fieldTexts rest

end

end Descriptor

/-- The argument type and the result type of one statement. -/
structure DescriptorPair where
  input : Descriptor
  output : Descriptor

namespace DescriptorPair

/-- The identifiers of both types. -/
def ids (pair : DescriptorPair) : Uuid × Uuid := (pair.input.id, pair.output.id)

end DescriptorPair

end QueryWire
