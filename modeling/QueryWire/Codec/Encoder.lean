import QueryWire.Codec.Scalar
import QueryWire.Wire.Writer

/-!
# Encoding arguments

An encoder is built once for the argument type of a statement.  Named arguments may be given in
any order; they travel in the order of the type.

* `Encoder` — how arguments of a type are written.
* `Encoder.encode` — the payload of an argument.
* `Encoder.encodeArguments` — the payload of all arguments of a statement.
-/

namespace QueryWire

/-- How arguments of a type are written. -/
inductive Encoder where
  | scalar (id : Uuid) (kind : ScalarKind)
  | enum (id : Uuid) (members : List String)
  | tuple (id : Uuid) (elements : List Encoder)
  | namedTuple (id : Uuid) (fields : List (String × Encoder))
  | array (id : Uuid) (element : Encoder)
  | set (id : Uuid) (element : Encoder)
deriving Repr

/-- A number in four bytes. -/
def word (n : Nat) : Bytes := BigEndian.encode 4 n

/-- A part of a tuple: a reserved word, then its bytes behind their length, or the length that
stands for a missing part. -/
def encodeElement (encode : Argument → Except Error Bytes) (item : Argument) :
    Except Error Bytes :=
  if item.isNothing then .ok (word 0 ++ word 0xFFFFFFFF)
  else (encode item).map fun payload => word 0 ++ payload.prefixed

/-- An item of an array: its bytes behind their length.  No item may be missing. -/
def encodeItem (path : Path) (encode : Argument → Except Error Bytes) (item : Argument) :
    Except Error Bytes :=
  if item.isNothing then .error (.codecMismatch path .nothingElement)
  else (encode item).map Bytes.prefixed

/-- An array around its items: without items, no dimension; else one, with its length and its
lower bound. -/
def arrayBytes (items : List Bytes) : Bytes :=
  if items.isEmpty then word 0 ++ word 0 ++ word 0
  else word 1 ++ word 0 ++ word 0 ++ word items.length ++ word 1 ++ items.flatten

namespace Encoder

/-- The identifier of the type that an encoder was built for. -/
def id : Encoder → Uuid
  | .scalar id _ | .enum id _ | .tuple id _ | .namedTuple id _ | .array id _ | .set id _ => id

/-- The label of an argument that can be one. -/
def label? : Argument → Option String
  | .enum label => some label
  | .scalar (.str label) => some label
  | _ => none

/-- The items of an argument that is a row of them. -/
def items? : Argument → Option (List Argument)
  | .array items => some items
  | .set items => some items
  | _ => none

/-- The payload of a label. -/
def encodeLabel (members : List String) (path : Path) (argument : Argument) :
    Except Error Bytes :=
  match label? argument with
  | none => .error (.codecMismatch path (.wrongArgument "enum label" argument.kindName))
  | some label =>
    if members.contains label then .ok (Utf8.encode label)
    else .error (.codecMismatch path (.notAMember members label))

mutual

/-- The payload of an argument at a place. -/
def encode : Encoder → Path → Argument → Except Error Bytes
  | .scalar _ kind, path, argument => encodeScalar kind path argument
  | .enum _ members, path, argument => encodeLabel members path argument
  | .tuple _ elements, path, argument =>
    match argument with
    | .tuple items =>
      if items.length = elements.length then
        (encodeElements elements path 0 items).map (word elements.length ++ ·)
      else .error (.codecMismatch path (.wrongArity elements.length items.length))
    | argument => .error (.codecMismatch path (.wrongArgument "tuple" argument.kindName))
  | .namedTuple _ fields, path, argument =>
    match argument with
    | .named given =>
      match given.find? fun (name, _) => !fields.any fun (declared, _) => declared == name with
      | some (name, _) => .error (.codecMismatch (path.field name) .unknownArgument)
      | none => (encodeFields fields path given).map (word fields.length ++ ·)
    | argument => .error (.codecMismatch path (.wrongArgument "named tuple" argument.kindName))
  | .array _ element, path, argument =>
    match items? argument with
    | some items =>
      (items.mapM (encodeItem path.element fun item => encode element path.element item)).map
        arrayBytes
    | none => .error (.codecMismatch path (.wrongArgument "array" argument.kindName))
  | .set _ element, path, argument =>
    match items? argument with
    | some items =>
      (items.mapM (encodeItem path.element fun item => encode element path.element item)).map
        arrayBytes
    | none => .error (.codecMismatch path (.wrongArgument "array" argument.kindName))

/-- The elements of a tuple, the first of them at position `i`. -/
def encodeElements : List Encoder → Path → (i : Nat) → List Argument → Except Error Bytes
  | encoder :: encoders, path, i, item :: items => do
    let first ← encodeElement (fun item => encode encoder (path.index i) item) item
    let others ← encodeElements encoders path (i + 1) items
    pure (first ++ others)
  | _, _, _, _ => pure []

/-- The fields of a named tuple, each from the first argument given for it. -/
def encodeFields : List (String × Encoder) → Path → (given : List (String × Argument)) →
    Except Error Bytes
  | (name, encoder) :: fields, path, given => do
    match given.lookup name with
    | none => throw (.codecMismatch (path.field name) .noArgument)
    | some item =>
      let first ← encodeElement (fun item => encode encoder (path.field name) item) item
      let others ← encodeFields fields path given
      pure (first ++ others)
  | [], _, _ => pure []

end

/-- The payload of all arguments of a statement.  A statement with an empty tuple of arguments may
also be given nothing. -/
def encodeArguments (encoder : Encoder) (arguments : Argument) : Except Error Bytes :=
  match encoder, arguments with
  | .tuple _ [], .nothing => .ok (word 0)
  | encoder, arguments => encoder.encode .arguments arguments

end Encoder

end QueryWire
