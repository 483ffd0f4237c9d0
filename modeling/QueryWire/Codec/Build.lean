import QueryWire.Codec.Decoder
import QueryWire.Codec.Encoder

/-!
# Codecs from type descriptors

Building compares a type of the server with a destination shape, once and completely, so that
decoding a row only has to check the data.  The error names the first place where the two do not
fit, in the order of the type.

* `Decoder.build` — the decoder for a type and a shape.
* `Encoder.build` — the encoder for a type.
* `Codec.build` — both for a statement.
-/

namespace QueryWire

/-- A field of an object or of a named tuple, as far as building cares. -/
structure WireField where
  name : String
  required : Bool
  implicit : Bool

/-- A field of an object. -/
def ObjectField.wire (field : ObjectField) : WireField :=
  ⟨field.name, field.cardinality.isRequired, field.flags.isImplicit⟩

/-- A field of a named tuple, which is always there. -/
def TupleField.wire (field : TupleField) : WireField := ⟨field.name, true, false⟩

/-- The scalar of a type, which must be a built-in one. -/
def Descriptor.scalarKind (d : Descriptor) (path : Path) : Except Error ScalarKind :=
  match d.scalarKind? with
  | some kind => .ok kind
  | none => .error (.descriptor (.unsupportedScalar d.id path))

namespace Decoder

/-- A scalar type for a destination shape. -/
def buildScalar (d : Descriptor) (shape : Shape) (path : Path) : Except Error Decoder := do
  let kind ← d.scalarKind path
  match shape with
  | .scalar destination =>
    if kind.fitsInto destination then pure (.scalar d.id kind)
    else throw (.codecMismatch path (.incompatible d.text shape.typeName))
  | _ => throw (.codecMismatch path (.incompatible d.text shape.typeName))

/-- Where the record field of a name stands, and its shape. -/
def findField (name : String) (fields : List (String × Shape)) : Option (Nat × Shape) :=
  (fields.zipIdx.find? fun (field, _) => field.1 == name).map fun (field, index) =>
    (index, field.2)

/-- A field bound to a record field, which must be able to record a missing value unless the
field is always there. -/
def bindField (field : WireField) (index : Nat) (shape : Shape) (path : Path)
    (decoder : Decoder) : Except Error FieldDecoder :=
  if !field.required && !decoder.supportsMissing then
    .error (.codecMismatch path (.mayBeMissing shape.typeName))
  else .ok (.bound field.name index decoder)

/-- One field of an object for a record: bound to the record field of its name, or passed over
when there is none and the server added the field on its own. -/
def buildField (field : WireField) (typeName : String) (fields : List (String × Shape))
    (path : Path) (build : Shape → Except Error Decoder) : Except Error FieldDecoder :=
  match findField field.name fields with
  | some (index, shape) => do bindField field index shape path (← build shape)
  | none =>
    if field.implicit then .ok (.skipped field.name)
    else .error (.codecMismatch path (.noSuchField typeName field.name))

/-- Builds for what lies inside all optionals of a shape, and records a missing value once for each
of them. -/
def throughOptionals : Shape → (build : Shape → Except Error Decoder) → Except Error Decoder
  | .optional _ inner, build => (throughOptionals inner build).map .optional
  | shape, build => build shape

mutual

/-- The decoder of a type for a shape that is not optional. -/
def buildPlain : Descriptor → Shape → Path → Except Error Decoder
  | .baseScalar id, shape, path => buildScalar (.baseScalar id) shape path
  | .scalar id base, shape, path => buildScalar (.scalar id base) shape path
  | .enum id members, shape, path =>
    match shape with
    | .scalar .str => .ok (.enum id members)
    | shape => .error (.codecMismatch path (.incompatible "enum" shape.typeName))
  | .object id fields, shape, path =>
    match shape with
    | .record typeName shapes => do
      pure (.object id (← buildObjectFields fields typeName shapes path))
    | shape => .error (.codecMismatch path (.incompatible "object" shape.typeName))
  | .namedTuple id fields, shape, path =>
    match shape with
    | .record typeName shapes => do
      pure (.object id (← buildTupleFields fields typeName shapes path))
    | shape => .error (.codecMismatch path
        (.incompatible (Descriptor.namedTuple id fields).text shape.typeName))
  | .tuple id elements, shape, path =>
    match shape with
    | .tuple shapes =>
      if shapes.length = elements.length then do
        pure (.tuple id (← buildElements elements shapes path 0))
      else .error (.codecMismatch path
        (.incompatible (Descriptor.tuple id elements).text (Shape.tuple shapes).typeName))
    | shape => .error (.codecMismatch path
        (.incompatible (Descriptor.tuple id elements).text shape.typeName))
  | .array id element dimensions, shape, path =>
    match shape with
    | .sequence inner => do
      pure (.array id (← throughOptionals inner fun shape => buildPlain element shape path.element))
    | shape => .error (.codecMismatch path
        (.incompatible (Descriptor.array id element dimensions).text shape.typeName))
  | .set id element, shape, path =>
    match shape with
    | .sequence inner => do
      pure (.set id (← throughOptionals inner fun shape => buildPlain element shape path.element))
    | shape => .error (.codecMismatch path
        (.incompatible (Descriptor.set id element).text shape.typeName))
  | .remark id _ _, _, path => .error (.descriptor (.remarkAsType id path))

/-- The decoders of the fields of an object. -/
def buildObjectFields : List ObjectField → (typeName : String) →
    (shapes : List (String × Shape)) → Path → Except Error (List FieldDecoder)
  | [], _, _, _ => .ok []
  | .mk name flags cardinality type :: fields, typeName, shapes, path => do
    let first ← buildField (ObjectField.mk name flags cardinality type).wire typeName shapes
      (path.field name) fun shape =>
        throughOptionals shape fun shape => buildPlain type shape (path.field name)
    let others ← buildObjectFields fields typeName shapes path
    pure (first :: others)

/-- The decoders of the fields of a named tuple. -/
def buildTupleFields : List TupleField → (typeName : String) →
    (shapes : List (String × Shape)) → Path → Except Error (List FieldDecoder)
  | [], _, _, _ => .ok []
  | .mk name type :: fields, typeName, shapes, path => do
    let first ← buildField (TupleField.mk name type).wire typeName shapes
      (path.field name) fun shape =>
        throughOptionals shape fun shape => buildPlain type shape (path.field name)
    let others ← buildTupleFields fields typeName shapes path
    pure (first :: others)

/-- The decoders of the elements of a tuple, the first of them at position `i`. -/
def buildElements : List Descriptor → List Shape → Path → (i : Nat) →
    Except Error (List Decoder)
  | element :: elements, shape :: shapes, path, i => do
    let first ← throughOptionals shape fun shape => buildPlain element shape (path.index i)
    let others ← buildElements elements shapes path (i + 1)
    pure (first :: others)
  | _, _, _, _ => .ok []

end

/-- The decoder of a type for a shape, at a place. -/
def buildAt (d : Descriptor) (shape : Shape) (path : Path) : Except Error Decoder :=
  throughOptionals shape fun shape => buildPlain d shape path

/-- The decoder of a type for a destination shape. -/
def build (d : Descriptor) (shape : Shape) : Except Error Decoder := buildAt d shape .result

end Decoder

namespace Encoder

mutual

/-- The encoder of a type at a place.  An object is a named tuple without the fields that the
server added on its own. -/
def buildAt : Descriptor → Path → Except Error Encoder
  | .baseScalar id, path => return .scalar id (← (Descriptor.baseScalar id).scalarKind path)
  | .scalar id base, path => return .scalar id (← (Descriptor.scalar id base).scalarKind path)
  | .enum id members, _ => .ok (.enum id members)
  | .tuple id elements, path => return .tuple id (← buildElements elements path 0)
  | .namedTuple id fields, path => return .namedTuple id (← buildTupleFields fields path)
  | .object id fields, path => return .namedTuple id (← buildObjectFields fields path)
  | .array id element _, path => return .array id (← buildAt element path.element)
  | .set id element, path => return .set id (← buildAt element path.element)
  | .remark id _ _, path => .error (.descriptor (.remarkAsType id path))

/-- The encoders of the elements of a tuple, the first of them at position `i`. -/
def buildElements : List Descriptor → Path → (i : Nat) → Except Error (List Encoder)
  | [], _, _ => .ok []
  | element :: elements, path, i => do
    let first ← buildAt element (path.index i)
    let others ← buildElements elements path (i + 1)
    pure (first :: others)

/-- The encoders of the fields of a named tuple. -/
def buildTupleFields : List TupleField → Path → Except Error (List (String × Encoder))
  | [], _ => .ok []
  | .mk name type :: fields, path => do
    let first ← buildAt type (path.field name)
    let others ← buildTupleFields fields path
    pure ((name, first) :: others)

/-- The encoders of the fields of an object. -/
def buildObjectFields : List ObjectField → Path → Except Error (List (String × Encoder))
  | [], _ => .ok []
  | .mk name flags cardinality type :: fields, path =>
    if flags.isImplicit then buildObjectFields fields path
    else if cardinality = .many then .error (.descriptor (.setValued name path))
    else do
      let first ← buildAt type (path.field name)
      let others ← buildObjectFields fields path
      pure ((name, first) :: others)

end

/-- The encoder of an argument type. -/
def build (d : Descriptor) : Except Error Encoder := buildAt d .arguments

end Encoder

/-- What is needed to run a statement for a destination type. -/
structure Codec where
  inputId : Uuid
  outputId : Uuid
  encoder : Encoder
  decoder : Decoder

/-- The codec of a statement for a destination shape. -/
def Codec.build (pair : DescriptorPair) (shape : Shape) : Except Error Codec := do
  let encoder ← Encoder.build pair.input
  let decoder ← Decoder.build pair.output shape
  pure ⟨pair.input.id, pair.output.id, encoder, decoder⟩

end QueryWire
