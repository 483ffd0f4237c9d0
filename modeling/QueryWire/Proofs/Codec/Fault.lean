import QueryWire.Proofs.Codec.Payload
import QueryWire.Proofs.Codec.Suits

/-!
# Faults of the bytes of a value

What can be wrong with the bytes of a value when nothing is wrong with its destination.

* `Descriptor.HasFault` — an error that the bytes deserve, part by part down to where they do.
* `Error.IsAboutData` — the errors about data.
* `Descriptor.HasFault.isAboutData` — faults of the bytes are among them.
-/

namespace QueryWire

open Reader

mutual

/-- The bytes of a value of a type, which goes into a destination of a shape, deserve an error. -/
inductive Descriptor.HasFault : Descriptor → Shape → Path → Bytes → Error → Prop where
  | optional (wrapper : Wrapper) {d : Descriptor} {inner : Shape} {path : Path} {bytes : Bytes}
    {e : Error} (hfault : HasFault d inner path bytes e) :
    HasFault d (.optional wrapper inner) path bytes e
  /-- The payload of a scalar is too short, or spells no value. -/
  | scalar {d : Descriptor} {kind destination : ScalarKind} {path : Path} {bytes rest : Bytes}
    {e : Error} (hkind : d.scalarKind? = some kind)
    (hread : readInto path kind destination bytes = .error e rest)
    (he : Scalar.IsBadPayload path kind e) : HasFault d (.scalar destination) path bytes e
  | labelNotUtf8 (id : Uuid) (members : List String) (path : Path) {bytes : Bytes}
    (hlabel : Utf8.text? bytes = none) :
    HasFault (.enum id members) (.scalar .str) path bytes (.codecMismatch path .labelNotUtf8)
  | notAMember (id : Uuid) {members : List String} (path : Path) {bytes : Bytes} {label : String}
    (hlabel : Utf8.text? bytes = some label) (hmember : label ∉ members) :
    HasFault (.enum id members) (.scalar .str) path bytes
      (.codecMismatch path (.notAMember members label))
  /-- The count word of an object is not there. -/
  | noFieldCount {d : Descriptor} {fields : List (WireField × Descriptor)} (typeName : String)
    (shapes : List (String × Shape)) (path : Path) {bytes rest : Bytes} {e : Error}
    (hfields : d.fields? = some fields) (hcount : Reader.nat 4 bytes = .error e rest) :
    HasFault d (.record typeName shapes) path bytes e
  /-- The count word of an object is not the number of its fields. -/
  | fieldCount {d : Descriptor} {fields : List (WireField × Descriptor)} (typeName : String)
    (shapes : List (String × Shape)) (path : Path) {bytes rest : Bytes} {count : Nat}
    (hfields : d.fields? = some fields) (hcount : Reader.nat 4 bytes = .ok count rest)
    (hne : count ≠ fields.length) :
    HasFault d (.record typeName shapes) path bytes (.countMismatch fields.length count)
  | fields {d : Descriptor} {fields : List (WireField × Descriptor)} (typeName : String)
    {shapes : List (String × Shape)} {path : Path} {bytes rest : Bytes} {e : Error}
    (hfields : d.fields? = some fields) (hcount : Reader.nat 4 bytes = .ok fields.length rest)
    (hfault : FieldsFault fields shapes path rest e) :
    HasFault d (.record typeName shapes) path bytes e
  /-- The count word of a tuple is not there. -/
  | noElementCount (id : Uuid) (elements : List Descriptor) (shapes : List Shape) (path : Path)
    {bytes rest : Bytes} {e : Error} (hcount : Reader.nat 4 bytes = .error e rest) :
    HasFault (.tuple id elements) (.tuple shapes) path bytes e
  /-- The count word of a tuple is not the number of its elements. -/
  | elementCount (id : Uuid) {elements : List Descriptor} (shapes : List Shape) (path : Path)
    {bytes rest : Bytes} {count : Nat} (hcount : Reader.nat 4 bytes = .ok count rest)
    (hne : count ≠ elements.length) :
    HasFault (.tuple id elements) (.tuple shapes) path bytes (.countMismatch elements.length count)
  | elements (id : Uuid) {elements : List Descriptor} {shapes : List Shape} {path : Path}
    {bytes rest : Bytes} {e : Error} (hcount : Reader.nat 4 bytes = .ok elements.length rest)
    (hfault : ElementsFault elements shapes path 0 rest e) :
    HasFault (.tuple id elements) (.tuple shapes) path bytes e
  /-- The head of an array is not there. -/
  | noDimensions {d element : Descriptor} (shape : Shape) {path : Path} {bytes rest : Bytes}
    {e : Error} (hitem : d.item? = some element)
    (hread : readDimensions path bytes = .error e rest) (he : IsFraming e) :
    HasFault d (.sequence shape) path bytes e
  /-- An array has more than one dimension. -/
  | dimensions {d element : Descriptor} (shape : Shape) (path : Path) {bytes rest : Bytes}
    {dimensions : Nat} (hitem : d.item? = some element)
    (hread : Reader.nat 4 bytes = .ok dimensions rest) (hmany : 1 < dimensions) :
    HasFault d (.sequence shape) path bytes (.codecMismatch path (.dimensions dimensions))
  | items {d element : Descriptor} {shape : Shape} {path : Path} {bytes rest : Bytes} {count : Nat}
    {e : Error} (hitem : d.item? = some element)
    (hread : readDimensions path bytes = .ok (some count) rest)
    (hfault : ItemsFault element shape path.element count rest e) :
    HasFault d (.sequence shape) path bytes e

/-- The bytes of the fields of an object deserve an error: the first field is not there whole, or is
at fault, or a later one is.  That a field is missing is only wrong when it is required and goes where nothing can be
recorded. -/
inductive Descriptor.FieldsFault :
    List (WireField × Descriptor) → List (String × Shape) → Path → Bytes → Error → Prop where
  | cut (field : WireField × Descriptor) (fields : List (WireField × Descriptor))
    (shapes : List (String × Shape)) (path : Path) {bytes rest : Bytes} {e : Error}
    (hread : Element.read bytes = .error e rest) :
    FieldsFault (field :: fields) shapes path bytes e
  | missing {field : WireField} (type : Descriptor) (fields : List (WireField × Descriptor))
    {shapes : List (String × Shape)} (path : Path) {bytes rest : Bytes} {index : Nat}
    {shape : Shape} (hread : Element.read bytes = .ok none rest)
    (hfind : Decoder.findField field.name shapes = some (index, shape))
    (hrequired : field.required = true) (hshape : shape.recordsMissing = false) :
    FieldsFault ((field, type) :: fields) shapes path bytes
      (.codecMismatch (path.field field.name) .missingField)
  | here {field : WireField} {type : Descriptor} (fields : List (WireField × Descriptor))
    {shapes : List (String × Shape)} {path : Path} {bytes rest payload : Bytes} {index : Nat}
    {shape : Shape} {e : Error} (hread : Element.read bytes = .ok (some payload) rest)
    (hfind : Decoder.findField field.name shapes = some (index, shape))
    (hfault : type.HasFault shape (path.field field.name) payload e) :
    FieldsFault ((field, type) :: fields) shapes path bytes e
  | later (field : WireField × Descriptor) {fields : List (WireField × Descriptor)}
    {shapes : List (String × Shape)} {path : Path} {bytes rest : Bytes} {element : Element}
    {e : Error} (hread : Element.read bytes = .ok element rest)
    (hfault : FieldsFault fields shapes path rest e) :
    FieldsFault (field :: fields) shapes path bytes e

/-- The bytes of the elements of a tuple, the first of them at position `i`, deserve an error. -/
inductive Descriptor.ElementsFault :
    List Descriptor → List Shape → Path → (i : Nat) → Bytes → Error → Prop where
  | cut (element : Descriptor) (elements : List Descriptor) (shape : Shape) (shapes : List Shape)
    (path : Path) (i : Nat) {bytes rest : Bytes} {e : Error}
    (hread : Element.read bytes = .error e rest) :
    ElementsFault (element :: elements) (shape :: shapes) path i bytes e
  | missing (element : Descriptor) (elements : List Descriptor) {shape : Shape}
    (shapes : List Shape) (path : Path) (i : Nat) {bytes rest : Bytes}
    (hread : Element.read bytes = .ok none rest) (hshape : shape.recordsMissing = false) :
    ElementsFault (element :: elements) (shape :: shapes) path i bytes
      (.codecMismatch (path.index i) (.missingValue shape.kind))
  | here {element : Descriptor} (elements : List Descriptor) {shape : Shape} (shapes : List Shape)
    {path : Path} {i : Nat} {bytes rest payload : Bytes} {e : Error}
    (hread : Element.read bytes = .ok (some payload) rest)
    (hfault : element.HasFault shape (path.index i) payload e) :
    ElementsFault (element :: elements) (shape :: shapes) path i bytes e
  | later (first : Descriptor) {elements : List Descriptor} (shape : Shape) {shapes : List Shape}
    {path : Path} {i : Nat} {bytes rest : Bytes} {element : Element} {e : Error}
    (hread : Element.read bytes = .ok element rest)
    (hfault : ElementsFault elements shapes path (i + 1) rest e) :
    ElementsFault (first :: elements) (shape :: shapes) path i bytes e

/-- The bytes of so many items of an array deserve an error. -/
inductive Descriptor.ItemsFault :
    Descriptor → Shape → Path → (count : Nat) → Bytes → Error → Prop where
  | cut (d : Descriptor) (shape : Shape) (path : Path) (count : Nat) {bytes rest : Bytes}
    {e : Error} (hread : Element.sized bytes = .error e rest) :
    ItemsFault d shape path (count + 1) bytes e
  | missing (d : Descriptor) (shape : Shape) (path : Path) (count : Nat) {bytes rest : Bytes}
    (hread : Element.sized bytes = .ok none rest) :
    ItemsFault d shape path (count + 1) bytes (.codecMismatch path .missingElement)
  | here {d : Descriptor} {shape : Shape} {path : Path} (count : Nat) {bytes rest payload : Bytes}
    {e : Error} (hread : Element.sized bytes = .ok (some payload) rest)
    (hfault : d.HasFault shape path payload e) : ItemsFault d shape path (count + 1) bytes e
  | later {d : Descriptor} {shape : Shape} {path : Path} {count : Nat} {bytes rest : Bytes}
    {element : Element} {e : Error} (hread : Element.sized bytes = .ok element rest)
    (hfault : ItemsFault d shape path count rest e) : ItemsFault d shape path (count + 1) bytes e

end

/-- An error about data: it cannot be divided, has another count of parts than its type, or holds
what no value of its type is. -/
def Error.IsAboutData : Error → Prop
  | .framing _ | .countMismatch _ _ => True
  | .codecMismatch _ (.badScalar _ _) | .codecMismatch _ .labelNotUtf8
  | .codecMismatch _ (.notAMember _ _) | .codecMismatch _ (.dimensions _)
  | .codecMismatch _ .missingElement | .codecMismatch _ .missingField
  | .codecMismatch _ (.missingValue _) => True
  | _ => False

lemma Reader.IsFraming.isAboutData {e : Error} (h : IsFraming e) : e.IsAboutData := by
  cases e <;> first | exact trivial | exact h.elim

lemma Scalar.IsBadPayload.isAboutData {path : Path} {kind : ScalarKind} {e : Error}
    (h : IsBadPayload path kind e) : e.IsAboutData := by
  rcases h with hframing | ⟨what, rfl⟩
  · exact hframing.isAboutData
  · exact trivial

mutual

/-- Faults of bytes are about data. -/
theorem Descriptor.HasFault.isAboutData {d : Descriptor} {shape : Shape} {path : Path}
    {bytes : Bytes} {e : Error} : d.HasFault shape path bytes e → e.IsAboutData
  | .optional _ hfault | .fields _ _ _ hfault | .elements _ _ hfault | .items _ _ hfault =>
    hfault.isAboutData
  | .scalar _ _ he => he.isAboutData
  | .noDimensions _ _ _ he => he.isAboutData
  | .noFieldCount _ _ _ _ hcount | .noElementCount _ _ _ _ hcount =>
    (failsWith_framing_nat 4 _ _ _ hcount).isAboutData
  | .labelNotUtf8 _ _ _ _ | .notAMember _ _ _ _ | .fieldCount _ _ _ _ _ _
  | .elementCount _ _ _ _ _ | .dimensions _ _ _ _ _ => trivial

theorem Descriptor.FieldsFault.isAboutData {fields : List (WireField × Descriptor)}
    {shapes : List (String × Shape)} {path : Path} {bytes : Bytes} {e : Error} :
    FieldsFault fields shapes path bytes e → e.IsAboutData
  | .cut _ _ _ _ hread => (failsWith_framing_element _ _ _ hread).isAboutData
  | .missing _ _ _ _ _ _ _ => trivial
  | .here _ _ _ hfault | .later _ _ hfault => hfault.isAboutData

theorem Descriptor.ElementsFault.isAboutData {elements : List Descriptor} {shapes : List Shape}
    {path : Path} {i : Nat} {bytes : Bytes} {e : Error} :
    ElementsFault elements shapes path i bytes e → e.IsAboutData
  | .cut _ _ _ _ _ _ hread => (failsWith_framing_element _ _ _ hread).isAboutData
  | .missing _ _ _ _ _ _ _ => trivial
  | .here _ _ _ hfault | .later _ _ _ hfault => hfault.isAboutData

theorem Descriptor.ItemsFault.isAboutData {d : Descriptor} {shape : Shape} {path : Path}
    {count : Nat} {bytes : Bytes} {e : Error} : ItemsFault d shape path count bytes e → e.IsAboutData
  | .cut _ _ _ _ hread => (failsWith_framing_sized _ _ _ hread).isAboutData
  | .missing _ _ _ _ _ => trivial
  | .here _ _ hfault | .later _ hfault => hfault.isAboutData

end

end QueryWire
