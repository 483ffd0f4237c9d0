import QueryWire.Codec.Scalar

/-!
# Decoding results

A decoder is built once for a type of the server and a destination shape, and then fills
destinations of that shape row after row.  Each part of a compound value has its length in front,
so a part is decoded from exactly its own bytes and the next part is found whatever became of
them.

* `Decoder` — what is done with the bytes of a value.
* `Decoder.decode` — a value into a destination; what was filled before an error stays filled.
* `Decoder.decodeMissing` — a missing value into a destination.
-/

namespace QueryWire

mutual

/-- What is done with the bytes of a value. -/
inductive Decoder where
  | scalar (id : Uuid) (kind : ScalarKind)
  /-- A label among `members`, into a text. -/
  | enum (id : Uuid) (members : List String)
  /-- An object or a named tuple, into a record. -/
  | object (id : Uuid) (fields : List FieldDecoder)
  | tuple (id : Uuid) (elements : List Decoder)
  | array (id : Uuid) (element : Decoder)
  | set (id : Uuid) (element : Decoder)
  /-- A value that may be missing. -/
  | optional (inner : Decoder)

/-- What is done with one field of an object. -/
inductive FieldDecoder where
  /-- The field goes into the part at `index` of the record. -/
  | bound (name : String) (index : Nat) (decoder : Decoder)
  /-- The field is passed over. -/
  | skipped (name : String)

end

/-- What decoding did: the destination as it is now, and the unread bytes or the error. -/
structure Decoded (α : Type) where
  contents : α
  result : Except Error Bytes

namespace Decoded

/-- A failure that leaves the destination as it is. -/
def fail (contents : α) (e : Error) : Decoded α := ⟨contents, .error e⟩

/-- The same outcome for a destination that holds the decoded one. -/
def map (f : α → β) (d : Decoded α) : Decoded β := ⟨f d.contents, d.result⟩

end Decoded

/-- A part of a compound value: its bytes, or none when it is missing. -/
abbrev Element := Option Bytes

/-- The length that stands for a missing part. -/
def missingLength : Nat := 0xFFFFFFFF

/-- A part behind its length. -/
def Element.sized : Reader Element := do
  let length ← Reader.nat 4
  if length = missingLength then pure none else return some (← Reader.raw length)

/-- A part of an object or tuple: a reserved word, the length, the bytes. -/
def Element.read : Reader Element := do
  Reader.discard 4
  sized

/-- Reads the count of parts of a compound value, which must be the expected one. -/
def checkCount (expected : Nat) : Reader Unit := do
  let actual ← Reader.nat 4
  if actual != expected then throw (.countMismatch expected actual)

/-- The count of items of an array or set; none for one without dimensions. -/
def readDimensions (path : Path) : Reader (Option Nat) := do
  let dimensions ← Reader.nat 4
  Reader.discard 8
  if dimensions = 0 then pure none
  else if dimensions = 1 then
    let length ← Reader.nat 4
    Reader.discard 4
    pure (some length)
  else throw (.codecMismatch path (.dimensions dimensions))

/-- The items of an array: those in `done` (last first) and `count` more.  A missing item is an
error; an item in progress counts as there. -/
def decodeItems (item : Bytes → Decoded Slot) (path : Path) :
    (count : Nat) → (done : List Slot) → (bytes : Bytes) → Decoded (List Slot)
  | 0, done, bytes => ⟨done.reverse, .ok bytes⟩
  | count + 1, done, bytes =>
    match Element.sized bytes with
    | .error e _ => .fail done.reverse e
    | .ok none _ => .fail done.reverse (.codecMismatch path .missingElement)
    | .ok (some payload) rest =>
      let d := item payload
      match d.result with
      | .error e => .fail (d.contents :: done).reverse e
      | .ok _ => decodeItems item path count (d.contents :: done) rest

namespace Decoder

/-- The identifier of the type that a decoder was built for. -/
def id : Decoder → Uuid
  | .scalar id _ | .enum id _ | .object id _ | .tuple id _ | .array id _ | .set id _ => id
  | .optional inner => inner.id

/-- Whether a missing value can be recorded: by an optional, or as an empty sequence. -/
def supportsMissing : Decoder → Bool
  | .optional _ | .array _ _ | .set _ _ => true
  | .scalar _ _ | .enum _ _ | .object _ _ | .tuple _ _ => false

/-- A label of an enumeration. -/
def readLabel (path : Path) (members : List String) : Reader String := do
  match Utf8.text? (← Reader.rest) with
  | none => throw (.codecMismatch path .labelNotUtf8)
  | some label =>
    if members.contains label then pure label
    else throw (.codecMismatch path (.notAMember members label))

/-- Records a missing value, when both the decoder and the destination can. -/
def decodeMissingAt (decoder : Decoder) (path : Path) (slot : Slot) : Slot × Except Error Unit :=
  match decoder, slot with
  | .optional _, .option inner _ => (.option inner none, .ok ())
  | .optional _, .flagged _ value => (.flagged false value, .ok ())
  | .array _ _, .sequence element _ => (.sequence element [], .ok ())
  | .set _ _, .sequence element _ => (.sequence element [], .ok ())
  | _, slot => (slot, .error (.codecMismatch path (.missingValue slot.kind)))

mutual

/-- Decodes the value at a place into a destination. -/
def decodeAt : Decoder → Path → Bytes → Slot → Decoded Slot
  | .optional inner, path, bytes, slot =>
    match slot with
    | .option shape _ =>
      (decodeAt inner path bytes shape.fresh).map fun value => .option shape (some value)
    | .flagged _ value => (decodeAt inner path bytes value).map (.flagged true)
    | slot => .fail slot (.codecMismatch path (.wrongSlot "optional" slot.kind))
  | .scalar _ kind, path, bytes, slot =>
    match slot with
    | .scalar value =>
      match readInto path kind value.kind bytes with
      | .ok value rest => ⟨.scalar value, .ok rest⟩
      | .error e _ => .fail (.scalar value) e
    | slot => .fail slot (.codecMismatch path (.wrongSlot kind.name slot.kind))
  | .enum _ members, path, bytes, slot =>
    match slot with
    | .scalar (.str text) =>
      match readLabel path members bytes with
      | .ok label rest => ⟨.scalar (.str label), .ok rest⟩
      | .error e _ => .fail (.scalar (.str text)) e
    | slot => .fail slot (.codecMismatch path (.wrongSlot "String" slot.kind))
  | .object _ fields, path, bytes, slot =>
    match slot with
    | .record parts =>
      match checkCount fields.length bytes with
      | .ok () rest => (decodeFields fields path [] rest parts).map .record
      | .error e _ => .fail (.record parts) e
    | slot => .fail slot (.codecMismatch path (.wrongSlot "record" slot.kind))
  | .tuple _ elements, path, bytes, slot =>
    match slot with
    | .record parts =>
      match checkCount elements.length bytes with
      | .ok () rest =>
        if parts.length = elements.length then
          (decodeElements elements path 0 rest parts).map .record
        else .fail (.record parts) (.countMismatch elements.length parts.length)
      | .error e _ => .fail (.record parts) e
    | slot => .fail slot (.codecMismatch path (.wrongSlot "tuple" slot.kind))
  | .array _ element, path, bytes, slot =>
    match slot with
    | .sequence shape _ =>
      match readDimensions path bytes with
      | .error e _ => .fail (.sequence shape []) e
      | .ok none rest => ⟨.sequence shape [], .ok rest⟩
      | .ok (some count) rest =>
        (decodeItems (fun payload => decodeAt element path.element payload shape.fresh)
          path.element count [] rest).map (.sequence shape)
    | slot => .fail slot (.codecMismatch path (.wrongSlot "sequence" slot.kind))
  | .set _ element, path, bytes, slot =>
    match slot with
    | .sequence shape _ =>
      match readDimensions path bytes with
      | .error e _ => .fail (.sequence shape []) e
      | .ok none rest => ⟨.sequence shape [], .ok rest⟩
      | .ok (some count) rest =>
        (decodeItems (fun payload => decodeAt element path.element payload shape.fresh)
          path.element count [] rest).map (.sequence shape)
    | slot => .fail slot (.codecMismatch path (.wrongSlot "sequence" slot.kind))

/-- Decodes the fields of an object into the parts of a record.  Each part is filled at most once;
`taken` lists those that were. -/
def decodeFields : List FieldDecoder → Path → (taken : List Nat) → Bytes → (parts : List Slot) →
    Decoded (List Slot)
  | [], _, _, bytes, parts => ⟨parts, .ok bytes⟩
  | .skipped _ :: fields, path, taken, bytes, parts =>
    match Element.read bytes with
    | .error e _ => .fail parts e
    | .ok _ rest => decodeFields fields path taken rest parts
  | .bound name index decoder :: fields, path, taken, bytes, parts =>
    match Element.read bytes with
    | .error e _ => .fail parts e
    | .ok element rest =>
      match parts[index]? with
      | none => .fail parts (.codecMismatch (path.field name) .noSlot)
      | some slot =>
        if taken.contains index then .fail parts (.codecMismatch (path.field name) .noSlot)
        else
          match element with
          | some payload =>
            let d := decodeAt decoder (path.field name) payload slot
            let parts := parts.set index d.contents
            match d.result with
            | .error e => .fail parts e
            | .ok _ => decodeFields fields path (index :: taken) rest parts
          | none =>
            match decodeMissingAt decoder (path.field name) slot with
            | (_, .error _) => .fail parts (.codecMismatch (path.field name) .missingField)
            | (slot, .ok ()) => decodeFields fields path (index :: taken) rest (parts.set index slot)

/-- Decodes the elements of a tuple, the first of them at position `i`, into as many parts. -/
def decodeElements : List Decoder → Path → (i : Nat) → Bytes → (parts : List Slot) →
    Decoded (List Slot)
  | decoder :: decoders, path, i, bytes, slot :: slots =>
    match Element.read bytes with
    | .error e _ => .fail (slot :: slots) e
    | .ok (some payload) rest =>
      let d := decodeAt decoder (path.index i) payload slot
      match d.result with
      | .error e => .fail (d.contents :: slots) e
      | .ok _ => (decodeElements decoders path (i + 1) rest slots).map (d.contents :: ·)
    | .ok none rest =>
      match decodeMissingAt decoder (path.index i) slot with
      | (slot, .error e) => .fail (slot :: slots) e
      | (slot, .ok ()) => (decodeElements decoders path (i + 1) rest slots).map (slot :: ·)
  | [], _, _, bytes, slots => ⟨slots, .ok bytes⟩
  | _ :: _, _, _, bytes, [] => ⟨[], .ok bytes⟩

end

/-- Decodes a result into a destination. -/
def decode (decoder : Decoder) (bytes : Bytes) (slot : Slot) : Decoded Slot :=
  decoder.decodeAt .result bytes slot

/-- Records a missing result in a destination. -/
def decodeMissing (decoder : Decoder) (slot : Slot) : Slot × Except Error Unit :=
  decoder.decodeMissingAt .result slot

end Decoder

end QueryWire
