import QueryWire.Wire.Reader

/-!
# Reading type descriptors

A descriptor stream is a row of records.  A record starts with its tag and its identifier; where
it names other types it gives their positions in the row, which must be earlier ones.  The last
record that is not an annotation is the type described; a row without one describes the empty
tuple.

* `Descriptor.parse` — the type that a stream describes.
* `DescriptorPair.parse` — the two types of a statement, checked against the identifiers that the
  server declared for them.
-/

namespace QueryWire

namespace Descriptor

/-- The records read so far. -/
abbrev Table := Array Descriptor

/-- The record at a position of a table. -/
def resolve (table : Table) (position : Nat) : Reader Descriptor :=
  match table[position]? with
  | some d => pure d
  | none => throw (.descriptor (.dangling position table.size))

/-- A reference to an earlier record. -/
def reference (table : Table) : Reader Descriptor := do resolve table (← Reader.nat 2)

/-- A cardinality. -/
def cardinality : Reader Cardinality := do
  let code ← Reader.u8
  match Cardinality.ofCode? code with
  | some c => pure c
  | none => throw (.descriptor (.unknownCardinality code))

/-- A field of an object. -/
def objectField (table : Table) : Reader ObjectField := do
  let flags ← Reader.u32
  let cardinality ← cardinality
  let name ← Reader.text
  let type ← reference table
  pure (.mk name ⟨flags⟩ cardinality type)

/-- A field of a named tuple. -/
def tupleField (table : Table) : Reader TupleField := do
  let name ← Reader.text
  let type ← reference table
  pure (.mk name type)

/-- A counted row of parts. -/
def counted (part : Reader α) : Reader (List α) := do Reader.list part (← Reader.nat 2)

/-- The part of a record behind its identifier. -/
def body (table : Table) (tag : UInt8) (id : Uuid) : Reader Descriptor :=
  match tag with
  | 0 => return .set id (← reference table)
  | 1 => return .object id (← counted (objectField table))
  | 2 => pure (.baseScalar id)
  | 3 => return .scalar id (← reference table)
  | 4 => return .tuple id (← counted (reference table))
  | 5 => return .namedTuple id (← counted (tupleField table))
  | 6 => do
    let element ← reference table
    let dimensions ← counted Reader.i32
    pure (.array id element dimensions)
  | 7 => return .enum id (← counted Reader.text)
  | tag =>
    if 0x80 ≤ tag then return .remark id tag (← Reader.text)
    else throw (.descriptor (.unknownTag tag))

/-- A record behind its tag. -/
def record (table : Table) (tag : UInt8) : Reader Descriptor := do body table tag (← Reader.uuid)

section

variable {P : Error → Prop} {Q : {α : Type} → Reader α → Prop} (h : Reader.Composes P Q)
  (hdescriptor : ∀ cause, P (.descriptor cause)) (hframing : ∀ cause, P (.framing cause))

include h

theorem composes_counted {part : Reader α} (hpart : Q part) : Q (counted part) :=
  h.bind (h.nat 2) fun n => h.list hpart n

include hdescriptor

theorem composes_reference (table : Table) : Q (reference table) := by
  refine h.bind (h.nat 2) fun position => ?_
  unfold resolve
  split
  · exact h.ofPure _
  · exact h.ofThrow (hdescriptor _)

theorem composes_cardinality : Q cardinality := by
  refine h.bind h.u8 fun code => ?_
  split
  · exact h.ofPure _
  · exact h.ofThrow (hdescriptor _)

include hframing

theorem composes_objectField (table : Table) : Q (objectField table) :=
  h.bind h.u32 fun _ => h.bind (composes_cardinality h hdescriptor) fun _ =>
    h.bind (h.text fun _ => hframing _) fun _ =>
      h.bind (composes_reference h hdescriptor table) fun _ => h.ofPure _

theorem composes_tupleField (table : Table) : Q (tupleField table) :=
  h.bind (h.text fun _ => hframing _) fun _ =>
    h.bind (composes_reference h hdescriptor table) fun _ => h.ofPure _

/-- Whatever passes on from readers to what is put together of them holds of records. -/
theorem composes_record (table : Table) (tag : UInt8) : Q (record table tag) := by
  have hreference := composes_reference h hdescriptor table
  have htext : Q Reader.text := h.text fun _ => hframing _
  refine h.bind h.uuid fun id => ?_
  unfold body
  split
  · exact h.bind hreference fun _ => h.ofPure _
  · exact h.bind (composes_counted h (composes_objectField h hdescriptor hframing table)) fun _ =>
      h.ofPure _
  · exact h.ofPure _
  · exact h.bind hreference fun _ => h.ofPure _
  · exact h.bind (composes_counted h hreference) fun _ => h.ofPure _
  · exact h.bind (composes_counted h (composes_tupleField h hdescriptor hframing table)) fun _ =>
      h.ofPure _
  · exact h.bind hreference fun _ => h.bind (composes_counted h h.i32) fun _ => h.ofPure _
  · exact h.bind (composes_counted h htext) fun _ => h.ofPure _
  · split
    · exact h.bind htext fun _ => h.ofPure _
    · exact h.ofThrow (hdescriptor _)

end

/-- No record leaves more unread than it found. -/
theorem shrinks_record (table : Table) (tag : UInt8) : (record table tag).Shrinks :=
  composes_record Reader.composes_shrinks (fun _ => trivial) (fun _ => trivial) table tag

/-- The whole stream arrived, so a record that is cut short is a malformed description. -/
def cutShort : Error → Error
  | .framing cause => .descriptor (.truncated cause)
  | e => e

/-- The records of a stream behind those of a table. -/
def records (table : Table) : Bytes → Except Error Table
  | [] => .ok table
  | tag :: rest =>
    match _h : record table tag rest with
    | .ok d rest => records (table.push d) rest
    | .error e _ => .error (cutShort e)
termination_by bytes => bytes.length
decreasing_by exact Nat.lt_succ_of_le (shrinks_record table tag _ _ _ _h)

/-- The type that a table of records describes. -/
def root (table : Table) : Descriptor :=
  (table.toList.reverse.find? fun d => !d.isRemark).getD empty

/-- The type that a stream describes. -/
def parse (stream : Bytes) : Except Error Descriptor := (records #[] stream).map root

/-- Refuses a type under another identifier than the declared one.  A stream without records says
nothing about its identifier. -/
def checkRoot (side : Side) (declared : Uuid) (stream : Bytes) (type : Descriptor) :
    Except Error Unit :=
  if !stream.isEmpty && type.id != declared then
    .error (.descriptor (.rootMismatch side type.id declared))
  else .ok ()

end Descriptor

/-- The streams of a statement's two types, with the identifiers declared for them. -/
structure StatementTypes where
  inputId : Uuid
  input : Bytes
  outputId : Uuid
  output : Bytes
deriving DecidableEq, Repr

/-- The two types that the streams of a statement describe. -/
def DescriptorPair.parse (types : StatementTypes) : Except Error DescriptorPair := do
  let input ← Descriptor.parse types.input
  let output ← Descriptor.parse types.output
  Descriptor.checkRoot .argument types.inputId types.input input
  Descriptor.checkRoot .result types.outputId types.output output
  pure ⟨input, output⟩

end QueryWire
