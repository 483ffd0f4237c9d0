import QueryWire.Descriptor.Parser
import QueryWire.Proofs.Wire.Forms

/-!
# The grammar of a descriptor stream

A stream is a row of records, one directly behind the other.  A record has positions where a type
has other types; the type that it stands for is the tree that comes about when each position is
replaced by the type that the record there stands for.

* `Descriptor.Record` — a record, with positions in place of types.
* `Record.bytes`, `Record.Fits` — how a record is written, and that it may stand behind so many
  others.
* `Record.fill` — the type that a record is once its positions are replaced.
* `Descriptor.Stands` — the type that the record at a position of a row stands for.
* `Descriptor.IsStream` — that bytes are a row of records, each of which names only earlier ones.
* `Descriptor.IsRoot` — the type that a row of records describes.
* **`Stands.unique`**, **`IsRoot.unique`** — there is at most one such type.
-/

namespace QueryWire

namespace Descriptor

/-- A field of an object, with the position of its type. -/
structure FieldRecord where
  flags : FieldFlags
  cardinality : Cardinality
  name : String
  position : Nat

/-- A field of a named tuple, with the position of its type. -/
structure MemberRecord where
  name : String
  position : Nat

/-- A record of a stream, with positions in place of the types that it names. -/
inductive Record where
  | set (id : Uuid) (element : Nat)
  | object (id : Uuid) (fields : List FieldRecord)
  | baseScalar (id : Uuid)
  | scalar (id : Uuid) (base : Nat)
  | tuple (id : Uuid) (elements : List Nat)
  | namedTuple (id : Uuid) (fields : List MemberRecord)
  | array (id : Uuid) (element : Nat) (dimensions : List Int32)
  | enum (id : Uuid) (members : List String)
  | remark (id : Uuid) (tag : UInt8) (text : String)

/-! ## Writing -/

/-- A position, in two bytes. -/
def positionBytes (position : Nat) : Bytes := BigEndian.encode 2 position

/-- A position behind which `known` records stand, and that two bytes can spell. -/
def PositionFits (known position : Nat) : Prop :=
  position < BigEndian.size 2 ∧ position < known

namespace FieldRecord

/-- The flags, the byte of the cardinality, the name behind its length, the position. -/
def bytes (field : FieldRecord) : Bytes :=
  BigEndian.encode 4 field.flags.bits.toNat ++ field.cardinality.code
    :: (Form.text.bytes field.name ++ positionBytes field.position)

/-- The name is not too long, and the position is that of an earlier record. -/
def Fits (known : Nat) (field : FieldRecord) : Prop :=
  Form.text.Fits field.name ∧ PositionFits known field.position

end FieldRecord

namespace MemberRecord

/-- The name behind its length, the position. -/
def bytes (field : MemberRecord) : Bytes :=
  Form.text.bytes field.name ++ positionBytes field.position

/-- The name is not too long, and the position is that of an earlier record. -/
def Fits (known : Nat) (field : MemberRecord) : Prop :=
  Form.text.Fits field.name ∧ PositionFits known field.position

end MemberRecord

/-- As many things as a count of two bytes can tell, all of which fit. -/
def RowFits {α : Type} (P : α → Prop) (row : List α) : Prop :=
  row.length < BigEndian.size 2 ∧ ∀ item ∈ row, P item

namespace Record

/-- The byte that says which record it is. -/
def tag : Record → UInt8
  | .set _ _ => 0
  | .object _ _ => 1
  | .baseScalar _ => 2
  | .scalar _ _ => 3
  | .tuple _ _ => 4
  | .namedTuple _ _ => 5
  | .array _ _ _ => 6
  | .enum _ _ => 7
  | .remark _ tag _ => tag

/-- The identifier of the type. -/
def id : Record → Uuid
  | .set id _ | .object id _ | .baseScalar id | .scalar id _ | .tuple id _ | .namedTuple id _
  | .array id _ _ | .enum id _ | .remark id _ _ => id

/-- The part of a record behind its identifier. -/
def content : Record → Bytes
  | .set _ element => positionBytes element
  | .object _ fields => Bytes.counted FieldRecord.bytes fields
  | .baseScalar _ => []
  | .scalar _ base => positionBytes base
  | .tuple _ elements => Bytes.counted positionBytes elements
  | .namedTuple _ fields => Bytes.counted MemberRecord.bytes fields
  | .array _ element dimensions =>
    positionBytes element ++ Bytes.counted Form.i32.bytes dimensions
  | .enum _ members => Bytes.counted Form.text.bytes members
  | .remark _ _ text => Form.text.bytes text

/-- A record in writing: its tag, its identifier, its content. -/
def bytes (r : Record) : Bytes := r.tag :: (r.id.toBytes ++ r.content)

/-- A record may stand behind `known` others: counts and lengths can be told, its positions are
those of earlier records, remarks among them, and a remark has the tag of one. -/
def Fits (known : Nat) : Record → Prop
  | .set _ element => PositionFits known element
  | .object _ fields => RowFits (FieldRecord.Fits known) fields
  | .baseScalar _ => True
  | .scalar _ base => PositionFits known base
  | .tuple _ elements => RowFits (PositionFits known) elements
  | .namedTuple _ fields => RowFits (MemberRecord.Fits known) fields
  | .array _ element dimensions => PositionFits known element ∧ RowFits Form.i32.Fits dimensions
  | .enum _ members => RowFits Form.text.Fits members
  | .remark _ tag text => 0x80 ≤ tag ∧ Form.text.Fits text

/-- Whether a record is a remark and describes no type. -/
def isRemark : Record → Bool
  | .remark _ _ _ => true
  | _ => false

end Record

/-! ## Replacing the positions -/

section

variable (types : Nat → Descriptor)

/-- The field of an object, with types in place of positions. -/
def FieldRecord.fill (field : FieldRecord) : ObjectField :=
  .mk field.name field.flags field.cardinality (types field.position)

/-- The field of a named tuple, with types in place of positions. -/
def MemberRecord.fill (field : MemberRecord) : TupleField := .mk field.name (types field.position)

/-- A record with types in place of positions. -/
def Record.fill : Record → Descriptor
  | .set id element => .set id (types element)
  | .object id fields => .object id (fields.map (FieldRecord.fill types))
  | .baseScalar id => .baseScalar id
  | .scalar id base => .scalar id (types base)
  | .tuple id elements => .tuple id (elements.map types)
  | .namedTuple id fields => .namedTuple id (fields.map (MemberRecord.fill types))
  | .array id element dimensions => .array id (types element) dimensions
  | .enum id members => .enum id members
  | .remark id tag text => .remark id tag text

/-- The positions that a record names. -/
def Record.positions : Record → List Nat
  | .set _ element => [element]
  | .object _ fields => fields.map FieldRecord.position
  | .scalar _ base => [base]
  | .tuple _ elements => elements
  | .namedTuple _ fields => fields.map MemberRecord.position
  | .array _ element _ => [element]
  | .baseScalar _ | .enum _ _ | .remark _ _ _ => []

variable {types}

/-- Only the types at the positions that a record names matter. -/
lemma Record.fill_congr {types' : Nat → Descriptor} {r : Record}
    (h : ∀ position ∈ r.positions, types position = types' position) :
    r.fill types = r.fill types' := by
  cases r with
  | set id element => exact congrArg _ (h element List.mem_cons_self)
  | object id fields =>
    refine congrArg _ (List.map_congr_left fun field hfield => ?_)
    rw [FieldRecord.fill, FieldRecord.fill, h _ (List.mem_map_of_mem hfield)]
  | scalar id base => exact congrArg _ (h base List.mem_cons_self)
  | tuple id elements => exact congrArg _ (List.map_congr_left h)
  | namedTuple id fields =>
    refine congrArg _ (List.map_congr_left fun field hfield => ?_)
    rw [MemberRecord.fill, MemberRecord.fill, h _ (List.mem_map_of_mem hfield)]
  | array id element dimensions =>
    exact congrArg (Descriptor.array id · dimensions) (h element List.mem_cons_self)
  | baseScalar id => rfl
  | enum id members => rfl
  | remark id tag text => rfl

@[simp] lemma Record.isRemark_fill (r : Record) : (r.fill types).isRemark = r.isRemark := by
  cases r <;> rfl

/-- A record that fits names only records before it. -/
lemma Record.Fits.lt_of_mem {known : Nat} {r : Record} (h : r.Fits known) :
    ∀ position ∈ r.positions, position < known := by
  intro position hposition
  cases r with
  | set id element =>
    obtain rfl := List.mem_singleton.1 hposition
    exact h.2
  | object id fields =>
    obtain ⟨field, hfield, rfl⟩ := List.mem_map.1 hposition
    exact (h.2 field hfield).2.2
  | scalar id base =>
    obtain rfl := List.mem_singleton.1 hposition
    exact h.2
  | tuple id elements => exact (h.2 position hposition).2
  | namedTuple id fields =>
    obtain ⟨field, hfield, rfl⟩ := List.mem_map.1 hposition
    exact (h.2 field hfield).2.2
  | array id element dimensions =>
    obtain rfl := List.mem_singleton.1 hposition
    exact h.1.2
  | baseScalar id => cases hposition
  | enum id members => cases hposition
  | remark id tag text => cases hposition

end

/-! ## Rows of records -/

/-- The type that the record at a position of a row stands for: each position that it names is
replaced by the type that the record there stands for. -/
inductive Stands (records : List Record) : Nat → Descriptor → Prop where
  | mk {position : Nat} {r : Record} (types : Nat → Descriptor)
    (hrecord : records[position]? = some r)
    (htypes : ∀ named ∈ r.positions, Stands records named (types named)) :
    Stands records position (r.fill types)

/-- Bytes are a row of records, each of which fits behind those before it. -/
structure IsStream (records : List Record) (stream : Bytes) : Prop where
  bytes_eq : stream = records.flatMap Record.bytes
  fits : ∀ (position : Nat) (r : Record), records[position]? = some r → r.Fits position

/-- A row of records describes what the last of them that is no remark stands for, or else the
empty tuple. -/
inductive IsRoot (records : List Record) : Descriptor → Prop where
  | last {position : Nat} {r : Record} {d : Descriptor} (hrecord : records[position]? = some r)
    (hremark : r.isRemark = false)
    (hlast : ∀ later other, position < later → records[later]? = some other →
      other.isRemark = true)
    (hstands : Stands records position d) : IsRoot records d
  | none (hremarks : ∀ r ∈ records, r.isRemark = true) : IsRoot records empty

/-- **A record stands for one type.** -/
theorem Stands.unique {records : List Record} {position : Nat} {d d' : Descriptor}
    (h : Stands records position d) (h' : Stands records position d') : d = d' := by
  induction h generalizing d' with
  | mk types hrecord htypes ih =>
    cases h' with
    | mk types' hrecord' htypes' =>
      obtain rfl := Option.some.inj (hrecord.symm.trans hrecord')
      exact Record.fill_congr fun named hnamed => ih named hnamed (htypes' named hnamed)

/-- **A row of records describes one type.** -/
theorem IsRoot.unique {records : List Record} {d d' : Descriptor} (h : IsRoot records d)
    (h' : IsRoot records d') : d = d' := by
  cases h with
  | @last position r _ hrecord hremark hlast hstands =>
    cases h' with
    | @last position' r' _ hrecord' hremark' hlast' hstands' =>
      -- neither comes behind the other one
      have heq : position = position' := by
        rcases Nat.lt_trichotomy position position' with hlt | heq | hlt
        · exact absurd (hlast _ _ hlt hrecord') (Bool.eq_false_iff.1 hremark')
        · exact heq
        · exact absurd (hlast' _ _ hlt hrecord) (Bool.eq_false_iff.1 hremark)
      subst heq
      exact hstands.unique hstands'
    | none hremarks =>
      exact absurd (hremarks r (List.mem_of_getElem? hrecord)) (Bool.eq_false_iff.1 hremark)
  | none hremarks =>
    cases h' with
    | @last position r _ hrecord hremark _ _ =>
      exact absurd (hremarks r (List.mem_of_getElem? hrecord)) (Bool.eq_false_iff.1 hremark)
    | none => rfl

end Descriptor

end QueryWire
