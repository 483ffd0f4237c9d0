import QueryWire.Proofs.Descriptor.Grammar
import QueryWire.Proofs.Wire.Delimited

/-!
# Reading one record

A record is read where it is written and may stand, and its positions are looked up in the table of
the types that the records before it stand for.

* `Descriptor.reads_reference`, `reads_objectField`, `reads_tupleField`, `Reads.counted` — the parts
  of a record.
* **`Descriptor.record_eq_ok`** — which bytes are read as a record, and as which type.
* **`Descriptor.delimits_record`**, **`Descriptor.failsOnType_record`** — a record that is cut short
  lacks bytes, and what is refused is refused as the description of a type.
-/

namespace QueryWire

/-- An error about the description of a type. -/
def Error.IsDescription : Error → Prop
  | .descriptor _ => True
  | _ => False

namespace Descriptor

open Reader

/-! ## Parts -/

section

variable (table : Table)

/-- The type at a position of a table. -/
def typeAt (position : Nat) : Descriptor := table.getD position empty

/-- A position of a table stands for the type there. -/
def referenceForm : Form Nat Descriptor := ⟨PositionFits table.size, positionBytes, typeAt table⟩

/-- A field of an object whose type is in a table. -/
def fieldForm : Form FieldRecord ObjectField :=
  ⟨FieldRecord.Fits table.size, FieldRecord.bytes, FieldRecord.fill (typeAt table)⟩

/-- A field of a named tuple whose type is in a table. -/
def memberForm : Form MemberRecord TupleField :=
  ⟨MemberRecord.Fits table.size, MemberRecord.bytes, MemberRecord.fill (typeAt table)⟩

variable {table}

lemma typeAt_eq {position : Nat} {d : Descriptor} (h : table[position]? = some d) :
    typeAt table position = d := by
  rw [typeAt, Array.getD_eq_getD_getElem?, h]
  rfl

lemma reads_reference : (reference table).Reads (referenceForm table) := by
  intro bytes d rest
  constructor
  · intro h
    obtain ⟨position, middle, hposition, hresolve⟩ := bind_eq_ok.1 h
    obtain ⟨hlt, rfl⟩ := nat_eq_ok.1 hposition
    cases hget : table[position]? with
    | none =>
      rw [resolve, hget] at hresolve
      cases hresolve
    | some type =>
      rw [resolve, hget] at hresolve
      cases hresolve
      obtain ⟨hknown, -⟩ := Array.getElem?_eq_some_iff.1 hget
      exact ⟨position, ⟨hlt, hknown⟩, (typeAt_eq hget).symm, rfl⟩
  · rintro ⟨position, ⟨hlt, hknown⟩, rfl, rfl⟩
    have hget : table[position]? = some table[position] := Array.getElem?_eq_getElem hknown
    simp only [reference, referenceForm, positionBytes]
    rw [bind_of_ok (nat_encode hlt rest), resolve, hget, typeAt_eq hget]
    rfl

lemma cardinality_eq_ok {bytes rest : Bytes} {c : Cardinality} :
    cardinality bytes = .ok c rest ↔ bytes = c.code :: rest := by
  constructor
  · intro h
    obtain ⟨code, middle, hcode, hknown⟩ := bind_eq_ok.1 h
    obtain rfl := u8_eq_ok.1 hcode
    cases hfind : Cardinality.ofCode? code with
    | none =>
      rw [hfind] at hknown
      cases hknown
    | some found =>
      rw [hfind] at hknown
      cases hknown
      rw [Cardinality.ofCode?] at hfind
      have hcode := List.find?_some hfind
      rw [eq_of_beq hcode]
  · rintro rfl
    simp only [cardinality]
    rw [bind_of_ok (u8_cons _ rest), Cardinality.ofCode?_code]
    rfl

lemma reads_objectField : (objectField table).Reads (fieldForm table) := by
  intro bytes field rest
  constructor
  · intro h
    obtain ⟨flags, _, hflags, h⟩ := bind_eq_ok.1 h
    obtain ⟨cardinality, _, hcardinality, h⟩ := bind_eq_ok.1 h
    obtain ⟨name, _, hname, h⟩ := bind_eq_ok.1 h
    obtain ⟨type, _, htype, h⟩ := bind_eq_ok.1 h
    cases h
    obtain ⟨_, hnameFits, rfl, rfl⟩ := (reads_text _ _ _).1 hname
    obtain ⟨position, hposition, rfl, rfl⟩ := (reads_reference _ _ _).1 htype
    refine ⟨⟨⟨flags⟩, cardinality, _, position⟩, ⟨hnameFits, hposition⟩, rfl, ?_⟩
    rw [u32_eq_ok.1 hflags, cardinality_eq_ok.1 hcardinality]
    simp only [fieldForm, FieldRecord.bytes, referenceForm, List.append_assoc, List.cons_append]
  · rintro ⟨⟨⟨flags⟩, cardinality, name, position⟩, ⟨hname, hposition⟩, rfl, rfl⟩
    have hreference : reference table (positionBytes position ++ rest)
        = .ok (typeAt table position) rest := reads_reference.ok hposition rest
    simp only [objectField, fieldForm, FieldRecord.bytes, List.append_assoc, List.cons_append]
    rw [bind_of_ok (u32_encode flags _), bind_of_ok (cardinality_eq_ok.2 rfl),
      bind_of_ok (reads_text.ok hname _), bind_of_ok hreference]
    rfl

lemma reads_tupleField : (tupleField table).Reads (memberForm table) := by
  intro bytes field rest
  constructor
  · intro h
    obtain ⟨name, _, hname, h⟩ := bind_eq_ok.1 h
    obtain ⟨type, _, htype, h⟩ := bind_eq_ok.1 h
    cases h
    obtain ⟨_, hnameFits, rfl, rfl⟩ := (reads_text _ _ _).1 hname
    obtain ⟨position, hposition, rfl, rfl⟩ := (reads_reference _ _ _).1 htype
    refine ⟨⟨_, position⟩, ⟨hnameFits, hposition⟩, rfl, ?_⟩
    simp only [memberForm, MemberRecord.bytes, referenceForm, List.append_assoc]
  · rintro ⟨⟨name, position⟩, ⟨hname, hposition⟩, rfl, rfl⟩
    have hreference : reference table (positionBytes position ++ rest)
        = .ok (typeAt table position) rest := reads_reference.ok hposition rest
    simp only [tupleField, memberForm, MemberRecord.bytes, List.append_assoc]
    rw [bind_of_ok (reads_text.ok hname _), bind_of_ok hreference]
    rfl

lemma Reads.counted {σ α : Type} {part : Reader α} {form : Form σ α} (h : part.Reads form) :
    (counted part).Reads form.counted := by
  intro bytes values rest
  constructor
  · intro hread
    obtain ⟨n, _, hn, hlist⟩ := bind_eq_ok.1 hread
    obtain ⟨hlt, rfl⟩ := nat_eq_ok.1 hn
    obtain ⟨row, ⟨rfl, hrow⟩, rfl, rfl⟩ := (h.list n _ _ _).1 hlist
    exact ⟨row, ⟨hlt, hrow⟩, rfl, (List.append_assoc _ _ _).symm⟩
  · rintro ⟨row, ⟨hlt, hrow⟩, rfl, rfl⟩
    simp only [Descriptor.counted, Form.counted, Bytes.counted, List.append_assoc]
    rw [bind_of_ok (nat_encode hlt _)]
    exact (h.list row.length).ok ⟨rfl, hrow⟩ rest

/-! ## Records -/

/-- What is written in a form is read as its value under any function. -/
lemma Reads.map {σ α β : Type} {part : Reader α} {form : Form σ α} (h : part.Reads form)
    (f : α → β) {bytes rest : Bytes} {b : β} :
    (part >>= fun a => pure (f a)) bytes = .ok b rest
      ↔ ∃ written, form.Fits written ∧ b = f (form.value written)
        ∧ bytes = form.bytes written ++ rest := by
  constructor
  · intro hread
    obtain ⟨a, _, ha, hpure⟩ := bind_eq_ok.1 hread
    cases hpure
    obtain ⟨written, hfits, rfl, rfl⟩ := (h _ _ _).1 ha
    exact ⟨written, hfits, rfl, rfl⟩
  · rintro ⟨written, hfits, rfl, rfl⟩
    rw [bind_of_ok (h.ok hfits rest)]
    rfl

/-- Which bytes are read as what stands behind a tag and an identifier. -/
lemma body_eq_ok {tag : UInt8} {id : Uuid} {bytes rest : Bytes} {d : Descriptor} :
    body table tag id bytes = .ok d rest
      ↔ ∃ r : Record, r.Fits table.size ∧ r.tag = tag ∧ r.id = id ∧ d = r.fill (typeAt table)
        ∧ bytes = r.content ++ rest := by
  constructor
  · intro h
    unfold body at h
    split at h
    · obtain ⟨element, hfits, rfl, rfl⟩ := (Reads.map reads_reference _).1 h
      exact ⟨.set id element, hfits, rfl, rfl, rfl, rfl⟩
    · obtain ⟨fields, hfits, rfl, rfl⟩ := (Reads.map (Reads.counted reads_objectField) _).1 h
      exact ⟨.object id fields, hfits, rfl, rfl, rfl, rfl⟩
    · cases h
      exact ⟨.baseScalar id, trivial, rfl, rfl, rfl, rfl⟩
    · obtain ⟨base, hfits, rfl, rfl⟩ := (Reads.map reads_reference _).1 h
      exact ⟨.scalar id base, hfits, rfl, rfl, rfl, rfl⟩
    · obtain ⟨elements, hfits, rfl, rfl⟩ := (Reads.map (Reads.counted reads_reference) _).1 h
      exact ⟨.tuple id elements, hfits, rfl, rfl, rfl, rfl⟩
    · obtain ⟨fields, hfits, rfl, rfl⟩ := (Reads.map (Reads.counted reads_tupleField) _).1 h
      exact ⟨.namedTuple id fields, hfits, rfl, rfl, rfl, rfl⟩
    · obtain ⟨_, _, helement, hdimensions⟩ := bind_eq_ok.1 h
      obtain ⟨element, hfits, rfl, rfl⟩ := (reads_reference _ _ _).1 helement
      obtain ⟨dimensions, hfits', rfl, rfl⟩ :=
        (Reads.map (Reads.counted reads_i32) _).1 hdimensions
      refine ⟨.array id element dimensions, ⟨hfits, hfits'⟩, rfl, rfl, ?_,
        (List.append_assoc _ _ _).symm⟩
      exact congrArg (Descriptor.array id _) (List.map_id _)
    · obtain ⟨members, hfits, rfl, rfl⟩ := (Reads.map (Reads.counted reads_text) _).1 h
      exact ⟨.enum id members, hfits, rfl, rfl, congrArg (Descriptor.enum id) (List.map_id _), rfl⟩
    · split at h
      · rename_i htag
        obtain ⟨text, hfits, rfl, rfl⟩ := (Reads.map reads_text _).1 h
        exact ⟨.remark id tag text, ⟨htag, hfits⟩, rfl, rfl, rfl, rfl⟩
      · cases h
  · rintro ⟨r, hfits, rfl, rfl, rfl, rfl⟩
    cases r with
    | set id element => exact (Reads.map reads_reference _).2 ⟨element, hfits, rfl, rfl⟩
    | object id fields =>
      exact (Reads.map (Reads.counted reads_objectField) _).2 ⟨fields, hfits, rfl, rfl⟩
    | baseScalar id => rfl
    | scalar id base => exact (Reads.map reads_reference _).2 ⟨base, hfits, rfl, rfl⟩
    | tuple id elements =>
      exact (Reads.map (Reads.counted reads_reference) _).2 ⟨elements, hfits, rfl, rfl⟩
    | namedTuple id fields =>
      exact (Reads.map (Reads.counted reads_tupleField) _).2 ⟨fields, hfits, rfl, rfl⟩
    | array id element dimensions =>
      obtain ⟨hfits, hfits'⟩ := hfits
      refine bind_eq_ok.2 ⟨typeAt table element, Bytes.counted Form.i32.bytes dimensions ++ rest,
        (reads_reference _ _ _).2 ⟨element, hfits, rfl, List.append_assoc _ _ _⟩, ?_⟩
      exact (Reads.map (Reads.counted reads_i32) _).2
        ⟨dimensions, hfits', congrArg (Descriptor.array id _) (List.map_id _).symm, rfl⟩
    | enum id members =>
      exact (Reads.map (Reads.counted reads_text) _).2
        ⟨members, hfits, congrArg (Descriptor.enum id) (List.map_id _).symm, rfl⟩
    | remark id tag text =>
      obtain ⟨htag, hfits⟩ := hfits
      have hbody : body table tag id = (do return .remark id tag (← Reader.text)) := by
        -- the tag is none of the eight small ones
        unfold body
        split
        all_goals first
          | exact absurd htag (by decide)
          | exact if_pos htag
      exact (congrFun hbody _).trans ((Reads.map reads_text _).2 ⟨text, hfits, rfl, rfl⟩)

/-- **Records.**  A record is read where it is written and may stand behind those of the table, and
its positions are those of the types there. -/
theorem record_eq_ok {tag : UInt8} {bytes rest : Bytes} {d : Descriptor} :
    record table tag bytes = .ok d rest
      ↔ ∃ r : Record, r.Fits table.size ∧ d = r.fill (typeAt table)
        ∧ tag :: bytes = r.bytes ++ rest := by
  constructor
  · intro h
    obtain ⟨id, _, hid, hbody⟩ := bind_eq_ok.1 h
    obtain ⟨r, hfits, rfl, rfl, rfl, rfl⟩ := body_eq_ok.1 hbody
    refine ⟨r, hfits, rfl, ?_⟩
    rw [uuid_eq_ok.1 hid, Record.bytes, List.cons_append, List.append_assoc]
  · rintro ⟨r, hfits, rfl, hbytes⟩
    rw [Record.bytes, List.cons_append, List.append_assoc] at hbytes
    obtain ⟨rfl, rfl⟩ := List.cons.inj hbytes
    exact bind_eq_ok.2 ⟨r.id, r.content ++ rest, uuid_eq_ok.2 rfl,
      body_eq_ok.2 ⟨r, hfits, rfl, rfl, rfl, rfl⟩⟩

end

/-! ## Records that are cut short, and records that are refused -/

/-- **Cut records.**  A record takes all its bytes; a part of them is too short. -/
theorem delimits_record (table : Table) (tag : UInt8) : (record table tag).Delimits :=
  composes_record composes_delimits (fun _ => trivial) (fun _ => trivial) table tag

/-- **Refused records.**  The errors of a record are about types, once the stream is known to be
whole. -/
theorem failsOnType_record (table : Table) (tag : UInt8) :
    FailsWith (fun e => (cutShort e).IsDescription) (record table tag) :=
  composes_record (composes_failsWith fun _ _ => trivial) (fun _ => trivial) (fun _ => trivial)
    table tag

end Descriptor

end QueryWire
