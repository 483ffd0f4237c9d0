import QueryWire.Proofs.Codec.Parts
import QueryWire.Proofs.Codec.Record

/-!
# Decoders that suit a type and a shape

What a built decoder and a destination have to do with the shape that both were made for.

* `Slot.HasShape` — that a destination is one of a shape, whatever it contains.
* `Descriptor.HasDistinctNames` — that the fields of each object and each named tuple have names of
  their own.
* `Decoder.Suits` — that a decoder, part by part, is one of a type for a shape.
* **`Decoder.suits_of_build`** — a decoder that is built suits what it is built for.
-/

namespace QueryWire

/-! ## Destinations of a shape -/

/-- A destination is one of a shape, whatever it contains. -/
inductive Slot.HasShape : Slot → Shape → Prop where
  | scalar {value : Scalar} {kind : ScalarKind} (hkind : value.kind = kind) :
    HasShape (.scalar value) (.scalar kind)
  | absent (inner : Shape) : HasShape (.option inner none) (.optional .dropping inner)
  | present {value : Slot} {inner : Shape} (hvalue : HasShape value inner) :
    HasShape (.option inner (some value)) (.optional .dropping inner)
  | flagged (present : Bool) {value : Slot} {inner : Shape} (hvalue : HasShape value inner) :
    HasShape (.flagged present value) (.optional .keeping inner)
  | tuple {parts : List Slot} {shapes : List Shape} (hparts : List.Forall₂ HasShape parts shapes) :
    HasShape (.record parts) (.tuple shapes)
  | record (typeName : String) {parts : List Slot} {fields : List (String × Shape)}
    (hparts : List.Forall₂ HasShape parts (fields.map Prod.snd)) :
    HasShape (.record parts) (.record typeName fields)
  | sequence {items : List Slot} {element : Shape}
    (hitems : ∀ item ∈ items, HasShape item element) :
    HasShape (.sequence element items) (.sequence element)

mutual

/-- A fresh destination is one of its shape. -/
theorem Shape.hasShape_fresh (shape : Shape) : shape.fresh.HasShape shape := by
  cases shape with
  | scalar kind => exact .scalar kind.kind_fresh
  | optional wrapper inner =>
    cases wrapper with
    | dropping => exact .absent inner
    | keeping => exact .flagged false inner.hasShape_fresh
  | record typeName fields => exact .record typeName (hasShape_freshFields fields)
  | tuple elements => exact .tuple (hasShape_freshList elements)
  | sequence element =>
    refine .sequence fun item hitem => ?_
    cases hitem

theorem Shape.hasShape_freshList (shapes : List Shape) :
    List.Forall₂ Slot.HasShape (Shape.freshList shapes) shapes := by
  cases shapes with
  | nil => exact .nil
  | cons shape shapes => exact .cons shape.hasShape_fresh (hasShape_freshList shapes)

theorem Shape.hasShape_freshFields (fields : List (String × Shape)) :
    List.Forall₂ Slot.HasShape (Shape.freshFields fields) (fields.map Prod.snd) := by
  cases fields with
  | nil => exact .nil
  | cons field fields =>
    obtain ⟨name, shape⟩ := field
    exact .cons shape.hasShape_fresh (hasShape_freshFields fields)

end

/-- Whether a shape can record a missing value: an optional, or a sequence as an empty one. -/
def Shape.recordsMissing : Shape → Bool
  | .optional _ _ | .sequence _ => true
  | .scalar _ | .record _ _ | .tuple _ => false

/-- The kind of the destinations of a shape. -/
def Shape.kind : Shape → SlotKind
  | .scalar kind => .scalar kind
  | .optional _ _ => .optional
  | .record _ _ | .tuple _ => .record
  | .sequence _ => .sequence

lemma Slot.HasShape.kind_eq {slot : Slot} {shape : Shape} (h : slot.HasShape shape) :
    slot.kind = shape.kind := by
  cases h with
  | scalar hkind => exact congrArg SlotKind.scalar hkind
  | _ => rfl

/-! ## Parts of types -/

namespace Descriptor

/-- The fields of an object or a named tuple, with their types. -/
def fields? : Descriptor → Option (List (WireField × Descriptor))
  | .object _ fields => some (fields.map fun field => (field.wire, field.type))
  | .namedTuple _ fields => some (fields.map fun field => (field.wire, field.type))
  | _ => none

/-- The type of the items of an array or a set. -/
def item? : Descriptor → Option Descriptor
  | .array _ element _ | .set _ element => some element
  | _ => none

/-- What has fields has no items. -/
lemma item?_of_fields {d : Descriptor} {fields : List (WireField × Descriptor)}
    (h : d.fields? = some fields) : d.item? = none := by
  cases d <;> first | rfl | cases h

/-- The fields of each object and of each named tuple have names of their own. -/
inductive HasDistinctNames : Descriptor → Prop where
  | baseScalar (id : Uuid) : HasDistinctNames (.baseScalar id)
  | scalar (id : Uuid) (base : Descriptor) : HasDistinctNames (.scalar id base)
  | enum (id : Uuid) (members : List String) : HasDistinctNames (.enum id members)
  | remark (id : Uuid) (tag : UInt8) (text : String) : HasDistinctNames (.remark id tag text)
  | record {d : Descriptor} {fields : List (WireField × Descriptor)}
    (hfields : d.fields? = some fields) (hnames : (fields.map fun field => field.1.name).Nodup)
    (htypes : ∀ field ∈ fields, HasDistinctNames field.2) : HasDistinctNames d
  | tuple (id : Uuid) {elements : List Descriptor}
    (helements : ∀ element ∈ elements, HasDistinctNames element) :
    HasDistinctNames (.tuple id elements)
  | items {d element : Descriptor} (hitem : d.item? = some element)
    (helement : HasDistinctNames element) : HasDistinctNames d

lemma HasDistinctNames.of_fields {d : Descriptor} {fields : List (WireField × Descriptor)}
    (h : d.HasDistinctNames) (hfields : d.fields? = some fields) :
    (fields.map fun field => field.1.name).Nodup ∧ ∀ field ∈ fields, field.2.HasDistinctNames := by
  cases h with
  | record hfields' hnames htypes =>
    cases hfields.symm.trans hfields'
    exact ⟨hnames, htypes⟩
  | items hitem helement => cases hitem.symm.trans (item?_of_fields hfields)
  | _ => cases hfields

lemma HasDistinctNames.of_elements {id : Uuid} {elements : List Descriptor}
    (h : (Descriptor.tuple id elements).HasDistinctNames) :
    ∀ element ∈ elements, element.HasDistinctNames := by
  cases h with
  | record hfields hnames htypes => cases hfields
  | tuple id helements => exact helements
  | items hitem helement => cases hitem

lemma HasDistinctNames.of_item {d element : Descriptor} (h : d.HasDistinctNames)
    (hitem : d.item? = some element) : element.HasDistinctNames := by
  cases h with
  | record hfields hnames htypes => cases hitem.symm.trans (item?_of_fields hfields)
  | items hitem' helement =>
    cases hitem.symm.trans hitem'
    exact helement
  | _ => cases hitem

end Descriptor

/-! ## Decoders of a type for a shape -/

namespace Decoder

mutual

/-- A decoder is one of a type for a shape. -/
inductive Suits : Decoder → Descriptor → Shape → Prop where
  | optional (wrapper : Wrapper) {inner : Decoder} {d : Descriptor} {shape : Shape}
    (hinner : Suits inner d shape) : Suits (.optional inner) d (.optional wrapper shape)
  | scalar {d : Descriptor} {kind destination : ScalarKind} (hkind : d.scalarKind? = some kind)
    (hfits : kind.fitsInto destination = true) : Suits (.scalar d.id kind) d (.scalar destination)
  | enum (id : Uuid) (members : List String) :
    Suits (.enum id members) (.enum id members) (.scalar .str)
  | object (typeName : String) {d : Descriptor} {decoders : List FieldDecoder}
    {fields : List (WireField × Descriptor)} {shapes : List (String × Shape)}
    (hfields : d.fields? = some fields) (hdecoders : FieldsSuit decoders fields shapes) :
    Suits (.object d.id decoders) d (.record typeName shapes)
  | tuple (id : Uuid) {decoders : List Decoder} {elements : List Descriptor} {shapes : List Shape}
    (hdecoders : ElementsSuit decoders elements shapes) :
    Suits (.tuple id decoders) (.tuple id elements) (.tuple shapes)
  | array (id : Uuid) (dimensions : List Int32) {decoder : Decoder} {element : Descriptor}
    {shape : Shape} (hdecoder : Suits decoder element shape) :
    Suits (.array id decoder) (.array id element dimensions) (.sequence shape)
  | set (id : Uuid) {decoder : Decoder} {element : Descriptor} {shape : Shape}
    (hdecoder : Suits decoder element shape) :
    Suits (.set id decoder) (.set id element) (.sequence shape)

/-- The decoders of fields are ones of their types for the record fields of their names.  A field
that may be missing goes where that can be recorded, and one that is passed over was added by the
server. -/
inductive FieldsSuit :
    List FieldDecoder → List (WireField × Descriptor) → List (String × Shape) → Prop where
  | nil (shapes : List (String × Shape)) : FieldsSuit [] [] shapes
  | bound {field : WireField} {type : Descriptor} {index : Nat} {shape : Shape} {decoder : Decoder}
    {decoders : List FieldDecoder} {fields : List (WireField × Descriptor)}
    {shapes : List (String × Shape)} (hfind : findField field.name shapes = some (index, shape))
    (hmissing : field.required = true ∨ shape.recordsMissing = true)
    (hdecoder : Suits decoder type shape) (hothers : FieldsSuit decoders fields shapes) :
    FieldsSuit (.bound field.name index decoder :: decoders) ((field, type) :: fields) shapes
  | skipped {field : WireField} (type : Descriptor) {decoders : List FieldDecoder}
    {fields : List (WireField × Descriptor)} {shapes : List (String × Shape)}
    (hfind : findField field.name shapes = none) (himplicit : field.implicit = true)
    (hothers : FieldsSuit decoders fields shapes) :
    FieldsSuit (.skipped field.name :: decoders) ((field, type) :: fields) shapes

/-- The decoders of elements are ones of their types for their shapes. -/
inductive ElementsSuit : List Decoder → List Descriptor → List Shape → Prop where
  | nil : ElementsSuit [] [] []
  | cons {decoder : Decoder} {element : Descriptor} {shape : Shape} {decoders : List Decoder}
    {elements : List Descriptor} {shapes : List Shape} (hdecoder : Suits decoder element shape)
    (hothers : ElementsSuit decoders elements shapes) :
    ElementsSuit (decoder :: decoders) (element :: elements) (shape :: shapes)

end

/-- Decoder and shape agree on whether a missing value can be recorded. -/
lemma Suits.supportsMissing_eq {decoder : Decoder} {d : Descriptor} {shape : Shape}
    (h : decoder.Suits d shape) : decoder.supportsMissing = shape.recordsMissing := by
  cases h <;> rfl

lemma FieldsSuit.length_eq {decoders : List FieldDecoder} {fields : List (WireField × Descriptor)}
    {shapes : List (String × Shape)} (h : FieldsSuit decoders fields shapes) :
    decoders.length = fields.length := by
  induction decoders generalizing fields with
  | nil =>
    cases h
    rfl
  | cons decoder decoders ih =>
    cases h with
    | bound hfind hmissing hdecoder hothers => exact congrArg (· + 1) (ih hothers)
    | skipped type hfind himplicit hothers => exact congrArg (· + 1) (ih hothers)

lemma ElementsSuit.length_eq {decoders : List Decoder} {elements : List Descriptor}
    {shapes : List Shape} (h : ElementsSuit decoders elements shapes) :
    decoders.length = elements.length ∧ decoders.length = shapes.length := by
  induction decoders generalizing elements shapes with
  | nil =>
    cases h
    exact ⟨rfl, rfl⟩
  | cons decoder decoders ih =>
    cases h with
    | cons hdecoder hothers =>
      obtain ⟨helements, hshapes⟩ := ih hothers
      exact ⟨congrArg (· + 1) helements, congrArg (· + 1) hshapes⟩

/-! ## Building -/

/-- Each optional around a shape is one around the decoder. -/
lemma suits_of_throughOptionals {d : Descriptor} (shape : Shape)
    {build : Shape → Except Error Decoder}
    (hbuild : ∀ shape decoder, build shape = .ok decoder → decoder.Suits d shape)
    {decoder : Decoder} (h : throughOptionals shape build = .ok decoder) : decoder.Suits d shape := by
  induction shape, build using throughOptionals.induct generalizing decoder with
  | case1 wrapper inner build ih =>
    rw [throughOptionals] at h
    obtain ⟨decoder, hdecoder, rfl⟩ := Except.map_eq_ok.1 h
    exact .optional wrapper (ih hbuild hdecoder)
  | case2 shape build hshape =>
    rw [throughOptionals.eq_2 shape build hshape] at h
    exact hbuild shape decoder h

lemma suits_of_buildScalar {d : Descriptor} {shape : Shape} {path : Path} {decoder : Decoder}
    (h : buildScalar d shape path = .ok decoder) : decoder.Suits d shape := by
  obtain ⟨kind, hkind, h⟩ := Except.bind_eq_ok.1 h
  split at h
  · split at h
    · rename_i hfits
      cases h
      exact .scalar (scalarKind_eq_ok hkind) hfits
    · cases h
  · cases h

/-- A field that is built comes in front of others that are. -/
lemma FieldsSuit.cons_of_buildField {field : WireField} {type : Descriptor} {typeName : String}
    {shapes : List (String × Shape)} {path : Path} {build : Shape → Except Error Decoder}
    (hbuild : ∀ shape decoder, build shape = .ok decoder → decoder.Suits type shape)
    {first : FieldDecoder} (h : buildField field typeName shapes path build = .ok first)
    {decoders : List FieldDecoder} {fields : List (WireField × Descriptor)}
    (hothers : FieldsSuit decoders fields shapes) :
    FieldsSuit (first :: decoders) ((field, type) :: fields) shapes := by
  simp only [buildField] at h
  split at h
  · rename_i index shape hfind
    obtain ⟨decoder, hdecoder, hbind⟩ := Except.bind_eq_ok.1 h
    have hsuits := hbuild shape decoder hdecoder
    simp only [bindField, hsuits.supportsMissing_eq] at hbind
    split at hbind
    · cases hbind
    · rename_i hmissing
      cases hbind
      refine .bound hfind ?_ hsuits hothers
      simpa [Bool.not_eq_true, or_iff_not_imp_left] using hmissing
  · rename_i hfind
    split at h
    · rename_i himplicit
      cases h
      exact .skipped type hfind himplicit hothers
    · cases h

mutual

/-- What is built for a shape suits it. -/
theorem suits_of_buildPlain (d : Descriptor) (shape : Shape) (path : Path) (decoder : Decoder)
    (h : buildPlain d shape path = .ok decoder) : decoder.Suits d shape := by
  cases d with
  | baseScalar id => exact suits_of_buildScalar h
  | scalar id base => exact suits_of_buildScalar h
  | enum id members =>
    simp only [buildPlain] at h
    split at h <;> cases h
    exact .enum id members
  | object id fields =>
    simp only [buildPlain] at h
    split at h
    · rename_i typeName shapes
      obtain ⟨decoders, hdecoders, rfl⟩ := Except.bind_pure_eq_ok.1 h
      exact .object typeName (d := .object id fields) rfl
        (fieldsSuit_of_buildObjectFields fields typeName shapes path decoders hdecoders)
    · cases h
  | namedTuple id fields =>
    simp only [buildPlain] at h
    split at h
    · rename_i typeName shapes
      obtain ⟨decoders, hdecoders, rfl⟩ := Except.bind_pure_eq_ok.1 h
      exact .object typeName (d := .namedTuple id fields) rfl
        (fieldsSuit_of_buildTupleFields fields typeName shapes path decoders hdecoders)
    · cases h
  | tuple id elements =>
    simp only [buildPlain] at h
    split at h
    · rename_i shapes
      split at h
      · rename_i hlength
        obtain ⟨decoders, hdecoders, rfl⟩ := Except.bind_pure_eq_ok.1 h
        exact .tuple id
          (elementsSuit_of_buildElements elements shapes path 0 hlength decoders hdecoders)
      · cases h
    · cases h
  | array id element dimensions =>
    simp only [buildPlain] at h
    split at h
    · obtain ⟨decoder, hdecoder, rfl⟩ := Except.bind_pure_eq_ok.1 h
      exact .array id dimensions (suits_of_throughOptionals _
        (fun shape => suits_of_buildPlain element shape path.element) hdecoder)
    · cases h
  | set id element =>
    simp only [buildPlain] at h
    split at h
    · obtain ⟨decoder, hdecoder, rfl⟩ := Except.bind_pure_eq_ok.1 h
      exact .set id (suits_of_throughOptionals _
        (fun shape => suits_of_buildPlain element shape path.element) hdecoder)
    · cases h
  | remark id tag text => cases h

theorem fieldsSuit_of_buildObjectFields (fields : List ObjectField) (typeName : String)
    (shapes : List (String × Shape)) (path : Path) (decoders : List FieldDecoder)
    (h : buildObjectFields fields typeName shapes path = .ok decoders) :
    FieldsSuit decoders (fields.map fun field => (field.wire, field.type)) shapes := by
  cases fields with
  | nil =>
    cases h
    exact .nil shapes
  | cons field fields =>
    cases field with
    | mk name flags cardinality type =>
      obtain ⟨first, others, hfirst, hothers, rfl⟩ := Except.bind_bind_pure_eq_ok.1 h
      refine .cons_of_buildField (fun shape decoder hdecoder => ?_) hfirst
        (fieldsSuit_of_buildObjectFields fields typeName shapes path others hothers)
      exact suits_of_throughOptionals shape
        (fun shape => suits_of_buildPlain type shape (path.field name)) hdecoder

theorem fieldsSuit_of_buildTupleFields (fields : List TupleField) (typeName : String)
    (shapes : List (String × Shape)) (path : Path) (decoders : List FieldDecoder)
    (h : buildTupleFields fields typeName shapes path = .ok decoders) :
    FieldsSuit decoders (fields.map fun field => (field.wire, field.type)) shapes := by
  cases fields with
  | nil =>
    cases h
    exact .nil shapes
  | cons field fields =>
    cases field with
    | mk name type =>
      obtain ⟨first, others, hfirst, hothers, rfl⟩ := Except.bind_bind_pure_eq_ok.1 h
      refine .cons_of_buildField (fun shape decoder hdecoder => ?_) hfirst
        (fieldsSuit_of_buildTupleFields fields typeName shapes path others hothers)
      exact suits_of_throughOptionals shape
        (fun shape => suits_of_buildPlain type shape (path.field name)) hdecoder

theorem elementsSuit_of_buildElements (elements : List Descriptor) (shapes : List Shape)
    (path : Path) (i : Nat) (hlength : shapes.length = elements.length) (decoders : List Decoder)
    (h : buildElements elements shapes path i = .ok decoders) :
    ElementsSuit decoders elements shapes := by
  cases elements with
  | nil =>
    cases List.length_eq_zero_iff.1 hlength
    cases h
    exact .nil
  | cons element elements =>
    cases shapes with
    | nil => cases hlength
    | cons shape shapes =>
      obtain ⟨first, others, hfirst, hothers, rfl⟩ := Except.bind_bind_pure_eq_ok.1 h
      refine .cons ?_ (elementsSuit_of_buildElements elements shapes path (i + 1)
        (Nat.succ.inj hlength) others hothers)
      exact suits_of_throughOptionals shape
        (fun shape => suits_of_buildPlain element shape (path.index i)) hfirst

end

/-- **A decoder that is built** suits the type and the shape it is built for. -/
theorem suits_of_build {d : Descriptor} {shape : Shape} {decoder : Decoder}
    (h : build d shape = .ok decoder) : decoder.Suits d shape :=
  suits_of_throughOptionals shape (fun shape => suits_of_buildPlain d shape .result) h

end Decoder

end QueryWire
