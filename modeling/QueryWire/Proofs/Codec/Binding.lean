import Mathlib.Data.List.Forall2
import Mathlib.Logic.Relation
import QueryWire.Proofs.Codec.Suits

/-!
# What the fields of an object are bound to

Each field of an object is bound to the record field of its name.  Whether no two of them go to the
same part of the record is a matter of their names alone: the builder looks at one field after the
other and does not ask whether a name came up before.

* `Decoder.Contains` — the decoders inside a decoder.
* `Decoder.BindsApart` — that in no object inside it two fields are bound to one part.
* `Site.Contains` — the parts of a type and a shape, and their places, that building comes to.
* `Site.BindsAll` — that every field of every record is bound.
* `FieldDecoder.Binds` — that a field is bound as it should be.
* **`Site.Built.of_contains`** — every decoder inside a built one is built for a part of the type
  and the shape.
* **`FieldDecoder.nodup_indices_iff`** — fields are bound apart exactly when their names differ.
-/

namespace QueryWire

/-- A relation along two lists gives a partner at the same place. -/
lemma exists_partner_at {α β : Type} {R : α → β → Prop} {as : List α} {bs : List β}
    (h : List.Forall₂ R as bs) {i : Nat} {a : α} (hi : as[i]? = some a) :
    ∃ b, bs[i]? = some b ∧ R a b := by
  induction h generalizing i with
  | nil => cases hi
  | cons hfirst _ ih =>
    cases i with
    | zero =>
      cases hi
      exact ⟨_, rfl, hfirst⟩
    | succ i => exact ih hi

/-- A relation along two lists gives a partner to each item of the first. -/
lemma exists_partner {α β : Type} {R : α → β → Prop} {as : List α} {bs : List β}
    (h : List.Forall₂ R as bs) {a : α} (hmem : a ∈ as) : ∃ b ∈ bs, R a b := by
  obtain ⟨i, hi⟩ := List.mem_iff_getElem?.1 hmem
  obtain ⟨b, hb, hR⟩ := exists_partner_at h hi
  exact ⟨b, List.mem_of_getElem? hb, hR⟩

/-- A pair along two lists may be exchanged for another one. -/
lemma forall₂_replace {α β : Type} {R : α → β → Prop} {as : List α} {bs : List β}
    (h : List.Forall₂ R as bs) (i : Nat) {a : α} {b : β} (hab : R a b) :
    List.Forall₂ R (as.set i a) (bs.set i b) := by
  induction h generalizing i with
  | nil => exact .nil
  | cons hfirst hothers ih =>
    cases i with
    | zero => exact .cons hab hothers
    | succ i => exact .cons hfirst (ih i)

lemma set_of_getElem? {α : Type} {as : List α} {i : Nat} {a : α} (h : as[i]? = some a) :
    as.set i a = as := by
  obtain ⟨hlt, rfl⟩ := List.getElem?_eq_some_iff.1 h
  exact List.set_getElem_self hlt

/-! ## Decoders inside a decoder -/

namespace FieldDecoder

/-- The part of the record that a field is bound to. -/
def index? : FieldDecoder → Option Nat
  | .bound _ index _ => some index
  | .skipped _ => none

/-- The name of a field that is bound. -/
def boundName? : FieldDecoder → Option String
  | .bound name _ _ => some name
  | .skipped _ => none

/-- The parts of the record that fields are bound to. -/
def indices (fields : List FieldDecoder) : List Nat := fields.filterMap index?

/-- The names of the fields that are bound. -/
def boundNames (fields : List FieldDecoder) : List String := fields.filterMap boundName?

lemma mem_indices {fields : List FieldDecoder} {index : Nat} :
    index ∈ indices fields ↔ ∃ name inner, .bound name index inner ∈ fields := by
  rw [indices, List.mem_filterMap]
  constructor
  · rintro ⟨name | name, hmem, h⟩
    · cases h
      exact ⟨_, _, hmem⟩
    · cases h
  · rintro ⟨name, inner, hmem⟩
    exact ⟨_, hmem, rfl⟩

lemma mem_boundNames {fields : List FieldDecoder} {name : String} :
    name ∈ boundNames fields ↔ ∃ index inner, .bound name index inner ∈ fields := by
  rw [boundNames, List.mem_filterMap]
  constructor
  · rintro ⟨name | name, hmem, h⟩
    · cases h
      exact ⟨_, _, hmem⟩
    · cases h
  · rintro ⟨index, inner, hmem⟩
    exact ⟨_, hmem, rfl⟩

end FieldDecoder

namespace Decoder

/-- A decoder is used by another one for a part of its value. -/
inductive Child : Decoder → Decoder → Prop where
  | optional (inner : Decoder) : Child (.optional inner) inner
  | field (id : Uuid) {fields : List FieldDecoder} {name : String} {index : Nat} {inner : Decoder}
    (hmem : .bound name index inner ∈ fields) : Child (.object id fields) inner
  | element (id : Uuid) {elements : List Decoder} {inner : Decoder} (hmem : inner ∈ elements) :
    Child (.tuple id elements) inner
  | array (id : Uuid) (item : Decoder) : Child (.array id item) item
  | set (id : Uuid) (item : Decoder) : Child (.set id item) item

/-- A decoder is another one, or inside it at any depth. -/
def Contains : Decoder → Decoder → Prop := Relation.ReflTransGen Child

/-- In no object inside a decoder two fields are bound to the same part of the record. -/
def BindsApart (decoder : Decoder) : Prop :=
  ∀ id fields, decoder.Contains (.object id fields) → (FieldDecoder.indices fields).Nodup

lemma BindsApart.child {decoder inner : Decoder} (h : decoder.BindsApart)
    (hchild : decoder.Child inner) : inner.BindsApart :=
  fun id fields hcontains => h id fields (.head hchild hcontains)

/-! ## Types with distinct names -/

lemma FieldsSuit.of_mem {decoders : List FieldDecoder} {fields : List (WireField × Descriptor)}
    {shapes : List (String × Shape)} (h : FieldsSuit decoders fields shapes) {name : String}
    {index : Nat} {inner : Decoder} (hmem : .bound name index inner ∈ decoders) :
    ∃ field type shape, (field, type) ∈ fields ∧ findField field.name shapes = some (index, shape)
      ∧ inner.Suits type shape := by
  induction decoders generalizing fields with
  | nil => cases hmem
  | cons decoder decoders ih =>
    cases h with
    | bound hfind hmissing hdecoder hothers =>
      rcases List.mem_cons.1 hmem with heq | hmem
      · cases heq
        exact ⟨_, _, _, List.mem_cons_self, hfind, hdecoder⟩
      · obtain ⟨field, type, shape, hfield, hrest⟩ := ih hothers hmem
        exact ⟨field, type, shape, List.mem_cons_of_mem _ hfield, hrest⟩
    | skipped type hfind himplicit hothers =>
      rcases List.mem_cons.1 hmem with heq | hmem
      · cases heq
      · obtain ⟨field, type, shape, hfield, hrest⟩ := ih hothers hmem
        exact ⟨field, type, shape, List.mem_cons_of_mem _ hfield, hrest⟩

/-- A record field is bound that is the first one of the name of a wire field. -/
lemma FieldsSuit.mem_indices {decoders : List FieldDecoder} {fields : List (WireField × Descriptor)}
    {shapes : List (String × Shape)} (h : FieldsSuit decoders fields shapes)
    {field : WireField × Descriptor} (hfield : field ∈ fields) {index : Nat} {shape : Shape}
    (hfind : findField field.1.name shapes = some (index, shape)) :
    index ∈ FieldDecoder.indices decoders := by
  induction decoders generalizing fields with
  | nil =>
    cases h
    cases hfield
  | cons decoder decoders ih =>
    cases h with
    | bound hfind' hmissing hdecoder hothers =>
      rcases List.mem_cons.1 hfield with rfl | hfield
      · cases hfind.symm.trans hfind'
        exact List.mem_cons_self
      · exact List.mem_cons_of_mem _ (ih hothers hfield)
    | skipped type hfind' himplicit hothers =>
      rcases List.mem_cons.1 hfield with rfl | hfield
      · cases hfind.symm.trans hfind'
      · exact ih hothers hfield

/-- The decoder of an element is one of its type for its shape. -/
lemma ElementsSuit.at_index {decoders : List Decoder} {elements : List Descriptor}
    {shapes : List Shape} (h : ElementsSuit decoders elements shapes) {i : Nat} {inner : Decoder}
    (hi : decoders[i]? = some inner) : ∃ element shape, elements[i]? = some element
      ∧ shapes[i]? = some shape ∧ inner.Suits element shape := by
  induction decoders generalizing elements shapes i with
  | nil => cases hi
  | cons decoder decoders ih =>
    cases h with
    | cons hdecoder hothers =>
      cases i with
      | zero =>
        cases hi
        exact ⟨_, _, rfl, rfl, hdecoder⟩
      | succ i => exact ih hothers hi

lemma ElementsSuit.of_mem {decoders : List Decoder} {elements : List Descriptor}
    {shapes : List Shape} (h : ElementsSuit decoders elements shapes) {inner : Decoder}
    (hmem : inner ∈ decoders) : ∃ element ∈ elements, ∃ shape, inner.Suits element shape := by
  obtain ⟨i, hi⟩ := List.mem_iff_getElem?.1 hmem
  obtain ⟨element, shape, helement, -, hinner⟩ := h.at_index hi
  exact ⟨element, List.mem_of_getElem? helement, shape, hinner⟩

/-- Fields of different names are bound to different parts. -/
lemma FieldsSuit.nodup_indices {decoders : List FieldDecoder}
    {fields : List (WireField × Descriptor)} {shapes : List (String × Shape)}
    (h : FieldsSuit decoders fields shapes)
    (hnames : (fields.map fun field => field.1.name).Nodup) :
    (FieldDecoder.indices decoders).Nodup := by
  induction decoders generalizing fields with
  | nil => exact List.nodup_nil
  | cons decoder decoders ih =>
    cases h with
    | bound hfind hmissing hdecoder hothers =>
      obtain ⟨hname, hnames⟩ := List.nodup_cons.1 hnames
      refine List.nodup_cons.2 ⟨fun hmem => ?_, ih hothers hnames⟩
      obtain ⟨_, _, hmem⟩ := FieldDecoder.mem_indices.1 hmem
      obtain ⟨field, type, shape, hfield, hfind', -⟩ := hothers.of_mem hmem
      exact hname (List.mem_map.2 ⟨_, hfield, findField_inj hfind' hfind⟩)
    | skipped type hfind himplicit hothers => exact ih hothers (List.nodup_cons.1 hnames).2

lemma Suits.exists_child {decoder inner : Decoder} {d : Descriptor} {shape : Shape}
    (h : decoder.Suits d shape) (hnames : d.HasDistinctNames) (hchild : decoder.Child inner) :
    ∃ d' shape', inner.Suits d' shape' ∧ d'.HasDistinctNames := by
  cases hchild with
  | optional =>
    cases h with
    | optional wrapper hinner => exact ⟨_, _, hinner, hnames⟩
  | field id hmem =>
    cases h with
    | object typeName hfields hdecoders =>
      obtain ⟨field, type, shape, hfield, -, hinner⟩ := hdecoders.of_mem hmem
      exact ⟨_, _, hinner, (hnames.of_fields hfields).2 _ hfield⟩
  | element id hmem =>
    cases h with
    | tuple id hdecoders =>
      obtain ⟨element, helement, shape, hinner⟩ := hdecoders.of_mem hmem
      exact ⟨_, _, hinner, hnames.of_elements _ helement⟩
  | array id item =>
    cases h with
    | array id dimensions hdecoder => exact ⟨_, _, hdecoder, hnames.of_item rfl⟩
  | set id item =>
    cases h with
    | set id hdecoder => exact ⟨_, _, hdecoder, hnames.of_item rfl⟩

/-- Where the fields of each object have names of their own, they are bound apart. -/
theorem Suits.bindsApart {decoder : Decoder} {d : Descriptor} {shape : Shape}
    (h : decoder.Suits d shape) (hnames : d.HasDistinctNames) : decoder.BindsApart := by
  intro id fields hcontains
  induction hcontains using Relation.ReflTransGen.head_induction_on generalizing d shape with
  | refl =>
    cases h with
    | object typeName hfields hdecoders =>
      exact hdecoders.nodup_indices (hnames.of_fields hfields).1
  | head hchild _ ih =>
    obtain ⟨d', shape', hinner, hnames'⟩ := h.exists_child hnames hchild
    exact ih hinner hnames'

end Decoder

/-! ## Parts of a type and a shape -/

/-- A type and a shape at a place. -/
structure Site where
  type : Descriptor
  shape : Shape
  path : Path

namespace Site

/-- A part of a type goes into a part of a shape.  A field goes into the first record field of its
name. -/
inductive Part : Site → Site → Prop where
  | optional (d : Descriptor) (wrapper : Wrapper) (shape : Shape) (path : Path) :
    Part ⟨d, .optional wrapper shape, path⟩ ⟨d, shape, path⟩
  | field {d type : Descriptor} {fields : List (WireField × Descriptor)} {field : WireField}
    {shapes : List (String × Shape)} {shape : Shape} (typeName : String) (path : Path)
    (hfields : d.fields? = some fields) (hmem : (field, type) ∈ fields)
    (hshape : shapes.lookup field.name = some shape) :
    Part ⟨d, .record typeName shapes, path⟩ ⟨type, shape, path.field field.name⟩
  | element (id : Uuid) {elements : List Descriptor} {element : Descriptor} {shapes : List Shape}
    {shape : Shape} (path : Path) {i : Nat} (helement : elements[i]? = some element)
    (hshape : shapes[i]? = some shape) :
    Part ⟨.tuple id elements, .tuple shapes, path⟩ ⟨element, shape, path.index i⟩
  | item {d element : Descriptor} (shape : Shape) (path : Path) (hitem : d.item? = some element) :
    Part ⟨d, .sequence shape, path⟩ ⟨element, shape, path.element⟩

/-- A site is another one, or a part of it at any depth. -/
def Contains : Site → Site → Prop := Relation.ReflTransGen Part

/-- If a record is filled at a site, each of its fields is bound: it is where a wire field goes. -/
def BindsFields (site : Site) : Prop :=
  ∀ typeName shapes, site.shape = .record typeName shapes → ∃ fields, site.type.fields? = some fields
    ∧ ∀ index < shapes.length, ∃ field ∈ fields,
      (Decoder.findField field.1.name shapes).map Prod.fst = some index

/-- Every field of every record at a site and its parts is bound. -/
def BindsAll (site : Site) : Prop := ∀ part, site.Contains part → part.BindsFields

lemma BindsAll.part {site part : Site} (h : site.BindsAll) (hpart : site.Part part) :
    part.BindsAll := fun other hcontains => h other (.head hpart hcontains)

lemma BindsAll.of_parts {site : Site} (hfields : site.BindsFields)
    (hparts : ∀ part, site.Part part → part.BindsAll) : site.BindsAll := by
  intro part hcontains
  rcases hcontains.cases_head with rfl | ⟨next, hpart, hcontains⟩
  · exact hfields
  · exact hparts next hpart part hcontains

/-- A decoder is the one that is built for a site. -/
def Built (site : Site) (decoder : Decoder) : Prop :=
  Decoder.buildAt site.type site.shape site.path = .ok decoder

end Site

/-- A field at a place is bound to the first record field of its name, with the decoder that is
built for its type and that field's shape; or no record field has its name, and the server added
it. -/
inductive FieldDecoder.Binds (shapes : List (String × Shape)) (path : Path) :
    FieldDecoder → WireField × Descriptor → Prop where
  | bound {field : WireField} {type : Descriptor} {index : Nat} {shape : Shape} {inner : Decoder}
    (hshape : shapes[index]? = some (field.name, shape))
    (hfirst : ∀ i < index, ∀ other, shapes[i]? = some other → other.1 ≠ field.name)
    (hbuilt : Site.Built ⟨type, shape, path.field field.name⟩ inner) :
    Binds shapes path (.bound field.name index inner) (field, type)
  | skipped {field : WireField} (type : Descriptor) (hnone : ∀ other ∈ shapes, other.1 ≠ field.name)
    (himplicit : field.implicit = true) : Binds shapes path (.skipped field.name) (field, type)

namespace Decoder

lemma binds_of_buildField {field : WireField} {type : Descriptor} {typeName : String}
    {shapes : List (String × Shape)} {path : Path} {first : FieldDecoder}
    (h : buildField field typeName shapes (path.field field.name)
      (fun shape => buildAt type shape (path.field field.name)) = .ok first) :
    first.Binds shapes path (field, type) := by
  simp only [buildField] at h
  split at h
  · rename_i index shape hfind
    obtain ⟨inner, hinner, hbind⟩ := Except.bind_eq_ok.1 h
    simp only [bindField] at hbind
    split at hbind <;> cases hbind
    obtain ⟨hshape, hfirst⟩ := findField_eq_some hfind
    exact .bound hshape hfirst hinner
  · rename_i hfind
    split at h
    · rename_i himplicit
      cases h
      exact .skipped type (findField_eq_none hfind) himplicit
    · cases h

lemma binds_of_buildObjectFields {fields : List ObjectField} {typeName : String}
    {shapes : List (String × Shape)} {path : Path} {decoders : List FieldDecoder}
    (h : buildObjectFields fields typeName shapes path = .ok decoders) :
    List.Forall₂ (FieldDecoder.Binds shapes path) decoders
      (fields.map fun field => (field.wire, field.type)) := by
  induction fields generalizing decoders with
  | nil =>
    cases h
    exact .nil
  | cons field fields ih =>
    obtain ⟨name, flags, cardinality, type⟩ := field
    obtain ⟨first, others, hfirst, hothers, rfl⟩ := Except.bind_bind_pure_eq_ok.1 h
    exact .cons (binds_of_buildField hfirst) (ih hothers)

lemma binds_of_buildTupleFields {fields : List TupleField} {typeName : String}
    {shapes : List (String × Shape)} {path : Path} {decoders : List FieldDecoder}
    (h : buildTupleFields fields typeName shapes path = .ok decoders) :
    List.Forall₂ (FieldDecoder.Binds shapes path) decoders
      (fields.map fun field => (field.wire, field.type)) := by
  induction fields generalizing decoders with
  | nil =>
    cases h
    exact .nil
  | cons field fields ih =>
    obtain ⟨name, type⟩ := field
    obtain ⟨first, others, hfirst, hothers, rfl⟩ := Except.bind_bind_pure_eq_ok.1 h
    exact .cons (binds_of_buildField hfirst) (ih hothers)

lemma built_of_buildElements {elements : List Descriptor} {shapes : List Shape} {path : Path}
    {i : Nat} {decoders : List Decoder} (h : buildElements elements shapes path i = .ok decoders)
    {inner : Decoder} (hmem : inner ∈ decoders) :
    ∃ j element shape, elements[j]? = some element ∧ shapes[j]? = some shape
      ∧ Site.Built ⟨element, shape, path.index (i + j)⟩ inner := by
  induction elements generalizing shapes i decoders with
  | nil =>
    cases h
    cases hmem
  | cons element elements ih =>
    cases shapes with
    | nil =>
      cases h
      cases hmem
    | cons shape shapes =>
      obtain ⟨first, others, hfirst, hothers, rfl⟩ := Except.bind_bind_pure_eq_ok.1 h
      rcases List.mem_cons.1 hmem with rfl | hmem
      · exact ⟨0, element, shape, rfl, rfl, hfirst⟩
      · obtain ⟨j, element', shape', helement, hshape, hbuilt⟩ := ih hothers hmem
        refine ⟨j + 1, element', shape', helement, hshape, ?_⟩
        rwa [Nat.add_assoc, Nat.add_comm 1 j] at hbuilt

end Decoder

namespace Site.Built

open Decoder

variable {site : Site}

lemma suits {decoder : Decoder} (h : site.Built decoder) : decoder.Suits site.type site.shape :=
  suits_of_throughOptionals site.shape (fun shape => suits_of_buildPlain site.type shape site.path) h

/-- The fields of an object that is built are bound as they should be. -/
lemma binds {id : Uuid} {decoders : List FieldDecoder} (h : site.Built (.object id decoders)) :
    ∃ typeName shapes fields, site.shape = .record typeName shapes
      ∧ site.type.fields? = some fields
      ∧ List.Forall₂ (FieldDecoder.Binds shapes site.path) decoders fields := by
  obtain ⟨d, shape, path⟩ := site
  have hsuits := h.suits
  cases hsuits with
  | @object typeName _ _ fields shapes hfields _ =>
    refine ⟨typeName, shapes, fields, rfl, hfields, ?_⟩
    cases d with
    | object id fields =>
      obtain ⟨_, hdecoders, heq⟩ := Except.bind_pure_eq_ok.1 h
      cases heq
      cases hfields
      exact binds_of_buildObjectFields hdecoders
    | namedTuple id fields =>
      obtain ⟨_, hdecoders, heq⟩ := Except.bind_pure_eq_ok.1 h
      cases heq
      cases hfields
      exact binds_of_buildTupleFields hdecoders
    | _ => cases hfields

/-- A decoder that a built one uses is built for a part of its site. -/
lemma exists_part {decoder inner : Decoder} (h : site.Built decoder)
    (hchild : decoder.Child inner) : ∃ part, site.Part part ∧ part.Built inner := by
  obtain ⟨d, shape, path⟩ := site
  have hsuits := h.suits
  cases hchild with
  | optional =>
    cases hsuits with
    | @optional wrapper _ _ shape _ =>
      obtain ⟨_, hinner, heq⟩ := Except.map_eq_ok.1 h
      cases heq
      exact ⟨⟨d, shape, path⟩, .optional d wrapper shape path, hinner⟩
  | field id hmem =>
    obtain ⟨typeName, shapes, fields, rfl, hfields, hbinds⟩ := h.binds
    obtain ⟨⟨field, type⟩, hfield, hbind⟩ := exists_partner hbinds hmem
    cases hbind with
    | bound hshape hfirst hbuilt =>
      exact ⟨_, .field typeName path hfields hfield (lookup_of_first hshape hfirst), hbuilt⟩
  | element id hmem =>
    cases hsuits with
    | @tuple _ _ elements shapes _ =>
      simp only [Built, buildAt, throughOptionals, buildPlain] at h
      split at h
      · obtain ⟨_, hdecoders, heq⟩ := Except.bind_pure_eq_ok.1 h
        cases heq
        obtain ⟨i, element, shape, helement, hshape, hbuilt⟩ := built_of_buildElements hdecoders hmem
        rw [Nat.zero_add] at hbuilt
        exact ⟨_, .element id path helement hshape, hbuilt⟩
      · cases h
  | array id item =>
    cases hsuits with
    | @array _ dimensions _ element shape _ =>
      obtain ⟨_, hinner, heq⟩ := Except.bind_pure_eq_ok.1 h
      cases heq
      exact ⟨⟨element, shape, path.element⟩, .item shape path rfl, hinner⟩
  | set id item =>
    cases hsuits with
    | @set _ _ element shape _ =>
      obtain ⟨_, hinner, heq⟩ := Except.bind_pure_eq_ok.1 h
      cases heq
      exact ⟨⟨element, shape, path.element⟩, .item shape path rfl, hinner⟩

/-- **Every decoder inside a built one** is built for a part of its site. -/
theorem of_contains {decoder inner : Decoder} (h : site.Built decoder)
    (hcontains : decoder.Contains inner) : ∃ part, site.Contains part ∧ part.Built inner := by
  induction hcontains using Relation.ReflTransGen.head_induction_on generalizing site with
  | refl => exact ⟨site, .refl, h⟩
  | head hchild _ ih =>
    obtain ⟨part, hpart, hbuilt⟩ := h.exists_part hchild
    obtain ⟨part', hcontains, hbuilt'⟩ := ih hbuilt
    exact ⟨part', .head hpart hcontains, hbuilt'⟩

end Site.Built

/-! ## Names and parts -/

namespace FieldDecoder

variable {shapes : List (String × Shape)} {path : Path}

/-- Two fields are bound to the same part exactly when they have the same name. -/
lemma Binds.index_eq_iff {name name' : String} {index index' : Nat} {inner inner' : Decoder}
    {field field' : WireField × Descriptor}
    (h : Binds shapes path (.bound name index inner) field)
    (h' : Binds shapes path (.bound name' index' inner') field') :
    index = index' ↔ name = name' := by
  cases h with
  | bound hshape hfirst =>
    cases h' with
    | bound hshape' hfirst' =>
      constructor
      · rintro rfl
        exact congrArg Prod.fst (Option.some.inj (hshape.symm.trans hshape'))
      · intro hname
        rcases Nat.lt_trichotomy index index' with hlt | heq | hgt
        · exact absurd hname (hfirst' index hlt _ hshape)
        · exact heq
        · exact absurd hname.symm (hfirst index' hgt _ hshape')

/-- **Fields are bound apart** exactly when no two that are bound have one name. -/
theorem nodup_indices_iff {decoders : List FieldDecoder} {fields : List (WireField × Descriptor)}
    (h : List.Forall₂ (Binds shapes path) decoders fields) :
    (indices decoders).Nodup ↔ (boundNames decoders).Nodup := by
  induction h with
  | nil => exact ⟨fun _ => List.nodup_nil, fun _ => List.nodup_nil⟩
  | @cons decoder _ decoders _ hfirst hothers ih =>
    cases decoder with
    | skipped name => exact ih
    | bound name index inner =>
      have hmem : index ∈ indices decoders ↔ name ∈ boundNames decoders := by
        rw [mem_indices, mem_boundNames]
        constructor
        · rintro ⟨name', inner', hmem⟩
          obtain ⟨_, -, hother⟩ := exists_partner hothers hmem
          obtain rfl := (hfirst.index_eq_iff hother).1 rfl
          exact ⟨_, _, hmem⟩
        · rintro ⟨index', inner', hmem⟩
          obtain ⟨_, -, hother⟩ := exists_partner hothers hmem
          obtain rfl := (hfirst.index_eq_iff hother).2 rfl
          exact ⟨_, _, hmem⟩
      exact List.nodup_cons.trans ((and_congr (not_congr hmem) ih).trans List.nodup_cons.symm)

end FieldDecoder

end QueryWire
