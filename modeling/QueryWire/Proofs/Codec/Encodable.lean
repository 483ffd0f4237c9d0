import Mathlib.Data.List.Forall2
import Mathlib.Logic.Relation
import QueryWire.Proofs.Codec.Parts

/-!
# Types that arguments can have

An encoder is built from a type without a look at any argument, so it is settled by the type alone
whether there is one.  What decides are the places of the type, each by itself: that a scalar is a
built-in one, that no remark stands as a type, and that a field holds one value and not a set of
them.  Fields that the server added on its own are not written, and nothing below them is asked.

A field of cardinality `atLeastOne` holds a set as well as one of cardinality `many`, but only the
second is refused.

* `Descriptor.Unfolds` — the places of a type, fields that the server added left out.
* `Descriptor.IsEncodable` — that at every place of a type stands what arguments can have.
* `Encoder.Mirrors` — that an encoder is the tree of a type.
* `Decides` — that something succeeds exactly under a condition, and what it gives.
* **`Encoder.decides_buildAt`** — building an encoder is decided by the places of the type.
* `Encoder.buildAt_iff_isEncodable` — where this refuses all sets, and where it does not.
-/

namespace QueryWire

/-- Whether a field of this cardinality holds a set of values. -/
def Cardinality.isSetValued : Cardinality → Bool
  | .many | .atLeastOne => true
  | .noResult | .atMostOne | .one => false

/-! ## The places of a type -/

namespace Descriptor

/-- What a type is made of, one level down.  Fields that the server added are left out. -/
inductive HasPart : Descriptor → Descriptor → Prop where
  | element (id : Uuid) {elements : List Descriptor} {element : Descriptor}
    (h : element ∈ elements) : HasPart (.tuple id elements) element
  | named (id : Uuid) {fields : List TupleField} {field : TupleField} (h : field ∈ fields) :
    HasPart (.namedTuple id fields) field.type
  | field (id : Uuid) {fields : List ObjectField} {field : ObjectField} (h : field ∈ fields)
    (hexplicit : field.flags.isImplicit = false) : HasPart (.object id fields) field.type
  | arrayItem (id : Uuid) (element : Descriptor) (dimensions : List Int32) :
    HasPart (.array id element dimensions) element
  | setItem (id : Uuid) (element : Descriptor) : HasPart (.set id element) element

/-- What stands somewhere in a type, the type itself included. -/
def Unfolds : Descriptor → Descriptor → Prop := Relation.ReflTransGen HasPart

/-- What stands at one place can be part of an argument type, as far as it can be told without its
parts: fields of some cardinalities are refused. -/
def IsAdmitted (refused : Cardinality → Bool) : Descriptor → Prop
  | .baseScalar id => (Descriptor.baseScalar id).scalarKind?.isSome = true
  | .scalar id base => (Descriptor.scalar id base).scalarKind?.isSome = true
  | .object _ fields =>
    ∀ field ∈ fields, field.flags.isImplicit = false → refused field.cardinality = false
  | .remark _ _ _ => False
  | .tuple _ _ | .namedTuple _ _ | .array _ _ _ | .set _ _ | .enum _ _ => True

/-- A type that arguments can have when fields of some cardinalities are refused: each scalar in it
is a built-in one, no remark stands as a type, and no field is refused. -/
def IsEncodable (refused : Cardinality → Bool) (d : Descriptor) : Prop :=
  ∀ part, d.Unfolds part → part.IsAdmitted refused

/-- A field of a cardinality stands somewhere in a type. -/
def HasField (cardinality : Cardinality) (d : Descriptor) : Prop :=
  ∃ id fields, d.Unfolds (.object id fields) ∧
    ∃ field ∈ fields, field.flags.isImplicit = false ∧ field.cardinality = cardinality

variable {refused : Cardinality → Bool} {d : Descriptor}

/-- A type is one that arguments can have when it is admitted and its parts are such types. -/
lemma isEncodable_iff :
    d.IsEncodable refused ↔
      d.IsAdmitted refused ∧ ∀ part, d.HasPart part → part.IsEncodable refused := by
  constructor
  · intro h
    exact ⟨h d .refl, fun part hpart place hplace => h place (.head hpart hplace)⟩
  · rintro ⟨hadmitted, hparts⟩ place hplace
    rcases hplace.cases_head with rfl | ⟨part, hpart, hplace⟩
    · exact hadmitted
    · exact hparts part hpart place hplace

lemma isEncodable_of_no_part (h : ∀ part, ¬ d.HasPart part) :
    d.IsEncodable refused ↔ d.IsAdmitted refused :=
  isEncodable_iff.trans (and_iff_left fun part hpart => absurd hpart (h part))

lemma isEncodable_tuple {id : Uuid} {elements : List Descriptor} :
    (tuple id elements).IsEncodable refused ↔
      ∀ element ∈ elements, element.IsEncodable refused := by
  rw [isEncodable_iff]
  constructor
  · rintro ⟨-, hparts⟩ element hmem
    exact hparts element (.element id hmem)
  · intro h
    refine ⟨trivial, fun part hpart => ?_⟩
    cases hpart with
    | element _ hmem => exact h part hmem

lemma isEncodable_namedTuple {id : Uuid} {fields : List TupleField} :
    (namedTuple id fields).IsEncodable refused ↔
      ∀ field ∈ fields, field.type.IsEncodable refused := by
  rw [isEncodable_iff]
  constructor
  · rintro ⟨-, hparts⟩ field hmem
    exact hparts field.type (.named id hmem)
  · intro h
    refine ⟨trivial, fun part hpart => ?_⟩
    cases hpart with
    | named _ hmem => exact h _ hmem

lemma isEncodable_object {id : Uuid} {fields : List ObjectField} :
    (object id fields).IsEncodable refused ↔
      ∀ field ∈ fields, field.flags.isImplicit = false →
        refused field.cardinality = false ∧ field.type.IsEncodable refused := by
  rw [isEncodable_iff]
  constructor
  · rintro ⟨hadmitted, hparts⟩ field hmem hexplicit
    exact ⟨hadmitted field hmem hexplicit, hparts field.type (.field id hmem hexplicit)⟩
  · intro h
    refine ⟨fun field hmem hexplicit => (h field hmem hexplicit).1, fun part hpart => ?_⟩
    cases hpart with
    | field _ hmem hexplicit => exact (h _ hmem hexplicit).2

lemma isEncodable_array {id : Uuid} {element : Descriptor} {dimensions : List Int32} :
    (array id element dimensions).IsEncodable refused ↔ element.IsEncodable refused := by
  rw [isEncodable_iff]
  constructor
  · rintro ⟨-, hparts⟩
    exact hparts element (.arrayItem id element dimensions)
  · intro h
    refine ⟨trivial, fun part hpart => ?_⟩
    cases hpart with
    | arrayItem => exact h

lemma isEncodable_set {id : Uuid} {element : Descriptor} :
    (set id element).IsEncodable refused ↔ element.IsEncodable refused := by
  rw [isEncodable_iff]
  constructor
  · rintro ⟨-, hparts⟩
    exact hparts element (.setItem id element)
  · intro h
    refine ⟨trivial, fun part hpart => ?_⟩
    cases hpart with
    | setItem => exact h

/-- Refusing one more cardinality asks that no field has it. -/
lemma isEncodable_or {cardinality : Cardinality} :
    d.IsEncodable (fun c => refused c || c == cardinality) ↔
      d.IsEncodable refused ∧ ¬ d.HasField cardinality := by
  constructor
  · intro h
    refine ⟨fun part hpart => ?_, ?_⟩
    · have hadmitted := h part hpart
      cases part with
      | object id fields =>
        intro field hmem hexplicit
        exact (Bool.or_eq_false_iff.1 (hadmitted field hmem hexplicit)).1
      | _ => exact hadmitted
    · rintro ⟨id, fields, hpart, field, hmem, hexplicit, hcardinality⟩
      have hfield := (Bool.or_eq_false_iff.1 (h _ hpart field hmem hexplicit)).2
      exact absurd hcardinality (beq_eq_false_iff_ne.1 hfield)
  · rintro ⟨h, hfield⟩ part hpart
    have hadmitted := h part hpart
    cases part with
    | object id fields =>
      intro field hmem hexplicit
      refine Bool.or_eq_false_iff.2 ⟨hadmitted field hmem hexplicit, beq_eq_false_iff_ne.2 ?_⟩
      exact fun hcardinality => hfield ⟨id, fields, hpart, field, hmem, hexplicit, hcardinality⟩
    | _ => exact hadmitted

end Descriptor

/-! ## The tree of a type -/

namespace Encoder

/-- An encoder is the tree of a type: the same identifiers, scalars, labels and names in the same
order, without the fields that the server added. -/
inductive Mirrors : Encoder → Descriptor → Prop where
  | scalar {d : Descriptor} {kind : ScalarKind} (hkind : d.scalarKind? = some kind) :
    Mirrors (.scalar d.id kind) d
  | enum (id : Uuid) (members : List String) : Mirrors (.enum id members) (.enum id members)
  | tuple (id : Uuid) {encoders : List Encoder} {elements : List Descriptor}
    (helements : List.Forall₂ Mirrors encoders elements) :
    Mirrors (.tuple id encoders) (.tuple id elements)
  | namedTuple (id : Uuid) {encoders : List (String × Encoder)} {fields : List TupleField}
    (hnames : encoders.map Prod.fst = fields.map TupleField.name)
    (htypes : List.Forall₂ Mirrors (encoders.map Prod.snd) (fields.map TupleField.type)) :
    Mirrors (.namedTuple id encoders) (.namedTuple id fields)
  | object (id : Uuid) {encoders : List (String × Encoder)} {fields explicit : List ObjectField}
    (hexplicit : explicit = fields.filter fun field => !field.flags.isImplicit)
    (hnames : encoders.map Prod.fst = explicit.map ObjectField.name)
    (htypes : List.Forall₂ Mirrors (encoders.map Prod.snd) (explicit.map ObjectField.type)) :
    Mirrors (.namedTuple id encoders) (.object id fields)
  | array (id : Uuid) {encoder : Encoder} {element : Descriptor} (dimensions : List Int32)
    (helement : Mirrors encoder element) :
    Mirrors (.array id encoder) (.array id element dimensions)
  | set (id : Uuid) {encoder : Encoder} {element : Descriptor}
    (helement : Mirrors encoder element) :
    Mirrors (.set id encoder) (.set id element)

end Encoder

/-! ## Conditions for success -/

/-- Something succeeds exactly under a condition, and what it then gives has a property. -/
structure Decides {α : Type} (x : Except Error α) (condition : Prop) (P : α → Prop) : Prop where
  ok : ∀ a, x = .ok a → condition ∧ P a
  exists_ok : condition → ∃ a, x = .ok a

namespace Decides

variable {α β γ : Type} {x : Except Error α} {y : Except Error β} {condition condition' : Prop}
  {P : α → Prop} {P' : β → Prop}

lemma ofOk {a : α} (hcondition : condition) (ha : P a) : Decides (.ok a) condition P := by
  refine ⟨fun b hb => ?_, fun _ => ⟨a, rfl⟩⟩
  cases hb
  exact ⟨hcondition, ha⟩

lemma ofError {e : Error} (h : ¬ condition) : Decides (.error e : Except Error α) condition P := by
  refine ⟨fun b hb => ?_, fun hcondition => absurd hcondition h⟩
  cases hb

lemma exists_ok_iff (h : Decides x condition P) : (∃ a, x = .ok a) ↔ condition :=
  ⟨fun ⟨a, ha⟩ => (h.ok a ha).1, h.exists_ok⟩

lemma of_iff (h : Decides x condition P) (hcondition : condition' ↔ condition) :
    Decides x condition' P :=
  ⟨fun a ha => (h.ok a ha).imp_left hcondition.2, fun h' => h.exists_ok (hcondition.1 h')⟩

lemma bind_pure (h : Decides x condition P) {f : α → γ} {Q : γ → Prop}
    (hcondition : condition' ↔ condition) (hf : ∀ a, P a → Q (f a)) :
    Decides (x >>= fun a => pure (f a)) condition' Q := by
  refine ⟨fun c hc => ?_, fun h' => ?_⟩
  · obtain ⟨a, ha, rfl⟩ := Except.bind_pure_eq_ok.1 hc
    obtain ⟨hx, hP⟩ := h.ok a ha
    exact ⟨hcondition.2 hx, hf a hP⟩
  · obtain ⟨a, ha⟩ := h.exists_ok (hcondition.1 h')
    exact ⟨f a, Except.bind_pure_eq_ok.2 ⟨a, ha, rfl⟩⟩

lemma bind_bind_pure (h : Decides x condition P) (h' : Decides y condition' P') {f : α → β → γ}
    {Q : γ → Prop} {both : Prop} (hboth : both ↔ condition ∧ condition')
    (hf : ∀ a b, P a → P' b → Q (f a b)) :
    Decides (x >>= fun a => y >>= fun b => pure (f a b)) both Q := by
  refine ⟨fun c hc => ?_, fun hc => ?_⟩
  · obtain ⟨a, b, ha, hb, rfl⟩ := Except.bind_bind_pure_eq_ok.1 hc
    obtain ⟨hx, hP⟩ := h.ok a ha
    obtain ⟨hy, hP'⟩ := h'.ok b hb
    exact ⟨hboth.2 ⟨hx, hy⟩, hf a b hP hP'⟩
  · obtain ⟨hx, hy⟩ := hboth.1 hc
    obtain ⟨a, ha⟩ := h.exists_ok hx
    obtain ⟨b, hb⟩ := h'.exists_ok hy
    exact ⟨f a b, Except.bind_bind_pure_eq_ok.2 ⟨a, b, ha, hb, rfl⟩⟩

end Decides

/-! ## Building -/

namespace Encoder

/-- A scalar is built in when it resolves to one of the kinds. -/
lemma decides_scalarKind (d : Descriptor) (path : Path) :
    Decides (d.scalarKind path) (d.scalarKind?.isSome = true)
      (fun kind => d.scalarKind? = some kind) := by
  simp only [Descriptor.scalarKind]
  cases d.scalarKind? with
  | some kind => exact .ofOk rfl rfl
  | none => exact .ofError Bool.false_ne_true

/-- The encoders of named things are those of their types, under their names. -/
structure Named {α : Type} (name : α → String) (type : α → Descriptor)
    (encoders : List (String × Encoder)) (fields : List α) : Prop where
  names : encoders.map Prod.fst = fields.map name
  types : List.Forall₂ Mirrors (encoders.map Prod.snd) (fields.map type)

lemma Named.cons {α : Type} {name : α → String} {type : α → Descriptor} {encoder : Encoder}
    {encoders : List (String × Encoder)} (field : α) {fields : List α}
    (hfirst : encoder.Mirrors (type field)) (hothers : Named name type encoders fields) :
    Named name type ((name field, encoder) :: encoders) (field :: fields) :=
  ⟨congrArg (name field :: ·) hothers.names, .cons hfirst hothers.types⟩

mutual

/-- **Building** succeeds for the types that arguments can have when only fields of cardinality
`many` are refused, and gives the tree of the type. -/
theorem decides_buildAt (d : Descriptor) (path : Path) :
    Decides (buildAt d path) (d.IsEncodable (· == .many)) (·.Mirrors d) := by
  cases d with
  | baseScalar id =>
    have hparts : (Descriptor.baseScalar id).IsEncodable (· == .many)
        ↔ (Descriptor.baseScalar id).IsAdmitted (· == .many) :=
      Descriptor.isEncodable_of_no_part fun part hpart => by cases hpart
    exact (decides_scalarKind (.baseScalar id) path).bind_pure hparts fun kind hkind =>
      .scalar hkind
  | scalar id base =>
    have hparts : (Descriptor.scalar id base).IsEncodable (· == .many)
        ↔ (Descriptor.scalar id base).IsAdmitted (· == .many) :=
      Descriptor.isEncodable_of_no_part fun part hpart => by cases hpart
    exact (decides_scalarKind (.scalar id base) path).bind_pure hparts fun kind hkind =>
      .scalar hkind
  | enum id members =>
    have hparts : (Descriptor.enum id members).IsEncodable (· == .many)
        ↔ (Descriptor.enum id members).IsAdmitted (· == .many) :=
      Descriptor.isEncodable_of_no_part fun part hpart => by cases hpart
    exact .ofOk (hparts.2 trivial) (.enum id members)
  | tuple id elements =>
    exact (decides_buildElements elements path 0).bind_pure Descriptor.isEncodable_tuple
      fun _ h => .tuple id h
  | namedTuple id fields =>
    exact (decides_buildTupleFields fields path).bind_pure Descriptor.isEncodable_namedTuple
      fun _ h => .namedTuple id h.names h.types
  | object id fields =>
    exact (decides_buildObjectFields fields path).bind_pure Descriptor.isEncodable_object
      fun _ h => .object id rfl h.names h.types
  | array id element dimensions =>
    exact (decides_buildAt element path.element).bind_pure Descriptor.isEncodable_array
      fun _ h => .array id dimensions h
  | set id element =>
    exact (decides_buildAt element path.element).bind_pure Descriptor.isEncodable_set
      fun _ h => .set id h
  | remark id tag text => exact .ofError fun h => h _ .refl

theorem decides_buildElements (elements : List Descriptor) (path : Path) (i : Nat) :
    Decides (buildElements elements path i)
      (∀ element ∈ elements, element.IsEncodable (· == .many))
      (List.Forall₂ Mirrors · elements) := by
  cases elements with
  | nil => exact .ofOk (List.forall_mem_nil _) .nil
  | cons element elements =>
    exact (decides_buildAt element (path.index i)).bind_bind_pure
      (decides_buildElements elements path (i + 1)) List.forall_mem_cons
      fun _ _ hfirst hothers => .cons hfirst hothers

theorem decides_buildTupleFields (fields : List TupleField) (path : Path) :
    Decides (buildTupleFields fields path)
      (∀ field ∈ fields, field.type.IsEncodable (· == .many))
      (Named TupleField.name TupleField.type · fields) := by
  cases fields with
  | nil => exact .ofOk (List.forall_mem_nil _) ⟨rfl, .nil⟩
  | cons field fields =>
    cases field with
    | mk name type =>
      exact (decides_buildAt type (path.field name)).bind_bind_pure
        (decides_buildTupleFields fields path) List.forall_mem_cons
        fun _ _ hfirst hothers => .cons (TupleField.mk name type) hfirst hothers

theorem decides_buildObjectFields (fields : List ObjectField) (path : Path) :
    Decides (buildObjectFields fields path)
      (∀ field ∈ fields, field.flags.isImplicit = false →
        (field.cardinality == .many) = false ∧ field.type.IsEncodable (· == .many))
      (Named ObjectField.name ObjectField.type ·
        (fields.filter fun field => !field.flags.isImplicit)) := by
  cases fields with
  | nil => exact .ofOk (List.forall_mem_nil _) ⟨rfl, .nil⟩
  | cons field fields =>
    cases field with
    | mk name flags cardinality type =>
      have hothers := decides_buildObjectFields fields path
      rw [buildObjectFields, List.forall_mem_cons]
      cases himplicit : flags.isImplicit with
      | true =>
        -- The field is passed over by the condition, by the builder and by the tree alike.
        rw [if_pos rfl, List.filter_cons_of_neg (by simp [ObjectField.flags, himplicit])]
        exact hothers.of_iff (and_iff_right fun h => absurd (himplicit.symm.trans h) (by decide))
      | false =>
        rw [if_neg Bool.false_ne_true,
          List.filter_cons_of_pos (by simp [ObjectField.flags, himplicit])]
        by_cases hmany : cardinality = .many
        · rw [if_pos hmany]
          refine .ofError fun h => ?_
          exact absurd hmany (beq_eq_false_iff_ne.1 (h.1 himplicit).1)
        · rw [if_neg hmany]
          refine (decides_buildAt type (path.field name)).bind_bind_pure hothers
            (and_congr_left' ?_)
            fun _ _ hfirst hothers =>
              .cons (ObjectField.mk name flags cardinality type) hfirst hothers
          exact ⟨fun h => (h himplicit).2, fun h _ => ⟨beq_eq_false_iff_ne.2 hmany, h⟩⟩

end

/-- **Argument types.**  An encoder is built for the types that arguments can have when fields of
cardinality `many` are refused, and it is the tree of the type.  Refusing all sets asks for more: that
no field of the type has the cardinality `atLeastOne`. -/
theorem buildAt_iff_isEncodable (d : Descriptor) (path : Path) :
    ((∃ encoder, buildAt d path = .ok encoder) ↔ d.IsEncodable (· == .many))
      ∧ (d.IsEncodable Cardinality.isSetValued ↔
        (∃ encoder, buildAt d path = .ok encoder) ∧ ¬ d.HasField .atLeastOne)
      ∧ ∀ encoder, buildAt d path = .ok encoder → encoder.Mirrors d := by
  have hdecides := decides_buildAt d path
  have hsets : Cardinality.isSetValued = fun c => c == .many || c == .atLeastOne := by
    funext c
    cases c <;> rfl
  refine ⟨hdecides.exists_ok_iff, ?_, fun encoder h => (hdecides.ok encoder h).2⟩
  rw [hdecides.exists_ok_iff, hsets]
  exact Descriptor.isEncodable_or

end Encoder

namespace Tagged

/-- Arguments with one field, a set that is not empty. -/
def arguments : Descriptor :=
  .object (Uuid.ofNat 0xD1)
    [.mk "tags" ⟨0⟩ .atLeastOne (.baseScalar (Uuid.ofNat 0x105))]

/-- An encoder is built for a field that holds a set. -/
theorem built_and_not_isEncodable :
    Encoder.build arguments
        = .ok (.namedTuple (Uuid.ofNat 0xD1) [("tags", .scalar (Uuid.ofNat 0x105) .int64)])
      ∧ ¬ arguments.IsEncodable Cardinality.isSetValued := by
  refine ⟨rfl, fun h => ?_⟩
  have hfield := h arguments .refl _ (List.mem_singleton_self _) rfl
  exact absurd hfield (by decide)

end Tagged

end QueryWire
