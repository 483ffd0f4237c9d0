import Mathlib.Data.List.Forall2
import QueryWire.Proofs.Codec.Suits

/-!
# Types that fit a shape

Building compares a type with a shape and stops at the first place where the two do not fit.  What it
means to fit is said here without building anything, and so is where two things that do not fit go
apart: all such places, in the order in which the type is written.

* `Descriptor.Fits` — that values of a type can go into destinations of a shape.
* `Descriptor.misfits` — the places where a type does not fit a shape.
* **`Descriptor.fits_iff`** — a type fits exactly when there is no such place.
* `ReportsFirst` — that something succeeds where no place is wrong, and else fails at the first.
* **`Decoder.build_iff_fits`** — building does.
-/

namespace QueryWire

/-! ## Fitting -/

/-- What lies inside all optionals of a shape. -/
def Shape.core : Shape → Shape
  | .optional _ inner => inner.core
  | shape => shape

/-- Inside all optionals there is none. -/
lemma Shape.core_ne_optional (shape : Shape) (wrapper : Wrapper) (inner : Shape) :
    shape.core ≠ .optional wrapper inner := by
  induction shape using Shape.core.induct with
  | case1 _ shape ih => exact ih
  | case2 shape hplain =>
    rw [Shape.core.eq_2 shape hplain]
    exact hplain wrapper inner

namespace Descriptor

/-- Values of a type can go into destinations of a shape. -/
inductive Fits : Descriptor → Shape → Prop where
  | optional (wrapper : Wrapper) {d : Descriptor} {shape : Shape} (hinner : Fits d shape) :
    Fits d (.optional wrapper shape)
  | scalar {d : Descriptor} {kind : ScalarKind} (hkind : d.scalarKind? = some kind) :
    Fits d (.scalar kind)
  /-- The text of a JSON value goes into a text. -/
  | json {d : Descriptor} (hkind : d.scalarKind? = some .json) : Fits d (.scalar .str)
  | enum (id : Uuid) (members : List String) : Fits (.enum id members) (.scalar .str)
  | tuple (id : Uuid) {elements : List Descriptor} {shapes : List Shape}
    (helements : List.Forall₂ Fits elements shapes) : Fits (.tuple id elements) (.tuple shapes)
  | sequence {d element : Descriptor} {shape : Shape} (hitem : d.item? = some element)
    (helement : Fits element shape) : Fits d (.sequence shape)
  /-- Each field goes into the first record field of its name, which records that the field is
  missing unless it is always there.  Only a field that the server added may have none. -/
  | record (typeName : String) {d : Descriptor} {fields : List (WireField × Descriptor)}
    {shapes : List (String × Shape)} (hfields : d.fields? = some fields)
    (htypes : ∀ field ∈ fields, ∀ shape,
      shapes.lookup field.1.name = some shape → Fits field.2 shape)
    (hmissing : ∀ field ∈ fields, ∀ shape, shapes.lookup field.1.name = some shape →
      field.1.required = true ∨ shape.recordsMissing = true)
    (himplicit : ∀ field ∈ fields, shapes.lookup field.1.name = none →
      field.1.implicit = true) : Fits d (.record typeName shapes)

end Descriptor

/-! ## Where a type does not fit -/

/-- A place, unless all is fine there. -/
def Path.misfitUnless (path : Path) (fine : Bool) : List Path := if fine then [] else [path]

/-- Where a field does not fit a record: `nested` are the places inside it. -/
def WireField.misfits (field : WireField) (shapes : List (String × Shape)) (path : Path)
    (nested : Shape → List Path) : List Path :=
  match shapes.lookup field.name with
  | some shape => nested shape ++ path.misfitUnless (field.required || shape.recordsMissing)
  | none => path.misfitUnless field.implicit

namespace Descriptor

/-- Whether a scalar or an enumeration goes into a scalar destination. -/
def fitsScalar : Descriptor → ScalarKind → Bool
  | .enum _ _, destination => destination == .str
  | d, destination => d.scalarKind?.any (·.fitsInto destination)

/-- Where a scalar or an enumeration does not fit a shape. -/
def scalarMisfits (d : Descriptor) (shape : Shape) (path : Path) : List Path :=
  match shape.core with
  | .scalar destination => path.misfitUnless (d.fitsScalar destination)
  | _ => [path]

mutual

/-- The places where a type does not fit a shape, in the order of the type. -/
def misfits : Descriptor → Shape → Path → List Path
  | .baseScalar id, shape, path => scalarMisfits (.baseScalar id) shape path
  | .scalar id base, shape, path => scalarMisfits (.scalar id base) shape path
  | .enum id members, shape, path => scalarMisfits (.enum id members) shape path
  | .object _ fields, shape, path =>
    match shape.core with
    | .record _ shapes => objectMisfits fields shapes path
    | _ => [path]
  | .namedTuple _ fields, shape, path =>
    match shape.core with
    | .record _ shapes => namedTupleMisfits fields shapes path
    | _ => [path]
  | .tuple _ elements, shape, path =>
    match shape.core with
    | .tuple shapes =>
      if shapes.length = elements.length then tupleMisfits elements shapes path 0 else [path]
    | _ => [path]
  | .array _ element _, shape, path | .set _ element, shape, path =>
    match shape.core with
    | .sequence inner => misfits element inner path.element
    | _ => [path]
  | .remark _ _ _, _, path => [path]

/-- The places where the fields of an object do not fit a record. -/
def objectMisfits : List ObjectField → (shapes : List (String × Shape)) → Path → List Path
  | [], _, _ => []
  | .mk name flags cardinality type :: fields, shapes, path =>
    (ObjectField.mk name flags cardinality type).wire.misfits shapes (path.field name)
      (fun shape => misfits type shape (path.field name)) ++ objectMisfits fields shapes path

/-- The places where the fields of a named tuple do not fit a record. -/
def namedTupleMisfits : List TupleField → (shapes : List (String × Shape)) → Path → List Path
  | [], _, _ => []
  | .mk name type :: fields, shapes, path =>
    (TupleField.mk name type).wire.misfits shapes (path.field name)
      (fun shape => misfits type shape (path.field name)) ++ namedTupleMisfits fields shapes path

/-- The places where elements, the first of them at position `i`, do not fit as many shapes. -/
def tupleMisfits : List Descriptor → List Shape → Path → (i : Nat) → List Path
  | element :: elements, shape :: shapes, path, i =>
    misfits element shape (path.index i) ++ tupleMisfits elements shapes path (i + 1)
  | _, _, _, _ => []

end

end Descriptor

/-! ## Fitting without misfits -/

lemma Path.misfitUnless_eq_nil {path : Path} {fine : Bool} : path.misfitUnless fine = [] ↔ fine = true := by
  cases fine <;> simp [misfitUnless]

namespace Descriptor

variable {d : Descriptor}

lemma fits_optional {wrapper : Wrapper} {shape : Shape} :
    d.Fits (.optional wrapper shape) ↔ d.Fits shape := by
  constructor
  · intro h
    cases h with
    | optional _ hinner => exact hinner
  · exact .optional wrapper

/-- Only what lies inside all optionals matters. -/
lemma fits_core (shape : Shape) : d.Fits shape.core ↔ d.Fits shape := by
  induction shape using Shape.core.induct with
  | case1 wrapper inner ih => rw [Shape.core, ih, fits_optional]
  | case2 shape hplain => rw [Shape.core.eq_2 shape hplain]

lemma fitsScalar_of_kind {kind : ScalarKind} (hkind : d.scalarKind? = some kind)
    (destination : ScalarKind) : d.fitsScalar destination = kind.fitsInto destination := by
  cases d with
  | enum id members => cases hkind
  | _ => simp only [fitsScalar, hkind, Option.any_some]

lemma fits_scalar {destination : ScalarKind} :
    d.Fits (.scalar destination) ↔ d.fitsScalar destination = true := by
  constructor
  · intro h
    cases h with
    | scalar hkind => simp [fitsScalar_of_kind hkind, ScalarKind.fitsInto]
    | json hkind => simp [fitsScalar_of_kind hkind, ScalarKind.fitsInto]
    | enum id members => rfl
  · intro h
    cases d with
    | enum id members =>
      obtain rfl := beq_iff_eq.1 h
      exact .enum id members
    | _ =>
      simp only [fitsScalar, Option.any_eq_true] at h
      obtain ⟨kind, hkind, hfits⟩ := h
      simp only [ScalarKind.fitsInto, Bool.or_eq_true, Bool.and_eq_true, beq_iff_eq] at hfits
      rcases hfits with rfl | ⟨rfl, rfl⟩
      · exact .scalar hkind
      · exact .json hkind

lemma fits_tuple {shapes : List Shape} :
    d.Fits (.tuple shapes) ↔
      ∃ id elements, d = .tuple id elements ∧ List.Forall₂ Fits elements shapes := by
  constructor
  · intro h
    cases h with
    | tuple id helements => exact ⟨id, _, rfl, helements⟩
  · rintro ⟨id, elements, rfl, helements⟩
    exact .tuple id helements

lemma fits_sequence {shape : Shape} :
    d.Fits (.sequence shape) ↔ ∃ element, d.item? = some element ∧ element.Fits shape := by
  constructor
  · intro h
    cases h with
    | sequence hitem helement => exact ⟨_, hitem, helement⟩
  · rintro ⟨element, hitem, helement⟩
    exact .sequence hitem helement

/-- What it takes for a field to fit a record. -/
structure FieldFits (shapes : List (String × Shape)) (field : WireField × Descriptor) : Prop where
  type : ∀ shape, shapes.lookup field.1.name = some shape → field.2.Fits shape
  missing : ∀ shape, shapes.lookup field.1.name = some shape →
    field.1.required = true ∨ shape.recordsMissing = true
  implicit : shapes.lookup field.1.name = none → field.1.implicit = true

lemma fits_record {typeName : String} {shapes : List (String × Shape)} :
    d.Fits (.record typeName shapes) ↔
      ∃ fields, d.fields? = some fields ∧ ∀ field ∈ fields, FieldFits shapes field := by
  constructor
  · intro h
    cases h with
    | record _ hfields htypes hmissing himplicit =>
      exact ⟨_, hfields, fun field hfield =>
        ⟨htypes field hfield, hmissing field hfield, himplicit field hfield⟩⟩
  · rintro ⟨fields, hfields, hfit⟩
    exact .record typeName hfields (fun field hfield => (hfit field hfield).type)
      (fun field hfield => (hfit field hfield).missing)
      (fun field hfield => (hfit field hfield).implicit)

lemma fieldFits_iff {field : WireField} {type : Descriptor} {shapes : List (String × Shape)}
    {path : Path} {nested : Shape → List Path} (htype : ∀ shape, type.Fits shape ↔ nested shape = []) :
    FieldFits shapes (field, type) ↔ field.misfits shapes path nested = [] := by
  simp only [WireField.misfits]
  cases hlookup : shapes.lookup field.name with
  | some shape =>
    rw [List.append_eq_nil_iff, Path.misfitUnless_eq_nil, Bool.or_eq_true, ← htype]
    constructor
    · exact fun h => ⟨h.type shape hlookup, h.missing shape hlookup⟩
    · rintro ⟨hfits, hmissing⟩
      refine ⟨fun shape' h => ?_, fun shape' h => ?_, fun h => ?_⟩
      · cases hlookup.symm.trans h
        exact hfits
      · cases hlookup.symm.trans h
        exact hmissing
      · cases hlookup.symm.trans h
  | none =>
    rw [Path.misfitUnless_eq_nil]
    constructor
    · exact fun h => h.implicit hlookup
    · refine fun h => ⟨fun shape h' => ?_, fun shape h' => ?_, fun _ => h⟩
      · cases hlookup.symm.trans h'
      · cases hlookup.symm.trans h'

lemma fits_iff_scalarMisfits (hfields : d.fields? = none) (hitem : d.item? = none)
    (htuple : ∀ id elements, d ≠ .tuple id elements) (shape : Shape) (path : Path) :
    d.Fits shape ↔ d.scalarMisfits shape path = [] := by
  rw [← fits_core, scalarMisfits]
  cases hcore : shape.core with
  | scalar destination => rw [fits_scalar, Path.misfitUnless_eq_nil]
  | optional wrapper inner => exact absurd hcore (shape.core_ne_optional wrapper inner)
  | record typeName shapes => simp [fits_record, hfields]
  | tuple shapes => simp [fits_tuple, htuple]
  | sequence inner => simp [fits_sequence, hitem]

mutual

/-- **A type fits a shape** exactly when there is no place where it does not. -/
theorem fits_iff (d : Descriptor) (shape : Shape) (path : Path) :
    d.Fits shape ↔ d.misfits shape path = [] := by
  cases d with
  | baseScalar id =>
    rw [misfits]
    exact fits_iff_scalarMisfits rfl rfl (fun _ _ h => by cases h) shape path
  | scalar id base =>
    rw [misfits]
    exact fits_iff_scalarMisfits rfl rfl (fun _ _ h => by cases h) shape path
  | enum id members =>
    rw [misfits]
    exact fits_iff_scalarMisfits rfl rfl (fun _ _ h => by cases h) shape path
  | object id fields =>
    rw [← fits_core, misfits]
    cases hcore : shape.core with
    | optional wrapper inner => exact absurd hcore (shape.core_ne_optional wrapper inner)
    | record typeName shapes =>
      simp only [fits_record, fields?, Option.some.injEq, exists_eq_left']
      exact fits_iff_object fields shapes path
    | _ => simp [fits_scalar, fits_tuple, fits_sequence, fitsScalar, scalarKind?, item?]
  | namedTuple id fields =>
    rw [← fits_core, misfits]
    cases hcore : shape.core with
    | optional wrapper inner => exact absurd hcore (shape.core_ne_optional wrapper inner)
    | record typeName shapes =>
      simp only [fits_record, fields?, Option.some.injEq, exists_eq_left']
      exact fits_iff_namedTuple fields shapes path
    | _ => simp [fits_scalar, fits_tuple, fits_sequence, fitsScalar, scalarKind?, item?]
  | tuple id elements =>
    rw [← fits_core, misfits]
    cases hcore : shape.core with
    | optional wrapper inner => exact absurd hcore (shape.core_ne_optional wrapper inner)
    | tuple shapes =>
      have helements : (tuple id elements).Fits (.tuple shapes)
          ↔ List.Forall₂ Fits elements shapes := by
        simp [fits_tuple]
      rw [helements]
      dsimp only
      split
      · rename_i hlength
        exact fits_iff_tuple elements shapes path 0 hlength
      · rename_i hlength
        exact ⟨fun h => absurd h.length_eq.symm hlength, fun h => by cases h⟩
    | _ => simp [fits_scalar, fits_record, fits_sequence, fitsScalar, scalarKind?, item?, fields?]
  | array id element dimensions =>
    rw [← fits_core, misfits]
    cases hcore : shape.core with
    | optional wrapper inner => exact absurd hcore (shape.core_ne_optional wrapper inner)
    | sequence inner =>
      simp only [fits_sequence, item?, Option.some.injEq, exists_eq_left']
      exact fits_iff element inner path.element
    | _ => simp [fits_scalar, fits_record, fits_tuple, fitsScalar, scalarKind?, fields?]
  | set id element =>
    rw [← fits_core, misfits]
    cases hcore : shape.core with
    | optional wrapper inner => exact absurd hcore (shape.core_ne_optional wrapper inner)
    | sequence inner =>
      simp only [fits_sequence, item?, Option.some.injEq, exists_eq_left']
      exact fits_iff element inner path.element
    | _ => simp [fits_scalar, fits_record, fits_tuple, fitsScalar, scalarKind?, fields?]
  | remark id tag text =>
    rw [← fits_core, misfits]
    cases hcore : shape.core with
    | optional wrapper inner => exact absurd hcore (shape.core_ne_optional wrapper inner)
    | _ =>
      simp [fits_scalar, fits_record, fits_tuple, fits_sequence, fitsScalar, scalarKind?, fields?,
        item?]

theorem fits_iff_object (fields : List ObjectField) (shapes : List (String × Shape)) (path : Path) :
    (∀ field ∈ fields.map fun field => (field.wire, field.type), FieldFits shapes field)
      ↔ objectMisfits fields shapes path = [] := by
  cases fields with
  | nil => simp [objectMisfits]
  | cons field fields =>
    cases field with
    | mk name flags cardinality type =>
      rw [List.map_cons, List.forall_mem_cons, objectMisfits, List.append_eq_nil_iff]
      exact and_congr (fieldFits_iff fun shape => fits_iff type shape (path.field name))
        (fits_iff_object fields shapes path)

theorem fits_iff_namedTuple (fields : List TupleField) (shapes : List (String × Shape))
    (path : Path) :
    (∀ field ∈ fields.map fun field => (field.wire, field.type), FieldFits shapes field)
      ↔ namedTupleMisfits fields shapes path = [] := by
  cases fields with
  | nil => simp [namedTupleMisfits]
  | cons field fields =>
    cases field with
    | mk name type =>
      rw [List.map_cons, List.forall_mem_cons, namedTupleMisfits, List.append_eq_nil_iff]
      exact and_congr (fieldFits_iff fun shape => fits_iff type shape (path.field name))
        (fits_iff_namedTuple fields shapes path)

theorem fits_iff_tuple (elements : List Descriptor) (shapes : List Shape) (path : Path) (i : Nat)
    (hlength : shapes.length = elements.length) :
    List.Forall₂ Fits elements shapes ↔ tupleMisfits elements shapes path i = [] := by
  cases elements with
  | nil =>
    obtain rfl := List.length_eq_zero_iff.1 hlength
    simp [tupleMisfits]
  | cons element elements =>
    cases shapes with
    | nil => cases hlength
    | cons shape shapes =>
      rw [List.forall₂_cons, tupleMisfits, List.append_eq_nil_iff,
        fits_iff element shape (path.index i),
        fits_iff_tuple elements shapes path (i + 1) (Nat.succ.inj hlength)]

end

end Descriptor

/-! ## Building -/

/-- The place that an error of building names. -/
def Error.place? : Error → Option Path
  | .codecMismatch path _ | .descriptor (.unsupportedScalar _ path)
  | .descriptor (.remarkAsType _ path) => some path
  | _ => none

/-- Something succeeds where no place is wrong, and else fails with an error that names the first
of them. -/
inductive ReportsFirst {α : Type} : Except Error α → List Path → Prop where
  | ok (a : α) : ReportsFirst (.ok a) []
  | error {e : Error} {path : Path} (others : List Path) (hplace : e.place? = some path) :
    ReportsFirst (.error e) (path :: others)

namespace ReportsFirst

variable {α β : Type} {x : Except Error α} {places : List Path}

lemma exists_ok_iff (h : ReportsFirst x places) : (∃ a, x = .ok a) ↔ places = [] := by
  cases h with
  | ok a => simp
  | error others hplace => simp

lemma head?_of_error (h : ReportsFirst x places) {e : Error} (he : x = .error e) :
    e.place? = places.head? := by
  cases h with
  | ok a => cases he
  | error others hplace =>
    cases he
    exact hplace

lemma map (h : ReportsFirst x places) (f : α → β) : ReportsFirst (x.map f) places := by
  cases h with
  | ok a => exact .ok (f a)
  | error others hplace => exact .error others hplace

/-- What comes after a part that is right is reported, too. -/
lemma bind (h : ReportsFirst x places) {f : α → Except Error β} {later : List Path}
    (hf : ∀ a, x = .ok a → ReportsFirst (f a) later) : ReportsFirst (x >>= f) (places ++ later) := by
  cases h with
  | ok a => exact hf a rfl
  | error others hplace => exact .error (others ++ later) hplace

/-- The parts of a whole are reported one after the other. -/
lemma bind_pure (h : ReportsFirst x places) (f : α → β) :
    ReportsFirst (x >>= fun a => pure (f a)) places := by
  rw [← List.append_nil places]
  exact h.bind fun a _ => .ok (f a)

end ReportsFirst

namespace Decoder

lemma reportsFirst_throughOptionals {shape : Shape} {build : Shape → Except Error Decoder}
    {places : List Path} (h : ReportsFirst (build shape.core) places) :
    ReportsFirst (throughOptionals shape build) places := by
  induction shape, build using throughOptionals.induct with
  | case1 wrapper inner build ih =>
    rw [throughOptionals]
    exact (ih h).map _
  | case2 shape build hshape =>
    rw [throughOptionals.eq_2 shape build hshape]
    rwa [Shape.core.eq_2 shape hshape] at h

lemma reportsFirst_misfit {α : Type} (path : Path) (cause : Mismatch) :
    ReportsFirst (.error (.codecMismatch path cause) : Except Error α) [path] := .error [] rfl

lemma reportsFirst_buildScalar {d : Descriptor}
    (hd : ∀ destination, d.fitsScalar destination = d.scalarKind?.any (·.fitsInto destination))
    (shape : Shape) (path : Path) :
    ReportsFirst (buildScalar d shape.core path) (d.scalarMisfits shape path) := by
  simp only [buildScalar, Descriptor.scalarKind, Descriptor.scalarMisfits, hd]
  cases d.scalarKind? with
  | none => cases shape.core <;> exact .error [] rfl
  | some kind =>
    cases shape.core with
    | scalar destination =>
      simp only [bind, Except.bind, Option.any_some, Path.misfitUnless]
      split
      · exact .ok _
      · exact reportsFirst_misfit path _
    | _ => exact reportsFirst_misfit path _

/-- A field is right when its type is and the record field can record what it must. -/
lemma reportsFirst_buildField (type : Descriptor) {field : WireField} {typeName : String}
    {shapes : List (String × Shape)} {path : Path} {build : Shape → Except Error Decoder}
    {nested : Shape → List Path} (hbuild : ∀ shape, ReportsFirst (build shape) (nested shape))
    (hsuits : ∀ shape decoder, build shape = .ok decoder → decoder.Suits type shape) :
    ReportsFirst (buildField field typeName shapes path build)
      (field.misfits shapes path nested) := by
  simp only [buildField, WireField.misfits]
  have hlookup := findField_eq_lookup field.name shapes
  cases hfind : findField field.name shapes with
  | none =>
    rw [hfind] at hlookup
    simp only [← hlookup, Option.map_none, Path.misfitUnless]
    split
    · exact .ok _
    · exact reportsFirst_misfit path _
  | some found =>
    rw [hfind] at hlookup
    simp only [← hlookup, Option.map_some]
    refine (hbuild found.2).bind fun decoder hdecoder => ?_
    simp only [bindField, (hsuits _ _ hdecoder).supportsMissing_eq, Path.misfitUnless]
    cases field.required <;> cases found.2.recordsMissing <;> first
      | exact .ok _
      | exact reportsFirst_misfit path _

mutual

theorem reportsFirst_buildPlain (d : Descriptor) (shape : Shape) (path : Path) :
    ReportsFirst (buildPlain d shape.core path) (d.misfits shape path) := by
  cases d with
  | baseScalar id => exact reportsFirst_buildScalar (fun _ => rfl) shape path
  | scalar id base => exact reportsFirst_buildScalar (fun _ => rfl) shape path
  | enum id members =>
    simp only [buildPlain, Descriptor.misfits, Descriptor.scalarMisfits]
    cases shape.core with
    | scalar destination =>
      cases destination with
      | str => exact .ok _
      | _ => exact reportsFirst_misfit path _
    | _ => exact reportsFirst_misfit path _
  | object id fields =>
    simp only [buildPlain, Descriptor.misfits]
    cases shape.core with
    | record typeName shapes =>
      exact (reportsFirst_buildObjectFields fields typeName shapes path).bind_pure _
    | _ => exact reportsFirst_misfit path _
  | namedTuple id fields =>
    simp only [buildPlain, Descriptor.misfits]
    cases shape.core with
    | record typeName shapes =>
      exact (reportsFirst_buildTupleFields fields typeName shapes path).bind_pure _
    | _ => exact reportsFirst_misfit path _
  | tuple id elements =>
    simp only [buildPlain, Descriptor.misfits]
    cases shape.core with
    | tuple shapes =>
      dsimp only
      split
      · exact (reportsFirst_buildElements elements shapes path 0).bind_pure _
      · exact reportsFirst_misfit path _
    | _ => exact reportsFirst_misfit path _
  | array id element dimensions =>
    simp only [buildPlain, Descriptor.misfits]
    cases shape.core with
    | sequence inner =>
      exact (reportsFirst_throughOptionals
        (reportsFirst_buildPlain element inner path.element)).bind_pure _
    | _ => exact reportsFirst_misfit path _
  | set id element =>
    simp only [buildPlain, Descriptor.misfits]
    cases shape.core with
    | sequence inner =>
      exact (reportsFirst_throughOptionals
        (reportsFirst_buildPlain element inner path.element)).bind_pure _
    | _ => exact reportsFirst_misfit path _
  | remark id tag text => exact .error [] rfl

theorem reportsFirst_buildObjectFields (fields : List ObjectField) (typeName : String)
    (shapes : List (String × Shape)) (path : Path) :
    ReportsFirst (buildObjectFields fields typeName shapes path)
      (Descriptor.objectMisfits fields shapes path) := by
  cases fields with
  | nil => exact .ok _
  | cons field fields =>
    cases field with
    | mk name flags cardinality type =>
      refine (reportsFirst_buildField type (fun shape => reportsFirst_throughOptionals
        (reportsFirst_buildPlain type shape (path.field name))) fun shape decoder h => ?_).bind
          fun _ _ => (reportsFirst_buildObjectFields fields typeName shapes path).bind_pure _
      exact suits_of_throughOptionals shape
        (fun shape => suits_of_buildPlain type shape (path.field name)) h

theorem reportsFirst_buildTupleFields (fields : List TupleField) (typeName : String)
    (shapes : List (String × Shape)) (path : Path) :
    ReportsFirst (buildTupleFields fields typeName shapes path)
      (Descriptor.namedTupleMisfits fields shapes path) := by
  cases fields with
  | nil => exact .ok _
  | cons field fields =>
    cases field with
    | mk name type =>
      refine (reportsFirst_buildField type (fun shape => reportsFirst_throughOptionals
        (reportsFirst_buildPlain type shape (path.field name))) fun shape decoder h => ?_).bind
          fun _ _ => (reportsFirst_buildTupleFields fields typeName shapes path).bind_pure _
      exact suits_of_throughOptionals shape
        (fun shape => suits_of_buildPlain type shape (path.field name)) h

theorem reportsFirst_buildElements (elements : List Descriptor) (shapes : List Shape) (path : Path)
    (i : Nat) : ReportsFirst (buildElements elements shapes path i)
      (Descriptor.tupleMisfits elements shapes path i) := by
  cases elements with
  | nil => exact .ok _
  | cons element elements =>
    cases shapes with
    | nil => exact .ok _
    | cons shape shapes =>
      exact (reportsFirst_throughOptionals
        (reportsFirst_buildPlain element shape (path.index i))).bind fun _ _ =>
          (reportsFirst_buildElements elements shapes path (i + 1)).bind_pure _

end

/-- **Building** succeeds exactly for a type that fits the shape.  The decoder can record a missing
value exactly when the shape can, and a mismatch is reported at the first place where the type does
not fit. -/
theorem build_iff_fits (d : Descriptor) (shape : Shape) (path : Path) :
    ((∃ decoder, buildAt d shape path = .ok decoder) ↔ d.Fits shape)
      ∧ (∀ decoder, buildAt d shape path = .ok decoder →
        decoder.supportsMissing = shape.recordsMissing)
      ∧ ∀ place cause, buildAt d shape path = .error (.codecMismatch place cause) →
        (d.misfits shape path).head? = some place := by
  have hreports : ReportsFirst (buildAt d shape path) (d.misfits shape path) :=
    reportsFirst_throughOptionals (reportsFirst_buildPlain d shape path)
  refine ⟨?_, fun decoder h => ?_, fun place cause h => ?_⟩
  · rw [d.fits_iff shape path]
    exact hreports.exists_ok_iff
  · have hsuits : decoder.Suits d shape :=
      suits_of_throughOptionals shape (fun shape => suits_of_buildPlain d shape path) h
    exact hsuits.supportsMissing_eq
  · exact (hreports.head?_of_error h).symm

end Decoder

namespace Letter

/-- An object with an identifier that the server added, a receiver that may be missing and a text. -/
def type : Descriptor :=
  .object (Uuid.ofNat 0xC1) [
    .mk "id" ⟨1⟩ .one (.baseScalar ScalarKind.uuid.id),
    .mk "to" ⟨0⟩ .atMostOne (.baseScalar ScalarKind.str.id),
    .mk "text" ⟨0⟩ .one (.scalar (Uuid.ofNat 0xC2) (.baseScalar ScalarKind.json.id))]

/-- A record that it fits. -/
def shape : Shape :=
  .record "Letter" [("text", .scalar .str), ("to", .optional .dropping (.scalar .str))]

/-- A record that can neither do without the receiver nor hold the text. -/
def otherShape : Shape := .record "Letter" [("text", .scalar .int64), ("to", .scalar .str)]

/-- The decoder for the record that it fits. -/
def decoder : Decoder :=
  .object (Uuid.ofNat 0xC1) [
    .skipped "id",
    .bound "to" 1 (.optional (.scalar ScalarKind.str.id .str)),
    .bound "text" 0 (.scalar (Uuid.ofNat 0xC2) .json)]

/-- Of the two places that are wrong the receiver is reported, which comes first in the type. -/
theorem build_iff_fits_letter :
    type.Fits shape ∧ decoder.supportsMissing = false
      ∧ Decoder.buildAt type otherShape .result
        = .error (.codecMismatch (Path.result.field "to") (.mayBeMissing "String"))
      ∧ type.misfits otherShape .result = [Path.result.field "to", Path.result.field "text"]
      ∧ (type.misfits otherShape .result).head? = some (Path.result.field "to")
      ∧ ¬ type.Fits otherShape := by
  have hbuild : Decoder.buildAt type shape .result = .ok decoder := rfl
  have herror : Decoder.buildAt type otherShape .result
      = .error (.codecMismatch (Path.result.field "to") (.mayBeMissing "String")) := rfl
  obtain ⟨hfits, hmissing, -⟩ := Decoder.build_iff_fits type shape .result
  obtain ⟨hmisfit, -, hfirst⟩ := Decoder.build_iff_fits type otherShape .result
  refine ⟨hfits.1 ⟨decoder, hbuild⟩, hmissing decoder hbuild, herror, rfl, hfirst _ _ herror, ?_⟩
  intro h
  obtain ⟨other, hother⟩ := hmisfit.2 h
  cases herror.symm.trans hother

end Letter

end QueryWire
