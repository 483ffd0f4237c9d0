import Mathlib.Data.List.Forall2
import Mathlib.Logic.Relation
import QueryWire.Proofs.Codec.Parts
import QueryWire.Table

/-!
# The order of named arguments

Named arguments are looked up by name, so that their order does not matter as long as the names are
distinct.  An argument may hold named tuples at any depth, and each of them may be given in another
order: no encoder tells the two arguments apart, wherever it meets them.  What is written for a named
tuple has the fields of the type in the order of the type.

Under one name the first argument counts.  A later one is not looked at, and neither are the named
tuples in it; all others must have the fields of their type and no more.

* `Argument.Permutes`, `Argument.Reordered` — one named tuple in another order, and any number of
  them.
* `Argument.Alike` — that no encoder tells two arguments apart.
* `Encoder.Meets` — the named tuples that an encoder meets on its way through an argument.
* **`Argument.Permutes.alike`**, **`Argument.Reordered.alike`** — the order makes no difference to an
  encoder, from one named tuple to all.
* **`Encoder.Meets.exists_infix`** — what is met is written.
* **`Encoder.encodeArguments_reordered`** — all of this for the arguments of a statement.
-/

namespace QueryWire

namespace Argument

/-! ## Other orders -/

/-- One named tuple whose names are distinct, somewhere in an argument, has its pairs in another
order. -/
inductive Permutes : Argument → Argument → Prop
  | here {given given' : List (String × Argument)} (hdistinct : (given'.map Prod.fst).Nodup)
      (hperm : given.Perm given') : Permutes (.named given) (.named given')
  | tuple (before after : List Argument) {v v' : Argument} (h : Permutes v v') :
      Permutes (.tuple (before ++ v :: after)) (.tuple (before ++ v' :: after))
  | named (before after : List (String × Argument)) (name : String) {v v' : Argument}
      (h : Permutes v v') :
      Permutes (.named (before ++ (name, v) :: after)) (.named (before ++ (name, v') :: after))
  | array (before after : List Argument) {v v' : Argument} (h : Permutes v v') :
      Permutes (.array (before ++ v :: after)) (.array (before ++ v' :: after))
  | set (before after : List Argument) {v v' : Argument} (h : Permutes v v') :
      Permutes (.set (before ++ v :: after)) (.set (before ++ v' :: after))

/-- Any number of named tuples have their pairs in another order. -/
def Reordered : Argument → Argument → Prop := Relation.ReflTransGen Permutes

/-- No encoder tells two arguments apart, and they are both missing or both there. -/
structure Alike (v v' : Argument) : Prop where
  isNothing : v.isNothing = v'.isNothing
  encode : ∀ (encoder : Encoder) (path : Path),
    (encoder.encode path v).Agree (encoder.encode path v')

/-- A name is given when something is found under it. -/
lemma mem_names_iff {given : List (String × Argument)} {name : String} :
    name ∈ given.map Prod.fst ↔ (given.lookup name).isSome = true := by
  rw [List.lookup_isSome_iff, List.mem_map]
  exact exists_congr fun pair => and_congr_right fun _ => by rw [beq_iff_eq, eq_comm]

lemma Alike.refl (v : Argument) : v.Alike v := ⟨rfl, fun _ _ => .refl _⟩

lemma Alike.trans {u v w : Argument} (huv : u.Alike v) (hvw : v.Alike w) : u.Alike w where
  isNothing := huv.isNothing.trans hvw.isNothing
  encode encoder path := (huv.encode encoder path).trans (hvw.encode encoder path)

lemma rel_refl (item : Option Argument) : Option.Rel Alike item item := by
  cases item with
  | none => exact .none
  | some item => exact .some (.refl item)

lemma isSome_eq_of_rel {item item' : Option Argument} (h : Option.Rel Alike item item') :
    item.isSome = item'.isSome := by
  cases h with
  | none => rfl
  | some _ => rfl

namespace Alike

open Encoder

variable {v v' : Argument}

/-! ## Around arguments that are alike -/

/-- Only whether there is an argument is asked before it is written. -/
lemma agree_present (h : v.Alike v') (encoder : Encoder) (path : Path)
    (missing : Except Error Bytes) (f : Bytes → Bytes) :
    (if v.isNothing then missing else (encoder.encode path v).map f).Agree
      (if v'.isNothing then missing else (encoder.encode path v').map f) := by
  rw [h.isNothing]
  split
  · exact .refl _
  · exact (h.encode encoder path).map f

lemma agree_encodeElement (h : v.Alike v') (encoder : Encoder) (path : Path) :
    (encodeElement (fun item => encoder.encode path item) v).Agree
      (encodeElement (fun item => encoder.encode path item) v') :=
  h.agree_present encoder path _ _

lemma agree_encodeItem (h : v.Alike v') (encoder : Encoder) (path : Path) :
    (encodeItem path (fun item => encoder.encode path item) v).Agree
      (encodeItem path (fun item => encoder.encode path item) v') :=
  h.agree_present encoder path _ _

lemma agree_encodeElements (h : v.Alike v') (before after : List Argument)
    (encoders : List Encoder) (path : Path) (i : Nat) :
    (encodeElements encoders path i (before ++ v :: after)).Agree
      (encodeElements encoders path i (before ++ v' :: after)) := by
  induction before generalizing encoders i with
  | nil =>
    cases encoders with
    | nil => exact .refl _
    | cons encoder encoders =>
      simp only [List.nil_append, encodeElements]
      exact (h.agree_encodeElement encoder _).bind fun _ => .refl _
  | cons item before ih =>
    cases encoders with
    | nil => exact .refl _
    | cons encoder encoders =>
      simp only [List.cons_append, encodeElements]
      exact (Except.Agree.refl _).bind fun _ => (ih encoders (i + 1)).bind fun _ => .refl _

lemma agree_mapM (h : v.Alike v') (before after : List Argument) (encoder : Encoder)
    (path : Path) :
    ((before ++ v :: after).mapM (encodeItem path fun item => encoder.encode path item)).Agree
      ((before ++ v' :: after).mapM (encodeItem path fun item => encoder.encode path item)) := by
  simp only [List.mapM_append, List.mapM_cons]
  exact (Except.Agree.refl _).bind fun _ =>
    ((h.agree_encodeItem encoder path).bind fun _ => .refl _).bind fun _ => .refl _

lemma agree_encodeFields {given given' : List (String × Argument)}
    (h : ∀ name, Option.Rel Alike (given.lookup name) (given'.lookup name))
    (fields : List (String × Encoder)) (path : Path) :
    (encodeFields fields path given).Agree (encodeFields fields path given') := by
  induction fields with
  | nil => exact .refl _
  | cons field fields ih =>
    obtain ⟨name, encoder⟩ := field
    have hname := h name
    simp only [encodeFields]
    generalize given.lookup name = item at hname
    generalize given'.lookup name = item' at hname
    cases hname with
    | none => exact .refl _
    | some halike =>
      exact (halike.agree_encodeElement encoder _).bind fun _ => ih.bind fun _ => .refl _

/-! ## Arguments with parts that are alike -/

protected lemma tuple (h : v.Alike v') (before after : List Argument) :
    Alike (.tuple (before ++ v :: after)) (.tuple (before ++ v' :: after)) := by
  refine ⟨rfl, fun encoder path => ?_⟩
  cases encoder with
  | tuple id elements =>
    simp only [Encoder.encode, List.length_append, List.length_cons]
    split
    · exact (h.agree_encodeElements before after elements path 0).map _
    · exact .refl _
  | _ => exact .refl _

protected lemma row (h : v.Alike v') (before after : List Argument)
    {row : List Argument → Argument} (hrow : row = .array ∨ row = .set) :
    Alike (row (before ++ v :: after)) (row (before ++ v' :: after)) := by
  have hmapM (element : Encoder) (path : Path) := h.agree_mapM before after element path.element
  rcases hrow with rfl | rfl <;> refine ⟨rfl, fun encoder path => ?_⟩
  all_goals
    cases encoder with
    | array id element | set id element => exact (hmapM element path).map arrayBytes
    | _ => exact .refl _

/-- Named tuples are alike when the same is found in them under every name. -/
protected lemma named {given given' : List (String × Argument)}
    (h : ∀ name, Option.Rel Alike (given.lookup name) (given'.lookup name)) :
    Alike (.named given) (.named given') := by
  have hnames (name : String) : name ∈ given.map Prod.fst ↔ name ∈ given'.map Prod.fst := by
    rw [mem_names_iff, mem_names_iff, isSome_eq_of_rel (h name)]
  refine ⟨rfl, fun encoder path => ?_⟩
  cases encoder with
  | namedTuple id fields =>
    intro bytes
    simp only [encode_named_eq_ok, hnames, agree_encodeFields h fields path _]
  | _ => exact .refl _

end Alike

/-! ## The order makes no difference -/

/-- Under every name something alike is found when one argument is replaced by one that is alike. -/
lemma rel_lookup {v v' : Argument} (h : v.Alike v') (before after : List (String × Argument))
    (name key : String) :
    Option.Rel Alike ((before ++ (name, v) :: after).lookup key)
      ((before ++ (name, v') :: after).lookup key) := by
  induction before with
  | nil =>
    simp only [List.nil_append, List.lookup_cons]
    split
    · exact .some h
    · exact rel_refl _
  | cons pair before ih =>
    obtain ⟨name', item⟩ := pair
    simp only [List.cons_append, List.lookup_cons]
    split
    · exact rel_refl _
    · exact ih

/-- **One named tuple.**  No encoder tells apart two arguments of which one named tuple has its pairs
in another order. -/
theorem Permutes.alike {v v' : Argument} (h : Permutes v v') : v.Alike v' := by
  -- `Alike` speaks of all encoders and paths, so that it holds wherever the named tuple is met.
  induction h with
  | here hdistinct hperm =>
    refine Alike.named fun name => ?_
    rw [Table.lookup_eq_of_perm hperm hdistinct]
    exact rel_refl _
  | tuple before after _ ih => exact ih.tuple before after
  | named before after name _ ih => exact Alike.named (rel_lookup ih before after name)
  | array before after _ ih => exact ih.row before after (.inl rfl)
  | set before after _ ih => exact ih.row before after (.inr rfl)

/-- **All of them.**  Nor do any number of named tuples make a difference. -/
theorem Reordered.alike {v v' : Argument} (h : v.Reordered v') : v.Alike v' := by
  induction h with
  | refl => exact .refl v
  | tail _ hstep ih => exact ih.trans hstep.alike

end Argument

namespace Encoder

/-! ## What is written for fields -/

/-- The parts that are written for fields, each from the argument under its name. -/
def FieldParts (path : Path) (given : List (String × Argument)) (fields : List (String × Encoder))
    (parts : List Bytes) : Prop :=
  List.Forall₂ (fun field part => ∃ item, given.lookup field.1 = some item
    ∧ encodeElement (fun item => field.2.encode (path.field field.1) item) item = .ok part)
    fields parts

lemma FieldParts.exists_of_mem {path : Path} {given : List (String × Argument)}
    {fields : List (String × Encoder)} {parts : List Bytes} {field : String × Encoder}
    (h : FieldParts path given fields parts) (hmem : field ∈ fields) :
    ∃ part ∈ parts, ∃ item, given.lookup field.1 = some item
      ∧ encodeElement (fun item => field.2.encode (path.field field.1) item) item = .ok part := by
  induction h with
  | nil => cases hmem
  | @cons first part fields parts hfirst _ ih =>
    rcases List.mem_cons.1 hmem with rfl | hmem
    · exact ⟨part, List.mem_cons_self, hfirst⟩
    · obtain ⟨part', hpart', hfield⟩ := ih hmem
      exact ⟨part', List.mem_cons_of_mem part hpart', hfield⟩

lemma fieldParts_of_encodeFields {fields : List (String × Encoder)} {path : Path}
    {given : List (String × Argument)} {payload : Bytes}
    (h : encodeFields fields path given = .ok payload) :
    ∃ parts, FieldParts path given fields parts ∧ payload = parts.flatten := by
  induction fields generalizing payload with
  | nil =>
    cases h
    exact ⟨[], .nil, rfl⟩
  | cons field fields ih =>
    obtain ⟨name, encoder⟩ := field
    simp only [encodeFields] at h
    split at h
    · cases h
    · rename_i item hitem
      obtain ⟨first, others, hfirst, hothers, rfl⟩ := Except.bind_bind_pure_eq_ok.1 h
      obtain ⟨parts, hparts, rfl⟩ := ih hothers
      exact ⟨first :: parts, .cons ⟨item, hitem, hfirst⟩ hparts, rfl⟩

/-! ## What is met -/

/-- The argument that counts under a name: the first one given. -/
def IsFirst (given : List (String × Argument)) (name : String) (item : Argument) : Prop :=
  given.lookup name = some item

/-- An argument under a name, also behind another one of that name. -/
def IsAny (given : List (String × Argument)) (name : String) (item : Argument) : Prop :=
  (name, item) ∈ given

/-- A named tuple somewhere in an argument, `given`, and the fields of the type that stand against
it.  From a named tuple the way goes on with the arguments of which `Counts` holds. -/
inductive Meets (Counts : List (String × Argument) → String → Argument → Prop) :
    Encoder → Argument → List (String × Encoder) → List (String × Argument) → Prop
  | here (id : Uuid) (fields : List (String × Encoder)) (given : List (String × Argument)) :
      Meets Counts (.namedTuple id fields) (.named given) fields given
  | tuple {id : Uuid} {elements : List Encoder} {items : List Argument} {encoder : Encoder}
      {item : Argument} {fields : List (String × Encoder)} {given : List (String × Argument)}
      (hmem : (encoder, item) ∈ elements.zip items) (h : Meets Counts encoder item fields given) :
      Meets Counts (.tuple id elements) (.tuple items) fields given
  | named {id : Uuid} {declared : List (String × Encoder)} {outer : List (String × Argument)}
      {name : String} {encoder : Encoder} {item : Argument} {fields : List (String × Encoder)}
      {given : List (String × Argument)} (hdeclared : (name, encoder) ∈ declared)
      (hcounts : Counts outer name item) (h : Meets Counts encoder item fields given) :
      Meets Counts (.namedTuple id declared) (.named outer) fields given
  | array {id : Uuid} {element : Encoder} {v : Argument} {items : List Argument} {item : Argument}
      {fields : List (String × Encoder)} {given : List (String × Argument)}
      (hitems : items? v = some items) (hmem : item ∈ items)
      (h : Meets Counts element item fields given) : Meets Counts (.array id element) v fields given
  | set {id : Uuid} {element : Encoder} {v : Argument} {items : List Argument} {item : Argument}
      {fields : List (String × Encoder)} {given : List (String × Argument)}
      (hitems : items? v = some items) (hmem : item ∈ items)
      (h : Meets Counts element item fields given) : Meets Counts (.set id element) v fields given

variable {encoder : Encoder} {v item : Argument} {fields : List (String × Encoder)}
  {given : List (String × Argument)}

lemma Meets.isNothing {Counts : List (String × Argument) → String → Argument → Prop}
    (h : encoder.Meets Counts v fields given) : v.isNothing = false := by
  cases h with
  | here | tuple | named => rfl
  | array hitems | set hitems =>
    cases v with
    | nothing => cases hitems
    | _ => rfl

/-- A part that is there has its payload in it. -/
lemma exists_infix_of_encodeElement {path : Path} {part : Bytes} (hitem : item.isNothing = false)
    (h : encodeElement (fun item => encoder.encode path item) item = .ok part) :
    ∃ payload, encoder.encode path item = .ok payload ∧ payload <:+: part := by
  rcases encodeElement_cases h with ⟨rfl, -⟩ | ⟨payload, hpayload, rfl⟩
  · cases hitem
  · refine ⟨payload, hpayload, word 0 ++ BigEndian.encode 4 payload.length, [], ?_⟩
    rw [List.append_nil, List.append_assoc]
    rfl

/-- Each element of a tuple has its payload in the whole. -/
lemma exists_infix_of_encodeElements {encoders : List Encoder} {items : List Argument} {path : Path}
    {i : Nat} {payload : Bytes} (hmem : (encoder, item) ∈ encoders.zip items)
    (hitem : item.isNothing = false) (h : encodeElements encoders path i items = .ok payload) :
    ∃ place part, encoder.encode place item = .ok part ∧ part <:+: payload := by
  induction encoders generalizing items i payload with
  | nil => cases hmem
  | cons first encoders ih =>
    cases items with
    | nil => cases hmem
    | cons firstItem items =>
      obtain ⟨element, others, helement, hothers, rfl⟩ := Except.bind_bind_pure_eq_ok.1 h
      rw [List.zip_cons_cons, List.mem_cons] at hmem
      rcases hmem with heq | hmem
      · cases heq
        obtain ⟨part, hpart, hinfix⟩ := exists_infix_of_encodeElement hitem helement
        exact ⟨_, part, hpart, hinfix.trans (List.infix_append' [] element others)⟩
      · obtain ⟨place, part, hpart, hinfix⟩ := ih hmem hothers
        exact ⟨place, part, hpart, hinfix.trans (List.suffix_append element others).isInfix⟩

/-- Each item of an array has its payload in the whole. -/
lemma exists_infix_of_mapM {items : List Argument} {path : Path} {parts : List Bytes}
    (hmem : item ∈ items)
    (h : items.mapM (encodeItem path fun item => encoder.encode path item) = .ok parts) :
    ∃ part, encoder.encode path item = .ok part ∧ part <:+: arrayBytes parts := by
  obtain ⟨part, hpart, hitem⟩ := Except.exists_of_mem_mapM hmem h
  obtain ⟨payload, hpayload, rfl⟩ := encodeItem_eq_ok hitem
  refine ⟨payload, hpayload, ?_⟩
  have hprefixed : payload <:+: payload.prefixed := (List.suffix_append _ payload).isInfix
  have hflatten : parts.flatten <:+: arrayBytes parts := by
    have hne : ¬ parts.isEmpty = true := fun hempty => by
      rw [List.isEmpty_iff.1 hempty] at hpart
      cases hpart
    rw [arrayBytes, if_neg hne]
    exact (List.suffix_append _ parts.flatten).isInfix
  exact (hprefixed.trans (List.infix_of_mem_flatten hpart)).trans hflatten

/-- **What is met** is written: its bytes stand among those of the whole. -/
theorem Meets.exists_infix (h : encoder.Meets IsFirst v fields given) {path : Path} {bytes : Bytes}
    (hbytes : encoder.encode path v = .ok bytes) :
    ∃ id place part, (Encoder.namedTuple id fields).encode place (.named given) = .ok part
      ∧ part <:+: bytes := by
  -- Along the way to the named tuple: whoever is written has the next one among its bytes.
  induction h generalizing path bytes with
  | here id fields given => exact ⟨id, path, bytes, hbytes, List.infix_refl bytes⟩
  | tuple hmem hmeets ih =>
    obtain ⟨_, payload, hv, -, hpayload, rfl⟩ := encode_tuple_eq_ok hbytes
    cases hv
    obtain ⟨place, element, helement, hinfix⟩ :=
      exists_infix_of_encodeElements hmem hmeets.isNothing hpayload
    obtain ⟨id, place, part, hpart, hinner⟩ := ih helement
    exact ⟨id, place, part, hpart, (hinner.trans hinfix).trans (List.suffix_append _ _).isInfix⟩
  | named hdeclared hcounts hmeets ih =>
    obtain ⟨-, payload, hpayload, rfl⟩ := encode_named_eq_ok.1 hbytes
    obtain ⟨parts, hparts, rfl⟩ := fieldParts_of_encodeFields hpayload
    obtain ⟨element, hmem, item, hitem, helement⟩ := hparts.exists_of_mem hdeclared
    cases hitem.symm.trans hcounts
    obtain ⟨field, hfield, hinfix⟩ := exists_infix_of_encodeElement hmeets.isNothing helement
    obtain ⟨id, place, part, hpart, hinner⟩ := ih hfield
    exact ⟨id, place, part, hpart, ((hinner.trans hinfix).trans (List.infix_of_mem_flatten hmem)).trans
      (List.suffix_append _ _).isInfix⟩
  | array hitems hmem hmeets ih | set hitems hmem hmeets ih =>
    simp only [Encoder.encode, hitems] at hbytes
    obtain ⟨parts, hparts, rfl⟩ := Except.map_eq_ok.1 hbytes
    obtain ⟨element, helement, hinfix⟩ := exists_infix_of_mapM hmem hparts
    obtain ⟨id, place, part, hpart, hinner⟩ := ih helement
    exact ⟨id, place, part, hpart, hinner.trans hinfix⟩

/-- Named tuples that are written have the fields of their type, and those only. -/
lemma names_of_encode {id : Uuid} {path : Path} {part : Bytes}
    (h : (Encoder.namedTuple id fields).encode path (.named given) = .ok part) :
    (∀ field ∈ fields, field.1 ∈ given.map Prod.fst)
      ∧ ∀ pair ∈ given, pair.1 ∈ fields.map Prod.fst := by
  obtain ⟨hnames, payload, hpayload, -⟩ := encode_named_eq_ok.1 h
  obtain ⟨parts, hparts, -⟩ := fieldParts_of_encodeFields hpayload
  refine ⟨fun field hfield => ?_, List.forall_mem_map.1 hnames⟩
  obtain ⟨-, -, item, hitem, -⟩ := hparts.exists_of_mem hfield
  rw [Argument.mem_names_iff, hitem]
  rfl

/-! ## The arguments of a statement -/

/-- Only missing arguments are written otherwise than as an argument. -/
lemma encodeArguments_of_present (encoder : Encoder) (h : v.isNothing = false) :
    encodeArguments encoder v = encoder.encode .arguments v := by
  unfold encodeArguments
  split
  · cases h
  · rfl

lemma agree_encodeArguments (encoder : Encoder) {v' : Argument} (h : v.Alike v') :
    (encodeArguments encoder v).Agree (encodeArguments encoder v') := by
  cases hv : v.isNothing with
  | true =>
    have hv' : v'.isNothing = true := h.isNothing.symm.trans hv
    cases v with
    | nothing =>
      cases v' with
      | nothing => exact .refl _
      | _ => cases hv'
    | _ => cases hv
  | false =>
    rw [encodeArguments_of_present encoder hv, encodeArguments_of_present encoder (h.isNothing.symm.trans hv)]
    exact h.encode encoder .arguments

/-- **The order of named arguments** makes no difference: both succeed with the same bytes, or both
fail.  Among the bytes are those of every named tuple that is met, as many fields as its type has and
in the order of the type; and if it lacks one of them or has another one besides, there are none. -/
theorem encodeArguments_reordered (encoder : Encoder) {v v' : Argument} (h : v.Reordered v') :
    (∀ bytes, encodeArguments encoder v = .ok bytes ↔ encodeArguments encoder v' = .ok bytes)
    ∧ ∀ fields given, encoder.Meets IsFirst v fields given →
      (∀ bytes, encodeArguments encoder v = .ok bytes →
        ∃ path parts, FieldParts path given fields parts
          ∧ word fields.length ++ parts.flatten <:+: bytes)
      ∧ ((∃ field ∈ fields, field.1 ∉ given.map Prod.fst)
            ∨ (∃ pair ∈ given, pair.1 ∉ fields.map Prod.fst) →
          ∃ e, encodeArguments encoder v = .error e) := by
  refine ⟨agree_encodeArguments encoder h.alike, fun fields given hmeets => ?_⟩
  rw [encodeArguments_of_present encoder hmeets.isNothing]
  refine ⟨fun bytes hbytes => ?_, fun hnames => ?_⟩
  · obtain ⟨id, place, part, hpart, hinfix⟩ := hmeets.exists_infix hbytes
    obtain ⟨-, payload, hpayload, rfl⟩ := encode_named_eq_ok.1 hpart
    obtain ⟨parts, hparts, rfl⟩ := fieldParts_of_encodeFields hpayload
    exact ⟨place, parts, hparts, hinfix⟩
  · refine Except.exists_eq_error fun bytes hbytes => ?_
    obtain ⟨id, place, part, hpart, -⟩ := hmeets.exists_infix hbytes
    obtain ⟨hfields, hgiven⟩ := names_of_encode hpart
    rcases hnames with ⟨field, hfield, hlacks⟩ | ⟨pair, hpair, hother⟩
    · exact hlacks (hfields field hfield)
    · exact hother (hgiven pair hpair)

end Encoder

namespace Paired

open Encoder

/-- The fields of a pair. -/
def fields : List (String × Encoder) :=
  [("left", .scalar default .bool), ("right", .scalar default .bool)]

/-- A number, and a row of pairs. -/
def encoder : Encoder :=
  .namedTuple default
    [("n", .scalar default .int16), ("row", .array default (.namedTuple default fields))]

/-- A pair in the order of its type. -/
def pair : List (String × Argument) :=
  [("left", .scalar (.bool true)), ("right", .scalar (.bool false))]

/-- The same pair the other way round. -/
def backwards : List (String × Argument) :=
  [("right", .scalar (.bool false)), ("left", .scalar (.bool true))]

/-- Arguments of which also the names are the other way round. -/
def given : Argument := .named [("row", .array [.named backwards]), ("n", .scalar (.int16 7))]

lemma reordered_given :
    given.Reordered (.named [("n", .scalar (.int16 7)), ("row", .array [.named pair])]) := by
  have hinner : Argument.Permutes (.named backwards) (.named pair) :=
    .here (by decide) (List.Perm.swap _ _ [])
  exact .tail (.single (.named [] [("n", .scalar (.int16 7))] "row" (.array [] [] hinner)))
    (.here (by decide) (List.Perm.swap _ _ []))

/-- The same bytes are written in either order, and the pair in the order of its type. -/
theorem encodeArguments_reordered_paired :
    ∃ bytes, encodeArguments encoder given = .ok bytes
      ∧ encodeArguments encoder (.named [("n", .scalar (.int16 7)), ("row", .array [.named pair])])
        = .ok bytes
      ∧ ∃ path parts, FieldParts path backwards fields parts
        ∧ word 2 ++ parts.flatten <:+: bytes := by
  have hmeets : encoder.Meets IsFirst given fields backwards :=
    .named (List.mem_cons_of_mem _ (List.mem_singleton_self _)) rfl
      (.array rfl (List.mem_singleton_self _) (.here default fields backwards))
  obtain ⟨hsame, hmet⟩ := encodeArguments_reordered encoder reordered_given
  exact ⟨_, rfl, (hsame _).1 rfl, (hmet fields backwards hmeets).1 _ rfl⟩

end Paired

namespace Shadowed

open Encoder

/-- A named tuple in a named tuple. -/
def encoder : Encoder :=
  .namedTuple default [("a", .namedTuple default [("x", .scalar default .int16)])]

/-- Two arguments under one name, of which the second lacks the only field of its type. -/
def given : Argument :=
  .named [("a", .named [("x", .scalar (.int16 3))]), ("a", .named [])]

/-- A named tuple behind another argument under the same name may lack a field. -/
theorem encodeArguments_shadowed :
    encoder.Meets IsAny given [("x", .scalar default .int16)] []
      ∧ (∃ field ∈ [("x", Encoder.scalar default .int16)],
        field.1 ∉ ([] : List (String × Argument)).map Prod.fst)
      ∧ ∃ bytes, encodeArguments encoder given = .ok bytes := by
  refine ⟨?_, ⟨_, List.mem_singleton_self _, List.not_mem_nil⟩, _, rfl⟩
  exact .named (List.mem_singleton_self _) (List.mem_cons_of_mem _ (List.mem_singleton_self _))
    (.here default [("x", .scalar default .int16)] [])

end Shadowed

end QueryWire
