import QueryWire.Proofs.Codec.Holding
import QueryWire.Table

/-!
# Filling a record by names

Fields arrive in the order of the type and go to the parts of a record in the order of the
destination.  Each part is filled once, and what is not named stays as it was.

* `Decoder.findField_eq_some` — a field goes to the first part of its name.
* `Decoder.findField_inj` — fields of different names go to different parts.
* `Shape.getElem?_holdingFields` — what the part holds that a name is found at.
* `Filling` — a record some of whose parts are filled.
* **`Filling.eq_holdingFields`** — the record once all names were seen.
-/

namespace QueryWire

/-! ## Finding a field -/

namespace Decoder

lemma findField_cons (name : String) (field : String × Shape) (fields : List (String × Shape)) :
    findField name (field :: fields)
      = if field.1 = name then some (0, field.2)
        else (findField name fields).map fun (index, shape) => (index + 1, shape) := by
  simp only [findField]
  rw [List.zipIdx_cons, List.find?_cons]
  by_cases h : field.1 = name
  · simp [h]
  · have hne : (field.1 == name) = false := beq_eq_false_iff_ne.2 h
    rw [if_neg h, Nat.zero_add, List.zipIdx_succ, List.find?_map, Option.map_map]
    simp only [hne, Option.map_map]
    rfl

/-- The record field that is found is the first one of the name. -/
lemma findField_eq_some {name : String} {fields : List (String × Shape)} {index : Nat}
    {shape : Shape} (h : findField name fields = some (index, shape)) :
    fields[index]? = some (name, shape)
      ∧ ∀ i < index, ∀ other, fields[i]? = some other → other.1 ≠ name := by
  induction fields generalizing index with
  | nil => cases h
  | cons field fields ih =>
    rw [findField_cons] at h
    split at h
    · rename_i hname
      cases h
      exact ⟨by rw [← hname]; rfl, fun i hi => absurd hi (Nat.not_lt_zero i)⟩
    · rename_i hname
      obtain ⟨⟨j, _⟩, hj, heq⟩ := Option.map_eq_some_iff.1 h
      cases heq
      obtain ⟨hshape, hfirst⟩ := ih hj
      refine ⟨hshape, fun i hi other hother => ?_⟩
      cases i with
      | zero =>
        cases hother
        exact hname
      | succ i => exact hfirst i (Nat.lt_of_succ_lt_succ hi) other hother

/-- Where none is found, none has the name. -/
lemma findField_eq_none {name : String} {fields : List (String × Shape)}
    (h : findField name fields = none) : ∀ other ∈ fields, other.1 ≠ name := by
  induction fields with
  | nil =>
    intro other hother
    cases hother
  | cons field fields ih =>
    rw [findField_cons] at h
    split at h
    · cases h
    · rename_i hname
      exact List.forall_mem_cons.2 ⟨hname, ih (Option.map_eq_none_iff.1 h)⟩

/-- The first record field of a name is the one that is looked up. -/
lemma lookup_of_first {name : String} {fields : List (String × Shape)} {index : Nat} {shape : Shape}
    (hshape : fields[index]? = some (name, shape))
    (hfirst : ∀ i < index, ∀ other, fields[i]? = some other → other.1 ≠ name) :
    fields.lookup name = some shape := by
  obtain ⟨hindex, hget⟩ := List.getElem?_eq_some_iff.1 hshape
  refine List.lookup_eq_some_iff.2 ⟨fields.take index, fields.drop (index + 1), ?_, ?_⟩
  · rw [← hget, List.getElem_cons_drop, List.take_append_drop]
  · intro other hother
    obtain ⟨i, hi, rfl⟩ := List.mem_take_iff_getElem.1 hother
    obtain ⟨hbefore, hlength⟩ := Nat.lt_min.1 hi
    exact bne_iff_ne.2 (hfirst i hbefore _ (List.getElem?_eq_getElem hlength)).symm

lemma findField_eq_lookup (name : String) (fields : List (String × Shape)) :
    (findField name fields).map Prod.snd = fields.lookup name := by
  cases hfind : findField name fields with
  | some found =>
    obtain ⟨hshape, hfirst⟩ := findField_eq_some hfind
    exact (lookup_of_first hshape hfirst).symm
  | none =>
    refine (List.lookup_eq_none_iff.2 fun other hother => ?_).symm
    exact bne_iff_ne.2 (findField_eq_none hfind other hother).symm

/-- Fields of different names are found at different places. -/
lemma findField_inj {fields : List (String × Shape)} {name name' : String} {i : Nat}
    {shape shape' : Shape} (h : findField name fields = some (i, shape))
    (h' : findField name' fields = some (i, shape')) : name = name' := by
  have heq := (findField_eq_some h).1.symm.trans (findField_eq_some h').1
  exact congrArg Prod.fst (Option.some.inj heq)

/-- A record field that is found has its shape among the shapes of the record. -/
lemma getElem?_of_findField {name : String} {fields : List (String × Shape)} {index : Nat}
    {shape : Shape} (h : findField name fields = some (index, shape)) :
    (fields.map Prod.snd)[index]? = some shape := by
  rw [List.getElem?_map, (findField_eq_some h).1]
  rfl

end Decoder

/-! ## What the parts hold -/

namespace Shape

variable {fields : List (String × Shape)} {given : List (String × Argument)}

lemma lookup_filter_ne {name name' : String} (h : name ≠ name') :
    (given.filter fun pair => pair.1 != name').lookup name = given.lookup name := by
  rw [Table.lookup_filter (· != name'), if_pos (bne_iff_ne.2 h)]

lemma lookup_filter_self (name : String) :
    (given.filter fun pair => pair.1 != name).lookup name = none := by
  rw [Table.lookup_filter (· != name), if_neg (by simp)]

lemma getElem?_freshFields {name : String} {i : Nat} {shape : Shape}
    (h : Decoder.findField name fields = some (i, shape)) :
    (freshFields fields)[i]? = some shape.fresh := by
  induction fields generalizing i with
  | nil => cases h
  | cons field fields ih =>
    rw [Decoder.findField_cons] at h
    split at h
    · cases h
      rfl
    · obtain ⟨⟨j, _⟩, hj, heq⟩ := Option.map_eq_some_iff.1 h
      cases heq
      exact ih hj

/-- The part that a name is found at holds what is given for the name. -/
lemma getElem?_holdingFields {name : String} {i : Nat} {shape : Shape} {item : Argument}
    (h : Decoder.findField name fields = some (i, shape)) (hitem : given.lookup name = some item) :
    (holdingFields fields given)[i]? = some (shape.holding item) := by
  induction fields generalizing i given with
  | nil => cases h
  | cons field fields ih =>
    obtain ⟨key, _⟩ := field
    rw [Decoder.findField_cons] at h
    split at h
    · rename_i hkey
      cases h
      cases hkey
      simp only [holdingFields, hitem, List.getElem?_cons_zero]
    · rename_i hkey
      obtain ⟨⟨j, _⟩, hj, heq⟩ := Option.map_eq_some_iff.1 h
      cases heq
      rw [holdingFields, List.getElem?_cons_succ]
      exact ih hj ((lookup_filter_ne (Ne.symm hkey)).trans hitem)

/-- A part that no name is found at that something is given for holds nothing. -/
lemma getElem?_holdingFields_of_unnamed {i : Nat}
    (h : ∀ name item, given.lookup name = some item →
      ∀ shape, Decoder.findField name fields ≠ some (i, shape)) :
    (holdingFields fields given)[i]? = (freshFields fields)[i]? := by
  induction fields generalizing i given with
  | nil => rfl
  | cons field fields ih =>
    obtain ⟨key, shape⟩ := field
    rw [holdingFields, freshFields]
    cases i with
    | zero =>
      cases hkey : given.lookup key with
      | none => rfl
      | some item =>
        refine absurd ?_ (h key item hkey shape)
        rw [Decoder.findField_cons, if_pos rfl]
    | succ i =>
      rw [List.getElem?_cons_succ, List.getElem?_cons_succ]
      refine ih fun name item hitem shape hfind => ?_
      by_cases hname : name = key
      · rw [hname, lookup_filter_self] at hitem
        cases hitem
      · refine h name item ((lookup_filter_ne hname).symm.trans hitem) shape ?_
        rw [Decoder.findField_cons, if_neg (Ne.symm hname), hfind]
        rfl

/-- What is given for a name can be put into the part that the name is found at. -/
lemma admits_of_findField {name : String} {i : Nat} {shape : Shape} {item : Argument}
    (hadmits : AdmitsFields fields given) (h : Decoder.findField name fields = some (i, shape))
    (hitem : given.lookup name = some item) : shape.Admits item := by
  induction fields generalizing i given with
  | nil => cases h
  | cons field fields ih =>
    obtain ⟨key, _⟩ := field
    rw [Decoder.findField_cons] at h
    split at h
    · rename_i hkey
      cases h
      cases hkey
      exact hadmits.1 item hitem
    · rename_i hkey
      obtain ⟨⟨j, _⟩, hj, heq⟩ := Option.map_eq_some_iff.1 h
      cases heq
      exact ih hadmits.2 hj ((lookup_filter_ne (Ne.symm hkey)).trans hitem)

end Shape

/-! ## Filling part by part -/

/-- The parts of a record while it is filled: those in `taken` hold their arguments, the others are
fresh, and the names that have not been seen yet are in `names`. -/
structure Filling (fields : List (String × Shape)) (given : List (String × Argument))
    (names : List String) (taken : List Nat) (parts : List Slot) : Prop where
  parts_eq : ∀ i : Nat, parts[i]? =
    if i ∈ taken then (Shape.holdingFields fields given)[i]? else (Shape.freshFields fields)[i]?
  nodup : names.Nodup
  not_mem_taken : ∀ name ∈ names, ∀ i shape,
    Decoder.findField name fields = some (i, shape) → i ∉ taken
  unnamed : ∀ i ∉ taken, (∀ name ∈ names, ∀ shape, Decoder.findField name fields ≠ some (i, shape)) →
    (Shape.holdingFields fields given)[i]? = (Shape.freshFields fields)[i]?

namespace Filling

variable {fields : List (String × Shape)} {given : List (String × Argument)} {name : String}
  {names : List String} {taken : List Nat} {parts : List Slot} {i : Nat} {shape : Shape}

/-- At first nothing is filled. -/
lemma start (hnodup : names.Nodup) (hnames : ∀ pair ∈ given, pair.1 ∈ names) :
    Filling fields given names [] (Shape.freshFields fields) := by
  refine ⟨fun i => by simp, hnodup, fun _ _ _ _ _ => List.not_mem_nil, fun i _ h => ?_⟩
  refine Shape.getElem?_holdingFields_of_unnamed fun name item hitem shape => ?_
  obtain ⟨before, after, hgiven, _⟩ := List.lookup_eq_some_iff.1 hitem
  have hmem : (name, item) ∈ given := by
    rw [hgiven]
    exact List.mem_append_right _ List.mem_cons_self
  exact h name (hnames _ hmem) shape

/-- The part of the next name is still fresh. -/
lemma getElem?_fresh (h : Filling fields given (name :: names) taken parts)
    (hfind : Decoder.findField name fields = some (i, shape)) :
    i ∉ taken ∧ parts[i]? = some shape.fresh := by
  have hi := h.not_mem_taken name List.mem_cons_self i shape hfind
  rw [h.parts_eq, if_neg hi]
  exact ⟨hi, Shape.getElem?_freshFields hfind⟩

/-- The part of the next name is filled. -/
lemma next {item : Argument} (h : Filling fields given (name :: names) taken parts)
    (hfind : Decoder.findField name fields = some (i, shape))
    (hitem : given.lookup name = some item) :
    Filling fields given names (i :: taken) (parts.set i (shape.holding item)) := by
  obtain ⟨hname, hnodup⟩ := List.nodup_cons.1 h.nodup
  obtain ⟨_, hfresh⟩ := h.getElem?_fresh hfind
  have hi : i < parts.length := (List.getElem?_eq_some_iff.1 hfresh).1
  refine ⟨fun j => ?_, hnodup, fun name' hname' j shape' hfind' => ?_, fun j hj hunnamed => ?_⟩
  · by_cases hj : i = j
    · subst hj
      rw [List.getElem?_set_self hi, if_pos List.mem_cons_self,
        Shape.getElem?_holdingFields hfind hitem]
    · rw [List.getElem?_set_ne hj, h.parts_eq]
      simp only [List.mem_cons, Ne.symm hj, false_or]
  · rw [List.mem_cons, not_or]
    refine ⟨?_, h.not_mem_taken name' (List.mem_cons_of_mem _ hname') j shape' hfind'⟩
    rintro rfl
    rw [Decoder.findField_inj hfind hfind'] at hname
    exact hname hname'
  · rw [List.mem_cons, not_or] at hj
    refine h.unnamed j hj.2 fun name' hname' shape' hfind' => ?_
    rcases List.mem_cons.1 hname' with rfl | hname'
    · rw [hfind] at hfind'
      cases hfind'
      exact hj.1 rfl
    · exact hunnamed name' hname' shape' hfind'

/-- **Filled.**  Once all names were seen, the record holds what was given. -/
theorem eq_holdingFields (h : Filling fields given [] taken parts) :
    parts = Shape.holdingFields fields given := by
  apply List.ext_getElem?
  intro i
  rw [h.parts_eq]
  split
  · rfl
  · rename_i hi
    exact (h.unnamed i hi fun _ hname => absurd hname List.not_mem_nil).symm

end Filling

end QueryWire
