import QueryWire.Proofs.Codec.Elements

/-!
# Decoding leaves no residue

A destination is filled in place, row after row, and must not show in one row what it held after an
earlier one.  Whether it does is a matter of what the decoding writes: a record is left with its old
parts where nothing is bound to them, while an optional and a sequence drop what they held and start
afresh, on the present path and on the missing one.

* `Decoder.Overwrites` — that every part of every record that is filled in place is bound.
* **`Decoder.Overwrites.decodeAt_eq`** — then two destinations of the shape are left equal, whatever
  they held.
* `Shape.Drops` — that no optional keeps its contents.
* **`Decoder.overwrites_of_build`** — a built decoder writes over all of it, once every field of every
  record is bound.
* `Decoder.Spares` — what a decoding may change of a destination, part by part.
* **`Decoder.spares_decodeAt`** — it changes no more than that, also when it fails.
* **`Decoder.no_residue`** — the result as a whole.
-/

namespace QueryWire

open Reader

/-- The shapes of the parts of a record or a tuple. -/
def Shape.parts? : Shape → Option (List Shape)
  | .record _ fields => some (fields.map Prod.snd)
  | .tuple elements => some elements
  | .scalar _ | .optional _ _ | .sequence _ => none

/-- A destination of the shape is made of scalars, sequences, tuples, records, and optionals that
drop their contents. -/
inductive Shape.Drops : Shape → Prop where
  | scalar (kind : ScalarKind) : Drops (.scalar kind)
  | optional {inner : Shape} (hinner : Drops inner) : Drops (.optional .dropping inner)
  | record (typeName : String) {fields : List (String × Shape)}
    (hfields : ∀ field ∈ fields, Drops field.2) : Drops (.record typeName fields)
  | tuple {elements : List Shape} (helements : ∀ element ∈ elements, Drops element) :
    Drops (.tuple elements)
  | sequence {element : Shape} (helement : Drops element) : Drops (.sequence element)

/-- A destination of a shape with parts has as many parts, of these shapes. -/
lemma Slot.HasShape.exists_parts {slot : Slot} {shape : Shape} (h : slot.HasShape shape)
    {shapes : List Shape} (hshape : shape.parts? = some shapes) :
    ∃ parts, slot = .record parts ∧ List.Forall₂ Slot.HasShape parts shapes := by
  cases h with
  | tuple hparts =>
    cases hshape
    exact ⟨_, rfl, hparts⟩
  | record typeName hparts =>
    cases hshape
    exact ⟨_, rfl, hparts⟩
  | _ => cases hshape

namespace Decoder

/-! ## Two destinations -/

/-- A decoder writes over all that a destination of a shape can hold: each part of a record has a
field bound to it, and an optional drops its contents.  Nothing is asked of what is inside an
optional or a sequence, since this starts from a fresh destination. -/
inductive Overwrites : Decoder → Shape → Prop where
  | scalar (id : Uuid) (kind destination : ScalarKind) :
    Overwrites (.scalar id kind) (.scalar destination)
  | enum (id : Uuid) (members : List String) : Overwrites (.enum id members) (.scalar .str)
  | optional (inner : Decoder) (shape : Shape) :
    Overwrites (.optional inner) (.optional .dropping shape)
  | record {decoder : Decoder} {components : List Component} {shape : Shape} {shapes : List Shape}
    (hcomponents : decoder.components? = some components) (hshapes : shape.parts? = some shapes)
    (hbound : ∀ index < shapes.length, index ∈ Component.indices components)
    (hinner : ∀ c ∈ components, ∀ (index : Nat) (inner : Decoder) (part : Shape),
      c.target = some (index, inner) → shapes[index]? = some part → Overwrites inner part) :
    Overwrites decoder shape
  | sequence {decoder item : Decoder} (hitem : decoder.item? = some item) (shape : Shape) :
    Overwrites decoder (.sequence shape)

/-- Where a missing value is recorded, nothing is left of what was there. -/
lemma Overwrites.decodeMissingAt_eq {decoder : Decoder} {shape : Shape}
    (h : decoder.Overwrites shape) {path : Path} {slot slot' new : Slot}
    (hslot : slot.HasShape shape) (hslot' : slot'.HasShape shape)
    (hrecord : decodeMissingAt decoder path slot = (new, .ok ())) :
    decodeMissingAt decoder path slot' = (new, .ok ()) := by
  cases h with
  | scalar id kind destination | enum id members =>
    cases hslot
    cases hrecord
  | optional inner shape =>
    cases hslot <;> cases hslot' <;> exact hrecord
  | record hcomponents hshapes _ _ =>
    obtain ⟨parts, rfl, -⟩ := hslot.exists_parts hshapes
    cases decoder <;> cases hcomponents <;> cases hrecord
  | sequence hitem shape =>
    cases hslot
    cases hslot'
    cases decoder <;> cases hitem <;> exact hrecord

/-- Whatever settles a destination in some way settles another one in the same way. -/
def SettlesAlike (decoder : Decoder) (path : Path) (slot slot' : Slot) : Prop :=
  ∀ element new, decoder.Settles path element slot new → decoder.Settles path element slot' new

section

variable {path : Path} {components : List Component} {elements : List Element}
  {parts parts' : List Slot}

/-- The same elements make the same of another record, which agrees with the first one where no
component goes, and has parts that settle alike where one does. -/
lemma Stores.transfer (h : Stores path components elements parts parts') {others : List Slot}
    (hlength : others.length = parts.length) (hapart : (Component.indices components).Nodup)
    (hunbound : ∀ index, index ∉ Component.indices components → others[index]? = parts[index]?)
    (halike : ∀ c ∈ components, ∀ (index : Nat) (inner : Decoder) (old old' : Slot),
      c.target = some (index, inner) → parts[index]? = some old → others[index]? = some old'
      → inner.SettlesAlike (path.push c.step) old old') :
    Stores path components elements others parts' := by
  induction h generalizing others with
  | nil parts =>
    obtain rfl : others = parts := List.ext_getElem? fun index => hunbound index List.not_mem_nil
    exact .nil _
  | skipped element htarget _ ih =>
    rw [Component.indices_cons_of_none htarget] at hapart hunbound
    exact .skipped element htarget
      (ih hlength hapart hunbound fun c hc => halike c (List.mem_cons_of_mem _ hc))
  | @stored c components _ _ parts _ index inner old new htarget hold hsettles _ ih =>
    rw [Component.indices_cons_of_target htarget] at hapart hunbound
    obtain ⟨hindex, hapart⟩ := List.nodup_cons.1 hapart
    have hlt : index < parts.length := (List.getElem?_eq_some_iff.1 hold).choose
    have hlt' : index < others.length := hlength ▸ hlt
    have hold' : others[index]? = some others[index] := List.getElem?_eq_getElem hlt'
    have hsettles' := halike c List.mem_cons_self index inner old _ htarget hold hold' _ _ hsettles
    refine .stored htarget hold' hsettles' (ih ?_ hapart (fun other hother => ?_)
      fun c' hc' other inner' old old' htarget' hold hold' => ?_)
    · rw [List.length_set, List.length_set, hlength]
    · -- the part that was just settled holds the same in both records
      by_cases hne : index = other
      · subst hne
        rw [List.getElem?_set_self hlt, List.getElem?_set_self hlt']
      · rw [List.getElem?_set_ne hne, List.getElem?_set_ne hne]
        exact hunbound other (List.not_mem_cons_of_ne_of_not_mem (Ne.symm hne) hother)
    · have hne : index ≠ other := by
        rintro rfl
        exact hindex (Component.mem_indices_of_target hc' htarget')
      rw [List.getElem?_set_ne hne] at hold hold'
      exact halike c' (List.mem_cons_of_mem _ hc') other inner' old old' htarget' hold hold'

end

lemma isCompound_of_components {decoder : Decoder} {components : List Component}
    (h : decoder.components? = some components) : decoder.isCompound = true := by
  cases decoder <;> first | rfl | cases h

lemma isCompound_of_item {decoder item : Decoder} (h : decoder.item? = some item) :
    decoder.isCompound = true := by
  cases decoder <;> first | rfl | cases h

/-- A compound value is decoded in another destination as well when its elements make the same of
both. -/
lemma decodeAt_eq_of_assembles {decoder : Decoder} (hcompound : decoder.isCompound = true)
    {path : Path} {bytes rest : Bytes} {slot slot' new : Slot}
    (h : ∀ elements, decoder.Assembles path elements slot new
      → decoder.Assembles path elements slot' new)
    (hdecode : decodeAt decoder path bytes slot = ⟨new, .ok rest⟩) :
    decodeAt decoder path bytes slot' = ⟨new, .ok rest⟩ := by
  obtain ⟨elements, hdivides, hassembles⟩ := assembles_of_decodeAt hcompound hdecode
  obtain ⟨used, rfl, hused⟩ := hdivides.used
  exact ((h elements hassembles).takes hused).ok rest

/-- **Two destinations are left equal** by what writes over all that they can hold. -/
theorem Overwrites.decodeAt_eq {decoder : Decoder} {shape : Shape} (h : decoder.Overwrites shape)
    {path : Path} {bytes rest : Bytes} {slot slot' new : Slot} (hslot : slot.HasShape shape)
    (hslot' : slot'.HasShape shape) (hdecode : decodeAt decoder path bytes slot = ⟨new, .ok rest⟩) :
    decodeAt decoder path bytes slot' = ⟨new, .ok rest⟩ := by
  induction h generalizing path bytes rest slot slot' new with
  | scalar id kind destination =>
    cases hslot with
    | scalar hkind =>
      cases hslot' with
      | scalar hkind' =>
        rw [decodeAt, hkind] at hdecode
        rw [decodeAt, hkind']
        cases hread : readInto path kind destination bytes with
        | ok value unread => rwa [hread] at hdecode
        | error e unread =>
          rw [hread] at hdecode
          cases hdecode
  | enum id members =>
    cases hslot with
    | @scalar value _ hkind =>
      cases hslot' with
      | @scalar value' _ hkind' =>
        cases value <;> cases hkind
        cases value' <;> cases hkind'
        rw [decodeAt] at hdecode ⊢
        cases hread : readLabel path members bytes with
        | ok label unread => rwa [hread] at hdecode
        | error e unread =>
          rw [hread] at hdecode
          cases hdecode
  | optional inner shape =>
    cases hslot <;> cases hslot' <;> rwa [decodeAt] at hdecode ⊢
  | @record decoder components shape shapes hcomponents hshapes hbound hinner ih =>
    refine decodeAt_eq_of_assembles (isCompound_of_components hcomponents) (fun elements h => ?_)
      hdecode
    obtain ⟨parts, rfl, hparts⟩ := hslot.exists_parts hshapes
    obtain ⟨others, rfl, hothers⟩ := hslot'.exists_parts hshapes
    have hlength : others.length = parts.length := hothers.length_eq.trans hparts.length_eq.symm
    cases h with
    | record hcomponents' hapart hroom hstores =>
      cases hcomponents.symm.trans hcomponents'
      refine .record hcomponents hapart ?_ (hstores.transfer hlength hapart (fun index hindex => ?_)
        fun c hc index inner old old' htarget hold hold' => ?_)
      · cases decoder <;> first | exact hlength.trans hroom | trivial
      · -- what no component goes into is outside both records
        have hge : shapes.length ≤ index := Nat.le_of_not_lt fun h => hindex (hbound index h)
        rw [List.getElem?_eq_none (hothers.length_eq ▸ hge),
          List.getElem?_eq_none (hparts.length_eq ▸ hge)]
      · obtain ⟨part, hpart, hold⟩ := exists_partner_at hparts hold
        obtain ⟨part', hpart', hold'⟩ := exists_partner_at hothers hold'
        cases hpart.symm.trans hpart'
        intro element new hsettles
        cases hsettles with
        | present hdecode =>
          exact .present (ih c hc index inner part htarget hpart hold hold' hdecode)
        | missing hrecord =>
          exact .missing ((hinner c hc index inner part htarget hpart).decodeMissingAt_eq hold hold'
            hrecord)
  | sequence hitem shape =>
    refine decodeAt_eq_of_assembles (isCompound_of_item hitem) (fun elements h => ?_) hdecode
    cases hslot
    cases hslot'
    cases h with
    | sequence old hitem' hitems => exact .sequence _ hitem' hitems

/-! ## Decoders that are built -/

/-- An object whose fields are bound to every part of a record writes over the record. -/
lemma FieldsSuit.overwrites {id : Uuid} {decoders : List FieldDecoder}
    {fields : List (WireField × Descriptor)} (typeName : String) {shapes : List (String × Shape)}
    (h : FieldsSuit decoders fields shapes)
    (hbound : ∀ index < shapes.length, ∃ field ∈ fields,
      (findField field.1.name shapes).map Prod.fst = some index)
    (hinner : ∀ (field : WireField) (type : Descriptor) (index : Nat) (shape : Shape)
      (inner : Decoder), (field, type) ∈ fields → findField field.name shapes = some (index, shape)
      → inner.Suits type shape → inner.Overwrites shape) :
    (Decoder.object id decoders).Overwrites (.record typeName shapes) := by
  refine .record rfl rfl (fun index hindex => ?_) fun c hc index inner part htarget hpart => ?_
  · rw [List.length_map] at hindex
    obtain ⟨field, hfield, hindex⟩ := hbound index hindex
    obtain ⟨⟨_, shape⟩, hfind, rfl⟩ := Option.map_eq_some_iff.1 hindex
    rw [indices_fieldComponents]
    exact h.mem_indices hfield hfind
  · obtain ⟨decoder, hdecoder, rfl⟩ := List.mem_map.1 hc
    cases decoder with
    | skipped name => cases htarget
    | bound name index decoder =>
      cases htarget
      obtain ⟨field, type, shape, hfield, hfind, hsuits⟩ := h.of_mem hdecoder
      cases (getElem?_of_findField hfind).symm.trans hpart
      exact hinner field type index part inner hfield hfind hsuits

/-- A tuple has an element for every part. -/
lemma ElementsSuit.overwrites {id : Uuid} {decoders : List Decoder} {elements : List Descriptor}
    {shapes : List Shape} (h : ElementsSuit decoders elements shapes)
    (hinner : ∀ (i : Nat) (element : Descriptor) (shape : Shape) (inner : Decoder),
      elements[i]? = some element → shapes[i]? = some shape → inner.Suits element shape
      → inner.Overwrites shape) :
    (Decoder.tuple id decoders).Overwrites (.tuple shapes) := by
  refine .record rfl rfl (fun index hindex => ?_) fun c hc index inner part htarget hpart => ?_
  · rw [← h.length_eq.2] at hindex
    have hc : (⟨.index (0 + index), some (0 + index, decoders[index])⟩ : Component)
        ∈ elementComponents 0 decoders :=
      mem_elementComponents.2 ⟨index, _, List.getElem?_eq_getElem hindex, rfl⟩
    rw [← Nat.zero_add index]
    exact Component.mem_indices_of_target hc rfl
  · obtain ⟨i, decoder, hdecoder, rfl⟩ := mem_elementComponents.1 hc
    cases htarget
    obtain ⟨element, shape, helement, hshape, hsuits⟩ := h.at_index hdecoder
    rw [Nat.zero_add, hshape] at hpart
    cases hpart
    exact hinner i element part inner helement hshape hsuits

lemma Suits.overwrites {shape : Shape} (hdrops : shape.Drops) {decoder : Decoder}
    {type : Descriptor} {path : Path} (h : decoder.Suits type shape)
    (hbinds : Site.BindsAll ⟨type, shape, path⟩) : decoder.Overwrites shape := by
  -- on what the shape is made of: the decoder and the type follow it part by part
  induction hdrops generalizing decoder type path with
  | scalar kind =>
    cases h with
    | scalar hkind hfits => exact .scalar _ _ _
    | enum id members => exact .enum _ _
  | optional _ _ =>
    cases h
    exact .optional _ _
  | @record typeName shapes _ ih =>
    cases h with
    | object typeName hfields hdecoders =>
      obtain ⟨fields, hfields', hbound⟩ := hbinds _ .refl typeName shapes rfl
      cases hfields.symm.trans hfields'
      refine hdecoders.overwrites typeName hbound fun field type index shape inner hfield hfind => ?_
      have hmem : (field.name, shape) ∈ shapes := List.mem_of_getElem? (findField_eq_some hfind).1
      have hlookup : shapes.lookup field.name = some shape := by
        rw [← findField_eq_lookup, hfind]
        rfl
      intro hsuits
      exact ih _ hmem hsuits (hbinds.part (.field typeName path hfields hfield hlookup))
  | tuple _ ih =>
    cases h with
    | tuple id hdecoders =>
      refine hdecoders.overwrites fun i element shape inner helement hshape hsuits => ?_
      exact ih _ (List.mem_of_getElem? hshape) hsuits
        (hbinds.part (.element id path helement hshape))
  | sequence _ _ => cases h <;> exact .sequence rfl _

/-- **A decoder that is built** for a shape writes over all that a destination of the shape can
hold, if no optional keeps its contents and every field of every record is bound. -/
theorem overwrites_of_build {type : Descriptor} {shape : Shape} {decoder : Decoder}
    (h : build type shape = .ok decoder) (hdrops : shape.Drops)
    (hbinds : Site.BindsAll ⟨type, shape, .result⟩) : decoder.Overwrites shape :=
  (suits_of_build h).overwrites hdrops hbinds

/-! ## What a decoding may change -/

mutual

/-- What a decoding may change of a destination: in a record only the parts that a component goes
into, each as its own decoder may; an optional that keeps its contents and a record are changed in
place, and what is new in an optional or in a sequence was fresh before. -/
inductive Spares : Decoder → Slot → Slot → Prop where
  | unchanged (decoder : Decoder) (slot : Slot) : Spares decoder slot slot
  | scalar (decoder : Decoder) (old new : Scalar) : Spares decoder (.scalar old) (.scalar new)
  | absent (inner : Decoder) (shape : Shape) (old : Option Slot) :
    Spares (.optional inner) (.option shape old) (.option shape none)
  | dropping {inner : Decoder} {shape : Shape} (old : Option Slot) {new : Slot}
    (hinner : Spares inner shape.fresh new) :
    Spares (.optional inner) (.option shape old) (.option shape (some new))
  | keeping {inner : Decoder} (present present' : Bool) {old new : Slot}
    (hinner : Spares inner old new) :
    Spares (.optional inner) (.flagged present old) (.flagged present' new)
  | record {decoder : Decoder} {components : List Component} {parts parts' : List Slot}
    (hcomponents : decoder.components? = some components) (hlength : parts'.length = parts.length)
    (hunbound : ∀ index, index ∉ Component.indices components → parts'[index]? = parts[index]?)
    (hbound : ∀ (index : Nat) (old new : Slot), parts[index]? = some old
      → parts'[index]? = some new → PartSpared components index old new) :
    Spares decoder (.record parts) (.record parts')
  | sequence {decoder item : Decoder} {shape : Shape} (old : List Slot) {items : List Slot}
    (hitem : decoder.item? = some item) (hitems : ∀ new ∈ items, Spares item shape.fresh new) :
    Spares decoder (.sequence shape old) (.sequence shape items)

/-- What a decoding may change of a part of a record. -/
inductive PartSpared : List Component → Nat → Slot → Slot → Prop where
  | unchanged (components : List Component) (index : Nat) (slot : Slot) :
    PartSpared components index slot slot
  | filled {components : List Component} {c : Component} {index : Nat} {inner : Decoder}
    {old new : Slot} (hc : c ∈ components) (htarget : c.target = some (index, inner))
    (hinner : Spares inner old new) : PartSpared components index old new

end

/-- What a row of components may change of the parts of a record: each of them at most as its own
component may, and those that were `taken` before not at all. -/
structure RowSpared (components : List Component) (taken : List Nat) (parts parts' : List Slot) :
    Prop where
  length_eq : parts'.length = parts.length
  part : ∀ (index : Nat) (old new : Slot), parts[index]? = some old → parts'[index]? = some new
    → PartSpared components index old new
  taken : ∀ index ∈ taken, parts'[index]? = parts[index]?

lemma PartSpared.eq_of_unbound {components : List Component} {index : Nat} {old new : Slot}
    (h : PartSpared components index old new) (hindex : index ∉ Component.indices components) :
    new = old := by
  cases h with
  | unchanged => rfl
  | filled hc htarget =>
    exact absurd (Component.mem_indices_of_target hc htarget) hindex

lemma PartSpared.cons {components : List Component} {index : Nat} {old new : Slot}
    (h : PartSpared components index old new) (c : Component) :
    PartSpared (c :: components) index old new := by
  cases h with
  | unchanged => exact .unchanged _ _ _
  | filled hc htarget hinner => exact .filled (List.mem_cons_of_mem c hc) htarget hinner

lemma rowSpared_refl (components : List Component) (taken : List Nat) (parts : List Slot) :
    RowSpared components taken parts parts := by
  refine ⟨rfl, fun index old new hold hnew => ?_, fun _ _ => rfl⟩
  cases hold.symm.trans hnew
  exact .unchanged _ _ _

lemma RowSpared.skipped {components : List Component} {taken : List Nat} {parts parts' : List Slot}
    (h : RowSpared components taken parts parts') (c : Component) :
    RowSpared (c :: components) taken parts parts' :=
  ⟨h.length_eq, fun index old new hold hnew => (h.part index old new hold hnew).cons c, h.taken⟩

/-- One more component fills its part before the others fill theirs, and takes it. -/
lemma RowSpared.stored {components : List Component} {taken : List Nat} {parts parts' : List Slot}
    {c : Component} {index : Nat} {inner : Decoder} {old new : Slot}
    (h : RowSpared components (index :: taken) (parts.set index new) parts')
    (htarget : c.target = some (index, inner)) (hold : parts[index]? = some old)
    (hfree : index ∉ taken) (hinner : inner.Spares old new) :
    RowSpared (c :: components) taken parts parts' := by
  have hlt : index < parts.length := (List.getElem?_eq_some_iff.1 hold).choose
  have hown : parts'[index]? = some new :=
    (h.taken index List.mem_cons_self).trans (List.getElem?_set_self hlt)
  refine ⟨h.length_eq.trans List.length_set, fun other old' new' hold' hnew' => ?_,
    fun other hother => ?_⟩
  · by_cases hne : index = other
    · subst hne
      cases hold.symm.trans hold'
      cases hown.symm.trans hnew'
      exact .filled List.mem_cons_self htarget hinner
    · have hsame : (parts.set index new)[other]? = parts[other]? := List.getElem?_set_ne hne
      exact (h.part other old' new' (hsame.trans hold') hnew').cons c
  · have hne : index ≠ other := by
      rintro rfl
      exact hfree hother
    rw [h.taken other (List.mem_cons_of_mem index hother), List.getElem?_set_ne hne]

lemma spares_record {decoder : Decoder} {components : List Component} {taken : List Nat}
    {parts parts' : List Slot} (hcomponents : decoder.components? = some components)
    (h : RowSpared components taken parts parts') :
    decoder.Spares (.record parts) (.record parts') := by
  refine .record hcomponents h.length_eq (fun index hindex => ?_) h.part
  by_cases hlt : index < parts.length
  · have hlt' : index < parts'.length := h.length_eq ▸ hlt
    have hold : parts[index]? = some parts[index] := List.getElem?_eq_getElem hlt
    have hnew : parts'[index]? = some parts'[index] := List.getElem?_eq_getElem hlt'
    rw [hold, hnew, (h.part index _ _ hold hnew).eq_of_unbound hindex]
  · have hge := Nat.le_of_not_lt hlt
    rw [List.getElem?_eq_none hge, List.getElem?_eq_none (h.length_eq ▸ hge)]

lemma spares_decodeMissingAt (decoder : Decoder) (path : Path) (slot : Slot) :
    decoder.Spares slot (decodeMissingAt decoder path slot).1 := by
  cases decoder with
  | optional inner =>
    cases slot with
    | option shape old => exact .absent inner shape old
    | flagged present value => exact .keeping present false (.unchanged inner value)
    | _ => exact .unchanged _ _
  | array id item | set id item =>
    cases slot with
    | sequence shape old => exact .sequence old rfl (List.forall_mem_nil _)
    | _ => exact .unchanged _ _
  | _ => exact .unchanged _ _

/-- The items of a sequence, also one in progress, were fresh before. -/
lemma forall_mem_decodeItems {item : Bytes → Decoded Slot} {P : Slot → Prop}
    (hitem : ∀ payload, P (item payload).contents) (path : Path) (count : Nat) {done : List Slot}
    (hdone : ∀ slot ∈ done, P slot) (bytes : Bytes) :
    ∀ slot ∈ (decodeItems item path count done bytes).contents, P slot := by
  have hreverse {slots : List Slot} (h : ∀ slot ∈ slots, P slot) : ∀ slot ∈ slots.reverse, P slot :=
    fun slot hslot => h slot (List.mem_reverse.1 hslot)
  induction count generalizing done bytes with
  | zero => exact hreverse hdone
  | succ count ih =>
    have hmore (payload : Bytes) : ∀ slot ∈ (item payload).contents :: done, P slot :=
      List.forall_mem_cons.2 ⟨hitem payload, hdone⟩
    unfold decodeItems
    split
    · exact hreverse hdone
    · exact hreverse hdone
    · dsimp only
      split
      · exact hreverse (hmore _)
      · exact ih (hmore _) _

lemma spares_decodeArray {decoder item : Decoder} (hitem : decoder.item? = some item) {path : Path}
    (hspares : ∀ (shape : Shape) (payload : Bytes),
      item.Spares shape.fresh (decodeAt item path.element payload shape.fresh).contents)
    (id : Uuid) (bytes : Bytes) (slot : Slot) :
    decoder.Spares slot (decodeAt (.array id item) path bytes slot).contents := by
  cases slot with
  | sequence shape old =>
    have hnil : ∀ new ∈ ([] : List Slot), item.Spares shape.fresh new := List.forall_mem_nil _
    rw [decodeAt]
    split
    · exact .sequence old hitem hnil
    · exact .sequence old hitem hnil
    · exact .sequence old hitem (forall_mem_decodeItems (hspares shape) path.element _ hnil _)
  | _ => exact .unchanged _ _

/-- A field fills its part, and the others fill theirs; or nothing is changed behind it. -/
lemma rowSpared_bound {decoder : Decoder} {path : Path} {name : String} {index : Nat}
    {fields : List FieldDecoder} {taken : List Nat} {parts : List Slot}
    (hinner : ∀ (payload : Bytes) (slot : Slot),
      decoder.Spares slot (decodeAt decoder (path.field name) payload slot).contents)
    (hothers : ∀ (rest : Bytes) (parts : List Slot),
      RowSpared (fields.map FieldDecoder.component) (index :: taken) parts
        (decodeFields fields path (index :: taken) rest parts).contents) (bytes : Bytes) :
    RowSpared ((FieldDecoder.bound name index decoder :: fields).map FieldDecoder.component)
      taken parts
      (decodeFields (.bound name index decoder :: fields) path taken bytes parts).contents := by
  rw [List.map_cons, decodeFields]
  split
  · exact rowSpared_refl _ _ _
  · split
    · exact rowSpared_refl _ _ _
    · rename_i slot hold
      split
      · exact rowSpared_refl _ _ _
      · rename_i hfree
        have hfree : index ∉ taken := fun hmem => hfree (List.contains_iff_mem.2 hmem)
        split
        · dsimp only
          split
          · exact (rowSpared_refl _ _ _).stored rfl hold hfree (hinner _ slot)
          · exact (hothers _ _).stored rfl hold hfree (hinner _ slot)
        · split
          · exact rowSpared_refl _ _ _
          · rename_i new hrecorded
            have hspares := spares_decodeMissingAt decoder (path.field name) slot
            rw [hrecorded] at hspares
            exact (hothers _ _).stored rfl hold hfree hspares

/-- An element of a tuple fills its part, and the others fill theirs behind it; or nothing is
changed behind it. -/
lemma rowSpared_element {decoder : Decoder} {path : Path} {decoders : List Decoder}
    {taken : List Nat} {done slots : List Slot} {slot : Slot}
    (htaken : ∀ index ∈ taken, index < done.length)
    (hinner : ∀ payload : Bytes,
      decoder.Spares slot (decodeAt decoder (path.index done.length) payload slot).contents)
    (hothers : ∀ (rest : Bytes) (new : Slot),
      RowSpared (elementComponents (done.length + 1) decoders) (done.length :: taken)
        (done ++ new :: slots)
        (done ++ new :: (decodeElements decoders path (done.length + 1) rest slots).contents))
    (bytes : Bytes) :
    RowSpared (elementComponents done.length (decoder :: decoders)) taken (done ++ slot :: slots)
      (done ++ (decodeElements (decoder :: decoders) path done.length bytes
        (slot :: slots)).contents) := by
  have hold : (done ++ slot :: slots)[done.length]? = some slot := by simp
  have hset (new : Slot) : done ++ new :: slots = (done ++ slot :: slots).set done.length new := by
    simp
  have hfree : done.length ∉ taken := fun hmem => Nat.lt_irrefl _ (htaken _ hmem)
  have hmissing := spares_decodeMissingAt decoder (path.index done.length) slot
  -- the part is filled, whether or not something is changed behind it
  have hstored {new : Slot} {parts' : List Slot} (hspares : decoder.Spares slot new)
      (h : RowSpared (elementComponents (done.length + 1) decoders) (done.length :: taken)
        (done ++ new :: slots) parts') :
      RowSpared (elementComponents done.length (decoder :: decoders)) taken (done ++ slot :: slots)
        parts' := by
    rw [hset] at h
    exact h.stored rfl hold hfree hspares
  rw [decodeElements]
  split
  · exact rowSpared_refl _ _ _
  · dsimp only
    split
    · exact hstored (hinner _) (rowSpared_refl _ _ _)
    · exact hstored (hinner _) (hothers _ _)
  · split
    · rename_i hrefused
      rw [hrefused] at hmissing
      exact hstored hmissing (rowSpared_refl _ _ _)
    · rename_i hrecorded
      rw [hrecorded] at hmissing
      exact hstored hmissing (hothers _ _)

mutual

/-- **Every decoding** spares what it has no part for, whether it succeeds or not. -/
theorem spares_decodeAt (decoder : Decoder) (path : Path) (bytes : Bytes) (slot : Slot) :
    decoder.Spares slot (decodeAt decoder path bytes slot).contents := by
  cases decoder with
  | optional inner =>
    cases slot with
    | option shape old =>
      rw [decodeAt]
      exact .dropping old (spares_decodeAt inner path bytes shape.fresh)
    | flagged present value =>
      rw [decodeAt]
      exact .keeping present true (spares_decodeAt inner path bytes value)
    | _ => exact .unchanged _ _
  | scalar id kind =>
    cases slot with
    | scalar value =>
      rw [decodeAt]
      split <;> exact .scalar _ _ _
    | _ => exact .unchanged _ _
  | enum id members =>
    cases slot with
    | scalar value =>
      cases value with
      | str text =>
        rw [decodeAt]
        split <;> exact .scalar _ _ _
      | _ => exact .unchanged _ _
    | _ => exact .unchanged _ _
  | object id fields =>
    cases slot with
    | record parts =>
      rw [decodeAt]
      split
      · exact spares_record rfl (rowSpared_decodeFields fields path [] _ parts)
      · exact .unchanged _ _
    | _ => exact .unchanged _ _
  | tuple id decoders =>
    cases slot with
    | record parts =>
      rw [decodeAt]
      split
      · split
        · exact spares_record rfl (rowSpared_decodeElements decoders path [] []
            (List.forall_mem_nil _) _ parts)
        · exact .unchanged _ _
      · exact .unchanged _ _
    | _ => exact .unchanged _ _
  | array id item =>
    exact spares_decodeArray rfl
      (fun shape payload => spares_decodeAt item path.element payload shape.fresh) id bytes slot
  | set id item =>
    rw [decodeAt_set]
    exact spares_decodeArray rfl
      (fun shape payload => spares_decodeAt item path.element payload shape.fresh) id bytes slot

/-- The fields of an object fill parts of their own. -/
theorem rowSpared_decodeFields (fields : List FieldDecoder) (path : Path) (taken : List Nat)
    (bytes : Bytes) (parts : List Slot) :
    RowSpared (fields.map FieldDecoder.component) taken parts
      (decodeFields fields path taken bytes parts).contents := by
  cases fields with
  | nil => exact rowSpared_refl _ _ _
  | cons field fields =>
    cases field with
    | skipped name =>
      rw [decodeFields]
      split
      · exact rowSpared_refl _ _ _
      · exact (rowSpared_decodeFields fields path taken _ parts).skipped _
    | bound name index decoder =>
      exact rowSpared_bound (fun payload slot => spares_decodeAt decoder _ payload slot)
        (fun rest parts => rowSpared_decodeFields fields path (index :: taken) rest parts) bytes

/-- The elements of a tuple fill parts of their own, behind those that are done. -/
theorem rowSpared_decodeElements (decoders : List Decoder) (path : Path) (taken : List Nat)
    (done : List Slot) (htaken : ∀ index ∈ taken, index < done.length) (bytes : Bytes)
    (slots : List Slot) :
    RowSpared (elementComponents done.length decoders) taken (done ++ slots)
      (done ++ (decodeElements decoders path done.length bytes slots).contents) := by
  cases decoders with
  | nil =>
    rw [decodeElements]
    exact rowSpared_refl _ _ _
  | cons decoder decoders =>
    cases slots with
    | nil =>
      rw [decodeElements]
      exact rowSpared_refl _ _ _
    | cons slot slots =>
      refine rowSpared_element htaken (fun payload => spares_decodeAt decoder _ payload slot)
        (fun rest new => ?_) bytes
      have htaken' : ∀ index ∈ done.length :: taken, index < (done ++ [new]).length := by
        rw [List.length_append]
        exact List.forall_mem_cons.2 ⟨Nat.lt_succ_self _, fun index hindex =>
          Nat.lt_succ_of_lt (htaken index hindex)⟩
      simpa using rowSpared_decodeElements decoders path (done.length :: taken) (done ++ [new])
        htaken' rest slots

end

/-- **Decoding leaves no residue.**  When all that the destinations of a shape can hold is written
over, as it is by a decoder that is built and has every field of every record bound
(`overwrites_of_build`), two of them with any contents are left equal by the same bytes, once these
can be decoded in one of them.  And whatever the decoder, the bytes and the destination are, and
whether or not the decoding succeeds, the parts of records that nothing is bound to keep their
values; a record that is new in an optional or a sequence has those of a fresh one. -/
theorem no_residue (decoder : Decoder) (bytes : Bytes) :
    (∀ shape, decoder.Overwrites shape → ∀ slot slot' : Slot, slot.HasShape shape
      → slot'.HasShape shape → ∀ rest, (decoder.decode bytes slot).result = .ok rest
      → decoder.decode bytes slot' = decoder.decode bytes slot)
    ∧ ∀ slot, decoder.Spares slot (decoder.decode bytes slot).contents := by
  refine ⟨fun shape h slot slot' hslot hslot' rest hresult => ?_, spares_decodeAt decoder _ bytes⟩
  have hdecode : decoder.decode bytes slot = ⟨(decoder.decode bytes slot).contents, .ok rest⟩ :=
    Decoded.eq_of_contents rfl hresult
  rw [hdecode]
  exact h.decodeAt_eq hslot hslot' hdecode

end Decoder

namespace Visit

/-- An object with a number, some bytes that may be missing, and a pair of a number and a list. -/
def type : Descriptor :=
  .object (Uuid.ofNat 0xE1) [
    .mk "hour" ⟨0⟩ .one (.baseScalar ScalarKind.int16.id),
    .mk "note" ⟨0⟩ .atMostOne (.baseScalar ScalarKind.bytes.id),
    .mk "seen" ⟨0⟩ .one (.tuple (Uuid.ofNat 0xE2) [
      .baseScalar ScalarKind.int16.id,
      .array (Uuid.ofNat 0xE3) (.baseScalar ScalarKind.bool.id) []])]

/-- A record for it, in another order. -/
def shape : Shape :=
  .record "Visit" [
    ("seen", .tuple [.scalar .int16, .sequence (.scalar .bool)]),
    ("note", .optional .dropping (.scalar .bytes)),
    ("hour", .scalar .int16)]

/-- The decoder of the type for the record. -/
def decoder : Decoder :=
  .object (Uuid.ofNat 0xE1) [
    .bound "hour" 2 (.scalar ScalarKind.int16.id .int16),
    .bound "note" 1 (.optional (.scalar ScalarKind.bytes.id .bytes)),
    .bound "seen" 0 (.tuple (Uuid.ofNat 0xE2) [
      .scalar ScalarKind.int16.id .int16,
      .array (Uuid.ofNat 0xE3) (.scalar ScalarKind.bool.id .bool)])]

/-- A record that was filled before. -/
def filled : Slot :=
  .record [
    .record [.scalar (.int16 3), .sequence (.scalar .bool) [.scalar (.bool true)]],
    .option (.scalar .bytes) (some (.scalar (.bytes [1, 2]))),
    .scalar (.int16 9)]

/-- The note is missing, and the list is empty. -/
def row : Bytes :=
  let seen := word 2 ++ Sensor.part [0, 1] ++ Sensor.part (word 0 ++ word 0 ++ word 0)
  word 3 ++ Sensor.part [0, 5] ++ (word 0 ++ word missingLength) ++ Sensor.part seen

/-- The note drops what it held. -/
lemma drops : shape.Drops := by
  have hseen : (Shape.tuple [.scalar .int16, .sequence (.scalar .bool)]).Drops :=
    .tuple (List.forall_mem_cons.2
      ⟨.scalar _, List.forall_mem_singleton.2 (.sequence (.scalar _))⟩)
  exact .record _ (List.forall_mem_cons.2 ⟨hseen, List.forall_mem_cons.2
    ⟨.optional (.scalar _), List.forall_mem_singleton.2 (.scalar _)⟩⟩)

lemma bindsAll_scalar (type : Descriptor) (kind : ScalarKind) (path : Path) :
    Site.BindsAll ⟨type, .scalar kind, path⟩ := by
  refine .of_parts (fun typeName shapes h => by cases h) fun part hpart => ?_
  cases hpart

/-- Each part of the record is bound, and there is no record in the pair. -/
lemma bindsAll : Site.BindsAll ⟨type, shape, .result⟩ := by
  refine .of_parts (fun typeName shapes h => ?_) fun part hpart => ?_
  · cases h
    exact ⟨_, rfl, by decide⟩
  cases hpart with
  | field typeName path hfields hmem hshape =>
    cases hfields
    simp only [List.map_cons, List.map_nil, List.mem_cons, List.not_mem_nil, or_false] at hmem
    rcases hmem with hfield | hfield | hfield <;> cases hfield <;> cases hshape
    · exact bindsAll_scalar _ _ _
    · refine .of_parts (fun typeName shapes h => by cases h) fun part hpart => ?_
      cases hpart
      exact bindsAll_scalar _ _ _
    · refine .of_parts (fun typeName shapes h => by cases h) fun part hpart => ?_
      cases hpart with
      | @element _ _ _ _ _ _ i helement hshape =>
        rcases i with _ | _ | i <;> cases helement <;> cases hshape
        · exact bindsAll_scalar _ _ _
        · refine .of_parts (fun typeName shapes h => by cases h) fun part hpart => ?_
          cases hpart with
          | item _ _ hitem =>
            cases hitem
            exact bindsAll_scalar _ _ _

lemma overwrites : decoder.Overwrites shape := Decoder.overwrites_of_build rfl drops bindsAll

/-- Nothing of the old visit is left: it becomes what a fresh record becomes. -/
theorem no_residue_row :
    Decoder.build type shape = .ok decoder ∧ decoder.Overwrites shape ∧ filled.HasShape shape
      ∧ (decoder.decode row filled).result = .ok []
      ∧ decoder.decode row shape.fresh = decoder.decode row filled
      ∧ decoder.Spares filled (decoder.decode row filled).contents := by
  have hover : decoder.Overwrites shape := overwrites
  have hfilled : filled.HasShape shape := by
    refine .record _ (.cons (.tuple ?_) (.cons (.present (.scalar rfl)) (.cons (.scalar rfl) .nil)))
    exact .cons (.scalar rfl) (.cons (.sequence (List.forall_mem_singleton.2 (.scalar rfl))) .nil)
  have hresult : (decoder.decode row filled).result = .ok [] := rfl
  obtain ⟨hequal, hspares⟩ := Decoder.no_residue decoder row
  exact ⟨rfl, hover, hfilled, hresult,
    hequal shape hover filled shape.fresh hfilled shape.hasShape_fresh [] hresult, hspares filled⟩

end Visit

end QueryWire
