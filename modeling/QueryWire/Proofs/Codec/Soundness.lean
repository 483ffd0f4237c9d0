import Mathlib.Data.List.Forall2
import QueryWire.Proofs.Codec.Binding
import QueryWire.Proofs.Codec.Fault

/-!
# Decoding with a decoder that suits

A decoder that was built for a type and a shape never finds fault with a destination of that shape.
Whatever the bytes are, what it reports is wrong with them.

* `Decoded.Sound` — what a decoding leaves in the destination, and which errors it may report.
* `Decoder.sound_of_bindsApart` — a decoder that suits and binds apart keeps the shape of a
  destination and reports only faults of the bytes.
* **`Decoder.sound_of_build`** — so does one that was built.
-/

namespace QueryWire

open Reader

/-! ## Sound decodings -/

/-- A decoding leaves a destination as it should be, and reports only errors that it may. -/
structure Decoded.Sound {α : Type} (P : α → Prop) (Q : Error → Prop) (d : Decoded α) : Prop where
  contents : P d.contents
  result : ∀ e, d.result = .error e → Q e

section

variable {α β : Type} {P P' : α → Prop} {Q Q' : Error → Prop}

lemma sound_ok {contents : α} (rest : Bytes) (h : P contents) :
    (Decoded.mk contents (.ok rest)).Sound P Q := by
  refine ⟨h, fun e he => ?_⟩
  cases he

lemma sound_fail {contents : α} {e : Error} (h : P contents) (he : Q e) :
    (Decoded.fail contents e).Sound P Q := by
  refine ⟨h, fun e' he' => ?_⟩
  cases he'
  exact he

lemma Decoded.Sound.mono {d : Decoded α} (h : d.Sound P Q) (hP : ∀ a, P a → P' a)
    (hQ : ∀ e, Q e → Q' e) : d.Sound P' Q' :=
  ⟨hP _ h.contents, fun e he => hQ e (h.result e he)⟩

lemma Decoded.Sound.map {d : Decoded α} {R : β → Prop} (f : α → β) (h : d.Sound P Q)
    (hP : ∀ a, P a → R (f a)) : (d.map f).Sound R Q :=
  ⟨hP _ h.contents, h.result⟩

end

lemma checkCount_eq_ok {expected : Nat} {bytes rest : Bytes}
    (h : checkCount expected bytes = .ok () rest) : Reader.nat 4 bytes = .ok expected rest := by
  obtain ⟨actual, unread, hactual, h⟩ := bind_eq_ok.1 h
  split at h
  · cases h
  · rename_i heq
    cases h
    rw [hactual, not_not.1 fun hne => heq (bne_iff_ne.2 hne)]

/-! ## Parts of a record -/

section

variable {parts : List Slot} {shapes : List Shape} {index : Nat} {shape : Shape}

/-- Where the record has a shape, it has a part of that shape. -/
lemma exists_part (h : List.Forall₂ Slot.HasShape parts shapes)
    (hshape : shapes[index]? = some shape) :
    ∃ slot, parts[index]? = some slot ∧ slot.HasShape shape := by
  have hflip : List.Forall₂ (flip Slot.HasShape) shapes parts := List.Forall₂.flip h
  exact exists_partner_at hflip hshape

/-- A part may be replaced by another one of its shape. -/
lemma forall₂_set (h : List.Forall₂ Slot.HasShape parts shapes)
    (hshape : shapes[index]? = some shape) {slot : Slot} (hslot : slot.HasShape shape) :
    List.Forall₂ Slot.HasShape (parts.set index slot) shapes := by
  have hreplace := forall₂_replace h index hslot
  rwa [set_of_getElem? hshape] at hreplace

end

/-! ## Every decoder -/

/-- The items of an array are decoded soundly when each of them is. -/
lemma sound_decodeItems {d : Descriptor} {shape : Shape} {path : Path}
    {item : Bytes → Decoded Slot}
    (hitem : ∀ payload, (item payload).Sound (·.HasShape shape) (d.HasFault shape path payload))
    (count : Nat) {done : List Slot} (hdone : ∀ slot ∈ done, slot.HasShape shape) (bytes : Bytes) :
    (decodeItems item path count done bytes).Sound
      (fun items => ∀ slot ∈ items, slot.HasShape shape) (d.ItemsFault shape path count bytes) := by
  have hreverse {slots : List Slot} (h : ∀ slot ∈ slots, slot.HasShape shape) :
      ∀ slot ∈ slots.reverse, slot.HasShape shape :=
    fun slot hslot => h slot (List.mem_reverse.1 hslot)
  induction count generalizing done bytes with
  | zero => exact sound_ok bytes (hreverse hdone)
  | succ count ih =>
    unfold decodeItems
    split
    · rename_i hread
      exact sound_fail (hreverse hdone) (.cut _ _ _ _ hread)
    · rename_i hread
      exact sound_fail (hreverse hdone) (.missing _ _ _ _ hread)
    · rename_i payload rest hread
      have hpayload := hitem payload
      have hmore : ∀ slot ∈ (item payload).contents :: done, slot.HasShape shape :=
        List.forall_mem_cons.2 ⟨hpayload.contents, hdone⟩
      dsimp only
      split
      · rename_i e he
        exact sound_fail (hreverse hmore) (.here _ hread (hpayload.result e he))
      · exact (ih hmore rest).mono (fun _ => id) (fun _ => .later hread)

namespace Decoder

/-- A missing value that cannot be recorded leaves the destination as it is. -/
lemma decodeMissingAt_of_not_supportsMissing {decoder : Decoder}
    (h : decoder.supportsMissing = false) (path : Path) (slot : Slot) :
    decoder.decodeMissingAt path slot
      = (slot, .error (.codecMismatch path (.missingValue slot.kind))) := by
  cases decoder <;> cases h <;> cases slot <;> rfl

/-- A missing value that can be recorded is. -/
lemma decodeMissingAt_of_recordsMissing {decoder : Decoder} {d : Descriptor} {shape : Shape}
    (hsuits : decoder.Suits d shape) (hshape : shape.recordsMissing = true) {slot : Slot}
    (hslot : slot.HasShape shape) (path : Path) :
    ∃ slot', decoder.decodeMissingAt path slot = (slot', .ok ()) ∧ slot'.HasShape shape := by
  cases hsuits with
  | optional wrapper hinner =>
    cases hslot with
    | absent => exact ⟨_, rfl, .absent _⟩
    | present hvalue => exact ⟨_, rfl, .absent _⟩
    | flagged present hvalue => exact ⟨_, rfl, .flagged false hvalue⟩
  | array id dimensions hdecoder =>
    cases hslot
    exact ⟨_, rfl, .sequence (List.forall_mem_nil _)⟩
  | set id hdecoder =>
    cases hslot
    exact ⟨_, rfl, .sequence (List.forall_mem_nil _)⟩
  | _ => cases hshape

/-- A missing value is recorded, or the shape cannot record one. -/
lemma decodeMissingAt_of_suits {decoder : Decoder} {d : Descriptor} {shape : Shape}
    (hsuits : decoder.Suits d shape) {slot : Slot} (hslot : slot.HasShape shape) (path : Path) :
    (∃ slot', decoder.decodeMissingAt path slot = (slot', .ok ()) ∧ slot'.HasShape shape)
      ∨ (shape.recordsMissing = false ∧ decoder.decodeMissingAt path slot
        = (slot, .error (.codecMismatch path (.missingValue shape.kind)))) := by
  cases hshape : shape.recordsMissing with
  | true => exact .inl (decodeMissingAt_of_recordsMissing hsuits hshape hslot path)
  | false =>
    rw [← hslot.kind_eq]
    exact .inr ⟨rfl, decodeMissingAt_of_not_supportsMissing
      (hsuits.supportsMissing_eq.trans hshape) path slot⟩

/-- An optional is decoded soundly when what is in it is. -/
lemma sound_decodeOptional {inner : Decoder} {d : Descriptor} {shape : Shape} {path : Path}
    {bytes : Bytes} (hinner : ∀ {slot : Slot}, slot.HasShape shape →
      (decodeAt inner path bytes slot).Sound (Slot.HasShape · shape) (d.HasFault shape path bytes))
    {wrapper : Wrapper} {slot : Slot} (hslot : slot.HasShape (.optional wrapper shape)) :
    (decodeAt (.optional inner) path bytes slot).Sound (Slot.HasShape · (.optional wrapper shape))
      (d.HasFault (.optional wrapper shape) path bytes) := by
  have hvalue {slot : Slot} (h : slot.HasShape shape) :=
    (hinner h).mono (fun _ h => h) fun _ => Descriptor.HasFault.optional wrapper
  cases hslot with
  | absent | present _ =>
    rw [decodeAt]
    exact (hvalue (Shape.hasShape_fresh shape)).map _ fun _ => .present
  | flagged present hkept =>
    rw [decodeAt]
    exact (hvalue hkept).map _ fun _ => .flagged true

/-- A scalar is decoded soundly into a kind that it fits into. -/
lemma sound_decodeScalar {d : Descriptor} {kind destination : ScalarKind}
    (hkind : d.scalarKind? = some kind) (hfits : kind.fitsInto destination = true) (id : Uuid)
    (path : Path) (bytes : Bytes) {value : Scalar} (hvalue : value.kind = destination) :
    (decodeAt (.scalar id kind) path bytes (.scalar value)).Sound
      (Slot.HasShape · (.scalar destination)) (d.HasFault (.scalar destination) path bytes) := by
  rw [decodeAt]
  split
  · rename_i hread
    exact sound_ok _ (.scalar ((kind_of_readInto hread).trans hvalue))
  · rename_i hread
    refine sound_fail (.scalar hvalue) ?_
    rcases readInto_eq_error hread with hbad | ⟨hmisfit, -⟩
    · exact .scalar hkind (hvalue ▸ hread) hbad
    · rw [hvalue, hfits] at hmisfit
      cases hmisfit

/-- A label is decoded soundly into a text. -/
lemma sound_decodeEnum (id : Uuid) (members : List String) (path : Path) (bytes : Bytes)
    {value : Scalar} (hvalue : value.kind = .str) :
    (decodeAt (.enum id members) path bytes (.scalar value)).Sound
      (Slot.HasShape · (.scalar .str))
      ((Descriptor.enum id members).HasFault (.scalar .str) path bytes) := by
  cases value <;> cases hvalue
  rw [decodeAt]
  split
  · exact sound_ok _ (.scalar rfl)
  · rename_i hread
    refine sound_fail (.scalar rfl) ?_
    rcases readLabel_eq_error hread with ⟨hlabel, rfl⟩ | ⟨label, hlabel, hmember, rfl⟩
    · exact .labelNotUtf8 id members path hlabel
    · exact .notAMember id path hlabel hmember

/-- An object is decoded soundly when its fields are. -/
lemma sound_decodeObject {decoders : List FieldDecoder} {d : Descriptor}
    {fields : List (WireField × Descriptor)} {shapes : List (String × Shape)}
    (hfields : d.fields? = some fields) (hlength : decoders.length = fields.length) {path : Path}
    {parts : List Slot} (hparts : List.Forall₂ Slot.HasShape parts (shapes.map Prod.snd))
    (hdecoders : ∀ rest, (decodeFields decoders path [] rest parts).Sound
      (List.Forall₂ Slot.HasShape · (shapes.map Prod.snd))
      (Descriptor.FieldsFault fields shapes path rest))
    (id : Uuid) (typeName : String) (bytes : Bytes) :
    (decodeAt (.object id decoders) path bytes (.record parts)).Sound
      (Slot.HasShape · (.record typeName shapes))
      (d.HasFault (.record typeName shapes) path bytes) := by
  rw [decodeAt, hlength]
  split
  · rename_i rest hread
    exact ((hdecoders rest).mono (fun _ h => h)
      (fun _ => .fields typeName hfields (checkCount_eq_ok hread))).map _ fun _ => .record _
  · rename_i hread
    refine sound_fail (.record _ hparts) ?_
    rcases checkCount_eq_error hread with hcount | ⟨count, _, hcount, hne, rfl⟩
    · exact .noFieldCount typeName _ path hfields hcount
    · exact .fieldCount typeName _ path hfields hcount hne

/-- A tuple is decoded soundly when its elements are. -/
lemma sound_decodeTuple {decoders : List Decoder} {elements : List Descriptor} {shapes : List Shape}
    (hlength : decoders.length = elements.length ∧ decoders.length = shapes.length) {path : Path}
    {parts : List Slot} (hparts : List.Forall₂ Slot.HasShape parts shapes)
    (hdecoders : ∀ rest, (decodeElements decoders path 0 rest parts).Sound
      (List.Forall₂ Slot.HasShape · shapes) (Descriptor.ElementsFault elements shapes path 0 rest))
    (id : Uuid) (bytes : Bytes) :
    (decodeAt (.tuple id decoders) path bytes (.record parts)).Sound
      (Slot.HasShape · (.tuple shapes))
      ((Descriptor.tuple id elements).HasFault (.tuple shapes) path bytes) := by
  obtain ⟨helements, hshapes⟩ := hlength
  rw [decodeAt, helements]
  split
  · rename_i rest hread
    rw [if_pos (hparts.length_eq.trans (hshapes.symm.trans helements))]
    exact ((hdecoders rest).mono (fun _ h => h)
      (fun _ => .elements id (checkCount_eq_ok hread))).map _ fun _ => .tuple
  · rename_i hread
    refine sound_fail (.tuple hparts) ?_
    rcases checkCount_eq_error hread with hcount | ⟨count, _, hcount, hne, rfl⟩
    · exact .noElementCount id _ _ path hcount
    · exact .elementCount id _ path hcount hne

/-- A set is decoded as an array is. -/
lemma decodeAt_set (id : Uuid) (decoder : Decoder) (path : Path) (bytes : Bytes) (slot : Slot) :
    decodeAt (.set id decoder) path bytes slot = decodeAt (.array id decoder) path bytes slot := by
  cases slot <;> simp only [decodeAt]

/-- An array is decoded soundly when each of its items is. -/
lemma sound_decodeArray {decoder : Decoder} {d element : Descriptor} {shape : Shape}
    (hitem : d.item? = some element) {path : Path} (hdecoder : ∀ payload,
      (decodeAt decoder path.element payload shape.fresh).Sound (Slot.HasShape · shape)
        (element.HasFault shape path.element payload)) (id : Uuid) (items : List Slot)
    (bytes : Bytes) :
    (decodeAt (.array id decoder) path bytes (.sequence shape items)).Sound
      (Slot.HasShape · (.sequence shape)) (d.HasFault (.sequence shape) path bytes) := by
  have hempty : (Slot.sequence shape []).HasShape (.sequence shape) :=
    .sequence (List.forall_mem_nil _)
  simp only [decodeAt]
  split
  · rename_i hread
    refine sound_fail hempty ?_
    rcases readDimensions_eq_error hread with hframing | ⟨dimensions, _, hdimensions, hmany, rfl⟩
    · exact .noDimensions shape hitem hread hframing
    · exact .dimensions shape path hitem hdimensions hmany
  · exact sound_ok _ hempty
  · rename_i count rest hread
    have hitems := sound_decodeItems hdecoder count (List.forall_mem_nil _) rest
    exact (hitems.mono (fun _ h => h) (fun _ => .items hitem hread)).map _ fun _ => .sequence

/-- A field and those after it are decoded soundly when the field is, and they are once it has its
part. -/
lemma sound_decodeFields_bound {field : WireField} {type : Descriptor} {index : Nat} {shape : Shape}
    {decoder : Decoder} {shapes : List (String × Shape)}
    (hfind : findField field.name shapes = some (index, shape))
    (hmissing : field.required = true ∨ shape.recordsMissing = true)
    (hdecoder : decoder.Suits type shape) {path : Path} {taken : List Nat} (hfree : index ∉ taken)
    {parts : List Slot} (hparts : List.Forall₂ Slot.HasShape parts (shapes.map Prod.snd))
    (hfield : ∀ (payload : Bytes) {slot : Slot}, slot.HasShape shape →
      (decodeAt decoder (path.field field.name) payload slot).Sound (Slot.HasShape · shape)
        (type.HasFault shape (path.field field.name) payload))
    {decoders : List FieldDecoder} {fields : List (WireField × Descriptor)}
    (hothers : ∀ (rest : Bytes) {parts : List Slot},
      List.Forall₂ Slot.HasShape parts (shapes.map Prod.snd) →
      (decodeFields decoders path (index :: taken) rest parts).Sound
        (List.Forall₂ Slot.HasShape · (shapes.map Prod.snd))
        (Descriptor.FieldsFault fields shapes path rest)) (bytes : Bytes) :
    (decodeFields (.bound field.name index decoder :: decoders) path taken bytes parts).Sound
      (List.Forall₂ Slot.HasShape · (shapes.map Prod.snd))
      (Descriptor.FieldsFault ((field, type) :: fields) shapes path bytes) := by
  have hshape := getElem?_of_findField hfind
  obtain ⟨slot, hslot, hslotShape⟩ := exists_part hparts hshape
  have hset (rest : Bytes) {value : Slot} (hvalue : value.HasShape shape) :=
    hothers rest (forall₂_set hparts hshape hvalue)
  have hcontains : taken.contains index = false := by
    simpa using hfree
  rw [decodeFields]
  split
  · rename_i hread
    exact sound_fail hparts (.cut _ _ _ _ hread)
  · rename_i element rest hread
    simp only [hslot, hcontains, Bool.false_eq_true, if_false]
    cases element with
    | some payload =>
      have hvalue := hfield payload hslotShape
      dsimp only
      split
      · rename_i e he
        exact sound_fail (forall₂_set hparts hshape hvalue.contents)
          (.here _ hread hfind (hvalue.result e he))
      · exact (hset rest hvalue.contents).mono (fun _ h => h) (fun _ => .later _ hread)
    | none =>
      rcases decodeMissingAt_of_suits hdecoder hslotShape (path.field field.name) with
        ⟨value, hrecorded, hvalue⟩ | ⟨hnot, hrefused⟩
      · simp only [hrecorded]
        exact (hset rest hvalue).mono (fun _ h => h) (fun _ => .later _ hread)
      · simp only [hrefused]
        have hrequired : field.required = true := by simpa [hnot] using hmissing
        exact sound_fail hparts (.missing _ _ path hread hfind hrequired hnot)

mutual

/-- A suitable decoder that binds apart is sound for every destination of its shape. -/
theorem sound_of_bindsApart (decoder : Decoder) {d : Descriptor} {shape : Shape}
    (hsuits : decoder.Suits d shape) (hapart : decoder.BindsApart) (path : Path) (bytes : Bytes)
    {slot : Slot} (hslot : slot.HasShape shape) :
    (decodeAt decoder path bytes slot).Sound (Slot.HasShape · shape)
      (d.HasFault shape path bytes) := by
  cases decoder with
  | optional inner =>
    cases hsuits with
    | optional wrapper hinner =>
      exact sound_decodeOptional
        (sound_of_bindsApart inner hinner (hapart.child (.optional inner)) path bytes) hslot
  | scalar id kind =>
    cases hsuits with
    | scalar hkind hfits =>
      cases hslot with
      | scalar hvalue => exact sound_decodeScalar hkind hfits _ path bytes hvalue
  | enum id members =>
    cases hsuits with
    | enum =>
      cases hslot with
      | scalar hvalue => exact sound_decodeEnum id members path bytes hvalue
  | object id decoders =>
    cases hsuits with
    | object typeName hfields hdecoders =>
      cases hslot with
      | record _ hparts =>
        exact sound_decodeObject hfields hdecoders.length_eq hparts
          (fun rest => sound_decodeFields decoders hdecoders (hapart _ _ .refl)
            (fun _ _ _ hmem => hapart.child (.field _ hmem)) path []
            (fun _ _ => List.not_mem_nil) rest hparts) _ typeName bytes
  | tuple id decoders =>
    cases hsuits with
    | tuple _ hdecoders =>
      cases hslot with
      | tuple hparts =>
        exact sound_decodeTuple hdecoders.length_eq hparts
          (fun rest => sound_decodeElements decoders hdecoders
            (fun _ hmem => hapart.child (.element id hmem)) path 0 rest hparts) id bytes
  | array id decoder =>
    cases hsuits with
    | array _ dimensions hdecoder =>
      cases hslot with
      | sequence hitems =>
        exact sound_decodeArray rfl (fun payload => sound_of_bindsApart decoder hdecoder
          (hapart.child (.array id decoder)) path.element payload (Shape.hasShape_fresh _)) id _
          bytes
  | set id decoder =>
    cases hsuits with
    | set _ hdecoder =>
      cases hslot with
      | sequence hitems =>
        rw [decodeAt_set]
        exact sound_decodeArray rfl (fun payload => sound_of_bindsApart decoder hdecoder
          (hapart.child (.set id decoder)) path.element payload (Shape.hasShape_fresh _)) id _
          bytes

/-- Each field finds a part of its shape that no field before it took. -/
theorem sound_decodeFields (decoders : List FieldDecoder) {fields : List (WireField × Descriptor)}
    {shapes : List (String × Shape)} (hdecoders : FieldsSuit decoders fields shapes)
    (hindices : (FieldDecoder.indices decoders).Nodup)
    (hapart : ∀ name index inner, .bound name index inner ∈ decoders → inner.BindsApart)
    (path : Path) (taken : List Nat)
    (htaken : ∀ index ∈ FieldDecoder.indices decoders, index ∉ taken) (bytes : Bytes)
    {parts : List Slot} (hparts : List.Forall₂ Slot.HasShape parts (shapes.map Prod.snd)) :
    (decodeFields decoders path taken bytes parts).Sound
      (List.Forall₂ Slot.HasShape · (shapes.map Prod.snd))
      (Descriptor.FieldsFault fields shapes path bytes) := by
  cases hdecoders with
  | nil => exact sound_ok bytes hparts
  | skipped type hfind himplicit hothers =>
    rw [decodeFields]
    split
    · rename_i hread
      exact sound_fail hparts (.cut _ _ _ _ hread)
    · rename_i rest hread
      have hrest := sound_decodeFields _ hothers hindices
        (fun name index inner hmem => hapart name index inner (List.mem_cons_of_mem _ hmem)) path
        taken htaken rest hparts
      exact hrest.mono (fun _ h => h) (fun _ => .later _ hread)
  | @bound field type index shape decoder decoders fields _ hfind hmissing hdecoder hothers =>
    obtain ⟨hindex, hindices⟩ := List.nodup_cons.1 hindices
    obtain ⟨hfree, htaken⟩ := List.forall_mem_cons.1 htaken
    -- a later field is not bound to the part that this one takes
    have htaken' : ∀ index' ∈ FieldDecoder.indices decoders, index' ∉ index :: taken := by
      intro index' hindex' hmem
      rcases List.mem_cons.1 hmem with rfl | hmem
      · exact hindex hindex'
      · exact htaken index' hindex' hmem
    exact sound_decodeFields_bound hfind hmissing hdecoder hfree hparts
      (sound_of_bindsApart decoder hdecoder (hapart _ _ _ List.mem_cons_self) (path.field field.name))
      (sound_decodeFields decoders hothers hindices
        (fun name index inner hmem => hapart name index inner (List.mem_cons_of_mem _ hmem)) path
        (index :: taken) htaken') bytes

/-- Each element finds the part at its own position. -/
theorem sound_decodeElements (decoders : List Decoder) {elements : List Descriptor}
    {shapes : List Shape} (hdecoders : ElementsSuit decoders elements shapes)
    (hapart : ∀ inner ∈ decoders, inner.BindsApart) (path : Path) (i : Nat)
    (bytes : Bytes) {parts : List Slot} (hparts : List.Forall₂ Slot.HasShape parts shapes) :
    (decodeElements decoders path i bytes parts).Sound (List.Forall₂ Slot.HasShape · shapes)
      (Descriptor.ElementsFault elements shapes path i bytes) := by
  cases hdecoders with
  | nil =>
    cases hparts
    exact sound_ok bytes .nil
  | cons hdecoder hothers =>
    cases hparts with
    | cons hslot hslots =>
      obtain ⟨hfirst, hapart⟩ := List.forall_mem_cons.1 hapart
      rw [decodeElements]
      split
      · rename_i hread
        exact sound_fail (.cons hslot hslots) (.cut _ _ _ _ _ _ hread)
      · rename_i payload rest hread
        have hvalue := sound_of_bindsApart _ hdecoder hfirst (path.index i) payload hslot
        dsimp only
        split
        · rename_i e he
          exact sound_fail (.cons hvalue.contents hslots) (.here _ _ hread (hvalue.result e he))
        · have hrest := sound_decodeElements _ hothers hapart path (i + 1) rest hslots
          exact (hrest.mono (fun _ h => h) (fun _ => .later _ _ hread)).map _
            fun _ => .cons hvalue.contents
      · rename_i rest hread
        rcases decodeMissingAt_of_suits hdecoder hslot (path.index i) with
          ⟨value, hrecorded, hvalue⟩ | ⟨hnot, hrefused⟩
        · simp only [hrecorded]
          have hrest := sound_decodeElements _ hothers hapart path (i + 1) rest hslots
          exact (hrest.mono (fun _ h => h) (fun _ => .later _ _ hread)).map _ fun _ => .cons hvalue
        · simp only [hrefused]
          exact sound_fail (.cons hslot hslots) (.missing _ _ _ path i hread hnot)

end

/-- A suitable decoder of a type with distinct names is sound. -/
theorem sound_decodeAt (decoder : Decoder) {d : Descriptor} {shape : Shape}
    (hsuits : decoder.Suits d shape) (hnames : d.HasDistinctNames) (path : Path) (bytes : Bytes)
    {slot : Slot} (hslot : slot.HasShape shape) :
    (decodeAt decoder path bytes slot).Sound (Slot.HasShape · shape)
      (d.HasFault shape path bytes) :=
  sound_of_bindsApart decoder hsuits (hsuits.bindsApart hnames) path bytes hslot

/-- **A built decoder is sound** for every destination of its shape.  The destination stays one of
that shape, and an error is about the bytes: they cannot be divided, a count word is wrong, or a
payload is no value of its type.  A missing part is at fault only where the shape can record none,
which no field that may be missing is bound to. -/
theorem sound_of_build {d : Descriptor} {shape : Shape} {decoder : Decoder}
    (hnames : d.HasDistinctNames) (hbuild : build d shape = .ok decoder) {slot : Slot}
    (hslot : slot.HasShape shape) (bytes : Bytes) :
    (decoder.decode bytes slot).contents.HasShape shape
      ∧ ∀ e, (decoder.decode bytes slot).result = .error e
        → d.HasFault shape .result bytes e ∧ e.IsAboutData := by
  have hsound := sound_decodeAt decoder (suits_of_build hbuild) hnames .result bytes hslot
  refine ⟨hsound.contents, fun e he => ?_⟩
  have hfault := hsound.result e he
  exact ⟨hfault, hfault.isAboutData⟩

end Decoder

namespace Person

/-- An object with an identifier that the server added, any number of tags and a name. -/
def type : Descriptor :=
  .object (Uuid.ofNat 0xB1) [
    .mk "id" ⟨1⟩ .one (.baseScalar ScalarKind.uuid.id),
    .mk "tags" ⟨0⟩ .many (.set (Uuid.ofNat 0xB2) (.baseScalar ScalarKind.str.id)),
    .mk "name" ⟨0⟩ .one (.baseScalar ScalarKind.str.id)]

/-- A record for it that does without the identifier. -/
def shape : Shape := .record "Person" [("name", .scalar .str), ("tags", .sequence (.scalar .str))]

/-- The decoder of the type for the record. -/
def decoder : Decoder :=
  .object (Uuid.ofNat 0xB1) [
    .skipped "id",
    .bound "tags" 1 (.set (Uuid.ofNat 0xB2) (.scalar ScalarKind.str.id .str)),
    .bound "name" 0 (.scalar ScalarKind.str.id .str)]

/-- A record that was filled before. -/
def slot : Slot :=
  .record [.scalar (.str "Ann"), .sequence (.scalar .str) [.scalar (.str "old")]]

/-- A row without tags and without the name that is required. -/
def row : Bytes :=
  word 3 ++ (word 0 ++ Bytes.prefixed []) ++ (word 0 ++ word missingLength)
    ++ (word 0 ++ word missingLength)

/-- The tags are emptied, and only the name is at fault. -/
theorem sound_row :
    type.HasDistinctNames ∧ Decoder.build type shape = .ok decoder ∧ slot.HasShape shape
      ∧ (decoder.decode row slot).contents
        = .record [.scalar (.str "Ann"), .sequence (.scalar .str) []]
      ∧ (decoder.decode row slot).result
        = .error (.codecMismatch (Path.result.field "name") .missingField)
      ∧ type.HasFault shape .result row
        (.codecMismatch (Path.result.field "name") .missingField) := by
  have hnames : type.HasDistinctNames := by
    refine .record rfl (by decide) fun field hfield => ?_
    simp only [List.map_cons, List.map_nil, List.mem_cons, List.not_mem_nil, or_false] at hfield
    rcases hfield with rfl | rfl | rfl
    · exact .baseScalar _
    · exact .items rfl (.baseScalar _)
    · exact .baseScalar _
  have hslot : slot.HasShape shape := by
    refine .record _ (.cons (.scalar rfl) (.cons (.sequence fun item hitem => ?_) .nil))
    obtain rfl := List.mem_singleton.1 hitem
    exact .scalar rfl
  have hresult : (decoder.decode row slot).result
      = .error (.codecMismatch (Path.result.field "name") .missingField) := rfl
  exact ⟨hnames, rfl, hslot, rfl, hresult,
    ((Decoder.sound_of_build hnames rfl hslot row).2 _ hresult).1⟩

end Person

end QueryWire
