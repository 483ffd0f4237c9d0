import QueryWire.Proofs.Codec.Failure

/-!
# A failed decoding is local

A decoder that was built and binds apart fails at one place.  Walking down to it, the decoding has
touched only what stands in front of that place and the place itself; and the path that is handed
down for the sake of errors is the one that was walked.

* `Decoder.FailsLocally` — that a decoding, if it fails, leaves what a failure leaves, and reports
  the place.
* `Decoder.failsLocally_scalar` and its like — one lemma for each kind of decoder.
* **`Decoder.failsLocally_of_bindsApart`** — every decoder that suits and binds apart.
* **`Decoder.fails_of_decode`** — the result as a whole.
-/

namespace QueryWire

open Reader

lemma Decoded.map_eq_error {α β : Type} {d : Decoded α} {f : α → β} {b : β} {e : Error}
    (h : d.map f = ⟨b, .error e⟩) : ∃ a, d = ⟨a, .error e⟩ ∧ f a = b := by
  obtain ⟨a, result⟩ := d
  cases h
  exact ⟨a, rfl, rfl⟩

namespace Decoder

/-- If a decoding fails, it leaves what a failure at the end of some steps leaves, and a mismatch is
reported at the place that they lead to. -/
def FailsLocally (decoder : Decoder) (path : Path) (bytes : Bytes) (slot : Slot) : Prop :=
  ∀ new e, decodeAt decoder path bytes slot = ⟨new, .error e⟩
    → ∃ steps, decoder.Fails path bytes slot steps e new ∧ e.IsAt (path.follow steps)

/-- The same for what decodes components into the parts of a record. -/
def RowFailsLocally (components : List Component) (path : Path) (bytes : Bytes) (parts : List Slot)
    (d : Decoded (List Slot)) : Prop :=
  ∀ parts' e, d = ⟨parts', .error e⟩
    → ∃ steps, RowFails components path bytes parts steps e parts' ∧ e.IsAt (path.follow steps)

/-! ## Scalars and optionals -/

lemma failsLocally_scalar (id : Uuid) (kind : ScalarKind) (path : Path) (bytes : Bytes)
    (value : Scalar) : (Decoder.scalar id kind).FailsLocally path bytes (.scalar value) := by
  intro new e h
  rw [decodeAt] at h
  split at h
  · cases h
  · rename_i hread
    cases h
    refine ⟨[], .scalar id hread, ?_⟩
    rcases readInto_eq_error hread with (hframing | ⟨what, rfl⟩) | ⟨-, rfl⟩
    · exact hframing.isAt path
    · exact isAt_codecMismatch path _
    · exact isAt_codecMismatch path _

lemma failsLocally_enum (id : Uuid) (members : List String) (path : Path) (bytes : Bytes)
    (text : String) : (Decoder.enum id members).FailsLocally path bytes (.scalar (.str text)) := by
  intro new e h
  rw [decodeAt] at h
  split at h
  · cases h
  · rename_i hread
    cases h
    refine ⟨[], .label id hread, ?_⟩
    rcases readLabel_eq_error hread with ⟨-, rfl⟩ | ⟨_, -, -, rfl⟩
    · exact isAt_codecMismatch path _
    · exact isAt_codecMismatch path _

lemma failsLocally_optional {inner : Decoder} {shape : Shape} {path : Path} {bytes : Bytes}
    (hinner : ∀ {slot : Slot}, slot.HasShape shape → inner.FailsLocally path bytes slot)
    {wrapper : Wrapper} {slot : Slot} (hslot : slot.HasShape (.optional wrapper shape)) :
    (Decoder.optional inner).FailsLocally path bytes slot := by
  intro new e h
  cases hslot with
  | absent | present _ =>
    rw [decodeAt] at h
    obtain ⟨value, hvalue, rfl⟩ := Decoded.map_eq_error h
    obtain ⟨steps, hfails, hplace⟩ := hinner (Shape.hasShape_fresh shape) value e hvalue
    exact ⟨steps, .dropping _ hfails, hplace⟩
  | flagged present hkept =>
    rw [decodeAt] at h
    obtain ⟨value, hvalue, rfl⟩ := Decoded.map_eq_error h
    obtain ⟨steps, hfails, hplace⟩ := hinner hkept value e hvalue
    exact ⟨steps, .keeping present hfails, hplace⟩

/-! ## Sequences -/

/-- Items fail where the first of them does, behind those that were decoded before. -/
lemma itemsFail_of_decodeItems {item : Decoder} {path : Path} {shape : Shape}
    (hitem : ∀ payload, item.FailsLocally path.element payload shape.fresh) (count : Nat)
    {done items : List Slot} {bytes : Bytes} {e : Error}
    (h : decodeItems (fun payload => decodeAt item path.element payload shape.fresh) path.element
      count done bytes = ⟨items, .error e⟩) :
    ∃ steps others, items = done.reverse ++ others
      ∧ ItemsFail item path shape count bytes steps e others ∧ e.IsAt (path.follow steps) := by
  induction count generalizing done bytes with
  | zero => cases h
  | succ count ih =>
    have hnone := itemsDecoded_nil item path shape count bytes
    unfold decodeItems at h
    split at h
    · rename_i hread
      cases h
      exact ⟨[.element], [], (List.append_nil _).symm, .cut hnone hread,
        (failsWith_framing_sized _ _ _ hread).isAt _⟩
    · rename_i hread
      cases h
      exact ⟨[.element], [], (List.append_nil _).symm, .missing hnone hread,
        isAt_codecMismatch path.element _⟩
    · rename_i payload rest hread
      dsimp only at h
      split at h
      · rename_i e' he
        cases h
        obtain ⟨steps, hfails, hplace⟩ := hitem payload _ e (congrArg₂ Decoded.mk rfl he)
        exact ⟨.element :: steps, [_], List.reverse_cons, .inside hnone hread hfails, hplace⟩
      · rename_i payloadRest hdecoded
        obtain ⟨steps, others, rfl, hfails, hplace⟩ := ih h
        refine ⟨steps, _ :: others, ?_,
          .later hread (congrArg₂ Decoded.mk rfl hdecoded) hfails, hplace⟩
        rw [List.reverse_cons, List.append_assoc, List.singleton_append]

lemma failsLocally_array {item : Decoder} {shape : Shape} {path : Path}
    (hitem : ∀ payload, item.FailsLocally path.element payload shape.fresh) {decoder : Decoder}
    (id : Uuid) (hdecoder : decoder = .array id item ∨ decoder = .set id item) (bytes : Bytes)
    (old : List Slot) : decoder.FailsLocally path bytes (.sequence shape old) := by
  intro new e h
  have hitem? : decoder.item? = some item := by
    rcases hdecoder with rfl | rfl <;> rfl
  have harray : decodeAt decoder path bytes (.sequence shape old)
      = decodeAt (.array id item) path bytes (.sequence shape old) := by
    rcases hdecoder with rfl | rfl
    · rfl
    · exact decodeAt_set id item path bytes _
  rw [harray, decodeAt] at h
  split at h
  · rename_i hread
    cases h
    refine ⟨[], .head shape old hitem? hread, ?_⟩
    rcases readDimensions_eq_error hread with hframing | ⟨_, _, -, -, rfl⟩
    · exact hframing.isAt path
    · exact isAt_codecMismatch path _
  · cases h
  · rename_i count rest hread
    obtain ⟨items, hitems, rfl⟩ := Decoded.map_eq_error h
    obtain ⟨steps, others, rfl, hfails, hplace⟩ := itemsFail_of_decodeItems hitem count hitems
    exact ⟨steps, .items old hitem? hread hfails, hplace⟩

/-! ## Records -/

lemma isAt_of_checkCount {expected : Nat} {bytes rest : Bytes} {e : Error}
    (h : checkCount expected bytes = .error e rest) (place : Path) : e.IsAt place := by
  rcases checkCount_eq_error h with hcount | ⟨_, _, -, -, rfl⟩
  · exact (failsWith_framing_nat 4 _ _ _ hcount).isAt place
  · exact fun _ _ h => nomatch h

lemma indices_fieldComponents (fields : List FieldDecoder) :
    Component.indices (fields.map FieldDecoder.component) = FieldDecoder.indices fields := by
  rw [Component.indices, List.filterMap_map, FieldDecoder.indices]
  refine List.filterMap_congr fun field _ => ?_
  cases field <;> rfl

lemma length_elementComponents (i : Nat) (decoders : List Decoder) :
    (elementComponents i decoders).length = decoders.length := by
  induction decoders generalizing i with
  | nil => rfl
  | cons decoder decoders ih => exact congrArg (· + 1) (ih (i + 1))

/-- The elements behind a position go into parts behind it. -/
lemma le_of_mem_indices {i index : Nat} {decoders : List Decoder}
    (h : index ∈ Component.indices (elementComponents i decoders)) : i ≤ index := by
  induction decoders generalizing i with
  | nil => cases h
  | cons decoder decoders ih =>
    rcases List.mem_cons.1 h with rfl | h
    · exact Nat.le_refl _
    · exact Nat.le_of_succ_le (ih h)

/-- An object fails where its fields do. -/
lemma failsLocally_object {fields : List FieldDecoder} {path : Path} {parts : List Slot}
    (hfields : ∀ rest, RowFailsLocally (fields.map FieldDecoder.component) path rest parts
      (decodeFields fields path [] rest parts)) (id : Uuid) (bytes : Bytes) :
    (Decoder.object id fields).FailsLocally path bytes (.record parts) := by
  intro new e h
  have hlength : (fields.map FieldDecoder.component).length = fields.length := List.length_map _
  rw [decodeAt, ← hlength] at h
  split at h
  · rename_i rest hcount
    obtain ⟨parts', hparts', rfl⟩ := Decoded.map_eq_error h
    obtain ⟨steps, hrow, hplace⟩ := hfields rest parts' e hparts'
    exact ⟨steps, .row rfl hcount hrow, hplace⟩
  · rename_i hcount
    cases h
    exact ⟨[], .count parts rfl hcount, isAt_of_checkCount hcount _⟩

/-- A tuple fails where its elements do. -/
lemma failsLocally_tuple {elements : List Decoder} {path : Path} {parts : List Slot}
    (hparts : parts.length = elements.length)
    (helements : ∀ rest, RowFailsLocally (elementComponents 0 elements) path rest parts
      (decodeElements elements path 0 rest parts)) (id : Uuid) (bytes : Bytes) :
    (Decoder.tuple id elements).FailsLocally path bytes (.record parts) := by
  intro new e h
  rw [decodeAt, ← length_elementComponents 0 elements] at h
  split at h
  · rename_i rest hcount
    rw [length_elementComponents, if_pos hparts] at h
    obtain ⟨parts', hparts', rfl⟩ := Decoded.map_eq_error h
    obtain ⟨steps, hrow, hplace⟩ := helements rest parts' e hparts'
    exact ⟨steps, .row rfl hcount hrow, hplace⟩
  · rename_i hcount
    cases h
    exact ⟨[], .count parts rfl hcount, isAt_of_checkCount hcount _⟩

section

variable {c : Component} {components : List Component} {path : Path} {bytes rest payload : Bytes}
  {parts : List Slot} {index : Nat} {decoder : Decoder} {old new : Slot} {e : Error}

/-- A component that cannot be divided from those behind it leaves the record as it is. -/
lemma RowFails.of_cut (h : Element.read bytes = .error e rest)
    (hapart : ∀ index, c.index? = some index → index ∉ Component.indices components) :
    RowFails (c :: components) path bytes parts [c.step] e parts
      ∧ e.IsAt (path.follow [c.step]) :=
  ⟨.first (.cut path h fun _ _ => rfl) hapart fun _ _ => rfl,
    (failsWith_framing_element _ _ _ h).isAt _⟩

/-- A component that is missing where that cannot be recorded leaves the record as it is. -/
lemma RowFails.of_missing (hread : Element.read bytes = .ok none rest)
    (htarget : c.target = some (index, decoder)) (hold : parts[index]? = some old)
    (hrefused : decoder.supportsMissing = false) (hapart : index ∉ Component.indices components)
    (cause : Mismatch) :
    RowFails (c :: components) path bytes parts [c.step]
      (.codecMismatch (path.push c.step) cause) parts := by
  refine .first (.missing cause hread htarget hold hrefused hold) ?_ fun _ _ => rfl
  intro other hother
  rw [Component.index?_eq htarget] at hother
  cases hother
  exact hapart

/-- A component that fails inside leaves only its own part changed. -/
lemma RowFails.of_inside {steps : List Path.Step}
    (hread : Element.read bytes = .ok (some payload) rest)
    (htarget : c.target = some (index, decoder)) (hold : parts[index]? = some old)
    (hinner : decoder.Fails (path.push c.step) payload old steps e new)
    (hapart : index ∉ Component.indices components) :
    RowFails (c :: components) path bytes parts (c.step :: steps) e (parts.set index new) := by
  have hindex := Component.index?_eq htarget
  obtain ⟨hlt, -⟩ := List.getElem?_eq_some_iff.1 hold
  refine .first (.inside hread htarget hold hinner (List.getElem?_set_self hlt)) ?_ ?_
  · intro other hother
    rw [hindex] at hother
    cases hother
    exact hapart
  · intro other hother
    exact List.getElem?_set_ne fun heq => hother (by rw [hindex, heq])

end

/-! ## Every decoder -/

/-- A bound field fails, or those behind it do once it has its part. -/
lemma rowFailsLocally_bound {field : WireField} {type : Descriptor} {index : Nat} {shape : Shape}
    {decoder : Decoder} (hsuits : decoder.Suits type shape) {path : Path} {taken : List Nat}
    (hfree : index ∉ taken) {parts : List Slot} {slot : Slot} (hold : parts[index]? = some slot)
    (hslot : slot.HasShape shape) {decoders : List FieldDecoder}
    (hapart : index ∉ FieldDecoder.indices decoders)
    (hfield : ∀ payload, decoder.FailsLocally (path.field field.name) payload slot
      ∧ (decodeAt decoder (path.field field.name) payload slot).contents.HasShape shape)
    (hothers : ∀ (rest : Bytes) {new : Slot}, new.HasShape shape →
      RowFailsLocally (decoders.map FieldDecoder.component) path rest (parts.set index new)
        (decodeFields decoders path (index :: taken) rest (parts.set index new))) (bytes : Bytes) :
    RowFailsLocally ((FieldDecoder.bound field.name index decoder :: decoders).map
        FieldDecoder.component) path bytes parts
      (decodeFields (.bound field.name index decoder :: decoders) path taken bytes parts) := by
  intro parts' e h
  have hcontains : taken.contains index = false := by
    simpa using hfree
  rw [← indices_fieldComponents] at hapart
  rw [decodeFields] at h
  rw [List.map_cons]
  split at h
  · rename_i hread
    cases h
    refine ⟨_, RowFails.of_cut hread fun other hother => ?_⟩
    cases hother
    exact hapart
  · rename_i element rest hread
    simp only [hold, hcontains, Bool.false_eq_true, if_false] at h
    cases element with
    | some payload =>
      obtain ⟨hfails, hshape⟩ := hfield payload
      dsimp only at h
      split at h
      · rename_i he
        cases h
        obtain ⟨steps, hinner, hplace⟩ := hfails _ e (congrArg₂ Decoded.mk rfl he)
        exact ⟨_, .of_inside hread rfl hold hinner hapart, hplace⟩
      · rename_i hdecoded
        obtain ⟨steps, hrow, hplace⟩ := hothers rest hshape parts' e h
        exact ⟨steps, .later rfl hread hold (.present (congrArg₂ Decoded.mk rfl hdecoded)) hapart
          hrow, hplace⟩
    | none =>
      rcases decodeMissingAt_of_suits hsuits hslot (path.field field.name) with
        ⟨new, hrecorded, hshape⟩ | ⟨hnot, hrefused⟩
      · simp only [hrecorded] at h
        obtain ⟨steps, hrow, hplace⟩ := hothers rest hshape parts' e h
        exact ⟨steps, .later rfl hread hold (.missing hrecorded) hapart hrow, hplace⟩
      · simp only [hrefused] at h
        cases h
        exact ⟨_, .of_missing hread rfl hold (hsuits.supportsMissing_eq.trans hnot) hapart _,
          isAt_codecMismatch _ _⟩

/-- An element fails, or those behind it do once it has its part, which stands behind those of the
elements in front. -/
lemma rowFailsLocally_element {type : Descriptor} {shape : Shape} {decoder : Decoder}
    (hsuits : decoder.Suits type shape) {path : Path} {done slots : List Slot} {slot : Slot}
    (hslot : slot.HasShape shape) {decoders : List Decoder}
    (helement : ∀ payload, decoder.FailsLocally (path.index done.length) payload slot
      ∧ (decodeAt decoder (path.index done.length) payload slot).contents.HasShape shape)
    (hothers : ∀ (rest : Bytes) {new : Slot}, new.HasShape shape →
      RowFailsLocally (elementComponents (done.length + 1) decoders) path rest
        (done ++ new :: slots)
        ((decodeElements decoders path (done.length + 1) rest slots).map (done ++ new :: ·)))
    (bytes : Bytes) :
    RowFailsLocally (elementComponents done.length (decoder :: decoders)) path bytes
      (done ++ slot :: slots)
      ((decodeElements (decoder :: decoders) path done.length bytes (slot :: slots)).map
        (done ++ ·)) := by
  intro parts' e h
  have hold : (done ++ slot :: slots)[done.length]? = some slot := by simp
  have hset (new : Slot) : (done ++ slot :: slots).set done.length new = done ++ new :: slots := by
    simp
  have hapart : done.length ∉ Component.indices (elementComponents (done.length + 1) decoders) :=
    fun h => absurd (le_of_mem_indices h) (Nat.not_succ_le_self _)
  obtain ⟨slots', helements, rfl⟩ := Decoded.map_eq_error h
  rw [elementComponents]
  rw [decodeElements] at helements
  split at helements
  · rename_i hread
    cases helements
    refine ⟨_, RowFails.of_cut hread fun other hother => ?_⟩
    cases hother
    exact hapart
  · rename_i payload rest hread
    obtain ⟨hfails, hshape⟩ := helement payload
    dsimp only at helements
    split at helements
    · rename_i he
      cases helements
      obtain ⟨steps, hinner, hplace⟩ := hfails _ e (congrArg₂ Decoded.mk rfl he)
      have hrow := RowFails.of_inside (c := ⟨.index done.length, some (done.length, decoder)⟩) hread
        rfl hold hinner hapart
      rw [hset] at hrow
      exact ⟨_, hrow, hplace⟩
    · rename_i hdecoded
      obtain ⟨others, hmore, rfl⟩ := Decoded.map_eq_error helements
      obtain ⟨steps, hrow, hplace⟩ := hothers rest hshape _ e (congrArg (Decoded.map _) hmore)
      rw [← hset] at hrow
      exact ⟨steps, .later rfl hread hold (.present (congrArg₂ Decoded.mk rfl hdecoded)) hapart hrow,
        hplace⟩
  · rename_i rest hread
    rcases decodeMissingAt_of_suits hsuits hslot (path.index done.length) with
      ⟨new, hrecorded, hshape⟩ | ⟨hnot, hrefused⟩
    · simp only [hrecorded] at helements
      obtain ⟨others, hmore, rfl⟩ := Decoded.map_eq_error helements
      obtain ⟨steps, hrow, hplace⟩ := hothers rest hshape _ e (congrArg (Decoded.map _) hmore)
      rw [← hset] at hrow
      exact ⟨steps, .later rfl hread hold (.missing hrecorded) hapart hrow, hplace⟩
    · simp only [hrefused] at helements
      cases helements
      exact ⟨_, .of_missing hread rfl hold (hsuits.supportsMissing_eq.trans hnot) hapart _,
        isAt_codecMismatch _ _⟩

mutual

/-- **Every decoder** that suits a type and a shape and binds apart fails locally in each destination
of that shape. -/
theorem failsLocally_of_bindsApart (decoder : Decoder) {d : Descriptor} {shape : Shape}
    (hsuits : decoder.Suits d shape) (hapart : decoder.BindsApart) (path : Path) (bytes : Bytes)
    {slot : Slot} (hslot : slot.HasShape shape) : decoder.FailsLocally path bytes slot := by
  cases decoder with
  | optional inner =>
    cases hsuits with
    | optional wrapper hinner =>
      exact failsLocally_optional
        (failsLocally_of_bindsApart inner hinner (hapart.child (.optional inner)) path bytes) hslot
  | scalar id kind =>
    cases hsuits with
    | scalar hkind hfits =>
      cases hslot with
      | scalar hvalue => exact failsLocally_scalar _ kind path bytes _
  | enum id members =>
    cases hsuits with
    | enum =>
      cases hslot with
      | @scalar value _ hvalue =>
        cases value <;> cases hvalue
        exact failsLocally_enum id members path bytes _
  | object id decoders =>
    cases hsuits with
    | object typeName hfields hdecoders =>
      cases hslot with
      | record _ hparts =>
        exact failsLocally_object
          (fun rest => rowFailsLocally_of_fields decoders hdecoders (hapart _ _ .refl)
            (fun _ _ _ hmem => hapart.child (.field _ hmem)) path []
            (fun _ _ => List.not_mem_nil) rest hparts) _ bytes
  | tuple id decoders =>
    cases hsuits with
    | tuple _ hdecoders =>
      cases hslot with
      | tuple hparts =>
        exact failsLocally_tuple (hparts.length_eq.trans hdecoders.length_eq.2.symm)
          (fun rest => rowFailsLocally_of_elements decoders hdecoders
            (fun _ hmem => hapart.child (.element id hmem)) path [] rest hparts) id bytes
  | array id decoder =>
    cases hsuits with
    | array _ dimensions hdecoder =>
      cases hslot with
      | sequence hitems =>
        exact failsLocally_array (fun payload => failsLocally_of_bindsApart decoder hdecoder
          (hapart.child (.array id decoder)) path.element payload (Shape.hasShape_fresh _)) id
          (.inl rfl) bytes _
  | set id decoder =>
    cases hsuits with
    | set _ hdecoder =>
      cases hslot with
      | sequence hitems =>
        exact failsLocally_array (fun payload => failsLocally_of_bindsApart decoder hdecoder
          (hapart.child (.set id decoder)) path.element payload (Shape.hasShape_fresh _)) id
          (.inr rfl) bytes _

/-- Fields fail where the first of them does, behind those that have their parts. -/
theorem rowFailsLocally_of_fields (decoders : List FieldDecoder)
    {fields : List (WireField × Descriptor)} {shapes : List (String × Shape)}
    (hdecoders : FieldsSuit decoders fields shapes)
    (hindices : (FieldDecoder.indices decoders).Nodup)
    (hapart : ∀ name index inner, .bound name index inner ∈ decoders → inner.BindsApart)
    (path : Path) (taken : List Nat)
    (htaken : ∀ index ∈ FieldDecoder.indices decoders, index ∉ taken) (bytes : Bytes)
    {parts : List Slot} (hparts : List.Forall₂ Slot.HasShape parts (shapes.map Prod.snd)) :
    RowFailsLocally (decoders.map FieldDecoder.component) path bytes parts
      (decodeFields decoders path taken bytes parts) := by
  cases hdecoders with
  | nil =>
    intro parts' e h
    cases h
  | skipped type hfind himplicit hothers =>
    intro parts' e h
    rw [decodeFields] at h
    rw [List.map_cons]
    split at h
    · rename_i hread
      cases h
      exact ⟨_, RowFails.of_cut hread fun other hother => nomatch hother⟩
    · rename_i rest hread
      obtain ⟨steps, hrow, hplace⟩ := rowFailsLocally_of_fields _ hothers hindices
        (fun name index inner hmem => hapart name index inner (List.mem_cons_of_mem _ hmem)) path
        taken htaken rest hparts parts' e h
      exact ⟨steps, .later_skipped rfl hread hrow, hplace⟩
  | @bound field type index shape decoder decoders fields _ hfind hmissing hdecoder hothers =>
    obtain ⟨hindex, hindices⟩ := List.nodup_cons.1 hindices
    obtain ⟨hfree, htaken⟩ := List.forall_mem_cons.1 htaken
    have hshape := getElem?_of_findField hfind
    obtain ⟨slot, hold, hslot⟩ := exists_part hparts hshape
    -- a later field is not bound to the part that this one takes
    have htaken' : ∀ index' ∈ FieldDecoder.indices decoders, index' ∉ index :: taken := by
      intro index' hindex' hmem
      rcases List.mem_cons.1 hmem with rfl | hmem
      · exact hindex hindex'
      · exact htaken index' hindex' hmem
    have hapart' := hapart _ _ _ List.mem_cons_self
    exact rowFailsLocally_bound hdecoder hfree hold hslot hindex
      (fun payload =>
        ⟨failsLocally_of_bindsApart decoder hdecoder hapart' (path.field field.name) payload hslot,
          (sound_of_bindsApart decoder hdecoder hapart' (path.field field.name) payload
            hslot).contents⟩)
      (fun rest _ hnew => rowFailsLocally_of_fields decoders hothers hindices
        (fun name index inner hmem => hapart name index inner (List.mem_cons_of_mem _ hmem)) path
        (index :: taken) htaken' rest (forall₂_set hparts hshape hnew)) bytes

/-- Elements fail where the first of them does, behind those that have their parts. -/
theorem rowFailsLocally_of_elements (decoders : List Decoder) {elements : List Descriptor}
    {shapes : List Shape} (hdecoders : ElementsSuit decoders elements shapes)
    (hapart : ∀ inner ∈ decoders, inner.BindsApart) (path : Path) (done : List Slot)
    (bytes : Bytes) {slots : List Slot} (hslots : List.Forall₂ Slot.HasShape slots shapes) :
    RowFailsLocally (elementComponents done.length decoders) path bytes (done ++ slots)
      ((decodeElements decoders path done.length bytes slots).map (done ++ ·)) := by
  cases hdecoders with
  | nil =>
    cases hslots
    intro parts' e h
    cases h
  | cons hdecoder hothers =>
    cases hslots with
    | cons hslot hslots =>
      obtain ⟨hfirst, hapart⟩ := List.forall_mem_cons.1 hapart
      refine rowFailsLocally_element hdecoder hslot (fun payload =>
        ⟨failsLocally_of_bindsApart _ hdecoder hfirst (path.index done.length) payload hslot,
          (sound_of_bindsApart _ hdecoder hfirst (path.index done.length) payload
            hslot).contents⟩) (fun rest new _ => ?_) bytes
      have hrest := rowFailsLocally_of_elements _ hothers hapart path (done ++ [new]) rest hslots
      simpa only [List.length_append, List.length_singleton, List.append_assoc,
        List.singleton_append] using hrest

end

end Decoder

namespace Sensor

/-- An object with a pair of a list and a number between two numbers. -/
def type : Descriptor :=
  .object (Uuid.ofNat 0xC1) [
    .mk "station" ⟨0⟩ .one (.baseScalar ScalarKind.int16.id),
    .mk "log" ⟨0⟩ .one (.tuple (Uuid.ofNat 0xC2) [
      .array (Uuid.ofNat 0xC3) (.baseScalar ScalarKind.bool.id) [],
      .baseScalar ScalarKind.int16.id]),
    .mk "rate" ⟨0⟩ .one (.baseScalar ScalarKind.int16.id)]

/-- A record for it, in another order. -/
def shape : Shape :=
  .record "Sensor" [
    ("rate", .scalar .int16),
    ("log", .tuple [.sequence (.scalar .bool), .scalar .int16]),
    ("station", .scalar .int16)]

/-- The decoder of the type for the record. -/
def decoder : Decoder :=
  .object (Uuid.ofNat 0xC1) [
    .bound "station" 2 (.scalar ScalarKind.int16.id .int16),
    .bound "log" 1 (.tuple (Uuid.ofNat 0xC2) [
      .array (Uuid.ofNat 0xC3) (.scalar ScalarKind.bool.id .bool),
      .scalar ScalarKind.int16.id .int16]),
    .bound "rate" 0 (.scalar ScalarKind.int16.id .int16)]

/-- A record that was filled before, with a list and a station. -/
def slot (items : List Slot) (station : Int16) : Slot :=
  .record [
    .scalar (.int16 50),
    .record [.sequence (.scalar .bool) items, .scalar (.int16 9)],
    .scalar (.int16 station)]

/-- A part of an object or a tuple. -/
def part (payload : Bytes) : Bytes := word 0 ++ Bytes.prefixed payload

/-- The second item of the list is no truth value. -/
def row : Bytes :=
  let items := word 1 ++ word 0 ++ word 0 ++ word 2 ++ word 1 ++ Bytes.prefixed [1]
    ++ Bytes.prefixed [7]
  word 3 ++ part [0, 4] ++ part (word 2 ++ part items ++ part [0, 8]) ++ part [0, 60]

end Sensor

end QueryWire
