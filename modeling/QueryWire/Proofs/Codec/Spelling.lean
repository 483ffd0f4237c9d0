import QueryWire.Proofs.Codec.Parts
import QueryWire.Proofs.Codec.Record
import QueryWire.Proofs.Codec.Scalar

/-!
# Bytes that stand for an argument

* `Decoded.Yields` — that decoding ends well, and with what.
* `Spells` — that bytes stand for an argument, whatever destination they are read into.
* `spells_throughOptionals` — optionals around a destination make no difference.
* `spells_buildScalar`, `spells_label` — scalars and labels.
* `yields_decodeAt_tuple`, `yields_decodeAt_record`, `yields_decodeAt_sequence` — compound values,
  when their parts do.
-/

namespace QueryWire

/-! ## Ending well -/

/-- Decoding ends well, and the destination is as stated. -/
def Decoded.Yields {α : Type} (decoded : Decoded α) (contents : α) : Prop :=
  decoded.contents = contents ∧ ∃ rest, decoded.result = .ok rest

lemma Decoded.Yields.map {α β : Type} {decoded : Decoded α} {contents : α} (f : α → β)
    (h : decoded.Yields contents) : (decoded.map f).Yields (f contents) :=
  ⟨congrArg f h.1, h.2⟩

/-- Bytes stand for an argument: whatever destination a decoder is built for, if it admits the
argument then it holds it afterwards. -/
def Spells (build : Shape → Except Error Decoder) (bytes : Bytes) (v : Argument) : Prop :=
  ∀ shape decoder, build shape = .ok decoder → shape.Admits v →
    ∀ path, (decoder.decodeAt path bytes shape.fresh).Yields (shape.holding v)

/-- Optionals around a destination make no difference to an argument that is there. -/
lemma spells_throughOptionals {build : Shape → Except Error Decoder} {bytes : Bytes} {v : Argument}
    (hthere : v.isNothing = false) (h : Spells build bytes v) :
    Spells (fun shape => Decoder.throughOptionals shape build) bytes v := by
  intro shape
  induction shape, build using Decoder.throughOptionals.induct with
  | case1 wrapper inner build ih =>
    intro decoder hbuild hadmits path
    obtain ⟨decoder, hinner, rfl⟩ := Except.map_eq_ok.1 hbuild
    have hadmits : inner.Admits v := by
      rcases hadmits with hnothing | hadmits
      · rw [hthere] at hnothing
        cases hnothing
      · exact hadmits
    have hyields := ih h decoder hinner hadmits path
    cases wrapper with
    | dropping =>
      simp only [Shape.holding, hthere, Bool.false_eq_true, if_false]
      exact hyields.map fun value => Slot.option inner (some value)
    | keeping =>
      simp only [Shape.holding, hthere, Bool.false_eq_true, if_false]
      exact hyields.map (Slot.flagged true)
  | case2 shape build hshape =>
    intro decoder (hbuild : Decoder.throughOptionals shape build = .ok decoder)
    rw [Decoder.throughOptionals.eq_2 shape build hshape] at hbuild
    exact h shape decoder hbuild

/-- Nothing leaves a destination that admits it as it is. -/
lemma decodeMissingAt_fresh {d : Descriptor} {shape : Shape} {path : Path} {decoder : Decoder}
    (hbuild : Decoder.buildAt d shape path = .ok decoder) (hadmits : shape.Admits .nothing)
    (path' : Path) :
    decoder.decodeMissingAt path' shape.fresh = (shape.holding .nothing, .ok ()) := by
  cases shape with
  | optional wrapper inner =>
    obtain ⟨decoder, _, rfl⟩ := Except.map_eq_ok.1 hbuild
    cases wrapper <;> rfl
  | sequence element =>
    cases d with
    | array id item dimensions =>
      obtain ⟨decoder, _, rfl⟩ := Except.bind_pure_eq_ok.1 hbuild
      rfl
    | set id item =>
      obtain ⟨decoder, _, rfl⟩ := Except.bind_pure_eq_ok.1 hbuild
      rfl
    | baseScalar id =>
      obtain ⟨_, _, hbuild⟩ := Except.bind_eq_ok.1 hbuild
      cases hbuild
    | scalar id base =>
      obtain ⟨_, _, hbuild⟩ := Except.bind_eq_ok.1 hbuild
      cases hbuild
    | _ => cases hbuild
  | _ => cases hadmits

/-! ## Scalars and labels -/

lemma spells_buildScalar {d : Descriptor} {kind : ScalarKind} {p q : Path} {v : Argument}
    {bytes : Bytes} (hkind : d.scalarKind q = .ok kind) (h : encodeScalar kind p v = .ok bytes)
    (path : Path) : Spells (fun shape => Decoder.buildScalar d shape path) bytes v := by
  intro shape decoder hbuild hadmits path'
  obtain ⟨kind', hkind', hbuild⟩ := Except.bind_eq_ok.1 hbuild
  have hsame : kind' = kind :=
    Option.some.inj ((scalarKind_eq_ok hkind').symm.trans (scalarKind_eq_ok hkind))
  subst hsame
  cases shape with
  | scalar destination =>
    dsimp only at hbuild
    split at hbuild
    · rename_i hfits
      cases hbuild
      obtain ⟨value, rest, rfl, hread⟩ := readInto_encodeScalar h hfits hadmits path'
      simp only [Shape.fresh, Decoder.decodeAt, ScalarKind.kind_fresh, hread]
      exact ⟨rfl, rest, rfl⟩
    · cases hbuild
  | _ => cases hbuild

lemma spells_label {id : Uuid} {members : List String} {p : Path} {v : Argument} {bytes : Bytes}
    (h : Encoder.encodeLabel members p v = .ok bytes) (path : Path) :
    Spells (fun shape => Decoder.buildPlain (.enum id members) shape path) bytes v := by
  intro shape decoder hbuild _ path'
  simp only [Encoder.encodeLabel] at h
  split at h
  · cases h
  · rename_i label hlabel
    split at h
    · rename_i hmember
      cases h
      cases shape with
      | scalar destination =>
        cases destination with
        | str =>
          cases hbuild
          have hread : Decoder.readLabel path' members (Utf8.encode label)
              = .ok label (Utf8.encode label) := by
            simp only [Decoder.readLabel]
            rw [Reader.bind_of_ok Reader.rest_apply, Utf8.text?_encode]
            dsimp only
            rw [if_pos hmember]
            rfl
          have hholding : (Shape.scalar .str).holding v = .scalar (.str label) := by
            simp only [Encoder.label?] at hlabel
            split at hlabel <;> cases hlabel <;> rfl
          rw [hholding]
          simp only [Shape.fresh, ScalarKind.fresh, Decoder.decodeAt, hread]
          exact ⟨rfl, _, rfl⟩
        | _ => cases hbuild
      | _ => cases hbuild
    · cases h

/-! ## One part after the other -/

section

variable {d : Descriptor} {shape : Shape} {place : Path} {decoder : Decoder}
  {encode : Argument → Except Error Bytes} {item : Argument} {first : Bytes}

/-- A part is taken off the front, and is either missing, which its destination can record, or
fills its destination. -/
lemma read_part (hbuild : Decoder.buildAt d shape place = .ok decoder)
    (hfirst : encodeElement encode item = .ok first) (hlength : first.length < missingLength)
    (hspells : ∀ payload, encode item = .ok payload → payload.length < missingLength →
      Spells (fun shape => Decoder.buildAt d shape place) payload item)
    (hadmits : shape.Admits item) (others : Bytes) :
    (Element.read (first ++ others) = .ok none others
        ∧ ∀ path, decoder.decodeMissingAt path shape.fresh = (shape.holding item, .ok ()))
      ∨ ∃ payload, Element.read (first ++ others) = .ok (some payload) others
        ∧ ∀ path, (decoder.decodeAt path payload shape.fresh).Yields (shape.holding item) := by
  rcases encodeElement_cases hfirst with ⟨rfl, rfl⟩ | ⟨payload, hpayload, rfl⟩
  · refine .inl ⟨?_, decodeMissingAt_fresh hbuild hadmits⟩
    rw [List.append_assoc, read_element, sized_missing]
  · have hshort : payload.length < missingLength := by
      rw [List.length_append, length_prefixed] at hlength
      omega
    refine .inr ⟨payload, ?_, hspells payload hpayload hshort shape decoder hbuild hadmits⟩
    rw [List.append_assoc, read_element, sized_prefixed hshort]

/-- An element of a tuple in front of others. -/
lemma yields_decodeElements_cons (hbuild : Decoder.buildAt d shape place = .ok decoder)
    (hfirst : encodeElement encode item = .ok first) (hlength : first.length < missingLength)
    (hspells : ∀ payload, encode item = .ok payload → payload.length < missingLength →
      Spells (fun shape => Decoder.buildAt d shape place) payload item)
    (hadmits : shape.Admits item) {decoders : List Decoder} {path : Path} {i : Nat}
    {others : Bytes} {slots contents : List Slot}
    (hothers : (Decoder.decodeElements decoders path (i + 1) others slots).Yields contents) :
    (Decoder.decodeElements (decoder :: decoders) path i (first ++ others)
      (shape.fresh :: slots)).Yields (shape.holding item :: contents) := by
  rcases read_part hbuild hfirst hlength hspells hadmits others
    with ⟨hread, hmissing⟩ | ⟨payload, hread, hyields⟩
  · simp only [Decoder.decodeElements, hread, hmissing]
    exact hothers.map (shape.holding item :: ·)
  · obtain ⟨hcontents, rest, hresult⟩ := hyields (path.index i)
    simp only [Decoder.decodeElements, hread, hresult, hcontents]
    exact hothers.map (shape.holding item :: ·)

/-- A field of a record in front of others. -/
lemma yields_decodeFields_cons {fields : List (String × Shape)} {given : List (String × Argument)}
    {name : String} {names : List String} {taken : List Nat} {parts : List Slot} {index : Nat}
    (hfilling : Filling fields given (name :: names) taken parts)
    (hfind : Decoder.findField name fields = some (index, shape))
    (hitem : given.lookup name = some item)
    (hbuild : Decoder.buildAt d shape place = .ok decoder)
    (hfirst : encodeElement encode item = .ok first) (hlength : first.length < missingLength)
    (hspells : ∀ payload, encode item = .ok payload → payload.length < missingLength →
      Spells (fun shape => Decoder.buildAt d shape place) payload item)
    (hadmits : Shape.AdmitsFields fields given) {decoders : List FieldDecoder} {path : Path}
    {others : Bytes} {contents : List Slot}
    (hothers : ∀ taken parts, Filling fields given names taken parts →
      (Decoder.decodeFields decoders path taken others parts).Yields contents) :
    (Decoder.decodeFields (.bound name index decoder :: decoders) path taken (first ++ others)
      parts).Yields contents := by
  obtain ⟨huntaken, hslot⟩ := hfilling.getElem?_fresh hfind
  have huntaken : taken.contains index = false := by simpa using huntaken
  have hrest := hothers _ _ (hfilling.next hfind hitem)
  rcases read_part hbuild hfirst hlength hspells (Shape.admits_of_findField hadmits hfind hitem)
    others with ⟨hread, hmissing⟩ | ⟨payload, hread, hyields⟩
  · simp only [Decoder.decodeFields, hread, hslot, huntaken, hmissing, Bool.false_eq_true, if_false]
    exact hrest
  · obtain ⟨hcontents, rest, hresult⟩ := hyields (path.field name)
    simp only [Decoder.decodeFields, hread, hslot, huntaken, hresult, hcontents,
      Bool.false_eq_true, if_false]
    exact hrest

end

/-- The items of an array, one after the other. -/
lemma decodeItems_flatten {encode : Argument → Except Error Bytes} {decode : Bytes → Decoded Slot}
    {hold : Argument → Slot} {place : Path} {items : List Argument} {parts : List Bytes}
    (hparts : items.mapM (encodeItem place encode) = .ok parts)
    (hlength : parts.flatten.length < missingLength)
    (hyields : ∀ item ∈ items, ∀ payload, encode item = .ok payload →
      payload.length < missingLength → (decode payload).Yields (hold item))
    (path : Path) (done : List Slot) :
    decodeItems decode path parts.length done parts.flatten
      = ⟨done.reverse ++ items.map hold, .ok []⟩ := by
  induction items generalizing parts done with
  | nil =>
    cases hparts
    simp [decodeItems]
  | cons item items ih =>
    rw [List.mapM_cons] at hparts
    obtain ⟨part, others, hpart, hmap, rfl⟩ := Except.bind_bind_pure_eq_ok.1 hparts
    obtain ⟨payload, hpayload, rfl⟩ := encodeItem_eq_ok hpart
    rw [List.flatten_cons, List.length_append, length_prefixed] at hlength
    have hshort : payload.length < missingLength := by omega
    obtain ⟨hcontents, rest, hresult⟩ := hyields item List.mem_cons_self payload hpayload hshort
    have hothers := ih hmap (by omega)
      (fun item h => hyields item (List.mem_cons_of_mem _ h)) (hold item :: done)
    simp only [List.length_cons, List.flatten_cons, decodeItems, sized_prefixed hshort, hresult,
      hcontents, hothers, List.reverse_cons, List.append_assoc, List.singleton_append,
      List.map_cons]

/-! ## Compound values -/

/-- The items of an array fill a sequence. -/
lemma yields_decodeAt_array {encode : Argument → Except Error Bytes} {place : Path}
    {items : List Argument} {parts : List Bytes} {shape : Shape} {decoder : Decoder}
    (hparts : items.mapM (encodeItem place encode) = .ok parts)
    (hlength : (arrayBytes parts).length < missingLength)
    (hyields : ∀ item ∈ items, ∀ payload, encode item = .ok payload →
      payload.length < missingLength →
      ∀ path, (decoder.decodeAt path payload shape.fresh).Yields (shape.holding item))
    (id : Uuid) (path : Path) :
    ((Decoder.array id decoder).decodeAt path (arrayBytes parts) (.sequence shape [])).Yields
      (.sequence shape (items.map shape.holding)) := by
  have hflatten := length_flatten_le_arrayBytes parts
  have hcount := length_le_flatten hparts
  have hitems := decodeItems_flatten hparts (by omega)
    (fun item hitem payload hpayload hshort =>
      hyields item hitem payload hpayload hshort path.element) path.element []
  have hdimensions := readDimensions_arrayBytes path parts (by omega)
  cases parts with
  | nil =>
    have hnone : items.map shape.holding = [] := (congrArg Decoded.contents hitems).symm
    simp only [Decoder.decodeAt, hdimensions, List.isEmpty_nil, if_true, hnone]
    exact ⟨rfl, _, rfl⟩
  | cons part parts =>
    simp only [Decoder.decodeAt, hdimensions, List.isEmpty_cons, Bool.false_eq_true, if_false,
      hitems]
    exact ⟨rfl, _, rfl⟩

/-- An argument for an array or a set fills a sequence. -/
lemma yields_decodeAt_sequence {id : Uuid} {encoder : Encoder} {q : Path} {v : Argument}
    {bytes : Bytes} (hbytes : (Encoder.array id encoder).encode q v = .ok bytes)
    (hlength : bytes.length < missingLength) {build : Shape → Except Error Decoder}
    (hspells : ∀ item payload, encoder.encode q.element item = .ok payload →
      payload.length < missingLength → Spells build payload item)
    {inner : Shape} {decoder : Decoder}
    (hinner : Decoder.throughOptionals inner build = .ok decoder)
    (hadmits : (Shape.sequence inner).Admits v) (path : Path) :
    ((Decoder.array id decoder).decodeAt path bytes (Shape.sequence inner).fresh).Yields
      ((Shape.sequence inner).holding v) := by
  obtain ⟨items, parts, hv, hparts, rfl⟩ := encode_array_eq_ok hbytes
  have hitems : ∀ item ∈ items, inner.Admits item := by
    rcases hv with rfl | rfl
    · exact hadmits
    · exact hadmits
  have hholding : (Shape.sequence inner).holding v = .sequence inner (items.map inner.holding) := by
    rcases hv with rfl | rfl
    · rfl
    · rfl
  rw [hholding]
  refine yields_decodeAt_array hparts hlength (fun item hitem payload hpayload hshort => ?_) id path
  exact spells_throughOptionals (isNothing_of_encode hpayload) (hspells item payload hpayload hshort)
    inner decoder hinner (hitems item hitem)

lemma decodeAt_set (id : Uuid) (decoder : Decoder) (path : Path) (bytes : Bytes) (slot : Slot) :
    (Decoder.set id decoder).decodeAt path bytes slot
      = (Decoder.array id decoder).decodeAt path bytes slot := by
  cases slot <;> rfl

/-- An argument for named fields fills a record, when its fields do one after the other. -/
lemma yields_decodeAt_record {id : Uuid} {encoders : List (String × Encoder)} {q : Path}
    {v : Argument} {bytes : Bytes} (hbytes : (Encoder.namedTuple id encoders).encode q v = .ok bytes)
    (hlength : bytes.length < missingLength) {names : List String} (hnodup : names.Nodup)
    (hnames : encoders.map Prod.fst = names) {decoders : List FieldDecoder}
    (hcount : decoders.length = names.length) {typeName : String} {shapes : List (String × Shape)}
    (hadmits : (Shape.record typeName shapes).Admits v)
    (hfields : ∀ given payload, Encoder.encodeFields encoders q given = .ok payload →
      payload.length < missingLength → Shape.AdmitsFields shapes given → ∀ taken parts,
      Filling shapes given names taken parts → ∀ path,
      (Decoder.decodeFields decoders path taken payload parts).Yields
        (Shape.holdingFields shapes given)) (path : Path) :
    ((Decoder.object id decoders).decodeAt path bytes (Shape.record typeName shapes).fresh).Yields
      ((Shape.record typeName shapes).holding v) := by
  obtain ⟨given, payload, rfl, hknown, hpayload, rfl⟩ := encode_namedTuple_eq_ok hbytes
  rw [List.length_append, length_word] at hlength
  have hle := Encoder.le_length_encodeFields hpayload
  have hsame : encoders.length = decoders.length := by
    rw [hcount, ← hnames, List.length_map]
  have hyields := hfields given payload hpayload (by omega) hadmits [] _
    (.start hnodup (hnames ▸ hknown)) path
  have hread := checkCount_word (n := decoders.length) (by omega) payload
  simp only [Shape.fresh, Decoder.decodeAt, hsame, hread]
  exact hyields.map Slot.record

/-- The elements of a tuple behind their count fill a record. -/
lemma yields_decodeAt_tuple {decoders : List Decoder} {path : Path} {payload : Bytes}
    {parts contents : List Slot} (id : Uuid) (hcount : decoders.length ≤ missingLength)
    (hparts : parts.length = decoders.length)
    (helements : (Decoder.decodeElements decoders path 0 payload parts).Yields contents) :
    ((Decoder.tuple id decoders).decodeAt path (word decoders.length ++ payload)
      (.record parts)).Yields (.record contents) := by
  simp only [Decoder.decodeAt, checkCount_word hcount, hparts, if_true]
  exact helements.map Slot.record

end QueryWire
