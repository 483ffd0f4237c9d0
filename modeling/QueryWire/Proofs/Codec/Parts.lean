import QueryWire.Proofs.Codec.Holding
import QueryWire.Proofs.Except
import QueryWire.Proofs.Wire.Written

/-!
# Parts of compound values

How the parts of a value are written behind their lengths and found again, and what encoders and
decoders that were built for the same type have in common.

* `read_element`, `sized_prefixed`, `sized_missing` — a part is found again.
* `readDimensions_arrayBytes` — the items of an array are found again.
* `Encoder.names_buildTupleFields`, `Decoder.length_buildTupleFields` and their like — encoders and
  decoders have as many parts as the type, under the same names.
* `encode_tuple_eq_ok`, `encode_namedTuple_eq_ok`, `encode_array_eq_ok` — what an encoder accepts,
  and what it writes.
-/

namespace QueryWire

/-! ## Parts behind their lengths -/

lemma length_word (n : Nat) : (word n).length = 4 := BigEndian.length_encode 4 n

lemma length_prefixed (payload : Bytes) : payload.prefixed.length = payload.length + 4 := by
  rw [Bytes.prefixed, List.length_append, BigEndian.length_encode, Nat.add_comm]

lemma nat_word {n : Nat} (h : n ≤ missingLength) (rest : Bytes) :
    Reader.nat 4 (word n ++ rest) = .ok n rest :=
  Reader.nat_encode (Nat.lt_of_le_of_lt h (by decide)) rest

lemma sized_prefixed {payload : Bytes} (h : payload.length < missingLength) (rest : Bytes) :
    Element.sized (payload.prefixed ++ rest) = .ok (some payload) rest := by
  have hprefixed : payload.prefixed = word payload.length ++ payload := rfl
  simp only [Element.sized]
  rw [hprefixed, List.append_assoc, Reader.bind_of_ok (nat_word (Nat.le_of_lt h) _),
    if_neg (Nat.ne_of_lt h),
    Reader.bind_of_ok (Reader.raw_append payload rest)]
  rfl

lemma sized_missing (rest : Bytes) :
    Element.sized (word missingLength ++ rest) = .ok none rest := by
  simp only [Element.sized]
  rw [Reader.bind_of_ok (nat_word (by decide) rest), if_pos rfl]
  rfl

lemma read_element (bytes : Bytes) : Element.read (word 0 ++ bytes) = Element.sized bytes := by
  simp only [Element.read]
  rw [Reader.bind_of_ok (Reader.discard_append (length_word 0) bytes)]

lemma checkCount_word {n : Nat} (h : n ≤ missingLength) (rest : Bytes) :
    checkCount n (word n ++ rest) = .ok () rest := by
  simp only [checkCount]
  rw [Reader.bind_of_ok (nat_word h rest), if_neg (by simp)]
  rfl

/-- What is written for a part: the length that stands for a missing one, or its bytes. -/
lemma encodeElement_cases {encode : Argument → Except Error Bytes} {item : Argument} {bytes : Bytes}
    (h : encodeElement encode item = .ok bytes) :
    (item = .nothing ∧ bytes = word 0 ++ word missingLength)
      ∨ ∃ payload, encode item = .ok payload ∧ bytes = word 0 ++ payload.prefixed := by
  simp only [encodeElement] at h
  split at h
  · rename_i hnothing
    cases h
    cases item with
    | nothing => exact .inl ⟨rfl, rfl⟩
    | _ => cases hnothing
  · obtain ⟨payload, hpayload, rfl⟩ := Except.map_eq_ok.1 h
    exact .inr ⟨payload, hpayload, rfl⟩

lemma length_encodeElement {encode : Argument → Except Error Bytes} {item : Argument}
    {bytes : Bytes} (h : encodeElement encode item = .ok bytes) : 8 ≤ bytes.length := by
  rcases encodeElement_cases h with ⟨_, rfl⟩ | ⟨payload, _, rfl⟩
  · have hlength : (word 0 ++ word missingLength).length = 8 := by
      rw [List.length_append, length_word, length_word]
    omega
  · rw [List.length_append, length_word, length_prefixed]
    omega

lemma encodeItem_eq_ok {path : Path} {encode : Argument → Except Error Bytes} {item : Argument}
    {bytes : Bytes} (h : encodeItem path encode item = .ok bytes) :
    ∃ payload, encode item = .ok payload ∧ bytes = payload.prefixed := by
  simp only [encodeItem] at h
  split at h
  · cases h
  · obtain ⟨payload, hpayload, rfl⟩ := Except.map_eq_ok.1 h
    exact ⟨payload, hpayload, rfl⟩

/-- The dimensions in front of items are read, and leave the items. -/
lemma readDimensions_arrayBytes (path : Path) (items : List Bytes)
    (h : items.length ≤ missingLength) :
    readDimensions path (arrayBytes items)
      = .ok (if items.isEmpty then none else some items.length) items.flatten := by
  simp only [readDimensions, arrayBytes]
  split
  · rename_i hempty
    rw [List.append_assoc, Reader.bind_of_ok (nat_word (by decide) _)]
    rw [← List.append_nil (word 0 ++ word 0),
      Reader.bind_of_ok (Reader.discard_append (by simp [length_word]) []),
      List.isEmpty_iff.1 hempty]
    rfl
  · simp only [List.append_assoc]
    rw [Reader.bind_of_ok (nat_word (by decide) _), ← List.append_assoc (word 0) (word 0),
      Reader.bind_of_ok (Reader.discard_append (by simp [length_word]) _), if_neg (by decide),
      if_pos rfl, Reader.bind_of_ok (nat_word h _),
      Reader.bind_of_ok (Reader.discard_append (length_word 1) _)]
    rfl

/-- Each item of an array takes at least one byte. -/
lemma length_le_flatten {encode : Argument → Except Error Bytes} {place : Path}
    {items : List Argument} {parts : List Bytes}
    (hparts : items.mapM (encodeItem place encode) = .ok parts) :
    parts.length ≤ parts.flatten.length := by
  induction items generalizing parts with
  | nil =>
    cases hparts
    exact Nat.le_refl 0
  | cons item items ih =>
    rw [List.mapM_cons] at hparts
    obtain ⟨part, others, hpart, hmap, rfl⟩ := Except.bind_bind_pure_eq_ok.1 hparts
    obtain ⟨payload, _, rfl⟩ := encodeItem_eq_ok hpart
    have hle := ih hmap
    rw [List.length_cons, List.flatten_cons, List.length_append, length_prefixed]
    omega

lemma length_flatten_le_arrayBytes (parts : List Bytes) :
    parts.flatten.length ≤ (arrayBytes parts).length := by
  simp only [arrayBytes]
  split
  · rename_i hempty
    rw [List.isEmpty_iff.1 hempty]
    exact Nat.zero_le _
  · rw [List.length_append]
    exact Nat.le_add_left _ _

/-! ## Builders -/

lemma scalarKind_eq_ok {d : Descriptor} {path : Path} {kind : ScalarKind}
    (h : d.scalarKind path = .ok kind) : d.scalarKind? = some kind := by
  simp only [Descriptor.scalarKind] at h
  split at h
  · rename_i hkind
    cases h
    exact hkind
  · cases h

/-- A field that is always sent is bound to the record field of its name. -/
lemma buildField_eq_ok {field : WireField} {typeName : String} {fields : List (String × Shape)}
    {path : Path} {build : Shape → Except Error Decoder} {first : FieldDecoder}
    (himplicit : field.implicit = false)
    (h : Decoder.buildField field typeName fields path build = .ok first) :
    ∃ index shape decoder, Decoder.findField field.name fields = some (index, shape)
      ∧ build shape = .ok decoder ∧ first = .bound field.name index decoder := by
  simp only [Decoder.buildField] at h
  split at h
  · rename_i index shape hfind
    obtain ⟨decoder, hdecoder, hbind⟩ := Except.bind_eq_ok.1 h
    simp only [Decoder.bindField] at hbind
    split at hbind
    · cases hbind
    · cases hbind
      exact ⟨index, shape, decoder, hfind, hdecoder, rfl⟩
  · rw [himplicit] at h
    cases h

namespace Encoder

lemma length_buildElements {elements : List Descriptor} {path : Path} {i : Nat}
    {encoders : List Encoder} (h : buildElements elements path i = .ok encoders) :
    encoders.length = elements.length := by
  induction elements generalizing i encoders with
  | nil =>
    cases h
    rfl
  | cons element elements ih =>
    obtain ⟨_, _, _, hothers, rfl⟩ := Except.bind_bind_pure_eq_ok.1 h
    exact congrArg (· + 1) (ih hothers)

lemma names_buildTupleFields {fields : List TupleField} {path : Path}
    {encoders : List (String × Encoder)} (h : buildTupleFields fields path = .ok encoders) :
    encoders.map Prod.fst = fields.map TupleField.name := by
  induction fields generalizing encoders with
  | nil =>
    cases h
    rfl
  | cons field fields ih =>
    obtain ⟨name, type⟩ := field
    obtain ⟨_, _, _, hothers, rfl⟩ := Except.bind_bind_pure_eq_ok.1 h
    exact congrArg (name :: ·) (ih hothers)

lemma names_buildObjectFields {fields : List ObjectField} {path : Path}
    {encoders : List (String × Encoder)} (hexplicit : Descriptor.AreExplicitObject fields)
    (h : buildObjectFields fields path = .ok encoders) :
    encoders.map Prod.fst = fields.map ObjectField.name := by
  induction fields generalizing encoders with
  | nil =>
    cases h
    rfl
  | cons field fields ih =>
    obtain ⟨name, flags, cardinality, type⟩ := field
    obtain ⟨himplicit, _, hexplicit⟩ := hexplicit
    simp only [buildObjectFields] at h
    rw [himplicit, if_neg Bool.false_ne_true] at h
    split at h
    · cases h
    · obtain ⟨_, _, _, hothers, rfl⟩ := Except.bind_bind_pure_eq_ok.1 h
      exact congrArg (name :: ·) (ih hexplicit hothers)

/-- The payloads of elements are not empty. -/
lemma le_length_encodeElements {encoders : List Encoder} {path : Path} {i : Nat}
    {items : List Argument} {bytes : Bytes} (hlength : items.length = encoders.length)
    (h : encodeElements encoders path i items = .ok bytes) :
    encoders.length ≤ bytes.length := by
  induction encoders generalizing i items bytes with
  | nil => exact Nat.zero_le _
  | cons encoder encoders ih =>
    cases items with
    | nil => cases hlength
    | cons item items =>
      obtain ⟨first, others, hfirst, hothers, rfl⟩ := Except.bind_bind_pure_eq_ok.1 h
      have hpos := length_encodeElement hfirst
      have hle := ih (Nat.succ.inj hlength) hothers
      rw [List.length_cons, List.length_append]
      omega

lemma le_length_encodeFields {encoders : List (String × Encoder)} {path : Path}
    {given : List (String × Argument)} {bytes : Bytes}
    (h : encodeFields encoders path given = .ok bytes) : encoders.length ≤ bytes.length := by
  induction encoders generalizing bytes with
  | nil => exact Nat.zero_le _
  | cons encoder encoders ih =>
    simp only [encodeFields] at h
    split at h
    · cases h
    · obtain ⟨first, others, hfirst, hothers, rfl⟩ := Except.bind_bind_pure_eq_ok.1 h
      have hpos := length_encodeElement hfirst
      have hle := ih hothers
      rw [List.length_cons, List.length_append]
      omega

end Encoder

namespace Decoder

lemma length_buildElements {elements : List Descriptor} {shapes : List Shape} {path : Path}
    {i : Nat} {decoders : List Decoder} (hlength : shapes.length = elements.length)
    (h : buildElements elements shapes path i = .ok decoders) :
    decoders.length = elements.length := by
  induction elements generalizing shapes i decoders with
  | nil =>
    cases h
    rfl
  | cons element elements ih =>
    cases shapes with
    | nil => cases hlength
    | cons shape shapes =>
      obtain ⟨_, _, _, hothers, rfl⟩ := Except.bind_bind_pure_eq_ok.1 h
      exact congrArg (· + 1) (ih (Nat.succ.inj hlength) hothers)

lemma length_buildTupleFields {fields : List TupleField} {typeName : String}
    {shapes : List (String × Shape)} {path : Path} {decoders : List FieldDecoder}
    (h : buildTupleFields fields typeName shapes path = .ok decoders) :
    decoders.length = fields.length := by
  induction fields generalizing decoders with
  | nil =>
    cases h
    rfl
  | cons field fields ih =>
    obtain ⟨name, type⟩ := field
    obtain ⟨_, _, _, hothers, rfl⟩ := Except.bind_bind_pure_eq_ok.1 h
    exact congrArg (· + 1) (ih hothers)

lemma length_buildObjectFields {fields : List ObjectField} {typeName : String}
    {shapes : List (String × Shape)} {path : Path} {decoders : List FieldDecoder}
    (h : buildObjectFields fields typeName shapes path = .ok decoders) :
    decoders.length = fields.length := by
  induction fields generalizing decoders with
  | nil =>
    cases h
    rfl
  | cons field fields ih =>
    obtain ⟨name, flags, cardinality, type⟩ := field
    obtain ⟨_, _, _, hothers, rfl⟩ := Except.bind_bind_pure_eq_ok.1 h
    exact congrArg (· + 1) (ih hothers)

end Decoder

lemma length_freshList (shapes : List Shape) : (Shape.freshList shapes).length = shapes.length := by
  induction shapes with
  | nil => rfl
  | cons shape shapes ih => exact congrArg (· + 1) ih

/-! ## Encoders -/

/-- Nothing has no payload of its own. -/
lemma isNothing_of_encode {encoder : Encoder} {path : Path} {v : Argument} {bytes : Bytes}
    (h : encoder.encode path v = .ok bytes) : v.isNothing = false := by
  cases v with
  | nothing => cases encoder <;> cases h
  | _ => rfl

lemma encode_tuple_eq_ok {id : Uuid} {encoders : List Encoder} {path : Path} {v : Argument}
    {bytes : Bytes} (h : (Encoder.tuple id encoders).encode path v = .ok bytes) :
    ∃ items payload, v = .tuple items ∧ items.length = encoders.length
      ∧ Encoder.encodeElements encoders path 0 items = .ok payload
      ∧ bytes = word encoders.length ++ payload := by
  cases v with
  | tuple items =>
    simp only [Encoder.encode] at h
    split at h
    · rename_i hlength
      obtain ⟨payload, hpayload, rfl⟩ := Except.map_eq_ok.1 h
      exact ⟨items, payload, rfl, hlength, hpayload, rfl⟩
    · cases h
  | _ => cases h

lemma encode_namedTuple_eq_ok {id : Uuid} {encoders : List (String × Encoder)} {path : Path}
    {v : Argument} {bytes : Bytes} (h : (Encoder.namedTuple id encoders).encode path v = .ok bytes) :
    ∃ given payload, v = .named given ∧ (∀ pair ∈ given, pair.1 ∈ encoders.map Prod.fst)
      ∧ Encoder.encodeFields encoders path given = .ok payload
      ∧ bytes = word encoders.length ++ payload := by
  cases v with
  | named given =>
    simp only [Encoder.encode] at h
    split at h
    · cases h
    · rename_i hknown
      obtain ⟨payload, hpayload, rfl⟩ := Except.map_eq_ok.1 h
      refine ⟨given, payload, rfl, fun pair hpair => ?_, hpayload, rfl⟩
      simpa using List.find?_eq_none.1 hknown pair hpair
  | _ => cases h

/-- A named tuple is written when all its names are declared and its fields are written. -/
lemma encode_named_eq_ok {id : Uuid} {encoders : List (String × Encoder)} {path : Path}
    {given : List (String × Argument)} {bytes : Bytes} :
    (Encoder.namedTuple id encoders).encode path (.named given) = .ok bytes
      ↔ (∀ name ∈ given.map Prod.fst, name ∈ encoders.map Prod.fst)
        ∧ ∃ payload, Encoder.encodeFields encoders path given = .ok payload
          ∧ bytes = word encoders.length ++ payload := by
  constructor
  · intro h
    obtain ⟨_, payload, hv, hnames, hpayload, rfl⟩ := encode_namedTuple_eq_ok h
    cases hv
    exact ⟨List.forall_mem_map.2 hnames, payload, hpayload, rfl⟩
  · rintro ⟨hnames, payload, hpayload, rfl⟩
    have hknown : given.find? (fun pair => !encoders.any fun declared => declared.1 == pair.1)
        = none := by
      rw [List.find?_eq_none]
      intro pair hpair
      simpa using hnames pair.1 (List.mem_map_of_mem hpair)
    simp only [Encoder.encode, hknown, hpayload]
    rfl

/-- The items of an argument for an array, and what is written for them. -/
lemma encode_array_eq_ok {id : Uuid} {encoder : Encoder} {path : Path} {v : Argument} {bytes : Bytes}
    (h : (Encoder.array id encoder).encode path v = .ok bytes) :
    ∃ items parts, (v = .array items ∨ v = .set items)
      ∧ items.mapM (encodeItem path.element fun item => encoder.encode path.element item)
        = .ok parts
      ∧ bytes = arrayBytes parts := by
  simp only [Encoder.encode] at h
  split at h
  · rename_i items hitems
    obtain ⟨parts, hparts, rfl⟩ := Except.map_eq_ok.1 h
    refine ⟨items, parts, ?_, hparts, rfl⟩
    simp only [Encoder.items?] at hitems
    split at hitems <;> cases hitems
    · exact .inl rfl
    · exact .inr rfl
  · cases h

lemma encode_set (id : Uuid) (encoder : Encoder) (path : Path) (v : Argument) :
    (Encoder.set id encoder).encode path v = (Encoder.array id encoder).encode path v := rfl

end QueryWire
