import QueryWire.Proofs.Codec.Spelling

/-!
# Arguments are read back

What an encoder writes for an argument, a decoder for the same type reads into each destination
that admits the argument.

* `spells_buildPlain` — by induction on the type, what is written spells what it was written for.
* **`Decoder.decode_encodeArguments`** — decoding what was written for the arguments of a statement
  ends well, and the destination holds them.
-/

namespace QueryWire

/-! ## All types

The induction is on the type, together with the elements and the fields of its parts.  What bounds
the length of a payload bounds that of its parts, and the count of them, so that no length is cut
and none is taken for the one that stands for a missing part.
-/

mutual

/-- What is written for a type spells what it was written for. -/
theorem spells_buildPlain (d : Descriptor) (hexplicit : d.IsExplicit) {p q : Path}
    {encoder : Encoder} (hencoder : Encoder.buildAt d p = .ok encoder) {v : Argument}
    {bytes : Bytes} (hbytes : encoder.encode q v = .ok bytes)
    (hlength : bytes.length < missingLength) (place : Path) :
    Spells (fun shape => Decoder.buildPlain d shape place) bytes v := by
  cases d with
  | baseScalar id =>
    obtain ⟨kind, hkind, rfl⟩ := Except.bind_pure_eq_ok.1 hencoder
    exact spells_buildScalar hkind hbytes place
  | scalar id base =>
    obtain ⟨kind, hkind, rfl⟩ := Except.bind_pure_eq_ok.1 hencoder
    exact spells_buildScalar hkind hbytes place
  | enum id members =>
    cases hencoder
    exact spells_label hbytes place
  | tuple id elements =>
    obtain ⟨encoders, hencoders, rfl⟩ := Except.bind_pure_eq_ok.1 hencoder
    obtain ⟨items, payload, rfl, hitems, hpayload, rfl⟩ := encode_tuple_eq_ok hbytes
    rw [List.length_append, length_word] at hlength
    intro shape decoder hbuild hadmits path
    cases shape with
    | tuple shapes =>
      simp only [Decoder.buildPlain] at hbuild
      split at hbuild
      · rename_i hshapes
        obtain ⟨decoders, hdecoders, rfl⟩ := Except.bind_pure_eq_ok.1 hbuild
        -- The count that was written is the count that is expected.
        have hcount := Encoder.length_buildElements hencoders
        have hcount' := Decoder.length_buildElements hshapes hdecoders
        have hle := Encoder.le_length_encodeElements hitems hpayload
        have helements := yields_decodeElements elements hexplicit hencoders hitems hpayload
          (by omega) hdecoders hshapes hadmits path 0
        rw [hcount, ← hcount']
        exact yields_decodeAt_tuple id (by omega)
          (by rw [length_freshList, hshapes, hcount']) helements
      · cases hbuild
    | _ => cases hbuild
  | namedTuple id fields =>
    obtain ⟨encoders, hencoders, rfl⟩ := Except.bind_pure_eq_ok.1 hencoder
    intro shape decoder hbuild hadmits path
    cases shape with
    | record typeName shapes =>
      obtain ⟨decoders, hdecoders, rfl⟩ := Except.bind_pure_eq_ok.1 hbuild
      exact yields_decodeAt_record hbytes hlength hexplicit.1
        (Encoder.names_buildTupleFields hencoders)
        (by rw [Decoder.length_buildTupleFields hdecoders, List.length_map]) hadmits
        (fun given payload hpayload hshort hadmits taken parts hfilling =>
          yields_decodeTupleFields fields hexplicit.2 hencoders hpayload hshort hdecoders hadmits
            hfilling) path
    | _ => cases hbuild
  | object id fields =>
    obtain ⟨encoders, hencoders, rfl⟩ := Except.bind_pure_eq_ok.1 hencoder
    intro shape decoder hbuild hadmits path
    cases shape with
    | record typeName shapes =>
      obtain ⟨decoders, hdecoders, rfl⟩ := Except.bind_pure_eq_ok.1 hbuild
      exact yields_decodeAt_record hbytes hlength hexplicit.1
        (Encoder.names_buildObjectFields hexplicit.2 hencoders)
        (by rw [Decoder.length_buildObjectFields hdecoders, List.length_map]) hadmits
        (fun given payload hpayload hshort hadmits taken parts hfilling =>
          yields_decodeObjectFields fields hexplicit.2 hencoders hpayload hshort hdecoders hadmits
            hfilling) path
    | _ => cases hbuild
  | array id element dimensions =>
    obtain ⟨encoder, helement, rfl⟩ := Except.bind_pure_eq_ok.1 hencoder
    intro shape decoder hbuild hadmits path
    cases shape with
    | sequence inner =>
      obtain ⟨decoder, hinner, rfl⟩ := Except.bind_pure_eq_ok.1 hbuild
      exact yields_decodeAt_sequence hbytes hlength
        (fun item payload hpayload hshort =>
          spells_buildPlain element hexplicit helement hpayload hshort place.element)
        hinner hadmits path
    | _ => cases hbuild
  | set id element =>
    obtain ⟨encoder, helement, rfl⟩ := Except.bind_pure_eq_ok.1 hencoder
    rw [encode_set] at hbytes
    intro shape decoder hbuild hadmits path
    cases shape with
    | sequence inner =>
      obtain ⟨decoder, hinner, rfl⟩ := Except.bind_pure_eq_ok.1 hbuild
      rw [decodeAt_set]
      exact yields_decodeAt_sequence hbytes hlength
        (fun item payload hpayload hshort =>
          spells_buildPlain element hexplicit helement hpayload hshort place.element)
        hinner hadmits path
    | _ => cases hbuild
  | remark id tag text => cases hencoder

/-- What is written for the elements of a tuple fills them all. -/
theorem yields_decodeElements (elements : List Descriptor)
    (hexplicit : Descriptor.AreExplicit elements) {p q place : Path} {i j k : Nat}
    {encoders : List Encoder} (hencoders : Encoder.buildElements elements p i = .ok encoders)
    {items : List Argument} (hitems : items.length = encoders.length) {bytes : Bytes}
    (hbytes : Encoder.encodeElements encoders q j items = .ok bytes)
    (hlength : bytes.length < missingLength) {shapes : List Shape} {decoders : List Decoder}
    (hdecoders : Decoder.buildElements elements shapes place k = .ok decoders)
    (hshapes : shapes.length = elements.length) (hadmits : Shape.AdmitsList shapes items)
    (path : Path) (l : Nat) :
    (Decoder.decodeElements decoders path l bytes (Shape.freshList shapes)).Yields
      (Shape.holdingList shapes items) := by
  cases elements with
  | nil =>
    cases hencoders
    cases hdecoders
    obtain rfl := List.length_eq_zero_iff.1 hshapes
    obtain rfl := List.length_eq_zero_iff.1 hitems
    exact ⟨rfl, _, rfl⟩
  | cons element elements =>
    obtain ⟨encoder, encoders, hencoder, hencodes, rfl⟩ := Except.bind_bind_pure_eq_ok.1 hencoders
    cases shapes with
    | nil => cases hshapes
    | cons shape shapes =>
      cases items with
      | nil => cases hitems
      | cons item items =>
        obtain ⟨decoder, decoders, hdecoder, hdecodes, rfl⟩ := Except.bind_bind_pure_eq_ok.1 hdecoders
        obtain ⟨first, others, hfirst, hothers, rfl⟩ := Except.bind_bind_pure_eq_ok.1 hbytes
        rw [List.length_append] at hlength
        exact yields_decodeElements_cons hdecoder hfirst (by omega)
          (fun payload hpayload hshort => spells_throughOptionals (isNothing_of_encode hpayload)
            (spells_buildPlain element hexplicit.1 hencoder hpayload hshort _))
          hadmits.1
          (yields_decodeElements elements hexplicit.2 hencodes (Nat.succ.inj hitems) hothers
            (by omega) hdecodes (Nat.succ.inj hshapes) hadmits.2 path (l + 1))

/-- What is written for the fields of a named tuple fills a record. -/
theorem yields_decodeTupleFields (fields : List TupleField)
    (hexplicit : Descriptor.AreExplicitTuple fields) {p q place : Path}
    {encoders : List (String × Encoder)}
    (hencoders : Encoder.buildTupleFields fields p = .ok encoders)
    {given : List (String × Argument)} {bytes : Bytes}
    (hbytes : Encoder.encodeFields encoders q given = .ok bytes)
    (hlength : bytes.length < missingLength) {typeName : String} {shapes : List (String × Shape)}
    {decoders : List FieldDecoder}
    (hdecoders : Decoder.buildTupleFields fields typeName shapes place = .ok decoders)
    (hadmits : Shape.AdmitsFields shapes given) {taken : List Nat} {parts : List Slot}
    (hfilling : Filling shapes given (fields.map TupleField.name) taken parts) (path : Path) :
    (Decoder.decodeFields decoders path taken bytes parts).Yields
      (Shape.holdingFields shapes given) := by
  cases fields with
  | nil =>
    cases hencoders
    cases hdecoders
    exact ⟨hfilling.eq_holdingFields, _, rfl⟩
  | cons field fields =>
    cases field with
    | mk name type =>
      obtain ⟨encoder, encoders, hencoder, hencodes, rfl⟩ := Except.bind_bind_pure_eq_ok.1 hencoders
      obtain ⟨decoder, decoders, hdecoder, hdecodes, rfl⟩ := Except.bind_bind_pure_eq_ok.1 hdecoders
      obtain ⟨index, shape, decoder, hfind, hbuild, rfl⟩ := buildField_eq_ok rfl hdecoder
      simp only [Encoder.encodeFields] at hbytes
      split at hbytes
      · cases hbytes
      · rename_i item hitem
        obtain ⟨first, others, hfirst, hothers, rfl⟩ := Except.bind_bind_pure_eq_ok.1 hbytes
        rw [List.length_append] at hlength
        exact yields_decodeFields_cons hfilling hfind hitem hbuild hfirst (by omega)
          (fun payload hpayload hshort => spells_throughOptionals (isNothing_of_encode hpayload)
            (spells_buildPlain type hexplicit.1 hencoder hpayload hshort _))
          hadmits
          (fun taken parts hfilling => yields_decodeTupleFields fields hexplicit.2 hencodes hothers
            (by omega) hdecodes hadmits hfilling path)

/-- What is written for the fields of an object fills a record. -/
theorem yields_decodeObjectFields (fields : List ObjectField)
    (hexplicit : Descriptor.AreExplicitObject fields) {p q place : Path}
    {encoders : List (String × Encoder)}
    (hencoders : Encoder.buildObjectFields fields p = .ok encoders)
    {given : List (String × Argument)} {bytes : Bytes}
    (hbytes : Encoder.encodeFields encoders q given = .ok bytes)
    (hlength : bytes.length < missingLength) {typeName : String} {shapes : List (String × Shape)}
    {decoders : List FieldDecoder}
    (hdecoders : Decoder.buildObjectFields fields typeName shapes place = .ok decoders)
    (hadmits : Shape.AdmitsFields shapes given) {taken : List Nat} {parts : List Slot}
    (hfilling : Filling shapes given (fields.map ObjectField.name) taken parts) (path : Path) :
    (Decoder.decodeFields decoders path taken bytes parts).Yields
      (Shape.holdingFields shapes given) := by
  cases fields with
  | nil =>
    cases hencoders
    cases hdecoders
    exact ⟨hfilling.eq_holdingFields, _, rfl⟩
  | cons field fields =>
    cases field with
    | mk name flags cardinality type =>
      obtain ⟨himplicit, htype, hfields⟩ := hexplicit
      simp only [Encoder.buildObjectFields] at hencoders
      rw [himplicit, if_neg Bool.false_ne_true] at hencoders
      split at hencoders
      · cases hencoders
      · obtain ⟨encoder, encoders, hencoder, hencodes, rfl⟩ := Except.bind_bind_pure_eq_ok.1 hencoders
        obtain ⟨decoder, decoders, hdecoder, hdecodes, rfl⟩ := Except.bind_bind_pure_eq_ok.1 hdecoders
        obtain ⟨index, shape, decoder, hfind, hbuild, rfl⟩ := buildField_eq_ok himplicit hdecoder
        simp only [Encoder.encodeFields] at hbytes
        split at hbytes
        · cases hbytes
        · rename_i item hitem
          obtain ⟨first, others, hfirst, hothers, rfl⟩ := Except.bind_bind_pure_eq_ok.1 hbytes
          rw [List.length_append] at hlength
          exact yields_decodeFields_cons hfilling hfind hitem hbuild hfirst (by omega)
            (fun payload hpayload hshort => spells_throughOptionals (isNothing_of_encode hpayload)
              (spells_buildPlain type htype hencoder hpayload hshort _))
            hadmits
            (fun taken parts hfilling => yields_decodeObjectFields fields hfields hencodes hothers
              (by omega) hdecodes hadmits hfilling path)

end

/-! ## The arguments of a statement -/

/-- A statement encodes what it takes for its argument. -/
lemma encodeArguments_eq {d : Descriptor} {encoder : Encoder}
    (hencoder : Encoder.build d = .ok encoder) (v : Argument) :
    encoder.encodeArguments v = encoder.encode .arguments (v.taken d) := by
  cases d with
  | tuple id elements =>
    cases elements with
    | nil =>
      cases hencoder
      cases v <;> rfl
    | cons element elements =>
      obtain ⟨encoders, hencoders, rfl⟩ := Except.bind_pure_eq_ok.1 hencoder
      obtain ⟨_, _, _, _, rfl⟩ := Except.bind_bind_pure_eq_ok.1 hencoders
      rfl
  | enum id members =>
    cases hencoder
    rfl
  | remark id tag text => cases hencoder
  | _ =>
    obtain ⟨_, _, rfl⟩ := Except.bind_pure_eq_ok.1 hencoder
    rfl

/-- **Round trip.**  What is written for the arguments of a statement, if it is shorter than the
length that stands for a missing part, is read into a fresh destination of any shape that fits the
type; reading ends well, and the destination holds the arguments. -/
theorem Decoder.decode_encodeArguments {d : Descriptor} (hexplicit : d.IsExplicit) {shape : Shape}
    {encoder : Encoder} (hencoder : Encoder.build d = .ok encoder) {decoder : Decoder}
    (hdecoder : Decoder.build d shape = .ok decoder) {v : Argument} {bytes : Bytes}
    (hbytes : encoder.encodeArguments v = .ok bytes) (hlength : bytes.length < missingLength)
    (hadmits : shape.Admits (v.taken d)) :
    (decoder.decode bytes shape.fresh).Yields (shape.holding (v.taken d)) := by
  rw [encodeArguments_eq hencoder] at hbytes
  have hspells := spells_throughOptionals (isNothing_of_encode hbytes)
    (spells_buildPlain d hexplicit hencoder hbytes hlength .result)
  exact hspells shape decoder hdecoder hadmits .result

namespace Nested

/-- An object with a number that may be missing, and with times that have labels. -/
def type : Descriptor :=
  .object (Uuid.ofNat 0xA1) [
    .mk "size" ⟨0⟩ .atMostOne (.baseScalar ScalarKind.int64.id),
    .mk "times" ⟨0⟩ .one (.array (Uuid.ofNat 0xA2)
      (.tuple (Uuid.ofNat 0xA3) [.baseScalar ScalarKind.str.id, .baseScalar ScalarKind.localTime.id])
      [-1])]

/-- A record for it: the fields stand in another order, and there is one more. -/
def shape : Shape :=
  .record "Row" [
    ("times", .sequence (.tuple [.optional .dropping (.scalar .str), .scalar .localTime])),
    ("note", .scalar .str),
    ("size", .optional .keeping (.scalar .int64))]

/-- An argument without number and with an empty label. -/
def argument : Argument :=
  .named [
    ("times", .array [.tuple [.scalar (.str ""),
      .scalar (.localTime ⟨1, 1999, by decide, by decide⟩)]]),
    ("size", .nothing)]

/-- The encoder for the type. -/
def encoder : Encoder :=
  .namedTuple (Uuid.ofNat 0xA1) [
    ("size", .scalar ScalarKind.int64.id .int64),
    ("times", .array (Uuid.ofNat 0xA2) (.tuple (Uuid.ofNat 0xA3)
      [.scalar ScalarKind.str.id .str, .scalar ScalarKind.localTime.id .localTime]))]

/-- The decoder of the type for the record. -/
def decoder : Decoder :=
  .object (Uuid.ofNat 0xA1) [
    .bound "size" 2 (.optional (.scalar ScalarKind.int64.id .int64)),
    .bound "times" 0 (.array (Uuid.ofNat 0xA2) (.tuple (Uuid.ofNat 0xA3)
      [.optional (.scalar ScalarKind.str.id .str), .scalar ScalarKind.localTime.id .localTime]))]

/-- What is written for the pair of a label and a time. -/
def pairBytes : Bytes :=
  word 2 ++ (word 0 ++ Bytes.prefixed [])
    ++ (word 0 ++ Bytes.prefixed [0, 0, 0, 0, 0, 0x0F, 0x42, 0x41])

/-- What is written for the argument. -/
def bytes : Bytes :=
  word 2 ++ (word 0 ++ word missingLength)
    ++ (word 0 ++ Bytes.prefixed (arrayBytes [pairBytes.prefixed]))

/-- The record holds the argument: the label is there, the time is cut to microseconds. -/
theorem decode_encodeArguments_nested :
    type.IsExplicit ∧ Encoder.build type = .ok encoder ∧ Decoder.build type shape = .ok decoder
      ∧ encoder.encodeArguments argument = .ok bytes ∧ bytes.length < missingLength
      ∧ shape.Admits (argument.taken type)
      ∧ (decoder.decode bytes shape.fresh).Yields (.record [
        .sequence (.tuple [.optional .dropping (.scalar .str), .scalar .localTime]) [
          .record [.option (.scalar .str) (some (.scalar (.str ""))),
            .scalar (.localTime ⟨1, 1000, by decide, by decide⟩)]],
        .scalar (.str ""),
        .flagged false (.scalar (.int64 0))]) := by
  have hexplicit : type.IsExplicit :=
    ⟨by decide, rfl, trivial, rfl, ⟨trivial, trivial, trivial⟩, trivial⟩
  have hadmits : shape.Admits (argument.taken type) := by
    refine ⟨fun item h => ?_, fun item h => ?_, fun item h => ?_, trivial⟩
    · cases h
      intro pair hpair
      obtain rfl := List.mem_singleton.1 hpair
      exact ⟨.inr trivial, (by decide : 1999 < 1000000000), trivial⟩
    · cases h
    · cases h
      exact .inl rfl
  refine ⟨hexplicit, rfl, rfl, rfl, by decide, hadmits, ?_⟩
  exact Decoder.decode_encodeArguments hexplicit rfl rfl (rfl : encoder.encodeArguments argument = .ok bytes)
    (by decide) hadmits

end Nested

end QueryWire
