import QueryWire.Codec.Build
import QueryWire.Proofs.Codec.Payload
import QueryWire.Proofs.Descriptor.Parser

/-!
# Errors of building and errors of decoding

Types that cannot be read, or of which no codec can be built, are refused with an error about types;
arguments that do not fit the codec with a mismatch; and a result that cannot be decoded with an
error about data.  The first and the last have nothing in common.

* `Error.IsMisfit` — the errors about types.
* **`DescriptorPair.isMisfit_of_parse`**, **`Codec.isMisfit_of_build`** — reading types and building
  a codec fail only with these.
* **`Encoder.isMismatch_of_encodeArguments`** — encoding fails only with mismatches.
* `Error.IsOfValue` — the errors about a value, none of which is about types.
* **`Decoder.isOfValue_of_decode`** — decoding fails only with these.
-/

namespace QueryWire

/-- An error about types that are malformed or do not fit each other. -/
def Error.IsMisfit : Error → Prop
  | .descriptor _ => True
  | .codecMismatch _ (.incompatible _ _) | .codecMismatch _ (.noSuchField _ _)
  | .codecMismatch _ (.mayBeMissing _) => True
  | _ => False

/-! ## Reading types -/

lemma Error.IsDescription.isMisfit {e : Error} (h : e.IsDescription) : e.IsMisfit := by
  cases e <;> first | exact h.elim | trivial

namespace Descriptor

lemma isMisfit_of_parse {stream : Bytes} {e : Error} (h : parse stream = .error e) : e.IsMisfit :=
  (isDescription_of_parse h).isMisfit

lemma isMisfit_of_checkRoot {side : Side} {declared : Uuid} {stream : Bytes} {type : Descriptor}
    {e : Error} (h : checkRoot side declared stream type = .error e) : e.IsMisfit := by
  simp only [checkRoot] at h
  split at h <;> cases h
  trivial

end Descriptor

/-- **Types that cannot be read** are refused with an error about types. -/
theorem DescriptorPair.isMisfit_of_parse {types : StatementTypes} {e : Error}
    (h : DescriptorPair.parse types = .error e) : e.IsMisfit := by
  rcases Except.bind_eq_error.1 h with h | ⟨input, _, h⟩
  · exact Descriptor.isMisfit_of_parse h
  rcases Except.bind_eq_error.1 h with h | ⟨output, _, h⟩
  · exact Descriptor.isMisfit_of_parse h
  rcases Except.bind_eq_error.1 h with h | ⟨_, _, h⟩
  · exact Descriptor.isMisfit_of_checkRoot h
  rcases Except.bind_eq_error.1 h with h | ⟨_, _, h⟩
  · exact Descriptor.isMisfit_of_checkRoot h
  · cases h

/-! ## Building -/

lemma isMisfit_of_scalarKind {d : Descriptor} {path : Path} {e : Error}
    (h : d.scalarKind path = .error e) : e.IsMisfit := by
  simp only [Descriptor.scalarKind] at h
  split at h
  · cases h
  · cases h
    trivial

namespace Encoder

mutual

theorem isMisfit_of_buildAt (d : Descriptor) (path : Path) (e : Error)
    (h : buildAt d path = .error e) : e.IsMisfit := by
  cases d with
  | baseScalar id =>
    rcases Except.bind_eq_error.1 h with h | ⟨_, _, h⟩
    · exact isMisfit_of_scalarKind h
    · cases h
  | scalar id base =>
    rcases Except.bind_eq_error.1 h with h | ⟨_, _, h⟩
    · exact isMisfit_of_scalarKind h
    · cases h
  | enum id members => cases h
  | tuple id elements =>
    rcases Except.bind_eq_error.1 h with h | ⟨_, _, h⟩
    · exact isMisfit_of_buildElements elements _ _ e h
    · cases h
  | namedTuple id fields =>
    rcases Except.bind_eq_error.1 h with h | ⟨_, _, h⟩
    · exact isMisfit_of_buildTupleFields fields _ e h
    · cases h
  | object id fields =>
    rcases Except.bind_eq_error.1 h with h | ⟨_, _, h⟩
    · exact isMisfit_of_buildObjectFields fields _ e h
    · cases h
  | array id element dimensions =>
    rcases Except.bind_eq_error.1 h with h | ⟨_, _, h⟩
    · exact isMisfit_of_buildAt element _ e h
    · cases h
  | set id element =>
    rcases Except.bind_eq_error.1 h with h | ⟨_, _, h⟩
    · exact isMisfit_of_buildAt element _ e h
    · cases h
  | remark id tag text =>
    cases h
    trivial

theorem isMisfit_of_buildElements (elements : List Descriptor) (path : Path) (i : Nat) (e : Error)
    (h : buildElements elements path i = .error e) : e.IsMisfit := by
  cases elements with
  | nil => cases h
  | cons element elements =>
    rcases Except.bind_eq_error.1 h with h | ⟨_, _, h⟩
    · exact isMisfit_of_buildAt element _ e h
    · rcases Except.bind_eq_error.1 h with h | ⟨_, _, h⟩
      · exact isMisfit_of_buildElements elements _ _ e h
      · cases h

theorem isMisfit_of_buildTupleFields (fields : List TupleField) (path : Path) (e : Error)
    (h : buildTupleFields fields path = .error e) : e.IsMisfit := by
  cases fields with
  | nil => cases h
  | cons field fields =>
    cases field with
    | mk name type =>
      rcases Except.bind_eq_error.1 h with h | ⟨_, _, h⟩
      · exact isMisfit_of_buildAt type _ e h
      · rcases Except.bind_eq_error.1 h with h | ⟨_, _, h⟩
        · exact isMisfit_of_buildTupleFields fields _ e h
        · cases h

theorem isMisfit_of_buildObjectFields (fields : List ObjectField) (path : Path) (e : Error)
    (h : buildObjectFields fields path = .error e) : e.IsMisfit := by
  cases fields with
  | nil => cases h
  | cons field fields =>
    cases field with
    | mk name flags cardinality type =>
      simp only [buildObjectFields] at h
      split at h
      · exact isMisfit_of_buildObjectFields fields _ e h
      · split at h
        · cases h
          trivial
        · rcases Except.bind_eq_error.1 h with h | ⟨_, _, h⟩
          · exact isMisfit_of_buildAt type _ e h
          · rcases Except.bind_eq_error.1 h with h | ⟨_, _, h⟩
            · exact isMisfit_of_buildObjectFields fields _ e h
            · cases h

end

end Encoder

namespace Decoder

lemma isMisfit_of_throughOptionals (shape : Shape) {build : Shape → Except Error Decoder}
    (hbuild : ∀ shape e, build shape = .error e → e.IsMisfit) {e : Error}
    (h : throughOptionals shape build = .error e) : e.IsMisfit := by
  induction shape, build using throughOptionals.induct with
  | case1 wrapper inner build ih =>
    rw [throughOptionals] at h
    exact ih hbuild (Except.map_eq_error.1 h)
  | case2 shape build hshape =>
    rw [throughOptionals.eq_2 shape build hshape] at h
    exact hbuild shape e h

lemma isMisfit_of_buildScalar {d : Descriptor} {shape : Shape} {path : Path} {e : Error}
    (h : buildScalar d shape path = .error e) : e.IsMisfit := by
  rcases Except.bind_eq_error.1 h with h | ⟨kind, _, h⟩
  · exact isMisfit_of_scalarKind h
  · split at h
    · split at h <;> cases h
      trivial
    · cases h
      trivial

lemma isMisfit_of_buildField {field : WireField} {typeName : String}
    {fields : List (String × Shape)} {path : Path} {build : Shape → Except Error Decoder}
    (hbuild : ∀ shape e, build shape = .error e → e.IsMisfit) {e : Error}
    (h : buildField field typeName fields path build = .error e) : e.IsMisfit := by
  simp only [buildField] at h
  split at h
  · rcases Except.bind_eq_error.1 h with h | ⟨_, _, h⟩
    · exact hbuild _ e h
    · simp only [bindField] at h
      split at h <;> cases h
      trivial
  · split at h <;> cases h
    trivial

mutual

theorem isMisfit_of_buildPlain (d : Descriptor) (shape : Shape) (path : Path) (e : Error)
    (h : buildPlain d shape path = .error e) : e.IsMisfit := by
  cases d with
  | baseScalar id => exact isMisfit_of_buildScalar h
  | scalar id base => exact isMisfit_of_buildScalar h
  | enum id members =>
    simp only [buildPlain] at h
    split at h <;> cases h
    trivial
  | object id fields =>
    simp only [buildPlain] at h
    split at h
    · rcases Except.bind_eq_error.1 h with h | ⟨_, _, h⟩
      · exact isMisfit_of_buildObjectFields fields _ _ _ e h
      · cases h
    · cases h
      trivial
  | namedTuple id fields =>
    simp only [buildPlain] at h
    split at h
    · rcases Except.bind_eq_error.1 h with h | ⟨_, _, h⟩
      · exact isMisfit_of_buildTupleFields fields _ _ _ e h
      · cases h
    · cases h
      trivial
  | tuple id elements =>
    simp only [buildPlain] at h
    split at h
    · split at h
      · rcases Except.bind_eq_error.1 h with h | ⟨_, _, h⟩
        · exact isMisfit_of_buildElements elements _ _ _ e h
        · cases h
      · cases h
        trivial
    · cases h
      trivial
  | array id element dimensions =>
    simp only [buildPlain] at h
    split at h
    · rcases Except.bind_eq_error.1 h with h | ⟨_, _, h⟩
      · exact isMisfit_of_throughOptionals _
          (fun shape e h => isMisfit_of_buildPlain element shape _ e h) h
      · cases h
    · cases h
      trivial
  | set id element =>
    simp only [buildPlain] at h
    split at h
    · rcases Except.bind_eq_error.1 h with h | ⟨_, _, h⟩
      · exact isMisfit_of_throughOptionals _
          (fun shape e h => isMisfit_of_buildPlain element shape _ e h) h
      · cases h
    · cases h
      trivial
  | remark id tag text =>
    cases h
    trivial

theorem isMisfit_of_buildObjectFields (fields : List ObjectField) (typeName : String)
    (shapes : List (String × Shape)) (path : Path) (e : Error)
    (h : buildObjectFields fields typeName shapes path = .error e) : e.IsMisfit := by
  cases fields with
  | nil => cases h
  | cons field fields =>
    cases field with
    | mk name flags cardinality type =>
      rcases Except.bind_eq_error.1 h with h | ⟨_, _, h⟩
      · exact isMisfit_of_buildField (fun shape e h => isMisfit_of_throughOptionals shape
          (fun shape e h => isMisfit_of_buildPlain type shape _ e h) h) h
      · rcases Except.bind_eq_error.1 h with h | ⟨_, _, h⟩
        · exact isMisfit_of_buildObjectFields fields _ _ _ e h
        · cases h

theorem isMisfit_of_buildTupleFields (fields : List TupleField) (typeName : String)
    (shapes : List (String × Shape)) (path : Path) (e : Error)
    (h : buildTupleFields fields typeName shapes path = .error e) : e.IsMisfit := by
  cases fields with
  | nil => cases h
  | cons field fields =>
    cases field with
    | mk name type =>
      rcases Except.bind_eq_error.1 h with h | ⟨_, _, h⟩
      · exact isMisfit_of_buildField (fun shape e h => isMisfit_of_throughOptionals shape
          (fun shape e h => isMisfit_of_buildPlain type shape _ e h) h) h
      · rcases Except.bind_eq_error.1 h with h | ⟨_, _, h⟩
        · exact isMisfit_of_buildTupleFields fields _ _ _ e h
        · cases h

theorem isMisfit_of_buildElements (elements : List Descriptor) (shapes : List Shape) (path : Path)
    (i : Nat) (e : Error) (h : buildElements elements shapes path i = .error e) : e.IsMisfit := by
  cases elements with
  | nil => cases h
  | cons element elements =>
    cases shapes with
    | nil => cases h
    | cons shape shapes =>
      rcases Except.bind_eq_error.1 h with h | ⟨_, _, h⟩
      · exact isMisfit_of_throughOptionals _
          (fun shape e h => isMisfit_of_buildPlain element shape _ e h) h
      · rcases Except.bind_eq_error.1 h with h | ⟨_, _, h⟩
        · exact isMisfit_of_buildElements elements _ _ _ e h
        · cases h

end

end Decoder

/-- **A codec that cannot be built** is refused with an error about types. -/
theorem Codec.isMisfit_of_build {pair : DescriptorPair} {shape : Shape} {e : Error}
    (h : Codec.build pair shape = .error e) : e.IsMisfit := by
  rcases Except.bind_eq_error.1 h with h | ⟨_, _, h⟩
  · exact Encoder.isMisfit_of_buildAt _ _ e h
  · rcases Except.bind_eq_error.1 h with h | ⟨_, _, h⟩
    · exact Decoder.isMisfit_of_throughOptionals _
        (fun shape e h => Decoder.isMisfit_of_buildPlain _ shape _ e h) h
    · cases h

/-! ## Encoding -/

/-- An error about two things that ought to fit each other and do not. -/
def Error.IsMismatch : Error → Prop
  | .codecMismatch _ _ => True
  | _ => False

namespace Encoder

lemma isMismatch_of_encodeScalar {kind : ScalarKind} {path : Path} {argument : Argument} {e : Error}
    (h : encodeScalar kind path argument = .error e) : e.IsMismatch := by
  simp only [encodeScalar] at h
  split at h
  · split at h
    · split at h <;> cases h
      trivial
    · split at h <;> cases h
      trivial
  · cases h
    trivial

lemma isMismatch_of_encodeLabel {members : List String} {path : Path} {argument : Argument}
    {e : Error} (h : encodeLabel members path argument = .error e) : e.IsMismatch := by
  simp only [encodeLabel] at h
  split at h
  · cases h
    trivial
  · split at h <;> cases h
    trivial

lemma isMismatch_of_encodeElement {encode : Argument → Except Error Bytes}
    (hencode : ∀ item e, encode item = .error e → e.IsMismatch) {item : Argument} {e : Error}
    (h : encodeElement encode item = .error e) : e.IsMismatch := by
  simp only [encodeElement] at h
  split at h
  · cases h
  · exact hencode item e (Except.map_eq_error.1 h)

/-- Items of an array are refused for what they are, or because one of them is missing. -/
lemma isMismatch_of_encodeItems {path : Path} {encode : Argument → Except Error Bytes}
    (hencode : ∀ item e, encode item = .error e → e.IsMismatch) {items : List Argument} {e : Error}
    (h : (items.mapM (encodeItem path encode)).map arrayBytes = .error e) : e.IsMismatch := by
  obtain ⟨item, _, h⟩ := Except.exists_of_mapM_eq_error (Except.map_eq_error.1 h)
  simp only [encodeItem] at h
  split at h
  · cases h
    trivial
  · exact hencode item e (Except.map_eq_error.1 h)

mutual

theorem isMismatch_of_encode (encoder : Encoder) (path : Path) (argument : Argument) (e : Error)
    (h : encode encoder path argument = .error e) : e.IsMismatch := by
  cases encoder with
  | scalar id kind => exact isMismatch_of_encodeScalar h
  | enum id members => exact isMismatch_of_encodeLabel h
  | tuple id elements =>
    simp only [encode] at h
    split at h
    · split at h
      · exact isMismatch_of_encodeElements elements _ _ _ e (Except.map_eq_error.1 h)
      · cases h
        trivial
    · cases h
      trivial
  | namedTuple id fields =>
    simp only [encode] at h
    split at h
    · split at h
      · cases h
        trivial
      · exact isMismatch_of_encodeFields fields _ _ e (Except.map_eq_error.1 h)
    · cases h
      trivial
  | array id element =>
    simp only [encode] at h
    split at h
    · exact isMismatch_of_encodeItems (fun item e h => isMismatch_of_encode element _ item e h) h
    · cases h
      trivial
  | set id element =>
    simp only [encode] at h
    split at h
    · exact isMismatch_of_encodeItems (fun item e h => isMismatch_of_encode element _ item e h) h
    · cases h
      trivial

theorem isMismatch_of_encodeElements (encoders : List Encoder) (path : Path) (i : Nat)
    (items : List Argument) (e : Error) (h : encodeElements encoders path i items = .error e) :
    e.IsMismatch := by
  cases encoders with
  | nil => cases items <;> cases h
  | cons encoder encoders =>
    cases items with
    | nil => cases h
    | cons item items =>
      rcases Except.bind_eq_error.1 h with h | ⟨_, _, h⟩
      · exact isMismatch_of_encodeElement
          (fun item e h => isMismatch_of_encode encoder _ item e h) h
      · rcases Except.bind_eq_error.1 h with h | ⟨_, _, h⟩
        · exact isMismatch_of_encodeElements encoders _ _ items e h
        · cases h

theorem isMismatch_of_encodeFields (fields : List (String × Encoder)) (path : Path)
    (given : List (String × Argument)) (e : Error) (h : encodeFields fields path given = .error e) :
    e.IsMismatch := by
  cases fields with
  | nil => cases h
  | cons field fields =>
    cases field with
    | mk name encoder =>
      simp only [encodeFields] at h
      split at h
      · cases h
        trivial
      · rcases Except.bind_eq_error.1 h with h | ⟨_, _, h⟩
        · exact isMismatch_of_encodeElement
            (fun item e h => isMismatch_of_encode encoder _ item e h) h
        · rcases Except.bind_eq_error.1 h with h | ⟨_, _, h⟩
          · exact isMismatch_of_encodeFields fields _ _ e h
          · cases h

end

/-- **Arguments that cannot be encoded** are refused with a mismatch. -/
theorem isMismatch_of_encodeArguments {encoder : Encoder} {arguments : Argument} {e : Error}
    (h : encoder.encodeArguments arguments = .error e) : e.IsMismatch := by
  simp only [encodeArguments] at h
  split at h
  · cases h
  · exact isMismatch_of_encode _ _ _ e h

end Encoder

/-! ## Decoding -/

/-- An error that is not about types. -/
abbrev Error.IsFit (e : Error) : Prop := ¬ e.IsMisfit

/-- An error about a value: it does not divide into its parts, or does not fit the destination. -/
def Error.IsOfValue : Error → Prop
  | .framing _ | .countMismatch _ _ => True
  | .codecMismatch path cause => (Error.codecMismatch path cause).IsFit
  | _ => False

lemma Error.IsOfValue.isFit {e : Error} (h : e.IsOfValue) : e.IsFit := by
  cases e with
  | codecMismatch path cause => exact h
  | framing cause => exact id
  | countMismatch expected actual => exact id
  | _ => exact h.elim

section

open Reader

lemma Reader.IsFraming.isOfValue {e : Error} (h : IsFraming e) : e.IsOfValue := by
  cases e <;> first | exact h.elim | trivial

lemma isOfValue_readInto (path : Path) (wire destination : ScalarKind) :
    FailsWith Error.IsOfValue (readInto path wire destination) := by
  intro bytes e rest h
  rcases readInto_eq_error h with (hframing | ⟨what, rfl⟩) | ⟨-, rfl⟩
  · exact hframing.isOfValue
  · exact id
  · exact id

lemma isOfValue_readLabel (path : Path) (members : List String) :
    FailsWith Error.IsOfValue (Decoder.readLabel path members) := by
  intro bytes e rest h
  rcases Decoder.readLabel_eq_error h with ⟨-, rfl⟩ | ⟨label, -, -, rfl⟩
  · exact id
  · exact id

lemma isOfValue_sized : FailsWith Error.IsOfValue Element.sized :=
  fun _ _ _ h => (failsWith_framing_sized _ _ _ h).isOfValue

lemma isOfValue_element : FailsWith Error.IsOfValue Element.read :=
  fun _ _ _ h => (failsWith_framing_element _ _ _ h).isOfValue

lemma isOfValue_checkCount (expected : Nat) : FailsWith Error.IsOfValue (checkCount expected) := by
  intro bytes e rest h
  rcases checkCount_eq_error h with hcount | ⟨actual, _, -, -, rfl⟩
  · exact (failsWith_framing_nat 4 _ _ _ hcount).isOfValue
  · trivial

lemma isOfValue_readDimensions (path : Path) : FailsWith Error.IsOfValue (readDimensions path) := by
  intro bytes e rest h
  rcases readDimensions_eq_error h with hframing | ⟨dimensions, _, -, -, rfl⟩
  · exact hframing.isOfValue
  · exact id

end

/-- Every error of a decoding is about its value. -/
def Decoded.FailsOnValue {α : Type} (d : Decoded α) : Prop := ∀ e, d.result = .error e → e.IsOfValue

lemma failsOnValue_ok {α : Type} (contents : α) (rest : Bytes) :
    (Decoded.mk contents (.ok rest)).FailsOnValue := by
  intro e he
  cases he

lemma failsOnValue_fail {α : Type} {contents : α} {e : Error} (h : e.IsOfValue) :
    (Decoded.fail contents e).FailsOnValue := by
  intro e' he
  cases he
  exact h

lemma Decoded.FailsOnValue.map {α β : Type} {d : Decoded α} (h : d.FailsOnValue) (f : α → β) :
    (d.map f).FailsOnValue := h

lemma failsOnValue_decodeItems {item : Bytes → Decoded Slot} (hitem : ∀ bytes, (item bytes).FailsOnValue)
    (path : Path) (count : Nat) (done : List Slot) (bytes : Bytes) :
    (decodeItems item path count done bytes).FailsOnValue := by
  induction count generalizing done bytes with
  | zero => exact failsOnValue_ok _ _
  | succ count ih =>
    unfold decodeItems
    split
    · rename_i hread
      exact failsOnValue_fail (isOfValue_sized _ _ _ hread)
    · exact failsOnValue_fail id
    · dsimp only
      split
      · rename_i e he
        exact failsOnValue_fail (hitem _ e he)
      · exact ih _ _

namespace Decoder

lemma isOfValue_of_decodeMissingAt {decoder : Decoder} {path : Path} {slot slot' : Slot} {e : Error}
    (h : decoder.decodeMissingAt path slot = (slot', .error e)) : e.IsOfValue := by
  simp only [decodeMissingAt] at h
  split at h <;> cases h
  exact fun h => h

mutual

theorem failsOnValue_decodeAt (decoder : Decoder) (path : Path) (bytes : Bytes) (slot : Slot) :
    (decodeAt decoder path bytes slot).FailsOnValue := by
  cases decoder with
  | optional inner =>
    simp only [decodeAt]
    split
    · exact (failsOnValue_decodeAt inner path bytes _).map _
    · exact (failsOnValue_decodeAt inner path bytes _).map _
    · exact failsOnValue_fail fun h => h
  | scalar id kind =>
    simp only [decodeAt]
    split
    · split
      · exact failsOnValue_ok _ _
      · rename_i hread
        exact failsOnValue_fail (isOfValue_readInto _ _ _ _ _ _ hread)
    · exact failsOnValue_fail fun h => h
  | enum id members =>
    simp only [decodeAt]
    split
    · split
      · exact failsOnValue_ok _ _
      · rename_i hread
        exact failsOnValue_fail (isOfValue_readLabel _ _ _ _ _ hread)
    · exact failsOnValue_fail fun h => h
  | object id fields =>
    simp only [decodeAt]
    split
    · split
      · exact (failsOnValue_decodeFields fields path [] _ _).map _
      · rename_i hread
        exact failsOnValue_fail (isOfValue_checkCount _ _ _ _ hread)
    · exact failsOnValue_fail fun h => h
  | tuple id elements =>
    simp only [decodeAt]
    split
    · split
      · split
        · exact (failsOnValue_decodeElements elements path 0 _ _).map _
        · exact failsOnValue_fail trivial
      · rename_i hread
        exact failsOnValue_fail (isOfValue_checkCount _ _ _ _ hread)
    · exact failsOnValue_fail fun h => h
  | array id element =>
    simp only [decodeAt]
    split
    · split
      · rename_i hread
        exact failsOnValue_fail (isOfValue_readDimensions _ _ _ _ hread)
      · exact failsOnValue_ok _ _
      · exact (failsOnValue_decodeItems (fun _ => failsOnValue_decodeAt element _ _ _) _ _ _ _).map _
    · exact failsOnValue_fail fun h => h
  | set id element =>
    simp only [decodeAt]
    split
    · split
      · rename_i hread
        exact failsOnValue_fail (isOfValue_readDimensions _ _ _ _ hread)
      · exact failsOnValue_ok _ _
      · exact (failsOnValue_decodeItems (fun _ => failsOnValue_decodeAt element _ _ _) _ _ _ _).map _
    · exact failsOnValue_fail fun h => h

theorem failsOnValue_decodeFields (fields : List FieldDecoder) (path : Path) (taken : List Nat)
    (bytes : Bytes) (parts : List Slot) :
    (decodeFields fields path taken bytes parts).FailsOnValue := by
  cases fields with
  | nil => exact failsOnValue_ok _ _
  | cons field fields =>
    cases field with
    | skipped name =>
      simp only [decodeFields]
      split
      · rename_i hread
        exact failsOnValue_fail (isOfValue_element _ _ _ hread)
      · exact failsOnValue_decodeFields fields path taken _ parts
    | bound name index decoder =>
      unfold decodeFields
      split
      · rename_i hread
        exact failsOnValue_fail (isOfValue_element _ _ _ hread)
      · split
        · exact failsOnValue_fail fun h => h
        · split
          · exact failsOnValue_fail fun h => h
          · split
            · dsimp only
              split
              · rename_i e he
                exact failsOnValue_fail (failsOnValue_decodeAt decoder _ _ _ e he)
              · exact failsOnValue_decodeFields fields path _ _ _
            · split
              · exact failsOnValue_fail fun h => h
              · exact failsOnValue_decodeFields fields path _ _ _

theorem failsOnValue_decodeElements (elements : List Decoder) (path : Path) (i : Nat) (bytes : Bytes)
    (parts : List Slot) : (decodeElements elements path i bytes parts).FailsOnValue := by
  cases elements with
  | nil => cases parts <;> exact failsOnValue_ok _ _
  | cons decoder decoders =>
    cases parts with
    | nil => exact failsOnValue_ok _ _
    | cons slot slots =>
      unfold decodeElements
      split
      · rename_i hread
        exact failsOnValue_fail (isOfValue_element _ _ _ hread)
      · dsimp only
        split
        · rename_i e he
          exact failsOnValue_fail (failsOnValue_decodeAt decoder _ _ _ e he)
        · exact (failsOnValue_decodeElements decoders path (i + 1) _ _).map _
      · split
        · rename_i hmissing
          exact failsOnValue_fail (isOfValue_of_decodeMissingAt hmissing)
        · exact (failsOnValue_decodeElements decoders path (i + 1) _ _).map _

end

/-- **A result that cannot be decoded** is refused with an error about its value. -/
theorem isOfValue_of_decode {decoder : Decoder} {bytes : Bytes} {slot : Slot} {e : Error}
    (h : (decoder.decode bytes slot).result = .error e) : e.IsOfValue :=
  failsOnValue_decodeAt decoder _ bytes slot e h

end Decoder

end QueryWire
