import QueryWire.Codec.Decoder
import QueryWire.Proofs.Wire.Reader

/-!
# What is wrong with a payload

The errors of the readers that a decoder is made of, said exactly: what a reader of one value or
of one header finds wrong is wrong with the bytes.

* `Scalar.IsBadPayload` — the errors of reading a scalar.
* **`Scalar.failsWith_read`** — the payload of a scalar is refused with no others.
* `readInto_eq_error` — a destination that the scalar does not fit is the one error that is not
  about the bytes.
* `kind_of_readInto` — what is read is a value of the destination's type.
* `checkCount_eq_error`, `readDimensions_eq_error`, `Decoder.readLabel_eq_error` — the errors of a
  count, of the head of an array and of a label.
-/

namespace QueryWire

open Reader

/-! ## Scalars -/

namespace Scalar

/-- An error of the payload of a scalar: it cannot be divided, or it spells no value. -/
def IsBadPayload (path : Path) (kind : ScalarKind) (e : Error) : Prop :=
  IsFraming e ∨ ∃ what, e = badScalar path kind what

variable {path : Path} {kind : ScalarKind}

lemma isBadPayload_badScalar (what : BadScalar) :
    IsBadPayload path kind (badScalar path kind what) := .inr ⟨what, rfl⟩

lemma composes_badPayload :
    Composes (IsBadPayload path kind) (FailsWith (IsBadPayload path kind)) :=
  composes_failsWith fun _ _ => .inl trivial

lemma failsWith_readText : FailsWith (IsBadPayload path kind) (readText path kind) := by
  refine failsWith_rest.bind fun bytes => ?_
  split
  · exact failsWith_pure _
  · exact failsWith_throw (isBadPayload_badScalar _)

lemma failsWith_readJsonFormat : FailsWith (IsBadPayload path .json) (readJsonFormat path) := by
  refine composes_badPayload.u8.bind fun format => ?_
  split
  · exact failsWith_throw (isBadPayload_badScalar _)
  · exact failsWith_pure _

lemma failsWith_readJsonText : FailsWith (IsBadPayload path .json) (readJsonText path) :=
  failsWith_readJsonFormat.bind fun _ => failsWith_readText.bind fun _ => failsWith_pure _

lemma failsWith_readTimestamp : FailsWith (IsBadPayload path kind) (readTimestamp path kind) := by
  refine composes_badPayload.i64.bind fun micros => ?_
  split
  · exact failsWith_pure _
  · exact failsWith_throw (isBadPayload_badScalar _)

lemma failsWith_readNumeric :
    FailsWith (IsBadPayload path kind) (Numeric.read (badScalar path kind)) := by
  refine (composes_badPayload.nat 2).bind fun count => ?_
  refine composes_badPayload.i16.bind fun weight => ?_
  refine FailsWith.bind ?_ fun negative => ?_
  · refine composes_badPayload.u16.bind fun word => ?_
    split
    · exact failsWith_pure _
    · split
      · exact failsWith_pure _
      · exact failsWith_throw (isBadPayload_badScalar _)
  · refine composes_badPayload.u16.bind fun scale => ?_
    refine (composes_badPayload.list ?_ count).bind fun groups => failsWith_pure _
    refine (composes_badPayload.nat 2).bind fun group => ?_
    split
    · exact failsWith_pure _
    · exact failsWith_throw (isBadPayload_badScalar _)

/-- **The payload of a scalar** is refused only because of its own bytes. -/
theorem failsWith_read (path : Path) (kind : ScalarKind) :
    FailsWith (IsBadPayload path kind) (read path kind) := by
  cases kind with
  | uuid => exact composes_badPayload.uuid.bind fun _ => failsWith_pure _
  | str => exact failsWith_readText.bind fun _ => failsWith_pure _
  | bytes => exact failsWith_rest.bind fun _ => failsWith_pure _
  | int16 => exact composes_badPayload.i16.bind fun _ => failsWith_pure _
  | int32 => exact composes_badPayload.i32.bind fun _ => failsWith_pure _
  | int64 => exact composes_badPayload.i64.bind fun _ => failsWith_pure _
  | float32 => exact composes_badPayload.u32.bind fun _ => failsWith_pure _
  | float64 => exact composes_badPayload.u64.bind fun _ => failsWith_pure _
  | decimal =>
    refine FailsWith.bind ?_ fun _ => failsWith_pure _
    refine failsWith_readNumeric.bind fun n => ?_
    split
    · exact failsWith_pure _
    · exact failsWith_throw (isBadPayload_badScalar _)
  | bool =>
    refine FailsWith.bind ?_ fun _ => failsWith_pure _
    refine composes_badPayload.u8.bind fun byte => ?_
    split
    · exact failsWith_pure _
    · split
      · exact failsWith_pure _
      · exact failsWith_throw (isBadPayload_badScalar _)
  | datetime => exact failsWith_readTimestamp.bind fun _ => failsWith_pure _
  | localDatetime => exact failsWith_readTimestamp.bind fun _ => failsWith_pure _
  | localDate =>
    refine FailsWith.bind ?_ fun _ => failsWith_pure _
    refine composes_badPayload.i32.bind fun days => ?_
    split
    · exact failsWith_pure _
    · exact failsWith_throw (isBadPayload_badScalar _)
  | localTime =>
    refine FailsWith.bind ?_ fun _ => failsWith_pure _
    refine composes_badPayload.i64.bind fun micros => ?_
    dsimp only
    split
    · exact failsWith_pure _
    · exact failsWith_throw (isBadPayload_badScalar _)
  | duration =>
    refine FailsWith.bind ?_ fun _ => failsWith_pure _
    refine composes_badPayload.i64.bind fun micros =>
      composes_badPayload.i32.bind fun days =>
      composes_badPayload.i32.bind fun months => ?_
    dsimp only
    split
    · exact (failsWith_throw (isBadPayload_badScalar _)).bind fun _ => failsWith_pure _
    · exact failsWith_pure _
  | json =>
    refine FailsWith.bind ?_ fun _ => failsWith_pure _
    refine failsWith_readJsonFormat.bind fun _ => failsWith_rest.bind fun bytes => ?_
    split
    · exact failsWith_pure _
    · exact failsWith_throw (isBadPayload_badScalar _)
  | bigint =>
    refine FailsWith.bind ?_ fun _ => failsWith_pure _
    refine failsWith_readNumeric.bind fun n => ?_
    dsimp only
    split
    · refine (failsWith_throw (isBadPayload_badScalar _)).bind fun _ => ?_
      split
      · exact failsWith_pure _
      · exact failsWith_throw (isBadPayload_badScalar _)
    · split
      · exact failsWith_pure _
      · exact failsWith_throw (isBadPayload_badScalar _)
  | relativeDuration =>
    exact composes_badPayload.i64.bind fun _ => composes_badPayload.i32.bind fun _ =>
      composes_badPayload.i32.bind fun _ => failsWith_pure _

/-- What is read is a value of the type that was asked for. -/
lemma kind_of_read {value : Scalar} {bytes rest : Bytes}
    (h : read path kind bytes = .ok value rest) : value.kind = kind := by
  cases kind <;> obtain ⟨_, _, _, h⟩ := bind_eq_ok.1 h
  case relativeDuration =>
    obtain ⟨_, _, _, h⟩ := bind_eq_ok.1 h
    obtain ⟨_, _, _, h⟩ := bind_eq_ok.1 h
    cases h
    rfl
  all_goals
    cases h
    rfl

lemma kind_of_readJsonText {value : Scalar} {bytes rest : Bytes}
    (h : readJsonText path bytes = .ok value rest) : value.kind = .str := by
  obtain ⟨_, _, _, h⟩ := bind_eq_ok.1 h
  obtain ⟨_, _, _, h⟩ := bind_eq_ok.1 h
  cases h
  rfl

end Scalar

/-! ## A payload for a destination -/

section

variable {path : Path} {wire destination : ScalarKind} {bytes rest : Bytes}

/-- A payload is refused because of its bytes, or else because of the destination. -/
lemma readInto_eq_error {e : Error} (h : readInto path wire destination bytes = .error e rest) :
    Scalar.IsBadPayload path wire e ∨ (wire.fitsInto destination = false
      ∧ e = .codecMismatch path (.wrongSlot wire.name (.scalar destination))) := by
  simp only [readInto] at h
  split at h
  · exact .inl (Scalar.failsWith_read path wire _ _ _ h)
  · split at h
    · rename_i hjson
      obtain ⟨rfl, -⟩ := hjson
      exact .inl (Scalar.failsWith_readJsonText _ _ _ h)
    · rename_i hne hjson
      cases h
      refine .inr ⟨?_, rfl⟩
      simp only [ScalarKind.fitsInto, Bool.or_eq_false_iff, beq_eq_false_iff_ne, ne_eq,
        Bool.and_eq_false_imp, beq_iff_eq]
      exact ⟨hne, fun hwire hdestination => hjson ⟨hwire, hdestination⟩⟩

/-- What a destination is filled with is a value of its type. -/
lemma kind_of_readInto {value : Scalar}
    (h : readInto path wire destination bytes = .ok value rest) : value.kind = destination := by
  simp only [readInto] at h
  split at h
  · rename_i heq
    rw [Scalar.kind_of_read h, heq]
  · split at h
    · rename_i hjson
      rw [Scalar.kind_of_readJsonText h, hjson.2]
    · cases h

end

/-! ## Labels, counts and lengths -/

section

variable {bytes rest : Bytes} {e : Error}

/-- A label is refused when it is no text, or is not among the members. -/
lemma Decoder.readLabel_eq_error {path : Path} {members : List String}
    (h : readLabel path members bytes = .error e rest) :
    (Utf8.text? bytes = none ∧ e = .codecMismatch path .labelNotUtf8)
      ∨ ∃ label, Utf8.text? bytes = some label ∧ label ∉ members
        ∧ e = .codecMismatch path (.notAMember members label) := by
  rcases bind_eq_error.1 h with h | ⟨_, _, hrest, h⟩
  · cases h
  · cases hrest
    cases htext : Utf8.text? bytes with
    | none =>
      rw [htext] at h
      cases h
      exact .inl ⟨rfl, rfl⟩
    | some label =>
      simp only [htext] at h
      split at h
      · cases h
      · rename_i hmember
        cases h
        exact .inr ⟨label, rfl, fun hmem => hmember (List.contains_iff_mem.2 hmem), rfl⟩

/-- A count is refused when it is not there or not the expected one. -/
lemma checkCount_eq_error {expected : Nat} (h : checkCount expected bytes = .error e rest) :
    Reader.nat 4 bytes = .error e rest ∨ ∃ actual unread, Reader.nat 4 bytes = .ok actual unread ∧ actual ≠ expected
      ∧ e = .countMismatch expected actual := by
  rcases bind_eq_error.1 h with h | ⟨actual, unread, hactual, h⟩
  · exact .inl h
  · split at h
    · rename_i hne
      cases h
      exact .inr ⟨actual, _, hactual, bne_iff_ne.1 hne, rfl⟩
    · cases h

/-- The head of an array is refused when it has more than one dimension. -/
lemma readDimensions_eq_error {path : Path} (h : readDimensions path bytes = .error e rest) :
    IsFraming e ∨ ∃ dimensions unread, Reader.nat 4 bytes = .ok dimensions unread ∧ 1 < dimensions
      ∧ e = .codecMismatch path (.dimensions dimensions) := by
  rcases bind_eq_error.1 h with h | ⟨dimensions, unread, hdimensions, h⟩
  · exact .inl (failsWith_framing_nat 4 _ _ _ h)
  rcases bind_eq_error.1 h with h | ⟨_, _, _, h⟩
  · exact .inl (failsWith_framing_discard 8 _ _ _ h)
  split at h
  · cases h
  · split at h
    · rcases bind_eq_error.1 h with h | ⟨_, _, _, h⟩
      · exact .inl (failsWith_framing_nat 4 _ _ _ h)
      rcases bind_eq_error.1 h with h | ⟨_, _, _, h⟩
      · exact .inl (failsWith_framing_discard 4 _ _ _ h)
      cases h
    · rename_i hzero hone
      cases h
      exact .inr ⟨dimensions, _, hdimensions, by omega, rfl⟩

lemma failsWith_framing_sized : FailsWith IsFraming Element.sized := by
  refine (failsWith_framing_nat 4).bind fun length => ?_
  split
  · exact failsWith_pure _
  · exact (failsWith_framing_raw length).bind fun _ => failsWith_pure _

lemma failsWith_framing_element : FailsWith IsFraming Element.read :=
  (failsWith_framing_discard 4).bind fun _ => failsWith_framing_sized

end

end QueryWire
