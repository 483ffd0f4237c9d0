import Mathlib.Tactic.Common
import QueryWire.Wire.Reader

/-!
# Readers in sequence

What a reader made of two others does, and what its errors are.

* `Reader.bind_eq_ok`, `Reader.bind_eq_error` — a sequence succeeds when both parts do, and fails
  with the error of the first part that fails.
* `Reader.FailsWith` — that all errors of a reader are of one sort, which passes on from readers to
  what is put together of them (`Reader.composes_failsWith`).
* **`Reader.failsWith_framing_skipHeaders`** and its like — reading bytes, numbers, texts and headers
  fails only where the bytes are divided.
-/

namespace QueryWire

namespace Reader

variable {α β : Type}

/-- A sequence of readers goes on with what the first one left. -/
lemma bind_apply (x : Reader α) (f : α → Reader β) (bytes : Bytes) :
    (x >>= f) bytes
      = match x bytes with
        | .ok a rest => f a rest
        | .error e rest => .error e rest := by
  change EStateM.bind x f bytes = _
  simp only [EStateM.bind]
  cases x bytes <;> rfl

/-- A sequence whose first part succeeds is the second part. -/
lemma bind_of_ok {x : Reader α} {f : α → Reader β} {bytes rest : Bytes} {a : α}
    (h : x bytes = .ok a rest) : (x >>= f) bytes = f a rest := by
  rw [bind_apply, h]

@[simp] lemma pure_apply (a : α) (bytes : Bytes) : (pure a : Reader α) bytes = .ok a bytes := rfl

lemma rest_apply {bytes : Bytes} : rest bytes = .ok bytes bytes := rfl

@[simp] lemma throw_apply (e : Error) (bytes : Bytes) :
    (throw e : Reader α) bytes = .error e bytes := rfl

/-- A sequence succeeds when both parts do. -/
lemma bind_eq_ok {x : Reader α} {f : α → Reader β} {bytes rest : Bytes} {b : β} :
    (x >>= f) bytes = .ok b rest ↔ ∃ a middle, x bytes = .ok a middle ∧ f a middle = .ok b rest := by
  rw [bind_apply]
  constructor
  · intro h
    split at h
    · rename_i a middle hx
      exact ⟨a, middle, hx, h⟩
    · cases h
  · rintro ⟨a, middle, hx, hf⟩
    rw [hx]
    exact hf

/-- A sequence fails when one of its parts does. -/
lemma bind_eq_error {x : Reader α} {f : α → Reader β} {bytes rest : Bytes} {e : Error} :
    (x >>= f) bytes = .error e rest
      ↔ x bytes = .error e rest ∨ ∃ a middle, x bytes = .ok a middle ∧ f a middle = .error e rest := by
  rw [bind_apply]
  constructor
  · intro h
    split at h
    · rename_i a middle hx
      exact .inr ⟨a, middle, hx, h⟩
    · rename_i hx
      cases h
      exact .inl hx
  · rintro (hx | ⟨a, middle, hx, hf⟩)
    · rw [hx]
    · rw [hx]
      exact hf

/-- A byte in front of others is read as it is. -/
lemma u8_cons (b : UInt8) (rest : Bytes) : u8 (b :: rest) = .ok b rest := by
  have hvalue : UInt8.ofNat (0 * 256 + b.toNat) = b := by simp
  exact congrArg (EStateM.Result.ok · rest) hvalue

/-! ## Errors of one sort -/

/-- A reader whose errors are all of one sort. -/
def FailsWith (P : Error → Prop) (reader : Reader α) : Prop :=
  ∀ bytes e rest, reader bytes = .error e rest → P e

section

variable {P : Error → Prop}

lemma failsWith_pure (a : α) : FailsWith P (pure a : Reader α) := by
  intro bytes e rest h
  cases h

lemma failsWith_throw {e : Error} (he : P e) : FailsWith P (throw e : Reader α) := by
  intro bytes e' rest h
  cases h
  exact he

lemma FailsWith.bind {x : Reader α} {f : α → Reader β} (hx : FailsWith P x)
    (hf : ∀ a, FailsWith P (f a)) : FailsWith P (x >>= f) := by
  intro bytes e rest h
  rcases bind_eq_error.1 h with h | ⟨a, middle, _, h⟩
  · exact hx _ _ _ h
  · exact hf a _ _ _ h

lemma failsWith_rest : FailsWith P rest := by
  intro bytes e rest h
  cases h

/-- Too few bytes are the only error of taking bytes. -/
lemma failsWith_raw (hP : ∀ needed available, P (.framing (.short needed available))) (n : Nat) :
    FailsWith P (raw n) := by
  intro bytes e rest h
  unfold raw at h
  simp only at h
  split at h
  · cases h
  · cases h
    exact hP _ _

lemma composes_failsWith (hP : ∀ needed available, P (.framing (.short needed available))) :
    Composes P (FailsWith P) where
  ofPure := failsWith_pure
  ofThrow := failsWith_throw
  bind := FailsWith.bind
  raw := failsWith_raw hP

end

/-! ## Framing errors -/

/-- An error about the division of bytes into parts. -/
def IsFraming : Error → Prop
  | .framing _ => True
  | _ => False

/-- What is put together of readers whose errors are about the division of bytes raises no others. -/
lemma composes_framing : Composes IsFraming (FailsWith IsFraming) :=
  composes_failsWith fun _ _ => trivial

lemma failsWith_framing_raw (n : Nat) : FailsWith IsFraming (raw n) := composes_framing.raw n

lemma failsWith_framing_nat (width : Nat) : FailsWith IsFraming (nat width) :=
  composes_framing.nat width

lemma failsWith_framing_discard (n : Nat) : FailsWith IsFraming (discard n) :=
  composes_framing.discard n

lemma failsWith_framing_u8 : FailsWith IsFraming u8 := composes_framing.u8

lemma failsWith_framing_u32 : FailsWith IsFraming u32 := composes_framing.u32

lemma failsWith_framing_uuid : FailsWith IsFraming uuid := composes_framing.uuid

lemma failsWith_framing_bytes : FailsWith IsFraming bytes := composes_framing.bytes

lemma failsWith_framing_text : FailsWith IsFraming text := composes_framing.text fun _ => trivial

lemma failsWith_framing_headers : FailsWith IsFraming headers := composes_framing.headers

lemma failsWith_framing_skipHeaders : FailsWith IsFraming skipHeaders :=
  composes_framing.skipHeaders

end Reader

end QueryWire
