import QueryWire.Proofs.Wire.Forms

/-!
# Readers that know where to stop

A reader that takes numbers, lengths and counts off the front knows from them alone where its value
ends.  What stands behind makes no difference to it, and where the value is cut short it finds bytes
missing: no beginning of what it reads is something else that it reads.

* `Reader.Takes` — that some bytes, and no less, are read as a value.
* `Reader.Delimits` — that whatever a reader reads it takes in this sense.
* **`Reader.Delimits.bind`**, **`Reader.composes_delimits`** — sequences of such readers, and all
  that is put together of them.
-/

namespace QueryWire

namespace Reader

variable {α β : Type}

/-- Some bytes are read as a value, whatever comes behind them; any strict beginning of them is too
short. -/
structure Takes (reader : Reader α) (used : Bytes) (a : α) : Prop where
  ok : ∀ rest, reader (used ++ rest) = .ok a rest
  short : ∀ cut missing, used = cut ++ missing → missing ≠ [] →
    ∃ needed available rest, reader cut = .error (.framing (.short needed available)) rest

/-- A reader that succeeds has taken the bytes that it does not leave. -/
def Delimits (reader : Reader α) : Prop :=
  ∀ bytes a rest, reader bytes = .ok a rest → ∃ used, bytes = used ++ rest ∧ reader.Takes used a

/-! ## Sequences -/

lemma takes_pure (a : α) : (pure a : Reader α).Takes [] a := by
  refine ⟨fun _ => rfl, fun cut missing h hmissing => ?_⟩
  exact absurd (List.append_eq_nil_iff.1 h.symm).2 hmissing

lemma delimits_pure (a : α) : Delimits (pure a : Reader α) := by
  intro bytes _ rest h
  cases h
  exact ⟨[], rfl, takes_pure a⟩

lemma delimits_throw (e : Error) : Delimits (throw e : Reader α) := by
  intro bytes a rest h
  cases h

/-- A cut falls behind what a reader takes, or leaves too little of it. -/
lemma Takes.cut {x : Reader α} {first second : Bytes} {a : α} (hx : x.Takes first a)
    {cut missing : Bytes} (h : first ++ second = cut ++ missing) :
    (∃ cut', cut = first ++ cut' ∧ second = cut' ++ missing)
      ∨ ∃ needed available rest, x cut = .error (.framing (.short needed available)) rest := by
  rcases List.append_eq_append_iff.1 h with ⟨cut', hcut, hsecond⟩ | ⟨missing', hfirst, hmissing⟩
  · exact .inl ⟨cut', hcut, hsecond⟩
  · cases missing' with
    | nil => exact .inl ⟨[], by simpa using hfirst.symm, hmissing.symm⟩
    | cons b missing' => exact .inr (hx.short cut (b :: missing') hfirst (List.cons_ne_nil _ _))

lemma Takes.bind {x : Reader α} {f : α → Reader β} {first second : Bytes} {a : α} {b : β}
    (hx : x.Takes first a) (hf : (f a).Takes second b) : (x >>= f).Takes (first ++ second) b := by
  refine ⟨fun rest => ?_, fun cut missing h hmissing => ?_⟩
  · rw [List.append_assoc, bind_of_ok (hx.ok _), hf.ok]
  · rcases hx.cut h with ⟨cut', rfl, hsecond⟩ | ⟨needed, available, rest, hshort⟩
    · obtain ⟨needed, available, rest, hshort⟩ := hf.short cut' missing hsecond hmissing
      exact ⟨needed, available, rest, bind_eq_error.2 (.inr ⟨a, cut', hx.ok cut', hshort⟩)⟩
    · exact ⟨needed, available, rest, bind_eq_error.2 (.inl hshort)⟩

/-- **Sequences.**  What follows takes over where the first reader stops. -/
theorem Delimits.bind {x : Reader α} {f : α → Reader β} (hx : Delimits x)
    (hf : ∀ a, Delimits (f a)) : Delimits (x >>= f) := by
  intro bytes b rest h
  obtain ⟨a, middle, hfirst, hsecond⟩ := bind_eq_ok.1 h
  obtain ⟨first, rfl, htakes⟩ := hx _ _ _ hfirst
  obtain ⟨second, rfl, htakes'⟩ := hf a _ _ _ hsecond
  exact ⟨first ++ second, (List.append_assoc _ _ _).symm, htakes.bind htakes'⟩

/-! ## Taking bytes -/

lemma delimits_raw (n : Nat) : Delimits (raw n) := by
  intro bytes taken rest h
  obtain ⟨hlength, rfl⟩ := raw_eq_ok.1 h
  refine ⟨taken, rfl, fun rest => raw_append_of_length hlength rest,
    fun cut missing hcut hmissing => ⟨n, cut.length, cut, ?_⟩⟩
  have hpos := List.length_pos_iff.2 hmissing
  have hlt : cut.length < n := by
    rw [← hlength, hcut, List.length_append]
    omega
  simp only [raw]
  rw [if_neg (by rw [List.length_take]; omega)]

/-- **Readers put together.**  Whatever errors there may be, what is put together of readers that
know where to stop knows it too. -/
theorem composes_delimits : Composes (fun _ => True) Delimits where
  ofPure := delimits_pure
  ofThrow _ := delimits_throw _
  bind := Delimits.bind
  raw := delimits_raw

end Reader

end QueryWire
