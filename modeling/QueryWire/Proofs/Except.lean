import Mathlib.Tactic.Common

/-!
# Results in sequence

What a sequence of steps that may fail comes to, and when two results agree but for the errors.
-/

namespace Except

variable {ε α β γ : Type}

/-- A sequence succeeds when both parts do. -/
lemma bind_eq_ok {x : Except ε α} {f : α → Except ε β} {b : β} :
    (x >>= f) = .ok b ↔ ∃ a, x = .ok a ∧ f a = .ok b := by
  cases x with
  | ok a => simp [bind, Except.bind]
  | error e => simp [bind, Except.bind]

/-- A sequence fails when one of its parts does. -/
lemma bind_eq_error {x : Except ε α} {f : α → Except ε β} {e : ε} :
    (x >>= f) = .error e ↔ x = .error e ∨ ∃ a, x = .ok a ∧ f a = .error e := by
  cases x with
  | ok a => simp [bind, Except.bind]
  | error e => simp [bind, Except.bind]

/-- A step whose result is made into another one succeeds when it does. -/
lemma bind_pure_eq_ok {x : Except ε α} {f : α → β} {b : β} :
    (x >>= fun a => pure (f a)) = .ok b ↔ ∃ a, x = .ok a ∧ b = f a := by
  cases x with
  | ok a => simp [bind, Except.bind, pure, Except.pure, eq_comm]
  | error e => simp [bind, Except.bind]

/-- Two steps whose results are put together succeed when both do. -/
lemma bind_bind_pure_eq_ok {x : Except ε α} {y : Except ε β} {f : α → β → γ} {c : γ} :
    (x >>= fun a => y >>= fun b => pure (f a b)) = .ok c
      ↔ ∃ a b, x = .ok a ∧ y = .ok b ∧ c = f a b := by
  constructor
  · intro h
    obtain ⟨a, ha, h⟩ := bind_eq_ok.1 h
    obtain ⟨b, hb, h⟩ := bind_pure_eq_ok.1 h
    exact ⟨a, b, ha, hb, h⟩
  · rintro ⟨a, b, rfl, rfl, rfl⟩
    rfl

lemma map_eq_ok {x : Except ε α} {f : α → β} {b : β} :
    x.map f = .ok b ↔ ∃ a, x = .ok a ∧ f a = b := by
  cases x with
  | ok a => simp [Except.map]
  | error e => simp [Except.map]

lemma map_eq_error {x : Except ε α} {f : α → β} {e : ε} :
    x.map f = .error e ↔ x = .error e := by
  cases x with
  | ok a => simp [Except.map]
  | error e => simp [Except.map]

/-- A step made for each item of a list fails at one of the items. -/
lemma exists_of_mapM_eq_error {f : α → Except ε β} {items : List α} {e : ε}
    (h : items.mapM f = .error e) : ∃ item ∈ items, f item = .error e := by
  induction items with
  | nil => cases h
  | cons item items ih =>
    rw [List.mapM_cons] at h
    rcases bind_eq_error.1 h with h | ⟨_, _, h⟩
    · exact ⟨item, List.mem_cons_self, h⟩
    · rcases bind_eq_error.1 h with h | ⟨_, _, h⟩
      · obtain ⟨item', hmem, h⟩ := ih h
        exact ⟨item', List.mem_cons_of_mem _ hmem, h⟩
      · cases h

/-- A step made for each item of a list succeeds for each of them. -/
lemma exists_of_mem_mapM {f : α → Except ε β} {items : List α} {results : List β} {item : α}
    (hmem : item ∈ items) (h : items.mapM f = .ok results) : ∃ b ∈ results, f item = .ok b := by
  induction items generalizing results with
  | nil => cases hmem
  | cons first items ih =>
    rw [List.mapM_cons] at h
    obtain ⟨b, others, hfirst, hothers, rfl⟩ := bind_bind_pure_eq_ok.1 h
    rcases List.mem_cons.1 hmem with rfl | hmem
    · exact ⟨b, List.mem_cons_self, hfirst⟩
    · obtain ⟨b', hb', hitem⟩ := ih hmem hothers
      exact ⟨b', List.mem_cons_of_mem b hb', hitem⟩

/-- What does not succeed fails. -/
lemma exists_eq_error {x : Except ε α} (h : ∀ a, x ≠ .ok a) : ∃ e, x = .error e := by
  cases x with
  | ok a => exact absurd rfl (h a)
  | error e => exact ⟨e, rfl⟩

/-! ## Results that agree -/

/-- Two results agree: both are the same success, or both are failures. -/
def Agree (x y : Except ε α) : Prop := ∀ a, x = .ok a ↔ y = .ok a

namespace Agree

variable {x y z : Except ε α}

lemma refl (x : Except ε α) : x.Agree x := fun _ => Iff.rfl

lemma trans (hxy : x.Agree y) (hyz : y.Agree z) : x.Agree z := fun a => (hxy a).trans (hyz a)

lemma bind {f g : α → Except ε β} (h : x.Agree y) (hfg : ∀ a, (f a).Agree (g a)) :
    (x >>= f).Agree (y >>= g) := by
  intro b
  simp only [bind_eq_ok, h _, hfg _ _]

lemma map (f : α → β) (h : x.Agree y) : (x.map f).Agree (y.map f) := by
  intro b
  simp only [map_eq_ok, h _]

end Agree

end Except
