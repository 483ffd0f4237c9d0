import Mathlib.Data.Nat.Digits.Lemmas
import Mathlib.Tactic.Ring
import QueryWire.Proofs.Text.Digits

/-!
# Decimal digits

A row of decimal digits spells a number, and a number is written in as few digits as there can be.
Zeros in front of the others make no difference to what is spelled, and they are the only thing that
two rows for one number differ in.

* `Digits.worth` — the number that one digit stands for; `Digits.value_eq_ofDigits`.
* `Digits.value_significant`, `Digits.head?_significant` — a number is written in its own digits, none
  of them a leading zero.
* **`Digits.eq_of_value_eq`** — there is only one such row for a number.
* **`Digits.significant_value`** — writing what was spelled drops the leading zeros.
* `Digits.value_decimal`, `Digits.length_decimal_le_iff` — the digits of a number, zero included.
* `Digits.unsigned?_eq_some` — which texts are unsigned numbers.
-/

namespace QueryWire

namespace Digits

/-! ## One digit -/

/-- The number that a digit stands for. -/
def worth (c : Char) : Nat := c.toNat - '0'.toNat

/-- A row of ASCII digits. -/
def AreDigits (cs : List Char) : Prop := ∀ c ∈ cs, isDigit c = true

instance (cs : List Char) : Decidable (AreDigits cs) :=
  List.decidableBAll (fun c => isDigit c = true) cs

lemma isDigit_iff {c : Char} : isDigit c = true ↔ 48 ≤ c.toNat ∧ c.toNat ≤ 57 := by
  simp only [isDigit, Bool.and_eq_true, decide_eq_true_eq, Char.le_def, UInt32.le_iff_toNat_le]
  rfl

lemma worth_lt {c : Char} (h : isDigit c = true) : worth c < 10 := by
  rw [isDigit_iff] at h
  have hzero : '0'.toNat = 48 := rfl
  rw [worth, hzero]
  omega

lemma digit_worth {c : Char} (h : isDigit c = true) : digit (worth c) = c := by
  have hlt := worth_lt h
  rw [isDigit_iff] at h
  have hzero : '0'.toNat = 48 := rfl
  have hsum : '0'.toNat + worth c = c.toNat := by
    rw [worth, hzero]
    omega
  rw [digit, if_pos hlt, hsum, Char.ofNat_toNat]

lemma worth_digit {d : Nat} (h : d < 10) : worth (digit d) = d := by
  revert d
  decide

lemma isDigit_digit {d : Nat} (h : d < 10) : isDigit (digit d) = true := by
  revert d
  decide

lemma worth_eq_zero_iff {c : Char} (h : isDigit c = true) : worth c = 0 ↔ c = '0' := by
  constructor
  · intro hworth
    rw [← digit_worth h, hworth]
    rfl
  · rintro rfl
    rfl

/-! ## Rows of digits -/

section

variable {a b cs : List Char}

lemma AreDigits.append (ha : AreDigits a) (hb : AreDigits b) : AreDigits (a ++ b) :=
  List.forall_mem_append.2 ⟨ha, hb⟩

lemma areDigits_replicate (n : Nat) : AreDigits (List.replicate n '0') := by
  intro c hc
  rw [List.eq_of_mem_replicate hc]
  rfl

/-- A row of digits is the row of what they stand for. -/
lemma map_digit_worth (h : AreDigits cs) : (cs.map worth).map digit = cs := by
  rw [List.map_map]
  calc
    cs.map (digit ∘ worth) = cs.map id := List.map_congr_left fun c hc => digit_worth (h c hc)
    _ = cs := List.map_id cs

lemma worth_lt_of_mem (h : AreDigits cs) : ∀ d ∈ (cs.map worth).reverse, d < 10 := by
  intro d hd
  rw [List.mem_reverse, List.mem_map] at hd
  obtain ⟨c, hc, rfl⟩ := hd
  exact worth_lt (h c hc)

/-- Digits spell the number that they are the digits of, the last of them first. -/
lemma value_eq_ofDigits (cs : List Char) : value cs = Nat.ofDigits 10 (cs.map worth).reverse := by
  rw [value_eq]
  induction cs with
  | nil => rfl
  | cons c cs ih =>
    have hcons : valueFrom 0 (c :: cs) = valueFrom (worth c) cs := by
      simp only [valueFrom, List.foldl_cons, worth, Nat.zero_mul, Nat.zero_add]
    rw [hcons, valueFrom_eq, ih, List.map_cons, Nat.ofDigits_reverse_cons, List.length_map,
      Nat.pow_eq]
    ring

lemma value_append (a b : List Char) : value (a ++ b) = value a * 10 ^ b.length + value b := by
  rw [value_eq, valueFrom_append, valueFrom_eq, ← value_eq, ← value_eq, Nat.pow_eq]

lemma value_cons (c : Char) (cs : List Char) : value (c :: cs) = worth c * 10 ^ cs.length + value cs := by
  rw [← List.singleton_append, value_append, value_eq_ofDigits [c]]
  simp

lemma value_lt (h : AreDigits cs) : value cs < 10 ^ cs.length := by
  rw [value_eq_ofDigits]
  have hlt := Nat.ofDigits_lt_base_pow_length (by norm_num : 1 < 10) (worth_lt_of_mem h)
  rwa [List.length_reverse, List.length_map] at hlt

lemma value_replicate (n : Nat) : value (List.replicate n '0') = 0 := by
  induction n with
  | zero => rfl
  | succ n ih =>
    rw [List.replicate_succ, value_cons, ih]
    simp [worth]

/-- Zeros in front do not count. -/
lemma value_dropWhile (cs : List Char) : value (cs.dropWhile (· == '0')) = value cs := by
  induction cs with
  | nil => rfl
  | cons c cs ih =>
    rw [List.dropWhile_cons]
    split
    · rename_i hc
      rw [ih, value_cons, eq_of_beq hc]
      simp [worth]
    · rfl

lemma head?_dropWhile_ne (cs : List Char) : (cs.dropWhile (· == '0')).head? ≠ some '0' := by
  intro h
  have hhead := List.head?_dropWhile_not (· == '0') cs
  rw [h] at hhead
  exact absurd hhead (by decide)

lemma AreDigits.dropWhile (h : AreDigits cs) : AreDigits (cs.dropWhile (· == '0')) :=
  fun c hc => h c ((List.dropWhile_sublist _).subset hc)

/-- Digits without a leading zero are the digits of the number that they spell. -/
lemma digits_value (h : AreDigits cs) (hhead : cs.head? ≠ some '0') :
    Nat.digits 10 (value cs) = (cs.map worth).reverse := by
  rw [value_eq_ofDigits]
  refine Nat.digits_ofDigits 10 (by norm_num) _ (worth_lt_of_mem h) fun hne => ?_
  cases cs with
  | nil => exact absurd rfl hne
  | cons c cs =>
    have hc : c ≠ '0' := fun hc => hhead (congrArg some hc)
    simpa using fun hworth => hc ((worth_eq_zero_iff (h c List.mem_cons_self)).1 hworth)

/-- **Only one row.**  Two rows of digits without a leading zero that spell one number are the
same. -/
theorem eq_of_value_eq (ha : AreDigits a) (hb : AreDigits b) (ha' : a.head? ≠ some '0')
    (hb' : b.head? ≠ some '0') (h : value a = value b) : a = b := by
  have hdigits := digits_value ha ha'
  rw [h, digits_value hb hb'] at hdigits
  rw [← map_digit_worth ha, ← map_digit_worth hb, List.reverse_injective hdigits]

/-- Also zeros in front are told by the number when the length is given. -/
lemma eq_of_value_eq_of_length (ha : AreDigits a) (hb : AreDigits b) (hlength : a.length = b.length)
    (h : value a = value b) : a = b := by
  rw [value_eq_ofDigits, value_eq_ofDigits] at h
  have hreverse := Nat.ofDigits_inj_of_len_eq (by norm_num : 1 < 10)
    (by simpa using hlength) (worth_lt_of_mem ha) (worth_lt_of_mem hb) h
  rw [← map_digit_worth ha, ← map_digit_worth hb, List.reverse_injective hreverse]

end

/-! ## The digits of a number -/

lemma length_fixed (base width n : Nat) : (fixed base width n).length = width := by
  induction width with
  | zero => rfl
  | succ width ih => exact congrArg (· + 1) ih

lemma areDigits_fixed (width n : Nat) : AreDigits (fixed 10 width n) := by
  induction width with
  | zero => exact List.forall_mem_nil _
  | succ width ih =>
    exact List.forall_mem_cons.2 ⟨isDigit_digit (Nat.mod_lt _ (by decide)), ih⟩

lemma value_fixed (width n : Nat) : value (fixed 10 width n) = n % 10 ^ width := by
  induction width with
  | zero => simp [fixed, value_eq, valueFrom, Nat.mod_one]
  | succ width ih =>
    rw [fixed, value_cons, length_fixed, ih, worth_digit (Nat.mod_lt _ (by decide)), Nat.mod_pow_succ,
      Nat.pow_eq]
    ring

/-- Blocks of sixteen digits spell what the blocks spell. -/
lemma value_flatMap_fixed {blocks : List Nat} (h : ∀ block ∈ blocks, block < Nat.pow 10 16) :
    value (blocks.flatMap (fixed 10 16)) = spell (Nat.pow 10 16) blocks := by
  induction blocks with
  | nil => rfl
  | cons block blocks ih =>
    obtain ⟨hblock, hblocks⟩ := List.forall_mem_cons.1 h
    rw [Nat.pow_eq] at hblock
    have hlength : (blocks.flatMap (fixed 10 16)).length = 16 * blocks.length := by
      simp [List.length_flatMap, length_fixed, Nat.mul_comm]
    rw [List.flatMap_cons, value_append, value_fixed, ih hblocks, spell_cons, hlength,
      Nat.mod_eq_of_lt hblock, pow_mul]
    rfl

lemma value_significant (n : Nat) : value (significant n) = n := by
  have hblocks : ∀ block ∈ blocks (Nat.pow 10 16) n, block < Nat.pow 10 16 :=
    fun block hblock => lt_of_mem_blocks (by decide) hblock
  rw [significant, value_dropWhile, value_flatMap_fixed hblocks, spell_blocks (by decide)]

lemma areDigits_significant (n : Nat) : AreDigits (significant n) := by
  refine AreDigits.dropWhile fun c hc => ?_
  obtain ⟨block, -, hmem⟩ := List.mem_flatMap.1 hc
  exact areDigits_fixed 16 block c hmem

lemma head?_significant (n : Nat) : (significant n).head? ≠ some '0' := head?_dropWhile_ne _

/-- **Leading zeros** are dropped when the number that digits spell is written. -/
theorem significant_value {cs : List Char} (h : AreDigits cs) :
    significant (value cs) = cs.dropWhile (· == '0') := by
  refine eq_of_value_eq (areDigits_significant _) h.dropWhile (head?_significant _)
    (head?_dropWhile_ne cs) ?_
  rw [value_significant, value_dropWhile]

lemma length_significant_le_iff {n k : Nat} : (significant n).length ≤ k ↔ n < 10 ^ k := by
  have hdigits := digits_value (areDigits_significant n) (head?_significant n)
  rw [value_significant] at hdigits
  rw [← Nat.digits_length_le_iff (by norm_num : 1 < 10), hdigits, List.length_reverse,
    List.length_map]

lemma areDigits_decimal (n : Nat) : AreDigits (decimal n) := by
  rw [decimal]
  split
  · exact areDigits_replicate 1
  · exact areDigits_significant n

/-- The digits of a number spell it. -/
lemma value_decimal (n : Nat) : value (decimal n) = n := by
  rw [decimal]
  split
  · rename_i hzero
    rw [hzero]
    rfl
  · exact value_significant n

/-- There is at least one digit, and there are no more than needed. -/
lemma length_decimal_le_iff {n k : Nat} (hk : 0 < k) : (decimal n).length ≤ k ↔ n < 10 ^ k := by
  rw [decimal]
  split
  · rename_i hzero
    rw [hzero]
    exact iff_of_true hk (Nat.pow_pos (by decide))
  · exact length_significant_le_iff

lemma decimal_ne_nil (n : Nat) : decimal n ≠ [] := by
  intro hnil
  have hzero : 0 = n := by
    rw [← value_decimal n, hnil]
    rfl
  subst hzero
  cases hnil

lemma decimalText_injective : Function.Injective decimalText := by
  intro m n h
  have hdigits : decimal m = decimal n := String.ofList_injective h
  rw [← value_decimal m, hdigits, value_decimal]

/-! ## Unsigned numbers -/

/-- A number is read from digits, with at most a plus sign in front of them. -/
lemma unsigned?_eq_some {bound n : Nat} {cs : List Char} :
    unsigned? bound cs = some n
      ↔ ∃ sign digits, (sign = [] ∨ sign = ['+']) ∧ digits ≠ [] ∧ AreDigits digits
        ∧ value digits = n ∧ n < bound ∧ cs = sign ++ digits := by
  have hread (digits : List Char) :
      (if digits.isEmpty || !digits.all isDigit then none
        else if value digits < bound then some (value digits) else none) = some n
      ↔ digits ≠ [] ∧ AreDigits digits ∧ value digits = n ∧ n < bound := by
    have hdigits : (digits.isEmpty || !digits.all isDigit) = false
        ↔ digits ≠ [] ∧ AreDigits digits := by
      simp [AreDigits]
    split
    · rename_i hnone
      refine iff_of_false (fun h => by cases h) fun h => ?_
      rw [hdigits.2 ⟨h.1, h.2.1⟩] at hnone
      cases hnone
    · rename_i hsome
      obtain ⟨hne, hall⟩ := hdigits.1 (Bool.eq_false_of_not_eq_true hsome)
      rw [Option.ite_none_right_eq_some, Option.some.injEq]
      constructor
      · rintro ⟨hlt, rfl⟩
        exact ⟨hne, hall, rfl, hlt⟩
      · rintro ⟨-, -, rfl, hlt⟩
        exact ⟨hlt, rfl⟩
  unfold unsigned?
  constructor
  · intro h
    split at h
    · rename_i digits
      obtain ⟨hne, hdigits, hvalue, hlt⟩ := (hread digits).1 h
      exact ⟨['+'], digits, .inr rfl, hne, hdigits, hvalue, hlt, rfl⟩
    · obtain ⟨hne, hdigits, hvalue, hlt⟩ := (hread cs).1 h
      exact ⟨[], cs, .inl rfl, hne, hdigits, hvalue, hlt, rfl⟩
  · rintro ⟨sign, digits, hsign, hne, hdigits, hvalue, hlt, rfl⟩
    have hdone := (hread digits).2 ⟨hne, hdigits, hvalue, hlt⟩
    rcases hsign with rfl | rfl
    · split
      · rename_i rest hplus
        rw [List.nil_append] at hplus
        rw [hplus] at hdigits
        cases hdigits '+' List.mem_cons_self
      · exact hdone
    · exact hdone

end Digits

end QueryWire
