import Mathlib.Tactic.Ring
import QueryWire.Text.Digits

/-!
# Digits spell their number

* `Digits.spell` — the number that digits in a base spell.
* `Digits.spell_halves`, `Digits.lt_of_mem_halves` — halving gives the last digits of a number.
* **`Digits.spell_blocks`** — all digits of a number spell it.
* **`Digits.length_blocks_le_iff`** — there are no more of them than needed.
-/

namespace QueryWire

namespace Digits

/-- The number that digits in a base spell, most significant first. -/
def spell (base : Nat) (digits : List Nat) : Nat :=
  digits.foldl (fun acc d => acc * base + d) 0

section

variable {base : Nat}

@[simp] lemma spell_nil : spell base [] = 0 := rfl

/-- Digits in front of others count as many powers of the base as there are others. -/
lemma foldl_eq (digits : List Nat) (high : Nat) :
    digits.foldl (fun acc d => acc * base + d) high
      = high * base ^ digits.length + spell base digits := by
  induction digits generalizing high with
  | nil => simp
  | cons d digits ih =>
    simp only [spell, List.foldl_cons, List.length_cons, zero_mul, zero_add]
    rw [ih, ih d]
    ring

lemma spell_cons (d : Nat) (digits : List Nat) :
    spell base (d :: digits) = d * base ^ digits.length + spell base digits := by
  rw [spell, List.foldl_cons, zero_mul, zero_add, foldl_eq]

lemma spell_append (a b : List Nat) :
    spell base (a ++ b) = spell base a * base ^ b.length + spell base b := by
  rw [spell, List.foldl_append, foldl_eq]
  rfl

/-- Zeros in front do not count. -/
lemma spell_dropWhile (digits : List Nat) :
    spell base (digits.dropWhile (· == 0)) = spell base digits := by
  induction digits with
  | nil => rfl
  | cons d digits ih =>
    rw [List.dropWhile_cons]
    split
    · rename_i hd
      rw [ih, spell_cons, eq_of_beq hd, zero_mul, zero_add]
    · rfl

/-! ## Halving -/

lemma length_halves (depth n : Nat) : (halves base depth n).length = 2 ^ depth := by
  induction depth generalizing n with
  | zero => rfl
  | succ depth ih =>
    rw [halves, List.length_append, ih, ih]
    ring

lemma spell_halves (depth n : Nat) : spell base (halves base depth n) = n % base ^ 2 ^ depth := by
  induction depth generalizing n with
  | zero => simp [halves, spell]
  | succ depth ih =>
    have hunit : base.pow (Nat.pow 2 depth) = base ^ 2 ^ depth := rfl
    have hsquare : base ^ 2 ^ (depth + 1) = base ^ 2 ^ depth * base ^ 2 ^ depth := by
      rw [← pow_add]
      congr 1
      ring
    rw [halves, hunit, spell_append, length_halves, ih, ih, Nat.mod_mod, hsquare, Nat.mod_mul]
    ring

lemma lt_of_mem_halves (hbase : 0 < base) {depth n d : Nat} (h : d ∈ halves base depth n) :
    d < base := by
  induction depth generalizing n with
  | zero =>
    rw [halves, List.mem_singleton] at h
    rw [h]
    exact Nat.mod_lt _ hbase
  | succ depth ih =>
    rw [halves, List.mem_append] at h
    rcases h with h | h
    · exact ih h
    · exact ih h

/-! ## All digits of a number -/

/-- There is room for all digits. -/
lemma lt_pow_depth (hbase : 2 ≤ base) (n : Nat) :
    n < base ^ 2 ^ ((n.log2 / base.log2).log2 + 1) := by
  have hlog : 0 < base.log2 := (Nat.le_log2 (by omega)).2 (by omega)
  have hn : n < 2 ^ (n.log2 + 1) := Nat.lt_log2_self
  have hbits : n.log2 + 1 ≤ base.log2 * (n.log2 / base.log2 + 1) := by
    have := Nat.lt_mul_div_succ n.log2 hlog
    omega
  have hcount : n.log2 / base.log2 + 1 ≤ 2 ^ ((n.log2 / base.log2).log2 + 1) :=
    Nat.lt_log2_self
  calc
    n < 2 ^ (n.log2 + 1) := hn
    _ ≤ 2 ^ (base.log2 * (n.log2 / base.log2 + 1)) := Nat.pow_le_pow_right (by decide) hbits
    _ = (2 ^ base.log2) ^ (n.log2 / base.log2 + 1) := pow_mul _ _ _
    _ ≤ base ^ (n.log2 / base.log2 + 1) :=
      Nat.pow_le_pow_left (Nat.log2_self_le (by omega)) _
    _ ≤ base ^ 2 ^ ((n.log2 / base.log2).log2 + 1) := Nat.pow_le_pow_right (by omega) hcount

/-- **All digits.**  The digits of a number spell it. -/
theorem spell_blocks (hbase : 2 ≤ base) (n : Nat) : spell base (blocks base n) = n := by
  rw [blocks, spell_dropWhile, spell_halves, Nat.mod_eq_of_lt (lt_pow_depth hbase n)]

lemma lt_of_mem_blocks (hbase : 0 < base) {n d : Nat} (h : d ∈ blocks base n) : d < base :=
  lt_of_mem_halves hbase ((List.dropWhile_sublist _).subset h)

/-- The first digit is not zero. -/
lemma head_blocks_ne_zero {n d : Nat} {digits : List Nat} (h : blocks base n = d :: digits) :
    d ≠ 0 := by
  have hhead := List.head?_dropWhile_not (· == 0)
    (halves base ((n.log2 / base.log2).log2 + 1) n)
  rw [← blocks, h] at hhead
  exact fun hd => Bool.false_ne_true (hhead.symm.trans (beq_iff_eq.2 hd))

/-- Digits spell less than a power of the base with as many places. -/
lemma spell_lt {digits : List Nat} (h : ∀ d ∈ digits, d < base) :
    spell base digits < base ^ digits.length := by
  induction digits with
  | nil => exact Nat.one_pos
  | cons d digits ih =>
    obtain ⟨hd, hdigits⟩ := List.forall_mem_cons.1 h
    calc
      spell base (d :: digits) = d * base ^ digits.length + spell base digits := spell_cons d digits
      _ < d * base ^ digits.length + base ^ digits.length := Nat.add_lt_add_left (ih hdigits) _
      _ = (d + 1) * base ^ digits.length := (Nat.succ_mul _ _).symm
      _ ≤ base * base ^ digits.length := Nat.mul_le_mul_right _ hd
      _ = base ^ (d :: digits).length := (pow_succ' _ _).symm

/-- **As few as there can be.**  So many digits are enough when the number is below the power of
the base with as many places. -/
theorem length_blocks_le_iff (hbase : 2 ≤ base) {n k : Nat} :
    (blocks base n).length ≤ k ↔ n < base ^ k := by
  have hspell := spell_blocks hbase n
  constructor
  · intro hle
    have hdigits : ∀ d ∈ blocks base n, d < base :=
      fun d hd => lt_of_mem_blocks (Nat.zero_lt_of_lt hbase) hd
    have hlt := spell_lt hdigits
    rw [hspell] at hlt
    exact hlt.trans_le (Nat.pow_le_pow_right (by omega) hle)
  · intro hlt
    cases hblocks : blocks base n with
    | nil => exact Nat.zero_le k
    | cons d digits =>
      -- the first digit alone counts as much as all its places
      have hd : 1 ≤ d := Nat.one_le_iff_ne_zero.2 (head_blocks_ne_zero hblocks)
      rw [hblocks, spell_cons] at hspell
      have hfirst : base ^ digits.length ≤ n := by
        rw [← hspell]
        exact (Nat.le_mul_of_pos_left _ hd).trans (Nat.le_add_right _ _)
      exact (Nat.pow_lt_pow_iff_right (by omega)).1 (hfirst.trans_lt hlt)

end

end Digits

end QueryWire
