import Mathlib.Data.List.Induction
import QueryWire.Codec.Numeric
import QueryWire.Proofs.Text.Digits
import QueryWire.Proofs.Wire.Written

/-!
# Numbers of any size are read back

* `Numeric.spell_dropLastZeros` — zeros at the end of the groups count only as places.
* `Numeric.ofMagnitude_cases` — what a number is cut into.
* **`Numeric.mantissa?_ofMagnitude`**, **`Numeric.integer?_ofMagnitude`** — a number in groups has
  the value that it was made from.
* **`Numeric.readDecimal_toBytes`**, **`Numeric.readInteger_toBytes`** — and so after writing it.
-/

namespace QueryWire

namespace Numeric

/-! ## Zeros at the end -/

lemma length_dropLastZeros_le (groups : List Nat) :
    (dropLastZeros groups).length ≤ groups.length := by
  rw [dropLastZeros, List.length_reverse]
  exact (List.dropWhile_sublist _).length_le.trans_eq List.length_reverse

lemma mem_of_mem_dropLastZeros {groups : List Nat} {g : Nat} (h : g ∈ dropLastZeros groups) :
    g ∈ groups := by
  rw [dropLastZeros, List.mem_reverse] at h
  exact List.mem_reverse.1 ((List.dropWhile_sublist _).subset h)

/-- The groups that are dropped leave their places. -/
lemma spell_dropLastZeros (groups : List Nat) :
    Digits.spell radix (dropLastZeros groups)
        * radix ^ (groups.length - (dropLastZeros groups).length)
      = Digits.spell radix groups := by
  induction groups using List.reverseRecOn with
  | nil => rfl
  | append_singleton groups g ih =>
    have hle := length_dropLastZeros_le groups
    by_cases hg : g = 0
    · have hdrop : dropLastZeros (groups ++ [g]) = dropLastZeros groups := by
        rw [dropLastZeros, List.reverse_append, List.reverse_singleton, List.singleton_append,
          List.dropWhile_cons_of_pos (by simpa using hg)]
        rfl
      have hlength : (groups ++ [g]).length - (dropLastZeros groups).length
          = (groups.length - (dropLastZeros groups).length) + 1 := by
        rw [List.length_append, List.length_singleton]
        omega
      rw [hdrop, hlength, pow_succ, ← mul_assoc, ih, Digits.spell_append, hg]
      simp [Digits.spell]
    · have hdrop : dropLastZeros (groups ++ [g]) = groups ++ [g] := by
        rw [dropLastZeros, List.reverse_append, List.reverse_singleton, List.singleton_append,
          List.dropWhile_cons_of_neg (by simpa using hg), List.reverse_cons, List.reverse_reverse]
      rw [hdrop, Nat.sub_self, pow_zero, mul_one]

/-- What is dropped stands at the end. -/
lemma dropLastZeros_prefix (groups : List Nat) : dropLastZeros groups <+: groups := by
  have hsuffix := List.dropWhile_suffix (· == 0) (l := groups.reverse)
  rw [← List.reverse_prefix, List.reverse_reverse] at hsuffix
  exact hsuffix

/-- The last group that stays is not zero. -/
lemma last_dropLastZeros_ne_zero {groups : List Nat} {g : Nat}
    (h : (dropLastZeros groups).getLast? = some g) : g ≠ 0 := by
  rw [dropLastZeros, List.getLast?_reverse] at h
  have hhead := List.head?_dropWhile_not (· == 0) groups.reverse
  rw [h] at hhead
  exact fun hg => Bool.false_ne_true (hhead.symm.trans (beq_iff_eq.2 hg))

/-! ## The form of a number -/

section

variable {negative : Bool} {magnitude : Nat} {scale : UInt16} {n : Numeric}

/-- What a number in groups is made of: the magnitude is filled up with `padding` zeros to whole
groups, of which the last `dropped` are left out. -/
lemma ofMagnitude_cases (h : ofMagnitude? negative magnitude scale = some n) :
    ∃ padding dropped : Nat, padding < 4 ∧ (scale.toNat + padding) % 4 = 0
      ∧ Digits.spell radix n.groups * 10 ^ (4 * dropped) = magnitude * 10 ^ padding
      ∧ n.scale = scale ∧ (∀ g ∈ n.groups, g < radix)
      ∧ (n = ⟨false, 0, scale, []⟩
        ∨ n.groups.length < 65536 ∧ n.negative = negative
          ∧ n.exponent = dropped - ((scale.toNat + padding) / 4 : Nat)) := by
  unfold ofMagnitude? at h
  dsimp only at h
  rw [Nat.pow_eq] at h
  generalize hpadding : (4 - scale.toNat % 4) % 4 = padding at h
  generalize hall : Digits.blocks radix (magnitude * 10 ^ padding) = all at h
  have hspell : Digits.spell radix (dropLastZeros all)
      * 10 ^ (4 * (all.length - (dropLastZeros all).length)) = magnitude * 10 ^ padding := by
    rw [pow_mul, show (10 : Nat) ^ 4 = radix from rfl, spell_dropLastZeros, ← hall,
      Digits.spell_blocks (by decide)]
  have hgroups : ∀ g ∈ dropLastZeros all, g < radix := by
    intro g hg
    have hmem := mem_of_mem_dropLastZeros hg
    rw [← hall] at hmem
    exact Digits.lt_of_mem_blocks (by decide) hmem
  refine ⟨padding, all.length - (dropLastZeros all).length, by omega, by omega, ?_⟩
  split at h
  · rename_i hempty
    cases h
    have hgroups := List.isEmpty_iff.1 hempty
    refine ⟨?_, rfl, nofun, .inl rfl⟩
    rw [← hspell, hgroups]
  · split at h
    · rename_i hfits
      cases h
      obtain ⟨hlength, hlow, hhigh⟩ := hfits
      refine ⟨hspell, rfl, hgroups, .inr ⟨hlength, rfl, ?_⟩⟩
      have hle := length_dropLastZeros_le all
      rw [exponent, Int16.toInt_ofInt_of_le hlow (by omega)]
      dsimp only
      omega
    · cases h

lemma magnitude_eq (n : Numeric) : n.magnitude = Digits.spell radix n.groups := rfl

/-! ## Exponents of 32 bits -/

lemma narrow_of_lt {k : Int} (hlow : 0 ≤ k) (hhigh : k < 2 ^ 32) : narrow k = k.toNat := by
  rw [narrow, UInt32.ofInt, Int.emod_eq_of_lt hlow hhigh, UInt32.toNat_ofNat_of_lt']
  change k.toNat < 2 ^ 32
  omega

lemma exponent_bounds (hlength : n.groups.length < 65536) :
    -98304 < n.exponent ∧ n.exponent ≤ 32768 := by
  have hlow := n.weight.le_toInt
  have hhigh := n.weight.toInt_lt
  rw [exponent]
  omega

lemma shift_bounds (hlength : n.groups.length < 65536) :
    -2 ^ 32 < n.shift ∧ n.shift < 2 ^ 32 := by
  have hbounds := exponent_bounds hlength
  have hscale := n.scale.toNat_lt
  rw [shift]
  omega

/-- The exponent of an integer fits 32 bits. -/
lemma integer?_eq (hlength : n.groups.length < 65536) :
    n.integer? = if n.exponent < 0 ∧ n.groups ≠ [] then none
      else some (n.signed (n.magnitude * radix ^ n.exponent.toNat)) := by
  have hbounds := exponent_bounds hlength
  have hnarrow : narrow (max n.exponent 0) = n.exponent.toNat := by
    rw [narrow_of_lt (by omega) (by omega)]
    omega
  rw [integer?, hnarrow]
  simp

/-- The exponents of a mantissa fit 32 bits. -/
lemma mantissa?_eq (hlength : n.groups.length < 65536) :
    n.mantissa? = if 0 ≤ n.shift then some (n.signed (n.magnitude * 10 ^ n.shift.toNat))
      else if n.magnitude % 10 ^ (-n.shift).toNat = 0
        then some (n.signed (n.magnitude / 10 ^ (-n.shift).toNat)) else none := by
  have hbounds := shift_bounds hlength
  have hnarrow : narrow n.shift.natAbs = n.shift.natAbs := by
    rw [narrow_of_lt (by omega) (by omega), Int.toNat_natCast]
  rw [mantissa?]
  split
  · rename_i hle
    rw [narrow_of_lt hle hbounds.2]
    rfl
  · rename_i hlt
    have habs : n.shift.natAbs = (-n.shift).toNat := by omega
    rw [hnarrow, habs]
    rfl

/-- **Decimals.**  The value, in units of the last digit shown, is the one that it was made
from. -/
theorem mantissa?_ofMagnitude (h : ofMagnitude? negative magnitude scale = some n) :
    n.mantissa? = some (if negative then -(magnitude : Int) else magnitude) := by
  obtain ⟨padding, dropped, hlt, hwhole, hspell, hscale, _,
    rfl | ⟨hlength, hsign, hexponent⟩⟩ := ofMagnitude_cases h
  · have hzero : magnitude = 0 := by simpa [Digits.spell] using hspell
    subst hzero
    have hlength : ([] : List Nat).length < 65536 := by decide
    rw [mantissa?_eq hlength]
    simp [shift, exponent, Numeric.magnitude, signed]
  · have hshift : n.shift = 4 * (dropped : Int) - padding := by
      rw [shift, hexponent, hscale]
      omega
    rw [mantissa?_eq hlength, signed, signed, hshift, hsign, magnitude_eq]
    split
    · rename_i hle
      have hvalue : Digits.spell radix n.groups * 10 ^ (4 * (dropped : Int) - padding).toNat
          = magnitude := by
        apply Nat.eq_of_mul_eq_mul_right (Nat.pow_pos (by decide) : 0 < 10 ^ padding)
        rw [mul_assoc, ← pow_add, ← hspell]
        congr 2
        omega
      rw [hvalue]
    · rename_i hlt
      have hvalue : Digits.spell radix n.groups
          = magnitude * 10 ^ (-(4 * (dropped : Int) - padding)).toNat := by
        apply Nat.eq_of_mul_eq_mul_right (Nat.pow_pos (by decide) : 0 < 10 ^ (4 * dropped))
        rw [mul_assoc, ← pow_add, hspell]
        congr 2
        omega
      rw [hvalue, Nat.mul_mod_left, if_pos rfl, Nat.mul_div_cancel _ (Nat.pow_pos (by decide))]

/-- **Integers.**  The value is the one that it was made from. -/
theorem integer?_ofMagnitude (h : ofMagnitude? negative magnitude 0 = some n) :
    n.integer? = some (if negative then -(magnitude : Int) else magnitude) := by
  obtain ⟨padding, dropped, hlt, hwhole, hspell, hscale, _,
    rfl | ⟨hlength, hsign, hexponent⟩⟩ := ofMagnitude_cases h
  · have hzero : magnitude = 0 := by simpa [Digits.spell] using hspell
    subst hzero
    have hlength : ([] : List Nat).length < 65536 := by decide
    rw [integer?_eq hlength]
    simp [exponent, Numeric.magnitude, signed]
  · have hpadding : padding = 0 := by
      simp only [UInt16.toNat_zero] at hwhole
      omega
    subst hpadding
    have hplaces : n.exponent = dropped := by simpa using hexponent
    have hvalue : Digits.spell radix n.groups * radix ^ dropped = magnitude := by
      rw [← Nat.mul_one magnitude, ← pow_zero 10, ← hspell, pow_mul]
      rfl
    rw [integer?_eq hlength, signed, hplaces, hsign, magnitude_eq, Int.toNat_natCast, hvalue,
      if_neg (by omega)]

/-! ## Writing and reading -/

lemma readSign_word (fail : BadScalar → Error) (negative : Bool) (rest : Bytes) :
    readSign fail (BigEndian.encode 2 (if negative then minusWord else plusWord).toNat ++ rest)
      = .ok negative rest := by
  simp only [readSign]
  rw [Reader.bind_of_ok (Reader.u16_encode _ rest)]
  cases negative <;> rfl

lemma readGroup_encode (fail : BadScalar → Error) {group : Nat} (h : group < radix)
    (rest : Bytes) : readGroup fail (BigEndian.encode 2 group ++ rest) = .ok group rest := by
  have hsize : radix < BigEndian.size 2 := by decide
  simp only [readGroup]
  rw [Reader.bind_of_ok (Reader.nat_encode (h.trans hsize) rest), if_pos h]
  rfl

/-- A number whose parts fit their fields is read back. -/
lemma read_toBytes (fail : BadScalar → Error) (hlength : n.groups.length < 65536)
    (hgroups : ∀ g ∈ n.groups, g < radix) (rest : Bytes) :
    read fail (n.toBytes ++ rest) = .ok n rest := by
  have hcount : n.groups.length < BigEndian.size 2 := hlength
  have hlist := Reader.list_flatMap n.groups
    (fun g hg => readGroup_encode fail (hgroups g hg)) rest
  simp only [read, toBytes]
  simp only [List.append_assoc]
  rw [Reader.bind_of_ok (Reader.nat_encode hcount _), Reader.bind_of_ok (Reader.i16_encode _ _),
    Reader.bind_of_ok (readSign_word fail _ _), Reader.bind_of_ok (Reader.u16_encode _ _),
    Reader.bind_of_ok hlist]
  rfl

lemma read_ofMagnitude (fail : BadScalar → Error)
    (h : ofMagnitude? negative magnitude scale = some n) (rest : Bytes) :
    read fail (n.toBytes ++ rest) = .ok n rest := by
  obtain ⟨_, _, _, _, _, _, hgroups, hcases⟩ := ofMagnitude_cases h
  refine read_toBytes fail ?_ hgroups rest
  rcases hcases with rfl | ⟨hlength, _⟩
  · exact Nat.zero_lt_succ _
  · exact hlength

/-- **Decimals** are read back. -/
theorem readDecimal_toBytes (fail : BadScalar → Error) {d : Decimal}
    (h : ofMagnitude? d.isNegative d.mantissa.natAbs d.scale = some n) (rest : Bytes) :
    readDecimal fail (n.toBytes ++ rest) = .ok d rest := by
  have hmantissa : (if d.isNegative then -(d.mantissa.natAbs : Int) else d.mantissa.natAbs)
      = d.mantissa := by
    simp only [Decimal.isNegative, decide_eq_true_eq]
    omega
  obtain ⟨_, _, _, _, _, hscale, _⟩ := ofMagnitude_cases h
  simp only [readDecimal]
  rw [Reader.bind_of_ok (read_ofMagnitude fail h rest), mantissa?_ofMagnitude h, hmantissa, hscale]
  rfl

/-- **Integers** are read back. -/
theorem readInteger_toBytes (fail : BadScalar → Error) {value : Int}
    (h : ofMagnitude? (value < 0) value.natAbs 0 = some n) (rest : Bytes) :
    readInteger fail (n.toBytes ++ rest) = .ok value rest := by
  have hvalue : (if decide (value < 0) then -(value.natAbs : Int) else value.natAbs) = value := by
    simp only [decide_eq_true_eq]
    omega
  obtain ⟨_, _, _, _, _, hscale, _⟩ := ofMagnitude_cases h
  simp only [readInteger]
  rw [Reader.bind_of_ok (read_ofMagnitude fail h rest), hscale, integer?_ofMagnitude h, hvalue]
  rfl

end

end Numeric

end QueryWire
