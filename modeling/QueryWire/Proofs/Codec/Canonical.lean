import QueryWire.Proofs.Codec.Exact

/-!
# Numbers of any size are written in one way

A number is filled up with zeros behind its last digit until its digits divide into groups of four
around the point, and the groups of zero at either end are left out.  What is left has room in its
fields exactly when the number has no more digits in front of the point than the weight can count;
the fields for the count of the groups and for a small weight are never too narrow.

* `Numeric.IsCanonical` — the form without groups of zero at either end.
* **`Numeric.exists_ofMagnitude_iff`** — which numbers have room.
* **`Numeric.isCanonical_ofMagnitude`** — a number is written in this form.
* `Numeric.WrittenExactly` — that a value is accepted, written and read back as the number it is.
* **`Numeric.encodeScalar_exact`** — so are decimals and integers.
-/

namespace QueryWire

namespace Numeric

/-- How many decimal digits there is room for in front of the point. -/
def wholeDigits : Nat := 131072

section

variable {negative : Bool} {magnitude : Nat} {scale : UInt16} {n : Numeric}

/-! ## Room -/

/-- The largest weight counts the last of the digits that there is room for. -/
lemma radix_pow_room {places padding : Nat} (hwhole : (places + padding) % 4 = 0) :
    radix ^ (32768 + (places + padding) / 4) = 10 ^ (wholeDigits + places) * 10 ^ padding := by
  have hdigits : 4 * (32768 + (places + padding) / 4) = wholeDigits + places + padding := by
    rw [wholeDigits]
    omega
  rw [show radix = 10 ^ 4 from rfl, ← pow_mul, hdigits, pow_add _ (wholeDigits + places)]

/-- **Room.**  A number can be written when it has no more digits in front of the point than there
is room for. -/
theorem exists_ofMagnitude_iff :
    (∃ n, ofMagnitude? negative magnitude scale = some n)
      ↔ magnitude < 10 ^ (wholeDigits + scale.toNat) := by
  unfold ofMagnitude?
  dsimp only
  rw [Nat.pow_eq]
  generalize hpadding : (4 - scale.toNat % 4) % 4 = padding
  generalize hall : Digits.blocks radix (magnitude * 10 ^ padding) = all
  have hpow : 0 < 10 ^ padding := Nat.pow_pos (by decide)
  have hroom : all.length ≤ 32768 + (scale.toNat + padding) / 4
      ↔ magnitude < 10 ^ (wholeDigits + scale.toNat) := by
    rw [← hall, Digits.length_blocks_le_iff (by decide), radix_pow_room (by omega)]
    exact Nat.mul_lt_mul_right hpow
  have hle := length_dropLastZeros_le all
  have hscale := scale.toNat_lt
  rw [← hroom]
  split
  · rename_i hempty
    -- nothing is left of zero only
    have hspell := spell_dropLastZeros all
    rw [List.isEmpty_iff.1 hempty, ← hall, Digits.spell_blocks (by decide), Digits.spell_nil,
      Nat.zero_mul] at hspell
    have hzero : magnitude = 0 := by
      rcases Nat.mul_eq_zero.1 hspell.symm with h | h
      · exact h
      · exact absurd h hpow.ne'
    rw [hroom, hzero]
    exact iff_of_true ⟨_, rfl⟩ (Nat.pow_pos (by decide))
  · rename_i hgroups
    have hpos : 0 < (dropLastZeros all).length :=
      List.length_pos_iff.2 fun h => hgroups (List.isEmpty_iff.2 h)
    split
    · rename_i hfits
      exact iff_of_true ⟨_, rfl⟩ (by omega)
    · rename_i hfits
      exact iff_of_false nofun (by omega)

/-! ## The form -/

/-- A number that is `m` with `scale` digits behind the point, without groups of zero at either
end. -/
structure IsCanonical (n : Numeric) (m : ℤ) (scale : UInt16) : Prop where
  groups_lt : ∀ g ∈ n.groups, g < radix
  head_ne_zero : ∀ g, n.groups.head? = some g → g ≠ 0
  last_ne_zero : ∀ g, n.groups.getLast? = some g → g ≠ 0
  negative_eq : n.negative = decide (m < 0)
  of_zero : m = 0 → n.groups = [] ∧ n.weight = 0
  scale_eq : n.scale = scale
  placeValue_eq : placeValue n.weight.toInt n.groups = |(m : ℚ)| / 10 ^ scale.toNat

/-- The groups of a number are its digits, the zeros at their end left out.  Zero has none, and the
fields of zero. -/
lemma groups_ofMagnitude (h : ofMagnitude? negative magnitude scale = some n) :
    (∃ padding, n.groups = dropLastZeros (Digits.blocks radix (magnitude * 10 ^ padding)))
      ∧ (n.groups = [] → n = ⟨false, 0, scale, []⟩) := by
  unfold ofMagnitude? at h
  dsimp only at h
  rw [Nat.pow_eq] at h
  split at h
  · rename_i hempty
    cases h
    exact ⟨⟨_, (List.isEmpty_iff.1 hempty).symm⟩, fun _ => rfl⟩
  · rename_i hgroups
    split at h
    · cases h
      exact ⟨⟨_, rfl⟩, fun hempty => absurd (List.isEmpty_iff.2 hempty) hgroups⟩
    · cases h

lemma head_ofMagnitude_ne_zero (h : ofMagnitude? negative magnitude scale = some n) {g : Nat}
    (hg : n.groups.head? = some g) : g ≠ 0 := by
  obtain ⟨⟨padding, hgroups⟩, -⟩ := groups_ofMagnitude h
  obtain ⟨dropped, hall⟩ := dropLastZeros_prefix (Digits.blocks radix (magnitude * 10 ^ padding))
  obtain ⟨others, hothers⟩ := List.head?_eq_some_iff.1 hg
  rw [← hgroups, hothers, List.cons_append] at hall
  exact Digits.head_blocks_ne_zero hall.symm

lemma length_ofMagnitude_lt (h : ofMagnitude? negative magnitude scale = some n) :
    n.groups.length < 65536 := by
  obtain ⟨_, _, _, _, _, _, _, rfl | ⟨hlength, _⟩⟩ := ofMagnitude_cases h
  · exact Nat.zero_lt_succ _
  · exact hlength

/-- Zero is written without groups, sign and weight. -/
lemma ofMagnitude_zero (h : ofMagnitude? negative 0 scale = some n) :
    n = ⟨false, 0, scale, []⟩ := by
  obtain ⟨⟨padding, hgroups⟩, hfields⟩ := groups_ofMagnitude h
  have hnone : Digits.blocks radix (0 * 10 ^ padding) = [] := by
    rw [Nat.zero_mul]
    exact List.length_eq_zero_iff.1
      (Nat.le_zero.1 ((Digits.length_blocks_le_iff (by decide)).2 Nat.one_pos))
  refine hfields ?_
  rw [hgroups, hnone]
  rfl

/-- **The form.**  A number is written without groups of zero at either end, and is the number that
its groups stand for. -/
theorem isCanonical_ofMagnitude {m : ℤ}
    (h : ofMagnitude? (decide (m < 0)) m.natAbs scale = some n) : n.IsCanonical m scale := by
  obtain ⟨padding, _, _, _, hspell, hscale, hgroups, hcases⟩ := ofMagnitude_cases h
  have hzero (hm : m = 0) : n = ⟨false, 0, scale, []⟩ := by
    rw [hm, Int.natAbs_zero] at h
    exact ofMagnitude_zero h
  have hsign : n.negative = decide (m < 0) := by
    by_cases hm : m = 0
    · rw [hzero hm, hm]
      rfl
    · rcases hcases with rfl | ⟨-, hnegative, -⟩
      · rw [Digits.spell_nil, Nat.zero_mul] at hspell
        have hpow : 0 < 10 ^ padding := Nat.pow_pos (by decide)
        have hpos : 0 < m.natAbs := Int.natAbs_pos.2 hm
        exact absurd hspell (Nat.mul_pos hpos hpow).ne
      · exact hnegative
  have hvalue : (m : ℚ) = n.value * 10 ^ scale.toNat := by
    have hmantissa : n.mantissa? = some m := by
      rw [mantissa?_ofMagnitude h]
      simp only [decide_eq_true_eq]
      congr 1
      omega
    rw [← hscale]
    exact (mantissa?_eq_some (length_ofMagnitude_lt h)).1 hmantissa
  refine ⟨hgroups, fun g => head_ofMagnitude_ne_zero h, fun g hg => ?_, hsign, fun hm => ?_, hscale,
    ?_⟩
  · obtain ⟨⟨padding, hall⟩, -⟩ := groups_ofMagnitude h
    rw [hall] at hg
    exact last_dropLastZeros_ne_zero hg
  · rw [hzero hm]
    exact ⟨rfl, rfl⟩
  · have hpow : (10 : ℚ) ^ scale.toNat ≠ 0 := pow_ne_zero _ (by norm_num)
    rw [eq_div_iff hpow]
    rw [value, hsign] at hvalue
    by_cases hm : m < 0
    · rw [if_pos (decide_eq_true hm)] at hvalue
      rw [abs_of_neg (by exact_mod_cast hm), hvalue, neg_mul, neg_neg]
    · rw [if_neg (by simpa using hm)] at hvalue
      rw [abs_of_nonneg (by exact_mod_cast not_lt.1 hm), hvalue]

end

/-! ## Writing decimals and integers -/

/-- A value that is `m` with `scale` digits behind the point is accepted exactly when there is room
for its digits in front of the point, and refused as too large otherwise; what is written is the one
form without groups of zero at either end, and is read back as the very value. -/
structure WrittenExactly (kind : ScalarKind) (value : Scalar) (m : ℤ) (scale : UInt16) : Prop where
  accepted_iff (path : Path) :
    (∃ payload, encodeScalar kind path (.scalar value) = .ok payload)
      ↔ |m| < 10 ^ (wholeDigits + scale.toNat)
  refused (path : Path) :
    ¬ |m| < 10 ^ (wholeDigits + scale.toNat)
      → encodeScalar kind path (.scalar value) = .error (.codecMismatch path .numberTooLarge)
  isCanonical (path : Path) (payload : Bytes) :
    encodeScalar kind path (.scalar value) = .ok payload
      → ∃ p : Fields, payload = p.bytes ∧ p.IsValid ∧ p.number.IsCanonical m scale
  read_back (path path' : Path) (payload : Bytes) :
    encodeScalar kind path (.scalar value) = .ok payload
      → readInto path' kind kind payload = .ok value []

/-- The payload of a number, or the error of one that has no room. -/
def encoded (path : Path) (m : ℤ) (scale : UInt16) : Except Error Bytes :=
  match ofMagnitude? (decide (m < 0)) m.natAbs scale with
  | some n => .ok n.toBytes
  | none => .error (.codecMismatch path .numberTooLarge)

lemma encoded_eq_ok {path : Path} {m : ℤ} {scale : UInt16} {payload : Bytes} :
    encoded path m scale = .ok payload
      ↔ ∃ n, ofMagnitude? (decide (m < 0)) m.natAbs scale = some n ∧ payload = n.toBytes := by
  rw [encoded]
  cases ofMagnitude? (decide (m < 0)) m.natAbs scale with
  | none => exact iff_of_false nofun (by simp)
  | some n =>
    constructor
    · rintro ⟨⟩
      exact ⟨n, rfl, rfl⟩
    · rintro ⟨n', hn, rfl⟩
      cases hn
      rfl

/-- The payload of a number has the fields that make it. -/
lemma exists_fields_toBytes {n : Numeric} (hlength : n.groups.length < 65536)
    (hgroups : ∀ g ∈ n.groups, g < radix) :
    ∃ p : Fields, n.toBytes = p.bytes ∧ p.IsValid ∧ p.number = n := by
  let fail := badScalar Path.result .decimal
  obtain ⟨p, hvalid, hnumber, hbytes⟩ :=
    (reads_fields fail _ _ _).1 (read_toBytes fail hlength hgroups [])
  rw [List.append_nil, List.append_nil] at hbytes
  exact ⟨p, hbytes, hvalid, hnumber.symm⟩

/-- A value that is written as a number, and read back from what was written, is written exactly. -/
lemma writtenExactly_of {kind : ScalarKind} {value : Scalar} {m : ℤ} {scale : UInt16}
    (hencode : ∀ path, encodeScalar kind path (.scalar value) = encoded path m scale)
    (hread : ∀ path n, ofMagnitude? (decide (m < 0)) m.natAbs scale = some n
      → readInto path kind kind n.toBytes = .ok value []) :
    WrittenExactly kind value m scale := by
  have hroom : (∃ n, ofMagnitude? (decide (m < 0)) m.natAbs scale = some n)
      ↔ |m| < 10 ^ (wholeDigits + scale.toNat) := by
    rw [exists_ofMagnitude_iff, Int.abs_eq_natAbs, ← Int.ofNat_lt, Nat.cast_pow]
    rfl
  refine ⟨fun path => ?_, fun path hlarge => ?_, fun path payload h => ?_,
    fun path path' payload h => ?_⟩
  · rw [hencode, ← hroom]
    simp only [encoded_eq_ok]
    constructor
    · rintro ⟨payload, n, hn, -⟩
      exact ⟨n, hn⟩
    · rintro ⟨n, hn⟩
      exact ⟨n.toBytes, n, hn, rfl⟩
  · rw [← hroom] at hlarge
    rw [hencode, encoded]
    split
    · rename_i n hn
      exact absurd ⟨n, hn⟩ hlarge
    · rfl
  · rw [hencode] at h
    obtain ⟨n, hn, rfl⟩ := encoded_eq_ok.1 h
    have hcanonical := isCanonical_ofMagnitude hn
    obtain ⟨p, hbytes, hvalid, rfl⟩ :=
      exists_fields_toBytes (length_ofMagnitude_lt hn) hcanonical.groups_lt
    exact ⟨p, hbytes, hvalid, hcanonical⟩
  · rw [hencode] at h
    obtain ⟨n, hn, rfl⟩ := encoded_eq_ok.1 h
    exact hread path' n hn

/-- **Exact writing.**  Every decimal and every integer is written exactly, or refused when its
digits in front of the point have no room. -/
theorem encodeScalar_exact :
    (∀ (m : ℤ) (scale : UInt16), WrittenExactly .decimal (.decimal ⟨m, scale⟩) m scale)
      ∧ ∀ m : ℤ, WrittenExactly .bigint (.bigint m) m 0 := by
  refine ⟨fun m scale => writtenExactly_of (fun path => ?_) fun path n hn => ?_,
    fun m => writtenExactly_of (fun path => ?_) fun path n hn => ?_⟩
  · simp only [encodeScalar, Scalar.kind, if_true, Scalar.toBytes?, Decimal.isNegative, encoded]
    cases ofMagnitude? (decide (m < 0)) m.natAbs scale <;> rfl
  · have hread := readDecimal_toBytes (badScalar path .decimal) (d := ⟨m, scale⟩) hn []
    rw [List.append_nil] at hread
    exact readInto_decimal_eq_ok.2 ⟨_, hread, rfl⟩
  · simp only [encodeScalar, Scalar.kind, if_true, Scalar.toBytes?, encoded]
    cases ofMagnitude? (decide (m < 0)) m.natAbs 0 <;> rfl
  · have hread := readInteger_toBytes (badScalar path .bigint) hn []
    rw [List.append_nil] at hread
    exact readInto_bigint_eq_ok.2 ⟨_, hread, rfl⟩

end Numeric

end QueryWire
