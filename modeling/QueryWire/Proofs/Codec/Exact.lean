import Mathlib.Algebra.BigOperators.Fin
import Mathlib.Tactic.NormNum
import QueryWire.Codec.Scalar
import QueryWire.Proofs.Codec.Numeric
import QueryWire.Proofs.Wire.Forms

/-!
# Numbers of any size are read exactly

The payload of a number is its fields, one after the other, whatever stands in them.  The number
that they stand for is a rational one; an integer or a decimal is read when that number has the
form asked for, and it is then this very number, also when groups of zero stand at either end.

* `Numeric.placeValue`, `Numeric.value` — the number that groups stand for, as a sum.
* **`Numeric.cast_integer?`**, **`Numeric.mantissa?_eq_some`** — the integer and the mantissa are that
  number; `Numeric.exists_integer?_iff` says when there is an integer.
* `Numeric.Fields` — the fields of a payload as they stand there.
* **`Numeric.reads_fields`**, `Numeric.Fields.bytes_append_inj` — what is read as a number, and that
  the fields of a payload are its own.
* **`Numeric.readInto_exact`** — what is read of a payload, and of too few bytes.
-/

namespace QueryWire

namespace Numeric

/-! ## The number that groups stand for -/

/-- The number that groups stand for when the first of them counts `radix ^ weight`. -/
def placeValue (weight : Int) (groups : List Nat) : ℚ :=
  ∑ i : Fin groups.length, (groups[i] : ℚ) * (radix : ℚ) ^ (weight - (i : ℤ))

/-- The number that a number in groups is. -/
def value (n : Numeric) : ℚ :=
  if n.negative then -placeValue n.weight.toInt n.groups else placeValue n.weight.toInt n.groups

lemma radix_ne_zero : (radix : ℚ) ≠ 0 := by
  rw [radix]
  norm_num

/-- The groups are spelled as a whole number, which the last of them puts in its place. -/
lemma placeValue_eq (weight : Int) (groups : List Nat) :
    placeValue weight groups
      = (Digits.spell radix groups : ℚ) * (radix : ℚ) ^ (weight + 1 - groups.length) := by
  induction groups generalizing weight with
  | nil => simp [placeValue]
  | cons g groups ih =>
    have hothers : placeValue weight (g :: groups)
        = g * (radix : ℚ) ^ weight + placeValue (weight - 1) groups := by
      refine (Fin.sum_univ_succ _).trans (congrArg₂ (· + ·) ?_ (Finset.sum_congr rfl fun i _ => ?_))
      · simp
      · simp [sub_sub, add_comm]
    have hplace : (radix : ℚ) ^ weight
        = (radix : ℚ) ^ groups.length * (radix : ℚ) ^ (weight - 1 + 1 - groups.length) := by
      rw [← zpow_natCast, ← zpow_add₀ radix_ne_zero]
      congr 1
      ring
    have hlength : weight + 1 - ((g :: groups).length : ℤ) = weight - 1 + 1 - groups.length := by
      rw [List.length_cons]
      push_cast
      ring
    rw [hothers, ih, Digits.spell_cons, hlength, hplace]
    push_cast
    ring

section

variable {n : Numeric}

lemma signed_mul (n : Numeric) (a b : Nat) : n.signed (a * b) = n.signed a * b := by
  simp only [signed]
  split
  · push_cast
    ring
  · push_cast
    rfl

lemma natAbs_signed (n : Numeric) (a : Nat) : (n.signed a).natAbs = a := by
  simp only [signed]
  split <;> simp

lemma value_eq (n : Numeric) :
    n.value = (n.signed n.magnitude : ℚ) * (radix : ℚ) ^ n.exponent := by
  simp only [value, signed, exponent, magnitude_eq, placeValue_eq]
  split
  · push_cast
    ring
  · push_cast
    rfl

/-- In units of the last digit shown, the number is its magnitude shifted. -/
lemma value_mul_scale (n : Numeric) :
    n.value * 10 ^ n.scale.toNat = (n.signed n.magnitude : ℚ) * (10 : ℚ) ^ n.shift := by
  have hten : (10 : ℚ) ≠ 0 := by norm_num
  have hradix : (radix : ℚ) = 10 ^ (4 : ℤ) := by
    rw [radix]
    norm_num
  rw [value_eq, hradix, ← zpow_mul, mul_assoc, ← zpow_natCast, ← zpow_add₀ hten]
  rfl

/-- A number is read as an integer when no groups lie behind the point. -/
lemma exists_integer?_iff (hlength : n.groups.length < 65536) :
    (∃ m, n.integer? = some m)
      ↔ n.groups = [] ∨ (n.groups.length : ℤ) ≤ n.weight.toInt + 1 := by
  have hexponent : n.exponent < 0 ↔ ¬ (n.groups.length : ℤ) ≤ n.weight.toInt + 1 := by
    rw [exponent]
    omega
  rw [integer?_eq hlength]
  by_cases hfraction : n.exponent < 0 ∧ n.groups ≠ []
  · rw [if_pos hfraction]
    refine iff_of_false ?_ fun h => h.elim hfraction.2 (hexponent.1 hfraction.1)
    rintro ⟨m, hm⟩
    cases hm
  · rw [if_neg hfraction]
    rw [hexponent] at hfraction
    exact iff_of_true ⟨_, rfl⟩ (by tauto)

/-- **Integers.**  The integer that is read is the number. -/
theorem cast_integer? (hlength : n.groups.length < 65536) {m : ℤ} (h : n.integer? = some m) :
    (m : ℚ) = n.value := by
  rw [integer?_eq hlength] at h
  split at h
  · cases h
  · rename_i hfraction
    obtain rfl := Option.some.inj h
    by_cases hempty : n.groups = []
    · have hmagnitude : n.magnitude = 0 := by
        rw [magnitude_eq, hempty]
        rfl
      rw [value_eq, hmagnitude, Nat.zero_mul]
      simp [signed]
    · have hplaces : (radix : ℚ) ^ n.exponent = ((radix ^ n.exponent.toNat : Nat) : ℚ) := by
        have hnonneg : 0 ≤ n.exponent := not_lt.1 fun h => hfraction ⟨h, hempty⟩
        rw [Nat.cast_pow, ← zpow_natCast, Int.toNat_of_nonneg hnonneg]
      rw [value_eq, hplaces, signed_mul]
      push_cast
      rfl

/-- **Mantissas.**  A number is read as a decimal when it is a whole number of units of the last
digit shown. -/
theorem mantissa?_eq_some (hlength : n.groups.length < 65536) {m : ℤ} :
    n.mantissa? = some m ↔ (m : ℚ) = n.value * 10 ^ n.scale.toNat := by
  rw [mantissa?_eq hlength, value_mul_scale]
  by_cases hshift : 0 ≤ n.shift
  · have hplaces : (10 : ℚ) ^ n.shift = ((10 ^ n.shift.toNat : Nat) : ℚ) := by
      rw [Nat.cast_pow, ← zpow_natCast, Int.toNat_of_nonneg hshift]
      rfl
    rw [if_pos hshift, signed_mul, Option.some.injEq, hplaces, eq_comm]
    constructor
    · rintro rfl
      push_cast
      rfl
    · intro h
      exact_mod_cast h
  · -- the places behind the last digit shown must be zeros
    have hplaces : (10 : ℚ) ^ n.shift = ((10 ^ (-n.shift).toNat : Nat) : ℚ)⁻¹ := by
      rw [Nat.cast_pow, ← zpow_natCast, Int.toNat_of_nonneg (by omega), zpow_neg, inv_inv]
      rfl
    rw [if_neg hshift, hplaces]
    generalize hdivisor : 10 ^ (-n.shift).toNat = divisor
    have hpos : 0 < divisor := by
      rw [← hdivisor]
      exact Nat.pow_pos (by decide)
    have hne : (divisor : ℚ) ≠ 0 := by exact_mod_cast hpos.ne'
    have hwhole : ((m : ℚ) = (n.signed n.magnitude : ℚ) * (divisor : ℚ)⁻¹)
        ↔ m * divisor = n.signed n.magnitude := by
      rw [← div_eq_mul_inv, eq_div_iff hne]
      norm_cast
    rw [hwhole]
    by_cases hmod : n.magnitude % divisor = 0
    · obtain ⟨q, hq⟩ := Nat.dvd_of_mod_eq_zero hmod
      rw [if_pos hmod, hq, Nat.mul_div_cancel_left q hpos, Nat.mul_comm, signed_mul,
        Option.some.injEq, eq_comm]
      refine ⟨fun h => by rw [h], fun h => Int.eq_of_mul_eq_mul_right ?_ h⟩
      exact_mod_cast hpos.ne'
    · rw [if_neg hmod]
      refine iff_of_false nofun fun h => hmod ?_
      have habs := congrArg Int.natAbs h
      rw [natAbs_signed, Int.natAbs_mul, Int.natAbs_natCast] at habs
      rw [← habs, Nat.mul_mod_left]

end

/-! ## The fields of a payload -/

/-- The fields of a payload as they stand there, whether or not they make a number. -/
structure Fields where
  weight : Int16
  sign : UInt16
  scale : UInt16
  groups : List UInt16
  count_lt : groups.length < 65536

/-- Groups of 16 bits, those below the radix among them. -/
def groupForm : Form UInt16 Nat where
  Fits group := group.toNat < radix
  bytes group := BigEndian.encode 2 group.toNat
  value := UInt16.toNat

namespace Fields

/-- The count of the groups, the other fields, the groups. -/
def bytes (p : Fields) : Bytes :=
  BigEndian.encode 2 p.groups.length
    ++ (BigEndian.encode 2 p.weight.toUInt16.toNat
      ++ (BigEndian.encode 2 p.sign.toNat
        ++ (BigEndian.encode 2 p.scale.toNat ++ p.groups.flatMap groupForm.bytes)))

/-- The sign word is one of the two, and all groups are below the radix. -/
def IsValid (p : Fields) : Prop :=
  (p.sign = plusWord ∨ p.sign = minusWord) ∧ ∀ group ∈ p.groups, group.toNat < radix

-- the groups are gone through one by one, not all words of sixteen bits
instance (p : Fields) : Decidable p.IsValid :=
  @instDecidableAnd _ _ inferInstance (List.decidableBAll _ _)

/-- The number that the fields make. -/
def number (p : Fields) : Numeric :=
  ⟨p.sign = minusWord, p.weight, p.scale, p.groups.map UInt16.toNat⟩

lemma encode_inj {a b : UInt16} (h : BigEndian.encode 2 a.toNat = BigEndian.encode 2 b.toNat) :
    a = b := by
  have hdecode := congrArg BigEndian.decode h
  rw [BigEndian.decode_encode_of_lt a.toNat_lt, BigEndian.decode_encode_of_lt b.toNat_lt] at hdecode
  exact UInt16.toNat_inj.1 hdecode

/-- The fields of a payload, and what stands behind it, can be told from the bytes. -/
theorem bytes_append_inj {p p' : Fields} {rest rest' : Bytes}
    (h : p.bytes ++ rest = p'.bytes ++ rest') : p = p' ∧ rest = rest' := by
  obtain ⟨weight, sign, scale, groups, hcount⟩ := p
  obtain ⟨weight', sign', scale', groups', hcount'⟩ := p'
  have hlength (a b : Nat) : (BigEndian.encode 2 a).length = (BigEndian.encode 2 b).length := by
    rw [BigEndian.length_encode, BigEndian.length_encode]
  simp only [bytes, List.append_assoc] at h
  obtain ⟨hcounts, h⟩ := List.append_inj h (hlength _ _)
  obtain ⟨hweight, h⟩ := List.append_inj h (hlength _ _)
  obtain ⟨hsign, h⟩ := List.append_inj h (hlength _ _)
  obtain ⟨hscale, h⟩ := List.append_inj h (hlength _ _)
  have hcounts : groups.length = groups'.length := by
    have hdecode := congrArg BigEndian.decode hcounts
    rwa [BigEndian.decode_encode_of_lt hcount, BigEndian.decode_encode_of_lt hcount'] at hdecode
  -- rows of equally many groups are read as themselves
  have hread := Reader.list_flatMap groups (fun g _ => Reader.u16_encode g) rest
  have hread' := Reader.list_flatMap groups' (fun g _ => Reader.u16_encode g) rest'
  rw [hcounts] at hread
  obtain ⟨rfl, rfl⟩ := EStateM.Result.ok.inj
    ((hread.symm.trans (congrArg (Reader.list Reader.u16 groups'.length) h)).trans hread')
  obtain rfl : weight = weight' := by simpa using congrArg UInt16.toInt16 (encode_inj hweight)
  obtain rfl := encode_inj hsign
  obtain rfl := encode_inj hscale
  exact ⟨rfl, rfl⟩

end Fields

section

variable (fail : BadScalar → Error)

lemma reads_group : (readGroup fail).Reads groupForm := by
  intro bytes group rest
  constructor
  · intro h
    obtain ⟨value, _, hvalue, hchecked⟩ := Reader.bind_eq_ok.1 h
    obtain ⟨hlt, rfl⟩ := Reader.nat_eq_ok.1 hvalue
    split at hchecked
    · rename_i hradix
      cases hchecked
      have hvalue : (UInt16.ofNat group).toNat = group := UInt16.toNat_ofNat_of_lt' hlt
      refine ⟨UInt16.ofNat group, ?_, hvalue.symm, ?_⟩
      · simp only [groupForm]
        rwa [hvalue]
      · simp only [groupForm]
        rw [hvalue]
    · cases hchecked
  · rintro ⟨group, hradix, rfl, rfl⟩
    exact readGroup_encode fail hradix rest

lemma readSign_eq_ok {bytes rest : Bytes} {negative : Bool} :
    readSign fail bytes = .ok negative rest
      ↔ ∃ word : UInt16, (word = plusWord ∨ word = minusWord)
        ∧ negative = decide (word = minusWord) ∧ bytes = BigEndian.encode 2 word.toNat ++ rest := by
  constructor
  · intro h
    obtain ⟨word, _, hword, hchecked⟩ := Reader.bind_eq_ok.1 h
    obtain rfl := Reader.u16_eq_ok.1 hword
    split at hchecked
    · rename_i hplus
      cases hchecked
      exact ⟨word, .inl hplus, by rw [hplus]; rfl, rfl⟩
    · split at hchecked
      · rename_i hminus
        cases hchecked
        exact ⟨word, .inr hminus, (decide_eq_true hminus).symm, rfl⟩
      · cases hchecked
  · rintro ⟨word, rfl | rfl, rfl, rfl⟩
    · exact readSign_word fail false rest
    · exact readSign_word fail true rest

/-- **Reading.**  A number is read of the payloads with valid fields, and it is the one that the
fields make. -/
theorem reads_fields : (read fail).Reads ⟨Fields.IsValid, Fields.bytes, Fields.number⟩ := by
  intro bytes n rest
  constructor
  · intro h
    obtain ⟨count, _, hcount, h⟩ := Reader.bind_eq_ok.1 h
    obtain ⟨weight, _, hweight, h⟩ := Reader.bind_eq_ok.1 h
    obtain ⟨negative, _, hsign, h⟩ := Reader.bind_eq_ok.1 h
    obtain ⟨scale, _, hscale, h⟩ := Reader.bind_eq_ok.1 h
    obtain ⟨groups, _, hgroups, h⟩ := Reader.bind_eq_ok.1 h
    cases h
    obtain ⟨hlt, rfl⟩ := Reader.nat_eq_ok.1 hcount
    obtain ⟨word, hword, rfl, rfl⟩ := (readSign_eq_ok fail).1 hsign
    obtain ⟨row, ⟨rfl, hrow⟩, rfl, rfl⟩ := ((reads_group fail).list count _ _ _).1 hgroups
    refine ⟨⟨weight, word, scale, row, hlt⟩, ⟨hword, hrow⟩, rfl, ?_⟩
    rw [Reader.i16_eq_ok.1 hweight, Reader.u16_eq_ok.1 hscale]
    simp only [Fields.bytes, List.append_assoc]
    rfl
  · rintro ⟨p, ⟨hsign, hgroups⟩, rfl, rfl⟩
    have hlist : Reader.list (readGroup fail) p.groups.length
        (p.groups.flatMap groupForm.bytes ++ rest) = .ok (p.groups.map UInt16.toNat) rest :=
      ((reads_group fail).list p.groups.length).ok ⟨rfl, hgroups⟩ rest
    simp only [Fields.bytes, read, List.append_assoc]
    rw [Reader.bind_of_ok (Reader.nat_encode p.count_lt _), Reader.bind_of_ok (Reader.i16_encode _ _),
      Reader.bind_of_ok ((readSign_eq_ok fail).2 ⟨p.sign, hsign, rfl, rfl⟩),
      Reader.bind_of_ok (Reader.u16_encode _ _), Reader.bind_of_ok hlist]
    rfl

lemma read_bytes {p : Fields} {rest rest' : Bytes} {n : Numeric} :
    read fail (p.bytes ++ rest) = .ok n rest' ↔ p.IsValid ∧ n = p.number ∧ rest' = rest := by
  constructor
  · intro h
    obtain ⟨p', hvalid, rfl, hbytes⟩ := (reads_fields fail _ _ _).1 h
    obtain ⟨rfl, rfl⟩ := Fields.bytes_append_inj hbytes
    exact ⟨hvalid, rfl, rfl⟩
  · rintro ⟨hvalid, rfl, rfl⟩
    exact (reads_fields fail).ok hvalid _

/-! ## Reading integers and decimals -/

lemma readDecimal_eq_ok {bytes rest : Bytes} {d : Decimal} :
    readDecimal fail bytes = .ok d rest
      ↔ ∃ n, read fail bytes = .ok n rest ∧ n.mantissa? = some d.mantissa ∧ d.scale = n.scale := by
  constructor
  · intro h
    obtain ⟨n, _, hread, hvalue⟩ := Reader.bind_eq_ok.1 h
    cases hmantissa : n.mantissa? with
    | none =>
      rw [hmantissa] at hvalue
      cases hvalue
    | some m =>
      rw [hmantissa] at hvalue
      cases hvalue
      exact ⟨n, hread, hmantissa, rfl⟩
  · rintro ⟨n, hread, hmantissa, hscale⟩
    simp only [readDecimal]
    rw [Reader.bind_of_ok hread, hmantissa, ← hscale]
    rfl

lemma readInteger_eq_ok {bytes rest : Bytes} {m : ℤ} :
    readInteger fail bytes = .ok m rest
      ↔ ∃ n, read fail bytes = .ok n rest ∧ n.scale = 0 ∧ n.integer? = some m := by
  constructor
  · intro h
    obtain ⟨n, _, hread, hvalue⟩ := Reader.bind_eq_ok.1 h
    by_cases hscale : n.scale = 0
    · simp only [hscale, bne_self_eq_false, Bool.false_eq_true, if_false] at hvalue
      cases hinteger : n.integer? with
      | none =>
        rw [hinteger] at hvalue
        cases hvalue
      | some m =>
        rw [hinteger] at hvalue
        cases hvalue
        exact ⟨n, hread, hscale, hinteger⟩
    · rw [if_pos (by simpa using hscale)] at hvalue
      cases hvalue
  · rintro ⟨n, hread, hscale, hinteger⟩
    simp only [readInteger]
    rw [Reader.bind_of_ok hread, hscale, hinteger]
    rfl

end

variable {path : Path} {bytes rest : Bytes} {v : Scalar}

lemma readInto_decimal_eq_ok :
    readInto path .decimal .decimal bytes = .ok v rest
      ↔ ∃ d, readDecimal (badScalar path .decimal) bytes = .ok d rest ∧ v = .decimal d := by
  constructor
  · intro h
    obtain ⟨d, _, hread, hpure⟩ := Reader.bind_eq_ok.1 h
    cases hpure
    exact ⟨d, hread, rfl⟩
  · rintro ⟨d, hread, rfl⟩
    exact Reader.bind_eq_ok.2 ⟨d, rest, hread, rfl⟩

lemma readInto_bigint_eq_ok :
    readInto path .bigint .bigint bytes = .ok v rest
      ↔ ∃ m, readInteger (badScalar path .bigint) bytes = .ok m rest ∧ v = .bigint m := by
  constructor
  · intro h
    obtain ⟨m, _, hread, hpure⟩ := Reader.bind_eq_ok.1 h
    cases hpure
    exact ⟨m, hread, rfl⟩
  · rintro ⟨m, hread, rfl⟩
    exact Reader.bind_eq_ok.2 ⟨m, rest, hread, rfl⟩

lemma Fields.length_groups_lt (p : Fields) : p.number.groups.length < 65536 := by
  rw [number, List.length_map]
  exact p.count_lt

/-- A decimal is read when its number is a whole number of units of the last digit shown. -/
lemma readInto_decimal_bytes {p : Fields} {rest' : Bytes} :
    readInto path .decimal .decimal (p.bytes ++ rest) = .ok v rest'
      ↔ p.IsValid ∧ rest' = rest
        ∧ ∃ m : ℤ, v = .decimal ⟨m, p.scale⟩ ∧ (m : ℚ) = p.number.value * 10 ^ p.scale.toNat := by
  rw [readInto_decimal_eq_ok]
  simp only [readDecimal_eq_ok, read_bytes]
  constructor
  · rintro ⟨⟨m, scale⟩, ⟨n, ⟨hvalid, rfl, hrest⟩, hmantissa, rfl⟩, rfl⟩
    exact ⟨hvalid, hrest, m, rfl, (mantissa?_eq_some p.length_groups_lt).1 hmantissa⟩
  · rintro ⟨hvalid, hrest, m, rfl, hm⟩
    exact ⟨_, ⟨_, ⟨hvalid, rfl, hrest⟩, (mantissa?_eq_some p.length_groups_lt).2 hm, rfl⟩, rfl⟩

/-- An integer is read when the scale is zero and no groups lie behind the point. -/
lemma readInto_bigint_bytes {p : Fields} {rest' : Bytes} :
    readInto path .bigint .bigint (p.bytes ++ rest) = .ok v rest'
      ↔ (p.IsValid ∧ p.scale = 0) ∧ rest' = rest
        ∧ ∃ m : ℤ, v = .bigint m ∧ p.number.integer? = some m := by
  rw [readInto_bigint_eq_ok]
  simp only [readInteger_eq_ok, read_bytes]
  constructor
  · rintro ⟨m, ⟨n, ⟨hvalid, rfl, hrest⟩, hscale, hinteger⟩, rfl⟩
    exact ⟨⟨hvalid, hscale⟩, hrest, m, rfl, hinteger⟩
  · rintro ⟨⟨hvalid, hscale⟩, hrest, m, rfl, hm⟩
    exact ⟨_, ⟨_, ⟨hvalid, rfl, hrest⟩, hscale, hm⟩, rfl⟩

/-- What is read starts with the fields of a payload. -/
lemma exists_fields_of_readInto {kind : ScalarKind} (hkind : kind = .decimal ∨ kind = .bigint)
    (h : readInto path kind kind bytes = .ok v rest) : ∃ p : Fields, bytes = p.bytes ++ rest := by
  rcases hkind with rfl | rfl
  · obtain ⟨d, hdecimal, -⟩ := readInto_decimal_eq_ok.1 h
    obtain ⟨n, hread, -⟩ := (readDecimal_eq_ok _).1 hdecimal
    obtain ⟨p, -, -, hbytes⟩ := (reads_fields _ _ _ _).1 hread
    exact ⟨p, hbytes⟩
  · obtain ⟨m, hinteger, -⟩ := readInto_bigint_eq_ok.1 h
    obtain ⟨n, hread, -⟩ := (readInteger_eq_ok _).1 hinteger
    obtain ⟨p, -, -, hbytes⟩ := (reads_fields _ _ _ _).1 hread
    exact ⟨p, hbytes⟩

/-- **Exact reading.**  Of a payload with any fields a decimal is read exactly when the fields are
valid and the number is a whole number of units of the last digit shown, and an integer exactly when
they are valid, the scale is zero and no groups lie behind the point; what is read is that number.
Of bytes that are too few for their fields nothing is read.  The exponents that are taken in 32 bits
on the way keep their values. -/
theorem readInto_exact (path : Path) :
    (∀ (p : Fields) (rest : Bytes),
      ((∃ v rest', readInto path .decimal .decimal (p.bytes ++ rest) = .ok v rest')
        ↔ p.IsValid ∧ ∃ m : ℤ, (m : ℚ) = p.number.value * 10 ^ p.scale.toNat)
      ∧ ∀ v rest', readInto path .decimal .decimal (p.bytes ++ rest) = .ok v rest'
        → rest' = rest
          ∧ ∃ m : ℤ, v = .decimal ⟨m, p.scale⟩ ∧ (m : ℚ) = p.number.value * 10 ^ p.scale.toNat)
    ∧ (∀ (p : Fields) (rest : Bytes),
      ((∃ v rest', readInto path .bigint .bigint (p.bytes ++ rest) = .ok v rest')
        ↔ p.IsValid ∧ p.scale = 0
          ∧ (p.groups = [] ∨ (p.groups.length : ℤ) ≤ p.weight.toInt + 1))
      ∧ ∀ v rest', readInto path .bigint .bigint (p.bytes ++ rest) = .ok v rest'
        → rest' = rest ∧ ∃ m : ℤ, v = .bigint m ∧ (m : ℚ) = p.number.value)
    ∧ (∀ (kind : ScalarKind) (bytes : Bytes), kind = .decimal ∨ kind = .bigint
      → (¬ ∃ (p : Fields) (rest : Bytes), bytes = p.bytes ++ rest)
      → ∃ e rest, readInto path kind kind bytes = .error e rest)
    ∧ ∀ p : Fields, (narrow (max p.number.exponent 0) : ℤ) = max p.number.exponent 0
      ∧ (0 ≤ p.number.shift → (narrow p.number.shift : ℤ) = p.number.shift)
      ∧ narrow p.number.shift.natAbs = p.number.shift.natAbs := by
  refine ⟨fun p rest => ⟨?_, ?_⟩, fun p rest => ⟨?_, ?_⟩, ?_, fun p => ?_⟩
  · simp only [readInto_decimal_bytes]
    constructor
    · rintro ⟨v, rest', hvalid, -, m, -, hm⟩
      exact ⟨hvalid, m, hm⟩
    · rintro ⟨hvalid, m, hm⟩
      exact ⟨_, _, hvalid, rfl, m, rfl, hm⟩
  · intro v rest' h
    exact (readInto_decimal_bytes.1 h).2
  · have hcount : p.number.groups = [] ∨ (p.number.groups.length : ℤ) ≤ p.number.weight.toInt + 1
        ↔ p.groups = [] ∨ (p.groups.length : ℤ) ≤ p.weight.toInt + 1 := by
      simp only [Fields.number, List.map_eq_nil_iff, List.length_map]
    rw [← hcount, ← exists_integer?_iff p.length_groups_lt]
    simp only [readInto_bigint_bytes]
    constructor
    · rintro ⟨v, rest', ⟨hvalid, hscale⟩, -, m, -, hm⟩
      exact ⟨hvalid, hscale, m, hm⟩
    · rintro ⟨hvalid, hscale, m, hm⟩
      exact ⟨_, _, ⟨hvalid, hscale⟩, rfl, m, rfl, hm⟩
  · intro v rest' h
    obtain ⟨-, hrest, m, hv, hm⟩ := readInto_bigint_bytes.1 h
    exact ⟨hrest, m, hv, cast_integer? p.length_groups_lt hm⟩
  · intro kind bytes hkind hshort
    cases hread : readInto path kind kind bytes with
    | ok v rest =>
      obtain ⟨p, hbytes⟩ := exists_fields_of_readInto hkind hread
      exact absurd ⟨p, rest, hbytes⟩ hshort
    | error e rest => exact ⟨e, rest, rfl⟩
  · have hexponent := exponent_bounds p.length_groups_lt
    have hshift := shift_bounds p.length_groups_lt
    refine ⟨?_, fun hle => ?_, ?_⟩
    · rw [narrow_of_lt (by omega) (by omega)]
      omega
    · rw [narrow_of_lt hle hshift.2]
      omega
    · rw [narrow_of_lt (by omega) (by omega), Int.toNat_natCast]

/-- The fields of `-12.34` with a group of zero at either end. -/
def looseFields : Fields := ⟨1, 0x4000, 2, [0, 12, 3400, 0], by decide⟩

/-- A number with groups of zero at both ends is read as the number that it is. -/
theorem readInto_exact_looseFields :
    looseFields.IsValid
      ∧ readInto Path.result .decimal .decimal (looseFields.bytes ++ [7])
        = .ok (.decimal ⟨-1234, 2⟩) [7] := by
  have hvalid : looseFields.IsValid := by decide
  have hplaces : placeValue 1 [0, 12, 3400, 0] = 1234 / 100 := by
    simp [placeValue, Fin.sum_univ_succ, radix]
    norm_num
  have hvalue : looseFields.number.value * 10 ^ looseFields.scale.toNat = ((-1234 : ℤ) : ℚ) := by
    change -placeValue 1 [0, 12, 3400, 0] * 10 ^ 2 = _
    rw [hplaces]
    norm_num
  obtain ⟨hdecimal, -⟩ := readInto_exact Path.result
  obtain ⟨hread, hresult⟩ := hdecimal looseFields [7]
  obtain ⟨v, rest', h⟩ := hread.2 ⟨hvalid, -1234, hvalue.symm⟩
  obtain ⟨rfl, m, rfl, hm⟩ := hresult v rest' h
  obtain rfl : m = -1234 := by exact_mod_cast hm.trans hvalue
  exact ⟨hvalid, h⟩

end Numeric

end QueryWire
