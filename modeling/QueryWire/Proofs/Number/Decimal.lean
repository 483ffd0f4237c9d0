import Mathlib.Data.List.TakeWhile
import QueryWire.Number.Decimal
import QueryWire.Proofs.Text.Decimal

/-!
# Decimals and their literals

A decimal is an integer with a scale, and a literal a sign, some digits and a point.  The two
correspond: a literal of a decimal is read as that decimal, and a text is read exactly when a literal
stands in it, blanks around it aside.  Literals differ in more than decimals do: plus signs, leading
zeros, a missing digit in front of the point, a point without digits behind it and the sign of zero
are lost, and what is written for a decimal is the literal without them.

* `Text.trimChars_append`, `Text.exists_trimChars` — a text and the blanks around it.
* `Decimal.Literal` — a literal part by part, with `Literal.IsValid`, `Literal.decimal` and
  `Literal.normal`.
* `Decimal.Literal.ofChars` — the parts that characters fall into, whether or not they are valid.
* `Decimal.Literal.ofDecimal` — the literal of a decimal: `Literal.chars_ofDecimal`,
  `Literal.decimal_ofDecimal`.
* **`Decimal.ofLiteral?_eq_some`** — which characters are read, and as what.
* **`Decimal.Literal.text_decimal`** — what is written for the decimal of a literal.
* **`Decimal.parse?_exact`** — the correspondence as a whole.
-/

namespace QueryWire

/-! ## Blanks around a text -/

namespace Text

variable {before middle after : List Char}

lemma dropWhile_eq_self {p : Char → Bool} {cs : List Char} (h : ∀ c ∈ cs, p c = false) :
    cs.dropWhile p = cs := by
  cases cs with
  | nil => rfl
  | cons c cs => exact List.dropWhile_cons_of_neg (by simp [h c List.mem_cons_self])

/-- The blanks around other characters are taken off. -/
lemma trimChars_append (hbefore : ∀ c ∈ before, isBlank c = true)
    (hmiddle : ∀ c ∈ middle, isBlank c = false) (hne : middle ≠ [])
    (hafter : ∀ c ∈ after, isBlank c = true) : trimChars (before ++ middle ++ after) = middle := by
  have hfront : (before ++ middle ++ after).dropWhile isBlank = middle ++ after := by
    rw [List.append_assoc, List.dropWhile_append_of_pos hbefore]
    cases middle with
    | nil => exact absurd rfl hne
    | cons c middle =>
      exact List.dropWhile_cons_of_neg (by simp [hmiddle c List.mem_cons_self])
  have hback : (middle ++ after).reverse.dropWhile isBlank = middle.reverse := by
    rw [List.reverse_append,
      List.dropWhile_append_of_pos (fun c hc => hafter c (List.mem_reverse.1 hc))]
    exact dropWhile_eq_self fun c hc => hmiddle c (List.mem_reverse.1 hc)
  rw [trimChars, hfront, hback, List.reverse_reverse]

/-- What is taken off are blanks. -/
lemma exists_trimChars (cs : List Char) :
    ∃ before after, (∀ c ∈ before, isBlank c = true) ∧ (∀ c ∈ after, isBlank c = true)
      ∧ cs = before ++ trimChars cs ++ after := by
  have hblank (l : List Char) : ∀ c ∈ l.takeWhile isBlank, isBlank c = true :=
    fun _ hc => List.mem_takeWhile_imp hc
  refine ⟨cs.takeWhile isBlank, ((cs.dropWhile isBlank).reverse.takeWhile isBlank).reverse,
    hblank cs, fun c hc => hblank _ c (List.mem_reverse.1 hc), ?_⟩
  rw [trimChars, List.append_assoc, ← List.reverse_append, List.takeWhile_append_dropWhile,
    List.reverse_reverse, List.takeWhile_append_dropWhile]

lemma isBlank_of_isDigit {c : Char} (h : Digits.isDigit c = true) : isBlank c = false := by
  rw [Digits.isDigit_iff] at h
  simp only [isBlank, Bool.or_eq_false_iff, Bool.and_eq_false_iff, decide_eq_false_iff_not,
    beq_eq_false_iff_ne]
  omega

end Text

namespace Decimal

/-! ## Literals -/

/-- The sign in front of a literal. -/
inductive Sign where
  | none
  | plus
  | minus
deriving DecidableEq

/-- A sign as it is written. -/
def Sign.chars : Sign → List Char
  | .none => []
  | .plus => ['+']
  | .minus => ['-']

/-- A decimal literal, part by part. -/
structure Literal where
  sign : Sign
  /-- What stands in front of the point. -/
  whole : List Char
  /-- Whether there is a point. -/
  point : Bool
  /-- What stands behind the point. -/
  fraction : List Char

namespace Literal

/-- There are digits only, at least one of them, and not more behind the point than can be
counted. -/
structure IsValid (l : Literal) : Prop where
  whole : Digits.AreDigits l.whole
  fraction : Digits.AreDigits l.fraction
  digits : l.whole ≠ [] ∨ l.fraction ≠ []
  point : l.point = false → l.fraction = []
  length_le : l.fraction.length ≤ 65535

/-- What follows the sign. -/
def body (l : Literal) : List Char := l.whole ++ if l.point then '.' :: l.fraction else []

/-- A literal as it is written. -/
def chars (l : Literal) : List Char := l.sign.chars ++ l.body

/-- A literal stands in a text, with blanks around it. -/
def StandsIn (l : Literal) (text : String) : Prop :=
  ∃ before after, (∀ c ∈ before, Text.isBlank c = true) ∧ (∀ c ∈ after, Text.isBlank c = true)
    ∧ text.toList = before ++ l.chars ++ after

/-- The number that all digits spell. -/
def number (l : Literal) : Nat := Nat.ofDigits 10 ((l.whole ++ l.fraction).map Digits.worth).reverse

/-- The decimal of a literal: the digits as mantissa, and as many of them behind the point. -/
def decimal (l : Literal) : Decimal :=
  ⟨if l.sign = .minus then -(l.number : ℤ) else l.number, UInt16.ofNat l.fraction.length⟩

/-- A literal without all that makes no difference: no plus sign and a minus sign only for numbers
other than zero, no leading zeros except for one that stands alone in front of the point, and a point
only in front of digits. -/
def normal (l : Literal) : Literal where
  sign := if l.sign = .minus ∧ l.number ≠ 0 then .minus else .none
  whole := if l.whole.dropWhile (· == '0') = [] then ['0'] else l.whole.dropWhile (· == '0')
  point := !l.fraction.isEmpty
  fraction := l.fraction

lemma number_eq (l : Literal) : l.number = Digits.value (l.whole ++ l.fraction) :=
  (Digits.value_eq_ofDigits _).symm

lemma natAbs_mantissa (l : Literal) : l.decimal.mantissa.natAbs = l.number := by
  simp only [decimal]
  split <;> simp

lemma IsValid.scale_eq {l : Literal} (h : l.IsValid) :
    l.decimal.scale.toNat = l.fraction.length := by
  have hle := h.length_le
  exact UInt16.toNat_ofNat_of_lt' (show l.fraction.length < 65536 by omega)

/-! ## The parts of a row of characters -/

/-- The parts that what follows a sign falls into, at the first point. -/
def ofBody (sign : Sign) (body : List Char) : Literal where
  sign := sign
  whole := body.takeWhile (· != '.')
  point := body.contains '.'
  fraction := (body.dropWhile (· != '.')).drop 1

/-- The parts that characters fall into. -/
def ofChars : List Char → Literal
  | '-' :: body => ofBody .minus body
  | '+' :: body => ofBody .plus body
  | body => ofBody .none body

lemma chars_ofBody (sign : Sign) (cs : List Char) : (ofBody sign cs).chars = sign.chars ++ cs := by
  rw [chars]
  congr 1
  simp only [body, ofBody]
  induction cs with
  | nil => rfl
  | cons c cs ih =>
    by_cases hc : c = '.'
    · subst hc
      simp
    · simpa [hc, Ne.symm hc] using ih

/-- No character is lost. -/
lemma chars_ofChars (cs : List Char) : (ofChars cs).chars = cs := by
  unfold ofChars
  split
  · exact chars_ofBody .minus _
  · exact chars_ofBody .plus _
  · exact chars_ofBody .none _

lemma point_ofBody {sign : Sign} {cs : List Char} (h : (ofBody sign cs).point = false) :
    (ofBody sign cs).fraction = [] := by
  have hdrop : cs.dropWhile (· != '.') = [] := by
    rw [List.dropWhile_eq_nil_iff]
    intro c hc
    have hne : c ≠ '.' := by
      rintro rfl
      simp [ofBody, hc] at h
    simpa using hne
  simp only [ofBody, hdrop, List.drop_nil]

lemma isDigit_ne {c d : Char} (h : Digits.isDigit c = true) (hd : Digits.isDigit d = false) :
    c ≠ d := by
  rintro rfl
  rw [h] at hd
  cases hd

/-- The parts of what follows the sign of a literal are its own. -/
lemma ofBody_body {l : Literal} (h : l.IsValid) : ofBody l.sign l.body = l := by
  obtain ⟨sign, whole, point, fraction⟩ := l
  have hwhole : ∀ c ∈ whole, (c != '.') = true := by
    intro c hc
    simpa using isDigit_ne (h.whole c hc) (d := '.') rfl
  cases point with
  | false =>
    obtain rfl : fraction = [] := h.point rfl
    have hnone : whole.contains '.' = false := by
      simp only [List.contains_eq_mem, decide_eq_false_iff_not]
      intro hmem
      exact absurd (hwhole '.' hmem) (by decide)
    simp only [ofBody, body, if_neg Bool.false_ne_true, List.append_nil, hnone]
    rw [List.takeWhile_eq_self_iff.2 hwhole, List.dropWhile_eq_nil_iff.2 hwhole]
    rfl
  | true =>
    simp only [ofBody, body, if_true]
    rw [List.takeWhile_append_of_pos hwhole, List.dropWhile_append_of_pos hwhole]
    simp

/-- What follows the sign of a literal begins with no sign. -/
lemma head_body_ne {l : Literal} (h : l.IsValid) {c : Char} (hc : Digits.isDigit c = false)
    (hpoint : c ≠ '.') {cs : List Char} : l.body ≠ c :: cs := by
  intro hbody
  obtain ⟨sign, whole, point, fraction⟩ := l
  simp only [body] at hbody
  cases whole with
  | nil =>
    cases point with
    | false => exact h.digits.elim (fun hne => hne rfl) fun hne => hne (h.point rfl)
    | true =>
      simp only [if_true, List.nil_append] at hbody
      exact hpoint (List.cons.inj hbody).1.symm
  | cons d whole =>
    have hd := h.whole d List.mem_cons_self
    exact isDigit_ne hd hc (List.cons.inj hbody).1

/-- The parts of a literal are its own. -/
lemma ofChars_chars {l : Literal} (h : l.IsValid) : ofChars l.chars = l := by
  have hbody := ofBody_body h
  rw [chars]
  cases hsign : l.sign with
  | minus =>
    rw [hsign] at hbody
    exact hbody
  | plus =>
    rw [hsign] at hbody
    exact hbody
  | none =>
    rw [hsign] at hbody
    simp only [Sign.chars, List.nil_append]
    unfold ofChars
    split
    · rename_i heq
      exact absurd heq (head_body_ne h rfl (by decide))
    · rename_i heq
      exact absurd heq (head_body_ne h rfl (by decide))
    · exact hbody

/-- Literals have no blanks in them. -/
lemma IsValid.isBlank_eq_false {l : Literal} (h : l.IsValid) :
    ∀ c ∈ l.chars, Text.isBlank c = false := by
  have hdigits {cs : List Char} (hcs : Digits.AreDigits cs) : ∀ c ∈ cs, Text.isBlank c = false :=
    fun c hc => Text.isBlank_of_isDigit (hcs c hc)
  have hsign : ∀ c ∈ l.sign.chars, Text.isBlank c = false := by
    cases l.sign with
    | none => exact List.forall_mem_nil _
    | plus | minus => exact List.forall_mem_singleton.2 rfl
  have hfraction : ∀ c ∈ (if l.point then '.' :: l.fraction else []), Text.isBlank c = false := by
    split
    · exact List.forall_mem_cons.2 ⟨by decide, hdigits h.fraction⟩
    · exact List.forall_mem_nil _
  exact List.forall_mem_append.2
    ⟨hsign, List.forall_mem_append.2 ⟨hdigits h.whole, hfraction⟩⟩

lemma IsValid.chars_ne_nil {l : Literal} (h : l.IsValid) : l.chars ≠ [] := by
  intro hnil
  have hparts : l.body = [] := (List.append_eq_nil_iff.1 hnil).2
  obtain ⟨hwhole, hfraction⟩ := List.append_eq_nil_iff.1 hparts
  cases hpoint : l.point with
  | false => exact h.digits.elim (fun hne => hne hwhole) fun hne => hne (h.point hpoint)
  | true =>
    rw [hpoint] at hfraction
    cases hfraction

end Literal

/-! ## Reading a literal -/

/-- The sign is told and taken off before the point is looked for. -/
lemma exists_ofBody (cs : List Char) :
    ∃ sign body, Literal.ofChars cs = Literal.ofBody sign body
      ∧ splitSign cs = (decide (sign = .minus), body) := by
  unfold Literal.ofChars splitSign
  split
  · exact ⟨.minus, _, rfl, rfl⟩
  · exact ⟨.plus, _, rfl, rfl⟩
  · refine ⟨.none, _, rfl, ?_⟩
    simp

/-- A literal is read part by part. -/
lemma ofLiteral?_eq (cs : List Char) :
    ofLiteral? cs =
      if (Literal.ofChars cs).whole.isEmpty && (Literal.ofChars cs).fraction.isEmpty then none
      else if !((Literal.ofChars cs).whole.all Digits.isDigit
          && (Literal.ofChars cs).fraction.all Digits.isDigit) then none
      else if (Literal.ofChars cs).fraction.length < 65536 then some (Literal.ofChars cs).decimal
      else none := by
  obtain ⟨sign, body, hparts, hsplit⟩ := exists_ofBody cs
  rw [ofLiteral?, hsplit, hparts]
  simp only [Literal.decimal, Literal.number_eq, Literal.ofBody, decide_eq_true_eq]

/-- **Characters are read** exactly when their parts are valid. -/
theorem ofLiteral?_eq_some {cs : List Char} {d : Decimal} :
    ofLiteral? cs = some d ↔ (Literal.ofChars cs).IsValid ∧ d = (Literal.ofChars cs).decimal := by
  have hpoint : (Literal.ofChars cs).point = false → (Literal.ofChars cs).fraction = [] := by
    unfold Literal.ofChars
    split <;> exact Literal.point_ofBody
  rw [ofLiteral?_eq]
  generalize Literal.ofChars cs = l at hpoint ⊢
  constructor
  · intro h
    split at h
    · cases h
    rename_i hsome
    split at h
    · cases h
    rename_i hdigits
    split at h
    · rename_i hlength
      simp only [Bool.not_eq_true, Bool.not_eq_false', Bool.and_eq_true, List.all_eq_true] at hdigits
      refine ⟨⟨hdigits.1, hdigits.2, ?_, hpoint, by omega⟩, (Option.some.inj h).symm⟩
      simpa [← not_and_or] using hsome
    · cases h
  · rintro ⟨hl, rfl⟩
    have hsome : ¬ (l.whole.isEmpty && l.fraction.isEmpty) = true := by
      simpa [← not_and_or] using hl.digits
    have hdigits : ¬ (!(l.whole.all Digits.isDigit && l.fraction.all Digits.isDigit)) = true := by
      simpa using ⟨hl.whole, hl.fraction⟩
    have hlength := hl.length_le
    rw [if_neg hsome, if_neg hdigits, if_pos (by omega)]

/-- A text is read as the decimal of the literal in it. -/
lemma parse?_eq_some {text : String} {d : Decimal} :
    parse? text = some d ↔ ∃ l : Literal, l.IsValid ∧ l.StandsIn text ∧ d = l.decimal := by
  constructor
  · intro h
    obtain ⟨hl, hd⟩ := ofLiteral?_eq_some.1 h
    refine ⟨_, hl, ?_, hd⟩
    obtain ⟨before, after, hbefore, hafter, htext⟩ := Text.exists_trimChars text.toList
    refine ⟨before, after, hbefore, hafter, ?_⟩
    rwa [Literal.chars_ofChars]
  · rintro ⟨l, hl, ⟨before, after, hbefore, hafter, htext⟩, rfl⟩
    have htrim : Text.trimChars text.toList = l.chars := by
      rw [htext]
      exact Text.trimChars_append hbefore hl.isBlank_eq_false hl.chars_ne_nil hafter
    rw [parse?, htrim, ofLiteral?_eq_some, Literal.ofChars_chars hl]
    exact ⟨hl, rfl⟩

/-! ## Writing a decimal -/

lemma areDigits_digits (d : Decimal) : Digits.AreDigits d.digits :=
  (Digits.areDigits_replicate _).append (Digits.areDigits_decimal _)

lemma value_digits (d : Decimal) : Digits.value d.digits = d.mantissa.natAbs := by
  rw [digits, Digits.value_append, Digits.value_replicate, Digits.value_decimal]
  omega

/-- There is always a digit for the place in front of the point. -/
lemma scale_lt_length_digits (d : Decimal) : d.scale.toNat < d.digits.length := by
  rw [digits, List.length_append, List.length_replicate]
  omega

namespace Literal

/-- The literal that is written for a decimal. -/
def ofDecimal (d : Decimal) : Literal where
  sign := if d.isNegative then .minus else .none
  whole := d.digits.take (d.digits.length - d.scale.toNat)
  point := d.scale != 0
  fraction := d.digits.drop (d.digits.length - d.scale.toNat)

section

variable (d : Decimal)

lemma length_fraction_ofDecimal : (ofDecimal d).fraction.length = d.scale.toNat := by
  have hlt := d.scale_lt_length_digits
  simp only [ofDecimal, List.length_drop]
  omega

lemma whole_append_fraction_ofDecimal :
    (ofDecimal d).whole ++ (ofDecimal d).fraction = d.digits :=
  List.take_append_drop _ _

lemma isValid_ofDecimal : (ofDecimal d).IsValid where
  whole c hc := d.areDigits_digits c (List.mem_of_mem_take hc)
  fraction c hc := d.areDigits_digits c (List.mem_of_mem_drop hc)
  digits := by
    left
    have hlt := d.scale_lt_length_digits
    rw [← List.length_pos_iff]
    simp only [ofDecimal, List.length_take]
    omega
  point := by
    intro hpoint
    have hscale : d.scale = 0 := by simpa [ofDecimal] using hpoint
    rw [← List.length_eq_zero_iff, length_fraction_ofDecimal, hscale]
    rfl
  length_le := by
    have hlt := d.scale.toNat_lt
    rw [length_fraction_ofDecimal]
    omega

/-- Nothing else is written. -/
lemma chars_ofDecimal : d.text = String.ofList (ofDecimal d).chars := by
  have hpoint : (if d.scale = 0 then [] else ['.']) ++ (ofDecimal d).fraction =
      if (ofDecimal d).point then '.' :: (ofDecimal d).fraction else [] := by
    by_cases hscale : d.scale = 0
    · have hnone : (ofDecimal d).point = false := by simp [ofDecimal, hscale]
      simp [hscale, hnone, (isValid_ofDecimal d).point hnone]
    · have hsome : (ofDecimal d).point = true := by simp [ofDecimal, hscale]
      simp [hscale, hsome]
  have hsign : (if d.isNegative then ['-'] else []) = (ofDecimal d).sign.chars := by
    simp only [ofDecimal]
    split <;> rfl
  rw [chars, body, ← hpoint, ← hsign]
  simp only [text, ofDecimal, List.append_assoc]

/-- The literal that is written stands for the decimal. -/
lemma decimal_ofDecimal : (ofDecimal d).decimal = d := by
  have hnumber : (ofDecimal d).number = d.mantissa.natAbs := by
    rw [number_eq, whole_append_fraction_ofDecimal, value_digits]
  have hsign : (ofDecimal d).sign = .minus ↔ d.mantissa < 0 := by
    simp [ofDecimal, isNegative]
  rw [decimal, hnumber, length_fraction_ofDecimal, UInt16.ofNat_toNat]
  congr 1
  simp only [hsign]
  split <;> omega

end

section

variable {l : Literal}

/-- The digits of a literal's decimal are its own without leading zeros, or with one in front of the
point. -/
lemma digits_decimal (h : l.IsValid) : l.decimal.digits = l.normal.whole ++ l.fraction := by
  have hvalue : l.number = Digits.value l.whole * 10 ^ l.fraction.length + Digits.value l.fraction := by
    rw [number_eq, Digits.value_append]
  have hsignificant := Digits.significant_value h.whole
  simp only [digits, natAbs_mantissa, h.scale_eq, normal]
  by_cases hzero : l.whole.dropWhile (· == '0') = []
  · -- Nothing counts in front of the point: zeros are put there until one stands before it.
    rw [if_pos hzero]
    have hwhole : Digits.value l.whole < 1 := by
      rw [← Nat.pow_zero 10, ← Digits.length_significant_le_iff, hsignificant, hzero]
      exact le_rfl
    have hfraction : l.number = Digits.value l.fraction := by
      rw [hvalue, Nat.lt_one_iff.1 hwhole, Nat.zero_mul, Nat.zero_add]
    have hlength : (Digits.decimal l.number).length ≤ l.fraction.length + 1 := by
      rw [Digits.length_decimal_le_iff (Nat.succ_pos _), hfraction]
      exact (Digits.value_lt h.fraction).trans (Nat.pow_lt_pow_succ (by decide))
    refine Digits.eq_of_value_eq_of_length
      ((Digits.areDigits_replicate _).append (Digits.areDigits_decimal _))
      ((Digits.areDigits_replicate 1).append h.fraction) ?_ ?_
    · rw [List.length_append, List.length_append, List.length_replicate, List.length_singleton]
      omega
    · have hone : Digits.value ['0'] = 0 := Digits.value_replicate 1
      rw [Digits.value_append, Digits.value_append, Digits.value_replicate, hone,
        Digits.value_decimal, hfraction, Nat.zero_mul, Nat.zero_mul]
  · -- The first digit that counts stands in front of the point: no zero is put there.
    rw [if_neg hzero]
    have hwhole : ¬ Digits.value l.whole < 1 := by
      rw [← Nat.pow_zero 10, ← Digits.length_significant_le_iff, hsignificant, Nat.le_zero]
      exact fun hlength => hzero (List.length_eq_zero_iff.1 hlength)
    have hle : 10 ^ l.fraction.length ≤ l.number := by
      rw [hvalue]
      exact (Nat.le_mul_of_pos_left _ (Nat.not_lt.1 hwhole)).trans (Nat.le_add_right _ _)
    have hlength : l.fraction.length < (Digits.significant l.number).length := by
      rwa [← Nat.not_le, Digits.length_significant_le_iff, Nat.not_lt]
    have hdecimal : Digits.decimal l.number = Digits.significant l.number :=
      if_neg (Nat.pos_iff_ne_zero.1 ((Nat.pow_pos (by decide)).trans_le hle))
    rw [hdecimal, Nat.sub_eq_zero_of_le hlength, List.replicate_zero, List.nil_append]
    refine Digits.eq_of_value_eq (Digits.areDigits_significant _) (h.whole.dropWhile.append h.fraction)
      (Digits.head?_significant _) ?_ ?_
    · rw [List.head?_append_of_ne_nil _ hzero]
      exact Digits.head?_dropWhile_ne l.whole
    · rw [Digits.value_significant, Digits.value_append, Digits.value_dropWhile, hvalue]

lemma isNegative_decimal (l : Literal) :
    l.decimal.isNegative = decide (l.sign = .minus ∧ l.number ≠ 0) := by
  rw [isNegative, decide_eq_decide]
  simp only [decimal]
  split
  · rename_i hsign
    simp only [hsign, true_and]
    omega
  · rename_i hsign
    simp only [hsign, false_and, iff_false]
    omega

/-- The literal of a literal's decimal has lost what makes no difference. -/
lemma ofDecimal_decimal (h : l.IsValid) : ofDecimal l.decimal = l.normal := by
  have hdigits := digits_decimal h
  have hlength : l.decimal.digits.length - l.decimal.scale.toNat = l.normal.whole.length := by
    rw [hdigits, h.scale_eq, List.length_append, Nat.add_sub_cancel]
  have hpoint : (l.decimal.scale != 0) = !l.fraction.isEmpty := by
    rw [bne, Bool.not_inj_iff, Bool.eq_iff_iff, beq_iff_eq, ← UInt16.toNat_inj, h.scale_eq,
      List.isEmpty_iff]
    exact List.length_eq_zero_iff
  have hsign : (if l.decimal.isNegative then Sign.minus else .none) = l.normal.sign := by
    rw [isNegative_decimal]
    simp only [normal, decide_eq_true_eq]
  calc
    ofDecimal l.decimal
      = ⟨l.normal.sign, l.normal.whole, !l.fraction.isEmpty, l.fraction⟩ := by
        rw [ofDecimal, hlength, hdigits, hpoint, hsign, List.take_left, List.drop_left]
    _ = l.normal := rfl

/-- **What is written** for the decimal of a literal is the literal in its normal form. -/
theorem text_decimal (h : l.IsValid) : l.decimal.text = String.ofList l.normal.chars := by
  rw [chars_ofDecimal, ofDecimal_decimal h]

end

end Literal

/-- **Decimals and texts correspond.**  The text of a decimal is read as that decimal.  A text is read
exactly when a literal stands in it, and then as the decimal of the literal, for which the literal in
its normal form is written. -/
theorem parse?_exact :
    (∀ d : Decimal, parse? d.text = some d)
    ∧ ∀ text : String,
      ((∃ d, parse? text = some d) ↔ ∃ l : Literal, l.IsValid ∧ l.StandsIn text)
      ∧ ∀ l : Literal, l.IsValid → l.StandsIn text →
        parse? text = some l.decimal ∧ l.decimal.text = String.ofList l.normal.chars := by
  refine ⟨fun d => ?_, fun text => ⟨⟨?_, ?_⟩, ?_⟩⟩
  · have hstands : (Literal.ofDecimal d).StandsIn d.text := by
      refine ⟨[], [], List.forall_mem_nil _, List.forall_mem_nil _, ?_⟩
      rw [Literal.chars_ofDecimal, String.toList_ofList, List.nil_append, List.append_nil]
    rw [parse?_eq_some]
    exact ⟨_, Literal.isValid_ofDecimal d, hstands, (Literal.decimal_ofDecimal d).symm⟩
  · rintro ⟨d, hd⟩
    obtain ⟨l, hl, hstands, -⟩ := parse?_eq_some.1 hd
    exact ⟨l, hl, hstands⟩
  · rintro ⟨l, hl, hstands⟩
    exact ⟨l.decimal, parse?_eq_some.2 ⟨l, hl, hstands, rfl⟩⟩
  · intro l hl hstands
    exact ⟨parse?_eq_some.2 ⟨l, hl, hstands, rfl⟩, Literal.text_decimal hl⟩

/-- Blanks, leading zeros and a zero behind the point: only the last of them is kept. -/
theorem parse?_exact_padded :
    parse? " -007.50\n" = some ⟨-750, 2⟩ ∧ (⟨-750, 2⟩ : Decimal).text = "-7.50" := by
  have hstands : (⟨.minus, ['0', '0', '7'], true, ['5', '0']⟩ : Literal).StandsIn " -007.50\n" :=
    ⟨[' '], ['\n'], List.forall_mem_singleton.2 rfl, List.forall_mem_singleton.2 rfl, by decide⟩
  have hl : (⟨.minus, ['0', '0', '7'], true, ['5', '0']⟩ : Literal).IsValid :=
    ⟨by decide, by decide, by decide, by decide, by decide⟩
  exact (parse?_exact.2 " -007.50\n").2 _ hl hstands

end Decimal

end QueryWire
