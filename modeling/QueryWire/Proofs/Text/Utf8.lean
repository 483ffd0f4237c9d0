import Mathlib.Tactic.Common
import QueryWire.Text.Utf8

/-!
# Text survives UTF-8

* `Utf8.next_encodeChar` — the front of what was written for a character is that character.
* `Utf8.next_eq_char` — and a character that stands at the front was written so.
* **`Utf8.decode?_eq_ok`** — only the bytes of a text spell it.
* **`Utf8.text?_encode`** — the bytes of a text spell it.
-/

namespace QueryWire

namespace Utf8

/-! ## Written characters -/

/-- A byte below a bound, by the number it is made of. -/
lemma ofNat_lt_iff {m : Nat} (hm : m < 256) {b : UInt8} : UInt8.ofNat m < b ↔ m < b.toNat := by
  rw [UInt8.lt_iff_toNat_lt, UInt8.toNat_ofNat_of_lt' hm]

lemma isContinuation_ofNat {m : Nat} (hm : m < 64) :
    isContinuation (UInt8.ofNat (0x80 + m)) = true := by
  have hbyte : (UInt8.ofNat (0x80 + m)).toNat = 0x80 + m :=
    UInt8.toNat_ofNat_of_lt' (show 0x80 + m < 256 by omega)
  simp only [isContinuation, Bool.and_eq_true, decide_eq_true_eq, UInt8.le_iff_toNat_le, hbyte,
    UInt8.toNat_ofNat]
  omega

lemma payload_ofNat {m : Nat} (hm : m < 64) : payload (UInt8.ofNat (0x80 + m)) = m := by
  have hbyte : (UInt8.ofNat (0x80 + m)).toNat = 0x80 + m :=
    UInt8.toNat_ofNat_of_lt' (show 0x80 + m < 256 by omega)
  rw [payload, hbyte]
  omega

/-- The second byte is within the bounds that the first one sets. -/
lemma secondFits_ofNat {lead second : Nat} (hlead : lead < 256) (hsecond : second < 64)
    (hE0 : lead = 0xE0 → 0x20 ≤ second) (hED : lead = 0xED → second < 0x20)
    (hF0 : lead = 0xF0 → 0x10 ≤ second) (hF4 : lead = 0xF4 → second < 0x10) :
    secondFits (UInt8.ofNat lead) (UInt8.ofNat (0x80 + second)) = true := by
  have hbyte : (UInt8.ofNat (0x80 + second)).toNat = 0x80 + second :=
    UInt8.toNat_ofNat_of_lt' (show 0x80 + second < 256 by omega)
  have heq : ∀ b : UInt8, UInt8.ofNat lead = b ↔ lead = b.toNat := by
    intro b
    rw [← UInt8.toNat_inj, UInt8.toNat_ofNat_of_lt' hlead]
  simp only [secondFits, secondBounds]
  simp only [heq, UInt8.toNat_ofNat]
  split_ifs <;>
    simp only [Bool.and_eq_true, decide_eq_true_eq, UInt8.le_iff_toNat_le, hbyte,
      UInt8.toNat_ofNat] <;> omega

lemma next_one {n : Nat} (h : n < 0x80) (rest : Bytes) :
    next (UInt8.ofNat n) rest = .char (Char.ofNat n) 1 := by
  have hn : n < 256 := by omega
  have hlt : UInt8.ofNat n < 0x80 := (ofNat_lt_iff hn).2 h
  simp only [next]
  rw [if_pos hlt, UInt8.toNat_ofNat_of_lt' hn]

lemma next_two {n : Nat} (hlow : 0x80 ≤ n) (h : n < 0x800) (rest : Bytes) :
    next (UInt8.ofNat (0xC0 + n / 64)) (UInt8.ofNat (0x80 + n % 64) :: rest)
      = .char (Char.ofNat n) 2 := by
  have hlead : 0xC0 + n / 64 < 256 := by omega
  have hn : (0xC0 + n / 64) % 32 * 64 + n % 64 = n := by omega
  simp only [next, ofNat_lt_iff hlead, UInt8.toNat_ofNat]
  rw [if_neg (by omega), if_neg (by omega), if_pos (by omega),
    if_pos (isContinuation_ofNat (Nat.mod_lt _ (by decide))),
    payload_ofNat (Nat.mod_lt _ (by decide)), UInt8.toNat_ofNat_of_lt' hlead, hn]

lemma next_three {n : Nat} (hlow : 0x800 ≤ n) (h : n < 0x10000) (hvalid : n < 0xD800 ∨ 0xDFFF < n)
    (rest : Bytes) :
    next (UInt8.ofNat (0xE0 + n / 4096))
        (UInt8.ofNat (0x80 + n / 64 % 64) :: UInt8.ofNat (0x80 + n % 64) :: rest)
      = .char (Char.ofNat n) 3 := by
  have hlead : 0xE0 + n / 4096 < 256 := by omega
  have hn : ((0xE0 + n / 4096) % 16 * 64 + n / 64 % 64) * 64 + n % 64 = n := by omega
  simp only [next, ofNat_lt_iff hlead, UInt8.toNat_ofNat]
  rw [if_neg (by omega), if_neg (by omega), if_neg (by omega), if_pos (by omega),
    if_pos (secondFits_ofNat hlead (Nat.mod_lt _ (by decide)) (by omega) (by omega) (by omega)
      (by omega)),
    if_pos (isContinuation_ofNat (Nat.mod_lt _ (by decide))),
    payload_ofNat (Nat.mod_lt _ (by decide)), payload_ofNat (Nat.mod_lt _ (by decide)),
    UInt8.toNat_ofNat_of_lt' hlead, hn]

lemma next_four {n : Nat} (hlow : 0x10000 ≤ n) (h : n < 0x110000) (rest : Bytes) :
    next (UInt8.ofNat (0xF0 + n / 262144))
        (UInt8.ofNat (0x80 + n / 4096 % 64) :: UInt8.ofNat (0x80 + n / 64 % 64)
          :: UInt8.ofNat (0x80 + n % 64) :: rest)
      = .char (Char.ofNat n) 4 := by
  have hlead : 0xF0 + n / 262144 < 256 := by omega
  have hn : (((0xF0 + n / 262144) % 8 * 64 + n / 4096 % 64) * 64 + n / 64 % 64) * 64 + n % 64
      = n := by omega
  simp only [next, ofNat_lt_iff hlead, UInt8.toNat_ofNat]
  rw [if_neg (by omega), if_neg (by omega), if_neg (by omega), if_neg (by omega),
    if_pos (by omega),
    if_pos (secondFits_ofNat hlead (Nat.mod_lt _ (by decide)) (by omega) (by omega) (by omega)
      (by omega)),
    if_pos (isContinuation_ofNat (Nat.mod_lt _ (by decide))),
    if_pos (isContinuation_ofNat (Nat.mod_lt _ (by decide))),
    payload_ofNat (Nat.mod_lt _ (by decide)), payload_ofNat (Nat.mod_lt _ (by decide)),
    payload_ofNat (Nat.mod_lt _ (by decide)), UInt8.toNat_ofNat_of_lt' hlead, hn]

/-- What was written for a character begins with it, and is as wide as it is long. -/
lemma next_encodeChar (c : Char) : ∃ lead others, encodeChar c = lead :: others
    ∧ ∀ rest, next lead (others ++ rest) = .char c (others.length + 1) := by
  have hc : Char.ofNat c.toNat = c := Char.ofNat_toNat c
  have hvalid : c.toNat < 0xD800 ∨ 0xDFFF < c.toNat ∧ c.toNat < 0x110000 := c.valid
  unfold encodeChar
  dsimp only
  split_ifs with hone htwo hthree
  · refine ⟨_, _, rfl, fun rest => ?_⟩
    rw [List.nil_append, next_one hone, hc]
    rfl
  · refine ⟨_, _, rfl, fun rest => ?_⟩
    rw [List.singleton_append, next_two (by omega) htwo, hc]
    rfl
  · refine ⟨_, _, rfl, fun rest => ?_⟩
    rw [List.cons_append, List.singleton_append, next_three (by omega) hthree (by omega), hc]
    rfl
  · refine ⟨_, _, rfl, fun rest => ?_⟩
    rw [List.cons_append, List.cons_append, List.singleton_append,
      next_four (by omega) (by omega), hc]
    rfl

/-! ## Read characters -/

lemma toNat_ofNat {n : Nat} (h : n.isValidChar) : (Char.ofNat n).toNat = n := by
  rw [Char.ofNat, dif_pos h]
  rfl

lemma ofNat_eq {b : UInt8} {n : Nat} (h : n = b.toNat) : UInt8.ofNat n = b := by
  rw [h, UInt8.ofNat_toNat]

lemma isContinuation_iff {b : UInt8} :
    isContinuation b = true ↔ 0x80 ≤ b.toNat ∧ b.toNat ≤ 0xBF := by
  simp only [isContinuation, Bool.and_eq_true, decide_eq_true_eq, UInt8.le_iff_toNat_le,
    UInt8.toNat_ofNat]

/-- What the bounds of the first byte say of the second. -/
lemma bounds_of_secondFits {lead second : UInt8} (h : secondFits lead second = true) :
    0x80 ≤ second.toNat ∧ second.toNat ≤ 0xBF ∧ (lead.toNat = 0xE0 → 0xA0 ≤ second.toNat)
      ∧ (lead.toNat = 0xED → second.toNat ≤ 0x9F) ∧ (lead.toNat = 0xF0 → 0x90 ≤ second.toNat)
      ∧ (lead.toNat = 0xF4 → second.toNat ≤ 0x8F) := by
  have heq : ∀ b : UInt8, lead = b ↔ lead.toNat = b.toNat := fun b => UInt8.toNat_inj.symm
  simp only [secondFits, secondBounds] at h
  simp only [heq, UInt8.toNat_ofNat] at h
  split_ifs at h <;>
    simp only [Bool.and_eq_true, decide_eq_true_eq, UInt8.le_iff_toNat_le,
      UInt8.toNat_ofNat] at h <;> omega

section

variable {lead second third fourth : UInt8}

lemma encodeChar_one (h : lead.toNat < 0x80) : encodeChar (Char.ofNat lead.toNat) = [lead] := by
  have hn : (Char.ofNat lead.toNat).toNat = lead.toNat := toNat_ofNat (.inl (by omega))
  simp only [encodeChar, hn]
  rw [if_pos h, UInt8.ofNat_toNat]

lemma encodeChar_two (hlow : 0xC2 ≤ lead.toNat) (hhigh : lead.toNat < 0xE0)
    (hsecond : isContinuation second = true) :
    encodeChar (Char.ofNat (lead.toNat % 32 * 64 + payload second)) = [lead, second] := by
  rw [isContinuation_iff] at hsecond
  simp only [payload]
  generalize hn : lead.toNat % 32 * 64 + second.toNat % 64 = n
  have hchar : (Char.ofNat n).toNat = n := toNat_ofNat (.inl (by omega))
  simp only [encodeChar, hchar]
  rw [if_neg (by omega), if_pos (by omega), ofNat_eq (b := lead) (by omega),
    ofNat_eq (b := second) (by omega)]

lemma encodeChar_three (hlow : 0xE0 ≤ lead.toNat) (hhigh : lead.toNat < 0xF0)
    (hsecond : secondFits lead second = true) (hthird : isContinuation third = true) :
    encodeChar (Char.ofNat ((lead.toNat % 16 * 64 + payload second) * 64 + payload third))
      = [lead, second, third] := by
  obtain ⟨hsecondLow, hsecondHigh, hE0, hED, -, -⟩ := bounds_of_secondFits hsecond
  rw [isContinuation_iff] at hthird
  simp only [payload]
  generalize hn : (lead.toNat % 16 * 64 + second.toNat % 64) * 64 + third.toNat % 64 = n
  have hvalid : n < 0xD800 ∨ 0xDFFF < n ∧ n < 0x110000 := by omega
  have hchar : (Char.ofNat n).toNat = n := toNat_ofNat hvalid
  simp only [encodeChar, hchar]
  rw [if_neg (by omega), if_neg (by omega), if_pos (by omega), ofNat_eq (b := lead) (by omega),
    ofNat_eq (b := second) (by omega), ofNat_eq (b := third) (by omega)]

lemma encodeChar_four (hlow : 0xF0 ≤ lead.toNat) (hhigh : lead.toNat < 0xF5)
    (hsecond : secondFits lead second = true) (hthird : isContinuation third = true)
    (hfourth : isContinuation fourth = true) :
    encodeChar (Char.ofNat (((lead.toNat % 8 * 64 + payload second) * 64 + payload third) * 64
      + payload fourth)) = [lead, second, third, fourth] := by
  obtain ⟨hsecondLow, hsecondHigh, -, -, hF0, hF4⟩ := bounds_of_secondFits hsecond
  rw [isContinuation_iff] at hthird hfourth
  simp only [payload]
  generalize hn : ((lead.toNat % 8 * 64 + second.toNat % 64) * 64 + third.toNat % 64) * 64
    + fourth.toNat % 64 = n
  have hvalid : n < 0xD800 ∨ 0xDFFF < n ∧ n < 0x110000 := by omega
  have hchar : (Char.ofNat n).toNat = n := toNat_ofNat hvalid
  simp only [encodeChar, hchar]
  rw [if_neg (by omega), if_neg (by omega), if_neg (by omega), ofNat_eq (b := lead) (by omega),
    ofNat_eq (b := second) (by omega), ofNat_eq (b := third) (by omega),
    ofNat_eq (b := fourth) (by omega)]

/-- A character that stands at the front stands there as it is written. -/
lemma next_eq_char {rest : Bytes} {c : Char} {width : Nat} (h : next lead rest = .char c width) :
    ∃ others tail, rest = others ++ tail ∧ width = others.length + 1
      ∧ encodeChar c = lead :: others := by
  simp only [next, UInt8.lt_iff_toNat_lt, UInt8.toNat_ofNat] at h
  split at h
  · rename_i hone
    cases h
    exact ⟨[], rest, rfl, rfl, encodeChar_one hone⟩
  split at h
  · cases h
  split at h
  · rename_i hlow hhigh
    split at h
    · cases h
    split at h
    · rename_i b tail hsecond
      cases h
      exact ⟨[b], tail, rfl, rfl, encodeChar_two (by omega) hhigh hsecond⟩
    · cases h
  split at h
  · rename_i hlow hhigh
    split at h
    · cases h
    split at h
    · rename_i b _ hsecond
      split at h
      · cases h
      split at h
      · rename_i c tail hthird
        cases h
        exact ⟨[b, c], tail, rfl, rfl, encodeChar_three (by omega) hhigh hsecond hthird⟩
      · cases h
    · cases h
  split at h
  · rename_i hlow hhigh
    split at h
    · cases h
    split at h
    · rename_i b _ hsecond
      split at h
      · cases h
      split at h
      · rename_i c _ hthird
        split at h
        · cases h
        split at h
        · rename_i d tail hfourth
          cases h
          exact ⟨[b, c, d], tail, rfl, rfl,
            encodeChar_four (by omega) hhigh hsecond hthird hfourth⟩
        · cases h
      · cases h
    · cases h
  · cases h

end

/-! ## Texts -/

lemma decodeFrom_flatMap (chars done : List Char) (index : Nat) :
    decodeFrom done index (chars.flatMap encodeChar) = .ok (done.reverse ++ chars) := by
  induction chars generalizing done index with
  | nil =>
    rw [List.flatMap_nil, decodeFrom, List.append_nil]
  | cons c chars ih =>
    obtain ⟨lead, others, hencode, hnext⟩ := next_encodeChar c
    rw [List.flatMap_cons, hencode, List.cons_append, decodeFrom, hnext]
    dsimp only
    rw [Nat.add_sub_cancel, List.drop_left, ih]
    simp

lemma eq_flatMap_of_decodeFrom {done chars : List Char} {index : Nat} {bytes : Bytes}
    (h : decodeFrom done index bytes = .ok chars) :
    ∃ read, chars = done.reverse ++ read ∧ bytes = read.flatMap encodeChar := by
  induction done, index, bytes using decodeFrom.induct with
  | case1 done index =>
    rw [decodeFrom] at h
    cases h
    exact ⟨[], (List.append_nil _).symm, rfl⟩
  | case2 done index lead rest c width hnext ih =>
    rw [decodeFrom, hnext] at h
    obtain ⟨read, rfl, hrest⟩ := ih h
    obtain ⟨others, tail, rfl, rfl, hencode⟩ := next_eq_char hnext
    refine ⟨c :: read, by simp, ?_⟩
    rw [Nat.add_sub_cancel, List.drop_left] at hrest
    rw [List.flatMap_cons, hencode, List.cons_append, ← hrest]
  | case3 done index lead rest width hnext =>
    rw [decodeFrom, hnext] at h
    cases h
  | case4 done index lead rest hnext =>
    rw [decodeFrom, hnext] at h
    cases h

/-- **Bytes.**  Bytes spell a text exactly when they are the bytes of the text. -/
theorem decode?_eq_ok {bytes : Bytes} {text : String} :
    decode? bytes = .ok text ↔ bytes = encode text := by
  constructor
  · intro h
    simp only [decode?] at h
    cases hchars : decodeFrom [] 0 bytes with
    | error fault => rw [hchars] at h; cases h
    | ok chars =>
      rw [hchars] at h
      cases h
      obtain ⟨read, rfl, hbytes⟩ := eq_flatMap_of_decodeFrom hchars
      rw [hbytes, encode, String.toList_ofList]
  · rintro rfl
    have hchars := decodeFrom_flatMap text.toList [] 0
    simp only [decode?, encode, hchars, Except.map, List.reverse_nil, List.nil_append,
      String.ofList_toList]

/-- **Texts.**  The bytes of a text spell it. -/
theorem text?_encode (text : String) : text? (encode text) = some text := by
  rw [text?, decode?_eq_ok.2 rfl]
  rfl

lemma encode_injective : Function.Injective encode := by
  intro a b h
  have hread := decode?_eq_ok.2 h
  rw [decode?_eq_ok.2 rfl] at hread
  exact Except.ok.inj hread

/-- A character takes up four bytes at most. -/
lemma length_encode_le (text : String) : (encode text).length ≤ 4 * text.toList.length := by
  have hchar (c : Char) : (encodeChar c).length ≤ 4 := by
    simp only [encodeChar]
    split_ifs <;> simp
  rw [encode]
  induction text.toList with
  | nil => exact Nat.le_refl 0
  | cons c cs ih =>
    have := hchar c
    rw [List.flatMap_cons, List.length_append, List.length_cons]
    omega

end Utf8

end QueryWire
