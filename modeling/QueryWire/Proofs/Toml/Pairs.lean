import Mathlib.Data.List.TakeWhile
import QueryWire.Proofs.Text.Decimal
import QueryWire.Toml.Parser
import QueryWire.Toml.Printer

/-!
# Documents that are written and read

What is written for keys and values is a line for each pair, and the reader of documents knows many
other forms.  It has to find out that none of them is meant.

**A value** is a word, and a date could begin like a number.  But the digits of a number go on to
the end of the line, so neither the dash behind a year nor the colon behind an hour is there
(`Toml.skipMoment?_digits`).  Among the words a number is an integer in decimal, as it is written
without a leading zero (`Toml.integer?_integerText`).

**A line** begins with the key, which needs no quotes.  So it is neither a header nor a comment nor
empty, and the key has one part (`Toml.line?_pair`).

* `Toml.IsBare` — keys that need no quotes.
* `Toml.render?_eq_none_iff` — what cannot be written.
* **`Toml.parse?_render?`** — what is written is read.
-/

namespace QueryWire

namespace Toml

/-! ## The front of a text -/

section

variable {p : Char → Bool} {cs rest : List Char} {c : Char}

lemma takeWhile_append_cons (hcs : ∀ x ∈ cs, p x = true) (hc : p c = false) :
    (cs ++ c :: rest).takeWhile p = cs := by
  have hstop : ¬ p c = true := ne_true_of_eq_false hc
  rw [List.takeWhile_append_of_pos hcs, List.takeWhile_cons_of_neg hstop, List.append_nil]

lemma dropWhile_append_cons (hcs : ∀ x ∈ cs, p x = true) (hc : p c = false) :
    (cs ++ c :: rest).dropWhile p = c :: rest := by
  have hstop : ¬ p c = true := ne_true_of_eq_false hc
  rw [List.dropWhile_append_of_pos hcs, List.dropWhile_cons_of_neg hstop]

lemma ne_of_apply (hc : p c = true) {d : Char} (hd : p d = false) : c ≠ d := by
  rintro rfl
  rw [hc] at hd
  cases hd

end

/-! ## No dates -/

section

variable {digits rest : List Char}

lemma skipMoment?_of_head {c : Char} (hc : Digits.isDigit c = false) :
    skipMoment? (c :: rest) = none := by
  have hdate : skipDate? (c :: rest) = none := by
    simp [skipDate?, hc]
  have htime : skipTime? (c :: rest) = none := by
    cases rest <;> simp [skipTime?, skipMinutes?, twoDigits?, hc]
  rw [skipMoment?, hdate]
  exact htime

/-- Digits up to the end of a line have no other mark behind them. -/
lemma word_digits (h : Digits.AreDigits digits) {mark : String} {c : Char}
    (hmark : mark.toList = [c]) (hc : Digits.isDigit c = false) (hne : c ≠ '\n') :
    Front.word mark () (digits ++ '\n' :: rest) = none := by
  rw [Front.word, hmark]
  refine if_neg ?_
  cases digits with
  | nil => simp [hne]
  | cons d digits =>
    have hd : d ≠ c := ne_of_apply (h d List.mem_cons_self) hc
    simp [hd.symm]

/-- Four digits are a year only if there is a dash behind them. -/
lemma skipDate?_digits (h : Digits.AreDigits digits) :
    skipDate? (digits ++ '\n' :: rest) = none := by
  by_contra hdate
  obtain ⟨behind, hdate⟩ := Option.ne_none_iff_exists'.1 hdate
  simp only [skipDate?, Option.bind_eq_bind, Option.bind_eq_some_iff,
    Option.guard_eq_some'] at hdate
  obtain ⟨-, ⟨hlength, hyear⟩, ⟨_, _⟩, hdash, -⟩ := hdate
  rw [List.all_eq_true] at hyear
  -- The line would end within the year otherwise.
  have hfour : 4 ≤ digits.length := by
    by_contra hshort
    have hline : '\n' ∈ (digits ++ '\n' :: rest).take 4 := by
      obtain ⟨k, hk⟩ : ∃ k, 4 - digits.length = k + 1 := ⟨3 - digits.length, by omega⟩
      rw [List.take_append, hk, List.take_succ_cons]
      exact List.mem_append_right _ List.mem_cons_self
    exact absurd (hyear '\n' hline) (by decide)
  have hdrop : (digits ++ '\n' :: rest).drop 4 = digits.drop 4 ++ '\n' :: rest :=
    List.drop_append_of_le_length hfour
  have hdigits : Digits.AreDigits (digits.drop 4) := fun c hc => h c (List.mem_of_mem_drop hc)
  rw [hdrop, word_digits hdigits (rfl : "-".toList = ['-']) rfl (by decide)] at hdash
  cases hdash

lemma twoDigits?_eq_some {low high n : Nat} {text behind : List Char}
    (h : twoDigits? low high text = some (n, behind)) :
    ∃ a b, Digits.isDigit a = true ∧ Digits.isDigit b = true ∧ text = a :: b :: behind := by
  unfold twoDigits? at h
  split at h
  · rename_i a b rest
    simp only [Option.ite_none_right_eq_some, Bool.and_eq_true] at h
    obtain ⟨⟨⟨⟨ha, hb⟩, -⟩, -⟩, hresult⟩ := h
    cases hresult
    exact ⟨a, b, ha, hb, rfl⟩
  · cases h

/-- Two digits are an hour only if there is a colon behind them. -/
lemma skipMinutes?_digits (h : Digits.AreDigits digits) :
    skipMinutes? (digits ++ '\n' :: rest) = none := by
  by_contra htime
  obtain ⟨behind, htime⟩ := Option.ne_none_iff_exists'.1 htime
  simp only [skipMinutes?, Option.bind_eq_bind, Option.bind_eq_some_iff] at htime
  obtain ⟨⟨_, middle⟩, hhour, ⟨_, _⟩, hcolon, -⟩ := htime
  obtain ⟨a, b, ha, hb, htext⟩ := twoDigits?_eq_some hhour
  rcases digits with _ | ⟨d, _ | ⟨e, others⟩⟩
  · cases htext
    cases ha
  · cases htext
    cases hb
  · obtain ⟨-, -, rfl⟩ : d = a ∧ e = b ∧ others ++ '\n' :: rest = middle := by
      simpa using htext
    have hothers : Digits.AreDigits others :=
      fun c hc => h c (List.mem_cons_of_mem _ (List.mem_cons_of_mem _ hc))
    rw [word_digits hothers (rfl : ":".toList = [':']) rfl (by decide)] at hcolon
    cases hcolon

lemma skipMoment?_digits (h : Digits.AreDigits digits) :
    skipMoment? (digits ++ '\n' :: rest) = none := by
  rw [skipMoment?, skipDate?_digits h]
  simp only [skipTime?, skipMinutes?_digits h]
  rfl

end

/-! ## Integers -/

lemma grouped?_digits {digits : List Char} (h : Digits.AreDigits digits) (hne : digits ≠ []) :
    grouped? Digits.isDigit digits = some digits := by
  induction digits with
  | nil => exact absurd rfl hne
  | cons c digits ih =>
    obtain ⟨hc, hdigits⟩ := List.forall_mem_cons.1 h
    cases digits with
    | nil => simp [grouped?, hc]
    | cons d digits =>
      have hd : d ≠ '_' := ne_of_apply (hdigits d List.mem_cons_self) rfl
      have hothers := ih hdigits (List.cons_ne_nil _ _)
      simp [grouped?, hc, hd, hothers]

lemma wholeDigits?_decimal (n : Nat) :
    wholeDigits? (Digits.decimal n) = some (Digits.decimal n) := by
  unfold wholeDigits?
  split
  · rename_i c rest hzero
    rw [Digits.decimal] at hzero
    split at hzero
    · cases hzero
    · exact absurd (congrArg List.head? hzero) (Digits.head?_significant n)
  · exact grouped?_digits (Digits.areDigits_decimal n) (Digits.decimal_ne_nil n)

lemma splitSign_digits {digits : List Char} (h : Digits.AreDigits digits) :
    splitSign digits = (false, digits) := by
  unfold splitSign
  split
  · exact absurd (h _ List.mem_cons_self) (by decide)
  · exact absurd (h _ List.mem_cons_self) (by decide)
  · rfl

/-- Behind a zero stands no letter, so the digits are decimal. -/
lemma integer?_digits {digits : List Char} (h : Digits.AreDigits digits) :
    integer? digits = (wholeDigits? digits).bind fun digits => bounded? (Digits.value digits) := by
  have hsecond {c : Char} (hc : Digits.isDigit c = false) {rest : List Char}
      (hradix : digits = '0' :: c :: rest) : False := by
    subst hradix
    have := h c (List.mem_cons_of_mem _ List.mem_cons_self)
    rw [hc] at this
    cases this
  unfold integer?
  split
  · exact (hsecond rfl rfl).elim
  · exact (hsecond rfl rfl).elim
  · exact (hsecond rfl rfl).elim
  · rw [splitSign_digits h]
    rfl

/-- An integer in writing is a row of digits, with a dash in front if it is negative. -/
lemma toList_integerText (n : Int) :
    (n < 0 ∧ (Digits.integerText n).toList = '-' :: Digits.decimal n.natAbs)
      ∨ (0 ≤ n ∧ (Digits.integerText n).toList = Digits.decimal n.natAbs) := by
  by_cases hnegative : n < 0
  · refine .inl ⟨hnegative, ?_⟩
    simp [Digits.integerText, hnegative, Digits.decimalText]
  · refine .inr ⟨not_lt.1 hnegative, ?_⟩
    rw [Digits.integerText, if_neg hnegative, Digits.decimalText, String.toList_ofList]

/-- An integer in writing is read as itself, if the format has it. -/
lemma integer?_integerText (n : Int) : integer? (Digits.integerText n).toList = bounded? n := by
  have hwhole := wholeDigits?_decimal n.natAbs
  have hvalue := Digits.value_decimal n.natAbs
  rcases toList_integerText n with ⟨hn, htext⟩ | ⟨hn, htext⟩
  · have hsign : -(n.natAbs : Int) = n := by omega
    calc
      integer? (Digits.integerText n).toList
          = (wholeDigits? (Digits.decimal n.natAbs)).bind fun digits =>
            bounded? (-(Digits.value digits : Int)) := by
        rw [htext]
        rfl
      _ = bounded? n := by rw [hwhole, Option.bind_some, hvalue, hsign]
  · have hsign : (n.natAbs : Int) = n := by omega
    rw [htext, integer?_digits (Digits.areDigits_decimal n.natAbs), hwhole, Option.bind_some,
      hvalue, hsign]

lemma integerText_ne_nil (n : Int) : (Digits.integerText n).toList ≠ [] := by
  rcases toList_integerText n with ⟨-, h⟩ | ⟨-, h⟩
  · rw [h]
    exact List.cons_ne_nil _ _
  · rw [h]
    exact Digits.decimal_ne_nil _

lemma isDigit_of_mem_integerText {n : Int} {c : Char} (hc : c ∈ (Digits.integerText n).toList)
    (hdash : c ≠ '-') : Digits.isDigit c = true := by
  rcases toList_integerText n with ⟨-, h⟩ | ⟨-, h⟩
  · rw [h] at hc
    exact Digits.areDigits_decimal _ c (List.mem_of_ne_of_mem hdash hc)
  · rw [h] at hc
    exact Digits.areDigits_decimal _ c hc

/-! ## Values -/

/-- A value that begins like a word is one. -/
lemma value?_of_head {c : Char} (hc : isWordChar c = true) (depth : Nat) (rest : List Char) :
    value? depth (c :: rest) = word? (c :: rest) := by
  have hne {d : Char} (hd : isWordChar d = false) {others : List Char}
      (htext : c :: rest = d :: others) : False :=
    ne_of_apply hc hd (List.cons.inj htext).1
  unfold value?
  split
  · exact (hne rfl ‹_›).elim
  · exact (hne rfl ‹_›).elim
  · exact (hne rfl ‹_›).elim
  · exact (hne rfl ‹_›).elim
  · rfl

lemma word?_of_word (cs : List Char) (hcs : ∀ c ∈ cs, isWordChar c = true) {rest : List Char}
    (hmoment : skipMoment? (cs ++ '\n' :: rest) = none) :
    word? (cs ++ '\n' :: rest)
      = (if cs = ['t', 'r', 'u', 'e'] then some (Value.boolean true)
        else if cs = ['f', 'a', 'l', 's', 'e'] then some (.boolean false)
        else (integer? cs).or (float? cs)).map fun value => (value, '\n' :: rest) := by
  simp only [word?, hmoment, takeWhile_append_cons hcs (rfl : isWordChar '\n' = false),
    dropWhile_append_cons hcs (rfl : isWordChar '\n' = false)]

lemma isWordChar_of_isDigit {c : Char} (hc : Digits.isDigit c = true) : isWordChar c = true := by
  have hdigit : c.isDigit = true := hc
  simp [isWordChar, Char.isAlphanum, hdigit]

lemma isWordChar_of_mem_integerText {n : Int} {c : Char} (hc : c ∈ (Digits.integerText n).toList) :
    isWordChar c = true := by
  by_cases hdash : c = '-'
  · rw [hdash]
    rfl
  · exact isWordChar_of_isDigit (isDigit_of_mem_integerText hc hdash)

lemma word?_integerText {n : Int} (hn : isInteger n = true) (rest : List Char) :
    word? ((Digits.integerText n).toList ++ '\n' :: rest) = some (.integer n, '\n' :: rest) := by
  have hmoment : skipMoment? ((Digits.integerText n).toList ++ '\n' :: rest) = none := by
    rcases toList_integerText n with ⟨-, h⟩ | ⟨-, h⟩
    · rw [h]
      exact skipMoment?_of_head rfl
    · rw [h]
      exact skipMoment?_digits (Digits.areDigits_decimal n.natAbs)
  have hne {c : Char} (hc : Digits.isDigit c = false) (hdash : c ≠ '-') (others : List Char) :
      (Digits.integerText n).toList ≠ c :: others := by
    intro htext
    have hmem : c ∈ (Digits.integerText n).toList := htext ▸ List.mem_cons_self
    rw [isDigit_of_mem_integerText hmem hdash] at hc
    cases hc
  have htrue := hne (rfl : Digits.isDigit 't' = false) (by decide) ['r', 'u', 'e']
  have hfalse := hne (rfl : Digits.isDigit 'f' = false) (by decide) ['a', 'l', 's', 'e']
  rw [word?_of_word _ (fun _ => isWordChar_of_mem_integerText) hmoment, if_neg htrue,
    if_neg hfalse, integer?_integerText, bounded?, if_pos hn]
  rfl

/-- A value in writing begins like a word. -/
lemma exists_cons_of_text? {value : Value} {text : String} (h : value.text? = some text) :
    ∃ c cs, isWordChar c = true ∧ text.toList = c :: cs := by
  cases value with
  | integer n =>
    obtain ⟨-, htext⟩ := Option.ite_none_right_eq_some.1 h
    obtain ⟨c, cs, hcs⟩ := List.exists_cons_of_ne_nil (integerText_ne_nil n)
    refine ⟨c, cs, isWordChar_of_mem_integerText (n := n) (hcs ▸ List.mem_cons_self), ?_⟩
    rw [← Option.some.inj htext, hcs]
  | boolean b =>
    cases b with
    | true =>
      cases h
      exact ⟨'t', ['r', 'u', 'e'], rfl, rfl⟩
    | false =>
      cases h
      exact ⟨'f', ['a', 'l', 's', 'e'], rfl, rfl⟩
  | other => cases h

/-- **A value in writing** is read as itself at the end of a line. -/
lemma value?_text? {value : Value} {text : String} (h : value.text? = some text) (depth : Nat)
    (rest : List Char) :
    value? depth (text.toList ++ '\n' :: rest) = some (value, '\n' :: rest) := by
  obtain ⟨c, cs, hc, hcs⟩ := exists_cons_of_text? h
  have hword : value? depth (text.toList ++ '\n' :: rest)
      = word? (text.toList ++ '\n' :: rest) := by
    rw [hcs]
    exact value?_of_head hc depth _
  rw [hword]
  cases value with
  | integer n =>
    obtain ⟨hn, htext⟩ := Option.ite_none_right_eq_some.1 h
    rw [← Option.some.inj htext]
    exact word?_integerText hn rest
  | boolean b =>
    cases b with
    | true =>
      cases h
      exact word?_of_word ['t', 'r', 'u', 'e'] (List.all_eq_true.1 rfl) (skipMoment?_of_head rfl)
    | false =>
      cases h
      exact word?_of_word ['f', 'a', 'l', 's', 'e'] (List.all_eq_true.1 rfl)
        (skipMoment?_of_head rfl)
  | other => cases h

/-! ## Keys -/

/-- A key that needs no quotes. -/
def IsBare (key : String) : Prop := key.toList ≠ [] ∧ ∀ c ∈ key.toList, isBareChar c = true

instance (key : String) : Decidable (IsBare key) :=
  @instDecidableAnd _ _ _ (List.decidableBAll (fun c => isBareChar c = true) key.toList)

/-- A text whose first character could stand in a key without quotes. -/
def BeginsBare (text : List Char) : Prop := ∃ c rest, isBareChar c = true ∧ text = c :: rest

section

variable {key : String} {text rest : List Char}

lemma IsBare.beginsBare (h : IsBare key) (rest : List Char) : BeginsBare (key.toList ++ rest) := by
  obtain ⟨c, cs, hcs⟩ := List.exists_cons_of_ne_nil h.1
  exact ⟨c, cs ++ rest, h.2 c (hcs ▸ List.mem_cons_self), by rw [hcs, List.cons_append]⟩

lemma BeginsBare.ne_cons (h : BeginsBare text) {c : Char} (hc : isBareChar c = false) :
    text ≠ c :: rest := by
  obtain ⟨d, others, hd, rfl⟩ := h
  exact fun htext => ne_of_apply hd hc (List.cons.inj htext).1

/-- A character of a class without blanks is not skipped. -/
lemma skipSpaces_cons {p : Char → Bool} {c : Char} (hc : p c = true) (hspace : p ' ' = false)
    (htab : p '\t' = false) (rest : List Char) : skipSpaces (c :: rest) = c :: rest := by
  have hfalse : isSpace c = false := by
    simp [isSpace, ne_of_apply hc hspace, ne_of_apply hc htab]
  exact List.dropWhile_cons_of_neg (ne_true_of_eq_false hfalse)

lemma BeginsBare.skipSpaces_eq (h : BeginsBare text) : skipSpaces text = text := by
  obtain ⟨c, rest, hc, rfl⟩ := h
  exact skipSpaces_cons hc rfl rfl rest

lemma part?_bare (h : IsBare key) :
    part? (key.toList ++ ' ' :: rest) = some (key, ' ' :: rest) := by
  have hbegins := h.beginsBare (' ' :: rest)
  unfold part?
  split
  · rename_i htext
    exact absurd htext (hbegins.ne_cons rfl)
  · rename_i htext
    exact absurd htext (hbegins.ne_cons rfl)
  · simp only [takeWhile_append_cons h.2 (rfl : isBareChar ' ' = false),
      dropWhile_append_cons h.2 (rfl : isBareChar ' ' = false), String.ofList_toList]
    exact if_neg (by simpa using h.1)

/-- A key without quotes has one part. -/
lemma key?_bare (h : IsBare key) :
    key? (key.toList ++ ' ' :: '=' :: rest) = some ([key], '=' :: rest) := by
  have hbegins := h.beginsBare (' ' :: '=' :: rest)
  change partsFrom (78 + 1) [] _ = _
  rw [partsFrom, hbegins.skipSpaces_eq, part?_bare h]
  rfl

/-! ## Lines -/

/-- What begins with a key is neither empty nor a comment. -/
lemma lineEnd?_of_beginsBare (h : BeginsBare text) : lineEnd? text = none := by
  rw [lineEnd?, h.skipSpaces_eq]
  obtain ⟨c, rest, hc, rfl⟩ := h
  have hcomment : c ≠ '#' := ne_of_apply hc rfl
  have hline : c ≠ '\n' := ne_of_apply hc rfl
  have hreturn : c ≠ '\r' := ne_of_apply hc rfl
  simp [lineBreak?, hcomment, hline, hreturn]

lemma insert_of_lookup_eq_none {members : Members} (h : members.lookup key = none) (node : Node) :
    members.insert key node = members ++ [(key, node)] := by
  induction members with
  | nil => rfl
  | cons member members ih =>
    obtain ⟨k, n⟩ := member
    rw [List.lookup_cons] at h
    split at h
    · cases h
    · rename_i hne
      have hkey : k ≠ key := by
        rintro rfl
        simp at hne
      rw [Members.insert, if_neg hkey, ih h, List.cons_append]

/-- A line with a key and a value in writing. -/
def pairLine (key written : String) : List Char :=
  key.toList ++ " = ".toList ++ written.toList ++ ['\n']

/-- A key that is not there yet is set by its pair. -/
lemma edit_addValue {members : Members} (hnew : members.lookup key = none) (value : Value) :
    Document.edit ⟨members⟩ [] (addValue [] key value)
      = some ⟨members ++ [(key, .value value)]⟩ := by
  have hadd : addValue [] key value .header members = some (members ++ [(key, .value value)]) := by
    change addLast key value false .header members = _
    rw [addLast, hnew, insert_of_lookup_eq_none hnew]
    rfl
  exact congrArg (Option.map Document.mk) hadd

/-- **A line** with a new key sets it. -/
lemma line?_pair (h : IsBare key) {value : Value} {written : String}
    (hvalue : value.text? = some written) {members : Members} (hnew : members.lookup key = none)
    (rest : List Char) :
    line? ⟨members⟩ [] (pairLine key written ++ rest)
      = some (⟨members ++ [(key, .value value)]⟩, [], rest) := by
  have htext : pairLine key written ++ rest
      = key.toList ++ ' ' :: '=' :: ' ' :: (written.toList ++ '\n' :: rest) := by
    simp [pairLine]
  have hbegins := h.beginsBare (' ' :: '=' :: ' ' :: (written.toList ++ '\n' :: rest))
  have hspaces : skipSpaces (' ' :: (written.toList ++ '\n' :: rest))
      = written.toList ++ '\n' :: rest := by
    obtain ⟨c, cs, hc, hcs⟩ := exists_cons_of_text? hvalue
    rw [hcs]
    exact skipSpaces_cons hc rfl rfl _
  rw [htext, line?, hbegins.skipSpaces_eq]
  split
  · rename_i hheader
    exact absurd hheader (hbegins.ne_cons rfl)
  · rename_i hheader
    exact absurd hheader (hbegins.ne_cons rfl)
  · rw [lineEnd?_of_beginsBare hbegins]
    have hword : Front.word "=" () ('=' :: ' ' :: (written.toList ++ '\n' :: rest))
        = some ((), ' ' :: (written.toList ++ '\n' :: rest)) := rfl
    have hend : lineEnd? ('\n' :: rest) = some rest := rfl
    simp only [pair?, key?_bare h, Option.bind_eq_bind, Option.bind_some, hword, hspaces,
      value?_text? hvalue, hend]
    change (Document.edit ⟨members⟩ [] (addValue [] key value)).bind _ = _
    rw [edit_addValue hnew]
    rfl

/-- What is written is a line for the first pair, and then what is written for the others. -/
lemma exists_of_render?_cons {value : Value} {entries : List (String × Value)} {written : String}
    (h : render? ((key, value) :: entries) = some written) :
    ∃ text rest, value.text? = some text ∧ render? entries = some rest
      ∧ written.toList = pairLine key text ++ rest.toList := by
  simp only [render?, Option.bind_eq_bind, Option.bind_eq_some_iff, Option.pure_def,
    Option.some.injEq] at h
  obtain ⟨text, htext, rest, hrest, rfl⟩ := h
  exact ⟨text, rest, htext, hrest, by simp [pairLine]⟩

/-- **Lines** set one key after the other. -/
lemma linesFrom_pairs {entries : List (String × Value)} {written : String}
    (hrender : render? entries = some written) (hbare : ∀ entry ∈ entries, IsBare entry.1)
    (hnodup : (entries.map Prod.fst).Nodup) {members : Members}
    (hnew : ∀ entry ∈ entries, members.lookup entry.1 = none) {fuel : Nat}
    (hfuel : entries.length < fuel) :
    linesFrom fuel ⟨members⟩ [] written.toList
      = some ⟨members ++ entries.map fun entry => (entry.1, .value entry.2)⟩ := by
  induction entries generalizing written members fuel with
  | nil =>
    cases hrender
    obtain ⟨fuel, rfl⟩ := Nat.exists_eq_add_of_lt hfuel
    simp [linesFrom]
  | cons entry entries ih =>
    obtain ⟨key, value⟩ := entry
    obtain ⟨fuel, rfl⟩ : ∃ k, fuel = k + 1 := ⟨fuel - 1, by omega⟩
    obtain ⟨hkey, hothers⟩ := List.forall_mem_cons.1 hbare
    obtain ⟨hkeyNew, hothersNew⟩ := List.forall_mem_cons.1 hnew
    obtain ⟨text, rest, htext, hrest, hline⟩ := exists_of_render?_cons hrender
    have hnonempty : (pairLine key text ++ rest.toList).isEmpty = false := by
      simp [pairLine]
    rw [List.map_cons, List.nodup_cons] at hnodup
    obtain ⟨hfirst, hnodup⟩ := hnodup
    have hstillNew : ∀ entry ∈ entries,
        (members ++ [(key, Node.value value)]).lookup entry.1 = none := by
      intro entry hentry
      have hne : entry.1 ≠ key := fun heq => hfirst (List.mem_map.2 ⟨entry, hentry, heq⟩)
      rw [List.lookup_append, hothersNew entry hentry]
      simp [hne]
    rw [hline, linesFrom, hnonempty, line?_pair hkey htext hkeyNew]
    refine (ih hrest hothers hnodup hstillNew (Nat.lt_of_succ_lt_succ hfuel)).trans ?_
    rw [List.append_assoc]
    rfl

/-- Each pair takes up a character at least. -/
lemma length_le_of_render? {entries : List (String × Value)} {written : String}
    (hrender : render? entries = some written) : entries.length ≤ written.toList.length := by
  induction entries generalizing written with
  | nil => exact Nat.zero_le _
  | cons entry entries ih =>
    obtain ⟨key, value⟩ := entry
    obtain ⟨text, rest, -, hrest, hline⟩ := exists_of_render?_cons hrender
    have hle := ih hrest
    simp only [hline, pairLine, List.length_append, List.length_cons]
    omega

/-- **What is written is read**, when no key needs quotes or stands twice. -/
theorem parse?_render? {entries : List (String × Value)} {written : String}
    (hrender : render? entries = some written) (hbare : ∀ entry ∈ entries, IsBare entry.1)
    (hnodup : (entries.map Prod.fst).Nodup) :
    parse? written = some ⟨entries.map fun entry => (entry.1, .value entry.2)⟩ := by
  have hmark : dropMark written.toList = written.toList := by
    cases entries with
    | nil =>
      cases hrender
      rfl
    | cons entry entries =>
      obtain ⟨text, rest, -, -, hline⟩ := exists_of_render?_cons hrender
      have hbegins : BeginsBare written.toList := by
        rw [hline, pairLine, List.append_assoc, List.append_assoc, List.append_assoc]
        exact (hbare entry List.mem_cons_self).beginsBare _
      unfold dropMark
      split
      · rename_i hmark
        exact absurd hmark (hbegins.ne_cons rfl)
      · rfl
  have hnew : ∀ entry ∈ entries, ([] : Members).lookup entry.1 = none := fun _ _ => rfl
  have hlines := linesFrom_pairs hrender hbare hnodup hnew
    (Nat.lt_succ_of_le (length_le_of_render? hrender))
  rw [parse?, hmark]
  exact hlines

end

/-! ## What cannot be written -/

/-- **Pairs cannot be written** when one of the values cannot. -/
theorem render?_eq_none_iff {entries : List (String × Value)} :
    render? entries = none ↔ ∃ entry ∈ entries, entry.2.text? = none := by
  induction entries with
  | nil => simp [render?]
  | cons entry entries ih =>
    obtain ⟨key, value⟩ := entry
    rw [List.exists_mem_cons_iff, ← ih]
    cases htext : value.text? <;> cases hrest : render? entries <;> simp [render?, htext, hrest]

end Toml

end QueryWire
