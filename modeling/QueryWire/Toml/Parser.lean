import QueryWire.Number.Binary64
import QueryWire.Text.Front
import QueryWire.Toml.Document

/-!
# Reading TOML

A document is a row of lines: headers, keys with their values, comments.  Arrays and inline tables
lie less than `Toml.maxDepth` deep, and keys have fewer parts than that.

* `Toml.value?` — a value at the front of a text.
* `Toml.key?` — a key at the front of a text, by its parts.
* `Toml.parse?` — the document of a text.
-/

namespace QueryWire

namespace Toml

/-- The bound on the depth of values and on the parts of keys. -/
def maxDepth : Nat := 80

/-! ## Between the tokens -/

/-- The blanks inside a line. -/
def isSpace (c : Char) : Bool := c = ' ' || c = '\t'

/-- A text from its first character that is no blank. -/
def skipSpaces (text : List Char) : List Char := text.dropWhile isSpace

/-- Whether a character may stand in text at all: no control but the tabulator. -/
def isPlain (c : Char) : Bool := c = '\t' || (0x20 ≤ c.toNat && c.toNat ≠ 0x7F)

/-- What follows a line break. -/
def lineBreak? : List Char → Option (List Char)
  | '\n' :: rest => some rest
  | '\r' :: '\n' :: rest => some rest
  | _ => none

/-- What follows the end of a line, blanks and a comment before it aside. -/
def lineEnd? (text : List Char) : Option (List Char) :=
  let rest := match skipSpaces text with
    | '#' :: rest => rest.dropWhile isPlain
    | rest => rest
  if rest.isEmpty then some [] else lineBreak? rest

/-- What follows blanks, line breaks and comments; `inComment` when a comment has begun. -/
def skipLinesFrom (inComment : Bool) : List Char → Option (List Char)
  | [] => if inComment then none else some []
  | '\n' :: rest => skipLinesFrom false rest
  | '\r' :: '\n' :: rest => skipLinesFrom false rest
  | c :: rest =>
    if inComment then
      if isPlain c then skipLinesFrom true rest else none
    else if isSpace c then skipLinesFrom false rest
    else if c = '#' then skipLinesFrom true rest
    else if c = '\r' then none
    else some (c :: rest)

/-- What follows blanks, line breaks and comments. -/
def skipLines? (text : List Char) : Option (List Char) := skipLinesFrom false text

/-! ## Strings -/

/-- A text between apostrophes, behind the first of them. -/
def literal? : Front String := fun text =>
  match text.dropWhile fun c => isPlain c && c ≠ '\'' with
  | '\'' :: rest => some (String.ofList (text.takeWhile fun c => isPlain c && c ≠ '\''), rest)
  | _ => none

/-- A character by its code point, in `width` hexadecimal digits. -/
def codePoint? (width : Nat) : Front Char := fun text =>
  let digits := text.take width
  if digits.length = width then
    (Front.hexValue? digits).bind fun n =>
      if n.isValidChar then some (Char.ofNat n, text.drop width) else none
  else none

/-- The character that an escape stands for, behind its backslash. -/
def escape? : Front Char
  | 'b' :: rest => some ('\x08', rest)
  | 't' :: rest => some ('\t', rest)
  | 'n' :: rest => some ('\n', rest)
  | 'f' :: rest => some ('\x0c', rest)
  | 'r' :: rest => some ('\r', rest)
  | '"' :: rest => some ('"', rest)
  | '\\' :: rest => some ('\\', rest)
  | 'u' :: rest => codePoint? 4 rest
  | 'U' :: rest => codePoint? 8 rest
  | _ => none

/-- The rest of a text between quotes, after the characters in `done` (last first); `fuel` bounds
their count. -/
def quotedFrom : (fuel : Nat) → (done : List Char) → Front String
  | 0, _, _ => none
  | fuel + 1, done, text =>
    match text with
    | [] => none
    | '"' :: rest => some (String.ofList done.reverse, rest)
    | '\\' :: rest => do
      let (c, rest) ← escape? rest
      quotedFrom fuel (c :: done) rest
    | c :: rest => if isPlain c then quotedFrom fuel (c :: done) rest else none

/-- A text between quotes, behind the first of them. -/
def quoted? : Front String := fun text => quotedFrom (text.length + 1) [] text

/-- What follows the marks at the end of a long string, of which up to two more than three belong
to the string. -/
def dropClosing (mark : Char) (text : List Char) : List Char :=
  text.drop (min (text.takeWhile (· = mark)).length 5)

/-- Whether a text starts with three marks. -/
def isClosing (mark : Char) (text : List Char) : Bool := [mark, mark, mark].isPrefixOf text

/-- What follows a long string in apostrophes, from inside it. -/
def skipLongLiteral : List Char → Option (List Char)
  | [] => none
  | '\r' :: rest =>
    match rest with
    | '\n' :: rest => skipLongLiteral rest
    | _ => none
  | c :: rest =>
    if isClosing '\'' (c :: rest) then some (dropClosing '\'' (c :: rest))
    else if isPlain c || c = '\n' then skipLongLiteral rest
    else none

/-- What follows the escape behind a backslash; blanks up to a line break are one, too. -/
def skipEscape? (text : List Char) : Option (List Char) :=
  match lineBreak? (skipSpaces text) with
  | some rest => some rest
  | none => (escape? text).map Prod.snd

/-- What follows a long string in quotes, from inside it; `fuel` bounds its length. -/
def skipLongQuoted : (fuel : Nat) → List Char → Option (List Char)
  | 0, _ => none
  | fuel + 1, text =>
    match text with
    | [] => none
    | '\\' :: rest => (skipEscape? rest).bind (skipLongQuoted fuel)
    | '\r' :: '\n' :: rest => skipLongQuoted fuel rest
    | c :: rest =>
      if isClosing '"' (c :: rest) then some (dropClosing '"' (c :: rest))
      else if isPlain c || c = '\n' then skipLongQuoted fuel rest
      else none

/-- What follows a string of any form, from its first mark. -/
def skipString? : List Char → Option (List Char)
  | '"' :: '"' :: '"' :: rest => skipLongQuoted (rest.length + 1) rest
  | '\'' :: '\'' :: '\'' :: rest => skipLongLiteral rest
  | '"' :: rest => (quoted? rest).map Prod.snd
  | '\'' :: rest => (literal? rest).map Prod.snd
  | _ => none

/-! ## Numbers -/

/-- The characters that numbers, dates and words are made of. -/
def isWordChar (c : Char) : Bool :=
  c.isAlphanum || c = '_' || c = '+' || c = '-' || c = '.' || c = ':'

/-- Digits of a given class, with single underscores between them left out. -/
def grouped? (isDigit : Char → Bool) : List Char → Option (List Char)
  | [] => none
  | c :: rest =>
    if !isDigit c then none
    else match rest with
      | [] => some [c]
      | '_' :: rest => (grouped? isDigit rest).map (c :: ·)
      | rest => (grouped? isDigit rest).map (c :: ·)

/-- The digits of a whole part: grouped, and no zero in front of another digit. -/
def wholeDigits? (word : List Char) : Option (List Char) :=
  match word with
  | '0' :: _ :: _ => none
  | word => grouped? Digits.isDigit word

/-- A sign and what follows it. -/
def splitSign : List Char → Bool × List Char
  | '-' :: rest => (true, rest)
  | '+' :: rest => (false, rest)
  | word => (false, word)

/-- An integer, if the format has it. -/
def bounded? (n : Int) : Option Value :=
  if isInteger n then some (.integer n) else none

/-- The integer of hexadecimal, octal or binary digits. -/
def radix? (base : Nat) (digits : List Char) : Option Value := do
  let isDigit := fun c => match Front.hexDigit? c with
    | some d => d < base
    | none => false
  let digits ← grouped? isDigit digits
  bounded? (digits.foldl (fun acc c => acc * base + (Front.hexDigit? c).getD 0) 0 : Nat)

/-- The integer of a word. -/
def integer? : List Char → Option Value
  | '0' :: 'x' :: digits => radix? 16 digits
  | '0' :: 'o' :: digits => radix? 8 digits
  | '0' :: 'b' :: digits => radix? 2 digits
  | word => do
    let (negative, body) := splitSign word
    let magnitude : Int := Digits.value (← wholeDigits? body)
    bounded? (if negative then -magnitude else magnitude)

/-- The exponent behind its letter: whether it is negative, and its digits. -/
def exponent? (word : List Char) : Option (Bool × List Char) := do
  let (negative, digits) := splitSign word
  pure (negative, ← grouped? Digits.isDigit digits)

/-- Whether `digits · 10 ^ exponent` is too large for a double. -/
def overflows (digits : List Char) (exponent : Int) : Bool :=
  let n := Digits.value digits
  let size : Int := (Digits.decimal n).length + exponent
  if n = 0 || size < 300 then false
  else if 320 < size then true
  else Binary64.infinity ≤
    if 0 ≤ exponent then Binary64.ofRatio (n * Nat.pow 10 exponent.toNat) 1
    else Binary64.ofRatio n (Nat.pow 10 (-exponent).toNat)

/-- A number with a fraction, an exponent or both; the positive ones must fit in a double. -/
def decimalFloat? (negative : Bool) (body : List Char) : Option Value := do
  let isE := fun c => c = 'e' || c = 'E'
  let mantissa := body.takeWhile (!isE ·)
  let whole ← wholeDigits? (mantissa.takeWhile (· ≠ '.'))
  let fraction ← match mantissa.dropWhile (· ≠ '.') with
    | [] => if mantissa.length = body.length then none else some []
    | _ :: digits => grouped? Digits.isDigit digits
  let (down, digits) ← match body.dropWhile (!isE ·) with
    | [] => some (false, [])
    | _ :: word => exponent? word
  let e : Int := Digits.value digits
  let exponent := (if down then -e else e) - fraction.length
  if !negative && overflows (whole ++ fraction) exponent then none else some .other

/-- A number that is no integer. -/
def float? (word : List Char) : Option Value :=
  let (negative, body) := splitSign word
  if body = ['i', 'n', 'f'] || body = ['n', 'a', 'n'] then some .other
  else decimalFloat? negative body

/-! ## Dates and times -/

/-- Two digits that spell a number between two bounds. -/
def twoDigits? (low high : Nat) : Front Nat
  | a :: b :: rest =>
    let n := Digits.value [a, b]
    if Digits.isDigit a && Digits.isDigit b && low ≤ n && n ≤ high then some (n, rest) else none
  | _ => none

/-- The days of a month. -/
def daysOfMonth (year month : Nat) : Nat :=
  if month = 2 then
    if year % 4 = 0 && (year % 100 ≠ 0 || year % 400 = 0) then 29 else 28
  else if month = 4 || month = 6 || month = 9 || month = 11 then 30
  else 31

/-- What follows a date. -/
def skipDate? (text : List Char) : Option (List Char) := do
  let year := text.take 4
  guard (year.length = 4 ∧ year.all Digits.isDigit)
  let rest ← Front.word "-" () (text.drop 4)
  let (month, rest) ← twoDigits? 1 12 rest.2
  let rest ← Front.word "-" () rest
  let (_, rest) ← twoDigits? 1 (daysOfMonth (Digits.value year) month) rest.2
  pure rest

/-- What follows hours and minutes. -/
def skipMinutes? (text : List Char) : Option (List Char) := do
  let (_, rest) ← twoDigits? 0 23 text
  let rest ← Front.word ":" () rest
  let (_, rest) ← twoDigits? 0 59 rest.2
  pure rest

/-- What follows a time of day. -/
def skipTime? (text : List Char) : Option (List Char) := do
  let rest ← skipMinutes? text
  let rest ← Front.word ":" () rest
  let (_, rest) ← twoDigits? 0 60 rest.2
  match rest with
  | '.' :: c :: rest => if Digits.isDigit c then pure (rest.dropWhile Digits.isDigit) else none
  | rest => pure rest

/-- What follows the offset of a time, if there is one. -/
def skipOffset? : List Char → Option (List Char)
  | 'Z' :: rest => some rest
  | 'z' :: rest => some rest
  | '+' :: rest => skipMinutes? rest
  | '-' :: rest => skipMinutes? rest
  | rest => some rest

/-- What follows a date, a time of day, or both with or without an offset. -/
def skipMoment? (text : List Char) : Option (List Char) :=
  match skipDate? text with
  | none => skipTime? text
  | some ('T' :: rest) => (skipTime? rest).bind skipOffset?
  | some ('t' :: rest) => (skipTime? rest).bind skipOffset?
  | some (' ' :: c :: rest) =>
    if Digits.isDigit c then (skipTime? (c :: rest)).bind skipOffset? else some (' ' :: c :: rest)
  | some rest => some rest

/-- A value that is a single word, or a date. -/
def word? : Front Value := fun text =>
  match skipMoment? text with
  | some rest => some (.other, rest)
  | none =>
    let word := text.takeWhile isWordChar
    let rest := text.dropWhile isWordChar
    let value :=
      if word = ['t', 'r', 'u', 'e'] then some (.boolean true)
      else if word = ['f', 'a', 'l', 's', 'e'] then some (.boolean false)
      else (integer? word).or (float? word)
    value.map fun value => (value, rest)

/-! ## Keys -/

/-- The characters of a key without quotes. -/
def isBareChar (c : Char) : Bool := c.isAlphanum || c = '_' || c = '-'

/-- One part of a key. -/
def part? : Front String
  | '"' :: rest => quoted? rest
  | '\'' :: rest => literal? rest
  | text =>
    let bare := text.takeWhile isBareChar
    if bare.isEmpty then none else some (String.ofList bare, text.dropWhile isBareChar)

/-- The parts of a key that follow those in `done` (last first); `fuel` bounds their count. -/
def partsFrom : (fuel : Nat) → (done : List String) → Front (List String)
  | 0, _, _ => none
  | fuel + 1, done, text => do
    let (part, rest) ← part? (skipSpaces text)
    match skipSpaces rest with
    | '.' :: rest => partsFrom fuel (part :: done) rest
    | rest => pure ((part :: done).reverse, rest)

/-- A key by its parts, blanks around each of them aside. -/
def key? : Front (List String) := partsFrom (maxDepth - 1) []

/-! ## Values -/

/-- The items of an array behind its opening bracket or a comma; `fuel` bounds their count. -/
def skipItems (value? : Front Value) : (fuel : Nat) → List Char → Option (List Char)
  | 0, _ => none
  | fuel + 1, text => do
    match ← skipLines? text with
    | ']' :: rest => pure rest
    | text =>
      let (_, rest) ← value? text
      match ← skipLines? rest with
      | ',' :: rest => skipItems value? fuel rest
      | ']' :: rest => pure rest
      | _ => none

/-- Whether two keys of one inline table exclude each other: one leads through the other. -/
def conflicts (a b : List String) : Bool := a.isPrefixOf b || b.isPrefixOf a

/-- The keys of an inline table behind its opening brace or a comma, after those in `done`; `fuel`
bounds their count. -/
def skipPairs (value? : Front Value) :
    (fuel : Nat) → (done : List (List String)) → List Char → Option (List Char)
  | 0, _, _ => none
  | fuel + 1, done, text => do
    let (key, rest) ← key? text
    let (_, rest) ← Front.word "=" () rest
    let (_, rest) ← value? (skipSpaces rest)
    if done.any (conflicts key) then none
    else match skipSpaces rest with
      | ',' :: rest => skipPairs value? fuel (key :: done) rest
      | '\x7d' :: rest => pure rest
      | _ => none

/-- A value at the front of a text, with arrays and inline tables less than `depth` deep. -/
def value? : (depth : Nat) → Front Value
  | depth, text =>
    match text with
    | '[' :: rest =>
      match depth with
      | 0 => none
      | depth + 1 => (skipItems (value? depth) (rest.length + 1) rest).map fun rest => (.other, rest)
    | '\x7b' :: rest =>
      match depth with
      | 0 => none
      | depth + 1 =>
        match skipSpaces rest with
        | '\x7d' :: rest => some (.other, rest)
        | rest => (skipPairs (value? depth) (rest.length + 1) [] rest).map fun rest => (.other, rest)
    | '"' :: rest => (skipString? ('"' :: rest)).map fun rest => (.other, rest)
    | '\'' :: rest => (skipString? ('\'' :: rest)).map fun rest => (.other, rest)
    | text => word? text

/-! ## Lines -/

/-- What a line leaves: the document, the table that later lines belong to, and what follows. -/
abbrev Line := Document × List String × List Char

/-- A header behind its opening bracket or brackets. -/
def header? (closing : String) (edit : String → Edit) (document : Document) (text : List Char) :
    Option Line := do
  let (key, rest) ← key? text
  let (_, rest) ← Front.word closing () rest
  let rest ← lineEnd? rest
  let document ← document.edit key.dropLast (edit (key.getLast?.getD ""))
  pure (document, key, rest)

/-- A key and its value. -/
def pair? (document : Document) (table : List String) (text : List Char) : Option Line := do
  let (key, rest) ← key? text
  let (_, rest) ← Front.word "=" () rest
  let (value, rest) ← value? (maxDepth - 1) (skipSpaces rest)
  let rest ← lineEnd? rest
  let document ← document.edit table (addValue key.dropLast (key.getLast?.getD "") value)
  pure (document, table, rest)

/-- One line of a document that stands under the header of `table`. -/
def line? (document : Document) (table : List String) (text : List Char) : Option Line :=
  match skipSpaces text with
  | '[' :: '[' :: rest => header? "]]" openRow document rest
  | '[' :: rest => header? "]" openTable document rest
  | text =>
    match lineEnd? text with
    | some rest => some (document, table, rest)
    | none => pair? document table text

/-- The document of the lines that follow; `fuel` bounds their count. -/
def linesFrom : (fuel : Nat) → Document → (table : List String) → List Char → Option Document
  | 0, _, _, _ => none
  | fuel + 1, document, table, text =>
    if text.isEmpty then some document
    else (line? document table text).bind fun (document, table, rest) =>
      linesFrom fuel document table rest

/-- A text without the mark of the byte order. -/
def dropMark : List Char → List Char
  | '\ufeff' :: rest => rest
  | text => text

/-- The document of a text. -/
def parse? (text : String) : Option Document :=
  let text := dropMark text.toList
  linesFrom (text.length + 1) .empty [] text

end Toml

end QueryWire
