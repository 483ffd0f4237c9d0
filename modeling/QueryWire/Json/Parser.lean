import QueryWire.Json.Basic
import QueryWire.Number.Binary64
import QueryWire.Text.Front
import QueryWire.Text.Utf8

/-!
# Reading JSON

A document is one value with blanks around it.  Two rules go beyond the grammar.  Numbers keep the
digits that fit in 64 bits and let the others only count for the exponent; a double is then the
kept digits, rounded, times or over one power of ten, rounded again.  And arrays and objects lie
at most `Json.maxDepth` deep.

* `Json.parse?` — the document of a text.
* `Json.ofBytes?` — the document of a byte list in UTF-8.
-/

namespace QueryWire

namespace Json

/-- The blanks of the grammar. -/
def isBlank (c : Char) : Bool := c = ' ' || c = '\n' || c = '\t' || c = '\r'

/-- A text from its first character that is not blank. -/
def skipBlanks (text : List Char) : List Char := text.dropWhile isBlank

/-! ## Numbers -/

/-- The greatest power of ten that one multiplication or division takes. -/
def maxPower : Nat := 308

/-- From here on an exponent is not counted any more: the number is zero or too large. -/
def exponentLimit : Nat := 0x80000000

/-- The double nearest to `10 ^ n`. -/
def powerOfTen (n : Nat) : Nat := Binary64.ofRatio (Nat.pow 10 n) 1

/-- Divides by `10 ^ 308` until the exponent is one that a single division takes. -/
def divideDown : (steps : Nat) → (magnitude : Nat) → (exponent : Nat) → Nat
  | 0, magnitude, _ => magnitude
  | steps + 1, magnitude, exponent =>
    if exponent ≤ maxPower then Binary64.div magnitude (powerOfTen exponent)
    else if magnitude = 0 then 0
    else divideDown steps (Binary64.div magnitude (powerOfTen maxPower)) (exponent - maxPower)

/-- The double `digits · 10 ^ exponent`, unless it is too large. -/
def double? (negative : Bool) (digits : Nat) (exponent : Int) : Option Json :=
  let magnitude := Binary64.ofRatio digits 1
  if 0 ≤ exponent then
    if exponent.toNat ≤ maxPower then
      let product := Binary64.mul magnitude (powerOfTen exponent.toNat)
      if product = Binary64.infinity then none else some (signed negative product)
    else if magnitude = 0 then some (signed negative 0)
    else none
  else some (signed negative (divideDown 4 magnitude (-exponent).toNat))

/-- Digits kept and left out: a digit is kept as long as the number stays below `2 ^ 64`, and the
first that is not kept ends the keeping. -/
def keepDigits (kept : Nat) : List Char → Nat × List Char
  | [] => (kept, [])
  | c :: rest =>
    let next := kept * 10 + (c.toNat - '0'.toNat)
    if next < UInt64.size then keepDigits next rest else (kept, c :: rest)

/-- An exponent at the front of a text, or none: whether it is negative and its digits. -/
def exponent? : Front (Option (Bool × List Char))
  | c :: rest =>
    if c = 'e' || c = 'E' then
      let (negative, rest) := match rest with
        | '-' :: rest => (true, rest)
        | '+' :: rest => (false, rest)
        | rest => (false, rest)
      let digits := rest.takeWhile Digits.isDigit
      if digits.isEmpty then none else some (some (negative, digits), rest.dropWhile Digits.isDigit)
    else some (none, c :: rest)
  | [] => some (none, [])

/-- A fraction at the front of a text, or none: its digits. -/
def fraction? : Front (Option (List Char))
  | '.' :: rest =>
    let digits := rest.takeWhile Digits.isDigit
    if digits.isEmpty then none else some (some digits, rest.dropWhile Digits.isDigit)
  | rest => some (none, rest)

/-- The whole part at the front of a text: a single zero, or digits that start with none. -/
def whole? : Front (List Char)
  | '0' :: rest =>
    match rest with
    | c :: _ => if Digits.isDigit c then none else some (['0'], rest)
    | [] => some (['0'], [])
  | rest =>
    let digits := rest.takeWhile Digits.isDigit
    if digits.isEmpty then none else some (digits, rest.dropWhile Digits.isDigit)

/-- The number of a sign, a whole part, and maybe a fraction and an exponent. -/
def number? (negative : Bool) (whole : List Char) (fraction : Option (List Char))
    (exponent : Option (Bool × List Char)) : Option Json :=
  let (kept, left) := keepDigits 0 whole
  match fraction, exponent with
  | none, none =>
    if left.isEmpty then
      if !negative then some (.int kept)
      else if kept = 0 || signBit < kept then some (signed true (Binary64.ofRatio kept 1))
      else some (.int (-(kept : Int)))
    else double? negative kept left.length
  | _, _ =>
    let behind := fraction.getD []
    let (kept, out) := keepDigits kept behind
    let scale : Int := (left.length : Int) - (behind.length - out.length : Nat)
    match exponent with
    | none => double? negative kept scale
    | some (down, digits) =>
      if exponentLimit ≤ Digits.value digits then
        if kept ≠ 0 && !down then none else some (signed negative 0)
      else
        let e : Int := Digits.value digits
        double? negative kept (if down then scale - e else scale + e)

/-- A number at the front of a text, behind its sign. -/
def unsignedNumber? (negative : Bool) : Front Json := fun text => do
  let (whole, text) ← whole? text
  let (fraction, text) ← fraction? text
  let (exponent, text) ← exponent? text
  let number ← number? negative whole fraction exponent
  pure (number, text)

/-! ## Strings -/

/-- Whether a 16-bit unit is the first of a surrogate pair. -/
def isHighSurrogate (n : Nat) : Bool := 0xD800 ≤ n && n ≤ 0xDBFF

/-- Whether a 16-bit unit is the second of a surrogate pair. -/
def isLowSurrogate (n : Nat) : Bool := 0xDC00 ≤ n && n ≤ 0xDFFF

/-- The character of a letter behind a backslash. -/
def escape? (c : Char) : Option Char :=
  match c with
  | '"' => some '"'
  | '\\' => some '\\'
  | '/' => some '/'
  | 'b' => some '\x08'
  | 'f' => some '\x0c'
  | 'n' => some '\n'
  | 'r' => some '\r'
  | 't' => some '\t'
  | _ => none

/-- The rest of a string behind its opening quote, after the characters in `done` (last first). -/
def stringFrom (done : List Char) : Front String
  | [] => none
  | '"' :: rest => some (String.ofList done.reverse, rest)
  | '\\' :: 'u' :: a :: b :: c :: d :: '\\' :: 'u' :: e :: f :: g :: h :: rest =>
    match Front.hexValue? [a, b, c, d] with
    | none => none
    | some high =>
      if isHighSurrogate high then
        match Front.hexValue? [e, f, g, h] with
        | none => none
        | some low =>
          if isLowSurrogate low then
            stringFrom (Char.ofNat (0x10000 + (high - 0xD800) * 1024 + (low - 0xDC00)) :: done) rest
          else none
      else if isLowSurrogate high then none
      else stringFrom (Char.ofNat high :: done) ('\\' :: 'u' :: e :: f :: g :: h :: rest)
  | '\\' :: 'u' :: a :: b :: c :: d :: rest =>
    match Front.hexValue? [a, b, c, d] with
    | none => none
    | some n =>
      if isHighSurrogate n || isLowSurrogate n then none
      else stringFrom (Char.ofNat n :: done) rest
  | '\\' :: c :: rest =>
    match escape? c with
    | none => none
    | some c => stringFrom (c :: done) rest
  | c :: rest => if c.toNat < 0x20 || c = '\\' then none else stringFrom (c :: done) rest
termination_by text => text.length

/-! ## Values -/

/-- The items of an array behind its opening bracket or a comma; `fuel` bounds their count. -/
def itemsFrom (value? : Front Json) : (fuel : Nat) → (done : List Json) → Front (List Json)
  | 0, _, _ => none
  | fuel + 1, done, text =>
    match value? text with
    | none => none
    | some (item, rest) =>
      match skipBlanks rest with
      | ',' :: rest => itemsFrom value? fuel (item :: done) rest
      | ']' :: rest => some ((item :: done).reverse, rest)
      | _ => none

/-- The members of an object behind its opening brace or a comma; `fuel` bounds their count. -/
def membersFrom (value? : Front Json) :
    (fuel : Nat) → (done : List (String × Json)) → Front (List (String × Json))
  | 0, _, _ => none
  | fuel + 1, done, text =>
    match skipBlanks text with
    | '"' :: rest =>
      match stringFrom [] rest with
      | none => none
      | some (name, rest) =>
        match skipBlanks rest with
        | ':' :: rest =>
          match value? rest with
          | none => none
          | some (value, rest) =>
            let done := insertMember name value done
            match skipBlanks rest with
            | ',' :: rest => membersFrom value? fuel done rest
            | '\x7d' :: rest => some (done, rest)
            | _ => none
        | _ => none
    | _ => none

/-- A value at the front of a text, with arrays and objects at most `depth` deep. -/
def value? : (depth : Nat) → Front Json
  | depth, text =>
    match skipBlanks text with
    | 'n' :: rest => Front.word "ull" .null rest
    | 't' :: rest => Front.word "rue" (.bool true) rest
    | 'f' :: rest => Front.word "alse" (.bool false) rest
    | '"' :: rest => (stringFrom [] rest).map fun (text, rest) => (.string text, rest)
    | '-' :: rest => unsignedNumber? true rest
    | '[' :: rest =>
      match depth with
      | 0 => none
      | depth + 1 =>
        match skipBlanks rest with
        | ']' :: rest => some (.array [], rest)
        | _ => (itemsFrom (value? depth) rest.length [] rest).map fun (items, rest) =>
            (.array items, rest)
    | '\x7b' :: rest =>
      match depth with
      | 0 => none
      | depth + 1 =>
        match skipBlanks rest with
        | '\x7d' :: rest => some (.object [], rest)
        | _ => (membersFrom (value? depth) rest.length [] rest).map fun (members, rest) =>
            (.object members, rest)
    | rest => unsignedNumber? false rest

/-- The document that a text holds. -/
def ofChars? (text : List Char) : Option Json :=
  match value? maxDepth text with
  | some (value, rest) => if (skipBlanks rest).isEmpty then some value else none
  | none => none

/-- The document that a text holds. -/
def parse? (text : String) : Option Json := ofChars? text.toList

/-- The document that a byte list holds in UTF-8. -/
def ofBytes? (bytes : Bytes) : Option Json := (Utf8.text? bytes).bind parse?

end Json

end QueryWire
