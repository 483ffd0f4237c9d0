import QueryWire.Json.Basic
import QueryWire.Number.Binary64

/-!
# Writing JSON

The compact form: nothing between the tokens, members in the order of their names, the fewest
digits that read back for a double.

* `Json.floatText` — a double: positional while the exponent of its first digit is between -5 and
  15, with at least one digit behind the point, else scientific with a signed exponent.
* `Json.render` — a document.
-/

namespace QueryWire

namespace Json

/-- A magnitude in decimal. -/
def magnitudeText (bits : Nat) : List Char :=
  if bits = 0 then ['0', '.', '0']
  else
    let d := Binary64.shortest bits
    let digits := Digits.decimal d.digits
    -- the exponent of the first digit
    let e := d.exponent + digits.length - 1
    if -5 ≤ e ∧ e ≤ 15 then
      if 0 ≤ d.exponent then digits ++ List.replicate d.exponent.toNat '0' ++ ['.', '0']
      else if 0 ≤ e then digits.take (e.toNat + 1) ++ '.' :: digits.drop (e.toNat + 1)
      else ['0', '.'] ++ List.replicate ((-e).toNat - 1) '0' ++ digits
    else
      let fraction := if digits.length = 1 then [] else '.' :: digits.drop 1
      let sign := if 0 ≤ e then '+' else '-'
      digits.take 1 ++ fraction ++ 'e' :: sign :: Digits.decimal e.natAbs

/-- A finite double in decimal; infinities and what is no number have no form. -/
def floatText (bits : UInt64) : List Char :=
  let n := bits.toNat
  let magnitude := n % signBit
  if Binary64.infinity ≤ magnitude then "null".toList
  else if signBit ≤ n then '-' :: magnitudeText magnitude
  else magnitudeText magnitude

/-- How a character stands in a string. -/
def stringChar (c : Char) : List Char :=
  if c = '"' then ['\\', '"']
  else if c = '\\' then ['\\', '\\']
  else if c = '\x08' then ['\\', 'b']
  else if c = '\t' then ['\\', 't']
  else if c = '\n' then ['\\', 'n']
  else if c = '\x0c' then ['\\', 'f']
  else if c = '\r' then ['\\', 'r']
  else if c.toNat < 0x20 then ['\\', 'u'] ++ Digits.fixed 16 4 c.toNat
  else [c]

/-- A string between quotes. -/
def stringText (text : String) : List Char :=
  '"' :: text.toList.flatMap stringChar ++ ['"']

mutual

/-- The characters of a document. -/
def chars : Json → List Char
  | .null => "null".toList
  | .bool true => "true".toList
  | .bool false => "false".toList
  | .int n => (Digits.integerText n).toList
  | .float bits => floatText bits
  | .string text => stringText text
  | .array items => '[' :: itemsChars true items ++ [']']
  | .object members => '\x7b' :: membersChars true members ++ ['\x7d']

/-- The characters of the items of an array; a comma stands before each but the first. -/
def itemsChars (first : Bool) : List Json → List Char
  | [] => []
  | item :: rest => (if first then [] else [',']) ++ chars item ++ itemsChars false rest

/-- The characters of the members of an object. -/
def membersChars (first : Bool) : List (String × Json) → List Char
  | [] => []
  | (name, value) :: rest =>
    (if first then [] else [',']) ++ stringText name ++ ':' :: chars value ++ membersChars false rest

end

/-- A document as text. -/
def render (json : Json) : String := String.ofList json.chars

end Json

end QueryWire
