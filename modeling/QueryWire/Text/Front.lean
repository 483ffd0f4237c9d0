/-!
# Reading the front of a text

The readers of textual formats take something off the front of a text and leave the rest.
-/

namespace QueryWire

/-- A reader of the front of a text: the value and what follows it, or none when the front has
another form. -/
abbrev Front (α : Type) := List Char → Option (α × List Char)

namespace Front

/-- A fixed word at the front of a text. -/
def word (word : String) (value : α) : Front α := fun text =>
  if word.toList.isPrefixOf text then some (value, text.drop word.length) else none

/-- The value of a hexadecimal digit. -/
def hexDigit? (c : Char) : Option Nat :=
  if '0' ≤ c && c ≤ '9' then some (c.toNat - '0'.toNat)
  else if 'a' ≤ c && c ≤ 'f' then some (c.toNat - 'a'.toNat + 10)
  else if 'A' ≤ c && c ≤ 'F' then some (c.toNat - 'A'.toNat + 10)
  else none

/-- The number that hexadecimal digits spell. -/
def hexValue? (digits : List Char) : Option Nat :=
  digits.foldl (fun acc c => do pure ((← acc) * 16 + (← hexDigit? c))) (some 0)

end Front

end QueryWire
