import QueryWire.Text.Digits
import QueryWire.Text.Extending
import QueryWire.Text.Unprintable

/-!
# Quoted text

A text between double quotes, so that no character of it can be taken for another: the quote and
the backslash stand behind a backslash, a few controls have letters of their own, and what would
not show, or would change the character before it, is written by its code point.

* `Text.quote` — a text between quotes.
* `Text.quoteList` — quoted texts between brackets.
-/

namespace QueryWire

namespace Text

/-- A character by its code point. -/
def codePointEscape (c : Char) : List Char :=
  ['\\', 'u', '\x7b'] ++ Digits.hexadecimal c.toNat ++ ['\x7d']

/-- How a character stands inside quotes. -/
def quoteChar (c : Char) : List Char :=
  if c = '\x00' then ['\\', '0']
  else if c = '\t' then ['\\', 't']
  else if c = '\r' then ['\\', 'r']
  else if c = '\n' then ['\\', 'n']
  else if c = '"' || c = '\\' then ['\\', c]
  else if c.toNat < 0x7F && 0x20 ≤ c.toNat then [c]
  else if isExtending c || isUnprintable c then codePointEscape c
  else [c]

/-- A text between quotes. -/
def quote (text : String) : String :=
  String.ofList ('"' :: text.toList.flatMap quoteChar ++ ['"'])

/-- Quoted texts between brackets. -/
def quoteList (texts : List String) : String :=
  "[" ++ ", ".intercalate (texts.map quote) ++ "]"

end Text

end QueryWire
