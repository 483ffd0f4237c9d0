import QueryWire.Text.Blank
import QueryWire.Text.Digits

/-!
# Decimal numbers

An exact decimal is an integer and the count of its digits that stand behind the point, so that
`1.50` and `1.5` differ although they are the same number.

* `Decimal.parse?` — a decimal from its literal.
* `Decimal.text` — the literal of a decimal: no plus sign, no needless leading zero, at least one
  digit in front of the point, and the point only when digits follow it.
-/

namespace QueryWire

/-- The number `mantissa / 10 ^ scale`, shown with `scale` digits behind the point. -/
structure Decimal where
  mantissa : Int
  scale : UInt16
deriving DecidableEq, Repr, Inhabited

namespace Decimal

/-- Zero without digits behind the point. -/
def zero : Decimal := ⟨0, 0⟩

/-- Whether a decimal is below zero. -/
def isNegative (d : Decimal) : Bool := d.mantissa < 0

/-- A sign and what follows it. -/
def splitSign : List Char → Bool × List Char
  | '-' :: rest => (true, rest)
  | '+' :: rest => (false, rest)
  | text => (false, text)

/-- The decimal of a literal without blanks: an optional sign, then digits with at most one point
and at least one digit. -/
def ofLiteral? (literal : List Char) : Option Decimal :=
  let (negative, body) := splitSign literal
  let whole := body.takeWhile (· != '.')
  let fraction := (body.dropWhile (· != '.')).drop 1
  if whole.isEmpty && fraction.isEmpty then none
  else if !(whole.all Digits.isDigit && fraction.all Digits.isDigit) then none
  else if fraction.length < 65536 then
    let magnitude : Int := Digits.value (whole ++ fraction)
    some ⟨if negative then -magnitude else magnitude, UInt16.ofNat fraction.length⟩
  else none

/-- The decimal of a literal, blanks at its ends aside. -/
def parse? (text : String) : Option Decimal := ofLiteral? (Text.trimChars text.toList)

/-- The digits of a decimal, with zeros in front until one stands before the point. -/
def digits (d : Decimal) : List Char :=
  let shown := Digits.decimal d.mantissa.natAbs
  List.replicate (d.scale.toNat + 1 - shown.length) '0' ++ shown

/-- The literal of a decimal. -/
def text (d : Decimal) : String :=
  let whole := d.digits.take (d.digits.length - d.scale.toNat)
  let fraction := d.digits.drop (d.digits.length - d.scale.toNat)
  let sign := if d.isNegative then ['-'] else []
  let point := if d.scale = 0 then [] else ['.']
  String.ofList (sign ++ whole ++ point ++ fraction)

end Decimal

end QueryWire
