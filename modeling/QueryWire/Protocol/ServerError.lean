import QueryWire.Text.Digits
import QueryWire.Text.Utf8
import QueryWire.Wire.Headers

/-!
# Errors that the server reports

An error of the server has a severity, a code, a text and attributes under 16-bit keys; the
attributes with a known meaning are texts.
-/

namespace QueryWire

/-! ## Severities

The severities from which on a record means more.
-/

namespace Severity

/-- For information. -/
def info : UInt8 := 40

/-- A warning. -/
def warning : UInt8 := 80

/-- The end of the session. -/
def fatal : UInt8 := 200

end Severity

/-- An error that the server reports. -/
structure ServerError where
  severity : UInt8
  code : UInt32
  text : String
  attributes : Headers
deriving DecidableEq, Repr

namespace ServerError

/-- Whether the server ends the session with the error. -/
def isFatal (e : ServerError) : Bool := Severity.fatal ≤ e.severity

/-- An attribute that is text. -/
def attribute? (e : ServerError) (key : UInt16) : Option String :=
  (e.attributes.get? key).bind Utf8.text?

/-- What might be done about the error. -/
def hint? (e : ServerError) : Option String := e.attribute? 0x0001

/-- More about the error. -/
def details? (e : ServerError) : Option String := e.attribute? 0x0002

/-- Where the server stood. -/
def traceback? (e : ServerError) : Option String := e.attribute? 0x0101

/-- An attribute that is a 32-bit number in decimal. -/
def number? (e : ServerError) (key : UInt16) : Option Nat :=
  (e.attribute? key).bind fun text => Digits.unsigned? UInt32.size text.toList

/-- Line and column of the error in the text of the query, from one on. -/
def position? (e : ServerError) : Option (Nat × Nat) := do
  pure (← e.number? 0xFFF3, ← e.number? 0xFFF4)

/-- The error in words. -/
def message (e : ServerError) : String :=
  let hint := match e.hint? with
    | some hint => "; hint: " ++ hint
    | none => ""
  s!"{e.text} (code 0x{Digits.hexText 8 e.code.toNat})" ++ hint

end ServerError

end QueryWire
