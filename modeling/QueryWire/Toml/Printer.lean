import QueryWire.Text.Digits
import QueryWire.Toml.Document

/-!
# Writing TOML

Documents of one table, with keys that need no quotes and values that settings can have.

* `Toml.Value.text?` — a value in writing.
* `Toml.render?` — keys and values, one pair a line.
-/

namespace QueryWire

namespace Toml

/-- A value in writing; none for an integer of more than 64 bits, which the format does not have,
and for a value whose type no setting has. -/
def Value.text? : Value → Option String
  | .integer n => if isInteger n then some (Digits.integerText n) else none
  | .boolean true => some "true"
  | .boolean false => some "false"
  | .other => none

/-- Keys and values, one pair a line. -/
def render? : List (String × Value) → Option String
  | [] => some ""
  | (key, value) :: rest => do
    let text ← value.text?
    let rest ← render? rest
    pure (key ++ " = " ++ text ++ "\n" ++ rest)

end Toml

end QueryWire
