import QueryWire.Scalar.Basic

/-!
# Arguments

The values that a query is called with.  A statement takes a tuple or a named tuple of them; one
without arguments takes `Argument.nothing` or an empty tuple.
-/

namespace QueryWire

/-- A query argument. -/
inductive Argument where
  /-- A missing value; for a whole statement, no arguments. -/
  | nothing
  | scalar (value : Scalar)
  | enum (label : String)
  | tuple (items : List Argument)
  | named (fields : List (String × Argument))
  | array (items : List Argument)
  | set (items : List Argument)
deriving Repr, Inhabited

namespace Argument

/-- The name of the kind of an argument. -/
def kindName : Argument → String
  | .nothing => "nothing"
  | .scalar value => value.kind.argumentName
  | .enum _ => "enum"
  | .tuple _ => "tuple"
  | .named _ => "named tuple"
  | .array _ => "array"
  | .set _ => "set"

/-- Whether an argument is a missing value. -/
def isNothing : Argument → Bool
  | .nothing => true
  | _ => false

end Argument

end QueryWire
