/-!
# JSON documents

A number without fraction or exponent that fits in 64 bits, signed or unsigned, is an integer;
every other number is a double, kept as its bits.  The members of an object have distinct names
in rising order.
-/

namespace QueryWire

/-- A JSON document. -/
inductive Json where
  | null
  | bool (b : Bool)
  | int (n : Int)
  /-- A double by its bits. -/
  | float (bits : UInt64)
  | string (text : String)
  | array (items : List Json)
  | object (members : List (String × Json))
deriving Repr, Inhabited

namespace Json

/-- How deep arrays and objects may lie inside each other. -/
def maxDepth : Nat := 127

/-- Members in rising order of their names, with one name set. -/
def insertMember (name : String) (value : Json) : List (String × Json) → List (String × Json)
  | [] => [(name, value)]
  | (n, v) :: rest =>
    if name < n then (name, value) :: (n, v) :: rest
    else if name = n then (name, value) :: rest
    else (n, v) :: insertMember name value rest

/-- The bit that makes a double negative. -/
def signBit : Nat := 0x8000000000000000

/-- The double of a sign and a magnitude. -/
def signed (negative : Bool) (magnitude : Nat) : Json :=
  .float (UInt64.ofNat (if negative then magnitude + signBit else magnitude))

end Json

end QueryWire
