import QueryWire.Codec.Decoder

/-!
# Where results go

The results of a query are decoded into one destination, each over the one before, or into a list
that has one destination for each of them.

* `Destination` — either.
* `Destination.accept` — the destination after one more result.
-/

namespace QueryWire

/-- Where the results of a query go. -/
inductive Destination where
  /-- Into a single destination. -/
  | one (slot : Slot)
  /-- Into a list, a result at a time. -/
  | many (rows : Array Slot)
deriving Repr, Inhabited

namespace Destination

/-- The destination before the first result: what an earlier query left in a list is gone. -/
def cleared : Destination → Destination
  | .one slot => .one slot
  | .many _ => .many #[]

/-- The destination after one more result.  A single one shows also a part of a result; a list
takes only whole results, each into a fresh destination of `shape`. -/
def accept (decoder : Decoder) (shape : Shape) (payload : Bytes) :
    Destination → Destination × Option Error
  | .one slot =>
    let d := decoder.decode payload slot
    match d.result with
    | .ok _ => (.one d.contents, none)
    | .error e => (.one d.contents, some e)
  | .many rows =>
    let d := decoder.decode payload shape.fresh
    match d.result with
    | .ok _ => (.many (rows.push d.contents), none)
    | .error e => (.many rows, some e)

end Destination

end QueryWire
