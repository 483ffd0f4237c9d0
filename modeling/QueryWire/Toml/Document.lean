/-!
# TOML documents

A document is a tree of tables.  It grows line by line: a header opens the table that the lines
below it belong to, and a key may lead through further tables.  Most rules of the format say which
of these may be written again, and that depends on how a table came to be.

* `Toml.Node` — a place of the tree: a value, a table or a row of tables.
* `Toml.modify` — the tree with one table changed, missing ones on the way to it made.
* `Toml.openTable`, `Toml.openRow` — the tree after a header.
* `Toml.addValue` — the tree after a line with a key and a value.
-/

namespace QueryWire

namespace Toml

/-- A value, as far as settings can tell values apart. -/
inductive Value where
  | integer (n : Int)
  | boolean (b : Bool)
  /-- A value of a type that no setting has. -/
  | other
deriving DecidableEq, Repr, Inhabited

/-- Whether the format has an integer: it has those of 64 bits. -/
def isInteger (n : Int) : Bool := Int64.minValue.toInt ≤ n && n ≤ Int64.maxValue.toInt

/-- How a table came to be. -/
inductive Origin where
  /-- By a header of its own. -/
  | header
  /-- On the way to the table of a header. -/
  | implied
  /-- On the way to the value of a key. -/
  | dotted
deriving DecidableEq, Repr

/-- A place of the tree. -/
inductive Node where
  | value (v : Value)
  | table (origin : Origin) (members : List (String × Node))
  /-- A row of tables, of which only the last can still change. -/
  | row (last : List (String × Node))

/-- What stands under the keys of a table. -/
abbrev Members := List (String × Node)

namespace Members

/-- The members with one key set. -/
def insert (members : Members) (key : String) (node : Node) : Members :=
  match members with
  | [] => [(key, node)]
  | (k, n) :: rest => if k = key then (key, node) :: rest else (k, n) :: insert rest key node

end Members

/-- A table that is being changed: how it came to be, and its members. -/
abbrev Edit := Origin → Members → Option Members

/-- The members of a table with the table at `path` changed.  Missing tables on the way are made,
and are then `made`; a key does not lead through a table that has a header. -/
def modify (made : Origin) (edit : Edit) : (path : List String) → Edit
  | [], origin, members => edit origin members
  | key :: path, _, members =>
    match members.lookup key with
    | none => (modify made edit path made []).map fun inner => members.insert key (.table made inner)
    | some (.value _) => none
    | some (.row last) =>
      (modify made edit path .header last).map fun last => members.insert key (.row last)
    | some (.table origin inner) =>
      if made = .dotted ∧ origin = .header then none
      else (modify made edit path origin inner).map fun inner =>
        members.insert key (.table origin inner)

/-- Opens the table of a header: a new one, or one that was only implied so far. -/
def openTable (key : String) : Edit := fun _ members =>
  match members.lookup key with
  | none => some (members.insert key (.table .header []))
  | some (.table .implied inner) => some (members.insert key (.table .header inner))
  | some _ => none

/-- Opens one more table of a row. -/
def openRow (key : String) : Edit := fun _ members =>
  match members.lookup key with
  | none | some (.row _) => some (members.insert key (.row []))
  | some _ => none

/-- Sets a key that is not set yet. -/
def addLast (key : String) (value : Value) (isDotted : Bool) : Edit := fun origin members =>
  if isDotted ∧ origin ≠ .dotted then none
  else match members.lookup key with
    | none => some (members.insert key (.value value))
    | some _ => none

/-- The value of a key that leads through the tables of `way`. -/
def addValue (way : List String) (key : String) (value : Value) : Edit :=
  modify .dotted (addLast key value (!way.isEmpty)) way

/-- A document: the members of its outermost table. -/
structure Document where
  members : Members

namespace Document

/-- The document without keys. -/
def empty : Document := ⟨[]⟩

/-- The document after a change at the table of `path`. -/
def edit (document : Document) (path : List String) (edit : Edit) : Option Document :=
  (modify .implied edit path .header document.members).map Document.mk

/-- What stands under a key of the outermost table. -/
def get? (document : Document) (key : String) : Option Node := document.members.lookup key

end Document

end Toml

end QueryWire
