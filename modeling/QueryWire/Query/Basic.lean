import QueryWire.Argument
import QueryWire.Protocol.Code
import QueryWire.Shape
import QueryWire.Wire.Headers

/-!
# Queries

A query is a statement and the arguments for one run of it.  The server compiles a statement from
its text, the cardinality, the output format and the headers; two queries that agree in these are
runs of the same statement.

* `QueryKey` — what the server compiles a statement from.
* `Query` — a statement with arguments.
* `CodecKey` — a statement with a destination type.
-/

namespace QueryWire

/-- What the server compiles a statement from. -/
structure QueryKey where
  command : String
  cardinality : Cardinality := .many
  format : OutputFormat := .binary
  headers : Headers := .empty
deriving DecidableEq, Repr, Inhabited

/-- A statement with arguments. -/
structure Query extends QueryKey where
  arguments : Argument := .nothing
deriving Repr, Inhabited

/-- Whether a query without any result is an error. -/
def Query.expectsOne (query : Query) : Bool :=
  match query.cardinality with
  | .one | .atMostOne => true
  | .noResult | .many | .atLeastOne => false

/-- A statement with the type that its results are decoded into. -/
structure CodecKey where
  query : QueryKey
  type : RowType
deriving DecidableEq, Repr

end QueryWire
