import QueryWire.Session.Flow

/-!
# Sessions

The calls of a program on one connection and the cache it shares with others.  A call that is
dropped while it waits ends `suspended`; the next one finds the connection unusable.

* `Session.run` — a query into a destination.
* `Session.query`, `Session.querySingle` — all results, or at most one.
* `Session.queryJson`, `Session.querySingleJson` — the same as a JSON text.
* `Session.execute` — a script.
-/

namespace QueryWire

/-- A connection and the cache that it shares. -/
structure Session (σ : Type) where
  connection : Connection σ
  cache : Cache

/-- What a call left behind, and how it ended. -/
structure Called (σ α : Type) where
  session : Session σ
  result : α
  outcome : Except Halt Unit

namespace Session

variable {σ : Type}

/-- Runs a query into a destination. -/
def run (session : Session σ) (query : Query) (type : RowType) (destination : Destination) :
    Called σ Destination :=
  match session.connection.begin with
  | (.error e, connection) => ⟨{ session with connection }, destination, .error (.failed e)⟩
  | (.ok (), connection) =>
    match Flow.run query type ⟨connection, session.cache, destination⟩ with
    | .ok () w => ⟨⟨w.connection, w.cache⟩, w.destination, .ok ()⟩
    | .error halt w =>
      ⟨⟨w.connection.finish (.error halt), w.cache⟩, w.destination, .error halt⟩

/-- A query with the headers that the settings ask for. -/
def newQuery (session : Session σ) (command : String) (cardinality : Cardinality)
    (format : OutputFormat) (arguments : Argument) : Query :=
  { command, cardinality, format, headers := session.connection.settings.headers, arguments }

/-- Runs a query and puts all results into a list, in place of what was in it. -/
def query (session : Session σ) (command : String) (arguments : Argument) (type : RowType)
    (rows : Array Slot) : Called σ Destination :=
  session.run (session.newQuery command .many .binary arguments) type (.many rows)

/-- Runs a query with at most one result, into a destination. -/
def querySingle (session : Session σ) (command : String) (arguments : Argument) (type : RowType)
    (slot : Slot) : Called σ Destination :=
  session.run (session.newQuery command .atMostOne .binary arguments) type (.one slot)

/-- Runs a query whose result is one text. -/
def runText (session : Session σ) (query : Query) : Called σ (Option String) :=
  let called := session.run query .text (.one RowType.text.shape.fresh)
  match called.outcome, called.result with
  | .ok (), .one (.scalar (.str text)) => { called with result := some text }
  | _, _ => { called with result := none }

/-- Runs a query; all results are one JSON array. -/
def queryJson (session : Session σ) (command : String) (arguments : Argument) :
    Called σ (Option String) :=
  session.runText (session.newQuery command .many .json arguments)

/-- Runs a query with at most one result, which is a JSON text. -/
def querySingleJson (session : Session σ) (command : String) (arguments : Argument) :
    Called σ (Option String) :=
  session.runText (session.newQuery command .atMostOne .json arguments)

/-- Runs statements that have neither arguments nor results. -/
def execute (session : Session σ) (script : String) : Called σ Unit :=
  let (outcome, connection) := session.connection.execute script
  ⟨{ session with connection }, (), outcome⟩

end Session

end QueryWire
