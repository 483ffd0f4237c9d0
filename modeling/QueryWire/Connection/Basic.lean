import QueryWire.Connection.Inbox
import QueryWire.Protocol.Request
import QueryWire.Protocol.Response
import QueryWire.Settings.Basic
import QueryWire.Table

/-!
# Connections

A connection to a server that answers one request after the other.  It becomes unusable for good
when it can no longer be known which answer belongs to which request.

* `Peer` — how a server answers.
* `Connection` — with what was sent, what has arrived, and what is known about the server.
* `Connection.begin`, `Connection.finish` — around every call: refused when unusable, unusable
  after a fatal error.
-/

namespace QueryWire

/-- What a server does with a request. -/
inductive Reply where
  /-- It takes the request, and reads will yield these. -/
  | accept (arrivals : List Arrival)
  /-- Sending the request fails. -/
  | fault (text : String)
  /-- It takes no bytes, so that sending does not end. -/
  | stall
deriving DecidableEq, Repr

/-- A server: its answer to a request in each of its states. -/
structure Peer (σ : Type) where
  answer : σ → Request → Reply × σ

/-- The server that gives the replies of a list, then takes requests without a word. -/
def Peer.script : Peer (List Reply) where
  answer
    | [], _ => (.accept [], [])
    | reply :: rest, _ => (reply, rest)

/-- A record of the log. -/
inductive LogRecord where
  /-- A record of the server's own log. -/
  | server (severity : UInt8) (code : UInt32) (text : String)
  /-- The connection became unusable. -/
  | unusable (reason : String)
deriving DecidableEq, Repr

/-- How much a record of the log matters. -/
inductive LogLevel where
  | debug
  | info
  | warning
deriving DecidableEq, Repr

namespace LogRecord

/-- How much a record matters. -/
def level : LogRecord → LogLevel
  | .server severity _ _ =>
    if Severity.warning ≤ severity then .warning
    else if Severity.info ≤ severity then .info
    else .debug
  | .unusable _ => .warning

/-- A record in words. -/
def message : LogRecord → String
  | .server _ _ text => "Server: " ++ text
  | .unusable reason => "Connection marked unusable: " ++ reason

/-- The code that the server gave a record. -/
def code? : LogRecord → Option UInt32
  | .server _ code _ => some code
  | .unusable _ => none

end LogRecord

/-- A connection to a server with states `σ`. -/
structure Connection (σ : Type) where
  settings : Settings
  peer : Peer σ
  server : σ
  inbox : Inbox := .empty
  /-- The requests that were sent, in order. -/
  sent : List Request := []
  /-- The state of transactions at the end of the last cycle. -/
  transaction : TransactionState := .notInTransaction
  /-- Why the connection became unusable, if it did. -/
  broken : Option String := none
  /-- Whether the end of a cycle is still to come. -/
  inFlight : Bool := false
  /-- What the server announced last for each of its parameters. -/
  parameters : Table String Bytes := .empty
  log : Array LogRecord := #[]

namespace Connection

variable {σ : Type}

/-- A connection on which nothing happened yet, if the settings can be used. -/
def connect (settings : Settings) (peer : Peer σ) (server : σ) : Except Error (Connection σ) :=
  settings.checked.map fun settings => { settings, peer, server }

/-- Whether the next call will be accepted. -/
def isUsable (c : Connection σ) : Bool := c.broken.isNone && !c.inFlight

/-- The connection after a record of the log. -/
def record (c : Connection σ) (entry : LogRecord) : Connection σ := { c with log := c.log.push entry }

/-- The connection made unusable for a reason. -/
def markBroken (c : Connection σ) (reason : String) : Connection σ :=
  { c with broken := some reason }.record (.unusable reason)

/-- The reason after a call was dropped before its end. -/
def cancelledReason : String := "previous request was cancelled"

/-- The connection at the beginning of a call, which finds out whether the call before was dropped
before its end. -/
def noticeCancelled (c : Connection σ) : Connection σ :=
  if c.inFlight && c.broken.isNone then c.markBroken cancelledReason else c

/-- The beginning of a call: refused when the connection is unusable. -/
def begin (c : Connection σ) : Except Error Unit × Connection σ :=
  let c := c.noticeCancelled
  match c.broken with
  | some reason => (.error (.connectionUnusable reason), c)
  | none => (.ok (), c)

/-- The end of a call, which leaves the connection unusable after a fatal error. -/
def finish (c : Connection σ) : (outcome : Except Halt Unit) → Connection σ
  | .error (.failed e) => if e.isFatal && c.broken.isNone then c.markBroken e.message else c
  | .error .suspended | .ok () => c

end Connection

end QueryWire
