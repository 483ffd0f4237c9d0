import QueryWire.Proofs.Connection.Chunks
import QueryWire.Proofs.Session.Simulation

/-!
# Calls do not see the pieces

Where the stream of a server is cut into reads cannot be seen by making calls, not even by what a
call leaves behind when the stream is malformed or ends half way.

* `Observation` — what can be seen of a call and after it.
* `Session.observations` — what can be seen of a sequence of calls.
* **`Session.observations_of_alike`** — it is the same for any two ways to cut the same stream.
-/

namespace QueryWire

variable {σ τ : Type}

/-- What can be seen of a call, and of the connection and the cache after it. -/
structure Observation where
  outcome : Except Halt Unit
  /-- What is in the destination of a query. -/
  destination : Option Destination
  /-- All requests that were written so far. -/
  sent : List Request
  cache : Cache
  parameters : Table String Bytes
  transaction : TransactionState
  isUsable : Bool

namespace Session

/-- What can be seen of a call. -/
def observe (session : Session σ) (call : Call) : Observation :=
  let (after, outcome) := session.perform call
  { outcome
    destination := session.filled call
    sent := after.connection.sent
    cache := after.cache
    parameters := after.connection.parameters
    transaction := after.connection.transaction
    isUsable := after.connection.isUsable }

/-- What can be seen of calls that are made one after the other. -/
def observations : Session σ → List Call → List Observation
  | _, [] => []
  | session, call :: calls => session.observe call :: (session.perform call).1.observations calls

variable {R : σ → τ → Prop} {session : Session σ} {session' : Session τ}

/-- One call is seen to be the same. -/
lemma observe_of_alike (h : Session.Matches (Connection.Alike R) session session') (call : Call) :
    session'.observe call = session.observe call := by
  obtain ⟨houtcome, hfilled, hafter⟩ := (Connection.simulation_alike R).perform h call
  simp only [observe, houtcome, hfilled, hafter.cache, hafter.connection.sent,
    hafter.connection.parameters, hafter.connection.transaction, hafter.connection.isUsable]

/-- **Chunking does not matter.**  Two connections are given the same stream, in the inbox and by
the replies of the server, each cut into reads in its own way.  Then any sequence of calls on them
is seen to be the same: every call has the same outcome, writes the same requests and leaves the
same destination, cache, parameters and state of transactions, and the connections are usable for
the same calls. -/
theorem observations_of_alike (h : Session.Matches (Connection.Alike R) session session')
    (calls : List Call) : session'.observations calls = session.observations calls := by
  induction calls generalizing session session' with
  | nil => rfl
  | cons call calls ih =>
    obtain ⟨-, -, hafter⟩ := (Connection.simulation_alike R).perform h call
    rw [observations, observations, observe_of_alike h, ih hafter]

end Session

namespace Cut

/-- What a server says to a script: that a statement is done, and that it is ready. -/
def answer : Bytes :=
  [0x43, 0, 0, 0, 12, 0, 0, 0, 0, 0, 2, 0x4F, 0x4B] ++ [0x5A, 0, 0, 0, 7, 0, 0, 0x49]

/-- A session whose server says this in pieces, and then ends the stream. -/
def session (pieces : List Bytes) : Session (List Reply) where
  connection :=
    { settings := .initial
      peer := .script
      server := [.accept (pieces.map .bytes ++ [.bytes []])] }
  cache := .new 1

/-- One byte at a time, or all at once, makes no difference to two scripts. -/
theorem observations_bytewise :
    Session.Matches (Connection.Alike (List.Forall₂ Reply.Alike)) (session [answer])
        (session (answer.map ([·])))
      ∧ (session (answer.map ([·]))).observations [.execute "create type A", .execute "drop type A"]
        = (session [answer]).observations [.execute "create type A", .execute "drop type A"] := by
  have hstream : Arrival.stream ((answer.map ([·])).map Arrival.bytes ++ [.bytes []])
      = Arrival.stream ([answer].map Arrival.bytes ++ [.bytes []]) := by
    rw [Arrival.stream_append, Arrival.stream_append, Arrival.stream_pieces (by simp),
      Arrival.stream_pieces (by decide)]
    rfl
  have halike : Session.Matches (Connection.Alike (List.Forall₂ Reply.Alike)) (session [answer])
      (session (answer.map ([·]))) :=
    ⟨⟨rfl, Peer.alike_script, .cons (.accept hstream) .nil, rfl, rfl, rfl, rfl, rfl, rfl, rfl⟩, rfl⟩
  exact ⟨halike, Session.observations_of_alike halike _⟩

end Cut

end QueryWire
