import QueryWire.Cache
import QueryWire.Connection.Cycle
import QueryWire.Session.Destination

/-!
# Running a query

What a query costs depends on what the cache knows.  With a codec it is one cycle: the server runs
the statement if its types are still those of the codec, and describes them if they are not.  With
the types alone, the codec is built first.  With neither, the statement is prepared, described
unless its types are known by their identifiers, and then executed.

* `Flow` — an action on a connection, the cache and the destination of one query.
* `Flow.prepare`, `Flow.describe`, `Flow.readRows` — one cycle each.
* `Flow.optimistic`, `Flow.pessimistic` — with a codec and without.
* **`Flow.run`** — a whole query.
-/

namespace QueryWire

/-- What an action works on. -/
structure Workspace (σ : Type) where
  connection : Connection σ
  cache : Cache
  destination : Destination

/-- An action of a query.  Also an action that ends early leaves its traces. -/
abbrev Flow (σ α : Type) := EStateM Halt (Workspace σ) α

/-- What the cycles of an execution gather. -/
structure Rows where
  /-- How many results there were. -/
  received : Nat
  /-- The types that the server described in place of running the statement. -/
  described : Option DescriptorPair
  destination : Destination

namespace Flow

variable {σ α : Type}

/-- Ends an action with an error. -/
def fail (e : Error) : Flow σ α := throw (.failed e)

/-- The value of something that may fail. -/
def ofExcept : Except Error α → Flow σ α
  | .ok a => pure a
  | .error e => fail e

/-- Changes the cache. -/
def changeCache (change : Cache → Cache) : Flow σ Unit :=
  modify fun w => { w with cache := change w.cache }

/-- Sends a request. -/
def send (request : Request) : Flow σ Unit := do
  let w ← get
  let (outcome, connection) := w.connection.send request
  set { w with connection }
  match outcome with
  | .ok () => pure ()
  | .error halt => throw halt

/-- Reads a cycle to its end, without a word to the destination. -/
def drain (handle : Handler α) (value : α) : Flow σ α := do
  let w ← get
  let done := w.connection.drain handle value none
  set { w with connection := done.connection }
  match done.outcome with
  | .ok () => pure done.value
  | .error halt => throw halt

/-- The error of a response that has no business in its cycle. -/
def unexpected (response : Response) : Error := .protocolViolation (.unexpected response.kind)

/-- The types of a statement, when the server describes them, in place of those known before. -/
def noteTypes (types : StatementTypes) (known : Option DescriptorPair) :
    Option DescriptorPair × Option Error :=
  match DescriptorPair.parse types with
  | .ok pair => (some pair, none)
  | .error e => (known, some e)

/-! ## Cycles -/

/-- The responses that preparing a statement may have. -/
def prepareReply : Handler (Option (Uuid × Uuid))
  | _, .prepareComplete _ inputId outputId => (some (inputId, outputId), none)
  | ids, response => (ids, some (unexpected response))

/-- Has a statement compiled; the answer is the identifiers of its types. -/
def prepare (query : Query) : Flow σ (Uuid × Uuid) := do
  send (.prepare query.headers query.format query.cardinality query.command)
  match ← drain prepareReply none with
  | some ids => pure ids
  | none => fail (.protocolViolation .prepareWithoutReply)

/-- The responses that describing a statement may have. -/
def describeReply : Handler (Option DescriptorPair)
  | known, .description _ types => noteTypes types known
  | known, response => (known, some (unexpected response))

/-- Has the types of the statement described that was compiled last. -/
def describe (query : Query) : Flow σ DescriptorPair := do
  send (.describeStatement query.headers)
  match ← drain describeReply none with
  | some pair => pure pair
  | none => fail (.protocolViolation .describeWithoutReply)

/-- The responses that running a statement may have. -/
def rowsReply (decoder : Decoder) (shape : Shape) : Handler Rows
  | rows, .data payload =>
    let (destination, e) := rows.destination.accept decoder shape payload
    ({ rows with received := rows.received + 1, destination }, e)
  | rows, .commandComplete _ => (rows, none)
  | rows, .description _ types =>
    let (described, e) := noteTypes types rows.described
    ({ rows with described }, e)
  | rows, response => (rows, some (unexpected response))

/-- Reads the results of an execution into the destination.  The answer is the types that the
server described in place of running the statement, if it did. -/
def readRows (query : Query) (decoder : Decoder) (shape : Shape) :
    Flow σ (Option DescriptorPair) := do
  let w ← get
  let start : Rows := ⟨0, none, w.destination.cleared⟩
  let done := w.connection.drain (rowsReply decoder shape) start none
  let rows := done.value
  set { w with connection := done.connection, destination := rows.destination }
  match done.outcome with
  | .error halt => throw halt
  | .ok () =>
    if rows.described.isNone && rows.received = 0 && query.expectsOne then fail .zeroResults
    else pure rows.described

/-- Runs the statement that was compiled last. -/
def executePrepared (query : Query) (codec : Codec) (shape : Shape) : Flow σ Unit := do
  let arguments ← ofExcept (codec.encoder.encodeArguments query.arguments)
  send (.execute query.headers arguments)
  match ← readRows query codec.decoder shape with
  | none => pure ()
  | some _ => fail (.protocolViolation .describedAgain)

/-! ## Ways to run a query -/

/-- Builds a codec from the types of a statement, and keeps it. -/
def buildCodec (key : CodecKey) (pair : DescriptorPair) : Flow σ Codec := do
  let codec ← ofExcept (Codec.build pair key.type.shape)
  changeCache fun cache => cache.putCodec key codec
  pure codec

/-- Keeps the types of a statement, and runs it as the one that was compiled last. -/
def executeWith (query : Query) (key : CodecKey) (pair : DescriptorPair) : Flow σ Unit := do
  changeCache fun cache => cache.putPair key.query pair
  let codec ← buildCodec key pair
  executePrepared query codec key.type.shape

/-- The types with given identifiers: from the cache, or else from the server. -/
def typesOf (query : Query) (ids : Uuid × Uuid) : Flow σ DescriptorPair := do
  match (← get).cache.pairById? ids with
  | some pair => pure pair
  | none => describe query

/-- Runs a query of which nothing is known. -/
def pessimistic (query : Query) (key : CodecKey) : Flow σ Unit := do
  let ids ← prepare query
  let pair ← typesOf query ids
  executeWith query key pair

/-- The request to run a statement if its types are those of a codec. -/
def optimisticRequest (query : Query) (codec : Codec) (arguments : Bytes) : Request :=
  .optimisticExecute query.headers query.format query.cardinality query.command codec.inputId
    codec.outputId arguments

/-- Runs a query with a codec.  Arguments that the codec refuses may fit the types that the
statement has by now, so then the query is run as if nothing was known. -/
def optimistic (query : Query) (key : CodecKey) (codec : Codec) : Flow σ Unit := do
  match codec.encoder.encodeArguments query.arguments with
  | .error _ =>
    changeCache fun cache => cache.invalidate key.query
    pessimistic query key
  | .ok arguments =>
    send (optimisticRequest query codec arguments)
    match ← readRows query codec.decoder key.type.shape with
    | none => pure ()
    | some pair =>
      changeCache fun cache => cache.invalidate key.query
      executeWith query key pair

/-- The codec that the cache has under a key. -/
def findCodec (key : CodecKey) : Flow σ (Option Codec) := do
  let w ← get
  let (codec, cache) := w.cache.findCodec key
  set { w with cache }
  pure codec

/-- Runs a query for a destination type. -/
def run (query : Query) (type : RowType) : Flow σ Unit := do
  let key : CodecKey := ⟨query.toQueryKey, type⟩
  match ← findCodec key with
  | some codec => optimistic query key codec
  | none =>
    match (← get).cache.pairOf? key.query with
    | some pair => do
      let codec ← buildCodec key pair
      optimistic query key codec
    | none => pessimistic query key

end Flow

end QueryWire
