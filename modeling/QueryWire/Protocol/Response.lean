import QueryWire.Descriptor.Parser
import QueryWire.Wire.Frame

/-!
# Responses

What a server says.  Each message has its fields in a fixed order; what stands behind them is
ignored.

* `Response.read` — the fields of a message of a known kind.
* `Response.ofFrame` — the response of a frame.
-/

namespace QueryWire

/-- A message of the server. -/
inductive Response where
  /-- A statement was compiled; its types have these identifiers. -/
  | prepareComplete (cardinality : Cardinality) (inputId outputId : Uuid)
  /-- The types of a statement. -/
  | description (cardinality : Cardinality) (types : StatementTypes)
  /-- One result. -/
  | data (payload : Bytes)
  /-- The end of the results of one statement. -/
  | commandComplete (status : String)
  /-- The end of a cycle. -/
  | ready (state : TransactionState)
  | error (cause : ServerError)
  /-- A record of the server's log. -/
  | log (severity : UInt8) (code : UInt32) (text : String)
  /-- The value of a parameter of the server. -/
  | parameter (name value : Bytes)
deriving DecidableEq, Repr

namespace Response

/-- The kind of a response. -/
def kind : Response → ResponseKind
  | .prepareComplete _ _ _ => .prepareComplete
  | .description _ _ => .commandDataDescription
  | .data _ => .data
  | .commandComplete _ => .commandComplete
  | .ready _ => .readyForCommand
  | .error _ => .errorResponse
  | .log _ _ _ => .logMessage
  | .parameter _ _ => .parameterStatus

/-- The number of elements of a result, which is always one. -/
def readElementCount : Reader Unit := do
  let count ← Reader.nat 2
  if count != 1 then throw (.protocolViolation (.dataElements count))

/-- A transaction state. -/
def readState : Reader TransactionState := do
  let code ← Reader.u8
  match TransactionState.ofCode? code with
  | some state => pure state
  | none => throw (.protocolViolation (.unknownTransactionState code))

/-- The fields of a message of a known kind. -/
def read : ResponseKind → Reader Response
  | .prepareComplete => do
    Reader.skipHeaders
    let cardinality ← Descriptor.cardinality
    let inputId ← Reader.uuid
    let outputId ← Reader.uuid
    pure (.prepareComplete cardinality inputId outputId)
  | .commandDataDescription => do
    Reader.skipHeaders
    let cardinality ← Descriptor.cardinality
    let inputId ← Reader.uuid
    let input ← Reader.bytes
    let outputId ← Reader.uuid
    let output ← Reader.bytes
    pure (.description cardinality ⟨inputId, input, outputId, output⟩)
  | .data => do
    readElementCount
    return .data (← Reader.bytes)
  | .commandComplete => do
    Reader.skipHeaders
    return .commandComplete (← Reader.text)
  | .readyForCommand => do
    Reader.skipHeaders
    return .ready (← readState)
  | .errorResponse => do
    let severity ← Reader.u8
    let code ← Reader.u32
    let text ← Reader.text
    let attributes ← Reader.headers
    pure (.error ⟨severity, code, text, attributes⟩)
  | .logMessage => do
    let severity ← Reader.u8
    let code ← Reader.u32
    let text ← Reader.text
    Reader.skipHeaders
    pure (.log severity code text)
  | .parameterStatus => do
    let name ← Reader.bytes
    let value ← Reader.bytes
    pure (.parameter name value)

/-- The kind of message that a byte announces. -/
def kindOfCode (code : UInt8) : Except Error ResponseKind :=
  match ResponseKind.ofCode? code with
  | some kind => .ok kind
  | none => .error (.protocolViolation (.unknownMessage code))

/-- The response of a frame. -/
def ofFrame (frame : Frame) : Except Error Response := do
  let kind ← kindOfCode frame.kind
  ((read kind).run' frame.payload).1

end Response

end QueryWire
