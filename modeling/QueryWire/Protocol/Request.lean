import QueryWire.Wire.Writer

/-!
# Requests

What a client asks for.  A request travels as one batch: its message, then the message that ends
the batch.

* `Request.batch` — the bytes of a batch.
-/

namespace QueryWire

/-- A request of a client. -/
inductive Request where
  /-- Compile a statement, and tell the identifiers of its types. -/
  | prepare (headers : Headers) (format : OutputFormat) (cardinality : Cardinality)
      (command : String)
  /-- Describe the types of the statement compiled last. -/
  | describeStatement (headers : Headers)
  /-- Run the statement compiled last. -/
  | execute (headers : Headers) (arguments : Bytes)
  /-- Compile a statement and, if its types are the ones given, run it. -/
  | optimisticExecute (headers : Headers) (format : OutputFormat) (cardinality : Cardinality)
      (command : String) (inputId outputId : Uuid) (arguments : Bytes)
  /-- Run statements that have neither arguments nor results. -/
  | executeScript (headers : Headers) (script : String)
deriving DecidableEq, Repr

namespace Request

/-- The message of a request. -/
def kind : Request → RequestKind
  | .prepare _ _ _ _ => .prepare
  | .describeStatement _ => .describeStatement
  | .execute _ _ => .execute
  | .optimisticExecute _ _ _ _ _ _ _ => .optimisticExecute
  | .executeScript _ _ => .executeScript

/-- The aspect of a statement that is described: both its types. -/
def dataAspect : UInt8 := 0x54

/-- Writes the payload of a request.  Statements have no name, which is written as no bytes. -/
def writePayload (request : Request) (w : Writer) : Writer :=
  match request with
  | .prepare headers format cardinality command =>
    (w.headers headers |>.u8 format.code |>.u8 cardinality.code |>.bytesWithLength []).text command
  | .describeStatement headers => (w.headers headers |>.u8 dataAspect).bytesWithLength []
  | .execute headers arguments =>
    (w.headers headers |>.bytesWithLength []).bytesWithLength arguments
  | .optimisticExecute headers format cardinality command inputId outputId arguments =>
    (w.headers headers |>.u8 format.code |>.u8 cardinality.code |>.text command |>.uuid inputId
      |>.uuid outputId).bytesWithLength arguments
  | .executeScript headers script => (w.headers headers).text script

/-- The bytes of a request and of the message that ends its batch. -/
def batch (request : Request) : Bytes :=
  (request.writePayload (Writer.empty.beginMessage request.kind)).endMessage.sync.bytes

end Request

end QueryWire
