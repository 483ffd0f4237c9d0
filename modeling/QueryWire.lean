import QueryWire.Text.Utf8
import QueryWire.Text.Blank
import QueryWire.Text.Quoted
import QueryWire.Uuid
import QueryWire.Path
import QueryWire.Scalar.Kind
import QueryWire.Wire.Headers
import QueryWire.Number.Decimal
import QueryWire.Number.Binary64
import QueryWire.Scalar.Temporal
import QueryWire.Json.Parser
import QueryWire.Json.Printer
import QueryWire.Scalar.Basic
import QueryWire.Shape
import QueryWire.Argument
import QueryWire.Descriptor.Basic
import QueryWire.Wire.Frame
import QueryWire.Wire.Writer
import QueryWire.Descriptor.Parser
import QueryWire.Codec.Decoder
import QueryWire.Codec.Build
import QueryWire.Protocol.Request
import QueryWire.Protocol.Response
import QueryWire.Toml.Parser
import QueryWire.Settings.File
import QueryWire.Cache
import QueryWire.Connection.Cycle
import QueryWire.Session.Builder
import QueryWire.Proofs.Connection.Drain
import QueryWire.Proofs.Wire.Reader
import QueryWire.Proofs.Except
import QueryWire.Proofs.Connection.Trace
import QueryWire.Proofs.Session.Flow
import QueryWire.Proofs.Session.Usability
import QueryWire.Proofs.Connection.Answer
import QueryWire.Proofs.Cache
import QueryWire.Proofs.Session.Server
import QueryWire.Proofs.Session.Outcome
import QueryWire.Proofs.Session.Transparency
import QueryWire.Proofs.Codec.Payload
import QueryWire.Proofs.Codec.Misfit
import QueryWire.Proofs.Session.Staleness
import QueryWire.Proofs.Codec.Numeric
import QueryWire.Proofs.Text.Utf8
import QueryWire.Proofs.Codec.Holding
import QueryWire.Proofs.Codec.Scalar
import QueryWire.Proofs.Codec.Record
import QueryWire.Proofs.Codec.RoundTrip
import QueryWire.Proofs.Codec.Suits
import QueryWire.Proofs.Codec.Fault
import QueryWire.Proofs.Codec.Soundness
import QueryWire.Proofs.Session.History
import QueryWire.Proofs.Session.Course
import QueryWire.Proofs.Session.Coherence
import QueryWire.Proofs.Connection.Simulation
import QueryWire.Proofs.Session.Simulation
import QueryWire.Proofs.Connection.Chunks
import QueryWire.Proofs.Session.Chunks
import QueryWire.Proofs.Session.Results
import QueryWire.Proofs.Session.Inert
import QueryWire.Proofs.Connection.Asides
import QueryWire.Proofs.Session.Asides
import QueryWire.Proofs.Session.Warmth
import QueryWire.Proofs.Recency
import QueryWire.Proofs.Connection.Frames
import QueryWire.Proofs.Codec.Binding
import QueryWire.Proofs.Codec.Fits
import QueryWire.Proofs.Codec.Namesakes
import QueryWire.Proofs.Wire.Delimited
import QueryWire.Proofs.Descriptor.Grammar
import QueryWire.Proofs.Codec.Canonical
import QueryWire.Proofs.Codec.Failure
import QueryWire.Proofs.Codec.Locality
import QueryWire.Proofs.Wire.Headers
import QueryWire.Proofs.Wire.Request
import QueryWire.Proofs.Codec.Elements
import QueryWire.Proofs.Codec.Independence
import QueryWire.Proofs.Codec.Residue
import QueryWire.Proofs.Codec.Temporal
import QueryWire.Proofs.Text.Decimal
import QueryWire.Proofs.Number.Decimal
import QueryWire.Proofs.Protocol.Response
import QueryWire.Proofs.Codec.Reordering
import QueryWire.Proofs.Codec.Encodable
import QueryWire.Proofs.Session.Keys
import QueryWire.Proofs.Wire.Blocks
import QueryWire.Proofs.Toml.Pairs
import QueryWire.Proofs.Settings.File
