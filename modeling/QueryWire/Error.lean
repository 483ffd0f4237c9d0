import QueryWire.Descriptor.Basic
import QueryWire.Files
import QueryWire.Path
import QueryWire.Protocol.ServerError
import QueryWire.Shape

/-!
# Errors

Everything that can go wrong, by cause.  The wording is given once, by the `message` functions;
the rest of the library only names causes.

* `Error` — all causes.
* `Error.message` — an error in words.
* `Error.isFatal` — whether the connection that produced an error must be given up.
* `Mismatch.isAboutDestination` — whether a mismatch is about the destination and not the data.
-/

namespace QueryWire

/-- The transport failed. -/
inductive TransportError where
  /-- Nothing was received for that many milliseconds. -/
  | timedOut (milliseconds : UInt64)
  /-- The server ended the stream. -/
  | closed
  /-- The stream reported a failure of its own. -/
  | failed (text : String)
deriving DecidableEq, Repr

/-- A transport failure in words. -/
def TransportError.message : TransportError → String
  | .timedOut ms => s!"no response from server within {ms.toNat} ms"
  | .closed => "server closed the connection"
  | .failed text => text

/-- Bytes do not divide into the parts they should. -/
inductive FramingError where
  | short (needed available : Nat)
  | badText (fault : Utf8.Fault)
  /-- A length below that of the length itself. -/
  | badLength (declared : Nat) (kind : UInt8)
  | tooLong (declared limit : Nat)
  | incomplete (available : Nat)
deriving DecidableEq, Repr

/-- A framing error in words. -/
def FramingError.message : FramingError → String
  | .short needed available => s!"need {needed} bytes, only {available} remaining"
  | .badText fault => s!"invalid utf-8 string: {fault.message}"
  | .badLength declared kind =>
    s!"invalid message length {declared} for message type 0x{Digits.hexText 2 kind.toNat}"
  | .tooLong declared limit => s!"message of {declared} bytes exceeds the {limit} byte limit"
  | .incomplete available => s!"incomplete message: {available} bytes available"

/-- Which of the two types of a statement is meant. -/
inductive Side where
  | argument
  | result
deriving DecidableEq, Repr

/-- A side in words. -/
def Side.name : Side → String
  | .argument => "argument"
  | .result => "result"

/-- A type description is malformed, or describes a type that is not supported. -/
inductive DescriptorError where
  | truncated (cause : FramingError)
  | dangling (position known : Nat)
  | unknownTag (tag : UInt8)
  | unknownCardinality (code : UInt8)
  | rootMismatch (side : Side) (root declared : Uuid)
  | unsupportedScalar (id : Uuid) (path : Path)
  | remarkAsType (id : Uuid) (path : Path)
  | setValued (name : String) (path : Path)
deriving DecidableEq, Repr

/-- A descriptor error in words. -/
def DescriptorError.message : DescriptorError → String
  | .truncated cause => "truncated descriptor record: " ++ cause.message
  | .dangling position known =>
    s!"reference to descriptor {position} before it was defined ({known} known)"
  | .unknownTag tag => s!"unknown descriptor type {tag.toNat}"
  | .unknownCardinality code => s!"unknown cardinality 0x{Digits.hexText 2 code.toNat}"
  | .rootMismatch side root declared =>
    s!"{side.name} descriptor root is {root.text} but the server declared {declared.text}"
  | .unsupportedScalar id path => s!"unsupported scalar type {id.text} at {path.text}"
  | .remarkAsType id path => s!"annotation {id.text} used as a type at {path.text}"
  | .setValued name path => s!"set-valued argument {name} at {path.text}"

/-- What is wrong with the payload of a scalar. -/
inductive BadScalar where
  | signWord (word : UInt16)
  | digitGroup (value : Nat)
  | scale (digits : UInt16)
  | fractionalGroups
  | beyondScale
  | notUtf8
  | jsonFormat (format : UInt8)
  | notJson
  | boolByte (byte : UInt8)
  | timestampRange
  | dateRange
  | timeOfDay (micros : Int)
  | calendarParts
deriving DecidableEq, Repr

/-- What is wrong with a scalar, in words. -/
def BadScalar.message : BadScalar → String
  | .signWord word => s!"sign word 0x{Digits.hexText 4 word.toNat}"
  | .digitGroup value => s!"digit group {value}"
  | .scale digits => s!"scale {digits.toNat}"
  | .fractionalGroups => "fractional digit groups"
  | .beyondScale => "digits beyond the scale"
  | .notUtf8 => "invalid utf-8"
  | .jsonFormat format => s!"json format {format.toNat}"
  | .notJson => "<json error>"
  | .boolByte byte => s!"byte {byte.toNat}"
  | .timestampRange => "timestamp out of range"
  | .dateRange => "date out of range"
  | .timeOfDay micros => Digits.integerText micros ++ " microseconds past midnight"
  | .calendarParts => "days or months component"

/-- Two things that ought to fit each other do not. -/
inductive Mismatch where
  /-- A type of the server and a destination type, both by name. -/
  | incompatible (wire destination : String)
  | noSuchField (typeName field : String)
  /-- A field that may be missing and a destination type that cannot record it. -/
  | mayBeMissing (destination : String)
  | badScalar (kind : ScalarKind) (what : BadScalar)
  | labelNotUtf8
  | notAMember (members : List String) (label : String)
  | dimensions (count : Nat)
  | missingElement
  | missingField
  | missingValue (destination : SlotKind)
  /-- A destination of another kind than the decoder was built for. -/
  | wrongSlot (expected : String) (actual : SlotKind)
  | noSlot
  /-- An argument of another kind than the encoder was built for. -/
  | wrongArgument (expected actual : String)
  | wrongArity (expected actual : Nat)
  | unknownArgument
  | noArgument
  | nothingElement
  | numberTooLarge
  | notDecimal (text : String)
deriving DecidableEq, Repr

namespace Mismatch

/-- What was expected. -/
def expected : Mismatch → String
  | .incompatible wire _ => wire
  | .noSuchField typeName field => s!"{typeName} to have a field named {Text.quote field}"
  | .mayBeMissing destination => s!"Option<{destination}> because the field may be missing"
  | .badScalar kind _ => "valid " ++ kind.name
  | .labelNotUtf8 => "utf-8 enum label"
  | .notAMember members _ => "one of " ++ Text.quoteList members
  | .dimensions _ => "a one-dimensional array"
  | .missingElement => "a value"
  | .missingField => "a value"
  | .missingValue _ => "a present value"
  | .wrongSlot expected _ => expected
  | .noSlot => "a destination slot"
  | .wrongArgument expected _ => expected
  | .wrongArity expected _ => s!"{expected} elements"
  | .unknownArgument => "a declared argument"
  | .noArgument => "a value"
  | .nothingElement => "a value"
  | .numberTooLarge => "a numeric value within wire limits"
  | .notDecimal _ => "decimal literal"

/-- What was found. -/
def actual : Mismatch → String
  | .incompatible _ destination => destination
  | .noSuchField _ _ => "no such field"
  | .mayBeMissing destination => destination
  | .badScalar _ what => what.message
  | .labelNotUtf8 => "invalid utf-8"
  | .notAMember _ label => Text.quote label
  | .dimensions count => s!"{count} dimensions"
  | .missingElement => "missing array element"
  | .missingField => "missing value for a non-optional field"
  | .missingValue destination => "missing value for " ++ destination.name
  | .wrongSlot _ actual => actual.name
  | .noSlot => "none"
  | .wrongArgument _ actual => actual
  | .wrongArity _ actual => s!"{actual} elements"
  | .unknownArgument => "an unknown argument"
  | .noArgument => "no argument given"
  | .nothingElement => "nothing"
  | .numberTooLarge => "too many digits"
  | .notDecimal text => text

/-- Whether a mismatch is about the destination a decoder was given, and not about the data. -/
def isAboutDestination : Mismatch → Bool
  | .wrongSlot _ _ | .noSlot => true
  | _ => false

end Mismatch

/-- The server broke the rules of the exchange. -/
inductive ProtocolError where
  | unknownMessage (code : UInt8)
  | unknownTransactionState (code : UInt8)
  | dataElements (count : Nat)
  /-- A message where it has no business. -/
  | unexpected (kind : ResponseKind)
  | prepareWithoutReply
  | describeWithoutReply
  /-- A description in reply to an execution that had one already. -/
  | describedAgain
deriving DecidableEq, Repr

/-- A protocol violation in words. -/
def ProtocolError.message : ProtocolError → String
  | .unknownMessage code => s!"unexpected message type: 0x{Digits.hexText 2 code.toNat}"
  | .unknownTransactionState code => s!"unknown transaction state 0x{Digits.hexText 2 code.toNat}"
  | .dataElements count => s!"expected one data element, got {count}"
  | .unexpected kind => s!"unexpected {kind.name} message"
  | .prepareWithoutReply => "Prepare finished without PrepareComplete"
  | .describeWithoutReply => "DescribeStatement finished without CommandDataDescription"
  | .describedAgain => "CommandDataDescription in reply to Execute"

/-- Settings cannot be used. -/
inductive ConfigError where
  | messageSize (size : UInt64)
  | readBuffer
  | zeroTimeout
  | zeroCache
  /-- The text of the settings is malformed, or a setting has the wrong type or range. -/
  | malformed
  | unreadable (path : String) (cause : FileFault)
deriving DecidableEq, Repr

/-- A configuration error in words. -/
def ConfigError.message : ConfigError → String
  | .messageSize size => s!"max_message_size {size.toNat} is too small"
  | .readBuffer => "read_buffer_capacity must be at least 1024"
  | .zeroTimeout => "request_timeout_ms must be positive; omit it to disable"
  | .zeroCache => "codec_cache_size must be positive"
  | .malformed => "<toml error>"
  | .unreadable path cause => s!"cannot read {path}: {cause.message}"

/-- Everything that can go wrong. -/
inductive Error where
  | transport (cause : TransportError)
  | framing (cause : FramingError)
  | descriptor (cause : DescriptorError)
  | codecMismatch (path : Path) (cause : Mismatch)
  /-- A compound value with another count of elements than its type has. -/
  | countMismatch (expected actual : Nat)
  | protocolViolation (cause : ProtocolError)
  | server (cause : ServerError)
  /-- A query that promised a result had none. -/
  | zeroResults
  | connectionUnusable (reason : String)
  | config (cause : ConfigError)
deriving DecidableEq, Repr

namespace Error

/-- An error in words. -/
def message : Error → String
  | .transport cause => "Transport error: " ++ cause.message
  | .framing cause => "Framing error: " ++ cause.message
  | .descriptor cause => "Descriptor error: " ++ cause.message
  | .codecMismatch path cause =>
    s!"Codec mismatch at {path.text}: expected {cause.expected}, got {cause.actual}"
  | .countMismatch expected actual =>
    s!"Wrong number of elements: expected {expected}, got {actual}"
  | .protocolViolation cause => "Protocol violation: " ++ cause.message
  | .server cause => "Server error: " ++ cause.message
  | .zeroResults => "Query returned zero results"
  | .connectionUnusable reason => "Connection is no longer usable: " ++ reason
  | .config cause => "Configuration error: " ++ cause.message

/-- Whether the connection that produced an error must be given up. -/
def isFatal : Error → Bool
  | .transport _ | .framing _ | .protocolViolation _ | .connectionUnusable _ => true
  | .server cause => cause.isFatal
  | .descriptor _ | .codecMismatch _ _ | .countMismatch _ _ | .zeroResults | .config _ => false

end Error

end QueryWire
