import QueryWire.Error

/-!
# Settings

What can be set for the connections of a program.  Three of the settings concern the server: they
travel as headers with every query, and so belong to what tells two statements apart.

* `Settings` — with the values that hold when nothing is set.
* `Settings.fault?` — why settings cannot be used.
* `Settings.headers` — the settings that the server is told.
-/

namespace QueryWire

/-- What can be set. -/
structure Settings where
  /-- The longest message of the server that is accepted. -/
  maxMessageSize : UInt64 := 16777216
  /-- How many bytes are asked for in one read. -/
  readBufferCapacity : UInt64 := 8192
  /-- How many milliseconds a read may take. -/
  requestTimeout : Option UInt64 := none
  /-- How many codecs are kept. -/
  codecCacheSize : UInt64 := 1000
  /-- How many results the server gives at most. -/
  implicitLimit : Option UInt64 := none
  /-- Whether the server adds the name of its type to each object. -/
  implicitTypenames : Bool := false
  /-- What statements are allowed to do, as a set of bits. -/
  allowCapabilities : Option UInt64 := none
deriving DecidableEq, Repr, Inhabited

namespace Settings

/-- The settings that hold when nothing is set. -/
def initial : Settings := {}

/-- The least size of a read. -/
def minReadBuffer : UInt64 := 1024

/-- The size of a message without payload. -/
def minMessageSize : UInt64 := 5

/-- Why settings cannot be used. -/
def fault? (s : Settings) : Option ConfigError :=
  if s.maxMessageSize < minMessageSize then some (.messageSize s.maxMessageSize)
  else if s.readBufferCapacity < minReadBuffer then some .readBuffer
  else if s.requestTimeout = some 0 then some .zeroTimeout
  else if s.codecCacheSize = 0 then some .zeroCache
  else none

/-- The settings, when they can be used. -/
def checked (s : Settings) : Except Error Settings :=
  match s.fault? with
  | some fault => .error (.config fault)
  | none => .ok s

/-! ## Headers -/

/-- The key under which the limit travels. -/
def limitKey : UInt16 := 0xFF01

/-- The key under which the wish for type names travels. -/
def typenamesKey : UInt16 := 0xFF02

/-- The key under which the capabilities travel. -/
def capabilitiesKey : UInt16 := 0xFF04

/-- The settings that the server is told, each under its key. -/
def headers (s : Settings) : Headers :=
  let limit := s.implicitLimit.map fun n => (limitKey, Utf8.encode (Digits.decimalText n.toNat))
  let typenames := if s.implicitTypenames then some (typenamesKey, Utf8.encode "true") else none
  let capabilities := s.allowCapabilities.map fun n =>
    (capabilitiesKey, BigEndian.encode 8 n.toNat)
  Headers.ofList (limit.toList ++ typenames.toList ++ capabilities.toList)

end Settings

end QueryWire
