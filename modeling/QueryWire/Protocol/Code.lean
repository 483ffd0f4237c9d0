/-!
# One-byte codes

The small enumerations that travel as one byte each.  Every code is given in one direction by a
total function and read in the other by a partial one; the two are inverse.
-/

namespace QueryWire

/-- How many results a query or a field may have. -/
inductive Cardinality where
  | noResult
  | atMostOne
  | one
  | many
  | atLeastOne
deriving DecidableEq, Repr, Inhabited

namespace Cardinality

/-- The byte of a cardinality. -/
def code : Cardinality → UInt8
  | .noResult => 0x6E
  | .atMostOne => 0x6F
  | .one => 0x41
  | .many => 0x6D
  | .atLeastOne => 0x4D

/-- The cardinality of a byte. -/
def ofCode? (code : UInt8) : Option Cardinality :=
  [noResult, atMostOne, one, many, atLeastOne].find? fun c => c.code == code

/-- Whether a field of this cardinality is always present. -/
def isRequired : Cardinality → Bool
  | .one | .atLeastOne => true
  | .noResult | .atMostOne | .many => false

/-- A cardinality in words. -/
def name : Cardinality → String
  | .noResult => "NoResult"
  | .atMostOne => "AtMostOne"
  | .one => "One"
  | .many => "Many"
  | .atLeastOne => "AtLeastOne"

theorem ofCode?_code (c : Cardinality) : ofCode? c.code = some c := by cases c <;> rfl

end Cardinality

/-- The form in which results are asked for. -/
inductive OutputFormat where
  | binary
  | json
deriving DecidableEq, Repr, Inhabited

/-- The byte of an output format. -/
def OutputFormat.code : OutputFormat → UInt8
  | .binary => 0x62
  | .json => 0x6A

/-- Where a session stands with respect to transactions. -/
inductive TransactionState where
  | notInTransaction
  | inTransaction
  | inFailedTransaction
deriving DecidableEq, Repr, Inhabited

namespace TransactionState

/-- The byte of a transaction state. -/
def code : TransactionState → UInt8
  | .notInTransaction => 0x49
  | .inTransaction => 0x54
  | .inFailedTransaction => 0x45

/-- The transaction state of a byte. -/
def ofCode? (code : UInt8) : Option TransactionState :=
  [notInTransaction, inTransaction, inFailedTransaction].find? fun s => s.code == code

/-- A transaction state in words. -/
def name : TransactionState → String
  | .notInTransaction => "NotInTransaction"
  | .inTransaction => "InTransaction"
  | .inFailedTransaction => "InFailedTransaction"

theorem ofCode?_code (s : TransactionState) : ofCode? s.code = some s := by cases s <;> rfl

end TransactionState

/-- The messages that a client sends. -/
inductive RequestKind where
  | prepare
  | describeStatement
  | execute
  | optimisticExecute
  | executeScript
  | sync
deriving DecidableEq, Repr, Inhabited

/-- The byte of a request. -/
def RequestKind.code : RequestKind → UInt8
  | .prepare => 0x50
  | .describeStatement => 0x44
  | .execute => 0x45
  | .optimisticExecute => 0x4F
  | .executeScript => 0x51
  | .sync => 0x53

/-- The messages that a server sends. -/
inductive ResponseKind where
  | prepareComplete
  | commandComplete
  | data
  | errorResponse
  | logMessage
  | parameterStatus
  | commandDataDescription
  | readyForCommand
deriving DecidableEq, Repr, Inhabited

namespace ResponseKind

/-- The byte of a response. -/
def code : ResponseKind → UInt8
  | .prepareComplete => 0x31
  | .commandComplete => 0x43
  | .data => 0x44
  | .errorResponse => 0x45
  | .logMessage => 0x4C
  | .parameterStatus => 0x53
  | .commandDataDescription => 0x54
  | .readyForCommand => 0x5A

/-- The response of a byte. -/
def ofCode? (code : UInt8) : Option ResponseKind :=
  [prepareComplete, commandComplete, data, errorResponse, logMessage, parameterStatus,
    commandDataDescription, readyForCommand].find? fun k => k.code == code

/-- A response in words. -/
def name : ResponseKind → String
  | .prepareComplete => "PrepareComplete"
  | .commandComplete => "CommandComplete"
  | .data => "Data"
  | .errorResponse => "ErrorResponse"
  | .logMessage => "LogMessage"
  | .parameterStatus => "ParameterStatus"
  | .commandDataDescription => "CommandDataDescription"
  | .readyForCommand => "ReadyForCommand"

theorem ofCode?_code (k : ResponseKind) : ofCode? k.code = some k := by cases k <;> rfl

end ResponseKind

end QueryWire
