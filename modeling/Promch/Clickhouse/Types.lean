import Promch.Library.Dict
import Promch.Library.Python

/-!
# Data types of the ClickHouse client

Raw result rows, the exceptions that clients and the connection facade raise,
and the part of the connection specification that the client logic reads.
-/

namespace Promch

/-- A clock reading or a duration, in seconds. -/
abbrev Time := ℚ

/-- How the `float` conversion of a result cell fails. -/
inductive FloatFailure
  /-- A `TypeError` or a `ValueError`. -/
  | notNumeric
  /-- Any other exception, such as an overflow. -/
  | raised (message : String)
  deriving DecidableEq

/-- A cell of a raw result row.  Text is kept as it is; any other object is
given by its `str` text, its `repr` text and the outcome of its `float`
conversion. -/
inductive Cell
  | str (text : String)
  | object (text repr : String) (number : Except FloatFailure PyFloat)
  deriving DecidableEq

namespace Cell

/-- The `str` text of a cell. -/
def toText : Cell → String
  | .str text => text
  | .object text _ _ => text

/-- The `repr` text of a cell. -/
def toRepr : Cell → String
  | .str text => PyText.quoted text
  | .object _ repr _ => repr

/-- The `float` conversion of a cell. -/
def float : Cell → Except FloatFailure PyFloat
  | .str text =>
      match PyFloat.ofText? text with
      | some value => .ok value
      | none => .error .notNumeric
  | .object _ _ number => number

/-- A numeric cell. -/
def ofNat (value : Nat) : Cell :=
  .object (toString value) (toString value) (.ok (.finite value))

end Cell

/-- One raw result row: column name to cell. -/
abbrev Row := Dict String Cell

/-- The subset of a driver result that a node reads. -/
structure QueryResultSet where
  columnNames : List String
  resultRows : List (List Cell)

/-- Fan-out result, partial by design. -/
structure SystemQueryResult where
  rows : List Row
  failedNodes : List String

/-- The exceptions of the client taxonomy, and any other one. -/
inductive Raised
  | nodeConnectionError (message : String)
  | nodeQueryError (message : String)
  | noLiveNodesError (message : String)
  | valueError (message : String)
  | exception (message : String)
  deriving DecidableEq

/-- The message of an exception. -/
def Raised.message : Raised → String
  | .nodeConnectionError message => message
  | .nodeQueryError message => message
  | .noLiveNodesError message => message
  | .valueError message => message
  | .exception message => message

/-- What a driver client or the client factory raises. -/
inductive DriverError
  /-- `OperationalError`, a subclass of `DatabaseError`. -/
  | operational (message : String)
  /-- Any other `DatabaseError`. -/
  | database (message : String)
  /-- `OSError` or `TimeoutError`. -/
  | transport (message : String)
  /-- Any other exception. -/
  | other (message : String)
  deriving DecidableEq

namespace DriverError

/-- The text of a driver exception. -/
def message : DriverError → String
  | .operational message => message
  | .database message => message
  | .transport message => message
  | .other message => message

/-- Failures that say the node cannot be reached. -/
def isConnectionLevel : DriverError → Bool
  | .operational _ => true
  | .transport _ => true
  | .database _ => false
  | .other _ => false

/-- Failures a client of the protocol may raise. -/
def isProtocolError : DriverError → Bool
  | .other _ => false
  | _ => true

end DriverError

/-- The part of a connection resource that the client logic reads. -/
structure ConnectionSpec where
  seedHosts : List String
  clusterName : String
  /-- `none` tries all live nodes. -/
  maxFailovers : Option Int := none

end Promch
