import Promch.Clickhouse.Types

/-!
# One cluster node

A node connects lazily and owns its health state.  A call is given by the
behaviour of the client factory (consulted only when there is no client), the
behaviour of the client, and the clock readings; exceptions keep the state
changes made before them.
-/

namespace Promch

/-- The wall clock and the monotonic clock at one moment. -/
structure ClockReading where
  now : Time
  monotonic : Time

/-- One node.  `ident` is the identity of the object: a host that leaves the
pool and returns is a new object. -/
structure Node where
  host : String
  ident : Nat
  alive : Bool := false
  inCluster : Bool := false
  lastChecked : Option Time := none
  lastError : Option String := none
  client : Option Nat := none
  lastUsed : Time := 0

/-- A fresh node is pessimistically down and unconnected. -/
def Node.create (host : String) (ident : Nat) (clock : ClockReading) : Node where
  host := host
  ident := ident
  lastUsed := clock.monotonic

namespace Node

/-- Record a failed probe. -/
def markDown (node : Node) (error : String) (clock : ClockReading) : Node :=
  { node with
    alive := false
    lastError := some error
    lastChecked := some clock.now }

/-- Record a use of the client. -/
def markUsed (node : Node) (clock : ClockReading) : Node :=
  { node with lastUsed := clock.monotonic }

/-- A successful ping or query confirms the node is alive. -/
def markAlive (node : Node) (clock : ClockReading) : Node :=
  { node with
    alive := true
    lastError := none
    lastChecked := some clock.now }.markUsed clock

/-- The node with another client reference. -/
def withClient (node : Node) (client : Option Nat) : Node :=
  { node with client := client }

/-- Close and discard the client; closing a broken client never raises. -/
def dropClient (node : Node) : Node :=
  node.withClient none

/-- Connect when there is no client.  Every driver or transport error of the
factory means that the node is down. -/
def ensureClient
    (node : Node)
    (connect : Except DriverError Nat)
    (clock : ClockReading) : Node × Except Raised Unit :=
  match node.client with
  | some _ => (node, .ok ())
  | none =>
      match connect with
      | .ok client => (node.withClient (some client), .ok ())
      | .error error =>
          if error.isProtocolError then
            (node.markDown error.message clock,
              .error (.nodeConnectionError
                (node.host ++ ": connect failed: " ++ error.message)))
          else (node, .error (.exception error.message))

/-- The rows of a driver result: columns zipped with each raw row. -/
def rowsOf (result : QueryResultSet) : List Row :=
  result.resultRows.map fun raw => Dict.ofList (result.columnNames.zip raw)

/-- The part of a query that has a client. -/
def queryClient
    (node : Node)
    (reply : Except DriverError QueryResultSet)
    (clock : ClockReading) : Node × Except Raised (List Row) :=
  match reply with
  | .ok result => (node.markAlive clock, .ok (rowsOf result))
  | .error error =>
      if error.isConnectionLevel then
        ((node.markDown error.message clock).dropClient,
          .error (.nodeConnectionError (node.host ++ ": " ++ error.message)))
      else if error.isProtocolError then
        (node, .error (.nodeQueryError (node.host ++ ": " ++ error.message)))
      else (node, .error (.exception error.message))

/-- Run one query on the node. -/
def query
    (node : Node)
    (connect : Except DriverError Nat)
    (reply : Except DriverError QueryResultSet)
    (clock : ClockReading) : Node × Except Raised (List Row) :=
  match node.ensureClient connect clock with
  | (connected, .error raised) => (connected, .error raised)
  | (connected, .ok ()) => connected.queryClient reply clock

/-- Probe the node.  The boolean that the client's own `ping` returns is not
read: a ping that returns at all confirms the node. -/
def ping
    (node : Node)
    (connect : Except DriverError Nat)
    (reply : Except DriverError Bool)
    (clock : ClockReading) : Node × Except Raised Bool :=
  match node.ensureClient connect clock with
  | (connected, .error (.nodeConnectionError message)) =>
      ((connected.markDown message clock).dropClient, .ok false)
  | (connected, .error raised) => (connected, .error raised)
  | (connected, .ok ()) =>
      match reply with
      | .ok _ => (connected.markAlive clock, .ok true)
      | .error error =>
          if error.isConnectionLevel then
            ((connected.markDown error.message clock).dropClient, .ok false)
          else (connected, .error (.exception error.message))

section Fields

variable (node : Node) (error : String) (clock : ClockReading)

@[simp] theorem alive_markDown : (node.markDown error clock).alive = false := rfl

@[simp] theorem lastError_markDown :
    (node.markDown error clock).lastError = some error := rfl

@[simp] theorem lastChecked_markDown :
    (node.markDown error clock).lastChecked = some clock.now := rfl

@[simp] theorem alive_markAlive : (node.markAlive clock).alive = true := rfl

@[simp] theorem lastError_markAlive : (node.markAlive clock).lastError = none := rfl

@[simp] theorem lastChecked_markAlive :
    (node.markAlive clock).lastChecked = some clock.now := rfl

theorem withClient_of_eq {client : Option Nat} (held : node.client = client) :
    node.withClient client = node := by
  subst held
  rfl

@[simp] theorem alive_dropClient : node.dropClient.alive = node.alive := rfl

@[simp] theorem lastError_dropClient : node.dropClient.lastError = node.lastError := rfl

@[simp] theorem lastChecked_dropClient :
    node.dropClient.lastChecked = node.lastChecked := rfl

end Fields

end Node

end Promch
