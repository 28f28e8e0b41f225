import Mathlib.Logic.Function.Basic
import Promch.Library.AsyncLock
import Promch.Clickhouse.Topology

/-!
# The shared state of one connection

Everything that the tasks working on one connection share: the node objects
with their clients and locks, the pool, the discovery lock, and the sources of
time and chance.  The state changes only through the effects below, each of
which is one uninterrupted change that the source makes.  History variables
record what happened; no program reads them.
-/

namespace Promch

open EventLoop

/-- How a connection checks the liveness of its nodes. -/
inductive LivenessMode
  | active
  | passive
  deriving DecidableEq

/-- The part of the connection specification that the client logic reads, with
the settings of the liveness pass. -/
structure PoolSpec extends ConnectionSpec where
  livenessMode : LivenessMode := .active
  idleTtl : Time := 300

/-- An exception while a task runs: of the driver, of the client taxonomy, or
the cancellation of the task. -/
inductive Fault
  | driver (error : DriverError)
  | raised (exception : Raised)
  | cancelled
  deriving DecidableEq

namespace Fault

/-- The text of an exception. -/
def message : Fault → String
  | .driver error => error.message
  | .raised exception => exception.message
  | .cancelled => ""

/-- Any exception but a cancellation. -/
def isException : Fault → Bool
  | .cancelled => false
  | _ => true

/-- A driver or transport error. -/
def isDriverError : Fault → Bool
  | .driver error => error.isProtocolError
  | _ => false

/-- The failures that a ping takes as proof that the node is unreachable. -/
def isUnreachable : Fault → Bool
  | .driver error => error.isConnectionLevel
  | .raised (.nodeConnectionError _) => true
  | _ => false

/-- A cancellation says nothing of the node. -/
theorem not_isUnreachable_of_cancelled {fault : Fault} (cancelled : !fault.isException) :
    ¬fault.isUnreachable = true := by
  cases fault with
  | cancelled => simp [isUnreachable]
  | driver error | raised exception => simp [isException] at cancelled

end Fault

/-- Whether the client of a node was last used more than `ttl` ago. -/
def Node.isIdle (node : Node) (clock : ClockReading) (ttl : Time) : Bool :=
  node.client.isSome && decide (ttl < clock.monotonic - node.lastUsed)

/-- Who closes a client. -/
inductive Closer
  /-- A call that failed on connection level. -/
  | drop
  /-- A plain call of the node's `close`. -/
  | call
  /-- The idle eviction of a liveness pass. -/
  | evict
  /-- A refresh that finds that the node left the cluster. -/
  | depart
  /-- The closing of the whole connection. -/
  | sweep
  deriving DecidableEq

/-- A node object: its fields, its client lock, and its history.  The clients of
a node are numbered in the order in which the factory returned them. -/
structure NodeObject where
  node : Node
  clientLock : AsyncLock := {}
  /-- How many clients the factory has returned. -/
  made : Nat := 0
  /-- The clients whose `close` has been called. -/
  closed : List Nat := []
  /-- The tasks that await the answer to a query, with the client they use. -/
  outstanding : List (Nat × Nat) := []
  /-- The clients discarded after a failure, each with the client that the
  failed call was using, if it had one. -/
  discards : List (Option Nat × Nat) := []
  /-- The clients closed as idle, each with the tasks whose queries were
  outstanding on it. -/
  evictions : List (Nat × List Nat) := []

namespace NodeObject

/-- A fresh node object. -/
def create (host : String) (ident : Nat) (clock : ClockReading) : NodeObject where
  node := Node.create host ident clock

/-- The current client. -/
def client (object : NodeObject) : Option Nat :=
  object.node.client

/-- The tasks whose queries are outstanding on a client. -/
def busy (object : NodeObject) (client : Nat) : List Nat :=
  (object.outstanding.filter fun entry => entry.2 = client).map Prod.fst

end NodeObject

/-- One uninterrupted change of a node object. -/
inductive NodeEffect
  | markDown (error : String)
  | markAlive
  | lock (op : LockOp)
  /-- The factory returned a client, which becomes the current one. -/
  | connect
  /-- The current client is taken out and its `close` is called, because a call
  failed, on the given client if it had one. -/
  | discard (own : Option Nat)
  /-- The `close` of the current client is called. -/
  | callClose (closer : Closer)
  /-- The `close` of the given client has returned: there is no client now. -/
  | forget (client : Nat)
  /-- A task sends a query to a client. -/
  | sendQuery (task client : Nat)
  /-- A query of a task is answered. -/
  | endQuery (task client : Nat)

/-- The readings of the clock that a change takes. -/
def NodeEffect.readings : NodeEffect → Nat
  | .markDown _ => 1
  | .markAlive => 1
  | _ => 0

namespace NodeObject

/-- Change the fields of a node. -/
def withNode (object : NodeObject) (node : Node) : NodeObject :=
  { object with node := node }

/-- Change the membership flag of a node. -/
def flag (object : NodeObject) (member : Bool) : NodeObject :=
  object.withNode { object.node with inCluster := member }

/-- Call the `close` of the current client. -/
def callClose (object : NodeObject) (closer : Closer) : NodeObject :=
  match object.client with
  | none => object
  | some client =>
      { object with
        closed := client :: object.closed
        evictions :=
          if closer = .evict then (client, object.busy client) :: object.evictions
          else object.evictions }

/-- Take the current client out and call its `close`. -/
def discard (object : NodeObject) (own : Option Nat) : NodeObject :=
  match object.client with
  | none => object
  | some client =>
      { object with
        node := object.node.dropClient
        closed := client :: object.closed
        discards := (own, client) :: object.discards }

/-- The node object after a change. -/
def apply (object : NodeObject) (clock : ClockReading) : NodeEffect → NodeObject
  | .markDown error => object.withNode (object.node.markDown error clock)
  | .markAlive => object.withNode (object.node.markAlive clock)
  | .lock op => { object with clientLock := object.clientLock.apply op }
  | .connect =>
      { object with
        node := object.node.withClient (some object.made)
        made := object.made + 1 }
  | .discard own => object.discard own
  | .callClose closer => object.callClose closer
  | .forget _ => object.withNode (object.node.withClient none)
  | .sendQuery task client =>
      { object with outstanding := (task, client) :: object.outstanding }
  | .endQuery task client =>
      { object with outstanding := object.outstanding.erase (task, client) }

end NodeObject

/-- What the tasks of one connection share. -/
structure ConnectionState where
  spec : PoolSpec
  /-- The node objects, by their identity. -/
  objects : Nat → NodeObject
  /-- How many node objects have been built. -/
  count : Nat
  /-- The tracked nodes: host to node object. -/
  pool : Dict String Nat
  seedHosts : List String
  lastDiscovery : Option Time := none
  discoveryLock : AsyncLock := {}
  ready : Bool := false
  /-- The readings that the injected clock gives, one after the other. -/
  clock : Nat → ClockReading
  readings : Nat := 0
  /-- The choices left open, one after the other: random picks and set orders. -/
  picks : Nat → Nat
  picked : Nat := 0
  /-- History: the membership that the last completed refresh reported. -/
  membership : List String := []
  /-- History: a refresh has changed the pool and not completed. -/
  reconciling : Bool := false
  /-- History: the node objects that left the pool. -/
  departed : List Nat := []
  /-- History: once the connection is being closed, the nodes that the closing
  pass has yet to reach. -/
  toSweep : Option (List Nat) := none
  /-- History: the nodes that the liveness pass of a task has yet to examine. -/
  examining : Nat → List Nat := fun _ => []

/-- The calls that a connection and its nodes offer. -/
inductive ConnectionCall
  | query (node : Nat) (sql : String) (timeout : Time)
  | ping (node : Nat)
  | closeNode (node : Nat)
  | runOnNode (node : Nat) (sql : String) (timeout : Time)
  | recheckDead
  | checkAll
  | healthTick
  | refresh
  | recheck
  | rediscover
  /-- The last argument bounds the number of attempts that are followed. -/
  | executeDataQuery (sql : String) (timeout : Time) (attempts : Nat)
  | executeSystemQuery (sql : String) (timeout : Time) (nodeLabel : String)
  | close
  deriving DecidableEq

/-- One uninterrupted change of the shared state. -/
inductive ConnectionEffect
  | node (node : Nat) (change : NodeEffect)
  | discoveryLock (op : LockOp)
  /-- A choice is drawn: a random pick, or the order of a set. -/
  | pick
  /-- The clock is read to judge whether a node is idle. -/
  | look
  /-- The liveness pass of a task has the given nodes to examine. -/
  | examine (task : Nat) (nodes : List Nat)
  /-- Tasks are created. -/
  | fork (calls : List ConnectionCall)
  /-- A new cluster member is tracked. -/
  | welcome (host : String)
  /-- A tracked host is found to be a member, or not. -/
  | confirm (host : String) (member : Bool)
  /-- A host is tracked no more. -/
  | remove (host : String)
  /-- A refresh completes. -/
  | discovered (members : List String)
  /-- A discovery cycle is over. -/
  | finishCycle
  /-- The closing pass sets out over the tracked nodes. -/
  | beginSweep
  /-- The closing pass is done with a node. -/
  | swept (node : Nat)
  /-- The closing pass is over, complete or not. -/
  | endSweep

namespace ConnectionState

/-- The tracked node objects, in order. -/
def tracked (state : ConnectionState) : List Nat :=
  state.pool.values

/-- The fields of a node. -/
def node (state : ConnectionState) (n : Nat) : Node :=
  (state.objects n).node

/-- The current client of a node. -/
def client (state : ConnectionState) (n : Nat) : Option Nat :=
  (state.objects n).client

/-- The next reading of the clock. -/
def reading (state : ConnectionState) : ClockReading :=
  state.clock state.readings

/-- Replace a node object. -/
def setObject (state : ConnectionState) (n : Nat) (object : NodeObject) : ConnectionState :=
  { state with objects := Function.update state.objects n object }

/-- Build a node object and track it under its host. -/
def track (state : ConnectionState) (host : String) (inCluster : Bool) : ConnectionState :=
  { state.setObject state.count
      ((NodeObject.create host state.count state.reading).flag inCluster) with
    pool := state.pool.set host state.count
    count := state.count + 1
    readings := state.readings + 1 }

/-- Change the membership flag of a tracked host. -/
def confirm (state : ConnectionState) (host : String) (member : Bool) : ConnectionState :=
  match state.pool.get? host with
  | none => state
  | some n => state.setObject n ((state.objects n).flag member)

/-- The tracked nodes that no closing pass has reached. -/
def unswept (state : ConnectionState) : List Nat :=
  match state.toSweep with
  | none => state.tracked
  | some rest => state.tracked.filter (· ∈ rest)

/-- The shared state after a change. -/
def apply (effect : ConnectionEffect) (state : ConnectionState) : ConnectionState :=
  match effect with
  | .node n change =>
      { state.setObject n ((state.objects n).apply state.reading change) with
        readings := state.readings + change.readings }
  | .discoveryLock op => { state with discoveryLock := state.discoveryLock.apply op }
  | .pick => { state with picked := state.picked + 1 }
  | .look => { state with readings := state.readings + 1 }
  | .examine task nodes =>
      { state with examining := Function.update state.examining task nodes }
  | .fork _ => state
  | .welcome host => { state.track host true with reconciling := true }
  | .confirm host member => { state.confirm host member with reconciling := true }
  | .remove host =>
      { state with
        pool := state.pool.erase host
        reconciling := true
        departed := (state.pool.get? host).toList ++ state.departed }
  | .discovered members =>
      { state with
        lastDiscovery := some state.reading.now
        readings := state.readings + 1
        membership := members
        reconciling := false }
  | .finishCycle => { state with ready := true }
  | .beginSweep => { state with toSweep := some state.unswept }
  | .swept n => { state with toSweep := state.toSweep.map (·.filter (· ≠ n)) }
  | .endSweep => { state with toSweep := some [] }

/-- The tasks that a change creates. -/
def forks : ConnectionEffect → ConnectionState → List ConnectionCall
  | .fork calls, _ => calls
  | _, _ => []

/-- Track one declared seed; a repeated host is ignored. -/
def trackSeed (state : ConnectionState) (host : String) : ConnectionState :=
  if host ∈ state.pool.keys then state else state.track host false

/-- A fresh connection: the declared seeds are tracked and nothing is known. -/
def create
    (spec : PoolSpec)
    (clock : Nat → ClockReading)
    (picks : Nat → Nat) : ConnectionState :=
  let seeded := spec.seedHosts.foldl trackSeed
    { spec := spec
      objects := fun ident => NodeObject.create "" ident (clock 0)
      count := 0
      pool := Dict.empty
      seedHosts := []
      clock := clock
      picks := picks }
  { seeded with seedHosts := seeded.pool.keys }

end ConnectionState

end Promch
