import Promch.Clickhouse.ConnectionState
import Promch.Clickhouse.DataQuery

/-!
# The asynchronous programs of a connection

The methods of a node, of the pool and of the connection facade, as coroutines
over the state that they share.  They await the client factory, the clients,
the locks and each other; between two awaits they run without interruption.
-/

namespace Promch

open EventLoop EventLoop.Coroutine

/-- What a task of a connection awaits. -/
inductive ConnectionRequest
  /-- Its turn on the client lock of a node. -/
  | clientTurn (node : Nat)
  /-- Its turn on the discovery lock, to close the connection or not. -/
  | discoveryTurn (closing : Bool)
  /-- A client for a node. -/
  | factory (node : Nat)
  | query (node client : Nat) (sql : String) (maxExecutionTime : Int)
  | ping (node client : Nat)
  | close (closer : Closer) (node client : Nat)
  /-- Nothing that ever comes. -/
  | never
  deriving DecidableEq

/-- What the answer to a request carries; the client that a factory returns is
a new object, so it is known by its number. -/
def ConnectionRequest.Answer : ConnectionRequest → Type
  | .query _ _ _ _ => QueryResultSet
  | .ping _ _ => Bool
  | _ => Unit

/-- The health of one node in a status snapshot. -/
structure NodeStatus where
  host : String
  alive : Bool
  lastChecked : Option Time
  lastError : Option String
  inCluster : Bool

/-- The status snapshot of a connection. -/
structure ConnectionStatus where
  phase : String
  totalNodes : Nat
  aliveNodes : Nat
  lastDiscovery : Option Time
  nodes : List NodeStatus

/-- What the calls of a connection return. -/
inductive ConnectionValue
  | nothing
  | pinged (alive : Bool)
  | rows (rows : List Row)
  | nodeRows (rows : Option (List Row))
  | systemResult (result : SystemQueryResult)
  | status (status : ConnectionStatus)

/-- A program that works on a connection. -/
abbrev Async (α : Type) : Type :=
  Coroutine ConnectionState ConnectionEffect ConnectionRequest ConnectionRequest.Answer
    Fault ConnectionValue α

/-- Await the answer to a request. -/
abbrev ask (request : ConnectionRequest) : Async request.Answer :=
  await request

/-! ## One node -/

/-- The current client of a node. -/
def clientOf (n : Nat) : Async (Option Nat) :=
  gets fun state => state.client n

/-- The host of a node. -/
def hostOf (n : Nat) : Async String :=
  gets fun state => (state.node n).host

/-- Hold the client lock of a node. -/
def withClientLock (n : Nat) (program : Async α) : Async α :=
  withLock (fun state => (state.objects n).clientLock) (fun op => .node n (.lock op))
    (.clientTurn n) program

/-- Connect under the lock; every driver or transport error of the factory
means that the node is down. -/
def connect (n : Nat) : Async Unit := do
  match ← attempt (ask (.factory n)) with
  | .ok _ => emit (.node n .connect)
  | .error fault =>
      if fault.isDriverError then
        emit (.node n (.markDown fault.message))
        raise (.raised (.nodeConnectionError
          ((← hostOf n) ++ ": connect failed: " ++ fault.message)))
      else raise fault

/-- Connect unless there is a client already. -/
def connectIfNone (n : Nat) : Async Unit := do
  if (← clientOf n).isNone then connect n

/-- The current client as a return value. -/
def currentClient (n : Nat) : Async Nat := do
  match ← clientOf n with
  | some client => return client
  -- never reached: the lock is left with a client or with an exception
  | none => raise (.raised (.exception "'NoneType' object is not a client"))

/-- The current client, connecting when there is none.  The check is repeated
under the lock: another call may have connected in the meantime. -/
def ensureClient (n : Nat) : Async Nat := do
  if (← clientOf n).isNone then
    withClientLock n (connectIfNone n)
  currentClient n

/-- Close and discard the client after a connection failure.  `own` is the
client that the failed call was using, if any; only the history reads it. -/
def dropClient (n : Nat) (own : Option Nat) : Async Unit := do
  match ← clientOf n with
  | none => pure ()
  | some client =>
      emit (.node n (.discard own))
      match ← attempt (ask (.close .drop n client)) with
      | .ok _ => pure ()
      -- closing a broken client must not raise; a cancellation still does
      | .error fault => if fault.isException then pure () else raise fault

/-- Whole seconds, towards zero. -/
def truncate (timeout : Time) : Int :=
  if 0 ≤ timeout then timeout.floor else timeout.ceil

/-- Send a query to a client and await the answer. -/
def clientQuery (n client : Nat) (sql : String) (timeout : Time) : Async QueryResultSet := do
  let task ← currentTask
  emit (.node n (.sendQuery task client))
  let answer ← attempt (ask (.query n client sql (truncate timeout)))
  emit (.node n (.endQuery task client))
  conclude answer

/-- Run one query on a node. -/
def query (n : Nat) (sql : String) (timeout : Time) : Async (List Row) := do
  let client ← ensureClient n
  match ← attempt (clientQuery n client sql timeout) with
  | .ok result =>
      emit (.node n .markAlive)
      return Node.rowsOf result
  | .error (.driver error) =>
      if error.isConnectionLevel then
        emit (.node n (.markDown error.message))
        dropClient n (some client)
        raise (.raised (.nodeConnectionError ((← hostOf n) ++ ": " ++ error.message)))
      else if error.isProtocolError then
        raise (.raised (.nodeQueryError ((← hostOf n) ++ ": " ++ error.message)))
      else raise (.driver error)
  | .error fault => raise fault

/-- Probe a node. -/
def ping (n : Nat) : Async Bool := do
  match ← attempt (ensureClient n) with
  | .error fault =>
      if fault.isUnreachable then
        emit (.node n (.markDown fault.message))
        dropClient n none
        return false
      else raise fault
  | .ok client =>
      match ← attempt (ask (.ping n client)) with
      | .error fault =>
          if fault.isUnreachable then
            emit (.node n (.markDown fault.message))
            dropClient n (some client)
            return false
          else raise fault
      | .ok _ =>
          emit (.node n .markAlive)
          return true

/-- Close the client of a node, if it has one. -/
def closeNode (closer : Closer) (n : Nat) : Async Unit := do
  match ← clientOf n with
  | none => pure ()
  | some client =>
      emit (.node n (.callClose closer))
      let _ ← ask (.close closer n client)
      emit (.node n (.forget client))

/-! ## The pool -/

/-- Run calls in parallel and await all of them. -/
def gather (calls : List ConnectionCall) : Async (List ConnectionValue) :=
  if calls.isEmpty then return [] else emitAndJoin (.fork calls)

/-- Close the clients that have been idle for too long. -/
def evictIdle : List Nat → Async Unit
  | [] => pure ()
  | n :: rest => do
      let node ← gets fun state => state.node n
      if node.alive && node.client.isSome then
        let clock ← gets ConnectionState.reading
        let ttl ← gets fun state => state.spec.idleTtl
        emit .look
        if node.isIdle clock ttl then
          emit (.examine (← currentTask) rest)
          closeNode .evict n
      evictIdle rest

/-- Passive liveness: ping the dead nodes, then evict idle clients. -/
def recheckDead : Async Unit := do
  let nodes ← gets ConnectionState.tracked
  emit (.examine (← currentTask) nodes)
  let dead ← gets fun state => nodes.filter fun n => !(state.node n).alive
  let _ ← gather (dead.map .ping)
  evictIdle nodes

/-- Active liveness: ping every node. -/
def checkAll : Async Unit := do
  let nodes ← gets ConnectionState.tracked
  let _ ← gather (nodes.map .ping)

/-- One liveness pass, in the configured mode. -/
def healthTick : Async Unit := do
  match ← gets fun state => state.spec.livenessMode with
  | .passive => recheckDead
  | .active => checkAll

/-- The live nodes outside `exclude`. -/
def ConnectionState.candidates (state : ConnectionState) (exclude : List String) : List Nat :=
  state.tracked.filter fun n =>
    (state.node n).alive && decide ((state.node n).host ∉ exclude)

/-- A live node outside `exclude`, chosen at random. -/
def pickOneLive (exclude : List String) : Async (Option Nat) := do
  let candidates ← gets fun state => state.candidates exclude
  if candidates.isEmpty then return none
  let choice ← gets fun state => state.picks state.picked
  emit .pick
  return candidates[choice % candidates.length]?

/-- The discovery query. -/
def discoverySql : String := "SELECT cluster, host_name FROM system.clusters"

/-- The hosts that the answer of the discovery query reports for a cluster; a
row of the cluster without a host name is an error. -/
def membersOf (clusterName : String) (rows : List Row) : Except Fault (List String) :=
  (rows.filter fun row => row.get? "cluster" = some (.str clusterName)).mapM fun row =>
    match row.get? "host_name" with
    | some host => .ok host.toText
    | none => .error (.raised (.exception "'host_name'"))

/-- Track new members; each is pinged to bring it into rotation at once. -/
def welcomeAll : List String → Async Unit
  | [] => pure ()
  | host :: rest => do
      let n ← gets ConnectionState.count
      emit (.welcome host)
      let _ ← ping n
      welcomeAll rest

/-- Bring the tracked hosts in line with the reported membership: members are
confirmed, drifted seeds are flagged, departed members are dropped. -/
def reconcile (members : List String) : List String → Async Unit
  | [] => pure ()
  | host :: rest => do
      match ← gets fun state => state.pool.get? host with
      | none => raise (.raised (.exception (PyText.quoted host)))
      | some n =>
          if host ∈ members then
            emit (.confirm host true)
          else if host ∈ (← gets ConnectionState.seedHosts) then
            emit (.confirm host false)
          else
            closeNode .depart n
            emit (.remove host)
          reconcile members rest

/-- Bring the pool in line with the reported members. -/
def updateMembers (members : List String) : Async Unit := do
  let unknown ← gets fun state => members.dedup.filter (· ∉ state.pool.keys)
  -- the unknown hosts are a set, which is visited in an order of its own
  let order ← gets fun state => state.picks state.picked
  emit .pick
  welcomeAll (arrange order unknown)
  let hosts ← gets fun state => state.pool.keys
  reconcile members hosts
  emit (.discovered members)

/-- Discover the topology through one live node; without one, or when the
discovery query fails, the pool stays as it is. -/
def refreshTopology : Async Unit := do
  match ← pickOneLive [] with
  | none => pure ()
  | some seed =>
      match ← attempt (query seed discoverySql 10) with
      | .error (.raised (.nodeConnectionError _)) => pure ()
      | .error (.raised (.nodeQueryError _)) => pure ()
      | .error fault => raise fault
      | .ok rows =>
          let clusterName ← gets fun state => state.spec.clusterName
          let members ← conclude (membersOf clusterName rows)
          updateMembers members

/-! ## The connection facade -/

/-- The status of the connection at one moment. -/
def ConnectionState.statusSnapshot (state : ConnectionState) : ConnectionStatus :=
  let nodes := state.tracked.map state.node
  let alive := nodes.countP Node.alive
  { phase :=
      if alive = 0 then "Down" else if alive = nodes.length then "Healthy" else "Degraded"
    totalNodes := nodes.length
    aliveNodes := alive
    lastDiscovery := state.lastDiscovery
    nodes := nodes.map fun node =>
      { host := node.host
        alive := node.alive
        lastChecked := node.lastChecked
        lastError := node.lastError
        inCluster := node.inCluster } }

/-- Hold the discovery lock. -/
def withDiscoveryLock (closing : Bool) (program : Async α) : Async α :=
  withLock ConnectionState.discoveryLock .discoveryLock (.discoveryTurn closing) program

/-- A pass, after which the connection is ready, with its status. -/
def cycleOf (pass : Async Unit) : Async ConnectionStatus := do
  pass
  emit .finishCycle
  gets ConnectionState.statusSnapshot

/-- One serialized discovery cycle. -/
def discoveryCycle (pass : Async Unit) : Async ConnectionStatus :=
  withDiscoveryLock false (cycleOf pass)

/-- Liveness and topology. -/
def refresh : Async ConnectionStatus :=
  discoveryCycle do
    healthTick
    refreshTopology

/-- Liveness only. -/
def recheck : Async ConnectionStatus :=
  discoveryCycle healthTick

/-- Topology only. -/
def rediscover : Async ConnectionStatus :=
  discoveryCycle refreshTopology

/-- The message raised when no node can serve a query. -/
def ConnectionState.noLiveNodes (state : ConnectionState) : Raised :=
  .noLiveNodesError ("no live nodes for cluster " ++ state.spec.clusterName)

/-- The failover loop of a data query: the hosts tried, the connection errors
so far, and the last of them. -/
def failOver (sql : String) (timeout : Time) :
    Nat → List String → Nat → Option Fault → Async (List Row)
  | 0, _, _, _ => do
      let _ ← ask .never
      return []
  | fuel + 1, tried, attempts, lastError => do
      match ← pickOneLive tried with
      | none =>
          let noLiveNodes ← gets ConnectionState.noLiveNodes
          raise (lastError.getD (.raised noLiveNodes))
      | some n =>
          match ← attempt (query n sql timeout) with
          | .ok rows => return rows
          | .error (.raised (.nodeConnectionError message)) =>
              let host ← hostOf n
              let budget ← gets fun state => state.spec.maxFailovers
              if Failover.isOverBudget budget (attempts + 1) then
                raise (.raised (.nodeConnectionError message))
              else
                failOver sql timeout fuel (host :: tried) (attempts + 1)
                  (some (.raised (.nodeConnectionError message)))
          | .error fault => raise fault

/-- Run a data query on one live node, failing over to others. -/
def executeDataQuery (sql : String) (timeout : Time) (attempts : Nat) : Async (List Row) :=
  failOver sql timeout attempts [] 0 none

/-- Rows, or `none` if the node is unreachable; other failures propagate. -/
def runOnNode (n : Nat) (sql : String) (timeout : Time) : Async (Option (List Row)) := do
  match ← attempt (query n sql timeout) with
  | .ok rows => return some rows
  | .error (.raised (.nodeConnectionError _)) => return none
  | .error fault => raise fault

/-- The live nodes. -/
def ConnectionState.allLive (state : ConnectionState) : List Nat :=
  state.tracked.filter fun n => (state.node n).alive

/-- Members that are down, queried or not; before the first discovery every
tracked node counts as a member. -/
def ConnectionState.downMembers (state : ConnectionState) : List String :=
  ((state.tracked.map state.node).filter fun node =>
    !node.alive && (node.inCluster || state.lastDiscovery.isNone)).map Node.host

/-- All known cluster-member hosts, or every tracked host if discovery has not
confirmed any membership. -/
def ConnectionState.memberHosts (state : ConnectionState) : List String :=
  let nodes := state.tracked.map state.node
  let members := (nodes.filter Node.inCluster).map Node.host
  (if members = [] then nodes.map Node.host else members).insertionSort (· ≤ ·)

/-- What a fanned-out node query returned. -/
def ConnectionValue.outcome : ConnectionValue → NodeOutcome
  | .nodeRows (some answer) => .answered answer
  | _ => .connectionError "" ""

/-- Merge what the fanned-out node queries returned with the members that are
down by now. -/
def mergeResults
    (nodes : List Nat)
    (nodeLabel : String)
    (results : List ConnectionValue) : Async SystemQueryResult := do
  let answers ← gets fun state =>
    (nodes.map state.node).zip (results.map ConnectionValue.outcome)
  match mergeAnswers nodeLabel answers with
  | .error raised => raise (.raised raised)
  | .ok (rows, failed) =>
      let downMembers ← gets ConnectionState.downMembers
      return { rows := rows, failedNodes := sortedSet (failed ++ downMembers) }

/-- Run a system query on all live nodes. -/
def executeSystemQuery (sql : String) (timeout : Time) (nodeLabel : String) :
    Async SystemQueryResult := do
  let nodes ← gets ConnectionState.allLive
  if nodes.isEmpty then
    raise (.raised (← gets ConnectionState.noLiveNodes))
  else
    let results ← gather (nodes.map fun n => .runOnNode n sql timeout)
    mergeResults nodes nodeLabel results

/-- Close the clients of the given nodes. -/
def sweep : List Nat → Async Unit
  | [] => pure ()
  | n :: rest => do
      closeNode .sweep n
      emit (.swept n)
      sweep rest

/-- Close the clients of all tracked nodes. -/
def closeTracked : Async Unit := do
  let nodes ← gets ConnectionState.tracked
  emit .beginSweep
  sweep nodes

/-- Close the connection, serialized with discovery. -/
def closeConnection : Async Unit := do
  let outcome ← attempt (withDiscoveryLock true closeTracked)
  -- history only: the pass is over, also when a client's `close` has raised
  emit .endSweep
  conclude outcome

/-! ## The event loop -/

namespace ConnectionCall

/-- The program of a call. -/
def body : ConnectionCall → Async ConnectionValue
  | .query n sql timeout => do return .rows (← Promch.query n sql timeout)
  | .ping n => do return .pinged (← Promch.ping n)
  | .closeNode n => do
      Promch.closeNode .call n
      return .nothing
  | .runOnNode n sql timeout => do return .nodeRows (← Promch.runOnNode n sql timeout)
  | .recheckDead => do
      Promch.recheckDead
      return .nothing
  | .checkAll => do
      Promch.checkAll
      return .nothing
  | .healthTick => do
      Promch.healthTick
      return .nothing
  | .refresh => do return .status (← Promch.refresh)
  | .recheck => do return .status (← Promch.recheck)
  | .rediscover => do return .status (← Promch.rediscover)
  | .executeDataQuery sql timeout attempts => do
      return .rows (← Promch.executeDataQuery sql timeout attempts)
  | .executeSystemQuery sql timeout nodeLabel => do
      return .systemResult (← Promch.executeSystemQuery sql timeout nodeLabel)
  | .close => do
      closeConnection
      return .nothing

end ConnectionCall

/-- The answers that a request can receive.  A lock is granted when the turn of
the task has come, and waiting for it can only be cancelled; factories and
clients answer or raise as they like. -/
def ConnectionRequest.admits
    (task : Nat)
    (request : ConnectionRequest)
    (outcome : Except Fault request.Answer)
    (state : ConnectionState) : Bool :=
  match request, outcome with
  | .clientTurn n, .ok _ => (state.objects n).clientLock.isTurn task
  | .clientTurn _, .error fault => !fault.isException
  | .discoveryTurn _, .ok _ => state.discoveryLock.isTurn task
  | .discoveryTurn _, .error fault => !fault.isException
  | .never, _ => false
  | _, _ => true

/-- The event loop of one connection. -/
def connectionLoop :
    Machine ConnectionState ConnectionEffect ConnectionRequest ConnectionRequest.Answer
      ConnectionCall Fault ConnectionValue where
  apply := ConnectionState.apply
  forks := ConnectionState.forks
  body := ConnectionCall.body
  admits := ConnectionRequest.admits

/-- A connection with the tasks that work on it. -/
abbrev ConnectionSystem : Type :=
  System ConnectionState ConnectionEffect ConnectionRequest ConnectionRequest.Answer
    ConnectionCall Fault ConnectionValue

/-- What the environment of a connection does next. -/
abbrev ConnectionAction : Type :=
  Action ConnectionRequest ConnectionRequest.Answer ConnectionCall Fault

/-- A fresh connection on which no call has been made. -/
def ConnectionSystem.fresh
    (spec : PoolSpec)
    (clock : Nat → ClockReading)
    (picks : Nat → Nat) : ConnectionSystem :=
  System.idle (ConnectionState.create spec clock picks)

/-- A fresh connection reaches what a run computes. -/
theorem ConnectionSystem.exists_reached
    (condition : ConnectionSystem → ConnectionAction → Bool)
    (spec : PoolSpec)
    (clock : Nat → ClockReading)
    (picks : Nat → Nat)
    (actions : List ConnectionAction)
    (property : ConnectionSystem → Bool)
    (ran : (connectionLoop.run (fun before action => condition before action)
      (ConnectionSystem.fresh spec clock picks) actions).any property = true) :
    ∃ system, connectionLoop.Reaches (fun before action => condition before action)
      (ConnectionSystem.fresh spec clock picks) system ∧ property system = true :=
  Machine.exists_reaches_of_run actions property ran

end Promch
