import Promch.Clickhouse.Programs
import Promch.Handlers.Scheduler

/-!
# The connection registry

The handlers of the connection resources, the scheduler ticks and the query
executions, as coroutines over the state that they share: the registry of the
connections, one for each resource, and the collector.  They await Secret reads,
and the connections themselves, whose answers the environment chooses.
-/

namespace Promch

open EventLoop EventLoop.Coroutine

/-- The key of a resource: namespace and name. -/
abbrev ResourceKey : Type := String × String

/-- A missing namespace is the empty one. -/
def resourceKey (resourceNamespace : Option String) (name : String) : ResourceKey :=
  (resourceNamespace.getD "", name)

/-- The reference of a connection resource to the Secret with its credentials. -/
structure AuthSecretRef where
  name : String
  usernameKey : Option String := none
  passwordKey : Option String := none
  deriving DecidableEq

/-- The specification of a connection resource. -/
structure ConnectionResource where
  seedHosts : List String
  clusterName : String
  port : Option Int := none
  username : Option String := none
  secure : Option Bool := none
  verify : Option Bool := none
  maxFailovers : Option Int := none
  systemQueryRetries : Option Int := none
  livenessMode : Option LivenessMode := none
  connectTimeout : Option Time := none
  authSecretRef : Option AuthSecretRef := none
  deriving DecidableEq

/-- The credentials of a connection; without a username of their own that of
the resource counts. -/
structure Credentials where
  usernameOverride : Option String
  password : String
  deriving DecidableEq

/-- Everything that the client needs. -/
structure ClientSpec extends PoolSpec where
  port : Int
  username : String
  password : String
  secure : Bool
  verify : Bool
  connectTimeout : Time
  systemQueryRetries : Int

/-- The specification of the client for a resource and its credentials. -/
def specToConnectionSpec
    (spec : ConnectionResource)
    (credentials : Credentials) : ClientSpec where
  seedHosts := spec.seedHosts
  clusterName := spec.clusterName
  port := spec.port.getD 8443
  username := credentials.usernameOverride.getD (spec.username.getD "default")
  password := credentials.password
  secure := spec.secure.getD true
  verify := spec.verify.getD true
  maxFailovers := spec.maxFailovers
  systemQueryRetries := spec.systemQueryRetries.getD 1
  livenessMode := spec.livenessMode.getD .active
  connectTimeout := spec.connectTimeout.getD 10

/-- An exception while a handler runs. -/
inductive HandlerFault
  /-- A referenced Secret or key could not be read. -/
  | secretResolution (message : String)
  /-- The handler is to be retried after a delay. -/
  | temporary (message : String) (delay : Time)
  | raised (exception : Raised)
  | cancelled
  deriving DecidableEq

/-- What an execution catches: any exception but a cancellation. -/
def HandlerFault.exception? : HandlerFault → Option Raised
  | .secretResolution message => some (.exception message)
  | .temporary message _ => some (.exception message)
  | .raised exception => some exception
  | .cancelled => none

/-- The credentials of a connection without a Secret. -/
def noCredentials : Credentials where
  usernameOverride := none
  password := ""

/-- The credentials in the data of a Secret; the password has to be there. -/
def credentialsOf
    (secretNamespace : String)
    (ref : AuthSecretRef)
    (data : Dict String String) : Except HandlerFault Credentials :=
  let passwordKey := ref.passwordKey.getD "password"
  match data.get? passwordKey with
  | none =>
      .error (.secretResolution ("secret " ++ secretNamespace ++ "/" ++ ref.name ++
        " has no key " ++ PyText.quoted passwordKey))
  | some password =>
      .ok
        { usernameOverride := data.get? (ref.usernameKey.getD "username")
          password := password }

/-- A connection object: the key it was registered under, what it was built
from, and whether it has completed a discovery cycle. -/
structure BuiltConnection where
  key : ResourceKey
  resource : ConnectionResource
  credentials : Credentials
  ready : Bool := false

/-- The specification that a connection was built from. -/
def BuiltConnection.spec (connection : BuiltConnection) : ClientSpec :=
  specToConnectionSpec connection.resource connection.credentials

/-- A failure that an execution recorded, and the connection it had obtained,
with whether it was ready then. -/
structure Charge where
  key : String
  errorType : ErrorType
  obtained : Option (Nat × Bool)
  deriving DecidableEq

/-- What the handlers share.  A connection object is its position among all that
were ever built. -/
structure RegistryState where
  config : SchedulerConfig
  operatorNamespace : String
  connections : Dict ResourceKey Nat := Dict.empty
  built : List BuiltConnection := []
  collector : Collector
  /-- The readings that the clock gives, one after the other. -/
  clock : Nat → ClockReading
  readings : Nat := 0
  /-- The member hosts of a connection at a reading of the clock. -/
  memberHosts : Nat → Nat → List String
  /-- History: the last lifecycle event of a resource: the task of its handler,
  and the specification it came with, none for a deletion. -/
  lastEvent : ResourceKey → Option (Nat × Option ConnectionResource) := fun _ => none
  /-- History: the Secrets read, with their data. -/
  secrets : List (String × String × Dict String String) := []
  /-- History: the connections built, each with the task that built it. -/
  registrations : List (Nat × Nat) := []
  /-- History: the tasks that failed to resolve credentials. -/
  unresolved : List Nat := []
  /-- History: the connections popped from the registry, with the task. -/
  popped : List (Nat × Nat) := []
  /-- History: the connections cleared from the registry, with the task. -/
  cleared : List (Nat × Nat) := []
  /-- History: the connections whose `close` was called, with the task. -/
  closings : List (Nat × Nat) := []
  /-- History: what the callers of `_ensure_connection` got: the key, the
  connection, and the one registered under the key at that moment. -/
  returns : List (ResourceKey × Nat × Option Nat) := []
  /-- History: the failures that executions recorded. -/
  charges : List Charge := []

/-- The part of a query resource that the scheduler passes to an execution. -/
structure ScheduledQuery extends QuerySpec where
  sql : String
  timeout : Time

/-- The handlers, the ticks of the schedulers, and the tasks they create. -/
inductive RegistryCall
  /-- A connection resource is created, or found when the operator resumes. -/
  | present (resourceNamespace : Option String) (name : String) (spec : ConnectionResource)
  | update (resourceNamespace : Option String) (name : String) (spec : ConnectionResource)
  | recheck (resourceNamespace : Option String) (name : String) (spec : ConnectionResource)
  | topology (resourceNamespace : Option String) (name : String) (spec : ConnectionResource)
  | delete (resourceNamespace : Option String) (name : String)
  | cleanup
  | closeBounded (conn : Nat)
  | registerQuery (key : String) (spec : MetricSpec) (queryType : QueryType)
  | deregisterQuery (key : String)
  | tick (key : String) (query : ScheduledQuery)
  | execute
      (key connRef : String)
      (queryType : QueryType)
      (sql : String)
      (timeout tickTs : Time)
  | doneCallback (key : String)

/-- The passes of a discovery cycle. -/
inductive DiscoveryPass
  | refresh
  | recheck
  | rediscover
  deriving DecidableEq

/-- What a handler or an execution awaits. -/
inductive RegistryRequest
  /-- The data of a Secret, for the connection of a resource. -/
  | readSecret
      (key : ResourceKey)
      (spec : ConnectionResource)
      (secretNamespace name : String)
  /-- The closing of a connection; after it the given resource, if any, gets a
  new one. -/
  | close (successor : Option (ResourceKey × ConnectionResource)) (conn : Nat)
  | discover (pass : DiscoveryPass) (conn : Nat)
  | executeSystemQuery (conn : Nat) (sql : String) (timeout : Time) (nodeLabel : String)
  | executeDataQuery (conn : Nat) (sql : String) (timeout : Time)
  deriving DecidableEq

/-- What the answer to a request carries. -/
def RegistryRequest.Answer : RegistryRequest → Type
  | .readSecret _ _ _ _ => Dict String String
  | .close _ _ => Unit
  | .discover _ _ => ConnectionStatus
  | .executeSystemQuery _ _ _ _ => SystemQueryResult
  | .executeDataQuery _ _ _ => List Row

/-- What a handler leaves: nothing, or the status to be patched. -/
inductive HandlerValue
  | nothing
  | patched (status : ConnectionStatus)

/-- One uninterrupted change of the shared state. -/
inductive RegistryEffect
  /-- History: a resource is created or resumed. -/
  | observe (task : Nat) (key : ResourceKey) (spec : ConnectionResource)
  /-- The entry of a resource is popped, because it was updated or deleted. -/
  | withdraw (task : Nat) (key : ResourceKey) (spec : Option ConnectionResource)
  /-- The registry is emptied; every connection in it is closed in a task. -/
  | clear (task : Nat)
  /-- The `close` of a connection is called. -/
  | callClose (task conn : Nat)
  /-- History: a Secret was read. -/
  | receiveSecret (secretNamespace name : String) (data : Dict String String)
  /-- History: credentials could not be resolved. -/
  | failToResolve (task : Nat)
  /-- A connection is built and registered. -/
  | construct
      (task : Nat)
      (key : ResourceKey)
      (spec : ConnectionResource)
      (credentials : Credentials)
  /-- History: a caller of `_ensure_connection` gets a connection. -/
  | give (key : ResourceKey) (conn : Nat)
  /-- A connection has completed a discovery cycle. -/
  | becomeReady (conn : Nat)
  | lookAtClock
  /-- A handler or the scheduler acts on the collector. -/
  | collect (op : HandlerOp)
  /-- The scheduler launches an execution. -/
  | launch (key : String) (query : ScheduledQuery) (tickTs : Time)
  /-- An execution reports how it ended. -/
  | report
      (key : String)
      (obtained : Option (Nat × Bool))
      (ended : ExecutionEnd)
      (tickTs now : Time)
  /-- The callbacks of an execution that is over are scheduled. -/
  | finish (key : String)

/-- The failure that an execution reports, if it failed. -/
def ExecutionEnd.errorType? : ExecutionEnd → Option ErrorType
  | .connectionGone _ => some .connectionNotReady
  | .reported (.failure errorType _ _) => some errorType
  | .reported (.success _ _ _) => none

namespace RegistryState

/-- The connection that a query refers to: the one without a namespace. -/
def getConnection (state : RegistryState) (name : String) : Option Nat :=
  state.connections.get? (resourceKey none name)

/-- A connection has completed its first discovery cycle. -/
def isReady (state : RegistryState) (conn : Nat) : Bool :=
  match state.built[conn]? with
  | some connection => connection.ready
  | none => false

/-- The connection that a query refers to is there and ready. -/
def isServing (state : RegistryState) (connRef : String) : Bool :=
  match state.getConnection connRef with
  | some conn => state.isReady conn
  | none => false

/-- The next reading of the clock. -/
def reading (state : RegistryState) : ClockReading :=
  state.clock state.readings

/-- The registered connections, in order. -/
def registered (state : RegistryState) : List Nat :=
  state.connections.values

/-- The shared state after a change. -/
def apply (effect : RegistryEffect) (state : RegistryState) : RegistryState :=
  match effect with
  | .observe task key spec =>
      { state with
        lastEvent := Function.update state.lastEvent key (some (task, some spec)) }
  | .withdraw task key spec =>
      { state with
        connections := state.connections.erase key
        popped := (state.connections.get? key).toList.map (task, ·) ++ state.popped
        lastEvent := Function.update state.lastEvent key (some (task, spec)) }
  | .clear task =>
      { state with
        connections := Dict.empty
        cleared := state.registered.map (task, ·) ++ state.cleared }
  | .callClose task conn => { state with closings := (task, conn) :: state.closings }
  | .receiveSecret secretNamespace name data =>
      { state with secrets := (secretNamespace, name, data) :: state.secrets }
  | .failToResolve task => { state with unresolved := task :: state.unresolved }
  | .construct task key spec credentials =>
      { state with
        connections := state.connections.set key state.built.length
        built := state.built ++ [{ key := key, resource := spec, credentials := credentials }]
        registrations := (task, state.built.length) :: state.registrations }
  | .give key conn =>
      { state with returns := (key, conn, state.connections.get? key) :: state.returns }
  | .becomeReady conn =>
      { state with
        built := state.built.modify conn fun connection => { connection with ready := true } }
  | .lookAtClock => { state with readings := state.readings + 1 }
  | .collect op =>
      { state with collector := (op.apply state.config.toOperatorConfig state.collector).1 }
  | .launch key _ _ => { state with collector := state.collector.incInflight key }
  | .report key obtained ended tickTs now =>
      { state with
        collector := ended.apply state.config.toOperatorConfig state.collector key tickTs now
        charges := ended.errorType?.toList.map (⟨key, ·, obtained⟩) ++ state.charges }
  | .finish _ => state

/-- The tasks that a change creates. -/
def forks : RegistryEffect → RegistryState → List RegistryCall
  | .clear _, state => state.registered.map .closeBounded
  | .launch key query tickTs, _ =>
      [.execute key query.connectionRef query.queryType query.sql query.timeout tickTs]
  | .finish key, _ => [.doneCallback key]
  | _, _ => []

/-- An operator that has just started: the registry is empty. -/
def start
    (config : SchedulerConfig)
    (operatorNamespace : String)
    (clock : Nat → ClockReading)
    (memberHosts : Nat → Nat → List String) : RegistryState where
  config := config
  operatorNamespace := operatorNamespace
  collector := startCollector config.toOperatorConfig
  clock := clock
  memberHosts := memberHosts

end RegistryState

/-- A program of the operator. -/
abbrev Handler (α : Type) : Type :=
  Coroutine RegistryState RegistryEffect RegistryRequest RegistryRequest.Answer
    HandlerFault HandlerValue α

namespace Registry

/-- Await the answer to a request. -/
abbrev ask (request : RegistryRequest) : Handler request.Answer :=
  await request

/-! ## Connections -/

/-- The credentials of a resource, from its Secret if it has one. -/
def resolveCredentials
    (key : ResourceKey)
    (spec : ConnectionResource) : Handler Credentials := do
  match spec.authSecretRef with
  | none => return noCredentials
  | some ref =>
      let secretNamespace ← gets RegistryState.operatorNamespace
      let data ← ask (.readSecret key spec secretNamespace ref.name)
      emit (.receiveSecret secretNamespace ref.name data)
      conclude (credentialsOf secretNamespace ref data)

/-- A Secret that cannot be read is tried again later. -/
def retryLater (name : String) : HandlerFault → HandlerFault
  | .secretResolution message => .temporary ("connection " ++ name ++ ": " ++ message) 30
  | fault => fault

/-- Build and register the connection of a resource. -/
def construct
    (key : ResourceKey)
    (spec : ConnectionResource)
    (credentials : Credentials) : Handler Nat := do
  let conn ← gets fun state => state.built.length
  emit (.construct (← currentTask) key spec credentials)
  return conn

/-- Return the connection that is registered under a key. -/
def give (key : ResourceKey) (conn : Nat) : Handler Nat := do
  emit (.give key conn)
  return conn

/-- Get or create the single connection of a resource.  The registry is checked
again after the credentials were awaited. -/
def ensureConnection (key : ResourceKey) (spec : ConnectionResource) : Handler Nat := do
  match ← gets fun state => state.connections.get? key with
  | some conn => give key conn
  | none =>
      match ← attempt (resolveCredentials key spec) with
      | .error fault =>
          emit (.failToResolve (← currentTask))
          raise (retryLater key.2 fault)
      | .ok credentials =>
          match ← gets fun state => state.connections.get? key with
          | some conn => give key conn
          | none =>
              let conn ← construct key spec credentials
              give key conn

/-- Run a discovery cycle of a connection; it is ready from then on. -/
def discover (pass : DiscoveryPass) (conn : Nat) : Handler HandlerValue := do
  let status ← ask (.discover pass conn)
  emit (.becomeReady conn)
  return .patched status

/-- Close a connection; afterwards the given resource, if any, gets a new one. -/
def close
    (successor : Option (ResourceKey × ConnectionResource))
    (conn : Nat) : Handler Unit := do
  emit (.callClose (← currentTask) conn)
  ask (.close successor conn)

/-- Pop the entry of a resource and close the connection. -/
def withdraw (key : ResourceKey) (spec : Option ConnectionResource) : Handler Unit := do
  let old ← gets fun state => state.connections.get? key
  emit (.withdraw (← currentTask) key spec)
  match old with
  | none => pure ()
  | some conn => close (spec.map (key, ·)) conn

def onConnectionPresent (key : ResourceKey) (spec : ConnectionResource) :
    Handler HandlerValue := do
  emit (.observe (← currentTask) key spec)
  let conn ← ensureConnection key spec
  discover .refresh conn

/-- The specification changed: drop the connection and build a new one. -/
def onConnectionUpdate (key : ResourceKey) (spec : ConnectionResource) :
    Handler HandlerValue := do
  withdraw key (some spec)
  let conn ← ensureConnection key spec
  discover .refresh conn

/-- A timer: ensure the connection and run one pass. -/
def onConnectionTimer
    (pass : DiscoveryPass)
    (key : ResourceKey)
    (spec : ConnectionResource) : Handler HandlerValue := do
  let conn ← ensureConnection key spec
  discover pass conn

def onConnectionRecheck (key : ResourceKey) (spec : ConnectionResource) :
    Handler HandlerValue :=
  onConnectionTimer .recheck key spec

def onConnectionTopology (key : ResourceKey) (spec : ConnectionResource) :
    Handler HandlerValue :=
  onConnectionTimer .rediscover key spec

def onConnectionDelete (key : ResourceKey) : Handler HandlerValue := do
  withdraw key none
  return .nothing

/-- Close a connection for some time at most; what it raises is suppressed. -/
def closeBounded (conn : Nat) : Handler HandlerValue := do
  match ← attempt (close none conn) with
  | .error .cancelled => raise .cancelled
  | _ => return .nothing

/-- Close every open connection when the operator shuts down. -/
def onOperatorCleanup : Handler HandlerValue := do
  let conns ← gets RegistryState.registered
  let task ← currentTask
  if conns.isEmpty then emit (.clear task)
  else
    let _ ← emitAndJoin (.clear task)
  return .nothing

/-! ## Queries -/

def registerQuery (key : String) (spec : MetricSpec) (queryType : QueryType) :
    Handler HandlerValue := do
  emit (.collect (.register key spec queryType))
  return .nothing

def deregisterQuery (key : String) : Handler HandlerValue := do
  emit (.collect (.unregister key))
  return .nothing

/-- Read the clock. -/
def readClock : Handler ClockReading := do
  let reading ← gets RegistryState.reading
  emit .lookAtClock
  return reading

/-- One turn of a scheduler. -/
def tick (key : String) (query : ScheduledQuery) : Handler HandlerValue := do
  match ← gets fun state => state.collector.invalidReason key with
  | some _ => return .nothing
  | none =>
      if !(← gets fun state => state.isServing query.connectionRef) then
        emit (.collect (.markWaiting key (waitingForConnection query.connectionRef)))
        return .nothing
      let limit ← gets fun state => query.limit state.config
      let inflight ← gets fun state => state.collector.inflight key
      let reading ← readClock
      if limit ≤ inflight then
        emit (.collect (.recordSkip key reading.now))
      else
        emit (.launch key query reading.monotonic)
      return .nothing

/-- The failure report of an exception; only the absence of live nodes at a
system query comes with the members of the connection, if it is still there. -/
def reportException
    (connRef : String)
    (queryType : QueryType)
    (exception : Raised) : Handler ExecutionOutcome := do
  match queryType, ← gets fun state => state.getConnection connRef with
  | .system, some conn =>
      let members ← gets fun state => state.memberHosts conn state.readings
      return reportRaised exception (some members)
  | _, _ => return reportRaised exception none

/-- Run the query on the connection; the report of the answer depends on how
long the execution took. -/
def runQuery
    (conn : Nat)
    (queryType : QueryType)
    (sql : String)
    (timeout : Time) : Handler (Time → ExecutionOutcome) := do
  match queryType with
  | .system =>
      let nodeLabel ← gets fun state => state.config.nodeLabel
      let result ← ask (.executeSystemQuery conn sql timeout nodeLabel)
      return fun duration => reportSystem (.ok result) [] duration
  | .data =>
      let rows ← ask (.executeDataQuery conn sql timeout)
      return fun duration => reportData (.ok rows) duration

/-- The execution of a query with the connection that it looks up. -/
def executeQuery
    (key connRef : String)
    (queryType : QueryType)
    (sql : String)
    (timeout tickTs : Time) : Handler Unit := do
  let start ← readClock
  match ← gets fun state => state.getConnection connRef with
  | none =>
      let finished ← readClock
      let message := "connection " ++ PyText.quoted connRef ++ " not found"
      emit (.report key none (.connectionGone message) tickTs finished.now)
  | some conn =>
      let ready ← gets fun state => state.isReady conn
      match ← attempt (runQuery conn queryType sql timeout) with
      | .ok outcome =>
          let finished ← readClock
          emit (.report key (some (conn, ready))
            (.reported (outcome (finished.monotonic - start.monotonic))) tickTs finished.now)
      | .error fault =>
          match fault.exception? with
          | none => raise fault
          | some exception =>
              let outcome ← reportException connRef queryType exception
              let finished ← readClock
              emit (.report key (some (conn, ready)) (.reported outcome) tickTs finished.now)

/-- An execution; however it ends, its callbacks run afterwards. -/
def execute
    (key connRef : String)
    (queryType : QueryType)
    (sql : String)
    (timeout tickTs : Time) : Handler HandlerValue := do
  let outcome ← attempt (executeQuery key connRef queryType sql timeout tickTs)
  emit (.finish key)
  let _ ← conclude outcome
  return .nothing

/-- The callback of an execution that is over. -/
def doneCallback (key : String) : Handler HandlerValue := do
  emit (.collect (.decInflight key))
  return .nothing

end Registry

namespace RegistryCall

/-- The program of a call. -/
def body : RegistryCall → Handler HandlerValue
  | .present resourceNamespace name spec =>
      Registry.onConnectionPresent (resourceKey resourceNamespace name) spec
  | .update resourceNamespace name spec =>
      Registry.onConnectionUpdate (resourceKey resourceNamespace name) spec
  | .recheck resourceNamespace name spec =>
      Registry.onConnectionRecheck (resourceKey resourceNamespace name) spec
  | .topology resourceNamespace name spec =>
      Registry.onConnectionTopology (resourceKey resourceNamespace name) spec
  | .delete resourceNamespace name =>
      Registry.onConnectionDelete (resourceKey resourceNamespace name)
  | .cleanup => Registry.onOperatorCleanup
  | .closeBounded conn => Registry.closeBounded conn
  | .registerQuery key spec queryType => Registry.registerQuery key spec queryType
  | .deregisterQuery key => Registry.deregisterQuery key
  | .tick key query => Registry.tick key query
  | .execute key connRef queryType sql timeout tickTs =>
      Registry.execute key connRef queryType sql timeout tickTs
  | .doneCallback key => Registry.doneCallback key

/-- The calls that come from outside: the handlers and the ticks of the
schedulers. -/
def isHandler : RegistryCall → Bool
  | .closeBounded _ => false
  | .execute _ _ _ _ _ _ => false
  | .doneCallback _ => false
  | _ => true

end RegistryCall

/-- The event loop of the operator; Secrets and connections answer or raise as
they like. -/
def registryLoop :
    Machine RegistryState RegistryEffect RegistryRequest RegistryRequest.Answer
      RegistryCall HandlerFault HandlerValue where
  apply := RegistryState.apply
  forks := RegistryState.forks
  body := RegistryCall.body
  admits _ _ _ _ := true

/-- The operator with its tasks. -/
abbrev RegistrySystem : Type :=
  System RegistryState RegistryEffect RegistryRequest RegistryRequest.Answer
    RegistryCall HandlerFault HandlerValue

/-- What the environment of the operator does next. -/
abbrev RegistryAction : Type :=
  Action RegistryRequest RegistryRequest.Answer RegistryCall HandlerFault

/-- An operator that has just started. -/
def RegistrySystem.start
    (config : SchedulerConfig)
    (operatorNamespace : String)
    (clock : Nat → ClockReading)
    (memberHosts : Nat → Nat → List String) : RegistrySystem :=
  System.idle (RegistryState.start config operatorNamespace clock memberHosts)

/-- An operator that has just started reaches what a run computes. -/
theorem RegistrySystem.exists_reached
    (condition : RegistrySystem → RegistryAction → Bool)
    (actions : List RegistryAction)
    (property : RegistrySystem → Bool)
    (ran : (registryLoop.run (fun before action => condition before action)
      (RegistrySystem.start defaultSchedulerConfig "operator"
        (fun reading => ⟨reading, reading⟩) fun _ _ => []) actions).any property = true) :
    ∃ system, registryLoop.Reaches (fun before action => condition before action)
      (RegistrySystem.start defaultSchedulerConfig "operator"
        (fun reading => ⟨reading, reading⟩) fun _ _ => []) system ∧ property system = true :=
  Machine.exists_reaches_of_run actions property ran

end Promch
