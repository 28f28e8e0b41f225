import Promch.Clickhouse.PoolMembership
import Promch.Library.LockOrder

/-!
# Progress of a connection

A discovery cycle holds the discovery lock of the connection while it, and the pings
that it waits for, take the client locks of the nodes.  No program takes them the
other way round, so the tasks of a connection never block each other for good, and
when all of them are over every lock is free again.
-/

namespace Promch

open EventLoop EventLoop.Coroutine EventLoop.LockOrder

/-- The locks of a connection. -/
inductive ConnectionLock
  | discovery
  | client (n : Nat)
  deriving DecidableEq

namespace ConnectionLock

/-- The discovery lock is taken before any client lock. -/
def rank : ConnectionLock → Nat
  | .discovery => 0
  | .client _ => 1

/-- The lock in the shared state. -/
def lockOf (lock : ConnectionLock) (state : ConnectionState) : AsyncLock :=
  match lock with
  | .discovery => state.discoveryLock
  | .client n => (state.objects n).clientLock

/-- The discovery lock is always there; a client lock comes with its node. -/
def IsThere (lock : ConnectionLock) (state : ConnectionState) : Prop :=
  match lock with
  | .discovery => True
  | .client n => n < state.count

end ConnectionLock

/-- The operation on a lock that an effect is. -/
def ConnectionEffect.lockOp? : ConnectionEffect → Option (ConnectionLock × LockOp)
  | .discoveryLock op => some (.discovery, op)
  | .node n (.lock op) => some (.client n, op)
  | _ => none

/-- An effect that creates tasks. -/
def ConnectionEffect.isFork : ConnectionEffect → Bool
  | .fork _ => true
  | _ => false

/-- The lock on which a request awaits the turn of the task. -/
def ConnectionRequest.turnOf : ConnectionRequest → Option ConnectionLock
  | .clientTurn n => some (.client n)
  | .discoveryTurn _ => some .discovery
  | _ => none

/-- Nothing has to come of this request. -/
def ConnectionRequest.isIdle : ConnectionRequest → Bool
  | .never => true
  | _ => false

namespace ConnectionCall

/-- The rank from which on a call takes locks. -/
def floor : ConnectionCall → Nat
  | .refresh => 0
  | .recheck => 0
  | .rediscover => 0
  | .close => 0
  | _ => 1

theorem floor_le_one (call : ConnectionCall) : call.floor ≤ 1 := by
  cases call <;> simp [floor]

/-- Only a data query may run out of the attempts that are followed. -/
def isReliable : ConnectionCall → Bool
  | .executeDataQuery _ _ _ => false
  | _ => true

end ConnectionCall

namespace ConnectionEffect

variable {effect : ConnectionEffect} {lock : ConnectionLock} {operation : LockOp}

/-- The effects that are operations on a lock. -/
theorem lockOp?_cases (performs : effect.lockOp? = some (lock, operation)) :
    (lock = .discovery ∧ effect = .discoveryLock operation) ∨
      ∃ n, lock = .client n ∧ effect = .node n (.lock operation) := by
  cases effect with
  | discoveryLock op =>
      cases performs
      exact .inl ⟨rfl, rfl⟩
  | node n change =>
      cases change with
      | lock op =>
          cases performs
          exact .inr ⟨n, rfl, rfl⟩
      | _ => cases performs
  | _ => cases performs

end ConnectionEffect

namespace ConnectionState

variable {state : ConnectionState} {effect : ConnectionEffect} {n : Nat}

/-- An effect that is no operation on a lock leaves the client locks alone. -/
theorem clientLock_apply
    (foreign : effect.lockOp? = none)
    (built : n < state.count) :
    ((state.apply effect).objects n).clientLock = (state.objects n).clientLock := by
  obtain ⟨change, rfl, changed⟩ | kept | ⟨host, member, _, _, flagged⟩ | ⟨host, _, rfl, _⟩ :=
    objects_apply_cases state effect n
  · rw [changed]
    cases change with
    | lock op => cases foreign
    | discard own => simp only [NodeObject.apply, NodeObject.discard]; split <;> rfl
    | callClose closer => simp only [NodeObject.apply, NodeObject.callClose]; split <;> rfl
    | _ => rfl
  · rw [kept]
  · rw [flagged]
    rfl
  · exact absurd built (Nat.lt_irrefl _)

/-- A node object comes with a free client lock. -/
theorem clientLock_fresh
    (absent : ¬n < state.count)
    (built : n < (state.apply effect).count) :
    ((state.apply effect).objects n).clientLock = {} := by
  cases effect with
  | welcome host =>
      have same : n = state.count :=
        Nat.le_antisymm (Nat.le_of_lt_succ built) (Nat.le_of_not_lt absent)
      subst same
      have fresh : (state.apply (.welcome host)).objects state.count =
          (NodeObject.create host state.count state.reading).flag true :=
        Function.update_self ..
      rw [fresh]
      rfl
  | confirm host member => exact absurd (built.trans_eq (count_confirm host member)) absent
  | _ => exact absurd built absent

/-- Nobody holds or awaits the discovery lock of a fresh connection. -/
theorem discoveryLock_create
    (spec : PoolSpec)
    (clock : Nat → ClockReading)
    (picks : Nat → Nat) :
    (create spec clock picks).discoveryLock = {} := by
  refine List.foldlRecOn spec.seedHosts trackSeed
    (motive := fun state => state.discoveryLock = {}) ?_ ?_
  · rfl
  · intro state free host _
    unfold trackSeed
    split <;> exact free

end ConnectionState

/-- The locks of a connection are taken in order. -/
def connectionLocks : LockOrder tenancyPolicy.contract ConnectionLock where
  lockOf := ConnectionLock.lockOf
  lockOp? := ConnectionEffect.lockOp?
  turnOf := ConnectionRequest.turnOf
  rank := ConnectionLock.rank
  floor := ConnectionCall.floor
  isReliable := ConnectionCall.isReliable
  isIdle := ConnectionRequest.isIdle
  isFork := ConnectionEffect.isFork
  IsThere := ConnectionLock.IsThere
  isIdle_of_turn {request lock} turn := by
    cases request <;> first | rfl | cases turn
  forks_eq_nil effect state single := by
    cases effect <;> first | rfl | cases single
  isFork_of_lockOp {effect operation} performs := by
    cases effect <;> first | rfl | cases performs
  lock_apply {effect lock operation} other state performs := by
    obtain ⟨rfl, rfl⟩ | ⟨n, rfl, rfl⟩ := ConnectionEffect.lockOp?_cases performs
    · cases other with
      | discovery => rfl
      | client m => rw [if_neg nofun]; rfl
    · cases other with
      | discovery => rw [if_neg nofun]; rfl
      | client m =>
          by_cases same : m = n
          · subst same
            rw [if_pos rfl]
            exact congrArg NodeObject.clientLock (state.objects_apply_node m (.lock operation))
          · rw [if_neg fun equal => same (ConnectionLock.client.inj equal)]
            exact congrArg NodeObject.clientLock (Function.update_of_ne same ..)
  isThere_of_lockOp {task effect lock operation state} permitted performs := by
    obtain ⟨rfl, rfl⟩ | ⟨n, rfl, rfl⟩ := ConnectionEffect.lockOp?_cases performs
    · trivial
    · exact permitted.1.1
  isThere_apply {lock state} effect there := by
    cases lock with
    | discovery => trivial
    | client n => exact Nat.lt_of_lt_of_le there ConnectionState.count_le_apply
  isThere_of_apply {effect operation lock state} performs there := by
    cases lock with
    | discovery => trivial
    | client n =>
        cases effect with
        | discoveryLock op | node m change => exact there
        | _ => cases performs
  lock_kept {effect lock state} foreign there := by
    cases lock with
    | discovery =>
        cases effect with
        | discoveryLock op => cases foreign
        | confirm host member => exact ConnectionState.discoveryLock_confirm host member
        | _ => rfl
    | client n => exact ConnectionState.clientLock_apply foreign there
  lock_fresh {effect lock state} absent there := by
    cases lock with
    | discovery => exact absurd trivial absent
    | client n => exact ConnectionState.clientLock_fresh absent there

/-! ## One node -/

section Node

variable {task n : Nat} {mode : LockMode ConnectionLock}

/-- A request that somebody answers, other than the turn of a lock. -/
private theorem balanced_ask
    {request : ConnectionRequest}
    (away : mode.stage = .away)
    (foreign : request.turnOf = none)
    (answered : request.isIdle = false) :
    connectionLocks.Balanced task mode (ask request) :=
  balanced_await away foreign fun idle => absurd (answered.symm.trans idle) Bool.false_ne_true

private theorem balanced_currentClient : connectionLocks.Balanced task mode (currentClient n) := by
  refine (balanced_gets _).bind ?_
  intro current
  cases current with
  | none => exact balanced_raise _
  | some client => exact balanced_pure _

private theorem balanced_connectIfNone (away : mode.stage = .away) :
    connectionLocks.Balanced task mode (connectIfNone n) := by
  refine (balanced_gets _).bind ?_
  intro current
  split
  · refine (balanced_ask away rfl rfl).attempt.bind ?_
    intro answer
    cases answer with
    | ok value => exact balanced_emit away rfl rfl
    | error fault =>
        simp only
        split
        · refine (balanced_emit away rfl rfl).bind ?_
          intro _
          exact (balanced_gets _).bind fun _ => balanced_raise _
        · exact balanced_raise _
  · exact balanced_pure _

private theorem balanced_ensureClient
    (away : mode.stage = .away)
    (low : connectionLocks.level mode ≤ 1) :
    connectionLocks.Balanced task mode (ensureClient n) := by
  refine (balanced_gets _).bind ?_
  intro current
  have locked : connectionLocks.Balanced task mode (withClientLock n (connectIfNone n)) :=
    balanced_withLock away (fun _ => rfl) rfl low (balanced_connectIfNone away)
  split
  · exact locked.bind fun _ => balanced_currentClient
  · exact balanced_currentClient

private theorem balanced_dropClient
    (own : Option Nat)
    (away : mode.stage = .away) :
    connectionLocks.Balanced task mode (dropClient n own) := by
  refine (balanced_gets _).bind ?_
  intro current
  cases current with
  | none => exact balanced_pure _
  | some client =>
      refine (balanced_emit away rfl rfl).bind ?_
      intro _
      refine (balanced_ask away rfl rfl).attempt.bind ?_
      intro outcome
      cases outcome with
      | ok answer => exact balanced_pure _
      | error fault =>
          simp only
          split
          · exact balanced_pure _
          · exact balanced_raise _

private theorem balanced_query
    (sql : String)
    (timeout : Time)
    (away : mode.stage = .away)
    (low : connectionLocks.level mode ≤ 1) :
    connectionLocks.Balanced task mode (query n sql timeout) := by
  refine (balanced_ensureClient away low).bind ?_
  intro client
  have asked : connectionLocks.Balanced task mode (clientQuery n client sql timeout) := by
    refine balanced_currentTask.bind ?_
    intro sender
    refine (balanced_emit away rfl rfl).bind ?_
    intro _
    refine (balanced_ask away rfl rfl).attempt.bind ?_
    intro answer
    exact (balanced_emit away rfl rfl).bind fun _ => balanced_conclude answer
  refine asked.attempt.bind ?_
  intro outcome
  cases outcome with
  | ok result => exact (balanced_emit away rfl rfl).bind fun _ => balanced_pure _
  | error fault =>
      cases fault with
      | driver error =>
          simp only
          split
          · refine (balanced_emit away rfl rfl).bind ?_
            intro _
            refine (balanced_dropClient (some client) away).bind ?_
            intro _
            exact (balanced_gets _).bind fun _ => balanced_raise _
          · split
            · exact (balanced_gets _).bind fun _ => balanced_raise _
            · exact balanced_raise _
      | raised exception | cancelled => exact balanced_raise _

private theorem balanced_ping
    (away : mode.stage = .away)
    (low : connectionLocks.level mode ≤ 1) :
    connectionLocks.Balanced task mode (ping n) := by
  have failed : ∀ (fault : Fault) (own : Option Nat),
      connectionLocks.Balanced task mode
        (if fault.isUnreachable then do
          emit (.node n (.markDown fault.message))
          dropClient n own
          return false
        else raise fault : Async Bool) := by
    intro fault own
    split
    · refine (balanced_emit away rfl rfl).bind ?_
      intro _
      exact (balanced_dropClient own away).bind fun _ => balanced_pure _
    · exact balanced_raise _
  refine (balanced_ensureClient away low).attempt.bind ?_
  intro connected
  cases connected with
  | error fault => exact failed fault none
  | ok client =>
      refine (balanced_ask away rfl rfl).attempt.bind ?_
      intro outcome
      cases outcome with
      | error fault => exact failed fault (some client)
      | ok alive => exact (balanced_emit away rfl rfl).bind fun _ => balanced_pure _

private theorem balanced_closeNode
    (closer : Closer)
    (away : mode.stage = .away) :
    connectionLocks.Balanced task mode (closeNode closer n) := by
  refine (balanced_gets _).bind ?_
  intro current
  cases current with
  | none => exact balanced_pure _
  | some client =>
      refine (balanced_emit away rfl rfl).bind ?_
      intro _
      refine (balanced_ask away rfl rfl).bind ?_
      intro _
      exact balanced_emit away rfl rfl

private theorem balanced_runOnNode
    (sql : String)
    (timeout : Time)
    (away : mode.stage = .away)
    (low : connectionLocks.level mode ≤ 1) :
    connectionLocks.Balanced task mode (runOnNode n sql timeout) := by
  refine (balanced_query sql timeout away low).attempt.bind ?_
  intro outcome
  split
  · exact balanced_pure _
  · exact balanced_pure _
  · exact balanced_raise _

end Node

/-! ## The pool -/

section Pool

variable {task : Nat} {mode : LockMode ConnectionLock}

/-- Calls on single nodes can be waited for under the discovery lock. -/
private theorem balanced_gather
    {calls : List ConnectionCall}
    (away : mode.stage = .away)
    (low : connectionLocks.level mode ≤ 1)
    (single : ∀ call ∈ calls, call.floor = 1 ∧ call.isReliable = true) :
    connectionLocks.Balanced task mode (gather calls) := by
  unfold gather
  split
  · exact balanced_pure _
  · refine balanced_emitAndJoin away rfl rfl ?_
    intro _ call member
    obtain ⟨floor, reliable⟩ := single call member
    exact ⟨Nat.le_trans low floor.ge, reliable⟩

private theorem balanced_evictIdle
    (nodes : List Nat)
    (away : mode.stage = .away) :
    connectionLocks.Balanced task mode (evictIdle nodes) := by
  induction nodes with
  | nil => exact balanced_pure _
  | cons n rest inductionHypothesis =>
      refine (balanced_gets _).bind ?_
      intro node
      split
      · refine (balanced_gets _).bind ?_
        intro clock
        refine (balanced_gets _).bind ?_
        intro ttl
        refine (balanced_emit away rfl rfl).bind ?_
        intro _
        split
        · refine balanced_currentTask.bind ?_
          intro examiner
          refine (balanced_emit away rfl rfl).bind ?_
          intro _
          exact (balanced_closeNode .evict away).bind fun _ => inductionHypothesis
        · exact inductionHypothesis
      · exact inductionHypothesis

private theorem balanced_recheckDead
    (away : mode.stage = .away)
    (low : connectionLocks.level mode ≤ 1) :
    connectionLocks.Balanced task mode recheckDead := by
  refine (balanced_gets _).bind ?_
  intro nodes
  refine balanced_currentTask.bind ?_
  intro examiner
  refine (balanced_emit away rfl rfl).bind ?_
  intro _
  refine (balanced_gets _).bind ?_
  intro dead
  refine (balanced_gather away low ?_).bind fun _ => balanced_evictIdle nodes away
  simp [ConnectionCall.floor, ConnectionCall.isReliable]

private theorem balanced_checkAll
    (away : mode.stage = .away)
    (low : connectionLocks.level mode ≤ 1) :
    connectionLocks.Balanced task mode checkAll := by
  refine (balanced_gets _).bind ?_
  intro nodes
  refine (balanced_gather away low ?_).bind fun _ => balanced_pure _
  simp [ConnectionCall.floor, ConnectionCall.isReliable]

private theorem balanced_healthTick
    (away : mode.stage = .away)
    (low : connectionLocks.level mode ≤ 1) :
    connectionLocks.Balanced task mode healthTick := by
  refine (balanced_gets _).bind ?_
  intro liveness
  cases liveness with
  | passive => exact balanced_recheckDead away low
  | active => exact balanced_checkAll away low

private theorem balanced_pickOneLive
    (exclude : List String)
    (away : mode.stage = .away) :
    connectionLocks.Balanced task mode (pickOneLive exclude) := by
  refine (balanced_gets _).bind ?_
  intro candidates
  split
  · exact balanced_pure _
  · refine (balanced_gets _).bind ?_
    intro choice
    exact (balanced_emit away rfl rfl).bind fun _ => balanced_pure _

private theorem balanced_welcomeAll
    (hosts : List String)
    (away : mode.stage = .away)
    (low : connectionLocks.level mode ≤ 1) :
    connectionLocks.Balanced task mode (welcomeAll hosts) := by
  induction hosts with
  | nil => exact balanced_pure _
  | cons host rest inductionHypothesis =>
      refine (balanced_gets _).bind ?_
      intro n
      refine (balanced_emit away rfl rfl).bind ?_
      intro _
      exact (balanced_ping away low).bind fun _ => inductionHypothesis

private theorem balanced_reconcile
    (members hosts : List String)
    (away : mode.stage = .away) :
    connectionLocks.Balanced task mode (reconcile members hosts) := by
  induction hosts with
  | nil => exact balanced_pure _
  | cons host rest inductionHypothesis =>
      refine (balanced_gets _).bind ?_
      intro tracked
      cases tracked with
      | none => exact balanced_raise _
      | some n =>
          simp only
          split
          · exact (balanced_emit away rfl rfl).bind fun _ => inductionHypothesis
          · refine (balanced_gets _).bind ?_
            intro seeds
            split
            · exact (balanced_emit away rfl rfl).bind fun _ => inductionHypothesis
            · refine (balanced_closeNode .depart away).bind ?_
              intro _
              exact (balanced_emit away rfl rfl).bind fun _ => inductionHypothesis

private theorem balanced_refreshTopology
    (away : mode.stage = .away)
    (low : connectionLocks.level mode ≤ 1) :
    connectionLocks.Balanced task mode refreshTopology := by
  have updated : ∀ members,
      connectionLocks.Balanced task mode (updateMembers members) := by
    intro members
    refine (balanced_gets _).bind ?_
    intro unknown
    refine (balanced_gets _).bind ?_
    intro order
    refine (balanced_emit away rfl rfl).bind ?_
    intro _
    refine (balanced_welcomeAll _ away low).bind ?_
    intro _
    refine (balanced_gets _).bind ?_
    intro hosts
    exact (balanced_reconcile members hosts away).bind fun _ => balanced_emit away rfl rfl
  refine (balanced_pickOneLive [] away).bind ?_
  intro seed
  cases seed with
  | none => exact balanced_pure _
  | some seed =>
      refine (balanced_query discoverySql 10 away low).attempt.bind ?_
      intro answer
      split
      · exact balanced_pure _
      · exact balanced_pure _
      · exact balanced_raise _
      · refine (balanced_gets _).bind ?_
        intro clusterName
        exact (balanced_conclude _).bind updated

end Pool

/-! ## The connection facade -/

section Facade

variable {task : Nat} {mode : LockMode ConnectionLock}

private theorem balanced_failOver
    (sql : String)
    (timeout : Time)
    (fuel : Nat)
    (tried : List String)
    (attempts : Nat)
    (lastError : Option Fault)
    (away : mode.stage = .away)
    (low : connectionLocks.level mode ≤ 1)
    (aside : mode.held = [] ∧ mode.isReliable = false) :
    connectionLocks.Balanced task mode
      (failOver sql timeout fuel tried attempts lastError) := by
  induction fuel generalizing tried attempts lastError with
  | zero => exact (balanced_await away rfl fun _ => aside).bind fun _ => balanced_pure _
  | succ fuel inductionHypothesis =>
      refine (balanced_pickOneLive tried away).bind ?_
      intro picked
      cases picked with
      | none => exact (balanced_gets _).bind fun _ => balanced_raise _
      | some n =>
          refine (balanced_query sql timeout away low).attempt.bind ?_
          intro outcome
          split
          · exact balanced_pure _
          · refine (balanced_gets _).bind ?_
            intro host
            refine (balanced_gets _).bind ?_
            intro budget
            split
            · exact balanced_raise _
            · exact inductionHypothesis _ _ _
          · exact balanced_raise _

private theorem balanced_executeSystemQuery
    (sql : String)
    (timeout : Time)
    (nodeLabel : String)
    (away : mode.stage = .away)
    (low : connectionLocks.level mode ≤ 1) :
    connectionLocks.Balanced task mode (executeSystemQuery sql timeout nodeLabel) := by
  refine (balanced_gets _).bind ?_
  intro nodes
  split
  · exact (balanced_gets _).bind fun _ => balanced_raise _
  · refine (balanced_gather away low ?_).bind ?_
    · simp [ConnectionCall.floor, ConnectionCall.isReliable]
    intro results
    refine (balanced_gets _).bind ?_
    intro answers
    split
    · exact balanced_raise _
    · exact (balanced_gets _).bind fun _ => balanced_pure _

private theorem balanced_sweep
    (nodes : List Nat)
    (away : mode.stage = .away) :
    connectionLocks.Balanced task mode (sweep nodes) := by
  induction nodes with
  | nil => exact balanced_pure _
  | cons n rest inductionHypothesis =>
      refine (balanced_closeNode .sweep away).bind ?_
      intro _
      exact (balanced_emit away rfl rfl).bind fun _ => inductionHypothesis

/-- A pass under the discovery lock may take client locks. -/
private theorem balanced_withDiscoveryLock
    {closing : Bool}
    {program : Async α}
    (away : mode.stage = .away)
    (first : connectionLocks.level mode = 0)
    (balanced : ∀ under : LockMode ConnectionLock, under.stage = .away →
      connectionLocks.level under ≤ 1 → connectionLocks.Balanced task under program) :
    connectionLocks.Balanced task mode (withDiscoveryLock closing program) :=
  balanced_withLock away (fun _ => rfl) rfl first.le (balanced _ away (Nat.le_refl _))

private theorem balanced_discoveryCycle
    {pass : Async Unit}
    (away : mode.stage = .away)
    (first : connectionLocks.level mode = 0)
    (balanced : ∀ under : LockMode ConnectionLock, under.stage = .away →
      connectionLocks.level under ≤ 1 → connectionLocks.Balanced task under pass) :
    connectionLocks.Balanced task mode (discoveryCycle pass) := by
  refine balanced_withDiscoveryLock away first fun under away low => ?_
  refine (balanced under away low).bind ?_
  intro _
  exact (balanced_emit away rfl rfl).bind fun _ => balanced_gets _

private theorem balanced_closeConnection
    (away : mode.stage = .away)
    (first : connectionLocks.level mode = 0) :
    connectionLocks.Balanced task mode closeConnection := by
  have closes : connectionLocks.Balanced task mode (withDiscoveryLock true closeTracked) := by
    refine balanced_withDiscoveryLock away first fun under away _ => ?_
    refine (balanced_gets _).bind ?_
    intro nodes
    exact (balanced_emit away rfl rfl).bind fun _ => balanced_sweep nodes away
  refine closes.attempt.bind ?_
  intro outcome
  exact (balanced_emit away rfl rfl).bind fun _ => balanced_conclude outcome

/-- Every call takes the locks in order and gives all of them back. -/
theorem balanced_body (call : ConnectionCall) :
    connectionLocks.Balanced task (connectionLocks.initial call) call.body := by
  have low : connectionLocks.level (connectionLocks.initial call) ≤ 1 := call.floor_le_one
  cases call with
  | query n sql timeout =>
      exact (balanced_query sql timeout rfl low).bind fun _ => balanced_pure _
  | ping n => exact (balanced_ping rfl low).bind fun _ => balanced_pure _
  | closeNode n => exact (balanced_closeNode .call rfl).bind fun _ => balanced_pure _
  | runOnNode n sql timeout =>
      exact (balanced_runOnNode sql timeout rfl low).bind fun _ => balanced_pure _
  | recheckDead => exact (balanced_recheckDead rfl low).bind fun _ => balanced_pure _
  | checkAll => exact (balanced_checkAll rfl low).bind fun _ => balanced_pure _
  | healthTick => exact (balanced_healthTick rfl low).bind fun _ => balanced_pure _
  | refresh =>
      refine (balanced_discoveryCycle rfl rfl fun under away low => ?_).bind fun _ =>
        balanced_pure _
      exact (balanced_healthTick away low).bind fun _ => balanced_refreshTopology away low
  | recheck =>
      exact (balanced_discoveryCycle rfl rfl fun _ => balanced_healthTick).bind fun _ =>
        balanced_pure _
  | rediscover =>
      exact (balanced_discoveryCycle rfl rfl fun _ => balanced_refreshTopology).bind fun _ =>
        balanced_pure _
  | executeDataQuery sql timeout attempts =>
      exact (balanced_failOver sql timeout attempts [] 0 none rfl low
        ⟨rfl, rfl⟩).bind fun _ => balanced_pure _
  | executeSystemQuery sql timeout nodeLabel =>
      exact (balanced_executeSystemQuery sql timeout nodeLabel rfl low).bind fun _ =>
        balanced_pure _
  | close => exact (balanced_closeConnection rfl rfl).bind fun _ => balanced_pure _

theorem keeping_connectionLocks : connectionLocks.protocol.KeepingBodies := by
  intro task call
  apply Protocol.Keeps.mono (balanced_body call)
  rintro _ later rfl
  exact ⟨rfl, rfl⟩

end Facade

/-! ## Runs -/

section Runs

variable {spec : PoolSpec} {clock : Nat → ClockReading} {picks : Nat → Nat}
variable {system : ConnectionSystem}

/-- In every run the tasks and the locks of the connection agree. -/
theorem lockModes_of_reaches
    (reaches : connectionLoop.Reaches (fun before action => addressesNodes before action)
      (ConnectionSystem.fresh spec clock picks) system) :
    ∃ modes, connectionLocks.protocol.Describes modes system := by
  have nothing : connectionLocks.Agrees (ConnectionState.create spec clock picks) [] := by
    apply agrees_nil
    intro lock _
    cases lock with
    | discovery => exact ConnectionState.discoveryLock_create spec clock picks
    | client n =>
        obtain ⟨host, ident, reading, created⟩ :=
          ConnectionState.objects_create spec clock picks n
        exact congrArg NodeObject.clientLock created
  exact Protocol.describes_of_reaches tenancyPolicy.safeBodies keeping_connectionLocks
    (Protocol.describes_idle nothing) (tenancy_sound .refl)
    (fun _ _ => Policy.permits_of_carefree rfl) reaches

/-- The tasks of a connection never block each other for good: from a task that has
not ended, those who wait for each other lead to a task that can go on without a new
call, an error or a cancellation. -/
theorem canGoOn_of_reaches
    {task : Nat}
    {entry : EventLoop.Task ConnectionState ConnectionEffect ConnectionRequest
      ConnectionRequest.Answer ConnectionCall Fault ConnectionValue}
    (reaches : connectionLoop.Reaches (fun before action => addressesNodes before action)
      (ConnectionSystem.fresh spec clock picks) system)
    (found : system.tasks[task]? = some entry)
    (unfinished : entry.status.outcome? = none)
    (followed : entry.status.request? ≠ some .never) :
    ∃ last, Relation.ReflTransGen (connectionLocks.WaitsFor system) task last ∧
      connectionLoop.CanGoOn system last := by
  obtain ⟨modes, describes⟩ := lockModes_of_reaches reaches
  obtain ⟨mode, here, _⟩ := describes.exists_mode found
  have bounded : ∀ lock, connectionLocks.rank lock < 2 := by
    intro lock
    cases lock with
    | discovery => exact Nat.zero_lt_two
    | client n => exact Nat.one_lt_two
  apply canGoOn_of_underWay bounded _ _ describes task mode entry found here
  · refine ⟨unfinished, fun request same => ?_⟩
    cases request with
    | never => exact absurd same followed
    | _ => rfl
  · intro asker request state foreign answered
    cases request with
    | clientTurn n | discoveryTurn closing => cases foreign
    | never => cases answered
    | query n client sql limit => exact ⟨⟨[], []⟩, rfl⟩
    | ping n client => exact ⟨true, rfl⟩
    | factory n | close closer n client => exact ⟨(), rfl⟩
  · intro asker request lock state turn granted
    cases request with
    | clientTurn n | discoveryTurn closing =>
        cases turn
        exact ⟨(), granted⟩
    | _ => cases turn

theorem canGoOn_during_refresh :
    ∃ system : ConnectionSystem,
      system.state.discoveryLock = { holder := some 0, waiters := [2] } ∧
        ∃ last, Relation.ReflTransGen (connectionLocks.WaitsFor system) 2 last ∧
          connectionLoop.CanGoOn system last := by
  obtain ⟨system, reaches, property⟩ := ConnectionSystem.exists_reached addressesNodes
    { seedHosts := ["a"], clusterName := "c" } (fun reading => ⟨reading, reading⟩) (fun _ => 0)
    [.start .refresh, .begin 0, .begin 1, .start .refresh, .begin 2]
    (fun system => system.state.discoveryLock = { holder := some 0, waiters := [2] } ∧
      system.tasks[2]?.any fun entry => entry.status.request? = some (.discoveryTurn false))
    (by decide +kernel)
  obtain ⟨lock, waits⟩ := of_decide_eq_true property
  obtain ⟨entry, found, asks⟩ := (Option.any_eq_true _ _).mp waits
  have asks : entry.status.request? = some (.discoveryTurn false) := of_decide_eq_true asks
  refine ⟨system, lock, canGoOn_of_reaches reaches found ?_ ?_⟩
  · generalize entry.status = status at asks
    cases status with
    | awaiting request next => rfl
    | _ => cases asks
  · rw [asks]
    simp

/-- Once all tasks of a connection are over, the discovery lock and every client
lock are free, whatever failed or was cancelled on the way. -/
theorem locks_free_of_finished
    (reaches : connectionLoop.Reaches (fun before action => addressesNodes before action)
      (ConnectionSystem.fresh spec clock picks) system)
    (finished : system.Finished) :
    system.state.discoveryLock = {} ∧
      ∀ n < system.state.count, (system.state.objects n).clientLock = {} := by
  obtain ⟨modes, describes⟩ := lockModes_of_reaches reaches
  have free : ∀ lock : ConnectionLock, lock.IsThere system.state →
      lock.lockOf system.state = {} := fun lock there =>
    free_of_finished describes finished there
  exact ⟨free .discovery trivial, fun n built => free (.client n) built⟩

theorem locks_free_after_cancellation :
    ∃ system : ConnectionSystem,
      (system.tasks.map fun entry => entry.call) = [.refresh, .ping 0, .refresh] ∧
        system.state.discoveryLock = {} ∧
          ∀ n < system.state.count, (system.state.objects n).clientLock = {} := by
  obtain ⟨system, reaches, property⟩ := ConnectionSystem.exists_reached addressesNodes
    { seedHosts := ["a"], clusterName := "c" } (fun reading => ⟨reading, reading⟩) (fun _ => 0)
    [.start .refresh, .begin 0, .begin 1, .start .refresh, .begin 2,
      .answer 1 (.factory 0) (.error .cancelled), .join 0 (some 1),
      .answer 2 (.discoveryTurn false) (.error .cancelled)]
    (fun system => system.Finished ∧
      (system.tasks.map fun entry => entry.call) = [.refresh, .ping 0, .refresh])
    (by decide +kernel)
  obtain ⟨finished, calls⟩ := of_decide_eq_true property
  exact ⟨system, calls, locks_free_of_finished reaches finished⟩

end Runs

end Promch
