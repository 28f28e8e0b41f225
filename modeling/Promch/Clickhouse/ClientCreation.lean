import Promch.Clickhouse.PoolMembership
import Promch.Clickhouse.ClientCalls

/-!
# The creation of clients

Any number of tasks may call for the client of a node at the same time, while
others drop and close its clients.  A client is made under the client lock, by one
of them, and only when there is none.
-/

namespace Promch

open EventLoop EventLoop.Coroutine

/-! ## The queue of a client lock -/

/-- Whoever queues up for the client lock of a node awaits its turn. -/
theorem queueing_clientLock (n : Nat) :
    Queueing connectionLoop clientCalls (fun state => (state.objects n).clientLock)
      (fun op => .node n (.lock op)) (.clientTurn n) where
  follows task call := follows_body call
  lock_apply operation state :=
    congrArg NodeObject.clientLock (state.objects_apply_node n (.lock operation))
  shrinks effect state foreign := by
    change (((state.apply effect).objects n).clientLock.waiters).Sublist _
    obtain ⟨change, rfl, after⟩ | after | ⟨_, _, _, _, after⟩ | ⟨_, _, _, after⟩ :=
      state.objects_apply_cases effect n
    · rw [after]
      cases change with
      | lock op =>
          cases op with
          | enqueue waiter => exact absurd rfl (foreign waiter)
          | wake waiter | leave waiter => exact List.erase_sublist
          | take taker | release => exact .refl _
      | discard own | callClose closer =>
          simp only [NodeObject.apply, NodeObject.discard, NodeObject.callClose]
          split <;> exact .refl _
      | _ => exact .refl _
    · rw [after]
    · rw [after]
      exact .refl _
    · rw [after]
      exact List.nil_sublist _
  queues := id
  goesOn answer awaits := by
    obtain ⟨resume, rfl⟩ := awaits
    cases answer with
    | ok value => exact ⟨_, _, rfl, .inl rfl⟩
    | error fault => exact ⟨_, _, rfl, .inr rfl⟩

/-! ## The calls of `ensureClient` -/

/-- A call of `ensureClient` for a node: the task that makes it, and how the task
goes on with the client or the exception. -/
structure ClientCaller where
  task : Nat
  resume : Except Fault Nat → Async ConnectionValue

/-- A connection after a change of a node. -/
abbrev ConnectionSystem.change
    (system : ConnectionSystem)
    (n : Nat)
    (change : NodeEffect) : ConnectionSystem :=
  connectionLoop.perform (.node n change) system

/-- A connection after the factory has failed for a node: the node is marked down and
the client lock is released. -/
abbrev ConnectionSystem.connectFailed
    (system : ConnectionSystem)
    (n : Nat)
    (fault : Fault) : ConnectionSystem :=
  ConnectionSystem.change (ConnectionSystem.change system n (.markDown fault.message)) n
    (.lock .release)

namespace ConnectionSystem

variable (system : ConnectionSystem) (n : Nat)

@[simp] theorem objects_change (change : NodeEffect) :
    (ConnectionSystem.change system n change).state.objects n =
      (system.state.objects n).apply system.state.reading change :=
  system.state.objects_apply_node n change

@[simp] theorem client_lock (op : LockOp) :
    (ConnectionSystem.change system n (.lock op)).state.client n = system.state.client n := by
  rw [ConnectionState.client, objects_change]
  rfl

theorem objects_connectFailed (fault : Fault) :
    (ConnectionSystem.connectFailed system n fault).state.objects n =
      ((system.state.objects n).apply system.state.reading (.markDown fault.message)).apply
        (ConnectionSystem.change system n (.markDown fault.message)).state.reading
        (.lock .release) := by
  rw [objects_change, objects_change]

end ConnectionSystem

namespace ClientCaller

variable (caller : ClientCaller) (n : Nat) (moment next system : ConnectionSystem)

/-- The task makes the call and runs to its next await. -/
def call : ConnectionSystem :=
  connectionLoop.advance caller.task ((ensureClient n).handle caller.resume) moment

/-- The task awaits the factory inside the call. -/
def IsAsking : Prop :=
  ∃ call, system.tasks[caller.task]? = some ⟨call, .awaiting (.factory n) fun answer =>
    (afterFactory n answer).handle caller.resume⟩

/-- The task awaits its turn on the client lock inside the call. -/
def IsWaiting : Prop :=
  ∃ call, system.tasks[caller.task]? = some ⟨call, .awaiting (.clientTurn n) fun answer =>
    (afterTurn n caller.task answer).handle caller.resume⟩

/-- The call comes to rest at the factory, where there is no client. -/
def Asks : Prop :=
  moment.state.client n = none ∧
    next = moment.settle caller.task (.awaiting (.factory n) fun answer =>
      (afterFactory n answer).handle caller.resume)

/-- The call comes to rest in the queue of the client lock. -/
def Waits : Prop :=
  next = moment.settle caller.task (.awaiting (.clientTurn n) fun answer =>
    (afterTurn n caller.task answer).handle caller.resume)

/-- The call returns the current client of the node, with which the task goes on. -/
def Returns : Prop :=
  ∃ client, moment.state.client n = some client ∧
    next = connectionLoop.advance caller.task (caller.resume (.ok client)) moment

/-- The call raises an exception, with which the task goes on. -/
def Raises (fault : Fault) : Prop :=
  next = connectionLoop.advance caller.task (caller.resume (.error fault)) moment

end ClientCaller

namespace ClientCaller

variable {caller : ClientCaller} {n : Nat} {moment next system : ConnectionSystem}

/-- With a client the call returns. -/
theorem returns_currentClient
    {client : Nat}
    (current : moment.state.client n = some client) :
    caller.Returns n moment
      (connectionLoop.advance caller.task ((currentClient n).handle caller.resume) moment) := by
  refine ⟨client, current, ?_⟩
  rw [currentClient_eq]
  change connectionLoop.advance caller.task
    (((moment.state.client n).elim _ _ : Async Nat).handle caller.resume) moment = _
  rw [current]
  rfl

/-- Under the lock the factory is asked when there is no client. -/
theorem asks_underLock (unconnected : moment.state.client n = none) :
    caller.Asks n moment
      (connectionLoop.advance caller.task ((underLock n).handle caller.resume) moment) := by
  refine ⟨unconnected, ?_⟩
  rw [underLock_eq]
  change connectionLoop.advance caller.task
    ((if (moment.state.client n).isNone then _ else _ : Async Nat).handle caller.resume)
      moment = _
  rw [unconnected]
  rfl

/-- Under the lock the call returns the client that there is. -/
theorem returns_underLock
    {client : Nat}
    (current : moment.state.client n = some client) :
    caller.Returns n (ConnectionSystem.change moment n (.lock .release))
      (connectionLoop.advance caller.task ((underLock n).handle caller.resume) moment) := by
  have unchanged : (ConnectionSystem.change moment n (.lock .release)).state.client n =
      some client := (ConnectionSystem.client_lock moment n .release).trans current
  have released : caller.Returns n _ _ := returns_currentClient unchanged
  rw [underLock_eq]
  change caller.Returns n _ (connectionLoop.advance caller.task
    ((if (moment.state.client n).isNone then _ else _ : Async Nat).handle caller.resume)
      moment)
  rw [current]
  exact released

/-- A call that begins returns the client that there is, or asks the factory under
the lock, or queues up for the lock. -/
theorem goesOn_call :
    caller.Returns n moment (caller.call n moment) ∨
      caller.Asks n (ConnectionSystem.change moment n (.lock (.take caller.task)))
        (caller.call n moment) ∨
      caller.Waits n (ConnectionSystem.change moment n (.lock (.enqueue caller.task)))
        (caller.call n moment) := by
  have called : caller.call n moment = connectionLoop.advance caller.task
      ((if (moment.state.client n).isNone then
          .current fun task => .read fun later =>
            if (later.objects n).clientLock.isFree then
              .write (.node n (.lock (.take task))) fun _ => underLock n
            else
              .write (.node n (.lock (.enqueue task))) fun _ =>
                .suspend (.clientTurn n) (afterTurn n task)
        else currentClient n : Async Nat).handle caller.resume) moment := by
    rw [call, ensureClient_eq]
    rfl
  rw [called]
  cases current : moment.state.client n with
  | some client => exact .inl (returns_currentClient current)
  | none =>
      right
      change _ ∨ caller.Waits n _ (connectionLoop.advance caller.task
        ((if (moment.state.objects n).clientLock.isFree then _ else _ : Async Nat).handle
          caller.resume) moment)
      by_cases free : (moment.state.objects n).clientLock.isFree = true
      · left
        change caller.Asks n _ (connectionLoop.advance caller.task
          ((if (moment.state.objects n).clientLock.isFree then _ else _ : Async Nat).handle
            caller.resume) moment)
        rw [if_pos free]
        exact asks_underLock ((ConnectionSystem.client_lock moment n _).trans current)
      · right
        rw [if_neg free]
        rfl

/-- A call whose turn has come asks the factory itself when there is still no client. -/
theorem asks_afterTurn (unconnected : moment.state.client n = none) :
    caller.Asks n (ConnectionSystem.change moment n (.lock (.wake caller.task)))
      (connectionLoop.advance caller.task
        ((afterTurn n caller.task (.ok ())).handle caller.resume) moment) :=
  asks_underLock ((ConnectionSystem.client_lock moment n _).trans unconnected)

/-- A call whose turn has come returns the client that another call has made in the
meantime. -/
theorem returns_afterTurn
    {client : Nat}
    (current : moment.state.client n = some client) :
    caller.Returns n
      (ConnectionSystem.change
        (ConnectionSystem.change moment n (.lock (.wake caller.task))) n (.lock .release))
      (connectionLoop.advance caller.task
        ((afterTurn n caller.task (.ok ())).handle caller.resume) moment) :=
  returns_underLock ((ConnectionSystem.client_lock moment n _).trans current)

/-- A call to which the factory has returned a client returns that client. -/
theorem returns_afterFactory :
    caller.Returns n
      (ConnectionSystem.change (ConnectionSystem.change moment n .connect) n (.lock .release))
      (connectionLoop.advance caller.task
        ((afterFactory n (.ok ())).handle caller.resume) moment) := by
  apply returns_currentClient
  exact (ConnectionSystem.client_lock _ n _).trans (congrArg NodeObject.client
    (ConnectionSystem.objects_change moment n .connect))

/-- What is left of a call when the factory raises an error of the driver or the
transport. -/
theorem afterFactory_error
    {fault : Fault}
    (ofDriver : fault.isDriverError = true)
    (resume : Except Fault Nat → Async ConnectionValue) :
    (afterFactory n (.error fault)).handle resume =
      .write (.node n (.markDown fault.message)) fun _ => .read fun state =>
        .write (.node n (.lock .release)) fun _ =>
          resume (.error (.raised (.nodeConnectionError
            ((state.node n).host ++ ": connect failed: " ++ fault.message)))) := by
  simp only [afterFactory, connected, if_pos ofDriver]
  rfl

/-- A call whose factory call has failed with an error of the driver or the transport
fails, with the node down and the lock released. -/
theorem raises_afterFactory
    {fault : Fault}
    (ofDriver : fault.isDriverError = true) :
    caller.Raises (ConnectionSystem.connectFailed moment n fault)
      (connectionLoop.advance caller.task
        ((afterFactory n (.error fault)).handle caller.resume) moment)
      (.raised (.nodeConnectionError
        ((moment.state.node n).host ++ ": connect failed: " ++ fault.message))) := by
  have host : ((ConnectionSystem.change moment n (.markDown fault.message)).state.node n).host =
      (moment.state.node n).host := by
    rw [ConnectionState.node, ConnectionSystem.objects_change]
    exact NodeObject.host_apply
  rw [Raises, afterFactory_error ofDriver, ← host]
  rfl

/-- Anything else that the factory raises passes through the call, which releases the
lock. -/
theorem raises_afterFactory_of_foreign
    {fault : Fault}
    (foreign : ¬fault.isDriverError = true) :
    caller.Raises (ConnectionSystem.change moment n (.lock .release))
      (connectionLoop.advance caller.task
        ((afterFactory n (.error fault)).handle caller.resume) moment) fault := by
  simp only [Raises, afterFactory, connected, if_neg foreign]
  rfl

end ClientCaller

/-! ## Sound creation -/

/-- How the call ends whose factory call has failed. -/
structure FailedCreation
    (caller : ClientCaller)
    (n : Nat)
    (fault : Fault)
    (system next : ConnectionSystem) : Prop where
  raises : caller.Raises (ConnectionSystem.connectFailed system n fault) next
    (.raised (.nodeConnectionError
      ((system.state.node n).host ++ ": connect failed: " ++ fault.message)))
  down : ((ConnectionSystem.connectFailed system n fault).state.node n).alive = false
  unconnected : (ConnectionSystem.connectFailed system n fault).state.client n = none
  released :
    ((ConnectionSystem.connectFailed system n fault).state.objects n).clientLock.holder = none
  /-- Until the next waiter goes on it may take the lock, and when it does it asks the
  factory itself. -/
  successor : ∀ waiter, (system.state.objects n).clientLock.waiters.head? = some waiter →
    ∀ later, connectionLoop.Reaches
        (fun before action => addressesNodes before action ∧ action.task? ≠ some waiter)
        next later →
      ∃ resume last, ClientCaller.IsWaiting ⟨waiter, resume⟩ n later ∧
        connectionLoop.step later (.answer waiter (.clientTurn n) (.ok ())) = some last ∧
        ClientCaller.Asks ⟨waiter, resume⟩ n
          (ConnectionSystem.change later n (.lock (.wake waiter))) last

/-- The clients of a node are created as they should be. -/
structure SoundCreation (system : ConnectionSystem) (n : Nat) : Prop where
  /-- At most one factory call is in progress. -/
  single : ∀ task other, system.IsAwaiting task (.factory n) →
    system.IsAwaiting other (.factory n) → task = other
  /-- There is no client that the result of the factory could replace. -/
  vacant : ∀ task, system.IsAwaiting task (.factory n) → system.state.client n = none
  /-- The factory is asked by calls of `ensureClient` only, -/
  asking : ∀ task, system.IsAwaiting task (.factory n) →
    ∃ resume, ClientCaller.IsAsking ⟨task, resume⟩ n system
  /-- and they alone queue up for the client lock. -/
  waiting : ∀ task, system.IsAwaiting task (.clientTurn n) →
    ∃ resume, ClientCaller.IsWaiting ⟨task, resume⟩ n system
  /-- A call begins by returning the current client, by asking the factory under the
  lock, or by queueing up for the lock. -/
  called : ∀ (caller : ClientCaller) (moment : ConnectionSystem),
    caller.Returns n moment (caller.call n moment) ∨
      caller.Asks n (ConnectionSystem.change moment n (.lock (.take caller.task)))
        (caller.call n moment) ∨
      caller.Waits n (ConnectionSystem.change moment n (.lock (.enqueue caller.task)))
        (caller.call n moment)
  /-- A call whose turn has come asks the factory or returns the current client. -/
  granted : ∀ (caller : ClientCaller) (next : ConnectionSystem), caller.IsWaiting n system →
    connectionLoop.step system (.answer caller.task (.clientTurn n) (.ok ())) = some next →
      caller.Asks n (ConnectionSystem.change system n (.lock (.wake caller.task))) next ∨
        caller.Returns n
          (ConnectionSystem.change
            (ConnectionSystem.change system n (.lock (.wake caller.task))) n (.lock .release))
          next
  /-- A call fails in the queue only because its task is cancelled. -/
  cut : ∀ (caller : ClientCaller) (fault : Fault) (next : ConnectionSystem),
    caller.IsWaiting n system →
    connectionLoop.step system (.answer caller.task (.clientTurn n) (.error fault)) =
        some next →
      fault.isException = false ∧
        caller.Raises (ConnectionSystem.change system n (.lock (.leave caller.task))) next fault
  /-- A call for which the factory has made a client returns it. -/
  made : ∀ (caller : ClientCaller) (next : ConnectionSystem), caller.IsAsking n system →
    connectionLoop.step system (.answer caller.task (.factory n) (.ok ())) = some next →
      caller.Returns n
        (ConnectionSystem.change (ConnectionSystem.change system n .connect) n (.lock .release))
        next
  /-- A call whose factory call has failed with an error of the driver or the transport
  fails; it raises anything else as it is. -/
  failed : ∀ (caller : ClientCaller) (fault : Fault) (next : ConnectionSystem),
    caller.IsAsking n system →
    connectionLoop.step system (.answer caller.task (.factory n) (.error fault)) = some next →
      if fault.isDriverError then FailedCreation caller n fault system next
      else caller.Raises (ConnectionSystem.change system n (.lock .release)) next fault

/-! ## The next waiter -/

/-- It is the turn of a task to take the client lock, and there is no client. -/
def NodeObject.IsDue (object : NodeObject) (waiter : Nat) : Prop :=
  object.clientLock.isTurn waiter = true ∧ object.client = none

/-- Nobody else makes a client for a task whose turn has come. -/
theorem NodeObject.isDue_apply
    {object : NodeObject}
    {waiter other : Nat}
    {change : NodeEffect}
    {clock : ClockReading}
    (permitted : object.Permits other change)
    (different : other ≠ waiter)
    (due : object.IsDue waiter) :
    (object.apply clock change).IsDue waiter := by
  obtain ⟨turn, unconnected⟩ := due
  cases change with
  | lock op => exact ⟨AsyncLock.isTurn_apply permitted different turn, unconnected⟩
  | connect =>
      have vacant := (AsyncLock.isTurn_iff.mp turn).1
      cases vacant.symm.trans permitted.1
  | callClose closer | discard own =>
      simp only [apply, callClose, discard, unconnected]
      exact ⟨turn, unconnected⟩
  | forget client => exact ⟨turn, rfl⟩
  | _ => exact ⟨turn, unconnected⟩

/-- The other tasks leave it the turn of a task. -/
theorem isDue_stable (n waiter : Nat) :
    tenancyPolicy.contract.Stable waiter fun state =>
      n < state.count ∧ (state.objects n).IsDue waiter := by
  rintro other effect state different _ permitted ⟨built, due⟩
  refine ⟨Nat.lt_of_lt_of_le built ConnectionState.count_le_apply, ?_⟩
  apply ConnectionState.object_apply effect (fun object => object.IsDue waiter) built
  · rintro change rfl due
    exact NodeObject.isDue_apply permitted.1.2 different due
  · exact fun _ due => due
  · exact due

/-! ## Every run -/

section Runs

variable {spec : PoolSpec} {clock : Nat → ClockReading} {picks : Nat → Nat}
variable {system next : ConnectionSystem} {n task : Nat}

/-- In every run whoever queues up for a client lock awaits its turn, and what is left
of the programs follows the calls of `ensureClient`. -/
theorem queue_of_reaches
    {condition : ConnectionSystem → ConnectionAction → Prop}
    (n : Nat)
    (reaches : connectionLoop.Reaches condition
      (ConnectionSystem.fresh spec clock picks) system) :
    system.Follows clientCalls ∧
      system.Queue (fun state => (state.objects n).clientLock) (.clientTurn n) := by
  apply (queueing_clientLock n).reaches _ reaches
  obtain ⟨host, ident, reading, unused⟩ := ConnectionState.objects_create spec clock picks n
  rw [unused]
  rfl

/-- A task that awaits an answer relies on what it asked for. -/
theorem asks_of_isAwaiting
    {request : ConnectionRequest}
    (reaches : connectionLoop.Reaches (fun before action => addressesNodes before action)
      (ConnectionSystem.fresh spec clock picks) system)
    (awaiting : system.IsAwaiting task request) :
    system.state.Asks task request := by
  obtain ⟨call, rest, found⟩ := awaiting
  exact (tenancy_sound reaches).asks_of_status (congrArg (Option.map Task.status) found) rfl

/-- Two tasks never await the factory of a node at the same time. -/
theorem asking_unique
    {other : Nat}
    (reaches : connectionLoop.Reaches (fun before action => addressesNodes before action)
      (ConnectionSystem.fresh spec clock picks) system)
    (asking : system.IsAwaiting task (.factory n))
    (otherAsking : system.IsAwaiting other (.factory n)) :
    task = other := by
  have held := (asks_of_isAwaiting reaches asking n rfl).2.1
  have otherHeld := (asks_of_isAwaiting reaches otherAsking n rfl).2.1
  exact Option.some.inj (held.symm.trans otherHeld)

/-- When a factory call has failed, it is the turn of the next waiter. -/
theorem isDue_of_failed
    {caller : ClientCaller}
    {fault : Fault}
    {waiter : Nat}
    (reaches : connectionLoop.Reaches (fun before action => addressesNodes before action)
      (ConnectionSystem.fresh spec clock picks) system)
    (asking : caller.IsAsking n system)
    (ofDriver : fault.isDriverError = true)
    (stepped : connectionLoop.step system
      (.answer caller.task (.factory n) (.error fault)) = some next)
    (first : (system.state.objects n).clientLock.waiters.head? = some waiter) :
    n < next.state.count ∧ (next.state.objects n).IsDue waiter := by
  obtain ⟨call, found⟩ := asking
  have sound := tenancy_sound reaches
  obtain ⟨built, _, unconnected⟩ := asks_of_isAwaiting reaches ⟨call, _, found⟩ n rfl
  obtain ⟨_, _, queued⟩ :=
    (queue_of_reaches n reaches).2.awaiting waiter (List.mem_of_mem_head? first)
  have different : caller.task ≠ waiter := by
    intro same
    rw [same, queued] at found
    cases found
  have safe : tenancyPolicy.contract.Safe caller.task
      ((afterFactory n (.error fault)).handle caller.resume)
      (tenancyPolicy.contract.ends caller.task call) system.state := by
    obtain ⟨asks, frame, _, framed, resumes⟩ := sound.tasks caller.task _ found
    exact resumes system.state (.error fault) sound.invariant asks framed rfl trivial
  rw [ClientCaller.afterFactory_error ofDriver] at safe
  -- the lock is released before the failed call goes on
  have but := ((sound.but found).perform safe.1).perform (safe.2 []).1
  have due : n < (ConnectionSystem.connectFailed system n fault).state.count ∧
      ((ConnectionSystem.connectFailed system n fault).state.objects n).IsDue waiter := by
    refine ⟨built, ?_⟩
    rw [ConnectionSystem.objects_connectFailed]
    exact ⟨AsyncLock.isTurn_iff.mpr ⟨rfl, first⟩, unconnected⟩
  have dueLater := but.stable_advance (isDue_stable n waiter) different ((safe.2 []).2 []) due
  have goesOn : next = connectionLoop.advance caller.task
      ((afterFactory n (.error fault)).handle caller.resume) system :=
    (Machine.next_of_answer found stepped).2
  rw [goesOn, ClientCaller.afterFactory_error ofDriver]
  exact dueLater

/-- The next waiter after a failed factory call takes the lock and asks the factory
itself, as soon as it goes on. -/
theorem successor_of_failed
    {caller : ClientCaller}
    {fault : Fault}
    {waiter : Nat}
    {later : ConnectionSystem}
    (reaches : connectionLoop.Reaches (fun before action => addressesNodes before action)
      (ConnectionSystem.fresh spec clock picks) system)
    (asking : caller.IsAsking n system)
    (ofDriver : fault.isDriverError = true)
    (stepped : connectionLoop.step system
      (.answer caller.task (.factory n) (.error fault)) = some next)
    (first : (system.state.objects n).clientLock.waiters.head? = some waiter)
    (continues : connectionLoop.Reaches
      (fun before action => addressesNodes before action ∧ action.task? ≠ some waiter)
      next later) :
    ∃ resume last, ClientCaller.IsWaiting ⟨waiter, resume⟩ n later ∧
      connectionLoop.step later (.answer waiter (.clientTurn n) (.ok ())) = some last ∧
      ClientCaller.Asks ⟨waiter, resume⟩ n
        (ConnectionSystem.change later n (.lock (.wake waiter))) last := by
  have reachesNext := reaches.step rfl stepped
  have reachesLater := reachesNext.trans (continues.mono fun _ _ met => met.1)
  obtain ⟨_, turn, unconnected⟩ :=
    (tenancy_sound reachesNext).stable_reaches tenancyPolicy.safeBodies (isDue_stable n waiter)
      (fun _ _ met => Policy.permits_of_carefree rfl met.1) (fun _ _ met => met.2) continues
      (isDue_of_failed reaches asking ofDriver stepped first)
  obtain ⟨follows, queue⟩ := queue_of_reaches n reachesLater
  have queued := List.mem_of_mem_head? (AsyncLock.isTurn_iff.mp turn).2
  obtain ⟨call, rest, found⟩ := queue.awaiting waiter queued
  obtain ⟨resume, rfl⟩ := (follows waiter _ found).1
  refine ⟨resume, _, ⟨call, found⟩, ?_, ClientCaller.asks_afterTurn unconnected⟩
  exact (Machine.step_answer found _).trans (if_pos turn)

/-- A failed factory call is the failure of the call that made it, and of no other. -/
theorem failedCreation_of_reaches
    {caller : ClientCaller}
    {fault : Fault}
    (reaches : connectionLoop.Reaches (fun before action => addressesNodes before action)
      (ConnectionSystem.fresh spec clock picks) system)
    (asking : caller.IsAsking n system)
    (ofDriver : fault.isDriverError = true)
    (stepped : connectionLoop.step system
      (.answer caller.task (.factory n) (.error fault)) = some next) :
    FailedCreation caller n fault system next := by
  obtain ⟨call, found⟩ := asking
  obtain ⟨_, _, unconnected⟩ := asks_of_isAwaiting reaches ⟨call, _, found⟩ n rfl
  have after := ConnectionSystem.objects_connectFailed system n fault
  constructor
  · obtain ⟨_, rfl⟩ := Machine.next_of_answer found stepped
    exact ClientCaller.raises_afterFactory ofDriver
  · rw [ConnectionState.node, after]
    rfl
  · rw [ConnectionState.client, after]
    exact unconnected
  · rw [after]
    rfl
  · intro waiter first later continues
    exact successor_of_failed reaches ⟨call, found⟩ ofDriver stepped first continues

/-- In every run the clients of every node are created as they should be. -/
theorem soundCreation_of_reaches
    (reaches : connectionLoop.Reaches (fun before action => addressesNodes before action)
      (ConnectionSystem.fresh spec clock picks) system)
    (n : Nat) :
    SoundCreation system n := by
  obtain ⟨follows, _⟩ := queue_of_reaches n reaches
  constructor
  · exact fun task other => asking_unique reaches
  · exact fun task awaiting => (asks_of_isAwaiting reaches awaiting n rfl).2.2
  · rintro task ⟨call, rest, found⟩
    obtain ⟨resume, rfl⟩ := (follows task _ found).1
    exact ⟨resume, call, found⟩
  · rintro task ⟨call, rest, found⟩
    obtain ⟨resume, rfl⟩ := (follows task _ found).1
    exact ⟨resume, call, found⟩
  · exact fun caller moment => caller.goesOn_call
  · rintro caller next ⟨call, found⟩ stepped
    obtain ⟨_, rfl⟩ := Machine.next_of_answer found stepped
    cases current : system.state.client n with
    | none => exact .inl (ClientCaller.asks_afterTurn current)
    | some client => exact .inr (ClientCaller.returns_afterTurn current)
  · rintro caller fault next ⟨call, found⟩ stepped
    obtain ⟨admitted, rfl⟩ := Machine.next_of_answer found stepped
    exact ⟨by simpa [connectionLoop, ConnectionRequest.admits] using admitted, rfl⟩
  · rintro caller next ⟨call, found⟩ stepped
    obtain ⟨_, rfl⟩ := Machine.next_of_answer found stepped
    exact caller.returns_afterFactory
  · intro caller fault next asking stepped
    split
    · next ofDriver => exact failedCreation_of_reaches reaches asking ofDriver stepped
    · next foreign =>
        obtain ⟨call, found⟩ := asking
        obtain ⟨_, rfl⟩ := Machine.next_of_answer found stepped
        exact ClientCaller.raises_afterFactory_of_foreign foreign

end Runs

/-- A query asks the factory, and two pings queue up behind it. -/
theorem soundCreation_of_three_callers :
    ∃ system : ConnectionSystem,
      (system.tasks.map fun entry => entry.status.request?) =
          [some (.factory 0), some (.clientTurn 0), some (.clientTurn 0)] ∧
        (system.state.objects 0).clientLock.waiters = [1, 2] ∧
        SoundCreation system 0 := by
  obtain ⟨system, reaches, found⟩ := ConnectionSystem.exists_reached addressesNodes
    { seedHosts := ["a"], clusterName := "c" } (fun reading => ⟨reading, reading⟩) (fun _ => 0)
    [.start (.query 0 "q" 10), .start (.ping 0), .start (.ping 0),
      .begin 0, .begin 1, .begin 2]
    (fun system => (system.tasks.map fun entry => entry.status.request?) =
        [some (.factory 0), some (.clientTurn 0), some (.clientTurn 0)] ∧
      (system.state.objects 0).clientLock.waiters = [1, 2])
    (by decide +kernel)
  obtain ⟨requests, waiters⟩ := of_decide_eq_true found
  exact ⟨system, requests, waiters, soundCreation_of_reaches reaches 0⟩

end Promch
