import Promch.Library.LockQueue
import Promch.Clickhouse.Programs

/-!
# Where clients are created

A factory and the client lock of a node are awaited inside calls of
`ensureClient` and nowhere else.  The two places where such a call comes to rest
are named here, and every program of a connection is walked through once to see
that its awaits are of this kind.
-/

namespace Promch

open EventLoop EventLoop.Coroutine

/-! ## The places where a call comes to rest -/

/-- The rest of a call of `ensureClient` from where the client lock is held. -/
def underLock (n : Nat) : Async Nat := do
  holding (fun op => .node n (.lock op)) (connectIfNone n)
  currentClient n

/-- The rest of a call of `ensureClient` from where the task may go on after it has
queued up for the client lock. -/
def afterTurn (n task : Nat) (answer : Except Fault Unit) : Async Nat := do
  onTurn (fun op => .node n (.lock op)) task (connectIfNone n) answer
  currentClient n

/-- The rest of `connect` from where the factory answers. -/
def connected (n : Nat) (answer : Except Fault Unit) : Async Unit :=
  match answer with
  | .ok _ => emit (.node n .connect)
  | .error fault =>
      if fault.isDriverError then do
        emit (.node n (.markDown fault.message))
        raise (.raised (.nodeConnectionError
          ((← hostOf n) ++ ": connect failed: " ++ fault.message)))
      else raise fault

/-- The rest of a call of `ensureClient` from where the factory answers. -/
def afterFactory (n : Nat) (answer : Except Fault Unit) : Async Nat := do
  holding (fun op => .node n (.lock op)) (connected n answer)
  currentClient n

theorem currentClient_eq (n : Nat) :
    currentClient n = .read fun state =>
      (state.client n).elim
        (raise (.raised (.exception "'NoneType' object is not a client"))) pure := by
  refine congrArg Coroutine.read (funext fun state => ?_)
  change andThen _ (.ok (state.client n)) = _
  cases state.client n <;> rfl

/-- Under the lock the factory is asked for a client, unless there is one. -/
theorem underLock_eq (n : Nat) :
    underLock n = .read fun state =>
      if (state.client n).isNone then .suspend (.factory n) (afterFactory n)
      else .write (.node n (.lock .release)) fun _ => currentClient n := by
  have read : underLock n = .read fun state =>
      ((if (state.client n).isNone then connect n else pure () : Async Unit).attempt >>=
        fun outcome => do
          emit (.node n (.lock .release))
          conclude outcome) >>= fun _ => currentClient n := rfl
  rw [read]
  congr 1
  funext state
  split
  · refine congrArg (Coroutine.suspend (ConnectionRequest.factory n)) (funext fun answer => ?_)
    cases answer <;> rfl
  · rfl

/-- A call of `ensureClient` goes on with the current client, under the lock, or to
wait for the lock. -/
theorem ensureClient_eq (n : Nat) :
    ensureClient n = .read fun state =>
      if (state.client n).isNone then
        .current fun task => .read fun later =>
          if (later.objects n).clientLock.isFree then
            .write (.node n (.lock (.take task))) fun _ => underLock n
          else
            .write (.node n (.lock (.enqueue task))) fun _ =>
              .suspend (.clientTurn n) (afterTurn n task)
      else currentClient n := by
  have read : ensureClient n = .read fun state =>
      if (state.client n).isNone then
        withClientLock n (connectIfNone n) >>= fun _ => currentClient n
      else currentClient n := rfl
  rw [read]
  congr 1
  funext state
  split
  · rw [withClientLock, withLock_eq]
    refine congrArg Coroutine.current (funext fun task => ?_)
    refine congrArg Coroutine.read (funext fun later => ?_)
    by_cases free : (later.objects n).clientLock.isFree = true
    · simp only [if_pos free]
      rfl
    · simp only [if_neg free]
      rfl
  · rfl

/-- A factory and a client lock are awaited inside calls of `ensureClient` only, and
whoever queues up for a client lock awaits its turn at once. -/
def clientCalls :
    Pattern ConnectionState ConnectionEffect ConnectionRequest ConnectionRequest.Answer
      Fault ConnectionValue where
  writes {α} task effect next :=
    match effect with
    | .node n (.lock (.enqueue waiter)) =>
        waiter = task ∧ ∃ rest : Except Fault Unit → Async α,
          next = fun _ => .suspend (.clientTurn n) rest
    | _ => True
  awaits {α} task request next :=
    match request with
    | .clientTurn n => ∃ resume : Except Fault Nat → Async α,
        next = fun answer => (afterTurn n task answer).handle resume
    | .factory n => ∃ resume : Except Fault Nat → Async α,
        next = fun answer => (afterFactory n answer).handle resume
    | _ => True
  writes_handle {α β task effect next} resume writes := by
    split at writes
    · obtain ⟨rfl, rest, rfl⟩ := writes
      exact ⟨rfl, fun answer => (rest answer).handle resume, rfl⟩
    · trivial
  awaits_handle {α β task request next} resume awaits := by
    cases request with
    | clientTurn n | factory n =>
        obtain ⟨first, rfl⟩ := awaits
        exact ⟨fun outcome => (first outcome).handle resume,
          funext fun answer => handle_handle _ first resume⟩
    | _ => trivial

/-! ## One node -/

section Node

variable {task n : Nat}

private theorem follows_currentClient : (currentClient n).Follows clientCalls task := by
  refine Follows.bind (follows_gets _) ?_
  intro current
  cases current <;> trivial

private theorem follows_connected (answer : Except Fault Unit) :
    (connected n answer).Follows clientCalls task := by
  cases answer with
  | ok value => exact follows_emit trivial
  | error fault =>
      simp only [connected]
      split
      · refine Follows.bind (follows_emit trivial) ?_
        intro _
        exact Follows.bind (follows_gets _) fun _ => follows_raise _
      · exact follows_raise _

private theorem follows_underLock : (underLock n).Follows clientCalls task := by
  rw [underLock_eq]
  intro state
  dsimp only
  split
  · refine ⟨⟨.done, funext fun answer => (handle_done _).symm⟩, fun answer => ?_⟩
    exact Follows.bind (follows_holding trivial (follows_connected answer)) fun _ =>
      follows_currentClient
  · exact ⟨trivial, fun _ => follows_currentClient⟩

private theorem follows_afterTurn (answer : Except Fault Unit) :
    (afterTurn n task answer).Follows clientCalls task := by
  cases answer with
  | ok value => exact ⟨trivial, fun _ => follows_underLock⟩
  | error fault => exact ⟨trivial, fun _ => trivial⟩

theorem follows_ensureClient : (ensureClient n).Follows clientCalls task := by
  rw [ensureClient_eq]
  intro state
  dsimp only
  split
  · intro later
    dsimp only
    split
    · exact ⟨trivial, fun _ => follows_underLock⟩
    · refine ⟨⟨rfl, _, rfl⟩, fun _ => ⟨⟨.done, ?_⟩, follows_afterTurn⟩⟩
      exact funext fun answer => (handle_done _).symm
  · exact follows_currentClient

private theorem follows_dropClient (own : Option Nat) :
    (dropClient n own).Follows clientCalls task := by
  refine Follows.bind (follows_gets _) ?_
  intro current
  cases current with
  | none => trivial
  | some client =>
      refine Follows.bind (follows_emit trivial) ?_
      intro _
      refine Follows.bind (follows_await trivial).attempt ?_
      intro outcome
      cases outcome with
      | ok answer => trivial
      | error fault =>
          simp only
          split <;> trivial

private theorem follows_query (sql : String) (timeout : Time) :
    (query n sql timeout).Follows clientCalls task := by
  refine Follows.bind follows_ensureClient ?_
  intro client
  have asked : (clientQuery n client sql timeout).Follows clientCalls task := by
    refine Follows.bind follows_currentTask ?_
    intro sender
    refine Follows.bind (follows_emit trivial) ?_
    intro _
    refine Follows.bind (follows_await trivial).attempt ?_
    intro answer
    exact Follows.bind (follows_emit trivial) fun _ => follows_conclude answer
  refine Follows.bind asked.attempt ?_
  intro outcome
  cases outcome with
  | ok result => exact Follows.bind (follows_emit trivial) fun _ => follows_pure _
  | error fault =>
      cases fault with
      | driver error =>
          simp only
          split
          · refine Follows.bind (follows_emit trivial) ?_
            intro _
            refine Follows.bind (follows_dropClient (some client)) ?_
            intro _
            exact Follows.bind (follows_gets _) fun _ => follows_raise _
          · split
            · exact Follows.bind (follows_gets _) fun _ => follows_raise _
            · exact follows_raise _
      | raised exception | cancelled => exact follows_raise _

private theorem follows_ping : (ping n).Follows clientCalls task := by
  have failed : ∀ (fault : Fault) (own : Option Nat),
      (if fault.isUnreachable then do
        emit (.node n (.markDown fault.message))
        dropClient n own
        return false
      else raise fault : Async Bool).Follows clientCalls task := by
    intro fault own
    split
    · refine Follows.bind (follows_emit trivial) ?_
      intro _
      exact Follows.bind (follows_dropClient own) fun _ => follows_pure _
    · exact follows_raise _
  refine Follows.bind follows_ensureClient.attempt ?_
  intro connected
  cases connected with
  | error fault => exact failed fault none
  | ok client =>
      refine Follows.bind (follows_await trivial).attempt ?_
      intro outcome
      cases outcome with
      | error fault => exact failed fault (some client)
      | ok alive => exact Follows.bind (follows_emit trivial) fun _ => follows_pure _

private theorem follows_closeNode (closer : Closer) :
    (closeNode closer n).Follows clientCalls task := by
  refine Follows.bind (follows_gets _) ?_
  intro current
  cases current with
  | none => trivial
  | some client =>
      refine Follows.bind (follows_emit trivial) ?_
      intro _
      refine Follows.bind (follows_await trivial) ?_
      intro _
      exact follows_emit trivial

private theorem follows_runOnNode (sql : String) (timeout : Time) :
    (runOnNode n sql timeout).Follows clientCalls task := by
  refine Follows.bind (follows_query sql timeout).attempt ?_
  intro outcome
  split
  · exact follows_pure _
  · exact follows_pure _
  · exact follows_raise _

end Node

/-! ## The pool -/

section Pool

variable {task : Nat}

private theorem follows_gather (calls : List ConnectionCall) :
    (gather calls).Follows clientCalls task := by
  unfold gather
  split
  · trivial
  · exact follows_emitAndJoin trivial

private theorem follows_evictIdle (nodes : List Nat) :
    (evictIdle nodes).Follows clientCalls task := by
  induction nodes with
  | nil => trivial
  | cons n rest inductionHypothesis =>
      refine Follows.bind (follows_gets _) ?_
      intro node
      split
      · refine Follows.bind (follows_gets _) ?_
        intro clock
        refine Follows.bind (follows_gets _) ?_
        intro ttl
        refine Follows.bind (follows_emit trivial) ?_
        intro _
        split
        · refine Follows.bind follows_currentTask ?_
          intro examiner
          refine Follows.bind (follows_emit trivial) ?_
          intro _
          exact Follows.bind (follows_closeNode .evict) fun _ => inductionHypothesis
        · exact inductionHypothesis
      · exact inductionHypothesis

private theorem follows_recheckDead : recheckDead.Follows clientCalls task := by
  refine Follows.bind (follows_gets _) ?_
  intro nodes
  refine Follows.bind follows_currentTask ?_
  intro examiner
  refine Follows.bind (follows_emit trivial) ?_
  intro _
  refine Follows.bind (follows_gets _) ?_
  intro dead
  exact Follows.bind (follows_gather _) fun _ => follows_evictIdle nodes

private theorem follows_checkAll : checkAll.Follows clientCalls task := by
  refine Follows.bind (follows_gets _) ?_
  intro nodes
  exact Follows.bind (follows_gather _) fun _ => follows_pure _

private theorem follows_healthTick : healthTick.Follows clientCalls task := by
  refine Follows.bind (follows_gets _) ?_
  intro mode
  cases mode with
  | passive => exact follows_recheckDead
  | active => exact follows_checkAll

private theorem follows_pickOneLive (exclude : List String) :
    (pickOneLive exclude).Follows clientCalls task := by
  refine Follows.bind (follows_gets _) ?_
  intro candidates
  split
  · trivial
  · refine Follows.bind (follows_gets _) ?_
    intro choice
    exact Follows.bind (follows_emit trivial) fun _ => follows_pure _

private theorem follows_welcomeAll (hosts : List String) :
    (welcomeAll hosts).Follows clientCalls task := by
  induction hosts with
  | nil => trivial
  | cons host rest inductionHypothesis =>
      refine Follows.bind (follows_gets _) ?_
      intro n
      refine Follows.bind (follows_emit trivial) ?_
      intro _
      exact Follows.bind follows_ping fun _ => inductionHypothesis

private theorem follows_reconcile (members hosts : List String) :
    (reconcile members hosts).Follows clientCalls task := by
  induction hosts with
  | nil => trivial
  | cons host rest inductionHypothesis =>
      refine Follows.bind (follows_gets _) ?_
      intro tracked
      cases tracked with
      | none => exact follows_raise _
      | some n =>
          simp only
          split
          · exact Follows.bind (follows_emit trivial) fun _ => inductionHypothesis
          · refine Follows.bind (follows_gets _) ?_
            intro seeds
            split
            · exact Follows.bind (follows_emit trivial) fun _ => inductionHypothesis
            · refine Follows.bind (follows_closeNode .depart) ?_
              intro _
              exact Follows.bind (follows_emit trivial) fun _ => inductionHypothesis

private theorem follows_updateMembers (members : List String) :
    (updateMembers members).Follows clientCalls task := by
  refine Follows.bind (follows_gets _) ?_
  intro unknown
  refine Follows.bind (follows_gets _) ?_
  intro order
  refine Follows.bind (follows_emit trivial) ?_
  intro _
  refine Follows.bind (follows_welcomeAll _) ?_
  intro _
  refine Follows.bind (follows_gets _) ?_
  intro hosts
  exact Follows.bind (follows_reconcile members hosts) fun _ => follows_emit trivial

private theorem follows_refreshTopology : refreshTopology.Follows clientCalls task := by
  refine Follows.bind (follows_pickOneLive []) ?_
  intro seed
  cases seed with
  | none => trivial
  | some seed =>
      refine Follows.bind (follows_query discoverySql 10).attempt ?_
      intro answer
      split
      · trivial
      · trivial
      · exact follows_raise _
      · refine Follows.bind (follows_gets _) ?_
        intro clusterName
        exact Follows.bind (follows_conclude _) fun members => follows_updateMembers members

end Pool

/-! ## The connection facade -/

section Facade

variable {task : Nat}

private theorem follows_discoveryCycle
    {pass : Async Unit}
    (awaits : pass.Follows clientCalls task) :
    (discoveryCycle pass).Follows clientCalls task := by
  apply follows_withLock (fun _ _ => trivial) trivial (fun _ => trivial)
  refine Follows.bind awaits ?_
  intro _
  exact Follows.bind (follows_emit trivial) fun _ => follows_gets _

private theorem follows_refresh : refresh.Follows clientCalls task :=
  follows_discoveryCycle (Follows.bind follows_healthTick fun _ => follows_refreshTopology)

private theorem follows_failOver
    (sql : String)
    (timeout : Time)
    (fuel : Nat)
    (tried : List String)
    (attempts : Nat)
    (lastError : Option Fault) :
    (failOver sql timeout fuel tried attempts lastError).Follows clientCalls task := by
  induction fuel generalizing tried attempts lastError with
  | zero => exact Follows.bind (follows_await trivial) fun _ => follows_pure _
  | succ fuel inductionHypothesis =>
      refine Follows.bind (follows_pickOneLive tried) ?_
      intro picked
      cases picked with
      | none => exact Follows.bind (follows_gets _) fun _ => follows_raise _
      | some n =>
          refine Follows.bind (follows_query sql timeout).attempt ?_
          intro outcome
          split
          · exact follows_pure _
          · refine Follows.bind (follows_gets _) ?_
            intro host
            refine Follows.bind (follows_gets _) ?_
            intro budget
            split
            · exact follows_raise _
            · exact inductionHypothesis _ _ _
          · exact follows_raise _

private theorem follows_executeSystemQuery (sql : String) (timeout : Time) (nodeLabel : String) :
    (executeSystemQuery sql timeout nodeLabel).Follows clientCalls task := by
  refine Follows.bind (follows_gets _) ?_
  intro nodes
  split
  · exact Follows.bind (follows_gets _) fun _ => follows_raise _
  · refine Follows.bind (follows_gather _) ?_
    intro results
    refine Follows.bind (follows_gets _) ?_
    intro answers
    split
    · exact follows_raise _
    · exact Follows.bind (follows_gets _) fun _ => follows_pure _

private theorem follows_sweep (nodes : List Nat) : (sweep nodes).Follows clientCalls task := by
  induction nodes with
  | nil => trivial
  | cons n rest inductionHypothesis =>
      refine Follows.bind (follows_closeNode .sweep) ?_
      intro _
      exact Follows.bind (follows_emit trivial) fun _ => inductionHypothesis

private theorem follows_closeConnection : closeConnection.Follows clientCalls task := by
  have swept : closeTracked.Follows clientCalls task := by
    refine Follows.bind (follows_gets _) ?_
    intro nodes
    exact Follows.bind (follows_emit trivial) fun _ => follows_sweep nodes
  have closes : (withDiscoveryLock true closeTracked).Follows clientCalls task :=
    follows_withLock (fun _ _ => trivial) trivial (fun _ => trivial) swept
  apply Follows.bind closes.attempt
  intro outcome
  exact Follows.bind (follows_emit trivial) fun _ => follows_conclude outcome

/-- In every program of a connection the factories and the client locks are awaited
inside calls of `ensureClient` only. -/
theorem follows_body (call : ConnectionCall) : call.body.Follows clientCalls task := by
  cases call with
  | query n sql timeout => exact Follows.bind (follows_query sql timeout) fun _ => follows_pure _
  | ping n => exact Follows.bind follows_ping fun _ => follows_pure _
  | closeNode n => exact Follows.bind (follows_closeNode .call) fun _ => follows_pure _
  | runOnNode n sql timeout =>
      exact Follows.bind (follows_runOnNode sql timeout) fun _ => follows_pure _
  | recheckDead => exact Follows.bind follows_recheckDead fun _ => follows_pure _
  | checkAll => exact Follows.bind follows_checkAll fun _ => follows_pure _
  | healthTick => exact Follows.bind follows_healthTick fun _ => follows_pure _
  | refresh => exact Follows.bind follows_refresh fun _ => follows_pure _
  | recheck =>
      exact Follows.bind (follows_discoveryCycle follows_healthTick) fun _ => follows_pure _
  | rediscover =>
      exact Follows.bind (follows_discoveryCycle follows_refreshTopology) fun _ => follows_pure _
  | executeDataQuery sql timeout attempts =>
      exact Follows.bind (follows_failOver sql timeout attempts [] 0 none) fun _ => follows_pure _
  | executeSystemQuery sql timeout nodeLabel =>
      exact Follows.bind (follows_executeSystemQuery sql timeout nodeLabel) fun _ =>
        follows_pure _
  | close => exact Follows.bind follows_closeConnection fun _ => follows_pure _

end Facade

end Promch
