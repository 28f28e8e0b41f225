import Promch.Clickhouse.Permissions

/-!
# The conduct of the tasks of a connection

Every call of a connection keeps to the permissions, in any order of the tasks.
A policy adds an invariant of its own, with precautions that the environment
has to take for it: when the factory may return a client, when the `close` of a
client may return, on which clients a call may fail, which clients may be found
idle, and which nodes a closing pass may leave out.  All calls are walked through
once, for all policies.
-/

namespace Promch

open EventLoop

/-- Why a task of a connection goes on. -/
abbrev ConnectionCause : Type :=
  Cause ConnectionRequest ConnectionRequest.Answer ConnectionCall Fault

/-- What the environment has to take care of. -/
structure Precautions where
  /-- The factory may return a client for a node. -/
  mayConnect : Nat → ConnectionState → Prop := fun _ _ => True
  /-- The `close` of a client may return to a plain closer of a node. -/
  mayForget : Nat → NodeObject → Prop := fun _ _ => True
  /-- A call may fail on a client, given the current client of the node and how
  many clients it has had. -/
  mayDiscard : Nat → Option Nat → Nat → Prop := fun _ _ _ => True
  /-- The client of a live node may be found idle. -/
  mayEvict : NodeObject → Prop := fun _ => True
  /-- A closing pass that is cut short may leave a node out. -/
  mayLeave : NodeObject → Prop := fun _ => True

/-- A call that starts with a liveness pass, as soon as it has the lock. -/
def ConnectionCall.runsPass : ConnectionCall → Bool
  | .recheckDead => true
  | .healthTick => true
  | .refresh => true
  | .recheck => true
  | _ => false

/-- The nodes that a liveness pass examines as soon as it begins: all tracked
nodes, unless there is a dead one that it has to ping first. -/
def ConnectionState.examinedAtOnce (state : ConnectionState) : List Nat :=
  if state.tracked.all fun n => (state.node n).alive then state.tracked else []

namespace Precautions

variable (precautions : Precautions)

/-- The precautions hold for an effect. -/
def Respects (effect : ConnectionEffect) (state : ConnectionState) : Prop :=
  match effect with
  | .node n .connect => precautions.mayConnect n state
  | .node n (.forget client) => precautions.mayForget client (state.objects n)
  | .node n (.discard own) =>
      ∀ client, own = some client →
        precautions.mayDiscard client (state.client n) (state.objects n).made
  | .node n (.callClose .evict) => precautions.mayEvict (state.objects n)
  | .endSweep => ∀ n ∈ state.unswept, precautions.mayLeave (state.objects n)
  | _ => True

/-- A liveness pass over the given nodes, whose next reading of the clock is the
given one, does not find a node idle that may not be.  The first node that is idle
ends what the pass examines now, for it awaits the `close` of that node's client. -/
def Careful (state : ConnectionState) : List Nat → Nat → Prop
  | [], _ => True
  | n :: rest, reading =>
      if (state.node n).alive && (state.node n).client.isSome then
        if (state.node n).isIdle (state.clock reading) state.spec.idleTtl then
          precautions.mayEvict (state.objects n)
        else Careful state rest (reading + 1)
      else Careful state rest reading

/-- A liveness pass may begin. -/
def MayPass (state : ConnectionState) : Prop :=
  precautions.Careful state state.examinedAtOnce state.readings

/-- The environment takes the precautions when it lets a task go on. -/
def Allowed (task : Nat) (cause : ConnectionCause) (state : ConnectionState) : Prop :=
  match cause with
  | .began call => call.runsPass → precautions.MayPass state
  | .joined true => precautions.Careful state (state.examining task) state.readings
  | .answered (.discoveryTurn _) (.ok _) => precautions.MayPass state
  | .answered (.discoveryTurn true) (.error _) =>
      ∀ n ∈ state.unswept, precautions.mayLeave (state.objects n)
  | .answered (.factory n) (.ok _) => precautions.mayConnect n state
  | .answered (.close closer n client) (.ok _) =>
      (closer ≠ .drop → precautions.mayForget client (state.objects n)) ∧
        (closer = .evict →
          precautions.Careful state (state.examining task) state.readings)
  | .answered (.close .sweep _ _) (.error _) =>
      ∀ n ∈ state.unswept, precautions.mayLeave (state.objects n)
  | .answered (.query n client _ _) (.error (.driver error)) =>
      error.isConnectionLevel = true →
        precautions.mayDiscard client (state.client n) (state.objects n).made
  | .answered (.ping n client) (.error fault) =>
      fault.isUnreachable = true →
        precautions.mayDiscard client (state.client n) (state.objects n).made
  | _ => True

end Precautions

/-- An invariant of a connection and the precautions that it needs. -/
structure Policy extends Precautions where
  inv : ConnectionState → Prop
  keeps : ∀ {task effect state}, state.Wellformed → inv state →
    state.Permits task effect → toPrecautions.Respects effect state →
      inv (state.apply effect)

namespace Policy

/-- The contract of all tasks of a connection under a policy. -/
def contract (policy : Policy) : Contract connectionLoop where
  may task effect state := state.Permits task effect ∧ policy.Respects effect state
  inv state := state.Wellformed ∧ policy.inv state
  keeps invariant permitted :=
    ⟨invariant.1.apply permitted.1,
      policy.keeps invariant.1 invariant.2 permitted.1 permitted.2⟩
  allowed task cause state := policy.Allowed task cause state
  asks task request state := state.Asks task request
  joins _ _ := True
  begins call state := state.Exists call
  mentions _ _ := False
  ends _ call _ state := call = .close → state.toSweep = some []
  begins_stable _ _ found := ConnectionState.exists_apply found
  begins_forked {task effect state} _ permitted := by
    cases effect with
    | fork calls => exact permitted.1
    | _ => simp [connectionLoop, ConnectionState.forks]
  asks_stable task request := by
    intro other effect state different _ permitted asks
    exact ConnectionState.asks_apply permitted.1 different asks
  joins_stable _ := fun _ _ _ _ _ _ joins => joins
  unmentioned_stable _ := fun _ _ _ _ _ _ unnamed => unnamed
  ends_stable task call outcome := by
    intro other effect state _ _ _ ends closing
    have done := ends closing
    cases effect with
    | beginSweep => simp [connectionLoop, ConnectionState.apply, ConnectionState.unswept, done]
    | swept n => simp [connectionLoop, ConnectionState.apply, done]
    | endSweep => rfl
    | confirm host member =>
        simp only [connectionLoop, ConnectionState.apply, ConnectionState.confirm]
        split <;> exact done
    | _ => exact done

variable {policy : Policy} {task n : Nat} {state : ConnectionState}

/-- A node change that is permitted, and for which no precaution is needed. -/
theorem may_node
    {change : NodeEffect}
    (built : n < state.count)
    (permitted : (state.objects n).Permits task change)
    (respects : policy.Respects (.node n change) state) :
    policy.contract.may task (.node n change) state :=
  ⟨⟨built, permitted⟩, respects⟩

/-- To await an answer without keeping anything in mind but the request. -/
theorem safe_ask
    {request : ConnectionRequest}
    {goal : Except Fault request.Answer → ConnectionState → Prop}
    (asked : state.Asks task request)
    (answered : ∀ later outcome, policy.contract.inv later → later.Asks task request →
      connectionLoop.admits task request outcome later = true →
      policy.Allowed task (.answered request outcome) later → goal outcome later) :
    policy.contract.Safe task (ask request) goal state :=
  Contract.safe_await (fun _ => True) (fun _ _ _ _ _ _ _ => trivial) asked trivial
    fun later outcome invariant asks _ admitted allowed =>
      answered later outcome invariant asks admitted allowed

/-! ## One node -/

/-- Connecting under the lock leaves a client, or raises and leaves none. -/
private theorem safe_connect
    {goal : Except Fault Unit → ConnectionState → Prop}
    (built : n < state.count)
    (connecting : (state.objects n).clientLock.holder = some task ∧ state.client n = none)
    (connected : ∀ later, n < later.count →
      (later.objects n).clientLock.holder = some task → later.client n ≠ none →
      goal (.ok ()) later)
    (failed : ∀ fault later, n < later.count →
      (later.objects n).clientLock.holder = some task → later.client n = none →
      goal (.error fault) later) :
    policy.contract.Safe task (connect n) goal state := by
  unfold connect
  rw [Contract.safe_bind, Contract.safe_attempt]
  apply safe_ask
  · rintro _ ⟨rfl⟩
    exact ⟨built, connecting⟩
  · intro later outcome _ asks _ allowed
    obtain ⟨builtLater, held, unconnected⟩ := asks n rfl
    cases outcome with
    | ok answer =>
        rw [Contract.safe_andThen_ok, Contract.safe_emit]
        refine ⟨may_node builtLater ⟨held, unconnected⟩ allowed, connected _ builtLater ?_ ?_⟩
        all_goals simp only [connectionLoop, ConnectionState.client,
          ConnectionState.objects_apply_node]
        · exact held
        · exact Option.some_ne_none _
    | error fault =>
        simp only [Contract.safe_andThen_ok]
        split
        · simp only [Contract.safe_bind, Contract.safe_emit, Contract.safe_andThen_ok]
          refine ⟨may_node builtLater trivial trivial, failed _ _ builtLater ?_ ?_⟩
          all_goals simp only [connectionLoop, ConnectionState.client,
            ConnectionState.objects_apply_node]
          · exact held
          · exact unconnected
        · exact failed _ _ builtLater held unconnected

/-- The client lock of an existing node is used as it is meant to be used. -/
private theorem lockable_clientLock (policy : Policy) (n : Nat) :
    Lockable policy.contract (fun state => (state.objects n).clientLock)
      (fun op => .node n (.lock op)) (.clientTurn n) where
  permits _ _ _ asks _ permitted := may_node (asks n rfl).1 permitted trivial
  asks_enqueue _ _ asks := by
    rintro _ ⟨rfl⟩
    exact ⟨(asks n rfl).1, trivial⟩
  isTurn _ _ _ granted := granted

private theorem safe_currentClient
    {goal : Except Fault Nat → ConnectionState → Prop}
    (connected : state.client n ≠ none)
    (got : ∀ client, state.client n = some client → goal (.ok client) state) :
    policy.contract.Safe task (currentClient n) goal state := by
  obtain ⟨client, current⟩ := Option.ne_none_iff_exists'.mp connected
  simp only [currentClient, clientOf, Contract.safe_bind, Contract.safe_gets,
    Contract.safe_andThen_ok, current]
  exact got client current

/-- Under the lock a node without a client is connected, and the lock is left
with its holder. -/
private theorem safe_connectIfNone
    {goal : Except Fault Unit → ConnectionState → Prop}
    (built : n < state.count)
    (held : (state.objects n).clientLock.holder = some task)
    (connected : ∀ later, n < later.count → later.client n ≠ none → goal (.ok ()) later)
    (failed : ∀ fault later, n < later.count → later.client n = none →
      goal (.error fault) later) :
    policy.contract.Safe task (connectIfNone n) (fun outcome later =>
      policy.contract.may task (.node n (.lock .release)) later ∧
        goal outcome (connectionLoop.apply (.node n (.lock .release)) later)) state := by
  simp only [connectIfNone, clientOf, Contract.safe_bind, Contract.safe_gets,
    Contract.safe_andThen_ok]
  by_cases unconnected : state.client n = none
  · rw [if_pos (by simp [unconnected])]
    apply safe_connect built ⟨held, unconnected⟩
    · intro later builtLater heldLater connectedLater
      refine ⟨may_node builtLater heldLater trivial, connected _ builtLater ?_⟩
      simpa [connectionLoop, ConnectionState.client] using connectedLater
    · intro fault later builtLater heldLater unconnectedLater
      refine ⟨may_node builtLater heldLater trivial, failed _ _ builtLater ?_⟩
      simpa [connectionLoop, ConnectionState.client] using unconnectedLater
  · rw [if_neg (by simpa using unconnected)]
    refine ⟨may_node built held trivial, connected _ built ?_⟩
    simpa [connectionLoop, ConnectionState.client] using unconnected

/-- A call that gets a client gets the current one, and a call that finds the
node unreachable finds it without a client. -/
theorem safe_ensureClient
    {goal : Except Fault Nat → ConnectionState → Prop}
    (built : n < state.count)
    (got : ∀ client later, n < later.count → later.client n = some client →
      goal (.ok client) later)
    (failed : ∀ fault later, n < later.count →
      (fault.isUnreachable = true → later.client n = none) → goal (.error fault) later) :
    policy.contract.Safe task (ensureClient n) goal state := by
  have finish : ∀ later, n < later.count → later.client n ≠ none →
      policy.contract.Safe task (currentClient n) goal later :=
    fun later builtLater connected =>
      safe_currentClient connected fun client current => got client later builtLater current
  have locked : ∀ before, n < before.count →
      (before.objects n).clientLock.holder = some task →
      policy.contract.Safe task (connectIfNone n) (fun outcome later =>
        policy.contract.may task (.node n (.lock .release)) later ∧
          policy.contract.Safe task (Coroutine.andThen (fun _ => currentClient n) outcome) goal
            (connectionLoop.apply (.node n (.lock .release)) later)) before := by
    intro before builtBefore held
    apply safe_connectIfNone builtBefore held
    · exact finish
    · intro fault later builtLater unconnected
      exact failed fault later builtLater fun _ => unconnected
  simp only [ensureClient, clientOf, Contract.safe_bind, Contract.safe_gets,
    Contract.safe_andThen_ok]
  by_cases unconnected : state.client n = none
  · rw [if_pos (by simp [unconnected])]
    simp only [withClientLock, Contract.safe_bind]
    apply safe_withLock (lockable_clientLock policy n)
    · rintro _ ⟨rfl⟩
      exact ⟨built, trivial⟩
    · exact fun _ => locked _ built (by simp [connectionLoop])
    · intro value before _ asks _ _
      exact locked _ (asks n rfl).1 (by simp [connectionLoop])
    · intro fault before _ asks granted _
      refine failed fault (connectionLoop.apply (.node n (.lock (.leave task))) before)
        (asks n rfl).1 fun unreachable => ?_
      exact absurd unreachable (Fault.not_isUnreachable_of_cancelled granted)
  · rw [if_neg (by simpa using unconnected)]
    exact finish state built unconnected

/-- A call that failed on the given client, or on none, discards the current
client of the node. -/
theorem safe_dropClient
    {own : Option Nat}
    {goal : Except Fault Unit → ConnectionState → Prop}
    (built : n < state.count)
    (failed : state.client n = none ∨
      ∃ client, own = some client ∧ client < (state.objects n).made ∧
        policy.mayDiscard client (state.client n) (state.objects n).made)
    (finished : ∀ outcome later, n < later.count → goal outcome later) :
    policy.contract.Safe task (dropClient n own) goal state := by
  simp only [dropClient, clientOf, Contract.safe_bind, Contract.safe_gets,
    Contract.safe_andThen_ok]
  cases current : state.client n with
  | none => exact finished _ _ built
  | some client =>
      obtain ⟨used, rfl, usedMade, mayDiscard⟩ := failed.resolve_left (by simp [current])
      simp only [Contract.safe_bind, Contract.safe_emit, Contract.safe_andThen_ok,
        Contract.safe_attempt]
      refine ⟨may_node built ⟨used, rfl, usedMade⟩ ?_, ?_⟩
      · rintro _ ⟨rfl⟩
        exact mayDiscard
      · apply safe_ask
        · rintro _ ⟨rfl⟩
          refine ⟨built, ?_⟩
          simp only [connectionLoop, ConnectionState.objects_apply_node]
          change client ∈ ((state.objects n).discard (some used)).closed
          rw [NodeObject.discard, show (state.objects n).client = some client from current]
          exact List.mem_cons_self
        · intro later outcome _ asks _ _
          have builtLater := (asks n rfl).1
          cases outcome with
          | ok answer => exact finished _ _ builtLater
          | error fault =>
              simp only
              split <;> exact finished _ _ builtLater

/-- Sending a query to the current client; the answer finds the client a
former one of the node. -/
private theorem safe_clientQuery
    {client : Nat}
    {sql : String}
    {timeout : Time}
    {goal : Except Fault QueryResultSet → ConnectionState → Prop}
    (built : n < state.count)
    (current : state.client n = some client)
    (newest : (state.objects n).Newest)
    (answered : ∀ outcome later, n < later.count → client < (later.objects n).made →
      (∀ error, outcome = .error (.driver error) → error.isConnectionLevel = true →
        policy.mayDiscard client (later.client n) (later.objects n).made) →
      goal outcome later) :
    policy.contract.Safe task (clientQuery n client sql timeout) goal state := by
  simp only [clientQuery, Contract.safe_bind, Contract.safe_currentTask, Contract.safe_emit,
    Contract.safe_andThen_ok, Contract.safe_attempt]
  refine ⟨may_node built ⟨rfl, current⟩ trivial, ?_⟩
  apply safe_ask
  · rintro _ ⟨rfl⟩
    refine ⟨built, ?_⟩
    simp only [connectionLoop, ConnectionState.objects_apply_node]
    have made := newest client current
    exact ⟨List.mem_cons_self, by
      change client < (state.objects n).made
      omega⟩
  · intro later outcome _ asks _ allowed
    obtain ⟨builtLater, sent, madeLater⟩ := asks n rfl
    refine ⟨may_node builtLater rfl trivial, answered _ _ builtLater ?_ ?_⟩
    · simpa [connectionLoop] using madeLater
    · rintro error rfl connectionLevel
      simpa [connectionLoop, ConnectionState.client] using allowed connectionLevel

/-- A query only needs its node to exist. -/
theorem safe_query
    {sql : String}
    {timeout : Time}
    {goal : Except Fault (List Row) → ConnectionState → Prop}
    (invariant : policy.contract.inv state)
    (built : n < state.count)
    (finished : ∀ outcome later, n < later.count → goal outcome later) :
    policy.contract.Safe task (query n sql timeout) goal state := by
  unfold query
  rw [Contract.safe_bind]
  apply Contract.Safe.using_inv invariant
  apply safe_ensureClient built
  · intro client later builtLater current invariantLater
    rw [Contract.safe_andThen_ok, Contract.safe_bind, Contract.safe_attempt]
    apply safe_clientQuery builtLater current (invariantLater.1.newest n)
    intro outcome answered builtAnswered made mayDiscard
    rw [Contract.safe_andThen_ok]
    cases outcome with
    | ok result =>
        simp only [Contract.safe_bind, Contract.safe_emit, Contract.safe_andThen_ok]
        exact ⟨may_node builtAnswered trivial trivial, finished _ _ builtAnswered⟩
    | error fault =>
        cases fault with
        | driver error =>
            simp only
            split
            · next connectionLevel =>
                simp only [Contract.safe_bind, Contract.safe_emit, Contract.safe_andThen_ok]
                refine ⟨may_node builtAnswered trivial trivial, ?_⟩
                refine safe_dropClient (by exact builtAnswered) ?_ ?_
                · right
                  refine ⟨client, rfl, ?_⟩
                  simpa [connectionLoop, ConnectionState.client] using
                    ⟨made, mayDiscard error rfl connectionLevel⟩
                · intro dropped last builtLast
                  cases dropped <;> exact finished _ _ builtLast
            · split <;> exact finished _ _ builtAnswered
        | raised exception | cancelled => exact finished _ _ builtAnswered
  · intro fault later builtLater _ _
    exact finished _ _ builtLater

/-- A ping only needs its node to exist. -/
theorem safe_ping
    {goal : Except Fault Bool → ConnectionState → Prop}
    (invariant : policy.contract.inv state)
    (built : n < state.count)
    (finished : ∀ outcome later, n < later.count → goal outcome later) :
    policy.contract.Safe task (ping n) goal state := by
  unfold ping
  rw [Contract.safe_bind, Contract.safe_attempt]
  apply Contract.Safe.using_inv invariant
  apply safe_ensureClient built
  · intro client later builtLater current invariantLater
    simp only [Contract.safe_andThen_ok, Contract.safe_bind, Contract.safe_attempt]
    have madeLater := invariantLater.1.newest n client current
    apply safe_ask
    · rintro _ ⟨rfl⟩
      exact ⟨builtLater, by
        change client < (later.objects n).made
        omega⟩
    · intro answered outcome _ asks _ allowed
      obtain ⟨builtAnswered, made⟩ := asks n rfl
      cases outcome with
      | ok alive =>
          simp only [Contract.safe_bind, Contract.safe_emit, Contract.safe_andThen_ok]
          exact ⟨may_node builtAnswered trivial trivial, finished _ _ builtAnswered⟩
      | error fault =>
          simp only
          split
          · next unreachable =>
              simp only [Contract.safe_bind, Contract.safe_emit, Contract.safe_andThen_ok]
              refine ⟨may_node builtAnswered trivial trivial, ?_⟩
              refine safe_dropClient (by exact builtAnswered) ?_ ?_
              · right
                refine ⟨client, rfl, ?_⟩
                simpa [connectionLoop, ConnectionState.client] using
                  ⟨made, allowed unreachable⟩
              · intro dropped last builtLast
                cases dropped <;> exact finished _ _ builtLast
          · exact finished _ _ builtAnswered
  · intro fault later builtLater unconnected _
    simp only [Contract.safe_andThen_ok]
    split
    · next unreachable =>
        simp only [Contract.safe_bind, Contract.safe_emit, Contract.safe_andThen_ok]
        refine ⟨may_node builtLater trivial trivial, ?_⟩
        refine safe_dropClient (by exact builtLater) ?_ ?_
        · left
          simpa [connectionLoop, ConnectionState.client] using unconnected unreachable
        · intro dropped last builtLast
          cases dropped <;> exact finished _ _ builtLast
    · exact finished _ _ builtLater

/-- Closing a node does nothing when there is no client; otherwise it calls the
client's `close`, and when that has returned the node has no client. -/
theorem safe_closeNode
    {closer : Closer}
    {goal : Except Fault Unit → ConnectionState → Prop}
    (closes : closer ≠ .drop)
    (built : n < state.count)
    (mayEvict : closer = .evict → state.client n ≠ none → policy.mayEvict (state.objects n))
    (absent : state.client n = none → goal (.ok ()) state)
    (closed : ∀ client later, n < later.count →
      policy.Allowed task (.answered (.close closer n client) (.ok ())) later →
      goal (.ok ()) (connectionLoop.apply (.node n (.forget client)) later))
    (failed : ∀ client fault later, n < later.count →
      policy.Allowed task (.answered (.close closer n client) (.error fault)) later →
      goal (.error fault) later) :
    policy.contract.Safe task (closeNode closer n) goal state := by
  simp only [closeNode, clientOf, Contract.safe_bind, Contract.safe_gets,
    Contract.safe_andThen_ok]
  cases current : state.client n with
  | none => exact absent current
  | some client =>
      have connected : state.client n ≠ none := by simp [current]
      simp only [Contract.safe_bind, Contract.safe_emit, Contract.safe_andThen_ok]
      refine ⟨may_node built connected ?_, ?_⟩
      · cases closer with
        | evict => exact mayEvict rfl connected
        | _ => trivial
      · apply safe_ask
        · rintro _ ⟨rfl⟩
          refine ⟨built, ?_⟩
          simp only [connectionLoop, ConnectionState.objects_apply_node]
          change client ∈ ((state.objects n).callClose closer).closed
          rw [NodeObject.callClose, show (state.objects n).client = some client from current]
          exact List.mem_cons_self
        · intro later outcome _ asks _ allowed
          obtain ⟨builtLater, closedLater⟩ := asks n rfl
          cases outcome with
          | ok answer =>
              rw [Contract.safe_andThen_ok, Contract.safe_emit]
              exact ⟨may_node builtLater closedLater (allowed.1 closes),
                closed client later builtLater allowed⟩
          | error fault => exact failed client fault later builtLater allowed

end Policy

end Promch
