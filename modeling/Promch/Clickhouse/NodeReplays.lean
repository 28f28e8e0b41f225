import Promch.Library.Replay
import Promch.Clickhouse.PoolConduct

/-!
# Replays of the calls of one node

What a query, a ping and a close of a node come to, for every answer that they
get.  The surroundings are those of a topology refresh: it holds the discovery
lock, so the other tasks leave the membership of the pool alone; in calm
surroundings they leave the nodes alone as well.
-/

namespace Promch

open EventLoop EventLoop.Coroutine EventLoop.Machine

/-- What happens in a replay on a connection. -/
abbrev ConnectionHappening : Type :=
  Happening ConnectionEffect ConnectionRequest ConnectionRequest.Answer Fault

/-- What a replay on a connection is given at an await. -/
abbrev ConnectionResumption : Type :=
  Resumption ConnectionState ConnectionRequest ConnectionRequest.Answer Fault

/-! ## Exceptions that no call of a node catches -/

namespace ConnectionRequest

/-- An exception goes out of the ping or the close that gets it for an answer. -/
def escapes (request : ConnectionRequest) (fault : Fault) : Bool :=
  match request with
  | .clientTurn _ => true
  | .factory _ => !fault.isDriverError && !fault.isUnreachable
  | .ping _ _ => !fault.isUnreachable
  | .close .drop _ _ => !fault.isException
  | .close _ _ _ => true
  | _ => false

/-- An answer makes the ping or the close of a node raise. -/
def RaisesOut
    (request : ConnectionRequest)
    (outcome : Except Fault request.Answer)
    (n : Nat) : Prop :=
  request.node? = some n ∧ ∃ fault, outcome = .error fault ∧ request.escapes fault = true

/-- The answer to a ping of a node; whatever it is, the node is up. -/
def PingReturns
    (request : ConnectionRequest)
    (outcome : Except Fault request.Answer)
    (n : Nat) : Prop :=
  (∃ client, request = .ping n client) ∧ ∃ answer, outcome = .ok answer

/-- A node gives no client: the wait for its lock is cut short, or the factory fails. -/
def Refuses
    (request : ConnectionRequest)
    (outcome : Except Fault request.Answer)
    (n : Nat) : Prop :=
  (request = .clientTurn n ∨ request = .factory n) ∧ ∃ fault, outcome = .error fault

/-- A query of a client. -/
def isQuery : ConnectionRequest → Bool
  | .query _ _ _ _ => true
  | _ => false

/-- A ping or a close of a node awaits the request. -/
def IsProbe (request : ConnectionRequest) (n : Nat) : Prop :=
  request.node? = some n ∧ request.isQuery = false

section Answers

variable {n : Nat}

@[simp] theorem node?_clientTurn : (clientTurn n).node? = some n := rfl

@[simp] theorem node?_factory : (factory n).node? = some n := rfl

@[simp] theorem node?_ping (client : Nat) : (ping n client).node? = some n := rfl

@[simp] theorem node?_close (closer : Closer) (client : Nat) :
    (close closer n client).node? = some n := rfl

@[simp] theorem isProbe_clientTurn : (clientTurn n).IsProbe n := ⟨rfl, rfl⟩

@[simp] theorem isProbe_factory : (factory n).IsProbe n := ⟨rfl, rfl⟩

@[simp] theorem isProbe_ping (client : Nat) : (ping n client).IsProbe n := ⟨rfl, rfl⟩

@[simp] theorem isProbe_close (closer : Closer) (client : Nat) :
    (close closer n client).IsProbe n := ⟨rfl, rfl⟩

variable {request : ConnectionRequest} {fault : Fault}

@[simp] theorem not_raisesOut_ok (answer : request.Answer) :
    ¬request.RaisesOut (.ok answer) n := by
  simp [RaisesOut]

@[simp] theorem raisesOut_error :
    request.RaisesOut (.error fault) n ↔
      request.node? = some n ∧ request.escapes fault = true := by
  simp [RaisesOut]

@[simp] theorem refuses_clientTurn : (clientTurn n).Refuses (.error fault) n :=
  ⟨.inl rfl, fault, rfl⟩

@[simp] theorem refuses_factory : (factory n).Refuses (.error fault) n :=
  ⟨.inr rfl, fault, rfl⟩

@[simp] theorem pingReturns_ping
    (client : Nat)
    (answer : (ping n client).Answer) :
    (ping n client).PingReturns (.ok answer) n :=
  ⟨⟨client, rfl⟩, answer, rfl⟩

@[simp] theorem not_pingReturns_error : ¬request.PingReturns (.error fault) n := by
  simp [PingReturns]

@[simp] theorem not_pingReturns_clientTurn
    (outcome : Except Fault (clientTurn n).Answer) :
    ¬(clientTurn n).PingReturns outcome n := by
  simp [PingReturns]

@[simp] theorem not_pingReturns_factory
    (outcome : Except Fault (factory n).Answer) :
    ¬(factory n).PingReturns outcome n := by
  simp [PingReturns]

@[simp] theorem not_pingReturns_query
    (client : Nat)
    (sql : String)
    (limit : Int)
    (m : Nat)
    (outcome : Except Fault (query n client sql limit).Answer) :
    ¬(query n client sql limit).PingReturns outcome m := by
  simp [PingReturns]

@[simp] theorem not_pingReturns_close
    (closer : Closer)
    (client : Nat)
    (outcome : Except Fault (close closer n client).Answer) :
    ¬(close closer n client).PingReturns outcome n := by
  simp [PingReturns]

end Answers

end ConnectionRequest

/-- Somewhere in a trace the ping or the close of a node raises. -/
abbrev Raises (trace : List ConnectionHappening) (n : Nat) : Prop :=
  SomeAnswer (fun request outcome => request.RaisesOut outcome n) trace

/-- A ping of a node comes back somewhere in a trace. -/
abbrev PingSucceeds (trace : List ConnectionHappening) (n : Nat) : Prop :=
  SomeAnswer (fun request outcome => request.PingReturns outcome n) trace

/-- Somewhere in a trace a node gives no client. -/
abbrev Refused (trace : List ConnectionHappening) (n : Nat) : Prop :=
  SomeAnswer (fun request outcome => request.Refuses outcome n) trace

/-- A node is sent a query, unless it gives no client. -/
def Approached
    (trace : List ConnectionHappening)
    (n : Nat)
    (sql : String)
    (maxExecutionTime : Int) : Prop :=
  (∃ client outcome, .got (.query n client sql maxExecutionTime) outcome ∈ trace) ∨
    Refused trace n

/-- All that is awaited in a trace belongs to a ping or a close of a node. -/
abbrev Probes (trace : List ConnectionHappening) (n : Nat) : Prop :=
  EveryAnswer (fun request _ => request.IsProbe n) trace

/-- Nothing that is queried in a trace is answered with rows. -/
abbrev NoRows (trace : List ConnectionHappening) : Prop :=
  EveryAnswer (fun request outcome =>
    request.isQuery = true → ∃ fault, outcome = .error fault) trace

section Traces

variable {trace : List ConnectionHappening} {n : Nat}

/-- The probes of one node make no other raise. -/
theorem Probes.eq_of_raises
    {m : Nat}
    (probes : Probes trace n)
    (raises : Raises trace m) :
    m = n := by
  obtain ⟨request, outcome, member, address, _⟩ := raises
  exact Option.some.inj (address.symm.trans (probes request outcome member).1)

/-- The exceptions that go out of the calls of one node are those of its own call. -/
theorem Probes.raises_iff
    {outcome : Except Fault α}
    (probes : Probes trace n)
    (raises : Raises trace n ↔ ∃ fault, outcome = .error fault)
    (m : Nat) :
    Raises trace m ↔ m = n ∧ ∃ fault, outcome = .error fault := by
  constructor
  · intro raised
    have same := probes.eq_of_raises raised
    exact ⟨same, raises.mp (same ▸ raised)⟩
  · rintro ⟨rfl, failed⟩
    exact raises.mpr failed

theorem Probes.eq_of_pingSucceeds
    {m : Nat}
    (probes : Probes trace n)
    (succeeds : PingSucceeds trace m) :
    m = n := by
  obtain ⟨request, outcome, member, ⟨client, rfl⟩, _⟩ := succeeds
  exact Option.some.inj (probes _ outcome member).1

theorem pingSucceeds_iff :
    PingSucceeds trace n ↔ ∃ client answer, .got (.ping n client) (.ok answer) ∈ trace := by
  constructor
  · rintro ⟨_, _, got, ⟨client, rfl⟩, answer, rfl⟩
    exact ⟨client, answer, got⟩
  · rintro ⟨client, answer, got⟩
    exact ⟨_, _, got, ConnectionRequest.pingReturns_ping client answer⟩

/-- A ping or a close queries nothing. -/
theorem Probes.noRows (probes : Probes trace n) : NoRows trace := by
  intro request outcome member query
  rw [(probes request outcome member).2] at query
  cases query

end Traces

/-! ## What the other tasks do meanwhile -/

namespace ConnectionState

/-- The other tasks leave the membership of the pool alone. -/
structure SameMembership (before after : ConnectionState) : Prop
    extends SamePool before after where
  spec : after.spec = before.spec

/-- Nobody finds a node up or down, or connects or closes it. -/
structure SameUse (before after : ConnectionState) (n : Nat) : Prop where
  alive : (after.node n).alive = (before.node n).alive
  client : after.client n = before.client n
  closed : (after.objects n).closed = (before.objects n).closed

variable {before middle after : ConnectionState} {n : Nat}

theorem SameMembership.refl (state : ConnectionState) : SameMembership state state :=
  ⟨.refl state, rfl⟩

theorem SameMembership.trans
    (first : SameMembership before middle)
    (second : SameMembership middle after) :
    SameMembership before after :=
  ⟨first.toSamePool.trans second.toSamePool, second.spec.trans first.spec⟩

theorem SameUse.refl (state : ConnectionState) (n : Nat) : SameUse state state n :=
  ⟨rfl, rfl, rfl⟩

theorem SameUse.trans
    (first : SameUse before middle n)
    (second : SameUse middle after n) :
    SameUse before after n :=
  ⟨second.alive.trans first.alive, second.client.trans first.client,
    second.closed.trans first.closed⟩

/-- A node object that is the same is in the same use. -/
theorem SameUse.of_objects_eq (same : after.objects n = before.objects n) :
    SameUse before after n :=
  ⟨congrArg (fun object => object.node.alive) same, congrArg NodeObject.client same,
    congrArg NodeObject.closed same⟩

/-- A change of one node leaves the membership alone. -/
theorem sameMembership_node (state : ConnectionState) (n : Nat) (change : NodeEffect) :
    SameMembership state (state.apply (.node n change)) :=
  ⟨samePool_apply state trivial, rfl⟩

/-- A change of one node leaves the other nodes in the same use. -/
theorem sameUse_node_of_ne
    (state : ConnectionState)
    {n m : Nat}
    (change : NodeEffect)
    (apart : m ≠ n) :
    SameUse state (state.apply (.node n change)) m :=
  .of_objects_eq (Function.update_of_ne apart ..)

/-- A choice that is drawn leaves the membership and the nodes alone. -/
theorem sameMembership_pick (state : ConnectionState) :
    SameMembership state (state.apply .pick) :=
  ⟨samePool_apply state trivial, rfl⟩

theorem sameUse_pick (state : ConnectionState) (n : Nat) :
    SameUse state (state.apply .pick) n :=
  ⟨rfl, rfl, rfl⟩

/-- Only the use of one node changes, in calm surroundings. -/
structure Untouched (calm : Prop) (n : Nat) (before after : ConnectionState) : Prop where
  membership : SameMembership before after
  others : calm → ∀ m ≠ n, SameUse before after m

end ConnectionState

open ConnectionState

/-- The surroundings of a topology refresh. -/
def refreshSurroundings (calm : Prop) :
    Surroundings ConnectionState ConnectionRequest ConnectionRequest.Answer Fault where
  meanwhile before after := SameMembership before after ∧ (calm → ∀ n, SameUse before after n)
  answers _ _ := True

/-- An effect on one given node. -/
def ConnectionEffect.IsOn (n : Nat) : ConnectionEffect → Prop
  | .node m _ => m = n
  | _ => False

section NodeCalls

variable {calm : Prop} {task n : Nat} {state : ConnectionState}

/-- The calls of one node leave the membership and the other nodes alone. -/
theorem ensures_untouched
    {program : Async α}
    {goal : List ConnectionHappening → Except Fault α → ConnectionState → Prop}
    (writes : program.Writes (ConnectionEffect.IsOn n))
    (ensures : connectionLoop.Ensures (refreshSurroundings calm) task program
      (fun trace outcome later => Untouched calm n state later → goal trace outcome later)
      state) :
    connectionLoop.Ensures (refreshSurroundings calm) task program goal state := by
  refine Ensures.frame (Untouched calm n state) ?_ ?_ writes
    ⟨.refl state, fun _ m _ => .refl state m⟩ ensures
  · intro before after changed untouched
    exact ⟨untouched.membership.trans changed.1,
      fun quiet m apart => (untouched.others quiet m apart).trans (changed.2 quiet m)⟩
  · intro effect before isOn untouched
    cases effect with
    | node m change =>
        obtain rfl : m = n := isOn
        exact ⟨untouched.membership.trans (sameMembership_node before m change),
          fun quiet k apart =>
            (untouched.others quiet k apart).trans (sameUse_node_of_ne before change apart)⟩
    | _ => exact isOn.elim

/-- Under the lock a node without a client is connected. -/
private theorem ensures_connectIfNone
    {goal : List ConnectionHappening → Except Fault Unit → ConnectionState → Prop}
    (connected : ∀ trace later, Probes trace n → ¬Raises trace n → ¬PingSucceeds trace n →
      later.client n ≠ none →
      (calm → (later.objects n).closed = (state.objects n).closed) → goal trace (.ok ()) later)
    (failed : ∀ trace fault later, Probes trace n →
      (Raises trace n ↔ fault.isUnreachable = false) → ¬PingSucceeds trace n →
      Refused trace n → goal trace (.error fault) later) :
    connectionLoop.Ensures (refreshSurroundings calm) task (connectIfNone n) goal state := by
  simp only [connectIfNone, clientOf, ensures_bind, ensures_gets, ensures_andThen_ok]
  by_cases unconnected : state.client n = none
  · rw [if_pos (by simp [unconnected])]
    simp only [connect, ensures_bind, ensures_attempt, ensures_await, ensures_andThen_ok]
    intro later outcome changed _ _
    cases outcome with
    | ok answer =>
        simp only [ensures_emit]
        apply connected
        · simp
        · simp
        · simp
        · simp [connectionLoop, ConnectionState.client, NodeObject.apply, NodeObject.client,
            Node.withClient]
        · intro quiet
          simpa [connectionLoop, NodeObject.apply] using (changed.2 quiet n).closed
    | error fault =>
        simp only
        split
        · next driverError =>
            simp only [ensures_bind, ensures_emit, ensures_andThen_ok, hostOf, ensures_gets,
              ensures_raise]
            apply failed
            · simp
            · simp [ConnectionRequest.escapes, driverError,
                Fault.isUnreachable]
            · simp
            · simp
        · next foreign =>
            simp only [ensures_raise]
            apply failed
            · simp
            · simp [ConnectionRequest.escapes, foreign]
            · simp
            · simp
  · rw [if_neg (by simpa using unconnected)]
    exact connected [] state (by simp) (by simp) (by simp) unconnected fun _ => rfl

/-- A call that gets a client gets the current one; it fails with the node found
unreachable unless an exception goes out of it. -/
theorem ensures_ensureClient
    {goal : List ConnectionHappening → Except Fault Nat → ConnectionState → Prop}
    (got : ∀ trace client later, Probes trace n → ¬Raises trace n → ¬PingSucceeds trace n →
      later.client n = some client →
      (calm → (later.objects n).closed = (state.objects n).closed) →
      goal trace (.ok client) later)
    (failed : ∀ trace fault later, Probes trace n →
      (Raises trace n ↔ fault.isUnreachable = false) → ¬PingSucceeds trace n →
      Refused trace n → goal trace (.error fault) later) :
    connectionLoop.Ensures (refreshSurroundings calm) task (ensureClient n) goal state := by
  have finish : ∀ trace later, Probes trace n → ¬Raises trace n → ¬PingSucceeds trace n →
      later.client n ≠ none →
      (calm → (later.objects n).closed = (state.objects n).closed) →
      connectionLoop.Ensures (refreshSurroundings calm) task (currentClient n)
        (fun more => goal (trace ++ more)) later := by
    intro trace later probes raises answered connected closed
    obtain ⟨client, current⟩ := Option.ne_none_iff_exists'.mp connected
    simp only [currentClient, clientOf, ensures_bind, ensures_gets, ensures_andThen_ok, current,
      ensures_pure, List.append_nil]
    exact got trace client later probes raises answered current closed
  simp only [ensureClient, clientOf, ensures_bind, ensures_gets, ensures_andThen_ok]
  by_cases unconnected : state.client n = none
  · rw [if_pos (by simp [unconnected])]
    simp only [withClientLock, ensures_bind]
    apply ensures_withLock
    · apply ensures_connectIfNone
      · intro trace later probes raises answered connected closed
        apply finish
        · simpa using probes
        · simpa using raises
        · simpa using answered
        · simpa [connectionLoop, ConnectionState.client] using connected
        · intro quiet
          simpa [connectionLoop, NodeObject.apply] using closed quiet
      · intro trace fault later probes raises answered refused
        apply failed
        · simpa using probes
        · simpa using raises
        · simpa using answered
        · simp [refused]
    · intro before value changed _
      apply ensures_connectIfNone
      · intro trace later probes raises answered connected closed
        apply finish
        · simpa using probes
        · simpa using raises
        · simpa using answered
        · simpa [connectionLoop, ConnectionState.client] using connected
        · intro quiet
          have unchanged := (changed.2 quiet n).closed
          simp only [connectionLoop, objects_apply_node, NodeObject.apply] at unchanged
          simpa [connectionLoop, NodeObject.apply, unchanged] using closed quiet
      · intro trace fault later probes raises answered refused
        apply failed
        · simpa using probes
        · simpa using raises
        · simpa using answered
        · simp [refused]
    · intro before fault _ admitted
      apply failed
      · simp
      · have cancelled : fault.isUnreachable = false :=
          Bool.eq_false_iff.mpr (Fault.not_isUnreachable_of_cancelled admitted)
        simp [ConnectionRequest.escapes, cancelled]
      · simp
      · simp
  · rw [if_neg (by simpa using unconnected)]
    exact finish [] state (by simp) (by simp) (by simp) unconnected fun _ => rfl

/-- Discarding the client never raises but with a cancellation. -/
private theorem ensures_dropClient
    {own : Option Nat}
    {goal : List ConnectionHappening → Except Fault Unit → ConnectionState → Prop}
    (dropped : ∀ trace outcome later, Probes trace n →
      (Raises trace n ↔ ∃ fault, outcome = .error fault) → ¬PingSucceeds trace n →
      (calm → (later.node n).alive = (state.node n).alive) → goal trace outcome later) :
    connectionLoop.Ensures (refreshSurroundings calm) task (dropClient n own) goal state := by
  simp only [dropClient, clientOf, ensures_bind, ensures_gets, ensures_andThen_ok]
  cases current : state.client n with
  | none => exact dropped [] (.ok ()) state (by simp) (by simp) (by simp) fun _ => rfl
  | some client =>
      simp only [ensures_bind, ensures_emit, ensures_andThen_ok, ensures_attempt, ensures_await]
      intro later outcome changed _ _
      have alive : calm → (later.node n).alive = (state.node n).alive := by
        intro quiet
        rw [(changed.2 quiet n).alive]
        simp only [connectionLoop, node, objects_apply_node, NodeObject.apply,
          NodeObject.discard]
        split <;> rfl
      cases outcome with
      | ok answer =>
          apply dropped _ _ _ ?_ ?_ ?_ alive
          · simp
          · simp
          · simp
      | error fault =>
          simp only
          split
          · next exception =>
              apply dropped _ _ _ ?_ ?_ ?_ alive
              · simp
              · simp [ConnectionRequest.escapes, exception]
              · simp
          · next cancelled =>
              apply dropped _ _ _ ?_ ?_ ?_ alive
              · simp
              · simp [ConnectionRequest.escapes, cancelled]
              · simp

/-- What a ping of a node comes to. -/
structure Pinged
    (calm : Prop)
    (n : Nat)
    (trace : List ConnectionHappening)
    (outcome : Except Fault Bool)
    (later : ConnectionState) : Prop where
  probes : Probes trace n
  /-- It raises when an answer goes out of it as an exception. -/
  raises : Raises trace n ↔ ∃ fault, outcome = .error fault
  /-- It finds the node up when the client answers. -/
  succeeds : outcome = .ok true ↔ PingSucceeds trace n
  alive : calm → ∀ alive, outcome = .ok alive → (later.node n).alive = alive

/-- A call that failed marks the node down, unless an exception goes out of it. -/
private theorem ensures_pingFailed
    {before : List ConnectionHappening}
    {own : Option Nat}
    {fault : Fault}
    {goal : List ConnectionHappening → Except Fault Bool → ConnectionState → Prop}
    (probes : Probes before n)
    (raises : Raises before n ↔ fault.isUnreachable = false)
    (unanswered : ¬PingSucceeds before n)
    (pinged : ∀ trace outcome later, Pinged calm n (before ++ trace) outcome later →
      goal trace outcome later) :
    connectionLoop.Ensures (refreshSurroundings calm) task
      (if fault.isUnreachable then do
        emit (.node n (.markDown fault.message))
        dropClient n own
        return false
      else raise fault : Async Bool) goal state := by
  split
  · next unreachable =>
      have quietBefore : ¬Raises before n := by simp [raises, unreachable]
      simp only [ensures_bind, ensures_emit, ensures_andThen_ok]
      apply ensures_dropClient
      intro trace outcome later probesLater raisesLater unansweredLater alive
      cases outcome with
      | ok done =>
          apply pinged
          refine ⟨by simp [probes, probesLater], ?_, ?_, ?_⟩
          · simp [quietBefore, raisesLater]
          · simp [unanswered, unansweredLater]
          · rintro quiet _ ⟨rfl⟩
            rw [alive quiet]
            simp [connectionLoop, node, NodeObject.apply, NodeObject.withNode]
      | error raised =>
          apply pinged
          refine ⟨by simp [probes, probesLater], ?_, ?_, ?_⟩
          · simp [quietBefore, raisesLater]
          · simp [unanswered, unansweredLater]
          · rintro _ _ ⟨⟩
  · next escaped =>
      apply pinged
      refine ⟨by simpa using probes, ?_, ?_, ?_⟩
      · simpa [escaped] using raises
      · simpa using unanswered
      · rintro _ _ ⟨⟩

/-- A ping confirms the node, marks it down, or raises. -/
theorem ensures_ping
    {goal : List ConnectionHappening → Except Fault Bool → ConnectionState → Prop}
    (pinged : ∀ trace outcome later, Pinged calm n trace outcome later →
      Untouched calm n state later → goal trace outcome later) :
    connectionLoop.Ensures (refreshSurroundings calm) task (ping n) goal state := by
  apply ensures_untouched (writes_ping fun _ => rfl)
  simp only [ping, ensures_bind, ensures_attempt, ensures_andThen_ok]
  apply ensures_ensureClient
  · intro trace client later probes raises unanswered _ _
    simp only [ensures_bind, ensures_attempt, ensures_await, ensures_andThen_ok]
    intro answered outcome _ _ _
    cases outcome with
    | ok answer =>
        simp only [ensures_bind, ensures_emit, ensures_andThen_ok]
        apply pinged
        refine ⟨?_, ?_, ?_, ?_⟩
        · simp [probes]
        · simp [raises]
        · simp
        · rintro _ _ ⟨rfl⟩
          simp [connectionLoop, node, NodeObject.apply, NodeObject.withNode]
    | error fault =>
        have probesAnswered : Probes (trace ++ [.got (.ping n client) (.error fault)]) n := by
          simp [probes]
        apply ensures_pingFailed probesAnswered
        · simp [raises, ConnectionRequest.escapes]
        · simp [unanswered]
        · intro more ended last pingedLast untouched
          exact pinged _ _ _ (by simpa using pingedLast) untouched
  · intro trace fault later probes raises unanswered _
    apply ensures_pingFailed probes raises unanswered
    exact fun more ended last pingedLast => pinged _ _ _ pingedLast

/-- What a close of a node comes to. -/
structure Closed
    (calm : Prop)
    (n : Nat)
    (before : ConnectionState)
    (trace : List ConnectionHappening)
    (outcome : Except Fault Unit)
    (later : ConnectionState) : Prop where
  probes : Probes trace n
  raises : Raises trace n ↔ ∃ fault, outcome = .error fault
  unanswered : ¬PingSucceeds trace n
  /-- The client that the node has, if it has one, is closed. -/
  closed : calm → outcome = .ok () →
    (later.objects n).closed = (before.client n).toList ++ (before.objects n).closed

/-- A close raises whatever the client raises. -/
theorem ensures_closeNode
    {closer : Closer}
    {goal : List ConnectionHappening → Except Fault Unit → ConnectionState → Prop}
    (plain : closer ≠ .drop)
    (closed : ∀ trace outcome later, Closed calm n state trace outcome later →
      Untouched calm n state later → goal trace outcome later) :
    connectionLoop.Ensures (refreshSurroundings calm) task (closeNode closer n) goal state := by
  apply ensures_untouched (writes_closeNode (fun _ => rfl) closer)
  simp only [closeNode, clientOf, ensures_bind, ensures_gets, ensures_andThen_ok]
  cases current : state.client n with
  | none =>
      apply closed
      exact ⟨by simp, by simp, by simp, fun _ _ => by simp [current]⟩
  | some client =>
      have escapes : ∀ fault, (ConnectionRequest.close closer n client).escapes fault = true := by
        cases closer with
        | drop => exact absurd rfl plain
        | call | evict | depart | sweep => exact fun _ => rfl
      simp only [ensures_bind, ensures_emit, ensures_andThen_ok, ensures_await]
      intro later outcome changed _ _
      cases outcome with
      | ok answer =>
          apply closed
          refine ⟨?_, ?_, ?_, fun quiet _ => ?_⟩
          · simp
          · simp
          · simp
          · have closedLater := (changed.2 quiet n).closed
            simp only [connectionLoop, objects_apply_node, NodeObject.apply,
              NodeObject.callClose, show (state.objects n).client = some client from current]
              at closedLater
            simp [connectionLoop, NodeObject.apply, NodeObject.withNode, current, closedLater]
      | error fault =>
          apply closed
          refine ⟨?_, ?_, ?_, ?_⟩
          · simp
          · simp [escapes]
          · simp
          · rintro _ ⟨⟩

/-- A request is answered, nothing else is queried or pinged, and nothing raises. -/
structure OnlyAnswer
    (request : ConnectionRequest)
    (outcome : Except Fault request.Answer)
    (trace : List ConnectionHappening) : Prop where
  got : .got request outcome ∈ trace
  only : EveryAnswer (fun asked answer => asked.isQuery = true →
    (.got asked answer : ConnectionHappening) = .got request outcome) trace
  quiet : ∀ m, ¬Raises trace m
  pingless : ∀ m, ¬PingSucceeds trace m

/-- Sending a query to a client and awaiting the answer. -/
private theorem ensures_clientQuery
    {client : Nat}
    {sql : String}
    {timeout : Time}
    {goal : List ConnectionHappening → Except Fault QueryResultSet → ConnectionState → Prop}
    (answered : ∀ outcome later,
      (calm → (later.objects n).closed = (state.objects n).closed ∧
        later.client n = state.client n) →
      goal [.did (.node n (.sendQuery task client)),
        .got (.query n client sql (truncate timeout)) outcome,
        .did (.node n (.endQuery task client))] outcome later) :
    connectionLoop.Ensures (refreshSurroundings calm) task (clientQuery n client sql timeout)
      goal state := by
  simp only [clientQuery, ensures_bind, ensures_currentTask, ensures_andThen_ok, ensures_emit,
    ensures_attempt, ensures_await]
  intro later outcome changed _ _
  refine answered outcome (connectionLoop.apply (.node n (.endQuery task client)) later) ?_
  intro quiet
  obtain ⟨_, client, closed⟩ := changed.2 quiet n
  simp only [connectionLoop, objects_apply_node, NodeObject.apply] at closed
  simp only [connectionLoop, ConnectionState.client, objects_apply_node, NodeObject.apply]
    at client
  simp only [connectionLoop, ConnectionState.client, objects_apply_node, NodeObject.apply]
  exact ⟨closed, client⟩

/-- A query returns the rows of its answer, or it gets none. -/
theorem ensures_query
    {sql : String}
    {timeout : Time}
    {goal : List ConnectionHappening → Except Fault (List Row) → ConnectionState → Prop}
    (answered : ∀ trace client (result : QueryResultSet) later,
      OnlyAnswer (.query n client sql (truncate timeout)) (.ok result) trace →
      (calm → (later.node n).alive = true ∧ later.client n = some client ∧
        (later.objects n).closed = (state.objects n).closed) →
      Untouched calm n state later → goal trace (.ok (Node.rowsOf result)) later)
    (failed : ∀ trace fault later, NoRows trace → Approached trace n sql (truncate timeout) →
      Untouched calm n state later → goal trace (.error fault) later) :
    connectionLoop.Ensures (refreshSurroundings calm) task (query n sql timeout) goal state := by
  apply ensures_untouched (writes_query (fun _ => rfl) sql timeout)
  simp only [query, ensures_bind]
  apply ensures_ensureClient
  · intro connected client before probes raises unanswered current closed
    simp only [ensures_andThen_ok, ensures_bind, ensures_attempt]
    apply ensures_clientQuery
    intro outcome later same
    cases outcome with
    | ok result =>
        simp only [ensures_bind, ensures_emit, ensures_andThen_ok, ensures_pure]
        apply answered _ client
        · refine ⟨by simp, ?_, fun m raised => ?_, fun m succeeds => ?_⟩
          · have unqueried : EveryAnswer (fun asked answer => asked.isQuery = true →
                (.got asked answer : ConnectionHappening) =
                  .got (.query n client sql (truncate timeout)) (.ok result)) connected := by
              intro asked answer member query
              rw [(probes asked answer member).2] at query
              cases query
            simp only [everyAnswer_append, everyAnswer_cons_did, everyAnswer_cons_got,
              everyAnswer_nil, implies_true, and_true]
            exact unqueried
          · have raisedBefore : Raises connected m := by simpa using raised
            obtain rfl := probes.eq_of_raises raisedBefore
            exact raises raisedBefore
          · have succeedsBefore : PingSucceeds connected m := by simpa using succeeds
            obtain rfl := probes.eq_of_pingSucceeds succeedsBefore
            exact unanswered succeedsBefore
        · intro quiet
          obtain ⟨closedLater, clientLater⟩ := same quiet
          simpa [connectionLoop, node, ConnectionState.client, NodeObject.client,
            NodeObject.apply, NodeObject.withNode] using
              ⟨clientLater.trans current, closedLater.trans (closed quiet)⟩
    | error fault =>
        have raised : ∀ more last exception, NoRows more → Untouched calm n state last →
            goal (connected ++ ([.did (.node n (.sendQuery task client)),
              .got (.query n client sql (truncate timeout)) (.error fault),
              .did (.node n (.endQuery task client))] ++ more)) (.error exception) last := by
          intro more last exception noRows untouched
          apply failed _ _ _ _ _ untouched
          · simp [probes.noRows, noRows]
          · exact .inl ⟨client, .error fault, by simp⟩
        cases fault with
        | driver error =>
            simp only
            split
            · simp only [ensures_bind, ensures_emit, ensures_andThen_ok]
              apply ensures_dropClient
              intro dropped ended last probesDropped _ _ _
              cases ended with
              | ok done =>
                  simp only [ensures_andThen_ok, ensures_bind, hostOf, ensures_gets,
                    ensures_raise]
                  exact raised _ last _ (by simpa using probesDropped.noRows)
              | error exception =>
                  exact raised _ last _ (by simpa using probesDropped.noRows)
            · split
              · simp only [ensures_bind, hostOf, ensures_gets, ensures_andThen_ok,
                  ensures_raise]
                exact raised _ _ _ everyAnswer_nil
              · exact raised _ _ _ everyAnswer_nil
        | raised exception | cancelled => exact raised _ _ _ everyAnswer_nil
  · intro trace fault later probes _ _ refused untouched
    rw [List.append_nil]
    exact failed trace fault later probes.noRows (.inr refused) untouched

end NodeCalls

end Promch
