import Promch.Clickhouse.DataQuery
import Promch.Clickhouse.NodeReplays
import Promch.Clickhouse.PoolMembership
import Promch.Clickhouse.PoolRefinement

/-!
# Data queries in the event loop

In the event loop a data query is a program with an await at every turn.  To the
pool it is the failover loop: whatever the other tasks do at its awaits, there is a
script of attempts under which the loop asks the same nodes, ends as the program
does and leaves the pool that the program leaves.
-/

namespace Promch

open EventLoop EventLoop.Coroutine EventLoop.Machine

/-! ## Surroundings -/

theorem ClusterTopology.applyAll_append
    (topology : ClusterTopology)
    (earlier later : List PoolEvent) :
    topology.applyAll (earlier ++ later) = (topology.applyAll earlier).applyAll later :=
  List.foldl_append

/-- The other tasks have done to a connection what is to its pool some atomic steps. -/
structure ConnectionState.Overtaken (before after : ConnectionState) : Prop where
  spec : after.spec = before.spec
  count : before.count ≤ after.count
  host : ∀ n < before.count, (after.node n).host = (before.node n).host
  steps : ∀ topology : ClusterTopology, topology.Mirrors before →
    ∃ events, (topology.applyAll events).Mirrors after

namespace ConnectionState.Overtaken

variable {before between after : ConnectionState}

theorem refl (state : ConnectionState) : state.Overtaken state :=
  ⟨rfl, Nat.le_refl _, fun _ _ => rfl, fun _ mirrors => ⟨[], mirrors⟩⟩

theorem trans
    (first : before.Overtaken between)
    (second : between.Overtaken after) : before.Overtaken after where
  spec := second.spec.trans first.spec
  count := first.count.trans second.count
  host n built :=
    (second.host n (built.trans_le first.count)).trans (first.host n built)
  steps topology mirrors := by
    obtain ⟨earlier, reached⟩ := first.steps topology mirrors
    obtain ⟨later, reachedLater⟩ := second.steps _ reached
    exact ⟨earlier ++ later, (topology.applyAll_append earlier later).symm ▸ reachedLater⟩

/-- Every effect of a task is nothing worse. -/
theorem apply (overtaken : before.Overtaken after) (effect : ConnectionEffect) :
    before.Overtaken (after.apply effect) where
  spec := (after.spec_apply effect).trans overtaken.spec
  count := overtaken.count.trans count_le_apply
  host n built :=
    (host_apply (built.trans_le overtaken.count)).trans (overtaken.host n built)
  steps topology mirrors := by
    obtain ⟨events, reached⟩ := overtaken.steps topology mirrors
    refine ⟨events ++ (effect.poolEvent after).toList, ?_⟩
    rw [ClusterTopology.applyAll_append]
    exact reached.apply effect

/-- Whatever happens between two moments of a run is nothing worse. -/
theorem of_reaches
    {condition : ConnectionSystem → ConnectionAction → Prop}
    {system later : ConnectionSystem}
    (reaches : connectionLoop.Reaches condition system later) :
    system.state.Overtaken later.state := by
  apply reaches.keeps (fun state _ => system.state.Overtaken state)
  · exact fun effect state _ overtaken => overtaken.apply effect
  · exact fun _ _ _ overtaken => overtaken
  · exact refl system.state

end ConnectionState.Overtaken

/-- The surroundings of a query.  Factories and clients raise errors of the driver or
are cancelled; the errors of the client taxonomy are raised by the programs alone. -/
def querySurroundings :
    Surroundings ConnectionState ConnectionRequest ConnectionRequest.Answer Fault where
  meanwhile := ConnectionState.Overtaken
  answers _ outcome := ∀ exception, outcome ≠ .error (.raised exception)

/-! ## Attempts -/

/-- The exception that the caller of a query sees, unless it is cancelled. -/
def Fault.exception? : Fault → Option Raised
  | .driver error => some (.exception error.message)
  | .raised exception => some exception
  | .cancelled => none

/-- What the caller of a query sees of its end, unless it is cancelled. -/
def seen? : Except Fault α → Option (Except Raised α)
  | .ok value => some (.ok value)
  | .error fault => fault.exception?.map .error

/-- The node that a happening shows to be asked: a query is sent to it, or it cannot
be connected. -/
def askedNode? : ConnectionHappening → Option Nat
  | .did (.node n (.sendQuery _ _)) => some n
  | .got (.factory n) (.error _) => some n
  | _ => none

/-- The nodes that are asked in a trace, in their order. -/
def askedNodes (trace : List ConnectionHappening) : List Nat :=
  trace.filterMap askedNode?

@[simp] theorem askedNodes_nil : askedNodes [] = [] := rfl

@[simp] theorem askedNodes_cons
    (happening : ConnectionHappening)
    (trace : List ConnectionHappening) :
    askedNodes (happening :: trace) = (askedNode? happening).toList ++ askedNodes trace := by
  rw [askedNodes, askedNodes, List.filterMap_cons]
  cases askedNode? happening <;> rfl

@[simp] theorem askedNodes_append (trace more : List ConnectionHappening) :
    askedNodes (trace ++ more) = askedNodes trace ++ askedNodes more :=
  List.filterMap_append ..

/-- An attempt on a node has ended: it asked that node alone, and its outcome accounts
for what the caller sees and for what becomes of the pool. -/
structure Attempted
    (topology : ClusterTopology)
    (n : Nat)
    (trace : List ConnectionHappening)
    (outcome : Except Fault (List Row))
    (later : ConnectionState) : Prop where
  asked : askedNodes trace = [n]
  settled : ∃ before ended clock after, seen? outcome = some (NodeOutcome.result ended) ∧
    (((topology.applyAll before).updateIdent n (ended.change clock)).applyAll after).Mirrors
      later

/-- An attempt that was not cancelled has ended as it should. -/
def AttemptedUnlessCancelled
    (topology : ClusterTopology)
    (n : Nat)
    (trace : List ConnectionHappening)
    (outcome : Except Fault (List Row))
    (later : ConnectionState) : Prop :=
  outcome = .error .cancelled ∨ Attempted topology n trace outcome later

namespace ClusterTopology

variable {topology : ClusterTopology} {state : ConnectionState} {n : Nat}

/-- An effect that is nothing to the pool leaves it as it is. -/
theorem Mirrors.apply_quiet
    {effect : ConnectionEffect}
    (mirrors : topology.Mirrors state)
    (quiet : effect.poolEvent state = none) :
    topology.Mirrors (connectionLoop.apply effect state) := by
  have applied := mirrors.apply effect
  rw [quiet] at applied
  exact applied

/-- An outcome that says nothing of the health of the node leaves the pool as it is. -/
theorem Mirrors.unsettled
    (mirrors : topology.Mirrors state)
    {ended : NodeOutcome}
    {clock : ClockReading}
    (nothing : ∀ node, (ended.change clock).change node = node) :
    (topology.updateIdent n (ended.change clock)).Mirrors state where
  clusterName := mirrors.clusterName
  seedHosts := mirrors.seedHosts
  nodes := by
    refine Eq.trans ?_ mirrors.nodes
    simp only [updateIdent, nothing, ite_self]
    exact Dict.mapValues_id topology.nodes
  lastDiscovery := mirrors.lastDiscovery
  idents := mirrors.idents
  built := mirrors.built

end ClusterTopology

namespace Attempted

variable {topology : ClusterTopology} {n task : Nat} {state later : ConnectionState}
variable {trace : List ConnectionHappening} {outcome : Except Fault (List Row)}

/-- Steps of other tasks may come before. -/
theorem of_applyAll
    {events : List PoolEvent}
    (attempted : Attempted (topology.applyAll events) n trace outcome later) :
    Attempted topology n trace outcome later := by
  obtain ⟨asked, before, ended, clock, after, result, mirrors⟩ := attempted
  refine ⟨asked, events ++ before, ended, clock, after, result, ?_⟩
  rwa [ClusterTopology.applyAll_append]

/-- What the pool does not notice may come before and after. -/
theorem quiet
    {more : List ConnectionHappening}
    {last : ConnectionState}
    (attempted : Attempted topology n trace outcome later)
    (asked : askedNodes more = askedNodes trace)
    (unnoticed : ∀ topology : ClusterTopology, topology.Mirrors later → topology.Mirrors last) :
    Attempted topology n more outcome last := by
  obtain ⟨here, before, ended, clock, after, result, mirrors⟩ := attempted
  exact ⟨asked.trans here, before, ended, clock, after, result, unnoticed _ mirrors⟩

/-- Under the lock a node without a client is connected, or the attempt has failed. -/
private theorem ensures_connectIfNone
    {goal : List ConnectionHappening → Except Fault Unit → ConnectionState → Prop}
    (mirrors : topology.Mirrors state)
    (connected : ∀ trace later events, askedNodes trace = [] →
      (topology.applyAll events).Mirrors later → later.client n ≠ none →
        goal trace (.ok ()) later)
    (failed : ∀ trace fault later,
      AttemptedUnlessCancelled topology n trace (.error fault) later →
        goal trace (.error fault) later) :
    connectionLoop.Ensures querySurroundings task (connectIfNone n) goal state := by
  simp only [connectIfNone, clientOf, ensures_bind, ensures_gets, ensures_andThen_ok]
  by_cases unconnected : state.client n = none
  · rw [if_pos (by simp [unconnected])]
    simp only [connect, ensures_bind, ensures_attempt, ensures_await, ensures_andThen_ok]
    intro later outcome changed _ foreign
    obtain ⟨events, reached⟩ := changed.steps topology mirrors
    cases outcome with
    | ok answer =>
        simp only [ensures_emit]
        refine connected _ _ events rfl (reached.apply_quiet rfl) ?_
        simp [connectionLoop, ConnectionState.client, NodeObject.apply, NodeObject.client,
          Node.withClient]
    | error fault =>
        simp only
        split
        · next driverError =>
            simp only [ensures_bind, ensures_emit, ensures_andThen_ok, hostOf, ensures_gets,
              ensures_raise]
            refine failed _ _ _ (.inr ⟨rfl, events, .connectionError fault.message _,
              later.reading.wall, [], rfl, ?_⟩)
            exact reached.apply (.node n (.markDown fault.message))
        · next other =>
            simp only [ensures_raise]
            apply failed
            cases fault with
            | cancelled => exact .inl rfl
            | raised exception => exact absurd rfl (foreign exception)
            | driver error =>
                refine .inr ⟨rfl, events, .otherError error.message, later.reading.wall, [],
                  rfl, ?_⟩
                exact reached.unsettled fun _ => rfl
  · rw [if_neg (by simpa using unconnected)]
    exact connected [] state [] rfl mirrors unconnected

/-- A query gets a client, or the attempt has failed. -/
private theorem ensures_ensureClient
    {goal : List ConnectionHappening → Except Fault Nat → ConnectionState → Prop}
    (mirrors : topology.Mirrors state)
    (got : ∀ trace client later events, askedNodes trace = [] →
      (topology.applyAll events).Mirrors later → goal trace (.ok client) later)
    (failed : ∀ trace fault later,
      AttemptedUnlessCancelled topology n trace (.error fault) later →
        goal trace (.error fault) later) :
    connectionLoop.Ensures querySurroundings task (ensureClient n) goal state := by
  have finish : ∀ trace later events, askedNodes trace = [] →
      (topology.applyAll events).Mirrors later → later.client n ≠ none →
        connectionLoop.Ensures querySurroundings task (currentClient n)
          (fun more => goal (trace ++ more)) later := by
    intro trace later events asked reached connected
    obtain ⟨client, current⟩ := Option.ne_none_iff_exists'.mp connected
    simp only [currentClient, clientOf, ensures_bind, ensures_gets, ensures_andThen_ok, current,
      ensures_pure, List.append_nil]
    exact got trace client later events asked reached
  simp only [ensureClient, clientOf, ensures_bind, ensures_gets, ensures_andThen_ok]
  by_cases unconnected : state.client n = none
  · rw [if_pos (by simp [unconnected])]
    simp only [withClientLock, ensures_bind]
    apply ensures_withLock
    · refine ensures_connectIfNone (mirrors.apply_quiet rfl) ?_ ?_
      · intro trace later events asked reached connected
        refine finish _ _ events ?_ (reached.apply_quiet rfl) ?_
        · simpa [askedNode?] using asked
        · simpa [connectionLoop, ConnectionState.client] using connected
      · intro trace fault later ended
        apply failed
        refine ended.imp_right fun attempted => attempted.quiet ?_ fun _ reached =>
          reached.apply_quiet rfl
        simp [askedNode?]
    · intro before value changed _
      obtain ⟨events, reached⟩ := changed.steps topology (mirrors.apply_quiet rfl)
      refine ensures_connectIfNone (reached.apply_quiet rfl) ?_ ?_
      · intro trace later more asked reachedLater connected
        rw [← ClusterTopology.applyAll_append] at reachedLater
        refine finish _ _ (events ++ more) ?_ (reachedLater.apply_quiet rfl) ?_
        · simpa [askedNode?] using asked
        · simpa [connectionLoop, ConnectionState.client] using connected
      · intro trace fault later ended
        apply failed
        refine ended.imp_right fun attempted => attempted.of_applyAll.quiet ?_ fun _ reached =>
          reached.apply_quiet rfl
        simp [askedNode?]
    · intro before fault _ admitted
      apply failed
      cases fault with
      | cancelled => exact .inl rfl
      | driver error | raised exception => cases admitted
  · rw [if_neg (by simpa using unconnected)]
    exact finish [] state [] rfl mirrors unconnected

/-- Discarding the client changes nothing that the pool notices. -/
private theorem ensures_dropClient
    {own : Option Nat}
    {goal : List ConnectionHappening → Except Fault Unit → ConnectionState → Prop}
    (mirrors : topology.Mirrors state)
    (dropped : ∀ trace later events, askedNodes trace = [] →
      (topology.applyAll events).Mirrors later → goal trace (.ok ()) later)
    (cancelled : ∀ trace later, goal trace (.error .cancelled) later) :
    connectionLoop.Ensures querySurroundings task (dropClient n own) goal state := by
  simp only [dropClient, clientOf, ensures_bind, ensures_gets, ensures_andThen_ok]
  cases current : state.client n with
  | none => exact dropped [] state [] rfl mirrors
  | some client =>
      simp only [ensures_bind, ensures_emit, ensures_andThen_ok, ensures_attempt, ensures_await]
      intro later outcome changed _ _
      obtain ⟨events, reached⟩ := changed.steps topology (mirrors.apply_quiet rfl)
      cases outcome with
      | ok answer => exact dropped _ _ events rfl reached
      | error fault =>
          cases fault with
          | cancelled => exact cancelled _ _
          | driver error | raised exception => exact dropped _ _ events rfl reached

/-- Sending a query to a client changes nothing that the pool notices. -/
private theorem ensures_clientQuery
    {client : Nat}
    {sql : String}
    {timeout : Time}
    {goal : List ConnectionHappening → Except Fault QueryResultSet → ConnectionState → Prop}
    (mirrors : topology.Mirrors state)
    (answered : ∀ trace outcome later events, askedNodes trace = [n] →
      (topology.applyAll events).Mirrors later →
        (∀ exception, outcome ≠ .error (.raised exception)) → goal trace outcome later) :
    connectionLoop.Ensures querySurroundings task (clientQuery n client sql timeout) goal
      state := by
  simp only [clientQuery, ensures_bind, ensures_currentTask, ensures_andThen_ok, ensures_emit,
    ensures_attempt, ensures_await]
  intro later outcome changed _ foreign
  obtain ⟨events, reached⟩ := changed.steps topology (mirrors.apply_quiet rfl)
  exact answered _ outcome _ events rfl (reached.apply_quiet rfl) foreign

/-- A query of a node is an attempt on it. -/
theorem ensures_query
    {sql : String}
    {timeout : Time}
    {goal : List ConnectionHappening → Except Fault (List Row) → ConnectionState → Prop}
    (mirrors : topology.Mirrors state)
    (attempted : ∀ trace outcome later,
      AttemptedUnlessCancelled topology n trace outcome later → goal trace outcome later) :
    connectionLoop.Ensures querySurroundings task (query n sql timeout) goal state := by
  simp only [query, ensures_bind]
  refine ensures_ensureClient mirrors ?_ ?_
  · intro connected client before events unasked reached
    simp only [ensures_andThen_ok, ensures_bind, ensures_attempt]
    refine ensures_clientQuery reached ?_
    intro trace outcome later more asked reachedLater foreign
    rw [← ClusterTopology.applyAll_append] at reachedLater
    have asks : ∀ rest, askedNodes rest = [] → askedNodes (connected ++ (trace ++ rest)) = [n] := by
      intro rest quiet
      simp [unasked, asked, quiet]
    cases outcome with
    | ok result =>
        simp only [ensures_bind, ensures_emit, ensures_andThen_ok, ensures_pure]
        refine attempted _ _ _ (.inr ⟨asks _ rfl, events ++ more,
          .answered (Node.rowsOf result), later.reading.wall, [], rfl, ?_⟩)
        exact reachedLater.apply (.node n .markAlive)
    | error fault =>
        cases fault with
        | raised exception => exact absurd rfl (foreign exception)
        | cancelled => exact attempted _ _ _ (.inl rfl)
        | driver error =>
            simp only
            split
            · simp only [ensures_bind, ensures_emit, ensures_andThen_ok]
              have marked := reachedLater.apply (.node n (.markDown error.message))
              refine ensures_dropClient marked ?_ ?_
              · intro dropped last after quiet mirrorsLast
                simp only [ensures_andThen_ok, ensures_bind, hostOf, ensures_gets, ensures_raise]
                refine attempted _ _ _ (.inr ⟨asks _ ?_, events ++ more,
                  .connectionError error.message _, later.reading.wall, after, rfl, mirrorsLast⟩)
                simp [quiet, askedNode?]
              · exact fun dropped last => attempted _ _ _ (.inl rfl)
            · split
              · simp only [ensures_bind, hostOf, ensures_gets, ensures_andThen_ok, ensures_raise]
                refine attempted _ _ _ (.inr ⟨asks _ rfl, events ++ more, .queryError _,
                  later.reading.wall, [], rfl, ?_⟩)
                exact reachedLater.unsettled fun _ => rfl
              · refine attempted _ _ _ (.inr ⟨asks _ rfl, events ++ more,
                  .otherError error.message, later.reading.wall, [], rfl, ?_⟩)
                exact reachedLater.unsettled fun _ => rfl
  · intro trace fault later ended
    rw [ensures_andThen_error, List.append_nil]
    exact attempted trace (.error fault) later ended

end Attempted

/-! ## The failover loop -/

namespace Failover

/-- The pool when the loop ends, with its last attempt settled. -/
def ended (maxFailovers : Option Int) (state : Failover) : List DataAttempt → ClusterTopology
  | [] => state.topology
  | attempt :: rest =>
      match state.pick attempt with
      | none => state.topology
      | some node =>
          match attempt.outcome.result with
          | .error (.nodeConnectionError message) =>
              let failed := state.failOver node attempt message
              if isOverBudget maxFailovers failed.attempts then failed.topology
              else ended maxFailovers failed rest
          | _ => state.settle node attempt

/-- What a program of the event loop did is what the failover loop does under some
script of attempts: it asks the same nodes, its caller sees the same, and it leaves
the same pool. -/
def ReplayedBy
    (maxFailovers : Option Int)
    (failover : Failover)
    (trace : List ConnectionHappening)
    (outcome : Except Fault (List Row))
    (later : ConnectionState) : Prop :=
  ∃ script run, failover.loop maxFailovers script = some run ∧
    seen? outcome = some run.result ∧
    (run.attempts.map fun call => call.1.ident) = askedNodes trace ∧
    (failover.ended maxFailovers script).Mirrors later

/-- The last connection error, as the program keeps it. -/
def raised (failover : Failover) : Option Fault :=
  failover.lastError.map fun message => .raised (.nodeConnectionError message)

variable {maxFailovers : Option Int} {failover : Failover} {task n : Nat}
variable {state : ConnectionState}

/-- Nothing is left to try. -/
private theorem replayedBy_giveUp
    (mirrors : failover.topology.Mirrors state)
    (noneLeft : state.candidates failover.tried = []) :
    failover.ReplayedBy maxFailovers []
      (.error (failover.raised.getD (.raised state.noLiveNodes))) state := by
  have noCandidates : failover.topology.candidates failover.tried = [] := by
    rw [mirrors.candidates, noneLeft, List.map_nil]
  refine ⟨[], _, if_pos noCandidates, ?_, rfl, mirrors⟩
  rw [giveUp, raised, mirrors.noLiveNodes]
  cases failover.lastError <;> rfl

/-- An attempt of the failover loop on a picked node. -/
private theorem exists_attempt
    {choice : Nat}
    {trace : List ConnectionHappening}
    {outcome : Except Fault (List Row)}
    {later : ConnectionState}
    (mirrors : failover.topology.Mirrors state)
    (picked : (state.candidates failover.tried)[
      choice % (state.candidates failover.tried).length]? = some n)
    (attempted : Attempted failover.topology n trace outcome later) :
    ∃ attempt node, failover.pick attempt = some node ∧ node.ident = n ∧
      node.host = (state.node n).host ∧ seen? outcome = some attempt.outcome.result ∧
      (failover.settle node attempt).Mirrors later := by
  obtain ⟨_, before, ended, clock, after, result, settled⟩ := attempted
  have ident : (state.node n).health.ident = n := mirrors.idents n
  refine ⟨⟨choice, before, ended, clock, after⟩, (state.node n).health, ?_, ident, rfl, result, ?_⟩
  · rw [pick, mirrors.pickOneLive, picked]
    rfl
  · rw [settle, ident]
    exact settled

section Attempt

variable {trace more : List ConnectionHappening} {outcome : Except Fault (List Row)}
variable {later : ConnectionState} {attempt : DataAttempt} {node : Node} {message : String}

private theorem eq_of_seen?
    (seen : seen? outcome = some (.error (.nodeConnectionError message))) :
    outcome = .error (.raised (.nodeConnectionError message)) := by
  cases outcome with
  | ok rows => cases seen
  | error fault =>
      cases fault with
      | driver error | cancelled => cases seen
      | raised exception =>
          cases seen
          rfl

/-- An attempt that is no connection error ends the loop. -/
private theorem replayedBy_decided
    (picked : failover.pick attempt = some node)
    (seen : seen? outcome = some attempt.outcome.result)
    (decisive : ∀ message, outcome ≠ .error (.raised (.nodeConnectionError message)))
    (settled : (failover.settle node attempt).Mirrors later)
    (asked : askedNodes trace = [node.ident]) :
    failover.ReplayedBy maxFailovers trace outcome later := by
  refine ⟨[attempt], ⟨attempt.outcome.result, [(node, attempt.outcome)]⟩, ?_, seen,
    asked.symm, ?_⟩
  · simp only [loop, picked]
    cases ended : attempt.outcome with
    | connectionError recorded message =>
        rw [ended] at seen
        exact absurd (eq_of_seen? seen) (decisive message)
    | _ => rfl
  · simp only [Failover.ended, picked]
    cases ended : attempt.outcome with
    | connectionError recorded message =>
        rw [ended] at seen
        exact absurd (eq_of_seen? seen) (decisive message)
    | _ => exact settled

/-- A connection error that exceeds the budget ends the loop. -/
private theorem replayedBy_overBudget
    (picked : failover.pick attempt = some node)
    (result : attempt.outcome.result = .error (.nodeConnectionError message))
    (exceeded : isOverBudget maxFailovers (failover.attempts + 1) = true)
    (settled : (failover.settle node attempt).Mirrors later)
    (asked : askedNodes trace = [node.ident]) :
    failover.ReplayedBy maxFailovers trace (.error (.raised (.nodeConnectionError message)))
      later := by
  refine ⟨[attempt], ⟨.error (.nodeConnectionError message), [(node, attempt.outcome)]⟩, ?_,
    rfl, asked.symm, ?_⟩
  · simp only [loop, picked, result]
    exact if_pos exceeded
  · simp only [Failover.ended, picked, result]
    rw [if_pos (show isOverBudget maxFailovers (failover.failOver node attempt message).attempts =
      true from exceeded)]
    exact settled

/-- A connection error within the budget is followed by the rest of the loop. -/
private theorem replayedBy_failedOver
    (picked : failover.pick attempt = some node)
    (result : attempt.outcome.result = .error (.nodeConnectionError message))
    (within : isOverBudget maxFailovers (failover.attempts + 1) = false)
    (asked : askedNodes trace = [node.ident])
    (replayed : (failover.failOver node attempt message).ReplayedBy maxFailovers more outcome
      later) :
    failover.ReplayedBy maxFailovers (trace ++ more) outcome later := by
  obtain ⟨script, run, ran, seen, sameAsked, mirrors⟩ := replayed
  have goesOn : ¬isOverBudget maxFailovers (failover.failOver node attempt message).attempts =
      true := Bool.not_eq_true _ ▸ within
  refine ⟨attempt :: script, prepend (node, attempt.outcome) run, ?_, seen, ?_, ?_⟩
  · simp only [loop, picked, result]
    rw [if_neg goesOn, ran]
    rfl
  · rw [askedNodes_append, asked, ← sameAsked]
    rfl
  · simp only [Failover.ended, picked, result]
    rwa [if_neg goesOn]

end Attempt

/-- A pool node that a random choice picks exists. -/
private theorem lt_count_of_picked
    {position : Nat}
    (mirrors : failover.topology.Mirrors state)
    (picked : (state.candidates failover.tried)[position]? = some n) :
    n < state.count := by
  have tracked : n ∈ state.tracked := List.mem_of_mem_filter (List.mem_of_getElem? picked)
  obtain ⟨host, found⟩ := ConnectionState.mem_tracked_iff.mp tracked
  exact mirrors.built host n found

/-- A query of an existing node leaves the specification and the host of the node as
they are. -/
private theorem ensures_attempt_on
    {sql : String}
    {timeout : Time}
    {goal : List ConnectionHappening → Except Fault (List Row) → ConnectionState → Prop}
    (mirrors : failover.topology.Mirrors state)
    (built : n < state.count)
    (attempted : ∀ trace outcome later,
      AttemptedUnlessCancelled failover.topology n trace outcome later →
        later.spec = state.spec → (later.node n).host = (state.node n).host →
          goal trace outcome later) :
    connectionLoop.Ensures querySurroundings task (query n sql timeout) goal state := by
  have writes : (query n sql timeout).Writes fun _ => True :=
    writes_query (fun _ => trivial) sql timeout
  refine Ensures.frame state.Overtaken ?_ ?_ writes (.refl state) ?_
  · exact fun before after changed overtaken => overtaken.trans changed
  · exact fun effect before _ overtaken => overtaken.apply effect
  · apply Attempted.ensures_query mirrors
    exact fun trace outcome later ended overtaken =>
      attempted trace outcome later ended overtaken.spec (overtaken.host n built)

/-- The program of a data query is the failover loop. -/
theorem ensures_failOver
    (sql : String)
    (timeout : Time)
    (fuel : Nat)
    (mirrors : failover.topology.Mirrors state)
    (budget : state.spec.maxFailovers = maxFailovers) :
    connectionLoop.Ensures querySurroundings task
      (Promch.failOver sql timeout fuel failover.tried failover.attempts failover.raised)
      (fun trace outcome later => outcome = .error .cancelled ∨
        failover.ReplayedBy maxFailovers trace outcome later) state := by
  induction fuel generalizing failover state with
  | zero =>
      simp only [Promch.failOver, ensures_bind, ensures_await]
      intro later outcome _ admitted _
      cases admitted
  | succ fuel inductionHypothesis =>
      simp only [Promch.failOver, Promch.pickOneLive, ensures_bind, ensures_gets,
        ensures_andThen_ok]
      by_cases noneLeft : state.candidates failover.tried = []
      · rw [if_pos (List.isEmpty_iff.mpr noneLeft)]
        simp only [ensures_pure, ensures_andThen_ok, ensures_bind, ensures_gets, ensures_raise]
        exact .inr (replayedBy_giveUp mirrors noneLeft)
      · rw [if_neg (mt List.isEmpty_iff.mp noneLeft)]
        simp only [ensures_bind, ensures_gets, ensures_emit, ensures_andThen_ok, ensures_pure]
        have inside : state.picks state.picked % (state.candidates failover.tried).length <
            (state.candidates failover.tried).length :=
          Nat.mod_lt _ (List.length_pos_of_ne_nil noneLeft)
        obtain ⟨n, picked⟩ : ∃ n, (state.candidates failover.tried)[
            state.picks state.picked % (state.candidates failover.tried).length]? = some n :=
          ⟨_, List.getElem?_eq_getElem inside⟩
        have built : n < state.count := lt_count_of_picked mirrors picked
        have here : failover.topology.Mirrors (connectionLoop.apply .pick state) :=
          mirrors.apply_quiet rfl
        simp only [picked, ensures_bind, ensures_attempt]
        refine ensures_attempt_on here built ?_
        intro trace outcome later ended sameSpec sameHost
        obtain rfl | attempted := ended
        · exact .inl rfl
        obtain ⟨attempt, node, chosen, ident, host, seen, settled⟩ :=
          exists_attempt mirrors picked attempted
        have asked : askedNodes (.did .pick :: trace) = [node.ident] := by
          rw [ident, ← attempted.asked]
          rfl
        have decided : (∀ message, outcome ≠ .error (.raised (.nodeConnectionError message))) →
            failover.ReplayedBy maxFailovers (.did .pick :: trace) outcome later :=
          fun decisive => replayedBy_decided chosen seen decisive settled asked
        simp only [ensures_andThen_ok, List.nil_append, List.append_nil, List.cons_append]
        cases outcome with
        | ok rows =>
            simp only [ensures_pure, List.append_nil]
            refine .inr (decided ?_)
            rintro message ⟨⟩
        | error fault =>
            cases fault with
            | driver error | cancelled =>
                simp only [ensures_raise, List.append_nil]
                refine .inr (decided ?_)
                rintro message ⟨⟩
            | raised exception =>
                cases exception with
                | nodeConnectionError message =>
                    have result : attempt.outcome.result = .error (.nodeConnectionError message) :=
                      (Option.some.inj seen).symm
                    have sameBudget : later.spec.maxFailovers = maxFailovers :=
                      (congrArg (fun spec => spec.maxFailovers) sameSpec).trans budget
                    simp only [hostOf, ensures_bind, ensures_gets, ensures_andThen_ok, sameBudget]
                    cases within : isOverBudget maxFailovers (failover.attempts + 1) with
                    | true =>
                        simp only [if_true, ensures_raise, List.append_nil]
                        exact .inr (replayedBy_overBudget chosen result within settled asked)
                    | false =>
                        have tried : (later.node n).host = node.host := sameHost.trans host.symm
                        rw [tried]
                        have mirrorsLater :
                            (failover.failOver node attempt message).topology.Mirrors later :=
                          settled
                        have rest := inductionHypothesis mirrorsLater sameBudget
                        refine Ensures.mono rest ?_
                        rintro more outcome last (cancelled | replayed)
                        · exact .inl cancelled
                        · exact .inr (replayedBy_failedOver chosen result within asked replayed)
                | _ =>
                    simp only [ensures_raise, List.append_nil]
                    refine .inr (decided ?_)
                    rintro message ⟨⟩

end Failover

/-- Whatever the other tasks do to the connection at its awaits, a data query that is not
cancelled is a run of the failover loop on the pool that it starts with. -/
theorem dataQuery_replayedBy_failover
    {topology : ClusterTopology}
    {state : ConnectionState}
    {task fuel : Nat}
    {sql : String}
    {timeout : Time}
    {script : List ConnectionResumption}
    {run : Replayed ConnectionState ConnectionEffect ConnectionRequest ConnectionRequest.Answer
      Fault (List Row)}
    (mirrors : topology.Mirrors state)
    (within : ∀ resumption ∈ script, querySurroundings.Include resumption)
    (ran : connectionLoop.replay task (executeDataQuery sql timeout fuel) script state = some run)
    (uncancelled : run.outcome ≠ .error .cancelled) :
    Failover.ReplayedBy state.spec.maxFailovers { topology := topology } run.trace run.outcome
      run.state := by
  have ensures : connectionLoop.Ensures querySurroundings task (executeDataQuery sql timeout fuel)
      (fun trace outcome later => outcome = .error .cancelled ∨
        Failover.ReplayedBy state.spec.maxFailovers { topology := topology } trace outcome later)
      state := by
    have fresh : ({ topology := topology } : Failover).topology.Mirrors state := mirrors
    exact Failover.ensures_failOver sql timeout fuel fresh rfl
  exact (ensures.of_replay within ran).resolve_left uncancelled

/-- A connection with two live seeds. -/
def twoLiveSeeds : ConnectionState :=
  ((ConnectionState.create { seedHosts := ["a", "b"], clusterName := "c" }
    (fun reading => ⟨reading, reading⟩) fun _ => 0).apply (.node 0 .markAlive)).apply
      (.node 1 .markAlive)

/-- The first seed refuses the query while a third member is added; the second one
answers. -/
def refusedScript : List ConnectionResumption :=
  [{ request := .factory 0, outcome := .ok () },
   { meanwhile := ConnectionState.apply (.welcome "d")
     request := .query 0 0 "SELECT 1" 30
     outcome := .error (.driver (.transport "refused")) },
   { request := .close .drop 0 0, outcome := .ok () },
   { request := .factory 1, outcome := .ok () },
   { request := .query 1 0 "SELECT 1" 30, outcome := .ok ⟨["value"], [[.ofNat 1]]⟩ }]

theorem dataQuery_replayedBy_failover_after_refusal :
    ∃ run, connectionLoop.replay 0 (executeDataQuery "SELECT 1" 30 3) refusedScript
        twoLiveSeeds = some run ∧
      askedNodes run.trace = [0, 1] ∧
      ∃ topology : ClusterTopology, topology.Mirrors twoLiveSeeds ∧
        Failover.ReplayedBy none { topology := topology } run.trace run.outcome run.state := by
  have found : (connectionLoop.replay 0 (executeDataQuery "SELECT 1" 30 3) refusedScript
      twoLiveSeeds).any (fun run => askedNodes run.trace = [0, 1] ∧ run.outcome.isOk) = true := by
    decide +kernel
  obtain ⟨run, ran, shown⟩ := (Option.any_eq_true _ _).mp found
  obtain ⟨asked, answered⟩ := of_decide_eq_true shown
  have mirrors := ((ClusterTopology.Mirrors.create { seedHosts := ["a", "b"], clusterName := "c" }
    (fun reading => ⟨reading, reading⟩) fun _ => 0).apply (.node 0 .markAlive)).apply
      (.node 1 .markAlive)
  refine ⟨run, ran, asked, _, mirrors, dataQuery_replayedBy_failover mirrors ?_ ran ?_⟩
  · intro resumption member
    simp only [refusedScript, List.mem_cons, List.not_mem_nil, or_false] at member
    obtain rfl | rfl | rfl | rfl | rfl := member
    · exact ⟨fun state => .refl state, nofun⟩
    · exact ⟨fun state => (ConnectionState.Overtaken.refl state).apply (.welcome "d"), nofun⟩
    · exact ⟨fun state => .refl state, nofun⟩
    · exact ⟨fun state => .refl state, nofun⟩
    · exact ⟨fun state => .refl state, nofun⟩
  · intro cancelled
    rw [cancelled] at answered
    cases answered

end Promch
