import Promch.Clickhouse.Topology

/-!
# System queries

A system query fans out to the nodes that are live when it starts, waits for
all of them, and builds one result.  While it waits other activities change the
pool.  A run is the list of atomic steps between the start and the moment the
result is built: steps of other activities, and the settling of one fanned-out
node query.
-/

namespace Promch

/-- How one node query ends. -/
inductive NodeOutcome
  /-- The node answered. -/
  | answered (rows : List Row)
  /-- A connection-level failure: the recorded error and the raised message. -/
  | connectionError (lastError message : String)
  | queryError (message : String)
  | otherError (message : String)

namespace NodeOutcome

/-- What the node query returned or raised. -/
def result : NodeOutcome → Except Raised (List Row)
  | .answered rows => .ok rows
  | .connectionError _ message => .error (.nodeConnectionError message)
  | .queryError message => .error (.nodeQueryError message)
  | .otherError message => .error (.exception message)

/-- What the node query does to the health record of its node. -/
def change (clock : ClockReading) : NodeOutcome → NodeChange
  | .answered _ => .alive clock
  | .connectionError lastError _ => .down lastError clock
  | .queryError _ => ⟨id, fun _ => rfl⟩
  | .otherError _ => ⟨id, fun _ => rfl⟩

/-- Rows, or `none` if the node is unreachable; other failures propagate. -/
def runOnNode (outcome : NodeOutcome) : Except Raised (Option (List Row)) :=
  match outcome.result with
  | .ok rows => .ok (some rows)
  | .error (.nodeConnectionError _) => .ok none
  | .error raised => .error raised

/-- The exception that a fanned-out node query lets escape. -/
def escapes (outcome : NodeOutcome) : Option Raised :=
  match outcome.runOnNode with
  | .ok _ => none
  | .error raised => some raised

/-- The answer of a fanned-out node query that lets nothing escape. -/
def answer (outcome : NodeOutcome) : Option (List Row) :=
  match outcome.runOnNode with
  | .ok rows => rows
  | .error _ => none

theorem answer_eq_some_iff (outcome : NodeOutcome) (rows : List Row) :
    outcome.answer = some rows ↔ outcome = .answered rows := by
  cases outcome <;> simp [answer, runOnNode, result]

/-- An outcome that lets nothing escape is an answer or a connection error. -/
theorem answer_eq_none_iff {outcome : NodeOutcome} (quiet : outcome.escapes = none) :
    outcome.answer = none ↔ ∃ lastError message, outcome = .connectionError lastError message := by
  cases outcome <;> simp_all [answer, escapes, runOnNode, result]

end NodeOutcome

section Outcome

variable (node : Node) (clock : ClockReading)

/-- With a client a query has one of the outcomes, which accounts for
everything the pool can see of it. -/
private theorem Node.queryClient_outcome
    (reply : Except DriverError QueryResultSet) :
    ∃ outcome : NodeOutcome,
      (node.queryClient reply clock).2 = outcome.result ∧
        ∃ client, (node.queryClient reply clock).1 =
          ((outcome.change clock).change node).withClient client := by
  cases reply with
  | ok result => exact ⟨.answered (Node.rowsOf result), rfl, node.client, rfl⟩
  | error error =>
      cases error with
      | operational message | transport message =>
          exact ⟨.connectionError message _, rfl, none, rfl⟩
      | database message => exact ⟨.queryError _, rfl, node.client, rfl⟩
      | other message => exact ⟨.otherError _, rfl, node.client, rfl⟩

/-- Every query call of a node has one of the outcomes, which accounts for
everything the pool can see of the call. -/
theorem Node.query_outcome
    (connect : Except DriverError Nat)
    (reply : Except DriverError QueryResultSet) :
    ∃ outcome : NodeOutcome,
      (node.query connect reply clock).2 = outcome.result ∧
        ∃ client, (node.query connect reply clock).1 =
          ((outcome.change clock).change node).withClient client := by
  have connected : ∀ client,
      ∃ outcome : NodeOutcome,
        ((node.withClient client).queryClient reply clock).2 = outcome.result ∧
          ∃ held, ((node.withClient client).queryClient reply clock).1 =
            ((outcome.change clock).change node).withClient held := by
    intro client
    obtain ⟨outcome, result, held, state⟩ :=
      queryClient_outcome (node.withClient client) clock reply
    refine ⟨outcome, result, held, ?_⟩
    rw [state]
    cases outcome <;> rfl
  cases held : node.client with
  | some client =>
      have ready := connected (some client)
      rw [node.withClient_of_eq held] at ready
      simpa [Node.query, Node.ensureClient, held] using ready
  | none =>
      cases connect with
      | ok client =>
          simpa [Node.query, Node.ensureClient, held] using connected (some client)
      | error error =>
          cases error with
          | other message =>
              refine ⟨.otherError message, ?_, none, ?_⟩ <;>
                simp [Node.query, Node.ensureClient, held, NodeOutcome.result,
                  NodeOutcome.change, node.withClient_of_eq held,
                  DriverError.isProtocolError, DriverError.message]
          | operational message | database message | transport message =>
              refine ⟨.connectionError message
                (node.host ++ ": connect failed: " ++ message), ?_, none, ?_⟩ <;>
                simp [Node.query, Node.ensureClient, held, NodeOutcome.result,
                  NodeOutcome.change, NodeChange.down, Node.markDown,
                  Node.withClient, DriverError.isProtocolError, DriverError.message]

end Outcome

/-- The state of a system query between its start and its result. -/
structure FanOut where
  topology : ClusterTopology
  /-- The queried nodes in pool order, with the outcomes known so far. -/
  calls : List (Node × Option NodeOutcome)
  /-- The first exception that escaped a node query. -/
  raised : Option Raised := none

/-- One atomic step while the fan-out is awaited. -/
inductive FanOutEvent
  /-- Another activity changes the pool. -/
  | elsewhere (event : PoolEvent)
  /-- The query on the node at this position of the fan-out settles. -/
  | settled (position : Nat) (outcome : NodeOutcome) (clock : ClockReading)

/-- The fan-out after one atomic step; a node query settles once. -/
def FanOut.step (state : FanOut) (event : FanOutEvent) : FanOut :=
  match event with
  | .elsewhere event => { state with topology := state.topology.apply event }
  | .settled position outcome clock =>
      match state.calls[position]? with
      | some (node, none) =>
          { topology := state.topology.updateIdent node.ident (outcome.change clock)
            calls := state.calls.set position (node, some outcome)
            raised := state.raised.or outcome.escapes }
      | _ => state

/-- The outcomes of a fan-out, once all are known. -/
def gathered :
    List (Node × Option NodeOutcome) → Option (List (Node × NodeOutcome))
  | [] => some []
  | (node, some outcome) :: rest => (gathered rest).map ((node, outcome) :: ·)
  | (_, none) :: _ => none

/-- A row labelled with the host that returned it. -/
def stampRow (nodeLabel host : String) (row : Row) : Row :=
  row.set nodeLabel (.str host)

/-- Label the rows of one node; a row that already has the label column is
rejected. -/
def stampRows (nodeLabel host : String) : List Row → Except Raised (List Row)
  | [] => .ok []
  | row :: rest =>
      if nodeLabel ∈ row.keys then
        .error (.nodeQueryError
          ("query result uses reserved column " ++ PyText.quoted nodeLabel ++
            " on " ++ host))
      else (stampRows nodeLabel host rest).map (stampRow nodeLabel host row :: ·)

/-- Merge the answers in pool order: the labelled rows and the hosts that could
not be reached. -/
def mergeAnswers (nodeLabel : String) :
    List (Node × NodeOutcome) → Except Raised (List Row × List String)
  | [] => .ok ([], [])
  | (node, outcome) :: rest =>
      match outcome.answer with
      | none =>
          (mergeAnswers nodeLabel rest).map fun (rows, failed) =>
            (rows, node.host :: failed)
      | some nodeRows =>
          match stampRows nodeLabel node.host nodeRows with
          | .error raised => .error raised
          | .ok stamped =>
              (mergeAnswers nodeLabel rest).map fun (rows, failed) =>
                (stamped ++ rows, failed)

namespace ClusterTopology

/-- The members of the cluster as far as discovery knows; before the first
discovery every tracked node counts. -/
def isExpected (topology : ClusterTopology) (node : Node) : Bool :=
  node.inCluster || topology.lastDiscovery.isNone

/-- Members that are down, queried or not. -/
def downMembers (topology : ClusterTopology) : List String :=
  (topology.allNodes.filter fun node =>
    !node.alive && topology.isExpected node).map Node.host

/-- All known cluster-member hosts, or every tracked host if discovery has not
confirmed any membership. -/
def memberHosts (topology : ClusterTopology) : List String :=
  let nodes := topology.allNodes
  let members := (nodes.filter Node.inCluster).map Node.host
  (if members = [] then nodes.map Node.host else members).insertionSort (· ≤ ·)

/-- The fan-out of a system query over the currently live nodes, after the
given steps. -/
def fanOut (topology : ClusterTopology) (events : List FanOutEvent) : FanOut :=
  events.foldl FanOut.step
    { topology := topology
      calls := topology.allLive.map fun node => (node, none) }

/-- The message raised when no node can serve a query. -/
def noLiveNodes (topology : ClusterTopology) : Raised :=
  .noLiveNodesError ("no live nodes for cluster " ++ topology.clusterName)

/-- A system query run to the moment its result is built; `none` while some
node query is still outstanding. -/
def executeSystemQuery
    (topology : ClusterTopology)
    (nodeLabel : String)
    (events : List FanOutEvent) : Option (Except Raised SystemQueryResult) :=
  if topology.allLive = [] then some (.error topology.noLiveNodes)
  else
    let state := topology.fanOut events
    match state.raised, gathered state.calls with
    | some raised, _ => some (.error raised)
    | none, none => none
    | none, some outcomes =>
        some ((mergeAnswers nodeLabel outcomes).map fun (rows, failed) =>
          { rows := rows
            failedNodes := sortedSet (failed ++ state.topology.downMembers) })

end ClusterTopology

/-! ## What a fan-out collects -/

/-- The labelled rows of all answers, in pool order. -/
def stampedRows (nodeLabel : String) (outcomes : List (Node × NodeOutcome)) : List Row :=
  outcomes.flatMap fun call =>
    (call.2.answer.getD []).map (stampRow nodeLabel call.1.host)

/-- The hosts of the nodes that did not answer. -/
def unreachableHosts (outcomes : List (Node × NodeOutcome)) : List String :=
  (outcomes.filter fun call => call.2.answer.isNone).map fun call => call.1.host

/-- No answered row has the label column. -/
def LabelFree (nodeLabel : String) (outcomes : List (Node × NodeOutcome)) : Prop :=
  ∀ call ∈ outcomes, ∀ row ∈ call.2.answer.getD [], nodeLabel ∉ row.keys

theorem mem_unreachableHosts_iff
    (outcomes : List (Node × NodeOutcome))
    (host : String) :
    host ∈ unreachableHosts outcomes ↔
      ∃ call ∈ outcomes, call.2.answer = none ∧ call.1.host = host := by
  simp [unreachableHosts, and_assoc]

theorem stampRows_of_labelFree
    {nodeLabel host : String}
    {rows : List Row}
    (labelFree : ∀ row ∈ rows, nodeLabel ∉ row.keys) :
    stampRows nodeLabel host rows = .ok (rows.map (stampRow nodeLabel host)) := by
  induction rows with
  | nil => rfl
  | cons row rest inductionHypothesis =>
      have restFree := inductionHypothesis fun other member =>
        labelFree other (List.mem_cons_of_mem _ member)
      simp [stampRows, labelFree row, restFree, Except.map]

theorem stampRows_of_labelled
    (host : String)
    {nodeLabel : String}
    {rows : List Row}
    (labelled : ∃ row ∈ rows, nodeLabel ∈ row.keys) :
    ∃ message, stampRows nodeLabel host rows = .error (.nodeQueryError message) := by
  induction rows with
  | nil => simp at labelled
  | cons row rest inductionHypothesis =>
      by_cases head : nodeLabel ∈ row.keys
      · exact ⟨_, by rw [stampRows, if_pos head]⟩
      · obtain ⟨message, raised⟩ := inductionHypothesis (by simpa [head] using labelled)
        exact ⟨message, by simp [stampRows, head, raised, Except.map]⟩

/-- Without a label column the merge collects every answer. -/
theorem mergeAnswers_of_labelFree
    {nodeLabel : String}
    {outcomes : List (Node × NodeOutcome)}
    (labelFree : LabelFree nodeLabel outcomes) :
    mergeAnswers nodeLabel outcomes =
      .ok (stampedRows nodeLabel outcomes, unreachableHosts outcomes) := by
  induction outcomes with
  | nil => rfl
  | cons call rest inductionHypothesis =>
      obtain ⟨node, outcome⟩ := call
      have merged := inductionHypothesis fun other member =>
        labelFree other (List.mem_cons_of_mem _ member)
      cases answered : outcome.answer with
      | none =>
          simp [mergeAnswers, answered, merged, Except.map, stampedRows,
            unreachableHosts]
      | some rows =>
          have rowsFree := labelFree (node, outcome) List.mem_cons_self
          rw [answered, Option.getD_some] at rowsFree
          simp [mergeAnswers, answered, merged, Except.map, stampedRows,
            unreachableHosts, stampRows_of_labelFree rowsFree]

/-- One row with the label column rejects the whole result. -/
theorem mergeAnswers_of_not_labelFree
    {nodeLabel : String}
    {outcomes : List (Node × NodeOutcome)}
    (labelled : ¬LabelFree nodeLabel outcomes) :
    ∃ message, mergeAnswers nodeLabel outcomes = .error (.nodeQueryError message) := by
  induction outcomes with
  | nil => simp [LabelFree] at labelled
  | cons call rest inductionHypothesis =>
      obtain ⟨node, outcome⟩ := call
      by_cases restFree : LabelFree nodeLabel rest
      · have headLabelled : ∃ row ∈ outcome.answer.getD [], nodeLabel ∈ row.keys := by
          by_contra noneLabelled
          push Not at noneLabelled
          refine labelled fun other member => ?_
          obtain rfl | tail := List.mem_cons.mp member
          · exact noneLabelled
          · exact restFree other tail
        cases answered : outcome.answer with
        | none => simp [answered] at headLabelled
        | some rows =>
            rw [answered, Option.getD_some] at headLabelled
            obtain ⟨message, raised⟩ :=
              stampRows_of_labelled node.host headLabelled
            exact ⟨message, by simp [mergeAnswers, answered, raised]⟩
      · obtain ⟨message, raised⟩ := inductionHypothesis restFree
        cases answered : outcome.answer with
        | none => exact ⟨message, by simp [mergeAnswers, answered, raised, Except.map]⟩
        | some rows =>
            by_cases rowsFree : ∀ row ∈ rows, nodeLabel ∉ row.keys
            · refine ⟨message, ?_⟩
              simp [mergeAnswers, answered, raised, Except.map,
                stampRows_of_labelFree rowsFree]
            · push Not at rowsFree
              obtain ⟨message, raised⟩ :=
                stampRows_of_labelled node.host rowsFree
              exact ⟨message, by simp [mergeAnswers, answered, raised]⟩

/-- The outcomes are known once every call of the fan-out has settled. -/
theorem gathered_eq_some_iff
    {calls : List (Node × Option NodeOutcome)}
    {outcomes : List (Node × NodeOutcome)} :
    gathered calls = some outcomes ↔
      calls = outcomes.map fun call => (call.1, some call.2) := by
  induction calls generalizing outcomes with
  | nil =>
      cases outcomes <;> simp [gathered]
  | cons call rest inductionHypothesis =>
      obtain ⟨node, settled⟩ := call
      cases settled with
      | none =>
          cases outcomes <;> simp [gathered]
      | some outcome =>
          simp only [gathered, Option.map_eq_some_iff]
          constructor
          · rintro ⟨tail, found, rfl⟩
            simp [inductionHypothesis.mp found]
          · intro shape
            cases outcomes with
            | nil => simp at shape
            | cons head tail =>
                obtain ⟨headNode, headOutcome⟩ := head
                simp only [List.map_cons, List.cons.injEq, Prod.mk.injEq,
                  Option.some.injEq] at shape
                obtain ⟨⟨rfl, rfl⟩, restShape⟩ := shape
                exact ⟨tail, inductionHypothesis.mpr restShape, rfl⟩

/-! ## The steps of a fan-out -/

/-- A step keeps the queried nodes. -/
theorem FanOut.map_fst_calls_step
    (state : FanOut)
    (event : FanOutEvent) :
    (state.step event).calls.map Prod.fst = state.calls.map Prod.fst := by
  cases event with
  | elsewhere event => rfl
  | settled position outcome clock =>
      simp only [FanOut.step]
      split
      · next node found =>
          obtain ⟨inside, atPosition⟩ := List.getElem?_eq_some_iff.mp found
          rw [List.map_set]
          refine List.ext_getElem? fun index => ?_
          rw [List.getElem?_set]
          by_cases same : position = index
          · subst same
            simp [inside, atPosition]
          · rw [if_neg same]
      · rfl

/-- While nothing has escaped, every settled call stayed within its node. -/
def FanOut.Quiet (state : FanOut) : Prop :=
  state.raised = none →
    ∀ node outcome, (node, some outcome) ∈ state.calls → outcome.escapes = none

theorem FanOut.quiet_step
    {state : FanOut}
    (event : FanOutEvent)
    (quiet : state.Quiet) :
    (state.step event).Quiet := by
  cases event with
  | elsewhere event => exact quiet
  | settled position outcome clock =>
      simp only [FanOut.step]
      split
      · intro nothing node other member
        obtain ⟨before, now⟩ := Option.or_eq_none_iff.mp nothing
        obtain earlier | changed := List.mem_or_eq_of_mem_set member
        · exact quiet before node other earlier
        · cases changed
          exact now
      · exact quiet

namespace ClusterTopology

variable {topology : ClusterTopology} {nodeLabel : String} {events : List FanOutEvent}

theorem mem_downMembers_iff (topology : ClusterTopology) (host : String) :
    host ∈ topology.downMembers ↔
      ∃ node ∈ topology.allNodes,
        node.alive = false ∧ topology.isExpected node = true ∧ node.host = host := by
  simp [downMembers, and_assoc]

theorem map_fst_calls_fanOut (topology : ClusterTopology) (events : List FanOutEvent) :
    (topology.fanOut events).calls.map Prod.fst = topology.allLive :=
  List.foldlRecOn events FanOut.step
    (motive := fun state => state.calls.map Prod.fst = topology.allLive)
    (by simp [Function.comp_def])
    (fun state same event _ => (state.map_fst_calls_step event).trans same)

theorem quiet_fanOut (topology : ClusterTopology) (events : List FanOutEvent) :
    (topology.fanOut events).Quiet :=
  List.foldlRecOn events FanOut.step
    (motive := FanOut.Quiet)
    (by intro _ node outcome member; simp at member)
    (fun _ quiet event _ => FanOut.quiet_step event quiet)

/-- The fan-out has run to its end: every queried node has the listed outcome
and nothing has escaped. -/
structure Completed
    (topology : ClusterTopology)
    (events : List FanOutEvent)
    (outcomes : List (Node × NodeOutcome)) : Prop where
  calls : (topology.fanOut events).calls = outcomes.map fun call => (call.1, some call.2)
  raised : (topology.fanOut events).raised = none

namespace Completed

variable {outcomes : List (Node × NodeOutcome)}

/-- The outcomes of a completed fan-out cover the live nodes in pool order. -/
theorem map_fst (completed : topology.Completed events outcomes) :
    outcomes.map Prod.fst = topology.allLive := by
  rw [← map_fst_calls_fanOut topology events, completed.calls, List.map_map]
  rfl

/-- No host is queried twice. -/
theorem eq_of_host_eq
    (completed : topology.Completed events outcomes)
    {call other : Node × NodeOutcome}
    (member : call ∈ outcomes)
    (otherMember : other ∈ outcomes)
    (sameHost : call.1.host = other.1.host) :
    call = other := by
  have distinct : (outcomes.map fun call => call.1.host).Nodup := by
    have hosts := topology.nodup_hosts_allLive
    rwa [← completed.map_fst, List.map_map] at hosts
  exact List.inj_on_of_nodup_map distinct member otherMember sameHost

/-- In a completed fan-out no outcome escaped. -/
theorem escapes_eq_none
    (completed : topology.Completed events outcomes)
    {node : Node}
    {outcome : NodeOutcome}
    (member : (node, outcome) ∈ outcomes) :
    outcome.escapes = none := by
  refine quiet_fanOut topology events completed.raised node outcome ?_
  rw [completed.calls]
  exact List.mem_map_of_mem member

/-- In a completed fan-out the nodes without an answer are those that failed
with a connection error. -/
theorem answer_eq_none_iff
    (completed : topology.Completed events outcomes)
    {call : Node × NodeOutcome}
    (member : call ∈ outcomes) :
    call.2.answer = none ↔
      ∃ lastError message, call.2 = .connectionError lastError message :=
  NodeOutcome.answer_eq_none_iff (completed.escapes_eq_none member)

end Completed

/-- What a completed system query returns. -/
theorem executeSystemQuery_of_completed
    {outcomes : List (Node × NodeOutcome)}
    (completed : topology.Completed events outcomes)
    (live : topology.allLive ≠ []) :
    topology.executeSystemQuery nodeLabel events =
      some ((mergeAnswers nodeLabel outcomes).map fun (rows, failed) =>
        { rows := rows
          failedNodes :=
            sortedSet (failed ++ (topology.fanOut events).topology.downMembers) }) := by
  simp only [executeSystemQuery, if_neg live, completed.raised,
    gathered_eq_some_iff.mpr completed.calls]

/-- A system query that returns a result completed its fan-out without a label
column; the result holds every answer and every host known to be missing. -/
theorem executeSystemQuery_eq_ok
    {result : SystemQueryResult}
    (returned : topology.executeSystemQuery nodeLabel events = some (.ok result)) :
    ∃ outcomes, topology.Completed events outcomes ∧
      LabelFree nodeLabel outcomes ∧
      result.rows = stampedRows nodeLabel outcomes ∧
      result.failedNodes =
        sortedSet (unreachableHosts outcomes ++
          (topology.fanOut events).topology.downMembers) := by
  by_cases live : topology.allLive = []
  · simp [executeSystemQuery, live] at returned
  cases raised : (topology.fanOut events).raised with
  | some exception => simp [executeSystemQuery, live, raised] at returned
  | none =>
      cases settled : gathered (topology.fanOut events).calls with
      | none => simp [executeSystemQuery, live, raised, settled] at returned
      | some outcomes =>
          have completed : topology.Completed events outcomes :=
            ⟨gathered_eq_some_iff.mp settled, raised⟩
          rw [executeSystemQuery_of_completed completed live] at returned
          by_cases labelFree : LabelFree nodeLabel outcomes
          · rw [mergeAnswers_of_labelFree labelFree] at returned
            cases returned
            exact ⟨outcomes, completed, labelFree, rfl, rfl⟩
          · obtain ⟨message, rejected⟩ := mergeAnswers_of_not_labelFree labelFree
            simp [rejected, Except.map] at returned

end ClusterTopology

end Promch
