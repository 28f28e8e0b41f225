import Promch.Clickhouse.DataQuery
import Promch.Handlers.Operations

/-!
# One execution of a query

An execution asks the connection, maps the rows and reports the outcome to the
collector.  Every exception of the connection and of the row mapping is turned
into a failure report with an error type.
-/

namespace Promch

/-- How an execution reports to the collector. -/
inductive ExecutionOutcome
  | success
      (rows : List QueryResult)
      (durationSeconds : Time)
      (failedNodes : Option (List String))
  | failure
      (errorType : ErrorType)
      (message : String)
      (failedNodes : Option (List String))

namespace ExecutionOutcome

/-- The report as an operation on the collector. -/
def op (outcome : ExecutionOutcome) (key : String) (tickTs now : Time) : HandlerOp :=
  match outcome with
  | .success rows durationSeconds failedNodes =>
      .update key rows durationSeconds tickTs failedNodes now
  | .failure errorType message failedNodes => .fail key errorType message failedNodes now

/-- The execution reports a success. -/
def isSuccess : ExecutionOutcome → Bool
  | .success _ _ _ => true
  | .failure _ _ _ => false

theorem key_op (outcome : ExecutionOutcome) (key : String) (tickTs now : Time) :
    (outcome.op key tickTs now).key = key := by
  cases outcome <;> rfl

end ExecutionOutcome

/-- The connection object of an execution. -/
structure ClickHouseConnection where
  spec : ConnectionSpec
  topology : ClusterTopology

/-- The failure report of an exception.  Only the absence of live nodes comes
with a node list: the members of a system query. -/
def reportRaised (raised : Raised) (members : Option (List String)) : ExecutionOutcome :=
  match raised with
  | .noLiveNodesError message => .failure .noLiveNodes message members
  | .nodeQueryError message => .failure .queryError message none
  | .valueError message => .failure .invalidResult message none
  | .nodeConnectionError message => .failure .queryError message none
  | .exception message => .failure .queryError message none

/-- The report of the returned rows. -/
def reportRows
    (raws : List Row)
    (failedNodes : List String)
    (durationSeconds : Time) : ExecutionOutcome :=
  match buildRows raws with
  | .ok rows => .success rows durationSeconds (some failedNodes)
  | .error raised => reportRaised raised none

/-- The report of a system query.  No node being live is found out before the
first await, so the members are those of the start. -/
def reportSystem
    (queried : Except Raised SystemQueryResult)
    (members : List String)
    (durationSeconds : Time) : ExecutionOutcome :=
  match queried with
  | .error raised => reportRaised raised (some members)
  | .ok result =>
      if result.rows.isEmpty && !result.failedNodes.isEmpty then
        .failure .nodesUnreachable
          ("all nodes failed: " ++ ", ".intercalate result.failedNodes) none
      else reportRows result.rows result.failedNodes durationSeconds

/-- The report of a data query, which has no node list. -/
def reportData
    (queried : Except Raised (List Row))
    (durationSeconds : Time) : ExecutionOutcome :=
  match queried with
  | .error raised => reportRaised raised none
  | .ok raws => reportRows raws [] durationSeconds

/-- What an execution meets while it awaits its connection. -/
structure Encounter where
  fanOut : List FanOutEvent := []
  script : List DataAttempt := []
  durationSeconds : Time

/-- How an execution ends. -/
inductive ExecutionEnd
  /-- The connection is not registered any more: a bare failure mark. -/
  | connectionGone (message : String)
  | reported (outcome : ExecutionOutcome)

/-- Run one execution; `none` while it is still awaiting. -/
def execute
    (config : OperatorConfig)
    (connRef : String)
    (queryType : QueryType)
    (connection : Option ClickHouseConnection)
    (encounter : Encounter) : Option ExecutionEnd :=
  match connection with
  | none => some (.connectionGone ("connection " ++ PyText.quoted connRef ++ " not found"))
  | some connection =>
      match queryType with
      | .system =>
          (connection.topology.executeSystemQuery config.nodeLabel encounter.fanOut).map
            fun queried => .reported
              (reportSystem queried connection.topology.memberHosts encounter.durationSeconds)
      | .data =>
          (connection.topology.executeDataQuery connection.spec.maxFailovers
            encounter.script).map
            fun run => .reported (reportData run.result encounter.durationSeconds)

/-- The collector after the end of an execution. -/
def ExecutionEnd.apply
    (config : OperatorConfig)
    (collector : Collector)
    (key : String)
    (tickTs now : Time) : ExecutionEnd → Collector
  | .connectionGone message =>
      collector.markFailure key .connectionNotReady message none now
  | .reported outcome => ((outcome.op key tickTs now).apply config collector).1

/-- A report changes a registered entry as its operation does. -/
theorem ExecutionOutcome.get?_apply_op
    {collector : Collector}
    {key : String}
    {entry : CachedMetric}
    (config : OperatorConfig)
    (outcome : ExecutionOutcome)
    (tickTs now : Time)
    (registered : collector.entries.get? key = some entry) :
    ((outcome.op key tickTs now).apply config collector).1.entries.get? key =
      (outcome.op key tickTs now).change config entry := by
  rw [get?_apply, if_pos (outcome.key_op key tickTs now).symm, registered]

/-! ## Which report a result leads to -/

/-- Rows within the contract are reported as a success. -/
theorem reportRows_of_meetsContract
    {raws : List Row}
    (contract : ∀ raw ∈ raws, MeetsContract raw)
    (failedNodes : List String)
    (durationSeconds : Time) :
    ∃ rows, buildRows raws = .ok rows ∧
      reportRows raws failedNodes durationSeconds =
        .success rows durationSeconds (some failedNodes) := by
  obtain ⟨rows, built⟩ := (buildRows_eq_ok_iff raws).mpr contract
  exact ⟨rows, built, by simp [reportRows, built]⟩

/-- A row outside the contract leads to a failure without a node list. -/
theorem reportRows_of_not_meetsContract
    {raws : List Row}
    (broken : ¬∀ raw ∈ raws, MeetsContract raw)
    (failedNodes : List String)
    (durationSeconds : Time) :
    ∃ errorType message,
      reportRows raws failedNodes durationSeconds = .failure errorType message none ∧
        (errorType = .invalidResult ∨ errorType = .queryError) := by
  cases built : buildRows raws with
  | ok rows => exact absurd ((buildRows_eq_ok_iff raws).mp ⟨rows, built⟩) broken
  | error raised =>
      obtain ⟨message, rfl⟩ | ⟨message, rfl⟩ := buildRows_eq_error built
      · exact ⟨.invalidResult, message, by simp [reportRows, built, reportRaised], .inl rfl⟩
      · exact ⟨.queryError, message, by simp [reportRows, built, reportRaised], .inr rfl⟩

/-- A system execution reports what its system query returned or raised. -/
theorem execute_of_reportSystem
    {config : OperatorConfig}
    {connection : ClickHouseConnection}
    {encounter : Encounter}
    {outcome : ExecutionOutcome}
    (connRef : String)
    (reported : (connection.topology.executeSystemQuery config.nodeLabel encounter.fanOut).map
      (fun queried => reportSystem queried connection.topology.memberHosts
        encounter.durationSeconds) = some outcome) :
    execute config connRef .system (some connection) encounter = some (.reported outcome) := by
  obtain ⟨queried, returned, rfl⟩ := Option.map_eq_some_iff.mp reported
  simp only [execute, returned, Option.map_some]

section System

variable {topology : ClusterTopology} {nodeLabel : String} {events : List FanOutEvent}
  {outcomes : List (Node × NodeOutcome)}

/-- The hosts that a completed fan-out knows to be missing. -/
def missingHosts
    (topology : ClusterTopology)
    (events : List FanOutEvent)
    (outcomes : List (Node × NodeOutcome)) : List String :=
  sortedSet (unreachableHosts outcomes ++ (topology.fanOut events).topology.downMembers)

/-- All answered rows are within the contract, the label column included. -/
def RowsAccepted (nodeLabel : String) (outcomes : List (Node × NodeOutcome)) : Prop :=
  LabelFree nodeLabel outcomes ∧ ∀ raw ∈ stampedRows nodeLabel outcomes, MeetsContract raw

/-- No row was answered, and some queried node failed or some member is down. -/
def NothingButMissing
    (topology : ClusterTopology)
    (events : List FanOutEvent)
    (outcomes : List (Node × NodeOutcome)) : Prop :=
  (∀ call ∈ outcomes, call.2.answer.getD [] = []) ∧
    ((∃ call ∈ outcomes, call.2.answer = none) ∨
      (topology.fanOut events).topology.downMembers ≠ [])

theorem mem_missingHosts_iff (host : String) :
    host ∈ missingHosts topology events outcomes ↔
      host ∈ unreachableHosts outcomes ∨
        host ∈ (topology.fanOut events).topology.downMembers := by
  rw [missingHosts, mem_sortedSet, List.mem_append]

/-- No row was answered exactly when every answer is empty. -/
theorem stampedRows_eq_nil_iff :
    stampedRows nodeLabel outcomes = [] ↔
      ∀ call ∈ outcomes, call.2.answer.getD [] = [] := by
  simp [stampedRows, List.flatMap_eq_nil_iff]

/-- Some host is missing exactly when a queried node failed or a member is
down. -/
theorem missingHosts_ne_nil_iff :
    missingHosts topology events outcomes ≠ [] ↔
      (∃ call ∈ outcomes, call.2.answer = none) ∨
        (topology.fanOut events).topology.downMembers ≠ [] := by
  have isMissing : ∀ host, host ∈ missingHosts topology events outcomes ↔
      host ∈ unreachableHosts outcomes ∨
        host ∈ (topology.fanOut events).topology.downMembers := mem_missingHosts_iff
  constructor
  · intro nonempty
    obtain ⟨host, missing⟩ := List.exists_mem_of_ne_nil _ nonempty
    obtain unreachable | down := (isMissing host).mp missing
    · obtain ⟨call, member, failed, -⟩ := (mem_unreachableHosts_iff _ _).mp unreachable
      exact .inl ⟨call, member, failed⟩
    · exact .inr (List.ne_nil_of_mem down)
  · rintro (⟨call, member, failed⟩ | down)
    · exact List.ne_nil_of_mem ((isMissing call.1.host).mpr
        (.inl ((mem_unreachableHosts_iff _ _).mpr ⟨call, member, failed, rfl⟩)))
    · obtain ⟨host, listed⟩ := List.exists_mem_of_ne_nil _ down
      exact List.ne_nil_of_mem ((isMissing host).mpr (.inr listed))

/-- The test of the execution on the merged result. -/
theorem allFailed_iff :
    ((stampedRows nodeLabel outcomes).isEmpty &&
        !(missingHosts topology events outcomes).isEmpty) = true ↔
      NothingButMissing topology events outcomes := by
  rw [NothingButMissing, ← stampedRows_eq_nil_iff, ← missingHosts_ne_nil_iff, Bool.and_eq_true,
    List.isEmpty_iff, Bool.not_eq_true', List.isEmpty_eq_false_iff]

/-- Without live nodes the members are reported. -/
theorem reportSystem_of_no_live
    (nodeLabel : String)
    (events : List FanOutEvent)
    (durationSeconds : Time)
    (noLive : topology.allLive = []) :
    (topology.executeSystemQuery nodeLabel events).map
        (fun queried => reportSystem queried topology.memberHosts durationSeconds) =
      some (.failure .noLiveNodes ("no live nodes for cluster " ++ topology.clusterName)
        (some topology.memberHosts)) := by
  rw [ClusterTopology.executeSystemQuery, if_pos noLive]
  rfl

/-- Without a label column the missing hosts and the rows decide the report. -/
private theorem reportSystem_of_labelFree
    (completed : topology.Completed events outcomes)
    (live : topology.allLive ≠ [])
    (labelFree : LabelFree nodeLabel outcomes)
    (durationSeconds : Time) :
    (topology.executeSystemQuery nodeLabel events).map
        (fun queried => reportSystem queried topology.memberHosts durationSeconds) =
      some (reportSystem
        (.ok { rows := stampedRows nodeLabel outcomes
               failedNodes := missingHosts topology events outcomes })
        topology.memberHosts durationSeconds) := by
  rw [ClusterTopology.executeSystemQuery_of_completed completed live,
    mergeAnswers_of_labelFree labelFree]
  rfl

/-- A completed fan-out with accepted rows is a success with the missing hosts,
unless nothing but missing hosts came back. -/
theorem reportSystem_of_accepted
    (completed : topology.Completed events outcomes)
    (live : topology.allLive ≠ [])
    (accepted : RowsAccepted nodeLabel outcomes)
    (something : ¬NothingButMissing topology events outcomes)
    (durationSeconds : Time) :
    ∃ rows, buildRows (stampedRows nodeLabel outcomes) = .ok rows ∧
      (topology.executeSystemQuery nodeLabel events).map
          (fun queried => reportSystem queried topology.memberHosts durationSeconds) =
        some (.success rows durationSeconds
          (some (missingHosts topology events outcomes))) := by
  obtain ⟨rows, built, reported⟩ := reportRows_of_meetsContract accepted.2
    (missingHosts topology events outcomes) durationSeconds
  refine ⟨rows, built, ?_⟩
  rw [reportSystem_of_labelFree completed live accepted.1 durationSeconds]
  have notAllFailed : ((stampedRows nodeLabel outcomes).isEmpty &&
      !(missingHosts topology events outcomes).isEmpty) = false := by
    rw [Bool.eq_false_iff]
    exact fun allFailed => something (allFailed_iff.mp allFailed)
  simp only [reportSystem, notAllFailed, Bool.false_eq_true, if_false, reported]

/-- Every other completed fan-out is a failure without a node list; the nodes
are reported as unreachable exactly when nothing but missing hosts came back. -/
theorem reportSystem_of_not_accepted
    (completed : topology.Completed events outcomes)
    (live : topology.allLive ≠ [])
    (notAccepted : ¬(RowsAccepted nodeLabel outcomes ∧
      ¬NothingButMissing topology events outcomes))
    (durationSeconds : Time) :
    ∃ errorType message,
      (topology.executeSystemQuery nodeLabel events).map
          (fun queried => reportSystem queried topology.memberHosts durationSeconds) =
        some (.failure errorType message none) ∧
      (errorType = .nodesUnreachable ↔ NothingButMissing topology events outcomes) := by
  by_cases labelFree : LabelFree nodeLabel outcomes
  · rw [reportSystem_of_labelFree completed live labelFree durationSeconds]
    by_cases nothing : NothingButMissing topology events outcomes
    · refine ⟨.nodesUnreachable,
        "all nodes failed: " ++ ", ".intercalate (missingHosts topology events outcomes),
        ?_, iff_of_true rfl nothing⟩
      have allFailed : ((stampedRows nodeLabel outcomes).isEmpty &&
          !(missingHosts topology events outcomes).isEmpty) = true := allFailed_iff.mpr nothing
      simp only [reportSystem, allFailed, if_true]
    · have broken : ¬∀ raw ∈ stampedRows nodeLabel outcomes, MeetsContract raw :=
        fun contract => notAccepted ⟨⟨labelFree, contract⟩, nothing⟩
      obtain ⟨errorType, message, reported, kind⟩ := reportRows_of_not_meetsContract broken
        (missingHosts topology events outcomes) durationSeconds
      have hasRows : (stampedRows nodeLabel outcomes).isEmpty = false := by
        rw [List.isEmpty_eq_false_iff]
        intro empty
        simp [empty] at broken
      refine ⟨errorType, message, ?_, iff_of_false ?_ nothing⟩
      · simp only [reportSystem, hasRows, Bool.false_and, Bool.false_eq_true, if_false, reported]
      · obtain rfl | rfl := kind <;> simp
  · obtain ⟨message, rejected⟩ := mergeAnswers_of_not_labelFree labelFree
    refine ⟨.queryError, message, ?_, iff_of_false (by simp) ?_⟩
    · rw [ClusterTopology.executeSystemQuery_of_completed completed live, rejected]
      rfl
    · -- A labelled row is an answered row.
      rintro ⟨noRows, -⟩
      refine labelFree fun call member row present => ?_
      rw [noRows call member] at present
      cases present

end System

end Promch
